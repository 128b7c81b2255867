import GameBalance.Proofs.Decimal.Numeral
import GameBalance.Proofs.Double.Millionths
import Mathlib.Data.List.DropRight

namespace GameBalance.Decimal

section Trailing

variable {c d : Char}

theorem dropTrailing_concat_same (c : Char) (cs : List Char) :
    dropTrailing c (cs ++ [c]) = dropTrailing c cs :=
  List.rdropWhile_concat_pos (· == c) cs c (beq_self_eq_true c)

theorem dropTrailing_concat (cs : List Char) (ne : d ≠ c) :
    dropTrailing c (cs ++ [d]) = cs ++ [d] :=
  List.rdropWhile_concat_neg (· == c) cs d (by simpa using ne)

theorem dropTrailing_append (cs ds : List Char) (ne : d ≠ c) :
    dropTrailing c (cs ++ d :: ds) = cs ++ d :: dropTrailing c ds := by
  induction ds using List.reverseRecOn with
  | nil => exact dropTrailing_concat cs ne
  | append_singleton ds e ih =>
    have assoc : cs ++ d :: (ds ++ [e]) = cs ++ d :: ds ++ [e] := by simp
    rw [assoc]
    by_cases same : e = c
    · subst same
      rw [dropTrailing_concat_same, dropTrailing_concat_same, ih]
    · rw [dropTrailing_concat _ same, dropTrailing_concat _ same, assoc]

theorem dropTrailing_zeros (cs : List Char) : ∃ n, cs = dropTrailing '0' cs ++ zeros n := by
  refine ⟨(cs.rtakeWhile (· == '0')).length, ?_⟩
  have same : cs.rtakeWhile (· == '0') = zeros (cs.rtakeWhile (· == '0')).length :=
    List.eq_replicate_of_mem fun d hd => by simpa using List.mem_rtakeWhile_imp hd
  rw [← same]
  exact List.rdropWhile_append_rtakeWhile.symm

theorem getLast?_dropTrailing (c : Char) (cs : List Char) :
    (dropTrailing c cs).getLast? ≠ some c := by
  intro last
  obtain ⟨ne, eq⟩ := List.mem_getLast?_eq_getLast last
  exact List.rdropWhile_last_not (· == c) cs ne (beq_iff_eq.2 eq.symm)

end Trailing

def padded (n : Nat) : List Char :=
  zeros (7 - (digitsOf n).length) ++ digitsOf n

def wholePart (n : Nat) : List Char :=
  (padded n).take ((padded n).length - 6)

def sixPlaces (n : Nat) : List Char :=
  (padded n).drop ((padded n).length - 6)

def ofMillionths (negative : Bool) (n : Nat) : Numeral :=
  ⟨negative && n ≠ 0, wholePart n, dropTrailing '0' (sixPlaces n), none⟩

theorem isDigit_of_mem_padded (h : c ∈ padded n) : c.isDigit = true :=
  (List.mem_append.1 h).elim isDigit_of_mem_zeros isDigit_of_mem_digitsOf

theorem length_padded (n : Nat) : 7 ≤ (padded n).length := by
  rw [padded, List.length_append, zeros, List.length_replicate]
  omega

theorem valueOf_padded (n : Nat) : valueOf (padded n) = n := by
  rw [padded, valueOf_zeros_append, valueOf_digitsOf]

theorem wholePart_append (n : Nat) : wholePart n ++ sixPlaces n = padded n :=
  List.take_append_drop _ _

theorem length_sixPlaces (n : Nat) : (sixPlaces n).length = 6 := by
  have := length_padded n
  rw [sixPlaces, List.length_drop]
  omega

theorem isDigit_of_mem_sixPlaces (h : c ∈ sixPlaces n) : c.isDigit = true :=
  isDigit_of_mem_padded (List.mem_of_mem_drop h)

theorem leading_wholePart (n : Nat) : wholePart n = ['0'] ∨ (wholePart n).head? ≠ some '0' := by
  rw [wholePart]
  by_cases few : (digitsOf n).length ≤ 6
  · obtain ⟨k, places⟩ : ∃ k, 7 - (digitsOf n).length = k + 1 := ⟨6 - (digitsOf n).length, by omega⟩
    have first : padded n = '0' :: (zeros k ++ digitsOf n) := by
      rw [padded, places]
      rfl
    have cut : (padded n).length - 6 = 1 := by
      rw [padded, List.length_append, zeros, List.length_replicate]
      omega
    rw [cut, first]
    exact .inl rfl
  · have same : padded n = digitsOf n := by
      rw [padded, Nat.sub_eq_zero_of_le (by omega)]
      rfl
    have ne : n ≠ 0 := by
      rintro rfl
      exact few (by decide)
    rw [same, List.head?_take, if_neg (by omega)]
    exact .inr (head?_digitsOf ne)

theorem mem_of_mem_dropTrailing (h : d ∈ dropTrailing c cs) : d ∈ cs :=
  (List.rdropWhile_prefix (· == c) cs).mem h

theorem wellFormed_ofMillionths (negative : Bool) (n : Nat) :
    (ofMillionths negative n).WellFormed where
  isDigit_whole c hc := isDigit_of_mem_padded (List.mem_of_mem_take hc)
  isDigit_fraction c hc := isDigit_of_mem_sixPlaces (mem_of_mem_dropTrailing hc)
  whole_ne_nil := by
    have := length_padded n
    apply List.ne_nil_of_length_pos
    rw [ofMillionths, wholePart, List.length_take]
    omega
  leading := leading_wholePart n

theorem length_fraction_le (negative : Bool) (n : Nat) :
    (ofMillionths negative n).fraction.length ≤ 6 := by
  rw [← length_sixPlaces n]
  exact (List.rdropWhile_prefix _ _).length_le

theorem valueOf_ofMillionths (negative : Bool) (n : Nat) :
    valueOf ((ofMillionths negative n).whole ++ (ofMillionths negative n).fraction) *
      10 ^ (6 - (ofMillionths negative n).fraction.length) = n := by
  obtain ⟨k, zeros⟩ := dropTrailing_zeros (sixPlaces n)
  have places : 6 - (ofMillionths negative n).fraction.length = k := by
    have length := congrArg List.length zeros
    rw [length_sixPlaces, List.length_append, Decimal.zeros, List.length_replicate] at length
    change 6 - (dropTrailing '0' _).length = k
    omega
  rw [places, ← valueOf_append_zeros, List.append_assoc, ofMillionths, ← zeros, wholePart_append,
    valueOf_padded]

theorem signed_append (negative : Bool) (cs ds : List Char) :
    signed negative (cs ++ ds) = signed negative cs ++ ds := by
  cases negative <;> rfl

theorem dropTrailing_point (negative : Bool) {whole fraction : List Char} (hw : whole ≠ [])
    (dw : ∀ c ∈ whole, c.isDigit = true) (df : ∀ c ∈ fraction, c.isDigit = true) :
    dropTrailing '.' (signed negative (whole ++ '.' :: fraction)) =
      signed negative (whole ++ Numeral.fractionText fraction) := by
  rw [signed_append, signed_append]
  obtain rfl | ⟨ds, d, rfl⟩ := List.eq_nil_or_concat' fraction
  · obtain ⟨ds, d, rfl⟩ := (List.eq_nil_or_concat' whole).resolve_left hw
    have last : d ≠ '.' := ne_of_isDigit (dw d (by simp)) rfl
    rw [dropTrailing_concat_same, signed_append, dropTrailing_concat _ last]
    exact (List.append_nil _).symm
  · have last : d ≠ '.' := ne_of_isDigit (df d (by simp)) rfl
    have text : Numeral.fractionText (ds ++ [d]) = '.' :: (ds ++ [d]) := by
      simp [Numeral.fractionText]
    have assoc : signed negative whole ++ '.' :: (ds ++ [d]) = signed negative whole ++ '.' :: ds ++
        [d] := by simp
    rw [text, assoc, dropTrailing_concat _ last]

theorem signed_eq_minus_zero (negative : Bool) (n : Nat) :
    signed negative (wholePart n ++ Numeral.fractionText (dropTrailing '0' (sixPlaces n))) =
      ['-', '0'] ↔
      negative = true ∧ n = 0 := by
  have formed := wellFormed_ofMillionths negative n
  constructor
  · intro text
    obtain ⟨c, cs, whole⟩ := List.exists_cons_of_ne_nil formed.whole_ne_nil
    change wholePart n = c :: cs at whole
    cases negative with
    | false =>
      rw [whole] at text
      obtain ⟨rfl, -⟩ := List.cons.inj text
      cases formed.isDigit_whole '-' (List.mem_of_mem_head? (congrArg List.head? whole))
    | true =>
      have rest := (List.cons.inj text).2
      rw [whole, List.cons_append] at rest
      obtain ⟨rfl, tail⟩ := List.cons.inj rest
      obtain ⟨rfl, fraction⟩ := List.append_eq_nil_iff.1 tail
      have none : dropTrailing '0' (sixPlaces n) = [] := by
        rw [Numeral.fractionText] at fraction
        split at fraction
        · rename_i empty
          exact List.isEmpty_iff.1 empty
        · cases fraction
      have value := valueOf_ofMillionths true n
      have zero : valueOf (['0'] ++ []) = 0 := rfl
      rw [ofMillionths, whole, none, zero, Nat.zero_mul] at value
      exact ⟨rfl, value.symm⟩
  · rintro ⟨rfl, rfl⟩
    decide

theorem places_eq (x : Float) : places 6 x = signed (Double.isNegative x)
    (wholePart (Double.halfEven (Double.units x * 10 ^ 6) Double.one) ++ '.' ::
      sixPlaces (Double.halfEven (Double.units x * 10 ^ 6) Double.one)) :=
  rfl

theorem text_ofMillionths (negative : Bool) (n : Nat) : (ofMillionths negative n).text [] =
    signed (negative && n ≠ 0)
      (wholePart n ++ Numeral.fractionText (dropTrailing '0' (sixPlaces n))) := by
  rw [Numeral.text_eq]
  exact congrArg (signed _) (congrArg _ (List.append_nil _))

theorem text_ne_minus_zero (negative : Bool) (n : Nat) :
    (ofMillionths negative n).text [] ≠ ['-', '0'] := by
  rw [text_ofMillionths]
  intro text
  obtain ⟨sign, rfl⟩ := (signed_eq_minus_zero _ n).1 text
  simp at sign

theorem trimmed_places (x : Float) :
    (if dropTrailing '.' (dropTrailing '0' (places 6 x)) = ['-', '0'] then ['0']
      else dropTrailing '.' (dropTrailing '0' (places 6 x))) =
    (ofMillionths (Double.isNegative x) (Double.halfEven (Double.units x * 10 ^ 6) Double.one)).text
      [] := by
  rw [places_eq]
  generalize Double.halfEven (Double.units x * 10 ^ 6) Double.one = n
  generalize Double.isNegative x = negative
  have formed := wellFormed_ofMillionths negative n
  have point : dropTrailing '0' (signed negative (wholePart n ++ '.' :: sixPlaces n)) =
      signed negative (wholePart n ++ '.' :: dropTrailing '0' (sixPlaces n)) := by
    rw [signed_append, dropTrailing_append _ _ (by decide), signed_append]
  have text :
      dropTrailing '.' (signed negative (wholePart n ++ '.' :: dropTrailing '0' (sixPlaces n))) =
      signed negative (wholePart n ++ Numeral.fractionText (dropTrailing '0' (sixPlaces n))) :=
    dropTrailing_point negative formed.whole_ne_nil formed.isDigit_whole formed.isDigit_fraction
  rw [point, text, text_ofMillionths]
  by_cases zero : negative = true ∧ n = 0
  · rw [if_pos ((signed_eq_minus_zero negative n).2 zero)]
    obtain ⟨rfl, rfl⟩ := zero
    decide
  · rw [if_neg fun text => zero ((signed_eq_minus_zero negative n).1 text)]
    have sign : (negative && n ≠ 0) = negative := by
      cases negative with
      | false => rfl
      | true => simpa using zero
    rw [sign]

def value (d : Decimal) : ℚ :=
  d.digits * 10 ^ d.exponent

end Decimal

def Numeral.value (n : Numeral) : ℚ :=
  if n.negative then -n.decimal.value else n.decimal.value

/-- The number that a finite double is. -/
def Double.value (x : Float) : ℚ :=
  if isNegative x then -(units x / one) else units x / one

namespace Decimal

theorem value_ofMillionths (negative : Bool) (n : Nat) :
    (ofMillionths negative n).value = if negative then -(n / 10 ^ 6 : ℚ) else n / 10 ^ 6 := by
  have digits : (ofMillionths negative n).decimal.value = n / 10 ^ 6 := by
    have value := valueOf_ofMillionths negative n
    have places : (10 : ℚ) ^ 6 = 10 ^ (6 - (ofMillionths negative n).fraction.length) *
        10 ^ (ofMillionths negative n).fraction.length := by
      rw [← pow_add, Nat.sub_add_cancel (length_fraction_le negative n)]
    have exponent : (ofMillionths negative n).exponent.getD 0 = 0 := rfl
    have shift : (10 : ℚ) ^ (6 - (ofMillionths negative n).fraction.length) ≠ 0 := by positivity
    rw [Decimal.value, Numeral.decimal, ofDigits, exponent, zero_sub, zpow_neg, zpow_natCast,
      places, ← div_eq_mul_inv]
    generalize valueOf ((ofMillionths negative n).whole ++ (ofMillionths negative n).fraction) =
      digits at value ⊢
    generalize (ofMillionths negative n).fraction.length = length at value shift ⊢
    rw [← value, Nat.cast_mul, Nat.cast_pow, Nat.cast_ofNat, mul_comm (digits : ℚ),
      mul_div_mul_left _ _ shift]
  rw [Numeral.value, digits]
  cases negative with
  | false => rfl
  | true =>
    by_cases zero : n = 0
    · subst zero
      simp
    · have sign : (ofMillionths true n).negative = true := by simp [ofMillionths, zero]
      rw [sign]

theorem abs_sub_le {X T O : Nat} (pos : 0 < O) (below : X * 10 ^ 6 ≤ T * O + O)
    (above : T * O ≤ X * 10 ^ 6 + O) :
    |(T / 10 ^ 6 : ℚ) - X / O| ≤ 1 / 10 ^ 6 := by
  have pos : (0 : ℚ) < O := Nat.cast_pos.2 pos
  have below : (X * 10 ^ 6 : ℚ) ≤ T * O + O := by exact_mod_cast below
  have above : (T * O : ℚ) ≤ X * 10 ^ 6 + O := by exact_mod_cast above
  rw [abs_sub_le_iff]
  constructor
  · rw [sub_le_iff_le_add, div_add_div _ _ (by positivity) (by positivity),
      div_le_div_iff₀ (by positivity) (by positivity)]
    nlinarith
  · rw [sub_le_iff_le_add, div_add_div _ _ (by positivity) (by positivity),
      div_le_div_iff₀ (by positivity) (by positivity)]
    nlinarith

theorem abs_sub_ofMillionths {x : Float} {n : Nat}
    (below : Double.units x * 10 ^ 6 ≤ n * Double.one + Double.one)
    (above : n * Double.one ≤ Double.units x * 10 ^ 6 + Double.one) :
    |(ofMillionths (Double.isNegative x) n).value - Double.value x| ≤ 1 / 10 ^ 6 := by
  rw [value_ofMillionths, Double.value]
  split
  · rw [neg_sub_neg, abs_sub_comm]
    exact abs_sub_le Double.one_pos below above
  · exact abs_sub_le Double.one_pos below above

theorem div_mul_lt_iff {X O : Nat} (pos : 0 < O) :
    (X / O : ℚ) * 10 ^ 6 < 2 ^ 53 ↔ X * 10 ^ 6 < 2 ^ 53 * O := by
  have pos : (0 : ℚ) < O := Nat.cast_pos.2 pos
  rw [div_mul_eq_mul_div, div_lt_iff₀ pos]
  exact_mod_cast Iff.rfl

theorem abs_value (x : Float) : |Double.value x| = Double.units x / Double.one := by
  have least : (0 : ℚ) ≤ Double.units x / Double.one :=
    div_nonneg (Nat.cast_nonneg _) (Nat.cast_nonneg _)
  rw [Double.value]
  split
  · rw [abs_neg, abs_of_nonneg least]
  · exact abs_of_nonneg least

theorem abs_value_lt_iff (x : Float) :
    |Double.value x| * 10 ^ 6 < 2 ^ 53 ↔ Double.units x * 10 ^ 6 < 2 ^ 53 * Double.one := by
  rw [abs_value, div_mul_lt_iff Double.one_pos]

section Brief

variable {a : Nat} (negative : Bool)

theorem isFinite_ofMagnitude (h : a < Double.infinity) :
    (Double.ofMagnitude negative a).isFinite = true :=
  Double.isFinite_iff.2 ((Double.magnitude_ofMagnitude negative h).symm ▸ h)

theorem brief_of_finite (ha : a < Double.infinity) (finite : Double.scaled a < Double.infinity) :
    brief (Double.ofMagnitude negative a) = (ofMillionths negative (Double.shown a)).text [] := by
  have regained := Double.regained_lt finite
  have rounded : Double.roundAway (Double.ofMagnitude negative a * 1e6) / 1e6 =
      Double.ofMagnitude negative (Double.regained a) := by
    rw [Double.mul_million negative ha, Double.round_million finite]
  have text := trimmed_places (Double.ofMagnitude negative (Double.regained a))
  rw [Double.isNegative_ofMagnitude negative regained, Double.units,
    Double.magnitude_ofMagnitude negative regained] at text
  rw [brief, if_pos (isFinite_ofMagnitude negative ha), rounded,
    if_pos (isFinite_ofMagnitude negative regained)]
  exact text

theorem round_infinity :
    (Double.ofMagnitude negative Double.infinity).isFinite = false ∧
    (Double.roundAway (Double.ofMagnitude negative Double.infinity) / 1e6).isFinite = false ∧
    plain (Double.roundAway (Double.ofMagnitude negative Double.infinity) / 1e6) =
      signed negative "inf".toList := by
  revert negative
  decide +kernel

theorem brief_of_infinite (ha : a < Double.infinity)
    (infinite : ¬Double.scaled a < Double.infinity) :
    brief (Double.ofMagnitude negative a) = signed negative "inf".toList := by
  have overflow : Double.scaled a = Double.infinity :=
    Nat.le_antisymm (Nat.min_le_left _ _) (Nat.le_of_not_lt infinite)
  obtain ⟨-, rounded, text⟩ := round_infinity negative
  rw [brief, if_pos (isFinite_ofMagnitude negative ha), Double.mul_million negative ha, overflow]
  dsimp only
  rw [if_neg (Bool.eq_false_iff.1 rounded), text]

theorem isFinite_scaled : (Double.ofMagnitude negative (Double.scaled a)).isFinite = true ↔
    Double.scaled a < Double.infinity := by
  constructor
  · intro h
    refine Nat.lt_of_le_of_ne (Nat.min_le_left _ _) fun same => ?_
    rw [same, (round_infinity negative).1] at h
    cases h
  · exact isFinite_ofMagnitude negative

end Brief

/--
A finite double is shown in full to the millionth, or only as infinite, if its millionfold is.
-/
theorem brief_faithful {x : Float} (h : x.isFinite = true) :
    ((x * 1e6).isFinite = true → ∃ n : Numeral, brief x = n.text [] ∧ n.WellFormed ∧
      n.exponent = none ∧
      n.fraction.length ≤ 6 ∧ n.fraction.getLast? ≠ some '0' ∧ brief x ≠ ['-', '0'] ∧
      (|Double.value x| * 10 ^ 6 < 2 ^ 53 → |n.value - Double.value x| ≤ 1 / 10 ^ 6)) ∧
    ((x * 1e6).isFinite = false → brief x = signed (Double.isNegative x) "inf".toList) := by
  have ha := Double.isFinite_iff.1 h
  have eq := Double.eq_ofMagnitude ha
  have product : x * 1e6 =
      Double.ofMagnitude (Double.isNegative x) (Double.scaled (Double.magnitude x)) := by
    rw [← Double.mul_million _ ha, ← eq]
  rw [product]
  constructor
  · intro finite
    have finite := (isFinite_scaled _).1 finite
    have text := brief_of_finite (Double.isNegative x) ha finite
    rw [← eq] at text
    refine ⟨_, text, wellFormed_ofMillionths _ _, rfl, length_fraction_le _ _,
      getLast?_dropTrailing _ _, ?_, ?_⟩
    · exact text ▸ text_ne_minus_zero _ _
    · intro few
      obtain ⟨below, above⟩ := Double.shown_error finite ((abs_value_lt_iff x).1 few)
      exact abs_sub_ofMillionths below above
  · intro infinite
    have text := brief_of_infinite (Double.isNegative x) ha
      fun finite => Bool.eq_false_iff.1 infinite ((isFinite_scaled _).2 finite)
    rwa [← eq] at text

theorem brief_faithful_negative :
    ∃ n : Numeral, brief (-0.123456789) = n.text [] ∧ n.text [] = "-0.123457".toList ∧
    |n.value - Double.value (-0.123456789)| ≤ 1 / 10 ^ 6 := by
  obtain ⟨n, text, -, -, -, -, -, near⟩ :=
    (brief_faithful (x := -0.123456789) (by decide +kernel)).1 (by decide +kernel)
  have shown : brief (-0.123456789) = "-0.123457".toList := by decide +kernel
  exact ⟨n, text, text ▸ shown, near ((abs_value_lt_iff _).2 (by decide +kernel))⟩

/-- `2 ^ 1010` is shown as infinite, and `9007199254.765625` with other digits. -/
theorem brief_unfaithful :
    (Double.ofMagnitude false (2033 * 2 ^ 52)).isFinite = true ∧
    brief (Double.ofMagnitude false (2033 * 2 ^ 52)) = "inf".toList ∧
    Double.units 9007199254.765625 * 10 ^ 6 = 9007199254765625 * Double.one ∧
    brief 9007199254.765625 = "9007199254.765623".toList := by
  decide +kernel

end GameBalance.Decimal
