import GameBalance.Proofs.Decimal.Numeral
import Mathlib.Data.List.TakeWhile

namespace GameBalance.Decimal

theorem toLower_of_isDigit {c : Char} (h : c.isDigit = true) : c.toLower = c := by
  have digit := Char.isDigit_iff_toNat.1 h
  refine dif_neg fun upper => ?_
  have big : 65 ≤ c.toNat := UInt32.le_iff_toNat_le.1 upper.1
  change 48 ≤ c.toNat ∧ c.toNat ≤ 57 at digit
  omega

theorem unsigned?_eq {cs : List Char} (negative : Bool)
    (h : ∀ c ∈ cs.head?, c.isDigit = true ∨ c = '.') :
    unsigned? negative cs = (scientific? cs).map (toFloat negative) := by
  have word : ∀ w : String, String.ofList (cs.map Char.toLower) = w →
      ∀ d ∈ w.toList.head?, d.isDigit = true ∨ d = '.' := by
    rintro w rfl d hd
    rw [String.toList_ofList, List.head?_map, Option.mem_map] at hd
    obtain ⟨c, hc, rfl⟩ := hd
    obtain digit | rfl := h c hc
    · rw [toLower_of_isDigit digit]
      exact .inl digit
    · exact .inr rfl
  rw [unsigned?]
  split
  · exact absurd (word _ ‹_› 'i' rfl) (by decide)
  · exact absurd (word _ ‹_› 'i' rfl) (by decide)
  · exact absurd (word _ ‹_› 'n' rfl) (by decide)
  · rfl

theorem integer?_digitsOf (n : Nat) : integer? (digitsOf n) = some (n : Int) ∧
    integer? ('-' :: digitsOf n) = some (-(n : Int)) := by
  have ne : digitsOf n ≠ [] := Nat.toDigits_ne_nil
  have digits : ∀ c ∈ digitsOf n, c.isDigit = true := fun c hc => isDigit_of_mem_digitsOf hc
  have natural : ¬((digitsOf n).isEmpty = true ∨ ¬(digitsOf n).all Char.isDigit = true) := by
    simpa [ne] using digits
  constructor
  · obtain ⟨c, ds, eq⟩ := List.exists_cons_of_ne_nil ne
    have digit : c.isDigit = true := digits c (eq ▸ List.mem_cons_self)
    rw [integer?.eq_def]
    split
    · rename_i same
      exact absurd (List.cons.inj (eq.symm.trans same)).1 (ne_of_isDigit digit rfl)
    · rename_i same
      exact absurd (List.cons.inj (eq.symm.trans same)).1 (ne_of_isDigit digit rfl)
    · simp only [if_neg natural, valueOf_digitsOf]
      rfl
  · simp only [integer?, if_neg natural, valueOf_digitsOf]
    rfl

section Numeral

variable {n : Numeral} (h : n.WellFormed)
include h

theorem split?_mantissa :
    split? (n.whole ++ Numeral.fractionText n.fraction) = some (n.whole, n.fraction) := by
  rw [Numeral.fractionText]
  split
  · rename_i empty
    rw [List.append_nil, split?_digits h.whole_ne_nil h.isDigit_whole, List.isEmpty_iff.1 empty]
  · exact split?_point h.whole_ne_nil h.isDigit_whole h.isDigit_fraction

theorem isExponentMark_mantissa :
    ∀ c ∈ n.whole ++ Numeral.fractionText n.fraction, isExponentMark c = false := by
  have digit : ∀ c : Char, c.isDigit = true → isExponentMark c = false := fun c hc => by
    simp [isExponentMark, ne_of_isDigit hc]
  have point : isExponentMark '.' = false := rfl
  intro c hc
  rw [Numeral.fractionText] at hc
  obtain hc | hc := List.mem_append.1 hc
  · exact digit c (h.isDigit_whole c hc)
  · split at hc
    · cases hc
    · obtain rfl | hc := List.mem_cons.1 hc
      · exact point
      · exact digit c (h.isDigit_fraction c hc)

theorem scientific?_text :
    scientific?
      (n.whole ++ (Numeral.fractionText n.fraction ++ Numeral.exponentText [] n.exponent)) =
    some n.decimal := by
  have marks : ∀ c ∈ n.whole ++ Numeral.fractionText n.fraction, (!isExponentMark c) = true :=
    fun c hc => by
    rw [isExponentMark_mantissa h c hc]
    rfl
  have mark : isExponentMark 'e' = true := rfl
  rw [← List.append_assoc, scientific?, List.takeWhile_append_of_pos marks,
    List.dropWhile_append_of_pos marks]
  cases exponent : n.exponent with
  | none =>
    simp only [Numeral.exponentText, List.takeWhile_nil, List.dropWhile_nil, List.append_nil,
      split?_mantissa h, Option.bind_some, Numeral.decimal, exponent, Option.getD_none]
  | some e =>
    have value : integer? (if e < 0 then '-' :: digitsOf e.natAbs else [] ++ digitsOf e.natAbs) =
        some e := by
      split
      · rename_i negative
        rw [(integer?_digitsOf _).2, Int.ofNat_natAbs_of_nonpos (Int.le_of_lt negative),
          Int.neg_neg]
      · rename_i nonneg
        rw [List.nil_append, (integer?_digitsOf _).1, Int.natAbs_of_nonneg (Int.not_lt.1 nonneg)]
    have stop : (!isExponentMark 'e') = false := rfl
    simp only [Numeral.exponentText, List.takeWhile_cons, List.dropWhile_cons, stop,
      Bool.false_eq_true, if_false, List.append_nil, split?_mantissa h, Option.bind_some, value,
      Option.map_some, Numeral.decimal, exponent, Option.getD_some]

theorem unsigned?_text (negative : Bool) : unsigned? negative
    (n.whole ++ (Numeral.fractionText n.fraction ++ Numeral.exponentText [] n.exponent)) =
      some (n.decimal.toFloat negative) := by
  obtain ⟨c, cs, whole⟩ := List.exists_cons_of_ne_nil h.whole_ne_nil
  have digit : c.isDigit = true := h.isDigit_whole c (whole ▸ List.mem_cons_self)
  have first :
      ∀ d ∈ (n.whole ++
        (Numeral.fractionText n.fraction ++ Numeral.exponentText [] n.exponent)).head?,
      d.isDigit = true ∨ d = '.' := by
    rw [whole]
    intro d hd
    cases hd
    exact .inl digit
  rw [unsigned?_eq negative first, scientific?_text h]
  rfl

theorem number?_text : number? (n.text []) = some (n.decimal.toFloat n.negative) := by
  have unsigned := unsigned?_text h n.negative
  rw [Numeral.text_eq]
  cases sign : n.negative with
  | true =>
    rw [sign] at unsigned
    rw [signed, if_pos rfl, number?, unsigned]
  | false =>
    rw [sign] at unsigned
    obtain ⟨c, cs, whole⟩ := List.exists_cons_of_ne_nil h.whole_ne_nil
    have digit : c.isDigit = true := h.isDigit_whole c (whole ▸ List.mem_cons_self)
    rw [signed, if_neg Bool.false_ne_true]
    rw [whole, List.cons_append] at unsigned ⊢
    rw [number?.eq_3, unsigned]
    · exact fun _ same => ne_of_isDigit digit rfl (List.cons.inj same).1
    · exact fun _ same => ne_of_isDigit digit rfl (List.cons.inj same).1

end Numeral

section Run

def IsNumber (run : List Char) : Prop :=
  run.any Char.isDigit = true ∧ run.count '.' ≤ 1

instance : DecidablePred IsNumber := fun run =>
  inferInstanceAs (Decidable (run.any Char.isDigit = true ∧ run.count '.' ≤ 1))

def ofRun (run : List Char) : Decimal :=
  ofDigits (run.takeWhile (· ≠ '.')) (run.dropWhile (· ≠ '.')).tail 0

variable {run : List Char} (h : ∀ c ∈ run, c.isDigit = true ∨ c = '.')
include h

theorem count_eq_zero_iff : run.count '.' = 0 ↔ run.all Char.isDigit = true := by
  rw [List.count_eq_zero, List.all_eq_true]
  constructor
  · intro none c hc
    exact (h c hc).resolve_right fun point => none (point ▸ hc)
  · exact fun digits point => absurd (digits _ point) (by decide)

omit h in
theorem any_isDigit (digits : ∀ c ∈ run, c.isDigit = true) :
    run.any Char.isDigit = true ↔ run ≠ [] := by
  cases run with
  | nil => simp
  | cons c cs => simp [digits c List.mem_cons_self]

omit h in
theorem run_cases (h : ∀ c ∈ run, c.isDigit = true ∨ c = '.') : (∀ c ∈ run, c.isDigit = true) ∨
    ∃ whole rest, run = whole ++ '.' :: rest ∧ ∀ c ∈ whole, c.isDigit = true := by
  induction run with
  | nil => exact .inl fun c hc => absurd hc List.not_mem_nil
  | cons c cs ih =>
    obtain ⟨first, others⟩ := List.forall_mem_cons.1 h
    obtain digit | rfl := first
    · obtain digits | ⟨whole, rest, rfl, digits⟩ := ih others
      · exact .inl (List.forall_mem_cons.2 ⟨digit, digits⟩)
      · exact .inr ⟨c :: whole, rest, rfl, List.forall_mem_cons.2 ⟨digit, digits⟩⟩
    · exact .inr ⟨[], cs, rfl, fun c hc => absurd hc List.not_mem_nil⟩

theorem split?_run : split? run =
    if IsNumber run then some (run.takeWhile (· ≠ '.'), (run.dropWhile (· ≠ '.')).tail)
      else none := by
  have before {ds : List Char} (digits : ∀ c ∈ ds, c.isDigit = true) : ∀ c ∈ ds,
      decide (c ≠ '.') = true :=
    fun c hc => decide_eq_true (ne_of_isDigit (digits c hc) rfl)
  obtain digits | ⟨whole, rest, rfl, digits⟩ := run_cases h
  · rw [List.takeWhile_eq_self_iff.2 (before digits), List.dropWhile_eq_nil_iff.2 (before digits)]
    have none : run.count '.' = 0 := (count_eq_zero_iff h).2 (List.all_eq_true.2 digits)
    cases run with
    | nil => rfl
    | cons c cs =>
      rw [split?_digits (List.cons_ne_nil c cs) digits, if_pos]
      · rfl
      · exact ⟨List.any_eq_true.2 ⟨c, List.mem_cons_self, digits c List.mem_cons_self⟩, by omega⟩
  · have point : '.'.isDigit = false := rfl
    have number : IsNumber (whole ++ '.' :: rest) ↔ rest.all Char.isDigit = true ∧
        ¬(whole = [] ∧ rest = []) := by
      have none : whole.count '.' = 0 :=
        List.count_eq_zero.2 fun mem => ne_of_isDigit (digits _ mem) rfl rfl
      have fraction :=
        count_eq_zero_iff fun c hc => h c (List.mem_append_right _ (List.mem_cons_of_mem _ hc))
      rw [IsNumber, List.count_append, none, List.count_cons_self, List.any_append, List.any_cons,
        point, Bool.false_or, Bool.or_eq_true, any_isDigit digits, ← fraction]
      constructor
      · rintro ⟨some, le⟩
        have zero : rest.count '.' = 0 := by omega
        rw [any_isDigit (List.all_eq_true.1 (fraction.1 zero))] at some
        exact ⟨zero, fun ⟨left, right⟩ => some.elim (· left) (· right)⟩
      · rintro ⟨zero, some⟩
        rw [any_isDigit (List.all_eq_true.1 (fraction.1 zero))]
        exact ⟨not_and_or.1 some, by omega⟩
    rw [List.takeWhile_append_of_pos (before digits),
      List.dropWhile_append_of_pos (before digits), split?, List.takeWhile_append_of_pos digits,
      List.dropWhile_append_of_pos digits]
    simp [point, number]

theorem scientific?_run :
    scientific? run = (split? run).map fun parts => ofDigits parts.1 parts.2 0 := by
  have marks : ∀ c ∈ run, (!isExponentMark c) = true := by
    intro c hc
    obtain digit | rfl := h c hc
    · simp [isExponentMark, ne_of_isDigit digit]
    · rfl
  rw [scientific?, List.takeWhile_eq_self_iff.2 marks, List.dropWhile_eq_nil_iff.2 marks]
  cases split? run <;> rfl

theorem number?_run : number? run = numeral? run := by
  have first : ∀ c ∈ run.head?, c.isDigit = true ∨ c = '.' :=
    fun c hc => h c (List.mem_of_mem_head? hc)
  have unsigned : unsigned? false run = numeral? run := by
    rw [unsigned?_eq false first, scientific?_run h, numeral?, Option.map_map]
    rfl
  rw [number?.eq_3, unsigned]
  · rintro cs rfl
    exact absurd (first '-' rfl) (by decide)
  · rintro cs rfl
    exact absurd (first '+' rfl) (by decide)

theorem number?_eq :
    number? run = if IsNumber run then some ((ofRun run).toFloat false) else none := by
  rw [number?_run h, numeral?, split?_run h]
  split <;> rfl

end Run

end GameBalance.Decimal
