import GameBalance.Decimal.Numeral
import GameBalance.Proofs.Decimal.ReadBack
import Mathlib.Data.List.Basic
import Mathlib.Tactic.IntervalCases

namespace GameBalance

namespace Decimal

theorem ne_of_isDigit {c d : Char} (hc : c.isDigit = true) (hd : d.isDigit = false) :
    c ≠ d := fun same =>
  Bool.noConfusion ((same ▸ hc).symm.trans hd)

theorem head?_digitsOf (h : n ≠ 0) : (digitsOf n).head? ≠ some '0' := by
  induction n using Nat.strongRecOn with
  | ind n ih =>
    rw [digitsOf]
    by_cases small : n < 10
    · rw [Nat.toDigits_of_lt_base small]
      interval_cases n <;> first | exact absurd rfl h | decide
    · have first : (Nat.toDigits 10 (n / 10) ++ [(n % 10).digitChar]).head? =
          (Nat.toDigits 10 (n / 10)).head? :=
        List.head?_append_of_ne_nil _ Nat.toDigits_ne_nil
      rw [Nat.toDigits_of_base_le (by decide) (Nat.le_of_not_lt small), first]
      exact ih (n / 10) (by omega) (by omega)

theorem digitsOf_eq_singleton_or (n : Nat) :
    digitsOf n = ['0'] ∨ (digitsOf n).head? ≠ some '0' := by
  by_cases zero : n = 0
  · subst zero
    exact .inl rfl
  · exact .inr (head?_digitsOf zero)

theorem magnitude_point {n k : Nat} (h : magnitude ⟨n, k⟩ < Double.infinity) :
    magnitude ⟨n * 10 ^ k * 10, -1⟩ = magnitude ⟨n, k⟩ := by
  rw [← magnitude_scale n k h]
  by_cases zero : n * 10 ^ k = 0
  · rw [zero]
    simp only [magnitude, Nat.zero_mul, if_true]
  have ne : n * 10 ^ k * 10 ≠ 0 := Nat.mul_ne_zero zero (by decide)
  simp only [magnitude, if_neg zero, if_neg ne]
  rw [if_neg (by omega), if_neg (by omega), if_neg (by omega), if_neg (by omega), if_neg (by omega),
    if_pos (by omega)]
  have places : (10 : Nat) ^ (-(-1 : Int)).toNat = 1 * 10 := rfl
  rw [places, Double.nearest_mul_right (by decide), Int.toNat_zero, Nat.pow_zero, Nat.mul_one]

end Decimal

namespace Numeral

def fractionText (fraction : List Char) : List Char :=
  if fraction.isEmpty then [] else '.' :: fraction

def exponentText (plus : List Char) (exponent : Option Int) : List Char :=
  match exponent with
  | none => []
  | some e => 'e' :: if e < 0 then '-' :: Decimal.digitsOf e.natAbs
      else plus ++ Decimal.digitsOf e.natAbs

theorem text_eq (plus : List Char) (n : Numeral) : n.text plus =
    Decimal.signed n.negative
      (n.whole ++ (fractionText n.fraction ++ exponentText plus n.exponent)) := by
  rw [text, List.append_assoc]
  rfl

structure WellFormed (n : Numeral) : Prop where
  isDigit_whole : ∀ c ∈ n.whole, c.isDigit = true
  isDigit_fraction : ∀ c ∈ n.fraction, c.isDigit = true
  whole_ne_nil : n.whole ≠ []
  leading : n.whole = ['0'] ∨ n.whole.head? ≠ some '0'

theorem wellFormed_ofInt (i : Int) : (ofInt i).WellFormed where
  isDigit_whole _ hc := Decimal.isDigit_of_mem_digitsOf hc
  isDigit_fraction _ hc := absurd hc List.not_mem_nil
  whole_ne_nil := Nat.toDigits_ne_nil
  leading := Decimal.digitsOf_eq_singleton_or _

section Float

variable {x : Float}

theorem digits_shortest_ne_zero (h : x.isFinite = true) (pos : Double.magnitude x ≠ 0) :
    (Decimal.shortest Double.halfEven (Double.magnitude x)).digits ≠ 0 := fun zero => by
  have back := Decimal.magnitude_shortest Double.halfEven pos (Double.isFinite_iff.1 h)
  rw [Decimal.magnitude, if_pos zero] at back
  exact pos back.symm

theorem wellFormed_ofFloat (h : x.isFinite = true) : (ofFloat x).WellFormed := by
  have zeros : ∀ {n}, ∀ c ∈ Decimal.zeros n, c.isDigit = true :=
    fun c hc => Decimal.isDigit_of_mem_zeros hc
  have zero : ∀ c ∈ ['0'], c.isDigit = true := zeros (n := 1)
  rw [ofFloat]
  split
  · exact ⟨zero, zero, List.cons_ne_nil _ _, .inl rfl⟩
  rename_i pos
  have digits := digits_shortest_ne_zero h pos
  generalize Decimal.shortest Double.halfEven (Double.magnitude x) = d at digits ⊢
  have isDigit : ∀ c ∈ Decimal.digitsOf d.digits, c.isDigit = true :=
    fun c hc => Decimal.isDigit_of_mem_digitsOf hc
  have ne : Decimal.digitsOf d.digits ≠ [] := Nat.toDigits_ne_nil
  have leading := Decimal.head?_digitsOf digits
  have length : 0 < (Decimal.digitsOf d.digits).length := List.length_pos_iff.2 ne
  -- the digits before the point are the first ones
  have cut : ∀ {k} negative exponent, 0 < k → WellFormed
      ⟨negative, (Decimal.digitsOf d.digits).take k, (Decimal.digitsOf d.digits).drop k,
        exponent⟩ := fun _ _ hk =>
    { isDigit_whole := fun c hc => isDigit c (List.mem_of_mem_take hc)
      isDigit_fraction := fun c hc => isDigit c (List.mem_of_mem_drop hc)
      whole_ne_nil := by simp [ne, Nat.ne_of_gt hk]
      leading := .inr (by rwa [List.head?_take, if_neg (Nat.ne_of_gt hk)]) }
  dsimp only
  split
  · exact cut _ _ Nat.one_pos
  · split
    · exact ⟨zero, fun c hc => (List.mem_append.1 hc).elim (zeros c) (isDigit c),
        List.cons_ne_nil _ _, .inl rfl⟩
    · split
      · exact ⟨fun c hc => (List.mem_append.1 hc).elim (isDigit c) (zeros c), zero,
          List.append_ne_nil_of_left_ne_nil ne _,
          .inr ((List.head?_append_of_ne_nil _ ne).symm ▸ leading)⟩
      · exact cut _ _ (by omega)

theorem negative_ofFloat (x : Float) : (ofFloat x).negative = Double.isNegative x := by
  rw [ofFloat]
  dsimp only
  repeat' split
  all_goals rfl

theorem magnitude_decimal_ofFloat (h : x.isFinite = true) :
    (ofFloat x).decimal.magnitude = Double.magnitude x := by
  have bound := Double.isFinite_iff.1 h
  rw [ofFloat]
  split
  · rename_i zero
    rw [zero]
    rfl
  rename_i pos
  have back := Decimal.magnitude_shortest Double.halfEven pos bound
  generalize Decimal.shortest Double.halfEven (Double.magnitude x) = d at back ⊢
  obtain ⟨n, e⟩ := d
  have value := Decimal.valueOf_digitsOf n
  have length : 0 < (Decimal.digitsOf n).length := List.length_pos_iff.2 Nat.toDigits_ne_nil
  -- where the point is moved, the exponent makes up for it
  have cut : ∀ {k negative exponent}, k ≤ (Decimal.digitsOf n).length →
      exponent.getD 0 - (((Decimal.digitsOf n).length - k : Nat) : Int) = e →
      (decimal ⟨negative, (Decimal.digitsOf n).take k, (Decimal.digitsOf n).drop k,
        exponent⟩).magnitude =
        Double.magnitude x := fun hk eq => by
    rw [decimal, Decimal.ofDigits, List.take_append_drop, value, List.length_drop, eq, back]
  dsimp only
  split
  · exact cut (by omega) (by simp only [Option.getD_some]; omega)
  · split
    · have places :
          ((Decimal.zeros (-(e + (Decimal.digitsOf n).length)).toNat ++ Decimal.digitsOf n).length :
            Int) = -e := by
        rw [List.length_append, Decimal.zeros, List.length_replicate]
        omega
      have digits :
          Decimal.valueOf
          (['0'] ++
            (Decimal.zeros (-(e + (Decimal.digitsOf n).length)).toNat ++ Decimal.digitsOf n)) =
            n := by
        rw [show ['0'] = Decimal.zeros 1 from rfl, Decimal.valueOf_zeros_append,
          Decimal.valueOf_zeros_append, value]
      rw [decimal, Decimal.ofDigits, places, digits, Option.getD_none, Int.zero_sub,
        Int.neg_neg, back]
    · split
      · rename_i nonneg
        obtain ⟨k, rfl⟩ := Int.eq_ofNat_of_zero_le nonneg
        have digits : Decimal.valueOf (Decimal.digitsOf n ++ Decimal.zeros k ++ ['0']) =
            n * 10 ^ k * 10 := by
          rw [show ['0'] = Decimal.zeros 1 from rfl, Decimal.valueOf_append_zeros,
            Decimal.valueOf_append_zeros, value, Nat.pow_one]
        rw [Int.toNat_natCast, decimal, Decimal.ofDigits, digits]
        exact (Decimal.magnitude_point (by rwa [back])).trans back
      · exact cut (by omega) (by simp only [Option.getD_none]; omega)

theorem toFloat_ofFloat (h : x.isFinite = true) :
    (ofFloat x).decimal.toFloat (ofFloat x).negative = x := by
  rw [Decimal.toFloat, magnitude_decimal_ofFloat h, negative_ofFloat]
  exact (Double.eq_ofMagnitude (Double.isFinite_iff.1 h)).symm

end Float

end Numeral
end GameBalance
