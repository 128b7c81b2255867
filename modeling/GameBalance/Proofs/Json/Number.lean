import GameBalance.Json.Number
import GameBalance.Proofs.Decimal.Numeral
import GameBalance.Proofs.Double.Arithmetic

namespace GameBalance.Json

theorem le_foldl_digits (ds : List Char) (s : Nat) :
    s ≤ ds.foldl (fun n c => 10 * n + Decimal.digitValue c) s := by
  induction ds generalizing s with
  | nil => exact Nat.le_refl s
  | cons c ds ih =>
    exact Nat.le_trans (Nat.le_add_right_of_le (Nat.le_mul_of_pos_left s (by decide))) (ih _)

theorem takeDigits_eq {ds : List Char}
    (h : ds.foldl (fun n c => 10 * n + Decimal.digitValue c) s < 2 ^ 64) :
    takeDigits s ds = (ds.foldl (fun n c => 10 * n + Decimal.digitValue c) s, []) := by
  induction ds generalizing s with
  | nil => rfl
  | cons c ds ih =>
    have fits : 10 * s + Decimal.digitValue c < 2 ^ 64 :=
      Nat.lt_of_le_of_lt (le_foldl_digits ds _) h
    rw [takeDigits, if_pos (show 10 * s + Decimal.digitValue c < UInt64.size from fits), ih h]
    rfl

theorem significand_eq {n : Numeral} (h : n.decimal.digits < 2 ^ 64) :
    significand n = (n.decimal.digits, n.decimal.exponent) := by
  have digits : n.decimal.digits =
      n.fraction.foldl (fun n c => 10 * n + Decimal.digitValue c) (Decimal.valueOf n.whole) :=
      List.foldl_append
  rw [digits] at h
  have whole : Decimal.valueOf n.whole < 2 ^ 64 :=
    Nat.lt_of_le_of_lt (le_foldl_digits n.fraction _) h
  have first : takeDigits 0 n.whole = (Decimal.valueOf n.whole, []) := takeDigits_eq whole
  simp only [significand, first, takeDigits_eq h, List.length_nil, digits]
  simp [Numeral.decimal, Decimal.ofDigits]

/-- A significand that is a double, and an exponent for which the power of ten is one. -/
def Short (d : Decimal) : Prop :=
  d.digits < 2 ^ 53 ∧ d.exponent.natAbs ≤ 22

theorem magnitude_short {m k : Nat} (pos : m ≠ 0) (hk : k ≤ 22) :
    (Decimal.mk m k).magnitude = Double.nearest (m * 10 ^ k) 1 ∧
    (Decimal.mk m (-k)).magnitude = Double.nearest m (10 ^ k) := by
  constructor
  · simp only [Decimal.magnitude]
    rw [if_neg pos, if_neg (by omega), if_neg (by omega), if_pos (by omega), Int.toNat_natCast]
  · by_cases zero : k = 0
    · subst zero
      simp only [Decimal.magnitude]
      rw [if_neg pos, if_neg (by omega), if_neg (by omega), if_pos (by omega)]
      simp
    · simp only [Decimal.magnitude]
      rw [if_neg pos, if_neg (by omega), if_neg (by omega), if_neg (by omega), Int.neg_neg,
        Int.toNat_natCast]

theorem ofInt_natCast (m : Nat) :
    Double.ofInt m = Double.ofMagnitude false (Double.nearest m 1) := by
  rw [Double.ofInt, Int.natAbs_natCast, decide_eq_false (Int.not_lt.2 (Int.natCast_nonneg m))]

section Scale

variable {m k : Nat} (hm : m < 2 ^ 53) (hk : k ≤ 22)
include hm

theorem units_ofInt :
    Double.nearest m 1 < Double.infinity ∧
    Double.unitsOf (Double.nearest m 1) = m * Double.one := by
  have exact := Double.unitsOf_nearest (p := 0) hm (Nat.zero_le _)
  rwa [Nat.pow_zero, Nat.mul_one] at exact

omit hm in
include hk in
theorem units_tenTo : Double.nearest (10 ^ k) 1 < Double.infinity ∧
    Double.unitsOf (Double.nearest (10 ^ k) 1) = 10 ^ k * Double.one := by
  have odd : 5 ^ k < 2 ^ 53 := Nat.lt_of_le_of_lt (Nat.pow_le_pow_right (by decide) hk) (by decide)
  have exact := Double.unitsOf_nearest odd (p := k) (by omega)
  rwa [Decimal.pow_five_mul_pow_two] at exact

omit hm in
include hk in
theorem one_le_units_tenTo : Double.one ≤ Double.unitsOf (Double.nearest (10 ^ k) 1) := by
  rw [(units_tenTo hk).2]
  exact Nat.le_mul_of_pos_left _ (Nat.pow_pos (by decide))

omit hm in
include hk in
theorem tenTo_eq : tenTo k = Double.ofMagnitude false (Double.nearest (10 ^ k) 1) := by
  rw [tenTo, Decimal.toFloat, (magnitude_short Nat.one_ne_zero hk).1, Nat.one_mul]

include hk in
theorem ofInt_mul_tenTo : Double.ofInt m * tenTo k = (Decimal.mk m k).toFloat false ∧
    (Decimal.mk m k).magnitude < Double.infinity := by
  obtain ⟨finiteTen, unitsTen⟩ := units_tenTo hk
  obtain ⟨finite, units⟩ := units_ofInt hm
  have largeTen := one_le_units_tenTo hk
  rw [ofInt_natCast, tenTo_eq hk, Decimal.toFloat]
  by_cases zero : m = 0
  · subst zero
    rw [Double.nearest_zero, Double.zero_mul_ofMagnitude finiteTen largeTen,
      Decimal.magnitude, if_pos rfl]
    exact ⟨rfl, by decide⟩
  · rw [(magnitude_short zero hk).1]
    have bound : m * 10 ^ k < 2 ^ (53 + 74) := by
      have ten : 10 ^ k < 2 ^ 74 :=
        Nat.lt_of_le_of_lt (Nat.pow_le_pow_right (by decide) hk) (by decide)
      rw [Nat.pow_add]
      exact Nat.mul_lt_mul'' hm ten
    have product : Double.nearest (m * 10 ^ k) 1 < Double.infinity :=
      Nat.lt_trans (Double.nearest_lt bound 1) (by decide)
    refine ⟨Double.mul_ofMagnitude finiteTen largeTen finite Nat.one_pos ?_, product⟩
    rw [units, unitsTen]
    ring

include hk in
theorem ofInt_div_tenTo : Double.ofInt m / tenTo k = (Decimal.mk m (-k)).toFloat false ∧
    (Decimal.mk m (-k)).magnitude < Double.infinity := by
  obtain ⟨finiteTen, unitsTen⟩ := units_tenTo hk
  obtain ⟨finite, units⟩ := units_ofInt hm
  have largeTen := one_le_units_tenTo hk
  have ten : 10 ^ k ≤ 2 ^ 100 :=
    calc 10 ^ k ≤ 10 ^ 22 := Nat.pow_le_pow_right (by decide) hk
      _ ≤ 2 ^ 74 := by decide
      _ ≤ 2 ^ 100 := Nat.pow_le_pow_right (by decide) (by decide)
  rw [ofInt_natCast, tenTo_eq hk, Decimal.toFloat]
  by_cases zero : m = 0
  · subst zero
    rw [Double.nearest_zero, Double.zero_div_ofMagnitude finiteTen largeTen,
      Decimal.magnitude, if_pos rfl]
    exact ⟨rfl, by decide⟩
  · rw [(magnitude_short zero hk).2]
    have large : Double.one ≤ Double.unitsOf (Double.nearest m 1) := by
      rw [units]
      exact Nat.le_mul_of_pos_left _ (Nat.pos_of_ne_zero zero)
    have quotient : Double.nearest m (10 ^ k) < Double.infinity :=
      Nat.lt_trans (Double.nearest_lt hm _) (by decide)
    refine ⟨Double.div_ofMagnitude finiteTen largeTen finite (fun _ => large)
      (Nat.pow_pos (by decide)) ?_ ?_, quotient⟩
    · rw [unitsTen]
      exact Nat.mul_le_mul_right _ ten
    · rw [units, unitsTen]
      ring

end Scale

theorem scale?_short {d : Decimal} (h : Short d) :
    scale? (Double.ofInt d.digits) d.exponent = some (d.toFloat false) ∧
    d.magnitude < Double.infinity := by
  obtain ⟨m, e⟩ := d
  obtain ⟨digits, exponent⟩ := h
  rw [scale?]
  by_cases negative : e < 0
  · obtain ⟨k, rfl⟩ := Int.exists_eq_neg_ofNat (Int.le_of_lt negative)
    have small : k ≤ 22 := by simpa using exponent
    obtain ⟨scaled, finite⟩ := ofInt_div_tenTo digits small
    rw [if_pos negative, scaleDown, Int.natAbs_neg, Int.natAbs_natCast, if_pos (by omega), scaled]
    exact ⟨rfl, finite⟩
  · obtain ⟨k, rfl⟩ := Int.eq_ofNat_of_zero_le (Int.not_lt.1 negative)
    have small : k ≤ 22 := by simpa using exponent
    obtain ⟨scaled, finite⟩ := ofInt_mul_tenTo digits small
    have bounded : (Decimal.toFloat false ⟨m, k⟩).isInf = false :=
      Double.isInf_eq_false
        (Double.isFinite_iff.2 (by rwa [Decimal.toFloat, Double.magnitude_ofMagnitude _ finite]))
    rw [if_neg negative, if_pos (by omega), Int.natAbs_natCast, scaled]
    dsimp only
    rw [bounded]
    exact ⟨rfl, finite⟩

theorem double?_short {n : Numeral} (h : Short n.decimal) :
    double? n = some (n.decimal.toFloat n.negative) := by
  have fits : n.decimal.digits < 2 ^ 64 := Nat.lt_trans h.1 (by decide)
  obtain ⟨scaled, finite⟩ := scale?_short h
  simp only [double?, significand_eq fits, scaled, Option.map_some]
  cases n.negative with
  | false => rfl
  | true => rw [if_pos rfl, Decimal.toFloat, Double.neg_ofMagnitude finite, Decimal.toFloat]

end GameBalance.Json
