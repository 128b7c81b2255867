import GameBalance.Proofs.Double.Arithmetic
import Mathlib.Tactic.Ring

/-!
How far rounding goes. Rounding to a natural number moves by a half at most, and rounding to a
double by half a unit in the place of its last bit.
-/

namespace GameBalance.Double

variable {num den k : Nat}

theorem halfEven_error (num : Nat) (hden : 0 < den) :
    2 * num ≤ 2 * (halfEven num den * den) + den ∧
    2 * (halfEven num den * den) ≤ 2 * num + den := by
  have split := Nat.div_add_mod' num den
  have small := Nat.mod_lt num hden
  have next : (num / den + 1) * den = num / den * den + den := Nat.succ_mul _ _
  rw [halfEven]
  split
  · omega
  · split
    · omega
    · obtain even | odd := Nat.mod_two_eq_zero_or_one (num / den)
      · rw [even, Nat.add_zero]
        omega
      · rw [odd]
        omega

theorem halfUp_error (num : Nat) (hden : 0 < den) :
    2 * num ≤ 2 * (halfUp num den * den) + den ∧ 2 * (halfUp num den * den) ≤ 2 * num + den := by
  have split := Nat.div_add_mod' (2 * num + den) (2 * den)
  have small := Nat.mod_lt (2 * num + den) (Nat.mul_pos (Nat.zero_lt_two) hden)
  have twice : (2 * num + den) / (2 * den) * (2 * den) =
      2 * ((2 * num + den) / (2 * den) * den) := by ring
  rw [halfUp]
  omega

theorem halfUp_mul (hden : 0 < den) : halfUp (k * den) den = k := by
  have twice : 2 * (k * den) + den = den + k * (2 * den) := by ring
  rw [halfUp, twice, Nat.add_mul_div_right _ _ (Nat.mul_pos Nat.two_pos hden),
    Nat.div_eq_of_lt (by omega), Nat.zero_add]

theorem halfEven_eq (low : 2 * (k * den) < 2 * num + den) (high : 2 * num < 2 * (k * den) + den) :
    halfEven num den = k := by
  have hden : 0 < den := by omega
  obtain ⟨below, above⟩ := halfEven_error num hden
  refine Nat.le_antisymm (Nat.le_of_lt_succ ?_) (Nat.le_of_lt_succ ?_)
  · refine Nat.lt_of_mul_lt_mul_right (a := den) ?_
    rw [Nat.succ_mul]
    omega
  · refine Nat.lt_of_mul_lt_mul_right (a := den) ?_
    rw [Nat.succ_mul]
    omega

/--
The place of the last bit of a double that is rounded
from `num / den`, counted from the last place there is.
-/
def lastPlace (num den : Nat) : Nat :=
  (num * one / den).log2 - 52

theorem lastPlace_le (h : num * one / den < 2 ^ (k + 53)) : lastPlace num den ≤ k := by
  rw [lastPlace]
  by_cases zero : num * one / den = 0
  · rw [zero]
    exact Nat.zero_le k
  · have := (Nat.log2_lt zero).2 h
    omega

theorem halfEven_lastPlace_le (num den : Nat) :
    halfEven (num * one) (den * 2 ^ lastPlace num den) ≤ 2 ^ 53 := by
  refine Nat.le_trans (halfEven_le _ _) (Nat.succ_le_of_lt ?_)
  rw [← Nat.div_div_eq_div_mul, Nat.div_lt_iff_lt_mul (Nat.two_pow_pos _), ← Nat.pow_add]
  refine Nat.lt_of_lt_of_le Nat.lt_log2_self (Nat.pow_le_pow_right (by decide) ?_)
  rw [lastPlace]
  omega

theorem le_halfEven_lastPlace (h : lastPlace num den ≠ 0) :
    2 ^ 52 ≤ halfEven (num * one) (den * 2 ^ lastPlace num den) := by
  have log : 52 + lastPlace num den = (num * one / den).log2 := by
    rw [lastPlace] at h ⊢
    omega
  have pos : num * one / den ≠ 0 := fun zero => by
    rw [lastPlace, zero] at h
    exact h rfl
  refine Nat.le_trans ?_ (le_halfEven _ _)
  rw [← Nat.div_div_eq_div_mul, Nat.le_div_iff_mul_le (Nat.two_pow_pos _), ← Nat.pow_add, log]
  exact Nat.log2_self_le pos

theorem unitsOf_nearest_eq (finite : nearest num den < infinity) : unitsOf (nearest num den) =
    halfEven (num * one) (den * 2 ^ lastPlace num den) * 2 ^ lastPlace num den := by
  have value : nearest num den = lastPlace num den * 2 ^ 52 +
      halfEven (num * one) (den * 2 ^ lastPlace num den) :=
    Nat.min_eq_right (Nat.le_of_not_le fun ge => Nat.lt_irrefl _ (Nat.min_eq_left ge ▸ finite))
  have high := halfEven_lastPlace_le num den
  have low : lastPlace num den ≠ 0 → _ := le_halfEven_lastPlace
  rw [value]
  generalize halfEven (num * one) (den * 2 ^ lastPlace num den) = q at high low ⊢
  generalize lastPlace num den = p at low ⊢
  obtain subnormal | normal := Nat.lt_or_ge q (2 ^ 52)
  · obtain rfl : p = 0 := by
      by_contra ne
      exact Nat.not_le_of_lt subnormal (low ne)
    rw [Nat.zero_mul, Nat.zero_add, unitsOf, if_pos subnormal, Nat.pow_zero, Nat.mul_one]
  · obtain less | same := Nat.lt_or_eq_of_le high
    · exact unitsOf_place p normal less
    · have carry : p * 2 ^ 52 + q = (p + 1) * 2 ^ 52 + 2 ^ 52 := by omega
      rw [carry, unitsOf_place (p + 1) (Nat.le_refl _) (by decide), same, Nat.pow_succ]
      ring

theorem nearest_error (hden : 0 < den) (finite : nearest num den < infinity)
    (place : lastPlace num den ≤ k) :
    2 * (num * one) ≤ 2 * (unitsOf (nearest num den) * den) + den * 2 ^ k ∧
    2 * (unitsOf (nearest num den) * den) ≤ 2 * (num * one) + den * 2 ^ k := by
  have spare := Nat.mul_le_mul_left den (Nat.pow_le_pow_right Nat.two_pos place)
  have scaled := Nat.mul_pos hden (Nat.two_pow_pos (lastPlace num den))
  have units : unitsOf (nearest num den) * den =
      halfEven (num * one) (den * 2 ^ lastPlace num den) * (den * 2 ^ lastPlace num den) := by
    rw [unitsOf_nearest_eq finite]
    ring
  obtain ⟨below, above⟩ := halfEven_error (num * one) scaled
  rw [units]
  omega

theorem dvd_unitsOf (large : 2 ^ (k + 53) ≤ unitsOf m) : 2 ^ (k + 1) ∣ unitsOf m := by
  have ne : m ≠ 0 := by
    rintro rfl
    exact Nat.not_le_of_lt (Nat.two_pow_pos (k + 53)) large
  obtain ⟨M, u, -, -, small, units⟩ := valueOf_finite .positive ne
  have bound : 2 ^ (k + 53) < 2 ^ (u + 53) :=
    calc 2 ^ (k + 53) ≤ M * 2 ^ u := units ▸ large
      _ < 2 ^ 53 * 2 ^ u := Nat.mul_lt_mul_of_pos_right small (Nat.two_pow_pos u)
      _ = 2 ^ (u + 53) := by rw [Nat.mul_comm, ← Nat.pow_add]
  have place := (Nat.pow_lt_pow_iff_right (by decide)).1 bound
  rw [units]
  exact Nat.dvd_mul_left_of_dvd (Nat.pow_dvd_pow 2 (by omega)) M

theorem exists_one_eq (h : k ≤ 1074) : ∃ p, one = 2 ^ (p + k) := by
  obtain ⟨p, places⟩ := Nat.exists_eq_add_of_le' (show k ≤ binaryPlaces from h)
  exact ⟨p, by rw [one, places]⟩

theorem one_dvd_unitsOf (large : 2 ^ 52 * one ≤ unitsOf m) : one ∣ unitsOf m := by
  obtain ⟨p, one_eq⟩ := exists_one_eq (k := 1) (by decide)
  rw [one_eq] at large ⊢
  have bits : 2 ^ (p + 53) ≤ 2 ^ 52 * 2 ^ (p + 1) := by
    rw [← Nat.pow_add]
    exact Nat.pow_le_pow_right (by decide) (by omega)
  exact dvd_unitsOf (Nat.le_trans bits large)

end GameBalance.Double
