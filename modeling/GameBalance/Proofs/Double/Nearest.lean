import GameBalance.Double.Basic
import Mathlib.Algebra.Group.Nat.Defs

namespace GameBalance.Double

theorem halfEven_mul (q : Nat) (h : 0 < den) : halfEven (q * den) den = q := by
  simp [halfEven, Nat.mul_div_cancel q h, h]

theorem halfEven_mul_right (hc : 0 < c) : halfEven (a * c) (b * c) = halfEven a b := by
  have twice : 2 * (a % b * c) = 2 * (a % b) * c := (Nat.mul_assoc _ _ _).symm
  simp only [halfEven, Nat.mul_div_mul_right _ _ hc, Nat.mul_mod_mul_right, twice,
    Nat.mul_lt_mul_right hc]

theorem halfEven_congr (hb : 0 < b) (hd : 0 < d) (same : a * d = c * b) :
    halfEven a b = halfEven c d := by
  rw [← halfEven_mul_right hd, same, Nat.mul_comm b d, halfEven_mul_right hb]

theorem nearest_mul_right (hc : 0 < c) : nearest (a * c) (b * c) = nearest a b := by
  have units : a * c * one = a * one * c := Nat.mul_right_comm a c one
  have steps : ∀ p, b * c * p = b * p * c := fun p => Nat.mul_right_comm b c p
  simp only [nearest, units, Nat.mul_div_mul_right _ _ hc, steps, halfEven_mul_right hc]

theorem unitsOf_split (m : Nat) :
    unitsOf m / 2 ^ ((unitsOf m).log2 - 52) * 2 ^ ((unitsOf m).log2 - 52) = unitsOf m ∧
    ((unitsOf m).log2 - 52) * 2 ^ 52 + unitsOf m / 2 ^ ((unitsOf m).log2 - 52) = m := by
  by_cases h : m < 2 ^ 52
  · have log : m.log2 - 52 = 0 := by
      by_cases zero : m = 0
      · subst zero
        rfl
      · have := (Nat.log2_lt zero).2 h
        omega
    rw [unitsOf, if_pos h, log]
    omega
  · have pos : 2 ^ 52 + m % 2 ^ 52 ≠ 0 := by omega
    have log : ((2 ^ 52 + m % 2 ^ 52) * 2 ^ (m / 2 ^ 52 - 1)).log2 = 52 + (m / 2 ^ 52 - 1) := by
      rw [Nat.log2_eq_iff (Nat.mul_ne_zero pos (Nat.ne_of_gt (Nat.two_pow_pos _)))]
      rw [Nat.pow_add, Nat.add_right_comm, Nat.pow_add]
      exact ⟨Nat.mul_le_mul_right _ (by omega),
        Nat.mul_lt_mul_of_pos_right (by omega) (Nat.two_pow_pos _)⟩
    rw [unitsOf, if_neg h, log, Nat.add_sub_cancel_left, Nat.mul_div_cancel _ (Nat.two_pow_pos _)]
    omega

theorem nearest_eq (hm : m < infinity) (pos : 0 < den) (h : num * one = unitsOf m * den) :
    nearest num den = m := by
  obtain ⟨whole, eq⟩ := unitsOf_split m
  have rounded : halfEven (unitsOf m * den) (den * 2 ^ ((unitsOf m).log2 - 52)) =
      unitsOf m / 2 ^ ((unitsOf m).log2 - 52) := by
    have split : unitsOf m * den =
        unitsOf m / 2 ^ ((unitsOf m).log2 - 52) * (den * 2 ^ ((unitsOf m).log2 - 52)) := by
      rw [Nat.mul_comm den, ← Nat.mul_assoc, whole]
    rw [split]
    exact halfEven_mul _ (Nat.mul_pos pos (Nat.two_pow_pos _))
  rw [nearest, h, Nat.mul_div_cancel _ pos, rounded, eq]
  exact Nat.min_eq_right (Nat.le_of_lt hm)

end GameBalance.Double
