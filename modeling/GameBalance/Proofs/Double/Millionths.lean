import GameBalance.Double.Rounding
import GameBalance.Proofs.Double.Error
import Mathlib.Tactic.Linarith

namespace GameBalance.Double

variable {a k : Nat}

theorem million_eq : (1e6 : Float) = ofMagnitude false (nearest (10 ^ 6) 1) := by
  decide +kernel

theorem units_million :
    nearest (10 ^ 6) 1 < infinity ∧ unitsOf (nearest (10 ^ 6) 1) = 10 ^ 6 * one := by
  have exact := unitsOf_nearest (q := 10 ^ 6) (by decide) (Nat.zero_le 900)
  simpa only [pow_zero, mul_one] using exact

theorem one_le_million : one ≤ unitsOf (nearest (10 ^ 6) 1) := by
  rw [units_million.2]
  exact Nat.le_mul_of_pos_left one (by decide)

def scaled (a : Nat) : Nat :=
  nearest (unitsOf a * 10 ^ 6) one

def counted (a : Nat) : Nat :=
  halfUp (unitsOf (scaled a)) one

def regained (a : Nat) : Nat :=
  nearest (counted a) (10 ^ 6)

theorem mul_million (negative : Bool) (ha : a < infinity) :
    ofMagnitude negative a * 1e6 = ofMagnitude negative (scaled a) := by
  rw [million_eq]
  refine mul_ofMagnitude units_million.1 one_le_million ha one_pos ?_
  rw [units_million.2]
  ring

theorem roundAway_ofMagnitude (negative : Bool) (h : m < infinity) :
    roundAway (ofMagnitude negative m) =
      ofMagnitude negative (nearest (halfUp (unitsOf m) one) 1) := by
  have magnitude := magnitude_ofMagnitude negative h
  have finite : (ofMagnitude negative m).isFinite = true := isFinite_iff.2 (magnitude.symm ▸ h)
  rw [roundAway, mapWhole, if_pos finite, isNegative_ofMagnitude negative h, units, magnitude]

theorem units_halfUp (h : m < infinity) : nearest (halfUp (unitsOf m) one) 1 < infinity ∧
    unitsOf (nearest (halfUp (unitsOf m) one) 1) = halfUp (unitsOf m) one * one := by
  obtain small | large := Nat.lt_or_ge (unitsOf m) (2 ^ 52 * one)
  · obtain ⟨-, above⟩ := halfUp_error (unitsOf m) one_pos
    have few : halfUp (unitsOf m) one < 2 ^ 53 := by
      refine Nat.lt_of_mul_lt_mul_right (a := one) ?_
      have := one_pos
      omega
    have exact := unitsOf_nearest few (Nat.zero_le 900)
    simpa only [pow_zero, mul_one] using exact
  · obtain ⟨q, whole⟩ := one_dvd_unitsOf large
    have same : halfUp (unitsOf m) one = q := by rw [whole, Nat.mul_comm, halfUp_mul one_pos]
    have back : nearest q 1 = m :=
      nearest_eq h Nat.one_pos (by rw [whole, Nat.mul_one, Nat.mul_comm])
    rw [same, back]
    exact ⟨h, by rw [whole, Nat.mul_comm]⟩

def shown (a : Nat) : Nat :=
  halfEven (unitsOf (regained a) * 10 ^ 6) one

section Finite

variable (finite : scaled a < infinity)

include finite

theorem regained_lt : regained a < infinity := by
  obtain ⟨finite, units⟩ := units_halfUp finite
  have exponent : 2046 + 53 = binaryPlaces + 1025 := rfl
  have bound : unitsOf (nearest (counted a) 1) < 2 ^ (2046 + 53) := unitsOf_lt finite
  rw [show unitsOf (nearest (counted a) 1) = counted a * one from units, exponent] at bound
  have quotient : counted a * one / 10 ^ 6 < 2 ^ (1006 + binaryPlaces) := by
    rw [Nat.div_lt_iff_lt_mul (by decide)]
    have bits : 2 ^ (binaryPlaces + 1025) ≤ 2 ^ (1006 + binaryPlaces) * 2 ^ 19 := by
      rw [← Nat.pow_add]
      exact Nat.pow_le_pow_right (by decide) (by omega)
    exact Nat.lt_of_lt_of_le bound (Nat.le_trans bits (Nat.mul_le_mul_left _ (by decide)))
  exact Nat.lt_trans (nearest_lt_of_div quotient) (by decide)

theorem round_million (negative : Bool) :
    roundAway (ofMagnitude negative (scaled a)) / 1e6 = ofMagnitude negative (regained a) := by
  obtain ⟨whole, units⟩ := units_halfUp finite
  rw [roundAway_ofMagnitude negative finite, million_eq]
  refine div_ofMagnitude units_million.1 one_le_million whole (fun ne => ?_) (by decide) ?_ ?_
  · rw [units]
    refine Nat.le_mul_of_pos_left one (Nat.pos_of_ne_zero fun zero => ne ?_)
    rw [zero, nearest_zero]
  · rw [units_million.2]
    exact Nat.mul_le_mul_right one (by decide)
  · rw [units, units_million.2, counted]
    ring

end Finite

theorem counted_exact (many : 2 ^ 33 * 10 ^ 6 < counted a) :
    counted a * one = unitsOf (scaled a) := by
  obtain ⟨-, above⟩ := halfUp_error (unitsOf (scaled a)) one_pos
  have least : (2 ^ 33 * 10 ^ 6 + 1) * one ≤ counted a * one := Nat.mul_le_mul_right one many
  have large : 2 ^ 52 * one ≤ unitsOf (scaled a) := by
    rw [counted] at least
    omega
  obtain ⟨q, whole⟩ := one_dvd_unitsOf large
  rw [counted, whole, Nat.mul_comm one, halfUp_mul one_pos]

theorem eq_of_near {g i j c : Nat} (pos : 0 < g)
    (hj : 2 * c ≤ 2 * (g * j * 10 ^ 6) + 10 ^ 6 * g ∧ 2 * (g * j * 10 ^ 6) ≤ 2 * c + 10 ^ 6 * g)
    (hi : 2 * (g * i * 10 ^ 6) ≤ 2 * c + g * 2 ^ 19 ∧ 2 * c ≤ 2 * (g * i * 10 ^ 6) + g * 2 ^ 19) :
    j = i := by
  have next : ∀ k, g * (k + 1) = g * k + g := fun k => Nat.mul_succ g k
  refine Nat.le_antisymm (Nat.le_of_lt_succ ?_) (Nat.le_of_lt_succ ?_)
  · refine Nat.lt_of_mul_lt_mul_left (a := g) ?_
    rw [Nat.succ_eq_add_one, next]
    omega
  · refine Nat.lt_of_mul_lt_mul_left (a := g) ?_
    rw [Nat.succ_eq_add_one, next]
    omega

theorem lastPlace_counted {p : Nat} (one_eq : one = 2 ^ (p + 20))
    (least : 2 ^ 33 * one * 10 ^ 6 ≤ counted a * one)
    (most : counted a * one < 2 ^ 33 * one * 2 * 10 ^ 6) :
    lastPlace (counted a) (10 ^ 6) = p + 1 := by
  have bits : 2 ^ (p + 53) = 2 ^ 33 * one := by
    have exponent : p + 53 = 33 + (p + 20) := by omega
    rw [exponent, Nat.pow_add, one_eq]
  refine Nat.le_antisymm (lastPlace_le ?_) ?_
  · rw [Nat.div_lt_iff_lt_mul (by decide), Nat.add_right_comm, Nat.pow_succ, bits]
    exact most
  · have quotient : 2 ^ (p + 53) ≤ counted a * one / 10 ^ 6 := by
      rw [Nat.le_div_iff_mul_le (by decide), bits]
      exact least
    have log :=
      (Nat.le_log2 (Nat.ne_of_gt (Nat.lt_of_lt_of_le (Nat.two_pow_pos _) quotient))).2 quotient
    rw [lastPlace]
    omega

section Error

variable {p : Nat} (finite : scaled a < infinity) (one_eq : one = 2 ^ (p + 20))

include finite one_eq

theorem scaled_error (few : unitsOf a * 10 ^ 6 < 2 ^ 53 * one) :
    2 * (unitsOf a * 10 ^ 6) ≤ 2 * unitsOf (scaled a) + one ∧
    2 * unitsOf (scaled a) ≤ 2 * (unitsOf a * 10 ^ 6) + one := by
  have place : lastPlace (unitsOf a * 10 ^ 6) one ≤ p + 20 := by
    refine lastPlace_le ?_
    calc unitsOf a * 10 ^ 6 * one / one = unitsOf a * 10 ^ 6 := Nat.mul_div_cancel _ one_pos
      _ < 2 ^ 53 * one := few
      _ = 2 ^ (p + 20 + 53) := by rw [one_eq, pow_add _ (p + 20), mul_comm]
  obtain ⟨below, above⟩ := nearest_error one_pos finite place
  rw [← one_eq] at below above
  rw [scaled]
  constructor
  · refine Nat.le_of_mul_le_mul_right (c := one) ?_ one_pos
    linarith
  · refine Nat.le_of_mul_le_mul_right (c := one) ?_ one_pos
    linarith

theorem regained_error (few : counted a < 2 ^ 33 * 10 ^ 6) :
    2 * (counted a * one) < 2 * (unitsOf (regained a) * 10 ^ 6) + one ∧
    2 * (unitsOf (regained a) * 10 ^ 6) < 2 * (counted a * one) + one := by
  have place : lastPlace (counted a) (10 ^ 6) ≤ p := by
    refine lastPlace_le ?_
    rw [Nat.div_lt_iff_lt_mul (by decide)]
    calc counted a * one < 2 ^ 33 * 10 ^ 6 * one := Nat.mul_lt_mul_of_pos_right few one_pos
      _ = 2 ^ (p + 53) * 10 ^ 6 := by rw [one_eq, Nat.pow_add, Nat.pow_add]; ring
  obtain ⟨below, above⟩ := nearest_error (by decide) (regained_lt finite) place
  have half : 10 ^ 6 * 2 ^ p < one := by
    rw [one_eq, Nat.pow_add, Nat.mul_comm]
    exact Nat.mul_lt_mul_of_pos_left (by decide) (Nat.two_pow_pos p)
  rw [regained]
  constructor
  · linarith
  · linarith

theorem shown_eq_counted (few : counted a ≤ 2 ^ 33 * 10 ^ 6) : shown a = counted a := by
  obtain less | same := Nat.lt_or_eq_of_le few
  · obtain ⟨below, above⟩ := regained_error finite one_eq less
    exact halfEven_eq below above
  · have exact : unitsOf (regained a) = 2 ^ 33 * one := by
      have whole := unitsOf_nearest (q := 1) (by decide) (show 33 ≤ 900 by decide)
      rw [Nat.one_mul] at whole
      have quotient : nearest (2 ^ 33 * 10 ^ 6) (1 * 10 ^ 6) = nearest (2 ^ 33) 1 :=
        nearest_mul_right (by decide)
      rw [Nat.one_mul] at quotient
      rw [regained, same, quotient, whole.2]
    rw [shown, exact, same, Nat.mul_right_comm, halfEven_mul _ one_pos]

theorem unitsOf_regained (few : unitsOf a * 10 ^ 6 < 2 ^ 53 * one)
    (many : 2 ^ 33 * 10 ^ 6 < counted a) :
    unitsOf (regained a) = unitsOf a := by
  obtain ⟨below, above⟩ := scaled_error finite one_eq few
  rw [← counted_exact many] at below above
  obtain ⟨small, large, least⟩ : counted a * one < 2 ^ 33 * one * 2 * 10 ^ 6 ∧
    2 ^ 33 * one * 10 ^ 6 ≤ counted a * one ∧
      2 ^ 33 * one ≤ unitsOf a := by
    have := Nat.mul_le_mul_right one many
    clear one_eq
    omega
  have place := lastPlace_counted one_eq large small
  obtain ⟨below', above'⟩ := nearest_error (by decide) (regained_lt finite) (Nat.le_of_eq place)
  obtain ⟨i, left⟩ : 2 ^ (p + 1) ∣ unitsOf a := by
    refine dvd_unitsOf (Nat.le_trans (Nat.le_of_eq ?_) least)
    rw [one_eq, ← Nat.pow_add]
    exact congrArg (2 ^ ·) (by omega)
  obtain ⟨j, right⟩ : 2 ^ (p + 1) ∣ unitsOf (regained a) := by
    rw [regained, unitsOf_nearest_eq (regained_lt finite), place]
    exact Nat.dvd_mul_left _ _
  have exponent : p + 20 = p + 1 + 19 := by omega
  rw [← regained, right] at below' above'
  rw [left] at below above
  generalize counted a * one = c at below above below' above'
  rw [one_eq, exponent, Nat.pow_add _ (p + 1)] at below above
  rw [left, right]
  exact congrArg _ (eq_of_near (Nat.two_pow_pos _) ⟨below', above'⟩ ⟨below, above⟩)

end Error

theorem shown_error (finite : scaled a < infinity) (few : unitsOf a * 10 ^ 6 < 2 ^ 53 * one) :
    unitsOf a * 10 ^ 6 ≤ shown a * one + one ∧ shown a * one ≤ unitsOf a * 10 ^ 6 + one := by
  obtain ⟨p, one_eq⟩ := exists_one_eq (k := 20) (by decide)
  obtain many | exact := Nat.lt_or_ge (2 ^ 33 * 10 ^ 6) (counted a)
  · obtain ⟨below, above⟩ := halfEven_error (unitsOf a * 10 ^ 6) one_pos
    rw [shown, unitsOf_regained finite one_eq few many]
    constructor
    · linarith
    · linarith
  · obtain ⟨below, above⟩ := scaled_error finite one_eq few
    obtain ⟨below', above'⟩ := halfUp_error (unitsOf (scaled a)) one_pos
    rw [shown_eq_counted finite one_eq exact, counted]
    constructor
    · linarith
    · linarith

end GameBalance.Double
