import GameBalance.Proofs.Double.Nearest
import GameBalance.Proofs.Double.Range
import Mathlib.Tactic.Ring

namespace GameBalance.Double

open Float.Model Float.Model.UnpackedFloat

def extended (n d : Nat) : ExtendedMantissa :=
  ⟨n / d, d ≤ 2 * (n % d), n % d ≠ 0 ∧ 2 * (n % d) ≠ d⟩

theorem ofMantissaAndAccuracy_div (n : Nat) (hd : 0 < d) :
    ExtendedMantissa.ofMantissaAndAccuracy (n / d) (accuracyOfFraction (n % d) d) =
      extended n d := by
  rw [accuracyOfFraction, extended]
  by_cases whole : n % d = 0
  · rw [whole, if_pos rfl]
    simp [ExtendedMantissa.ofMantissaAndAccuracy, Nat.ne_of_gt hd]
  · rw [if_neg whole]
    obtain less | same | more := Nat.lt_trichotomy (2 * (n % d)) d
    · rw [Nat.compare_eq_lt.2 less, ExtendedMantissa.ofMantissaAndAccuracy]
      simp [whole, Nat.not_le.2 less, Nat.ne_of_lt less]
    · rw [Nat.compare_eq_eq.2 same, ExtendedMantissa.ofMantissaAndAccuracy]
      simp [same]
    · rw [Nat.compare_eq_gt.2 more, ExtendedMantissa.ofMantissaAndAccuracy]
      simp [whole, Nat.le_of_lt more, Nat.ne_of_gt more]

theorem shiftRightOne_extended (n : Nat) (hd : 0 < d) :
    (extended n d).shiftRightOne = extended n (d * 2) := by
  have small := Nat.mod_lt n hd
  obtain even | odd := Nat.mod_two_eq_zero_or_one (n / d)
  · have low : n % (d * 2) = n % d := by rw [Nat.mod_mul, even, Nat.mul_zero, Nat.add_zero]
    rw [extended, extended, ExtendedMantissa.shiftRightOne, low, even, Nat.div_div_eq_div_mul]
    congr 1
    · exact (decide_eq_false (by omega)).symm
    · rw [← Bool.decide_or, decide_eq_decide]
      omega
  · have high : n % (d * 2) = n % d + d := by rw [Nat.mod_mul, odd, Nat.mul_one]
    rw [extended, extended, ExtendedMantissa.shiftRightOne, high, odd, Nat.div_div_eq_div_mul]
    congr 1
    · exact (decide_eq_true (by omega)).symm
    · rw [← Bool.decide_or, decide_eq_decide]
      omega

theorem shiftRight_extended (n : Nat) (hd : 0 < d) (k : Nat) :
    extended n d >>> k = extended n (d * 2 ^ k) := by
  induction k with
  | zero => rw [Nat.pow_zero, Nat.mul_one]; rfl
  | succ k ih =>
    change (extended n d >>> k).shiftRightOne = _
    rw [ih, shiftRightOne_extended n (Nat.mul_pos hd (Nat.two_pow_pos k)), Nat.mul_assoc,
      ← Nat.pow_succ]

theorem roundedMantissa_extended (n d : Nat) : (extended n d).roundedMantissa = halfEven n d := by
  rw [extended, halfEven]
  obtain less | same | more := Nat.lt_trichotomy (2 * (n % d)) d
  · have half : decide (d ≤ 2 * (n % d)) = false := decide_eq_false (by omega)
    rw [half, if_pos less]
    cases decide (n % d ≠ 0 ∧ 2 * (n % d) ≠ d) <;> rfl
  · have half : decide (d ≤ 2 * (n % d)) = true := decide_eq_true (by omega)
    have rest : decide (n % d ≠ 0 ∧ 2 * (n % d) ≠ d) = false := decide_eq_false (by omega)
    rw [half, rest, if_neg (by omega), if_neg (by omega)]
    rfl
  · have half : decide (d ≤ 2 * (n % d)) = true := decide_eq_true (by omega)
    have rest : decide (n % d ≠ 0 ∧ 2 * (n % d) ≠ d) = true := decide_eq_true (by omega)
    rw [half, rest, if_neg (by omega), if_pos more]
    rfl

theorem toModel_infinity (negative : Bool) :
    (ofMagnitude negative infinity).toModel = Float.Model.pack (.infinity (signOf negative)) := by
  change Float.Model.ofBits _ = _
  rw [Float.Model.ofBits, ofMagnitude_bitVec negative (by decide),
    unpack_bitsOf_infinite _ (Nat.le_refl _) (by decide), if_pos rfl]

theorem pack_valueOf_infinite (s : Sign) (h : infinity ≤ m) :
    UnpackedFloat.pack Format.binary64 (valueOf s m) =
      UnpackedFloat.pack Format.binary64 (.infinity s) := by
  have bound : 2047 * 2 ^ 52 ≤ m := h
  rw [valueOf, dif_neg (by omega), if_neg (by omega), pack_finite, if_pos (by omega)]
  rfl

theorem ofModel_valueOf (negative : Bool) (m : Nat) :
    Float.ofModel (Float.Model.pack (valueOf (signOf negative) m)) =
      ofMagnitude negative (min infinity m) := by
  obtain finite | infinite := Nat.lt_or_ge m infinity
  · rw [Nat.min_eq_right (Nat.le_of_lt finite)]
    exact congrArg Float.ofModel (toModel_ofMagnitude negative finite).symm
  · rw [Nat.min_eq_left infinite]
    refine congrArg Float.ofModel (Eq.trans ?_ (toModel_infinity negative).symm)
    have bits := congrArg UInt64.ofBitVec (pack_valueOf_infinite (signOf negative) infinite)
    exact (Float.Model.mk.injEq ..).mpr bits

variable {n d num den u : Nat}

theorem shiftToTargetExponent_eq (m : Nat) (e : Int) (a : Accuracy) {k : Nat}
    (shift : (k : Int) = max 0 (max ((m.log2 : Int) - 52) (-1074 - e))) :
    shiftToTargetExponent Format.binary64 m e a =
      (ExtendedMantissa.ofMantissaAndAccuracy m a >>> k, e + k) := by
  have amount : (Format.binary64.targetExponent (totalExponent m e) - e).toNat = k := by
    rw [targetExponent_eq, totalExponent]
    omega
  simp only [shiftToTargetExponent, shiftToExponent, amount]

theorem le_halfEven (num den : Nat) : num / den ≤ halfEven num den := by
  rw [halfEven]
  split
  · exact Nat.le_refl _
  · split
    · exact Nat.le_succ _
    · exact Nat.le_add_right _ _

theorem roundWithAccuracy_div (s : Sign) (hd : 0 < d) (large : 2 ^ 52 ≤ n / d) {e : Int} {k r : Nat}
    (shift : (k : Int) = max (((n / d).log2 : Int) - 52) (-1074 - e))
    (place : (r : Int) = e + k + 1074) :
    roundWithAccuracy Format.binary64 s (n / d) e (accuracyOfFraction (n % d) d) =
      valueOf s (r * 2 ^ 52 + halfEven n (d * 2 ^ k)) := by
  have pos : n / d ≠ 0 := by omega
  have log : 52 ≤ (n / d).log2 := (Nat.le_log2 pos).2 large
  obtain ⟨q, hq⟩ : ∃ q, q = halfEven n (d * 2 ^ k) := ⟨_, rfl⟩
  have whole : n / (d * 2 ^ k) = n / d / 2 ^ k := (Nat.div_div_eq_div_mul n d _).symm
  have high : q ≤ 2 ^ 53 := by
    refine Nat.le_trans (hq ▸ halfEven_le n (d * 2 ^ k)) (Nat.succ_le_of_lt ?_)
    rw [whole, Nat.div_lt_iff_lt_mul (Nat.two_pow_pos k), ← Nat.pow_add]
    exact Nat.lt_of_lt_of_le Nat.lt_log2_self (Nat.pow_le_pow_right (by decide) (by omega))
  rw [← hq, roundWithAccuracy_eq, shiftToTargetExponent_eq _ e _ (k := k) (by omega),
    ofMantissaAndAccuracy_div n hd, shiftRight_extended n hd]
  dsimp only
  rw [roundedMantissa_extended, ← hq]
  obtain low | low := Nat.lt_or_ge q (2 ^ 52)
  · -- fewer bits than 53 are left at the last place only
    have last : r = 0 := by
      by_contra ne
      refine absurd (hq ▸ le_halfEven n (d * 2 ^ k)) (Nat.not_le_of_lt (Nat.lt_of_lt_of_le low ?_))
      rw [whole, Nat.le_div_iff_mul_le (Nat.two_pow_pos k), ← Nat.pow_add]
      exact Nat.le_trans (Nat.pow_le_pow_right (by decide) (by omega)) (Nat.log2_self_le pos)
    have short : q.log2 ≤ 52 := by
      by_cases zero : q = 0
      · subst zero
        exact Nat.zero_le 52
      · exact Nat.le_of_lt ((Nat.log2_lt zero).2 low)
    have exponent : e + k + (0 : Nat) = -1074 := by omega
    simp only [shiftToTargetExponent_eq q (e + k) .exact (k := 0) (by omega), mantissa_shift,
      Nat.pow_zero, Nat.div_one, last, Nat.zero_mul, Nat.zero_add, exponent]
    exact ofMantissa_subnormal s low
  · obtain ⟨shift', log', mantissa⟩ : ∃ i, q.log2 = 52 + i ∧
      (q / 2 ^ i = 2 ^ 52 + (r * 2 ^ 52 + q) % 2 ^ 52 ∧
        (r * 2 ^ 52 + q) / 2 ^ 52 = r + i + 1) := by
      obtain less | same := Nat.lt_or_eq_of_le high
      · refine ⟨0, (Nat.log2_eq_iff (by omega)).2 (by omega), by omega, by omega⟩
      · refine ⟨1, ?_, by omega, by omega⟩
        rw [same]
        exact Nat.log2_two_pow
    have exponent : e + k + shift' = (r + shift' + 1 : Nat) - 1075 := by omega
    simp only [shiftToTargetExponent_eq q (e + k) .exact (k := shift') (by omega), mantissa_shift,
      exponent, mantissa.1, ← mantissa.2]
    exact ofMantissa_normal s (by omega)

theorem roundWithAccuracy_eq_nearest (negative : Bool) (hd : 0 < d) (hden : 0 < den)
    (large : 2 ^ 52 ≤ n / d) {j : Nat} (same : num * one * (d * 2 ^ j) = n * 2 ^ u * den) :
    Float.ofModel (Float.Model.pack (roundWithAccuracy Format.binary64 (signOf negative) (n / d)
      ((u : Int) - j - 1074) (accuracyOfFraction (n % d) d))) =
        ofMagnitude negative (nearest num den) := by
  have scaled : 0 < d * 2 ^ j := Nat.mul_pos hd (Nat.two_pow_pos j)
  have quotient : num * one / den = n * 2 ^ u / d / 2 ^ j := by
    rw [← Nat.mul_div_mul_right _ _ scaled, same, Nat.mul_comm den, Nat.mul_div_mul_right _ _ hden,
      Nat.div_div_eq_div_mul]
  have pos : n / d ≠ 0 := by omega
  have log : (n * 2 ^ u / d).log2 = (n / d).log2 + u := by
    have cut : n * 2 ^ u / d / 2 ^ u = n / d := by
      rw [Nat.div_div_eq_div_mul, Nat.mul_div_mul_right _ _ (Nat.two_pow_pos u)]
    rw [← cut] at pos ⊢
    exact (log2_div_two_pow u pos).symm
  have bits : 52 ≤ (n / d).log2 := (Nat.le_log2 pos).2 large
  obtain ⟨r, place⟩ : ∃ r, r = (num * one / den).log2 - 52 := ⟨_, rfl⟩
  have size : r = (n / d).log2 + u - j - 52 := by
    rw [place, quotient, Nat.log2_eq_log_two, Nat.log_div_base_pow, ← Nat.log2_eq_log_two, log]
  obtain ⟨k, shift⟩ : ∃ k, k = max ((n / d).log2 - 52) (j - u) := ⟨_, rfl⟩
  have rounded : halfEven (num * one) (den * 2 ^ r) = halfEven n (d * 2 ^ k) := by
    refine halfEven_congr (Nat.mul_pos hden (Nat.two_pow_pos _))
      (Nat.mul_pos hd (Nat.two_pow_pos _)) ?_
    refine Nat.eq_of_mul_eq_mul_right (Nat.two_pow_pos j) ?_
    have places : (2 : Nat) ^ u * 2 ^ k = 2 ^ r * 2 ^ j := by
      rw [← Nat.pow_add, ← Nat.pow_add]
      congr 1
      omega
    calc num * one * (d * 2 ^ k) * 2 ^ j = num * one * (d * 2 ^ j) * 2 ^ k := by ring
      _ = n * den * (2 ^ u * 2 ^ k) := by rw [same]; ring
      _ = n * (den * 2 ^ r) * 2 ^ j := by rw [places]; ring
  rw [roundWithAccuracy_div _ hd large (k := k) (r := r) (by omega) (by omega), ofModel_valueOf,
    nearest, ← place, rounded]

theorem two_pow_mul_one (k : Nat) : 2 ^ k * one = 2 ^ (k + 1074) := by
  rw [one, Nat.pow_add, binaryPlaces]

theorem one_pos : 0 < one :=
  Nat.two_pow_pos binaryPlaces

theorem valueOf_of_le (s : Sign) (normal : 2 ^ 52 ≤ m) : ∃ pos,
    valueOf s m = .finite s (2 ^ 52 + m % 2 ^ 52) ((m / 2 ^ 52 - 1 : Nat) - 1074) pos := by
  have place : ((m / 2 ^ 52 : Nat) : Int) - 1075 = ((m / 2 ^ 52 - 1 : Nat) : Int) - 1074 := by omega
  refine ⟨Nat.add_pos_left (by decide) _, ?_⟩
  rw [valueOf, dif_neg (by omega), if_neg (by omega)]
  congr 1

theorem valueOf_finite (s : Sign) (ne : m ≠ 0) :
    ∃ M u pos, valueOf s m = .finite s M ((u : Nat) - 1074) pos ∧
    M < 2 ^ 53 ∧ unitsOf m = M * 2 ^ u := by
  by_cases subnormal : m < 2 ^ 52
  · refine ⟨m, 0, Nat.pos_of_ne_zero ne, ?_, Nat.lt_trans subnormal (by decide), ?_⟩
    · rw [valueOf, dif_neg ne, if_pos subnormal]
      rfl
    · rw [unitsOf, if_pos subnormal, Nat.pow_zero, Nat.mul_one]
  · obtain ⟨pos, value⟩ := valueOf_of_le s (Nat.le_of_not_lt subnormal)
    exact ⟨_, _, pos, value, by omega, by rw [unitsOf, if_neg subnormal]⟩

theorem valueOf_normal (s : Sign) (large : one ≤ unitsOf m) :
    ∃ M u pos, valueOf s m = .finite s M ((u : Nat) - 1074) pos ∧
    2 ^ 52 ≤ M ∧ M < 2 ^ 53 ∧ unitsOf m = M * 2 ^ u ∧ 1022 ≤ u := by
  have normal : ¬m < 2 ^ 52 := fun less => by
    rw [unitsOf, if_pos less] at large
    exact Nat.not_lt_of_ge (Nat.pow_le_pow_right (by decide) (by decide))
      (Nat.lt_of_le_of_lt large less)
  have split : unitsOf m = (2 ^ 52 + m % 2 ^ 52) * 2 ^ (m / 2 ^ 52 - 1) := by
    rw [unitsOf, if_neg normal]
  obtain ⟨pos, value⟩ := valueOf_of_le s (Nat.le_of_not_lt normal)
  refine ⟨_, _, pos, value, by omega, by omega, split, ?_⟩
  rw [split, one] at large
  have bound : 2 ^ binaryPlaces < 2 ^ (53 + (m / 2 ^ 52 - 1)) := by
    refine Nat.lt_of_le_of_lt large ?_
    rw [Nat.pow_add]
    exact Nat.mul_lt_mul_of_pos_right (by omega) (Nat.two_pow_pos _)
  have places : binaryPlaces < 53 + (m / 2 ^ 52 - 1) :=
    (Nat.pow_lt_pow_iff_right (by decide)).1 bound
  have value : binaryPlaces = 1074 := rfl
  omega

theorem unpack_ofMagnitude (negative : Bool) (h : m < infinity) :
    (ofMagnitude negative m).toModel.unpack = valueOf (signOf negative) m := by
  have magnitude := magnitude_ofMagnitude negative h
  rw [unpack_toModel (magnitude.symm ▸ h), magnitude, isNegative_ofMagnitude negative h]

theorem ofMagnitude_eq (negative : Bool) (h : m < infinity) :
    Float.ofModel (Float.Model.pack (valueOf (signOf negative) m)) = ofMagnitude negative m := by
  rw [ofModel_valueOf, Nat.min_eq_right (Nat.le_of_lt h)]

theorem mul_eq (negative : Bool) (ha : a < infinity) (hb : b < infinity) :
    ofMagnitude negative a * ofMagnitude false b = Float.ofModel (Float.Model.pack
      (UnpackedFloat.mul Format.binary64 (valueOf (signOf negative) a) (valueOf .positive b))) := by
  change Float.ofModel (Float.Model.pack (UnpackedFloat.mul _
    (ofMagnitude negative a).toModel.unpack (ofMagnitude false b).toModel.unpack)) = _
  rw [unpack_ofMagnitude _ ha, unpack_ofMagnitude _ hb]
  rfl

theorem div_eq (negative : Bool) (ha : a < infinity) (hb : b < infinity) :
    ofMagnitude negative a / ofMagnitude false b = Float.ofModel (Float.Model.pack
      (UnpackedFloat.div Format.binary64 (valueOf (signOf negative) a) (valueOf .positive b))) := by
  change Float.ofModel (Float.Model.pack (UnpackedFloat.div _
    (ofMagnitude negative a).toModel.unpack (ofMagnitude false b).toModel.unpack)) = _
  rw [unpack_ofMagnitude _ ha, unpack_ofMagnitude _ hb]
  rfl

theorem nearest_zero (den : Nat) : nearest 0 den = 0 := by
  simp [nearest, halfEven]

theorem signOf_mul_positive (negative : Bool) : signOf negative * .positive = signOf negative := by
  cases negative <;> rfl

theorem signOf_div_positive (negative : Bool) : signOf negative / .positive = signOf negative := by
  cases negative <;> rfl

theorem divCore_normal {u v : Nat} (lowM : 2 ^ 52 ≤ M) (highM : M < 2 ^ 53) (lowN : 2 ^ 52 ≤ N)
    (highN : N < 2 ^ 53) (hu : 1022 ≤ u) (bound : v ≤ 1922) :
    divCore Format.binary64 M (u - 1074) N (v - 1074) =
      (M * 2 ^ 53 / N, ((u + 1021 - v : Nat) : Int) - (0 : Nat) - 1074,
        accuracyOfFraction (M * 2 ^ 53 % N) N) := by
  have logM : M.log2 = 52 := (Nat.log2_eq_iff (by omega)).2 ⟨lowM, highM⟩
  have logN : N.log2 = 52 := (Nat.log2_eq_iff (by omega)).2 ⟨lowN, highN⟩
  have place : min ((u : Int) - 1074 - (v - 1074)) (Format.binary64.targetExponent
      (totalExponent M (u - 1074) - totalExponent N (v - 1074))) =
      ((u + 1021 - v : Nat) : Int) - (0 : Nat) - 1074 := by
    rw [targetExponent_eq, totalExponent, totalExponent, logM, logN]
    omega
  have shift :
      ((u : Int) - 1074 - (v - 1074) - (((u + 1021 - v : Nat) : Int) - (0 : Nat) - 1074)).toNat =
      53 := by omega
  simp only [divCore, place, shift, Nat.shiftLeft_eq]

variable {M N : Nat} {e f : Int} {pos : 0 < M} {pos' : 0 < N}

theorem mul_finite (s s' : Sign) : UnpackedFloat.mul Format.binary64 (.finite s M e pos)
    (.finite s' N f pos') = roundWithAccuracy Format.binary64 (s * s') (M * N) (e + f) .exact :=
  rfl

theorem div_finite (s s' : Sign) : UnpackedFloat.div Format.binary64 (.finite s M e pos)
    (.finite s' N f pos') = roundWithAccuracy Format.binary64 (s / s')
      (divCore Format.binary64 M e N f).1 (divCore Format.binary64 M e N f).2.1
      (divCore Format.binary64 M e N f).2.2 :=
  rfl

section Positive

variable {a b : Nat} (hb : b < infinity) (lb : one ≤ unitsOf b)
include hb lb

theorem zero_mul_ofMagnitude (negative : Bool) :
    ofMagnitude negative 0 * ofMagnitude false b = ofMagnitude negative 0 := by
  have zero : 0 < infinity := by decide
  obtain ⟨N, v, _, right, -⟩ := valueOf_normal .positive lb
  rw [mul_eq negative zero hb, ← ofMagnitude_eq negative zero, right]
  cases negative <;> rfl

theorem zero_div_ofMagnitude (negative : Bool) :
    ofMagnitude negative 0 / ofMagnitude false b = ofMagnitude negative 0 := by
  have zero : 0 < infinity := by decide
  obtain ⟨N, v, _, right, -⟩ := valueOf_normal .positive lb
  rw [div_eq negative zero hb, ← ofMagnitude_eq negative zero, right]
  cases negative <;> rfl

variable {negative : Bool}

theorem mul_ofMagnitude (ha : a < infinity) (hden : 0 < den)
    (same : num * one * one = unitsOf a * unitsOf b * den) :
    ofMagnitude negative a * ofMagnitude false b = ofMagnitude negative (nearest num den) := by
  by_cases zero : a = 0
  · subst zero
    have none : num = 0 := by
      have product : num * one * one = 0 := by
        rw [same, show unitsOf 0 = 0 from rfl, Nat.zero_mul, Nat.zero_mul]
      simpa [Nat.ne_of_gt one_pos] using product
    rw [none, nearest_zero, zero_mul_ofMagnitude hb lb]
  obtain ⟨N, v, _, right, lowN, -, unitsB, -⟩ := valueOf_normal .positive lb
  obtain ⟨M, u, posM, left, -, unitsA⟩ := valueOf_finite (signOf negative) zero
  obtain ⟨j, places, one_eq⟩ : ∃ j : Nat, (j : Int) = 1074 ∧ one = 2 ^ j := ⟨binaryPlaces, rfl, rfl⟩
  have exponent : (u : Int) - 1074 + (v - 1074) = ((u + v : Nat) : Int) - j - 1074 := by omega
  have large : 2 ^ 52 ≤ M * N / 1 := by
    rw [Nat.div_one]
    exact Nat.le_trans lowN (Nat.le_mul_of_pos_left N posM)
  have value : num * one * (1 * 2 ^ j) = M * N * 2 ^ (u + v) * den := by
    rw [Nat.one_mul, ← one_eq, Nat.pow_add, same, unitsA, unitsB]
    ring
  have rounded := roundWithAccuracy_eq_nearest negative Nat.one_pos hden large value
  rw [Nat.div_one, Nat.mod_one] at rounded
  rw [mul_eq negative ha hb, ← rounded, left, right, mul_finite, exponent,
    signOf_mul_positive]
  rfl

theorem div_ofMagnitude (ha : a < infinity) (la : a ≠ 0 → one ≤ unitsOf a) (hden : 0 < den)
    (small : unitsOf b ≤ 2 ^ 100 * one) (same : num * unitsOf b = unitsOf a * den) :
    ofMagnitude negative a / ofMagnitude false b = ofMagnitude negative (nearest num den) := by
  by_cases zero : a = 0
  · subst zero
    have none : num = 0 := by
      have product : num * unitsOf b = 0 := by rw [same, show unitsOf 0 = 0 from rfl, Nat.zero_mul]
      simpa [Nat.ne_of_gt (Nat.lt_of_lt_of_le one_pos lb)] using product
    rw [none, nearest_zero, zero_div_ofMagnitude hb lb]
  obtain ⟨M, u, _, left, lowM, highM, unitsA, hu⟩ := valueOf_normal (signOf negative) (la zero)
  obtain ⟨N, v, _, right, lowN, highN, unitsB, -⟩ := valueOf_normal .positive lb
  have bound : v ≤ 1922 := by
    have power : 2 ^ (52 + v) ≤ 2 ^ (100 + 1074) :=
      calc 2 ^ (52 + v) = 2 ^ 52 * 2 ^ v := Nat.pow_add 2 52 v
        _ ≤ N * 2 ^ v := Nat.mul_le_mul_right _ lowN
        _ = unitsOf b := unitsB.symm
        _ ≤ 2 ^ 100 * one := small
        _ = _ := two_pow_mul_one 100
    have := (Nat.pow_le_pow_iff_right (by decide)).1 power
    omega
  have large : 2 ^ 52 ≤ M * 2 ^ 53 / N := by
    rw [Nat.le_div_iff_mul_le (by omega)]
    omega
  have value : num * one * (N * 2 ^ 0) = M * 2 ^ 53 * 2 ^ (u + 1021 - v) * den := by
    rw [Nat.pow_zero, Nat.mul_one]
    refine Nat.eq_of_mul_eq_mul_right (Nat.two_pow_pos v) ?_
    have places : 2 ^ 53 * 2 ^ (u + 1021 - v) * 2 ^ v = 2 ^ u * one := by
      rw [two_pow_mul_one, ← Nat.pow_add, ← Nat.pow_add]
      congr 1
      omega
    calc num * one * N * 2 ^ v = num * unitsOf b * one := by rw [unitsB]; ring
      _ = M * (2 ^ u * one) * den := by rw [same, unitsA]; ring
      _ = M * 2 ^ 53 * 2 ^ (u + 1021 - v) * den * 2 ^ v := by rw [← places]; ring
  have rounded := roundWithAccuracy_eq_nearest negative (by omega) hden large value
  rw [div_eq negative ha hb, ← rounded, left, right, div_finite,
    divCore_normal lowM highM lowN highN hu bound, signOf_div_positive]

end Positive

theorem unitsOf_place (r : Nat) (low : 2 ^ 52 ≤ q) (high : q < 2 ^ 53) :
    unitsOf (r * 2 ^ 52 + q) = q * 2 ^ r := by
  have mantissa : 2 ^ 52 + (r * 2 ^ 52 + q) % 2 ^ 52 = q := by omega
  have place : (r * 2 ^ 52 + q) / 2 ^ 52 - 1 = r := by omega
  rw [unitsOf, if_neg (by omega), mantissa, place]

theorem exists_unitsOf (r : Nat) (h : q < 2 ^ 53) :
    ∃ m, m ≤ r * 2 ^ 52 + q ∧ unitsOf m = q * 2 ^ r := by
  induction r generalizing q with
  | zero =>
    obtain low | low := Nat.lt_or_ge q (2 ^ 52)
    · exact ⟨q, by omega, by rw [unitsOf, if_pos low, Nat.pow_zero, Nat.mul_one]⟩
    · exact ⟨_, Nat.le_refl _, unitsOf_place 0 low h⟩
  | succ r ih =>
    obtain low | low := Nat.lt_or_ge q (2 ^ 52)
    · obtain ⟨m, bound, value⟩ := ih (q := 2 * q) (by omega)
      have place := Nat.succ_mul r (2 ^ 52)
      refine ⟨m, Nat.le_trans bound (by omega), ?_⟩
      rw [value, Nat.pow_succ, Nat.mul_comm 2 q, Nat.mul_assoc, Nat.mul_comm 2]
    · exact ⟨_, Nat.le_refl _, unitsOf_place (r + 1) low h⟩

theorem unitsOf_nearest (h : q < 2 ^ 53) (hp : p ≤ 900) :
    nearest (q * 2 ^ p) 1 < infinity ∧ unitsOf (nearest (q * 2 ^ p) 1) = q * 2 ^ p * one := by
  obtain ⟨m, bound, value⟩ := exists_unitsOf (p + 1074) h
  rw [← two_pow_mul_one, ← Nat.mul_assoc] at value
  have finite : m < infinity := by
    have top : (900 + 1074 + 1) * 2 ^ 52 ≤ 2047 * 2 ^ 52 := by decide
    have places := Nat.mul_le_mul_right (2 ^ 52) (Nat.add_le_add_right hp 1074)
    change m < 2047 * 2 ^ 52
    omega
  have whole : nearest (q * 2 ^ p) 1 = m :=
    nearest_eq finite Nat.one_pos (by rw [value, Nat.mul_one])
  exact whole.symm ▸ ⟨finite, value⟩

end GameBalance.Double
