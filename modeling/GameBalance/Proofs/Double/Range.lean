import GameBalance.Proofs.Double.Bits
import Mathlib.Data.Nat.Log

namespace GameBalance.Double

open Float.Model Float.Model.UnpackedFloat

theorem log2_mul_two_pow (k : Nat) (h : m ≠ 0) : (m * 2 ^ k).log2 = m.log2 + k := by
  rw [Nat.log2_eq_iff (Nat.mul_ne_zero h (Nat.ne_of_gt (Nat.two_pow_pos k))), Nat.pow_add,
    Nat.add_right_comm, Nat.pow_add]
  exact ⟨Nat.mul_le_mul_right _ (Nat.log2_self_le h),
    Nat.mul_lt_mul_of_pos_right Nat.lt_log2_self (Nat.two_pow_pos k)⟩

theorem log2_div_two_pow (k : Nat) (h : m / 2 ^ k ≠ 0) : (m / 2 ^ k).log2 + k = m.log2 := by
  have pos : m ≠ 0 := by
    rintro rfl
    exact h (Nat.zero_div _)
  have large : k ≤ m.log2 :=
    (Nat.le_log2 pos).2 (Nat.le_of_not_lt fun lt => h (Nat.div_eq_of_lt lt))
  rw [Nat.log2_eq_log_two] at large ⊢
  rw [Nat.log2_eq_log_two, Nat.log_div_base_pow]
  exact Nat.sub_add_cancel large

theorem log2_succ_le (m : Nat) : (m + 1).log2 ≤ m.log2 + 1 := by
  have := Nat.lt_log2_self (n := m)
  refine Nat.le_of_lt_succ ((Nat.log2_lt (Nat.succ_ne_zero m)).2 ?_)
  rw [Nat.pow_succ]
  omega

theorem log2_mono {m n : Nat} (h : m ≤ n) : m.log2 ≤ n.log2 := by
  rw [Nat.log2_eq_log_two, Nat.log2_eq_log_two]
  exact Nat.log_mono_right h

def Below (k : Int) : UnpackedFloat → Prop
  | .zero _ => True
  | .finite _ m e _ => totalExponent m e ≤ k
  | .infinity _ => False
  | .notANumber => False

theorem Below.mono (h : Below j u) (le : j ≤ k) : Below k u := by
  cases u with
  | zero => trivial
  | finite s m e pos => exact Int.le_trans h le
  | infinity => cases h
  | notANumber => cases h

theorem mantissa_shiftRight (em : ExtendedMantissa) (k : Nat) :
    (em >>> k).mantissa = em.mantissa / 2 ^ k := by
  induction k with
  | zero => exact (Nat.div_one _).symm
  | succ k ih =>
    change (em >>> k).mantissa / 2 = _
    rw [ih, Nat.div_div_eq_div_mul, Nat.pow_succ]

theorem roundedMantissa_le (em : ExtendedMantissa) : em.roundedMantissa ≤ em.mantissa + 1 := by
  obtain ⟨m, _ | _, _ | _⟩ := em
  · exact Nat.le_succ m
  · exact Nat.le_succ m
  · change m + m % 2 ≤ m + 1
    omega
  · exact Nat.le_refl _

theorem mantissa_ofMantissaAndAccuracy (m : Nat) (a : Accuracy) :
    (ExtendedMantissa.ofMantissaAndAccuracy m a).mantissa = m := by
  obtain _ | _ | _ | _ := a <;> rfl

theorem mantissa_shift (m : Nat) (a : Accuracy) (k : Nat) :
    (ExtendedMantissa.ofMantissaAndAccuracy m a >>> k).mantissa = m / 2 ^ k := by
  rw [mantissa_shiftRight, mantissa_ofMantissaAndAccuracy]

theorem totalExponent_div (n : Nat) (h : m / 2 ^ n ≠ 0) :
    totalExponent (m / 2 ^ n) (e + n) = totalExponent m e := by
  have log := log2_div_two_pow n h
  simp only [totalExponent]
  omega

theorem totalExponent_mul (n : Nat) (h : m ≠ 0) :
    totalExponent (m * 2 ^ n) (e - n) = totalExponent m e := by
  have log := log2_mul_two_pow n h
  simp only [totalExponent]
  omega

theorem totalExponent_succ_le (n : Nat) (h : totalExponent m e ≤ k) (place : e + n ≤ k)
    (hr : r ≤ m / 2 ^ n + 1) :
    totalExponent r (e + n) ≤ k + 1 := by
  by_cases small : m / 2 ^ n = 0
  · have log : r.log2 = 0 := by
      obtain rfl | rfl : r = 0 ∨ r = 1 := by omega
      · rfl
      · rfl
    simp only [totalExponent]
    omega
  · have total := totalExponent_div (e := e) n small
    have log : r.log2 ≤ (m / 2 ^ n).log2 + 1 := Nat.le_trans (log2_mono hr) (log2_succ_le _)
    simp only [totalExponent] at total h ⊢
    omega

/-- What rounding answers in its last step: zero if the shifts leave no bit of the mantissa. -/
def ofMantissa (s : Sign) (m : Nat) (e : Int) : UnpackedFloat :=
  if zero : m = 0 then .zero s else .finite s m e (Nat.pos_of_ne_zero zero)

theorem roundWithAccuracy_eq (s : Sign) (m : Nat) (e : Int) (a : Accuracy) :
    roundWithAccuracy Format.binary64 s m e a =
      let first := shiftToTargetExponent Format.binary64 m e a
      let second := shiftToTargetExponent Format.binary64 first.1.roundedMantissa first.2 .exact
      ofMantissa s second.1.mantissa second.2 :=
  rfl

theorem ofMantissa_subnormal (s : Sign) (h : m < 2 ^ 52) :
    ofMantissa s m (-1074) = valueOf s m := by
  rw [ofMantissa, valueOf]
  exact dite_congr rfl (fun _ => rfl) fun _ => (if_pos h).symm

theorem ofMantissa_normal (s : Sign) (h : 2 ^ 52 ≤ m) :
    ofMantissa s (2 ^ 52 + m % 2 ^ 52) ((m / 2 ^ 52 : Nat) - 1075) = valueOf s m := by
  rw [ofMantissa, valueOf, dif_neg (by omega), dif_neg (by omega), if_neg (Nat.not_lt_of_le h)]

theorem below_ofMantissa (s : Sign) (h : m ≠ 0 → totalExponent m e ≤ k) :
    Below k (ofMantissa s m e) := by
  by_cases zero : m = 0
  · rw [ofMantissa, dif_pos zero]
    trivial
  · rw [ofMantissa, dif_neg zero]
    exact h zero

theorem targetExponent_eq (k : Int) :
    Format.binary64.targetExponent k = max (k - 53) (-1074) :=
  rfl

theorem below_roundWithAccuracy (s : Sign) (a : Accuracy) (h : totalExponent m e ≤ k)
    (hk : -1074 ≤ k) :
    Below (k + 1) (roundWithAccuracy Format.binary64 s m e a) := by
  have place : e + (Format.binary64.targetExponent (totalExponent m e) - e).toNat ≤ k := by
    rw [targetExponent_eq]
    simp only [totalExponent] at h ⊢
    omega
  rw [roundWithAccuracy_eq]
  refine below_ofMantissa s fun left => ?_
  simp only [shiftToTargetExponent, shiftToExponent, mantissa_shift] at left ⊢
  rw [totalExponent_div _ left]
  refine totalExponent_succ_le _ h place ?_
  rw [← mantissa_shift m a]
  exact roundedMantissa_le _

theorem below_round (s : Sign) (h : totalExponent m e ≤ k) (hk : -1074 ≤ k) :
    Below (k + 1) (UnpackedFloat.round Format.binary64 s m e) := by
  simp only [UnpackedFloat.round, decreaseExponent, Nat.shiftLeft_eq]
  refine below_roundWithAccuracy s _ ?_ hk
  by_cases zero : m = 0
  · subst zero
    rw [Nat.zero_mul]
    simp only [totalExponent] at h ⊢
    omega
  · rwa [totalExponent_mul _ zero]

theorem below_mul (hu : Below j u) (hv : Below k v) (hk : -1074 ≤ j + k) :
    Below (j + k + 1) (UnpackedFloat.mul Format.binary64 u v) := by
  cases u with
  | infinity => cases hu
  | notANumber => cases hu
  | zero s =>
    cases v with
    | infinity => cases hv
    | notANumber => cases hv
    | zero => trivial
    | finite => trivial
  | finite s m e pos =>
    cases v with
    | infinity => cases hv
    | notANumber => cases hv
    | zero => trivial
    | finite s' m' e' pos' =>
      refine below_roundWithAccuracy _ _ ?_ hk
      have log : (m * m').log2 < m.log2 + 1 + (m'.log2 + 1) := by
        rw [Nat.log2_lt (Nat.mul_ne_zero (Nat.ne_of_gt pos) (Nat.ne_of_gt pos')), Nat.pow_add]
        exact Nat.mul_lt_mul'' Nat.lt_log2_self Nat.lt_log2_self
      have first : m.log2 + 1 + e ≤ j := hu
      have second : m'.log2 + 1 + e' ≤ k := hv
      simp only [totalExponent]
      omega

theorem below_normalize (z : Sign) (h : totalExponent i.natAbs e ≤ k) (hk : -1074 ≤ k) :
    Below (k + 1) (UnpackedFloat.normalize Format.binary64 i e z) := by
  rw [UnpackedFloat.normalize]
  split
  · rename_i negative
    have size : (-i).toNat = i.natAbs := by
      have := Int.compare_eq_lt.1 negative
      omega
    exact below_round _ (size ▸ h) hk
  · trivial
  · rename_i positive
    have size : i.toNat = i.natAbs := by
      have := Int.compare_eq_gt.1 positive
      omega
    exact below_round _ (size ▸ h) hk

theorem totalExponent_add {i j : Int} (hi : totalExponent i.natAbs e ≤ k)
    (hj : totalExponent j.natAbs e ≤ k) (ne : i ≠ 0) : totalExponent (i + j).natAbs e ≤ k + 1 := by
  have larger : (max i.natAbs j.natAbs).log2 + 1 + e ≤ k := by
    obtain le | le := Nat.le_total i.natAbs j.natAbs
    · rwa [Nat.max_eq_right le]
    · rwa [Nat.max_eq_left le]
  have double := Nat.log2_two_mul (n := max i.natAbs j.natAbs) (by omega)
  have sum : (i + j).natAbs ≤ 2 * max i.natAbs j.natAbs := by omega
  have log := log2_mono sum
  simp only [totalExponent]
  omega

theorem natAbs_apply (s : Sign) (m : Nat) : (s.apply m).natAbs = m := by
  cases s with
  | negative => exact (Int.natAbs_neg m).trans (Int.natAbs_natCast m)
  | positive => exact Int.natAbs_natCast m

theorem below_add (hu : Below k u) (hv : Below k v) (hk : -1074 ≤ k) :
    Below (k + 2) (UnpackedFloat.add Format.binary64 u v) := by
  cases u with
  | infinity => cases hu
  | notANumber => cases hu
  | zero s =>
    cases v with
    | infinity => cases hv
    | notANumber => cases hv
    | zero s' => cases s <;> cases s' <;> trivial
    | finite => exact hv.mono (by omega)
  | finite s m e pos =>
    cases v with
    | infinity => cases hv
    | notANumber => cases hv
    | zero => exact hu.mono (by omega)
    | finite s' m' e' pos' =>
      -- both mantissas are shifted to the smaller exponent, which changes neither value
      have aligned : ∀ {m : Nat} {e : Int} (s : Sign) (low : Int), 0 < m → low ≤ e →
          totalExponent m e ≤ k →
          totalExponent (s.apply (m <<< (e - low).toNat : Nat)).natAbs low ≤ k := by
        intro m e s low pos le h
        rw [natAbs_apply, Nat.shiftLeft_eq]
        have total := totalExponent_mul (e := e) (e - low).toNat (Nat.ne_of_gt pos)
        rw [show e - (e - low).toNat = low by omega] at total
        exact total ▸ h
      refine (below_normalize (k := k + 1) _ (totalExponent_add ?_ ?_ ?_) (by omega)).mono
        (by omega)
      · exact aligned s _ pos (Int.min_le_left e e') hu
      · exact aligned s' _ pos' (Int.min_le_right e e') hv
      · rw [← Int.natAbs_ne_zero, natAbs_apply, Nat.shiftLeft_eq]
        exact Nat.mul_ne_zero (Nat.ne_of_gt pos) (Nat.ne_of_gt (Nat.two_pow_pos _))

def Within (k : Nat) (x : Float) : Prop :=
  magnitude x < (k + 1023) * 2 ^ 52

theorem Within.mono (h : Within j x) (le : j ≤ k) : Within k x :=
  Nat.lt_of_lt_of_le h (Nat.mul_le_mul_right _ (Nat.add_le_add_right le 1023))

theorem Within.isFinite {x : Float} (h : Within k x) (hk : k ≤ 1024) : x.isFinite = true := by
  have bound : magnitude x < (k + 1023) * 2 ^ 52 := h
  have finite : (k + 1023) * 2 ^ 52 ≤ 2047 * 2 ^ 52 := Nat.mul_le_mul_right _ (by omega)
  exact isFinite_iff.2 (Nat.lt_of_lt_of_le bound finite)

theorem Within.below_unpack {x : Float} (h : Within k x) (hk : k ≤ 1024) :
    Below k x.toModel.unpack := by
  have bound : magnitude x < (k + 1023) * 2 ^ 52 := h
  rw [unpack_toModel (isFinite_iff.1 (h.isFinite hk))]
  obtain subnormal | normal := Nat.lt_or_ge (magnitude x) (2 ^ 52)
  · rw [← ofMantissa_subnormal _ subnormal]
    refine below_ofMantissa _ fun zero => ?_
    have log := (Nat.log2_lt zero).2 subnormal
    rw [totalExponent]
    omega
  · rw [← ofMantissa_normal _ normal]
    refine below_ofMantissa _ fun _ => ?_
    have log : (2 ^ 52 + magnitude x % 2 ^ 52).log2 = 52 := by
      rw [Nat.log2_eq_iff (by omega)]
      omega
    rw [totalExponent, log]
    omega

theorem packComponents_mod (s : Sign) (e : BitVec 11) (m : BitVec 52) :
    (packComponents Format.binary64 s e m).toNat % 2 ^ 63 = e.toNat * 2 ^ 52 + m.toNat := by
  have he := e.isLt
  have hm := m.isLt
  rw [toNat_packComponents, Nat.add_mul, Nat.mul_assoc, ← Nat.pow_add, Nat.add_assoc]
  omega

theorem within_pack {k : Nat} (h : Below k u) (hk : k ≤ 971) :
    Within k (Float.ofModel (Float.Model.pack u)) := by
  change (UnpackedFloat.pack Format.binary64 u).toNat % 2 ^ 63 < (k + 1023) * 2 ^ 52
  cases u with
  | infinity => cases h
  | notANumber => cases h
  | zero s =>
    change (packComponents Format.binary64 s 0#11 0#52).toNat % 2 ^ 63 < _
    rw [packComponents_mod]
    exact Nat.mul_pos (by omega) (Nat.two_pow_pos 52)
  | finite s m e pos =>
    have total : m.log2 + 1 + e ≤ k := h
    rw [pack_finite, if_neg (by omega)]
    split
    · rename_i log
      rw [packComponents_mod, BitVec.toNat_ofNat, Nat.mod_eq_of_lt (by omega)]
      have exponent : (e + 1075).toNat + 1 ≤ k + 1023 := by omega
      have mantissa := (BitVec.ofNat 52 m).isLt
      have place := Nat.mul_le_mul_right (2 ^ 52) exponent
      omega
    · have low : 2 ^ 52 ≤ (k + 1023) * 2 ^ 52 := Nat.le_mul_of_pos_left _ (by omega)
      rw [packComponents_mod]
      exact Nat.lt_of_lt_of_le (by simpa using (BitVec.ofNat 52 m).isLt) low

theorem Within.mul {x y : Float} (hx : Within j x) (hy : Within k y) (h : j + k + 1 ≤ 971) :
    Within (j + k + 1) (x * y) :=
  within_pack ((below_mul (hx.below_unpack (by omega)) (hy.below_unpack (by omega)) (by omega)).mono
    (by omega)) h

theorem Within.add {x y : Float} (hx : Within k x) (hy : Within k y) (h : k + 2 ≤ 971) :
    Within (k + 2) (x + y) :=
  within_pack ((below_add (hx.below_unpack (by omega)) (hy.below_unpack (by omega)) (by omega)).mono
    (by omega)) h

theorem halfEven_le (num den : Nat) : halfEven num den ≤ num / den + 1 := by
  rw [halfEven]
  split
  · exact Nat.le_succ _
  · split
    · exact Nat.le_refl _
    · omega

theorem nearest_lt_of_div (small : n * one / den < 2 ^ (k + binaryPlaces)) :
    nearest n den < (k + 1 + 1023) * 2 ^ 52 := by
  obtain ⟨p, hp⟩ : ∃ p, p = (n * one / den).log2 - 52 := ⟨_, rfl⟩
  have log : p ≤ k + 1021 := by
    by_cases zero : n * one / den = 0
    · rw [hp, zero]
      exact Nat.zero_le _
    · have := (Nat.log2_lt zero).2 small
      have places : binaryPlaces = 1074 := rfl
      omega
  have quotient : n * one / (den * 2 ^ p) < 2 ^ 53 := by
    rw [← Nat.div_div_eq_div_mul, Nat.div_lt_iff_lt_mul (Nat.two_pow_pos p), ← Nat.pow_add]
    exact Nat.lt_of_lt_of_le Nat.lt_log2_self (Nat.pow_le_pow_right (by decide) (by omega))
  have rounded := halfEven_le (n * one) (den * 2 ^ p)
  have total := Nat.mul_le_mul_right (2 ^ 52) log
  rw [nearest, ← hp]
  refine Nat.lt_of_le_of_lt (Nat.min_le_right _ _) ?_
  omega

theorem nearest_lt (h : n < 2 ^ k) (den : Nat) : nearest n den < (k + 1 + 1023) * 2 ^ 52 := by
  refine nearest_lt_of_div (Nat.lt_of_le_of_lt (Nat.div_le_self _ den) ?_)
  rw [one, Nat.pow_add]
  exact Nat.mul_lt_mul_of_pos_right h (Nat.two_pow_pos _)

theorem unitsOf_lt (h : m < (k + 1) * 2 ^ 52) : unitsOf m < 2 ^ (k + 53) := by
  have place : m / 2 ^ 52 - 1 ≤ k := by omega
  rw [unitsOf, Nat.add_comm k, Nat.pow_add]
  split
  · rename_i subnormal
    exact Nat.lt_of_lt_of_le (Nat.lt_trans subnormal (by decide))
      (Nat.le_mul_of_pos_right _ (Nat.two_pow_pos k))
  · calc (2 ^ 52 + m % 2 ^ 52) * 2 ^ (m / 2 ^ 52 - 1) < 2 ^ 53 * 2 ^ (m / 2 ^ 52 - 1) :=
          Nat.mul_lt_mul_of_pos_right (by omega) (Nat.two_pow_pos _)
      _ ≤ 2 ^ 53 * 2 ^ k := Nat.mul_le_mul_left _ (Nat.pow_le_pow_right (by decide) place)

theorem within_ofInt {i : Int} (h : i.natAbs < 2 ^ k) (hk : k ≤ 1000) :
    Within (k + 1) (ofInt i) := by
  have bound := nearest_lt h 1
  have finite : (k + 1 + 1023) * 2 ^ 52 ≤ 2047 * 2 ^ 52 := Nat.mul_le_mul_right _ (by omega)
  rw [Within, ofInt, magnitude_ofMagnitude _ (Nat.lt_of_lt_of_le bound finite)]
  exact bound

theorem within_ofUInt32 (n : UInt32) : Within 33 (ofUInt32 n) :=
  within_ofInt (k := 32) n.toNat_lt (by decide)

theorem within_ofInt32 (n : Int32) : Within 33 (ofInt32 n) := by
  have upper := n.toInt_lt
  have lower := n.le_toInt
  exact within_ofInt (k := 32) (by omega) (by decide)

end GameBalance.Double
