import GameBalance.Double.Power
import GameBalance.Double.Rounding
import GameBalance.Proofs.Double.Arithmetic

namespace GameBalance.Double

open Float.Model Float.Model.UnpackedFloat

def Unsigned : UnpackedFloat → Prop
  | .infinity s => s = .positive
  | .finite s _ _ _ => s = .positive
  | .zero _ => True
  | .notANumber => True

variable {u v : UnpackedFloat} {x y : Float}

theorem unsigned_ofMantissa (m : Nat) (e : Int) : Unsigned (ofMantissa .positive m e) := by
  by_cases zero : m = 0
  · rw [ofMantissa, dif_pos zero]
    trivial
  · rw [ofMantissa, dif_neg zero]
    rfl

theorem unsigned_round (m : Nat) (e : Int) (a : Accuracy) :
    Unsigned (roundWithAccuracy Format.binary64 .positive m e a) := by
  rw [roundWithAccuracy_eq]
  exact unsigned_ofMantissa _ _

theorem unsigned_normalize {i : Int} (h : 0 ≤ i) (e : Int) (s : Sign) :
    Unsigned (normalize Format.binary64 i e s) := by
  rw [UnpackedFloat.normalize]
  split
  · rename_i negative
    exact absurd (Int.compare_eq_lt.1 negative) (Int.not_lt.2 h)
  · trivial
  · exact unsigned_round _ _ _

theorem unsigned_add (hu : Unsigned u) (hv : Unsigned v) :
    Unsigned (UnpackedFloat.add Format.binary64 u v) := by
  cases u with
  | notANumber => trivial
  | infinity s =>
    obtain rfl : s = .positive := hu
    cases v with
    | infinity t =>
      obtain rfl : t = .positive := hv
      rfl
    | notANumber => trivial
    | zero | finite => rfl
  | zero s =>
    cases v with
    | zero t => cases s <;> cases t <;> trivial
    | notANumber | infinity | finite => exact hv
  | finite s m e pos =>
    obtain rfl : s = .positive := hu
    cases v with
    | finite t n f pos' =>
      obtain rfl : t = .positive := hv
      exact unsigned_normalize (Int.add_nonneg (Int.natCast_nonneg _) (Int.natCast_nonneg _)) _ _
    | zero => rfl
    | notANumber | infinity => exact hv

theorem unsigned_mul (hu : Unsigned u) (hv : Unsigned v) :
    Unsigned (UnpackedFloat.mul Format.binary64 u v) := by
  cases u with
  | notANumber => trivial
  | zero s => cases v <;> trivial
  | infinity s =>
    obtain rfl : s = .positive := hu
    cases v with
    | notANumber | zero => trivial
    | infinity t | finite t =>
      obtain rfl : t = .positive := hv
      rfl
  | finite s m e pos =>
    obtain rfl : s = .positive := hu
    cases v with
    | notANumber | zero => trivial
    | infinity t =>
      obtain rfl : t = .positive := hv
      rfl
    | finite t n f pos' =>
      obtain rfl : t = .positive := hv
      exact unsigned_round _ _ _

theorem unsigned_abs (u : UnpackedFloat) : Unsigned u.abs := by
  cases u <;> trivial

theorem unsigned_unpack (e : BitVec 11) (m : BitVec 52) :
    Unsigned
      (UnpackedFloat.unpack Format.binary64 (packComponents Format.binary64 .positive e m)) := by
  rw [unpack_packComponents, ofComponents]
  by_cases top : e = -1#11
  · rw [if_pos top]
    split <;> trivial
  rw [if_neg top]
  by_cases low : e = 0#11
  · rw [if_pos low]
    by_cases zero : m = 0#52
    · rw [dif_pos zero]
      trivial
    · rw [dif_neg zero]
      rfl
  · rw [if_neg low]
    rfl

theorem unsigned_pack (h : Unsigned u) : Unsigned (Float.Model.pack u).unpack := by
  change Unsigned (UnpackedFloat.unpack Format.binary64 (UnpackedFloat.pack Format.binary64 u))
  cases u with
  | notANumber => exact unsigned_unpack _ _
  | infinity s =>
    obtain rfl : s = .positive := h
    exact unsigned_unpack _ _
  | zero s =>
    have zero : UnpackedFloat.unpack Format.binary64
        (UnpackedFloat.pack Format.binary64 (valueOf s 0)) = valueOf s 0 := by
      rw [pack_valueOf s (by decide), unpack_bitsOf s (by decide)]
    exact zero.symm ▸ trivial
  | finite s m e pos =>
    obtain rfl : s = .positive := h
    rw [pack_finite]
    split
    · exact unsigned_unpack _ _
    · split
      · exact unsigned_unpack _ _
      · exact unsigned_unpack _ _

theorem unpack_zero : (0 : Float).toModel.unpack = .zero .positive :=
  rfl

theorem unsigned_of_nonneg (h : 0 ≤ x) : Unsigned x.toModel.unpack := by
  have h : UnpackedFloat.le (0 : Float).toModel.unpack x.toModel.unpack = true :=
    of_decide_eq_true h
  rw [unpack_zero] at h
  generalize x.toModel.unpack = u at h ⊢
  cases u with
  | notANumber | zero => trivial
  | infinity s =>
    cases s with
    | positive => rfl
    | negative => cases h
  | finite s m e pos =>
    cases s with
    | positive => rfl
    | negative => cases h

theorem Unsigned.add (hx : Unsigned x.toModel.unpack) (hy : Unsigned y.toModel.unpack) :
    Unsigned (x + y).toModel.unpack :=
  unsigned_pack (unsigned_add hx hy)

theorem Unsigned.mul (hx : Unsigned x.toModel.unpack) (hy : Unsigned y.toModel.unpack) :
    Unsigned (x * y).toModel.unpack :=
  unsigned_pack (unsigned_mul hx hy)

theorem not_lt_zero (h : Unsigned y.toModel.unpack) : ¬y < 0 := by
  intro lt
  have lt : UnpackedFloat.lt y.toModel.unpack (0 : Float).toModel.unpack = true :=
    of_decide_eq_true lt
  rw [unpack_zero] at lt
  generalize y.toModel.unpack = v at h lt
  cases v with
  | notANumber | zero => cases lt
  | infinity s | finite s =>
    obtain rfl : s = .positive := h
    cases lt

theorem eq_zero_of_isNegative (h : Unsigned x.toModel.unpack) (nan : x.isNaN = false)
    (negative : isNegative x = true) :
    magnitude x = 0 := by
  obtain finite | infinite := Nat.lt_or_ge (magnitude x) infinity
  · rw [unpack_toModel finite, negative] at h
    by_contra ne
    obtain ⟨M, u, pos, value, -⟩ := valueOf_finite (signOf true) ne
    rw [value] at h
    cases h
  · change x.toModel.unpack.isNaN = false at nan
    rw [unpack_toModel_infinite infinite, negative] at h nan
    split at h
    · cases h
    · rename_i ne
      rw [if_neg ne] at nan
      cases nan

theorem isNaN_of_nonneg (h : 0 ≤ x) : x.isNaN = false := by
  have h : UnpackedFloat.le (0 : Float).toModel.unpack x.toModel.unpack = true :=
    of_decide_eq_true h
  change x.toModel.unpack.isNaN = false
  rw [unpack_zero] at h
  generalize x.toModel.unpack = u at h ⊢
  cases u with
  | notANumber => cases h
  | infinity | zero | finite => rfl

theorem unsigned_powerOfZero (negative : Bool) (hy : Unsigned y.toModel.unpack) :
    Unsigned (powerOfZero negative y).toModel.unpack := by
  rw [powerOfZero]
  split
  · exact hy
  · rw [if_neg (not_lt_zero hy), unpack_ofMagnitude _ (by decide)]
    trivial

theorem Unsigned.power (hx : 0 ≤ x) (hy : Unsigned y.toModel.unpack) :
    Unsigned (power x y).toModel.unpack := by
  rw [Double.power]
  split
  · rfl
  · split
    · exact unsigned_powerOfZero _ hy
    · rename_i ne
      split
      · rename_i negative
        have zero := eq_zero_of_isNegative (unsigned_of_nonneg hx) (isNaN_of_nonneg hx) negative
        refine absurd ?_ ne
        change UnpackedFloat.beq x.toModel.unpack (0 : Float).toModel.unpack = true
        rw [unpack_toModel (zero ▸ by decide), zero]
        rfl
      · exact unsigned_pack (unsigned_abs _)

theorem toInteger_nonneg (h : Unsigned x.toModel.unpack) : 0 ≤ toInteger x := by
  rw [toInteger]
  split
  · exact Int.le_refl 0
  · rename_i nan
    split
    · rename_i negative
      have zero := eq_zero_of_isNegative h (Bool.eq_false_iff.2 nan) negative
      rw [units, zero, show unitsOf 0 = 0 from rfl, Nat.zero_div]
      decide
    · exact le_min (by decide) (Int.natCast_nonneg _)

theorem unpack_one :
    (1 : Float).toModel.unpack = .finite .positive (2 ^ 52) ((1022 : Nat) - 1074) (by decide) :=
  rfl

theorem unsigned_sub_one {level : UInt32} (h : 1 ≤ level.toNat) :
    Unsigned (ofUInt32 level - 1).toModel.unpack := by
  have few : level.toNat < 2 ^ 53 := Nat.lt_trans level.toNat_lt (by decide)
  obtain ⟨finite, units⟩ := unitsOf_nearest few (Nat.zero_le 900)
  rw [Nat.pow_zero, Nat.mul_one] at finite units
  have large : one ≤ unitsOf (nearest level.toNat 1) := units ▸ Nat.le_mul_of_pos_left one h
  obtain ⟨M, u, pos, value, low, -, -, hu⟩ := valueOf_normal .positive large
  have unpacked : (ofUInt32 level).toModel.unpack = .finite .positive M ((u : Nat) - 1074) pos :=
    (unpack_ofMagnitude false finite).trans value
  have first : ((1022 : Nat) - 1074 - min ((u : Int) - 1074) ((1022 : Nat) - 1074)).toNat =
      0 := by omega
  have shifted :
      2 ^ 52 <<< ((1022 : Nat) - 1074 - min ((u : Int) - 1074) ((1022 : Nat) - 1074)).toNat ≤
      M <<< ((u : Int) - 1074 - min ((u : Int) - 1074) ((1022 : Nat) - 1074)).toNat := by
    rw [first, Nat.shiftLeft_zero, Nat.shiftLeft_eq]
    exact Nat.le_trans low (Nat.le_mul_of_pos_right M (Nat.two_pow_pos _))
  refine unsigned_pack ?_
  rw [unpacked, unpack_one]
  exact unsigned_normalize (Int.sub_nonneg_of_le (Int.ofNat_le.2 shifted)) _ _

end GameBalance.Double
