import GameBalance.Double.Basic
import Mathlib.Algebra.Group.Nat.Defs

namespace GameBalance.Double

open Float.Model Float.Model.UnpackedFloat

theorem toNat_packComponents (s : Sign) (e : BitVec 11) (m : BitVec 52) :
    (packComponents Format.binary64 s e m).toNat = (s.toBitVec.toNat * 2 ^ 11 + e.toNat) * 2 ^ 52 +
      m.toNat := by
  simp only [packComponents, BitVec.toNat_append]
  rw [← Nat.shiftLeft_add_eq_or_of_lt m.isLt, ← Nat.shiftLeft_add_eq_or_of_lt e.isLt]
  simp only [Nat.shiftLeft_eq]

theorem ofBitVec_unpackSign (s : Sign) (e : BitVec 11) (m : BitVec 52) :
    Sign.ofBitVec (unpackSign (packComponents Format.binary64 s e m)) = s := by
  have bits : unpackSign (packComponents Format.binary64 s e m) = s.toBitVec := by
    apply BitVec.eq_of_toNat_eq
    change (packComponents Format.binary64 s e m).toNat >>> 63 % 2 = s.toBitVec.toNat
    rw [toNat_packComponents, Nat.shiftRight_eq_div_pow]
    have := s.toBitVec.isLt
    have := e.isLt
    have := m.isLt
    omega
  rw [bits]
  cases s <;> rfl

theorem toNat_leading (m : BitVec 52) : (1#1 ++ m).toNat = 2 ^ 52 + m.toNat := by
  rw [BitVec.toNat_append, ← Nat.shiftLeft_add_eq_or_of_lt m.isLt]
  rfl

theorem finite_congr {s : Sign} {m n : Nat} {e f : Int} {hm : 0 < m} {hn : 0 < n} (mantissa : m = n)
    (exponent : e = f) : UnpackedFloat.finite s m e hm = .finite s n f hn := by
  subst mantissa exponent
  rfl

/-- What a sign, an exponent and a mantissa stand for. -/
def ofComponents (s : Sign) (e : BitVec 11) (m : BitVec 52) : UnpackedFloat :=
  if e = -1#11 then if m = 0#52 then .infinity s else .notANumber
  else if e = 0#11 then
    if h : m = 0#52 then .zero s
    else .finite s m.toNat (e.toNat - 1075 + 1)
      (Nat.pos_of_ne_zero fun zero => h (BitVec.eq_of_toNat_eq zero))
  else .finite s (1#1 ++ m).toNat (e.toNat - 1075)
    (toNat_leading m ▸ Nat.add_pos_left (by decide) _)

theorem unpack_packComponents (s : Sign) (e : BitVec 11) (m : BitVec 52) :
    UnpackedFloat.unpack Format.binary64 (packComponents Format.binary64 s e m) =
      ofComponents s e m := by
  have components {b : BitVec Format.binary64.numBits} (hs : Sign.ofBitVec (unpackSign b) = s)
      (he : unpackExponent b = e) (hm : unpackMantissa b = m) :
      UnpackedFloat.unpack Format.binary64 b = ofComponents s e m := by
    subst hs he hm
    rfl
  exact components (ofBitVec_unpackSign s e m) unpackExponent_packComponents
    unpackMantissa_packComponents

theorem pack_finite (s : Sign) (m : Nat) (e : Int) (pos : 0 < m) :
    UnpackedFloat.pack Format.binary64 (.finite s m e pos) =
      if 2047 ≤ (e + 1075).toNat then packedInfinity Format.binary64 s
      else if m.log2 = 52 then
        packComponents Format.binary64 s (.ofNat 11 (e + 1075).toNat) (.ofNat 52 m)
      else packComponents Format.binary64 s 0#11 (.ofNat 52 m) := by
  have biased : e + 1075 = e + (1023 : Nat) + (52 : Nat) := by omega
  have large (k : Nat) : 2047 ≤ k ↔ 2 ^ 11 ≤ k + 1 := by omega
  have full : m.log2 = 52 ↔ m.log2 + 1 = 53 := by omega
  rw [biased]
  exact (ite_congr (propext (large _)) (fun _ => rfl)
    fun _ => ite_congr (propext full) (fun _ => rfl) fun _ => rfl).symm

def bitsOf (s : Sign) (m : Nat) : BitVec 64 :=
  packComponents Format.binary64 s (.ofNat 11 (m / 2 ^ 52)) (.ofNat 52 (m % 2 ^ 52))

def signOf (negative : Bool) : Sign :=
  if negative then .negative else .positive

def valueOf (s : Sign) (m : Nat) : UnpackedFloat :=
  if h : m = 0 then .zero s
  else if m < 2 ^ 52 then .finite s m (-1074) (Nat.pos_of_ne_zero h)
  else .finite s (2 ^ 52 + m % 2 ^ 52) ((m / 2 ^ 52 : Nat) - 1075) (Nat.add_pos_left (by decide) _)

theorem toNat_bitsOf (s : Sign) (h : m < 2 ^ 63) :
    (bitsOf s m).toNat = s.toBitVec.toNat * 2 ^ 63 + m := by
  rw [bitsOf, toNat_packComponents, BitVec.toNat_ofNat, BitVec.toNat_ofNat]
  omega

theorem unpack_bitsOf (s : Sign) (h : m < infinity) :
    UnpackedFloat.unpack Format.binary64 (bitsOf s m) = valueOf s m := by
  have bound : m < 2047 * 2 ^ 52 := h
  have exponent : (BitVec.ofNat 11 (m / 2 ^ 52)).toNat = m / 2 ^ 52 := Nat.mod_eq_of_lt (by omega)
  have mantissa : (BitVec.ofNat 52 (m % 2 ^ 52)).toNat = m % 2 ^ 52 := Nat.mod_eq_of_lt (by omega)
  have finite : BitVec.ofNat 11 (m / 2 ^ 52) ≠ -1#11 := fun eq => by
    have := congrArg BitVec.toNat eq
    rw [exponent] at this
    change _ = 2047 at this
    omega
  rw [bitsOf, unpack_packComponents, ofComponents, if_neg finite, valueOf]
  by_cases zero : m = 0
  · subst zero
    rfl
  rw [dif_neg zero]
  by_cases subnormal : m < 2 ^ 52
  · have exponent_zero : BitVec.ofNat 11 (m / 2 ^ 52) = 0#11 := by
      rw [Nat.div_eq_of_lt subnormal]
    have mantissa_ne : BitVec.ofNat 52 (m % 2 ^ 52) ≠ 0#52 := fun eq => by
      have := congrArg BitVec.toNat eq
      rw [mantissa] at this
      change _ = 0 at this
      omega
    rw [if_pos exponent_zero, dif_neg mantissa_ne, if_pos subnormal]
    refine finite_congr ?_ ?_
    · rw [mantissa, Nat.mod_eq_of_lt subnormal]
    · rw [exponent, Nat.div_eq_of_lt subnormal]
      rfl
  · have exponent_ne : BitVec.ofNat 11 (m / 2 ^ 52) ≠ 0#11 := fun eq => by
      have := congrArg BitVec.toNat eq
      rw [exponent] at this
      change _ = 0 at this
      omega
    rw [if_neg exponent_ne, if_neg subnormal]
    refine finite_congr ?_ ?_
    · rw [toNat_leading, mantissa]
    · rw [exponent]

theorem pack_valueOf (s : Sign) (h : m < infinity) :
    UnpackedFloat.pack Format.binary64 (valueOf s m) = bitsOf s m := by
  have bound : m < 2047 * 2 ^ 52 := h
  rw [valueOf, bitsOf]
  by_cases zero : m = 0
  · subst zero
    rfl
  rw [dif_neg zero]
  by_cases subnormal : m < 2 ^ 52
  · have log : m.log2 < 52 := (Nat.log2_lt zero).2 subnormal
    rw [if_pos subnormal]
    rw [pack_finite, if_neg (by decide), if_neg (Nat.ne_of_lt log), Nat.mod_eq_of_lt subnormal,
      Nat.div_eq_of_lt subnormal]
  · have log : (2 ^ 52 + m % 2 ^ 52).log2 = 52 := by
      rw [Nat.log2_eq_iff (by omega)]
      omega
    rw [if_neg subnormal]
    have biased : ((m / 2 ^ 52 : Nat) - 1075 + 1075 : Int).toNat = m / 2 ^ 52 := by omega
    have mantissa : BitVec.ofNat 52 (2 ^ 52 + m % 2 ^ 52) = BitVec.ofNat 52 (m % 2 ^ 52) := by
      apply BitVec.eq_of_toNat_eq
      simp only [BitVec.toNat_ofNat]
      omega
    rw [pack_finite, biased, if_neg (by omega), if_pos log, mantissa]

theorem valueOf_cases (s : Sign) (m : Nat) :
    valueOf s m = .zero s ∨ ∃ n e pos, valueOf s m = .finite s n e pos := by
  by_cases zero : m = 0
  · exact .inl (dif_pos zero)
  rw [valueOf, dif_neg zero]
  by_cases subnormal : m < 2 ^ 52
  · exact .inr ⟨_, _, _, if_pos subnormal⟩
  · exact .inr ⟨_, _, _, if_neg subnormal⟩

@[simp] theorem neg_valueOf (s : Sign) (m : Nat) : (valueOf s m).neg = valueOf (-s) m := by
  rw [valueOf, apply_dite UnpackedFloat.neg, valueOf]
  exact dite_congr rfl (fun _ => rfl) fun _ => apply_ite UnpackedFloat.neg _ _ _

@[simp] theorem isFinite_valueOf (s : Sign) (m : Nat) : (valueOf s m).isFinite = true := by
  obtain zero | ⟨n, e, pos, value⟩ := valueOf_cases s m
  · exact congrArg UnpackedFloat.isFinite zero
  · exact congrArg UnpackedFloat.isFinite value

@[simp] theorem isNaN_valueOf (s : Sign) (m : Nat) : (valueOf s m).isNaN = false := by
  obtain zero | ⟨n, e, pos, value⟩ := valueOf_cases s m
  · exact congrArg UnpackedFloat.isNaN zero
  · exact congrArg UnpackedFloat.isNaN value

@[simp] theorem isInf_valueOf (s : Sign) (m : Nat) : (valueOf s m).isInf = false := by
  obtain zero | ⟨n, e, pos, value⟩ := valueOf_cases s m
  · exact congrArg UnpackedFloat.isInf zero
  · exact congrArg UnpackedFloat.isInf value

theorem bits_eq_bitsOf (b : BitVec 64) :
    b = bitsOf (signOf (2 ^ 63 ≤ b.toNat)) (b.toNat % 2 ^ 63) := by
  have := b.isLt
  apply BitVec.eq_of_toNat_eq
  rw [toNat_bitsOf _ (by omega)]
  by_cases h : 2 ^ 63 ≤ b.toNat
  · simp only [h, signOf, decide_true, if_true]
    change _ = 1 * _ + _
    omega
  · simp only [h, signOf, decide_false]
    change _ = 0 * _ + _
    omega

theorem toBits_bitVec (x : Float) :
    x.toBits.toBitVec = bitsOf (signOf (isNegative x)) (magnitude x) :=
  bits_eq_bitsOf _

theorem ofMagnitude_bitVec (negative : Bool) (h : m < 2 ^ 63) :
    (UInt64.ofNat (if negative then 2 ^ 63 + m else m)).toBitVec = bitsOf (signOf negative) m := by
  apply BitVec.eq_of_toNat_eq
  rw [toNat_bitsOf _ h]
  cases negative with
  | false =>
    change m % 2 ^ 64 = 0 * 2 ^ 63 + m
    omega
  | true =>
    change (2 ^ 63 + m) % 2 ^ 64 = 1 * 2 ^ 63 + m
    omega

theorem toModel_ofMagnitude (negative : Bool) (h : m < infinity) :
    (ofMagnitude negative m).toModel = Float.Model.pack (valueOf (signOf negative) m) := by
  have bound : m < 2047 * 2 ^ 52 := h
  change Float.Model.ofBits _ = _
  rw [Float.Model.ofBits, ofMagnitude_bitVec negative (by omega), unpack_bitsOf _ h]

theorem toBits_ofMagnitude (negative : Bool) (h : m < infinity) :
    (ofMagnitude negative m).toBits.toNat = if negative then 2 ^ 63 + m else m := by
  have bound : m < 2047 * 2 ^ 52 := h
  change (ofMagnitude negative m).toModel.toBits.toNat = _
  rw [toModel_ofMagnitude negative h]
  change (UnpackedFloat.pack Format.binary64 (valueOf (signOf negative) m)).toNat = _
  rw [pack_valueOf _ h, toNat_bitsOf _ (by omega)]
  cases negative with
  | false => exact (Nat.zero_mul _).symm ▸ Nat.zero_add m
  | true => rfl

theorem isNegative_ofMagnitude (negative : Bool) (h : m < infinity) :
    isNegative (ofMagnitude negative m) = negative := by
  have bound : m < 2047 * 2 ^ 52 := h
  rw [isNegative, toBits_ofMagnitude negative h]
  cases negative with
  | false => exact decide_eq_false (by simp only [Bool.false_eq_true, if_false]; omega)
  | true => exact decide_eq_true (by simp only [if_true]; omega)

theorem magnitude_ofMagnitude (negative : Bool) (h : m < infinity) :
    magnitude (ofMagnitude negative m) = m := by
  have bound : m < 2047 * 2 ^ 52 := h
  rw [magnitude, toBits_ofMagnitude negative h]
  cases negative with
  | false => simp only [Bool.false_eq_true, if_false]; omega
  | true => simp only [if_true]; omega

theorem unpack_toModel (h : magnitude x < infinity) :
    x.toModel.unpack = valueOf (signOf (isNegative x)) (magnitude x) := by
  change UnpackedFloat.unpack Format.binary64 x.toBits.toBitVec = _
  rw [toBits_bitVec, unpack_bitsOf _ h]

theorem neg_ofMagnitude (h : m < infinity) : -(ofMagnitude false m) = ofMagnitude true m := by
  have eq : (-(ofMagnitude false m)).toModel = (ofMagnitude true m).toModel := by
    change Float.Model.pack (ofMagnitude false m).toModel.unpack.neg = _
    rw [toModel_ofMagnitude true h, unpack_toModel (by rwa [magnitude_ofMagnitude _ h]),
      neg_valueOf, isNegative_ofMagnitude _ h, magnitude_ofMagnitude _ h]
    rfl
  exact congrArg Float.ofModel eq

theorem unpack_bitsOf_infinite (s : Sign) (h : infinity ≤ m) (lt : m < 2 ^ 63) :
    UnpackedFloat.unpack Format.binary64 (bitsOf s m) = if m = infinity then .infinity s
      else .notANumber := by
  have bound : 2047 * 2 ^ 52 ≤ m := h
  have exponent : BitVec.ofNat 11 (m / 2 ^ 52) = -1#11 := by
    apply BitVec.eq_of_toNat_eq
    rw [BitVec.toNat_ofNat]
    change _ = 2047
    omega
  have mantissa : BitVec.ofNat 52 (m % 2 ^ 52) = 0#52 ↔ m = infinity := by
    rw [← BitVec.toNat_inj, BitVec.toNat_ofNat, BitVec.toNat_ofNat]
    change _ ↔ m = 2047 * 2 ^ 52
    omega
  rw [bitsOf, unpack_packComponents, ofComponents, if_pos exponent]
  simp only [mantissa]

theorem unpack_toModel_infinite (h : infinity ≤ magnitude x) : x.toModel.unpack =
    if magnitude x = infinity then .infinity (signOf (isNegative x)) else .notANumber := by
  change UnpackedFloat.unpack Format.binary64 x.toBits.toBitVec = _
  rw [toBits_bitVec, unpack_bitsOf_infinite _ h (Nat.mod_lt _ (by decide))]

theorem isFinite_iff {x : Float} : x.isFinite = true ↔ magnitude x < infinity := by
  constructor
  · intro h
    refine Nat.lt_of_not_le fun ge => ?_
    change x.toModel.unpack.isFinite = true at h
    rw [unpack_toModel_infinite ge] at h
    split at h <;> cases h
  · intro h
    change x.toModel.unpack.isFinite = true
    rw [unpack_toModel h, isFinite_valueOf]

theorem eq_of_toBits {negative : Bool}
    (bits : (ofMagnitude negative m).toBits.toNat = if negative then 2 ^ 63 + m else m)
    (sign : isNegative x = negative) (value : magnitude x = m) : x = ofMagnitude negative m := by
  have inj {x y : Float} (h : x.toBits = y.toBits) : x = y := by
    obtain ⟨⟨_⟩⟩ := x
    obtain ⟨⟨_⟩⟩ := y
    cases h
    rfl
  apply inj
  apply UInt64.toNat_inj.1
  rw [bits, ← sign, ← value, magnitude, isNegative]
  have := x.toBits.toNat_lt
  by_cases ge : 2 ^ 63 ≤ x.toBits.toNat
  · rw [decide_eq_true ge, if_pos rfl]
    omega
  · rw [decide_eq_false ge, if_neg Bool.false_ne_true]
    omega

theorem eq_ofMagnitude (h : magnitude x < infinity) :
    x = ofMagnitude (isNegative x) (magnitude x) :=
  eq_of_toBits (toBits_ofMagnitude _ h) rfl rfl

theorem isNaN_eq_false {x : Float} (h : x.isFinite = true) : x.isNaN = false := by
  change x.toModel.unpack.isNaN = false
  rw [unpack_toModel (isFinite_iff.1 h), isNaN_valueOf]

theorem isInf_eq_false {x : Float} (h : x.isFinite = true) : x.isInf = false := by
  change x.toModel.unpack.isInf = false
  rw [unpack_toModel (isFinite_iff.1 h), isInf_valueOf]

theorem eq_infinity {x : Float} (infinite : x.isInf = true) :
    x = ofMagnitude (isNegative x) infinity := by
  have value : magnitude x = infinity := by
    obtain finite | ge := Nat.lt_or_ge (magnitude x) infinity
    · rw [isInf_eq_false (isFinite_iff.2 finite)] at infinite
      cases infinite
    · change x.toModel.unpack.isInf = true at infinite
      rw [unpack_toModel_infinite ge] at infinite
      split at infinite
      · assumption
      · cases infinite
  have bits : ∀ negative, (ofMagnitude negative infinity).toBits.toNat = if negative then
      2 ^ 63 + infinity else infinity := by
    decide +kernel
  exact eq_of_toBits (bits _) rfl value

theorem isFinite_of_isInf {x : Float} (nan : x.isNaN = false) (inf : x.isInf = false) :
    x.isFinite = true := by
  change x.toModel.unpack.isNaN = false at nan
  change x.toModel.unpack.isInf = false at inf
  change x.toModel.unpack.isFinite = true
  generalize x.toModel.unpack = value at nan inf ⊢
  cases value with
  | infinity s => cases inf
  | notANumber => cases nan
  | zero s => rfl
  | finite s m e pos => rfl

end GameBalance.Double
