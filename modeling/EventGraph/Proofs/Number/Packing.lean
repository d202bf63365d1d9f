import EventGraph.Number.Binary
import Mathlib

/-!
# Floats as they are stored

A format stores a float by its sign, its exponent and its fraction. What is read is canonical: its
mantissa is full, or its exponent is the least one. What is canonical, and whose exponent is not
too large, is stored as it is; with too large an exponent it is stored as an infinity.
-/

namespace EventGraph.Number

open Float.Model (UnpackedFloat)
open Float.Model.UnpackedFloat

variable {f : Float.Model.Format}

/-! ### Formats -/

theorem two_pow_exponentBits (f : Float.Model.Format) :
    2 ^ f.exponentBits = 2 * f.exponentBias + 2 := by
  have hpos : 0 < 2 ^ (f.exponentBits - 1) := Nat.two_pow_pos _
  rw [← Nat.two_pow_pred_mul_two f.he, Float.Model.Format.exponentBias]
  omega

theorem two_pow_mantissaBits (f : Float.Model.Format) :
    2 ^ f.mantissaBits = 2 * 2 ^ f.mantissaBitsWithoutImplicit := by
  rw [Float.Model.Format.mantissaBits, Nat.pow_add, Nat.pow_one]

theorem minExponent_eq (f : Float.Model.Format) :
    f.minExponent = 1 - (f.exponentBias + f.mantissaBitsWithoutImplicit) := by
  have hpos : 0 < 2 ^ (f.exponentBits - 1) := Nat.two_pow_pos _
  have hbias : (f.exponentBias : Int) = 2 ^ (f.exponentBits - 1) - 1 := by
    rw [Float.Model.Format.exponentBias, Int.natCast_sub hpos]
    norm_cast
  rw [hbias, Float.Model.Format.minExponent, Float.Model.Format.mantissaBits]
  omega

/-- The greatest exponent that a format can store. -/
def maxExponent (f : Float.Model.Format) : Int := f.exponentBias - f.mantissaBitsWithoutImplicit

/-- Whether a mantissa and an exponent are as a format has them: the mantissa is full, or the
exponent is the least one. -/
structure IsCanonical (f : Float.Model.Format) (m : Nat) (e : Int) : Prop where
  lt : m < 2 ^ f.mantissaBits
  least : f.minExponent ≤ e
  full : 2 ^ f.mantissaBitsWithoutImplicit ≤ m ∨ e = f.minExponent

/-- Whether a float that has been taken apart can be stored as it is. -/
def Storable (f : Float.Model.Format) : UnpackedFloat → Prop
  | .finite _ m e _ => IsCanonical f m e ∧ e ≤ maxExponent f
  | _ => True

/-! ### What is read -/

theorem toNat_ones {k : Nat} : (-1#k).toNat = 2 ^ k - 1 := by
  rw [BitVec.neg_one_eq_allOnes, BitVec.toNat_allOnes]

theorem toNat_implicit {k : Nat} (m : BitVec k) : (1#1 ++ m).toNat = 2 ^ k + m.toNat := by
  rw [BitVec.toNat_append, ← Nat.shiftLeft_add_eq_or_of_lt m.isLt]
  simp [Nat.shiftLeft_eq]

theorem storable_unpack (hf : 0 < f.exponentBias) (b : BitVec f.numBits) :
    Storable f (unpack f b) := by
  have hm : (unpackMantissa b).toNat < 2 ^ f.mantissaBitsWithoutImplicit := BitVec.isLt _
  have he : (unpackExponent b).toNat < 2 ^ f.exponentBits := BitVec.isLt _
  have htwice := two_pow_mantissaBits f
  have hcapacity := two_pow_exponentBits f
  have hleast := minExponent_eq f
  unfold unpack
  dsimp only
  split
  · split <;> trivial
  · rename_i hones
    rw [← BitVec.toNat_inj, toNat_ones] at hones
    split
    · rename_i hzero
      split
      · trivial
      · rw [hzero, BitVec.toNat_zero]
        refine ⟨⟨by omega, by omega, .inr (by omega)⟩, ?_⟩
        rw [maxExponent]
        omega
    · rename_i hzero
      rw [← BitVec.toNat_inj, BitVec.toNat_zero] at hzero
      have hfull := toNat_implicit (unpackMantissa b)
      refine ⟨⟨by omega, by omega, .inl (by omega)⟩, ?_⟩
      rw [maxExponent]
      omega

/-! ### What is stored -/

theorem finite_congr {s : Sign} {m m' : Nat} {e e' : Int} (hm : m = m') (he : e = e')
    (h : 0 < m) (h' : 0 < m') : UnpackedFloat.finite s m e h = .finite s m' e' h' := by
  subst hm he
  rfl

/-- What is read where a sign, an exponent and a fraction are stored. -/
theorem unpack_packComponents (s : Sign) (e : BitVec f.exponentBits)
    (m : BitVec f.mantissaBitsWithoutImplicit) :
    unpack f (packComponents f s e m) =
      if e = -1#_ then if m = 0#_ then .infinity s else .notANumber
      else if e = 0#_ then
        if h : m = 0#_ then .zero s
        else .finite s m.toNat f.minExponent (by
          simpa [BitVec.toNat_pos, BitVec.pos_iff_ne_zero] using h)
      else .finite s (2 ^ f.mantissaBitsWithoutImplicit + m.toNat)
        (e.toNat - 1 + f.minExponent) (Nat.add_pos_left (Nat.two_pow_pos _) _) := by
  have hleast := minExponent_eq f
  unfold unpack
  simp only [unpackMantissa_packComponents, unpackExponent_packComponents,
    unpackSign_packComponents, Sign.ofBitVec_toBitVec, toNat_implicit]
  by_cases hones : e = -1#_
  · rw [if_pos hones, if_pos hones]
  · rw [if_neg hones, if_neg hones]
    by_cases hzero : e = 0#_
    · rw [if_pos hzero, if_pos hzero]
      split
      · rfl
      · congr 1
        rw [hzero, BitVec.toNat_zero]
        omega
    · rw [if_neg hzero, if_neg hzero]
      congr 1
      omega

theorem zero_ne_ones : 0#f.exponentBits ≠ -1#_ := by
  intro h
  have hcapacity := two_pow_exponentBits f
  have hnat := congrArg BitVec.toNat h
  rw [BitVec.toNat_zero, toNat_ones] at hnat
  omega

theorem unpack_packedInfinity (s : Sign) : unpack f (packedInfinity f s) = .infinity s := by
  show unpack f (packComponents f s (-1#_) 0#_) = _
  rw [unpack_packComponents, if_pos rfl, if_pos rfl]

/-- The exponent as it is stored, where it is not too large. -/
def biasedExponent (f : Float.Model.Format) (e : Int) : Nat :=
  (e + f.exponentBias + f.mantissaBitsWithoutImplicit).toNat

/-- A finite float is stored by its exponent and its fraction, if the exponent is small enough and
the mantissa is full. -/
theorem pack_finite (s : Sign) {m : Nat} {e : Int} (h : 0 < m) :
    pack f (.finite s m e h) =
      if 2 ^ f.exponentBits ≤ biasedExponent f e + 1 then packedInfinity f s
      else if m.log2 + 1 = f.mantissaBits then
        packComponents f s (BitVec.ofNat _ (biasedExponent f e)) (BitVec.ofNat _ m)
      else packComponents f s 0#_ (BitVec.ofNat _ m) := rfl

theorem unpack_pack_large (s : Sign) {m : Nat} {e : Int} (h : 0 < m) (he : maxExponent f < e) :
    unpack f (pack f (.finite s m e h)) = .infinity s := by
  have hcapacity := two_pow_exponentBits f
  rw [maxExponent] at he
  rw [pack_finite, biasedExponent, if_pos (by omega), unpack_packedInfinity]

theorem log2_eq_iff_of_canonical {m : Nat} {e : Int} (h : 0 < m) (hm : IsCanonical f m e) :
    m.log2 + 1 = f.mantissaBits ↔ 2 ^ f.mantissaBitsWithoutImplicit ≤ m := by
  have hlt := (Nat.log2_lt (Nat.ne_of_gt h)).mpr hm.lt
  rw [← Nat.le_log2 (Nat.ne_of_gt h)]
  rw [Float.Model.Format.mantissaBits] at hlt ⊢
  omega

theorem unpack_pack_finite (s : Sign) {m : Nat} {e : Int} (h : 0 < m) (hm : IsCanonical f m e)
    (he : e ≤ maxExponent f) : unpack f (pack f (.finite s m e h)) = .finite s m e h := by
  have hleast := minExponent_eq f
  have hcapacity := two_pow_exponentBits f
  have htwice := two_pow_mantissaBits f
  have hlog := log2_eq_iff_of_canonical h hm
  obtain ⟨hlt, hmin, hfull⟩ := hm
  have hbiased : (biasedExponent f e : Int) = e - f.minExponent + 1 := by
    rw [biasedExponent]
    omega
  have hfew : biasedExponent f e + 1 < 2 ^ f.exponentBits := by
    rw [maxExponent] at he
    omega
  rw [pack_finite, if_neg (Nat.not_le.mpr hfew)]
  by_cases hle : 2 ^ f.mantissaBitsWithoutImplicit ≤ m
  · have hstored :
        (BitVec.ofNat f.exponentBits (biasedExponent f e)).toNat = biasedExponent f e := by
      rw [BitVec.toNat_ofNat, Nat.mod_eq_of_lt (by omega)]
    have hfraction : (BitVec.ofNat f.mantissaBitsWithoutImplicit m).toNat =
        m - 2 ^ f.mantissaBitsWithoutImplicit := by
      rw [BitVec.toNat_ofNat, Nat.mod_eq_sub_mod hle, Nat.mod_eq_of_lt (by omega)]
    rw [if_pos (hlog.mpr hle), unpack_packComponents, if_neg, if_neg]
    · apply finite_congr <;> omega
    · rw [← BitVec.toNat_inj, hstored, BitVec.toNat_zero]
      omega
    · rw [← BitVec.toNat_inj, hstored, toNat_ones]
      omega
  · have hfraction : (BitVec.ofNat f.mantissaBitsWithoutImplicit m).toNat = m := by
      rw [BitVec.toNat_ofNat, Nat.mod_eq_of_lt (by omega)]
    rw [if_neg (mt hlog.mp hle), unpack_packComponents, if_neg zero_ne_ones, if_pos rfl, dif_neg]
    · apply finite_congr <;> omega
    · rw [← BitVec.toNat_inj, hfraction, BitVec.toNat_zero]
      omega

theorem unpack_pack_of_storable {u : UnpackedFloat} (h : Storable f u) :
    unpack f (pack f u) = u := by
  cases u with
  | notANumber => exact unpack_packedNaN
  | infinity s => exact unpack_packedInfinity s
  | zero s => exact unpack_packedZero
  | finite s m e hpos => exact unpack_pack_finite s hpos h.1 h.2

/-- What is a number is stored as one: as an infinity, when it is too large. -/
theorem unpack_pack_isNumber {u : UnpackedFloat} (h : u ≠ .notANumber) :
    unpack f (pack f u) ≠ .notANumber := by
  cases u with
  | notANumber => exact absurd rfl h
  | infinity s =>
    rw [unpack_pack_of_storable (u := .infinity s) trivial]
    exact h
  | zero s =>
    rw [unpack_pack_of_storable (u := .zero s) trivial]
    exact h
  | finite s m e hpos =>
    have hnumber {e : BitVec f.exponentBits} {m : BitVec f.mantissaBitsWithoutImplicit}
        (he : e ≠ -1#_) : unpack f (packComponents f s e m) ≠ .notANumber := by
      rw [unpack_packComponents, if_neg he]
      split
      · split <;> nofun
      · nofun
    rw [pack_finite]
    split
    · rw [unpack_packedInfinity]
      nofun
    · rename_i hfew
      split
      · apply hnumber
        rw [Ne, ← BitVec.toNat_inj, BitVec.toNat_ofNat, toNat_ones, Nat.mod_eq_of_lt (by omega)]
        omega
      · exact hnumber zero_ne_ones

end EventGraph.Number
