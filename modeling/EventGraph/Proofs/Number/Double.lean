import EventGraph.Proofs.Number.Packing

/-!
# Doubles as they are stored

A double is its sign, its stored exponent and its fraction, and of these its exact value is made.
What fits into 53 bits of mantissa, and into the range of exponents, is stored as it is.
-/

namespace EventGraph.Number

open Float.Model (UnpackedFloat)
open Float.Model.UnpackedFloat

/-- What a double stands for, by the sign, the exponent and the fraction that are stored. -/
inductive Stores (s : Sign) : Nat → Nat → UnpackedFloat → Prop
  | infinity : Stores s 2047 0 (.infinity s)
  | notANumber {fraction : Nat} : fraction ≠ 0 → Stores s 2047 fraction .notANumber
  | zero : Stores s 0 0 (.zero s)
  | subnormal {fraction : Nat} (h : 0 < fraction) : fraction < 2 ^ 52 →
      Stores s 0 fraction (.finite s fraction (-1074) h)
  | normal {stored fraction : Nat} (h : 0 < 2 ^ 52 + fraction) :
      0 < stored → stored < 2047 → fraction < 2 ^ 52 →
      Stores s stored fraction (.finite s (2 ^ 52 + fraction) (stored - 1075) h)

/-- The exact value of a float that has been taken apart. -/
def Exact.ofUnpacked : UnpackedFloat → Exact
  | .notANumber => .nan
  | .infinity s => .infinite (s == .negative)
  | .zero s => .finite (s == .negative) 0 Format.double.lowest
  | .finite s m e _ => .finite (s == .negative) m e

/-- The sign by the highest bit. -/
def storedSign (b : BitVec 64) : Sign := if 2 ^ 63 ≤ b.toNat then .negative else .positive

theorem ofBitVec_unpackSign (b : BitVec 64) :
    Sign.ofBitVec (@unpackSign .binary64 b) = storedSign b := by
  have hsign : (@unpackSign .binary64 b).toNat = b.toNat / 2 ^ 63 := by
    have hlt := b.isLt
    show (b.toNat >>> 63) % 2 = _
    rw [Nat.shiftRight_eq_div_pow]
    omega
  have hzero : @unpackSign .binary64 b = 0#1 ↔ ¬ 2 ^ 63 ≤ b.toNat := by
    rw [← BitVec.toNat_inj, hsign]
    show b.toNat / 2 ^ 63 = 0 ↔ _
    omega
  by_cases hle : 2 ^ 63 ≤ b.toNat
  · rw [storedSign, if_pos hle, Sign.ofBitVec, if_neg (mt hzero.mp (not_not_intro hle))]
  · rw [storedSign, if_neg hle, Sign.ofBitVec, if_pos (hzero.mpr hle)]

theorem stores_unpack (b : BitVec 64) :
    Stores (storedSign b) (b.toNat / 2 ^ 52 % 2 ^ 11) (b.toNat % 2 ^ 52) (unpack .binary64 b) := by
  have hfraction : (@unpackMantissa .binary64 b).toNat = b.toNat % 2 ^ 52 := by
    show (b.toNat >>> 0) % 2 ^ 52 = _
    rw [Nat.shiftRight_zero]
  have hstored : (@unpackExponent .binary64 b).toNat = b.toNat / 2 ^ 52 % 2 ^ 11 := by
    show (b.toNat >>> 52) % 2 ^ 11 = _
    rw [Nat.shiftRight_eq_div_pow]
  have hless : (@unpackMantissa .binary64 b).toNat < 2 ^ 52 := BitVec.isLt _
  have hbound : (@unpackExponent .binary64 b).toNat < 2 ^ 11 := BitVec.isLt _
  rw [← hfraction, ← hstored]
  unfold unpack
  dsimp only
  rw [ofBitVec_unpackSign]
  by_cases hones : @unpackExponent .binary64 b = -1#_
  · rw [if_pos hones, hones]
    by_cases hnil : @unpackMantissa .binary64 b = 0#_
    · rw [if_pos hnil, hnil]
      exact .infinity
    · rw [if_neg hnil]
      exact .notANumber fun hzero => hnil (BitVec.toNat_inj.mp hzero)
  · rw [if_neg hones]
    have hne : (@unpackExponent .binary64 b).toNat ≠ 2047 :=
      fun hall => hones (BitVec.toNat_inj.mp hall)
    by_cases hzero : @unpackExponent .binary64 b = 0#_
    · rw [if_pos hzero, hzero]
      by_cases hnil : @unpackMantissa .binary64 b = 0#_
      · rw [dif_pos hnil, hnil]
        exact .zero
      · rw [dif_neg hnil]
        exact .subnormal _ hless
    · rw [if_neg hzero]
      have hpos : (@unpackExponent .binary64 b).toNat ≠ 0 :=
        fun hnil => hzero (BitVec.toNat_inj.mp hnil)
      have hmantissa : 0 < 2 ^ 52 + (@unpackMantissa .binary64 b).toNat := by omega
      rw [finite_congr (toNat_implicit (@unpackMantissa .binary64 b)) rfl _ hmantissa]
      exact .normal hmantissa (by omega) (by omega) hless

theorem ofFloat_eq (x : Float) : Exact.ofFloat x = Exact.ofUnpacked x.toModel.unpack := by
  have hunpack : x.toModel.unpack = unpack .binary64 x.toBits.toBitVec := rfl
  have hstores := stores_unpack x.toBits.toBitVec
  rw [← hunpack] at hstores
  have hbits : x.toBits.toBitVec.toNat = x.toBits.toNat := rfl
  have hnegative : (storedSign x.toBits.toBitVec == .negative) =
      decide (Format.double.signBit ≤ x.toBits.toNat) := by
    rw [storedSign, hbits]
    by_cases hle : 2 ^ 63 ≤ x.toBits.toNat
    · rw [if_pos hle]
      exact (decide_eq_true hle).symm
    · rw [if_neg hle]
      exact (decide_eq_false hle).symm
  rw [hbits] at hstores
  have hfrac : x.toBits.toNat % Format.double.signBit % Nat.pow 2 Format.double.fractionBits =
      x.toBits.toNat % 2 ^ 52 := by
    simp only [Format.signBit, Format.double, Nat.pow_eq]
    omega
  have hexp : x.toBits.toNat % Format.double.signBit / Nat.pow 2 Format.double.fractionBits =
      x.toBits.toNat / 2 ^ 52 % 2 ^ 11 := by
    simp only [Format.signBit, Format.double, Nat.pow_eq]
    omega
  simp only [Exact.ofFloat, Format.decode, hfrac, hexp, ← hnegative]
  generalize x.toBits.toNat % 2 ^ 52 = fraction at hstores ⊢
  generalize x.toBits.toNat / 2 ^ 52 % 2 ^ 11 = stored at hstores ⊢
  generalize x.toModel.unpack = u at hstores ⊢
  have hones : Nat.pow 2 Format.double.exponentBits - 1 = 2047 := rfl
  rw [hones]
  cases hstores with
  | infinity => rfl
  | notANumber hne =>
    rw [if_pos rfl, if_neg hne]
    rfl
  | zero => rfl
  | subnormal h hlt => rfl
  | normal h hpos hlt =>
    rw [if_neg (by omega), if_neg (by omega)]
    show Exact.finite _ (2 ^ 52 + fraction) (-1074 + _ - 1) = _
    congr 1
    omega

/-- Whether a float taken apart can be stored as it is: in 53 bits, or fewer at the least
exponent. -/
def Fits : UnpackedFloat → Prop
  | .finite _ m e _ => m < 2 ^ 53 ∧ -1074 ≤ e ∧ e ≤ 971 ∧ (2 ^ 52 ≤ m ∨ e = -1074)
  | _ => True

theorem fits_iff_storable {u : UnpackedFloat} : Fits u ↔ Storable .binary64 u := by
  cases u with
  | notANumber | infinity s | zero s => exact Iff.rfl
  | finite s m e h =>
    constructor
    · rintro ⟨hm, hlow, hhigh, hfull⟩
      exact ⟨⟨hm, hlow, hfull⟩, hhigh⟩
    · rintro ⟨⟨hm, hlow, hfull⟩, hhigh⟩
      exact ⟨hm, hlow, hhigh, hfull⟩

theorem fits_unpack (x : Float) : Fits x.toModel.unpack :=
  fits_iff_storable.mpr (storable_unpack (f := .binary64) (by decide) x.toBits.toBitVec)

theorem unpack_pack {u : UnpackedFloat} (h : Fits u) : (Float.Model.pack u).unpack = u :=
  unpack_pack_of_storable (fits_iff_storable.mp h)

theorem unpack_pack_ne_notANumber {u : UnpackedFloat} (h : u ≠ .notANumber) :
    (Float.Model.pack u).unpack ≠ .notANumber :=
  unpack_pack_isNumber h

end EventGraph.Number
