import EventGraph.Number.Binary
import EventGraph.Proofs.Number.Equality

/-!
# Finite floats

A single is finite just when its exact value is.
-/

namespace EventGraph.Number

open Float.Model (UnpackedFloat)

/-- The stored exponent: eight bits above the twenty-three of the fraction. -/
def storedExponent (x : Float32) : Nat :=
  x.toBits.toNat % Format.single.signBit / Nat.pow 2 Format.single.fractionBits

theorem toNat_unpackExponent (x : Float32) :
    (@UnpackedFloat.unpackExponent .binary32 x.toBits.toBitVec).toNat =
      storedExponent x := by
  simp only [UnpackedFloat.unpackExponent, BitVec.toNat_cast, BitVec.extractLsb_toNat]
  simp only [Float.Model.Format.binary32, Nat.shiftRight_eq_div_pow, storedExponent,
    UInt32.toNat_toBitVec, Format.signBit, Format.single, Nat.pow_eq]
  omega

/-- All bits of the stored exponent are set in what is not finite. -/
theorem isFinite_eq_false_iff (x : Float32) : x.isFinite = false ↔ storedExponent x = 255 := by
  have hones : @UnpackedFloat.unpackExponent .binary32 x.toBits.toBitVec = -1#_ ↔
      storedExponent x = 255 := by
    rw [← BitVec.toNat_inj, toNat_unpackExponent]
    rfl
  change (UnpackedFloat.unpack .binary32 x.toBits.toBitVec).isFinite = false ↔ _
  rw [← hones]
  unfold UnpackedFloat.unpack
  dsimp only
  by_cases hall : @UnpackedFloat.unpackExponent .binary32 x.toBits.toBitVec = -1#_
  · refine iff_of_true ?_ hall
    rw [if_pos hall]
    split <;> rfl
  · refine iff_of_false ?_ hall
    rw [if_neg hall]
    by_cases hzero : @UnpackedFloat.unpackExponent .binary32 x.toBits.toBitVec = 0#_
    · rw [if_pos hzero]
      by_cases hmantissa : @UnpackedFloat.unpackMantissa .binary32 x.toBits.toBitVec = 0#_
      · rw [dif_pos hmantissa]
        exact nofun
      · rw [dif_neg hmantissa]
        exact nofun
    · rw [if_neg hzero]
      exact nofun

theorem ofFloat32_finite {x : Float32} (h : x.isFinite = true) :
    ∃ negative mantissa exponent, Exact.ofFloat32 x = .finite negative mantissa exponent := by
  have hstored : ¬ storedExponent x = Nat.pow 2 Format.single.exponentBits - 1 := by
    intro hall
    rw [(isFinite_eq_false_iff x).mpr hall] at h
    cases h
  rw [storedExponent] at hstored
  simp only [Exact.ofFloat32, Format.decode, if_neg hstored]
  split <;> exact ⟨_, _, _, rfl⟩

theorem ofFloat32_not_finite {x : Float32} (h : x.isFinite = false) :
    Exact.ofFloat32 x = .nan ∨ ∃ negative, Exact.ofFloat32 x = .infinite negative := by
  have hstored : storedExponent x = Nat.pow 2 Format.single.exponentBits - 1 :=
    (isFinite_eq_false_iff x).mp h
  rw [storedExponent] at hstored
  simp only [Exact.ofFloat32, Format.decode, if_pos hstored]
  split
  · exact .inr ⟨_, rfl⟩
  · exact .inl rfl

theorem beq_self_of_isFinite {x : Float32} (h : x.isFinite = true) : (x == x) = true :=
  beq_self_of_ne_notANumber (ne_notANumber_of_isFinite h)

end EventGraph.Number
