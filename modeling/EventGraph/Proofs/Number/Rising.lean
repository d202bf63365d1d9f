import EventGraph.Proofs.Number.Addition

/-!
# Rising singles

Adding a positive single never leads down. It leads up, or the sum is rounded to where it was, which
does not happen as long as the one is not too large against the other. As there are finitely many
singles, they can only rise so often.
-/

namespace EventGraph.Number

open Float.Model (UnpackedFloat)
open Float.Model.UnpackedFloat

variable {x y step : Float32}

/-- The value of a single in units of the least positive one. -/
def singleUnits (x : Float32) : Int := units .binary32 x.toModel.unpack

theorem storable_single (x : Float32) : Storable .binary32 x.toModel.unpack :=
  storable_unpack (f := .binary32) (by decide) x.toModel.toBits.toBitVec

theorem unpack_add (x y : Float32) : (x + y).toModel.unpack =
    stored .binary32 (UnpackedFloat.add .binary32 x.toModel.unpack y.toModel.unpack) := rfl

theorem ne_notANumber_of_isNumber (h : Scalar.isNumber x = true) :
    x.toModel.unpack ≠ .notANumber := by
  intro hnan
  have hbeq : x.toModel.unpack.beq x.toModel.unpack = true := h
  rw [hnan] at hbeq
  cases hbeq

theorem isNumber_of_isFinite (h : x.isFinite = true) : Scalar.isNumber x = true :=
  beq_self_of_ne_notANumber (ne_notANumber_of_isFinite h)

theorem infinity_or_isFinite (hx : Scalar.isNumber x = true) :
    (∃ s, x.toModel.unpack = .infinity s) ∨ x.isFinite = true := by
  have hnumber := ne_notANumber_of_isNumber hx
  change _ ∨ x.toModel.unpack.isFinite = true
  cases hu : x.toModel.unpack with
  | notANumber => exact absurd hu hnumber
  | infinity s => exact .inl ⟨s, rfl⟩
  | zero s | finite s m e h => exact .inr rfl

/-- What is between finite singles is finite. -/
theorem isFinite_of_between {z : Float32} (hx : x.isFinite = true) (hz : z.isFinite = true)
    (h : x ≤ y) (h' : y ≤ z) : y.isFinite = true := by
  rw [float32_le_iff] at h h'
  change x.toModel.unpack.isFinite = true at hx
  change z.toModel.unpack.isFinite = true at hz
  rcases infinity_or_isFinite (Scalar.isNumber_of_le (float32_le_iff.mpr h)).2 with ⟨s, hs⟩ | hy
  · exfalso
    rw [hs] at h h'
    cases s with
    | negative => cases hu : x.toModel.unpack with
      | notANumber | infinity t => rw [hu] at hx; cases hx
      | zero t => rw [hu] at h; cases h
      | finite t m e hm => rw [hu] at h; cases t <;> cases h
    | positive => cases hu : z.toModel.unpack with
      | notANumber | infinity t => rw [hu] at hz; cases hz
      | zero t => rw [hu] at h'; cases h'
      | finite t m e hm => rw [hu] at h'; cases t <;> cases h'
  · exact hy

theorem single_le_iff (hx : Scalar.isNumber x = true) (hy : Scalar.isNumber y = true) :
    x ≤ y ↔ singleUnits x ≤ singleUnits y := by
  rw [float32_le_iff]
  exact le_iff_units (by decide) (storable_single x) (storable_single y)
    (ne_notANumber_of_isNumber hx) (ne_notANumber_of_isNumber hy)

theorem singleUnits_pos (hfinite : step.isFinite = true) (hpos : 0.0 < step) :
    0 < singleUnits step := by
  have hzero : singleUnits 0.0 = 0 := by decide
  have hle : ¬ step ≤ 0.0 := fun hle => not_lt_of_le hle hpos
  rw [single_le_iff (isNumber_of_isFinite hfinite) (by decide), hzero] at hle
  omega

/-! ### Infinite steps -/

/-- What is not finite and not at most zero is infinite, if it is a number. -/
theorem unpack_eq_infinity_of_pos (hfinite : ¬ step.isFinite = true) (hpos : ¬ step ≤ 0.0)
    (hnumber : Scalar.isNumber step = true) : step.toModel.unpack = .infinity .positive := by
  obtain ⟨s, hs⟩ := (infinity_or_isFinite hnumber).resolve_right hfinite
  cases s with
  | positive => exact hs
  | negative =>
    refine absurd (float32_le_iff.mpr ?_) hpos
    rw [hs]
    rfl

theorem isNumber_of_isNumber_add (h : Scalar.isNumber (x + step) = true) :
    Scalar.isNumber step = true := by
  refine beq_self_of_ne_notANumber fun hnan => ne_notANumber_of_isNumber h ?_
  have hadd : UnpackedFloat.add .binary32 x.toModel.unpack .notANumber = .notANumber := by
    cases x.toModel.unpack <;> rfl
  rw [unpack_add, hnan, hadd]
  rfl

/-- A sum with an infinity is that infinity, if it is a number. -/
theorem unpack_add_infinity (hstep : step.toModel.unpack = .infinity .positive)
    (hsum : Scalar.isNumber (x + step) = true) :
    (x + step).toModel.unpack = .infinity .positive := by
  have hnumber := ne_notANumber_of_isNumber hsum
  rw [unpack_add, hstep] at hnumber ⊢
  cases hx : x.toModel.unpack with
  | notANumber =>
    rw [hx] at hnumber
    exact absurd rfl hnumber
  | infinity s =>
    cases s with
    | positive => exact stored_infinity .positive
    | negative =>
      rw [hx] at hnumber
      exact absurd rfl hnumber
  | zero s | finite s m e hm => exact stored_infinity .positive

/-! ### Finite steps -/

variable (hstep : step.isFinite = true) (hpos : 0.0 < step)

include hstep in
theorem isNumber_add (hx : Scalar.isNumber x = true) : Scalar.isNumber (x + step) = true := by
  apply beq_self_of_ne_notANumber
  rw [unpack_add]
  exact unpack_pack_isNumber (add_ne_notANumber (ne_notANumber_of_isNumber hx) hstep)

include hstep in
/-- Infinities stay where they are. -/
theorem unpack_add_of_infinity {s : Sign} (hx : x.toModel.unpack = .infinity s) :
    (x + step).toModel.unpack = x.toModel.unpack := by
  have hadd : UnpackedFloat.add .binary32 (.infinity s) step.toModel.unpack = .infinity s := by
    have hfinite : step.toModel.unpack.isFinite = true := hstep
    cases hy : step.toModel.unpack with
    | notANumber | infinity t => rw [hy] at hfinite; cases hfinite
    | zero t | finite t m e h => rfl
  rw [unpack_add, hx, hadd, stored_infinity]

include hstep hpos in
theorem le_add (hx : Scalar.isNumber x = true) : x ≤ x + step := by
  rw [single_le_iff hx (isNumber_add hstep hx)]
  rcases infinity_or_isFinite hx with ⟨s, hs⟩ | hfinite
  · rw [singleUnits, singleUnits, unpack_add_of_infinity hstep hs]
  · exact le_add_of_pos (by decide) (storable_single x) (storable_single step) hfinite hstep
      (singleUnits_pos hstep hpos)

include hstep hpos in
theorem lt_add (hfinite : x.isFinite = true)
    (hreach : InReach .binary32 (singleUnits x) (singleUnits step)) : x < x + step := by
  have hx := isNumber_of_isFinite hfinite
  refine lt_of_not_le (isNumber_add hstep hx) hx fun hle => ?_
  rw [single_le_iff (isNumber_add hstep hx) hx] at hle
  have hlt : singleUnits x < singleUnits (x + step) :=
    lt_add_of_inReach (by decide) (storable_single x) (storable_single step) hfinite hstep
      (singleUnits_pos hstep hpos) hreach
  omega

include hstep hpos in
/-- Adding leads up, or nowhere. -/
theorem lt_add_or_beq (hx : Scalar.isNumber x = true) : x < x + step ∨ (x + step == x) = true := by
  by_cases hle : x + step ≤ x
  · exact .inr (beq_of_le_of_le (float32_le_iff.mp hle) (float32_le_iff.mp (le_add hstep hpos hx)))
  · exact .inl (lt_of_not_le (isNumber_add hstep hx) hx hle)

include hstep hpos in
/-- Where adding leads nowhere, the sum is the very float there was. -/
theorem unpack_add_of_beq (h : (x + step == x) = true) :
    (x + step).toModel.unpack = x.toModel.unpack := by
  rcases eq_or_zeros_of_beq h with hsame | ⟨⟨t, ht⟩, s, hs⟩
  · exact hsame
  · have hfinite : x.isFinite = true := by
      show x.toModel.unpack.isFinite = true
      rw [hs]
      rfl
    have hunits : singleUnits x = 0 := by rw [singleUnits, hs]; rfl
    have hreach : InReach .binary32 (singleUnits x) (singleUnits step) := by
      have hunit := singleUnits_pos hstep hpos
      rw [hunits]
      show (0 : Int) ≤ 2 ^ 23 * singleUnits step
      omega
    have hle : x + step ≤ x := by
      have hx := isNumber_of_isFinite hfinite
      rw [single_le_iff (isNumber_add hstep hx) hx, singleUnits, ht, singleUnits, hs]
      rfl
    exact absurd (lt_add hstep hpos hfinite hreach) (not_lt_of_le hle)

/-! ### Counting -/

theorem toFin_injective : Function.Injective fun x : Float32 => x.toBits.toFin := by
  intro x y h
  exact Float32.toBits_inj.mp (UInt32.toFin_inj.mp h)

instance instFiniteFloat32 : Finite Float32 := .of_injective _ toFin_injective

theorem card_float32_le : Nat.card Float32 ≤ UInt32.size := by
  have hcard := Nat.card_le_card_of_injective _ toFin_injective
  rwa [Nat.card_fin] at hcard

/-- How many singles are above one. -/
noncomputable def above (x : Float32) : Nat := {y : Float32 | x < y}.ncard

theorem not_lt_self (x : Float32) : ¬ x < x := fun h => not_lt_of_le (Std.le_of_lt h) h

theorem above_lt_size (x : Float32) : above x < UInt32.size := by
  have hssubset : {y : Float32 | x < y} ⊂ Set.univ :=
    Set.ssubset_univ_iff.mpr fun hall => not_lt_self x (Set.eq_univ_iff_forall.mp hall x)
  have hless := Set.ncard_lt_ncard hssubset
  rw [Set.ncard_univ] at hless
  exact Nat.lt_of_lt_of_le hless card_float32_le

theorem above_lt_of_lt (h : x < y) : above y < above x := by
  have hssubset : {z : Float32 | y < z} ⊂ {z | x < z} :=
    ⟨fun z hz => Std.lt_trans h hz, fun hall => not_lt_self y (hall h)⟩
  exact Set.ncard_lt_ncard hssubset

end EventGraph.Number
