import EventGraph.Proofs.Number.Product

/-!
# Floats that are alike

Floats are alike if they are equal or neither is a number. The two zeros are the only different ones
among the numbers, and no sum, difference, product or comparison tells them apart.
-/

namespace EventGraph.Number

open Float.Model (UnpackedFloat)
open Float.Model.UnpackedFloat

/-- Equal, or neither of them a number. -/
def Alike (x y : Float32) : Prop :=
  (x == y) = true ∨ Scalar.isNumber x = false ∧ Scalar.isNumber y = false

/-- The same unpacked, or both zero. -/
def Twins (u v : UnpackedFloat) : Prop := u = v ∨ (∃ s, u = .zero s) ∧ ∃ t, v = .zero t

variable {x x' y y' : Float32} {u u' v v' : UnpackedFloat}

theorem Twins.refl (u : UnpackedFloat) : Twins u u := .inl rfl

theorem Twins.zeros (s t : Sign) : Twins (.zero s) (.zero t) := .inr ⟨⟨s, rfl⟩, t, rfl⟩

theorem Twins.trans (h : Twins u v) (h' : Twins v v') : Twins u v' := by
  rcases h with rfl | ⟨⟨s, rfl⟩, t, rfl⟩
  · exact h'
  · rcases h' with rfl | ⟨-, r, rfl⟩
    · exact .zeros s t
    · exact .zeros s r

theorem alike_iff : Alike x y ↔ Twins x.toModel.unpack y.toModel.unpack := by
  have hnan : ∀ {x : Float32}, Scalar.isNumber x = false → x.toModel.unpack = .notANumber := by
    intro x hx
    by_contra hnumber
    have hself : Scalar.isNumber x = true := beq_self_of_ne_notANumber hnumber
    rw [hx] at hself
    cases hself
  constructor
  · rintro (hequal | ⟨hx, hy⟩)
    · exact eq_or_zeros_of_beq hequal
    · rw [hnan hx, hnan hy]
      exact .refl _
  · intro h
    by_cases hnumber : x.toModel.unpack = .notANumber
    · rcases h with hsame | ⟨⟨s, hs⟩, -⟩
      · have hfalse : ∀ {x : Float32}, x.toModel.unpack = .notANumber →
            Scalar.isNumber x = false := by
          intro x hx
          show x.toModel.unpack.beq x.toModel.unpack = false
          rw [hx]
          rfl
        exact .inr ⟨hfalse hnumber, hfalse (hsame ▸ hnumber)⟩
      · rw [hs] at hnumber
        cases hnumber
    · left
      show x.toModel.unpack.beq y.toModel.unpack = true
      rcases h with hsame | ⟨⟨s, hs⟩, t, ht⟩
      · rw [← hsame]
        exact beq_self_of_ne_notANumber hnumber
      · rw [hs, ht]
        rfl

theorem Alike.refl (x : Float32) : Alike x x := alike_iff.mpr (.refl _)

/-- Operations that do not tell the zeros apart do not tell twins apart. -/
theorem Twins.map₂ {op : UnpackedFloat → UnpackedFloat → UnpackedFloat}
    (hleft : ∀ s t v, Twins (op (.zero s) v) (op (.zero t) v))
    (hright : ∀ u s t, Twins (op u (.zero s)) (op u (.zero t)))
    (hu : Twins u u') (hv : Twins v v') : Twins (op u v) (op u' v') := by
  have hfirst : Twins (op u v) (op u' v) := by
    rcases hu with rfl | ⟨⟨s, rfl⟩, t, rfl⟩
    · exact .refl _
    · exact hleft s t v
  refine hfirst.trans ?_
  rcases hv with rfl | ⟨⟨s, rfl⟩, t, rfl⟩
  · exact .refl _
  · exact hright u' s t

theorem Twins.stored (h : Twins u v) : Twins (stored .binary32 u) (stored .binary32 v) := by
  rcases h with rfl | ⟨⟨s, rfl⟩, t, rfl⟩
  · exact .refl _
  · rw [stored_zero, stored_zero]
    exact .zeros s t

theorem twins_add (hu : Twins u u') (hv : Twins v v') :
    Twins (UnpackedFloat.add .binary32 u v) (UnpackedFloat.add .binary32 u' v') := by
  refine .map₂ (fun s t v => ?_) (fun u s t => ?_) hu hv
  · cases v with
    | notANumber | infinity r | finite r m e hm => exact .refl _
    | zero r => cases s <;> cases t <;> cases r <;> exact .zeros _ _
  · cases u with
    | notANumber | infinity r | finite r m e hm => exact .refl _
    | zero r => cases s <;> cases t <;> cases r <;> exact .zeros _ _

theorem twins_sub (hu : Twins u u') (hv : Twins v v') :
    Twins (UnpackedFloat.sub .binary32 u v) (UnpackedFloat.sub .binary32 u' v') := by
  refine .map₂ (fun s t v => ?_) (fun u s t => ?_) hu hv
  · cases v with
    | notANumber | infinity r | finite r m e hm => exact .refl _
    | zero r => cases s <;> cases t <;> cases r <;> exact .zeros _ _
  · cases u with
    | notANumber | infinity r | finite r m e hm => exact .refl _
    | zero r => cases s <;> cases t <;> cases r <;> exact .zeros _ _

theorem twins_mul (hu : Twins u u') (hv : Twins v v') :
    Twins (UnpackedFloat.mul .binary32 u v) (UnpackedFloat.mul .binary32 u' v') := by
  refine .map₂ (fun s t v => ?_) (fun u s t => ?_) hu hv
  · cases v with
    | notANumber | infinity r => exact .refl _
    | zero r | finite r m e hm => exact .zeros _ _
  · cases u with
    | notANumber | infinity r => exact .refl _
    | zero r | finite r m e hm => exact .zeros _ _

theorem rank?_congr (h : Twins u v) : rank? u = rank? v := by
  rcases h with rfl | ⟨⟨s, rfl⟩, t, rfl⟩
  · rfl
  · rfl

namespace Alike

theorem add (hx : Alike x x') (hy : Alike y y') : Alike (x + y) (x' + y') := by
  rw [alike_iff] at hx hy ⊢
  exact (twins_add hx hy).stored

theorem sub (hx : Alike x x') (hy : Alike y y') : Alike (x - y) (x' - y') := by
  rw [alike_iff] at hx hy ⊢
  exact (twins_sub hx hy).stored

theorem mul (hx : Alike x x') (hy : Alike y y') : Alike (x * y) (x' * y') := by
  rw [alike_iff] at hx hy ⊢
  exact (twins_mul hx hy).stored

/-- Comparisons are alike. -/
theorem le_iff (hx : Alike x x') (hy : Alike y y') : x ≤ y ↔ x' ≤ y' := by
  rw [alike_iff] at hx hy
  rw [float32_le_iff, float32_le_iff, le_iff_rank, le_iff_rank, rank?_congr hx, rank?_congr hy]

end Alike

end EventGraph.Number
