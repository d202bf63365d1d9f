import EventGraph.Plane.Basic

/-!
# Equality of floats

To be equal as floats is symmetric and transitive. It does not tell the two zeros apart, and what
is not a number is equal to nothing.
-/

namespace EventGraph

namespace Number

open Float.Model (UnpackedFloat)

theorem eq_of_compare_then {m m' : Nat} {e e' : Int}
    (h : (compare e e').then (compare m m') = .eq) : m = m' ∧ e = e' := by
  obtain ⟨he, hm⟩ := Ordering.then_eq_eq.mp h
  exact ⟨Nat.compare_eq_eq.mp hm, Int.compare_eq_eq.mp he⟩

/-- Equal floats are one and the same, or both zero. -/
theorem eq_or_zeros_of_beq {x y : UnpackedFloat} (h : x.beq y = true) :
    x = y ∨ (∃ s, x = .zero s) ∧ ∃ t, y = .zero t := by
  have hcompare : x.compare y = some .eq := beq_iff_eq.mp h
  cases x with
  | notANumber => cases hcompare
  | zero s =>
    cases y with
    | zero t => exact .inr ⟨⟨s, rfl⟩, t, rfl⟩
    | notANumber => cases hcompare
    | infinity t | finite t m e hm => cases t <;> cases hcompare
  | infinity s =>
    cases y with
    | infinity t => cases s <;> cases t <;> first | exact .inl rfl | cases hcompare
    | notANumber | zero t | finite t m e hm => cases s <;> cases hcompare
  | finite s m e hm =>
    cases y with
    | finite t m' e' hm' =>
      left
      cases s <;> cases t
      · obtain ⟨rfl, rfl⟩ := eq_of_compare_then (Ordering.swap_eq_eq.mp (Option.some.inj hcompare))
        rfl
      · cases hcompare
      · cases hcompare
      · obtain ⟨rfl, rfl⟩ := eq_of_compare_then (Option.some.inj hcompare)
        rfl
    | notANumber | zero t => cases s <;> cases hcompare
    | infinity t => cases s <;> cases t <;> cases hcompare

/-- Only what is not a number differs from itself. -/
theorem beq_self_of_ne_notANumber {u : UnpackedFloat} (h : u ≠ .notANumber) :
    u.beq u = true := by
  have hcompare : ∀ (m : Nat) (e : Int), (compare e e).then (compare m m) = .eq := by
    intro m e
    rw [Std.compare_self, Std.compare_self]
    rfl
  cases u with
  | notANumber => exact absurd rfl h
  | zero s => rfl
  | infinity s => cases s <;> rfl
  | finite s m e hm =>
    cases s with
    | negative =>
      show (some ((compare e e).then (compare m m)).swap == some .eq) = true
      rw [hcompare]
      rfl
    | positive =>
      show (some ((compare e e).then (compare m m)) == some .eq) = true
      rw [hcompare]
      rfl

theorem ne_notANumber_of_isFinite {u : UnpackedFloat} (h : u.isFinite = true) :
    u ≠ .notANumber := by
  rintro rfl
  cases h

theorem beq_comm_of_beq {x y : UnpackedFloat} (h : x.beq y = true) : y.beq x = true := by
  rcases eq_or_zeros_of_beq h with rfl | ⟨⟨s, rfl⟩, t, rfl⟩
  · exact h
  · rfl

theorem beq_trans_of_beq {x y z : UnpackedFloat} (h : x.beq y = true) (h' : y.beq z = true) :
    x.beq z = true := by
  rcases eq_or_zeros_of_beq h with rfl | ⟨⟨s, rfl⟩, t, rfl⟩
  · exact h'
  · rcases eq_or_zeros_of_beq h' with rfl | ⟨-, u, rfl⟩
    · exact h
    · rfl

end Number

instance instPartialEquivBEqFloat32 : PartialEquivBEq Float32 where
  symm := Number.beq_comm_of_beq
  trans := Number.beq_trans_of_beq

instance instPartialEquivBEqFloat : PartialEquivBEq Float where
  symm := Number.beq_comm_of_beq
  trans := Number.beq_trans_of_beq

namespace Point

variable {α : Type} [BEq α]

theorem beq_iff {p q : Point α} : (p == q) = true ↔ (p.x == q.x) = true ∧ (p.y == q.y) = true :=
  Bool.and_eq_true_iff

instance [PartialEquivBEq α] : PartialEquivBEq (Point α) where
  symm h := beq_iff.mpr ((beq_iff.mp h).imp BEq.symm BEq.symm)
  trans h h' := beq_iff.mpr
    ⟨BEq.trans (beq_iff.mp h).1 (beq_iff.mp h').1, BEq.trans (beq_iff.mp h).2 (beq_iff.mp h').2⟩

end Point

end EventGraph
