import EventGraph.Proofs.Number.Rising
import EventGraph.Scene.Frame

/-!
# The lines of a grid

Each line of a grid is found by adding the spacing to the one before, until one is out of sight. A
sum is rounded: far away from the origin, or with a small spacing, it can be the line there was, and
then the lines never end. Otherwise they do, as there are only so many floats to rise through.
-/

namespace EventGraph.Scene.Grid

section Scalars

variable {α : Type} [Scalar α] {spacing last start x : α} {xs : List α} {fuel n : Nat}

/-- The line after some additions of the spacing. -/
def line (spacing start : α) : Nat → α
  | 0 => start
  | n + 1 => line spacing start n + spacing

/-- Just the first `n` lines are up to a position. -/
structure EndsAfter (spacing last start : α) (n : Nat) : Prop where
  reached : ∀ k < n, line spacing start k ≤ last
  passed : ¬ line spacing start n ≤ last

/-- The lines come to an end. -/
def Ends (spacing last start : α) : Prop := ∃ n, EndsAfter spacing last start n

/-- A line up to a position is left where it is by adding the spacing. -/
def Stalls (spacing last start : α) : Prop :=
  ∃ n, (∀ k ≤ n, line spacing start k ≤ last) ∧
    (line spacing start (n + 1) == line spacing start n) = true

theorem line_add_spacing (spacing start : α) (n : Nat) :
    line spacing (start + spacing) n = line spacing start (n + 1) := by
  induction n with
  | zero => rfl
  | succ n ih => rw [line, ih]; rfl

theorem EndsAfter.succ (hstart : start ≤ last) (h : EndsAfter spacing last (start + spacing) n) :
    EndsAfter spacing last start (n + 1) where
  reached
    | 0, _ => hstart
    | k + 1, hk => line_add_spacing spacing start k ▸ h.reached k (Nat.lt_of_succ_lt_succ hk)
  passed := line_add_spacing spacing start n ▸ h.passed

theorem Stalls.succ (hstart : start ≤ last) (h : Stalls spacing last (start + spacing)) :
    Stalls spacing last start := by
  obtain ⟨n, hreached, hstays⟩ := h
  simp only [line_add_spacing] at hreached hstays
  refine ⟨n + 1, fun k hk => ?_, hstays⟩
  cases k with
  | zero => exact hstart
  | succ k => exact hreached k (Nat.le_of_succ_le_succ hk)

theorem EndsAfter.unique {m : Nat} (h : EndsAfter spacing last start n)
    (h' : EndsAfter spacing last start m) : n = m := by
  rcases lt_trichotomy n m with hlt | heq | hgt
  · exact absurd (h'.reached n hlt) h.passed
  · exact heq
  · exact absurd (h.reached m hgt) h'.passed

/-- The positions that are found are those of the lines, all of them. -/
theorem endsAfter_of_positionsFrom (h : positionsFrom spacing last fuel start = some xs) :
    ∃ n, EndsAfter spacing last start n ∧ xs = (List.range n).map (line spacing start) := by
  induction fuel generalizing start xs with
  | zero => cases h
  | succ fuel ih =>
    rw [positionsFrom] at h
    split at h
    · rename_i hstart
      split at h
      · cases h
      · obtain ⟨ys, hys, rfl⟩ := Option.map_eq_some_iff.mp h
        obtain ⟨n, hends, rfl⟩ := ih hys
        refine ⟨n + 1, hends.succ hstart, ?_⟩
        rw [List.range_succ_eq_map, List.map_cons, List.map_map]
        congr 1
        exact List.map_congr_left fun k _ => line_add_spacing spacing start k
    · rename_i hstart
      obtain rfl := Option.some.inj h
      exact ⟨0, ⟨nofun, hstart⟩, rfl⟩

end Scalars

/-! ### Singles -/

variable {spacing last start x : Float32} {xs : List Float32} {fuel : Nat}
variable (hfinite : spacing.isFinite = true) (hpos : 0.0 < spacing)

include hfinite hpos in
/-- There are singles enough to rise through: only a line that stays where it is keeps the lines
from their end. -/
theorem stalls_of_positionsFrom (h : positionsFrom spacing last fuel start = none)
    (hfuel : Number.above start < fuel) : Stalls spacing last start := by
  induction fuel generalizing start with
  | zero => cases hfuel
  | succ fuel ih =>
    rw [positionsFrom] at h
    split at h
    · rename_i hstart
      have hnumber := (Scalar.isNumber_of_le hstart).1
      rcases Number.lt_add_or_beq hfinite hpos hnumber with hlt | hstays
      · rw [if_neg fun hle => Number.not_lt_of_le hle hlt] at h
        have hless := Number.above_lt_of_lt hlt
        exact (ih (Option.map_eq_none_iff.mp h) (by omega)).succ hstart
      · refine ⟨0, fun k hk => ?_, hstays⟩
        obtain rfl := Nat.le_zero.mp hk
        exact hstart
    · cases h

include hfinite hpos in
/-- Lines that stay where they are never end. -/
theorem not_ends_of_stalls (h : Stalls spacing last start) : ¬ Ends spacing last start := by
  obtain ⟨n, hreached, hstays⟩ := h
  have hstep := Number.unpack_add_of_beq hfinite hpos hstays
  have hsame : ∀ m, n ≤ m →
      (line spacing start m).toModel.unpack = (line spacing start n).toModel.unpack := by
    intro m hle
    induction m, hle using Nat.le_induction with
    | base => rfl
    | succ m hle ih =>
      rw [line, Number.unpack_add, ih, ← Number.unpack_add]
      exact hstep
  rintro ⟨m, -, hpassed⟩
  rcases Nat.le_total m n with hle | hle
  · exact hpassed (hreached m hle)
  · rw [Number.float32_le_iff, hsame m hle, ← Number.float32_le_iff] at hpassed
    exact hpassed (hreached n (Nat.le_refl n))

include hfinite hpos in
theorem ends_iff_not_stalls : Ends spacing last start ↔ ¬ Stalls spacing last start := by
  refine ⟨fun hends hstalls => not_ends_of_stalls hfinite hpos hstalls hends, fun hstalls => ?_⟩
  cases hxs : positionsFrom spacing last bound start with
  | some xs =>
    obtain ⟨n, hends, -⟩ := endsAfter_of_positionsFrom hxs
    exact ⟨n, hends⟩
  | none =>
    exact absurd (stalls_of_positionsFrom hfinite hpos hxs (Number.above_lt_size start)) hstalls

include hfinite hpos in
/-- The positions of a grid are those of its lines, if they end. -/
theorem positionsFrom_eq_some_iff : positionsFrom spacing last bound start = some xs ↔
    ∃ n, EndsAfter spacing last start n ∧ xs = (List.range n).map (line spacing start) := by
  refine ⟨endsAfter_of_positionsFrom, ?_⟩
  rintro ⟨n, hends, rfl⟩
  cases hxs : positionsFrom spacing last bound start with
  | some xs =>
    obtain ⟨m, hends', rfl⟩ := endsAfter_of_positionsFrom hxs
    rw [hends.unique hends']
  | none =>
    have hstalls := stalls_of_positionsFrom hfinite hpos hxs (Number.above_lt_size start)
    exact absurd ⟨n, hends⟩ (not_ends_of_stalls hfinite hpos hstalls)

include hfinite hpos in
theorem positionsFrom_isSome_iff :
    (positionsFrom spacing last bound start).isSome = true ↔ Ends spacing last start := by
  simp only [Option.isSome_iff_exists, positionsFrom_eq_some_iff hfinite hpos]
  exact ⟨fun ⟨_, n, hends, _⟩ => ⟨n, hends⟩, fun ⟨n, hends⟩ => ⟨_, n, hends, rfl⟩⟩

/-! ### Near the origin -/

/-- Whether a position is at most `2 ^ 23` spacings away from the origin. -/
def Near (spacing x : Float32) : Prop :=
  x.isFinite = true ∧
    Number.InReach .binary32 (Number.singleUnits x) (Number.singleUnits spacing)

instance (spacing x : Float32) : Decidable (Near spacing x) := inferInstanceAs (Decidable (_ ∧ _))

include hfinite hpos in
theorem start_le_line {n : Nat} (hstart : Scalar.isNumber start = true) :
    start ≤ line spacing start n := by
  induction n with
  | zero => exact Scalar.le_self_of_isNumber hstart
  | succ n ih =>
    have hnext := Number.le_add hfinite hpos (Scalar.isNumber_of_le ih).2
    exact Trans.trans ih hnext

theorem Near.between {y z : Float32} (hx : Near spacing x) (hz : Near spacing z) (h : x ≤ y)
    (h' : y ≤ z) : Near spacing y := by
  have hnumber := (Scalar.isNumber_of_le h).2
  have hlow := (Number.single_le_iff (Number.isNumber_of_isFinite hx.1) hnumber).mp h
  have hhigh := (Number.single_le_iff hnumber (Number.isNumber_of_isFinite hz.1)).mp h'
  refine ⟨Number.isFinite_of_between hx.1 hz.1 h h', ?_⟩
  have hreach := hx.2
  have hreach' := hz.2
  rw [Number.InReach] at *
  omega

include hfinite hpos in
/-- Near the origin, every line is moved on. -/
theorem ends_of_near (hstart : Near spacing start) (hlast : Near spacing last) :
    Ends spacing last start := by
  rw [ends_iff_not_stalls hfinite hpos]
  rintro ⟨n, hreached, hstays⟩
  have hbetween := hstart.between hlast
    (start_le_line hfinite hpos (Number.isNumber_of_isFinite hstart.1)) (hreached n (Nat.le_refl n))
  have hlt := Number.lt_add hfinite hpos hbetween.1 hbetween.2
  exact Number.not_lt_of_le (Number.float32_le_iff.mpr (Number.le_of_beq hstays)) hlt

/-! ### Frames -/

/-- The first line after a position. -/
def firstLine (spacing first : Float32) : Float32 := Scalar.ceil (first / spacing) * spacing

theorem pos_of_isDrawn {scale : Float32} (hfinite : spacing.isFinite = true)
    (h : isDrawn spacing scale = true) : 0.0 < spacing := by
  rw [isDrawn, Bool.not_eq_true', Bool.or_eq_false_iff, decide_eq_false_iff_not] at h
  exact Number.lt_of_not_le (Number.isNumber_of_isFinite hfinite) (by decide) h.1

include hfinite hpos in
theorem positions_isSome_iff {first : Float32} : (positions spacing first last).isSome = true ↔
    Ends spacing last (firstLine spacing first) := positionsFrom_isSome_iff hfinite hpos

include hfinite in
theorem marks_isSome_iff (v : Viewport Float32) :
    (marks v spacing).isSome = true ↔ (isDrawn spacing v.scale = true →
      Ends spacing v.visible.max.x (firstLine spacing v.visible.min.x) ∧
      Ends spacing v.visible.max.y (firstLine spacing v.visible.min.y)) := by
  rw [marks]
  by_cases hdrawn : isDrawn spacing v.scale = true
  · have hpos := pos_of_isDrawn hfinite hdrawn
    rw [if_pos hdrawn, ← positions_isSome_iff hfinite hpos, ← positions_isSome_iff hfinite hpos]
    dsimp only
    cases positions spacing v.visible.min.x v.visible.max.x with
    | none => simp [hdrawn]
    | some xs => cases positions spacing v.visible.min.y v.visible.max.y with
      | none => simp [hdrawn]
      | some ys => simp
  · rw [if_neg hdrawn]
    exact iff_of_true rfl fun h => absurd h hdrawn

/-- Whether the grid of an editor has lines. -/
def gridIsDrawn (e : Editor Float32) : Bool :=
  e.settings.showGrid && isDrawn e.settings.gridSpacing e.viewport.scale

theorem frame_isSome_iff_gridMarks (e : Editor Float32) (m : Measurer Float32)
    (h : Highlights Float32) : (frame e m h).isSome = (gridMarks e).isSome := Option.isSome_map

/-- **A frame is there just when its grid is not drawn, or the lines of the grid end in both
directions. Lines end just when no line in sight is left where it is by adding the spacing; near
the origin there is none.** -/
theorem frame_isSome_iff (e : Editor Float32) (m : Measurer Float32) (h : Highlights Float32)
    (hfinite : e.settings.gridSpacing.isFinite = true) :
    let spacing := e.settings.gridSpacing
    let shown := e.viewport.visible
    ((frame e m h).isSome = true ↔ (gridIsDrawn e = true →
      Ends spacing shown.max.x (firstLine spacing shown.min.x) ∧
      Ends spacing shown.max.y (firstLine spacing shown.min.y))) ∧
    (gridIsDrawn e = true → ∀ last start,
      (Ends spacing last start ↔ ¬ Stalls spacing last start) ∧
      (Near spacing start → Near spacing last → Ends spacing last start)) := by
  refine ⟨?_, fun hdrawn last start => ?_⟩
  · rw [frame_isSome_iff_gridMarks, gridMarks, gridIsDrawn, Bool.and_eq_true]
    by_cases hshown : e.settings.showGrid = true
    · rw [if_pos hshown, marks_isSome_iff hfinite]
      simp only [hshown, true_and]
    · rw [if_neg hshown]
      exact iff_of_true rfl fun hdrawn => absurd hdrawn.1 hshown
  · rw [gridIsDrawn, Bool.and_eq_true] at hdrawn
    have hpos := pos_of_isDrawn hfinite hdrawn.2
    exact ⟨ends_iff_not_stalls hfinite hpos, ends_of_near hfinite hpos⟩

/-- An editor that has just been opened on nothing. -/
def blank : Editor Float32 := .ofGraph .default {}

/-- Its grid is near the origin. -/
theorem frame_isSome_blank : blank.settings.gridSpacing.isFinite = true ∧
    (frame blank .standard {}).isSome = true := by
  have hfinite : blank.settings.gridSpacing.isFinite = true := by decide +kernel
  obtain ⟨hframe, hlines⟩ := frame_isSome_iff blank .standard {} hfinite
  have hnear : (Near blank.settings.gridSpacing
        (firstLine blank.settings.gridSpacing blank.viewport.visible.min.x) ∧
      Near blank.settings.gridSpacing blank.viewport.visible.max.x) ∧
      Near blank.settings.gridSpacing
        (firstLine blank.settings.gridSpacing blank.viewport.visible.min.y) ∧
      Near blank.settings.gridSpacing blank.viewport.visible.max.y := by
    decide +kernel
  refine ⟨hfinite, hframe.mpr fun hdrawn => ⟨?_, ?_⟩⟩
  · exact (hlines hdrawn _ _).2 hnear.1.1 hnear.1.2
  · exact (hlines hdrawn _ _).2 hnear.2.1 hnear.2.2

/-- A view that has been moved far to the right. Floats are `64` apart where it is. -/
def faraway : Viewport Float32 := Viewport.default.pan ⟨1000000000.0, 0.0⟩

/-- Whether a view is somewhere, of some size. -/
def IsFiniteView (v : Viewport Float32) : Prop :=
  (v.offset.x.isFinite = true ∧ v.offset.y.isFinite = true) ∧
  (v.canvas.x.isFinite = true ∧ v.canvas.y.isFinite = true) ∧
  (v.zone.x.isFinite = true ∧ v.zone.y.isFinite = true)

instance (v : Viewport Float32) : Decidable (IsFiniteView v) :=
  inferInstanceAs (Decidable (_ ∧ _ ∧ _))

/-- Adding the spacing to the first line in the far view is lost in rounding. -/
theorem not_always_ends :
    ¬ ∀ (v : Viewport Float32) (spacing : Float32), IsFiniteView v →
      v.minScale ≤ v.scale → v.scale ≤ v.maxScale → spacing.isFinite = true →
      isDrawn spacing v.scale = true →
      Ends spacing v.visible.max.x (firstLine spacing v.visible.min.x) ∧
      Ends spacing v.visible.max.y (firstLine spacing v.visible.min.y) := by
  intro hends
  have hfinite : (20.0 : Float32).isFinite = true := by decide
  have hview : IsFiniteView faraway ∧ faraway.minScale ≤ faraway.scale ∧
      faraway.scale ≤ faraway.maxScale ∧ isDrawn 20.0 faraway.scale = true := by decide +kernel
  have hline : firstLine 20.0 faraway.visible.min.x ≤ faraway.visible.max.x ∧
      (firstLine 20.0 faraway.visible.min.x + 20.0 ==
        firstLine 20.0 faraway.visible.min.x) = true := by decide +kernel
  obtain ⟨hends, -⟩ := hends faraway 20.0 hview.1 hview.2.1 hview.2.2.1 hfinite hview.2.2.2
  refine not_ends_of_stalls hfinite (by decide) ⟨0, fun k hk => ?_, hline.2⟩ hends
  obtain rfl := Nat.le_zero.mp hk
  exact hline.1

end EventGraph.Scene.Grid
