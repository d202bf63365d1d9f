import EventGraph.Editor.Settings
import EventGraph.Proofs.Number.Order

/-!
# Settings that are accepted

A text of settings is refused when its zoom range is seen to be empty or not positive. A limit that
is not a number is never seen to be so: such settings are accepted although no scale is in their
range.
-/

namespace EventGraph.Settings

/-- The settings that a text spells, before their zoom range is looked at. -/
def spelled? (text : String) : Option (Settings Float32) :=
  (Ron.read? text).bind fun v => (v.recordFields? recordName).bind ofFields?

/-- A range of zoom factors that are positive, and that is not empty. -/
def HasZoomRange (s : Settings Float32) : Prop := 0.0 < s.minScale ∧ s.minScale ≤ s.maxScale

instance (s : Settings Float32) : Decidable s.HasZoomRange := inferInstanceAs (Decidable (_ ∧ _))

/-- A limit is not a number, and nothing else is wrong with the range. -/
def HasNoLimit (s : Settings Float32) : Prop :=
  Scalar.isNumber s.minScale = false ∨ 0.0 < s.minScale ∧ Scalar.isNumber s.maxScale = false

instance (s : Settings Float32) : Decidable s.HasNoLimit :=
  inferInstanceAs (Decidable (_ ∨ _ ∧ _))

variable {s s' : Settings Float32} {e : SettingsError}

theorem isNumber_zero : Scalar.isNumber (0.0 : Float32) = true := by decide

theorem not_le_zero_iff :
    ¬ s.minScale ≤ 0.0 ↔ 0.0 < s.minScale ∨ Scalar.isNumber s.minScale = false := by
  constructor
  · intro hle
    cases hnumber : Scalar.isNumber s.minScale with
    | false => exact .inr rfl
    | true => exact .inl (Number.lt_of_not_le hnumber isNumber_zero hle)
  · rintro (hlt | hnan) hle
    · exact Number.not_lt_of_le hle hlt
    · rw [(Scalar.isNumber_of_le hle).1] at hnan
      cases hnan

theorem not_lt_iff :
    ¬ s.maxScale < s.minScale ↔ s.minScale ≤ s.maxScale ∨ Scalar.isNumber s.minScale = false ∨
      Scalar.isNumber s.maxScale = false := by
  constructor
  · intro hlt
    cases hmin : Scalar.isNumber s.minScale with
    | false => exact .inr (.inl rfl)
    | true => cases hmax : Scalar.isNumber s.maxScale with
      | false => exact .inr (.inr rfl)
      | true => exact .inl (Scalar.le_of_not_lt hmax hmin hlt)
  · rintro (hle | hnan | hnan) hlt
    · exact Number.not_lt_of_le hle hlt
    · rw [(Scalar.isNumber_of_le (Std.le_of_lt hlt)).2] at hnan
      cases hnan
    · rw [(Scalar.isNumber_of_le (Std.le_of_lt hlt)).1] at hnan
      cases hnan

/-- What the check lets pass. -/
theorem passes_iff : ¬ (s.minScale ≤ 0.0 ∨ s.maxScale < s.minScale) ↔
    s.HasZoomRange ∨ s.HasNoLimit := by
  rw [not_or, not_le_zero_iff, not_lt_iff, HasZoomRange, HasNoLimit]
  constructor
  · rintro ⟨hpositive | hnan, hrange⟩
    · rcases hrange with hle | hnan | hnan
      · exact .inl ⟨hpositive, hle⟩
      · exact .inr (.inl hnan)
      · exact .inr (.inr ⟨hpositive, hnan⟩)
    · exact .inr (.inl hnan)
  · rintro (⟨hpositive, hle⟩ | hnan | ⟨hpositive, hnan⟩)
    · exact ⟨.inl hpositive, .inl hle⟩
    · exact ⟨.inr hnan, .inr (.inl hnan)⟩
    · exact ⟨.inl hpositive, .inr (.inr hnan)⟩

theorem ofText_eq (text : String) : ofText text =
    match spelled? text with
    | some s => s.checked
    | none => .error .unreadableText := rfl

theorem checked_eq (s : Settings Float32) : s.checked =
    if s.HasZoomRange ∨ s.HasNoLimit then .ok s
    else .error (.invalidRange s.minScale s.maxScale) := by
  rw [checked]
  simp only [Bool.or_eq_true, decide_eq_true_eq]
  by_cases hbad : s.minScale ≤ 0.0 ∨ s.maxScale < s.minScale
  · rw [if_pos hbad, if_neg (mt passes_iff.mpr (not_not_intro hbad))]
  · rw [if_neg hbad, if_pos (passes_iff.mp hbad)]

theorem checked_eq_ok_iff :
    s.checked = .ok s' ↔ s = s' ∧ (s.HasZoomRange ∨ s.HasNoLimit) := by
  rw [checked_eq]
  split
  · rename_i hpass
    simp [hpass]
  · rename_i hnot
    simp [hnot]

theorem checked_eq_error_iff :
    s.checked = .error e ↔ ¬ (s.HasZoomRange ∨ s.HasNoLimit) ∧
      .invalidRange s.minScale s.maxScale = e := by
  rw [checked_eq]
  split
  · rename_i hpass
    simp [hpass]
  · rename_i hnot
    simp [hnot]

/-- **Settings are accepted just when their zoom range is positive and not empty, or a limit is not
a number and nothing else is wrong. Any others that can be read are reported with their limits.** -/
theorem accepted_iff (text : String) :
    (∀ s, ofText text = .ok s ↔ spelled? text = some s ∧ (s.HasZoomRange ∨ s.HasNoLimit)) ∧
    ∀ low high, ofText text = .error (.invalidRange low high) ↔
      ∃ s, spelled? text = some s ∧ ¬ (s.HasZoomRange ∨ s.HasNoLimit) ∧
        s.minScale = low ∧ s.maxScale = high := by
  rw [ofText_eq]
  cases spelled? text with
  | none => simp
  | some s =>
    constructor
    · intro s'
      rw [checked_eq_ok_iff, Option.some.injEq]
      exact and_congr_right fun h => by rw [h]
    · intro low high
      rw [checked_eq_error_iff, SettingsError.invalidRange.injEq]
      simp only [Option.some.injEq, exists_eq_left']

/-- A lower limit that is not a number is accepted. -/
theorem accepted_without_limit :
    ∃ s, ofText "(min_scale: NaN)" = .ok s ∧ ¬ s.HasZoomRange := by
  have hsome : (spelled? "(min_scale: NaN)").isSome = true := by decide +kernel
  obtain ⟨s, hs⟩ := Option.isSome_iff_exists.mp hsome
  have hmin : (spelled? "(min_scale: NaN)").all
      (fun s => !Scalar.isNumber s.minScale) = true := by decide +kernel
  rw [hs, Option.all_some, Bool.not_eq_true'] at hmin
  refine ⟨s, ?_, fun hrange => ?_⟩
  · rw [ofText_eq, hs]
    exact checked_eq_ok_iff.mpr ⟨rfl, .inr (.inl hmin)⟩
  · rw [(Scalar.isNumber_of_le hrange.2).1] at hmin
    cases hmin

end EventGraph.Settings
