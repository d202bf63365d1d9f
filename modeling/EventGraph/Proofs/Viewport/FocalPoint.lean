import EventGraph.Proofs.Plane.Rational
import EventGraph.Viewport

/-!
# The focus of a zoom

A zoom first changes the scale within its limits and then moves the origin, by the ratio of the
scale that was reached to the one before. In exact scalars the world point under the focus stays
there, also where a limit cuts the zoom short. The scale and the world point at one place of the
screen tell the origin, so zooms about one focus that come back to a scale come back to the
viewport.
-/

namespace EventGraph.Viewport

attribute [ext] Viewport

variable {u v w : Viewport Rat} {focal : Point Rat}

/-- The lower limit of the zoom is above zero, and the scale is between the limits. -/
structure Bounded (v : Viewport Rat) : Prop where
  positive : 0 < v.minScale
  lower : v.minScale ≤ v.scale
  upper : v.scale ≤ v.maxScale

theorem Bounded.ordered (h : v.Bounded) : v.minScale ≤ v.maxScale := h.lower.trans h.upper

theorem Bounded.scale_ne_zero (h : v.Bounded) : v.scale ≠ 0 := (h.positive.trans_le h.lower).ne'

/-! ### Screen and world -/

theorem toWorld_eq (v : Viewport Rat) (p : Point Rat) :
    v.toWorld p = (p - v.origin) / v.scale := by
  ext <;> simp [toWorld, Point.zero_rat]

theorem toScreen_toWorld (hscale : v.scale ≠ 0) (p : Point Rat) : v.toScreen (v.toWorld p) = p := by
  rw [toWorld_eq, toScreen]
  ext <;> simp [div_mul_cancel₀ _ hscale]

theorem toWorld_toScreen (hscale : v.scale ≠ 0) (p : Point Rat) : v.toWorld (v.toScreen p) = p := by
  rw [toWorld_eq, toScreen]
  ext <;> simp [mul_div_cancel_right₀ _ hscale]

theorem origin_withOrigin (v : Viewport Rat) (o : Point Rat) : (v.withOrigin o).origin = o := by
  ext <;> simp only [origin, withOrigin, Point.zero_rat, Point.add_x, Point.add_y, Point.sub_x,
    Point.sub_y, Point.mul_x, Point.mul_y] <;> ring

theorem withOrigin_origin (v : Viewport Rat) : v.withOrigin v.origin = v := by
  ext <;> simp only [origin, withOrigin, Point.zero_rat, Point.add_x, Point.add_y, Point.sub_x,
    Point.sub_y, Point.mul_x, Point.mul_y] <;> ring

/-- The scale and the world point at one place of the screen tell the origin. -/
theorem origin_eq (hscale : v.scale ≠ 0) (p : Point Rat) :
    v.origin = p - v.toWorld p * v.scale := by
  rw [toWorld_eq]
  ext <;> simp [div_mul_cancel₀ _ hscale]

/-! ### One zoom -/

theorem scale_setScale (h : v.minScale ≤ v.maxScale) (scale : Rat) :
    (v.setScale scale).scale = max v.minScale (min scale v.maxScale) :=
  Scalar.clamp_rat h scale

/-- A zoom leaves the viewport or takes it to another scale, the origin moved away from the focus
by the ratio of the scales. -/
theorem zoomAt_cases (v : Viewport Rat) (focal : Point Rat) (factor : Rat) :
    let zoomed := v.setScale (v.scale * factor)
    zoomed.scale = v.scale ∧ v.zoomAt focal factor = (v, false) ∨
      zoomed.scale ≠ v.scale ∧ v.zoomAt focal factor =
        (zoomed.withOrigin (focal - (focal - v.origin) * (zoomed.scale / v.scale)), true) := by
  intro zoomed
  by_cases hscale : zoomed.scale = v.scale
  · -- Setting the scale touches nothing else.
    have hsame : zoomed = v := Viewport.ext rfl hscale rfl rfl rfl rfl
    refine .inl ⟨hscale, ?_⟩
    rw [zoomAt, if_pos (beq_iff_eq.mpr hscale)]
    exact congrArg (·, false) hsame
  · refine .inr ⟨hscale, ?_⟩
    rw [zoomAt, if_neg (mt beq_iff_eq.mp hscale)]
    rfl

theorem scale_zoomAt (v : Viewport Rat) (focal : Point Rat) (factor : Rat) :
    (v.zoomAt focal factor).1.scale = (v.setScale (v.scale * factor)).scale := by
  rcases zoomAt_cases v focal factor with ⟨hscale, hzoom⟩ | ⟨-, hzoom⟩
  · rw [hzoom, hscale]
  · rw [hzoom]
    rfl

theorem changed_zoomAt (v : Viewport Rat) (focal : Point Rat) (factor : Rat) :
    (v.zoomAt focal factor).2 = false ↔ (v.zoomAt focal factor).1.scale = v.scale := by
  rw [scale_zoomAt]
  rcases zoomAt_cases v focal factor with ⟨hscale, hzoom⟩ | ⟨hscale, hzoom⟩
  · rw [hzoom]
    exact iff_of_true rfl hscale
  · rw [hzoom]
    exact iff_of_false Bool.false_ne_true.symm hscale

/-- What zooms about a place of the screen keep of a viewport. -/
structure Keeps (v : Viewport Rat) (focal : Point Rat) (w : Viewport Rat) : Prop where
  bounded : w.Bounded
  focus : w.toWorld focal = v.toWorld focal
  canvas : w.canvas = v.canvas
  zone : w.zone = v.zone
  minScale : w.minScale = v.minScale
  maxScale : w.maxScale = v.maxScale

theorem Keeps.refl (h : v.Bounded) : v.Keeps focal v := ⟨h, rfl, rfl, rfl, rfl, rfl⟩

theorem Keeps.trans (huv : u.Keeps focal v) (hvw : v.Keeps focal w) : u.Keeps focal w where
  bounded := hvw.bounded
  focus := hvw.focus.trans huv.focus
  canvas := hvw.canvas.trans huv.canvas
  zone := hvw.zone.trans huv.zone
  minScale := hvw.minScale.trans huv.minScale
  maxScale := hvw.maxScale.trans huv.maxScale

/-- The origin moves by the ratio of the scales, so the focus shows the same world point. -/
theorem toWorld_withOrigin (hv : v.scale ≠ 0) (hw : w.scale ≠ 0) :
    (w.withOrigin (focal - (focal - v.origin) * (w.scale / v.scale))).toWorld focal =
      v.toWorld focal := by
  have hscale (o : Point Rat) : (w.withOrigin o).scale = w.scale := rfl
  rw [toWorld_eq, toWorld_eq, origin_withOrigin, hscale]
  ext <;> simp only [Point.div_x, Point.div_y, Point.sub_x, Point.sub_y, Point.mul_x,
    Point.mul_y] <;> field_simp <;> ring

theorem Bounded.setScale (h : v.Bounded) (scale : Rat) : (v.setScale scale).Bounded where
  positive := h.positive
  lower := by
    rw [scale_setScale h.ordered]
    exact le_max_left _ _
  upper := by
    rw [scale_setScale h.ordered]
    exact max_le h.ordered (min_le_right _ _)

theorem Bounded.keeps_zoomAt (h : v.Bounded) (focal : Point Rat) (factor : Rat) :
    v.Keeps focal (v.zoomAt focal factor).1 := by
  rcases zoomAt_cases v focal factor with ⟨-, hzoom⟩ | ⟨-, hzoom⟩
  · rw [hzoom]
    exact .refl h
  · have hzoomed := h.setScale (v.scale * factor)
    rw [hzoom]
    exact {
      bounded := ⟨hzoomed.positive, hzoomed.lower, hzoomed.upper⟩
      focus := toWorld_withOrigin h.scale_ne_zero hzoomed.scale_ne_zero
      canvas := rfl, zone := rfl, minScale := rfl, maxScale := rfl }

/-! ### Zooms about one focus -/

theorem withOrigin_congr (h : v.Keeps focal w) (hscale : w.scale = v.scale) (o : Point Rat) :
    w.withOrigin o = v.withOrigin o := by
  obtain ⟨-, -, hcanvas, hzone, hmin, hmax⟩ := h
  simp only [withOrigin, hcanvas, hzone, hmin, hmax, hscale]

/-- With the scale, the whole viewport is back. -/
theorem Keeps.eq_of_scale_eq (h : v.Keeps focal w) (hv : v.Bounded) (hscale : w.scale = v.scale) :
    w = v := by
  have horigin : w.origin = v.origin := by
    rw [origin_eq h.bounded.scale_ne_zero focal, origin_eq hv.scale_ne_zero focal, h.focus, hscale]
  calc w = w.withOrigin w.origin := (withOrigin_origin w).symm
    _ = v.withOrigin v.origin := by rw [withOrigin_congr h hscale, horigin]
    _ = v := withOrigin_origin v

/-- Zooms about one place of the screen, one after the other. -/
def zoomAll (v : Viewport Rat) (focal : Point Rat) (factors : List Rat) : Viewport Rat :=
  factors.foldl (fun v factor => (v.zoomAt focal factor).1) v

theorem Bounded.keeps_zoomAll (h : v.Bounded) (focal : Point Rat) (factors : List Rat) :
    v.Keeps focal (v.zoomAll focal factors) := by
  induction factors generalizing v with
  | nil => exact .refl h
  | cons factor factors ih =>
    have hfirst := h.keeps_zoomAt focal factor
    exact hfirst.trans (ih hfirst.bounded)

/-- One more zoom gets back to a scale within the limits. -/
theorem Keeps.scale_zoomAt_ratio (h : v.Keeps focal w) (hv : v.Bounded) :
    (w.zoomAt focal (v.scale / w.scale)).1.scale = v.scale := by
  rw [scale_zoomAt, scale_setScale h.bounded.ordered,
    mul_div_cancel₀ _ h.bounded.scale_ne_zero, h.minScale, h.maxScale, min_eq_left hv.upper,
    max_eq_right hv.lower]

/-- **Places on the screen and points of the world determine each other. A zoom multiplies the scale
within the limits and keeps the world point under the focus, the canvas, the zone and the limits; it
reports no change just where the scale stays, and then leaves the viewport as it is. Zooms about one
focus keep all that as well: with the scale the viewport is back, and one more zoom brings it
back.** -/
theorem zoom_keeps_focus (h : v.Bounded) (focal : Point Rat) :
    (∀ p, v.toScreen (v.toWorld p) = p ∧ v.toWorld (v.toScreen p) = p) ∧
    (∀ factor, let zoomed := v.zoomAt focal factor
      zoomed.1.scale = max v.minScale (min (v.scale * factor) v.maxScale) ∧
      v.Keeps focal zoomed.1 ∧
      (zoomed.2 = false ↔ zoomed.1.scale = v.scale) ∧ (zoomed.2 = false → zoomed.1 = v)) ∧
    ∀ factors, let w := v.zoomAll focal factors
      v.Keeps focal w ∧ (w.scale = v.scale → w = v) ∧
      (w.zoomAt focal (v.scale / w.scale)).1 = v := by
  refine ⟨fun p => ⟨toScreen_toWorld h.scale_ne_zero p, toWorld_toScreen h.scale_ne_zero p⟩, ?_, ?_⟩
  · intro factor zoomed
    have hkeeps : v.Keeps focal zoomed.1 := h.keeps_zoomAt focal factor
    have hchanged : zoomed.2 = false ↔ zoomed.1.scale = v.scale := changed_zoomAt v focal factor
    refine ⟨?_, hkeeps, hchanged, fun hsame => hkeeps.eq_of_scale_eq h (hchanged.mp hsame)⟩
    exact (scale_zoomAt v focal factor).trans (scale_setScale h.ordered _)
  · intro factors w
    have hkeeps : v.Keeps focal w := h.keeps_zoomAll focal factors
    have hback := hkeeps.trans (hkeeps.bounded.keeps_zoomAt focal (v.scale / w.scale))
    refine ⟨hkeeps, hkeeps.eq_of_scale_eq h, hback.eq_of_scale_eq h ?_⟩
    exact hkeeps.scale_zoomAt_ratio h

/-- A viewport with a zone, moved off the middle of its canvas. -/
def survey : Viewport Rat :=
  { offset := ⟨30, -20⟩, scale := 2, canvas := ⟨800, 600⟩, zone := ⟨100, 50⟩,
    minScale := 1 / 2, maxScale := 10 }

/-- The first zoom is cut short, and the scale is back after the third. -/
theorem zoom_keeps_focus_survey :
    survey.Bounded ∧ (survey.zoomAt ⟨300, 200⟩ 100).1.scale = 10 ∧
      (survey.zoomAt ⟨300, 200⟩ 100).1.toWorld ⟨300, 200⟩ = survey.toWorld ⟨300, 200⟩ ∧
      survey.zoomAll ⟨300, 200⟩ [100, 1 / 10, 2] = survey := by
  have hbounded : survey.Bounded := by
    constructor <;> norm_num [survey]
  obtain ⟨-, hzoom, hall⟩ := zoom_keeps_focus hbounded ⟨300, 200⟩
  obtain ⟨hscale, hkeeps, -⟩ := hzoom 100
  refine ⟨hbounded, hscale.trans (by norm_num [survey]), hkeeps.focus, ?_⟩
  exact (hall [100, 1 / 10, 2]).2.1 (by decide +kernel)

end EventGraph.Viewport
