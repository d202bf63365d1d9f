import EventGraph.Proofs.Number.Order
import EventGraph.Proofs.Number.Rounding

/-!
# Sums of floats

The value of a float is counted in units of the least positive one, and floats are ordered by their
values. A sum is rounded, and the value of another float is never crossed by that.
-/

namespace EventGraph.Number

open Float.Model (UnpackedFloat)
open Float.Model.UnpackedFloat

variable {f : Float.Model.Format} {s : Sign} {m m' : Nat} {e e' : Int} {x y : UnpackedFloat}

@[simp] theorem apply_positive (n : Int) : Sign.positive.apply n = n := rfl

@[simp] theorem apply_negative (n : Int) : Sign.negative.apply n = -n := rfl

theorem apply_mul (s : Sign) (n k : Nat) : s.apply (n * k : Nat) = s.apply n * k := by
  cases s with
  | positive => rw [apply_positive, apply_positive, Int.natCast_mul]
  | negative => rw [apply_negative, apply_negative, Int.natCast_mul, Int.neg_mul]

/-! ### Values -/

/-- The least magnitude that is too large. -/
def top (f : Float.Model.Format) : Nat :=
  magnitude f (2 ^ f.mantissaBitsWithoutImplicit) (maxExponent f + 1)

/-- The value of a float in units of the least positive one. An infinity is counted as what is just
too large. -/
def units (f : Float.Model.Format) : UnpackedFloat → Int
  | .notANumber => 0
  | .infinity s => s.apply (top f)
  | .zero _ => 0
  | .finite s m e _ => s.apply (magnitude f m e)

theorem minExponent_le_maxExponent (hf : 0 < f.exponentBias) : f.minExponent ≤ maxExponent f := by
  rw [minExponent_eq, maxExponent]
  omega

theorem isCanonical_top (hf : 0 < f.exponentBias) :
    IsCanonical f (2 ^ f.mantissaBitsWithoutImplicit) (maxExponent f + 1) := by
  have hpow : 0 < 2 ^ f.mantissaBitsWithoutImplicit := Nat.two_pow_pos _
  have htwice := two_pow_mantissaBits f
  have hleast := minExponent_le_maxExponent hf
  exact ⟨by omega, by omega, .inl (Nat.le_refl _)⟩

theorem magnitude_pos (h : 0 < m) : 0 < magnitude f m e := Nat.mul_pos h (Nat.two_pow_pos _)

/-- A full mantissa with a greater exponent outweighs any mantissa. -/
theorem magnitude_two_pow_le (hleast : f.minExponent ≤ e) (h : e < e')
    (hfull : 2 ^ f.mantissaBitsWithoutImplicit ≤ m') :
    magnitude f (2 ^ f.mantissaBits) e ≤ magnitude f m' e' := by
  have hexponent : (e - f.minExponent).toNat + 1 ≤ (e' - f.minExponent).toNat := by omega
  calc magnitude f (2 ^ f.mantissaBits) e
      = 2 ^ f.mantissaBitsWithoutImplicit * 2 ^ ((e - f.minExponent).toNat + 1) :=
        two_pow_mantissaBits_mul _
    _ ≤ magnitude f m' e' := Nat.mul_le_mul hfull (Nat.pow_le_pow_right (by decide) hexponent)

theorem magnitude_lt_of_lt (hm : IsCanonical f m e) (hm' : IsCanonical f m' e') (h : e < e') :
    magnitude f m e < magnitude f m' e' := by
  have hleast := hm.least
  have hfull : 2 ^ f.mantissaBitsWithoutImplicit ≤ m' := hm'.full.resolve_right (by omega)
  exact Nat.lt_of_lt_of_le (Nat.mul_lt_mul_of_pos_right hm.lt (Nat.two_pow_pos _))
    (magnitude_two_pow_le hleast h hfull)

theorem magnitude_le_iff (hm : IsCanonical f m e) (hm' : IsCanonical f m' e') :
    magnitude f m e ≤ magnitude f m' e' ↔ e < e' ∨ e = e' ∧ m ≤ m' := by
  rcases lt_trichotomy e e' with hlt | rfl | hgt
  · exact iff_of_true (Nat.le_of_lt (magnitude_lt_of_lt hm hm' hlt)) (.inl hlt)
  · rw [magnitude, magnitude, Nat.mul_le_mul_right_iff (Nat.two_pow_pos _)]
    omega
  · have hless := magnitude_lt_of_lt hm' hm hgt
    omega

theorem magnitude_lt_top (hf : 0 < f.exponentBias) (hm : IsCanonical f m e)
    (he : e ≤ maxExponent f) : magnitude f m e < top f :=
  magnitude_lt_of_lt hm (isCanonical_top hf) (Int.lt_add_one_iff.mpr he)

theorem top_le_magnitude (hf : 0 < f.exponentBias) (hm : IsCanonical f m e)
    (he : maxExponent f < e) : top f ≤ magnitude f m e := by
  rw [top, magnitude_le_iff (isCanonical_top hf) hm]
  have hleast := minExponent_le_maxExponent hf
  have hfull : 2 ^ f.mantissaBitsWithoutImplicit ≤ m := hm.full.resolve_right (by omega)
  omega

theorem top_pos : 0 < top f := magnitude_pos (Nat.two_pow_pos _)

/-- Numbers are ordered by their values. -/
theorem le_iff_units (hf : 0 < f.exponentBias) (hx : Storable f x) (hy : Storable f y)
    (hnumber : x ≠ .notANumber) (hnumber' : y ≠ .notANumber) :
    x.le y = true ↔ units f x ≤ units f y := by
  have htop := top_pos (f := f)
  rw [le_iff_rank]
  cases x with
  | notANumber => exact absurd rfl hnumber
  | zero s => cases y with
    | notANumber => exact absurd rfl hnumber'
    | zero t => simp [rank?, units, AtMost]
    | infinity t =>
      cases t <;> simp [rank?, units, AtMost]
      all_goals omega
    | finite t m' e' h' =>
      have hpos := magnitude_pos (f := f) (e := e') h'
      cases t <;> simp [rank?, units, AtMost]
      all_goals omega
  | infinity s => cases y with
    | notANumber => exact absurd rfl hnumber'
    | zero t =>
      cases s <;> simp [rank?, units, AtMost]
      all_goals omega
    | infinity t =>
      cases s <;> cases t <;> simp [rank?, units, AtMost]
      all_goals omega
    | finite t m' e' h' =>
      have hpos := magnitude_pos (f := f) (e := e') h'
      have hless := magnitude_lt_top hf hy.1 hy.2
      cases s <;> cases t <;> simp [rank?, units, AtMost]
      all_goals omega
  | finite s m e h => cases y with
    | notANumber => exact absurd rfl hnumber'
    | zero t =>
      have hpos := magnitude_pos (f := f) (e := e) h
      cases s <;> simp [rank?, units, AtMost]
      all_goals omega
    | infinity t =>
      have hpos := magnitude_pos (f := f) (e := e) h
      have hless := magnitude_lt_top hf hx.1 hx.2
      cases s <;> cases t <;> simp [rank?, units, AtMost]
      all_goals omega
    | finite t m' e' h' =>
      have hpos := magnitude_pos (f := f) (e := e) h
      have hpos' := magnitude_pos (f := f) (e := e') h'
      have hle := magnitude_le_iff hx.1 hy.1
      have hge := magnitude_le_iff hy.1 hx.1
      cases s <;> cases t <;> simp [rank?, units, AtMost]
      all_goals omega

/-! ### Rounding to values -/

/-- Whether there may be a float of a value. -/
def IsValue (f : Float.Model.Format) (y : Int) : Prop :=
  Representable f y.natAbs ∧ y.natAbs ≤ top f

/-- Whether no value is between one and what it is rounded to. -/
def Rounds (f : Float.Model.Format) (n v : Int) : Prop :=
  ∀ y, IsValue f y → (y ≤ n → y ≤ v) ∧ (n ≤ y → v ≤ y)

theorem Rounds.refl (n : Int) : Rounds f n n := fun _ _ => ⟨id, id⟩

theorem representable_magnitude (hm : m ≤ 2 ^ f.mantissaBits) (e : Int) :
    Representable f (magnitude f m e) := ⟨m, _, hm, rfl⟩

theorem natAbs_apply (s : Sign) (n : Nat) : (s.apply n).natAbs = n := by
  cases s with
  | negative => exact Int.natAbs_neg _
  | positive => rfl

theorem isValue_apply (s : Sign) (hm : m ≤ 2 ^ f.mantissaBits) (hleast : f.minExponent ≤ e)
    (he : e ≤ maxExponent f) : IsValue f (s.apply (magnitude f m e)) := by
  rw [IsValue, natAbs_apply]
  refine ⟨representable_magnitude hm e, ?_⟩
  exact Nat.le_trans (Nat.mul_le_mul_right _ hm)
    (magnitude_two_pow_le hleast (Int.lt_add_one_iff.mpr he) (Nat.le_refl _))

theorem isValue_units (hf : 0 < f.exponentBias) (hx : Storable f x) : IsValue f (units f x) := by
  cases x with
  | notANumber | zero s => exact ⟨⟨0, 0, Nat.zero_le _, rfl⟩, Nat.zero_le _⟩
  | infinity s =>
    rw [units, IsValue, natAbs_apply]
    exact ⟨representable_magnitude (Nat.le_of_lt (isCanonical_top hf).lt) _, Nat.le_refl _⟩
  | finite s m e h => exact isValue_apply s (Nat.le_of_lt hx.1.lt) hx.1.least hx.2

theorem RoundsTo.apply {n v : Nat} (h : RoundsTo f n v) (s : Sign) :
    Rounds f (s.apply n) (s.apply v) := by
  intro y hy
  obtain ⟨hbelow, habove⟩ := h y.natAbs hy.1
  cases s with
  | positive =>
    rw [apply_positive, apply_positive]
    omega
  | negative =>
    rw [apply_negative, apply_negative]
    omega

/-- What is too large counts as just too large. -/
theorem Rounds.overflow {n : Int} {v : Nat} {s : Sign} (h : Rounds f n (s.apply v))
    (hv : top f ≤ v) : Rounds f n (s.apply (top f)) := by
  intro y hy
  obtain ⟨hbelow, habove⟩ := h y hy
  have hbound := hy.2
  cases s with
  | positive =>
    rw [apply_positive] at *
    omega
  | negative =>
    rw [apply_negative] at *
    omega

/-- What a float becomes that is stored. -/
def stored (f : Float.Model.Format) (u : UnpackedFloat) : UnpackedFloat := unpack f (pack f u)

/-- What can be stored stays as it is. -/
theorem stored_of_storable {u : UnpackedFloat} (h : Storable f u) : stored f u = u :=
  unpack_pack_of_storable h

theorem stored_zero (s : Sign) : stored f (.zero s) = .zero s :=
  stored_of_storable (u := .zero s) trivial

theorem stored_infinity (s : Sign) : stored f (.infinity s) = .infinity s :=
  stored_of_storable (u := .infinity s) trivial

theorem rounds_stored {n : Int} (hf : 0 < f.exponentBias) (h : 0 < m) (hm : IsCanonical f m e)
    (hround : Rounds f n (s.apply (magnitude f m e))) :
    Rounds f n (units f (stored f (.finite s m e h))) := by
  by_cases he : e ≤ maxExponent f
  · rwa [stored, unpack_pack_finite s h hm he]
  · rw [stored, unpack_pack_large s h (by omega)]
    exact hround.overflow (top_le_magnitude hf hm (by omega))

theorem rounds_round (hf : 0 < f.exponentBias) (s : Sign) (h : 0 < m) (he : f.minExponent ≤ e) :
    Rounds f (s.apply (magnitude f m e)) (units f (stored f (UnpackedFloat.round f s m e))) := by
  obtain ⟨m', e', h', hround, hcanonical, hneighbour⟩ := round_spec s h he
  rw [hround]
  exact rounds_stored hf h' hcanonical (hneighbour.apply s)

theorem rounds_normalize (hf : 0 < f.exponentBias) (n : Int) (he : f.minExponent ≤ e) :
    Rounds f (n * 2 ^ (e - f.minExponent).toNat)
      (units f (stored f (UnpackedFloat.normalize f n e .positive))) := by
  rcases lt_trichotomy n 0 with hneg | rfl | hpos
  · have hvalue : n * 2 ^ (e - f.minExponent).toNat =
        Sign.negative.apply (magnitude f (-n).toNat e) := by
      rw [apply_negative, magnitude, Int.natCast_mul, Int.toNat_of_nonneg (by omega)]
      push_cast
      rw [Int.neg_mul, Int.neg_neg]
    rw [UnpackedFloat.normalize, Int.compare_eq_lt.mpr hneg, hvalue]
    exact rounds_round hf .negative (by omega) he
  · show Rounds f _ (units f (stored f (.zero .positive)))
    rw [stored_zero, Int.zero_mul]
    exact .refl 0
  · have hvalue : n * 2 ^ (e - f.minExponent).toNat =
        Sign.positive.apply (magnitude f n.toNat e) := by
      rw [apply_positive, magnitude, Int.natCast_mul, Int.toNat_of_nonneg (by omega)]
      push_cast
      rfl
    rw [UnpackedFloat.normalize, Int.compare_eq_gt.mpr hpos, hvalue]
    exact rounds_round hf .positive (by omega) he

theorem units_eq_of_decreaseExponent {h : 0 < m} {k : Int} (hk : k ≤ e)
    (hleast : f.minExponent ≤ k) :
    s.apply (decreaseExponent m e k).1 * 2 ^ (k - f.minExponent).toNat =
      units f (.finite s m e h) := by
  have hsame : magnitude f (m <<< (e - k).toNat) k = magnitude f m e := by
    have hsum : k + (e - k).toNat = e := by omega
    rw [Nat.shiftLeft_eq, magnitude_mul_two_pow hleast, hsum]
  rw [units, ← hsame, decreaseExponent, magnitude, apply_mul]
  push_cast
  rfl

/-- A sum with what is finite is a number. -/
theorem add_ne_notANumber (hx : x ≠ .notANumber) (hfinite : y.isFinite = true) :
    UnpackedFloat.add f x y ≠ .notANumber := by
  cases y with
  | notANumber | infinity t => cases hfinite
  | zero t => cases x with
    | notANumber => exact absurd rfl hx
    | infinity s | finite s m e h => exact hx
    | zero s =>
      show (if s == t then UnpackedFloat.zero s else .zero .positive) ≠ _
      split <;> exact nofun
  | finite t m e h => cases x with
    | notANumber => exact absurd rfl hx
    | infinity s => exact hx
    | zero s => exact nofun
    | finite s m' e' h' => exact normalize_ne_notANumber _ _ _

/-- **No value is crossed by rounding a sum.** -/
theorem rounds_add (hf : 0 < f.exponentBias) (hx : Storable f x) (hy : Storable f y)
    (hfinite : x.isFinite = true) (hfinite' : y.isFinite = true) :
    Rounds f (units f x + units f y) (units f (stored f (UnpackedFloat.add f x y))) := by
  cases x with
  | notANumber | infinity s => cases hfinite
  | zero s =>
    have hsame : units f (stored f (UnpackedFloat.add f (.zero s) y)) = units f y := by
      cases y with
      | notANumber | infinity t => cases hfinite'
      | zero t =>
        show units f (stored f (if s == t then .zero s else .zero .positive)) = 0
        split <;> rw [stored_zero] <;> rfl
      | finite t m' e' h' =>
        show units f (stored f (.finite t m' e' h')) = _
        rw [stored_of_storable hy]
    rw [hsame, units, Int.zero_add]
    exact .refl _
  | finite s m e h => cases y with
    | notANumber | infinity t => cases hfinite'
    | zero t =>
      show Rounds f _ (units f (stored f (.finite s m e h)))
      rw [stored_of_storable hx, units, units, Int.add_zero]
      exact .refl _
    | finite t m' e' h' =>
      have hleast := hx.1.least
      have hleast' := hy.1.least
      rw [← units_eq_of_decreaseExponent (k := min e e') (by omega) (by omega),
        ← units_eq_of_decreaseExponent (k := min e e') (by omega) (by omega), ← Int.add_mul]
      exact rounds_normalize hf _ (by omega)

/-! ### Steps -/

/-- Whether adding a value reaches the next float: a value has at most `2 ^ k` times the size of
what is added, where `k` is the number of bits of the fraction. -/
def InReach (f : Float.Model.Format) (x step : Int) : Prop :=
  x.natAbs ≤ 2 ^ f.mantissaBitsWithoutImplicit * step

instance (x step : Int) : Decidable (InReach f x step) := inferInstanceAs (Decidable (_ ≤ _))

theorem le_add_of_pos (hf : 0 < f.exponentBias) (hx : Storable f x) (hy : Storable f y)
    (hfinite : x.isFinite = true) (hfinite' : y.isFinite = true) (hpos : 0 < units f y) :
    units f x ≤ units f (stored f (UnpackedFloat.add f x y)) :=
  (rounds_add hf hx hy hfinite hfinite' _ (isValue_units hf hx)).1 (by omega)

/-- The distance of a float to the next greater magnitude. -/
def gap (f : Float.Model.Format) (e : Int) : Nat := 2 ^ (e - f.minExponent).toNat

theorem magnitude_succ (m : Nat) (e : Int) :
    magnitude f (m + 1) e = magnitude f m e + gap f e := Nat.succ_mul _ _

theorem gap_pos : 0 < gap f e := Nat.two_pow_pos _

theorem gap_le_of_inReach {step : Int} (hm : IsCanonical f m e) (hpos : 0 < step)
    (hreach : InReach f (s.apply (magnitude f m e)) step) : gap f e ≤ step := by
  rw [InReach, natAbs_apply] at hreach
  rcases hm.full with hfull | rfl
  · have hpow : (0 : Int) < 2 ^ f.mantissaBitsWithoutImplicit := by
      exact_mod_cast Nat.two_pow_pos f.mantissaBitsWithoutImplicit
    have hless : 2 ^ f.mantissaBitsWithoutImplicit * gap f e ≤ magnitude f m e :=
      Nat.mul_le_mul_right _ hfull
    refine Int.le_of_mul_le_mul_left (Int.le_trans ?_ hreach) hpow
    exact_mod_cast hless
  · rw [gap, Int.sub_self]
    exact hpos

/-- Within reach, a sum is at least the next greater value. -/
theorem exists_value_of_inReach {step : Int} (hx : Storable f x)
    (hfinite : x.isFinite = true) (hpos : 0 < step) (hreach : InReach f (units f x) step) :
    ∃ y, IsValue f y ∧ units f x < y ∧ y ≤ units f x + step := by
  cases x with
  | notANumber | infinity s => cases hfinite
  | zero s =>
    refine ⟨1, ⟨⟨1, 0, Nat.two_pow_pos _, rfl⟩, top_pos⟩, Int.zero_lt_one, ?_⟩
    show 1 ≤ 0 + step
    omega
  | finite s m e h =>
    have hgap := gap_le_of_inReach hx.1 hpos hreach
    have hgap' := gap_pos (f := f) (e := e)
    have hlt := hx.1.lt
    cases s with
    | positive =>
      have hvalue := isValue_apply .positive hlt hx.1.least hx.2
      refine ⟨_, hvalue, ?_⟩
      rw [units, apply_positive, apply_positive, magnitude_succ]
      push_cast
      omega
    | negative =>
      obtain ⟨m, rfl⟩ := Nat.exists_eq_add_one.mpr h
      have hvalue := isValue_apply .negative (Nat.le_of_lt (Nat.lt_of_succ_lt hlt))
        hx.1.least hx.2
      refine ⟨_, hvalue, ?_⟩
      rw [units, apply_negative, apply_negative, magnitude_succ]
      push_cast
      omega

theorem lt_add_of_inReach (hf : 0 < f.exponentBias) (hx : Storable f x) (hy : Storable f y)
    (hfinite : x.isFinite = true) (hfinite' : y.isFinite = true) (hpos : 0 < units f y)
    (hreach : InReach f (units f x) (units f y)) :
    units f x < units f (stored f (UnpackedFloat.add f x y)) := by
  obtain ⟨v, hvalue, hgreater, hle⟩ := exists_value_of_inReach hx hfinite hpos hreach
  have hsum := (rounds_add hf hx hy hfinite hfinite' v hvalue).1 hle
  omega

end EventGraph.Number
