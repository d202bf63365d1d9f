import EventGraph.Proofs.Number.Nearest
import EventGraph.Proofs.Number.Rising

/-!
# Whole numbers and products of singles

A greater whole number is not a lesser single, and multiplied by what is not negative the greater
of two positive singles does not become the lesser one.
-/

namespace EventGraph.Number

open Float.Model (UnpackedFloat totalExponent)
open Float.Model.UnpackedFloat

section Formats

variable {f : Float.Model.Format} {s t : Sign} {m m' : Nat} {e e' : Int}

theorem mul_finite (f : Float.Model.Format) (h : 0 < m) (h' : 0 < m') :
    UnpackedFloat.mul f (.finite s m e h) (.finite t m' e' h') =
      roundWithAccuracy f (s * t) (m * m') (e + e') .exact := rfl

/-- The magnitudes of two floats are multiplied, and the product is rounded. -/
theorem units_mul (hf : 0 < f.exponentBias) (hleast : f.minExponent ≤ 0) {h : 0 < m} {h' : 0 < m'}
    (hx : Storable f (.finite s m e h)) (hy : Storable f (.finite t m' e' h')) :
    units f (stored f (UnpackedFloat.mul f (.finite s m e h) (.finite t m' e' h'))) =
      (s * t).apply (min (nearest f (-f.minExponent).toNat (magnitude f m e * magnitude f m' e'))
        (top f) : Nat) := by
  have hmin := hx.1.least
  have hmin' := hy.1.least
  have hvalue : m * m' * 2 ^ (e + e' + (-f.minExponent).toNat - f.minExponent).toNat =
      magnitude f m e * magnitude f m' e' := by
    have hsum : (e + e' + (-f.minExponent).toNat - f.minExponent).toNat =
        (e - f.minExponent).toNat + (e' - f.minExponent).toNat := by omega
    rw [hsum, Nat.pow_add, magnitude, magnitude, Nat.mul_mul_mul_comm]
  -- One of the mantissas is full, or the product is far below the least float.
  have htarget : e + e' ≤ f.targetExponent (totalExponent (m * m') (e + e')) := by
    have hless : f.mantissaBits ≤ (m * m').log2 + 1 ∨ e = f.minExponent ∧ e' = f.minExponent := by
      have hlog {n : Nat} (hn : 0 < n) (hle : 2 ^ f.mantissaBitsWithoutImplicit ≤ n) :
          f.mantissaBits ≤ n.log2 + 1 := by
        rw [← Nat.le_log2 (by omega)] at hle
        rw [Float.Model.Format.mantissaBits]
        omega
      have hpos := Nat.mul_pos h h'
      rcases hx.1.full with hfull | hsmall
      · exact .inl (hlog hpos (Nat.le_trans hfull (Nat.le_mul_of_pos_right m h')))
      · rcases hy.1.full with hfull | hsmall'
        · exact .inl (hlog hpos (Nat.le_trans hfull (Nat.le_mul_of_pos_left m' h)))
        · exact .inr ⟨hsmall, hsmall'⟩
    rw [Float.Model.Format.targetExponent, totalExponent]
    omega
  rw [mul_finite, units_roundWithAccuracy hf (s * t) (Nat.mul_pos h h') (-f.minExponent).toNat
    (by omega) htarget, hvalue]

theorem mul_ne_notANumber_of_finite (h : 0 < m) (h' : 0 < m') :
    UnpackedFloat.mul f (.finite s m e h) (.finite t m' e' h') ≠ .notANumber :=
  roundWithAccuracy_ne_notANumber _ _ _ _

/-- A float is its product with one. -/
theorem mul_one_unpacked {h : 0 < m} (hx : Storable f (.finite .positive m e h)) {k : Nat}
    (hk : 0 < 2 ^ k) : UnpackedFloat.mul f (.finite .positive m e h)
      (.finite .positive (2 ^ k) (-k) hk) = .finite .positive m e h :=
  round_of_canonical h hx.1 k

/-- A whole number is rounded to a float. -/
theorem units_ofNat (hf : 0 < f.exponentBias) (hleast : f.minExponent ≤ 0) {n : Nat} (h : 0 < n) :
    units f (stored f (UnpackedFloat.ofNat f n)) =
      (min (nearest f 0 (n * 2 ^ (-f.minExponent).toNat)) (top f) : Nat) := by
  generalize ht : f.targetExponent (totalExponent n 0) = e₁
  generalize hd : (0 - e₁).toNat = d
  have hle : f.minExponent ≤ e₁ := by
    rw [← ht, Float.Model.Format.targetExponent]
    omega
  have hround : UnpackedFloat.ofNat f n =
      roundWithAccuracy f .positive (n * 2 ^ d) (0 - d) .exact := by
    rw [UnpackedFloat.ofNat, UnpackedFloat.ofInt, UnpackedFloat.normalize,
      Int.compare_eq_gt.mpr (by omega)]
    show UnpackedFloat.round f .positive n 0 = _
    rw [UnpackedFloat.round, ht, decreaseExponent]
    dsimp only
    rw [hd, Nat.shiftLeft_eq]
  have htotal : totalExponent (n * 2 ^ d) (0 - d) = totalExponent n 0 := by
    rw [totalExponent, totalExponent, log2_mul_two_pow h]
    omega
  have hvalue : n * 2 ^ d * 2 ^ (0 - (d : Int) + (0 : Nat) - f.minExponent).toNat =
      n * 2 ^ (-f.minExponent).toNat := by
    have hsum : (-f.minExponent).toNat =
        d + (0 - (d : Int) + (0 : Nat) - f.minExponent).toNat := by omega
    rw [hsum, Nat.pow_add, Nat.mul_assoc]
  rw [hround, units_roundWithAccuracy hf .positive
    (Nat.mul_pos h (Nat.two_pow_pos d)) 0 (by omega) (by rw [htotal, ht]; omega), hvalue]
  rfl

end Formats

/-! ### Whole numbers -/

theorem unpack_mul (x y : Float32) : (x * y).toModel.unpack =
    stored .binary32 (UnpackedFloat.mul .binary32 x.toModel.unpack y.toModel.unpack) := rfl

/-- What is above zero and not too large is finite. -/
theorem exists_positive_of_units {f : Float.Model.Format} {u : UnpackedFloat}
    (hpos : 0 < units f u) (hless : units f u < top f) :
    ∃ m e h, u = .finite .positive m e h := by
  cases u with
  | notANumber | zero s => cases hpos
  | infinity s =>
    rw [units] at hpos hless
    cases s with
    | positive => exact absurd hless (Int.lt_irrefl _)
    | negative =>
      rw [apply_negative] at hpos
      omega
  | finite s m e h =>
    cases s with
    | positive => exact ⟨m, e, h, rfl⟩
    | negative =>
      rw [units, apply_negative] at hpos
      omega

theorem unpack_ofNat_small {n : Nat} (hlt : n < 2 ^ 23) : (Float32.ofNat n).toModel.unpack =
    stored .binary32 (UnpackedFloat.mul .binary32
      (stored .binary32 (UnpackedFloat.ofNat .binary32 n))
      (.finite .positive (2 ^ 23) (-23) (by decide))) := by
  have hword : n.toUInt64.toNat = n := by
    show n % 2 ^ 64 = n
    omega
  show (Float32.ofScientific n false 0).toModel.unpack = _
  rw [Float32.ofScientific, dif_pos ⟨hlt, by decide⟩]
  show stored .binary32 (UnpackedFloat.mul .binary32
    (stored .binary32 (UnpackedFloat.ofNat .binary32 n.toUInt64.toNat))
    (Float32.ofBits 0x3F800000).toModel.unpack) = _
  rw [hword]
  rfl

theorem unpack_ofNat_large {n : Nat} (hle : 2 ^ 23 ≤ n) : (Float32.ofNat n).toModel.unpack =
    stored .binary32 (roundWithAccuracy .binary32 .positive (n * 2 ^ 24) (-24) .exact) := by
  have hexponent : ¬ (0 : Int) < -(2 ^ Float.Model.Format.binary32.exponentBits + n.log2) := by
    show ¬ (0 : Int) < -(256 + n.log2)
    omega
  show (Float32.ofScientific n false 0).toModel.unpack = _
  rw [Float32.ofScientific, dif_neg fun h => Nat.not_lt_of_le hle h.1]
  show stored .binary32 (UnpackedFloat.ofScientific .binary32 n 0) = _
  rw [UnpackedFloat.ofScientific, dif_neg (by omega), if_neg (by decide), if_neg hexponent,
    if_pos (Int.le_refl 0), mul_finite, Nat.shiftLeft_eq]
  show stored .binary32 (roundWithAccuracy .binary32 .positive (n * 2 ^ 24 * 1) (-24) .exact) = _
  rw [Nat.mul_one]

/-- No whole number of 64 bits is rounded to zero or to an infinity. -/
theorem nearest_whole_bounds {n : Nat} (hpos : 0 < n) (hle : n ≤ 2 ^ 64) :
    0 < nearest .binary32 0 (n * 2 ^ 149) ∧
      nearest .binary32 0 (n * 2 ^ 149) < top .binary32 := by
  have hone : 0 < nearest .binary32 0 (1 * 2 ^ 149) := by decide +kernel
  have hlast : nearest .binary32 0 (2 ^ 64 * 2 ^ 149) < top .binary32 := by decide +kernel
  have hlow := nearest_mono (f := .binary32) (Nat.mul_le_mul_right (2 ^ 149) hpos) 0
  have hhigh := nearest_mono (f := .binary32) (Nat.mul_le_mul_right (2 ^ 149) hle) 0
  exact ⟨Nat.lt_of_lt_of_le hone hlow, Nat.lt_of_le_of_lt hhigh hlast⟩

theorem exists_ofNat_unpacked {n : Nat} (hpos : 0 < n) (hle : n ≤ 2 ^ 64) :
    ∃ m e h, stored .binary32 (UnpackedFloat.ofNat .binary32 n) = .finite .positive m e h := by
  obtain ⟨hlow, hhigh⟩ := nearest_whole_bounds hpos hle
  have hvalue : units .binary32 (stored .binary32 (UnpackedFloat.ofNat .binary32 n)) =
    (min (nearest .binary32 0 (n * 2 ^ 149)) (top .binary32) : Nat) :=
    units_ofNat (by decide) (by decide) hpos
  apply exists_positive_of_units <;> rw [hvalue] <;> omega

/-- A whole number becomes the nearest single. -/
theorem singleUnits_ofNat {n : Nat} (hpos : 0 < n) : singleUnits (Float32.ofNat n) =
    (min (nearest .binary32 0 (n * 2 ^ 149)) (top .binary32) : Nat) := by
  rw [singleUnits]
  by_cases hlt : n < 2 ^ 23
  · have hstorable : Storable .binary32 (stored .binary32 (UnpackedFloat.ofNat .binary32 n)) :=
      storable_unpack (by decide) _
    obtain ⟨m, e, h, hfinite⟩ := exists_ofNat_unpacked hpos (by omega)
    have hsame := mul_one_unpacked (hfinite ▸ hstorable) (k := 23) (by decide)
    rw [unpack_ofNat_small hlt, hfinite]
    show units .binary32 (stored .binary32 (UnpackedFloat.mul .binary32 (.finite .positive m e h)
      (.finite .positive (2 ^ 23) (-(23 : Nat)) _))) = _
    rw [hsame, stored_of_storable (hfinite ▸ hstorable), ← hfinite]
    exact units_ofNat (by decide) (by decide) hpos
  · have htarget : -24 ≤ Float.Model.Format.binary32.targetExponent
        (totalExponent (n * 2 ^ 24) (-24)) := by
      rw [totalExponent, log2_mul_two_pow hpos]
      show (-24 : Int) ≤ max (((n.log2 + 24 : Nat) : Int) + 1 + -24 - 24) (-149)
      omega
    have hvalue : n * 2 ^ 24 * 2 ^ 125 = n * 2 ^ 149 := by
      rw [Nat.mul_assoc, ← Nat.pow_add]
    rw [unpack_ofNat_large (by omega), units_roundWithAccuracy (by decide) .positive (by omega) 0
      (by decide) htarget]
    show ((min (nearest .binary32 0 (n * 2 ^ 24 * 2 ^ 125)) (top .binary32) : Nat) : Int) = _
    rw [hvalue]

/-! ### Singles -/

/-- Whether a single is finite and above zero. -/
def IsPositive (x : Float32) : Prop := ∃ m e h, x.toModel.unpack = .finite .positive m e h

theorem IsPositive.isNumber {x : Float32} (h : IsPositive x) : Scalar.isNumber x = true := by
  obtain ⟨m, e, hm, hx⟩ := h
  apply beq_self_of_ne_notANumber
  rw [hx]
  exact nofun

theorem isPositive_ofNat {n : Nat} (hpos : 0 < n) (hle : n ≤ 2 ^ 64) :
    IsPositive (Float32.ofNat n) := by
  obtain ⟨hlow, hhigh⟩ := nearest_whole_bounds hpos hle
  have hvalue := singleUnits_ofNat hpos
  rw [singleUnits] at hvalue
  apply exists_positive_of_units <;> rw [hvalue] <;> omega

/-- Whole numbers do not change their order when they become singles. -/
theorem ofNat_le_ofNat {n k : Nat} (hpos : 0 < n) (hle : n ≤ k) (hk : k ≤ 2 ^ 64) :
    Float32.ofNat n ≤ Float32.ofNat k := by
  have hnumber := (isPositive_ofNat hpos (Nat.le_trans hle hk)).isNumber
  have hnumber' := (isPositive_ofNat (Nat.lt_of_lt_of_le hpos hle) hk).isNumber
  have hmono := nearest_mono (f := .binary32) (Nat.mul_le_mul_right (2 ^ 149) hle) 0
  rw [single_le_iff hnumber hnumber', singleUnits_ofNat hpos, singleUnits_ofNat (by omega)]
  omega

theorem isNumber_mul {x y : Float32}
    (h : UnpackedFloat.mul .binary32 x.toModel.unpack y.toModel.unpack ≠ .notANumber) :
    Scalar.isNumber (x * y) = true := by
  apply beq_self_of_ne_notANumber
  rw [unpack_mul]
  exact unpack_pack_isNumber h

/-- **Of two positive singles the greater one is not made the lesser one by what is not
negative.** -/
theorem mul_le_mul_of_nonneg {x y c : Float32} (hx : IsPositive x) (hy : IsPositive y) (h : x ≤ y)
    (hc : 0.0 ≤ c) : x * c ≤ y * c := by
  have hnonneg : 0 ≤ singleUnits c :=
    (single_le_iff (Scalar.isNumber_of_le hc).1 (Scalar.isNumber_of_le hc).2).mp hc
  have hnumber := ne_notANumber_of_isNumber (Scalar.isNumber_of_le hc).2
  have htop := top_pos (f := .binary32)
  have hstorable := storable_single x
  have hstorable' := storable_single y
  have hscale := storable_single c
  rw [single_le_iff hx.isNumber hy.isNumber, singleUnits, singleUnits] at h
  rw [singleUnits] at hnonneg
  obtain ⟨m, e, hm, hx⟩ := hx
  obtain ⟨m', e', hm', hy⟩ := hy
  rw [hx] at h hstorable
  rw [hy] at h hstorable'
  suffices hproducts :
      UnpackedFloat.mul .binary32 x.toModel.unpack c.toModel.unpack ≠ .notANumber ∧
      UnpackedFloat.mul .binary32 y.toModel.unpack c.toModel.unpack ≠ .notANumber ∧
      units .binary32 (stored .binary32
        (UnpackedFloat.mul .binary32 x.toModel.unpack c.toModel.unpack)) ≤
      units .binary32 (stored .binary32
        (UnpackedFloat.mul .binary32 y.toModel.unpack c.toModel.unpack)) by
    rw [single_le_iff (isNumber_mul hproducts.1) (isNumber_mul hproducts.2.1)]
    exact hproducts.2.2
  rw [hx, hy]
  cases hu : c.toModel.unpack with
  | notANumber => exact absurd hu hnumber
  | infinity s | zero s =>
    refine ⟨?_, ?_, Int.le_refl _⟩ <;>
    rintro ⟨⟩
  | finite s k d hk =>
    rw [hu] at hnonneg hscale
    refine ⟨mul_ne_notANumber_of_finite hm hk, mul_ne_notANumber_of_finite hm' hk, ?_⟩
    have hpositive : s = .positive := by
      cases s with
      | positive => rfl
      | negative =>
        have hpos := magnitude_pos (f := .binary32) (e := d) hk
        rw [units, apply_negative] at hnonneg
        omega
    subst hpositive
    rw [units_mul (by decide) (by decide) hstorable hscale,
      units_mul (by decide) (by decide) hstorable' hscale]
    rw [units, units, apply_positive, apply_positive, Int.ofNat_le] at h
    have hmono := nearest_mono (f := .binary32)
      (Nat.mul_le_mul_right (magnitude .binary32 k d) h) 149
    show ((min (nearest .binary32 149 _) _ : Nat) : Int) ≤ (min (nearest .binary32 149 _) _ : Nat)
    omega

end EventGraph.Number
