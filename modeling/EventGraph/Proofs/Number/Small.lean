import EventGraph.Proofs.Number.Product

/-!
# Small whole numbers

Whole numbers that fit in the mantissa of a single are added, multiplied and compared without any
rounding.
-/

namespace EventGraph.Number

open Float.Model (UnpackedFloat)
open Float.Model.UnpackedFloat

/-! ### Magnitudes that are not rounded -/

section Formats

variable {f : Float.Model.Format} {n a below : Nat}

/-- A magnitude with no more bits than the mantissa, none of them below the least float, loses
nothing. -/
theorem nearest_exact (hn : n < 2 ^ f.mantissaBits) (hbelow : below ≤ a) :
    nearest f below (n * 2 ^ a) * 2 ^ below = n * 2 ^ a := by
  generalize hlost : lost f below (n * 2 ^ a) = k
  have hbelow' : below ≤ k := hlost ▸ Nat.le_max_right _ _
  have hk : k ≤ a := by
    rw [← hlost, lost]
    by_cases hzero : n = 0
    · rw [hzero, Nat.zero_mul, Nat.log2_zero, Float.Model.Format.mantissaBits]
      omega
    · have hlog := (Nat.log2_lt hzero).mpr hn
      rw [log2_mul_two_pow (Nat.pos_of_ne_zero hzero)]
      omega
  have hcut : cut (n * 2 ^ a) k = n * 2 ^ (a - k) := by
    have hsplit : n * 2 ^ a = n * 2 ^ (a - k) * 2 ^ k := by
      rw [Nat.mul_assoc, ← Nat.pow_add, Nat.sub_add_cancel hk]
    rw [hsplit, show cut (n * 2 ^ (a - k) * 2 ^ k) k = cut (n * 2 ^ (a - k)) 0 from
      cut_mul_two_pow _ k 0]
    rfl
  have hsum : a - k + (k - below) + below = a := by omega
  rw [nearest, hlost, hcut, Nat.mul_assoc, Nat.mul_assoc, ← Nat.pow_add, ← Nat.pow_add]
  congr 2
  omega

end Formats

/-! ### Singles -/

/-- A single is a whole number that is not negative. -/
structure IsWhole (x : Float32) (n : Nat) : Prop where
  finite : x.isFinite = true
  value : singleUnits x = (n * 2 ^ 149 : Nat)

variable {x y : Float32} {n k : Nat}

theorem whole_lt_top (hn : n < 2 ^ 24) : n * 2 ^ 149 < top .binary32 := by
  have htop : 2 ^ 24 * 2 ^ 149 ≤ top .binary32 := by decide +kernel
  have hless : n * 2 ^ 149 < 2 ^ 24 * 2 ^ 149 :=
    Nat.mul_lt_mul_of_pos_right hn (Nat.two_pow_pos 149)
  exact Nat.lt_of_lt_of_le hless htop

theorem isValue_whole (hn : n < 2 ^ 24) : IsValue .binary32 ((n * 2 ^ 149 : Nat) : Int) :=
  ⟨⟨n, 149, Nat.le_of_lt hn, rfl⟩, Nat.le_of_lt (whole_lt_top hn)⟩

/-- What has the value of a small whole number is finite. -/
theorem IsWhole.ofValue (hn : n < 2 ^ 24) (hx : Scalar.isNumber x = true)
    (hvalue : singleUnits x = (n * 2 ^ 149 : Nat)) : IsWhole x n := by
  refine ⟨(infinity_or_isFinite hx).resolve_left ?_, hvalue⟩
  rintro ⟨s, hs⟩
  have hless := whole_lt_top hn
  rw [singleUnits, hs, units] at hvalue
  cases s with
  | positive =>
    rw [apply_positive] at hvalue
    omega
  | negative =>
    rw [apply_negative] at hvalue
    omega

theorem IsWhole.isNumber (h : IsWhole x n) : Scalar.isNumber x = true :=
  isNumber_of_isFinite h.finite

theorem IsWhole.add (hx : IsWhole x n) (hy : IsWhole y k) (hsum : n + k < 2 ^ 24) :
    IsWhole (x + y) (n + k) := by
  refine .ofValue hsum (isNumber_add hy.finite hx.isNumber) ?_
  have hrounds : Rounds .binary32 (singleUnits x + singleUnits y) (singleUnits (x + y)) :=
    rounds_add (by decide) (storable_single x) (storable_single y) hx.finite hy.finite
  have hvalue : singleUnits x + singleUnits y = ((n + k) * 2 ^ 149 : Nat) := by
    rw [hx.value, hy.value]
    omega
  rw [hvalue] at hrounds
  obtain ⟨hbelow, habove⟩ := hrounds _ (isValue_whole hsum)
  exact Int.le_antisymm (habove (Int.le_refl _)) (hbelow (Int.le_refl _))

theorem IsWhole.zero_or_positive (h : IsWhole x n) (hn : n < 2 ^ 24) :
    n = 0 ∧ (∃ s, x.toModel.unpack = .zero s) ∨ IsPositive x := by
  have hvalue := h.value
  rw [singleUnits] at hvalue
  rcases Nat.eq_zero_or_pos n with rfl | hpos
  · refine .inl ⟨rfl, ?_⟩
    have hfinite : x.toModel.unpack.isFinite = true := h.finite
    cases hu : x.toModel.unpack with
    | notANumber | infinity s =>
      rw [hu] at hfinite
      cases hfinite
    | zero s => exact ⟨s, rfl⟩
    | finite s m e hm =>
      have hmagnitude := magnitude_pos (f := .binary32) (e := e) hm
      rw [hu, units] at hvalue
      cases s with
      | positive =>
        rw [apply_positive] at hvalue
        omega
      | negative =>
        rw [apply_negative] at hvalue
        omega
  · have hless := whole_lt_top hn
    right
    apply exists_positive_of_units <;> rw [hvalue] <;> omega

theorem nearest_product (hproduct : n * k < 2 ^ 24) (a : Nat) :
    nearest .binary32 a (n * 2 ^ a * (k * 2 ^ a)) = n * k * 2 ^ a := by
  have hsplit : n * 2 ^ a * (k * 2 ^ a) = n * k * 2 ^ (a + a) := by
    rw [Nat.mul_mul_mul_comm, Nat.pow_add]
  have hexact : nearest .binary32 a (n * k * 2 ^ (a + a)) * 2 ^ a = n * k * 2 ^ (a + a) :=
    nearest_exact hproduct (Nat.le_add_left a a)
  rw [hsplit]
  refine Nat.eq_of_mul_eq_mul_right (Nat.two_pow_pos a) (hexact.trans ?_)
  rw [Nat.pow_add, Nat.mul_assoc (n * k)]

/-- A positive float with the value of a whole number has its magnitude. -/
theorem IsWhole.magnitude_eq {m : Nat} {e : Int} {hm : 0 < m} (h : IsWhole x n)
    (hu : x.toModel.unpack = .finite .positive m e hm) : magnitude .binary32 m e = n * 2 ^ 149 := by
  have hvalue := h.value
  rw [singleUnits, hu, units, apply_positive] at hvalue
  exact Int.ofNat_inj.mp hvalue

/-- A zero has the value of none. -/
theorem isWhole_of_zero (s : Sign) (h : x.toModel.unpack = .zero s) : IsWhole x 0 := by
  refine .ofValue (by decide) ?_ ?_
  · apply beq_self_of_ne_notANumber
    rw [h]
    exact nofun
  · rw [singleUnits, h]
    rfl

theorem IsWhole.mul (hx : IsWhole x n) (hy : IsWhole y k) (hn : n < 2 ^ 24) (hk : k < 2 ^ 24)
    (hproduct : n * k < 2 ^ 24) : IsWhole (x * y) (n * k) := by
  rcases hx.zero_or_positive hn with ⟨rfl, s, hs⟩ | ⟨m, e, hm, hpos⟩
  · rw [Nat.zero_mul]
    rcases hy.zero_or_positive hk with ⟨-, t, ht⟩ | ⟨m', e', hm', hpos'⟩
    · exact isWhole_of_zero (s * t) (by rw [unpack_mul, hs, ht]; exact stored_zero _)
    · exact isWhole_of_zero (s * .positive) (by rw [unpack_mul, hs, hpos']; exact stored_zero _)
  · rcases hy.zero_or_positive hk with ⟨rfl, t, ht⟩ | ⟨m', e', hm', hpos'⟩
    · rw [Nat.mul_zero]
      exact isWhole_of_zero (.positive * t) (by rw [unpack_mul, hpos, ht]; exact stored_zero _)
    · refine .ofValue hproduct ?_ ?_
      · refine isNumber_mul ?_
        rw [hpos, hpos']
        exact mul_ne_notANumber_of_finite hm hm'
      · have hless := whole_lt_top hproduct
        have hstorable := hpos ▸ storable_single x
        have hstorable' := hpos' ▸ storable_single y
        rw [singleUnits, unpack_mul, hpos, hpos', units_mul (by decide) (by decide) hstorable
          hstorable', hx.magnitude_eq hpos, hy.magnitude_eq hpos']
        show ((min (nearest .binary32 149 (n * 2 ^ 149 * (k * 2 ^ 149))) _ : Nat) : Int) = _
        rw [nearest_product hproduct 149, Nat.min_eq_left (Nat.le_of_lt hless)]

theorem isWhole_ofNat (hn : n < 2 ^ 24) : IsWhole (Float32.ofNat n) n := by
  rcases Nat.eq_zero_or_pos n with rfl | hpos
  · exact ⟨by decide, by decide⟩
  · have hexact : nearest .binary32 0 (n * 2 ^ 149) = n * 2 ^ 149 := by
      have hexact := nearest_exact (f := .binary32) hn (Nat.zero_le 149)
      rwa [Nat.pow_zero, Nat.mul_one] at hexact
    have hless := whole_lt_top hn
    refine .ofValue hn (isPositive_ofNat hpos (by omega)).isNumber ?_
    rw [singleUnits_ofNat hpos, hexact, Nat.min_eq_left (Nat.le_of_lt hless)]

theorem IsWhole.le_iff (hx : IsWhole x n) (hy : IsWhole y k) : x ≤ y ↔ n ≤ k := by
  rw [single_le_iff hx.isNumber hy.isNumber, hx.value, hy.value]
  omega

theorem IsWhole.max (hx : IsWhole x n) (hy : IsWhole y k) : IsWhole (Scalar.max x y) (max n k) := by
  have hmax : Scalar.max x y = if y < x then x else y := by simp [Scalar.max, hy.isNumber]
  rw [hmax]
  split
  · rename_i hless
    rwa [Nat.max_eq_left ((hy.le_iff hx).mp (Std.le_of_lt hless))]
  · rename_i hless
    have hle := Scalar.le_of_not_lt hy.isNumber hx.isNumber hless
    rwa [Nat.max_eq_right ((hx.le_iff hy).mp hle)]

/-- Equal singles are the same whole number. -/
theorem IsWhole.eq_of_beq (hx : IsWhole x n) (hy : IsWhole y k) (h : (x == y) = true) : n = k := by
  have hle : x ≤ y := float32_le_iff.mpr (le_of_beq h)
  have hge : y ≤ x := float32_le_iff.mpr (le_of_beq (beq_comm_of_beq h))
  exact Nat.le_antisymm ((hx.le_iff hy).mp hle) ((hy.le_iff hx).mp hge)

end EventGraph.Number
