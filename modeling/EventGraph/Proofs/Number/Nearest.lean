import EventGraph.Proofs.Number.Addition

/-!
# Rounding to the nearest keeps the order

A magnitude that has too many bits loses the last ones and is rounded by what is lost. Of two
magnitudes the greater one is never rounded to less: they lose equally many bits, and the greater
one is left with more, or a power of two is between them, which rounding does not cross. So the
products of positive floats, and whole numbers as floats, are in the order of what they round.
-/

namespace EventGraph.Number

open Float.Model (UnpackedFloat totalExponent)
open Float.Model.UnpackedFloat

variable {f : Float.Model.Format} {s : Sign} {m k n n' : Nat} {e : Int}

/-! ### What is left of the bits -/

/-- The order of mantissas with their two residual bits. -/
def fineness (em : ExtendedMantissa) : Nat :=
  4 * em.mantissa + 2 * em.roundBit.toNat + em.stickyBit.toNat

theorem fineness_shiftRightOne {a b : ExtendedMantissa} (h : fineness a ≤ fineness b) :
    fineness a.shiftRightOne ≤ fineness b.shiftRightOne := by
  have hbit (m : Nat) : (m % 2 != 0).toNat = m % 2 := by
    rcases Nat.mod_two_eq_zero_or_one m with hm | hm <;> rw [hm] <;> rfl
  obtain ⟨m, r, t⟩ := a
  obtain ⟨m', r', t'⟩ := b
  simp only [fineness, ExtendedMantissa.shiftRightOne, hbit] at h ⊢
  cases r <;> cases t <;> cases r' <;> cases t' <;>
    simp only [Bool.or_false, Bool.or_true, Bool.toNat_false, Bool.toNat_true] at h ⊢ <;> omega

theorem fineness_shiftRight {a b : ExtendedMantissa} (h : fineness a ≤ fineness b) (k : Nat) :
    fineness (a >>> k) ≤ fineness (b >>> k) := by
  induction k with
  | zero => exact h
  | succ k ih => exact fineness_shiftRightOne ih

theorem roundedMantissa_mono {a b : ExtendedMantissa} (h : fineness a ≤ fineness b) :
    a.roundedMantissa ≤ b.roundedMantissa := by
  obtain ⟨m, r, t⟩ := a
  obtain ⟨m', r', t'⟩ := b
  simp only [fineness] at h
  cases r <;> cases t <;> cases r' <;> cases t' <;>
    simp only [Bool.toNat_false, Bool.toNat_true, ExtendedMantissa.roundedMantissa,
      ExtendedMantissa.accuracy, Accuracy.roundToNearestEven] at h ⊢ <;> omega

/-- A number without its last bits, rounded to the nearest, a half to the even one. -/
def cut (n k : Nat) : Nat := ((⟨n, false, false⟩ : ExtendedMantissa) >>> k).roundedMantissa

theorem cut_mono (h : n ≤ n') (k : Nat) : cut n k ≤ cut n' k := by
  apply roundedMantissa_mono
  apply fineness_shiftRight
  simp only [fineness, Bool.toNat_false]
  omega

theorem shiftRight_add (em : ExtendedMantissa) (a k : Nat) : em >>> (a + k) = (em >>> a) >>> k := by
  induction k with
  | zero => rfl
  | succ k ih => rw [← Nat.add_assoc, shiftRight_succ, ih, shiftRight_succ]

/-- Bits that are not there are not missed. -/
theorem cut_mul_two_pow (m a k : Nat) : cut (m * 2 ^ a) (a + k) = cut m k := by
  rw [cut, shiftRight_add, shiftRight_mul_two_pow, cut]

/-! ### Rounded magnitudes -/

/-- How many bits a magnitude loses: all that the mantissa has no place for, and at least those
below the least float. -/
def lost (f : Float.Model.Format) (below n : Nat) : Nat := max (n.log2 + 1 - f.mantissaBits) below

/-- What a magnitude is rounded to, if there is a float that large. It is given with some bits below
the least float. -/
def nearest (f : Float.Model.Format) (below n : Nat) : Nat :=
  cut n (lost f below n) * 2 ^ (lost f below n - below)

theorem lt_two_pow_lost (f : Float.Model.Format) (below n : Nat) :
    n < 2 ^ (f.mantissaBits + lost f below n) := by
  by_cases hzero : n = 0
  · rw [hzero]
    exact Nat.two_pow_pos _
  · rw [← Nat.log2_lt hzero, lost]
    omega

theorem cut_lost_le (f : Float.Model.Format) (below n : Nat) :
    cut n (lost f below n) ≤ 2 ^ f.mantissaBits := by
  have hless : n / 2 ^ lost f below n < 2 ^ f.mantissaBits := by
    rw [Nat.div_lt_iff_lt_mul (Nat.two_pow_pos _), ← Nat.pow_add]
    exact lt_two_pow_lost f below n
  have hbound := (roundedMantissa_shiftRight n (lost f below n)).2.1
  rw [cut]
  omega

/-- A mantissa that has lost bits for want of place is full. -/
theorem le_cut_lost {below : Nat} (h : below < lost f below n) :
    2 ^ f.mantissaBitsWithoutImplicit ≤ cut n (lost f below n) := by
  have hlog : n.log2 = f.mantissaBitsWithoutImplicit + lost f below n := by
    rw [lost, Float.Model.Format.mantissaBits] at *
    omega
  have hzero : n ≠ 0 := by
    rintro rfl
    rw [Nat.log2_zero] at hlog
    omega
  have hquotient : 2 ^ f.mantissaBitsWithoutImplicit ≤ n / 2 ^ lost f below n := by
    rw [Nat.le_div_iff_mul_le (Nat.two_pow_pos _), ← Nat.pow_add, ← hlog]
    exact Nat.log2_self_le hzero
  exact Nat.le_trans hquotient (roundedMantissa_shiftRight n (lost f below n)).1

theorem log2_mono (h : n ≤ n') : n.log2 ≤ n'.log2 := by
  by_cases hzero : n = 0
  · rw [hzero, Nat.log2_zero]
    exact Nat.zero_le _
  · rw [Nat.le_log2 (by omega)]
    exact Nat.le_trans (Nat.log2_self_le hzero) h

/-- **The greater magnitude is not rounded to less.** -/
theorem nearest_mono (h : n ≤ n') (below : Nat) : nearest f below n ≤ nearest f below n' := by
  have hlog := log2_mono h
  have hlost : lost f below n ≤ lost f below n' := by
    rw [lost, lost]
    omega
  rcases Nat.lt_or_eq_of_le hlost with hless | hsame
  · have hleast : below ≤ lost f below n := Nat.le_max_right _ _
    calc nearest f below n
        ≤ 2 ^ f.mantissaBits * 2 ^ (lost f below n - below) :=
          Nat.mul_le_mul_right _ (cut_lost_le f below n)
      _ = 2 ^ f.mantissaBitsWithoutImplicit * 2 ^ (lost f below n - below + 1) :=
          two_pow_mantissaBits_mul _
      _ ≤ nearest f below n' :=
          Nat.mul_le_mul (le_cut_lost (by omega)) (Nat.pow_le_pow_right (by decide) (by omega))
  · rw [nearest, nearest, ← hsame]
    exact Nat.mul_le_mul_right _ (cut_mono h _)

/-- A magnitude is stored as what it is rounded to, or as an infinity. -/
theorem units_roundWithAccuracy (hf : 0 < f.exponentBias) (s : Sign) (hm : 0 < m) (below : Nat)
    (he : f.minExponent - below ≤ e) (htarget : e ≤ f.targetExponent (totalExponent m e)) :
    units f (stored f (roundWithAccuracy f s m e .exact)) = s.apply
      (min (nearest f below (m * 2 ^ (e + below - f.minExponent).toNat)) (top f) : Nat) := by
  generalize hn : m * 2 ^ (e + below - f.minExponent).toNat = n
  generalize ht : f.targetExponent (totalExponent m e) = e₁ at htarget
  obtain ⟨k, rfl⟩ : ∃ k : Nat, e₁ = e + k := ⟨(e₁ - e).toNat, by omega⟩
  have hlog : n.log2 = m.log2 + (e + below - f.minExponent).toNat := by
    rw [← hn, log2_mul_two_pow hm]
  have hleast : f.minExponent ≤ e + k := by
    rw [← ht, Float.Model.Format.targetExponent]
    omega
  have hlost : lost f below n = (e + below - f.minExponent).toNat + k := by
    rw [Float.Model.Format.targetExponent, totalExponent] at ht
    rw [lost, hlog]
    omega
  have hcut : cut n (lost f below n) = cut m k := by rw [hlost, ← hn, cut_mul_two_pow]
  have hamount : (e + k - e).toNat = k := by omega
  have hshift : shiftToTargetExponent f m e .exact =
      ((⟨m, false, false⟩ : ExtendedMantissa) >>> k, e + k) := by
    rw [shiftToTargetExponent, ht, shiftToExponent]
    simp only [hamount, ExtendedMantissa.ofMantissaAndAccuracy]
  have hplaces : lost f below n - below = (e + k - f.minExponent).toNat := by omega
  rw [nearest, hcut, hplaces]
  by_cases hnone : cut m k = 0
  · have hzero : roundWithAccuracy f s m e .exact = .zero s := by
      rw [roundWithAccuracy, hshift]
      dsimp only
      rw [← cut, hnone, shiftToTargetExponent, shiftToExponent]
      refine dif_pos ?_
      rw [mantissa_shiftRight]
      exact Nat.zero_div _
    rw [hzero, stored_zero, hnone, Nat.zero_mul, Nat.zero_min]
    cases s <;> rfl
  · have hfull : 2 ^ f.mantissaBitsWithoutImplicit ≤ cut m k ∨ e + k = f.minExponent := by
      by_cases hless : below < lost f below n
      · exact .inl (hcut ▸ le_cut_lost hless)
      · exact .inr (by omega)
    obtain ⟨m', e', k', hm', hmantissa, hexponent, hcanonical⟩ := exists_canonical
      (Nat.pos_of_ne_zero hnone) (hcut ▸ cut_lost_le f below n) hleast hfull
    have hvalue : cut m k * 2 ^ (e + k - f.minExponent).toNat = magnitude f m' e' := by
      have he' : e + k + k' = e' := by omega
      rw [hmantissa, ← he', ← magnitude_mul_two_pow hleast, magnitude]
    rw [roundWithAccuracy_eq hshift hmantissa hexponent hm' hcanonical, hvalue]
    by_cases hlarge : e' ≤ maxExponent f
    · have hless := magnitude_lt_top hf hcanonical hlarge
      rw [stored, unpack_pack_finite s hm' hcanonical hlarge, units, Nat.min_eq_left (by omega)]
    · have hle := top_le_magnitude hf hcanonical (by omega)
      rw [stored, unpack_pack_large s hm' (by omega), units, Nat.min_eq_right hle]

end EventGraph.Number
