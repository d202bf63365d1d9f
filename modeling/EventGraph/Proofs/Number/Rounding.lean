import EventGraph.Proofs.Number.Packing

/-!
# Rounding

Magnitudes are counted in units of the least positive float. Rounding replaces a magnitude by one of
its two neighbours that have no more bits than the mantissa, or leaves it alone if it is one. So it
never crosses a magnitude that can be represented.
-/

namespace EventGraph.Number

open Float.Model (UnpackedFloat totalExponent)
open Float.Model.UnpackedFloat

variable {f : Float.Model.Format} {s : Sign} {m k n t : Nat} {e : Int}

/-! ### Shifting -/

theorem shiftRight_succ (em : ExtendedMantissa) (k : Nat) :
    em >>> (k + 1) = (em >>> k).shiftRightOne := rfl

theorem mantissa_shiftRight (em : ExtendedMantissa) (k : Nat) :
    (em >>> k).mantissa = em.mantissa / 2 ^ k := by
  induction k with
  | zero => exact (Nat.div_one _).symm
  | succ k ih =>
    rw [shiftRight_succ, ExtendedMantissa.shiftRightOne, ih, Nat.div_div_eq_div_mul, Nat.pow_succ]

theorem shiftRight_mul_two_pow (m k : Nat) :
    (⟨m * 2 ^ k, false, false⟩ : ExtendedMantissa) >>> k = ⟨m, false, false⟩ := by
  induction k generalizing m with
  | zero => rw [Nat.pow_zero, Nat.mul_one]; rfl
  | succ k ih =>
    have hdouble : m * 2 ^ (k + 1) = m * 2 * 2 ^ k := by
      rw [Nat.pow_succ, Nat.mul_comm (2 ^ k), Nat.mul_assoc]
    rw [shiftRight_succ, hdouble, ih (m * 2), ExtendedMantissa.shiftRightOne]
    simp

theorem roundedMantissa_bounds (em : ExtendedMantissa) :
    em.mantissa ≤ em.roundedMantissa ∧ em.roundedMantissa ≤ em.mantissa + 1 := by
  obtain ⟨m, roundBit, stickyBit⟩ := em
  cases roundBit <;> cases stickyBit <;>
    simp only [ExtendedMantissa.roundedMantissa, ExtendedMantissa.accuracy,
      Accuracy.roundToNearestEven] <;> omega

/-- A mantissa is shifted to its quotient or to the next greater one, and to its quotient if nothing
is shifted out. -/
theorem roundedMantissa_shiftRight (m k : Nat) :
    let r := ((⟨m, false, false⟩ : ExtendedMantissa) >>> k).roundedMantissa
    m / 2 ^ k ≤ r ∧ r ≤ m / 2 ^ k + 1 ∧ (2 ^ k ∣ m → r = m / 2 ^ k) := by
  obtain ⟨hlow, hhigh⟩ := roundedMantissa_bounds ((⟨m, false, false⟩ : ExtendedMantissa) >>> k)
  rw [mantissa_shiftRight] at hlow hhigh
  refine ⟨hlow, hhigh, ?_⟩
  rintro ⟨q, rfl⟩
  rw [Nat.mul_comm, shiftRight_mul_two_pow, Nat.mul_div_cancel _ (Nat.two_pow_pos k)]
  rfl

theorem log2_mul_two_pow (h : 0 < m) (k : Nat) : (m * 2 ^ k).log2 = m.log2 + k := by
  induction k with
  | zero => rw [Nat.pow_zero, Nat.mul_one, Nat.add_zero]
  | succ k ih =>
    have hne : m * 2 ^ k ≠ 0 := Nat.mul_ne_zero (by omega) (by simp)
    rw [Nat.pow_succ, ← Nat.mul_assoc, Nat.mul_comm, Nat.log2_two_mul hne, ih, Nat.add_assoc]

/-! ### What is canonical -/

theorem targetExponent_of_canonical (h : 0 < m) (hm : IsCanonical f m e) :
    f.targetExponent (m.log2 + 1 + e) = e := by
  have hlog := log2_eq_iff_of_canonical h hm
  have hlt := (Nat.log2_lt (Nat.ne_of_gt h)).mpr hm.lt
  have hleast := hm.least
  rw [Float.Model.Format.targetExponent]
  rcases hm.full with hfull | hmin
  · rw [← hlog] at hfull
    omega
  · omega

theorem shiftToTargetExponent_of_canonical (h : 0 < m) (hm : IsCanonical f m e) (k : Nat) :
    shiftToTargetExponent f (m * 2 ^ k) (e - k) .exact = (⟨m, false, false⟩, e) := by
  have htotal : totalExponent (m * 2 ^ k) (e - k) = m.log2 + 1 + e := by
    rw [totalExponent, log2_mul_two_pow h]
    omega
  rw [shiftToTargetExponent, htotal, targetExponent_of_canonical h hm, shiftToExponent]
  have hamount : (e - (e - (k : Int))).toNat = k := by omega
  have hexponent : e - (k : Int) + k = e := by omega
  simp only [hamount, ExtendedMantissa.ofMantissaAndAccuracy, shiftRight_mul_two_pow, hexponent]

theorem roundWithAccuracy_eq {em : ExtendedMantissa} {m' : Nat} {e₁ e' : Int}
    (hshift : shiftToTargetExponent f m e .exact = (em, e₁))
    (hmantissa : em.roundedMantissa = m' * 2 ^ k) (hexponent : e₁ = e' - k) (h : 0 < m')
    (hm : IsCanonical f m' e') : roundWithAccuracy f s m e .exact = .finite s m' e' h := by
  rw [roundWithAccuracy, hshift]
  dsimp only
  rw [hmantissa, hexponent, shiftToTargetExponent_of_canonical h hm k]
  exact dif_neg (Nat.ne_of_gt h)

/-- What is canonical is not changed by rounding, however many zero bits stand behind it. -/
theorem round_of_canonical (h : 0 < m) (hm : IsCanonical f m e) (k : Nat) :
    roundWithAccuracy f s (m * 2 ^ k) (e - k) .exact = .finite s m e h :=
  roundWithAccuracy_eq (k := 0) (shiftToTargetExponent_of_canonical h hm k) (Nat.mul_one m).symm
    (Int.sub_zero e).symm h hm

/-- A mantissa that has just become too large by rounding makes place for its exponent to grow. -/
theorem exists_canonical {r : Nat} (hpos : 0 < r) (hr : r ≤ 2 ^ f.mantissaBits)
    (he : f.minExponent ≤ e) (hfull : 2 ^ f.mantissaBitsWithoutImplicit ≤ r ∨ e = f.minExponent) :
    ∃ m' e', ∃ k : Nat, 0 < m' ∧ r = m' * 2 ^ k ∧ e = e' - k ∧ IsCanonical f m' e' := by
  rcases Nat.lt_or_eq_of_le hr with hlt | rfl
  · exact ⟨r, e, 0, hpos, (Nat.mul_one r).symm, (Int.sub_zero e).symm, hlt, he, hfull⟩
  · have htwice := two_pow_mantissaBits f
    have hpow : 0 < 2 ^ f.mantissaBitsWithoutImplicit := Nat.two_pow_pos _
    exact ⟨2 ^ f.mantissaBitsWithoutImplicit, e + 1, 1, hpow, by omega, by omega, by omega,
      by omega, .inl (Nat.le_refl _)⟩

/-! ### Neighbours -/

/-- The magnitude of a mantissa and an exponent, in units of the least positive float. -/
def magnitude (f : Float.Model.Format) (m : Nat) (e : Int) : Nat :=
  m * 2 ^ (e - f.minExponent).toNat

/-- Whether a magnitude has no more bits than the mantissa. -/
def Representable (f : Float.Model.Format) (n : Nat) : Prop :=
  ∃ m k, m ≤ 2 ^ f.mantissaBits ∧ n = m * 2 ^ k

/-- Whether no representable magnitude is between one and what it is rounded to. -/
def RoundsTo (f : Float.Model.Format) (n v : Nat) : Prop :=
  ∀ y, Representable f y → (y ≤ n → y ≤ v) ∧ (n ≤ y → v ≤ y)

theorem two_pow_mantissaBits_mul (k : Nat) :
    2 ^ f.mantissaBits * 2 ^ k = 2 ^ f.mantissaBitsWithoutImplicit * 2 ^ (k + 1) := by
  rw [two_pow_mantissaBits, Nat.pow_succ, Nat.mul_comm 2, Nat.mul_assoc, Nat.mul_comm 2]

/-- Between two neighbours is nothing representable. -/
theorem Representable.le_of_lt {q y : Nat} (hy : Representable f y)
    (hfull : t = 0 ∨ 2 ^ f.mantissaBitsWithoutImplicit ≤ q) (hlt : y < (q + 1) * 2 ^ t) :
    y ≤ q * 2 ^ t := by
  obtain ⟨m, a, hm, rfl⟩ := hy
  rcases Nat.lt_or_ge a t with hless | hle
  · have hfull := hfull.resolve_left (by omega)
    calc m * 2 ^ a ≤ 2 ^ f.mantissaBits * 2 ^ a := Nat.mul_le_mul_right _ hm
      _ = 2 ^ f.mantissaBitsWithoutImplicit * 2 ^ (a + 1) := two_pow_mantissaBits_mul a
      _ ≤ q * 2 ^ t := Nat.mul_le_mul hfull (Nat.pow_le_pow_right (by decide) hless)
  · obtain ⟨d, rfl⟩ := Nat.exists_eq_add_of_le hle
    have hsplit : m * 2 ^ (t + d) = m * 2 ^ d * 2 ^ t := by
      rw [Nat.pow_add, Nat.mul_comm (2 ^ t), Nat.mul_assoc]
    rw [hsplit] at hlt ⊢
    exact Nat.mul_le_mul_right _ (Nat.le_of_lt_succ (Nat.lt_of_mul_lt_mul_right hlt))

theorem roundsTo_of_neighbour {r : Nat}
    (hfull : t = 0 ∨ 2 ^ f.mantissaBitsWithoutImplicit ≤ n / 2 ^ t)
    (hlow : n / 2 ^ t ≤ r) (hhigh : r ≤ n / 2 ^ t + 1) (hexact : 2 ^ t ∣ n → r = n / 2 ^ t) :
    RoundsTo f n (r * 2 ^ t) := by
  have hbelow : n / 2 ^ t * 2 ^ t ≤ n := Nat.div_mul_le_self n (2 ^ t)
  have habove : n < (n / 2 ^ t + 1) * 2 ^ t := by
    rw [Nat.mul_comm]
    exact Nat.lt_mul_div_succ n (Nat.two_pow_pos t)
  intro y hy
  constructor
  · intro hle
    exact Nat.le_trans (hy.le_of_lt hfull (Nat.lt_of_le_of_lt hle habove))
      (Nat.mul_le_mul_right _ hlow)
  · intro hle
    by_cases hdvd : 2 ^ t ∣ n
    · rwa [hexact hdvd, Nat.div_mul_cancel hdvd]
    · have hne : n / 2 ^ t * 2 ^ t ≠ n := fun heq => hdvd ⟨n / 2 ^ t, by rw [Nat.mul_comm, heq]⟩
      refine Nat.le_trans (Nat.mul_le_mul_right _ hhigh) (Nat.le_of_not_lt fun hlt => ?_)
      have hless := hy.le_of_lt hfull hlt
      omega

/-! ### Rounding -/

theorem magnitude_add (m a : Nat) : magnitude f m (f.minExponent + a) = m * 2 ^ a := by
  have hsub : (f.minExponent + a - f.minExponent).toNat = a := by omega
  rw [magnitude, hsub]

theorem magnitude_mul_two_pow (he : f.minExponent ≤ e) (k : Nat) :
    magnitude f (m * 2 ^ k) e = magnitude f m (e + k) := by
  have hsum : (e + k - f.minExponent).toNat = k + (e - f.minExponent).toNat := by omega
  rw [magnitude, magnitude, hsum, Nat.pow_add, Nat.mul_assoc]

theorem roundWithAccuracy_spec (s : Sign) (hm : 0 < m) (he : f.minExponent ≤ e)
    (htarget : e ≤ f.targetExponent (totalExponent m e)) :
    ∃ m' e', ∃ h : 0 < m', roundWithAccuracy f s m e .exact = .finite s m' e' h ∧
      IsCanonical f m' e' ∧ RoundsTo f (magnitude f m e) (magnitude f m' e') := by
  generalize ht : f.targetExponent (totalExponent m e) = e₁ at htarget
  obtain ⟨k, rfl⟩ : ∃ k : Nat, e₁ = e + k := ⟨(e₁ - e).toNat, by omega⟩
  obtain ⟨a, rfl⟩ : ∃ a : Nat, e = f.minExponent + a := ⟨(e - f.minExponent).toNat, by omega⟩
  have hamount : (f.minExponent + a + k - (f.minExponent + a)).toNat = k := by omega
  have hshift : shiftToTargetExponent f m (f.minExponent + a) .exact =
      ((⟨m, false, false⟩ : ExtendedMantissa) >>> k, f.minExponent + a + k) := by
    rw [shiftToTargetExponent, ht, shiftToExponent]
    simp only [hamount, ExtendedMantissa.ofMantissaAndAccuracy]
  obtain ⟨hlow, hhigh, hexact⟩ := roundedMantissa_shiftRight m k
  generalize hr : ((⟨m, false, false⟩ : ExtendedMantissa) >>> k).roundedMantissa = r
    at hlow hhigh hexact
  -- The target exponent leaves just the bits of a mantissa, or all of them at the least exponent.
  have hbits : m.log2 ≤ f.mantissaBitsWithoutImplicit + k ∧
      (m.log2 = f.mantissaBitsWithoutImplicit + k ∨ a + k = 0) := by
    rw [Float.Model.Format.targetExponent, totalExponent, Float.Model.Format.mantissaBits] at ht
    omega
  have hless : m / 2 ^ k < 2 ^ f.mantissaBits := by
    rw [Nat.div_lt_iff_lt_mul (Nat.two_pow_pos k), ← Nat.pow_add, ← Nat.log2_lt (by omega),
      Float.Model.Format.mantissaBits]
    omega
  have hfull : a + k = 0 ∨ 2 ^ f.mantissaBitsWithoutImplicit ≤ m / 2 ^ k := by
    refine hbits.2.symm.imp_right fun hlog => ?_
    rw [Nat.le_div_iff_mul_le (Nat.two_pow_pos k), ← Nat.pow_add, ← hlog]
    exact Nat.log2_self_le (by omega)
  have hpos : 0 < m / 2 ^ k := by
    rcases hfull with hzero | hle
    · obtain rfl : k = 0 := by omega
      rwa [Nat.pow_zero, Nat.div_one]
    · exact Nat.lt_of_lt_of_le (Nat.two_pow_pos _) hle
  obtain ⟨m', e', k', hm', hmantissa, hexponent, hcanonical⟩ :=
    exists_canonical (f := f) (e := f.minExponent + a + k) (r := r) (by omega) (by omega) (by omega)
      (by omega)
  refine ⟨m', e', hm', roundWithAccuracy_eq hshift (hr.trans hmantissa) hexponent hm' hcanonical,
    hcanonical, ?_⟩
  have hvalue : magnitude f m' e' = r * 2 ^ (a + k) := by
    have he' : e' = f.minExponent + (a + k : Nat) + k' := by omega
    rw [he', ← magnitude_mul_two_pow (by omega), ← hmantissa, magnitude_add]
  have hquotient : m * 2 ^ a / 2 ^ (a + k) = m / 2 ^ k := by
    rw [Nat.pow_add, Nat.mul_comm m, Nat.mul_div_mul_left _ _ (Nat.two_pow_pos a)]
  rw [hvalue, magnitude_add]
  apply roundsTo_of_neighbour
  · rwa [hquotient]
  · rwa [hquotient]
  · rwa [hquotient]
  · rw [hquotient, Nat.pow_add, Nat.mul_comm m, Nat.mul_dvd_mul_iff_left (Nat.two_pow_pos a)]
    exact hexact

/-- **A magnitude is rounded to one with as many bits as the mantissa, crossing none of those.** -/
theorem round_spec (s : Sign) (hm : 0 < m) (he : f.minExponent ≤ e) :
    ∃ m' e', ∃ h : 0 < m', UnpackedFloat.round f s m e = .finite s m' e' h ∧
      IsCanonical f m' e' ∧ RoundsTo f (magnitude f m e) (magnitude f m' e') := by
  generalize ht : f.targetExponent (totalExponent m e) = e₁
  generalize hd : (e - e₁).toNat = d
  have hleast : f.minExponent ≤ e₁ := by
    rw [← ht, Float.Model.Format.targetExponent]
    omega
  have hround : UnpackedFloat.round f s m e =
      roundWithAccuracy f s (m * 2 ^ d) (e - d) .exact := by
    rw [UnpackedFloat.round, ht, decreaseExponent]
    dsimp only
    rw [hd, Nat.shiftLeft_eq]
  have htotal : totalExponent (m * 2 ^ d) (e - d) = totalExponent m e := by
    rw [totalExponent, totalExponent, log2_mul_two_pow hm]
    omega
  have hsame : magnitude f m e = magnitude f (m * 2 ^ d) (e - d) := by
    rw [magnitude_mul_two_pow (by omega), Int.sub_add_cancel]
  rw [hround, hsame]
  apply roundWithAccuracy_spec s (Nat.mul_pos hm (Nat.two_pow_pos d)) (by omega)
  rw [htotal, ht]
  omega

/-! ### Numbers -/

theorem roundWithAccuracy_ne_notANumber (s : Sign) (m : Nat) (e : Int) (accuracy : Accuracy) :
    roundWithAccuracy f s m e accuracy ≠ .notANumber := by
  have hchoice (n : Nat) (e : Int) : (if h : n = 0 then UnpackedFloat.zero s
      else .finite s n e (Nat.pos_of_ne_zero h)) ≠ .notANumber := by
    by_cases h : n = 0
    · rw [dif_pos h]
      exact nofun
    · rw [dif_neg h]
      exact nofun
  exact hchoice _ _

theorem normalize_ne_notANumber (n e : Int) (s : Sign) :
    UnpackedFloat.normalize f n e s ≠ .notANumber := by
  rw [UnpackedFloat.normalize]
  split
  · exact roundWithAccuracy_ne_notANumber _ _ _ _
  · exact nofun
  · exact roundWithAccuracy_ne_notANumber _ _ _ _

end EventGraph.Number
