import EventGraph.Proofs.Number.Double
import EventGraph.Proofs.Number.Equality
import EventGraph.Proofs.Number.Rounding

/-!
# Whole numbers as doubles

What fits is left alone by rounding, so a whole number below `2 ^ 53` becomes a double without
loss: read off a double and turned back it is equal to it. A whole number of any size becomes a
number.
-/

namespace EventGraph.Number

open Float.Model (UnpackedFloat)
open Float.Model.UnpackedFloat

/-! ### Rounding what fits -/

/-- What fits is not changed by rounding, however many zero bits stand behind it. -/
theorem round_of_fits {s : Sign} {m : Nat} {e : Int} {h : 0 < m}
    (hfits : Fits (.finite s m e h)) (k : Nat) :
    roundWithAccuracy .binary64 s (m * 2 ^ k) (e - k) .exact = .finite s m e h :=
  round_of_canonical h (fits_iff_storable.mp hfits).1 k

/-! ### Whole numbers -/

/-- The number of places by which a whole number is shifted to fill the mantissa. -/
def places (n : Nat) : Nat := 52 - n.log2

theorem fits_shifted {n : Nat} (hpos : 0 < n) (hlt : n < 2 ^ 53) (s : Sign)
    (h : 0 < n * 2 ^ places n) : Fits (.finite s (n * 2 ^ places n) (-places n) h) := by
  have hlog : n.log2 ≤ 52 := Nat.le_of_lt_succ ((Nat.log2_lt (by omega)).mpr hlt)
  have hshifted : (n * 2 ^ places n).log2 = 52 := by
    rw [log2_mul_two_pow hpos, places]
    omega
  have hbounds := (Nat.log2_eq_iff (Nat.ne_of_gt h)).mp hshifted
  refine ⟨hbounds.2, ?_, ?_, .inl hbounds.1⟩ <;> rw [places] <;> omega

theorem ofNat_unpacked {n : Nat} (hpos : 0 < n) (hlt : n < 2 ^ 53)
    (h : 0 < n * 2 ^ places n) : UnpackedFloat.ofNat .binary64 n =
      .finite .positive (n * 2 ^ places n) (-places n) h := by
  have hlog : n.log2 ≤ 52 := Nat.le_of_lt_succ ((Nat.log2_lt (by omega)).mpr hlt)
  have hcompare : compare (n : Int) 0 = .gt := Int.compare_eq_gt.mpr (by omega)
  have htarget : Float.Model.Format.binary64.targetExponent (Float.Model.totalExponent n 0) =
      -(places n : Int) := by
    show max ((n.log2 : Int) + 1 + 0 - 53) (-1074) = _
    rw [places]
    omega
  have hamount : ((0 : Int) - -(places n : Int)).toNat = places n := by omega
  have hexponent : (0 : Int) - (places n : Int) = -(places n : Int) := by omega
  have hround := round_of_fits (fits_shifted hpos hlt .positive h) 0
  rw [Nat.pow_zero, Nat.mul_one, Int.natCast_zero, Int.sub_zero] at hround
  rw [UnpackedFloat.ofNat, UnpackedFloat.ofInt, UnpackedFloat.normalize, hcompare]
  show UnpackedFloat.round .binary64 .positive n 0 = _
  rw [UnpackedFloat.round, htarget, decreaseExponent]
  dsimp only
  rw [hamount, Nat.shiftLeft_eq, hexponent, hround]

theorem mul_one_of_fits {s : Sign} {m : Nat} {e : Int} {h : 0 < m}
    (hfits : Fits (.finite s m e h)) :
    UnpackedFloat.mul .binary64 (.finite s m e h)
      (.finite .positive (2 ^ 52) (-52) (by decide)) = .finite s m e h := by
  have hsign : s * Sign.positive = s := by cases s <;> rfl
  show roundWithAccuracy .binary64 (s * Sign.positive) (m * 2 ^ 52) (e + -52) .exact = _
  rw [hsign]
  exact round_of_fits hfits 52

theorem unpack_ofNat {n : Nat} (hpos : 0 < n) (hlt : n < 2 ^ 53) (h : 0 < n * 2 ^ places n) :
    (Float.ofNat n).toModel.unpack =
      .finite .positive (n * 2 ^ places n) (-places n) h := by
  have hfits := fits_shifted hpos hlt .positive h
  have hword : (n.toUInt64).toNat = n := by
    show n % 2 ^ 64 = n
    omega
  have hconverted : (n.toUInt64.toFloat).toModel.unpack =
      .finite .positive (n * 2 ^ places n) (-places n) h := by
    show (Float.Model.pack (UnpackedFloat.ofNat .binary64 n.toUInt64.toNat)).unpack = _
    rw [hword, ofNat_unpacked hpos hlt h, unpack_pack hfits]
  have hone : (Float.ofBits 0x3FF0000000000000).toModel.unpack =
      .finite .positive (2 ^ 52) (-52) (by decide) := by rfl
  show (Float.ofScientific n false 0).toModel.unpack = _
  rw [Float.ofScientific, dif_pos ⟨hlt, by decide⟩]
  show (Float.Model.pack (UnpackedFloat.mul .binary64 (n.toUInt64.toFloat).toModel.unpack
    (Float.ofBits 0x3FF0000000000000).toModel.unpack)).unpack = _
  rw [hconverted, hone, mul_one_of_fits hfits, unpack_pack hfits]

theorem unpack_ofInt_zero : (Float.ofInt 0).toModel.unpack = .zero .positive := rfl

theorem unpack_neg {x : Float} {s : Sign} {m : Nat} {e : Int} {h : 0 < m}
    (hx : x.toModel.unpack = .finite s m e h) : (-x).toModel.unpack = .finite (-s) m e h := by
  have hfits : Fits (.finite (-s) m e h) := (hx ▸ fits_unpack x : Fits (.finite s m e h))
  show (Float.Model.pack x.toModel.unpack.neg).unpack = _
  rw [hx]
  exact unpack_pack hfits

theorem unpack_ofInt (s : Sign) {n : Nat} (hpos : 0 < n) (hlt : n < 2 ^ 53)
    (h : 0 < n * 2 ^ places n) : (Float.ofInt (s.apply n)).toModel.unpack =
      .finite s (n * 2 ^ places n) (-places n) h := by
  cases s with
  | positive => exact unpack_ofNat hpos hlt h
  | negative =>
    obtain ⟨m, rfl⟩ := Nat.exists_eq_add_one.mpr hpos
    show (-(Float.ofNat (m + 1))).toModel.unpack = _
    exact unpack_neg (unpack_ofNat hpos hlt h)

/-- A value that is an integer is one by its sign and its mantissa, shifted by the exponent. -/
theorem eq_of_toInt? {s : Sign} {m : Nat} {e n : Int}
    (h : (Exact.finite (s == .negative) m e).toInt? = some n) :
    ∃ k : Nat, n = s.apply k ∧
      (0 ≤ e ∧ k = m * 2 ^ e.toNat ∨ e < 0 ∧ m = k * 2 ^ (-e).toNat) := by
  have happly : ∀ k : Nat, (if (s == .negative) = true then -(k : Int) else k) = s.apply k := by
    intro k
    cases s <;> rfl
  rw [Exact.toInt?] at h
  by_cases hnonneg : 0 ≤ e
  · rw [if_pos hnonneg] at h
    refine ⟨m * 2 ^ e.toNat, ?_, .inl ⟨hnonneg, rfl⟩⟩
    rw [← happly]
    exact (Option.some.inj h).symm
  · rw [if_neg hnonneg] at h
    by_cases hdvd : m % Nat.pow 2 (-e).toNat = 0
    · rw [if_pos hdvd] at h
      refine ⟨m / 2 ^ (-e).toNat, ?_, .inr ⟨by omega, ?_⟩⟩
      · rw [← happly]
        exact (Option.some.inj h).symm
      · exact (Nat.div_mul_cancel (Nat.dvd_of_mod_eq_zero hdvd)).symm
    · rw [if_neg hdvd] at h
      cases h

/-- A whole number of at most 53 bits that is read off a double fills its mantissa. -/
theorem shifted_of_fits {s : Sign} {m : Nat} {e n : Int} {h : 0 < m}
    (hfits : Fits (.finite s m e h))
    (hn : (Exact.finite (s == .negative) m e).toInt? = some n) (hlt : n.natAbs < 2 ^ 53) :
    ∃ k : Nat, 0 < k ∧ k < 2 ^ 53 ∧ n = s.apply k ∧ m = k * 2 ^ places k ∧ e = -places k := by
  obtain ⟨hm, -, -, hnormal⟩ := hfits
  obtain ⟨k, hsign, hvalue⟩ := eq_of_toInt? hn
  have hkn : n.natAbs = k := by
    rw [hsign]
    cases s
    · exact Int.natAbs_neg k
    · rfl
  rw [hkn] at hlt
  have hpos : 0 < k := by
    apply Nat.pos_of_ne_zero
    intro hzero
    have hproduct : m * 2 ^ e.toNat ≠ 0 := Nat.mul_ne_zero (by omega) (by simp)
    rw [hzero, Nat.zero_mul] at hvalue
    omega
  have hbound : m.log2 < 53 := (Nat.log2_lt (by omega)).mpr hm
  have hbound' : k.log2 < 53 := (Nat.log2_lt (by omega)).mpr hlt
  have hfull : e ≠ -1074 → 52 ≤ m.log2 := fun hne =>
    (Nat.le_log2 (by omega)).mpr (hnormal.resolve_right hne)
  have hnonpos : e ≤ 0 := by
    rcases hvalue with ⟨hnonneg, hk⟩ | ⟨hneg, -⟩
    · have hlog : k.log2 = m.log2 + e.toNat := by rw [hk, log2_mul_two_pow h]
      omega
    · exact Int.le_of_lt hneg
  have hshift : m = k * 2 ^ (-e).toNat := by
    rcases hvalue with ⟨hnonneg, hk⟩ | ⟨-, hk⟩
    · obtain rfl : e = 0 := Int.le_antisymm hnonpos hnonneg
      rw [hk]
      simp
    · exact hk
  have hlog : m.log2 = k.log2 + (-e).toNat := by rw [hshift, log2_mul_two_pow hpos]
  have hplaces : (-e).toNat = places k := by
    rw [places]
    omega
  exact ⟨k, hpos, hlt, hsign, hplaces ▸ hshift, by omega⟩

/-- **A whole number of at most 53 bits that is read off a double is turned back into it.** -/
theorem ofInt_beq {x : Float} {n : Int} (h : (Exact.ofFloat x).toInt? = some n)
    (hlt : n.natAbs < 2 ^ 53) : (Float.ofInt n == x) = true := by
  show (Float.ofInt n).toModel.unpack.beq x.toModel.unpack = true
  have hfits := fits_unpack x
  rw [ofFloat_eq] at h
  cases hx : x.toModel.unpack with
  | notANumber | infinity =>
    rw [hx] at h
    cases h
  | zero s =>
    rw [hx] at h
    have hzero : n = 0 := by
      obtain ⟨k, hsign, ⟨hnonneg, -⟩ | ⟨-, hk⟩⟩ := eq_of_toInt? h
      · exact absurd hnonneg (by decide)
      · obtain rfl : k = 0 := (Nat.mul_eq_zero.mp hk.symm).resolve_right (by simp)
        rw [hsign]
        cases s <;> rfl
    rw [hzero, unpack_ofInt_zero]
    rfl
  | finite s m e hm =>
    rw [hx] at h hfits
    obtain ⟨k, hpos, hsmall, rfl, rfl, rfl⟩ := shifted_of_fits hfits h hlt
    rw [unpack_ofInt s hpos hsmall hm]
    exact beq_self_of_ne_notANumber nofun

/-! ### Whole numbers are numbers -/

theorem mul_ne_notANumber {s t : Sign} {m n : Nat} {d e : Int} (hm : 0 < m) (hn : 0 < n) :
    UnpackedFloat.mul .binary64 (.finite s m d hm) (.finite t n e hn) ≠ .notANumber :=
  roundWithAccuracy_ne_notANumber (s * t) (m * n) (d + e) .exact

theorem unpack_ofNat_ne_notANumber (n : Nat) :
    (Float.ofNat n).toModel.unpack ≠ .notANumber := by
  by_cases hzero : n = 0
  · subst hzero
    exact unpack_ofInt_zero ▸ nofun
  by_cases hlt : n < 2 ^ 53
  · have hpos : 0 < n := Nat.pos_of_ne_zero hzero
    rw [unpack_ofNat hpos hlt (Nat.mul_pos hpos (Nat.two_pow_pos _))]
    exact nofun
  · show (Float.ofScientific n false 0).toModel.unpack ≠ _
    rw [Float.ofScientific, dif_neg fun h => hlt h.1]
    apply unpack_pack_ne_notANumber
    show UnpackedFloat.ofScientific .binary64 n 0 ≠ _
    have hexponent : ¬ (0 : Int) < -(2 ^ Float.Model.Format.binary64.exponentBits + n.log2) := by
      show ¬ (0 : Int) < -(2048 + n.log2)
      omega
    rw [UnpackedFloat.ofScientific, dif_neg hzero, if_neg (by decide), if_neg hexponent,
      if_pos (Int.le_refl 0)]
    exact mul_ne_notANumber _ _

theorem unpack_ofInt_ne_notANumber (n : Int) :
    (Float.ofInt n).toModel.unpack ≠ .notANumber := by
  cases n with
  | ofNat n => exact unpack_ofNat_ne_notANumber n
  | negSucc n =>
    apply unpack_pack_ne_notANumber
    have hne := unpack_ofNat_ne_notANumber (n + 1)
    show (Float.ofNat (n + 1)).toModel.unpack.neg ≠ _
    cases hu : (Float.ofNat (n + 1)).toModel.unpack with
    | notANumber => exact absurd hu hne
    | infinity | zero | finite => exact nofun

end EventGraph.Number
