import EventGraph.Proofs.Number.Equality
import EventGraph.Scalar

/-!
# Order of floats

Comparing two floats the other way round gives the opposite answer, or none again where one of
them is not a number. So a float that is at most another is not above it. Numbers are ordered by
their rank; what is not a number stands outside of the order.
-/

namespace EventGraph.Number

open Float.Model (UnpackedFloat)

theorem compare_then_swap (m m' : Nat) (e e' : Int) :
    (compare e' e).then (compare m' m) = ((compare e e').then (compare m m')).swap := by
  have he : compare e' e = (compare e e').swap := Std.OrientedCmp.eq_swap
  have hm : compare m' m = (compare m m').swap := Std.OrientedCmp.eq_swap
  rw [Ordering.swap_then, he, hm]

theorem compare_swap (x y : UnpackedFloat) : y.compare x = (x.compare y).map Ordering.swap := by
  cases x with
  | notANumber => cases y with
    | infinity t | finite t m e hm => cases t <;> rfl
    | notANumber | zero t => rfl
  | infinity s => cases y with
    | infinity t | finite t m e hm => cases s <;> cases t <;> rfl
    | notANumber | zero t => cases s <;> rfl
  | zero s => cases y with
    | infinity t | finite t m e hm => cases t <;> rfl
    | notANumber | zero t => rfl
  | finite s m e hm => cases y with
    | finite t m' e' hm' =>
      cases s <;> cases t
      · show some _ = some _
        rw [compare_then_swap m m' e e']
      · rfl
      · rfl
      · show some _ = some _
        rw [compare_then_swap m m' e e']
    | infinity t => cases s <;> cases t <;> rfl
    | notANumber | zero t => cases s <;> rfl

/-- The rank of a float: its class, and then what tells it from others of the class. What is not a
number has none. -/
def rank? : UnpackedFloat → Option (Int × Int × Int)
  | .notANumber => none
  | .infinity .negative => some (-2, 0, 0)
  | .finite .negative mantissa exponent _ => some (-1, -exponent, -mantissa)
  | .zero _ => some (0, 0, 0)
  | .finite .positive mantissa exponent _ => some (1, exponent, mantissa)
  | .infinity .positive => some (2, 0, 0)

/-- The order of ranks is lexicographic. -/
def AtMost (a b : Int × Int × Int) : Prop :=
  a.1 < b.1 ∨ a.1 = b.1 ∧ (a.2.1 < b.2.1 ∨ a.2.1 = b.2.1 ∧ a.2.2 ≤ b.2.2)

theorem isLE_compare_then {m m' : Nat} {e e' : Int} :
    ((compare e e').then (compare m m')).isLE = true ↔ e < e' ∨ e = e' ∧ m ≤ m' := by
  rw [Ordering.isLE_then_iff_or, Int.compare_eq_lt, Int.compare_eq_eq, Nat.isLE_compare]

theorem le_iff_rank {x y : UnpackedFloat} :
    x.le y = true ↔ ∃ a b, rank? x = some a ∧ rank? y = some b ∧ AtMost a b := by
  rw [UnpackedFloat.le]
  cases x with
  | notANumber =>
    dsimp only [UnpackedFloat.compare, rank?]
    simp
  | infinity s => cases y with
    | infinity t =>
      cases s <;> cases t <;> dsimp only [UnpackedFloat.compare, rank?, AtMost] <;> simp <;> rfl
    | finite t m e hm =>
      cases s <;> cases t <;> dsimp only [UnpackedFloat.compare, rank?, AtMost] <;> simp
    | notANumber | zero t =>
      cases s <;> dsimp only [UnpackedFloat.compare, rank?, AtMost] <;> simp
  | zero s => cases y with
    | infinity t | finite t m e hm =>
      cases t <;> dsimp only [UnpackedFloat.compare, rank?, AtMost] <;> simp
    | notANumber | zero t =>
      dsimp only [UnpackedFloat.compare, rank?, AtMost]
      simp
  | finite s m e hm => cases y with
    | finite t m' e' hm' =>
      cases s <;> cases t <;> dsimp only [UnpackedFloat.compare, rank?, AtMost]
      -- Only floats of one class are compared by exponent and mantissa.
      case negative.negative =>
        rw [← compare_then_swap, Option.any_some, isLE_compare_then]
        simp only [Option.some.injEq, exists_and_left, exists_eq_left', true_and]
        omega
      case positive.positive =>
        rw [Option.any_some, isLE_compare_then]
        simp only [Option.some.injEq, exists_and_left, exists_eq_left', true_and]
        omega
      all_goals simp
    | infinity t =>
      cases s <;> cases t <;> dsimp only [UnpackedFloat.compare, rank?, AtMost] <;> simp
    | notANumber | zero t =>
      cases s <;> dsimp only [UnpackedFloat.compare, rank?, AtMost] <;> simp

theorem le_trans_of_le {x y z : UnpackedFloat} (h : x.le y = true) (h' : y.le z = true) :
    x.le z = true := by
  obtain ⟨a, b, ha, hb, hab⟩ := le_iff_rank.mp h
  obtain ⟨b', c, hb', hc, hbc⟩ := le_iff_rank.mp h'
  obtain rfl := Option.some.inj (hb.symm.trans hb')
  refine le_iff_rank.mpr ⟨a, c, ha, hc, ?_⟩
  unfold AtMost at *
  omega

theorem le_of_beq {x y : UnpackedFloat} (h : x.beq y = true) : x.le y = true := by
  have hcompare : x.compare y = some .eq := beq_iff_eq.mp h
  rw [UnpackedFloat.le, hcompare]
  rfl

theorem exists_rank_of_beq {x : UnpackedFloat} (h : x.beq x = true) : ∃ a, rank? x = some a := by
  obtain ⟨a, -, ha, -⟩ := le_iff_rank.mp (le_of_beq h)
  exact ⟨a, ha⟩

theorem le_or_le_of_beq {x y : UnpackedFloat} (hx : x.beq x = true) (hy : y.beq y = true) :
    x.le y = true ∨ y.le x = true := by
  obtain ⟨a, ha⟩ := exists_rank_of_beq hx
  obtain ⟨b, hb⟩ := exists_rank_of_beq hy
  have htotal : AtMost a b ∨ AtMost b a := by
    unfold AtMost
    omega
  exact htotal.imp (fun hab => le_iff_rank.mpr ⟨a, b, ha, hb, hab⟩)
    fun hba => le_iff_rank.mpr ⟨b, a, hb, ha, hba⟩

theorem lt_iff_le_not_le {x y : UnpackedFloat} :
    x.lt y = true ↔ x.le y = true ∧ ¬ y.le x = true := by
  rw [UnpackedFloat.lt, UnpackedFloat.le, UnpackedFloat.le, compare_swap x y]
  cases x.compare y with
  | none => simp
  | some o => cases o <;> simp

theorem lt_eq_false_of_le {x y : UnpackedFloat} (h : x.le y = true) : y.lt x = false := by
  rw [Bool.eq_false_iff]
  intro hlt
  have hgreater : y.compare x = some .lt := beq_iff_eq.mp hlt
  rw [compare_swap] at hgreater
  obtain ⟨o, ho, hswap⟩ := Option.map_eq_some_iff.mp hgreater
  have hle : (some o).any (·.isLE) = true := ho ▸ h
  rw [Ordering.swap_eq_lt.mp hswap] at hle
  cases hle

theorem beq_of_le_of_le {x y : UnpackedFloat} (h : x.le y = true) (h' : y.le x = true) :
    x.beq y = true := by
  rw [UnpackedFloat.le] at h h'
  rw [compare_swap x y] at h'
  show (x.compare y == some .eq) = true
  cases hcompare : x.compare y with
  | none =>
    rw [hcompare] at h
    cases h
  | some o =>
    rw [hcompare] at h h'
    cases o with
    | eq => rfl
    | lt => cases h'
    | gt => cases h

/-- Two numbers can be compared. -/
theorem exists_compare {x y : UnpackedFloat} (hx : x ≠ .notANumber) (hy : y ≠ .notANumber) :
    ∃ o, x.compare y = some o := by
  cases x with
  | notANumber => exact absurd rfl hx
  | infinity s => cases y with
    | notANumber => exact absurd rfl hy
    | infinity t | zero t => cases s <;> exact ⟨_, rfl⟩
    | finite t m e hm => cases s <;> exact ⟨_, rfl⟩
  | zero s => cases y with
    | notANumber => exact absurd rfl hy
    | infinity t | finite t m e hm => cases t <;> exact ⟨_, rfl⟩
    | zero t => exact ⟨_, rfl⟩
  | finite s m e hm => cases y with
    | notANumber => exact absurd rfl hy
    | infinity t | finite t m' e' hm' => cases s <;> cases t <;> exact ⟨_, rfl⟩
    | zero t => cases s <;> exact ⟨_, rfl⟩

theorem not_lt_of_le {x y : Float32} (h : x ≤ y) : ¬ y < x := by
  have hle : x.toModel.unpack.le y.toModel.unpack = true := of_decide_eq_true h
  intro hlt
  have hgreater : y.toModel.unpack.lt x.toModel.unpack = true := of_decide_eq_true hlt
  rw [lt_eq_false_of_le hle] at hgreater
  cases hgreater

instance instTransLEFloat32 : Trans (LE.le : Float32 → Float32 → Prop) LE.le LE.le where
  trans h h' := decide_eq_true (le_trans_of_le (of_decide_eq_true h) (of_decide_eq_true h'))

theorem float32_le_iff {x y : Float32} : x ≤ y ↔ x.toModel.unpack.le y.toModel.unpack = true :=
  decide_eq_true_iff

theorem float32_lt_iff {x y : Float32} : x < y ↔ x.toModel.unpack.lt y.toModel.unpack = true :=
  decide_eq_true_iff

theorem float_le_iff {x y : Float} : x ≤ y ↔ x.toModel.unpack.le y.toModel.unpack = true :=
  decide_eq_true_iff

theorem float_lt_iff {x y : Float} : x < y ↔ x.toModel.unpack.lt y.toModel.unpack = true :=
  decide_eq_true_iff

instance instLawfulOrderLTFloat32 : Std.LawfulOrderLT Float32 where
  lt_iff x y := by
    rw [float32_lt_iff, float32_le_iff, float32_le_iff, lt_iff_le_not_le]

/-- Of two numbers that are not in order the other way round is. -/
theorem lt_of_not_le {x y : Float32} (hx : Scalar.isNumber x = true)
    (hy : Scalar.isNumber y = true) (h : ¬ x ≤ y) : y < x := by
  rw [float32_le_iff] at h
  have hle : y.toModel.unpack.le x.toModel.unpack = true :=
    (le_or_le_of_beq hx hy).resolve_left h
  exact float32_lt_iff.mpr (lt_iff_le_not_le.mpr ⟨hle, h⟩)

end EventGraph.Number

namespace EventGraph.Scalar

variable {a b low high : Float32}

theorem isNumber_of_le (h : a ≤ b) : isNumber a = true ∧ isNumber b = true := by
  obtain ⟨ra, rb, ha, hb, -⟩ := Number.le_iff_rank.mp (Number.float32_le_iff.mp h)
  constructor
  · refine Number.beq_self_of_ne_notANumber fun hnan => ?_
    rw [hnan] at ha
    cases ha
  · refine Number.beq_self_of_ne_notANumber fun hnan => ?_
    rw [hnan] at hb
    cases hb

theorem le_self_of_isNumber (h : isNumber a = true) : a ≤ a :=
  Number.float32_le_iff.mpr ((Number.le_or_le_of_beq h h).elim id id)

theorem le_of_not_lt (ha : isNumber a = true) (hb : isNumber b = true) (h : ¬ a < b) : b ≤ a :=
  Decidable.byContradiction fun hle => h (Number.lt_of_not_le hb ha hle)

/-- What is raised to a number is a number that is not below it. -/
theorem le_max (hb : isNumber b = true) : b ≤ max a b := by
  have hmax : max a b = if b < a then a else b := by simp [max, hb]
  rw [hmax]
  split
  · rename_i hlt
    exact Std.le_of_lt hlt
  · exact le_self_of_isNumber hb

theorem clamp_within (hbounds : low ≤ high) (h : isNumber (clamp a low high) = true) :
    low ≤ clamp a low high ∧ clamp a low high ≤ high := by
  obtain ⟨hlow, hhigh⟩ := isNumber_of_le hbounds
  rw [clamp] at h ⊢
  by_cases hbelow : a < low
  · rw [if_pos hbelow, if_neg (Number.not_lt_of_le hbounds)]
    exact ⟨le_self_of_isNumber hlow, hbounds⟩
  · rw [if_neg hbelow] at h ⊢
    by_cases habove : high < a
    · rw [if_pos habove]
      exact ⟨hbounds, le_self_of_isNumber hhigh⟩
    · rw [if_neg habove] at h ⊢
      exact ⟨le_of_not_lt h hlow hbelow, le_of_not_lt hhigh h habove⟩

end EventGraph.Scalar
