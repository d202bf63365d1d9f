import EventGraph.Proofs.Number.Order
import EventGraph.Proofs.Script.Numbers
import EventGraph.Proofs.Script.Spelling

/-!
# Comparisons in scripts

Values are compared as numbers where both are numeric, and by their texts elsewhere. The two ways
are one equivalence, since a value is numeric just when its text is: what is numeric is never equal
to what is not. The order of numbers agrees with it, and it is asked of numbers only.
-/

namespace EventGraph

namespace Json

/-- A number of JSON, or a string that spells a finite one. -/
def Numeric (v : Json) : Prop :=
  v.IsNumber ∨
    ∃ text, v = .string text ∧ (Number.finiteFloat? (Text.trim text.toList)).isSome = true

/-- The text of a number is read as a finite number. -/
def ReadsBack (v : Json) : Prop := v.IsNumber → (Json.string v.display).Numeric

variable {u v w : Json}

theorem Sound.isSome_asNumber?_iff (h : v.Sound) : v.asNumber?.isSome = true ↔ v.Numeric := by
  cases h with
  | int n => exact iff_of_true rfl (.inl (.int n))
  | float hx => exact iff_of_true rfl (.inl (.float hx))
  | string s =>
    constructor
    · intro hread
      exact .inr ⟨s, rfl, hread⟩
    · rintro (hnumber | ⟨text, htext, hread⟩)
      · cases hnumber
      · obtain rfl := Json.string.inj htext
        exact hread
  | null | bool | array | object =>
    refine iff_of_false Bool.false_ne_true ?_
    rintro (hnumber | ⟨text, htext, -⟩)
    · cases hnumber
    · cases htext

theorem finiteFloat?_of_bracket {c : Char} (hc : c = '[' ∨ c = '\x7b') (cs : List Char) :
    Number.finiteFloat? (c :: cs) = none := by
  have hread : Number.Literal.read? (c :: cs) = none := by
    rcases hc with rfl | rfl <;> rfl
  rw [Number.finiteFloat?, hread]

/-- The text of a list or an object is no number, however it goes on. -/
theorem not_numeric_of_bracket {c : Char} (hc : c = '[' ∨ c = '\x7b') (cs : List Char) :
    ¬ (Json.string (String.ofList (c :: cs))).Numeric := by
  have hblank : Text.isBlank c = false := by
    rcases hc with rfl | rfl <;> rfl
  rintro (hnumber | ⟨text, htext, hread⟩)
  · cases hnumber
  · obtain rfl := Json.string.inj htext
    obtain ⟨rest, hrest⟩ := Text.exists_trim_cons hblank cs
    rw [String.toList_ofList, hrest, finiteFloat?_of_bracket hc] at hread
    cases hread

theorem Sound.numeric_iff_display (h : v.Sound) (hv : v.ReadsBack) :
    v.Numeric ↔ (Json.string v.display).Numeric := by
  have hstring (s : String) : (Json.string s).Sound := .string s
  cases h with
  | int n => exact iff_of_true (.inl (.int n)) (hv (.int n))
  | float hx => exact iff_of_true (.inl (.float hx)) (hv (.float hx))
  | string s => exact Iff.rfl
  | null =>
    rw [← Sound.null.isSome_asNumber?_iff, ← (hstring _).isSome_asNumber?_iff]
    decide
  | bool b =>
    rw [← (Sound.bool b).isSome_asNumber?_iff, ← (hstring _).isSome_asNumber?_iff]
    cases b <;> decide
  | array hitems =>
    rw [← (Sound.array hitems).isSome_asNumber?_iff]
    exact iff_of_false Bool.false_ne_true (not_numeric_of_bracket (.inl rfl) _)
  | object hascending hentries =>
    rw [← (Sound.object hascending hentries).isSome_asNumber?_iff]
    exact iff_of_false Bool.false_ne_true (not_numeric_of_bracket (.inr rfl) _)

/-! ### Equal values -/

theorem sameValue_self (h : v.Sound) : v.sameValue v = true := by
  rw [sameValue]
  cases hx : v.asNumber? with
  | none => exact beq_self_eq_true v.display
  | some x => exact Number.beq_self_of_ne_notANumber (h.ne_notANumber hx)

theorem sameValue_comm (u v : Json) : u.sameValue v = v.sameValue u := by
  rw [sameValue, sameValue]
  cases u.asNumber? with
  | none => cases v.asNumber? <;> exact BEq.comm
  | some x => cases v.asNumber? <;> exact BEq.comm

/-- Values are equal as numbers or as texts, and never a number to a mere text. -/
theorem sameValue_iff (hu : u.Sound) (hv : v.Sound) (hu' : u.ReadsBack) (hv' : v.ReadsBack) :
    u.sameValue v = true ↔
      (∃ x y, u.asNumber? = some x ∧ v.asNumber? = some y ∧ (x == y) = true) ∨
        u.asNumber? = none ∧ v.asNumber? = none ∧ u.display = v.display := by
  have hboth : u.display = v.display → (u.asNumber?.isSome = true ↔ v.asNumber?.isSome = true) := by
    intro htext
    rw [hu.isSome_asNumber?_iff, hv.isSome_asNumber?_iff, hu.numeric_iff_display hu',
      hv.numeric_iff_display hv', htext]
  rw [sameValue]
  cases hx : u.asNumber? with
  | none => cases hy : v.asNumber? with
    | none => simp
    | some y =>
      rw [hx, hy] at hboth
      simpa using hboth
  | some x => cases hy : v.asNumber? with
    | none =>
      rw [hx, hy] at hboth
      simpa using hboth
    | some y => simp

theorem sameValue_trans (hu : u.Sound) (hv : v.Sound) (hw : w.Sound) (hu' : u.ReadsBack)
    (hv' : v.ReadsBack) (hw' : w.ReadsBack) (huv : u.sameValue v = true)
    (hvw : v.sameValue w = true) : u.sameValue w = true := by
  rw [sameValue_iff hu hv hu' hv'] at huv
  rw [sameValue_iff hv hw hv' hw'] at hvw
  rw [sameValue_iff hu hw hu' hw']
  rcases huv with ⟨x, y, hx, hy, hxy⟩ | ⟨hx, hy, huv⟩
  · rcases hvw with ⟨y', z, hy', hz, hyz⟩ | ⟨hy', -, -⟩
    · obtain rfl := Option.some.inj (hy.symm.trans hy')
      exact .inl ⟨x, z, hx, hz, BEq.trans hxy hyz⟩
    · rw [hy] at hy'
      cases hy'
  · rcases hvw with ⟨y', z, hy', -, -⟩ | ⟨-, hz, hvw⟩
    · rw [hy] at hy'
      cases hy'
    · exact .inr ⟨hx, hz, huv.trans hvw⟩

end Json

namespace Script

open Float.Model (UnpackedFloat)
open Json (Numeric ReadsBack)

/-- What the plain spelling of a test comes to for two arguments. -/
def verdict (t : Test) (a b : String) (s : Storage) : Except Fault Bool :=
  evalCondition (Call.render ⟨t.name, [a, b]⟩) s

variable {s : Storage} {source a b : String} {t : Test} {x y : Float}

/-! ### Tests of two arguments -/

theorem evalCondition_of_parse {call : Call} (hparse : Call.parse source = .ok call)
    (hname : Test.ofName? call.name = some t) (s : Storage) :
    evalCondition source s = t.eval s call.args := by
  obtain ⟨front, inner, htext, -⟩ := Call.exists_of_parse_eq_ok hparse
  -- A word without a parenthesis is no call.
  have hword {word : String} (hopen : '(' ∉ word.toList) : Text.trimmed source ≠ word := by
    rintro rfl
    rw [Text.trimmed, String.toList_ofList, htext] at hopen
    exact hopen (by simp)
  have hempty : ¬ (Text.trimmed source = "" ∨ Text.trimmed source = "true") :=
    not_or.mpr ⟨hword (by decide), hword (by decide)⟩
  rw [evalCondition, if_neg hempty, if_neg (hword (by decide)), hparse]
  simp only [bind, Except.bind, hname]

theorem ofName?_name (t : Test) : Test.ofName? t.name = some t := by
  cases t with
  | truth expected | equality expected => cases expected <;> rfl
  | comparison c => cases c <;> rfl
  | all | any => rfl

theorem verdict_eq_eval (ha : Call.IsArgument a) (hb : Call.IsArgument b) (t : Test)
    (s : Storage) : verdict t a b s = t.eval s [a, b] := by
  have hname : Text.trim t.name.toList = t.name.toList ∧ t.name.toList ≠ [] ∧
      t.name.toList.all Call.isNameChar = true := by
    cases t with
    | truth expected | equality expected => cases expected <;> decide
    | comparison c => cases c <;> decide
    | all | any => decide
  have hparse := Call.parse_render_of hname.1 hname.2.1 hname.2.2 (Call.args?_pair ha hb)
  rw [String.ofList_toList] at hparse
  exact evalCondition_of_parse hparse (ofName?_name t) s

theorem eval_equality (expected : Bool) (a b : String) (s : Storage) :
    (Test.equality expected).eval s [a, b] =
      .ok ((resolve s a).sameValue (resolve s b) == expected) := rfl

/-- The first of two arguments that stands for no number. -/
def FirstNotNumeric (s : Storage) (a b arg : String) : Prop :=
  ¬ (resolve s arg).Numeric ∧ (arg = a ∨ arg = b ∧ (resolve s a).Numeric)

theorem numberArg_eq (t : Test) (s : Storage) (arg : String) : t.numberArg s arg =
    match (resolve s arg).asNumber? with
    | some x => .ok x
    | none => .error (.notNumber t.name (resolve s arg).display) := rfl

theorem eval_comparison_of_numbers (hx : (resolve s a).asNumber? = some x)
    (hy : (resolve s b).asNumber? = some y) (c : Comparison) :
    (Test.comparison c).eval s [a, b] = .ok (c.holds x y) := by
  rw [Test.eval, numberArg_eq, numberArg_eq, hx, hy]
  rfl

theorem eval_comparison_of_first {s : SoundStorage} {arg : String}
    (h : FirstNotNumeric s a b arg) (c : Comparison) : (Test.comparison c).eval s [a, b] =
      .error (.notNumber (Test.comparison c).name (resolve s arg).display) := by
  have hiff (arg : String) := (sound_resolve s arg).isSome_asNumber?_iff
  have hnone {arg : String} (h : ¬ (resolve s arg).Numeric) : (resolve s arg).asNumber? = none := by
    rwa [← hiff, Bool.not_eq_true, Option.isSome_eq_false_iff, Option.isNone_iff_eq_none] at h
  obtain ⟨hnot, rfl | ⟨rfl, hfirst⟩⟩ := h
  · rw [Test.eval, numberArg_eq, hnone hnot]
    rfl
  · obtain ⟨x, hx⟩ := Option.isSome_iff_exists.mp ((hiff a).mpr hfirst)
    rw [Test.eval, numberArg_eq, numberArg_eq, hx, hnone hnot]
    rfl

/-! ### The order of numbers -/

theorem holds_of_compare {o : Ordering}
    (h : x.toModel.unpack.compare y.toModel.unpack = some o) :
    (x == y) = (o == .eq) ∧ Comparison.less.holds x y = (o == .lt) ∧
      Comparison.greater.holds x y = (o == .gt) ∧ Comparison.greaterEqual.holds x y = o.isGE ∧
      Comparison.lessEqual.holds x y = o.isLE := by
  have hswap : y.toModel.unpack.compare x.toModel.unpack = some o.swap := by
    rw [Number.compare_swap, h]
    rfl
  have hlt {x y : Float} {o : Ordering} (h : x.toModel.unpack.compare y.toModel.unpack = some o) :
      decide (x < y) = (o == .lt) := by
    rw [Bool.eq_iff_iff, decide_eq_true_iff, Number.float_lt_iff, UnpackedFloat.lt, h]
    cases o <;> decide
  have hle {x y : Float} {o : Ordering} (h : x.toModel.unpack.compare y.toModel.unpack = some o) :
      decide (x ≤ y) = o.isLE := by
    rw [Bool.eq_iff_iff, decide_eq_true_iff, Number.float_le_iff, UnpackedFloat.le, h]
    rfl
  refine ⟨?equal, hlt h, (hlt hswap).trans ?greater, (hle hswap).trans ?greaterEqual, hle h⟩
  case equal =>
    show (x.toModel.unpack.compare y.toModel.unpack == some .eq) = _
    rw [h]
    cases o <;> rfl
  all_goals cases o <;> rfl

/-- One of the three holds of two arguments: the first is less, equal or greater. What includes
equality agrees with that. -/
structure Trichotomy (s : Storage) (a b : String) (less equal greater : Bool) : Prop where
  one : [less, equal, greater].count true = 1
  isEqual : verdict (.equality true) a b s = .ok equal
  isLess : verdict (.comparison .less) a b s = .ok less
  isGreater : verdict (.comparison .greater) a b s = .ok greater
  isLessEqual : verdict (.comparison .lessEqual) a b s = .ok (less || equal)
  isGreaterEqual : verdict (.comparison .greaterEqual) a b s = .ok (greater || equal)

theorem exists_trichotomy (s : SoundStorage) (ha : Call.IsArgument a) (hb : Call.IsArgument b)
    (hnumeric : (resolve s a).Numeric ∧ (resolve s b).Numeric) :
    ∃ less equal greater, Trichotomy s a b less equal greater := by
  have hasound := sound_resolve s a
  have hbsound := sound_resolve s b
  obtain ⟨x, hx⟩ := Option.isSome_iff_exists.mp (hasound.isSome_asNumber?_iff.mpr hnumeric.1)
  obtain ⟨y, hy⟩ := Option.isSome_iff_exists.mp (hbsound.isSome_asNumber?_iff.mpr hnumeric.2)
  obtain ⟨o, ho⟩ := Number.exists_compare (hasound.ne_notANumber hx) (hbsound.ne_notANumber hy)
  obtain ⟨hequal, hless, hgreater, hgreaterEqual, hlessEqual⟩ := holds_of_compare ho
  have hsame : (resolve s a).sameValue (resolve s b) = (x == y) := by
    rw [Json.sameValue, hx, hy]
  have hcomparison (c : Comparison) :
      verdict (.comparison c) a b s = .ok (c.holds x y) := by
    rw [verdict_eq_eval ha hb, eval_comparison_of_numbers hx hy]
  refine ⟨o == .lt, o == .eq, o == .gt, ?_⟩
  refine ⟨by cases o <;> rfl, ?equal, ?less, ?greater, ?lessEqual, ?greaterEqual⟩
  case equal => rw [verdict_eq_eval ha hb, eval_equality, hsame, hequal, beq_true]
  case less => rw [hcomparison, hless]
  case greater => rw [hcomparison, hgreater]
  case lessEqual =>
    rw [hcomparison, hlessEqual]
    cases o <;> rfl
  case greaterEqual =>
    rw [hcomparison, hgreaterEqual]
    cases o <;> rfl

theorem exists_firstNotNumeric (h : ¬ ((resolve s a).Numeric ∧ (resolve s b).Numeric)) :
    ∃ arg, FirstNotNumeric s a b arg := by
  by_cases ha : (resolve s a).Numeric
  · exact ⟨b, fun hb => h ⟨ha, hb⟩, .inr ⟨rfl, ha⟩⟩
  · exact ⟨a, ha, .inl rfl⟩

/-- **Equality of arguments is an equivalence, as long as numbers are read back from their texts,
and inequality is its negation. Equal are equal numbers, and equal texts where neither stands for a
number. The four comparisons return for the same arguments, those that both stand for numbers, and
fail together for all others, with the text of the first that stands for none. Where they return,
they compare the numbers, and exactly one of "less", "equal" and "greater" holds. However a test is
spelled, it comes to the same.** -/
theorem comparisons_agree (s : SoundStorage) (ha : Call.IsArgument a) (hb : Call.IsArgument b) :
    verdict (.equality true) a a s = .ok true ∧
    verdict (.equality true) a b s = verdict (.equality true) b a s ∧
    (∀ c, Call.IsArgument c → (∀ arg ∈ [a, b, c], (resolve s arg).ReadsBack) →
      verdict (.equality true) a b s = .ok true → verdict (.equality true) b c s = .ok true →
        verdict (.equality true) a c s = .ok true) ∧
    (∃ equal, verdict (.equality true) a b s = .ok equal ∧
      verdict (.equality false) a b s = .ok (!equal)) ∧
    ((resolve s a).ReadsBack → (resolve s b).ReadsBack →
      (verdict (.equality true) a b s = .ok true ↔
        (∃ x y, (resolve s a).asNumber? = some x ∧ (resolve s b).asNumber? = some y ∧
          (x == y) = true) ∨
        (resolve s a).asNumber? = none ∧ (resolve s b).asNumber? = none ∧
          (resolve s a).display = (resolve s b).display)) ∧
    (∀ x y, (resolve s a).asNumber? = some x → (resolve s b).asNumber? = some y →
      ∀ k, verdict (.comparison k) a b s = .ok (k.holds x y)) ∧
    (∀ k, (∃ holds, verdict (.comparison k) a b s = .ok holds) ↔
      (resolve s a).Numeric ∧ (resolve s b).Numeric) ∧
    ((resolve s a).Numeric ∧ (resolve s b).Numeric →
      ∃ less equal greater, Trichotomy s a b less equal greater) ∧
    (¬ ((resolve s a).Numeric ∧ (resolve s b).Numeric) → ∃ arg, FirstNotNumeric s a b arg ∧
      ∀ k, verdict (.comparison k) a b s =
        .error (.notNumber (Test.comparison k).name (resolve s arg).display)) ∧
    (∀ t source, Call.parse source = .ok ⟨Test.name t, [a, b]⟩ →
      evalCondition source s = verdict t a b s) := by
  have hequality {a b : String} (ha : Call.IsArgument a) (hb : Call.IsArgument b) :
      verdict (.equality true) a b s = .ok ((resolve s a).sameValue (resolve s b)) := by
    rw [verdict_eq_eval ha hb, eval_equality, beq_true]
  have hfail {arg : String} (hfirst : FirstNotNumeric s a b arg) (k : Comparison) :
      verdict (.comparison k) a b s =
        .error (.notNumber (Test.comparison k).name (resolve s arg).display) := by
    rw [verdict_eq_eval ha hb, eval_comparison_of_first hfirst]
  refine ⟨?refl, ?symm, ?trans, ?negation, ?equal, ?numbers, ?returns, exists_trichotomy s ha hb,
    ?fails, ?spelling⟩
  case refl => rw [hequality ha ha, Json.sameValue_self (sound_resolve s a)]
  case symm => rw [hequality ha hb, hequality hb ha, Json.sameValue_comm]
  case trans =>
    intro c hc hread hab hbc
    simp only [List.forall_mem_cons] at hread
    obtain ⟨hreada, hreadb, hreadc, -⟩ := hread
    rw [hequality ha hb] at hab
    rw [hequality hb hc] at hbc
    rw [hequality ha hc, Json.sameValue_trans (sound_resolve s a) (sound_resolve s b)
      (sound_resolve s c) hreada hreadb hreadc (Except.ok.inj hab) (Except.ok.inj hbc)]
  case negation =>
    rw [hequality ha hb, verdict_eq_eval ha hb, eval_equality, beq_false]
    exact ⟨_, rfl, rfl⟩
  case equal =>
    intro hreada hreadb
    rw [hequality ha hb, Except.ok.injEq,
      Json.sameValue_iff (sound_resolve s a) (sound_resolve s b) hreada hreadb]
  case numbers =>
    intro x y hx hy k
    rw [verdict_eq_eval ha hb, eval_comparison_of_numbers hx hy]
  case returns =>
    intro k
    constructor
    · rintro ⟨holds, hholds⟩
      by_contra hnumeric
      obtain ⟨arg, hfirst⟩ := exists_firstNotNumeric hnumeric
      rw [hfail hfirst] at hholds
      cases hholds
    · intro hnumeric
      obtain ⟨less, equal, greater, htri⟩ := exists_trichotomy s ha hb hnumeric
      cases k with
      | greater => exact ⟨_, htri.isGreater⟩
      | greaterEqual => exact ⟨_, htri.isGreaterEqual⟩
      | less => exact ⟨_, htri.isLess⟩
      | lessEqual => exact ⟨_, htri.isLessEqual⟩
  case fails =>
    intro hnumeric
    obtain ⟨arg, hfirst⟩ := exists_firstNotNumeric hnumeric
    exact ⟨arg, hfirst, hfail hfirst⟩
  case spelling =>
    intro t source hparse
    rw [verdict_eq_eval ha hb, evalCondition_of_parse hparse (ofName?_name t)]

/-- Ten coins, once as a number and once as a text. -/
def purse : SoundStorage :=
  (default : SoundStorage).run "SET_NUM(coins, 10)\nSET_STR(label, \" 1e1\")"

/-- The coins are as many as the label says, which is ten. -/
theorem comparisons_agree_purse :
    Call.IsArgument "coins" ∧ Call.IsArgument "label" ∧ Call.IsArgument "10.0" ∧
    (∀ arg ∈ ["coins", "label", "10.0"], (resolve purse arg).ReadsBack) ∧
    verdict (.equality true) "coins" "label" purse = .ok true ∧
    verdict (.equality true) "label" "10.0" purse = .ok true ∧
    verdict (.equality true) "coins" "10.0" purse = .ok true := by
  have hcoins : Call.IsArgument "coins" :=
    ⟨"EQ(coins, label)", ⟨"EQ", ["coins", "label"]⟩, by decide +kernel, by decide⟩
  have hlabel : Call.IsArgument "label" :=
    ⟨"EQ(coins, label)", ⟨"EQ", ["coins", "label"]⟩, by decide +kernel, by decide⟩
  have hten : Call.IsArgument "10.0" :=
    ⟨"EQ(label, 10.0)", ⟨"EQ", ["label", "10.0"]⟩, by decide +kernel, by decide⟩
  have hread : ∀ arg ∈ ["coins", "label", "10.0"], (resolve purse arg).ReadsBack := by
    have hnumber : (Json.int 10).ReadsBack := fun _ => .inr ⟨_, rfl, by decide +kernel⟩
    have hcoinsValue : resolve purse "coins" = .int 10 := rfl
    have hlabelValue : resolve purse "label" = .string " 1e1" := rfl
    have htenValue : resolve purse "10.0" = .int 10 := rfl
    simp only [List.forall_mem_cons, hcoinsValue, hlabelValue, htenValue]
    exact ⟨hnumber, nofun, hnumber, List.forall_mem_nil _⟩
  obtain ⟨-, -, htrans, -⟩ := comparisons_agree purse hcoins hlabel
  exact ⟨hcoins, hlabel, hten, hread, rfl, rfl, htrans "10.0" hten hread rfl rfl⟩

end Script

end EventGraph
