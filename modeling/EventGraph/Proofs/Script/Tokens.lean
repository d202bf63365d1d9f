import EventGraph.Proofs.Text.Pieces
import EventGraph.Script.Substitution
import Mathlib.Data.List.DropRight
import Mathlib.Data.List.Forall2

/-!
# Tokens of a text

Substitution treats the text piece by piece: the piece before the first at sign stays, and each
piece behind one becomes a value and what is left of it, or stays with its at sign. Values are put
in as they are and are not looked at.
-/

namespace EventGraph.Script

/-- The characters of tokens: ASCII letters, digits, underscores and dots. -/
def IsTokenChar (c : Char) : Prop :=
  'A' ≤ c ∧ c ≤ 'Z' ∨ 'a' ≤ c ∧ c ≤ 'z' ∨ '0' ≤ c ∧ c ≤ '9' ∨ c = '_' ∨ c = '.'

/-- A text begins with a token, which is a key and the dots that end it. -/
inductive OpensWith (key : List Char) : List Char → Prop
  | intro {dots rest : List Char} :
      (∀ c ∈ key, IsTokenChar c) → key.getLast? ≠ some '.' → (∀ c ∈ dots, c = '.') →
      (∀ c, rest.head? = some c → ¬ IsTokenChar c) → OpensWith key (key ++ dots ++ rest)

/-- What becomes of a piece and the at sign in front of it. -/
inductive Becomes (lookup : String → Option String) (piece : List Char) : List Char → Prop
  | known {key : List Char} {value : String} :
      OpensWith key piece → key ≠ [] → lookup (String.ofList key) = some value →
      Becomes lookup piece (value.toList ++ piece.drop key.length)
  | unknown {key : List Char} :
      OpensWith key piece → (key ≠ [] → lookup (String.ofList key) = none) →
      Becomes lookup piece ('@' :: piece)

/-- A part of a text in which the tokens with known keys are marked. -/
inductive Part where
  | plain (cs : List Char)
  | token (key : String)

/-- The part with the value of its key, if it is a token. -/
def Part.fill (lookup : String → Option String) : Part → List Char
  | plain cs => cs
  | token key => ((lookup key).getD "").toList

/-! ### Keys -/

section Keys

variable {key piece cs rest : List Char} {c : Char}

theorem isKeyChar_iff : isKeyChar c = true ↔ IsTokenChar c := by
  have hupper : c.isUpper = true ↔ 'A' ≤ c ∧ c ≤ 'Z' := decide_eq_true_iff
  have hlower : c.isLower = true ↔ 'a' ≤ c ∧ c ≤ 'z' := by
    show (decide ('a' ≤ c) && decide (c ≤ 'z')) = true ↔ _
    rw [Bool.and_eq_true, decide_eq_true_iff, decide_eq_true_iff]
  have hdigit : c.isDigit = true ↔ '0' ≤ c ∧ c ≤ '9' := by
    show (decide ('0' ≤ c) && decide (c ≤ '9')) = true ↔ _
    rw [Bool.and_eq_true, decide_eq_true_iff, decide_eq_true_iff]
  show (c.isUpper || c.isLower || c.isDigit || c == '_' || c == '.') = true ↔ _
  simp only [Bool.or_eq_true, hupper, hlower, hdigit, beq_iff_eq, IsTokenChar, or_assoc]

theorem isKeyChar_eq_false_of_not (h : ¬ IsTokenChar c) : isKeyChar c = false := by
  rw [Bool.eq_false_iff]
  exact mt isKeyChar_iff.mp h

theorem not_isTokenChar_at : ¬ IsTokenChar '@' := by
  rw [← isKeyChar_iff]
  decide

theorem leadingKey_eq_rdropWhile (cs : List Char) :
    leadingKey cs = (cs.takeWhile isKeyChar).rdropWhile (· == '.') := rfl

theorem opensWith_leadingKey (cs : List Char) : OpensWith (leadingKey cs) cs := by
  have htoken : leadingKey cs ++ (cs.takeWhile isKeyChar).rtakeWhile (· == '.') =
      cs.takeWhile isKeyChar := by
    rw [leadingKey_eq_rdropWhile, List.rdropWhile_append_rtakeWhile]
  have hsplit : leadingKey cs ++ (cs.takeWhile isKeyChar).rtakeWhile (· == '.') ++
      cs.dropWhile isKeyChar = cs := by
    rw [htoken, List.takeWhile_append_dropWhile]
  have hopens : OpensWith (leadingKey cs) (leadingKey cs ++
      (cs.takeWhile isKeyChar).rtakeWhile (· == '.') ++ cs.dropWhile isKeyChar) := by
    apply OpensWith.intro
    · intro c hc
      have hmem : c ∈ cs.takeWhile isKeyChar := htoken ▸ List.mem_append_left _ hc
      exact isKeyChar_iff.mp (List.mem_takeWhile_imp hmem)
    · intro hlast
      have hnot := List.head?_dropWhile_not (· == '.') (cs.takeWhile isKeyChar).reverse
      rw [leadingKey, List.getLast?_reverse] at hlast
      rw [hlast] at hnot
      cases hnot
    · intro c hc
      have hdot := List.mem_rtakeWhile_imp hc
      exact beq_iff_eq.mp hdot
    · intro c hc hchar
      have hnot := List.head?_dropWhile_not isKeyChar cs
      rw [hc] at hnot
      exact absurd (isKeyChar_iff.mpr hchar) (Bool.eq_false_iff.mp hnot)
  rwa [hsplit] at hopens

theorem OpensWith.isTokenChar (h : OpensWith key cs) : ∀ c ∈ key, IsTokenChar c := by
  cases h with
  | intro hkey _ _ _ => exact hkey

theorem takeWhile_eq_nil (h : ∀ c, cs.head? = some c → ¬ IsTokenChar c) :
    cs.takeWhile isKeyChar = [] := by
  cases cs with
  | nil => rfl
  | cons c cs => rw [List.takeWhile_cons, isKeyChar_eq_false_of_not (h c rfl)]; rfl

/-- A text begins with one key only, which may be empty. -/
theorem OpensWith.eq_leadingKey (h : OpensWith key cs) : key = leadingKey cs := by
  cases h with
  | @intro dots rest hkey hlast hdots hrest =>
    have htoken : (key ++ dots ++ rest).takeWhile isKeyChar = key ++ dots := by
      rw [List.takeWhile_append_of_pos, takeWhile_eq_nil hrest, List.append_nil]
      intro c hc
      rcases List.mem_append.mp hc with hk | hd
      · exact isKeyChar_iff.mpr (hkey c hk)
      · rw [hdots c hd]
        rfl
    have hdrop : (key ++ dots).rdropWhile (· == '.') = key.rdropWhile (· == '.') := by
      rw [List.rdropWhile, List.reverse_append, List.dropWhile_append_of_pos]
      · rfl
      · intro c hc
        rw [hdots c (List.mem_reverse.mp hc)]
        rfl
    have hself : key.rdropWhile (· == '.') = key := by
      rw [List.rdropWhile_eq_self_iff]
      intro hne hdot
      apply hlast
      rw [List.getLast?_eq_some_getLast hne, beq_iff_eq.mp hdot]
    rw [leadingKey_eq_rdropWhile, htoken, hdrop, hself]

/-- What follows behind another at sign does not lengthen a token. -/
theorem OpensWith.append_at (h : OpensWith key piece) (more : List Char) :
    OpensWith key (piece ++ '@' :: more) := by
  cases h with
  | @intro dots rest hkey hlast hdots hrest =>
    rw [List.append_assoc]
    refine .intro hkey hlast hdots ?_
    intro c hc
    cases rest with
    | nil =>
      obtain rfl := Option.some.inj hc
      exact not_isTokenChar_at
    | cons d rest => exact hrest c hc

theorem length_leadingKey_le (cs : List Char) : (leadingKey cs).length ≤ cs.length := by
  have hkey : leadingKey cs <+: cs.takeWhile isKeyChar := List.rdropWhile_prefix _ _
  have htoken : cs.takeWhile isKeyChar <+: cs := List.takeWhile_prefix _
  exact (hkey.trans htoken).length_le

end Keys

/-! ### Pieces -/

section Pieces

variable {lookup : String → Option String} {piece front out : List Char}
  {pieces : List (List Char)} {c : Char}

/-- Pieces with the at signs in front of them. -/
def marked (pieces : List (List Char)) : List Char := pieces.flatMap ('@' :: ·)

/-- A piece with the at sign in front of it, with the value of its key if there is one. -/
def expand (lookup : String → Option String) (piece : List Char) : List Char :=
  match lookupKey? lookup (leadingKey piece) with
  | some value => value.toList ++ piece.drop (leadingKey piece).length
  | none => '@' :: piece

theorem lookupKey?_eq_some_iff {key : List Char} {value : String} :
    lookupKey? lookup key = some value ↔ key ≠ [] ∧ lookup (String.ofList key) = some value := by
  cases key <;> simp [lookupKey?]

theorem lookupKey?_eq_none_iff {key : List Char} :
    lookupKey? lookup key = none ↔ (key ≠ [] → lookup (String.ofList key) = none) := by
  cases key <;> simp [lookupKey?]

theorem becomes_iff : Becomes lookup piece out ↔ out = expand lookup piece := by
  constructor
  · intro h
    cases h with
    | known hopens hne hvalue =>
      obtain rfl := hopens.eq_leadingKey
      rw [expand, lookupKey?_eq_some_iff.mpr ⟨hne, hvalue⟩]
    | unknown hopens hnone =>
      obtain rfl := hopens.eq_leadingKey
      rw [expand, lookupKey?_eq_none_iff.mpr hnone]
  · rintro rfl
    have hopens := opensWith_leadingKey piece
    unfold expand
    split
    · rename_i value hvalue
      obtain ⟨hne, hlookup⟩ := lookupKey?_eq_some_iff.mp hvalue
      exact .known hopens hne hlookup
    · rename_i hnone
      exact .unknown hopens (lookupKey?_eq_none_iff.mp hnone)

theorem leadingKey_append_marked (piece : List Char) (pieces : List (List Char)) :
    leadingKey (piece ++ marked pieces) = leadingKey piece := by
  cases pieces with
  | nil => rw [marked, List.flatMap_nil, List.append_nil]
  | cons next rest =>
    have hopens := (opensWith_leadingKey piece).append_at (next ++ marked rest)
    exact hopens.eq_leadingKey.symm

theorem substituteChars_append (h : '@' ∉ front) (rest : List Char) :
    substituteChars lookup (front ++ rest) = front ++ substituteChars lookup rest := by
  induction front with
  | nil => rfl
  | cons c front ih =>
    have hc : c ≠ '@' := fun heq => h (heq ▸ List.mem_cons_self)
    rw [List.cons_append, substituteChars, if_neg hc, ih (mt (List.mem_cons_of_mem c) h)]
    rfl

/-- A token is replaced by the value of its key, or stays, and the text goes on behind the key. -/
theorem substituteChars_token {key rest : List Char} (h : OpensWith key (key ++ rest)) :
    substituteChars lookup ('@' :: (key ++ rest)) =
      ((lookupKey? lookup key).map String.toList).getD ('@' :: key) ++
        substituteChars lookup rest := by
  have hfree : '@' ∉ key := fun hmem => not_isTokenChar_at (h.isTokenChar _ hmem)
  rw [substituteChars, if_pos rfl, ← h.eq_leadingKey]
  dsimp only
  cases hvalue : lookupKey? lookup key with
  | some value => simp only [List.drop_left, Option.map_some, Option.getD_some]
  | none => simp only [substituteChars_append hfree, Option.map_none, Option.getD_none,
      List.cons_append]

/-- A piece is replaced by itself, whatever the pieces behind it are. -/
theorem substituteChars_marked_cons (h : '@' ∉ piece) (pieces : List (List Char)) :
    substituteChars lookup (marked (piece :: pieces)) =
      expand lookup piece ++ substituteChars lookup (marked pieces) := by
  have hkey := leadingKey_append_marked piece pieces
  have hlength := length_leadingKey_le piece
  show substituteChars lookup ('@' :: (piece ++ marked pieces)) = _
  rw [substituteChars, if_pos rfl, hkey, expand]
  cases hvalue : lookupKey? lookup (leadingKey piece) with
  | some value =>
    have hrest : '@' ∉ piece.drop (leadingKey piece).length := fun hmem =>
      h (List.mem_of_mem_drop hmem)
    simp only [hvalue, List.drop_append_of_le_length hlength, substituteChars_append hrest,
      List.append_assoc]
  | none => simp only [hvalue, substituteChars_append h, List.cons_append]

theorem substituteChars_marked (h : ∀ piece ∈ pieces, '@' ∉ piece) :
    substituteChars lookup (marked pieces) = pieces.flatMap (expand lookup) := by
  induction pieces with
  | nil => rw [marked, List.flatMap_nil, substituteChars]; rfl
  | cons piece rest ih =>
    obtain ⟨hpiece, hrest⟩ := List.forall_mem_cons.mp h
    rw [substituteChars_marked_cons hpiece, ih hrest, List.flatMap_cons]

theorem intercalate_at (front : List Char) (pieces : List (List Char)) :
    ['@'].intercalate (front :: pieces) = front ++ marked pieces := by
  induction pieces generalizing front with
  | nil => rw [List.intercalate_singleton, marked, List.flatMap_nil, List.append_nil]
  | cons piece rest ih =>
    rw [List.intercalate_cons_cons, ih piece, marked, marked, List.flatMap_cons]
    simp only [List.append_assoc, List.cons_append, List.nil_append]

theorem append_marked_of_splitWhere {cs : List Char}
    (hsplit : Text.splitWhere (· == '@') cs = front :: pieces) : front ++ marked pieces = cs := by
  rw [← intercalate_at, ← hsplit, Text.intercalate_splitWhere]

theorem substituteChars_of_splitWhere {cs : List Char}
    (hsplit : Text.splitWhere (· == '@') cs = front :: pieces) :
    substituteChars lookup cs = front ++ pieces.flatMap (expand lookup) := by
  have hfree : ∀ piece ∈ front :: pieces, '@' ∉ piece := by
    rw [← hsplit]
    intro piece hpiece
    exact Text.not_mem_of_mem_splitWhere hpiece
  obtain ⟨hfront, hpieces⟩ := List.forall_mem_cons.mp hfree
  rw [← append_marked_of_splitWhere hsplit, substituteChars_append hfront,
    substituteChars_marked hpieces]

theorem forall₂_becomes_iff {results : List (List Char)} :
    List.Forall₂ (Becomes lookup) pieces results ↔ results = pieces.map (expand lookup) := by
  induction pieces generalizing results with
  | nil => rw [List.forall₂_nil_left_iff, List.map_nil]
  | cons piece rest ih =>
    rw [List.forall₂_cons_left_iff, List.map_cons]
    constructor
    · rintro ⟨result, results', hresult, hresults, rfl⟩
      rw [becomes_iff.mp hresult, ih.mp hresults]
    · rintro rfl
      exact ⟨_, _, becomes_iff.mpr rfl, ih.mpr rfl, rfl⟩

/-- The parts of a piece behind an at sign. -/
def partsOf (lookup : String → Option String) (piece : List Char) : List Part :=
  match lookupKey? lookup (leadingKey piece) with
  | some _ => [.token (String.ofList (leadingKey piece)),
      .plain (piece.drop (leadingKey piece).length)]
  | none => [.plain ('@' :: piece)]

/-- The parts depend on which keys are known, and not on their values. -/
theorem expand_eq_flatMap_fill {values : String → Option String}
    (h : ∀ key, (values key).isSome = (lookup key).isSome) (piece : List Char) :
    expand values piece = (partsOf lookup piece).flatMap (Part.fill values) := by
  have hknown := h (String.ofList (leadingKey piece))
  unfold expand partsOf
  cases hvalue : lookupKey? lookup (leadingKey piece) with
  | some value =>
    obtain ⟨hne, hlookup⟩ := lookupKey?_eq_some_iff.mp hvalue
    rw [hlookup] at hknown
    obtain ⟨other, hother⟩ := Option.isSome_iff_exists.mp hknown
    rw [lookupKey?_eq_some_iff.mpr ⟨hne, hother⟩]
    simp [Part.fill, hother]
  | none =>
    have hnone : lookupKey? values (leadingKey piece) = none := by
      rw [lookupKey?_eq_none_iff]
      intro hne
      rw [lookupKey?_eq_none_iff.mp hvalue hne] at hknown
      exact Option.isNone_iff_eq_none.mp (Option.isSome_eq_false_iff.mp hknown)
    rw [hnone]
    simp [Part.fill]

end Pieces

/-- **A text is substituted piece by piece: what stands before the first at sign stays, and each
piece behind one is replaced once. The places of the values do not depend on what the values are,
and where no key is known the text stays as it is.** -/
theorem substitute_token_by_token (lookup : String → Option String) (text : String) :
    (∀ out, substitute lookup text = out ↔ ∃ front pieces results,
      Text.splitWhere (· == '@') text.toList = front :: pieces ∧
      List.Forall₂ (Becomes lookup) pieces results ∧
      out = String.ofList (front ++ results.flatten)) ∧
    (∃ parts : List Part, ∀ values : String → Option String,
      (∀ key, (values key).isSome = (lookup key).isSome) →
        substitute values text = String.ofList (parts.flatMap (Part.fill values))) ∧
    substitute (fun _ => none) text = text := by
  obtain ⟨front, pieces, hsplit⟩ :=
    List.exists_cons_of_ne_nil (Text.splitWhere_ne_nil (· == '@') text.toList)
  have hresult (values : String → Option String) :
      substitute values text = String.ofList (front ++ pieces.flatMap (expand values)) := by
    rw [substitute, substituteChars_of_splitWhere hsplit]
  refine ⟨?_, ⟨.plain front :: pieces.flatMap (partsOf lookup), ?_⟩, ?_⟩
  · intro out
    rw [hresult lookup, List.flatMap_def]
    constructor
    · rintro rfl
      exact ⟨front, pieces, _, hsplit, forall₂_becomes_iff.mpr rfl, rfl⟩
    · rintro ⟨front', pieces', results, hsplit', hresults, rfl⟩
      obtain ⟨rfl, rfl⟩ := List.cons.inj (hsplit.symm.trans hsplit')
      rw [forall₂_becomes_iff.mp hresults]
  · intro values hvalues
    rw [hresult values, List.flatMap_cons, List.flatMap_assoc]
    congr 2
    apply List.flatMap_congr
    intro piece _
    exact expand_eq_flatMap_fill hvalues piece
  · have hexpand : expand (fun _ => none) = ('@' :: ·) := by
      funext piece
      have hnone : lookupKey? (fun _ => none) (leadingKey piece) = none :=
        lookupKey?_eq_none_iff.mpr fun _ => rfl
      rw [expand, hnone]
    have hjoined : front ++ marked pieces = text.toList := append_marked_of_splitWhere hsplit
    rw [hresult, hexpand]
    exact (congrArg String.ofList hjoined).trans String.ofList_toList

/-- The value is not scanned, the last dot is no part of the key, and an at sign may stay. -/
example : substitute (fun key => if key = "p.name" then some "Ann @p.name" else none)
    "Hi @p.name..@@p.nam" = "Hi Ann @p.name..@@p.nam" := by decide +kernel

end EventGraph.Script
