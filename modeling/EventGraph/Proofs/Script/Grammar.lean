import EventGraph.Proofs.Text.Pieces
import EventGraph.Proofs.Text.Trim
import EventGraph.Script.Call
import Mathlib.Algebra.Group.Nat.Even

/-!
# The grammar of calls

Which texts are calls, and of what name and arguments, said by where quotes, commas and
parentheses stand in the text. These texts and no others are read as calls.
-/

namespace EventGraph.Script.Call

open Text (isBlank trim consFirst splitWhere)

/-- An even number of double quotes stands before a place. -/
def Outside (cs : List Char) (i : Nat) : Prop := Even ((cs.take i).count '"')

instance (cs : List Char) (i : Nat) : Decidable (Outside cs i) :=
  inferInstanceAs (Decidable (Even _))

/-- Every quote is closed, and parentheses stand in quotes only. -/
structure Closed (inner : List Char) : Prop where
  quotes : Even (inner.count '"')
  parentheses : ∀ (i : Nat) (c : Char), inner[i]? = some c → c = '(' ∨ c = ')' → ¬ Outside inner i

/-- The pieces between the commas that stand outside of quotes. -/
def pieces (inner : List Char) : List (List Char) :=
  (splitWhere (fun (c, i) => c == ',' && Outside inner i) inner.zipIdx).map (·.map Prod.fst)

def arguments (inner : List Char) : List String :=
  if inner.all isBlank then [] else (pieces inner).map fun piece => String.ofList (trim piece)

/-- A text is a call: a name, and in parentheses a text that is blank or closed. -/
inductive Reads : List Char → Call → Prop
  | intro {front inner : List Char} :
      '(' ∉ front → trim front ≠ [] → (∀ c ∈ trim front, c.isAlphanum ∨ c = '_') →
      (inner.all isBlank ∨ Closed inner) →
      Reads (front ++ '(' :: (inner ++ [')'])) ⟨String.ofList (trim front), arguments inner⟩

variable {c : Char} {before cs inner : List Char} {ps : List (List Char)} {q : Bool}

/-! ### Arguments -/

/-- Whether a place after some text stands in quotes. -/
def inQuotes (before : List Char) : Bool := !decide (Even (before.count '"'))

/-- What is left of a closed text, once its first part has been read. -/
def ClosedAfter (before cs : List Char) : Prop :=
  Even ((before ++ cs).count '"') ∧
    ∀ (i : Nat) (c : Char), cs[i]? = some c → c = '(' ∨ c = ')' →
      ¬ Outside (before ++ cs) (before.length + i)

/-- The pieces of what is left, once the first part of a text has been read. -/
def piecesAfter (before cs : List Char) : List (List Char) :=
  (splitWhere (fun (c, i) => c == ',' && Outside (before ++ cs) i) (cs.zipIdx before.length)).map
    (·.map Prod.fst)

theorem outside_length (before cs : List Char) :
    Outside (before ++ cs) before.length ↔ inQuotes before = false := by
  rw [Outside, List.take_left, inQuotes]
  simp

theorem inQuotes_concat_quote (before : List Char) :
    inQuotes (before ++ ['"']) = !inQuotes before := by
  rw [inQuotes, inQuotes, List.count_append, List.count_singleton_self]
  simp only [Nat.even_add_one, decide_not]

theorem inQuotes_concat (hc : c ≠ '"') : inQuotes (before ++ [c]) = inQuotes before := by
  simp [inQuotes, hc]

theorem closedAfter_cons : ClosedAfter before (c :: cs) ↔
    (c = '(' ∨ c = ')' → inQuotes before = true) ∧ ClosedAfter (before ++ [c]) cs := by
  have hall : before ++ [c] ++ cs = before ++ c :: cs := by simp
  have hlength (i : Nat) : (before ++ [c]).length + i = before.length + (i + 1) := by
    rw [List.length_append, List.length_singleton, Nat.add_assoc, Nat.add_comm 1]
  simp only [ClosedAfter, hall, hlength]
  constructor
  · rintro ⟨hquotes, hplaces⟩
    refine ⟨fun hc => ?_, hquotes, fun i => hplaces (i + 1)⟩
    have hplace := hplaces 0 c rfl hc
    rw [Nat.add_zero, outside_length] at hplace
    simpa using hplace
  · rintro ⟨hc, hquotes, hplaces⟩
    refine ⟨hquotes, fun i d hd hparen => ?_⟩
    cases i with
    | zero =>
      obtain rfl := Option.some.inj hd
      rw [Nat.add_zero, outside_length, hc hparen]
      simp
    | succ i => exact hplaces i d hd hparen

theorem map_consFirst {α β : Type} (f : α → β) (a : α) (ps : List (List α)) :
    (consFirst a ps).map (·.map f) = consFirst (f a) (ps.map (·.map f)) := by
  cases ps <;> rfl

theorem piecesAfter_cons : piecesAfter before (c :: cs) =
    if c = ',' ∧ inQuotes before = false then [] :: piecesAfter (before ++ [c]) cs
    else consFirst c (piecesAfter (before ++ [c]) cs) := by
  have hall : before ++ [c] ++ cs = before ++ c :: cs := by simp
  have hlength : (before ++ [c]).length = before.length + 1 := by simp
  rw [piecesAfter, piecesAfter, hall, hlength, List.zipIdx_cons, Text.splitWhere_cons]
  simp only [outside_length, Bool.and_eq_true, beq_iff_eq, decide_eq_true_eq]
  split
  · rfl
  · exact map_consFirst Prod.fst _ _

theorem map_splitArgs?_eq_some_iff {f : List (List Char) → List (List Char)}
    (h : ∀ ps, splitArgs? q cs = some ps ↔ ClosedAfter before cs ∧ ps = piecesAfter before cs) :
    (splitArgs? q cs).map f = some ps ↔
      ClosedAfter before cs ∧ ps = f (piecesAfter before cs) := by
  rw [Option.map_eq_some_iff]
  constructor
  · rintro ⟨rest, hrest, rfl⟩
    obtain ⟨hclosed, rfl⟩ := (h rest).mp hrest
    exact ⟨hclosed, rfl⟩
  · rintro ⟨hclosed, rfl⟩
    exact ⟨_, (h _).mpr ⟨hclosed, rfl⟩, rfl⟩

/-- The arguments are cut by going through them once, with the quotes seen so far. -/
theorem splitArgs?_eq_some_iff :
    splitArgs? (inQuotes before) cs = some ps ↔
      ClosedAfter before cs ∧ ps = piecesAfter before cs := by
  induction cs generalizing before ps with
  | nil =>
    have hclosed : ClosedAfter before [] ↔ inQuotes before = false := by
      simp [ClosedAfter, inQuotes]
    have hpieces : piecesAfter before [] = [[]] := rfl
    rw [hclosed, hpieces, splitArgs?]
    cases inQuotes before <;> simp [eq_comm]
  | cons c cs ih =>
    have hrest {f : List (List Char) → List (List Char)} :
        (splitArgs? (inQuotes (before ++ [c])) cs).map f = some ps ↔
          ClosedAfter (before ++ [c]) cs ∧ ps = f (piecesAfter (before ++ [c]) cs) :=
      map_splitArgs?_eq_some_iff fun _ => ih
    rw [closedAfter_cons, piecesAfter_cons, splitArgs?]
    by_cases hquote : c = '"'
    · subst hquote
      rw [if_pos rfl, ← inQuotes_concat_quote, hrest]
      simp
    · rw [if_neg hquote, ← inQuotes_concat hquote]
      cases hq : inQuotes (before ++ [c]) with
      | true =>
        rw [hq] at hrest
        simp [hrest]
      | false =>
        rw [hq] at hrest
        by_cases hparen : c = '(' ∨ c = ')'
        · simp [hparen]
        · by_cases hcomma : c = ','
          · simp [hcomma, hrest]
          · simp [hparen, hcomma, hrest]

theorem splitArgs?_eq_some_iff_closed :
    splitArgs? false inner = some ps ↔ Closed inner ∧ ps = pieces inner := by
  have hclosed : ClosedAfter [] inner ↔ Closed inner := by
    rw [ClosedAfter, List.nil_append, List.length_nil]
    simp only [Nat.zero_add]
    exact ⟨fun ⟨hquotes, hplaces⟩ => ⟨hquotes, hplaces⟩, fun h => ⟨h.quotes, h.parentheses⟩⟩
  rw [← hclosed]
  exact @splitArgs?_eq_some_iff [] inner ps

theorem args?_eq_some_iff {args : List String} : args? inner = some args ↔
    (inner.all isBlank ∨ Closed inner) ∧ args = arguments inner := by
  rw [args?, arguments]
  by_cases hblank : inner.all isBlank = true
  · simp [hblank, eq_comm]
  · rw [if_neg hblank, if_neg hblank, Option.map_eq_some_iff]
    constructor
    · rintro ⟨ps, hps, rfl⟩
      obtain ⟨hclosed, rfl⟩ := splitArgs?_eq_some_iff_closed.mp hps
      exact ⟨.inr hclosed, rfl⟩
    · rintro ⟨hinner, rfl⟩
      exact ⟨_, splitArgs?_eq_some_iff_closed.mpr ⟨hinner.resolve_left hblank, rfl⟩, rfl⟩

/-! ### Calls -/

theorem all_isNameChar_iff : cs.all isNameChar = true ↔ ∀ c ∈ cs, c.isAlphanum ∨ c = '_' := by
  simp [isNameChar]

theorem takeWhile_dropWhile_open {front : List Char} (h : '(' ∉ front) (rest : List Char) :
    (front ++ '(' :: rest).takeWhile (· ≠ '(') = front ∧
      (front ++ '(' :: rest).dropWhile (· ≠ '(') = '(' :: rest := by
  have hfront : ∀ c ∈ front, decide (c ≠ '(') = true := by
    intro c hc
    rw [decide_eq_true_eq]
    rintro rfl
    exact h hc
  constructor
  · rw [List.takeWhile_append_of_pos hfront, List.takeWhile_cons_of_neg (by simp), List.append_nil]
  · rw [List.dropWhile_append_of_pos hfront, List.dropWhile_cons_of_neg (by simp)]

theorem parse_eq_ok_of {source : String} {front inner : List Char} {args : List String}
    (htext : trim source.toList = front ++ '(' :: (inner ++ [')'])) (hopen : '(' ∉ front)
    (hne : trim front ≠ []) (hname : (trim front).all isNameChar = true)
    (hargs : args? inner = some args) :
    parse source = .ok ⟨String.ofList (trim front), args⟩ := by
  obtain ⟨htake, hdrop⟩ := takeWhile_dropWhile_open hopen (inner ++ [')'])
  simp only [parse, htext, htake, hdrop]
  have hlast : (front ++ '(' :: (inner ++ [')'])).getLast? = some ')' :=
    List.getLast?_eq_some_iff.mpr ⟨front ++ '(' :: inner, by simp⟩
  rw [if_neg (by simpa using hne), if_neg (by simpa using hname), if_neg (not_not_intro hlast),
    List.dropLast_concat, hargs]

theorem exists_of_parse_eq_ok {source : String} {call : Call} (h : parse source = .ok call) :
    ∃ front inner, trim source.toList = front ++ '(' :: (inner ++ [')']) ∧ '(' ∉ front ∧
      trim front ≠ [] ∧ (trim front).all isNameChar = true ∧
      call.name = String.ofList (trim front) ∧ args? inner = some call.args := by
  unfold parse at h
  generalize trim source.toList = t at h ⊢
  simp only at h
  have hopen := Text.not_mem_takeWhile_ne '(' t
  rcases Text.dropWhile_ne_cases '(' t with ⟨hdrop, -⟩ | ⟨rest, hdrop, hsplit⟩
  · simp only [hdrop] at h
    cases h
  simp only [hdrop] at h
  split at h
  · cases h
  rename_i hne
  split at h
  · cases h
  rename_i hname
  split at h
  · cases h
  rename_i hlast
  split at h
  · cases h
  rename_i args hargs
  cases h
  -- The last parenthesis is not the first one, since they differ.
  have hrest : rest.getLast? = some ')' := by
    rw [not_not, ← hsplit, List.getLast?_append, List.getLast?_cons] at hlast
    cases hback : rest.getLast? with
    | none => simp [hback] at hlast
    | some d => simpa [hback] using hlast
  obtain ⟨inner, rfl⟩ := List.getLast?_eq_some_iff.mp hrest
  rw [List.dropLast_concat] at hargs
  exact ⟨_, inner, hsplit.symm, hopen, by simpa using hne, by simpa using hname, rfl, hargs⟩

theorem parse_eq_ok_iff_reads {source : String} {call : Call} :
    parse source = .ok call ↔ Reads (trim source.toList) call := by
  constructor
  · intro h
    obtain ⟨front, inner, htext, hopen, hne, hname, hcall, hargs⟩ := exists_of_parse_eq_ok h
    obtain ⟨hinner, hargs⟩ := args?_eq_some_iff.mp hargs
    have hreads := Reads.intro hopen hne (all_isNameChar_iff.mp hname) hinner
    rw [← htext, ← hcall, ← hargs] at hreads
    exact hreads
  · intro h
    generalize htext : trim source.toList = t at h
    obtain ⟨hopen, hne, hname, hinner⟩ := h
    exact parse_eq_ok_of htext hopen hne (all_isNameChar_iff.mpr hname)
      (args?_eq_some_iff.mpr ⟨hinner, rfl⟩)

/-- A quote may open inside an argument, and a last comma is followed by an empty one. -/
example : parse "SET_STR ( title, a\" (b, c)\" , )" =
    .ok ⟨"SET_STR", ["title", "a\" (b, c)\"", ""]⟩ := by decide +kernel

end EventGraph.Script.Call
