import EventGraph.Proofs.Script.Grammar

/-!
# Plain spellings of calls

A call that was read can be written down plainly, with its arguments trimmed and a comma and a
blank between them. What stands in quotes stands in quotes again, so that the same call is read.
-/

namespace EventGraph.Script.Call

open Text (isBlank trim consFirst)

/-- Arguments are cut after a part of a text that ended in quotes, or outside of them. -/
inductive Splits : Bool → List Char → List (List Char) → Prop
  | nil : Splits false [] [[]]
  | cut {cs piece : List Char} {pieces : List (List Char)} :
      Splits false cs (piece :: pieces) → Splits false (',' :: cs) ([] :: piece :: pieces)
  | keep {quoted : Bool} {c : Char} {cs piece : List Char} {pieces : List (List Char)} :
      (quoted = false → c ≠ ',' ∧ c ≠ '(' ∧ c ≠ ')') →
      Splits (quoted != (c == '"')) cs (piece :: pieces) →
      Splits quoted (c :: cs) ((c :: piece) :: pieces)

/-- The plain spelling of a call. -/
def render (call : Call) : String := call.name ++ "(" ++ ", ".intercalate call.args ++ ")"

variable {quoted : Bool} {c : Char} {cs arg piece blanks inner : List Char}
  {pieces args : List (List Char)}

theorem Splits.exists_eq_cons (h : Splits quoted cs pieces) :
    ∃ piece rest, pieces = piece :: rest := by
  cases h <;> exact ⟨_, _, rfl⟩

theorem Splits.splitArgs?_eq (h : Splits quoted cs pieces) :
    splitArgs? quoted cs = some pieces := by
  induction h with
  | nil => rfl
  | cut _ ih => simp [splitArgs?, ih]
  | @keep quoted c cs piece pieces hc _ ih =>
    rw [splitArgs?]
    by_cases hquote : c = '"'
    · subst hquote
      rw [beq_self_eq_true, Bool.bne_true] at ih
      rw [if_pos rfl, ih]
      rfl
    · rw [beq_false_of_ne hquote, Bool.bne_false] at ih
      rw [if_neg hquote, ih]
      cases quoted with
      | true => rfl
      | false =>
        obtain ⟨hcomma, hopen, hclose⟩ := hc rfl
        simp [hcomma, hopen, hclose, consFirst]

theorem splits_of_splitArgs?_eq (h : splitArgs? quoted cs = some pieces) :
    Splits quoted cs pieces := by
  induction cs generalizing quoted pieces with
  | nil =>
    cases quoted with
    | true => cases h
    | false =>
      cases h
      exact .nil
  | cons c cs ih =>
    have hkeep {next : Bool} (hrest : (splitArgs? next cs).map (consFirst c) = some pieces)
        (hnext : next = (quoted != (c == '"')))
        (hc : quoted = false → c ≠ ',' ∧ c ≠ '(' ∧ c ≠ ')') : Splits quoted (c :: cs) pieces := by
      obtain ⟨ps, hps, rfl⟩ := Option.map_eq_some_iff.mp hrest
      have hsplits := ih hps
      obtain ⟨piece, rest, rfl⟩ := hsplits.exists_eq_cons
      exact .keep hc (hnext ▸ hsplits)
    rw [splitArgs?] at h
    by_cases hquote : c = '"'
    · subst hquote
      rw [if_pos rfl] at h
      exact hkeep h (by rw [beq_self_eq_true, Bool.bne_true]) fun _ => by decide
    · rw [if_neg hquote] at h
      have hnext : quoted = (quoted != (c == '"')) := by
        rw [beq_false_of_ne hquote, Bool.bne_false]
      cases quoted with
      | true => exact hkeep h hnext fun hq => absurd hq (by decide)
      | false =>
        by_cases hparen : c = '(' ∨ c = ')'
        · simp [hparen] at h
        · by_cases hcomma : c = ','
          · subst hcomma
            obtain ⟨ps, hps, rfl⟩ := Option.map_eq_some_iff.mp h
            have hsplits := ih hps
            obtain ⟨piece, rest, rfl⟩ := hsplits.exists_eq_cons
            exact .cut hsplits
          · rw [if_neg (by simpa using hparen), if_neg (by simpa using hcomma)] at h
            exact hkeep h hnext fun _ => ⟨hcomma, not_or.mp hparen⟩

/-! ### Arguments that were cut -/

theorem Splits.argument (h : Splits quoted cs (piece :: pieces)) :
    Splits quoted piece [piece] ∧ ∀ arg ∈ pieces, Splits false arg [arg] := by
  generalize hps : piece :: pieces = ps at h
  induction h generalizing piece pieces with
  | nil =>
    cases hps
    exact ⟨.nil, List.forall_mem_nil _⟩
  | cut _ ih =>
    cases hps
    exact ⟨.nil, List.forall_mem_cons.mpr (ih rfl)⟩
  | keep hc _ ih =>
    cases hps
    obtain ⟨hpiece, hpieces⟩ := ih rfl
    exact ⟨.keep hc hpiece, hpieces⟩

theorem Splits.eq_of_singleton (h : Splits quoted cs [arg]) : arg = cs := by
  induction cs generalizing quoted arg with
  | nil =>
    cases h
    rfl
  | cons c cs ih =>
    cases h with
    | keep _ h => rw [ih h]

theorem ne_of_isBlank (h : isBlank c = true) : c ≠ '"' ∧ c ≠ ',' ∧ c ≠ '(' ∧ c ≠ ')' := by
  refine ⟨?_, ?_, ?_, ?_⟩ <;>
    · rintro rfl
      exact absurd h (by decide)

/-- Blanks are one argument and end no quotes. -/
theorem Splits.of_blanks (hblanks : ∀ c ∈ blanks, isBlank c = true)
    (h : Splits quoted blanks pieces) : quoted = false ∧ pieces = [blanks] := by
  induction blanks generalizing quoted pieces with
  | nil =>
    cases h
    exact ⟨rfl, rfl⟩
  | cons c blanks ih =>
    obtain ⟨hblank, hblanks⟩ := List.forall_mem_cons.mp hblanks
    obtain ⟨hquote, hcomma, -⟩ := ne_of_isBlank hblank
    cases h with
    | cut => exact absurd rfl hcomma
    | keep hc h =>
      rw [beq_false_of_ne hquote, Bool.bne_false] at h
      obtain ⟨hquoted, hpieces⟩ := ih hblanks h
      obtain ⟨rfl, rfl⟩ := List.cons.inj hpieces
      exact ⟨hquoted, rfl⟩

theorem Splits.of_append_blanks (hblanks : ∀ c ∈ blanks, isBlank c = true)
    (h : Splits quoted (arg ++ blanks) [arg ++ blanks]) : Splits quoted arg [arg] := by
  induction arg generalizing quoted with
  | nil =>
    obtain ⟨rfl, -⟩ := h.of_blanks hblanks
    exact .nil
  | cons c arg ih =>
    cases h with
    | keep hc h => exact .keep hc (ih h)

theorem Splits.of_blanks_append (hblanks : ∀ c ∈ blanks, isBlank c = true)
    (h : Splits quoted (blanks ++ arg) [blanks ++ arg]) : Splits quoted arg [arg] := by
  induction blanks with
  | nil => exact h
  | cons c blanks ih =>
    cases h with
    | keep hc h =>
      obtain ⟨hblank, hblanks⟩ := List.forall_mem_cons.mp hblanks
      rw [beq_false_of_ne (ne_of_isBlank hblank).1, Bool.bne_false] at h
      exact ih hblanks h

theorem Splits.trim (h : Splits quoted arg [arg]) : Splits quoted (trim arg) [Text.trim arg] := by
  obtain ⟨front, back, harg, hfront, hback⟩ := Text.exists_eq_append_trim arg
  rw [harg] at h
  exact (h.of_blanks_append hfront).of_append_blanks hback

theorem Splits.trim_of_mem (h : Splits false cs pieces) (hmem : piece ∈ pieces) :
    Splits false (Text.trim piece) [Text.trim piece] := by
  obtain ⟨first, rest, rfl⟩ := h.exists_eq_cons
  obtain ⟨hfirst, hrest⟩ := h.argument
  rcases List.mem_cons.mp hmem with rfl | hmem
  · exact hfirst.trim
  · exact (hrest piece hmem).trim

/-! ### Arguments that are joined -/

theorem Splits.append (harg : Splits quoted arg [arg]) (h : Splits false cs (piece :: pieces)) :
    Splits quoted (arg ++ ',' :: cs) (arg :: piece :: pieces) := by
  induction arg generalizing quoted with
  | nil =>
    cases harg
    exact .cut h
  | cons c arg ih =>
    cases harg with
    | keep hc harg => exact .keep hc (ih harg)

theorem splits_intercalate (hne : args ≠ []) (hargs : ∀ arg ∈ args, Splits false arg [arg]) :
    ∃ pieces, Splits false ([',', ' '].intercalate args) pieces ∧
      pieces.map Text.trim = args.map Text.trim := by
  induction args with
  | nil => exact absurd rfl hne
  | cons arg rest ih =>
    obtain ⟨harg, hrest⟩ := List.forall_mem_cons.mp hargs
    cases rest with
    | nil =>
      refine ⟨[arg], ?_, rfl⟩
      rwa [List.intercalate_singleton]
    | cons next rest =>
      obtain ⟨pieces, hpieces, htrim⟩ := ih (List.cons_ne_nil _ _) hrest
      obtain ⟨piece, pieces, rfl⟩ := hpieces.exists_eq_cons
      have hblank : Splits false (' ' :: [',', ' '].intercalate (next :: rest))
          ((' ' :: piece) :: pieces) := .keep (fun _ => by decide) hpieces
      refine ⟨arg :: (' ' :: piece) :: pieces, ?_, ?_⟩
      · rw [List.intercalate_cons_cons, List.append_assoc]
        exact harg.append hblank
      · have hgap : ∀ c ∈ [' '], isBlank c = true := List.forall_mem_singleton.mpr rfl
        have hpiece : Text.trim (' ' :: piece) = Text.trim piece := Text.trim_append_left hgap piece
        calc (arg :: (' ' :: piece) :: pieces).map Text.trim
            = Text.trim arg :: (piece :: pieces).map Text.trim := by simp [hpiece]
          _ = (arg :: next :: rest).map Text.trim := by rw [htrim, ← List.map_cons]

/-! ### Calls that are read again -/

theorem args?_of_splits (hinner : ¬ inner.all isBlank = true) (h : Splits false inner pieces) :
    args? inner = some (pieces.map fun piece => String.ofList (Text.trim piece)) := by
  rw [args?, if_neg hinner, h.splitArgs?_eq]
  rfl

theorem not_blank_of_map_trim_eq {pieces' : List (List Char)} (h : Splits false inner pieces)
    (hinner : ¬ inner.all isBlank = true) (h' : Splits false cs pieces')
    (htrim : pieces'.map Text.trim = pieces.map Text.trim) : ¬ cs.all isBlank = true := by
  intro hblank
  have hcs : ∀ c ∈ cs, isBlank c = true := List.all_eq_true.mp hblank
  obtain ⟨-, rfl⟩ := h'.of_blanks hcs
  rw [List.map_singleton, Text.trim_eq_nil_iff.mpr hcs] at htrim
  obtain ⟨piece, rfl, hpiece⟩ := List.map_eq_singleton_iff.mp htrim.symm
  apply hinner
  rw [← h.eq_of_singleton]
  exact List.all_eq_true.mpr (Text.trim_eq_nil_iff.mp hpiece)

theorem args?_intercalate {args : List String} (h : args? inner = some args) :
    args? ([',', ' '].intercalate (args.map String.toList)) = some args := by
  by_cases hinner : inner.all isBlank = true
  · rw [args?, if_pos hinner] at h
    cases h
    rfl
  rw [args?, if_neg hinner] at h
  obtain ⟨pieces, hpieces, rfl⟩ := Option.map_eq_some_iff.mp h
  have hsplits := splits_of_splitArgs?_eq hpieces
  have hlists : (pieces.map fun piece => String.ofList (Text.trim piece)).map String.toList =
      pieces.map Text.trim := by simp
  obtain ⟨piece, rest, rfl⟩ := hsplits.exists_eq_cons
  have hwhole : ∀ arg ∈ (piece :: rest).map Text.trim, Splits false arg [arg] :=
    List.forall_mem_map.mpr fun piece hpiece => hsplits.trim_of_mem hpiece
  obtain ⟨pieces', hpieces', htrim⟩ := splits_intercalate (by simp) hwhole
  have hsame : pieces'.map Text.trim = (piece :: rest).map Text.trim := by
    rw [htrim, List.map_map]
    congr 1
    funext arg
    exact Text.trim_trim arg
  rw [hlists, args?_of_splits (not_blank_of_map_trim_eq hsplits hinner hpieces' hsame) hpieces']
  have hstrings (ps : List (List Char)) :
      ps.map (fun piece => String.ofList (Text.trim piece)) =
        (ps.map Text.trim).map String.ofList := by simp
  rw [hstrings, hstrings, hsame]

theorem toList_render (call : Call) : call.render.toList =
    call.name.toList ++ '(' :: ([',', ' '].intercalate (call.args.map String.toList) ++ [')']) := by
  simp [render, String.toList_intercalate]

theorem parse_render_of {name : List Char} {args : List String} (htrim : Text.trim name = name)
    (hne : name ≠ []) (hname : name.all isNameChar = true)
    (hargs : args? ([',', ' '].intercalate (args.map String.toList)) = some args) :
    parse (render ⟨String.ofList name, args⟩) = .ok ⟨String.ofList name, args⟩ := by
  have hopen : '(' ∉ name := by
    intro hmem
    exact absurd (List.all_eq_true.mp hname _ hmem) (by decide)
  have htext : Text.trim (render ⟨String.ofList name, args⟩).toList =
      name ++ '(' :: ([',', ' '].intercalate (args.map String.toList) ++ [')']) := by
    rw [toList_render, String.toList_ofList]
    have hhead := List.head?_eq_some_head hne
    have hfirst : isBlank (name.head hne) = false :=
      Text.isBlank_of_head?_trim (by rw [htrim]; exact hhead)
    have hclose : isBlank ')' = false := by decide
    refine Text.trim_eq_self ?_ hfirst ?_ hclose
    · rw [List.head?_append, hhead]
      rfl
    · rw [← List.cons_append, ← List.append_assoc, List.getLast?_concat]
  have hne' : Text.trim name ≠ [] := by rwa [htrim]
  have hname' : (Text.trim name).all isNameChar = true := by rwa [htrim]
  rw [parse_eq_ok_of htext hopen hne' hname' hargs, htrim]

theorem parse_render {source : String} {call : Call} (h : parse source = .ok call) :
    parse call.render = .ok call := by
  obtain ⟨front, inner, -, -, hne, hname, hcall, hargs⟩ := exists_of_parse_eq_ok h
  obtain ⟨name, args⟩ := call
  obtain rfl : name = String.ofList (Text.trim front) := hcall
  exact parse_render_of (Text.trim_trim front) hne hname (args?_intercalate hargs)

/-! ### Arguments that were read -/

/-- A text that is an argument of some call. -/
def IsArgument (arg : String) : Prop := ∃ source call, parse source = .ok call ∧ arg ∈ call.args

theorem IsArgument.splits {arg : String} (h : IsArgument arg) :
    Splits false arg.toList [arg.toList] ∧ Text.trim arg.toList = arg.toList := by
  obtain ⟨source, call, hparse, hmem⟩ := h
  obtain ⟨front, inner, -, -, -, -, -, hargs⟩ := exists_of_parse_eq_ok hparse
  rw [args?] at hargs
  split at hargs
  · rw [← Option.some.inj hargs] at hmem
    cases hmem
  · obtain ⟨pieces, hpieces, hcall⟩ := Option.map_eq_some_iff.mp hargs
    rw [← hcall] at hmem
    obtain ⟨piece, hpiece, rfl⟩ := List.mem_map.mp hmem
    rw [String.toList_ofList]
    exact ⟨(splits_of_splitArgs?_eq hpieces).trim_of_mem hpiece, Text.trim_trim piece⟩

/-- Two arguments can stand together in the plain spelling of a call. -/
theorem args?_pair {a b : String} (ha : IsArgument a) (hb : IsArgument b) :
    args? ([',', ' '].intercalate ([a, b].map String.toList)) = some [a, b] := by
  obtain ⟨hsplits, htrim⟩ := ha.splits
  obtain ⟨hsplits', htrim'⟩ := hb.splits
  have hwhole : ∀ arg ∈ [a, b].map String.toList, Splits false arg [arg] :=
    List.forall_mem_cons.mpr ⟨hsplits, List.forall_mem_singleton.mpr hsplits'⟩
  obtain ⟨pieces, hpieces, hsame⟩ := splits_intercalate (by simp) hwhole
  have hcomma : ¬ ([',', ' '].intercalate ([a, b].map String.toList)).all isBlank = true := by
    intro hblank
    have hmem : ',' ∈ [',', ' '].intercalate ([a, b].map String.toList) := by simp
    exact absurd (List.all_eq_true.mp hblank _ hmem) (by decide)
  rw [args?_of_splits hcomma hpieces]
  have hmap : pieces.map (fun piece => String.ofList (Text.trim piece)) =
      (pieces.map Text.trim).map String.ofList := by simp
  rw [hmap, hsame]
  simp [htrim, htrim']

/-- **The texts of the grammar and no others are read as calls, each as the call the grammar says,
and the plain spelling of a call that was read is read as that call again.** -/
theorem parse_iff_grammar (source : String) (call : Call) :
    (parse source = .ok call ↔ Reads (trim source.toList) call) ∧
      (parse source = .ok call → parse call.render = .ok call) :=
  ⟨parse_eq_ok_iff_reads, parse_render⟩

end EventGraph.Script.Call
