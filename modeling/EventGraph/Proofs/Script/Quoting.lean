import EventGraph.Proofs.Script.Composition
import EventGraph.Proofs.Script.Spelling

/-!
# Quoted texts in scripts

A text in double quotes is one argument, whatever stands in it but a quote. So the line that stores
it is read as it is spelled, wherever in a script the line stands, and what it has stored is read
again unchanged.
-/

namespace EventGraph.Script

open Text (isBlank endedLines)

namespace Call

variable {cs text rest piece : List Char} {pieces : List (List Char)}

theorem splits_bare (h : ∀ c ∈ cs, c ≠ '"' ∧ c ≠ ',' ∧ c ≠ '(' ∧ c ≠ ')') :
    Splits false cs [cs] := by
  induction cs with
  | nil => exact .nil
  | cons c cs ih =>
    obtain ⟨⟨hquote, hmarks⟩, hcs⟩ := List.forall_mem_cons.mp h
    refine .keep (fun _ => hmarks) ?_
    rw [beq_false_of_ne hquote, Bool.bne_false]
    exact ih hcs

/-- In quotes no mark but a quote means anything. -/
theorem Splits.within_quotes (htext : '"' ∉ text) (h : Splits true rest (piece :: pieces)) :
    Splits true (text ++ rest) ((text ++ piece) :: pieces) := by
  induction text with
  | nil => exact h
  | cons c text ih =>
    rw [List.mem_cons, not_or] at htext
    refine .keep nofun ?_
    rw [beq_false_of_ne (Ne.symm htext.1), Bool.bne_false]
    exact ih htext.2

theorem splits_quoted (htext : '"' ∉ text) :
    Splits false ('"' :: (text ++ ['"'])) ['"' :: (text ++ ['"'])] := by
  have hclose : Splits true ['"'] [['"']] := .keep nofun .nil
  exact .keep (fun _ => by decide) (hclose.within_quotes htext)

theorem args?_single {arg : String} (hne : arg ≠ "")
    (hsplits : Splits false arg.toList [arg.toList])
    (htrim : Text.trim arg.toList = arg.toList) :
    args? ([',', ' '].intercalate ([arg].map String.toList)) = some [arg] := by
  have hinner : ¬ arg.toList.all isBlank = true := by
    intro hblank
    rw [Text.trim_eq_nil_iff.mpr (List.all_eq_true.mp hblank)] at htrim
    exact hne (String.toList_eq_nil_iff.mp htrim.symm)
  rw [List.map_singleton, List.intercalate_singleton, args?_of_splits hinner hsplits]
  simp [htrim]

/-- A text that is read as one argument is the argument of some call. -/
theorem IsArgument.of_splits {arg : String} (hne : arg ≠ "")
    (hsplits : Splits false arg.toList [arg.toList])
    (htrim : Text.trim arg.toList = arg.toList) : IsArgument arg :=
  ⟨_, _, parse_render_of (rfl : Text.trim ['_'] = ['_']) nofun rfl (args?_single hne hsplits htrim),
    List.mem_singleton.mpr rfl⟩

end Call

/-- A text in double quotes. -/
def quoted (text : String) : String := "\"" ++ text ++ "\""

variable {key text : String}

theorem toList_quoted (text : String) :
    (quoted text).toList = '"' :: (text.toList ++ ['"']) := by simp [quoted]

theorem unquote_quoted (text : String) : unquote (quoted text) = text := by
  simp [unquote, toList_quoted, betweenQuotes?]

theorem isArgument_quoted (htext : '"' ∉ text.toList) : Call.IsArgument (quoted text) := by
  have hquote : isBlank '"' = false := by decide
  refine Call.IsArgument.of_splits ?_ ?_ ?_
  · rw [quoted]
    simp
  · rw [toList_quoted]
    exact Call.splits_quoted htext
  · rw [toList_quoted]
    exact Text.trim_eq_self rfl hquote (List.getLast?_concat (l := '"' :: text.toList)) hquote

/-- A key that can stand bare in a call. -/
structure IsBareKey (key : String) : Prop where
  ne_empty : key ≠ ""
  trimmed : Text.trimmed key = key
  no_mark : ∀ c ∈ key.toList, c ≠ '"' ∧ c ≠ ',' ∧ c ≠ '(' ∧ c ≠ ')' ∧ c ≠ '\n'

theorem IsBareKey.splits (h : IsBareKey key) :
    Call.Splits false key.toList [key.toList] ∧ Text.trim key.toList = key.toList := by
  constructor
  · refine Call.splits_bare fun c hc => ?_
    obtain ⟨hquote, hcomma, hopen, hclose, -⟩ := h.no_mark c hc
    exact ⟨hquote, hcomma, hopen, hclose⟩
  · have htrimmed := congrArg String.toList h.trimmed
    rwa [Text.trimmed, String.toList_ofList] at htrimmed

/-! ### The two lines -/

/-- The line that stores a text under a key. -/
def storeLine (key text : String) : String := "SET_STR(" ++ key ++ ", \"" ++ text ++ "\")"

/-- The line that reads what is stored under a key. -/
def readLine (key : String) : String := "GET(" ++ key ++ ")"

theorem storeLine_eq_render (key text : String) :
    storeLine key text = Call.render ⟨String.ofList ['S', 'E', 'T', '_', 'S', 'T', 'R'],
      [key, quoted text]⟩ := by
  apply String.toList_inj.mp
  simp [storeLine, Call.toList_render, quoted]

theorem readLine_eq_render (key : String) :
    readLine key = Call.render ⟨String.ofList ['G', 'E', 'T'], [key]⟩ := by
  apply String.toList_inj.mp
  simp [readLine, Call.toList_render]

theorem runAction_storeLine (hkey : IsBareKey key) (htext : '"' ∉ text.toList) (s : Storage) :
    runAction (storeLine key text) s = .ok ⟨s.set key (.string text), none⟩ := by
  obtain ⟨hsplits, htrim⟩ := hkey.splits
  have hargs := Call.args?_pair (.of_splits hkey.ne_empty hsplits htrim) (isArgument_quoted htext)
  have hname : Text.trim ['S', 'E', 'T', '_', 'S', 'T', 'R'] =
      ['S', 'E', 'T', '_', 'S', 'T', 'R'] := rfl
  have hparse := Call.parse_render_of hname nofun rfl hargs
  have hvalue : Command.setString.newValue s key (quoted text) = .ok (.string text) := by
    show Except.ok (Json.string (unquote (quoted text))) = _
    rw [unquote_quoted]
  have hrun : Command.setString.run s [key, quoted text] =
      .ok ⟨s.set key (.string text), none⟩ := by
    show (if key = "" then _ else _) = _
    rw [if_neg hkey.ne_empty, hvalue]
    rfl
  rw [storeLine_eq_render, runAction, hparse]
  exact hrun

theorem runAction_readLine (hkey : IsBareKey key) (s : Storage) :
    runAction (readLine key) s = .ok ⟨s, some ((s.get? key).getD .null)⟩ := by
  obtain ⟨hsplits, htrim⟩ := hkey.splits
  have hname : Text.trim ['G', 'E', 'T'] = ['G', 'E', 'T'] := rfl
  have hparse := Call.parse_render_of hname nofun rfl
    (Call.args?_single hkey.ne_empty hsplits htrim)
  have hrun : Command.get.run s [key] = .ok ⟨s, some ((s.get? key).getD .null)⟩ := by
    rw [Command.run, if_neg hkey.ne_empty]
  rw [readLine_eq_render, runAction, hparse]
  exact hrun

theorem not_blank_storeLine (key text : String) :
    ¬ (storeLine key text).toList.all isBlank = true := by
  intro hblank
  have hmem : 'S' ∈ (storeLine key text).toList := by simp [storeLine]
  exact absurd (List.all_eq_true.mp hblank _ hmem) (by decide)

/-- Among the lines of a script the line stores the text, and no fault is its own. -/
theorem runLines_storeLine (hkey : IsBareKey key) (htext : '"' ∉ text.toList) (number : Nat)
    (front back : List (List Char)) (s : Storage) :
    runLines number (front ++ (storeLine key text).toList :: back) s =
      let before := runLines number front s
      let after := runLines (number + front.length + 1) back (before.1.set key (.string text))
      (after.1, before.2 ++ after.2) := by
  rw [runLines_append, runLines, if_neg (not_blank_storeLine key text), String.ofList_toList,
    runAction_storeLine hkey htext]

/-- **A text without a quote or line feed that is stored in quotes under a bare key is stored as it
stands between the quotes, by the line alone and by the line among others, and the line that reads
the key reads it back.** -/
theorem quoted_text_unchanged (hkey : IsBareKey key) (htext : '"' ∉ text.toList)
    (hline : '\n' ∉ text.toList) (s : Storage) :
    runAction (storeLine key text) s = .ok ⟨s.set key (.string text), none⟩ ∧
    run (storeLine key text) s = (s.set key (.string text), []) ∧
    (∀ script front back, endedLines script.toList = front ++ (storeLine key text).toList :: back →
      run script s =
        let before := runLines 1 front s
        let after := runLines (front.length + 2) back (before.1.set key (.string text))
        (after.1, before.2 ++ after.2)) ∧
    (s.set key (.string text)).get? key = some (.string text) ∧
    runAction (readLine key) (s.set key (.string text)) =
      .ok ⟨s.set key (.string text), some (.string text)⟩ := by
  have hstored := runAction_storeLine hkey htext s
  have hget := s.get?_set_self key (.string text)
  refine ⟨hstored, ?_, ?_, hget, ?_⟩
  · have hbreak : '\n' ∉ (storeLine key text).toList := by
      have hkey : '\n' ∉ key.toList := fun hmem => (hkey.no_mark _ hmem).2.2.2.2 rfl
      simp [storeLine, hkey, hline]
    rw [run_line hbreak, if_neg (not_blank_storeLine key text), hstored]
  · intro script front back hlines
    have hnumber : 1 + front.length + 1 = front.length + 2 := by omega
    rw [← runLines_endedLines, hlines, runLines_storeLine hkey htext, hnumber]
  · rw [runAction_readLine hkey, hget]
    rfl

/-- Blanks, marks and a carriage return in the quotes are part of the text, also in a script whose
first line fails and ends with a carriage return. -/
theorem quoted_text_unchanged_letter :
    IsBareKey "letter.to Ann" ∧ '"' ∉ " Yes, (but)\r@me ".toList ∧
    '\n' ∉ " Yes, (but)\r@me ".toList ∧
    run ("GREET()\r\n" ++ storeLine "letter.to Ann" " Yes, (but)\r@me ") {} =
      (({} : Storage).set "letter.to Ann" (.string " Yes, (but)\r@me "),
        [⟨1, .unknownFunction "GREET"⟩]) := by
  have hkey : IsBareKey "letter.to Ann" := ⟨by decide, by decide, by simp⟩
  have htext : '"' ∉ " Yes, (but)\r@me ".toList := by decide
  have hline : '\n' ∉ " Yes, (but)\r@me ".toList := by decide
  obtain ⟨-, -, hscript, -⟩ := quoted_text_unchanged hkey htext hline {}
  exact ⟨hkey, htext, hline, hscript _ ["GREET()".toList] [] (by decide)⟩

end EventGraph.Script
