import EventGraph.Preview.Launch
import EventGraph.Proofs.Text.Pieces
import EventGraph.Proofs.Text.Trim
import Mathlib.Data.List.Forall2

/-!
# Scripts one after another

Two scripts with a line feed between them run as the one and then the other on what the first has
left, and the lines of the second are counted on from those of the first. So the setup of a
preview, whose entries are joined to one script, fails where its entries would fail one by one.
It makes no difference whether the carriage return before a line feed is part of a line, nor whether
the nothing behind a last line feed is one.
-/

namespace EventGraph

namespace Text

/-- A line without the carriage return at its end. -/
def dropReturn (line : List Char) : List Char :=
  if line.getLast? = some '\r' then line.dropLast else line

/-- The lines of a text as they are ended: by a line feed, with or without a carriage return before
it. Behind the last line feed there is one line more, unless nothing is left. -/
def endedLines (cs : List Char) : List (List Char) :=
  let pieces := lines cs
  pieces.dropLast.map dropReturn ++ pieces.getLast?.toList.filter (· ≠ [])

theorem trim_dropReturn (line : List Char) : trim (dropReturn line) = trim line := by
  unfold dropReturn
  split
  · rename_i hlast
    obtain ⟨front, rfl⟩ := List.getLast?_eq_some_iff.mp hlast
    rw [List.dropLast_concat, trim_concat_of_isBlank (by decide)]
  · rfl

end Text

namespace Script

open Text (isBlank trim lines endedLines)

/-- A fault of a line that comes some number of lines later. -/
def LineFault.after (passed : Nat) (f : LineFault) : LineFault := { f with line := f.line + passed }

/-- The lines of a text: one more than it has line feeds. -/
def lineCount (text : String) : Nat := 1 + text.toList.count '\n'

/-- Runs a script on what others have left, as it runs some number of lines behind the start. -/
def runAfter (passed : Nat) (script : String) (done : Storage × List LineFault) :
    Storage × List LineFault :=
  ((run script done.1).1, done.2 ++ (run script done.1).2.map (·.after passed))

/-- Runs scripts one after another and counts their lines on. -/
def runEach (passed : Nat) : List String → Storage × List LineFault → Storage × List LineFault
  | [], done => done
  | script :: rest, done =>
    runEach (passed + lineCount script) rest (runAfter passed script done)

variable {number : Nat} {line line' : List Char} {ls ls' : List (List Char)} {s : Storage}

/-! ### Lines -/

theorem runAction_congr (h : trim line = trim line') (s : Storage) :
    runAction (String.ofList line) s = runAction (String.ofList line') s := by
  have hparse : Call.parse (String.ofList line) = Call.parse (String.ofList line') := by
    simp only [Call.parse, String.toList_ofList, h]
  rw [runAction, runAction, hparse]

theorem all_isBlank_congr (h : trim line = trim line') : line.all isBlank = line'.all isBlank := by
  rw [Bool.eq_iff_iff, List.all_eq_true, List.all_eq_true, ← Text.trim_eq_nil_iff,
    ← Text.trim_eq_nil_iff, h]

/-- Lines run as their trimmed forms do. -/
theorem runLines_congr (h : List.Forall₂ (fun line line' => trim line = trim line') ls ls')
    (number : Nat) (s : Storage) : runLines number ls s = runLines number ls' s := by
  induction h generalizing number s with
  | nil => rfl
  | cons hline _ ih =>
    rw [runLines, runLines, all_isBlank_congr hline, runAction_congr hline]
    simp only [ih]

theorem runLines_append (number : Nat) (ls ls' : List (List Char)) (s : Storage) :
    runLines number (ls ++ ls') s =
      ((runLines (number + ls.length) ls' (runLines number ls s).1).1,
        (runLines number ls s).2 ++
          (runLines (number + ls.length) ls' (runLines number ls s).1).2) := by
  induction ls generalizing number s with
  | nil => rfl
  | cons line ls ih =>
    have hlength : number + (line :: ls).length = number + 1 + ls.length := by
      rw [List.length_cons]
      omega
    rw [List.cons_append, runLines, runLines, hlength]
    split
    · exact ih (number + 1) s
    · split
      · exact ih (number + 1) _
      · simp only [ih, List.cons_append]

theorem runLines_add (number passed : Nat) (ls : List (List Char)) (s : Storage) :
    runLines (number + passed) ls s =
      ((runLines number ls s).1, (runLines number ls s).2.map (·.after passed)) := by
  induction ls generalizing number s with
  | nil => rfl
  | cons line ls ih =>
    have hnumber : number + passed + 1 = number + 1 + passed := by omega
    rw [runLines, runLines, hnumber]
    split
    · exact ih (number + 1) s
    · split
      · exact ih (number + 1) _
      · simp only [ih, List.map_cons, LineFault.after]

/-- A script runs by its lines as they are ended. -/
theorem runLines_endedLines (script : String) (s : Storage) :
    runLines 1 (endedLines script.toList) s = run script s := by
  have hne : lines script.toList ≠ [] := Text.splitWhere_ne_nil _ _
  obtain ⟨ended, last, hlines⟩ := List.eq_nil_or_concat (lines script.toList) |>.resolve_left hne
  have hended : endedLines script.toList =
      ended.map Text.dropReturn ++ [last].filter (· ≠ []) := by
    simp only [endedLines, hlines, List.concat_eq_append, List.dropLast_concat,
      List.getLast?_concat, Option.toList_some]
  have hmap (number : Nat) (s : Storage) :
      runLines number (ended.map Text.dropReturn) s = runLines number ended s := by
    refine runLines_congr (List.forall₂_map_left_iff.mpr (List.forall₂_same.mpr ?_)) number s
    exact fun line _ => Text.trim_dropReturn line
  have hlast (number : Nat) (s : Storage) :
      runLines number ([last].filter (· ≠ [])) s = runLines number [last] s := by
    by_cases hnil : last = []
    · subst hnil
      rfl
    · simp [hnil]
  rw [run, hlines, hended, List.concat_eq_append, runLines_append, runLines_append, hmap,
    List.length_map, hlast]

/-! ### Scripts -/

theorem length_lines (text : String) : (lines text.toList).length = lineCount text := by
  rw [lines, Text.length_splitWhere]
  rfl

theorem lines_joined (a b : String) :
    lines (a ++ "\n" ++ b).toList = lines a.toList ++ lines b.toList := by
  have htext : (a ++ "\n" ++ b).toList = a.toList ++ '\n' :: b.toList := by simp
  rw [htext]
  exact Text.splitWhere_append (by decide) a.toList b.toList

theorem run_joined (a b : String) (s : Storage) :
    run (a ++ "\n" ++ b) s = runAfter (lineCount a) b (run a s) := by
  have hfirst : runLines 1 (lines a.toList) s = run a s := rfl
  have hlater := runLines_add 1 (lineCount a) (lines b.toList) (run a s).1
  rw [run, lines_joined, runLines_append, length_lines, hfirst, hlater]
  rfl

/-- A script of one line. -/
theorem run_line {line : String} (h : '\n' ∉ line.toList) (s : Storage) :
    run line s = if line.toList.all isBlank then (s, [])
      else match runAction line s with
        | .ok effect => (effect.storage, [])
        | .error fault => (s, [⟨1, fault⟩]) := by
  have hline : lines line.toList = [line.toList] :=
    Text.splitWhere_eq_singleton fun c hc => beq_false_of_ne fun hbreak => h (hbreak ▸ hc)
  rw [run, hline, runLines, String.ofList_toList]
  split
  · rfl
  · cases runAction line s <;> rfl

theorem runAfter_nothing (passed : Nat) (done : Storage × List LineFault) :
    runAfter passed "" done = done := by
  have hrun : run "" done.1 = (done.1, []) := rfl
  rw [runAfter, hrun]
  exact congrArg (Prod.mk done.1) (List.append_nil done.2)

theorem runAfter_joined (passed : Nat) (a b : String) (done : Storage × List LineFault) :
    runAfter passed (a ++ "\n" ++ b) done =
      runAfter (passed + lineCount a) b (runAfter passed a done) := by
  have hafter (f : LineFault) :
      (f.after (lineCount a)).after passed = f.after (passed + lineCount a) := by
    rw [LineFault.after, LineFault.after, LineFault.after, Nat.add_assoc, Nat.add_comm passed]
  simp only [runAfter, run_joined, List.map_append, List.map_map, List.append_assoc]
  simp only [Function.comp_def, hafter]

theorem runAfter_intercalate (passed : Nat) (scripts : List String)
    (done : Storage × List LineFault) :
    runAfter passed ("\n".intercalate scripts) done = runEach passed scripts done := by
  induction scripts generalizing passed done with
  | nil => exact runAfter_nothing passed done
  | cons script rest ih =>
    cases rest with
    | nil => rw [runEach, runEach, String.intercalate_singleton]
    | cons next rest =>
      have hjoin : "\n".intercalate (script :: next :: rest) =
          script ++ "\n" ++ "\n".intercalate (next :: rest) := by
        apply String.toList_inj.mp
        simp [String.toList_intercalate]
      rw [hjoin, runAfter_joined, ih]
      rfl

theorem runAfter_zero (script : String) (s : Storage) :
    runAfter 0 script (s, []) = run script s := by
  have hafter : (run script s).2.map (·.after 0) = (run script s).2 := List.map_id _
  rw [runAfter, hafter]
  rfl

/-- **A script runs by its lines as they are ended. One line does what it does as an action, and
two scripts with a line feed between them run one after the other, the lines of the second counted
on from the first. So the setup of a preview comes to what its entries come to one by one, and fails
with the first of their faults.** -/
theorem run_in_parts (a b : String) (s : Storage) (c : Preview.Config) :
    (∀ script, runLines 1 (endedLines script.toList) s = run script s) ∧
    ('\n' ∉ a.toList → run a s = if a.toList.all isBlank then (s, [])
      else match runAction a s with
        | .ok effect => (effect.storage, [])
        | .error fault => (s, [⟨1, fault⟩])) ∧
    run (a ++ "\n" ++ b) s =
      ((run b (run a s).1).1,
        (run a s).2 ++ (run b (run a s).1).2.map fun f =>
          { f with line := f.line + (1 + a.toList.count '\n') }) ∧
    run c.setupSource s = runEach 0 c.setupScript (s, []) ∧
    (∀ storage, c.setUp = .ok storage ↔ runEach 0 c.setupScript ({}, []) = (storage, [])) ∧
    (∀ fault, c.setUp = .error (.setup fault) ↔
      (runEach 0 c.setupScript ({}, [])).2.head? = some fault) := by
  have hsetup (s : Storage) : run c.setupSource s = runEach 0 c.setupScript (s, []) := by
    rw [← runAfter_zero]
    exact runAfter_intercalate 0 c.setupScript (s, [])
  refine ⟨fun script => runLines_endedLines script s, fun h => run_line h s, run_joined a b s,
    hsetup s, ?_⟩
  rw [Preview.Config.setUp, hsetup]
  obtain ⟨storage, faults⟩ := runEach 0 c.setupScript ({}, [])
  cases faults with
  | nil => simp
  | cons fault rest => simp

/-- The line behind a carriage return, a line feed and a blank line is the third. -/
theorem run_in_parts_greeting :
    '\n' ∉ "SET_NUM(a, 1)\r".toList ∧
    (run ("SET_NUM(a, 1)\r" ++ "\n" ++ "\nGREET()") {}).2 =
      [⟨3, .unknownFunction "GREET"⟩] := by
  have hbreak : '\n' ∉ "SET_NUM(a, 1)\r".toList := by decide
  obtain ⟨-, hline, hjoined, -⟩ := run_in_parts "SET_NUM(a, 1)\r" "\nGREET()" {} {}
  refine ⟨hbreak, ?_⟩
  rw [hjoined, hline hbreak]
  rfl

end Script

end EventGraph
