import EventGraph.Proofs.Script.InPlace
import EventGraph.Proofs.Text.Pieces
import Mathlib.Data.List.Forall2

/-!
# Scripts without their failing lines

The lines that a script is told to have failed on might as well have been blank: the script with
those lines left blank comes to the same storage, and no line of it fails.
-/

namespace EventGraph.Script

open Text (isBlank)

/-- A run of lines, the first of them having the given number, from one storage to another. -/
inductive Runs : Nat → List (List Char) → Storage → Storage → List LineFault → Prop
  | nil {number : Nat} {s : Storage} : Runs number [] s s []
  | blank {number : Nat} {line : List Char} {rest : List (List Char)} {s s' : Storage}
      {faults : List LineFault} :
      line.all isBlank = true → Runs (number + 1) rest s s' faults →
      Runs number (line :: rest) s s' faults
  | done {number : Nat} {line : List Char} {rest : List (List Char)} {s s' : Storage}
      {effect : Effect} {faults : List LineFault} :
      ¬ line.all isBlank = true → runAction (String.ofList line) s = .ok effect →
      Runs (number + 1) rest effect.storage s' faults → Runs number (line :: rest) s s' faults
  | failed {number : Nat} {line : List Char} {rest : List (List Char)} {s s' : Storage}
      {fault : Fault} {faults : List LineFault} :
      ¬ line.all isBlank = true → runAction (String.ofList line) s = .error fault →
      Runs (number + 1) rest s s' faults →
      Runs number (line :: rest) s s' (⟨number, fault⟩ :: faults)

/-- The lines of a script, the first of them with number one. -/
def numbered (script : String) : List (List Char × Nat) := (Text.lines script.toList).zipIdx 1

/-- A line is blank where its number is one of those given, and else as it was. -/
def Blanked (numbers : List Nat) (line : List Char × Nat) (line' : List Char) : Prop :=
  if line.2 ∈ numbers then line'.all isBlank = true else line' = line.1

/-- A script with the lines of the given numbers left blank. -/
def Blanks (numbers : List Nat) (script other : String) : Prop :=
  List.Forall₂ (Blanked numbers) (numbered script) (Text.lines other.toList)

variable {number : Nat} {lines lines' : List (List Char)} {s s' : Storage}
  {faults : List LineFault} {numbers : List Nat} {line line' : List Char}

theorem runs_runLines (number : Nat) (lines : List (List Char)) (s : Storage) :
    Runs number lines s (runLines number lines s).1 (runLines number lines s).2 := by
  induction lines generalizing number s with
  | nil => exact .nil
  | cons line rest ih =>
    rw [runLines]
    split
    · rename_i hblank
      exact .blank hblank (ih _ _)
    · rename_i hblank
      split
      · rename_i effect haction
        exact .done hblank haction (ih _ _)
      · rename_i fault haction
        exact .failed hblank haction (ih _ _)

theorem Runs.runLines_eq (h : Runs number lines s s' faults) :
    runLines number lines s = (s', faults) := by
  induction h with
  | nil => rfl
  | blank hblank _ ih => rw [runLines, if_pos hblank, ih]
  | done hblank haction _ ih => simp only [runLines, if_neg hblank, haction, ih]
  | failed hblank haction _ ih => simp only [runLines, if_neg hblank, haction, ih]

/-! ### The lines that are reported -/

theorem Runs.le_line (h : Runs number lines s s' faults) :
    ∀ fault ∈ faults, number ≤ fault.line := by
  induction h with
  | nil => exact List.forall_mem_nil _
  | blank _ _ ih | done _ _ _ ih => exact fun fault hfault => Nat.le_of_succ_le (ih fault hfault)
  | failed _ _ _ ih =>
    exact List.forall_mem_cons.mpr
      ⟨Nat.le_refl _, fun fault hfault => Nat.le_of_succ_le (ih fault hfault)⟩

theorem Runs.pairwise_line (h : Runs number lines s s' faults) :
    (faults.map LineFault.line).Pairwise (· < ·) := by
  induction h with
  | nil => exact .nil
  | blank _ _ ih | done _ _ _ ih => exact ih
  | failed _ _ hrest ih =>
    refine List.pairwise_cons.mpr ⟨fun later hlater => ?_, ih⟩
    obtain ⟨fault, hfault, rfl⟩ := List.mem_map.mp hlater
    exact hrest.le_line fault hfault

theorem Runs.exists_line (h : Runs number lines s s' faults) :
    ∀ fault ∈ faults, ∃ line, (line, fault.line) ∈ lines.zipIdx number ∧
      ¬ line.all isBlank = true := by
  induction h with
  | nil => exact List.forall_mem_nil _
  | blank _ _ ih | done _ _ _ ih =>
    intro fault hfault
    obtain ⟨line, hline, hblank⟩ := ih fault hfault
    exact ⟨line, List.mem_cons_of_mem _ hline, hblank⟩
  | failed hblank _ _ ih =>
    refine List.forall_mem_cons.mpr ⟨⟨_, List.mem_cons_self, hblank⟩, fun fault hfault => ?_⟩
    obtain ⟨line, hline, hblank⟩ := ih fault hfault
    exact ⟨line, List.mem_cons_of_mem _ hline, hblank⟩

/-! ### The lines that are left blank -/

/-- The numbers from some number on are those of faults. -/
def Report (number : Nat) (faults : List LineFault) (numbers : List Nat) : Prop :=
  ∀ k, number ≤ k → (k ∈ numbers ↔ k ∈ faults.map LineFault.line)

theorem Report.succ (h : Report number faults numbers) : Report (number + 1) faults numbers :=
  fun k hk => h k (Nat.le_of_succ_le hk)

theorem Report.succ_of_cons {fault : Fault}
    (h : Report number (⟨number, fault⟩ :: faults) numbers) :
    Report (number + 1) faults numbers := by
  intro k hk
  have hne : k ≠ number := Nat.ne_of_gt hk
  rw [h k (Nat.le_of_succ_le hk), List.map_cons, List.mem_cons, or_iff_right hne]

theorem Report.not_mem (h : Report number faults numbers)
    (hlater : ∀ fault ∈ faults, number + 1 ≤ fault.line) : number ∉ numbers := by
  rw [h number (Nat.le_refl number), List.mem_map]
  rintro ⟨fault, hfault, hline⟩
  have hlt := hlater fault hfault
  omega

theorem Blanked.eq_of_not_mem (h : Blanked numbers (line, number) line') (hn : number ∉ numbers) :
    line' = line := by
  rwa [Blanked, if_neg hn] at h

theorem Blanked.all_isBlank (h : Blanked numbers (line, number) line') (hn : number ∈ numbers) :
    line'.all isBlank = true := by
  rwa [Blanked, if_pos hn] at h

/-- A run over lines that are blank where it has failed, and nowhere else have changed. -/
theorem Runs.of_blanked (h : Runs number lines s s' faults) (hreport : Report number faults numbers)
    (hlines : List.Forall₂ (Blanked numbers) (lines.zipIdx number) lines') :
    Runs number lines' s s' [] := by
  induction h generalizing lines' with
  | nil =>
    cases hlines
    exact .nil
  | blank hblank hrest ih =>
    obtain ⟨line', rest', hline, hrest', rfl⟩ := List.forall₂_cons_left_iff.mp hlines
    obtain rfl := hline.eq_of_not_mem (hreport.not_mem hrest.le_line)
    exact .blank hblank (ih hreport.succ hrest')
  | done hblank haction hrest ih =>
    obtain ⟨line', rest', hline, hrest', rfl⟩ := List.forall₂_cons_left_iff.mp hlines
    obtain rfl := hline.eq_of_not_mem (hreport.not_mem hrest.le_line)
    exact .done hblank haction (ih hreport.succ hrest')
  | @failed number _ _ _ _ _ _ hblank haction hrest ih =>
    obtain ⟨line', rest', hline, hrest', rfl⟩ := List.forall₂_cons_left_iff.mp hlines
    have hmem : number ∈ numbers := (hreport number (Nat.le_refl number)).mpr List.mem_cons_self
    exact .blank (hline.all_isBlank hmem) (ih hreport.succ_of_cons hrest')

/-- Any lines of a script can be left blank. -/
theorem exists_blanks (numbers : List Nat) (script : String) :
    ∃ other, Blanks numbers script other := by
  let blanked := (numbered script).map fun line => if line.2 ∈ numbers then [] else line.1
  have hne : blanked ≠ [] := by
    have hlines : Text.lines script.toList ≠ [] := Text.splitWhere_ne_nil _ _
    simpa [blanked, numbered] using hlines
  have hfeed : ∀ line ∈ blanked, '\n' ∉ line := by
    rw [List.forall_mem_map]
    rintro ⟨line, number⟩ hline
    split
    · exact List.not_mem_nil
    · exact Text.not_mem_of_mem_splitWhere (List.fst_mem_of_mem_zipIdx hline)
  refine ⟨String.ofList (['\n'].intercalate blanked), ?_⟩
  rw [Blanks, String.toList_ofList, Text.lines, Text.splitWhere_intercalate hne hfeed]
  rw [List.forall₂_map_right_iff, List.forall₂_same]
  rintro ⟨line, number⟩ -
  unfold Blanked
  split <;> rfl

/-- **An action that fails in place leaves the storage as it was. So a script reports lines that
are not blank, in order, and with exactly those left blank it comes to the same storage and reports
nothing.** -/
theorem failing_lines_leave_no_trace (script : String) (s : Storage) :
    (∀ line fault s', (InPlace.execute line).run s = .error fault s' ↔
      runAction line s = .error fault ∧ s' = s) ∧
    runInPlace script s = run script s ∧
    ((run script s).2.map LineFault.line).Pairwise (· < ·) ∧
    (∀ fault ∈ (run script s).2, ∃ line, (line, fault.line) ∈ numbered script ∧
      ¬ line.all isBlank = true) ∧
    (∃ other, Blanks ((run script s).2.map LineFault.line) script other) ∧
    ∀ other, Blanks ((run script s).2.map LineFault.line) script other →
      run other s = ((run script s).1, []) := by
  have hrun : Runs 1 (Text.lines script.toList) s (run script s).1 (run script s).2 :=
    runs_runLines 1 _ s
  refine ⟨fun line fault s' => run_execute_eq_error_iff, runInPlace_eq script s,
    hrun.pairwise_line, hrun.exists_line, exists_blanks _ script, fun other hother => ?_⟩
  exact (hrun.of_blanked (fun _ _ => Iff.rfl) hother).runLines_eq

end EventGraph.Script
