import EventGraph.Proofs.Store.Files

/-!
# Saves that fail

Whichever steps of a save fail, the folder it leaves differs at most in the temporary file, which is
no document's, or it is a new folder with nothing else in it. So the same names are listed and
the same documents are loaded as before. One answer may change: in a folder that was not there a
name too long for a file is not found, and in a new one it is refused for its length.
-/

namespace EventGraph

/-- Writing a file stores it under its name. -/
theorem Disk.Folder.write_eq_ok {entries written : Disk.Folder} {limit : Disk.NameLimit}
    {name text : String} (h : entries.write limit name text = .ok written) :
    written = entries.put name (.ofText text) := by
  unfold write at h
  split at h
  · split at h
    · cases h
    · exact (Except.ok.inj h).symm
  · cases h

namespace Store.Directory

variable {d d' : Directory} {name other text : String} {doc : Document Float32}
  {entries entries' : Disk.Folder} {mishaps : Mishaps} {cause : Disk.Refusal}
  {error : StoreError}

/-! ### Temporary files are not listed -/

/-- Only the file of a document is listed, under the name of that document. -/
theorem documentName?_eq_some_iff {file : String} :
    documentName? file = some name ↔ file = fileName name ∧ isName name = true := by
  constructor
  · intro h
    simp only [documentName?] at h
    split at h
    · rename_i hdocument
      rw [Bool.and_eq_true, decide_eq_true_eq] at hdocument
      obtain ⟨hextension, hname⟩ := hdocument
      obtain rfl := Option.some.inj h
      refine ⟨String.toList_injective ?_, hname⟩
      rw [toList_fileName, String.toList_ofList, ← hextension, List.take_append_drop]
    · cases h
  · rintro ⟨rfl, hname⟩
    exact documentName?_fileName hname

theorem documentName?_temporaryName (name : String) :
    documentName? (temporaryName name) = none := by
  rw [Option.eq_none_iff_forall_ne_some]
  intro other hother
  obtain ⟨hfile, hname⟩ := documentName?_eq_some_iff.mp hother
  exact temporaryName_ne_fileName hname hfile

/-- The names that are listed do not depend on a temporary file. -/
theorem filterMap_documentName?_remove (entries : Disk.Folder) (name : String) :
    (Table.keys (entries.remove (temporaryName name))).filterMap documentName? =
      (Table.keys entries).filterMap documentName? := by
  induction entries with
  | nil => rfl
  | cons entry rest ih =>
    rw [Table.keys_cons, List.filterMap_cons, ← ih]
    by_cases htemporary : entry.1 = temporaryName name
    · rw [htemporary, documentName?_temporaryName, Table.remove,
        List.filter_cons_of_neg (by simpa using htemporary)]
      rfl
    · rw [Table.remove, List.filter_cons_of_pos (by simpa using htemporary), Table.keys_cons,
        List.filterMap_cons]
      rfl

/-! ### What a failed save leaves -/

/-- What a save of a document of a name may leave where it fails: a folder that is the same but
for the temporary file, or one that was made for the document. -/
inductive Leaves (d : Directory) (name : String) : Directory → Prop
  | same : Leaves d name d
  | changed {entries entries' : Disk.Folder} : d.root = .ok (.folder entries) →
      entries'.remove (temporaryName name) = entries.remove (temporaryName name) →
      Leaves d name { d with root := .ok (.folder entries') }
  | made {entries : Disk.Folder} : d.root = .error .notFound →
      entries.remove (temporaryName name) = [] →
      Leaves d name { d with root := .ok (.folder entries) }

/-- Where the temporary file is not moved, nothing else has changed. -/
theorem remove_moveIntoPlace {written : Disk.Folder}
    (h : (moveIntoPlace written mishaps name).1 = .error cause) :
    (moveIntoPlace written mishaps name).2.remove (temporaryName name) =
      written.remove (temporaryName name) := by
  unfold moveIntoPlace at h ⊢
  dsimp only at h ⊢
  split at h
  · cases h
  · split
    · rfl
    · exact Table.remove_remove _ _

/-- Where a text is not put in its place, only the temporary file has changed. -/
theorem remove_replaceText {limit : Disk.NameLimit}
    (h : (replaceText entries limit mishaps name text).1 = .error cause) :
    (replaceText entries limit mishaps name text).2.remove (temporaryName name) =
      entries.remove (temporaryName name) := by
  unfold replaceText at h ⊢
  cases hwrite : entries.write limit (temporaryName name) text with
  | error refusal => rfl
  | ok written =>
    simp only [hwrite] at h ⊢
    split at h
    · rename_i hopening
      rw [if_pos hopening]
    · rename_i hopening
      rw [if_neg hopening]
      split at h
      · exact Table.remove_put _ _ _
      · rw [remove_moveIntoPlace h, Disk.Folder.write_eq_ok hwrite, Table.remove_put]

theorem root_of_folder (h : d.folder mishaps = .ok entries) :
    d.root = .ok (.folder entries) ∨ d.root = .error .notFound ∧ entries = [] := by
  unfold folder at h
  split at h
  · obtain rfl := Except.ok.inj h
    exact .inl ‹_›
  · cases h
  · split at h
    · cases h
    · exact .inr ⟨‹_›, (Except.ok.inj h).symm⟩
  · cases h

/-- Whichever step fails, a failed save leaves every document's file as it is. -/
theorem leaves_of_save_error (h : (saveDespite mishaps d doc).1 = .error error) :
    d.Leaves doc.name (saveDespite mishaps d doc).2 := by
  unfold saveDespite at h ⊢
  split at h
  · rename_i hname
    rw [if_pos hname]
    cases hfolder : d.folder mishaps with
    | error cause => exact .same
    | ok entries =>
      rw [hfolder] at h
      obtain ⟨cause, hcause⟩ : ∃ cause,
          (replaceText entries d.limit mishaps doc.name doc.indented).1 = .error cause := by
        simp only at h
        cases hresult : (replaceText entries d.limit mishaps doc.name doc.indented).1 with
        | ok done =>
          rw [hresult] at h
          cases h
        | error cause => exact ⟨cause, rfl⟩
      have hkept := remove_replaceText hcause
      obtain hroot | ⟨hroot, rfl⟩ := root_of_folder hfolder
      · exact .changed hroot hkept
      · exact .made hroot hkept
  · rename_i hname
    rw [if_neg hname]
    exact .same

/-! ### Reading what is left -/

/-- A name is found too long for a file now that there is a folder. No document has it. -/
structure FoundTooLong (d d' : Directory) (name : String) : Prop where
  absent : d.root = .error .notFound
  made : ∃ entries, d'.root = .ok (.folder entries)
  tooLong : d.limit.admits (fileName name) = false
  before : d.load name = .error (.notFound name)
  after : d'.load name = .error (.refused (d.pathOf name) .nameTooLong)

theorem load_congr (hpath : d'.path = d.path)
    (htext : isName name = true → d'.readText name = d.readText name) :
    d'.load name = d.load name := by
  unfold load
  split
  · rename_i hname
    rw [htext hname, pathOf, pathOf, hpath]
  · rfl

/-- The entry of a document is not the one that a failed save may have changed. -/
theorem get?_of_remove_eq (hname : isName other = true)
    (h : entries'.remove (temporaryName name) = entries.remove (temporaryName name)) :
    entries'.get? (fileName other) = entries.get? (fileName other) := by
  have hfile := congrArg (Table.get? · (fileName other)) h
  simp only [Table.get?_remove, if_neg (temporaryName_ne_fileName hname)] at hfile
  exact hfile

namespace Leaves

theorem names_eq (h : d.Leaves name d') : d'.names = d.names := by
  cases h with
  | same => rfl
  | @changed entries entries' hroot hkept =>
    have hlisted := filterMap_documentName?_remove entries name
    rw [← hkept, filterMap_documentName?_remove] at hlisted
    simp only [names, hroot, hlisted]
  | @made entries hroot hkept =>
    have hlisted : (Table.keys entries).filterMap documentName? = [] := by
      rw [← filterMap_documentName?_remove entries name, hkept]
      rfl
    simp only [names, hroot, hlisted, List.mergeSort_nil]

theorem load_cases (h : d.Leaves name d') (other : String) :
    d'.load other = d.load other ∨ FoundTooLong d d' other := by
  cases h with
  | same => exact .inl rfl
  | @changed entries entries' hroot hkept =>
    refine .inl (load_congr rfl fun hname => ?_)
    simp only [readText, hroot, Disk.Folder.read, get?_of_remove_eq hname hkept]
  | @made entries hroot hkept =>
    have hbefore : d.readText other = .error .notFound := by simp only [readText, hroot]
    by_cases hname : isName other = true
    · have hfile : entries.get? (fileName other) = Table.get? [] (fileName other) :=
        get?_of_remove_eq hname hkept
      cases hadmits : d.limit.admits (fileName other) with
      | true =>
        refine .inl (load_congr rfl fun _ => ?_)
        rw [hbefore]
        simp only [readText, Disk.Folder.read, hadmits, if_true, hfile, Table.get?_nil]
      | false =>
        refine .inr ⟨hroot, ⟨entries, rfl⟩, hadmits, ?_, ?_⟩
        · simp only [load, hname, if_true, hbefore]
        · simp only [load, hname, if_true, readText, Disk.Folder.read, hadmits, Bool.false_eq_true,
            if_false]
          rfl
    · exact .inl (load_congr rfl fun h => absurd h hname)

end Leaves

/-- **A failed save changes no document, whichever step fails: the same names are listed, and
every name is loaded as before, but that one which is too long for a file is refused for it where
it was not found, if the save has made the folder.** -/
theorem answers_of_save_error (h : (saveDespite mishaps d doc).1 = .error error) :
    (saveDespite mishaps d doc).2.names = d.names ∧
    (∀ name, (saveDespite mishaps d doc).2.load name = d.load name ∨
      FoundTooLong d (saveDespite mishaps d doc).2 name) ∧
    ∀ name found, (saveDespite mishaps d doc).2.load name = .ok found ↔
      d.load name = .ok found := by
  have hleaves := leaves_of_save_error h
  refine ⟨hleaves.names_eq, hleaves.load_cases, fun name found => ?_⟩
  obtain hsame | hlong := hleaves.load_cases name
  · rw [hsame]
  · rw [hlong.before, hlong.after]
    simp only [reduceCtorEq]

/-- A folder with a document, a file that is no text, a temporary file that was left behind, and a
folder in the way. -/
def quay : Directory where
  path := "stories"
  root := .ok (.folder [("tide.json", .ofText "[]"), ("flood.json", .file ⟨#[0xff]⟩),
    (".tide.json.tmp", .ofText "["), ("ebb.v2.json", .folder [])])

theorem exists_error_of_toOption {r : Except StoreError Unit} (h : r.toOption = none) :
    ∃ error, r = .error error := by
  cases r with
  | ok done => cases h
  | error error => exact ⟨error, rfl⟩

/-- A document over an old one is cut off while it is written, and one is not moved to where a
folder is, nor is its temporary file removed. Both leave the old document to be loaded, and the file
that is no text to be refused. -/
theorem answers_of_save_error_quay :
    let cut := saveDespite { writing := some "\x7b".toUTF8 } quay { name := "tide" }
    let blocked := saveDespite { removing := true } quay { name := "ebb.v2" }
    (∃ error, cut.1 = .error error) ∧ (∃ error, blocked.1 = .error error) ∧
      cut.2.names = quay.names ∧ blocked.2.names = quay.names ∧
      (quay.load "tide").toOption.isSome = true ∧ cut.2.load "tide" = quay.load "tide" ∧
      blocked.2.load "tide" = quay.load "tide" ∧
      quay.load "flood" = .error (.refused (quay.pathOf "flood") .notText) ∧
      blocked.2.load "flood" = quay.load "flood" := by
  intro cut blocked
  obtain ⟨_, hcut⟩ : ∃ error, cut.1 = .error error :=
    exists_error_of_toOption (by decide +kernel)
  obtain ⟨_, hblocked⟩ : ∃ error, blocked.1 = .error error :=
    exists_error_of_toOption (by decide +kernel)
  obtain ⟨hcutNames, hcutLoad, -⟩ := answers_of_save_error hcut
  obtain ⟨hblockedNames, hblockedLoad, -⟩ := answers_of_save_error hblocked
  have hthere {d' : Directory} {name : String} : ¬ FoundTooLong quay d' name :=
    fun hfound => nomatch hfound.absent
  have hread : String.fromUTF8? ⟨#[0xff]⟩ = none := by decide +kernel
  have htext : quay.readText "flood" = .error .notText := by
    show (Disk.Entry.file ⟨#[0xff]⟩).text = _
    rw [Disk.Entry.text, hread]
  have hflood : quay.load "flood" = .error (.refused (quay.pathOf "flood") .notText) := by
    rw [load, if_pos (by decide +kernel), htext]
  exact ⟨⟨_, hcut⟩, ⟨_, hblocked⟩, hcutNames, hblockedNames, by decide +kernel,
    (hcutLoad "tide").resolve_right hthere, (hblockedLoad "tide").resolve_right hthere, hflood,
    (hblockedLoad "flood").resolve_right hthere⟩

/-! ### Names that are too long -/

/-- Where there is no folder, a document whose name is too long is not saved, but the folder is
made, and the name is found too long in it. -/
theorem foundTooLong_save (hroot : d.root = .error .notFound) (hname : isName doc.name = true)
    (hlong : d.limit.admits (fileName doc.name) = false) :
    (d.save doc).1 = .error (.refused (d.pathOf doc.name) .nameTooLong) ∧
      FoundTooLong d (d.save doc).2 doc.name := by
  have htemporary : ¬ d.limit.admits (temporaryName doc.name) = true := fun hadmits =>
    Bool.eq_false_iff.mp hlong (admits_fileName hadmits)
  have hwrite : Disk.Folder.write [] d.limit (temporaryName doc.name) doc.indented =
      .error .nameTooLong := by rw [Disk.Folder.write, if_neg htemporary]
  have hsave : d.save doc = (.error (.refused (d.pathOf doc.name) .nameTooLong),
      { d with root := .ok (.folder []) }) := by
    simp only [save, saveDespite, hname, if_true, folder, hroot, reduceCtorEq, if_false,
      replaceText, hwrite]
    rfl
  rw [hsave]
  refine ⟨rfl, hroot, ⟨[], rfl⟩, hlong, ?_, ?_⟩
  · simp only [load, hname, if_true, readText, hroot]
  · simp only [load, hname, if_true, readText, Disk.Folder.read, hlong, Bool.false_eq_true,
      if_false]
    rfl

theorem isName_replicate {c : Char} (hc : isNameChar c = true) (hdot : c ≠ '.') (n : Nat) :
    isName (String.ofList (List.replicate (n + 1) c)) = true := by
  simp [isName, List.all_replicate, List.head?_replicate, hc, hdot]

/-- A directory that is not there yet. -/
def shore : Directory where
  path := "stories"

/-- A document whose name is a byte too long for a file. -/
def endless : Document Float32 where
  name := String.ofList (List.replicate 251 'a')

/-- The answer for a name is not the same after a save of it has failed. -/
theorem not_same_answer_endless :
    (∃ error, (shore.save endless).1 = .error error) ∧
      (shore.save endless).2.load endless.name ≠ shore.load endless.name := by
  have hname : isName endless.name = true := isName_replicate (by decide +kernel) (by decide) 250
  have hlong : shore.limit.admits (fileName endless.name) = false := by decide +kernel
  obtain ⟨herror, hfound⟩ := foundTooLong_save (d := shore) rfl hname hlong
  refine ⟨⟨_, herror⟩, ?_⟩
  rw [hfound.before, hfound.after]
  simp only [ne_eq, Except.error.injEq, reduceCtorEq, not_false_eq_true]

end Store.Directory

end EventGraph
