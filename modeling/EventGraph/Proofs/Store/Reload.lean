import EventGraph.Proofs.Document.Admitted
import EventGraph.Proofs.Store.Files

/-!
# Saving what was loaded

A document that was loaded can be saved under its name. Loading it again gives the same
document if its numbers are written as texts of these numbers. A number that a file holds
beyond the range of singles is read as an infinity, which has no text: such a document is
saved as one that cannot be loaded any more.
-/

namespace EventGraph.Store.Directory

open Document (ReadsBack ofTree? layered)

variable {d : Directory} {name : String} {doc : Document Float32} {entries : Disk.Folder}

/-- All that is in a loaded document can be written, but for its numbers. -/
theorem of_load (h : d.load name = .ok doc) : doc.NoEmptyTarget ∧ doc.stored = doc := by
  obtain ⟨-, text, read, -, hread, hdoc⟩ := exists_read?_of_load h
  have hnodes : doc.nodes = read.nodes := by
    rw [hdoc]
    split <;> rfl
  have hnode : ∀ n ∈ doc.nodes, some "" ∉ n.body.exits ∧ Document.storedNode n = n :=
    fun n hn => Document.of_mem_nodes hread (hnodes ▸ hn)
  exact ⟨fun n hn => (hnode n hn).1, Document.stored_eq_self fun n hn => (hnode n hn).2⟩

/-- Loading what was just saved reads the tree of the document. -/
theorem load_save (hname : isName doc.name = true) (htakes : d.Takes doc.name entries) :
    (d.save doc).2.load doc.name =
      (ofTree? (layered doc).tree).elim (.error (.unreadable doc.name)) .ok := by
  have htext : (d.save doc).2.readText doc.name = .ok doc.indented := by
    rw [save_eq htakes hname]
    simp only [readText, Disk.Folder.read, if_pos (admits_fileName htakes.admits), Table.get?_put,
      if_true, Disk.Entry.text_ofText]
  exact load_of_readText hname htext

/-- **A loaded document can be saved, and it is loaded again as it was just if the texts of its
numbers are read back. With a number that is not finite it is not loaded any more.** -/
theorem load_save_of_load (hload : d.load name = .ok doc) (hname : isName doc.name = true)
    (htakes : d.Takes doc.name entries) :
    (d.save doc).1 = .ok () ∧
      ((d.save doc).2.load doc.name = .ok doc ↔ ∀ x ∈ doc.numbers, ReadsBack x) ∧
      ∀ x ∈ doc.numbers, x.isFinite = false →
        (d.save doc).2.load doc.name = .error (.unreadable doc.name) := by
  obtain ⟨htargets, hstored⟩ := of_load hload
  have hread := Document.ofTree?_eq_stored_iff htargets
  rw [hstored] at hread
  rw [load_save hname htakes, ← hread]
  refine ⟨by rw [save_eq htakes hname], ?_, fun x hx hfinite => ?_⟩
  · cases ofTree? (layered doc).tree <;> simp
  · rw [Document.ofTree?_eq_none hx hfinite htargets]
    rfl

/-! ### Files from elsewhere -/

/-- A directory with one file. -/
def shelf (text : String) : Directory where
  path := "stories"
  root := .ok (.folder [("tide.json", .ofText text)])

theorem takes_shelf (text : String) :
    (shelf text).Takes "tide" [("tide.json", .ofText text)] := by
  have hadmits : Disk.NameLimit.standard.admits (temporaryName "tide") = true := by decide +kernel
  refine takes_of_files rfl ?_ hadmits
  intro entry hentry
  obtain rfl := List.mem_singleton.mp hentry
  exact ⟨text.toUTF8, rfl⟩

theorem exists_load_of_any {P : Document Float32 → Prop} [DecidablePred P]
    (h : (d.load name).toOption.any (fun doc => decide (P doc)) = true) :
    ∃ doc, d.load name = .ok doc ∧ P doc := by
  cases hload : d.load name with
  | error cause =>
    rw [hload] at h
    cases h
  | ok doc =>
    rw [hload] at h
    exact ⟨doc, rfl, of_decide_eq_true h⟩

/-- A document without a name, written as an array, with two nodes of one id, a kind given by
its place, and numbers that are not singles. -/
def sketch : String :=
  "[\"\",[\x7b\"id\":\"a\",\"x\":0.1,\"y\":-1e2,\"kind\":4,\"text\":\"\\u00e9\"\x7d," ++
    "\x7b\"id\":\"a\",\"x\":16777217,\"y\":0,\"kind\":\"exec\",\"next\":null\x7d]]"

theorem load_save_of_load_sketch : ∃ doc, (shelf sketch).load "tide" = .ok doc ∧
    doc.name = "tide" ∧ doc.nodes.length = 2 ∧ ((shelf sketch).save doc).1 = .ok () ∧
      ((shelf sketch).save doc).2.load "tide" = .ok doc := by
  obtain ⟨doc, hload, hname, hnodes, hback⟩ :
      ∃ doc, (shelf sketch).load "tide" = .ok doc ∧ doc.name = "tide" ∧ doc.nodes.length = 2 ∧
        ∀ x ∈ doc.numbers, ReadsBack x := exists_load_of_any (by decide +kernel)
  have hisName : isName doc.name = true := hname ▸ by decide +kernel
  obtain ⟨hsave, hreload, -⟩ := load_save_of_load hload hisName (hname ▸ takes_shelf sketch)
  exact ⟨doc, hload, hname, hnodes, hsave, hname ▸ hreload.mpr hback⟩

/-- A document with a number that is too great for a single. -/
def overfull : String :=
  "\x7b\"nodes\":[\x7b\"id\":\"end\",\"x\":1e39,\"y\":0,\"kind\":\"end\"\x7d]\x7d"

/-- The document is loaded, saved without an error, and then not loaded any more. -/
theorem not_reloaded_overfull : ∃ doc, (shelf overfull).load "tide" = .ok doc ∧
    doc.name = "tide" ∧ ((shelf overfull).save doc).1 = .ok () ∧
      ((shelf overfull).save doc).2.load "tide" = .error (.unreadable "tide") := by
  obtain ⟨doc, hload, hname, x, hx, hfinite⟩ :
      ∃ doc, (shelf overfull).load "tide" = .ok doc ∧ doc.name = "tide" ∧
        ∃ x ∈ doc.numbers, x.isFinite = false := exists_load_of_any (by decide +kernel)
  have hisName : isName doc.name = true := hname ▸ by decide +kernel
  have htakes : (shelf overfull).Takes doc.name _ := hname ▸ takes_shelf overfull
  have hreload := load_save hisName htakes
  rw [Document.ofTree?_eq_none hx hfinite (of_load hload).1, hname] at hreload
  exact ⟨doc, hload, hname, congrArg Prod.fst (save_eq htakes hisName), hreload⟩

end EventGraph.Store.Directory
