import EventGraph.Proofs.Document.RoundTrip
import EventGraph.Store.Directory

/-!
# The files of a directory store

Names of documents and names of their files stand for each other, and no document has the name
of a temporary file. Where nothing stands in its way, saving puts the text of the document in
its file and leaves no temporary file behind.
-/

namespace EventGraph.Store

theorem isName_ne_empty {name : String} (h : isName name = true) : name ≠ "" := by
  rintro rfl
  exact absurd h (by decide)

theorem head?_of_isName {name : String} (h : isName name = true) :
    name.toList.head? ≠ some '.' := by
  simp only [isName, Bool.and_eq_true, bne_iff_ne] at h
  exact h.1.2

namespace Directory

variable {d : Directory} {name other text : String} {entries : Disk.Folder}

/-! ### Names of files -/

theorem toList_fileName (name : String) :
    (fileName name).toList = name.toList ++ extension.toList := String.toList_append

theorem fileName_inj {a b : String} : fileName a = fileName b ↔ a = b := by
  constructor
  · intro h
    have hlist := congrArg String.toList h
    rw [toList_fileName, toList_fileName] at hlist
    exact String.toList_injective (List.append_cancel_right hlist)
  · exact congrArg fileName

/-- The file of a document is listed under the name of that document. -/
theorem documentName?_fileName (h : isName name = true) :
    documentName? (fileName name) = some name := by
  have hlength : (name.toList ++ extension.toList).length - extension.length =
      name.toList.length := by
    rw [List.length_append, String.length_toList (s := extension), Nat.add_sub_cancel]
  simp only [documentName?, toList_fileName, hlength, List.drop_left, List.take_left,
    String.ofList_toList, h, decide_true, Bool.and_self, if_true]

/-- A temporary file starts with a dot, which no document's name does. -/
theorem temporaryName_ne_fileName (h : isName other = true) :
    temporaryName name ≠ fileName other := by
  intro heq
  have htemporary : (temporaryName name).toList.head? = some '.' := by
    simp [temporaryName, String.toList_append]
  have hother : other.toList ≠ [] := fun hnil =>
    isName_ne_empty h (String.toList_eq_nil_iff.mp hnil)
  obtain ⟨c, cs, hcs⟩ := List.exists_cons_of_ne_nil hother
  rw [heq, toList_fileName, hcs] at htemporary
  exact head?_of_isName h (hcs ▸ htemporary)

theorem admits_fileName {limit : Disk.NameLimit} (h : limit.admits (temporaryName name) = true) :
    limit.admits (fileName name) = true := by
  cases limit with
  | none => rfl
  | some bound =>
    simp only [Disk.NameLimit.admits, Option.all_some, decide_eq_true_eq, temporaryName,
      String.utf8ByteSize_append] at h ⊢
    omega

/-! ### Saving where nothing fails -/

/-- Nothing stands in the way of saving under a name: there is a folder or room for one, the
names of the files are not too long, and no folder has one of them. -/
structure Takes (d : Directory) (name : String) (entries : Disk.Folder) : Prop where
  folder : d.folder {} = .ok entries
  admits : d.limit.admits (temporaryName name) = true
  temporary : ∀ inner, entries.get? (temporaryName name) ≠ some (.folder inner)
  file : ∀ inner, entries.get? (fileName name) ≠ some (.folder inner)

/-- A folder of files takes every name that is not too long. -/
theorem takes_of_files (hfolder : d.folder {} = .ok entries)
    (hfiles : ∀ entry ∈ entries, ∃ bytes, entry.2 = .file bytes)
    (hadmits : d.limit.admits (temporaryName name) = true) : d.Takes name entries := by
  have hnone : ∀ file inner, entries.get? file ≠ some (.folder inner) := by
    intro file inner hfile
    obtain ⟨bytes, hbytes⟩ := hfiles _ (Table.mem_of_get? hfile)
    cases hbytes
  exact ⟨hfolder, hadmits, hnone _, hnone _⟩

/-- The temporary file is gone in the end. -/
theorem replaceText_eq (h : d.Takes name entries) (hname : isName name = true) :
    replaceText entries d.limit {} name text =
      (.ok (), ((entries.put (temporaryName name) (.ofText text)).remove (temporaryName name)).put
        (fileName name) (.ofText text)) := by
  have hwrite : entries.write d.limit (temporaryName name) text =
      .ok (entries.put (temporaryName name) (.ofText text)) := by
    rw [Disk.Folder.write, if_pos h.admits]
    split
    · exact absurd ‹_› (h.temporary _)
    · rfl
  have htarget : (entries.put (temporaryName name) (.ofText text)).get? (fileName name) =
      entries.get? (fileName name) := by
    rw [Table.get?_put, if_neg (temporaryName_ne_fileName hname)]
  have hrename : Disk.Folder.rename (entries.put (temporaryName name) (.ofText text))
      (temporaryName name) (fileName name) =
        .ok (((entries.put (temporaryName name) (.ofText text)).remove (temporaryName name)).put
          (fileName name) (.ofText text)) := by
    simp only [Disk.Folder.rename, htarget, Table.get?_put, if_true]
    split
    · cases ‹_›
    · exact absurd ‹_› (h.file _)
    · rename_i hentry _
      obtain rfl := Option.some.inj hentry
      rfl
  simp only [replaceText, hwrite, moveIntoPlace, Bool.false_eq_true, if_false, hrename]

theorem save_eq {doc : Document Float32} (h : d.Takes doc.name entries)
    (hname : isName doc.name = true) :
    d.save doc = (.ok (), { d with root := .ok (.folder
      (((entries.put (temporaryName doc.name) (.ofText doc.indented)).remove
        (temporaryName doc.name)).put (fileName doc.name) (.ofText doc.indented))) }) := by
  simp only [save, saveDespite, hname, if_true, h.folder, replaceText_eq h hname]
  rfl

/-! ### Loading -/

/-- What is loaded was read from a text, but for a name that is missing there. -/
theorem exists_read?_of_load {doc : Document Float32} (h : d.load name = .ok doc) :
    isName name = true ∧ ∃ text read, d.readText name = .ok text ∧
      Document.read? text = some read ∧
        doc = if read.name = "" then { read with name } else read := by
  unfold load at h
  split at h
  · refine ⟨‹_›, ?_⟩
    split at h
    · split at h
      · exact ⟨_, _, ‹_›, ‹_›, (Except.ok.inj h).symm⟩
      · cases h
    · cases h
    · cases h
  · cases h

/-- A file with the text of a document of its name is loaded as the tree of that document. -/
theorem load_of_readText {doc : Document Float32} (hname : isName doc.name = true)
    (htext : d.readText doc.name = .ok doc.indented) :
    d.load doc.name =
      (Document.ofTree? (Document.layered doc).tree).elim (.error (.unreadable doc.name)) .ok := by
  rw [load, if_pos hname, htext]
  simp only [Document.read?_indented]
  cases hread : Document.ofTree? (Document.layered doc).tree with
  | none => rfl
  | some read =>
    have hread_name : read.name = doc.name := by
      rw [Document.ofTree?_layered] at hread
      obtain ⟨nodes, -, rfl⟩ := Option.map_eq_some_iff.mp hread
      rfl
    simp only [hread_name, if_neg (isName_ne_empty hname)]
    rfl

end Directory

end EventGraph.Store
