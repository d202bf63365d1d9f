import EventGraph.Proofs.Document.RoundTrip
import EventGraph.Proofs.Store.Files
import EventGraph.Store.Memory
import Mathlib.Data.List.Basic

/-!
# Stores agree

A store in a directory that was not there before gives the answers of a store in memory. After
every call the directory is the one that mirrors the memory: a file for each document, by its
name, with its text, in the same order.
-/

namespace EventGraph.Store

open Document (ReadsBack)

/-! ### Calls -/

inductive Call where
  | save (doc : Document Float32)
  | load (name : String)
  | names
  | resolve (graph : String)

inductive Answer where
  | saved (result : Except StoreError Unit)
  | loaded (result : Except StoreError (Document Float32))
  | listed (result : Except StoreError (List String))
  | resolved (visible : Bindings)

/-- Equal answers. Documents are compared but for their text blocks, which no file holds. -/
def Answer.Same : Answer → Answer → Prop
  | .saved result, .saved result' => result = result'
  | .loaded (.ok doc), .loaded (.ok doc') => (doc == doc') = true
  | .loaded (.error cause), .loaded (.error cause') => cause = cause'
  | .listed result, .listed result' => result = result'
  | .resolved visible, .resolved visible' => visible = visible'
  | _, _ => False

/-- Documents that can be written and names that can be asked for. -/
def Call.Common : Call → Prop
  | .save doc => (∀ x ∈ doc.numbers, x.isFinite = true) ∧ doc.NoEmptyTarget
  | .load name => isName name = true
  | .names | .resolve _ => True

section Run

variable {σ : Type} [Store σ]

def answer (s : σ) : Call → Answer × σ
  | .save doc => ((.saved (save s doc).1), (save s doc).2)
  | .load name => (.loaded (load s name), s)
  | .names => (.listed (names s), s)
  | .resolve graph => (.resolved (Variable.resolve (library s) graph), s)

def answers (s : σ) : List Call → List Answer
  | [] => []
  | call :: rest => (answer s call).1 :: answers (answer s call).2 rest

end Run

/-! ### Folders of documents -/

/-- The files of documents. -/
def files (documents : Table (Document Float32)) : Disk.Folder :=
  documents.map fun entry => (Directory.fileName entry.1, .ofText entry.2.indented)

section Files

variable {documents : Table (Document Float32)} {name : String}

theorem get?_files (documents : Table (Document Float32)) (name : String) :
    (files documents).get? (Directory.fileName name) =
      (documents.get? name).map fun doc => .ofText doc.indented := by
  induction documents with
  | nil => rfl
  | cons entry rest ih =>
    simp only [files, List.map_cons, Table.get?_cons, Directory.fileName_inj]
    split
    · rfl
    · exact ih

theorem put_files (doc : Document Float32) :
    (files documents).put (Directory.fileName name) (.ofText doc.indented) =
      files (documents.put name doc) := by
  induction documents with
  | nil => rfl
  | cons entry rest ih =>
    simp only [files, List.map_cons, Table.put, Directory.fileName_inj] at ih ⊢
    split
    · rfl
    · rw [List.map_cons, ih]

theorem exists_file_of_mem_files {entry : String × Disk.Entry} (h : entry ∈ files documents) :
    ∃ bytes, entry.2 = .file bytes := by
  obtain ⟨_, -, rfl⟩ := List.mem_map.mp h
  exact ⟨_, rfl⟩

end Files

/-! ### The mirror of a memory -/

namespace Memory

variable {m : Memory} {name : String} {doc : Document Float32}

/-- A document under its own name that can be written and read back. -/
structure Keeps (name : String) (doc : Document Float32) : Prop where
  isName : isName name = true
  name_eq : doc.name = name
  targets : doc.NoEmptyTarget
  finite : ∀ x ∈ doc.numbers, x.isFinite = true
  reads : ∀ x ∈ doc.numbers, ReadsBack x

def Kept (m : Memory) : Prop := ∀ entry ∈ m.documents, Keeps entry.1 entry.2

/-- The directory with the documents of a memory. It is made for the first of them. -/
def mirror (path : String) (m : Memory) : Directory where
  path
  root := if m.documents.isEmpty then .error .notFound else .ok (.folder (files m.documents))
  limit := none

theorem folder_mirror (path : String) (m : Memory) :
    (m.mirror path).folder {} = .ok (files m.documents) := by
  cases hdocuments : m.documents with
  | nil => simp [Directory.folder, mirror, hdocuments, files]
  | cons entry rest => simp [Directory.folder, mirror, hdocuments]

theorem takes_mirror (path : String) (m : Memory) (name : String) :
    (m.mirror path).Takes name (files m.documents) :=
  Directory.takes_of_files (folder_mirror path m) (fun _ => exists_file_of_mem_files) rfl

theorem temporaryName_notMem_keys (h : m.Kept) :
    Directory.temporaryName name ∉ Table.keys (files m.documents) := by
  intro hmem
  rw [Table.keys, files, List.map_map] at hmem
  obtain ⟨entry, hentry, hname⟩ := List.mem_map.mp hmem
  exact Directory.temporaryName_ne_fileName (h entry hentry).isName hname.symm

/-- Saving leads to the mirror of the memory with the document. -/
theorem save_mirror (path : String) (h : m.Kept) (doc : Document Float32) :
    (m.mirror path).save doc = ((m.save doc).1, (m.save doc).2.mirror path) := by
  cases hname : isName doc.name with
  | false =>
    simp [Directory.save, Directory.saveDespite, save, hname]
  | true =>
    rw [Directory.save_eq (takes_mirror path m doc.name) hname,
      Table.remove_put_of_notMem (temporaryName_notMem_keys h), put_files, save, if_pos hname]
    simp [mirror, Table.isEmpty_put]

theorem kept_save (h : m.Kept) (htargets : doc.NoEmptyTarget)
    (hfinite : ∀ x ∈ doc.numbers, x.isFinite = true) (hreads : ∀ x ∈ doc.numbers, ReadsBack x) :
    (m.save doc).2.Kept := by
  unfold save
  split
  · rename_i hname
    intro entry hentry
    obtain rfl | hold := Table.eq_or_mem_of_mem_put hentry
    · exact ⟨hname, rfl, htargets, hfinite, hreads⟩
    · exact h entry hold
  · exact h

theorem keeps_of_load (h : m.Kept) (hload : m.load name = .ok doc) : Keeps name doc := by
  unfold load at hload
  split at hload
  · rename_i found hfound
    obtain rfl := Except.ok.inj hload
    exact h _ (Table.mem_of_get? hfound)
  · cases hload

theorem readText_mirror (path : String) (m : Memory) (name : String) :
    (m.mirror path).readText name =
      ((m.documents.get? name).map fun doc => .ok doc.indented).getD (.error .notFound) := by
  cases hdocuments : m.documents with
  | nil => simp [Directory.readText, mirror, hdocuments]
  | cons entry rest =>
    have hfile := get?_files (entry :: rest) name
    simp only [Directory.readText, mirror, hdocuments, List.isEmpty_cons, Bool.false_eq_true,
      if_false, Disk.Folder.read, Disk.NameLimit.admits, Option.all_none, if_true, hfile]
    cases Table.get? (entry :: rest) name with
    | none => rfl
    | some doc => exact Disk.Entry.text_ofText doc.indented

/-- The mirror holds what a file can hold of a document. -/
theorem load_mirror (path : String) (h : m.Kept) (hname : isName name = true) :
    (m.mirror path).load name = (m.load name).map Document.stored := by
  have htext := readText_mirror path m name
  rw [load]
  cases hdoc : m.documents.get? name with
  | none =>
    rw [hdoc] at htext
    rw [Directory.load, if_pos hname, htext]
    rfl
  | some doc =>
    have hkeeps : Keeps name doc := h _ (Table.mem_of_get? hdoc)
    obtain ⟨-, rfl, htargets, -, hreads⟩ := hkeeps
    rw [hdoc] at htext
    rw [Directory.load_of_readText hname htext,
      (Document.ofTree?_eq_stored_iff htargets).mpr hreads]
    rfl

/-- Only files of documents are there, and each is listed by its document's name. -/
theorem names_mirror (path : String) (h : m.Kept) : (m.mirror path).names = m.names := by
  have hkeys : (Table.keys (files m.documents)).filterMap Directory.documentName? =
      m.documents.keys := by
    rw [Table.keys, files, List.map_map, List.filterMap_map, Table.keys,
      List.filterMap_eq_map_iff_forall_eq_some]
    exact fun entry hentry => Directory.documentName?_fileName (h entry hentry).isName
  rw [names, ← hkeys]
  cases hdocuments : m.documents with
  | nil => simp [Directory.names, mirror, hdocuments, files, Table.keys]
  | cons entry rest => simp [Directory.names, mirror, hdocuments]

theorem library_mirror (path : String) (h : m.Kept) : library (m.mirror path) = library m := by
  have hnames : Store.names (m.mirror path) = Store.names m := names_mirror path h
  have hlisted : Store.names m = .ok m.documents.keys.mergeSort := rfl
  rw [library, library, hnames, hlisted]
  refine List.filterMap_congr fun name hname => ?_
  obtain ⟨entry, hentry, rfl⟩ := List.mem_map.mp (List.mem_mergeSort.mp hname)
  have hload : Store.load (m.mirror path) entry.1 = (Store.load m entry.1).map Document.stored :=
    load_mirror path h (h entry hentry).isName
  rw [hload]
  cases Store.load m entry.1 <;> rfl

end Memory

/-! ### Runs -/

open Memory

/-- One call is answered alike, and the directory mirrors the memory again. -/
theorem answer_mirror {m : Memory} (path : String) (h : m.Kept) {call : Call}
    (hcommon : call.Common)
    (hreads : ∀ doc, call = .save doc → ∀ x ∈ doc.numbers, x.isFinite = true → ReadsBack x) :
    (answer (m.mirror path) call).1.Same (answer m call).1 ∧
      (answer (m.mirror path) call).2 = (answer m call).2.mirror path ∧
      (answer m call).2.Kept := by
  cases call with
  | save doc =>
    obtain ⟨hfinite, htargets⟩ := hcommon
    have hsave : Store.save (m.mirror path) doc =
        ((Store.save m doc).1, (m.save doc).2.mirror path) := save_mirror path h doc
    rw [answer, answer, hsave]
    exact ⟨rfl, rfl, kept_save h htargets hfinite fun x hx => hreads doc rfl x hx (hfinite x hx)⟩
  | load name =>
    have hload : Store.load (m.mirror path) name = (Store.load m name).map Document.stored :=
      load_mirror path h hcommon
    refine ⟨?_, rfl, h⟩
    rw [answer, answer, hload]
    cases hfound : Store.load m name with
    | error cause => rfl
    | ok doc => exact Document.stored_beq (keeps_of_load h hfound).finite
  | names =>
    have hnames : Store.names (m.mirror path) = Store.names m := names_mirror path h
    rw [answer, answer, hnames]
    exact ⟨rfl, rfl, h⟩
  | resolve graph =>
    rw [answer, answer, library_mirror path h]
    exact ⟨rfl, rfl, h⟩

theorem forall₂_answers_mirror {m : Memory} (path : String) (h : m.Kept) {calls : List Call}
    (hcommon : ∀ call ∈ calls, call.Common)
    (hreads : ∀ doc, .save doc ∈ calls → ∀ x ∈ doc.numbers, x.isFinite = true → ReadsBack x) :
    List.Forall₂ Answer.Same (answers (m.mirror path) calls) (answers m calls) := by
  induction calls generalizing m with
  | nil => exact .nil
  | cons call rest ih =>
    rw [List.forall_mem_cons] at hcommon
    obtain ⟨hsame, hmirror, hkept⟩ := answer_mirror path h hcommon.1 fun doc hdoc =>
      hreads doc (hdoc ▸ List.mem_cons_self)
    rw [answers, answers, hmirror]
    exact .cons hsame (ih hkept hcommon.2 fun doc hdoc => hreads doc (List.mem_cons_of_mem _ hdoc))

/-- **A directory store that starts without its directory answers every sequence of calls as a
memory store that starts empty, provided the texts of finite numbers are read back.** -/
theorem directory_answers_as_memory (path : String) {calls : List Call}
    (hcommon : ∀ call ∈ calls, call.Common)
    (hreads : ∀ doc, .save doc ∈ calls → ∀ x ∈ doc.numbers, x.isFinite = true → ReadsBack x) :
    List.Forall₂ Answer.Same
      (answers ({ path, root := .error .notFound, limit := none } : Directory) calls)
      (answers ({} : Memory) calls) := by
  have hkept : ({} : Memory).Kept := fun entry hentry => absurd hentry List.not_mem_nil
  exact forall₂_answers_mirror path hkept hcommon hreads

def ebb : Document Float32 where
  name := "ebb"
  declarations := [{ key := "height", value := "2" }]

/-- A document with a dot in its name that imports from another one. -/
def tide : Document Float32 where
  name := "tide.v2"
  nodes := [
    { id := "a", x := 0.1, y := -1.0e-45, height := 72.0, textBlock := 18.0
      body := .exec { text := "\"é\"\n", next := some "b" } },
    { id := "b", x := 3.4028235e38, y := -0.0, height := 40.0, textBlock := 0.0
      body := .terminal }]
  declarations := [{ key := "height", value := "1", importFrom := "ebb" }]

/-- A session in which a name is not found, one is refused, and a document is replaced. -/
def session : List Call :=
  [.names, .load "ebb", .save { ebb with name := ".ebb" }, .save { tide with nodes := [] },
    .save ebb, .save tide, .names, .load "tide.v2", .load "tide", .resolve "tide.v2"]

theorem directory_answers_as_memory_session :
    (∀ call ∈ session, call.Common) ∧
      List.Forall₂ Answer.Same
        (answers ({ path := "stories", root := .error .notFound, limit := none } : Directory)
          session)
        (answers ({} : Memory) session) := by
  have hcommon : ∀ call ∈ session, call.Common := by
    simp only [session, List.forall_mem_cons, List.not_mem_nil, false_implies, implies_true,
      Call.Common, Document.NoEmptyTarget, and_true]
    decide +kernel
  have hreads : ∀ doc, .save doc ∈ session →
      ∀ x ∈ doc.numbers, x.isFinite = true → ReadsBack x := by
    intro doc hdoc
    simp only [session, List.mem_cons, List.not_mem_nil, Call.save.injEq, reduceCtorEq, or_false,
      false_or] at hdoc
    obtain rfl | rfl | rfl | rfl := hdoc <;> decide +kernel
  exact ⟨hcommon, directory_answers_as_memory "stories" hcommon hreads⟩

end EventGraph.Store
