import EventGraph.Document.Printer
import EventGraph.Document.Reader
import EventGraph.Store.Basic

/-!
# Stores in a directory

One file holds one document. A document is written to a temporary file that is then moved to
its place, so the old document stays until the new one is complete.
-/

namespace EventGraph.Store

structure Directory where
  /-- The path of the directory, shown in messages. -/
  path : String
  /-- What is at the path. -/
  root : Except Disk.Refusal Disk.Entry := .error .notFound
  limit : Disk.NameLimit := .standard

namespace Directory

def extension : String := ".json"

def fileName (name : String) : String := name ++ extension

/-- Where the document is written first. It is no name of a document file. -/
def temporaryName (name : String) : String := "." ++ fileName name ++ ".tmp"

/-- The path of a file in a folder. -/
def join (folder file : String) : String :=
  if folder = "" || folder.endsWith "/" then folder ++ file else folder ++ "/" ++ file

def pathOf (d : Directory) (name : String) : String := join d.path (fileName name)

/-- The name of the document that a file holds, by the name of the file. -/
def documentName? (file : String) : Option String :=
  let cs := file.toList
  let length := cs.length - extension.length
  let name := String.ofList (cs.take length)
  if cs.drop length = extension.toList && isName name then some name else none

def readText (d : Directory) (name : String) : Except Disk.Refusal String :=
  match d.root with
  | .error cause => .error cause
  | .ok (.file _) => .error .notAFolder
  | .ok (.folder entries) => Disk.Folder.read entries d.limit (fileName name)

/-- Loads a document. One without a name takes the name it was asked for. -/
def load (d : Directory) (name : String) : Except StoreError (Document Float32) :=
  if isName name then
    match d.readText name with
    | .ok text => match Document.read? text with
      | some doc => .ok (if doc.name = "" then { doc with name } else doc)
      | none => .error (.unreadable name)
    | .error .notFound => .error (.notFound name)
    | .error cause => .error (.refused (d.pathOf name) cause)
  else .error (.invalidName name)

def names (d : Directory) : Except StoreError (List String) :=
  match d.root with
  | .error .notFound => .ok []
  | .error cause => .error (.refused d.path cause)
  | .ok (.file _) => .error (.refused d.path .notAFolder)
  | .ok (.folder entries) => .ok ((Table.keys entries).filterMap documentName?).mergeSort

/-- Where the device fails while a document is saved. -/
structure Mishaps where
  makingFolder : Bool := false
  /-- Opening the temporary file, with nothing written. -/
  opening : Bool := false
  /-- Writing the temporary file; it holds what was written by then. -/
  writing : Option ByteArray := none
  moving : Bool := false
  /-- Removing the temporary file after it could not be moved. -/
  removing : Bool := false

/-- The folder of the store, made if it is not there. -/
def folder (d : Directory) (mishaps : Mishaps) : Except Disk.Refusal Disk.Folder :=
  match d.root with
  | .ok (.folder entries) => .ok entries
  | .ok (.file _) => .error .alreadyExists
  | .error .notFound => if mishaps.makingFolder then .error .deviceFailed else .ok []
  | .error cause => .error cause

/-- Moves a temporary file to its place. One that cannot be moved is removed; whether that fails
is not told. -/
def moveIntoPlace (written : Disk.Folder) (mishaps : Mishaps) (name : String) :
    Except Disk.Refusal Unit × Disk.Folder :=
  let moved := if mishaps.moving then .error .deviceFailed
    else written.rename (temporaryName name) (fileName name)
  match moved with
  | .ok moved => (.ok (), moved)
  | .error cause =>
    (.error cause, if mishaps.removing then written else written.remove (temporaryName name))

/-- Writes a text beside the document, then moves it to its place. The folder comes back as
the failing step leaves it. -/
def replaceText (entries : Disk.Folder) (limit : Disk.NameLimit) (mishaps : Mishaps)
    (name text : String) : Except Disk.Refusal Unit × Disk.Folder :=
  match entries.write limit (temporaryName name) text with
  | .error cause => (.error cause, entries)
  | .ok written =>
    if mishaps.opening then (.error .deviceFailed, entries)
    else match mishaps.writing with
      | some bytes => (.error .deviceFailed, entries.put (temporaryName name) (.file bytes))
      | none => moveIntoPlace written mishaps name

/-- Saves a document while the device may fail. -/
def saveDespite (mishaps : Mishaps) (d : Directory) (doc : Document Float32) :
    Except StoreError Unit × Directory :=
  if isName doc.name then
    match d.folder mishaps with
    | .error cause => (.error (.refused (d.pathOf doc.name) cause), d)
    | .ok entries =>
      let (result, entries) := replaceText entries d.limit mishaps doc.name doc.indented
      (result.mapError (.refused (d.pathOf doc.name)), { d with root := .ok (.folder entries) })
  else (.error (.invalidName doc.name), d)

def save : Directory → Document Float32 → Except StoreError Unit × Directory := saveDespite {}

instance : Store Directory := ⟨load, save, names⟩

end Directory

end EventGraph.Store
