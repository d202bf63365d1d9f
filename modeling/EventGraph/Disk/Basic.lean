import EventGraph.Table

/-!
# Files and folders

A folder is a table of entries by name, a file holds bytes, which need not be a text. Operations on
a folder are refused for a stated cause and change nothing then.
-/

namespace EventGraph.Disk

inductive Entry where
  | file (bytes : ByteArray)
  | folder (entries : List (String × Entry))

/-- Why an operation is refused. -/
inductive Refusal where
  | notFound
  | alreadyExists
  | notAFolder
  | isAFolder
  | nameTooLong
  | notText
  | deviceFailed
  deriving Repr, DecidableEq

def Refusal.message : Refusal → String
  | notFound => "No such file or directory (os error 2)"
  | deviceFailed => "Input/output error (os error 5)"
  | alreadyExists => "File exists (os error 17)"
  | notAFolder => "Not a directory (os error 20)"
  | isAFolder => "Is a directory (os error 21)"
  | nameTooLong => "File name too long (os error 36)"
  | notText => "stream did not contain valid UTF-8"

namespace Entry

/-- A file that holds a text. -/
def ofText (text : String) : Entry := .file text.toUTF8

/-- The text in a file. -/
def text : Entry → Except Refusal String
  | file bytes => match String.fromUTF8? bytes with
    | some text => .ok text
    | none => .error .notText
  | folder _ => .error .isAFolder

@[simp] theorem text_ofText (text : String) : (ofText text).text = .ok text := by
  have hread : String.fromUTF8? text.toUTF8 = some text := dif_pos text.isValidUTF8
  rw [ofText, Entry.text, hread]

end Entry

abbrev Folder := Table Entry

/-- The longest name of an entry in bytes, where there is a limit. -/
abbrev NameLimit := Option Nat

def NameLimit.standard : NameLimit := some 255

def NameLimit.admits (limit : NameLimit) (name : String) : Bool :=
  limit.all (name.utf8ByteSize ≤ ·)

namespace Folder

/-- The names of the entries by ascending code points. -/
def names (f : Folder) : List String := f.keys.mergeSort

def read (f : Folder) (limit : NameLimit) (name : String) : Except Refusal String :=
  if limit.admits name then
    match f.get? name with
    | some entry => entry.text
    | none => .error .notFound
  else .error .nameTooLong

/-- Writes a file, over an old one if need be. -/
def write (f : Folder) (limit : NameLimit) (name text : String) : Except Refusal Folder :=
  if limit.admits name then
    match f.get? name with
    | some (.folder _) => .error .isAFolder
    | _ => .ok (f.put name (.ofText text))
  else .error .nameTooLong

/-- Moves a file to another name in the same folder, over an old file if need be. -/
def rename (f : Folder) (source target : String) : Except Refusal Folder :=
  match f.get? source, f.get? target with
  | none, _ => .error .notFound
  | _, some (.folder _) => .error .isAFolder
  | some entry, _ => .ok ((f.remove source).put target entry)

end Folder

/-! ### Paths -/

/-- The names along a path. A slash at the end asks for a folder, as a dot does. -/
def pathNames (path : String) : List String :=
  let parts := path.splitOn "/"
  parts.filter (· ≠ "") ++ (if parts.getLast? = some "" then ["."] else [])

namespace Entry

/-- Follows names down from an entry. `above` are the folders around it, the innermost first;
two dots lead back to them. -/
def follow (limit : NameLimit) : List Entry → Entry → List String → Except Refusal Entry
  | _, entry, [] => .ok entry
  | _, .file _, _ :: _ => .error .notAFolder
  | above, .folder entries, name :: rest =>
    if name = "." then follow limit above (.folder entries) rest
    else if name = ".." then
      match above with
      | outer :: above => follow limit above outer rest
      | [] => .error .notFound
    else if !limit.admits name then .error .nameTooLong
    else match Table.get? entries name with
      | some entry => follow limit (.folder entries :: above) entry rest
      | none => .error .notFound

/-- What is found at a path that starts in the folder `e`. -/
def find (e : Entry) (limit : NameLimit) (path : String) : Except Refusal Entry :=
  if path.startsWith "/" || path = "" then .error .notFound
  else e.follow limit [] (pathNames path)

/-- Puts an entry at a path, with the folders on the way. A file on the way stays. -/
def place (new : Entry) : List String → Entry → Entry
  | [], _ => new
  | _ :: _, .file bytes => .file bytes
  | name :: rest, .folder entries =>
    .folder (Table.put name (place new rest ((Table.get? entries name).getD (.folder []))) entries)

end Entry

end EventGraph.Disk
