import EventGraph.Disk.Basic
import EventGraph.Document.Basic
import EventGraph.Text.Alphanumeric
import EventGraph.Text.Quoted
import EventGraph.Variable.Resolution

/-!
# Document stores

A store keeps documents by name. The names it takes are file names in any folder: letters,
digits, spaces, underscores, hyphens and dots, with no dot in front.
-/

namespace EventGraph

inductive StoreError where
  | notFound (name : String)
  | invalidName (name : String)
  | refused (path : String) (cause : Disk.Refusal)
  | unreadable (name : String)
  deriving Repr, DecidableEq

def StoreError.message : StoreError → String
  | notFound name => "Graph not found: " ++ name
  | invalidName name => "Invalid graph name: " ++ Text.quoted name
  | refused path cause => "I/O error on " ++ path ++ ": " ++ cause.message
  | unreadable name => "Failed to parse " ++ name

class Store (σ : Type) where
  load : σ → String → Except StoreError (Document Float32)
  /-- Saves a document under its own name. The store comes back also from a failed save. -/
  save : σ → Document Float32 → Except StoreError Unit × σ
  /-- The names of the stored documents by ascending code points. -/
  names : σ → Except StoreError (List String)

namespace Store

def isNameChar (c : Char) : Bool :=
  Text.isAlphanumeric c || c == '_' || c == '-' || c == '.' || c == ' '

def isName (name : String) : Bool :=
  let cs := name.toList
  !cs.isEmpty && cs.head? != some '.' && cs.all isNameChar

variable {σ : Type} [Store σ]

/-- The declarations of every document that can be loaded. -/
def library (s : σ) : Variable.Library :=
  match names s with
  | .ok names => names.filterMap fun name => match load s name with
    | .ok d => some (name, d.declarations)
    | .error _ => none
  | .error _ => []

end Store

end EventGraph
