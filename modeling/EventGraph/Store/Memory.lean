import EventGraph.Store.Basic

/-!
# Stores in memory
-/

namespace EventGraph.Store

/-- Documents by name. -/
structure Memory where
  documents : Table (Document Float32) := []

namespace Memory

def load (m : Memory) (name : String) : Except StoreError (Document Float32) :=
  match m.documents.get? name with
  | some d => .ok d
  | none => .error (.notFound name)

def save (m : Memory) (d : Document Float32) : Except StoreError Unit × Memory :=
  if isName d.name then (.ok (), { m with documents := m.documents.put d.name d })
  else (.error (.invalidName d.name), m)

def names (m : Memory) : Except StoreError (List String) := .ok m.documents.keys.mergeSort

instance : Store Memory := ⟨load, save, names⟩

end Memory

end EventGraph.Store
