import EventGraph.Variable.Basic

/-!
# Resolving imports

The visible variables of a graph are its imports, then its local variables, which shadow
imports of the same key. An import takes the value its key has in the other graph; where that
graph is unknown, lacks the key, or is being expanded already, it takes its own value. Each
graph is expanded at most once.
-/

namespace EventGraph.Variable

/-- The declarations of graphs by name. -/
abbrev Library := Table (List Variable)

/-- The graphs expanded so far, the latest first. -/
abbrev Expanded := Table Bindings

/-- Binds imports in order. `expand` yields what another graph provides. -/
def bindImports (expand : String → Expanded → Option Bindings × Expanded) :
    List Variable → Bindings → Expanded → Bindings × Expanded
  | [], visible, done => (visible, done)
  | v :: rest, visible, done =>
    let (provided?, done) := expand v.importFrom done
    let value := (provided?.bind (·.get? v.key)).getD v.value
    bindImports expand rest (visible.put v.key value) done

/-- Binds local variables in order. -/
def bindLocals (locals : List Variable) (visible : Bindings) : Bindings :=
  locals.foldl (fun b v => b.put v.key v.value) visible

/-- Expands a graph from its declarations. -/
def expandDeclared (expand : String → Expanded → Option Bindings × Expanded) (graph : String)
    (declared : List Variable) (done : Expanded) : Bindings × Expanded :=
  let (imported, done) := bindImports expand (declared.filter (·.isImported)) [] done
  let visible := bindLocals (declared.filter (!·.isImported)) imported
  (visible, (graph, visible) :: done)

/-- What a graph provides to one that imports from it. The graphs in `active` are being
expanded. Every step down adds a graph of the library to them, so `depth` is not used up when
it starts at the size of the library. -/
def expand (library : Library) : Nat → List String → String → Expanded →
    Option Bindings × Expanded
  | 0, _, _, done => (none, done)
  | depth + 1, active, graph, done =>
    if active.contains graph then (none, done)
    else match done.get? graph with
      | some visible => (some visible, done)
      | none => match library.get? graph with
        | none => (none, done)
        | some declared =>
          let (visible, done) :=
            expandDeclared (expand library depth (graph :: active)) graph declared done
          (some visible, done)

/-- The visible variables of a graph whose declarations are given directly. -/
def resolveDeclared (library : Library) (graph : String) (declared : List Variable) : Bindings :=
  (expandDeclared (expand library (library.length + 1) [graph]) graph declared []).1

/-- The visible variables of a graph of the library; an unknown graph has none. -/
def resolve (library : Library) (graph : String) : Bindings :=
  match library.get? graph with
  | some declared => resolveDeclared library graph declared
  | none => []

end EventGraph.Variable
