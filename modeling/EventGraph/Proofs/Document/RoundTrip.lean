import EventGraph.Document.Reader
import EventGraph.Proofs.Json.Layered
import EventGraph.Proofs.Json.Limits

/-!
# Documents are read back

A printed document is an object of strings, numbers and lists, flat for a node. Reading takes it
apart again, field by field, whatever the ids, texts and lists are.
-/

namespace EventGraph

/-! ### Scalars of documents -/

namespace Json.Layered

theorem readable_string (s : String) : (string s).Readable := ⟨_, Tree.readsAs_string s⟩

@[simp] theorem tree_string (s : String) : (string s).tree = .string (some s) :=
  tree_scalar (Tree.readsAs_string s)

/-- A single is written as a numeral, or as null if it is not finite. -/
theorem readsAs_float32 (x : Float32) :
    Tree.ReadsAs (float32Layout.float32 x).toList (float32 x).tree := by
  cases hfinite : x.isFinite with
  | true =>
    obtain ⟨n, hn, hchars⟩ := exists_numeral_of_isFinite hfinite
    have hreads : Tree.ReadsAs (float32Layout.float32 x).toList (.number n) :=
      hchars ▸ Tree.readsAs_numeral hn
    rwa [float32, tree_scalar hreads]
  | false =>
    have hreads : Tree.ReadsAs (float32Layout.float32 x).toList .null :=
      float32_of_not_isFinite hfinite ▸ Tree.readsAs_null
    rwa [float32, tree_scalar hreads]

theorem readable_float32 (x : Float32) : (float32 x).Readable := ⟨_, readsAs_float32 x⟩

end Json.Layered

namespace Document

open Json (Layered Tree)

/-- The text of a single is read as that single. -/
def ReadsBack (x : Float32) : Prop :=
  (Json.read? (Json.float32Layout.float32 x)).bind Json.float32? = some x

instance (x : Float32) : Decidable (ReadsBack x) := inferInstanceAs (Decidable (_ = _))

/-- A number of a document is read as its text is on its own. -/
theorem number?_float32 (x : Float32) :
    number? (Layered.float32 x).tree =
      (Json.read? (Json.float32Layout.float32 x)).bind Json.float32? := by
  have hread : Tree.read? (Json.float32Layout.float32 x) = some (Layered.float32 x).tree := by
    have hread := Layered.read?_compact (Layered.readable_float32 x)
    rwa [Layered.compact, Layered.float32, Layered.compactChars, String.ofList_toList] at hread
  rw [Json.read?, hread, Option.bind_some]
  cases hfinite : x.isFinite with
  | true =>
    obtain ⟨n, hn, hchars⟩ := Json.exists_numeral_of_isFinite hfinite
    have htree : (Layered.float32 x).tree = .number n :=
      Layered.tree_scalar (hchars ▸ Tree.readsAs_numeral hn)
    rw [htree]
    rfl
  | false =>
    have htree : (Layered.float32 x).tree = .null :=
      Layered.tree_scalar (Json.float32_of_not_isFinite hfinite ▸ Tree.readsAs_null)
    rw [htree]
    rfl

theorem number?_of_not_isFinite {x : Float32} (h : x.isFinite = false) :
    number? (Layered.float32 x).tree = none := by
  rw [number?_float32, Json.float32_of_not_isFinite h]
  rfl

theorem link?_linkText {target : Option NodeId} (h : target ≠ some "") :
    link? (some (linkText target).tree) = some target := by
  cases target with
  | none => rfl
  | some id =>
    have hid : id ≠ "" := fun hid => h (congrArg some hid)
    simp only [linkText, Option.getD_some, Layered.tree_string, link?, Option.map_some, if_neg hid]

/-- A list is read if each of its items is. -/
theorem mapM_eq_some_iff {β γ : Type} {f : β → Option γ} {items : List β} {out : List γ} :
    items.mapM f = some out ↔ items.map f = out.map some := by
  induction items generalizing out with
  | nil =>
    rw [List.mapM_nil, List.map_nil, eq_comm (a := []), List.map_eq_nil_iff, eq_comm]
    exact Option.some_inj
  | cons item rest ih =>
    rw [List.mapM_cons, List.map_cons, eq_comm (b := out.map some), List.map_eq_cons_iff]
    constructor
    · intro h
      obtain ⟨b, hb, h⟩ := Option.bind_eq_some_iff.mp h
      obtain ⟨bs, hbs, h⟩ := Option.bind_eq_some_iff.mp h
      exact ⟨b, bs, (Option.some.inj h).symm, hb.symm, (ih.mp hbs).symm⟩
    · rintro ⟨b, bs, rfl, hb, hbs⟩
      rw [← hb, ih.mpr hbs.symm]
      rfl

/-- A printed list is read if each of its items is. -/
theorem list?_array_eq_some_iff {β γ : Type} {write : β → Layered} {read? : Tree → Option γ}
    {items : List β} {out : List γ} :
    list? read? (some (Layered.array (items.map write)).tree) = some out ↔
      items.map (fun item => read? (write item).tree) = out.map some := by
  simp only [Layered.tree, Layered.itemTrees_eq_map, list?, mapM_eq_some_iff, List.map_map,
    Function.comp_def]

theorem list?_map_eq_some_iff {β γ : Type} {write : β → Layered} {read? : Tree → Option γ}
    {items : List β} (stored : β → γ) :
    list? read? (some (Layered.array (items.map write)).tree) = some (items.map stored) ↔
      ∀ item ∈ items, read? (write item).tree = some (stored item) := by
  rw [list?_array_eq_some_iff, List.map_map, List.map_inj_left]
  rfl

/-- Items that are read back as they were are read back as a list. -/
theorem list?_map {β : Type} {write : β → Layered} {read? : Tree → Option β} {items : List β}
    (h : ∀ item ∈ items, read? (write item).tree = some item) :
    list? read? (some (Layered.array (items.map write)).tree) = some items := by
  have hread := (list?_map_eq_some_iff id).mpr h
  rwa [List.map_id] at hread

/-! ### Records -/

theorem entry?_entryText {e : ChoiceEntry} (h : e.next ≠ some "") :
    entry? (entryText e).tree = some e := by
  have hfields : record? ["text", "conditionStr", "evalStr", "prefixText", "next"]
      (entryText e).tree = some [some (.string (some e.text)), some (.string (some e.condition)),
        some (.string (some e.script)), some (.string (some e.prefixText)),
        some (linkText e.next).tree] := by
    simp [entryText, Layered.tree, Layered.fieldTrees, record?, namedFields?]
  simp only [hfields, entry?, bind, Option.bind_some, string?, link?_linkText h]
  rfl

theorem case?_caseText {c : SwitchCase} (h : c.next ≠ some "") :
    case? (caseText c).tree = some c := by
  have hfields : record? ["conditionStr", "next"] (caseText c).tree =
      some [some (.string (some c.condition)), some (linkText c.next).tree] := by
    simp [caseText, Layered.tree, Layered.fieldTrees, record?, namedFields?]
  simp only [case?, hfields, bind, Option.bind_some, string?, link?_linkText h]
  rfl

theorem declaration?_variableText (v : Variable) :
    declaration? (variableText v).tree = some v := by
  have hfields : record? ["key", "value", "importFrom"] (variableText v).tree =
      some [some (.string (some v.key)), some (.string (some v.value)),
        some (.string (some v.importFrom))] := by
    simp [variableText, Layered.tree, Layered.fieldTrees, record?, namedFields?]
  simp only [declaration?, hfields, bind, Option.bind_some, string?]
  rfl

/-! ### Nodes -/

/-- The fields of a node that are read whole before its kind is known: the kind and the body. -/
def innerFields (b : Body) : TreeFields :=
  (some "kind", .string (some b.kind.tag)) :: Layered.fieldTrees (bodyFields b)

theorem kind?_tag (kind : NodeKind) : kind? (.string (some kind.tag)) = some kind := by
  cases kind <;> rfl

/-- The body is read from the inner fields of its node. -/
theorem body?_innerFields {b : Body} (h : some "" ∉ b.exits) :
    body? b.kind (innerFields b) = some b := by
  cases b with
  | exec e =>
    have hfields : namedFields? ["text", "actionScript", "next"] (innerFields (.exec e)) =
        some [some (.string (some e.text)), some (.string (some e.script)),
          some (linkText e.next).tree] := by
      simp [innerFields, bodyFields, Layered.fieldTrees, namedFields?]
    have hnext : e.next ≠ some "" := by simpa [Body.exits, eq_comm] using h
    simp only [Body.kind, body?, hfields, bind, Option.bind_some, string?, link?_linkText hnext]
    rfl
  | choice c =>
    have hfields : namedFields? ["promptText", "choices"] (innerFields (.choice c)) =
        some [some (.string (some c.prompt)),
          some (Layered.array (c.entries.map entryText)).tree] := by
      simp [innerFields, bodyFields, Layered.fieldTrees, namedFields?]
    have hentries : list? entry? (some (Layered.array (c.entries.map entryText)).tree) =
        some c.entries := by
      refine list?_map fun e he => ?_
      refine entry?_entryText fun hnext => h ?_
      exact List.mem_map.mpr ⟨e, he, hnext⟩
    simp only [Body.kind, body?, hfields, bind, Option.bind_some, string?, hentries]
    rfl
  | switch s =>
    have hfields : namedFields? ["cases", "defaultNext"] (innerFields (.switch s)) =
        some [some (Layered.array (s.cases.map caseText)).tree,
          some (linkText s.fallback).tree] := by
      simp [innerFields, bodyFields, Layered.fieldTrees, namedFields?]
    have hcases : list? case? (some (Layered.array (s.cases.map caseText)).tree) =
        some s.cases := by
      refine list?_map fun c hc => ?_
      refine case?_caseText fun hnext => h ?_
      exact List.mem_append_left _ (List.mem_map.mpr ⟨c, hc, hnext⟩)
    have hfallback : s.fallback ≠ some "" := fun hfallback =>
      h (List.mem_append_right _ (hfallback ▸ List.mem_singleton_self _))
    simp only [Body.kind, body?, hfields, bind, Option.bind_some, hcases,
      link?_linkText hfallback]
    rfl
  | terminal => rfl
  | comment text =>
    have hfields : namedFields? ["text"] (innerFields (.comment text)) =
        some [some (.string (some text))] := by
      simp [innerFields, bodyFields, Layered.fieldTrees, namedFields?]
    simp only [Body.kind, body?, hfields, bind, Option.bind_some, string?]
    rfl

/-- All fields of a printed node. -/
def nodeFields (n : Node Float32) : TreeFields :=
  [(some "id", .string (some n.id)), (some "x", (Layered.float32 n.x).tree),
    (some "y", (Layered.float32 n.y).tree)] ++ innerFields n.body ++
    [(some "h", (Layered.float32 n.height).tree)]

theorem fieldTrees_append (a b : List (String × Layered)) :
    Layered.fieldTrees (a ++ b) = Layered.fieldTrees a ++ Layered.fieldTrees b := by
  induction a with
  | nil => rfl
  | cons field rest ih =>
    obtain ⟨key, item⟩ := field
    rw [List.cons_append, Layered.fieldTrees, ih, Layered.fieldTrees, List.cons_append]

theorem tree_nodeText (n : Node Float32) : (nodeText n).tree = .object (nodeFields n) := by
  simp only [nodeText, Layered.tree, fieldTrees_append, Layered.fieldTrees, Layered.tree_string,
    nodeFields, innerFields, Node.kind, List.cons_append, List.nil_append]

/-- The inner fields are those that are neither id, place nor height. -/
theorem filter_nodeFields (n : Node Float32) :
    ((nodeFields n).filter fun field => !(["id", "x", "y", "h"].contains (field.1.getD ""))) =
      innerFields n.body := by
  cases hbody : n.body <;> simp [nodeFields, innerFields, bodyFields, Layered.fieldTrees, hbody]

theorem namedFields?_nodeFields (n : Node Float32) :
    namedFields? (["id", "x", "y", "h"] ++ ["kind"]) (nodeFields n) =
      some [some (.string (some n.id)), some (Layered.float32 n.x).tree,
        some (Layered.float32 n.y).tree, some (Layered.float32 n.height).tree,
        some (.string (some n.body.kind.tag))] := by
  cases hbody : n.body <;>
    simp [nodeFields, innerFields, bodyFields, Layered.fieldTrees, namedFields?, hbody]

/-! ### The bounds of the reader -/

/-- A list has a value one level above its items. -/
theorem isSome_value?_map {β : Type} {write : β → Layered} {depth : Nat} (items : List β)
    (h : ∀ item, ((write item).tree.value? depth).isSome = true) :
    ((Layered.array (items.map write)).tree.value? (depth + 1)).isSome = true := by
  have hitems : (Tree.itemValues? depth ((items.map write).map Layered.tree)).isSome = true := by
    refine Tree.isSome_itemValues?_iff.mpr fun t ht => ?_
    rw [List.map_map] at ht
    obtain ⟨item, -, rfl⟩ := List.mem_map.mp ht
    exact h item
  obtain ⟨vs, hvs⟩ := Option.isSome_iff_exists.mp hitems
  simp only [Layered.tree, Layered.itemTrees_eq_map, Tree.value?, hvs]
  rfl

theorem isSome_value?_entryText (e : ChoiceEntry) (depth : Nat) :
    ((entryText e).tree.value? (depth + 1)).isSome = true := by
  simp [entryText, linkText, Layered.tree, Layered.fieldTrees, Tree.value?, Tree.fieldValues?]

theorem isSome_value?_caseText (c : SwitchCase) (depth : Nat) :
    ((caseText c).tree.value? (depth + 1)).isSome = true := by
  simp [caseText, linkText, Layered.tree, Layered.fieldTrees, Tree.value?, Tree.fieldValues?]

/-- Inner fields are two levels deep at most, far from the reader's bound. -/
theorem isSome_value?_innerFields (b : Body) :
    ((innerFields b).all fun field => (field.2.value? innerDepth).isSome) = true := by
  have hdepth : innerDepth = 122 + 1 + 1 := rfl
  have hstring (s : String) : ((Tree.string (some s)).value? innerDepth).isSome = true := by
    rw [Tree.value?]
    rfl
  cases b with
  | exec e => simp [innerFields, bodyFields, linkText, Layered.fieldTrees, hstring]
  | choice c =>
    have hentries := isSome_value?_map c.entries fun e => isSome_value?_entryText e 122
    rw [← hdepth] at hentries
    simp [innerFields, bodyFields, Layered.fieldTrees, hstring, hentries]
  | switch s =>
    have hcases := isSome_value?_map s.cases fun c => isSome_value?_caseText c 122
    rw [← hdepth] at hcases
    simp [innerFields, bodyFields, linkText, Layered.fieldTrees, hstring, hcases]
  | terminal => simp [innerFields, bodyFields, Layered.fieldTrees, hstring]
  | comment text => simp [innerFields, bodyFields, Layered.fieldTrees, hstring]

/-! ### Documents -/

/-- A printed node is read but for its numbers, which have to be read back themselves. -/
theorem node?_nodeText {n : Node Float32} (h : some "" ∉ n.body.exits) :
    node? (nodeText n).tree = (do
      let x ← number? (Layered.float32 n.x).tree
      let y ← number? (Layered.float32 n.y).tree
      let height ← number? (Layered.float32 n.height).tree
      pure { n with x, y, height, textBlock := 0.0 }) := by
  rw [tree_nodeText]
  simp only [node?, filter_nodeFields, isSome_value?_innerFields, if_true,
    namedFields?_nodeFields, kind?_tag, body?_innerFields h, string?, bind, Option.bind_some]

/-- What a file holds of a node: all but the text block, which a layout makes anew. -/
def storedNode (n : Node Float32) : Node Float32 := { n with textBlock := 0.0 }

theorem node?_eq_stored_iff {n : Node Float32} (h : some "" ∉ n.body.exits) :
    node? (nodeText n).tree = some (storedNode n) ↔
      ReadsBack n.x ∧ ReadsBack n.y ∧ ReadsBack n.height := by
  simp only [ReadsBack, ← number?_float32]
  rw [node?_nodeText h]
  constructor
  · intro hread
    obtain ⟨x, hx, hread⟩ := Option.bind_eq_some_iff.mp hread
    obtain ⟨y, hy, hread⟩ := Option.bind_eq_some_iff.mp hread
    obtain ⟨height, hheight, hread⟩ := Option.bind_eq_some_iff.mp hread
    have hnode := Option.some.inj hread
    simp only [storedNode, Node.mk.injEq, true_and, and_true] at hnode
    obtain ⟨rfl, rfl, rfl⟩ := hnode
    exact ⟨hx, hy, hheight⟩
  · rintro ⟨hx, hy, hheight⟩
    rw [hx, hy, hheight]
    rfl

theorem ofTree?_layered (d : Document Float32) :
    ofTree? (layered d).tree =
      (list? node? (some (Layered.array (d.nodes.map nodeText)).tree)).map fun nodes =>
        { d with nodes } := by
  have hfields : record? ["name", "nodes", "variables"] (layered d).tree =
      some [some (.string (some d.name)), some (Layered.array (d.nodes.map nodeText)).tree,
        some (Layered.array (d.declarations.map variableText)).tree] := by
    simp [layered, Layered.tree, Layered.fieldTrees, record?, namedFields?]
  have hdeclarations :
      list? declaration? (some (Layered.array (d.declarations.map variableText)).tree) =
        some d.declarations := list?_map fun v _ => declaration?_variableText v
  simp only [ofTree?, hfields, hdeclarations, string?, bind, Option.bind_some]
  cases list? node? (some (Layered.array (d.nodes.map nodeText)).tree) <;> rfl

theorem readable_bodyFields (b : Body) : Layered.ReadableFields (bodyFields b) := by
  cases b with
  | exec e =>
    simp [bodyFields, linkText, Layered.ReadableFields, Layered.readable_string]
  | choice c =>
    simp [bodyFields, entryText, linkText, Layered.ReadableFields, Layered.Readable,
      Layered.readableItems_iff, Layered.readable_string]
  | switch s =>
    simp [bodyFields, caseText, linkText, Layered.ReadableFields, Layered.Readable,
      Layered.readableItems_iff, Layered.readable_string]
  | terminal => trivial
  | comment text => simp [bodyFields, Layered.ReadableFields, Layered.readable_string]

theorem readable_nodeText (n : Node Float32) : (nodeText n).Readable := by
  have happend (a b : List (String × Layered)) :
      Layered.ReadableFields (a ++ b) ↔ Layered.ReadableFields a ∧ Layered.ReadableFields b := by
    induction a with
    | nil => simp [Layered.ReadableFields]
    | cons field rest ih => simp only [List.cons_append, Layered.ReadableFields, ih, and_assoc]
  simp [nodeText, Layered.Readable, happend, Layered.ReadableFields, Layered.readable_string,
    Layered.readable_float32, readable_bodyFields]

theorem readable_layered (d : Document Float32) : (layered d).Readable := by
  simp [layered, variableText, Layered.Readable, Layered.ReadableFields,
    Layered.readableItems_iff, Layered.readable_string, readable_nodeText]

/-- Both forms of a document are read as the same tree. -/
theorem read?_compact (d : Document Float32) : read? d.compact = ofTree? (layered d).tree := by
  rw [read?, compact, Layered.read?_compact (readable_layered d), Option.bind_some]

theorem read?_indented (d : Document Float32) : read? d.indented = ofTree? (layered d).tree := by
  rw [read?, indented, Layered.read?_indented (readable_layered d), Option.bind_some]

/-- What a file holds of a document. -/
def stored (d : Document Float32) : Document Float32 := { d with nodes := d.nodes.map storedNode }

/-- All coordinates and heights. -/
def numbers (d : Document Float32) : List Float32 :=
  d.nodes.flatMap fun n => [n.x, n.y, n.height]

/-- No exit leads to the empty id, which a text would take for no link. -/
def NoEmptyTarget (d : Document Float32) : Prop := ∀ n ∈ d.nodes, some "" ∉ n.body.exits

theorem forall_numbers_iff {d : Document Float32} {P : Float32 → Prop} :
    (∀ x ∈ d.numbers, P x) ↔ ∀ n ∈ d.nodes, P n.x ∧ P n.y ∧ P n.height := by
  simp only [numbers, List.forall_mem_flatMap, List.forall_mem_cons, List.not_mem_nil,
    false_implies, implies_true, and_true]

/-- A printed document is read back if the texts of its numbers are. -/
theorem ofTree?_eq_stored_iff {d : Document Float32} (htargets : d.NoEmptyTarget) :
    ofTree? (layered d).tree = some d.stored ↔ ∀ x ∈ d.numbers, ReadsBack x := by
  have hnodes : ofTree? (layered d).tree = some d.stored ↔
      list? node? (some (Layered.array (d.nodes.map nodeText)).tree) =
        some (d.nodes.map storedNode) := by
    rw [ofTree?_layered, Option.map_eq_some_iff]
    constructor
    · rintro ⟨nodes, hread, hstored⟩
      exact hread.trans (congrArg (fun d => some d.nodes) hstored)
    · exact fun hread => ⟨_, hread, rfl⟩
  rw [hnodes, list?_map_eq_some_iff storedNode, forall_numbers_iff]
  exact forall₂_congr fun n hn => node?_eq_stored_iff (htargets n hn)

/-- A document with finite numbers equals what a file holds of it. -/
theorem stored_beq {d : Document Float32} (hfinite : ∀ x ∈ d.numbers, x.isFinite = true) :
    (d.stored == d) = true := by
  rw [forall_numbers_iff] at hfinite
  have hnodes : ∀ nodes : List (Node Float32),
      (∀ n ∈ nodes, n.x.isFinite = true ∧ n.y.isFinite = true ∧ n.height.isFinite = true) →
        (nodes.map storedNode == nodes) = true := by
    intro nodes h
    induction nodes with
    | nil => rfl
    | cons n rest ih =>
      rw [List.forall_mem_cons] at h
      obtain ⟨⟨hx, hy, hheight⟩, hrest⟩ := h
      have hn : (storedNode n == n) = true := by
        change (n.id == n.id && n.x == n.x && n.y == n.y && n.body == n.body &&
          n.height == n.height) = true
        simp only [beq_self_eq_true, Number.beq_self_of_isFinite hx,
          Number.beq_self_of_isFinite hy, Number.beq_self_of_isFinite hheight, Bool.and_self]
      rw [List.map_cons, List.cons_beq_cons, hn, ih hrest]
      rfl
  change (d.name == d.name && d.nodes.map storedNode == d.nodes &&
    d.declarations == d.declarations) = true
  rw [beq_self_eq_true, hnodes d.nodes hfinite, beq_self_eq_true]
  rfl

/-- **A document with finite numbers and no link to the empty id is read back from its compact
and from its indented text, provided the texts of its numbers are read back.** -/
theorem read?_printed {d : Document Float32} (hfinite : ∀ x ∈ d.numbers, x.isFinite = true)
    (htargets : d.NoEmptyTarget) (hback : ∀ x ∈ d.numbers, x.isFinite = true → ReadsBack x) :
    read? d.compact = some d.stored ∧ read? d.indented = some d.stored ∧
      (d.stored == d) = true := by
  have hstored := (ofTree?_eq_stored_iff htargets).mpr fun x hx => hback x hx (hfinite x hx)
  exact ⟨(read?_compact d).trans hstored, (read?_indented d).trans hstored, stored_beq hfinite⟩

/-- Nodes of every kind, two of one id, with numbers and texts that are hard to write. -/
def curiosities : Document Float32 where
  name := "\x00\"tide\\\n😀"
  nodes := [
    { id := "a", x := 0.1, y := -0.0, height := 3.4028235e38, textBlock := 18.0
      body := .exec { text := "\t\x1f/", script := "GET(k)", next := some "a" } },
    { id := "a", x := -1.0e-45, y := 16777216.0, height := 0.0, textBlock := 0.0
      body := .choice { prompt := "?", entries := [
        { text := "é", condition := "EQ(a, 1)", next := none },
        { script := "MOD(k, 1)", prefixText := "\x7b\x7d[],:", next := some "none" }] } },
    { id := "", x := 1.0e13, y := -123.5, height := 1.1754944e-38, textBlock := 0.0
      body := .switch { cases := [{ condition := "true", next := some "a" }, {}] } },
    { id := "end", x := 0.3, y := 1.0e-7, height := 1234567.9, textBlock := 0.0
      body := .terminal },
    { id := "null", x := 1.0, y := 2.0, height := 3.0, textBlock := 0.0, body := .comment "\\" }]
  declarations := [{ key := "k", value := "\x0c", importFrom := "other" }, {}]

theorem read?_printed_curiosities :
    curiosities.compact ≠ curiosities.indented ∧
      read? curiosities.compact = some curiosities.stored ∧
      read? curiosities.indented = some curiosities.stored ∧
      (curiosities.stored == curiosities) = true := by
  have hfinite : ∀ x ∈ curiosities.numbers, x.isFinite = true := by decide +kernel
  have htargets : curiosities.NoEmptyTarget := by
    unfold NoEmptyTarget
    decide +kernel
  have hback : ∀ x ∈ curiosities.numbers, x.isFinite = true → ReadsBack x := by decide +kernel
  exact ⟨by decide +kernel, read?_printed hfinite htargets hback⟩

end Document

end EventGraph
