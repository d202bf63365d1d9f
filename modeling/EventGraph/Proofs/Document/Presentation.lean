import EventGraph.Proofs.Document.RoundTrip
import EventGraph.Proofs.Json.Limits
import Mathlib.Logic.Relation

/-!
# The presentation of nodes

A node can be told in many ways: its members in any order, with members that no node of its kind
has, and with null or nothing in place of a link that is empty. It is read the same.
-/

namespace EventGraph.Document

open Json (Tree)

/-! ### Members -/

/-- The value of a field that is the only one; there may be none. -/
def sole? : TreeFields → Option (Option Tree)
  | [] => some none
  | [field] => some (some field.2)
  | _ => none

/-- The value of the member of a name, if there are not two of them. -/
def member? (name : String) (fields : TreeFields) : Option (Option Tree) :=
  sole? (fields.filter (·.1 == some name))

variable {name other : String} {fields fields' front back : TreeFields} {t value : Tree}

theorem namedFields?_eq_some_iff {names : List String} {out : List (Option Tree)} :
    namedFields? names fields = some out ↔
      (∀ field ∈ fields, field.1.isSome = true) ∧
      names.map (member? · fields) = out.map some := by
  rw [namedFields?, ← List.all_eq_true, ← mapM_eq_some_iff]
  split
  · rename_i hkeys
    exact (and_iff_right hkeys).symm
  · rename_i hkeys
    exact iff_of_false (by rintro ⟨⟩) fun h => hkeys h.1

theorem sole?_perm (h : fields.Perm fields') : sole? fields' = sole? fields := by
  match fields, fields' with
  | [], _ => rw [h.nil_eq]
  | [field], _ => rw [List.singleton_perm.mp h]
  | _ :: _ :: _, [] | _ :: _ :: _, [_] =>
    have hlength := h.length_eq
    simp at hlength
  | _ :: _ :: _, _ :: _ :: _ => rfl

theorem member?_perm (h : fields.Perm fields') (name : String) :
    member? name fields' = member? name fields := sole?_perm (h.filter _)

theorem member?_of_ne (h : name ≠ other) :
    member? name (front ++ (some other, value) :: back) = member? name (front ++ back) := by
  have hskip : ((some other, value).1 == some name) = false := by
    simpa using Ne.symm h
  rw [member?, member?, List.filter_append, List.filter_append, List.filter_cons, hskip]
  rfl

theorem sole?_eq_some_none_iff : sole? fields = some none ↔ fields = [] := by
  match fields with
  | [] => exact iff_of_true rfl rfl
  | [_] | _ :: _ :: _ => exact iff_of_false nofun nofun

/-- A member is the only one of its name if there is none among the others. -/
theorem member?_self_iff : member? name (front ++ (some name, value) :: back) = some (some t) ↔
    t = value ∧ member? name (front ++ back) = some none := by
  have hpick : ((some name, value).1 == some name) = true := beq_self_eq_true _
  rw [member?, member?, List.filter_append, List.filter_append, List.filter_cons, if_pos hpick,
    sole?_eq_some_none_iff]
  generalize front.filter (·.1 == some name) = before
  generalize back.filter (·.1 == some name) = after
  match before, after with
  | [], [] => simp [sole?, eq_comm]
  | [], _ :: _ => simp [sole?]
  | [_], [] | [_], _ :: _ | _ :: _ :: _, [] | _ :: _ :: _, _ :: _ => simp [sole?]

theorem member?_self {found : Option Tree}
    (h : member? name (front ++ (some name, value) :: back) = some found) :
    found = some value ∧ member? name (front ++ back) = some none := by
  cases found with
  | none =>
    rw [member?, sole?_eq_some_none_iff, List.filter_append, List.filter_cons] at h
    simp at h
  | some t =>
    obtain ⟨rfl, hrest⟩ := member?_self_iff.mp h
    exact ⟨rfl, hrest⟩

/-! ### Links -/

/-- What is read from a member is still read from what is there instead. -/
def Carries {β : Type} (read? : Option Tree → Option β) (m m' : Option (Option Tree)) : Prop :=
  ∀ t, m = some t → ∃ t', m' = some t' ∧ ∀ b, read? t = some b → read? t' = some b

theorem Carries.refl {β : Type} (read? : Option Tree → Option β) (m : Option (Option Tree)) :
    Carries read? m m := fun t ht => ⟨t, ht, fun _ => id⟩

theorem Carries.bind {β : Type} {read? : Option Tree → Option β} {m m' : Option (Option Tree)}
    {b : β} (h : Carries read? m m') (hb : m.bind read? = some b) : m'.bind read? = some b := by
  obtain ⟨t, ht, hread⟩ := Option.bind_eq_some_iff.mp hb
  obtain ⟨t', ht', hsame⟩ := h t ht
  rw [ht', Option.bind_some, hsame b hread]

/-- A link that is written as the empty text is written as null or left out. -/
inductive Relinked (name : String) : TreeFields → TreeFields → Prop
  | null {front back : TreeFields} :
      Relinked name (front ++ (some name, .string (some "")) :: back)
        (front ++ (some name, .null) :: back)
  | out {front back : TreeFields} :
      Relinked name (front ++ (some name, .string (some "")) :: back) (front ++ back)

theorem Relinked.member?_of_ne (h : Relinked name fields fields') (hne : other ≠ name) :
    member? other fields' = member? other fields := by
  cases h with
  | null => rw [Document.member?_of_ne hne, Document.member?_of_ne hne]
  | out => rw [Document.member?_of_ne hne]

theorem Relinked.member? (h : Relinked name fields fields') {t : Option Tree}
    (ht : member? name fields = some t) :
    ∃ t', member? name fields' = some t' ∧ link? t' = link? t := by
  cases h with
  | null =>
    obtain ⟨rfl, hrest⟩ := member?_self ht
    exact ⟨some .null, member?_self_iff.mpr ⟨rfl, hrest⟩, rfl⟩
  | out =>
    obtain ⟨rfl, hrest⟩ := member?_self ht
    exact ⟨none, hrest, rfl⟩

theorem Relinked.mem (h : Relinked name fields fields') {field : Option String × Tree}
    (hfield : field ∈ fields') : field ∈ fields ∨ field = (some name, .null) := by
  cases h with
  | null =>
    rcases List.mem_append.mp hfield with hfront | hfield
    · exact .inl (List.mem_append_left _ hfront)
    · rcases List.mem_cons.mp hfield with rfl | hback
      · exact .inr rfl
      · exact .inl (List.mem_append_right _ (List.mem_cons_of_mem _ hback))
  | out =>
    rcases List.mem_append.mp hfield with hfront | hback
    · exact .inl (List.mem_append_left _ hfront)
    · exact .inl (List.mem_append_right _ (List.mem_cons_of_mem _ hback))

theorem Relinked.keys (h : Relinked name fields fields')
    (hkeys : ∀ field ∈ fields, field.1.isSome = true) :
    ∀ field ∈ fields', field.1.isSome = true := by
  intro field hfield
  rcases h.mem hfield with hmem | rfl
  · exact hkeys field hmem
  · rfl

/-! ### Records -/

/-- The name of the link of a record. -/
def recordLink : String := "next"

/-- The link of a record with some texts before it is written as null or left out. In an array, it
is the last item. -/
inductive RecordRelinked (texts : List String) : Tree → Tree → Prop
  | object {fields fields' : TreeFields} : Relinked recordLink fields fields' →
      RecordRelinked texts (.object fields) (.object fields')
  | null {items : List Tree} : items.length = texts.length →
      RecordRelinked texts (.array (items ++ [.string (some "")])) (.array (items ++ [.null]))
  | out {items : List Tree} : items.length = texts.length →
      RecordRelinked texts (.array (items ++ [.string (some "")])) (.array items)

/-- All items of an array are given, the last one for the link. -/
theorem record?_all {texts : List String} {items : List Tree}
    (hlength : items.length = texts.length) (last : Tree) :
    record? (texts ++ [recordLink]) (.array (items ++ [last])) =
      some (items.map some ++ [some last]) := by
  have hall : (items ++ [last]).length = (texts ++ [recordLink]).length := by
    rw [List.length_append, List.length_append, hlength]
    rfl
  rw [record?, if_pos (Nat.le_of_eq hall), hall, Nat.sub_self, List.map_append]
  simp

theorem RecordRelinked.record? {texts : List String} {t t' : Tree} (h : RecordRelinked texts t t')
    (hlink : recordLink ∉ texts) {values : List (Option Tree)} {link : Option Tree}
    (hread : record? (texts ++ [recordLink]) t = some (values ++ [link])) :
    ∃ link', record? (texts ++ [recordLink]) t' = some (values ++ [link']) ∧
      link? link' = link? link := by
  cases h with
  | @object fields fields' hfields =>
    obtain ⟨hkeys, hmembers⟩ := namedFields?_eq_some_iff.mp hread
    rw [List.map_append, List.map_append] at hmembers
    obtain ⟨htexts, hmember⟩ := List.append_inj' hmembers rfl
    obtain ⟨link', hlink', hsame⟩ := hfields.member? (List.cons.inj hmember).1
    refine ⟨link', namedFields?_eq_some_iff.mpr ⟨hfields.keys hkeys, ?_⟩, hsame⟩
    have hothers : ∀ name ∈ texts, Document.member? name fields' = Document.member? name fields :=
      fun name hname => hfields.member?_of_ne (ne_of_mem_of_not_mem hname hlink)
    rw [List.map_append, List.map_append, List.map_congr_left hothers, htexts, List.map_singleton,
      hlink']
    rfl
  | @null items hlength =>
    rw [record?_all hlength] at hread
    obtain ⟨rfl, hlast⟩ := List.append_inj' (Option.some.inj hread) rfl
    obtain rfl := (List.cons.inj hlast).1
    exact ⟨some .null, record?_all hlength _, rfl⟩
  | @out items hlength =>
    rw [record?_all hlength] at hread
    obtain ⟨rfl, hlast⟩ := List.append_inj' (Option.some.inj hread) rfl
    obtain rfl := (List.cons.inj hlast).1
    refine ⟨none, ?_, rfl⟩
    have hrest : (texts ++ [recordLink]).length - items.length = 1 := by
      rw [List.length_append, List.length_singleton, hlength, Nat.add_sub_cancel_left]
    rw [Document.record?, if_pos (by rw [List.length_append]; omega), hrest]
    rfl

theorem entry?_relinked {t t' : Tree}
    (h : RecordRelinked ["text", "conditionStr", "evalStr", "prefixText"] t t') {e : ChoiceEntry}
    (he : entry? t = some e) : entry? t' = some e := by
  obtain ⟨values, hvalues, he⟩ := Option.bind_eq_some_iff.mp he
  split at he
  · rename_i text condition script prefixText next
    obtain ⟨next', hvalues', hsame⟩ := h.record? (by decide)
      (show record? _ t = some ([text, condition, script, prefixText] ++ [next]) from hvalues)
    have hread : record? ["text", "conditionStr", "evalStr", "prefixText", "next"] t' =
      some [text, condition, script, prefixText, next'] := hvalues'
    rw [← hsame] at he
    unfold entry?
    rw [hread]
    exact he
  · cases he

theorem case?_relinked {t t' : Tree} (h : RecordRelinked ["conditionStr"] t t') {c : SwitchCase}
    (hc : case? t = some c) : case? t' = some c := by
  obtain ⟨values, hvalues, hc⟩ := Option.bind_eq_some_iff.mp hc
  split at hc
  · rename_i condition next
    obtain ⟨next', hvalues', hsame⟩ := h.record? (by decide)
      (show record? _ t = some ([condition] ++ [next]) from hvalues)
    have hread : record? ["conditionStr", "next"] t' = some [condition, next'] := hvalues'
    rw [← hsame] at hc
    unfold case?
    rw [hread]
    exact hc
  · cases hc

theorem list?_of_item {β : Type} {item? : Tree → Option β} {t t' : Tree}
    (h : ∀ b, item? t = some b → item? t' = some b) {before after : List Tree} {out : List β}
    (hout : list? item? (some (.array (before ++ t :: after))) = some out) :
    list? item? (some (.array (before ++ t' :: after))) = some out := by
  simp only [list?, mapM_eq_some_iff, List.map_append, List.map_cons] at hout ⊢
  have hitem : item? t ∈ out.map some := by
    rw [← hout]
    exact List.mem_append_right _ List.mem_cons_self
  obtain ⟨b, -, hb⟩ := List.mem_map.mp hitem
  rw [h b hb.symm, hb]
  exact hout

/-! ### Bodies -/

/-- What a member of a body is read as. -/
inductive Shape where
  | text
  | link
  | entries
  | cases
  deriving DecidableEq

/-- The texts before the link of a record. -/
def Shape.recordTexts? : Shape → Option (List String)
  | text | link => none
  | entries => some ["text", "conditionStr", "evalStr", "prefixText"]
  | cases => some ["conditionStr"]

/-- What is read from a member of a shape is still read from what is there instead. -/
def Shape.Carries : Shape → Option (Option Tree) → Option (Option Tree) → Prop
  | text => Document.Carries string?
  | link => Document.Carries link?
  | entries => Document.Carries (list? entry?)
  | cases => Document.Carries (list? case?)

theorem Shape.Carries.refl (shape : Shape) (m : Option (Option Tree)) : shape.Carries m m := by
  cases shape with
  | text | link | entries | cases => exact Document.Carries.refl _ m

/-- The members of the body of a kind. -/
def bodyMembers : NodeKind → List (String × Shape)
  | .exec => [("text", .text), ("actionScript", .text), ("next", .link)]
  | .choice => [("promptText", .text), ("choices", .entries)]
  | .switch => [("cases", .cases), ("defaultNext", .link)]
  | .terminal => []
  | .comment => [("text", .text)]

section Reading

variable (hkeys : ∀ field ∈ fields, field.1.isSome = true)

include hkeys in
theorem namedFields?_of_keys (names : List String) :
    namedFields? names fields = names.mapM (member? · fields) :=
  if_pos (List.all_eq_true.mpr hkeys)

include hkeys in
theorem body?_exec : body? .exec fields = (do
    let text ← (member? "text" fields).bind string?
    let script ← (member? "actionScript" fields).bind string?
    let next ← (member? "next" fields).bind link?
    pure (.exec { text, script, next })) := by
  simp only [body?, namedFields?_of_keys hkeys, List.mapM_cons, List.mapM_nil]
  cases member? "text" fields <;> cases member? "actionScript" fields <;>
    cases member? "next" fields <;> simp

include hkeys in
theorem body?_choice : body? .choice fields = (do
    let prompt ← (member? "promptText" fields).bind string?
    let entries ← (member? "choices" fields).bind (list? entry?)
    pure (.choice { prompt, entries })) := by
  simp only [body?, namedFields?_of_keys hkeys, List.mapM_cons, List.mapM_nil]
  cases member? "promptText" fields <;> cases member? "choices" fields <;> simp

include hkeys in
theorem body?_switch : body? .switch fields = (do
    let cases ← (member? "cases" fields).bind (list? case?)
    let fallback ← (member? "defaultNext" fields).bind link?
    pure (.switch { cases, fallback })) := by
  simp only [body?, namedFields?_of_keys hkeys, List.mapM_cons, List.mapM_nil]
  cases member? "cases" fields <;> cases member? "defaultNext" fields <;> simp

include hkeys in
theorem body?_comment : body? .comment fields = (do
    let text ← (member? "text" fields).bind string?
    pure (.comment text)) := by
  simp only [body?, namedFields?_of_keys hkeys, List.mapM_cons, List.mapM_nil]
  cases member? "text" fields <;> simp

end Reading

/-- A body is read from its members. -/
theorem body?_of_carries {kind : NodeKind} {b : Body}
    (hkeys : ∀ field ∈ fields, field.1.isSome = true)
    (hkeys' : ∀ field ∈ fields', field.1.isSome = true)
    (hmembers : ∀ name shape, (name, shape) ∈ bodyMembers kind →
      shape.Carries (member? name fields) (member? name fields'))
    (hb : body? kind fields = some b) : body? kind fields' = some b := by
  cases kind with
  | exec =>
    rw [body?_exec hkeys] at hb
    obtain ⟨text, htext, hb⟩ := Option.bind_eq_some_iff.mp hb
    obtain ⟨script, hscript, hb⟩ := Option.bind_eq_some_iff.mp hb
    obtain ⟨next, hnext, hb⟩ := Option.bind_eq_some_iff.mp hb
    have htext' := (hmembers "text" .text (by decide)).bind htext
    have hscript' := (hmembers "actionScript" .text (by decide)).bind hscript
    have hnext' := (hmembers "next" .link (by decide)).bind hnext
    rw [body?_exec hkeys', htext', hscript', hnext']
    exact hb
  | choice =>
    rw [body?_choice hkeys] at hb
    obtain ⟨prompt, hprompt, hb⟩ := Option.bind_eq_some_iff.mp hb
    obtain ⟨entries, hentries, hb⟩ := Option.bind_eq_some_iff.mp hb
    have hprompt' := (hmembers "promptText" .text (by decide)).bind hprompt
    have hentries' := (hmembers "choices" .entries (by decide)).bind hentries
    rw [body?_choice hkeys', hprompt', hentries']
    exact hb
  | switch =>
    rw [body?_switch hkeys] at hb
    obtain ⟨cases, hcases, hb⟩ := Option.bind_eq_some_iff.mp hb
    obtain ⟨fallback, hfallback, hb⟩ := Option.bind_eq_some_iff.mp hb
    have hcases' := (hmembers "cases" .cases (by decide)).bind hcases
    have hfallback' := (hmembers "defaultNext" .link (by decide)).bind hfallback
    rw [body?_switch hkeys', hcases', hfallback']
    exact hb
  | terminal => exact hb
  | comment =>
    rw [body?_comment hkeys] at hb
    obtain ⟨text, htext, hb⟩ := Option.bind_eq_some_iff.mp hb
    have htext' := (hmembers "text" .text (by decide)).bind htext
    rw [body?_comment hkeys', htext']
    exact hb

theorem kind_of_body? {kind : NodeKind} {b : Body}
    (hkeys : ∀ field ∈ fields, field.1.isSome = true) (hb : body? kind fields = some b) :
    b.kind = kind := by
  cases kind with
  | exec =>
    rw [body?_exec hkeys] at hb
    obtain ⟨_, -, hb⟩ := Option.bind_eq_some_iff.mp hb
    obtain ⟨_, -, hb⟩ := Option.bind_eq_some_iff.mp hb
    obtain ⟨_, -, hb⟩ := Option.bind_eq_some_iff.mp hb
    cases hb
    rfl
  | choice =>
    rw [body?_choice hkeys] at hb
    obtain ⟨_, -, hb⟩ := Option.bind_eq_some_iff.mp hb
    obtain ⟨_, -, hb⟩ := Option.bind_eq_some_iff.mp hb
    cases hb
    rfl
  | switch =>
    rw [body?_switch hkeys] at hb
    obtain ⟨_, -, hb⟩ := Option.bind_eq_some_iff.mp hb
    obtain ⟨_, -, hb⟩ := Option.bind_eq_some_iff.mp hb
    cases hb
    rfl
  | terminal =>
    cases hb
    rfl
  | comment =>
    rw [body?_comment hkeys] at hb
    obtain ⟨_, -, hb⟩ := Option.bind_eq_some_iff.mp hb
    cases hb
    rfl

/-! ### Nodes -/

/-- The members that are not evaluated with the others. -/
def placeNames : List String := ["id", "x", "y", "h"]

/-- The members that are evaluated before the kind is known. -/
def innerMembers (fields : TreeFields) : TreeFields :=
  fields.filter fun field => !placeNames.contains (field.1.getD "")

theorem mem_innerMembers_iff {field : Option String × Tree} :
    field ∈ innerMembers fields ↔ field ∈ fields ∧ field.1.getD "" ∉ placeNames := by
  rw [innerMembers, List.mem_filter, Bool.not_eq_true', ← Bool.not_eq_true,
    List.contains_iff_mem]

theorem member?_innerMembers (h : name ∉ placeNames) :
    member? name (innerMembers fields) = member? name fields := by
  rw [member?, member?, innerMembers, List.filter_filter]
  congr 1
  refine List.filter_congr fun field _ => ?_
  cases hname : field.1 == some name with
  | false => rfl
  | true =>
    rw [beq_iff_eq] at hname
    rw [hname, Option.getD_some, Bool.true_and, Bool.not_eq_true', ← Bool.not_eq_true,
      List.contains_iff_mem]
    exact h

/-- The names of the members of a node. -/
def memberNames (kind : NodeKind) : List String :=
  placeNames ++ ["kind"] ++ (bodyMembers kind).map (·.1)

/-- A value inside a node keeps the limits of the reader. -/
def Evaluates (t : Tree) : Prop := t.Keeps Json.Numeral.HasValue innerDepth

/-- A key has a text, and the value is evaluated, unless it is an id, a position or a height. -/
structure SoundMember (member : Option String × Tree) : Prop where
  key : member.1.isSome = true
  value : member.1.getD "" ∉ placeNames → Evaluates member.2

def Sound (fields : TreeFields) : Prop := ∀ member ∈ fields, SoundMember member

theorem Sound.keys (h : Sound fields) : ∀ member ∈ fields, member.1.isSome = true :=
  fun member hmember => (h member hmember).key

theorem sound_insert_iff {member : Option String × Tree} :
    Sound (front ++ member :: back) ↔ SoundMember member ∧ Sound (front ++ back) := by
  rw [Sound, Sound, List.forall_mem_append, List.forall_mem_append, List.forall_mem_cons]
  exact and_left_comm

theorem sound_of_node? {n : Node Float32} (h : node? (.object fields) = some n) :
    Sound fields := by
  unfold node? at h
  simp only at h
  split at h
  · rename_i hvalues
    obtain ⟨_, hfound, -⟩ := Option.bind_eq_some_iff.mp h
    intro member hmember
    refine ⟨(namedFields?_eq_some_iff.mp hfound).1 member hmember, fun hname => ?_⟩
    have hinner : member ∈ innerMembers fields := mem_innerMembers_iff.mpr ⟨hmember, hname⟩
    exact Tree.isSome_value?_iff.mp (List.all_eq_true.mp hvalues member hinner)
  · cases h

/-- What a node is read from stays. -/
structure Preserves (kind : NodeKind) (fields fields' : TreeFields) : Prop where
  sound : Sound fields'
  place : ∀ name ∈ placeNames ++ ["kind"], member? name fields' = member? name fields
  body : ∀ name shape, (name, shape) ∈ bodyMembers kind →
    shape.Carries (member? name fields) (member? name fields')

theorem notMem_placeNames {kind : NodeKind} {shape : Shape}
    (h : (name, shape) ∈ bodyMembers kind) : name ∉ placeNames ++ ["kind"] := by
  have hall : ∀ member ∈ bodyMembers kind, member.1 ∉ placeNames ++ ["kind"] := by
    cases kind <;> decide
  exact hall (name, shape) h

theorem shape_unique {kind : NodeKind} {shape shape' : Shape}
    (h : (name, shape) ∈ bodyMembers kind) (h' : (name, shape') ∈ bodyMembers kind) :
    shape = shape' := by
  have hall : ∀ member ∈ bodyMembers kind, ∀ member' ∈ bodyMembers kind,
      member.1 = member'.1 → member.2 = member'.2 := by
    cases kind <;> decide
  exact hall (name, shape) h (name, shape') h' rfl

theorem node?_of_preserves {n : Node Float32} (h : node? (.object fields) = some n)
    (hpreserves : Preserves n.kind fields fields') : node? (.object fields') = some n := by
  have hsound := sound_of_node? h
  have hsound' := hpreserves.sound
  have hvalues : ((innerMembers fields').all
      fun field => (field.2.value? innerDepth).isSome) = true := by
    rw [List.all_eq_true]
    intro field hfield
    obtain ⟨hmem, hname⟩ := mem_innerMembers_iff.mp hfield
    exact Tree.isSome_value?_iff.mpr ((hsound' field hmem).value hname)
  have hkeys : ∀ field ∈ innerMembers fields, field.1.isSome = true :=
    fun field hfield => hsound.keys field (List.mem_filter.mp hfield).1
  have hkeys' : ∀ field ∈ innerMembers fields', field.1.isSome = true :=
    fun field hfield => hsound'.keys field (List.mem_filter.mp hfield).1
  unfold node? at h ⊢
  simp only at h ⊢
  split at h
  · obtain ⟨found, hfound, h⟩ := Option.bind_eq_some_iff.mp h
    have hfound' : namedFields? (placeNames ++ ["kind"]) fields' = some found := by
      refine namedFields?_eq_some_iff.mpr ⟨hsound'.keys, ?_⟩
      rw [List.map_congr_left hpreserves.place]
      exact (namedFields?_eq_some_iff.mp hfound).2
    rw [placeNames] at hfound'
    rw [if_pos (by exact hvalues), hfound']
    split at h
    · obtain ⟨kind, hkind, h⟩ := Option.bind_eq_some_iff.mp h
      obtain ⟨body, hbody, h⟩ := Option.bind_eq_some_iff.mp h
      have hsame : n.body = body := by
        obtain ⟨_, -, h⟩ := Option.bind_eq_some_iff.mp h
        obtain ⟨_, -, h⟩ := Option.bind_eq_some_iff.mp h
        obtain ⟨_, -, h⟩ := Option.bind_eq_some_iff.mp h
        split at h
        all_goals
          obtain ⟨_, -, h⟩ := Option.bind_eq_some_iff.mp h
          obtain rfl := Option.some.inj h
          rfl
      have hbody' : body? kind (innerMembers fields') = some body := by
        have hmembers := hpreserves.body
        rw [Node.kind, hsame, kind_of_body? hkeys hbody] at hmembers
        refine body?_of_carries hkeys hkeys' (fun name shape hmem => ?_) hbody
        have hplace : name ∉ placeNames :=
          fun hin => notMem_placeNames hmem (List.mem_append_left _ hin)
        rw [member?_innerMembers hplace, member?_innerMembers hplace]
        exact hmembers name shape hmem
      rw [innerMembers, placeNames] at hbody'
      simp only [bind, Option.bind_some, hkind, hbody']
      exact h
    · cases h
  · cases h

/-! ### Other tellings of a node -/

/-- What a node of a kind is told anew, where other members have numerals of some kind. -/
inductive Retold (ofKind : Json.Numeral → Prop) (kind : NodeKind) : TreeFields → TreeFields → Prop
  /-- The members may come in any order. -/
  | permuted {fields fields' : TreeFields} : fields.Perm fields' →
      Retold ofKind kind fields fields'
  /-- There may be members that no node of the kind has. -/
  | extended {front back : TreeFields} {name : String} {value : Tree} : name ∉ memberNames kind →
      value.Keeps ofKind innerDepth →
      Retold ofKind kind (front ++ back) (front ++ (some name, value) :: back)
  /-- A link that is empty may be null or left out. -/
  | relinked {fields fields' : TreeFields} {name : String} : (name, .link) ∈ bodyMembers kind →
      Relinked name fields fields' → Retold ofKind kind fields fields'
  /-- So may one in a record of a list. -/
  | within {front back : TreeFields} {name : String} {shape : Shape} {texts : List String}
      {before after : List Tree} {t t' : Tree} : (name, shape) ∈ bodyMembers kind →
      shape.recordTexts? = some texts → RecordRelinked texts t t' →
      Retold ofKind kind (front ++ (some name, .array (before ++ t :: after)) :: back)
        (front ++ (some name, .array (before ++ t' :: after)) :: back)

variable {kind : NodeKind}

theorem Preserves.permuted (hsound : Sound fields) (h : fields.Perm fields') :
    Preserves kind fields fields' where
  sound member hmember := hsound member (h.mem_iff.mpr hmember)
  place name _ := member?_perm h name
  body name shape _ := member?_perm h name ▸ .refl shape _

theorem Preserves.extended (hsound : Sound (front ++ back)) (hname : name ∉ memberNames kind)
    (hvalue : Evaluates value) :
    Preserves kind (front ++ back) (front ++ (some name, value) :: back) where
  sound := sound_insert_iff.mpr ⟨⟨rfl, fun _ => hvalue⟩, hsound⟩
  place other hother := by
    have hne : other ≠ name := by
      rintro rfl
      exact hname (List.mem_append_left _ hother)
    exact member?_of_ne hne
  body other shape hother := by
    have hne : other ≠ name := by
      rintro rfl
      exact hname (List.mem_append_right _ (List.mem_map_of_mem hother))
    rw [member?_of_ne hne]
    exact .refl shape _

/-- It is enough to look at the member that is told anew. -/
theorem Preserves.ofMember {shape : Shape} (hname : (name, shape) ∈ bodyMembers kind)
    (hsound : Sound fields') (hothers : ∀ other, other ≠ name →
      member? other fields' = member? other fields)
    (hcarries : shape.Carries (member? name fields) (member? name fields')) :
    Preserves kind fields fields' where
  sound := hsound
  place other hother := by
    apply hothers
    rintro rfl
    exact notMem_placeNames hname hother
  body other shape' hother := by
    by_cases hsame : other = name
    · subst hsame
      rwa [← shape_unique hname hother]
    · rw [hothers other hsame]
      exact .refl shape' _

theorem Preserves.relinked (hsound : Sound fields) (hname : (name, .link) ∈ bodyMembers kind)
    (h : Relinked name fields fields') : Preserves kind fields fields' := by
  refine .ofMember hname ?_ (fun other hne => h.member?_of_ne hne) ?_
  · intro member hmember
    rcases h.mem hmember with hmem | rfl
    · exact hsound member hmem
    · exact ⟨rfl, fun _ => .null⟩
  · intro t ht
    obtain ⟨t', ht', hsame⟩ := h.member? ht
    exact ⟨t', ht', fun target htarget => hsame ▸ htarget⟩

/-- A record that is told anew keeps the limits of the reader. -/
theorem RecordRelinked.keeps {texts : List String} {t t' : Tree} {ofKind : Json.Numeral → Prop}
    {depth : Nat} (h : RecordRelinked texts t t') (ht : t.Keeps ofKind depth) :
    t'.Keeps ofKind depth := by
  cases h with
  | @object fields fields' hfields =>
    cases ht with
    | object hkeys hvalues =>
      refine .object (hfields.keys hkeys) fun field hfield => ?_
      rcases hfields.mem hfield with hmem | rfl
      · exact hvalues field hmem
      · exact .null
  | null =>
    cases ht with
    | array hitems =>
      rw [List.forall_mem_append] at hitems
      exact .array (List.forall_mem_append.mpr ⟨hitems.1, List.forall_mem_singleton.mpr .null⟩)
  | out =>
    cases ht with
    | array hitems => exact .array (List.forall_mem_append.mp hitems).1

theorem keeps_array_of_item {ofKind : Json.Numeral → Prop} {depth : Nat} {before after : List Tree}
    {t t' : Tree} (h : ∀ depth, t.Keeps ofKind depth → t'.Keeps ofKind depth)
    (hlist : (Tree.array (before ++ t :: after)).Keeps ofKind depth) :
    (Tree.array (before ++ t' :: after)).Keeps ofKind depth := by
  cases hlist with
  | array hitems =>
    rw [List.forall_mem_append, List.forall_mem_cons] at hitems
    obtain ⟨hbefore, hitem, hafter⟩ := hitems
    refine .array (List.forall_mem_append.mpr ⟨hbefore, List.forall_mem_cons.mpr ⟨?_, hafter⟩⟩)
    exact h _ hitem

theorem carries_list {β : Type} {item? : Tree → Option β} {before after : List Tree} {t t' : Tree}
    (h : ∀ b, item? t = some b → item? t' = some b) : Carries (list? item?)
      (member? name (front ++ (some name, .array (before ++ t :: after)) :: back))
      (member? name (front ++ (some name, .array (before ++ t' :: after)) :: back)) := by
  intro found hfound
  obtain ⟨rfl, hrest⟩ := member?_self hfound
  exact ⟨_, member?_self_iff.mpr ⟨rfl, hrest⟩, fun _ => list?_of_item h⟩

theorem Preserves.within {shape : Shape} {texts : List String} {before after : List Tree}
    {t t' : Tree} (hsound : Sound (front ++ (some name, .array (before ++ t :: after)) :: back))
    (hname : (name, shape) ∈ bodyMembers kind) (htexts : shape.recordTexts? = some texts)
    (h : RecordRelinked texts t t') :
    Preserves kind (front ++ (some name, .array (before ++ t :: after)) :: back)
      (front ++ (some name, .array (before ++ t' :: after)) :: back) := by
  refine .ofMember hname ?_ (fun other hne => ?_) ?_
  · obtain ⟨hlist, hrest⟩ := sound_insert_iff.mp hsound
    refine sound_insert_iff.mpr ⟨⟨rfl, fun hplace => ?_⟩, hrest⟩
    exact keeps_array_of_item (fun _ => h.keeps) (hlist.value hplace)
  · rw [member?_of_ne hne, member?_of_ne hne]
  · cases shape with
    | text | link => cases htexts
    | entries =>
      cases htexts
      exact carries_list fun _ => entry?_relinked h
    | cases =>
      cases htexts
      exact carries_list fun _ => case?_relinked h

theorem Retold.preserves (h : Retold Json.Numeral.HasValue kind fields fields')
    (hsound : Sound fields) : Preserves kind fields fields' := by
  cases h with
  | permuted hperm => exact .permuted hsound hperm
  | extended hname hvalue => exact .extended hsound hname hvalue
  | relinked hname hlink => exact .relinked hsound hname hlink
  | within hname htexts hrecord => exact .within hsound hname htexts hrecord

/-- A node that is told anew again and again is the same. -/
theorem node?_of_retold {n : Node Float32} (h : node? (.object fields) = some n)
    (hretold : Relation.ReflTransGen (Retold Json.Numeral.HasValue n.kind) fields fields') :
    node? (.object fields') = some n := by
  induction hretold with
  | refl => exact h
  | tail _ hstep ih => exact node?_of_preserves ih (hstep.preserves (sound_of_node? ih))

/-- A member that no node of the kind has is passed over just if it is evaluated. -/
theorem node?_extended_iff {n : Node Float32} (h : node? (.object (front ++ back)) = some n)
    (hname : name ∉ memberNames n.kind) :
    node? (.object (front ++ (some name, value) :: back)) = some n ↔ Evaluates value := by
  constructor
  · intro hread
    refine (sound_insert_iff.mp (sound_of_node? hread)).1.value fun hplace => ?_
    exact hname (List.mem_append_left _ (List.mem_append_left _ hplace))
  · intro hvalue
    exact node?_of_retold h (.single (.extended hname hvalue))

/-- **Reading a node ignores its presentation. Told with its members in another order, with members
that no node of its kind has, and with null or nothing for empty links, it is the same node. Another
member has to keep the limits of the reader, as the node is not read otherwise.** -/
theorem node?_retold {fields : TreeFields} {n : Node Float32}
    (h : node? (.object fields) = some n) :
    (∀ fields', Relation.ReflTransGen (Retold Json.Numeral.HasValue n.kind) fields fields' →
      node? (.object fields') = some n) ∧
    (∀ front back name value, fields = front ++ back → name ∉ memberNames n.kind →
      (node? (.object (front ++ (some name, value) :: back)) = some n ↔
        value.Keeps Json.Numeral.HasValue innerDepth)) := by
  refine ⟨fun fields' hretold => node?_of_retold h hretold, ?_⟩
  rintro front back name value rfl hname
  exact node?_extended_iff h hname

/-- The id and the place of a node. -/
def somewhere : TreeFields :=
  [(some "id", .string (some "a")), (some "x", .number ⟨false, ['1'], [], none⟩),
    (some "y", .number ⟨true, ['2'], ['5'], none⟩)]

/-- The kind of a switch comes first, there is a member of another kind of node, and the link of a
case, which is an array, is left out. -/
theorem node?_retold_switch :
    let kind := (some "kind", Tree.string (some "switch"))
    let stray := (some "text", Tree.array [.number ⟨false, ['1'], [], some 300⟩])
    let cases (link : List Tree) := (some "cases", Tree.array [.array (.string (some "c") :: link)])
    ∃ n, node? (.object (somewhere ++ [cases [.string (some "")], kind])) = some n ∧
      n.kind = .switch ∧ node? (.object (kind :: stray :: (somewhere ++ [cases []]))) = some n := by
  intro kind stray cases
  have hread : ((node? (.object (somewhere ++ [cases [.string (some "")], kind]))).map
      (·.kind)) = some .switch := by decide +kernel
  obtain ⟨n, hn, hkind⟩ := Option.map_eq_some_iff.mp hread
  refine ⟨n, hn, hkind, (node?_retold hn).1 _ ?_⟩
  rw [hkind]
  have hlink : Retold Json.Numeral.HasValue .switch
      (somewhere ++ [cases [.string (some "")], kind]) (somewhere ++ [cases [], kind]) :=
    @Retold.within _ _ somewhere [kind] "cases" .cases ["conditionStr"] [] []
      (.array ([.string (some "c")] ++ [.string (some "")])) (.array [.string (some "c")])
      (by decide) rfl (.out rfl)
  have hkindFirst : Retold Json.Numeral.HasValue .switch (somewhere ++ [cases [], kind])
      (kind :: (somewhere ++ [cases []])) := by
    refine .permuted ?_
    have hlast : somewhere ++ [cases [], kind] = (somewhere ++ [cases []]) ++ [kind] := rfl
    rw [hlast]
    exact List.perm_append_comm
  have hstray : Retold Json.Numeral.HasValue .switch ([kind] ++ (somewhere ++ [cases []]))
      ([kind] ++ stray :: (somewhere ++ [cases []])) := by
    refine .extended (by decide) (.array (List.forall_mem_singleton.mpr (.number ?_)))
    show (Json.Numeral.value? _).isSome = true
    decide +kernel
  exact .tail (.tail (.single hlink) hkindFirst) hstray

/-- The digits of a double just below the greatest one. Multiplied by the power of ten, they are
rounded above it. -/
def edge : Json.Numeral := ⟨false, "1797693134862315700".toList, [], some 290⟩

/-- A member is not always passed over: a number that a double could hold need not be found by the
reader, and a string may have no text. -/
theorem not_every_member_passed_over :
    (¬ ∀ (fields fields' : TreeFields) (n : Node Float32), node? (.object fields) = some n →
      Relation.ReflTransGen (Retold Json.Numeral.InDoubleRange n.kind) fields fields' →
      node? (.object fields') = some n) ∧
    (node? (.object (somewhere ++ [(some "kind", .string (some "end"))]))).isSome = true ∧
    node? (.object (somewhere ++ [(some "kind", .string (some "end")),
      (some "note", .string none)])) = none := by
  let fields : TreeFields := somewhere ++ [(some "kind", .string (some "end"))]
  have hread : ((node? (.object fields)).map (·.kind)) = some .terminal := by decide +kernel
  obtain ⟨n, hn, hkind⟩ := Option.map_eq_some_iff.mp hread
  have hnone : ∀ value ∈ [Tree.number edge, .string none],
      (node? (.object (fields ++ [(some "note", value)]))).isNone = true := by decide +kernel
  rw [List.forall_mem_cons, List.forall_mem_singleton] at hnone
  refine ⟨fun hall => ?_, Option.isSome_of_eq_some hn, Option.isNone_iff_eq_none.mp hnone.2⟩
  have hrange : edge.InDoubleRange := by decide +kernel
  have hname : "note" ∉ memberNames n.kind := by
    rw [hkind]
    decide
  have hretold : Retold Json.Numeral.InDoubleRange n.kind (fields ++ [])
      (fields ++ (some "note", .number edge) :: []) := .extended hname (.number hrange)
  rw [List.append_nil] at hretold
  have hnumber := hnone.1
  rw [hall _ _ n hn (.single hretold)] at hnumber
  cases hnumber

end EventGraph.Document
