import EventGraph.Proofs.Json.Tokens

/-!
# Printed values are read back

The compact and the indented form of a value differ in the space between tokens only. Whatever
that space is, the reader finds the tree of the value.
-/

namespace EventGraph.Json

/-- The space a printer sets: before the items and the closing bracket of a level, and after the
colon of a field. -/
structure Spacing where
  newItem : Nat → List Char
  afterColon : List Char
  isGap_newItem : ∀ level, Tree.IsGap (newItem level)
  isGap_afterColon : Tree.IsGap afterColon

namespace Spacing

def none : Spacing := ⟨fun _ => [], [], fun _ => List.forall_mem_nil _, List.forall_mem_nil _⟩

theorem isGap_newLine (level : Nat) : Tree.IsGap (Layered.newLine level) := by
  intro c hc
  rcases List.mem_cons.mp hc with rfl | hblank
  · rfl
  · rw [List.eq_of_mem_replicate hblank]
    rfl

def lines : Spacing := ⟨Layered.newLine, [' '], isGap_newLine, by simp [Tree.IsGap, Tree.isSpace]⟩

end Spacing

namespace Layered

/-! ### One form for all printers -/

mutual

def spacedChars (s : Spacing) (level : Nat) : Layered → List Char
  | scalar text => text
  | array [] => ['[', ']']
  | array items => '[' :: (s.newItem (level + 1) ++ spacedItems s level items)
  | object [] => ['\x7b', '\x7d']
  | object fields => '\x7b' :: (s.newItem (level + 1) ++ spacedFields s level fields)

def spacedItems (s : Spacing) (level : Nat) : List Layered → List Char
  | [] => []
  | [item] => spacedChars s (level + 1) item ++ (s.newItem level ++ [']'])
  | item :: rest =>
    spacedChars s (level + 1) item ++ ',' :: (s.newItem (level + 1) ++ spacedItems s level rest)

def spacedFields (s : Spacing) (level : Nat) : List (String × Layered) → List Char
  | [] => []
  | [(key, item)] => stringChars key ++
      ':' :: (s.afterColon ++ (spacedChars s (level + 1) item ++ (s.newItem level ++ ['\x7d'])))
  | (key, item) :: rest => stringChars key ++
      ':' :: (s.afterColon ++ (spacedChars s (level + 1) item ++
        ',' :: (s.newItem (level + 1) ++ spacedFields s level rest)))

end

mutual

theorem spacedChars_none (level : Nat) :
    ∀ v : Layered, spacedChars .none level v = compactChars v
  | scalar _ => rfl
  | array [] => rfl
  | array (item :: rest) => congrArg ('[' :: ·) (spacedItems_none level (item :: rest) nofun)
  | object [] => rfl
  | object (field :: rest) =>
    congrArg ('\x7b' :: ·) (spacedFields_none level (field :: rest) nofun)

theorem spacedItems_none (level : Nat) :
    ∀ items : List Layered, items ≠ [] → spacedItems .none level items = compactItems items
  | [], h => absurd rfl h
  | [item], _ => by
    rw [spacedItems, compactItems, spacedChars_none (level + 1) item]
    rfl
  | item :: next :: rest, _ => by
    rw [spacedItems, compactItems, spacedChars_none (level + 1) item,
      spacedItems_none level (next :: rest) nofun]
    · rfl
    · exact nofun
    · exact nofun

theorem spacedFields_none (level : Nat) :
    ∀ fields : List (String × Layered),
      fields ≠ [] → spacedFields .none level fields = compactFields fields
  | [], h => absurd rfl h
  | [(key, item)], _ => by
    rw [spacedFields, compactFields, spacedChars_none (level + 1) item]
    rfl
  | (key, item) :: next :: rest, _ => by
    rw [spacedFields, compactFields, spacedChars_none (level + 1) item,
      spacedFields_none level (next :: rest) nofun]
    · rfl
    · exact nofun
    · exact nofun

end

mutual

theorem spacedChars_lines : ∀ (level : Nat) (v : Layered),
    spacedChars .lines level v = indentedChars level v
  | _, scalar _ => rfl
  | _, array [] => rfl
  | level, array (item :: rest) => by
    rw [spacedChars, indentedChars, spacedItems_lines level (item :: rest)]
    · rfl
    · exact nofun
    · exact nofun
  | _, object [] => rfl
  | level, object (field :: rest) => by
    rw [spacedChars, indentedChars, spacedFields_lines level (field :: rest)]
    · rfl
    · exact nofun
    · exact nofun

theorem spacedItems_lines : ∀ (level : Nat) (items : List Layered),
    spacedItems .lines level items = indentedItems level items
  | _, [] => rfl
  | level, [item] => by
    rw [spacedItems, indentedItems, spacedChars_lines (level + 1) item, List.append_assoc]
    rfl
  | level, item :: next :: rest => by
    rw [spacedItems, indentedItems, spacedChars_lines (level + 1) item,
      spacedItems_lines level (next :: rest), List.append_assoc]
    · rfl
    · exact nofun
    · exact nofun

theorem spacedFields_lines : ∀ (level : Nat) (fields : List (String × Layered)),
    spacedFields .lines level fields = indentedFields level fields
  | _, [] => rfl
  | level, [(key, item)] => by
    rw [spacedFields, indentedFields, spacedChars_lines (level + 1) item]
    simp only [List.append_assoc, List.cons_append, List.nil_append]
    rfl
  | level, (key, item) :: next :: rest => by
    rw [spacedFields, indentedFields, spacedChars_lines (level + 1) item,
      spacedFields_lines level (next :: rest)]
    · simp only [List.append_assoc, List.cons_append, List.nil_append]
      rfl
    · exact nofun
    · exact nofun

end

/-! ### The tree of a printed value -/

mutual

/-- Scalars are what their own texts read as. -/
def tree : Layered → Tree
  | scalar text => (Tree.read? (String.ofList text)).getD .null
  | array items => .array (itemTrees items)
  | object fields => .object (fieldTrees fields)

def itemTrees : List Layered → List Tree
  | [] => []
  | item :: rest => tree item :: itemTrees rest

def fieldTrees : List (String × Layered) → List (Option String × Tree)
  | [] => []
  | (key, item) :: rest => (some key, tree item) :: fieldTrees rest

end

mutual

/-- All scalars have texts that are read on their own. -/
def Readable : Layered → Prop
  | scalar text => ∃ t, Tree.ReadsAs text t
  | array items => ReadableItems items
  | object fields => ReadableFields fields

def ReadableItems : List Layered → Prop
  | [] => True
  | item :: rest => Readable item ∧ ReadableItems rest

def ReadableFields : List (String × Layered) → Prop
  | [] => True
  | (_, item) :: rest => Readable item ∧ ReadableFields rest

end

theorem itemTrees_eq_map (items : List Layered) : itemTrees items = items.map tree := by
  induction items with
  | nil => rfl
  | cons item rest ih => rw [itemTrees, ih, List.map_cons]

theorem readableItems_iff {items : List Layered} :
    ReadableItems items ↔ ∀ item ∈ items, item.Readable := by
  induction items with
  | nil => exact iff_of_true trivial (List.forall_mem_nil _)
  | cons item rest ih => rw [ReadableItems, ih, List.forall_mem_cons]

theorem tree_scalar {text : List Char} {t : Tree} (h : Tree.ReadsAs text t) :
    (scalar text).tree = t := by
  have hvalue := h (2 * text.length + 1) [] endsNumeral_nil
  have hskip : Tree.skipSpace [] = [] := rfl
  rw [List.append_nil] at hvalue
  simp only [tree, Tree.read?, String.toList_ofList, hvalue, bind, Option.bind_some, hskip,
    List.isEmpty_nil, if_true, Option.getD_some]

section read

variable (s : Spacing)

mutual

/-- A bound of twice the length of the text is enough. -/
theorem value_spacedChars (v : Layered) (h : v.Readable) (level bound : Nat)
    (hbound : 2 * (spacedChars s level v).length < bound) {rest : List Char}
    (hrest : EndsNumeral rest) :
    Tree.value bound (spacedChars s level v ++ rest) = some (v.tree, rest) := by
  obtain ⟨bound, rfl⟩ : ∃ b, bound = b + 1 := ⟨bound - 1, by omega⟩
  match v with
  | scalar text =>
    rw [Readable] at h
    obtain ⟨t, ht⟩ := h
    rw [tree_scalar ht]
    exact ht bound rest hrest
  | array [] => rfl
  | array (item :: items) =>
    rw [Readable] at h
    rw [spacedChars, List.cons_append, List.append_assoc, tree]
    · refine Tree.value_array ?_
      rw [Tree.items_gap (s.isGap_newItem _)]
      refine items_spacedItems (item :: items) nofun h level bound ?_
      rw [spacedChars, List.length_cons, List.length_append] at hbound
      · omega
      · exact nofun
    · exact nofun
  | object [] => rfl
  | object (field :: fields) =>
    rw [Readable] at h
    rw [spacedChars, List.cons_append, List.append_assoc, tree]
    · refine Tree.value_object ?_
      rw [Tree.fields_gap (s.isGap_newItem _)]
      refine fields_spacedFields (field :: fields) nofun h level bound ?_
      rw [spacedChars, List.length_cons, List.length_append] at hbound
      · omega
      · exact nofun
    · exact nofun

theorem items_spacedItems (items : List Layered) (hitems : items ≠ []) (h : ReadableItems items)
    (level bound : Nat) (hbound : 2 * (spacedItems s level items).length ≤ bound)
    {rest : List Char} :
    Tree.items bound (spacedItems s level items ++ rest) = some (itemTrees items, rest) := by
  match items with
  | [] => exact absurd rfl hitems
  | [item] =>
    rw [ReadableItems] at h
    simp only [spacedItems, List.length_append, List.length_singleton] at hbound
    obtain ⟨bound, rfl⟩ : ∃ b, bound = b + 1 := ⟨bound - 1, by omega⟩
    rw [spacedItems, List.append_assoc, List.append_assoc]
    refine Tree.items_last (s.isGap_newItem level) ?_
    exact value_spacedChars item h.1 (level + 1) bound (by omega)
      (Tree.endsNumeral_gap (s.isGap_newItem level) _ rfl)
  | item :: next :: more =>
    rw [ReadableItems] at h
    rw [spacedItems] at hbound ⊢
    · simp only [List.length_append, List.length_cons] at hbound
      obtain ⟨bound, rfl⟩ : ∃ b, bound = b + 1 := ⟨bound - 1, by omega⟩
      rw [List.append_assoc, List.cons_append, List.append_assoc]
      refine Tree.items_more
        (value_spacedChars item h.1 (level + 1) bound (by omega) rfl) ?_
      rw [Tree.items_gap (s.isGap_newItem _)]
      exact items_spacedItems (next :: more) nofun h.2 level bound (by omega)
    · exact nofun
    · exact nofun

theorem fields_spacedFields (fields : List (String × Layered)) (hfields : fields ≠ [])
    (h : ReadableFields fields) (level bound : Nat)
    (hbound : 2 * (spacedFields s level fields).length ≤ bound) {rest : List Char} :
    Tree.fields bound (spacedFields s level fields ++ rest) = some (fieldTrees fields, rest) := by
  match fields with
  | [] => exact absurd rfl hfields
  | [(key, item)] =>
    rw [ReadableFields] at h
    simp only [spacedFields, List.length_append, List.length_cons] at hbound
    obtain ⟨bound, rfl⟩ : ∃ b, bound = b + 1 := ⟨bound - 1, by omega⟩
    simp only [spacedFields, List.append_assoc, List.cons_append]
    refine Tree.fields_last key s.isGap_afterColon (s.isGap_newItem level) ?_
    exact value_spacedChars item h.1 (level + 1) bound (by omega)
      (Tree.endsNumeral_gap (s.isGap_newItem level) _ rfl)
  | (key, item) :: next :: more =>
    rw [ReadableFields] at h
    rw [spacedFields] at hbound ⊢
    · simp only [List.length_append, List.length_cons] at hbound
      obtain ⟨bound, rfl⟩ : ∃ b, bound = b + 1 := ⟨bound - 1, by omega⟩
      simp only [List.append_assoc, List.cons_append]
      refine Tree.fields_more key s.isGap_afterColon
        (value_spacedChars item h.1 (level + 1) bound (by omega) rfl) ?_
      rw [Tree.fields_gap (s.isGap_newItem _)]
      exact fields_spacedFields (next :: more) nofun h.2 level bound (by omega)
    · exact nofun
    · exact nofun

end

end read

/-- A text that is nothing but a printed value is read as its tree. -/
theorem read?_spacedChars (s : Spacing) {v : Layered} (h : v.Readable) :
    Tree.read? (String.ofList (spacedChars s 0 v)) = some v.tree := by
  have hvalue := value_spacedChars s v h 0 (2 * (spacedChars s 0 v).length + 2) (by omega)
    endsNumeral_nil
  have hskip : Tree.skipSpace [] = [] := rfl
  rw [List.append_nil] at hvalue
  simp only [Tree.read?, String.toList_ofList, hvalue, bind, Option.bind_some, hskip,
    List.isEmpty_nil, if_true]

/-- **Compact text is read back.** -/
theorem read?_compact {v : Layered} (h : v.Readable) : Tree.read? v.compact = some v.tree := by
  rw [compact, ← spacedChars_none 0]
  exact read?_spacedChars .none h

/-- **Indented text is read back as the same tree.** -/
theorem read?_indented {v : Layered} (h : v.Readable) : Tree.read? v.indented = some v.tree := by
  rw [indented, ← spacedChars_lines]
  exact read?_spacedChars .lines h

end Layered

end EventGraph.Json
