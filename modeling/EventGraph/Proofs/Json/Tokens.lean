import EventGraph.Proofs.Json.Numeral
import EventGraph.Proofs.Json.Quotation

/-!
# Tokens and the space between them

What the reader makes of one token and what follows it. Space between two tokens is passed over,
of whatever kind and length it is.
-/

namespace EventGraph.Json

namespace Tree

/-! ### Space between tokens -/

/-- Text that the reader passes over between tokens. -/
def IsGap (gap : List Char) : Prop := ∀ c ∈ gap, isSpace c = true

section gap

variable {gap : List Char} (hgap : IsGap gap) (bound : Nat) (cs : List Char)

include hgap

theorem skipSpace_gap : skipSpace (gap ++ cs) = skipSpace cs := List.dropWhile_append_of_pos hgap

theorem value_gap : value bound (gap ++ cs) = value bound cs := by
  cases bound with
  | zero => rw [value, value]
  | succ bound => simp only [value, skipSpace_gap hgap]

theorem items_gap : items bound (gap ++ cs) = items bound cs := by
  cases bound with
  | zero => rw [items, items]
  | succ bound => simp only [items, value_gap hgap]

theorem fields_gap : fields bound (gap ++ cs) = fields bound cs := by
  cases bound with
  | zero => rw [fields, fields]
  | succ bound => simp only [fields, skipSpace_gap hgap]

/-- Space and a bracket or a comma end a numeral. -/
theorem endsNumeral_gap {c : Char} (hc : continuesNumeral c = false) :
    EndsNumeral (gap ++ c :: cs) := by
  cases gap with
  | nil => exact hc
  | cons g gap =>
    have hspace : isSpace g = true := hgap g List.mem_cons_self
    have hcases : g = ' ' ∨ g = '\n' ∨ g = '\t' ∨ g = '\r' := by
      simpa [isSpace, or_assoc] using hspace
    rcases hcases with rfl | rfl | rfl | rfl <;> rfl

end gap

theorem items_skipSpace (bound : Nat) (cs : List Char) :
    items bound (skipSpace cs) = items bound cs := by
  have hgap : IsGap (cs.takeWhile isSpace) := List.all_eq_true.mp List.all_takeWhile
  rw [skipSpace, ← items_gap hgap, List.takeWhile_append_dropWhile]

theorem fields_skipSpace (bound : Nat) (cs : List Char) :
    fields bound (skipSpace cs) = fields bound cs := by
  have hgap : IsGap (cs.takeWhile isSpace) := List.all_eq_true.mp List.all_takeWhile
  rw [skipSpace, ← fields_gap hgap, List.takeWhile_append_dropWhile]

/-! ### One token at a time -/

section tokens

variable {bound : Nat} {cs more rest gap : List Char} {item : Tree} {tree : Tree}

/-- No item begins with the closing bracket. -/
theorem items_bracket (bound : Nat) (rest : List Char) : items bound (']' :: rest) = none := by
  cases bound with
  | zero => rfl
  | succ bound =>
    cases bound with
    | zero => rfl
    | succ bound => rfl

theorem fields_brace (bound : Nat) (rest : List Char) : fields bound ('\x7d' :: rest) = none := by
  cases bound with
  | zero => rfl
  | succ bound => rfl

theorem value_array {trees : List Tree} (h : items bound cs = some (trees, rest)) :
    value (bound + 1) ('[' :: cs) = some (.array trees, rest) := by
  have hskip : skipSpace ('[' :: cs) = '[' :: cs := rfl
  rw [← items_skipSpace] at h
  simp only [value, hskip]
  split
  · rename_i hclose
    rw [hclose, items_bracket] at h
    cases h
  · rw [h]
    rfl

theorem value_object {trees : List (Option String × Tree)}
    (h : fields bound cs = some (trees, rest)) :
    value (bound + 1) ('\x7b' :: cs) = some (.object trees, rest) := by
  have hskip : skipSpace ('\x7b' :: cs) = '\x7b' :: cs := rfl
  rw [← fields_skipSpace] at h
  simp only [value, hskip]
  split
  · rename_i hclose
    rw [hclose, fields_brace] at h
    cases h
  · rw [h]
    rfl

theorem items_last (hgap : IsGap gap) (h : value bound cs = some (item, gap ++ ']' :: rest)) :
    items (bound + 1) cs = some ([item], rest) := by
  have hskip : skipSpace (gap ++ ']' :: rest) = ']' :: rest := skipSpace_gap hgap _
  simp only [items, h, bind, Option.bind_some, hskip]
  rfl

theorem items_more {trees : List Tree} (h : value bound cs = some (item, ',' :: more))
    (hmore : items bound more = some (trees, rest)) :
    items (bound + 1) cs = some (item :: trees, rest) := by
  have hskip : skipSpace (',' :: more) = ',' :: more := rfl
  simp only [items, h, bind, Option.bind_some, hskip, hmore]
  rfl

/-- A field is read from its key on. -/
theorem fields_key (key : String) (hgap : IsGap gap) :
    fields (bound + 1) (stringChars key ++ ':' :: (gap ++ cs)) = (do
      let (item, rest) ← value bound cs
      match skipSpace rest with
      | ',' :: rest =>
        let (more, rest) ← fields bound rest
        pure ((some key, item) :: more, rest)
      | '\x7d' :: rest => pure ([(some key, item)], rest)
      | _ => none) := by
  have hstart : skipSpace (stringChars key ++ ':' :: (gap ++ cs)) =
      '"' :: (key.toList.flatMap escapedChar ++ '"' :: ':' :: (gap ++ cs)) := by
    simp only [stringChars, List.cons_append, List.append_assoc, List.nil_append]
    rfl
  have hcolon : skipSpace (':' :: (gap ++ cs)) = ':' :: (gap ++ cs) := rfl
  simp only [fields, hstart, string?_escaped, bind, Option.bind_some, hcolon]
  rewrite [value_gap hgap]
  rfl

theorem fields_last (key : String) (hcolon : IsGap more) (hgap : IsGap gap)
    (h : value bound cs = some (item, gap ++ '\x7d' :: rest)) :
    fields (bound + 1) (stringChars key ++ ':' :: (more ++ cs)) =
      some ([(some key, item)], rest) := by
  have hskip : skipSpace (gap ++ '\x7d' :: rest) = '\x7d' :: rest := skipSpace_gap hgap _
  rw [fields_key key hcolon]
  simp only [h, bind, Option.bind_some, hskip]
  rfl

theorem fields_more (key : String) {trees : List (Option String × Tree)} (hcolon : IsGap gap)
    (h : value bound cs = some (item, ',' :: more))
    (hmore : fields bound more = some (trees, rest)) :
    fields (bound + 1) (stringChars key ++ ':' :: (gap ++ cs)) =
      some ((some key, item) :: trees, rest) := by
  have hskip : skipSpace (',' :: more) = ',' :: more := rfl
  rw [fields_key key hcolon]
  simp only [h, bind, Option.bind_some, hskip, hmore]
  rfl

end tokens

/-! ### Scalars -/

/-- A text that is read as one value, whatever stands behind it. -/
def ReadsAs (text : List Char) (t : Tree) : Prop :=
  ∀ bound rest, EndsNumeral rest → value (bound + 1) (text ++ rest) = some (t, rest)

theorem readsAs_null : ReadsAs "null".toList .null := fun _ _ _ => rfl

theorem readsAs_string (s : String) : ReadsAs (stringChars s) (.string (some s)) := by
  intro bound rest _
  have hstart : skipSpace (stringChars s ++ rest) =
      '"' :: (s.toList.flatMap escapedChar ++ '"' :: rest) := by
    simp only [stringChars, List.cons_append, List.append_assoc, List.nil_append]
    rfl
  simp only [value, hstart, string?_escaped, Option.map_some]

/-- A numeral is what a sign or a digit begins. -/
theorem value_of_numeralStart {c : Char} (hc : c.isDigit = true ∨ c = '-') (bound : Nat)
    (cs : List Char) :
    value (bound + 1) (c :: cs) = (numeral? (c :: cs)).map fun (n, rest) => (.number n, rest) := by
  have hne (other : Char) (hdigit : other.isDigit = false) (hminus : other ≠ '-') :
      c ≠ other := by
    rintro rfl
    rcases hc with hd | hm
    · rw [hd] at hdigit
      cases hdigit
    · exact hminus hm
  have hspace : isSpace c = false := by
    simp [isSpace, hne ' ' rfl (by decide), hne '\n' rfl (by decide),
      hne '\t' rfl (by decide), hne '\r' rfl (by decide)]
  have hskip : skipSpace (c :: cs) = c :: cs := by
    rw [skipSpace, List.dropWhile_cons, hspace]
    rfl
  simp only [value, hskip]
  split
  case h_7 => rfl
  all_goals
    rename_i hcons
    obtain ⟨rfl, -⟩ := List.cons.inj hcons
    exact absurd rfl (hne _ rfl (by decide))

theorem readsAs_numeral {n : Numeral} (h : n.WellFormed) : ReadsAs n.chars (.number n) := by
  intro bound rest hrest
  have hread := numeral?_chars h hrest
  obtain ⟨c, cs, hc, hcons⟩ := h.start
  rw [hcons, List.cons_append] at hread ⊢
  rw [value_of_numeralStart hc, hread]
  rfl

end Tree

end EventGraph.Json
