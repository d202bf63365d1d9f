import EventGraph.Proofs.Text.Pieces

/-!
# Words and letters

Cutting a text loses only what it is cut at. So the words of a text hold its letters, which are
the characters that are not blank, in order, and so do its lines.
-/

namespace EventGraph.Text

/-- The characters of a text that are not blank. -/
def letters (cs : List Char) : List Char := cs.filter fun c => !isBlank c

/-- A word is not empty and holds letters only. -/
structure IsWord (word : List Char) : Prop where
  ne_nil : word ≠ []
  letters : ∀ c ∈ word, isBlank c = false

variable {cs : List Char}

theorem flatten_splitWhere {α : Type} (p : α → Bool) (as : List α) :
    (splitWhere p as).flatten = as.filter fun a => !p a := by
  induction as with
  | nil => rfl
  | cons a as ih =>
    rw [splitWhere_cons, List.filter_cons]
    cases p a with
    | true => exact ih
    | false =>
      obtain ⟨piece, pieces, hpieces⟩ := List.exists_cons_of_ne_nil (splitWhere_ne_nil p as)
      rw [hpieces] at ih ⊢
      show a :: (piece :: pieces).flatten = _
      rw [ih]
      rfl

theorem letters_append (cs ds : List Char) : letters (cs ++ ds) = letters cs ++ letters ds :=
  List.filter_append ..

theorem letters_eq_self (h : ∀ c ∈ cs, isBlank c = false) : letters cs = cs := by
  rw [letters, List.filter_eq_self]
  intro c hc
  rw [h c hc]
  rfl

theorem letters_eq_nil_iff : letters cs = [] ↔ ∀ c ∈ cs, isBlank c = true := by
  simp [letters]

theorem flatten_words (cs : List Char) : (words cs).flatten = letters cs := by
  rw [words, List.flatten_filter_not_isEmpty, flatten_splitWhere, letters]

theorem isWord_of_mem_words {word : List Char} (h : word ∈ words cs) : IsWord word := by
  obtain ⟨hpiece, hne⟩ := List.mem_filter.mp h
  constructor
  · rintro rfl
    cases hne
  · exact eq_false_of_mem_splitWhere word hpiece

theorem words_eq_nil_iff : words cs = [] ↔ ∀ c ∈ cs, isBlank c = true := by
  rw [← letters_eq_nil_iff, ← flatten_words]
  constructor
  · intro h
    rw [h]
    rfl
  · intro h
    rw [List.eq_nil_iff_forall_not_mem]
    intro word hword
    exact (isWord_of_mem_words hword).ne_nil (List.flatten_eq_nil_iff.mp h word hword)

/-- A line feed is blank, so the lines of a text hold all its letters. -/
theorem letters_flatten_lines (cs : List Char) : letters (lines cs).flatten = letters cs := by
  rw [lines, flatten_splitWhere, letters, letters, List.filter_filter]
  apply List.filter_congr
  intro c _
  by_cases hc : c = '\n'
  · rw [hc]
    rfl
  · simp [hc]

end EventGraph.Text
