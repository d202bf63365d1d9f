import EventGraph.Text.Blank
import Mathlib.Data.List.DropRight

/-!
# Trimmed texts

Trimming takes blanks off both ends of a text and nothing else, and a text that neither begins
nor ends with a blank stays as it is.
-/

namespace EventGraph.Text

variable {cs front : List Char} {c d : Char}

theorem dropEndWhile_eq_rdropWhile {α : Type} (p : α → Bool) (as : List α) :
    dropEndWhile p as = as.rdropWhile p := rfl

/-- A text is its trimmed form between blanks. -/
theorem exists_eq_append_trim (cs : List Char) :
    ∃ front back, cs = front ++ (trim cs ++ back) ∧ (∀ c ∈ front, isBlank c = true) ∧
      ∀ c ∈ back, isBlank c = true := by
  refine ⟨cs.takeWhile isBlank, (cs.dropWhile isBlank).rtakeWhile isBlank, ?_, ?_, ?_⟩
  · rw [trim, dropEndWhile_eq_rdropWhile, List.rdropWhile_append_rtakeWhile,
      List.takeWhile_append_dropWhile]
  · intro c hc
    exact List.mem_takeWhile_imp hc
  · intro c hc
    exact List.mem_rtakeWhile_imp hc

theorem trim_append_left (h : ∀ c ∈ front, isBlank c = true) (cs : List Char) :
    trim (front ++ cs) = trim cs := by
  rw [trim, trim, List.dropWhile_append_of_pos h]

theorem trim_concat_of_isBlank (h : isBlank c = true) (cs : List Char) :
    trim (cs ++ [c]) = trim cs := by
  rw [trim, trim, List.dropWhile_append]
  split
  · rename_i hnil
    have hc : [c].dropWhile isBlank = [] := by rw [List.dropWhile_cons_of_pos h, List.dropWhile_nil]
    rw [List.isEmpty_iff.mp hnil, hc]
  · rw [dropEndWhile_eq_rdropWhile, dropEndWhile_eq_rdropWhile, List.rdropWhile_concat_pos _ _ _ h]

theorem trim_eq_nil_iff : trim cs = [] ↔ ∀ c ∈ cs, isBlank c = true := by
  constructor
  · intro h
    obtain ⟨front, back, hcs, hfront, hback⟩ := exists_eq_append_trim cs
    rw [hcs, h, List.nil_append]
    exact List.forall_mem_append.mpr ⟨hfront, hback⟩
  · intro h
    have hnil : cs.dropWhile isBlank = [] := List.dropWhile_eq_nil_iff.mpr h
    rw [trim, hnil]
    rfl

/-- What neither begins nor ends with a blank is trimmed. -/
theorem trim_eq_self (hhead : cs.head? = some c) (hc : isBlank c = false)
    (hlast : cs.getLast? = some d) (hd : isBlank d = false) : trim cs = cs := by
  have hfront : cs.dropWhile isBlank = cs := by
    rw [List.dropWhile_eq_self_iff]
    intro hpos
    rw [List.head?_eq_getElem?, List.getElem?_eq_getElem hpos] at hhead
    simp [Option.some.inj hhead, hc]
  have hback : cs.rdropWhile isBlank = cs := by
    rw [List.rdropWhile_eq_self_iff]
    intro hne
    rw [List.getLast?_eq_some_getLast hne] at hlast
    simp [Option.some.inj hlast, hd]
  rw [trim, hfront, dropEndWhile_eq_rdropWhile, hback]

theorem exists_trim_cons (h : isBlank c = false) (cs : List Char) :
    ∃ rest, trim (c :: cs) = c :: rest := by
  have hkeep : (c :: cs).dropWhile isBlank = c :: cs := List.dropWhile_cons_of_neg (by simp [h])
  obtain ⟨back, hback⟩ := List.rdropWhile_prefix isBlank (c :: cs)
  have htrim : trim (c :: cs) = (c :: cs).rdropWhile isBlank := by
    rw [trim, hkeep, dropEndWhile_eq_rdropWhile]
  cases hfront : (c :: cs).rdropWhile isBlank with
  | nil =>
    have hall := List.rdropWhile_eq_nil_iff.mp hfront c List.mem_cons_self
    rw [h] at hall
    cases hall
  | cons d rest =>
    rw [hfront] at hback
    obtain ⟨rfl, -⟩ := List.cons.inj hback
    exact ⟨rest, htrim.trans hfront⟩

theorem isBlank_of_head?_trim (h : (trim cs).head? = some c) : isBlank c = false := by
  obtain ⟨rest, hrest⟩ := List.rdropWhile_prefix isBlank (cs.dropWhile isBlank)
  have hhead : (cs.dropWhile isBlank).head? = some c := by
    rw [← hrest, List.head?_append]
    exact Option.or_eq_some_iff.mpr (.inl h)
  have hnot := List.head?_dropWhile_not isBlank cs
  rw [hhead] at hnot
  exact hnot

theorem isBlank_of_getLast?_trim (h : (trim cs).getLast? = some c) : isBlank c = false := by
  rw [trim, dropEndWhile, List.getLast?_reverse] at h
  have hnot := List.head?_dropWhile_not isBlank (cs.dropWhile isBlank).reverse
  rw [h] at hnot
  exact hnot

theorem trim_trim (cs : List Char) : trim (trim cs) = trim cs := by
  by_cases hne : trim cs = []
  · rw [hne]
    rfl
  · have hhead := List.head?_eq_some_head hne
    have hlast := List.getLast?_eq_some_getLast hne
    exact trim_eq_self hhead (isBlank_of_head?_trim hhead) hlast (isBlank_of_getLast?_trim hlast)

end EventGraph.Text
