import EventGraph.Text.Blank
import Mathlib.Data.List.TakeWhile

/-!
# Pieces of a text

Cutting a text and joining its pieces again are inverse to each other, as long as no piece holds
what the text is cut at.
-/

namespace EventGraph.Text

variable {α : Type} {p : α → Bool} {a sep : α} {as front piece : List α} {pieces : List (List α)}

theorem splitWhere_cons (p : α → Bool) (a : α) (as : List α) :
    splitWhere p (a :: as) = if p a then [] :: splitWhere p as else consFirst a (splitWhere p as) :=
  rfl

theorem splitWhere_eq_splitOnP (p : α → Bool) (as : List α) : splitWhere p as = as.splitOnP p := by
  induction as with
  | nil => rfl
  | cons a as ih =>
    rw [splitWhere_cons, List.splitOnP_cons_eq_if_modifyHead, ih]
    cases h : as.splitOnP p with
    | nil => exact absurd h (List.splitOnP_ne_nil p as)
    | cons piece pieces => rfl

/-- A text that is cut at a place has the pieces before it and those behind it. -/
theorem splitWhere_append (hsep : p sep = true) (front rest : List α) :
    splitWhere p (front ++ sep :: rest) = splitWhere p front ++ splitWhere p rest := by
  rw [splitWhere_eq_splitOnP, splitWhere_eq_splitOnP, splitWhere_eq_splitOnP]
  exact List.splitOnP_append_cons front rest hsep

theorem splitWhere_append_cons (hfront : ∀ a ∈ front, p a = false) (hsep : p sep = true)
    (rest : List α) : splitWhere p (front ++ sep :: rest) = front :: splitWhere p rest := by
  rw [splitWhere_eq_splitOnP, splitWhere_eq_splitOnP]
  exact List.splitOnP_append_cons_of_forall_mem hfront sep hsep rest

theorem splitWhere_eq_singleton (h : ∀ a ∈ as, p a = false) : splitWhere p as = [as] := by
  rw [splitWhere_eq_splitOnP]
  exact List.splitOnP_eq_singleton h

theorem length_splitWhere (p : α → Bool) (as : List α) :
    (splitWhere p as).length = 1 + as.countP p := by
  induction as with
  | nil => rfl
  | cons a as ih =>
    rw [splitWhere_cons, List.countP_cons]
    split
    · rw [List.length_cons, ih]
      omega
    · obtain ⟨piece, pieces, hpieces⟩ := List.exists_cons_of_ne_nil (splitWhere_ne_nil p as)
      rw [hpieces] at ih ⊢
      exact ih

theorem forall_mem_of_mem_consFirst {P : α → Prop} (ha : P a)
    (h : ∀ piece ∈ pieces, ∀ b ∈ piece, P b) : ∀ piece ∈ consFirst a pieces, ∀ b ∈ piece, P b := by
  cases pieces with
  | nil => simpa [consFirst] using ha
  | cons piece rest =>
    obtain ⟨hpiece, hrest⟩ := List.forall_mem_cons.mp h
    exact List.forall_mem_cons.mpr ⟨List.forall_mem_cons.mpr ⟨ha, hpiece⟩, hrest⟩

theorem eq_false_of_mem_splitWhere : ∀ piece ∈ splitWhere p as, ∀ a ∈ piece, p a = false := by
  induction as with
  | nil => simp [splitWhere]
  | cons a as ih =>
    rw [splitWhere_cons]
    split
    · exact List.forall_mem_cons.mpr ⟨List.forall_mem_nil _, ih⟩
    · rename_i ha
      exact forall_mem_of_mem_consFirst (Bool.eq_false_iff.mpr ha) ih

section First

variable [DecidableEq α]

theorem not_mem_takeWhile_ne (a : α) (as : List α) : a ∉ as.takeWhile (· ≠ a) := by
  intro ha
  have hne := List.mem_takeWhile_imp ha
  simp at hne

/-- A list is taken whole, or up to the first place where the element stands. -/
theorem dropWhile_ne_cases (a : α) (as : List α) :
    (as.dropWhile (· ≠ a) = [] ∧ as.takeWhile (· ≠ a) = as) ∨
      ∃ rest, as.dropWhile (· ≠ a) = a :: rest ∧ as.takeWhile (· ≠ a) ++ a :: rest = as := by
  have hsplit := List.takeWhile_append_dropWhile (p := fun b : α => decide (b ≠ a)) (l := as)
  have hnot := List.head?_dropWhile_not (fun b : α => decide (b ≠ a)) as
  cases hdrop : as.dropWhile (· ≠ a) with
  | nil =>
    rw [hdrop, List.append_nil] at hsplit
    exact .inl ⟨rfl, hsplit⟩
  | cons b rest =>
    rw [hdrop] at hsplit hnot
    obtain rfl : b = a := by simpa using hnot
    exact .inr ⟨rest, rfl, hsplit⟩

end First

section Separator

variable [BEq α] [LawfulBEq α]

theorem intercalate_splitWhere (a : α) (as : List α) :
    [a].intercalate (splitWhere (· == a) as) = as := by
  rw [splitWhere_eq_splitOnP]
  exact List.intercalate_splitOn a

theorem splitWhere_intercalate (hne : pieces ≠ []) (h : ∀ piece ∈ pieces, a ∉ piece) :
    splitWhere (· == a) ([a].intercalate pieces) = pieces := by
  rw [splitWhere_eq_splitOnP]
  exact List.splitOn_intercalate a h hne

theorem not_mem_of_mem_splitWhere (h : piece ∈ splitWhere (· == a) as) : a ∉ piece := by
  intro ha
  have hsep := eq_false_of_mem_splitWhere piece h a ha
  simp at hsep

end Separator

end EventGraph.Text
