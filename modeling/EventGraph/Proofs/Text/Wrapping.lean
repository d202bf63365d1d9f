import EventGraph.Proofs.Number.Order
import EventGraph.Proofs.Text.Words
import EventGraph.Text.Wrap
import Mathlib.Data.List.Chain
import Mathlib.Data.List.Forall2

/-!
# Wrapped text

A paragraph is set word by word on an open line. The rules below say when a word is put on it, when
it is closed and when a word is cut. What is wanted of the lines follows from the rules: no letter
is lost, a line of several characters fits, and a line is closed only where it has to be.
-/

namespace EventGraph.Text

variable {α : Type} [Scalar α]

/-! ### What is wanted of the lines -/

/-- No blank stands at an end of a line or next to another one. -/
structure Tidy (line : List Char) : Prop where
  head : ∀ c, line.head? = some c → isBlank c = false
  last : ∀ c, line.getLast? = some c → isBlank c = false
  single : line.IsChain fun c d => isBlank c = true → isBlank d = false

section Wanted

variable (m : Measurer α) (maxWidth : α)

/-- A line is not too wide, if it is not a single character. -/
def Fits (line : List Char) : Prop := 2 ≤ line.length → ¬ maxWidth < m.width line

/-- A line has to be closed where some letters of the words have been set: before a word that does
not fit behind it, or within a word that does not fit on a line of its own, before a character that
does not fit behind it. -/
inductive Breaks (words : List (List Char)) (set line : List Char) : Prop
  | between (front back : List (List Char)) (word : List Char) :
      words = front ++ word :: back → front.flatten = set →
      ¬ m.width (line ++ ' ' :: word) ≤ maxWidth → Breaks words set line
  | within (front back : List (List Char)) (start rest : List Char) (c : Char) :
      words = front ++ (start ++ c :: rest) :: back → start ≠ [] → front.flatten ++ start = set →
      ¬ m.width (start ++ c :: rest) ≤ maxWidth → maxWidth < m.width (line ++ [c]) →
      Breaks words set line

/-- The lines of a paragraph. -/
structure Wraps (paragraph : List Char) (lines : List (List Char)) : Prop where
  ne_nil : lines ≠ []
  blank : (∀ c ∈ paragraph, isBlank c = true) → lines = [[]]
  filled : ¬ (∀ c ∈ paragraph, isBlank c = true) → [] ∉ lines
  letters : letters lines.flatten = letters paragraph
  fits : ∀ line ∈ lines, Fits m maxWidth line
  tidy : ∀ line ∈ lines, Tidy line
  breaks : ∀ front line next back, lines = front ++ line :: next :: back →
    Breaks m maxWidth (words paragraph) (Text.letters (front ++ [line]).flatten) line

end Wanted

/-! ### The rules of setting -/

section Rules

variable (m : Measurer α) (maxWidth : α)

/-- A word is cut from a piece on: a character is added to the piece unless they are too wide
together. An empty piece takes any character. -/
inductive Cuts : List Char → List Char → List (List Char) → List Char → Prop
  | done {piece : List Char} : Cuts piece [] [] piece
  | grown {piece cs last : List Char} {c : Char} {pieces : List (List Char)} :
      (piece ≠ [] → ¬ maxWidth < m.width (piece ++ [c])) → Cuts (piece ++ [c]) cs pieces last →
      Cuts piece (c :: cs) pieces last
  | closed {piece cs last : List Char} {c : Char} {pieces : List (List Char)} :
      piece ≠ [] → maxWidth < m.width (piece ++ [c]) → Cuts [c] cs pieces last →
      Cuts piece (c :: cs) (piece :: pieces) last

/-- Words are set from an open line on: a word is put on it if it fits, else the line is closed. A
word that does not fit on a line of its own is cut, and what is left of it opens the next line. -/
inductive Sets : List Char → List (List Char) → List (List Char) → Prop
  | done {line : List Char} : Sets line [] [line]
  | joined {line word : List Char} {rest lines : List (List Char)} :
      m.width (joinWord line word) ≤ maxWidth → Sets (joinWord line word) rest lines →
      Sets line (word :: rest) lines
  | closed {line word : List Char} {rest lines : List (List Char)} :
      line ≠ [] → ¬ m.width (line ++ ' ' :: word) ≤ maxWidth → Sets [] (word :: rest) lines →
      Sets line (word :: rest) (line :: lines)
  | cut {word last : List Char} {rest pieces lines : List (List Char)} :
      ¬ m.width word ≤ maxWidth → Cuts m maxWidth [] word pieces last → Sets last rest lines →
      Sets [] (word :: rest) (pieces ++ lines)

end Rules

section Setting

variable {m : Measurer α} {maxWidth : α} {piece cs last line word : List Char} {c : Char}
  {pieces lines words : List (List Char)}

theorem joinWord_of_ne_nil (h : line ≠ []) (word : List Char) :
    joinWord line word = line ++ ' ' :: word := by
  rw [joinWord, if_neg (by simpa using h)]

theorem cuts_breakWord (m : Measurer α) (maxWidth : α) (piece cs : List Char) :
    Cuts m maxWidth piece cs (breakWord m maxWidth piece cs).1
      (breakWord m maxWidth piece cs).2 := by
  induction cs generalizing piece with
  | nil => exact .done
  | cons c cs ih =>
    have hlength : 1 < (piece ++ [c]).length ↔ piece ≠ [] := by
      rw [List.length_append, List.length_singleton, ← List.length_pos_iff]
      omega
    unfold breakWord
    by_cases hclosed : maxWidth < m.width (piece ++ [c]) ∧ piece ≠ []
    · simp only [hlength, hclosed, decide_true, Bool.and_self, ↓reduceIte, ne_eq, not_false_eq_true]
      exact .closed hclosed.2 hclosed.1 (ih [c])
    · have hopen : (decide (maxWidth < m.width (piece ++ [c])) &&
          decide (1 < (piece ++ [c]).length)) = false := by
        rw [Bool.eq_false_iff]
        simpa only [ne_eq, Bool.and_eq_true, decide_eq_true_eq, hlength] using hclosed
      simp only [hopen]
      exact .grown (fun hne hwide => hclosed ⟨hwide, hne⟩) (ih (piece ++ [c]))

theorem sets_wrapWords (m : Measurer α) (maxWidth : α) (line : List Char)
    (words : List (List Char)) :
    Sets m maxWidth line words (wrapWords m maxWidth line words) := by
  induction words generalizing line with
  | nil => exact .done
  | cons word rest ih =>
    have hcut : ¬ m.width word ≤ maxWidth → Sets m maxWidth [] (word :: rest)
        ((breakWord m maxWidth [] word).1 ++
          wrapWords m maxWidth (breakWord m maxWidth [] word).2 rest) := by
      intro hwide
      exact .cut hwide (cuts_breakWord m maxWidth [] word) (ih _)
    rw [wrapWords]
    by_cases hjoined : m.width (joinWord line word) ≤ maxWidth
    · rw [if_pos hjoined]
      exact .joined hjoined (ih (joinWord line word))
    · rw [if_neg hjoined]
      cases line with
      | nil =>
        -- On an empty line the word stands alone, so it has been found not to fit.
        rw [if_neg (show ¬ m.width word ≤ maxWidth from hjoined)]
        exact hcut hjoined
      | cons c line =>
        have hne : c :: line ≠ [] := List.cons_ne_nil c line
        rw [joinWord_of_ne_nil hne] at hjoined
        by_cases hword : m.width word ≤ maxWidth
        · rw [if_pos hword]
          exact .closed hne hjoined (.joined hword (ih word))
        · rw [if_neg hword]
          exact .closed hne hjoined (hcut hword)

/-! ### Letters -/

theorem Cuts.flatten_eq (h : Cuts m maxWidth piece cs pieces last) :
    pieces.flatten ++ last = piece ++ cs := by
  induction h with
  | done => rw [List.flatten_nil, List.nil_append, List.append_nil]
  | grown _ _ ih => rw [ih, List.append_assoc, List.singleton_append]
  | closed _ _ _ ih => rw [List.flatten_cons, List.append_assoc, ih, List.singleton_append]

theorem letters_joinWord (hword : IsWord word) (line : List Char) :
    letters (joinWord line word) = letters line ++ word := by
  have hletters := letters_eq_self hword.letters
  cases line with
  | nil => exact hletters
  | cons c line =>
    have hblank : letters (' ' :: word) = letters word := rfl
    rw [joinWord_of_ne_nil (List.cons_ne_nil c line), letters_append, hblank, hletters]

/-- A piece of a word holds letters only. -/
theorem Cuts.letters_eq (h : Cuts m maxWidth [] word pieces last) (hword : IsWord word) :
    (∀ piece ∈ pieces, ∀ c ∈ piece, isBlank c = false) ∧ ∀ c ∈ last, isBlank c = false := by
  have hflatten := h.flatten_eq
  rw [List.nil_append] at hflatten
  have hall : ∀ c ∈ pieces.flatten ++ last, isBlank c = false := hflatten ▸ hword.letters
  obtain ⟨hpieces, hlast⟩ := List.forall_mem_append.mp hall
  refine ⟨?_, hlast⟩
  intro piece hpiece c hc
  exact hpieces c (List.mem_flatten_of_mem hpiece hc)

theorem Sets.letters_flatten (h : Sets m maxWidth line words lines)
    (hwords : ∀ word ∈ words, IsWord word) :
    letters lines.flatten = letters line ++ words.flatten := by
  induction h with
  | done => rw [List.flatten_singleton, List.flatten_nil, List.append_nil]
  | joined _ _ ih =>
    obtain ⟨hword, hrest⟩ := List.forall_mem_cons.mp hwords
    rw [ih hrest, letters_joinWord hword, List.flatten_cons, List.append_assoc]
  | closed _ _ _ ih =>
    rw [List.flatten_cons, letters_append, ih hwords]
    rfl
  | @cut word last rest pieces lines _ hcuts _ ih =>
    obtain ⟨hword, hrest⟩ := List.forall_mem_cons.mp hwords
    have hflatten : pieces.flatten ++ last = word := hcuts.flatten_eq
    rw [List.flatten_append, letters_append, ih hrest, ← List.append_assoc, ← letters_append,
      hflatten, letters_eq_self hword.letters]
    rfl

/-! ### Empty lines -/

theorem Cuts.nil_notMem (h : Cuts m maxWidth piece cs pieces last) : [] ∉ pieces := by
  induction h with
  | done => exact List.not_mem_nil
  | grown _ _ ih => exact ih
  | closed hne _ _ ih =>
    rw [List.mem_cons, not_or]
    exact ⟨hne.symm, ih⟩

theorem Cuts.last_ne_nil (h : Cuts m maxWidth piece cs pieces last)
    (hne : piece ≠ [] ∨ cs ≠ []) : last ≠ [] := by
  induction h with
  | done => exact hne.resolve_right fun hnil => hnil rfl
  | grown _ _ ih => exact ih (.inl (List.append_ne_nil_of_right_ne_nil _ (List.cons_ne_nil _ _)))
  | closed _ _ _ ih => exact ih (.inl (List.cons_ne_nil _ _))

theorem Sets.ne_nil (h : Sets m maxWidth line words lines) : lines ≠ [] := by
  induction h with
  | done | closed => exact List.cons_ne_nil _ _
  | joined _ _ ih => exact ih
  | cut _ _ _ ih => exact List.append_ne_nil_of_right_ne_nil _ ih

theorem Sets.nil_notMem (h : Sets m maxWidth line words lines)
    (hwords : ∀ word ∈ words, IsWord word) (hne : line ≠ [] ∨ words ≠ []) : [] ∉ lines := by
  induction h with
  | done =>
    rw [List.mem_singleton]
    exact (hne.resolve_right fun hnil => hnil rfl).symm
  | @joined line word rest lines _ _ ih =>
    obtain ⟨hword, hrest⟩ := List.forall_mem_cons.mp hwords
    refine ih hrest (.inl ?_)
    cases line with
    | nil => exact hword.ne_nil
    | cons c line => exact List.cons_ne_nil _ _
  | closed hopen _ _ ih =>
    rw [List.mem_cons, not_or]
    exact ⟨hopen.symm, ih hwords (.inr (List.cons_ne_nil _ _))⟩
  | cut _ hcuts _ ih =>
    obtain ⟨hword, hrest⟩ := List.forall_mem_cons.mp hwords
    rw [List.mem_append, not_or]
    exact ⟨hcuts.nil_notMem, ih hrest (.inl (hcuts.last_ne_nil (.inr hword.ne_nil)))⟩

/-! ### Widths -/

theorem Fits.ofShort (h : line.length ≤ 1) : Fits m maxWidth line := by
  intro hlong
  omega

theorem Fits.ofNot (h : ¬ maxWidth < m.width line) : Fits m maxWidth line := fun _ => h

theorem Cuts.fits (h : Cuts m maxWidth piece cs pieces last) (hpiece : Fits m maxWidth piece) :
    (∀ piece ∈ pieces, Fits m maxWidth piece) ∧ Fits m maxWidth last := by
  induction h with
  | done => exact ⟨List.forall_mem_nil _, hpiece⟩
  | @grown piece cs last c pieces hgrown _ ih =>
    apply ih
    by_cases hne : piece = []
    · rw [hne]
      exact .ofShort (Nat.le_refl 1)
    · exact .ofNot (hgrown hne)
  | closed _ _ _ ih =>
    obtain ⟨hpieces, hlast⟩ := ih (.ofShort (Nat.le_refl 1))
    exact ⟨List.forall_mem_cons.mpr ⟨hpiece, hpieces⟩, hlast⟩

theorem Sets.fits (hnot : ∀ a b : α, a ≤ b → ¬ b < a) (h : Sets m maxWidth line words lines)
    (hline : Fits m maxWidth line) : ∀ line ∈ lines, Fits m maxWidth line := by
  have hempty : Fits m maxWidth [] := .ofShort (Nat.zero_le 1)
  induction h with
  | done => exact List.forall_mem_singleton.mpr hline
  | joined hjoined _ ih => exact ih (.ofNot (hnot _ _ hjoined))
  | closed _ _ _ ih => exact List.forall_mem_cons.mpr ⟨hline, ih hempty⟩
  | cut _ hcuts _ ih =>
    obtain ⟨hpieces, hlast⟩ := hcuts.fits hempty
    exact List.forall_mem_append.mpr ⟨hpieces, ih hlast⟩

/-! ### Blanks -/

theorem Tidy.ofLetters (h : ∀ c ∈ line, isBlank c = false) : Tidy line where
  head c hc := h c (List.mem_of_head? hc)
  last c hc := h c (List.mem_of_getLast? hc)
  single := by
    apply List.Pairwise.isChain
    apply List.pairwise_of_forall_mem_list
    intro c _ d hd _
    exact h d hd

theorem Tidy.joinWord (hline : Tidy line) (hword : IsWord word) : Tidy (joinWord line word) := by
  have htidy : Tidy word := .ofLetters hword.letters
  cases line with
  | nil => exact htidy
  | cons first line =>
    rw [joinWord_of_ne_nil (List.cons_ne_nil first line)]
    have hne := hword.ne_nil
    constructor
    · exact hline.head
    · intro c hc
      rw [List.getLast?_append_of_ne_nil _ (List.cons_ne_nil ' ' word),
        List.getLast?_cons_of_ne_nil hne] at hc
      exact htidy.last c hc
    · apply List.isChain_append.mpr
      refine ⟨hline.single, List.isChain_cons.mpr ⟨?_, htidy.single⟩, ?_⟩
      · intro d hd _
        exact htidy.head d hd
      · intro c hc _ _ hblank
        rw [hline.last c hc] at hblank
        cases hblank

theorem Sets.tidy (h : Sets m maxWidth line words lines) (hwords : ∀ word ∈ words, IsWord word)
    (hline : Tidy line) : ∀ line ∈ lines, Tidy line := by
  have hempty : Tidy [] := .ofLetters (List.forall_mem_nil _)
  induction h with
  | done => exact List.forall_mem_singleton.mpr hline
  | joined _ _ ih =>
    obtain ⟨hword, hrest⟩ := List.forall_mem_cons.mp hwords
    exact ih hrest (hline.joinWord hword)
  | closed _ _ _ ih => exact List.forall_mem_cons.mpr ⟨hline, ih hwords hempty⟩
  | cut _ hcuts _ ih =>
    obtain ⟨hword, hrest⟩ := List.forall_mem_cons.mp hwords
    obtain ⟨hpieces, hlast⟩ := hcuts.letters_eq hword
    refine List.forall_mem_append.mpr ⟨?_, ih hrest (.ofLetters hlast)⟩
    intro piece hpiece
    exact .ofLetters (hpieces piece hpiece)

/-! ### Breaks -/

/-- Where a piece is closed, the next character of the word does not fit behind it. -/
theorem Cuts.breaks (h : Cuts m maxWidth piece cs pieces last) {front back : List (List Char)}
    (hpieces : pieces = front ++ line :: back) :
    ∃ c rest, piece ++ cs = front.flatten ++ line ++ c :: rest ∧
      maxWidth < m.width (line ++ [c]) := by
  induction h generalizing front with
  | done => cases front <;> cases hpieces
  | grown _ _ ih =>
    obtain ⟨c, rest, hcs, hwide⟩ := ih hpieces
    rw [List.append_assoc, List.singleton_append] at hcs
    exact ⟨c, rest, hcs, hwide⟩
  | @closed piece cs last c pieces _ hwide _ ih =>
    cases front with
    | nil =>
      cases hpieces
      exact ⟨c, cs, rfl, hwide⟩
    | cons first front =>
      obtain ⟨rfl, hrest⟩ := List.cons.inj hpieces
      obtain ⟨d, rest, hcs, hwide⟩ := ih hrest
      rw [List.singleton_append] at hcs
      refine ⟨d, rest, ?_, hwide⟩
      rw [hcs, List.flatten_cons]
      simp only [List.append_assoc]

theorem Breaks.cons {set : List Char} (h : Breaks m maxWidth words set line) (word : List Char) :
    Breaks m maxWidth (word :: words) (word ++ set) line := by
  cases h with
  | between front back next hwords hset hwide =>
    refine .between (word :: front) back next ?_ ?_ hwide
    · rw [hwords, List.cons_append]
    · rw [List.flatten_cons, hset]
  | within front back start rest c hwords hstart hset hword hwide =>
    refine .within (word :: front) back start rest c ?_ hstart ?_ hword hwide
    · rw [hwords, List.cons_append]
    · rw [List.flatten_cons, List.append_assoc, hset]

/-- A piece that is closed within a word is closed where it has to be. -/
theorem Breaks.ofCuts (hcuts : Cuts m maxWidth [] word pieces last)
    (hwide : ¬ m.width word ≤ maxWidth) {front back : List (List Char)}
    (hpieces : pieces = front ++ line :: back) (rest : List (List Char)) :
    Breaks m maxWidth (word :: rest) (front ++ [line]).flatten line := by
  obtain ⟨c, after, hword, hnext⟩ := hcuts.breaks hpieces
  rw [List.nil_append] at hword
  have hline : line ≠ [] := by
    rintro rfl
    apply hcuts.nil_notMem
    rw [hpieces]
    exact List.mem_append_right front List.mem_cons_self
  have hflatten : (front ++ [line]).flatten = front.flatten ++ line := by
    rw [List.flatten_append, List.flatten_singleton]
  rw [hflatten]
  subst hword
  exact .within [] rest _ after c rfl (List.append_ne_nil_of_right_ne_nil _ hline) rfl hwide hnext

/-- Whatever is set, a line is closed only where it has to be. -/
theorem Sets.breaks (h : Sets m maxWidth line words lines)
    (hwords : ∀ word ∈ words, IsWord word) {front back : List (List Char)}
    {closed next : List Char} (hlines : lines = front ++ closed :: next :: back) :
    ∃ set, letters (front ++ [closed]).flatten = letters line ++ set ∧
      Breaks m maxWidth words set closed := by
  induction h generalizing front with
  | done =>
    have hlength := congrArg List.length hlines
    rw [List.length_append] at hlength
    simp only [List.length_cons, List.length_nil] at hlength
    omega
  | @joined line word rest lines _ _ ih =>
    obtain ⟨hword, hrest⟩ := List.forall_mem_cons.mp hwords
    obtain ⟨set, hset, hbreaks⟩ := ih hrest hlines
    refine ⟨word ++ set, ?_, hbreaks.cons word⟩
    rw [hset, letters_joinWord hword, List.append_assoc]
  | @closed line word rest lines _ hwide _ ih =>
    cases front with
    | nil =>
      obtain ⟨rfl, -⟩ := List.cons.inj hlines
      refine ⟨[], ?_, .between [] rest word rfl rfl hwide⟩
      rw [List.nil_append, List.flatten_singleton, List.append_nil]
    | cons first front =>
      obtain ⟨rfl, htail⟩ := List.cons.inj hlines
      obtain ⟨set, hset, hbreaks⟩ := ih hwords htail
      refine ⟨set, ?_, hbreaks⟩
      rw [List.cons_append, List.flatten_cons, letters_append, hset]
      rfl
  | @cut word last rest pieces lines hwide hcuts _ ih =>
    obtain ⟨hword, hrest⟩ := List.forall_mem_cons.mp hwords
    have hflatten : pieces.flatten ++ last = word := hcuts.flatten_eq
    -- The line stands behind the pieces of the word, or it is one of them.
    have hbehind : ∀ ahead, front = pieces ++ ahead → lines = ahead ++ closed :: next :: back →
        ∃ set, letters (front ++ [closed]).flatten = letters [] ++ set ∧
          Breaks m maxWidth (word :: rest) set closed := by
      intro ahead hfront hlines
      obtain ⟨set, hset, hbreaks⟩ := ih hrest hlines
      refine ⟨word ++ set, ?_, hbreaks.cons word⟩
      rw [hfront, List.append_assoc, List.flatten_append, letters_append, hset,
        ← List.append_assoc, ← letters_append, hflatten, letters_eq_self hword.letters]
      rfl
    have hwithin : ∀ after, pieces = front ++ closed :: after →
        ∃ set, letters (front ++ [closed]).flatten = letters [] ++ set ∧
          Breaks m maxWidth (word :: rest) set closed := by
      intro after hpieces
      refine ⟨_, ?_, .ofCuts hcuts hwide hpieces rest⟩
      apply letters_eq_self
      intro c hc
      obtain ⟨piece, hpiece, hmem⟩ := List.mem_flatten.mp hc
      apply (hcuts.letters_eq hword).1 piece _ c hmem
      rw [hpieces, List.append_cons]
      exact List.mem_append_left after hpiece
    obtain ⟨ahead, hfront, hahead⟩ | ⟨after, hpieces, hafter⟩ :=
      List.append_eq_append_iff.mp hlines
    · exact hbehind ahead hfront hahead
    · obtain ⟨rfl, hahead⟩ | ⟨after, rfl, -⟩ := List.cons_eq_append_iff.mp hafter
      · rw [List.append_nil] at hpieces
        exact hbehind [] (hpieces ▸ (List.append_nil _).symm) hahead
      · exact hwithin after hpieces

end Setting

/-! ### Paragraphs and texts -/

section Paragraphs

variable {m : Measurer α} {maxWidth : α}

theorem wraps_wrapParagraph (hnot : ∀ a b : α, a ≤ b → ¬ b < a) (m : Measurer α) (maxWidth : α)
    (paragraph : List Char) :
    Wraps m maxWidth paragraph (wrapParagraph m maxWidth paragraph) := by
  have hsets := sets_wrapWords m maxWidth [] (words paragraph)
  have hwords : ∀ word ∈ words paragraph, IsWord word := fun word hword =>
    isWord_of_mem_words hword
  constructor
  · exact hsets.ne_nil
  · intro hblank
    rw [wrapParagraph, words_eq_nil_iff.mpr hblank]
    rfl
  · intro hfilled
    apply hsets.nil_notMem hwords
    exact .inr fun hnil => hfilled (words_eq_nil_iff.mp hnil)
  · rw [← flatten_words paragraph]
    exact hsets.letters_flatten hwords
  · exact hsets.fits hnot (.ofShort (Nat.zero_le 1))
  · exact hsets.tidy hwords (.ofLetters (List.forall_mem_nil _))
  · intro front line next back hlines
    obtain ⟨set, hset, hbreaks⟩ := hsets.breaks hwords hlines
    rw [hset]
    exact hbreaks

theorem letters_of_forall₂_wraps {paragraphs : List (List Char)} {blocks : List (List (List Char))}
    (h : List.Forall₂ (Wraps m maxWidth) paragraphs blocks) :
    letters blocks.flatten.flatten = letters paragraphs.flatten := by
  induction h with
  | nil => rfl
  | cons hwraps _ ih =>
    rw [List.flatten_cons, List.flatten_append, letters_append, hwraps.letters, ih,
      List.flatten_cons, letters_append]

theorem wrap_eq_of_ne_empty (m : Measurer α) (maxWidth : α) {text : String} (h : text ≠ "") :
    wrap m maxWidth text =
      ((lines text.toList).map (wrapParagraph m maxWidth)).flatten.map String.ofList := by
  have hne : text.toList.isEmpty = false := by
    rw [List.isEmpty_eq_false_iff]
    exact fun hnil => h (String.toList_eq_nil_iff.mp hnil)
  rw [wrap, wrapChars, hne, List.flatMap_def]
  rfl

theorem flatMap_toList_map_ofList (lines : List (List Char)) :
    (lines.map String.ofList).flatMap String.toList = lines.flatten := by
  rw [List.flatMap_def, List.map_map]
  have hid : String.toList ∘ String.ofList = id := funext fun _ => String.toList_ofList
  rw [hid, List.map_id]

end Paragraphs

/-- Setting a text in a width loses no letter. No line of several characters is too wide, and no
blank stands at an end of a line or next to another one. The empty text has no lines. Another one
has those of its paragraphs in order: an empty line for a blank paragraph, for another one no empty
line, each closed only where it has to be. -/
theorem wrap_greedy (m : Measurer Float32) (maxWidth : Float32) (text : String) :
    letters ((wrap m maxWidth text).flatMap String.toList) = letters text.toList ∧
    (∀ line ∈ wrap m maxWidth text, Fits m maxWidth line.toList ∧ Tidy line.toList) ∧
    (text = "" → wrap m maxWidth text = []) ∧
    (text ≠ "" → ∃ blocks, wrap m maxWidth text = blocks.flatten.map String.ofList ∧
      List.Forall₂ (Wraps m maxWidth) (lines text.toList) blocks) := by
  have hwraps := wraps_wrapParagraph (fun _ _ => Number.not_lt_of_le) m maxWidth
  by_cases htext : text = ""
  · subst htext
    have hnone : wrap m maxWidth "" = [] := rfl
    rw [hnone]
    exact ⟨rfl, List.forall_mem_nil _, fun _ => rfl, fun hne => absurd rfl hne⟩
  · have hwrap := wrap_eq_of_ne_empty m maxWidth htext
    have hblocks : List.Forall₂ (Wraps m maxWidth) (lines text.toList)
        ((lines text.toList).map (wrapParagraph m maxWidth)) := by
      rw [List.forall₂_map_right_iff, List.forall₂_same]
      exact fun paragraph _ => hwraps paragraph
    refine ⟨?_, ?_, fun hempty => absurd hempty htext, fun _ => ⟨_, hwrap, hblocks⟩⟩
    · rw [hwrap, flatMap_toList_map_ofList, letters_of_forall₂_wraps hblocks,
        letters_flatten_lines]
    · rw [hwrap, List.forall_mem_map]
      intro line hline
      obtain ⟨paragraph, -, hparagraph⟩ := List.exists_of_mem_flatMap hline
      rw [String.toList_ofList]
      exact ⟨(hwraps paragraph).fits line hparagraph, (hwraps paragraph).tidy line hparagraph⟩

/-- A line is filled, a blank paragraph keeps its line, and what is left of a word goes on. -/
example : wrap (.fixed 1) (5 : Float32) "to be or\n \nunwritten x" =
    ["to be", "or", "", "unwri", "tten", "x"] := by decide +kernel

end EventGraph.Text
