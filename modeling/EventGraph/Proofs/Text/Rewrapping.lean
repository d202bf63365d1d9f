import EventGraph.Proofs.Number.Product
import EventGraph.Proofs.Text.Wrapping

/-!
# Wrapping twice

A line that has been set is made of its words with one space between them, and it fits or is a
single character. Where no text is narrower than one that it begins with, such a line is set as it
is, so the lines of a text that are joined again are wrapped to the same lines.
-/

namespace EventGraph

/-- Widths are numbers and do not decrease when characters are appended. This is wanted of texts of
some characters up to a length. -/
structure Measurer.Grows (m : Measurer Float32) (limit : Nat) : Prop where
  number : ∀ cs, cs ≠ [] → cs.length ≤ limit → Scalar.isNumber (m.width cs) = true
  rises : ∀ cs ds, cs ≠ [] → (cs ++ ds).length ≤ limit → m.width cs ≤ m.width (cs ++ ds)

/-- Characters of the same advance, unless it is negative, make a text grow. A text has at most as
many characters as a machine word can count. -/
theorem Measurer.grows_fixed {advance : Float32} (h : 0.0 ≤ advance) {limit : Nat}
    (hlimit : limit < 2 ^ 64) : (Measurer.fixed advance).Grows limit := by
  have hrises : ∀ cs ds : List Char, cs ≠ [] → (cs ++ ds).length ≤ limit →
      (Measurer.fixed advance).width cs ≤ (Measurer.fixed advance).width (cs ++ ds) := by
    intro cs ds hne hlength
    have hpos : 0 < cs.length := List.length_pos_iff.mpr hne
    rw [List.length_append] at hlength
    have hle : Float32.ofNat cs.length ≤ Float32.ofNat (cs ++ ds).length := by
      rw [List.length_append]
      exact Number.ofNat_le_ofNat hpos (by omega) (by omega)
    have hshort := Number.isPositive_ofNat hpos (by omega)
    have hlong : Number.IsPositive (Float32.ofNat (cs ++ ds).length) := by
      rw [List.length_append]
      exact Number.isPositive_ofNat (by omega) (by omega)
    exact Number.mul_le_mul_of_nonneg hshort hlong hle h
  refine ⟨fun cs hne hlength => ?_, hrises⟩
  have hself := hrises cs [] hne (by rwa [List.append_nil])
  exact (Scalar.isNumber_of_le hself).1

namespace Text

variable {α : Type} [Scalar α] {m : Measurer α} {maxWidth : α} {line word : List Char}
  {lines rest : List (List Char)}

/-! ### Words on a line -/

theorem joinWord_nil (word : List Char) : joinWord [] word = word := rfl

theorem joinWord_ne_nil (hword : IsWord word) (line : List Char) : joinWord line word ≠ [] := by
  cases line with
  | nil => exact hword.ne_nil
  | cons c line => exact List.cons_ne_nil _ _

/-- What stands on a line stays in front of the words that are put on it. -/
theorem prefix_foldl_joinWord (line : List Char) (rest : List (List Char)) :
    line <+: rest.foldl joinWord line := by
  induction rest generalizing line with
  | nil => exact List.prefix_rfl
  | cons word rest ih =>
    refine List.IsPrefix.trans ?_ (ih (joinWord line word))
    cases line with
    | nil => exact List.nil_prefix
    | cons c line => exact List.prefix_append _ _

theorem mem_foldl_joinWord {c : Char} (h : c ∈ rest.foldl joinWord line) :
    c ∈ line ∨ c = ' ' ∨ ∃ word ∈ rest, c ∈ word := by
  induction rest generalizing line with
  | nil => exact .inl h
  | cons word rest ih =>
    rcases ih h with hline | hspace | ⟨other, hother, hc⟩
    · cases line with
      | nil => exact .inr (.inr ⟨word, List.mem_cons_self, hline⟩)
      | cons d line =>
        rw [joinWord_of_ne_nil (List.cons_ne_nil d line)] at hline
        rcases List.mem_append.mp hline with hline | hbehind
        · exact .inl hline
        · rcases List.mem_cons.mp hbehind with hspace | hword
          · exact .inr (.inl hspace)
          · exact .inr (.inr ⟨word, List.mem_cons_self, hword⟩)
    · exact .inr (.inl hspace)
    · exact .inr (.inr ⟨other, List.mem_cons_of_mem _ hother, hc⟩)

theorem words_eq_singleton (hword : IsWord word) : words word = [word] := by
  have hnone : ∀ c ∈ word, isBlank c = false := hword.letters
  rw [words, splitWhere_eq_singleton hnone, List.filter_cons_of_pos, List.filter_nil]
  simpa using hword.ne_nil

theorem words_joinWord (hword : IsWord word) (line : List Char) :
    words (joinWord line word) = words line ++ [word] := by
  cases line with
  | nil => exact words_eq_singleton hword
  | cons c line =>
    rw [joinWord_of_ne_nil (List.cons_ne_nil c line), words, splitWhere_append rfl,
      List.filter_append, ← words_eq_singleton hword]
    rfl

/-! ### Lines that are set -/

/-- A line is made of its words with one space between them. -/
def IsSpaced (line : List Char) : Prop := (words line).foldl joinWord [] = line

theorem IsSpaced.nil : IsSpaced [] := rfl

theorem IsSpaced.ofLetters (h : ∀ c ∈ line, isBlank c = false) : IsSpaced line := by
  by_cases hne : line = []
  · rw [hne]
    exact .nil
  · rw [IsSpaced, words_eq_singleton ⟨hne, h⟩]
    rfl

theorem IsSpaced.joinWord (h : IsSpaced line) (hword : IsWord word) :
    IsSpaced (joinWord line word) := by
  rw [IsSpaced] at h
  rw [IsSpaced, words_joinWord hword, List.foldl_append, h]
  rfl

theorem IsSpaced.feed_notMem (h : IsSpaced line) : '\n' ∉ line := by
  intro hfeed
  rw [← h] at hfeed
  rcases mem_foldl_joinWord hfeed with hnone | hspace | ⟨word, hword, hmem⟩
  · exact List.not_mem_nil hnone
  · cases hspace
  · have hletter := (isWord_of_mem_words hword).letters '\n' hmem
    cases hletter

theorem Sets.spaced {words : List (List Char)} (h : Sets m maxWidth line words lines)
    (hwords : ∀ word ∈ words, IsWord word) (hline : IsSpaced line) :
    ∀ line ∈ lines, IsSpaced line := by
  induction h with
  | done => exact List.forall_mem_singleton.mpr hline
  | joined _ _ ih =>
    obtain ⟨hword, hrest⟩ := List.forall_mem_cons.mp hwords
    exact ih hrest (hline.joinWord hword)
  | closed _ _ _ ih => exact List.forall_mem_cons.mpr ⟨hline, ih hwords .nil⟩
  | cut _ hcuts _ ih =>
    obtain ⟨hword, hrest⟩ := List.forall_mem_cons.mp hwords
    obtain ⟨hpieces, hlast⟩ := hcuts.letters_eq hword
    refine List.forall_mem_append.mpr ⟨?_, ih hrest (.ofLetters hlast)⟩
    intro piece hpiece
    exact .ofLetters (hpieces piece hpiece)

/-! ### Lengths -/

theorem length_joinWord_le {a b : List Char} (h : a.length ≤ b.length) (word : List Char) :
    (joinWord a word).length ≤ (joinWord b word).length := by
  cases a with
  | nil =>
    cases b with
    | nil => exact Nat.le_refl _
    | cons c b =>
      rw [joinWord_of_ne_nil (List.cons_ne_nil c b), joinWord_nil]
      exact ((List.sublist_cons_self ' ' word).trans (List.sublist_append_right _ _)).length_le
  | cons c a =>
    have hb : b ≠ [] := List.ne_nil_of_length_pos (by rw [List.length_cons] at h; omega)
    rw [joinWord_of_ne_nil (List.cons_ne_nil c a), joinWord_of_ne_nil hb, List.length_append,
      List.length_append]
    omega

theorem length_foldl_joinWord_le {a b : List Char} (h : a.length ≤ b.length)
    (rest : List (List Char)) :
    (rest.foldl joinWord a).length ≤ (rest.foldl joinWord b).length := by
  induction rest generalizing a b with
  | nil => exact h
  | cons word rest ih => exact ih (length_joinWord_le h word)

/-- No line is longer than all the words on one line. -/
theorem Sets.length_le {words : List (List Char)} (h : Sets m maxWidth line words lines) :
    ∀ set ∈ lines, set.length ≤ (words.foldl joinWord line).length := by
  induction h with
  | done => exact List.forall_mem_singleton.mpr (Nat.le_refl _)
  | joined _ _ ih => exact ih
  | @closed line word rest lines _ _ _ ih =>
    refine List.forall_mem_cons.mpr ⟨(prefix_foldl_joinWord line _).length_le, ?_⟩
    intro set hset
    exact Nat.le_trans (ih set hset) (length_foldl_joinWord_le (Nat.zero_le _) _)
  | @cut word last rest pieces lines _ hcuts _ ih =>
    have hflatten : pieces.flatten ++ last = word := hcuts.flatten_eq
    have hlength := congrArg List.length hflatten
    rw [List.length_append] at hlength
    have hword : word.length ≤ ((word :: rest).foldl joinWord []).length :=
      (prefix_foldl_joinWord word rest).length_le
    refine List.forall_mem_append.mpr ⟨?_, ?_⟩
    · intro piece hpiece
      have hle := (List.sublist_flatten_of_mem hpiece).length_le
      omega
    · intro set hset
      have hlast : last.length ≤ word.length := by omega
      exact Nat.le_trans (ih set hset) (length_foldl_joinWord_le hlast rest)

theorem length_foldl_joinWord (line : List Char) (rest : List (List Char)) :
    (rest.foldl joinWord line).length ≤ line.length + (rest.map (·.length + 1)).sum := by
  induction rest generalizing line with
  | nil => exact Nat.le_refl _
  | cons word rest ih =>
    have hjoin : (joinWord line word).length ≤ line.length + (word.length + 1) := by
      cases line with
      | nil => exact Nat.le_succ_of_le (Nat.le_of_eq (Nat.zero_add _).symm)
      | cons c line =>
        rw [joinWord_of_ne_nil (List.cons_ne_nil c line), List.length_append,
          @List.length_cons _ ' ']
    have hrest := ih (joinWord line word)
    rw [List.foldl_cons, List.map_cons, List.sum_cons]
    omega

theorem sum_length_splitWhere (p : Char → Bool) (cs : List Char) :
    ((splitWhere p cs).map (·.length + 1)).sum = cs.length + 1 := by
  induction cs with
  | nil => rfl
  | cons c cs ih =>
    rw [splitWhere_cons, List.length_cons]
    split
    · rw [List.map_cons, List.sum_cons, ih, List.length_nil]
      omega
    · obtain ⟨piece, pieces, hpieces⟩ := List.exists_cons_of_ne_nil (splitWhere_ne_nil p cs)
      rw [hpieces, List.map_cons, List.sum_cons] at ih
      rw [hpieces, consFirst, List.map_cons, List.sum_cons, List.length_cons]
      omega

/-- The words of a text on one line, with spaces between them, are not longer than the text. -/
theorem length_spaced_le (cs : List Char) : ((words cs).foldl joinWord []).length ≤ cs.length := by
  have hpieces : ((words cs).map (·.length + 1)).sum ≤ cs.length + 1 := by
    rw [← sum_length_splitWhere isBlank cs]
    exact (List.filter_sublist.map _).sum_le_sum fun _ _ => Nat.zero_le _
  cases hwords : words cs with
  | nil => exact Nat.zero_le _
  | cons word rest =>
    have hrest := length_foldl_joinWord word rest
    rw [hwords, List.map_cons, List.sum_cons] at hpieces
    show (rest.foldl joinWord word).length ≤ _
    omega

/-- No line of a paragraph is longer than the paragraph. -/
theorem length_le_of_mem_wrapParagraph {paragraph : List Char}
    (h : line ∈ wrapParagraph m maxWidth paragraph) : line.length ≤ paragraph.length :=
  Nat.le_trans ((sets_wrapWords m maxWidth [] (words paragraph)).length_le line h)
    (length_spaced_le paragraph)

theorem length_le_of_mem_lines {cs : List Char} (h : line ∈ Text.lines cs) :
    line.length ≤ cs.length := by
  have hall := sum_length_splitWhere (· == '\n') cs
  have hone : line.length + 1 ≤ ((Text.lines cs).map (·.length + 1)).sum :=
    List.single_le_sum (fun _ _ => Nat.zero_le _) _ (List.mem_map_of_mem h)
  rw [Text.lines, hall] at hone
  omega

/-! ### Setting a line again -/

/-- Words that fit on a line together are put on it one after the other. -/
theorem wrapWords_eq_singleton {m : Measurer Float32} {maxWidth : Float32} {limit : Nat}
    (hgrows : m.Grows limit) {line : List Char} {rest : List (List Char)}
    (hwords : ∀ word ∈ rest, IsWord word)
    (hlength : (rest.foldl joinWord line).length ≤ limit)
    (hfits : rest = [] ∨ m.width (rest.foldl joinWord line) ≤ maxWidth) :
    wrapWords m maxWidth line rest = [rest.foldl joinWord line] := by
  induction rest generalizing line with
  | nil => rfl
  | cons word rest ih =>
    obtain ⟨hword, hrest⟩ := List.forall_mem_cons.mp hwords
    have hwhole := hfits.resolve_left (List.cons_ne_nil word rest)
    -- The line with the next word on it is a beginning of the whole one, so it fits too.
    obtain ⟨back, hback⟩ := prefix_foldl_joinWord (joinWord line word) rest
    have hnext : m.width (joinWord line word) ≤ maxWidth := by
      have hrises := hgrows.rises (joinWord line word) back (joinWord_ne_nil hword line)
        (by rw [hback]; exact hlength)
      rw [hback] at hrises
      exact Trans.trans hrises hwhole
    rw [wrapWords, if_pos hnext]
    exact ih hrest hlength (.inr hwhole)

/-- A line that has been set stays as it is. -/
theorem wrapParagraph_eq_singleton {m : Measurer Float32} {maxWidth : Float32} {limit : Nat}
    (hgrows : m.Grows limit) {line : List Char} (hspaced : IsSpaced line)
    (hlength : line.length ≤ limit) (hfits : line.length ≤ 1 ∨ m.width line ≤ maxWidth) :
    wrapParagraph m maxWidth line = [line] := by
  have hwords : ∀ word ∈ words line, IsWord word := fun word hword => isWord_of_mem_words hword
  by_cases hwide : words line = [] ∨ m.width line ≤ maxWidth
  · rw [IsSpaced] at hspaced
    have hset : wrapWords m maxWidth [] (words line) = [(words line).foldl joinWord []] :=
      wrapWords_eq_singleton hgrows hwords (by rwa [hspaced]) (by rwa [hspaced])
    rwa [hspaced] at hset
  · -- A character that is too wide stands alone all the same.
    rw [not_or] at hwide
    obtain ⟨hne, hwide⟩ := hwide
    obtain ⟨c, rfl⟩ : ∃ c, line = [c] := by
      rw [← List.length_eq_one_iff]
      have hshort := hfits.resolve_right hwide
      have hpos : 0 < line.length := by
        rw [List.length_pos_iff]
        rintro rfl
        exact hne rfl
      omega
    have hletter : ∀ d ∈ [c], isBlank d = false := by
      simpa [words_eq_nil_iff] using hne
    rw [wrapParagraph, words_eq_singleton ⟨List.cons_ne_nil c [], hletter⟩, wrapWords, joinWord_nil,
      if_neg hwide, if_neg hwide]
    simp [breakWord, wrapWords]

/-- Lines that have no line feed and stay as they are can be joined and wrapped again. The text
without characters, which one empty line would give, has no lines. -/
theorem wrap_intercalate {set : List (List Char)} (hne : set ≠ []) (hempty : set ≠ [[]])
    (hfeed : ∀ line ∈ set, '\n' ∉ line)
    (hset : ∀ line ∈ set, wrapParagraph m maxWidth line = [line]) :
    wrap m maxWidth ("\n".intercalate (set.map String.ofList)) = set.map String.ofList := by
  have htoList : ("\n".intercalate (set.map String.ofList)).toList = ['\n'].intercalate set := by
    have hid : String.toList ∘ String.ofList = id := funext fun _ => String.toList_ofList
    rw [String.toList_intercalate, List.map_map, hid, List.map_id]
    rfl
  have hlines : Text.lines (['\n'].intercalate set) = set := splitWhere_intercalate hne hfeed
  have htext : "\n".intercalate (set.map String.ofList) ≠ "" := by
    intro hnone
    rw [hnone] at htoList
    rw [← htoList] at hlines
    exact hempty hlines.symm
  have hall : (set.map (wrapParagraph m maxWidth)).flatten = set := by
    rw [List.map_congr_left hset, ← List.flatMap_def, List.flatMap_singleton']
  rw [wrap_eq_of_ne_empty m maxWidth htext, htoList, hlines, hall]

/-- Wrapping the lines of a text, joined by line feeds, gives the same lines. -/
def StaysWrapped (m : Measurer Float32) (maxWidth : Float32) (text : String) : Prop :=
  wrap m maxWidth ("\n".intercalate (wrap m maxWidth text)) = wrap m maxWidth text

theorem staysWrapped_of_grows {m : Measurer Float32} {maxWidth : Float32} {text : String}
    (hwidth : Scalar.isNumber maxWidth = true) (hgrows : m.Grows text.length)
    (hlines : wrap m maxWidth text ≠ [""]) : StaysWrapped m maxWidth text := by
  by_cases htext : text = ""
  · subst htext
    rfl
  rw [StaysWrapped]
  rw [wrap_eq_of_ne_empty m maxWidth htext] at hlines ⊢
  have hmem : ∀ line ∈ ((lines text.toList).map (wrapParagraph m maxWidth)).flatten,
      ∃ paragraph ∈ lines text.toList, line ∈ wrapParagraph m maxWidth paragraph := by
    intro line hline
    exact List.exists_of_mem_flatMap hline
  have hspaced : ∀ line ∈ ((lines text.toList).map (wrapParagraph m maxWidth)).flatten,
      IsSpaced line := by
    intro line hline
    obtain ⟨paragraph, -, hparagraph⟩ := hmem line hline
    exact (sets_wrapWords m maxWidth [] (words paragraph)).spaced
      (fun word hword => isWord_of_mem_words hword) .nil line hparagraph
  refine wrap_intercalate ?_ ?_ (fun line hline => (hspaced line hline).feed_notMem) ?_
  · obtain ⟨paragraph, rest, hparagraphs⟩ :=
      List.exists_cons_of_ne_nil (splitWhere_ne_nil (· == '\n') text.toList)
    have hfirst :=
      (wraps_wrapParagraph (fun _ _ => Number.not_lt_of_le) m maxWidth paragraph).ne_nil
    rw [Text.lines, hparagraphs, List.map_cons, List.flatten_cons]
    exact List.append_ne_nil_of_left_ne_nil hfirst _
  · intro hsingle
    rw [hsingle] at hlines
    exact hlines rfl
  · intro line hline
    obtain ⟨paragraph, hparagraph, hset⟩ := hmem line hline
    have hlength : line.length ≤ text.length := by
      rw [← String.length_toList]
      exact Nat.le_trans (length_le_of_mem_wrapParagraph hset) (length_le_of_mem_lines hparagraph)
    refine wrapParagraph_eq_singleton hgrows (hspaced line hline) hlength ?_
    have hfits := (wraps_wrapParagraph (fun _ _ => Number.not_lt_of_le) m maxWidth
      paragraph).fits line hset
    rcases Nat.lt_or_ge line.length 2 with hshort | hlong
    · exact .inl (Nat.le_of_lt_succ hshort)
    · have hne : line ≠ [] := List.ne_nil_of_length_pos (Nat.lt_of_lt_of_le Nat.two_pos hlong)
      exact .inr (Scalar.le_of_not_lt hwidth (hgrows.number line hne hlength) (hfits hlong))

/-- **Wrapping is stable: the lines of a text, if they are not a single empty one, are wrapped to
themselves in the same width. This is so for widths that are numbers and do not decrease when
characters are appended, as those of characters of the same advance are.** -/
theorem wrap_intercalate_wrap (maxWidth : Float32) (hwidth : Scalar.isNumber maxWidth = true)
    (text : String) :
    (∀ m : Measurer Float32, m.Grows text.length → wrap m maxWidth text ≠ [""] →
      StaysWrapped m maxWidth text) ∧
    (∀ advance : Float32, 0.0 ≤ advance → text.length < 2 ^ 64 →
      wrap (.fixed advance) maxWidth text ≠ [""] →
      StaysWrapped (.fixed advance) maxWidth text) := by
  refine ⟨fun m hgrows hlines => staysWrapped_of_grows hwidth hgrows hlines, ?_⟩
  intro advance hadvance hlength hlines
  exact staysWrapped_of_grows hwidth (Measurer.grows_fixed hadvance hlength) hlines

/-- A word is cut and the next one is set behind what is left of it. -/
theorem wrap_intercalate_wrap_cut :
    Scalar.isNumber (6 : Float32) = true ∧ (0.0 : Float32) ≤ 1 ∧
    "to be  unwritten x\n".length < 2 ^ 64 ∧
    wrap (.fixed 1) (6 : Float32) "to be  unwritten x\n" = ["to be", "unwrit", "ten x", ""] ∧
    StaysWrapped (.fixed 1) 6 "to be  unwritten x\n" := by
  have hnumber : Scalar.isNumber (6 : Float32) = true := by decide
  have hadvance : (0.0 : Float32) ≤ 1 := by decide
  have hlength : "to be  unwritten x\n".length < 2 ^ 64 := by decide
  have hlines : wrap (.fixed 1) (6 : Float32) "to be  unwritten x\n" =
      ["to be", "unwrit", "ten x", ""] := by decide +kernel
  refine ⟨hnumber, hadvance, hlength, hlines, ?_⟩
  apply (wrap_intercalate_wrap 6 hnumber _).2 1 hadvance hlength
  rw [hlines]
  decide

/-- A single empty line is different: no lines are left of it. -/
example : wrap (.fixed 1) (5 : Float32) " " = [""] ∧ wrap (.fixed 1) (5 : Float32) "" = [] := by
  decide +kernel

end Text

end EventGraph
