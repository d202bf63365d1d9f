import EventGraph.Playback.Session
import EventGraph.Proofs.Playback.Call
import EventGraph.Proofs.Text.Pieces

/-!
# What a session comes to

A session goes in rounds, each of which reads a line from what is left of the input. Its rounds
come to an end, and the state they end in is the first one with the lines carried out in order.
-/

namespace EventGraph.Playback.Session

variable {α : Type} (story : Story α)

/-- The next line of a text, and what is left to read after its line feed. -/
def takeLine? : List Char → Option (List Char × List Char)
  | [] => none
  | c :: cs => some ((c :: cs).takeWhile (· ≠ '\n'), ((c :: cs).dropWhile (· ≠ '\n')).tail)

/-- Where a session is between two rounds. -/
structure Stage where
  state : State
  unread : List Char
  output : String

/-- One round shows the state and carries out the next line, or ends the session. -/
def round (stage : Stage) : Stage ⊕ Result :=
  let output := stage.output ++ shown story stage.state
  match ended? story stage.state with
  | some outcome => .inr ⟨outcome, stage.state, output⟩
  | none => match takeLine? stage.unread with
    | none => .inr ⟨.quit, stage.state, output⟩
    | some (line, unread) => match respond story stage.state line with
      | none => .inr ⟨.quit, stage.state, output⟩
      | some (state, answer) => .inl ⟨state, unread, output ++ answer⟩

/-- What a session has come to within a number of rounds. -/
def rounds : Nat → Stage → Option Result
  | 0, _ => none
  | n + 1, stage => match round story stage with
    | .inl stage => rounds n stage
    | .inr result => some result

/-- What is written after the last round. -/
def close (result : Result) : Result :=
  { result with output := result.output ++ storageLines result.state.storage }

/-- A choice is shown that has nothing on offer. -/
def Stranded (s : State) : Prop :=
  s.offers = [] ∧ ∃ n, story.currentNode? s = some n ∧ n.kind = .choice

/-- No line is read any more. -/
def Halted (s : State) : Prop := s.errors ≠ [] ∨ s.finished = true ∨ Stranded story s

def Quits (line : List Char) : Prop :=
  Text.trim line = "q".toList ∨ Text.trim line = "quit".toList

/-- What a line that does not quit does to a state. -/
def obey (s : State) (line : List Char) : State :=
  if Text.trim line = [] ∧ s.offers = [] then story.proceed s
  else match Number.natural64? (Text.trim line) with
    | some (n + 1) => story.take s (.choose n)
    | _ => s

variable {story} {s s' : State}

theorem isDeadEnd_iff : isDeadEnd story s = true ↔ Stranded story s := by
  simp [isDeadEnd, Stranded]

instance : Decidable (Stranded story s) := decidable_of_iff _ isDeadEnd_iff

instance : Decidable (Halted story s) := inferInstanceAs (Decidable (_ ∨ _ ∨ _))

variable (story) in
/-- How a session ends, told from the state it ends in. -/
def outcomeOf (s : State) : Outcome :=
  if s.errors ≠ [] then .stuck
  else if s.finished then .finished
  else if Stranded story s then .deadEnd
  else .quit

variable (story) in
/-- A session over lines of input: how many of them it carries out, and the state it ends in. -/
inductive Obeys : State → List (List Char) → Nat → State → Prop
  | halted {s : State} {lines : List (List Char)} : Halted story s → Obeys s lines 0 s
  | exhausted {s : State} : ¬ Halted story s → Obeys s [] 0 s
  | quits {s : State} {line : List Char} {rest : List (List Char)} :
      ¬ Halted story s → Quits line → Obeys s (line :: rest) 0 s
  | next {s s' : State} {line : List Char} {rest : List (List Char)} {read : Nat} :
      ¬ Halted story s → ¬ Quits line → Obeys (obey story s line) rest read s' →
      Obeys s (line :: rest) (read + 1) s'

variable {line unread : List Char} {lines : List (List Char)} {read : Nat}

theorem ended?_eq (story : Story α) (s : State) :
    ended? story s = if Halted story s then some (outcomeOf story s) else none := by
  have hstuck : s.isStuck = true ↔ s.errors ≠ [] := by simp [State.isStuck]
  rw [ended?, outcomeOf]
  by_cases herrors : s.errors ≠ []
  · rw [if_pos (hstuck.mpr herrors), if_pos herrors, if_pos (.inl herrors)]
  rw [if_neg (mt hstuck.mp herrors), if_neg herrors]
  by_cases hfinished : s.finished = true
  · rw [if_pos hfinished, if_pos hfinished, if_pos (.inr (.inl hfinished))]
  rw [if_neg hfinished, if_neg hfinished]
  by_cases hstranded : Stranded story s
  · rw [if_pos (isDeadEnd_iff.mpr hstranded), if_pos hstranded, if_pos (.inr (.inr hstranded))]
  · rw [if_neg (mt isDeadEnd_iff.mp hstranded), if_neg]
    rintro (h | h | h)
    · exact herrors h
    · exact hfinished h
    · exact hstranded h

theorem ended?_eq_none (h : ¬ Halted story s) : ended? story s = none := by
  rw [ended?_eq, if_neg h]

theorem outcomeOf_of_not_halted (h : ¬ Halted story s) : outcomeOf story s = .quit := by
  simp only [Halted, not_or] at h
  obtain ⟨herrors, hfinished, hstranded⟩ := h
  rw [outcomeOf, if_neg herrors, if_neg hfinished, if_neg hstranded]

theorem respond_of_quits (h : Quits line) : respond story s line = none := by
  simp only [respond, Command.ofLine, if_pos (show Text.trim line = _ ∨ _ from h)]

theorem exists_respond (story : Story α) (s : State) (h : ¬ Quits line) :
    ∃ answer, respond story s line = some (obey story s line, answer) := by
  have hblank : (Text.trim line).isEmpty && !(!s.offers.isEmpty) ↔
      Text.trim line = [] ∧ s.offers = [] := by simp
  simp only [respond, Command.ofLine, if_neg (show ¬ (Text.trim line = _ ∨ _) from h), obey]
  by_cases hproceed : Text.trim line = [] ∧ s.offers = []
  · rw [if_pos (hblank.mpr hproceed), if_pos hproceed]
    exact ⟨_, rfl⟩
  · rw [if_neg (mt hblank.mp hproceed), if_neg hproceed]
    cases Number.natural64? (Text.trim line) with
    | none => exact ⟨_, rfl⟩
    | some n =>
      cases n with
      | zero => exact ⟨_, rfl⟩
      | succ n =>
        simp only [Story.take]
        cases story.choose n s with
        | ok s' => exact ⟨_, rfl⟩
        | error refusal => exact ⟨_, rfl⟩

/-! ### The lines that are read -/

theorem inputLines_nil : inputLines (String.ofList []) = [] := by
  simp [inputLines, Text.lines, Text.splitWhere]

theorem ne_lineFeed_of_not_mem (hfeed : '\n' ∉ line) : ∀ c ∈ line, (c == '\n') = false := by
  intro c hc
  rw [beq_eq_false_iff_ne]
  rintro rfl
  exact hfeed hc

theorem inputLines_last (hne : unread ≠ []) (hfeed : '\n' ∉ unread) :
    inputLines (String.ofList unread) = [unread] := by
  have hlines : Text.lines unread = [unread] :=
    Text.splitWhere_eq_singleton (ne_lineFeed_of_not_mem hfeed)
  simp [inputLines, hlines, hne]

theorem inputLines_append (hfeed : '\n' ∉ line) (rest : List Char) :
    inputLines (String.ofList (line ++ '\n' :: rest)) =
      line :: inputLines (String.ofList rest) := by
  have hlines : Text.lines (line ++ '\n' :: rest) = line :: Text.lines rest :=
    Text.splitWhere_append_cons (ne_lineFeed_of_not_mem hfeed) rfl rest
  have hne : Text.lines rest ≠ [] := Text.splitWhere_ne_nil _ rest
  have hlast : (line :: Text.lines rest).getLast? = (Text.lines rest).getLast? :=
    List.getLast?_cons_of_ne_nil hne
  simp only [inputLines, String.toList_ofList, hlines, hlast, List.dropLast_cons_of_ne_nil hne]
  split <;> rfl

/-- The lines of an input are read one after another. -/
theorem inputLines_cases (unread : List Char) :
    (takeLine? unread = none ∧ inputLines (String.ofList unread) = []) ∨
      ∃ line rest, takeLine? unread = some (line, rest) ∧
        inputLines (String.ofList unread) = line :: inputLines (String.ofList rest) := by
  cases unread with
  | nil => exact .inl ⟨rfl, inputLines_nil⟩
  | cons c cs =>
    refine .inr ⟨_, _, rfl, ?_⟩
    have hfeed := Text.not_mem_takeWhile_ne '\n' (c :: cs)
    rcases Text.dropWhile_ne_cases '\n' (c :: cs) with ⟨hdrop, htake⟩ | ⟨rest, hdrop, hsplit⟩
    · rw [htake] at hfeed ⊢
      rw [hdrop, inputLines_last (List.cons_ne_nil c cs) hfeed, List.tail_nil, inputLines_nil]
    · rw [hdrop, List.tail_cons, ← inputLines_append hfeed, hsplit]

theorem takeLine?_eq_none (h : inputLines (String.ofList unread) = []) :
    takeLine? unread = none := by
  rcases inputLines_cases unread with ⟨htake, -⟩ | ⟨line, rest, -, hcons⟩
  · exact htake
  · rw [h] at hcons
    cases hcons

theorem exists_takeLine?_eq (h : inputLines (String.ofList unread) = line :: lines) :
    ∃ rest, takeLine? unread = some (line, rest) ∧ inputLines (String.ofList rest) = lines := by
  rcases inputLines_cases unread with ⟨-, hnil⟩ | ⟨first, rest, htake, hcons⟩
  · rw [h] at hnil
    cases hnil
  · rw [h] at hcons
    obtain ⟨rfl, rfl⟩ := List.cons.inj hcons
    exact ⟨rest, htake, rfl⟩

/-! ### Rounds -/

theorem exists_obeys (story : Story α) (s : State) (lines : List (List Char)) :
    ∃ read s', Obeys story s lines read s' := by
  induction lines generalizing s with
  | nil =>
    by_cases hs : Halted story s
    · exact ⟨0, s, .halted hs⟩
    · exact ⟨0, s, .exhausted hs⟩
  | cons line rest ih =>
    by_cases hs : Halted story s
    · exact ⟨0, s, .halted hs⟩
    by_cases hline : Quits line
    · exact ⟨0, s, .quits hs hline⟩
    obtain ⟨read, s', hrest⟩ := ih (obey story s line)
    exact ⟨read + 1, s', .next hs hline hrest⟩

/-- Reading line by line comes to what playing over all lines comes to. -/
theorem Obeys.rounds_eq (h : Obeys story s lines read s') (output : String)
    (hlines : inputLines (String.ofList unread) = lines) :
    ∃ written, play story s output lines = ⟨outcomeOf story s', s', written⟩ ∧
      rounds story (read + 1) ⟨s, unread, output⟩ = some ⟨outcomeOf story s', s', written⟩ := by
  induction h generalizing unread output with
  | @halted s lines hs =>
    have hended : ended? story s = some (outcomeOf story s) := by rw [ended?_eq, if_pos hs]
    refine ⟨output ++ shown story s, ?_, ?_⟩
    · cases lines <;> simp [play, hended]
    · simp [rounds, round, hended]
  | @exhausted s hs =>
    have hended := ended?_eq_none hs
    refine ⟨output ++ shown story s, ?_, ?_⟩
    · simp [play, hended, outcomeOf_of_not_halted hs]
    · simp [rounds, round, hended, takeLine?_eq_none hlines, outcomeOf_of_not_halted hs]
  | @quits s line rest hs hline =>
    have hended := ended?_eq_none hs
    obtain ⟨left, htake, -⟩ := exists_takeLine?_eq hlines
    refine ⟨output ++ shown story s, ?_, ?_⟩
    · simp [play, hended, respond_of_quits hline, outcomeOf_of_not_halted hs]
    · simp [rounds, round, hended, htake, respond_of_quits hline, outcomeOf_of_not_halted hs]
  | @next s s' line rest read hs hline _ ih =>
    have hended := ended?_eq_none hs
    obtain ⟨left, htake, hleft⟩ := exists_takeLine?_eq hlines
    obtain ⟨answer, hanswer⟩ := exists_respond story s hline
    obtain ⟨written, hplay, hrounds⟩ := ih (output ++ shown story s ++ answer) hleft
    refine ⟨written, ?_, ?_⟩
    · simp only [play, hended, hanswer, hplay]
    · rw [rounds]
      simp only [round, hended, htake, hanswer, hrounds]

theorem Obeys.read_le (h : Obeys story s lines read s') : read ≤ lines.length := by
  induction h with
  | halted | exhausted | quits => exact Nat.zero_le _
  | next _ _ _ ih => exact Nat.succ_le_succ ih

theorem Obeys.state_eq (h : Obeys story s lines read s') :
    s' = (lines.take read).foldl (obey story) s := by
  induction h with
  | halted | exhausted | quits => rw [List.take_zero, List.foldl_nil]
  | next _ _ _ ih => rw [List.take_succ_cons, List.foldl_cons, ih]

/-- Before a line that is carried out there was no reason to stop. -/
theorem Obeys.goes_on (h : Obeys story s lines read s') : ∀ k < read,
    ¬ Halted story ((lines.take k).foldl (obey story) s) ∧
      ∀ line, lines[k]? = some line → ¬ Quits line := by
  induction h with
  | halted | exhausted | quits => exact fun k hk => absurd hk (Nat.not_lt_zero k)
  | next hs hline _ ih =>
    intro k hk
    cases k with
    | zero => exact ⟨hs, fun line' hline' => Option.some.inj hline' ▸ hline⟩
    | succ k => exact ih k (Nat.lt_of_succ_lt_succ hk)

theorem Obeys.stops (h : Obeys story s lines read s') :
    Halted story s' ∨ ∀ line, lines[read]? = some line → Quits line := by
  induction h with
  | halted hs => exact .inl hs
  | exhausted => exact .inr fun line hline => by cases hline
  | quits _ hline => exact .inr fun line' hline' => Option.some.inj hline' ▸ hline
  | next _ _ _ ih => exact ih

/-- **A session carries out the lines of its input in order, as far as it reads them.** -/
theorem run_carries_out_lines (story : Story α) (s : State) (input : String) :
    let lines := inputLines input
    let result := run story s input
    ∃ read ≤ lines.length,
      (rounds story (read + 1) ⟨s, input.toList, ""⟩).map close = some result ∧
      result.state = (lines.take read).foldl (obey story) s ∧
      (∀ k < read, ¬ Halted story ((lines.take k).foldl (obey story) s) ∧
        ∀ line, lines[k]? = some line → ¬ Quits line) ∧
      (Halted story result.state ∨ ∀ line, lines[read]? = some line → Quits line) ∧
      result.outcome = outcomeOf story result.state := by
  intro lines result
  obtain ⟨read, s', h⟩ := exists_obeys story s lines
  have hlines : inputLines (String.ofList input.toList) = lines := by rw [String.ofList_toList]
  obtain ⟨written, hplay, hrounds⟩ := h.rounds_eq "" hlines
  have hresult : result = close ⟨outcomeOf story s', s', written⟩ := congrArg close hplay
  refine ⟨read, h.read_le, ?_, ?_, h.goes_on, ?_, ?_⟩
  · rw [hrounds, hresult, Option.map_some]
  · rw [hresult]
    exact h.state_eq
  · rw [hresult]
    exact h.stops
  · rw [hresult]
    rfl

end EventGraph.Playback.Session
