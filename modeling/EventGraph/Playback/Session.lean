import EventGraph.Playback.Story

/-!
# Sessions

A session plays a story over lines of input: a number picks an offer, a blank line goes on
from a text, `q` or `quit` leaves. It echoes what is shown and ends with the storage.
-/

namespace EventGraph.Playback

inductive Outcome where
  | finished
  | stuck
  | quit
  | deadEnd
  deriving Repr, DecidableEq

/-- A line of input while some number of entries is on offer. -/
inductive Command where
  | quit
  | proceed
  | pick (position : Nat)
  | unclear
  deriving Repr, DecidableEq

namespace Command

def ofLine (offering : Bool) (line : List Char) : Command :=
  let line := Text.trim line
  if line = "q".toList ∨ line = "quit".toList then quit
  else if line.isEmpty && !offering then proceed
  else match Number.natural64? line with
    | some (n + 1) => pick n
    | _ => unclear

end Command

/-- The lines of an input; a line feed at the very end starts no further line. -/
def inputLines (input : String) : List (List Char) :=
  let lines := Text.lines input.toList
  if lines.getLast? = some [] then lines.dropLast else lines

namespace Session

variable {α : Type} (story : Story α)

/-- The shown text and the numbered offers. -/
def display (s : State) : String :=
  (if s.text = "" then "" else s.text ++ "\n") ++
    String.join (s.offers.mapIdx fun i o => "  " ++ toString (i + 1) ++ ". " ++ o.text ++ "\n")

/-- Whether a choice has nothing to offer. -/
def isDeadEnd (s : State) : Bool :=
  s.offers.isEmpty && ((story.currentNode? s).map (·.kind) == some .choice)

/-- The outcome of a state in which no input is read. -/
def ended? (s : State) : Option Outcome :=
  if s.isStuck then some .stuck
  else if s.finished then some .finished
  else if isDeadEnd story s then some .deadEnd
  else none

/-- What is written last about a state in which no input is read. -/
def farewell (s : State) : Outcome → String
  | .stuck => String.join (s.errors.map fun e => "error: " ++ e.text ++ "\n")
  | .finished => "-- end --\n"
  | .deadEnd => "-- no choices available --\n"
  | .quit => ""

def prompt : String := "> "

/-- What is written about a state before input is read. -/
def shown (s : State) : String :=
  display s ++ match ended? story s with
    | some outcome => farewell s outcome
    | none => prompt

/-- Carries out one line of input, unless it quits; the text answers one that cannot be. -/
def respond (s : State) (line : List Char) : Option (State × String) :=
  match Command.ofLine (!s.offers.isEmpty) line with
  | .quit => none
  | .proceed => some (story.proceed s, "")
  | .pick position => match story.choose position s with
    | .ok s => some (s, "")
    | .error refusal => some (s, refusal.message ++ "\n")
  | .unclear => some (s, "enter a choice number, or q to quit\n")

structure Result where
  outcome : Outcome
  state : State
  output : String

/-- Plays over the lines that are left. -/
def play (s : State) (output : String) : List (List Char) → Result
  | [] => ⟨(ended? story s).getD .quit, s, output ++ shown story s⟩
  | line :: rest =>
    let output := output ++ shown story s
    match ended? story s with
    | some outcome => ⟨outcome, s, output⟩
    | none => match respond story s line with
      | some (s, answer) => play s (output ++ answer) rest
      | none => ⟨.quit, s, output⟩

/-- The top level of a storage, one entry a line. -/
def storageLines (s : Storage) : String :=
  "storage:\n" ++
    String.join (s.fields.map fun (key, v) => "  " ++ key ++ " = " ++ v.display ++ "\n")

/-- Plays a started story over a whole input. -/
def run (s : State) (input : String) : Result :=
  let result := play story s "" (inputLines input)
  { result with output := result.output ++ storageLines result.state.storage }

end Session

end EventGraph.Playback
