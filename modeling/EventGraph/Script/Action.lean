import EventGraph.Script.Condition

/-!
# Actions

An action is one call of a command. Commands read or write the storage; a command that fails
writes nothing. A script is a text with one action a line. Failing lines are reported by
number and the lines after them still run.
-/

namespace EventGraph.Script

inductive Command where
  | get
  | setBoolean
  | setNumber
  | setString
  | modify
  deriving Repr, DecidableEq

/-- A storage after an action, and the value read by one that reads. -/
structure Effect where
  storage : Storage
  value? : Option Json := none

namespace Command

/-- All commands, in the order they are listed. -/
def table : List Command := [get, setBoolean, setNumber, setString, modify]

def name : Command → String
  | get => "GET"
  | setBoolean => "SET_BOOL"
  | setNumber => "SET_NUM"
  | setString => "SET_STR"
  | modify => "MOD"

def arity : Command → Arity
  | get => .exact 1
  | _ => .exact 2

def ofName? (name : String) : Option Command := table.find? (·.name == name)

/-- The value a writing command stores under a key. -/
def newValue (c : Command) (s : Storage) (key arg : String) : Except Fault Json :=
  match c with
  | setBoolean =>
    if arg = "true" then .ok (.bool true)
    else if arg = "false" then .ok (.bool false)
    else .error (.notBoolean c.name arg)
  | setNumber => match Number.finiteFloat? arg.toList with
    | some x => .ok (.ofNumber x)
    | none => .error (.notNumber c.name arg)
  | modify => do
    let number (v : Json) : Except Fault Float := match v.asNumber? with
      | some x => .ok x
      | none => .error (.notNumber c.name v.display)
    let base ← number ((s.get? key).getD .null)
    let delta ← number (resolve s arg)
    pure (.ofNumber (base + delta))
  | _ => .ok (.string (unquote arg))

/-- Runs a command; the first argument is the key. -/
def run (c : Command) (s : Storage) (args : List String) : Except Fault Effect :=
  match c, args with
  | get, [key] =>
    if key = "" then .error (.emptyKey c.name)
    else .ok ⟨s, some ((s.get? key).getD .null)⟩
  | get, _ => .error (.arity c.name c.arity args.length)
  | _, [key, arg] =>
    if key = "" then .error (.emptyKey c.name)
    else (c.newValue s key arg).map fun v => ⟨s.set key v, none⟩
  | _, _ => .error (.arity c.name c.arity args.length)

end Command

/-- Runs one action line. -/
def runAction (line : String) (s : Storage) : Except Fault Effect := do
  let call ← Call.parse line
  match Command.ofName? call.name with
  | some c => c.run s call.args
  | none => .error (.unknownFunction call.name)

/-- A failing line, counted from one. -/
structure LineFault where
  line : Nat
  fault : Fault
  deriving Repr, DecidableEq

/-- Runs lines in order, the first of them having the given number. Blank lines do nothing. -/
def runLines (number : Nat) : List (List Char) → Storage → Storage × List LineFault
  | [], s => (s, [])
  | line :: rest, s =>
    if line.all Text.isBlank then runLines (number + 1) rest s
    else match runAction (String.ofList line) s with
      | .ok effect => runLines (number + 1) rest effect.storage
      | .error fault =>
        let (s, faults) := runLines (number + 1) rest s
        (s, ⟨number, fault⟩ :: faults)

def run (script : String) (s : Storage) : Storage × List LineFault :=
  runLines 1 (Text.lines script.toList) s

end EventGraph.Script
