import EventGraph.Script.Call
import EventGraph.Script.Value
import EventGraph.Storage

/-!
# Conditions

A condition is empty, `true`, `false` or one call of a test. Arguments name stored values;
an argument that names none is a literal.
-/

namespace EventGraph.Script

/-- The stored value an argument names, else the literal. -/
def resolve (s : Storage) (arg : String) : Json := (s.get? arg).getD (literal arg)

/-- Whether an argument holds. Of arguments that name no stored value only truth values and
numbers can. -/
def holds (s : Storage) (arg : String) : Bool :=
  match s.get? arg with
  | some v => v.truthy
  | none => match literal arg with
    | .string _ => false
    | v => v.truthy

inductive Comparison where
  | greater
  | greaterEqual
  | less
  | lessEqual
  deriving Repr, DecidableEq

def Comparison.holds : Comparison → Float → Float → Bool
  | greater, x, y => x > y
  | greaterEqual, x, y => x ≥ y
  | less, x, y => x < y
  | lessEqual, x, y => x ≤ y

inductive Test where
  | truth (expected : Bool)
  | equality (expected : Bool)
  | comparison (c : Comparison)
  | all
  | any
  deriving Repr, DecidableEq

namespace Test

/-- All tests, in the order they are listed. -/
def table : List Test :=
  [truth true, truth false, equality true, equality false, comparison .greater,
   comparison .greaterEqual, comparison .less, comparison .lessEqual, all, any]

def name : Test → String
  | truth true => "IS"
  | truth false => "ISNOT"
  | equality true => "EQ"
  | equality false => "NEQ"
  | comparison .greater => "GT"
  | comparison .greaterEqual => "GTE"
  | comparison .less => "LT"
  | comparison .lessEqual => "LTE"
  | all => "ALL"
  | any => "ANY"

def arity : Test → Arity
  | truth _ => .exact 1
  | equality _ | comparison _ => .exact 2
  | all | any => .atLeast 1

def ofName? (name : String) : Option Test := table.find? (·.name == name)

/-- The number an argument stands for. -/
def numberArg (t : Test) (s : Storage) (arg : String) : Except Fault Float :=
  let v := resolve s arg
  match v.asNumber? with
  | some x => .ok x
  | none => .error (.notNumber t.name v.display)

/-- Applies a test to its arguments; a wrong number of them is a fault. -/
def eval (t : Test) (s : Storage) (args : List String) : Except Fault Bool :=
  match t, args with
  | truth expected, [a] => .ok (holds s a == expected)
  | equality expected, [a, b] => .ok ((resolve s a).sameValue (resolve s b) == expected)
  | comparison c, [a, b] => do
    let x ← t.numberArg s a
    let y ← t.numberArg s b
    pure (c.holds x y)
  | all, _ :: _ => .ok (args.all (holds s))
  | any, _ :: _ => .ok (args.any (holds s))
  | _, _ => .error (.arity t.name t.arity args.length)

end Test

/-- Evaluates a condition; an empty one holds. -/
def evalCondition (source : String) (s : Storage) : Except Fault Bool :=
  let trimmed := Text.trimmed source
  if trimmed = "" ∨ trimmed = "true" then .ok true
  else if trimmed = "false" then .ok false
  else do
    let call ← Call.parse source
    match Test.ofName? call.name with
    | some t => t.eval s call.args
    | none => .error (.unknownFunction call.name)

end EventGraph.Script
