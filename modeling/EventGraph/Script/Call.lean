import EventGraph.Text.Blank

/-!
# Calls

Conditions and actions are single calls `NAME(argument, argument, ...)` without nesting. A
name consists of ASCII letters, digits and underscores. Arguments stand between commas; in
double quotes a comma or parenthesis is text.
-/

namespace EventGraph.Script

/-- Why a text is no call. -/
inductive Malformation where
  | noCall
  | missingName
  | invalidName
  | unclosed
  | unbalanced
  deriving Repr, DecidableEq

def Malformation.reason : Malformation → String
  | noCall => "expected NAME(...)"
  | missingName => "missing function name"
  | invalidName => "invalid function name"
  | unclosed => "missing closing parenthesis"
  | unbalanced => "nested or unbalanced parentheses"

/-- How many arguments a function takes. -/
inductive Arity where
  | exact (n : Nat)
  | atLeast (n : Nat)
  deriving Repr, DecidableEq

def Arity.expected : Arity → String
  | exact n => toString n
  | atLeast n => "at least " ++ toString n

/-- Why a call fails. -/
inductive Fault where
  | malformed (source : String) (why : Malformation)
  | unknownFunction (name : String)
  | arity (function : String) (expected : Arity) (found : Nat)
  | notBoolean (function : String) (value : String)
  | notNumber (function : String) (value : String)
  | emptyKey (function : String)
  deriving Repr, DecidableEq

def Fault.message : Fault → String
  | malformed source why => "Malformed expression '" ++ source ++ "': " ++ why.reason
  | unknownFunction name => "Unknown function '" ++ name ++ "'"
  | arity function expected found =>
    function ++ " expects " ++ expected.expected ++ " argument(s), got " ++ toString found
  | notBoolean function value => function ++ ": '" ++ value ++ "' is not a boolean"
  | notNumber function value => function ++ ": '" ++ value ++ "' is not a number"
  | emptyKey function => function ++ ": empty storage key"

structure Call where
  name : String
  args : List String
  deriving Repr, DecidableEq

namespace Call

def isNameChar (c : Char) : Bool := c.isAlphanum || c == '_'

/-- The pieces between the commas outside quotes. Fails on a parenthesis outside quotes and
on a quote left open. -/
def splitArgs? (inQuotes : Bool) : List Char → Option (List (List Char))
  | [] => if inQuotes then none else some [[]]
  | c :: cs =>
    if c = '"' then (splitArgs? (!inQuotes) cs).map (Text.consFirst c)
    else if !inQuotes && (c = '(' || c = ')') then none
    else if !inQuotes && c = ',' then (splitArgs? inQuotes cs).map ([] :: ·)
    else (splitArgs? inQuotes cs).map (Text.consFirst c)

/-- The trimmed arguments of the text between the parentheses; a blank text has none. -/
def args? (inner : List Char) : Option (List String) :=
  if inner.all Text.isBlank then some []
  else (splitArgs? false inner).map fun pieces =>
    pieces.map fun piece => String.ofList (Text.trim piece)

/-- Reads a call. Only the trimmed source takes part, also in the error. -/
def parse (source : String) : Except Fault Call :=
  let cs := Text.trim source.toList
  let fail (why : Malformation) : Except Fault Call := .error (.malformed (String.ofList cs) why)
  match cs.dropWhile (· ≠ '(') with
  | [] => fail .noCall
  | _ :: afterOpen =>
    let name := Text.trim (cs.takeWhile (· ≠ '('))
    if name.isEmpty then fail .missingName
    else if !name.all isNameChar then fail .invalidName
    else if cs.getLast? ≠ some ')' then fail .unclosed
    else match args? afterOpen.dropLast with
      | none => fail .unbalanced
      | some args => .ok ⟨String.ofList name, args⟩

end Call

end EventGraph.Script
