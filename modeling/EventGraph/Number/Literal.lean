import EventGraph.Number.Binary

/-!
# Reading decimal literals

A literal is an optional sign and either digits with an optional point and exponent, with at
least one digit before the exponent, or one of the words `inf`, `infinity` and `nan` in any
case. It is read as the nearest float.
-/

namespace EventGraph.Number

/-- What a literal says, before it is rounded to a float. -/
inductive Literal where
  | nan
  | infinite (negative : Bool)
  | decimal (negative : Bool) (digits : Nat) (exponent : Int)
  deriving Repr, DecidableEq

/-- The value of a run of decimal digits. -/
def digitsValue (cs : List Char) : Nat :=
  cs.foldl (fun n c => 10 * n + (c.toNat - '0'.toNat)) 0

def splitDigits (cs : List Char) : List Char × List Char :=
  (cs.takeWhile Char.isDigit, cs.dropWhile Char.isDigit)

/-- Reads an optional sign; `true` stands for minus. -/
def splitSign : List Char → Bool × List Char
  | '-' :: cs => (true, cs)
  | '+' :: cs => (false, cs)
  | cs => (false, cs)

/-- An unsigned 64-bit number with an optional plus sign. -/
def natural64? (cs : List Char) : Option Nat :=
  let digits := match cs with
    | '+' :: rest => rest
    | cs => cs
  if digits.isEmpty || !digits.all Char.isDigit then none
  else
    let n := digitsValue digits
    if n < UInt64.size then some n else none

/-- Reads `e`, an optional sign and digits up to the end; an empty text is exponent zero. -/
def exponentPart? : List Char → Option Int
  | [] => some 0
  | c :: cs =>
    if c = 'e' ∨ c = 'E' then
      let (negative, cs) := splitSign cs
      let (digits, rest) := splitDigits cs
      if digits.isEmpty || !rest.isEmpty then none
      else some (if negative then -(digitsValue digits : Int) else digitsValue digits)
    else none

namespace Literal

/-- Reads an unsigned number with an optional point and exponent. -/
def unsigned? (negative : Bool) (cs : List Char) : Option Literal :=
  let (whole, rest) := splitDigits cs
  let (fraction, rest) := match rest with
    | '.' :: rest => splitDigits rest
    | rest => ([], rest)
  if whole.isEmpty && fraction.isEmpty then none
  else
    (exponentPart? rest).map fun e =>
      decimal negative (digitsValue (whole ++ fraction)) (e - fraction.length)

def read? (cs : List Char) : Option Literal :=
  let (negative, body) := splitSign cs
  let word := body.map Char.toLower
  if word = "inf".toList ∨ word = "infinity".toList then some (infinite negative)
  else if word = "nan".toList then some nan
  else unsigned? negative body

/-- The nearest double. -/
def toFloat : Literal → Float
  | nan => 0.0 / 0.0
  | infinite negative => if negative then -1.0 / 0.0 else 1.0 / 0.0
  | decimal negative digits e =>
    let magnitude := Float.ofScientific digits (e < 0) e.natAbs
    if negative then -magnitude else magnitude

/-- The nearest single. -/
def toFloat32 : Literal → Float32
  | nan => 0.0 / 0.0
  | infinite negative => if negative then -1.0 / 0.0 else 1.0 / 0.0
  | decimal negative digits e =>
    let magnitude := Float32.ofScientific digits (e < 0) e.natAbs
    if negative then -magnitude else magnitude

end Literal

/-- The double a literal reads as, if it is finite. -/
def finiteFloat? (cs : List Char) : Option Float :=
  match Literal.read? cs with
  | some l => if l.toFloat.isFinite then some l.toFloat else none
  | none => none

end EventGraph.Number
