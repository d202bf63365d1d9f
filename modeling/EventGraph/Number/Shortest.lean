import EventGraph.Number.Binary

/-!
# The fewest decimal digits that identify a float

The reals that round to a float form an interval around it. `shortest` returns a decimal
`digits * 10 ^ exponent` of that interval with as few digits as possible, and of two such
decimals the nearer one; where two are equally near, a `Tie` decides. All comparisons are
between natural numbers.
-/

namespace EventGraph.Number

/-- Which of two decimals is taken that are equally near: the one whose last digit is even,
or the one of greater magnitude. -/
inductive Tie where
  | even
  | away
  deriving Repr, DecidableEq

/-- The value `digits * 10 ^ exponent`. -/
structure Decimal where
  digits : Nat
  exponent : Int
  deriving Repr, DecidableEq

/-- A positive fraction. -/
structure Fraction where
  num : Nat
  den : Nat

namespace Fraction

/-- `n * 2 ^ e` -/
def binary (n : Nat) (e : Int) : Fraction := ⟨n * Nat.pow 2 e.toNat, Nat.pow 2 (-e).toNat⟩

/-- `n * 10 ^ e` -/
def decimal (n : Nat) (e : Int) : Fraction := ⟨n * Nat.pow 10 e.toNat, Nat.pow 10 (-e).toNat⟩

def lt (a b : Fraction) : Bool := a.num * b.den < b.num * a.den

def le (a b : Fraction) : Bool := a.num * b.den ≤ b.num * a.den

/-- The greatest natural number `n` with `n * 10 ^ e` at most the fraction. -/
def floorAt (a : Fraction) (e : Int) : Nat :=
  a.num * Nat.pow 10 (-e).toNat / (a.den * Nat.pow 10 e.toNat)

end Fraction

/-- The reals that round to `mantissa * 2 ^ exponent` in a format. Below a power of two the
neighbouring float is only half as far away. The ends belong to it when the mantissa is
even. -/
structure RoundingInterval where
  low : Fraction
  value : Fraction
  high : Fraction
  closed : Bool

namespace RoundingInterval

def ofFinite (f : Format) (mantissa : Nat) (exponent : Int) : RoundingInterval :=
  let narrowBelow := mantissa = Nat.pow 2 f.fractionBits ∧ f.lowest < exponent
  { low := .binary (4 * mantissa - if narrowBelow then 1 else 2) (exponent - 2)
    value := .binary (4 * mantissa) (exponent - 2)
    high := .binary (4 * mantissa + 2) (exponent - 2)
    closed := mantissa % 2 = 0 }

/-- A decimal reads back as the float when it lies in the interval. -/
def contains (i : RoundingInterval) (d : Decimal) : Bool :=
  let x := Fraction.decimal d.digits d.exponent
  if i.closed then i.low.le x && x.le i.high else i.low.lt x && x.lt i.high

end RoundingInterval

/-- Counts up from `guess` to the exponent of the leading decimal digit of `v`. -/
def leadingFrom (v : Fraction) : Nat → Int → Int
  | 0, guess => guess
  | tries + 1, guess =>
    if (Fraction.decimal 1 (guess + 1)).le v then leadingFrom v tries (guess + 1) else guess

/-- The exponent `e` with `10 ^ e ≤ v < 10 ^ (e + 1)`. -/
def leadingExponent (v : Fraction) : Int :=
  leadingFrom v 4 (((v.num.log2 : Int) - v.den.log2 - 1) * 30103 / 100000 - 1)

/-- The better of the two neighbours of the value on the grid `10 ^ exponent`, if one of
them reads back: the nearer one, and the one the tie rule names when they are equally
near. -/
def bestOnGrid? (tie : Tie) (i : RoundingInterval) (exponent : Int) : Option Decimal :=
  let below : Decimal := ⟨i.value.floorAt exponent, exponent⟩
  let above : Decimal := ⟨below.digits + 1, exponent⟩
  match i.contains below, i.contains above with
  | false, false => none
  | true, false => some below
  | false, true => some above
  | true, true =>
    let middle : Fraction := .decimal (2 * below.digits + 1) exponent
    let twice : Fraction := ⟨2 * i.value.num, i.value.den⟩
    if twice.lt middle then some below
    else if middle.lt twice then some above
    else match tie with
      | .even => if below.digits % 2 = 0 then some below else some above
      | .away => some above

/-- Tries ever finer grids, from one digit on. -/
def searchGrids (tie : Tie) (i : RoundingInterval) : Nat → Int → Option Decimal
  | 0, _ => none
  | tries + 1, exponent =>
    match bestOnGrid? tie i exponent with
    | some d => some d
    | none => searchGrids tie i tries (exponent - 1)

/-- Moves trailing zeros of the digits into the exponent. -/
def Decimal.strip (d : Decimal) : Nat → Decimal
  | 0 => d
  | tries + 1 =>
    if d.digits ≠ 0 ∧ d.digits % 10 = 0 then
      Decimal.strip ⟨d.digits / 10, d.exponent + 1⟩ tries
    else d

/-- The shortest decimal of a positive finite float. -/
def shortest (tie : Tie) (f : Format) (mantissa : Nat) (exponent : Int) : Decimal :=
  let i := RoundingInterval.ofFinite f mantissa exponent
  match searchGrids tie i 17 (leadingExponent i.value) with
  | some d => d.strip 17
  | none => ⟨mantissa * Nat.pow 2 exponent.toNat * Nat.pow 5 (-exponent).toNat, min exponent 0⟩

end EventGraph.Number
