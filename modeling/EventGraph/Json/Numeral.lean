import EventGraph.Json.Basic
import EventGraph.Number.Literal

/-!
# JSON numbers

A numeral without fraction and exponent that fits in 64 bits, unsigned or with a minus sign,
is a whole number. Any other numeral is a double: the longest run of its digits that fits in
64 bits is scaled by a power of ten, in steps of at most `10 ^ 308`, each step rounded. A
numeral whose value would be infinite has no value.
-/

namespace EventGraph.Json

open EventGraph.Number

structure Numeral where
  negative : Bool
  whole : List Char
  fraction : List Char
  exponent? : Option Int
  deriving Repr, DecidableEq

/-- Appends digits to a number while it stays below `2 ^ 64`; the second component counts
the digits left over. -/
def appendDigits (n : Nat) : List Char → Nat × Nat
  | [] => (n, 0)
  | c :: cs =>
    let next := 10 * n + digitsValue [c]
    if next < UInt64.size then appendDigits next cs else (n, cs.length + 1)

def tenTo (n : Nat) : Float := Float.ofScientific 1 false n

/-- `x * 10 ^ e`. Four steps take every 64-bit number to zero, so the bound is never met. -/
def scaleByTen : Nat → Float → Int → Option Float
  | 0, x, _ => some x
  | steps + 1, x, e =>
    if e.natAbs ≤ 308 then
      if 0 ≤ e then
        let scaled := x * tenTo e.natAbs
        if scaled.isInf then none else some scaled
      else some (x / tenTo e.natAbs)
    else if x == 0.0 then some x
    else if 0 ≤ e then none
    else scaleByTen steps (x / tenTo 308) (e + 308)

namespace Numeral

def float? (n : Numeral) : Option Float :=
  let (whole, unreadWhole) := appendDigits 0 n.whole
  let (significand, unreadFraction) := appendDigits whole n.fraction
  let point : Int := unreadWhole - (n.fraction.length - unreadFraction : Nat)
  let exponent := point + n.exponent?.getD 0
  (scaleByTen 4 (Float.ofNat significand) exponent).map fun x => if n.negative then -x else x

def value? (n : Numeral) : Option Json :=
  let whole := digitsValue n.whole
  let isWhole := n.fraction.isEmpty && n.exponent?.isNone
  if isWhole && !n.negative && whole < UInt64.size then some (.int whole)
  else if isWhole && n.negative && 0 < whole && whole ≤ UInt64.size / 2 then
    some (.int (-(whole : Int)))
  else n.float?.map .float

end Numeral

/-- A number as a single, rounded once from a whole number or from a double. -/
def float32? : Json → Option Float32
  | int n =>
    let magnitude := Float32.ofNat n.natAbs
    some (if n < 0 then -magnitude else magnitude)
  | float x => some (narrow x)
  | _ => none

end EventGraph.Json
