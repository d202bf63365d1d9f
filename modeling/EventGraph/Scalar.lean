import EventGraph.Number.Binary

/-!
# Scalars

Coordinates and lengths are of a scalar type: single-precision floats when the editor runs,
rationals where layout and zoom are reasoned about exactly. A scalar may differ from itself,
as a float that is not a number does; comparisons with it are false.
-/

namespace EventGraph

class Scalar (α : Type) extends
    Add α, Sub α, Mul α, Div α, LE α, LT α, BEq α, NatCast α, OfScientific α where
  decidableLE : DecidableLE α
  decidableLT : DecidableLT α
  abs : α → α
  /-- The least whole number that is not below. -/
  ceil : α → α
  /-- The nearest whole number, a half going away from zero. -/
  round : α → α

instance decidableLEOfScalar {α : Type} [Scalar α] : DecidableLE α := Scalar.decidableLE

instance decidableLTOfScalar {α : Type} [Scalar α] : DecidableLT α := Scalar.decidableLT

/-- Scalars with a size of vectors by which distances are compared. -/
class Metric (α : Type) extends Scalar α where
  length : α → α → α
  /-- The distance of what is not there. -/
  infinity : α

namespace Scalar

variable {α : Type} [Scalar α]

def isNumber (a : α) : Bool := a == a

/-- The lesser of two scalars; the other one when one is not a number. -/
def min (a b : α) : α := if a < b || !isNumber b then a else b

/-- The greater of two scalars; the other one when one is not a number. -/
def max (a b : α) : α := if b < a || !isNumber b then a else b

/-- Moves a scalar into a range; what is not a number stays. -/
def clamp (a low high : α) : α :=
  let a := if a < low then low else a
  if high < a then high else a

/-- The distance from one to the next greater single, `2 ^ -23`. -/
def epsilon : α := 1.1920928955078125e-7

end Scalar

instance : Metric Float32 where
  natCast := Float32.ofNat
  decidableLE := inferInstance
  decidableLT := inferInstance
  abs := Float32.abs
  ceil x := (Number.Exact.ofFloat32 x).ceil.toFloat32
  round x := (Number.Exact.ofFloat32 x).round.toFloat32
  length := Number.hypotenuse
  infinity := 1.0 / 0.0

instance : Scalar Rat where
  decidableLE := inferInstance
  decidableLT := inferInstance
  abs := Rat.abs
  ceil x := x.ceil
  round x := if x < 0 then ((x - 1 / 2).ceil : Rat) else ((x + 1 / 2).floor : Rat)

end EventGraph
