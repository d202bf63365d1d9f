import EventGraph.Number.Shortest

/-!
# Decimal text of floats

Which digits a float has is decided in `EventGraph.Number.Shortest`; a `Layout` decides how
they are written: which of two equally near decimals is taken, where positional writing ends,
whether whole numbers keep a fraction, and what stands for the values that are not finite.
-/

namespace EventGraph.Number

/-- How a number is laid out. A value whose leading digit stands at `10 ^ e` is written
positionally when `positional e` holds and with an exponent otherwise. -/
structure Layout where
  tie : Tie
  positional : Int → Bool
  wholeFraction : Bool
  nanText : String
  infinityText : String
  negativeInfinityText : String

/-- The decimal digits of a natural number, most significant first. -/
def digitChars (n : Nat) : List Char := Nat.toDigits 10 n

/-- Digits with a point after the first `whole` of them, filled up with zeros. -/
def positionalChars (digits : List Char) (whole : Int) (wholeFraction : Bool) : List Char :=
  let count : Int := digits.length
  if whole ≤ 0 then
    ['0', '.'] ++ List.replicate (-whole).toNat '0' ++ digits
  else if whole < count then
    digits.take whole.toNat ++ ['.'] ++ digits.drop whole.toNat
  else
    digits ++ List.replicate (whole - count).toNat '0' ++ (if wholeFraction then ['.', '0'] else [])

/-- One digit, a point and the rest, then `e`, a sign and the exponent. -/
def scientificChars (digits : List Char) (leading : Int) : List Char :=
  let mantissa := match digits with
    | [] => []
    | [d] => [d]
    | d :: rest => d :: '.' :: rest
  mantissa ++ ['e', if leading < 0 then '-' else '+'] ++ digitChars leading.natAbs

def Layout.decimal (l : Layout) (d : Decimal) : List Char :=
  if d.digits = 0 then positionalChars ['0'] 1 l.wholeFraction
  else
    let digits := digitChars d.digits
    let leading := d.exponent + digits.length - 1
    if l.positional leading then positionalChars digits (leading + 1) l.wholeFraction
    else scientificChars digits leading

def Layout.exact (l : Layout) (f : Format) : Exact → String
  | .nan => l.nanText
  | .infinite negative => if negative then l.negativeInfinityText else l.infinityText
  | .finite negative m e =>
    let d : Decimal := if m = 0 then ⟨0, 0⟩ else shortest l.tie f m e
    String.ofList ((if negative then ['-'] else []) ++ l.decimal d)

def Layout.float (l : Layout) (x : Float) : String := l.exact .double (.ofFloat x)

def Layout.float32 (l : Layout) (x : Float32) : String := l.exact .single (.ofFloat32 x)

end EventGraph.Number
