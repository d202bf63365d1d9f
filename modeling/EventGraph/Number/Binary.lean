/-!
# Binary floating-point numbers as exact values

A binary float is a sign, a natural mantissa and a power of two. `Exact` holds that
value without rounding, `Format.encode` rounds a magnitude to the nearest float of a
format, ties to the even mantissa. Conversions between the two widths and rounding to
whole numbers go through exact values, so nothing is rounded twice.
-/

namespace EventGraph.Number

/-- The value a float stands for. A finite value is `mantissa * 2 ^ exponent`. -/
inductive Exact where
  | nan
  | infinite (negative : Bool)
  | finite (negative : Bool) (mantissa : Nat) (exponent : Int)
  deriving Repr, DecidableEq

/-- A binary interchange format, given by its stored fraction and exponent widths. -/
structure Format where
  fractionBits : Nat
  exponentBits : Nat
  deriving Repr, DecidableEq

namespace Format

def single : Format := ⟨23, 8⟩
def double : Format := ⟨52, 11⟩

/-- The exponent of the last mantissa bit of the smallest numbers. -/
def lowest (f : Format) : Int := 2 - (Nat.pow 2 (f.exponentBits - 1) : Int) - f.fractionBits

/-- The bits of positive infinity, the first pattern above every finite magnitude. -/
def infinityBits (f : Format) : Nat := (Nat.pow 2 f.exponentBits - 1) * Nat.pow 2 f.fractionBits

def signBit (f : Format) : Nat := Nat.pow 2 (f.fractionBits + f.exponentBits)

/-- `num / den` rounded to the nearest natural number, a half to the even one. -/
def roundHalfEven (num den : Nat) : Nat :=
  let q := num / den
  let r := num % den
  if 2 * r < den then q
  else if den < 2 * r then q + 1
  else if q % 2 = 0 then q else q + 1

/-- The bits of the float nearest to `mantissa * 2 ^ exponent`. A magnitude that rounds
past the largest float becomes infinite. -/
def encode (f : Format) (mantissa : Nat) (exponent : Int) : Nat :=
  if mantissa = 0 then 0
  else
    let place := max (exponent + mantissa.log2 - f.fractionBits) f.lowest
    let rounded :=
      if place ≤ exponent then mantissa * Nat.pow 2 (exponent - place).toNat
      else roundHalfEven mantissa (Nat.pow 2 (place - exponent).toNat)
    min ((place - f.lowest).toNat * Nat.pow 2 f.fractionBits + rounded) f.infinityBits

def decode (f : Format) (bits : Nat) : Exact :=
  let negative := f.signBit ≤ bits
  let magnitude := bits % f.signBit
  let fraction := magnitude % Nat.pow 2 f.fractionBits
  let biased := magnitude / Nat.pow 2 f.fractionBits
  if biased = Nat.pow 2 f.exponentBits - 1 then
    if fraction = 0 then .infinite negative else .nan
  else if biased = 0 then .finite negative fraction f.lowest
  else .finite negative (Nat.pow 2 f.fractionBits + fraction) (f.lowest + biased - 1)

end Format

namespace Exact

def ofFloat (x : Float) : Exact := Format.double.decode x.toBits.toNat

def ofFloat32 (x : Float32) : Exact := Format.single.decode x.toBits.toNat

/-- The bits of the nearest float of a format; every not-a-number shares one pattern. -/
def bits (f : Format) : Exact → Nat
  | nan => f.infinityBits + Nat.pow 2 (f.fractionBits - 1)
  | infinite negative => (if negative then f.signBit else 0) + f.infinityBits
  | finite negative m e => (if negative then f.signBit else 0) + f.encode m e

def toFloat (v : Exact) : Float := Float.ofBits (UInt64.ofNat (v.bits .double))

def toFloat32 (v : Exact) : Float32 := Float32.ofBits (UInt32.ofNat (v.bits .single))

/-- The least whole number that is not below the value; the sign of a zero is kept. -/
def ceil : Exact → Exact
  | finite negative m e =>
    if 0 ≤ e then finite negative m e
    else
      let unit := Nat.pow 2 (-e).toNat
      finite negative (if negative then m / unit else (m + unit - 1) / unit) 0
  | v => v

/-- The nearest whole number, a half going away from zero; the sign of a zero is kept. -/
def round : Exact → Exact
  | finite negative m e =>
    if 0 ≤ e then finite negative m e
    else
      let unit := Nat.pow 2 (-e).toNat
      finite negative ((2 * m + unit) / (2 * unit)) 0
  | v => v

/-- The value as an integer, when it is one. -/
def toInt? : Exact → Option Int
  | finite negative m e =>
    let magnitude? : Option Nat :=
      if 0 ≤ e then some (m * Nat.pow 2 e.toNat)
      else if m % Nat.pow 2 (-e).toNat = 0 then some (m / Nat.pow 2 (-e).toNat)
      else none
    magnitude?.map fun n => if negative then -(n : Int) else n
  | _ => none

end Exact

/-- The double with the value of a single; always exact. -/
def widen (x : Float32) : Float := (Exact.ofFloat32 x).toFloat

/-- The single nearest to a double. -/
def narrow (x : Float) : Float32 := (Exact.ofFloat x).toFloat32

/-- The length of the vector `(x, y)`: squares, sum and root in double precision, rounded
once to single. One infinite side makes it infinite, whatever the other is. -/
def hypotenuse (x y : Float32) : Float32 :=
  if x.isInf || y.isInf then 1.0 / 0.0
  else
    let x := widen x
    let y := widen y
    narrow (Float.sqrt (x * x + y * y))

end EventGraph.Number
