import EventGraph.Number.Literal
import EventGraph.Ron.Quotation

/-!
# Numbers in RON

An integer has an optional base, underscores between its digits, and a range: that of the type
its suffix names, else 64 bits. Any other number, also an integer beyond its range, is read as
a float, which may name its own width.
-/

namespace EventGraph.Ron

def isNumberStart (c : Char) : Bool := c.isDigit || c = '+' || c = '-' || c = '.'

/-- Characters of a number and of what may not follow one without a break. -/
def isNumberChar (c : Char) : Bool := c.isAlphanum || c = '_' || c = '.' || c = '+' || c = '-'

/-- The text before a suffix. -/
def beforeSuffix? (suffix : String) (cs : List Char) : Option (List Char) :=
  if suffix.toList.isSuffixOf cs then some (cs.take (cs.length - suffix.length)) else none

/-! ### Floats -/

/-- Drops the underscores between the digits of a number; none may open a run of digits. -/
def dropUnderscores? : Bool → List Char → Option (List Char)
  | _, [] => some []
  | allowed, c :: cs =>
    if c = '_' then if allowed then dropUnderscores? allowed cs else none
    else
      let allowed := if c.isDigit || c = 'e' || c = 'E' then true
        else if c = '.' then false
        else allowed
      (dropUnderscores? allowed cs).map (c :: ·)

/-- Reads a float without suffix, after its sign. -/
def magnitude? (negative : Bool) (body : List Char) : Option Number.Literal :=
  if body = "inf".toList then some (.infinite negative)
  else if body = "NaN".toList then some .nan
  else (dropUnderscores? false body).bind (Number.Literal.unsigned? negative)

/-- Reads a float that has one of the given suffixes or none. -/
def float? (suffixes : List String) (cs : List Char) : Option Number.Literal :=
  let (negative, body) := Number.splitSign cs
  (magnitude? negative body).or
    ((suffixes.findSome? (beforeSuffix? · body)).bind (magnitude? negative))

/-! ### Integers -/

/-- A type of fixed-width integers. -/
structure IntegerType where
  signed : Bool
  bits : Nat
  deriving Repr, DecidableEq

namespace IntegerType

def natural64 : IntegerType := ⟨false, 64⟩
def integer64 : IntegerType := ⟨true, 64⟩

def all : List IntegerType :=
  [⟨true, 8⟩, ⟨true, 16⟩, ⟨true, 32⟩, integer64, ⟨false, 8⟩, ⟨false, 16⟩, ⟨false, 32⟩, natural64]

def suffix (t : IntegerType) : String := (if t.signed then "i" else "u") ++ toString t.bits

/-- Whether a sign and a magnitude are in the range of the type. -/
def contains (t : IntegerType) (negative : Bool) (n : Nat) : Bool :=
  if t.signed then
    if negative then n ≤ Nat.pow 2 (t.bits - 1) else n < Nat.pow 2 (t.bits - 1)
  else if negative then n = 0 else n < Nat.pow 2 t.bits

end IntegerType

/-- Digits in a base, underscores between them passed over. -/
def digits? (base : Nat) (cs : List Char) : Option Nat :=
  if cs.isEmpty || cs.head? = some '_' then none
  else cs.foldlM (fun n c => if c = '_' then some n else do
    let d ← hexValue? [c]
    if d < base then some (base * n + d) else none) 0

/-- Digits after an optional mark of their base. -/
def based? : List Char → Option Nat
  | '0' :: 'x' :: cs => digits? 16 cs
  | '0' :: 'b' :: cs => digits? 2 cs
  | '0' :: 'o' :: cs => digits? 8 cs
  | cs => digits? 10 cs

/-- Reads an integer with the suffix of a type. Only decimal and binary digits take one. -/
def suffixed? (t : IntegerType) (cs : List Char) : Option Nat := do
  let (negative, body) := Number.splitSign cs
  let body ← beforeSuffix? t.suffix body
  let n ← match body with
    | '0' :: 'x' :: _ | '0' :: 'o' :: _ => none
    | body => based? body
  if t.contains negative n then some n else none

/-- Reads an integer without suffix in the range of a type. -/
def unsuffixed? (t : IntegerType) (cs : List Char) : Option Nat := do
  let (negative, body) := Number.splitSign cs
  let n ← based? body
  if t.contains negative n then some n else none

/-- Whether a text is a number of some kind. -/
def isNumber (cs : List Char) : Bool :=
  (unsuffixed? (if cs.head? = some '-' then .integer64 else .natural64) cs).isSome ||
    IntegerType.all.any (fun t => (suffixed? t cs).isSome) ||
    (float? ["f32", "f64"] cs).isSome

end EventGraph.Ron
