import EventGraph.Json.Numeral

/-!
# JSON text

`Tree.read?` reads a whole text by the strict grammar: no comments, no trailing commas, no
leading zeros, no raw control characters in strings. A tree keeps what is written: numerals
are not evaluated, fields stay in order and may repeat, and a string with an unpaired
surrogate escape has no text. `Tree.value?` evaluates a tree.
-/

namespace EventGraph.Json

inductive Tree where
  | null
  | bool (b : Bool)
  | number (n : Numeral)
  | string (text? : Option String)
  | array (items : List Tree)
  | object (fields : List (Option String × Tree))
  deriving Inhabited

namespace Tree

def isSpace (c : Char) : Bool := c = ' ' || c = '\n' || c = '\t' || c = '\r'

def skipSpace (cs : List Char) : List Char := cs.dropWhile isSpace

/-! ### Strings -/

def hexDigit? (c : Char) : Option Nat :=
  if '0' ≤ c ∧ c ≤ '9' then some (c.toNat - '0'.toNat)
  else if 'a' ≤ c ∧ c ≤ 'f' then some (c.toNat - 'a'.toNat + 10)
  else if 'A' ≤ c ∧ c ≤ 'F' then some (c.toNat - 'A'.toNat + 10)
  else none

def hexUnit? (a b c d : Char) : Option Nat := do
  let a ← hexDigit? a
  let b ← hexDigit? b
  let c ← hexDigit? c
  let d ← hexDigit? d
  pure (((a * 16 + b) * 16 + c) * 16 + d)

def shortEscape? : Char → Option Char
  | '"' => some '"'
  | '\\' => some '\\'
  | '/' => some '/'
  | 'b' => some '\x08'
  | 'f' => some '\x0c'
  | 'n' => some '\n'
  | 'r' => some '\r'
  | 't' => some '\t'
  | _ => none

/-- Reads up to the closing quote, as code points and surrogate code units. -/
def stringUnits? : List Char → Option (List Nat × List Char)
  | [] => none
  | '"' :: rest => some ([], rest)
  | '\\' :: 'u' :: a :: b :: c :: d :: rest => do
    let unit ← hexUnit? a b c d
    let (units, rest) ← stringUnits? rest
    pure (unit :: units, rest)
  | '\\' :: e :: rest => do
    let c ← shortEscape? e
    let (units, rest) ← stringUnits? rest
    pure (c.toNat :: units, rest)
  | c :: rest =>
    if c.toNat < 0x20 || c == '\\' then none
    else do
      let (units, rest) ← stringUnits? rest
      pure (c.toNat :: units, rest)

def isHighSurrogate (u : Nat) : Bool := 0xd800 ≤ u && u ≤ 0xdbff

def isLowSurrogate (u : Nat) : Bool := 0xdc00 ≤ u && u ≤ 0xdfff

/-- Joins surrogate pairs; fails on a surrogate without its partner. -/
def unitChars? : List Nat → Option (List Char)
  | [] => some []
  | u :: v :: rest =>
    if isHighSurrogate u then
      if isLowSurrogate v then
        (unitChars? rest).map (Char.ofNat (0x10000 + (u - 0xd800) * 0x400 + (v - 0xdc00)) :: ·)
      else none
    else if isLowSurrogate u then none
    else (unitChars? (v :: rest)).map (Char.ofNat u :: ·)
  | [u] =>
    if isHighSurrogate u || isLowSurrogate u then none else some [Char.ofNat u]

/-- Reads a string after its opening quote. -/
def string? (cs : List Char) : Option (Option String × List Char) :=
  (stringUnits? cs).map fun (units, rest) => ((unitChars? units).map String.ofList, rest)

/-! ### Numbers -/

/-- Reads a point and at least one digit; without a point there is no fraction. -/
def numeralFraction? : List Char → Option (List Char × List Char)
  | '.' :: rest =>
    let (digits, rest) := Number.splitDigits rest
    if digits.isEmpty then none else some (digits, rest)
  | cs => some ([], cs)

def numeralExponent? (cs : List Char) : Option (Option Int × List Char) :=
  match cs with
  | c :: rest =>
    if c = 'e' ∨ c = 'E' then
      let (negative, rest) := Number.splitSign rest
      let (digits, rest) := Number.splitDigits rest
      if digits.isEmpty then none
      else
        let n : Int := Number.digitsValue digits
        some (some (if negative then -n else n), rest)
    else some (none, cs)
  | [] => some (none, [])

def numeral? (cs : List Char) : Option (Numeral × List Char) := do
  let (negative, cs) := match cs with
    | '-' :: rest => (true, rest)
    | cs => (false, cs)
  let (whole, cs) := Number.splitDigits cs
  if whole.isEmpty || (whole.head? == some '0' && 1 < whole.length) then none
  else
    let (fraction, cs) ← numeralFraction? cs
    let (exponent?, cs) ← numeralExponent? cs
    pure (⟨negative, whole, fraction, exponent?⟩, cs)

/-! ### Values -/

mutual

/-- Reads one value. The bound counts nested calls. -/
def value : Nat → List Char → Option (Tree × List Char)
  | 0, _ => none
  | bound + 1, cs =>
    match skipSpace cs with
    | '"' :: rest => (string? rest).map fun (s, rest) => (.string s, rest)
    | '[' :: rest =>
      match skipSpace rest with
      | ']' :: rest => some (.array [], rest)
      | rest => (items bound rest).map fun (items, rest) => (.array items, rest)
    | '\x7b' :: rest =>
      match skipSpace rest with
      | '\x7d' :: rest => some (.object [], rest)
      | rest => (fields bound rest).map fun (fields, rest) => (.object fields, rest)
    | 'n' :: 'u' :: 'l' :: 'l' :: rest => some (.null, rest)
    | 't' :: 'r' :: 'u' :: 'e' :: rest => some (.bool true, rest)
    | 'f' :: 'a' :: 'l' :: 's' :: 'e' :: rest => some (.bool false, rest)
    | rest => (numeral? rest).map fun (n, rest) => (.number n, rest)

/-- Reads one or more items and the closing bracket. -/
def items : Nat → List Char → Option (List Tree × List Char)
  | 0, _ => none
  | bound + 1, cs => do
    let (item, rest) ← value bound cs
    match skipSpace rest with
    | ',' :: rest =>
      let (more, rest) ← items bound rest
      pure (item :: more, rest)
    | ']' :: rest => pure ([item], rest)
    | _ => none

/-- Reads one or more fields and the closing brace. -/
def fields : Nat → List Char → Option (List (Option String × Tree) × List Char)
  | 0, _ => none
  | bound + 1, cs =>
    match skipSpace cs with
    | '"' :: rest => do
      let (key, rest) ← string? rest
      match skipSpace rest with
      | ':' :: rest =>
        let (item, rest) ← value bound rest
        match skipSpace rest with
        | ',' :: rest =>
          let (more, rest) ← fields bound rest
          pure ((key, item) :: more, rest)
        | '\x7d' :: rest => pure ([(key, item)], rest)
        | _ => none
      | _ => none
    | _ => none

end

/-- Reads a whole text. -/
def read? (text : String) : Option Tree := do
  let cs := text.toList
  let (tree, rest) ← value (2 * cs.length + 2) cs
  if (skipSpace rest).isEmpty then some tree else none

/-! ### Evaluation -/

mutual

/-- The value of a tree: every string has its text, every numeral a value, containers nest at
most `depth` deep, and of equal keys the last one counts. -/
def value? (depth : Nat) : Tree → Option Json
  | null => some .null
  | bool b => some (.bool b)
  | number n => n.value?
  | string text? => text?.map .string
  | array items => match depth with
    | 0 => none
    | depth + 1 => (itemValues? depth items).map .array
  | object fields => match depth with
    | 0 => none
    | depth + 1 => (fieldValues? depth [] fields).map .object

def itemValues? (depth : Nat) : List Tree → Option (List Json)
  | [] => some []
  | item :: rest => do
    let v ← value? depth item
    let vs ← itemValues? depth rest
    pure (v :: vs)

def fieldValues? (depth : Nat) (acc : Fields) : List (Option String × Tree) → Option Fields
  | [] => some acc
  | (key?, item) :: rest => do
    let key ← key?
    let v ← value? depth item
    fieldValues? depth (insertField key v acc) rest

end

end Tree

/-- How deep a reader follows nested containers. -/
def maxDepth : Nat := 127

/-- Reads a text as one value. -/
def read? (text : String) : Option Json := (Tree.read? text).bind (Tree.value? maxDepth)

end EventGraph.Json
