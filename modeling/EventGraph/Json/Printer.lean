import EventGraph.Json.Basic
import EventGraph.Number.Layout

/-!
# Writing JSON text

A `Layered` value is a tree whose scalars are already spelled. It has a compact form without
any space and an indented form with one item a line.
-/

namespace EventGraph.Json

/-- Doubles are written positionally from `1e-5` up to `1e15`, always with a fraction, and
with a signed exponent beyond. -/
def floatLayout : Number.Layout where
  tie := .even
  positional e := -5 ≤ e && e ≤ 15
  wholeFraction := true
  nanText := "null"
  infinityText := "null"
  negativeInfinityText := "null"

/-- Singles are written positionally from `1e-6` up to `1e12`. -/
def float32Layout : Number.Layout := { floatLayout with positional e := -6 ≤ e && e ≤ 12 }

/-- A control character as four hexadecimal digits. -/
def controlEscape (c : Char) : List Char :=
  ['\\', 'u', '0', '0', Nat.digitChar (c.toNat / 16), Nat.digitChar (c.toNat % 16)]

def escapedChar (c : Char) : List Char :=
  if c = '"' then ['\\', '"']
  else if c = '\\' then ['\\', '\\']
  else if c = '\x08' then ['\\', 'b']
  else if c = '\x0c' then ['\\', 'f']
  else if c = '\n' then ['\\', 'n']
  else if c = '\r' then ['\\', 'r']
  else if c = '\t' then ['\\', 't']
  else if c.toNat < 0x20 then controlEscape c
  else [c]

def stringChars (s : String) : List Char := '"' :: s.toList.flatMap escapedChar ++ ['"']

inductive Layered where
  | scalar (text : List Char)
  | array (items : List Layered)
  | object (fields : List (String × Layered))

namespace Layered

def string (s : String) : Layered := scalar (stringChars s)

def float32 (x : Float32) : Layered := scalar (float32Layout.float32 x).toList

def bool (b : Bool) : Layered := scalar (if b then "true" else "false").toList

def int (n : Int) : Layered :=
  scalar ((if n < 0 then ['-'] else []) ++ Number.digitChars n.natAbs)

def null : Layered := scalar "null".toList

mutual

def compactChars : Layered → List Char
  | scalar text => text
  | array items => '[' :: compactItems items
  | object fields => '\x7b' :: compactFields fields

def compactItems : List Layered → List Char
  | [] => [']']
  | [item] => compactChars item ++ [']']
  | item :: rest => compactChars item ++ ',' :: compactItems rest

def compactFields : List (String × Layered) → List Char
  | [] => ['\x7d']
  | [(key, item)] => stringChars key ++ ':' :: (compactChars item ++ ['\x7d'])
  | (key, item) :: rest =>
    stringChars key ++ ':' :: (compactChars item ++ ',' :: compactFields rest)

end

/-- A line feed and two spaces for each level. -/
def newLine (level : Nat) : List Char := '\n' :: List.replicate (2 * level) ' '

mutual

def indentedChars (level : Nat) : Layered → List Char
  | scalar text => text
  | array [] => ['[', ']']
  | array items => '[' :: newLine (level + 1) ++ indentedItems level items
  | object [] => ['\x7b', '\x7d']
  | object fields => '\x7b' :: newLine (level + 1) ++ indentedFields level fields

def indentedItems (level : Nat) : List Layered → List Char
  | [] => []
  | [item] => indentedChars (level + 1) item ++ newLine level ++ [']']
  | item :: rest =>
    indentedChars (level + 1) item ++ ',' :: newLine (level + 1) ++ indentedItems level rest

def indentedFields (level : Nat) : List (String × Layered) → List Char
  | [] => []
  | [(key, item)] =>
    stringChars key ++ [':', ' '] ++ indentedChars (level + 1) item ++ newLine level ++ ['\x7d']
  | (key, item) :: rest =>
    stringChars key ++ [':', ' '] ++ indentedChars (level + 1) item ++
      ',' :: newLine (level + 1) ++ indentedFields level rest

end

def compact (v : Layered) : String := String.ofList v.compactChars

def indented (v : Layered) : String := String.ofList (v.indentedChars 0)

end Layered

mutual

def layered : Json → Layered
  | null => .null
  | bool b => .bool b
  | int n => .int n
  | float x => .scalar (floatLayout.float x).toList
  | string s => .string s
  | array items => .array (layeredItems items)
  | object fields => .object (layeredFields fields)

def layeredItems : List Json → List Layered
  | [] => []
  | item :: rest => layered item :: layeredItems rest

def layeredFields : List (String × Json) → List (String × Layered)
  | [] => []
  | (key, item) :: rest => (key, layered item) :: layeredFields rest

end

def compact (v : Json) : String := v.layered.compact

end EventGraph.Json
