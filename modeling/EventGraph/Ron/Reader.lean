import EventGraph.Ron.Blank
import EventGraph.Ron.Numeral
import EventGraph.Text.Identifier

/-!
# Reading RON

`Ron.read?` reads a whole text. Values may nest 128 levels deep, where a list, tuple, map or
record takes one level and each of its items one more, and an optional value takes one.
-/

namespace EventGraph.Ron

/-! ### Words -/

def isWordStart (c : Char) : Bool := c = '_' || Text.isIdentifierStart c

/-- Characters of a raw word. -/
def isRawWordPart (c : Char) : Bool :=
  c = '.' || c = '+' || c = '-' || Text.isIdentifierPart c

/-- Reads a word, or a raw word after its mark. -/
def word? (cs : List Char) : Option (Word × List Char) :=
  if opensQuotation cs then none
  else match cs with
  | 'r' :: '#' :: rest =>
    let text := rest.takeWhile isRawWordPart
    if text.isEmpty then none else some (⟨String.ofList text, true⟩, rest.drop text.length)
  | c :: rest =>
    if isWordStart c then
      let tail := rest.takeWhile Text.isIdentifierPart
      some (⟨String.ofList (c :: tail), false⟩, rest.drop tail.length)
    else none
  | [] => none

/-- Words that are values of their own and never the name of a record or tuple. -/
def keywords : List String :=
  ["true", "false", "inf", "inff32", "inff64", "NaN", "NaNf32", "NaNf64"]

/-! ### Groups -/

/-- Reads items up to a closing mark, after the opening one. The bound counts items. -/
def items? {α : Type} (item? : Reader α) (stop : Char) : Nat → Reader (List α)
  | 0, _ => none
  | bound + 1, cs => do
    let cs ← skip? cs
    if cs.head? = some stop then pure ([], cs.drop 1)
    else
      let (item, cs) ← item? cs
      match ← comma? cs with
      | (true, cs) =>
        let (items, cs) ← items? item? stop bound cs
        pure (item :: items, cs)
      | (false, cs) => if cs.head? = some stop then pure ([item], cs.drop 1) else none

/-- Reads a colon and the value after it. -/
def colonValue? (value? : Reader Ron) (cs : List Char) : Option (Ron × List Char) := do
  match ← skip? cs with
  | ':' :: cs => value? (← skip? cs)
  | _ => none

/-- Reads an entry of a map. -/
def pair? (value? : Reader Ron) (cs : List Char) : Option ((Ron × Ron) × List Char) := do
  let (key, cs) ← value? cs
  let (v, cs) ← colonValue? value? cs
  pure ((key, v), cs)

/-- Reads a field of a record. -/
def fieldItem? (value? : Reader Ron) (cs : List Char) : Option ((String × Ron) × List Char) := do
  let (name, cs) ← word? cs
  let (v, cs) ← colonValue? value? cs
  pure ((name.text, v), cs)

/-- Whether a group starts with the name of a field and a colon. -/
def startsWithField (cs : List Char) : Bool :=
  match word? cs with
  | some (_, cs) => ((skip? cs).bind List.head?) = some ':'
  | none => false

/-- Reads a record or, if the first item has no field name, a tuple. -/
def group? (value? : Reader Ron) (name? : Option Word) (cs : List Char) :
    Option (Ron × List Char) := do
  let cs ← skip? cs
  if cs.head? = some ')' || startsWithField cs then
    let (fields, cs) ← items? (fieldItem? value?) ')' (cs.length + 1) cs
    pure (.record name? fields, cs)
  else
    let (items, cs) ← items? value? ')' (cs.length + 1) cs
    pure (.tuple name? items, cs)

/-- Reads the value in the parentheses of an optional one. -/
def wrapped? (value? : Reader Ron) (cs : List Char) : Option (Ron × List Char) := do
  match ← skip? cs with
  | '(' :: cs =>
    let (v, cs) ← value? (← skip? cs)
    match ← comma? cs with
    | (_, ')' :: cs) => pure (.present v, cs)
    | _ => none
  | _ => none

/-! ### Values -/

/-- Reads one value from its first character on, given how many levels are left and the
readers of what stands one and two levels inside it. -/
def form? (levels : Nat) (inOne? inTwo? : Reader Ron) (cs : List Char) :
    Option (Ron × List Char) :=
  let container (v : Option (Ron × List Char)) := if levels = 0 then none else v
  match word? cs with
  | some (w, rest) =>
    if !w.raw && w.text = "Some" then wrapped? inOne? rest
    else if !w.raw && w.text = "None" then some (.absent, rest)
    else if !w.raw && keywords.contains w.text then some (.word w, rest)
    else match skip? rest with
      | some ('(' :: rest) => container (group? inTwo? (some w) rest)
      | _ => some (.word w, rest)
  | none => match cs with
    | '(' :: ')' :: rest => some (.record none [], rest)
    | '(' :: rest => container (group? inTwo? none rest)
    | '[' :: rest =>
      container ((items? inTwo? ']' (rest.length + 1) rest).map fun (items, rest) =>
        (.list items, rest))
    | '\x7b' :: rest =>
      container ((items? (pair? inTwo?) '\x7d' (rest.length + 1) rest).map
        fun (entries, rest) => (.map entries, rest))
    | c :: _ =>
      if isNumberStart c then
        let text := cs.takeWhile isNumberChar
        if isNumber text then some (.number text, cs.drop text.length) else none
      else quotation? cs
    | [] => none

/-- Reads one value with the given number of levels left. -/
def value? : Nat → Reader Ron
  | 0 => form? 0 (fun _ => none) fun _ => none
  | 1 => form? 1 (value? 0) fun _ => none
  | levels + 2 => form? (levels + 2) (value? (levels + 1)) (value? levels)

/-- How deep values may nest. -/
def maxLevels : Nat := 128

/-- Reads a whole text. -/
def read? (text : String) : Option Ron := do
  let (v, rest) ← value? maxLevels (← skip? text.toList)
  if (← skip? rest).isEmpty then some v else none

end EventGraph.Ron
