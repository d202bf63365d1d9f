import EventGraph.Ron.Basic

/-!
# Quoted text in RON

Text in double quotes with escapes, raw text between hash signs, single characters, and the
same forms for bytes, which a `b` marks. In text a byte escape above ASCII opens the UTF-8
form of a character and the escapes after it complete that form; in bytes it stands alone.
-/

namespace EventGraph.Ron

def hexValue? (digits : List Char) : Option Nat :=
  digits.foldlM (fun n c =>
    if c.isDigit then some (16 * n + (c.toNat - '0'.toNat))
    else if 'a' ≤ c ∧ c ≤ 'f' then some (16 * n + (c.toNat - 'a'.toNat + 10))
    else if 'A' ≤ c ∧ c ≤ 'F' then some (16 * n + (c.toNat - 'A'.toNat + 10))
    else none) 0

def codePoint? (n : Nat) : Option Char :=
  if n.isValidChar then some (Char.ofNat n) else none

/-! ### Escapes -/

/-- The character whose UTF-8 form is exactly the given bytes. -/
def ofUtf8? (bytes : List Nat) : Option Char :=
  let continues (b : Nat) : Bool := 0x80 ≤ b && b < 0xc0
  match bytes with
  | [a] => if a < 0x80 then codePoint? a else none
  | [a, b] =>
    if 0xc2 ≤ a && a < 0xe0 && continues b then codePoint? (0x40 * (a - 0xc0) + (b - 0x80))
    else none
  | [a, b, c] =>
    let n := 0x1000 * (a - 0xe0) + 0x40 * (b - 0x80) + (c - 0x80)
    if 0xe0 ≤ a && a < 0xf0 && continues b && continues c && 0x800 ≤ n then codePoint? n
    else none
  | [a, b, c, d] =>
    let n := 0x40000 * (a - 0xf0) + 0x1000 * (b - 0x80) + 0x40 * (c - 0x80) + (d - 0x80)
    if 0xf0 ≤ a && continues b && continues c && continues d && 0x10000 ≤ n then codePoint? n
    else none
  | _ => none

/-- Reads the two digits of a byte escape. -/
def byte? : Reader Nat
  | a :: b :: rest => (hexValue? [a, b]).map fun n => (n, rest)
  | _ => none

/-- Completes a character from its first bytes and up to the given number of escapes. -/
def complete? (bytes : List Nat) : Nat → Reader Char
  | 0, cs => (ofUtf8? bytes).map fun c => (c, cs)
  | more + 1, cs =>
    match ofUtf8? bytes, cs with
    | some c, cs => some (c, cs)
    | none, '\\' :: 'x' :: rest => do
      let (b, rest) ← byte? rest
      complete? (bytes ++ [b]) more rest
    | none, _ => none

/-- Reads a code point of one to six digits in braces, after the opening one. -/
def braced? (cs : List Char) : Option (Char × List Char) := do
  let digits := cs.takeWhile (· ≠ '\x7d')
  if digits.isEmpty || 6 < digits.length || digits.length = cs.length then none
  else
    let c ← codePoint? (← hexValue? digits)
    pure (c, cs.drop (digits.length + 1))

/-- Reads an escape of one letter or sign. -/
def shortEscape? : Reader Char
  | 'n' :: rest => some ('\n', rest)
  | 'r' :: rest => some ('\r', rest)
  | 't' :: rest => some ('\t', rest)
  | '0' :: rest => some ('\x00', rest)
  | '\\' :: rest => some ('\\', rest)
  | '"' :: rest => some ('"', rest)
  | '\'' :: rest => some ('\'', rest)
  | _ => none

/-- Reads an escape after its backslash. A byte escape may be continued by the given number
of further ones. -/
def escape? (more : Nat) : Reader Char
  | 'x' :: rest => do
    let (b, rest) ← byte? rest
    complete? [b] more rest
  | 'u' :: '\x7b' :: rest => braced? rest
  | cs => shortEscape? cs

/-- Reads an escape in bytes. -/
def bytesEscape? : Reader Char
  | 'x' :: rest => (byte? rest).map fun (b, rest) => (Char.ofNat b, rest)
  | cs => escape? 0 cs

/-! ### Text -/

/-- Reads text after its opening quote. The bound counts characters. -/
def quoted? (escape? : Reader Char) : Nat → Reader (List Char)
  | 0, _ => none
  | _ + 1, '"' :: rest => some ([], rest)
  | bound + 1, '\\' :: rest => do
    let (c, rest) ← escape? rest
    let (cs, rest) ← quoted? escape? bound rest
    pure (c :: cs, rest)
  | bound + 1, c :: rest => do
    let (cs, rest) ← quoted? escape? bound rest
    pure (c :: cs, rest)
  | _ + 1, [] => none

/-- Reads raw text up to a quote and the given number of hash signs. -/
def rawTo? (hashes : Nat) : Reader (List Char)
  | [] => none
  | c :: rest =>
    if c = '"' && rest.take hashes == List.replicate hashes '#' then some ([], rest.drop hashes)
    else do
      let (cs, rest) ← rawTo? hashes rest
      pure (c :: cs, rest)

/-- Reads raw text after its mark: hash signs, a quote, the text, a quote, as many hash signs. -/
def raw? (cs : List Char) : Option (List Char × List Char) :=
  let hashes := (cs.takeWhile (· = '#')).length
  match cs.drop hashes with
  | '"' :: rest => rawTo? hashes rest
  | _ => none

/-- Reads a character after its opening quote. -/
def character? : Reader Char
  | '\\' :: rest => do
    match ← escape? 0 rest with
    | (c, '\'' :: rest) => pure (c, rest)
    | _ => none
  | c :: '\'' :: rest => some (c, rest)
  | _ => none

/-- Reads a byte after its opening quote: an ASCII character or an escape of one byte. -/
def byteCharacter? : Reader Char
  | '\\' :: 'u' :: _ => none
  | '\\' :: rest => do
    match ← bytesEscape? rest with
    | (c, '\'' :: rest) => pure (c, rest)
    | _ => none
  | c :: '\'' :: rest => if c.toNat < 0x80 then some (c, rest) else none
  | _ => none

/-- Whether a text that starts with a letter is quoted text and no word. -/
def opensQuotation : List Char → Bool
  | 'b' :: '"' :: _ | 'b' :: '\'' :: _ | 'b' :: 'r' :: '#' :: _ | 'b' :: 'r' :: '"' :: _ => true
  | 'r' :: '"' :: _ | 'r' :: '#' :: '"' :: _ | 'r' :: '#' :: '#' :: _ => true
  | _ => false

/-- Reads any quoted text, from its first character on. -/
def quotation? : Reader Ron
  | '"' :: rest =>
    (quoted? (escape? 3) (rest.length + 1) rest).map fun (s, rest) =>
      (.string (String.ofList s), rest)
  | 'r' :: rest => (raw? rest).map fun (s, rest) => (.string (String.ofList s), rest)
  | '\'' :: rest => (character? rest).map fun (c, rest) => (.char c, rest)
  | 'b' :: '"' :: rest =>
    (quoted? bytesEscape? (rest.length + 1) rest).map fun (_, rest) => (.bytes, rest)
  | 'b' :: 'r' :: rest => (raw? rest).map fun (_, rest) => (.bytes, rest)
  | 'b' :: '\'' :: rest => (byteCharacter? rest).map fun (_, rest) => (.bytes, rest)
  | _ => none

end EventGraph.Ron
