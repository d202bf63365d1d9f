import EventGraph.Text.Blank

/-!
# Log entries

A level and a text. In a written entry the characters that steer a terminal are spelled out.
-/

namespace EventGraph.Preview

inductive Level where
  | error
  | warn
  | info
  | debug
  | trace
  deriving Repr, DecidableEq

namespace Level

/-- How much is logged at a level. -/
def verbosity : Level → Nat
  | error => 1
  | warn => 2
  | info => 3
  | debug => 4
  | trace => 5

def label : Level → String
  | error => "ERROR"
  | warn => "WARN"
  | info => "INFO"
  | debug => "DEBUG"
  | trace => "TRACE"

end Level

structure LogEntry where
  level : Level
  text : String
  deriving Repr, DecidableEq

namespace LogEntry

/-- Bell, backspace, form feed, escape, delete and the second block of control characters. -/
def spelledChar (c : Char) : List Char :=
  match c with
  | '\x07' => "\\x07".toList
  | '\x08' => "\\x08".toList
  | '\x0c' => "\\x0c".toList
  | '\x1b' => "\\x1b".toList
  | '\x7f' => "\\x7f".toList
  | c =>
    if 0x80 ≤ c.toNat && c.toNat ≤ 0x9f then
      ['\\', 'u', '\x7b'] ++ Nat.toDigits 16 c.toNat ++ ['\x7d']
    else [c]

/-- The entry as it is written. -/
def written (e : LogEntry) : String :=
  e.level.label ++ " " ++ String.ofList (e.text.toList.flatMap spelledChar)

end LogEntry

end EventGraph.Preview
