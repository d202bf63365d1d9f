import EventGraph.Number.Literal
import EventGraph.Preview.Log
import EventGraph.Text.Alphanumeric

/-!
# Log filters

A filter is a list of directives between commas: a level, a target, or a target with a level. A
directive may also name a span, a field, or a field and its value in brackets after the target.
Messages are logged outside of any span, so that a directive decides about a message only if it
names no span and no value. Of the directives whose target begins the source of a message the
longest target decides, then one that names a field, among equal ones the last. Directives that
cannot be read are passed over; without any, errors are logged.
-/

namespace EventGraph.Preview

/-- Lets messages up to a verbosity pass. Without a target it is about every source. -/
structure Directive where
  target : Option String := none
  span : Option String := none
  /-- The name of a field, and whether a value is given. -/
  field : Option (String × Bool) := none
  verbosity : Nat := Level.trace.verbosity
  deriving Repr, DecidableEq

namespace Directive

/-- A level by its name in either case or by its number; `off` is below all levels. -/
def verbosity? (cs : List Char) : Option Nat :=
  match Number.natural64? cs with
  | some n => if n ≤ Level.trace.verbosity then some n else none
  | none => match String.ofList (cs.map Char.toLower) with
    | "off" => some 0
    | "error" => some 1
    | "warn" => some 2
    | "info" => some 3
    | "debug" => some 4
    | "trace" => some 5
    | _ => none

def isTargetStart (c : Char) : Bool :=
  Text.isAlphanumeric c || c == '_' || c == ':' || c == '-'

/-- Reads the level after an equals sign; an empty one is the highest. -/
def withLevel? (d : Directive) (cs : List Char) : Option Directive :=
  if cs.isEmpty then some d else (verbosity? cs).map fun v => { d with verbosity := v }

/-- Reads what follows the brackets: nothing, or an equals sign and a level. -/
def afterBrackets? (d : Directive) (shown cs : List Char) : Option Directive :=
  match shown with
  | [] => some d
  | '=' :: _ => d.withLevel? (cs.drop 1)
  | _ => none

/-- A field and, after an equals sign, its value. -/
def fieldOf (cs : List Char) : String × Bool :=
  (String.ofList (cs.takeWhile (· ≠ '=')), cs.contains '=')

/-- Reads the inside of the brackets: a span, a field in braces, or both. -/
def brackets? (d : Directive) (shown cs : List Char) : Option Directive :=
  let length := (shown.takeWhile fun c => c ≠ ']' && c ≠ '\x7b').length
  let name := cs.take length
  match shown.drop length with
  | ']' :: shown =>
    afterBrackets? { d with span := some (String.ofList name) } shown (cs.drop (length + 1))
  | '\x7b' :: shown =>
    let span := if name.isEmpty then none else some (String.ofList name)
    let cs := cs.drop (length + 1)
    let length := (shown.takeWhile (· ≠ '\x7d')).length
    match shown.drop length with
    | '\x7d' :: ']' :: shown =>
      if length = 0 then none
      else afterBrackets? { d with span := span, field := some (fieldOf (cs.take length)) }
        shown (cs.drop (length + 2))
    | _ => none
  | _ => none

/-- Reads a directive. Its parts are found in the trimmed text, but cut at these places out of
the text as it stands. A blank in front therefore shifts them. -/
def ofText? (text : String) : Option Directive :=
  let cs := text.toList
  let shown := Text.trim cs
  match shown with
  | [] => none
  | '[' :: rest => brackets? {} rest (cs.drop 1)
  | c :: _ =>
    if !isTargetStart c then none
    else
      let length := (shown.takeWhile fun c => c ≠ '=' && c ≠ '[').length
      let target := some (String.ofList (cs.take length))
      match shown.drop length with
      | '=' :: _ => withLevel? { target } (cs.drop (length + 1))
      | '[' :: rest => brackets? { target } rest (cs.drop (length + 1))
      | _ => match verbosity? cs with
        | some verbosity => some { verbosity }
        | none => some { target := some text }

/-- Whether the directive decides about messages that stand outside of any span. -/
def isStatic (d : Directive) : Bool := d.span.isNone && d.field.all (!·.2)

/-- The one field that messages have. -/
def messageField : String := "message"

/-- Whether the directive is about messages of a source. -/
def covers (d : Directive) (source : String) : Bool :=
  d.isStatic && d.target.all (·.toList.isPrefixOf source.toList) &&
    d.field.all (·.1 == messageField)

/-- How specific a directive is: the length of its target, if it has one, then its fields. -/
def rank (d : Directive) : Nat :=
  2 * (d.target.elim 0 (·.utf8ByteSize + 1)) + (if d.field.isSome then 1 else 0)

end Directive

abbrev LogFilter := List Directive

namespace LogFilter

def ofText (text : String) : LogFilter :=
  let pieces := (Text.splitWhere (· == ',') text.toList).map String.ofList
  match pieces.filterMap Directive.ofText? with
  | [] => [{ verbosity := Level.error.verbosity }]
  | directives => directives

/-- The directive that decides about messages of a source. -/
def decisive? (f : LogFilter) (source : String) : Option Directive :=
  (f.filter (·.covers source)).foldl (fun best d => match best with
    | some b => if d.rank < b.rank then some b else some d
    | none => some d) none

def admits (f : LogFilter) (source : String) (level : Level) : Bool :=
  (f.decisive? source).any (level.verbosity ≤ ·.verbosity)

end LogFilter

end EventGraph.Preview
