import EventGraph.Measurer
import EventGraph.Text.Blank

/-!
# Word wrap

Lines are filled greedily with words. A line feed always breaks, a blank paragraph takes one
empty line, and a word that is too wide alone is broken between characters. The empty text
has no lines.
-/

namespace EventGraph.Text

variable {α : Type} [Scalar α]

/-- A word after what stands on the line already. -/
def joinWord (current word : List Char) : List Char :=
  if current.isEmpty then word else current ++ ' ' :: word

/-- Breaks a word wherever one more character would exceed the width, but never before the
first one. Returns the full lines and the open one. -/
def breakWord (m : Measurer α) (maxWidth : α) (current : List Char) :
    List Char → List (List Char) × List Char
  | [] => ([], current)
  | c :: cs =>
    let longer := current ++ [c]
    if maxWidth < m.width longer && 1 < longer.length then
      let (full, rest) := breakWord m maxWidth [c] cs
      (current :: full, rest)
    else breakWord m maxWidth longer cs

/-- Sets words behind the open line. -/
def wrapWords (m : Measurer α) (maxWidth : α) (current : List Char) :
    List (List Char) → List (List Char)
  | [] => [current]
  | word :: rest =>
    if m.width (joinWord current word) ≤ maxWidth then
      wrapWords m maxWidth (joinWord current word) rest
    else
      let before := if current.isEmpty then [] else [current]
      if m.width word ≤ maxWidth then before ++ wrapWords m maxWidth word rest
      else
        let (full, last) := breakWord m maxWidth [] word
        before ++ full ++ wrapWords m maxWidth last rest

def wrapParagraph (m : Measurer α) (maxWidth : α) (paragraph : List Char) : List (List Char) :=
  wrapWords m maxWidth [] (words paragraph)

def wrapChars (m : Measurer α) (maxWidth : α) (cs : List Char) : List (List Char) :=
  if cs.isEmpty then [] else (lines cs).flatMap (wrapParagraph m maxWidth)

/-- The lines of a text set in the given width. -/
def wrap (m : Measurer α) (maxWidth : α) (text : String) : List String :=
  (wrapChars m maxWidth text.toList).map String.ofList

end EventGraph.Text
