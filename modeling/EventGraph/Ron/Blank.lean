/-!
# Blanks and comments in RON

Between any two marks there may be pattern white space, comments to the end of the line, and
comments between `/*` and `*/`, which nest.
-/

namespace EventGraph.Ron

/-- Pattern white space. -/
def isSpace (c : Char) : Bool :=
  let n := c.toNat
  (9 ≤ n && n ≤ 13) || n == 0x20 || n == 0x85 || n == 0x200e || n == 0x200f ||
    n == 0x2028 || n == 0x2029

inductive CommentState where
  | outside
  | line
  | block (depth : Nat)

/-- Drops blanks and comments. Fails on a comment left open and on a lone slash. -/
def skipFrom? : CommentState → List Char → Option (List Char)
  | .outside, '/' :: '/' :: rest => skipFrom? .line rest
  | .outside, '/' :: '*' :: rest => skipFrom? (.block 0) rest
  | .outside, c :: rest =>
    if isSpace c then skipFrom? .outside rest else if c = '/' then none else some (c :: rest)
  | .outside, [] => some []
  | .line, c :: rest => skipFrom? (if c = '\n' then .outside else .line) rest
  | .line, [] => some []
  | .block depth, '/' :: '*' :: rest => skipFrom? (.block (depth + 1)) rest
  | .block depth, '*' :: '/' :: rest =>
    skipFrom? (match depth with | 0 => .outside | depth + 1 => .block depth) rest
  | .block depth, _ :: rest => skipFrom? (.block depth) rest
  | .block _, [] => none

def skip? (cs : List Char) : Option (List Char) := skipFrom? .outside cs

/-- Reads a comma between items. The flag tells whether there was one. -/
def comma? (cs : List Char) : Option (Bool × List Char) := do
  match ← skip? cs with
  | ',' :: rest => pure (true, ← skip? rest)
  | rest => pure (false, rest)

end EventGraph.Ron
