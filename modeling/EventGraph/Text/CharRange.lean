/-!
# Character ranges

Membership of a character in a table of inclusive code point ranges.
-/

namespace EventGraph.Text

def inRanges (parts : List (List (Nat × Nat))) (c : Char) : Bool :=
  parts.any fun part => part.any fun range => range.1 ≤ c.toNat && c.toNat ≤ range.2

end EventGraph.Text
