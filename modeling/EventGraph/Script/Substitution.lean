/-!
# Substitution

A token is `@` and a key of ASCII letters, digits, underscores and dots; dots at its end are
punctuation. Tokens whose key is known are replaced, all other text stays. Replaced text is
not scanned again.
-/

namespace EventGraph.Script

def isKeyChar (c : Char) : Bool := c.isAlphanum || c == '_' || c == '.'

/-- The key at the front of a text. -/
def leadingKey (cs : List Char) : List Char :=
  ((cs.takeWhile isKeyChar).reverse.dropWhile (· == '.')).reverse

/-- What a key stands for; the empty key stands for nothing. -/
def lookupKey? (lookup : String → Option String) (key : List Char) : Option String :=
  if key.isEmpty then none else lookup (String.ofList key)

def substituteChars (lookup : String → Option String) : List Char → List Char
  | [] => []
  | c :: cs =>
    if c = '@' then
      let key := leadingKey cs
      match lookupKey? lookup key with
      | some value => value.toList ++ substituteChars lookup (cs.drop key.length)
      | none => '@' :: substituteChars lookup cs
    else c :: substituteChars lookup cs
  termination_by cs => cs.length
  decreasing_by all_goals simp_wf; try omega

/-- Replaces the tokens of a text whose keys are known. -/
def substitute (lookup : String → Option String) (text : String) : String :=
  String.ofList (substituteChars lookup text.toList)

end EventGraph.Script
