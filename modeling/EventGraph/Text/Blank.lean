/-!
# Blank characters, trimming and splitting

The blank characters are those with the White_Space property. Text is cut into pieces at
the characters of a class; a text with `n` of them has `n + 1` pieces. Words are the
pieces between blanks that are not empty.
-/

namespace EventGraph.Text

/-- White_Space, twenty-five code points. -/
def isBlank (c : Char) : Bool :=
  let n := c.toNat
  (9 ≤ n && n ≤ 13) || n == 0x20 || n == 0x85 || n == 0xa0 || n == 0x1680 ||
    (0x2000 ≤ n && n ≤ 0x200a) || n == 0x2028 || n == 0x2029 || n == 0x202f ||
    n == 0x205f || n == 0x3000

/-- Drops the elements of a class from the end. -/
def dropEndWhile {α : Type} (p : α → Bool) (as : List α) : List α :=
  (as.reverse.dropWhile p).reverse

/-- Drops blanks from both ends. -/
def trim (cs : List Char) : List Char := dropEndWhile isBlank (cs.dropWhile isBlank)

/-- Puts an element in front of the first piece. -/
def consFirst {α : Type} (a : α) : List (List α) → List (List α)
  | [] => [[a]]
  | piece :: pieces => (a :: piece) :: pieces

/-- The pieces between the elements of a class. -/
def splitWhere {α : Type} (p : α → Bool) : List α → List (List α)
  | [] => [[]]
  | a :: as => if p a then [] :: splitWhere p as else consFirst a (splitWhere p as)

def words (cs : List Char) : List (List Char) :=
  (splitWhere isBlank cs).filter fun word => !word.isEmpty

/-- The lines of a text, without their line feeds. -/
def lines (cs : List Char) : List (List Char) := splitWhere (· == '\n') cs

def trimmed (s : String) : String := String.ofList (trim s.toList)

theorem splitWhere_ne_nil {α : Type} (p : α → Bool) (as : List α) : splitWhere p as ≠ [] := by
  cases as with
  | nil => simp [splitWhere]
  | cons a as =>
    rw [splitWhere]
    split
    · simp
    · cases splitWhere p as <;> simp [consFirst]

end EventGraph.Text
