/-!
# The longest common run of two texts

Two texts are compared line by line. The longest run of lines that they share is the longest one
that ends earliest in the old text, and of those earliest in the new one. In a new text of two
hundred lines or more, a line that occurs more often than once in a hundred lines and once more is
too common to find a run by; a run found by other lines is still continued over it.
-/

namespace OperandCleanup.Diff

/-- A run of `size` lines that stands at one position in the old text and at another in the new. -/
structure Match where
  old : Nat
  new : Nat
  size : Nat
deriving DecidableEq, Repr, Inhabited

/-- The number of lines from which on common lines are left out. -/
def commonFrom : Nat := 200

/-- Whether a line occurs too often in the new text to find a run by. -/
def isCommon (new : List String) (line : String) : Bool :=
  commonFrom ≤ new.length && new.length / 100 + 1 < new.count line

/-- The lengths of the runs that end at a line of the old text and at each line of the new one.
`above` has those of the line before, with that of the place before the first in front. -/
def nextRow (line : String) : List (String × Bool) → List Nat → List Nat
  | (other, usable) :: rest, length :: above =>
    (if usable && other == line then length + 1 else 0) :: nextRow line rest above
  | _, _ => []

/-- The better of a run and those that end at a line of the old text, the line at `old` in the old
text and the first length of the row at `new` in the new one. -/
def bestOfRow (old : Nat) : Nat → List Nat → Match → Match
  | _, [], best => best
  | new, length :: rest, best =>
    bestOfRow old (new + 1) rest
      (if best.size < length then ⟨old + 1 - length, new + 1 - length, length⟩ else best)

/-- The best run that ends from a line of the old text on, or the best before. -/
def bestFrom (new : List (String × Bool)) : Nat → List String → List Nat → Match → Match
  | _, [], _, best => best
  | old, line :: rest, above, best =>
    let row := nextRow line new (0 :: above)
    bestFrom new (old + 1) rest row (bestOfRow old 0 row best)

/-- The number of lines that two texts have in common at their beginning. -/
def commonLength : List String → List String → Nat
  | line :: rest, other :: others => if line == other then commonLength rest others + 1 else 0
  | _, _ => 0

/-- A run with the equal lines before and after it. -/
def Match.extended (found : Match) (old new : List String) : Match :=
  let before := commonLength (old.take found.old).reverse (new.take found.new).reverse
  let after := commonLength (old.drop (found.old + found.size)) (new.drop (found.new + found.size))
  ⟨found.old - before, found.new - before, before + found.size + after⟩

/-- The longest common run of two texts. `usable` says of a line whether runs are found by it. -/
def longestMatch (usable : String → Bool) (old new : List String) : Match :=
  let marked := new.map fun line => (line, usable line)
  (bestFrom marked 0 old (new.map fun _ => 0) ⟨0, 0, 0⟩).extended old new

end OperandCleanup.Diff
