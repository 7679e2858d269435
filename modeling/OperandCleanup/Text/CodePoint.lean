/-!
# Texts of code points

A text that was read may hold surrogates, which are code points and no characters, alone or one
after the other. Such a text is kept as a text of characters in which a mark tells the surrogates:
behind the mark stands a character of the same rank, and where the mark itself is meant, another one
that stands for it. Different texts are marked differently, and their order stays.
-/

namespace OperandCleanup

/-- A code point: a character or a surrogate. -/
inductive CodePoint where
  | char (c : Char)
  /-- The surrogate of a rank among them. -/
  | surrogate (rank : Fin 0x800)
deriving DecidableEq, Repr

namespace CodePoint

/-- The first surrogate. -/
def firstSurrogate : Nat := 0xd800

/-- The code point of a number. -/
def ofNat (code : Nat) : CodePoint :=
  if h : firstSurrogate ≤ code ∧ code < firstSurrogate + 0x800 then
    .surrogate ⟨code - firstSurrogate, by omega⟩
  else .char (Char.ofNat code)

/-- The number of a code point. -/
def toNat : CodePoint → Nat
  | .char c => c.toNat
  | .surrogate rank => firstSurrogate + rank

/-- The character that a code point is shown as. -/
def shown : CodePoint → Char
  | .char c => c
  | .surrogate _ => '\ufffd'

/-- Whether a code point is a surrogate that may start a pair. -/
def isHigh : CodePoint → Bool
  | .char _ => false
  | .surrogate rank => rank.val < 0x400

/-- Whether a code point is a surrogate that may end a pair. -/
def isLow : CodePoint → Bool
  | .char _ => false
  | .surrogate rank => 0x400 ≤ rank.val

/-- Whether no surrogates stand side by side as a pair. -/
def isUnpaired : List CodePoint → Bool
  | [] => true
  | [_] => true
  | first :: second :: rest => !(first.isHigh && second.isLow) && isUnpaired (second :: rest)

/-! ## Marked texts -/

/-- The mark in front of what stands for a surrogate: the first character behind all of them. -/
def mark : Char := '\ue000'

/-- What stands behind the mark for the mark itself. -/
def markItself : Char := '\uf8ff'

/-- The characters of a code point in a marked text. -/
def marked : CodePoint → List Char
  | .char c => if c = mark then [mark, markItself] else [c]
  | .surrogate rank => [mark, Char.ofNat (mark.toNat + rank)]

/-- The code point that a character behind the mark stands for. -/
def ofMarked (c : Char) : CodePoint :=
  if h : mark.toNat ≤ c.toNat ∧ c.toNat < mark.toNat + 0x800 then
    .surrogate ⟨c.toNat - mark.toNat, by omega⟩
  else .char mark

/-- The code points of a marked text. -/
def unmarked : List Char → List CodePoint
  | [] => []
  | [c] => [.char c]
  | c :: d :: rest =>
    if c = mark then ofMarked d :: unmarked rest else .char c :: unmarked (d :: rest)

/-- Code points as a marked text. -/
def markedText (codes : List CodePoint) : String := String.ofList (codes.flatMap marked)

/-- Whether a text is marked. -/
def isMarked (s : String) : Bool := markedText (unmarked s.toList) == s

/-- Whether no surrogates stand side by side as a pair in what a marked text stands for. -/
def isPairFree (s : String) : Bool := isUnpaired (unmarked s.toList)

end CodePoint

end OperandCleanup
