/-!
# Blank characters

The characters that count as white space when a text is trimmed: those of the Unicode character
database with the bidirectional class of a blank or a separator, and the separators of space.
-/

namespace OperandCleanup.Text

/-- Whether a character counts as white space. -/
def isBlank (c : Char) : Bool :=
  let code := c.toNat
  (9 ≤ code && code ≤ 13) || (0x1c ≤ code && code ≤ 0x20) || code == 0x85 || code == 0xa0 ||
    code == 0x1680 || (0x2000 ≤ code && code ≤ 0x200a) || code == 0x2028 || code == 0x2029 ||
    code == 0x202f || code == 0x205f || code == 0x3000

/-- What is left when the blanks at the end are taken away. -/
def trimmedRight (cs : List Char) : List Char := (cs.reverse.dropWhile isBlank).reverse

/-- A text without the blanks at its two ends. -/
def trim (s : String) : String := String.ofList (trimmedRight (s.toList.dropWhile isBlank))

/-- A text without the blanks at its end. -/
def trimEnd (s : String) : String := String.ofList (trimmedRight s.toList)

end OperandCleanup.Text
