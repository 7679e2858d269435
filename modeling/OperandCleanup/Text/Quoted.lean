import OperandCleanup.Number.Hexadecimal
import OperandCleanup.Text.Printable

/-!
# Quoted texts in messages

A message quotes a text between apostrophes, or between double quotes where the text holds an
apostrophe and no double quote. The quote and the backslash are escaped by a backslash, a
character that is not printable by its code, in the shortest of three widths.
-/

namespace OperandCleanup.Text

/-- The quote that a text is put between. -/
def quoteFor (cs : List Char) : Char :=
  if cs.contains '\'' && !cs.contains '"' then '"' else '\''

/-- A character by its code, in two, four or eight hexadecimal digits. -/
def escapedByCode (c : Char) : List Char :=
  let code := c.toNat
  if code < 0x100 then '\\' :: 'x' :: Hexadecimal.digits 2 code
  else if code < 0x10000 then '\\' :: 'u' :: Hexadecimal.digits 4 code
  else '\\' :: 'U' :: Hexadecimal.digits 8 code

/-- A character between quotes. -/
def quotedChar (quote c : Char) : List Char :=
  if c = quote ∨ c = '\\' then ['\\', c]
  else if c = '\n' then ['\\', 'n']
  else if c = '\r' then ['\\', 'r']
  else if c = '\t' then ['\\', 't']
  else if isPrintable c then [c]
  else escapedByCode c

/-- A quoted text as a list of characters. -/
def quotedList (cs : List Char) : List Char :=
  let quote := quoteFor cs
  quote :: (cs.flatMap (quotedChar quote) ++ [quote])

/-- A text between quotes. -/
def quoted (s : String) : String := String.ofList (quotedList s.toList)

end OperandCleanup.Text
