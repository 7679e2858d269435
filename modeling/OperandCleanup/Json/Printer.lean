import OperandCleanup.Json.Basic
import OperandCleanup.Number.Hexadecimal
import OperandCleanup.Number.Shortest

/-!
# Writing JSON text

The text is laid out over lines: every item and every member stands on a line of its own, two
spaces further in than the brackets around it, and an empty array or object on one line. Only
printable ASCII is written; any other character is escaped, one above the basic plane as a
surrogate pair. The canonical text of a value has the members of every object in the order of
their names.
-/

namespace OperandCleanup.Json

/-- Numbers from 10^-4 to below 10^16 are positional, exponents have at least two digits. -/
def floatLayout : DecimalLayout where
  positionalFrom := -4
  positionalBelow := 16
  exponentWidth := 2
  infinity := "Infinity"
  nan := "NaN"

/-- A code of 16 bits as an escape. -/
def unitEscape (code : Nat) : List Char := '\\' :: 'u' :: Hexadecimal.digits 4 code

/-- A character within a text. -/
def writtenChar (c : Char) : List Char :=
  if c = '"' then ['\\', '"']
  else if c = '\\' then ['\\', '\\']
  else if c = '\n' then ['\\', 'n']
  else if c = '\r' then ['\\', 'r']
  else if c = '\t' then ['\\', 't']
  else if c = '\x0c' then ['\\', 'f']
  else if c = '\x08' then ['\\', 'b']
  else if 0x20 ≤ c.toNat ∧ c.toNat ≤ 0x7e then [c]
  else if c.toNat < 0x10000 then unitEscape c.toNat
  else
    unitEscape (0xd800 + (c.toNat - 0x10000) / 0x400) ++
      unitEscape (0xdc00 + (c.toNat - 0x10000) % 0x400)

/-- A text between its quotes. -/
def writtenText (s : String) : List Char := '"' :: (s.toList.flatMap writtenChar ++ ['"'])

/-- The decimal digits of an integer, after a minus sign for a negative one. -/
def writtenInt (n : Int) : List Char :=
  if n < 0 then '-' :: Nat.toDigits 10 n.natAbs else Nat.toDigits 10 n.natAbs

/-- The end of a line and the spaces of a depth on the next. -/
def newline (depth : Nat) : List Char := '\n' :: List.replicate (2 * depth) ' '

mutual
/-- The text of a value that stands at a depth. -/
def writtenAt (depth : Nat) : Json → List Char
  | .null => ['n', 'u', 'l', 'l']
  | .bool true => ['t', 'r', 'u', 'e']
  | .bool false => ['f', 'a', 'l', 's', 'e']
  | .int value => writtenInt value
  | .float value => floatLayout.render value
  | .string value => writtenText value
  | .array [] => ['[', ']']
  | .array (item :: rest) =>
    '[' :: (newline (depth + 1) ++ writtenAt (depth + 1) item ++ writtenItems (depth + 1) rest ++
      newline depth ++ [']'])
  | .object [] => ['\x7b', '\x7d']
  | .object ((name, value) :: rest) =>
    '\x7b' :: (newline (depth + 1) ++ writtenText name ++ [':', ' '] ++
      writtenAt (depth + 1) value ++ writtenMembers (depth + 1) rest ++ newline depth ++ ['\x7d'])

/-- The items after the first. -/
def writtenItems (depth : Nat) : List Json → List Char
  | [] => []
  | item :: rest => ',' :: (newline depth ++ writtenAt depth item ++ writtenItems depth rest)

/-- The members after the first. -/
def writtenMembers (depth : Nat) : List (String × Json) → List Char
  | [] => []
  | (name, value) :: rest =>
    ',' :: (newline depth ++ writtenText name ++ [':', ' '] ++ writtenAt depth value ++
      writtenMembers depth rest)
end

/-- The text of a value. -/
def written (value : Json) : List Char := writtenAt 0 value

/-! ## Canonical text -/

/-- Put a member behind the ones with smaller names. -/
def insertSorted (name : String) (value : Json) : Members → Members
  | [] => [(name, value)]
  | (other, kept) :: rest =>
    if other < name then (other, kept) :: insertSorted name value rest
    else (name, value) :: (other, kept) :: rest

mutual
/-- A value with the members of every object in the order of their names. -/
def sorted : Json → Json
  | .array items => .array (sortedItems items)
  | .object members => .object (sortedMembers members)
  | .null => .null
  | .bool value => .bool value
  | .int value => .int value
  | .float value => .float value
  | .string value => .string value

/-- Every item sorted within. -/
def sortedItems : List Json → List Json
  | [] => []
  | item :: rest => sorted item :: sortedItems rest

/-- The members sorted within and by their names. -/
def sortedMembers : List (String × Json) → List (String × Json)
  | [] => []
  | (name, value) :: rest => insertSorted name (sorted value) (sortedMembers rest)
end

/-- The canonical text of a value. -/
def canonicalText (value : Json) : String := String.ofList (written (sorted value))

end OperandCleanup.Json
