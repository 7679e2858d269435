/-!
# Faults in JSON text

A fault is a problem at an offset into the text, counted in characters. Its message also gives the
line and the column, both from one. An integer with more digits than the limit is a fault of its
own, without a place.
-/

namespace OperandCleanup.Json

/-- What can be wrong at a place of a JSON text. -/
inductive Problem where
  | byteOrderMark
  | expectingValue
  | expectingName
  | expectingColon
  | expectingComma
  | extraData
  | unterminatedText
  | controlCharacter
  | unknownEscape
  | malformedUnicodeEscape
deriving DecidableEq, Repr

def Problem.text : Problem → String
  | .byteOrderMark => "Unexpected UTF-8 BOM (decode using utf-8-sig)"
  | .expectingValue => "Expecting value"
  | .expectingName => "Expecting property name enclosed in double quotes"
  | .expectingColon => "Expecting ':' delimiter"
  | .expectingComma => "Expecting ',' delimiter"
  | .extraData => "Extra data"
  | .unterminatedText => "Unterminated string starting at"
  | .controlCharacter => "Invalid control character at"
  | .unknownEscape => "Invalid \\escape"
  | .malformedUnicodeEscape => "Invalid \\uXXXX escape"

/-- Why a text is not a JSON value. -/
inductive Fault where
  | located (problem : Problem) (offset : Nat)
  /-- An integer has this many digits, and the limit is lower. -/
  | integerTooLong (digits : Nat)
deriving DecidableEq, Repr

/-- The most digits an integer may have. -/
def maxIntegerDigits : Nat := 4300

/-- The line of an offset, from one. -/
def lineAt (text : List Char) (offset : Nat) : Nat := (text.take offset).count '\n' + 1

/-- The column of an offset in its line, from one. -/
def columnAt (text : List Char) (offset : Nat) : Nat :=
  ((text.take offset).reverse.takeWhile (· != '\n')).length + 1

/-- The message of a fault in a text. -/
def Fault.message (text : List Char) : Fault → String
  | .located problem offset =>
    problem.text ++ ": line " ++ toString (lineAt text offset) ++ " column " ++
      toString (columnAt text offset) ++ " (char " ++ toString offset ++ ")"
  | .integerTooLong digits =>
    "Exceeds the limit (" ++ toString maxIntegerDigits ++
      " digits) for integer string conversion: value has " ++ toString digits ++
      " digits; use sys.set_int_max_str_digits() to increase the limit"

end OperandCleanup.Json
