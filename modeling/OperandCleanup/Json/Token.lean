import OperandCleanup.Json.Basic
import OperandCleanup.Json.Fault
import OperandCleanup.Number.Hexadecimal

/-!
# The tokens of a JSON text

A text is a sequence of tokens with blanks between them. Each token stands at an offset. The last
one is the end of the text, or a place where no token starts, or a token that starts well and goes
wrong: what follows such a place is of no interest.

Texts here are texts of characters, so an escape that names a surrogate without its partner stands
for the replacement character. Texts that keep surrogates are read as texts of code points.
-/

namespace OperandCleanup.Json

/-- A token of JSON text. -/
inductive Token where
  | openObject
  | closeObject
  | openArray
  | closeArray
  | comma
  | colon
  | text (value : String)
  /-- A number or one of the named values. -/
  | scalar (value : Json)
  | endOfText
  /-- No token starts here. -/
  | unknown
  /-- A text or an integer starts here and is faulty. -/
  | faulty (fault : Fault)
deriving Repr, Inhabited

/-- Whether nothing is read after the token. -/
def Token.isLast : Token → Bool
  | .endOfText => true
  | .unknown => true
  | .faulty _ => true
  | _ => false

/-- Whether a character may stand between tokens. -/
def isSpace (c : Char) : Bool := c == ' ' || c == '\t' || c == '\n' || c == '\r'

/-! ## Texts -/

/-- The character that a single letter after a backslash stands for. -/
def escapedLetter? : Char → Option Char
  | '"' => some '"'
  | '\\' => some '\\'
  | '/' => some '/'
  | 'b' => some '\x08'
  | 'f' => some '\x0c'
  | 'n' => some '\n'
  | 'r' => some '\r'
  | 't' => some '\t'
  | _ => none

def isHighSurrogate (code : Nat) : Bool := 0xd800 ≤ code && code ≤ 0xdbff

def isLowSurrogate (code : Nat) : Bool := 0xdc00 ≤ code && code ≤ 0xdfff

/-- The character of a code; a surrogate without its partner becomes the replacement character. -/
def charOfUnit (code : Nat) : Char :=
  if 0xd800 ≤ code ∧ code ≤ 0xdfff then '\ufffd' else Char.ofNat code

/-- The character of a surrogate pair. -/
def charOfPair (high low : Nat) : Char :=
  Char.ofNat (0x10000 + (high - 0xd800) * 0x400 + (low - 0xdc00))

/-- The low surrogate that an escape right after a high one names, if it does. The escape needs
one more character after its digits. `offset` is that of the backslash. -/
def secondUnit? (offset : Nat) : List Char → Except Fault (Option Nat)
  | '\\' :: 'u' :: a :: b :: c :: d :: _ :: _ =>
    match Hexadecimal.value? [a, b, c, d] with
    | none => .error (.located .malformedUnicodeEscape (offset + 1))
    | some code => .ok (if isLowSurrogate code then some code else none)
  | _ => .ok none

/-- The character of a code escape and the number of characters of the escape after its `u`, which
stands at `offset`. The escape needs one more character after its digits. -/
def codeEscape (offset : Nat) : List Char → Except Fault (Char × Nat)
  | a :: b :: c :: d :: next :: rest =>
    match Hexadecimal.value? [a, b, c, d] with
    | none => .error (.located .malformedUnicodeEscape offset)
    | some code =>
      if isHighSurrogate code then do
        match ← secondUnit? (offset + 5) (next :: rest) with
        | some low => return (charOfPair code low, 10)
        | none => return (charOfUnit code, 4)
      else .ok (charOfUnit code, 4)
  | _ => .error (.located .malformedUnicodeEscape offset)

/-- The character of an escape and the number of characters after its backslash, which stands at
`offset`. `start` is the offset of the text's opening quote. -/
def escape (start offset : Nat) : List Char → Except Fault (Char × Nat)
  | [] => .error (.located .unterminatedText start)
  | 'u' :: rest => do
    let (c, length) ← codeEscape (offset + 1) rest
    return (c, length + 1)
  | letter :: _ =>
    match escapedLetter? letter with
    | some c => .ok (c, 1)
    | none => .error (.located .unknownEscape offset)

/-- The characters of a text after its opening quote at `start`, and the offset after its closing
one. The first `skip` characters belong to an escape that is read already. -/
def textBody (start : Nat) : Nat → Nat → List Char → Except Fault (List Char × Nat)
  | _, _, [] => .error (.located .unterminatedText start)
  | offset, skip + 1, _ :: rest => textBody start (offset + 1) skip rest
  | offset, 0, c :: rest =>
    if c = '"' then .ok ([], offset + 1)
    else if c = '\\' then do
      let (escaped, length) ← escape start offset rest
      let (cs, stop) ← textBody start (offset + 1) length rest
      return (escaped :: cs, stop)
    else if c.toNat < 0x20 then .error (.located .controlCharacter offset)
    else do
      let (cs, stop) ← textBody start (offset + 1) 0 rest
      return (c :: cs, stop)

/-- The text whose opening quote stands at `start`, and the number of its characters after that. -/
def textToken (start : Nat) (rest : List Char) : Token × Nat :=
  match textBody start (start + 1) 0 rest with
  | .error fault => (.faulty fault, 0)
  | .ok (cs, stop) => (.text (String.ofList cs), stop - (start + 1))

/-! ## Numbers -/

/-- The characters of a number, part by part. -/
structure NumberParts where
  negative : Bool
  whole : List Char
  /-- The digits after the point; without any there is no point. -/
  fraction : List Char
  /-- The exponent's mark, its sign where there is one, and its digits. -/
  exponent : Option (Bool × List Char)
  /-- The number of characters. -/
  length : Nat
deriving Repr

/-- The digits before the point: a single zero, or digits that do not start with one. -/
def wholeDigits : List Char → List Char
  | [] => []
  | '0' :: _ => ['0']
  | cs => cs.takeWhile Char.isDigit

/-- The digits after a point. -/
def fractionDigits : List Char → List Char
  | '.' :: rest => rest.takeWhile Char.isDigit
  | _ => []

/-- Whether an exponent is negative, its digits, and the number of its characters. -/
def exponentPart? : List Char → Option (Bool × List Char × Nat)
  | mark :: rest =>
    if mark = 'e' ∨ mark = 'E' then
      let (negative, digits, signs) :=
        match rest with
        | '-' :: more => (true, more.takeWhile Char.isDigit, 1)
        | '+' :: more => (false, more.takeWhile Char.isDigit, 1)
        | _ => (false, rest.takeWhile Char.isDigit, 0)
      if digits.isEmpty then none else some (negative, digits, digits.length + signs + 1)
    else none
  | [] => none

/-- The parts of the number that a text starts with. -/
def numberParts? (cs : List Char) : Option NumberParts :=
  let (negative, body) := match cs with
    | '-' :: rest => (true, rest)
    | _ => (false, cs)
  let whole := wholeDigits body
  if whole.isEmpty then none
  else
    let rest := body.drop whole.length
    let fraction := fractionDigits rest
    let pointed := if fraction.isEmpty then 0 else fraction.length + 1
    let exponent := exponentPart? (rest.drop pointed)
    let marked := (exponent.map fun (_, _, length) => length).getD 0
    some {
      negative := negative
      whole := whole
      fraction := fraction
      exponent := exponent.map fun (negative, digits, _) => (negative, digits)
      length := (if negative then 1 else 0) + whole.length + pointed + marked }

/-- The number that decimal digits write. -/
def decimalValue (digits : List Char) : Nat := Nat.ofDigitChars 10 digits 0

/-- The value of a number: an integer unless it has a fraction or an exponent. -/
def NumberParts.token (parts : NumberParts) : Token :=
  if parts.fraction.isEmpty && parts.exponent.isNone then
    if maxIntegerDigits < parts.whole.length then .faulty (.integerTooLong parts.whole.length)
    else
      let magnitude : Int := decimalValue parts.whole
      .scalar (.int (if parts.negative then -magnitude else magnitude))
  else
    let scale : Int := match parts.exponent with
      | none => 0
      | some (true, digits) => -decimalValue digits
      | some (false, digits) => decimalValue digits
    .scalar (.float (.ofDecimal parts.negative (decimalValue (parts.whole ++ parts.fraction))
      (scale - parts.fraction.length)))

/-! ## Tokens -/

/-- The named values. -/
def namedValues : List (String × Json) :=
  [("null", .null), ("true", .bool true), ("false", .bool false), ("NaN", .float .nan),
    ("Infinity", .float (.infinite false)), ("-Infinity", .float (.infinite true))]

/-- The named value that a text starts with, and the number of its characters. -/
def namedValue? (cs : List Char) : Option (Json × Nat) :=
  namedValues.findSome? fun (name, value) =>
    if name.toList.isPrefixOf cs then some (value, name.length) else none

/-- The token of a scalar and the number of its characters after the first. -/
def scalarToken (cs : List Char) : Token × Nat :=
  match namedValue? cs with
  | some (value, length) => (.scalar value, length - 1)
  | none =>
    match numberParts? cs with
    | some parts => (parts.token, parts.length - 1)
    | none => (.unknown, 0)

/-- The token that starts with a character at an offset, and the number of its characters after
that. -/
def tokenAt (offset : Nat) (c : Char) (rest : List Char) : Token × Nat :=
  match c with
  | '\x7b' => (.openObject, 0)
  | '\x7d' => (.closeObject, 0)
  | '[' => (.openArray, 0)
  | ']' => (.closeArray, 0)
  | ',' => (.comma, 0)
  | ':' => (.colon, 0)
  | '"' => textToken offset rest
  | _ => scalarToken (c :: rest)

/-- The tokens of a text with their offsets. The first `skip` characters belong to a token that is
read already. -/
def tokensFrom : Nat → Nat → List Char → List (Nat × Token)
  | offset, _, [] => [(offset, .endOfText)]
  | offset, skip + 1, _ :: rest => tokensFrom (offset + 1) skip rest
  | offset, 0, c :: rest =>
    if isSpace c then tokensFrom (offset + 1) 0 rest
    else
      let (token, length) := tokenAt offset c rest
      (offset, token) ::
        (if token.isLast then [] else tokensFrom (offset + 1) length rest)

/-- The tokens of a text. -/
def tokens (text : List Char) : List (Nat × Token) := tokensFrom 0 0 text

end OperandCleanup.Json
