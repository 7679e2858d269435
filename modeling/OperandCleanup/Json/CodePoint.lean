import OperandCleanup.Json.Printer
import OperandCleanup.Json.Reader
import OperandCleanup.Text.CodePoint

/-!
# JSON texts of code points

A JSON text may hold surrogates, and its escapes may name them. Two escapes that are a surrogate
pair are one character; any other surrogate stays. The tokens of such a text are those of the text
that it is shown as, but for what its quoted texts hold, which are kept marked. On writing, a
surrogate is an escape of its own. So a pair of surrogates that are code points each is written as
one character is, and reads back as that.
-/

namespace OperandCleanup.Json

/-! ## Reading -/

/-- The code point of an escape and the number of its characters after the backslash. An escape of a
single code names any code point of 16 bits. -/
def escapedPoint (rest : List Char) : CodePoint × Nat :=
  match rest, escape 0 0 rest with
  | 'u' :: a :: b :: c :: d :: _, .ok (_, 5) =>
    (.ofNat ((Hexadecimal.value? [a, b, c, d]).getD 0), 5)
  | _, .ok (c, length) => (.char c, length)
  | _, .error _ => (.char '\\', 0)

/-- The code points of a quoted text, after its opening quote. The first `skip` belong to an escape
that is read already. -/
def quotedPoints : Nat → List CodePoint → List CodePoint
  | _, [] => []
  | skip + 1, _ :: rest => quotedPoints skip rest
  | 0, point :: rest =>
    if point = .char '"' then []
    else if point = .char '\\' then
      let (escaped, length) := escapedPoint (rest.map CodePoint.shown)
      escaped :: quotedPoints length rest
    else point :: quotedPoints 0 rest

/-- A token of a text of code points, from that of the text that it is shown as. -/
def pointToken (codes : List CodePoint) (offset : Nat) : Token → Token
  | .text _ => .text (CodePoint.markedText (quotedPoints 0 (codes.drop (offset + 1))))
  | token => token

/-- The tokens of a text of code points. -/
def pointTokens (codes : List CodePoint) : List (Nat × Token) :=
  (tokens (codes.map CodePoint.shown)).map fun (offset, token) =>
    (offset, pointToken codes offset token)

/-- The value of a text of code points, its texts marked. -/
def readPoints (codes : List CodePoint) : Except Fault Json :=
  if codes.head? = some (.char '\ufeff') then .error (.located .byteOrderMark 0)
  else readTokens ⟨.value, []⟩ (pointTokens codes)

/-! ## Writing -/

/-- A code point within a text. -/
def writtenPoint : CodePoint → List Char
  | .char c => writtenChar c
  | .surrogate rank => unitEscape (CodePoint.firstSurrogate + rank)

/-- A marked text between its quotes. -/
def writtenMarked (s : String) : List Char :=
  '"' :: ((CodePoint.unmarked s.toList).flatMap writtenPoint ++ ['"'])

mutual
/-- The text of a value that stands at a depth, with its texts written by a function. -/
def writtenBy (quoted : String → List Char) (depth : Nat) : Json → List Char
  | .string value => quoted value
  | .array (item :: rest) =>
    '[' :: (newline (depth + 1) ++ writtenBy quoted (depth + 1) item ++
      writtenItemsBy quoted (depth + 1) rest ++ newline depth ++ [']'])
  | .object ((name, value) :: rest) =>
    '\x7b' :: (newline (depth + 1) ++ quoted name ++ [':', ' '] ++
      writtenBy quoted (depth + 1) value ++ writtenMembersBy quoted (depth + 1) rest ++
      newline depth ++ ['\x7d'])
  | value => writtenAt depth value

/-- The items after the first. -/
def writtenItemsBy (quoted : String → List Char) (depth : Nat) : List Json → List Char
  | [] => []
  | item :: rest =>
    ',' :: (newline depth ++ writtenBy quoted depth item ++ writtenItemsBy quoted depth rest)

/-- The members after the first. -/
def writtenMembersBy (quoted : String → List Char) (depth : Nat) :
    List (String × Json) → List Char
  | [] => []
  | (name, value) :: rest =>
    ',' :: (newline depth ++ quoted name ++ [':', ' '] ++ writtenBy quoted depth value ++
      writtenMembersBy quoted depth rest)
end

end OperandCleanup.Json
