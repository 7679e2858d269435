import OperandCleanup.Number.Hexadecimal

/-!
# Text as UTF-8 bytes

The decoder reads one byte at a time and owes so many continuation bytes, the next of them within
bounds that keep out overlong forms, surrogates and codes above the last. It stops at the first
byte that no character can hold there, and reports the bytes of the broken character.
-/

namespace OperandCleanup.Text.Utf8

/-- Why bytes are no text. -/
inductive Problem where
  | invalidStart
  | invalidContinuation
  | unexpectedEnd
deriving DecidableEq, Repr

/-- The bytes from `start` to before `stop`, of which `first` is the first, are no character. -/
structure Fault where
  problem : Problem
  first : UInt8
  start : Nat
  stop : Nat
deriving DecidableEq, Repr

def Problem.reason : Problem → String
  | .invalidStart => "invalid start byte"
  | .invalidContinuation => "invalid continuation byte"
  | .unexpectedEnd => "unexpected end of data"

/-- The message of a fault. One byte is shown with its value, several by their positions. -/
def Fault.message (fault : Fault) : String :=
  if fault.stop = fault.start + 1 then
    "'utf-8' codec can't decode byte 0x" ++
      String.ofList (Hexadecimal.digits 2 fault.first.toNat) ++
      " in position " ++ toString fault.start ++ ": " ++ fault.problem.reason
  else
    "'utf-8' codec can't decode bytes in position " ++ toString fault.start ++ "-" ++
      toString (fault.stop - 1) ++ ": " ++ fault.problem.reason

/-- A character begun: its first byte and where that stands, the payload so far, the number of
bytes still owed and the bounds of the next. -/
structure Begun where
  first : UInt8
  start : Nat
  payload : Nat
  owed : Nat
  low : UInt8
  high : UInt8
deriving DecidableEq, Repr

/-- What a byte above ASCII begins. -/
def begin? (position : Nat) (b : UInt8) : Option Begun :=
  if 0xc2 ≤ b && b ≤ 0xdf then some ⟨b, position, b.toNat - 0xc0, 1, 0x80, 0xbf⟩
  else if b == 0xe0 then some ⟨b, position, b.toNat - 0xe0, 2, 0xa0, 0xbf⟩
  else if b == 0xed then some ⟨b, position, b.toNat - 0xe0, 2, 0x80, 0x9f⟩
  else if 0xe1 ≤ b && b ≤ 0xef then some ⟨b, position, b.toNat - 0xe0, 2, 0x80, 0xbf⟩
  else if b == 0xf0 then some ⟨b, position, b.toNat - 0xf0, 3, 0x90, 0xbf⟩
  else if 0xf1 ≤ b && b ≤ 0xf3 then some ⟨b, position, b.toNat - 0xf0, 3, 0x80, 0xbf⟩
  else if b == 0xf4 then some ⟨b, position, b.toNat - 0xf0, 3, 0x80, 0x8f⟩
  else none

/-- The characters of bytes from a position on, within a character begun or between two. -/
def charsFrom : Nat → Option Begun → List UInt8 → Except Fault (List Char)
  | _, none, [] => .ok []
  | position, some begun, [] => .error ⟨.unexpectedEnd, begun.first, begun.start, position⟩
  | position, none, b :: rest =>
    if b < 0x80 then
      (charsFrom (position + 1) none rest).map (Char.ofNat b.toNat :: ·)
    else
      match begin? position b with
      | none => .error ⟨.invalidStart, b, position, position + 1⟩
      | some begun => charsFrom (position + 1) (some begun) rest
  | position, some begun, b :: rest =>
    if begun.low ≤ b && b ≤ begun.high then
      let payload := begun.payload * 64 + (b.toNat - 0x80)
      if begun.owed = 1 then
        (charsFrom (position + 1) none rest).map (Char.ofNat payload :: ·)
      else
        charsFrom (position + 1)
          (some
            { begun with payload := payload, owed := begun.owed - 1, low := 0x80, high := 0xbf })
          rest
    else .error ⟨.invalidContinuation, begun.first, begun.start, position⟩

/-- The characters that bytes stand for. -/
def decode (bytes : List UInt8) : Except Fault (List Char) := charsFrom 0 none bytes

/-- The bytes of characters. -/
def encode (cs : List Char) : List UInt8 := cs.flatMap String.utf8EncodeChar

end OperandCleanup.Text.Utf8
