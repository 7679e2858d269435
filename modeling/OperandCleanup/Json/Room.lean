import OperandCleanup.Json.Reader

/-!
# Reading within the room of the stack

Every array and object that is open takes room on the stack. A reader that meets one more than
there is room for gives up there, and what follows is not looked at. That is no fault of the text:
with more room the same text may be read.
-/

namespace OperandCleanup

/-- The brackets around items or members. -/
inductive Json.Bracket where
  | array
  | object
deriving DecidableEq, Repr, Inhabited

/-- Why an operation that has errors of its own gives nothing. -/
inductive Halt (ε : Type) where
  /-- The stack has no room for what a bracket opens. -/
  | exhausted (bracket : Json.Bracket)
  | failed (error : ε)
deriving DecidableEq, Repr, Inhabited

/-- Errors of one operation as those of another. -/
def Halt.map {ε ε' : Type} (f : ε → ε') : Halt ε → Halt ε'
  | .exhausted bracket => .exhausted bracket
  | .failed error => .failed (f error)

namespace Json

mutual
/-- How many arrays and objects are around each other in a value. -/
def nesting : Json → Nat
  | .array items => nestingItems items + 1
  | .object members => nestingMembers members + 1
  | .null => 0
  | .bool _ => 0
  | .int _ => 0
  | .float _ => 0
  | .string _ => 0

/-- How many are around each other in an item, at most. -/
def nestingItems : List Json → Nat
  | [] => 0
  | item :: rest => max (nesting item) (nestingItems rest)

/-- How many are around each other in the value of a member, at most. -/
def nestingMembers : List (String × Json) → Nat
  | [] => 0
  | (_, value) :: rest => max (nesting value) (nestingMembers rest)
end

/-- The message of a reader that has no room for what a bracket opens. -/
def Bracket.exhaustionMessage (bracket : Bracket) : String :=
  let name := match bracket with
    | .array => "array"
    | .object => "object"
  "maximum recursion depth exceeded while decoding a JSON " ++ name ++ " from a unicode string"

/-- The bracket that a token is, if it opens an array or an object. -/
def Token.opens? : Token → Option Bracket
  | .openArray => some .array
  | .openObject => some .object
  | _ => none

/-- How many arrays and objects are around a value that may start in a state. -/
def ReaderState.around? (state : ReaderState) : Option Nat :=
  match state.expectation with
  | .value => some state.frames.length
  | .firstItem => some (state.frames.length + 1)
  | _ => none

/-- The bracket of a token that would open more than there is room for. -/
def excess? (room : Nat) (state : ReaderState) (token : Token) : Option Bracket :=
  match state.around?, token.opens? with
  | some around, some bracket => if around < room then none else some bracket
  | _, _ => none

/-- Read tokens from a state on, within the room for so many arrays and objects around each
other. -/
def readTokensWithin (room : Nat) :
    ReaderState → List (Nat × Token) → Except (Halt Fault) Json
  | _, [] => .error (.failed (.located .expectingValue 0))
  | state, (offset, token) :: rest =>
    match excess? room state token with
    | some bracket => .error (.exhausted bracket)
    | none =>
      match step state offset token with
      | .next state => readTokensWithin room state rest
      | .finished value => .ok value
      | .stopped fault => .error (.failed fault)

/-- The value of a text, within the room for so many arrays and objects around each other. -/
def readWithin (room : Nat) (text : List Char) : Except (Halt Fault) Json :=
  if text.head? = some '\ufeff' then .error (.failed (.located .byteOrderMark 0))
  else readTokensWithin room ⟨.value, []⟩ (tokens text)

end Json

end OperandCleanup
