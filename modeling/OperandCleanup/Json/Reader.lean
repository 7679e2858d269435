import OperandCleanup.Json.Token

/-!
# Reading JSON text

The reader consumes tokens one by one and keeps the arrays and objects that are open, innermost
first. A name given twice in an object keeps the place of the first and the value of the last.
-/

namespace OperandCleanup.Json

/-- An array or an object that is open. -/
inductive Frame where
  /-- The items so far, the last one first. -/
  | array (items : List Json)
  /-- The members so far, and the name whose value is being read. -/
  | object (members : Members) (name : String)
deriving Repr, Inhabited

/-- What the reader has to see next. -/
inductive Expectation where
  | value
  /-- A value or the end of the array just opened. -/
  | firstItem
  /-- A name or the end of the object just opened. -/
  | firstName
  | name (members : Members)
  | colon (members : Members) (name : String)
  /-- A value is complete: a comma or an end has to follow. -/
  | delimiter (value : Json)
deriving Repr, Inhabited

/-- The reader between two tokens. -/
structure ReaderState where
  expectation : Expectation
  frames : List Frame
deriving Repr, Inhabited

/-- What a token leads to. -/
inductive Step where
  | next (state : ReaderState)
  | finished (value : Json)
  | stopped (fault : Fault)
deriving Repr, Inhabited

/-- A problem at the token's offset. -/
def Step.problem (problem : Problem) (offset : Nat) : Step := .stopped (.located problem offset)

/-- The step where a value has to start. -/
def valueStep (frames : List Frame) (offset : Nat) : Token → Step
  | .openObject => .next ⟨.firstName, frames⟩
  | .openArray => .next ⟨.firstItem, frames⟩
  | .text value => .next ⟨.delimiter (.string value), frames⟩
  | .scalar value => .next ⟨.delimiter value, frames⟩
  | .faulty fault => .stopped fault
  | _ => .problem .expectingValue offset

/-- The step where a name has to start. -/
def nameStep (members : Members) (frames : List Frame) (offset : Nat) : Token → Step
  | .text name => .next ⟨.colon members name, frames⟩
  | .faulty (.located problem place) => .stopped (.located problem place)
  | _ => .problem .expectingName offset

/-- The step after a complete value. -/
def delimiterStep (value : Json) (offset : Nat) : List Frame → Token → Step
  | [], .endOfText => .finished value
  | [], _ => .problem .extraData offset
  | .array items :: frames, .comma => .next ⟨.value, .array (value :: items) :: frames⟩
  | .array items :: frames, .closeArray =>
    .next ⟨.delimiter (.array (value :: items).reverse), frames⟩
  | .object members name :: frames, .comma => .next ⟨.name (members.set name value), frames⟩
  | .object members name :: frames, .closeObject =>
    .next ⟨.delimiter (.object (members.set name value)), frames⟩
  | _, _ => .problem .expectingComma offset

/-- The step of a token at an offset. -/
def step (state : ReaderState) (offset : Nat) (token : Token) : Step :=
  match state.expectation with
  | .value => valueStep state.frames offset token
  | .firstItem =>
    match token with
    | .closeArray => .next ⟨.delimiter (.array []), state.frames⟩
    | _ => valueStep (.array [] :: state.frames) offset token
  | .firstName =>
    match token with
    | .closeObject => .next ⟨.delimiter (.object []), state.frames⟩
    | _ => nameStep [] state.frames offset token
  | .name members => nameStep members state.frames offset token
  | .colon members name =>
    match token with
    | .colon => .next ⟨.value, .object members name :: state.frames⟩
    | _ => .problem .expectingColon offset
  | .delimiter value => delimiterStep value offset state.frames token

/-- Read tokens from a state on. Every sequence of tokens ends with a last one, at which the reader
finishes or stops. -/
def readTokens : ReaderState → List (Nat × Token) → Except Fault Json
  | _, [] => .error (.located .expectingValue 0)
  | state, (offset, token) :: rest =>
    match step state offset token with
    | .next state => readTokens state rest
    | .finished value => .ok value
    | .stopped fault => .error fault

/-- The value of a text. -/
def read (text : List Char) : Except Fault Json :=
  if text.head? = some '\ufeff' then .error (.located .byteOrderMark 0)
  else readTokens ⟨.value, []⟩ (tokens text)

end OperandCleanup.Json
