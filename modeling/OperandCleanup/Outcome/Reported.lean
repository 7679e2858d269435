import OperandCleanup.Outcome

/-!
# Reported errors

An error can be reported by its members. The kind is checked first, then that no member is unknown,
and last that there is a message; every other member has a default, and none is checked for its
type.
-/

namespace OperandCleanup

/-- Why members do not describe an error. -/
inductive ReportProblem where
  | unknownKind (value : Json)
  | unexpected (name : String)
  /-- A member names the receiver of the report. -/
  | receiver
  | missingMessage
deriving DecidableEq, Repr, Inhabited

/-- The message of a problem with a report to the named receiver. -/
def ReportProblem.message (receiver : String) : ReportProblem → String
  | .unknownKind value => String.ofList value.literal ++ " is not a valid ErrorKind"
  | .unexpected name => receiver ++ " got an unexpected keyword argument '" ++ name ++ "'"
  | .receiver => receiver ++ " got multiple values for argument 'self'"
  | .missingMessage => receiver ++ " missing 1 required positional argument: 'message'"

namespace DataError

/-- The kind that a value names. -/
def reportedKind : Option Json → Except ReportProblem ErrorKind
  | none => .ok .malformedRecord
  | some (.string name) =>
    match ErrorKind.ofName? name with
    | some kind => .ok kind
    | none => .error (.unknownKind (.string name))
  | some value => .error (.unknownKind value)

/-- The text of a value in place of a name, which is empty where the value counts as nothing. -/
def reportedName (value : Json) : String := if value.isNothing then "" else value.text

/-- The cover of the index of a record, unless the value is an integer or null. -/
def indexCover : Json → Json.Members
  | .int _ => []
  | .null => []
  | value => [("record_index", value)]

/-- The index that a value is. -/
def reportedIndex? : Json → Option Int
  | .int index => some index
  | _ => none

/-- The error that members describe, for a transform. The members may name the transform too if
that is among the known names. -/
def ofMembers (known : List String) (transform : Json) (members : Json.Members) :
    Except ReportProblem DataError := do
  let kind ← reportedKind (members.get? "kind")
  match members.find? fun (name, _) => !known.contains name with
  | some ("self", _) => throw .receiver
  | some (name, _) => throw (.unexpected name)
  | none => pure ()
  match members.get? "message" with
  | none => throw .missingMessage
  | some message =>
    let transform := (members.get? "transform").getD transform
    let index := (members.get? "record_index").getD .null
    let mnemonic := (members.get? "mnemonic").getD (.string "")
    return {
      kind := kind
      message := message.text
      transform := reportedName transform
      recordIndex := reportedIndex? index
      mnemonic := mnemonic.text
      covers := coverOf "message" message ++ coverOf "transform" transform ++ indexCover index ++
        coverOf "mnemonic" mnemonic }

end DataError

/-- The outcome that a transform reports by values of any type. -/
def Outcome.reported (transform modified : Json) (errors : List DataError) : Outcome where
  transform := DataError.reportedName transform
  errors := errors
  modified := (DataError.reportedIndex? modified).getD 0
  covers := DataError.coverOf "transform" transform ++
    match modified with
    | .int _ => []
    | value => [("records_modified", value)]

end OperandCleanup
