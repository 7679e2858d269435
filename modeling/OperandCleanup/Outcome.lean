import OperandCleanup.Json.Literal
import OperandCleanup.Text.Blank

/-!
# Outcomes

Problems with the data are values: an outcome of a transform lists the errors it reports, in the
order it met them, beside the number of records it changed. A transform may report a value of
another type in place of a member. The member then holds the value's text, and the value itself is
a cover: it is given where the member is asked for as a value.
-/

namespace OperandCleanup

/-- What an error means for the transform that reports it. -/
inductive ErrorKind where
  /-- The record does not have the expected shape and is passed over. -/
  | malformedRecord
  /-- A record with a fixed encoding is not of its form, and the transform stops. -/
  | corruptFixedForm
deriving DecidableEq, Repr, Inhabited

namespace ErrorKind

def all : List ErrorKind := [.malformedRecord, .corruptFixedForm]

def name : ErrorKind → String
  | .malformedRecord => "MalformedRecord"
  | .corruptFixedForm => "CorruptFixedForm"

def ofName? (name : String) : Option ErrorKind := all.find? (·.name == name)

end ErrorKind

/-- An error that a transform reports about a record, or about no record in particular. -/
structure DataError where
  kind : ErrorKind := .malformedRecord
  message : String
  transform : String := ""
  recordIndex : Option Int := none
  mnemonic : String := ""
  covers : Json.Members := []
deriving DecidableEq, Repr, Inhabited

namespace DataError

/-- The cover of a member that should be a text, unless the value is one. -/
def coverOf (name : String) : Json → Json.Members
  | .string _ => []
  | value => [(name, value)]

/-- The text of the index of a record. -/
def indexText? (error : DataError) : Option String :=
  match error.covers.get? "record_index" with
  | some cover => some cover.text
  | none => error.recordIndex.map toString

/-- The transform and the record that an error belongs to. -/
def place (error : DataError) : String :=
  (if error.transform = "" then "" else "[" ++ error.transform ++ "]") ++
    match error.indexText? with
    | none => ""
    | some index => " record #" ++ index

/-- An error as it is shown to people: where, and what. -/
def describe (error : DataError) : String := Text.trim (error.place ++ " " ++ error.message)

end DataError

/-- What a transform reports of one application. -/
structure Outcome where
  transform : String := ""
  errors : List DataError := []
  /-- The number of records changed, by the transform's own account. -/
  modified : Int := 0
  covers : Json.Members := []
deriving DecidableEq, Repr, Inhabited

namespace Outcome

/-- The transform's name as a value. -/
def name (outcome : Outcome) : Json :=
  (outcome.covers.get? "transform").getD (.string outcome.transform)

/-- The number of records changed as a value. -/
def modifiedValue (outcome : Outcome) : Json :=
  (outcome.covers.get? "records_modified").getD (.int outcome.modified)

/-- Whether no error was reported. -/
def ok (outcome : Outcome) : Bool := outcome.errors.isEmpty

/-- The error reported last. -/
def lastError? (outcome : Outcome) : Option DataError := outcome.errors.getLast?

end Outcome

end OperandCleanup
