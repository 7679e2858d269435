import OperandCleanup.Json.Literal
import OperandCleanup.Transform

/-!
# Passes

A pass looks at the records of a document one at a time, in order, and decides about each from that
record alone. It may leave a record, change it, report it as malformed, or find it corrupt and stop
there. Records that a pass adds go to the end of the document once every record has been looked at,
so a pass never meets its own additions.
-/

namespace OperandCleanup

/-- What a pass decides about one record. -/
inductive Verdict where
  | unchanged
  /-- The record becomes another one, and more records are added to the document. -/
  | changed (record : Record) (added : List Record)
  /-- The record is reported and left. -/
  | malformed (message : String)
  /-- The record is reported under a headline that the whole record follows, and the pass ends. -/
  | corrupt (headline : String)
deriving Repr, Inhabited

/-- A pass over the records of a document. -/
structure Pass where
  name : String
  description : String
  judge : Record → Verdict

/-- The state of the records after a pass, and what the pass did. -/
structure Scan where
  records : List Record
  added : List Record
  errors : List DataError
  modified : Nat
deriving Repr, Inhabited

namespace Pass

/-- The error that a pass reports about the record at an index. -/
def errorAt (pass : Pass) (kind : ErrorKind) (index : Nat) (record : Record) (message : String) :
    DataError where
  kind := kind
  message := message
  transform := pass.name
  recordIndex := some index
  mnemonic := record.mnemonic

/-- Look at records in order, the first of them at `index`. -/
def scan (pass : Pass) : Nat → List Record → Scan
  | _, [] => ⟨[], [], [], 0⟩
  | index, record :: rest =>
    match pass.judge record with
    | .unchanged =>
      let after := pass.scan (index + 1) rest
      { after with records := record :: after.records }
    | .changed revised added =>
      let after := pass.scan (index + 1) rest
      { after with
        records := revised :: after.records
        added := added ++ after.added
        modified := after.modified + 1 }
    | .malformed message =>
      let after := pass.scan (index + 1) rest
      { after with
        records := record :: after.records
        errors := pass.errorAt .malformedRecord index record message :: after.errors }
    | .corrupt headline =>
      let message := headline ++ String.ofList record.toJson.literal
      ⟨record :: rest, [], [pass.errorAt .corruptFixedForm index record message], 0⟩

/-- The event of an error that a pass reports. -/
def errorEvent (pass : Pass) (error : DataError) : Event :=
  ⟨.error, pass.name ++ ": " ++ error.message⟩

/-- Apply a pass to a document. -/
def apply (pass : Pass) (document : Document) : Application :=
  let scan := pass.scan 0 document.records
  { document := ⟨scan.records ++ scan.added⟩
    outcome := { transform := pass.name, errors := scan.errors, modified := scan.modified }
    events := scan.errors.map pass.errorEvent }

/-- A pass as a transform. -/
def transform (pass : Pass) : Transform where
  name := pass.name
  description := pass.description
  apply := pass.apply

end Pass

end OperandCleanup
