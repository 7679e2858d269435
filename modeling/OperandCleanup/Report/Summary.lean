import OperandCleanup.Json.Basic
import OperandCleanup.Pipeline

/-!
# The summary of a run

A summary is a JSON value with the account of every stage and every error of a run; it does not
hold the document.
-/

namespace OperandCleanup

/-- The members of the account of a stage. -/
def StageEntry.toMembers (entry : StageEntry) : Json.Members :=
  Json.Members.coveredBy
    [("stage", .string entry.stage), ("records_before", .int entry.recordsBefore),
      ("records_after", .int entry.recordsAfter), ("records_modified", .int entry.modified),
      ("errors", .array (entry.errors.map .string))] entry.covers

/-- The account of a stage as a JSON value. -/
def StageEntry.toJson (entry : StageEntry) : Json := .object entry.toMembers

/-- The members of an error. -/
def DataError.toMembers (error : DataError) : Json.Members :=
  Json.Members.coveredBy
    [("kind", .string error.kind.name), ("transform", .string error.transform),
      ("record_index", (error.recordIndex.map Json.int).getD .null),
      ("mnemonic", .string error.mnemonic), ("message", .string error.message)] error.covers

/-- An error as a JSON value. -/
def DataError.toJson (error : DataError) : Json := .object error.toMembers

/-- The summary of a run. -/
def Run.summary (run : Run) : Json :=
  .object [("ok", .bool run.ok), ("stopped_early", .bool run.stoppedEarly),
    ("record_count", .int run.document.size), ("stages", .array (run.stages.map StageEntry.toJson)),
    ("errors", .array (run.errors.map DataError.toJson)),
    ("last_error", (run.lastError?.map fun error => Json.string error.describe).getD .null)]

end OperandCleanup
