import OperandCleanup.Json.Misuse
import OperandCleanup.Text.Lines
import OperandCleanup.Transform

/-!
# Pipelines

A pipeline applies transforms one after the other, each to the document that the one before it
left. A stage that reports errors does not end the run, unless the run is to fail fast; then the
stages after it are not applied. Every stage is accounted for by an entry of its own.
-/

namespace OperandCleanup

/-- A transform under the name that the run knows it by. -/
structure Stage where
  name : String
  transform : Transform

/-- The account of one stage. -/
structure StageEntry where
  stage : String
  recordsBefore : Nat
  recordsAfter : Nat
  modified : Int
  /-- The errors as they are shown to people. -/
  errors : List String
  covers : Json.Members := []
deriving DecidableEq, Repr, Inhabited

/-- The number of records changed as a value. -/
def StageEntry.modifiedValue (entry : StageEntry) : Json :=
  (entry.covers.get? "records_modified").getD (.int entry.modified)

/-- What a run leaves and reports. -/
structure Run where
  document : Document
  outcomes : List Outcome := []
  stages : List StageEntry := []
  stoppedEarly : Bool := false
  events : List Event := []
deriving Repr, Inhabited

namespace Run

/-- The errors of every stage, in order. -/
def errors (run : Run) : List DataError := run.outcomes.flatMap (·.errors)

def ok (run : Run) : Bool := run.outcomes.all (·.ok)

/-- The error reported last. -/
def lastError? (run : Run) : Option DataError := run.errors.getLast?

/-- The outcomes with errors. -/
def failedOutcomes (run : Run) : List Outcome := run.outcomes.filter fun outcome => !outcome.ok

/-- The names of the outcomes with errors. -/
def failedTransforms (run : Run) : List String := run.failedOutcomes.map (·.transform)

/-- What the closing event fails on: the first name among those of the outcomes with errors that is
no text, by its place among them. -/
def misuse? (run : Run) : Option Misuse :=
  run.failedOutcomes.zipIdx.findSome? fun (outcome, place) =>
    match outcome.name with
    | .string _ => none
    | value => some (.joined place value.typeName)

/-- The event that closes a run. -/
def closingEvent (run : Run) : Event :=
  match run.lastError? with
  | none =>
    ⟨.info, "Cleanup finished: " ++ toString run.outcomes.length ++ " transform(s), no errors"⟩
  | some last =>
    ⟨.info, "Cleanup finished with " ++ toString run.errors.length ++ " error(s) in " ++
      Text.joined ", " run.failedTransforms ++ "; last: " ++ last.describe⟩

end Run

namespace Stage

/-- The outcome of a stage. It gets the stage's name where it has none; its errors stay as they
were reported. -/
def named (stage : Stage) (outcome : Outcome) : Outcome :=
  if outcome.transform = "" then
    { outcome with transform := stage.name, covers := outcome.covers.without ["transform"] }
  else outcome

/-- The account of an application at a stage. -/
def entry (stage : Stage) (before : Document) (application : Application) : StageEntry where
  stage := stage.name
  recordsBefore := before.size
  recordsAfter := application.document.size
  modified := application.outcome.modified
  errors := application.outcome.errors.map (·.describe)
  covers := application.outcome.covers

/-- The event that sums up an application at a stage. -/
def summaryEvent (stage : Stage) (outcome : Outcome) : Event :=
  ⟨.debug, stage.name ++ ": " ++ outcome.modifiedValue.text ++ " record(s) modified, " ++
    toString outcome.errors.length ++ " error(s)"⟩

/-- The event of a run that ends at a stage. -/
def stopEvent (stage : Stage) : Event :=
  ⟨.warning, "Stopping after failed transform " ++ stage.name⟩

end Stage

namespace Pipeline

/-- Apply stages in order to a document. -/
def runStages (failFast : Bool) : List Stage → Document → Run
  | [], document => { document := document }
  | stage :: rest, document =>
    let application := stage.transform.apply document
    let outcome := stage.named application.outcome
    let entry := stage.entry document application
    let events := application.events ++ [stage.summaryEvent outcome]
    if failFast && !outcome.ok then
      { document := application.document
        outcomes := [outcome]
        stages := [entry]
        stoppedEarly := true
        events := events ++ [stage.stopEvent] }
    else
      let after := runStages failFast rest application.document
      { after with
        outcomes := outcome :: after.outcomes
        stages := entry :: after.stages
        events := events ++ after.events }

/-- Run stages on a document and close the log of the run. -/
def run (failFast : Bool) (stages : List Stage) (document : Document) : Run :=
  let result := runStages failFast stages document
  { result with events := result.events ++ [result.closingEvent] }

end Pipeline

end OperandCleanup
