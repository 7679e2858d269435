import OperandCleanup.Pipeline
import OperandCleanup.Registry
import OperandCleanup.Report.Markup
import OperandCleanup.Report.Table

/-!
# The table of a run

A run is shown as a table with a row per stage. A note follows where the run stopped early, and a
line with the last error where there was one. The names of stages are markup; the text of an error
is escaped first.
-/

namespace OperandCleanup.Report

/-- The number of records that a stage left, after the number before where the two differ. -/
def recordsCell (entry : StageEntry) : String :=
  if entry.recordsAfter = entry.recordsBefore then toString entry.recordsAfter
  else toString entry.recordsBefore ++ " -> " ++ toString entry.recordsAfter

/-- What the console shows for markup. -/
def shownText (s : String) : Except Markup.Fault String :=
  (Markup.shown s.toList).map String.ofList

/-- The row of a stage, of which the name and the number of changes are given as they are shown. -/
def stageRow (name modified : String) (entry : StageEntry) : List String :=
  [name, recordsCell entry, modified, toString entry.errors.length,
    if entry.errors.isEmpty then "OK" else "FAIL"]

/-- The rows of stages. The columns are read one after the other. -/
def stageRows (entries : List StageEntry) : Except Markup.Fault (List (List String)) := do
  let names ← entries.mapM fun entry => shownText entry.stage
  let modified ← entries.mapM fun entry => shownText entry.modifiedValue.text
  return (names.zip (modified.zip entries)).map fun (name, modified, entry) =>
    stageRow name modified entry

/-- The table of stages with the given rows. -/
def stageTable (rows : List (List String)) : Table where
  title := "Instruction-set cleanup"
  columns := [⟨"Transform", false⟩, ⟨"Records", true⟩, ⟨"Modified", true⟩, ⟨"Errors", true⟩,
    ⟨"Status", false⟩]
  rows := rows

/-- The note on a run that stopped early. -/
def failFastNote : String := "Stopped after the first failing transform (fail-fast)."

/-- The line that shows the last error. -/
def lastErrorLine (error : DataError) : Except Markup.Fault String :=
  let escaped := String.ofList (Markup.escape error.describe.toList)
  shownText ("[bold red]Last error:[/bold red] " ++ escaped)

/-- The messages after the table of a run. -/
def runMessages (run : Run) : Except Markup.Fault (List String) := do
  let note := if run.stoppedEarly then [failFastNote] else []
  match run.lastError? with
  | none => return note
  | some error => return note ++ [← lastErrorLine error]

/-- The lines that show a run on a console of the given width, blanks at their ends left out. -/
def runLines (console : Nat) (run : Run) : Except Markup.Fault (List String) := do
  let rows ← stageRows run.stages
  let messages ← runMessages run
  return readAgain ((stageTable rows).lines console ++
    messages.flatMap (Fitting.message.lines false console))

/-- The lines that list the entries of a registry in the order in which they run. -/
def registryLines (console : Nat) (registry : Registry) : List String :=
  let rows := registry.byPriority.mapIdx fun index entry =>
    [toString (index + 1), toString entry.priority, entry.name, entry.transform.description]
  let table : Table := {
    title := "Registered transforms"
    columns := [⟨"#", true⟩, ⟨"Priority", true⟩, ⟨"Name", false⟩, ⟨"Description", false⟩]
    rows := rows }
  readAgain (table.lines console)

end OperandCleanup.Report
