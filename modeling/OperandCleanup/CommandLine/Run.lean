import OperandCleanup.CommandLine.Arguments
import OperandCleanup.Config.File
import OperandCleanup.Interruption
import OperandCleanup.Log.FileName
import OperandCleanup.Report.RunTable
import OperandCleanup.Report.Summary

/-!
# Commands

A command is a function of the file system: it leaves another one, prints, logs, and ends with an
exit code. A cleanup writes its output also when transforms report errors, and then ends with one.
It ends with two when it cannot be done, and the message says why. It ends with one, too, when its
log file cannot be opened or the stack has no room for what is read or copied.
-/

namespace OperandCleanup

/-- What a command prints on its standard output. -/
inductive Printed where
  | help
  | lines (lines : List String)
  | summary (value : Json)
deriving Repr, Inhabited

/-- Why a command ends before its work is done. -/
inductive Failure where
  | usage
  | config (error : ConfigError)
  | registry (error : RegistryError)
  | importing (input : Path) (error : ImportError)
  | exporting (input : Path) (error : ExportError)
  /-- The log file cannot be written. -/
  | logging (error : LogFileError)
  /-- The report of the run is not proper markup. -/
  | report (fault : Report.Markup.Fault)
  /-- The stack has no room for what a bracket opens. -/
  | exhausted (bracket : Json.Bracket)
  | interrupted (input : Path) (cause : Interruption)
deriving Repr, Inhabited

/-- The exit code of a failure. -/
def Failure.exitCode : Failure → Nat
  | .logging _ => 1
  | .report _ => 1
  | .exhausted _ => 1
  | .interrupted _ .copying => 1
  | _ => 2

/-- The message of a failure. -/
def Failure.message : Failure → String
  | .usage => "The arguments do not fit together."
  | .config error => error.message
  | .registry error => error.message
  | .importing input error => "Cannot load " ++ input.text ++ ": " ++ error.message
  | .exporting input error => "Cannot load " ++ input.text ++ ": " ++ error.message
  | .logging error => error.message
  | .report fault => fault.message
  | .exhausted bracket => bracket.exhaustionMessage
  | .interrupted _ .copying => Interruption.copying.message
  | .interrupted input .writing =>
    "Cannot load " ++ input.text ++ ": " ++ Interruption.writing.message

/-- The failure of an operation that has errors of its own. -/
def Failure.ofHalt {ε : Type} (failed : ε → Failure) : Halt ε → Failure
  | .exhausted bracket => .exhausted bracket
  | .failed error => failed error

/-- What a command leaves. -/
structure Response where
  exitCode : Nat
  printed : Printed := .lines []
  failure : Option Failure := none
  /-- The events that the log shows. -/
  events : List Event := []
  files : FileSystem
deriving Repr, Inhabited

/-- The response to a failure. -/
def Response.failed (files : FileSystem) (failure : Failure) (events : List Event := []) :
    Response where
  exitCode := failure.exitCode
  failure := some failure
  events := events
  files := files

/-- An event as a line of a log: the level in eight columns, a bar and the message. -/
def Event.line (event : Event) : String :=
  let name := event.level.name
  name ++ String.ofList (List.replicate (8 - name.length) ' ') ++ " | " ++ event.message ++ "\n"

/-- An event as a JSON value. -/
def Event.toJson (event : Event) : Json :=
  .object [("level", .string event.level.name), ("message", .string event.message)]

/-- The bytes of events in a log file. -/
def logBytes (events : List Event) : List UInt8 :=
  Text.Utf8.encode (events.flatMap fun event => event.line.toList)

namespace CommandLine

/-- The configuration of a cleanup: that of the file, if one is named, under the options. -/
def configOf (room : Room) (arguments : RunArguments) (files : FileSystem) :
    Except (Halt ConfigError) Config := do
  let config ← match arguments.config with
    | none => pure {}
    | some path => files.loadConfig room.reading (Path.parse path)
  let overrides := Overrides.of arguments.only arguments.skip
    (if arguments.failFast then some true else none) arguments.logLevel
  match config.merge overrides with
  | .ok config => return config
  | .error cause => throw (.failed (.override cause))

/-- Open the log file of a cleanup at a time, if there is one. It is made even if no event is
written. -/
def openLog (arguments : RunArguments) (time : String) (files : FileSystem) :
    Except (Mishap LogFileError) (Option Path × FileSystem) :=
  match arguments.logFile with
  | none => .ok (none, files)
  | some pattern => do
    let (path, files) ← files.openLog time (Path.parse pattern)
    return (some path, files)

/-- Write events to the log file, if there is one. -/
def writeLog (files : FileSystem) (path : Option Path) (events : List Event) :
    Except LogFileError FileSystem :=
  match path with
  | none => .ok files
  | some path => files.appendLog path (logBytes events)

/-- What a run prints. -/
def printedRun (arguments : RunArguments) (run : Run) : Except Report.Markup.Fault Printed :=
  if arguments.json then .ok (.summary run.summary)
  else do
    let lines ← Report.runLines Report.standardWidth run
    let written := "Written to " ++ (Path.parse arguments.output).text
    return .lines (lines ++ Report.readAgain [written])

/-- Write what a run leaves, and show it. -/
def writeRun (room : Room) (arguments : RunArguments) (config : Config) (logFile : Option Path)
    (files : FileSystem) (run : Run) : Response :=
  let events := eventsFrom config.logLevel run.events
  match writeLog files logFile events with
  | .error error => .failed files (.logging error) events
  | .ok files =>
    match files.exportWithin room (Path.parse arguments.output) run.document with
    | .error mishap =>
      .failed mishap.files (.exporting (Path.parse arguments.input) mishap.error) events
    | .ok files =>
      match printedRun arguments run with
      | .error fault => .failed files (.report fault) events
      | .ok printed => { exitCode := if run.ok then 0 else 1, printed, events, files }

/-- Clean up a document that was read. -/
def cleanDocument (room : Room) (arguments : RunArguments) (config : Config)
    (logFile : Option Path) (files : FileSystem) (document : Document) : Response :=
  match cleanup document config with
  | .error error => .failed files (.registry error)
  | .ok run =>
    match Pipeline.interrupted? room config.failFast (Pass.selected config) document with
    | none => writeRun room arguments config logFile files run
    | some interrupted =>
      let events := eventsFrom config.logLevel interrupted.events
      match writeLog files logFile events with
      | .error error => .failed files (.logging error) events
      | .ok files =>
        .failed files (.interrupted (Path.parse arguments.input) interrupted.cause) events

/-- Clean up one file into another, at a time. -/
def runCleanup (room : Room) (arguments : RunArguments) (time : String) (files : FileSystem) :
    Response :=
  match configOf room arguments files with
  | .error halt => .failed files (.ofHalt .config halt)
  | .ok config =>
    match openLog arguments time files with
    | .error mishap => .failed mishap.files (.logging mishap.error)
    | .ok (logFile, files) =>
      let input := Path.parse arguments.input
      match files.importDocumentWithin room.reading input with
      | .error halt => .failed files (.ofHalt (.importing input) halt)
      | .ok document => cleanDocument room arguments config logFile files document

/-- What is printed on a request for help. -/
def helpLines : List String :=
  ["Usage: operand-cleanup run [OPTIONS] INPUT_PATH OUTPUT_PATH",
    "       operand-cleanup list-transforms", "", "Options of run:",
    "  --config FILE      JSON config file",
    "  --only NAME        Run only this transform (repeatable)",
    "  --skip NAME        Skip this transform (repeatable)",
    "  --fail-fast        Stop at the first failing transform",
    "  --log-level LEVEL  Log level (DEBUG, INFO, ...)",
    "  --log-file FILE    Also write logs to this file",
    "  --json             Print the run summary as JSON and serialize log records"]

/-- The paths that arguments name at a time, each of which a command may read or write. -/
def pathsOf (arguments : RunArguments) (time : String) : List Path :=
  let logFile := arguments.logFile.bind fun pattern =>
    (LogPattern.expanded time (Path.parse pattern).text).toOption
  (arguments.paths ++ logFile.toList).map Path.parse

/-- Do what the arguments ask for, at a time. -/
def execute (room : Room) (arguments : List String) (time : String) (files : FileSystem) :
    Response :=
  match Invocation.ofArguments arguments with
  | .usageError => .failed files .usage
  | .help => { exitCode := 0, printed := .help, files }
  | .listTransforms =>
    { exitCode := 0
      printed := .lines (Report.registryLines Report.standardWidth .default)
      files }
  | .run arguments => runCleanup room arguments time files

end CommandLine

end OperandCleanup
