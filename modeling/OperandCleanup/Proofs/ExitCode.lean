import OperandCleanup.CommandLine.Run
import OperandCleanup.Proofs.Accounting
import OperandCleanup.Proofs.FileFrames
import OperandCleanup.Proofs.Markup

/-!
# What the exit code of a cleanup says

A cleanup whose log file, if it has one, can be opened ends with zero or one when the output holds
the cleaned document, and with two when nothing was written to the output; one says that a transform
reported an error. Writing to the log file and showing the run cannot fail any more then. A log file
that cannot be opened ends the command with one as well, though nothing was written, and so does a
stack without room for what is read or copied: those failures are not told from a run with errors.
-/

namespace OperandCleanup

/-! ## Documents in bytes -/

namespace CommandLine

variable {room : Room} {arguments : RunArguments} {time : String} {files opened : FileSystem}
  {logFile : Option Path} {place : Place}

/-! ## The log file -/

/-- What interrupts the cleanup of a document, if its names are all known and something does. -/
def interruption? (room : Room) (config : Config) (document : Document) : Option Interruption :=
  match cleanup document config with
  | .error _ => none
  | .ok _ =>
    (Pipeline.interrupted? room config.failFast (Pass.selected config) document).map (·.cause)

/-- Whether the stack has no room for what a cleanup reads or copies before it writes. -/
inductive Exhausts (room : Room) (arguments : RunArguments) (time : String)
    (files : FileSystem) : Prop where
  | config {bracket : Json.Bracket}
    (h : configOf room arguments files = .error (.exhausted bracket))
  | input {config : Config} {logFile : Option Path} {opened : FileSystem} {bracket : Json.Bracket}
    (hconfig : configOf room arguments files = .ok config)
    (hopened : openLog arguments time files = .ok (logFile, opened))
    (h : opened.importDocumentWithin room.reading (Path.parse arguments.input) =
      .error (.exhausted bracket))
  | copy {config : Config} {logFile : Option Path} {opened : FileSystem} {document : Document}
    (hconfig : configOf room arguments files = .ok config)
    (hopened : openLog arguments time files = .ok (logFile, opened))
    (hdocument : opened.importDocumentWithin room.reading (Path.parse arguments.input) =
      .ok document)
    (h : interruption? room config document = some .copying)

end CommandLine

end OperandCleanup
