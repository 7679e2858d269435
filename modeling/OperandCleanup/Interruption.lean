import OperandCleanup.Cleanup
import OperandCleanup.FileSystem.Import

/-!
# Cleanups that the stack has no room for

A record that a pass adds is a copy, and a record is turned into a value when it is written, or
shown in the message about a corrupt one. Both go down to the innermost part of what the record
carries, so records that are nested too deeply interrupt the cleanup. How deep they may be is a
matter of the stack, and the two do not agree on it.
-/

namespace OperandCleanup

/-- What the stack has room for. -/
structure Room where
  /-- How many arrays and objects around each other can be read. -/
  reading : Nat
  /-- Whether a record can be copied. -/
  copies : Record → Bool
  /-- Whether a record can be turned into a value. -/
  writes : Record → Bool

namespace Room

/-- Whether what a record and its operands carry is nested no deeper than a limit. -/
def withinNesting (limit : Nat) (record : Record) : Bool :=
  Json.nestingMembers (record.extras ++ record.operands.flatMap (·.extras)) ≤ limit

/-- About the room that there usually is. It varies with what runs, and no general statement depends
on it. -/
def standard : Room where
  reading := 950
  copies := withinNesting 450
  writes := withinNesting 253

end Room

/-- What interrupts a cleanup. -/
inductive Interruption where
  /-- A record cannot be copied. -/
  | copying
  /-- A record cannot be turned into a value. -/
  | writing
deriving DecidableEq, Repr, Inhabited

def Interruption.message : Interruption → String
  | .copying => "maximum recursion depth exceeded"
  | .writing => "Circular reference detected (depth exceeded)"

/-- What an interrupted cleanup leaves: why it ended, and what it had logged. -/
structure Interrupted where
  cause : Interruption
  events : List Event := []
deriving Repr, Inhabited

/-- What interrupts a pass over records, the first of them at `index`. -/
def Pass.interrupted? (room : Room) (pass : Pass) : Nat → List Record → Option Interrupted
  | _, [] => none
  | index, record :: rest =>
    match pass.judge record with
    | .unchanged => pass.interrupted? room (index + 1) rest
    | .changed _ added =>
      if added.isEmpty || room.copies record then pass.interrupted? room (index + 1) rest
      else some { cause := .copying }
    | .malformed message =>
      let event := pass.errorEvent (pass.errorAt .malformedRecord index record message)
      (pass.interrupted? room (index + 1) rest).map fun interrupted =>
        { interrupted with events := event :: interrupted.events }
    | .corrupt _ => if room.writes record then none else some { cause := .writing }

/-- What interrupts a run of passes on a document. -/
def Pipeline.interrupted? (room : Room) (failFast : Bool) :
    List Pass → Document → Option Interrupted
  | [], _ => none
  | pass :: rest, document =>
    match pass.interrupted? room 0 document.records with
    | some interrupted => some interrupted
    | none =>
      let application := pass.apply document
      if failFast && !application.outcome.ok then none
      else
        let events := application.events ++ [pass.stage.summaryEvent application.outcome]
        (interrupted? room failFast rest application.document).map fun interrupted =>
          { interrupted with events := events ++ interrupted.events }

/-- Why a document is not written. -/
inductive ExportError where
  | file (error : FileError)
  /-- One of its records cannot be turned into a value. -/
  | interrupted
deriving DecidableEq, Repr, Inhabited

def ExportError.message : ExportError → String
  | .file error => error.message
  | .interrupted => Interruption.writing.message

/-- Write a document to a file, if its records can be turned into values. -/
def FileSystem.exportWithin (files : FileSystem) (room : Room) (path : Path)
    (document : Document) : Except (Mishap ExportError) FileSystem :=
  if document.records.all room.writes then
    (files.exportDocument path document).mapError (.map .file)
  else do
    let files ← (files.ensureDirectory path.parent).mapError (.map .file)
    throw ⟨.interrupted, files⟩

end OperandCleanup
