import OperandCleanup.Document.Basic
import OperandCleanup.Json.Reader

/-!
# Loading documents

A document is an object whose records are an array of objects, or absent. That all of them are
objects is checked first; then the records are checked one by one, up to the first with issues.
-/

namespace OperandCleanup

/-- Why a value or a text is no document. -/
inductive LoadError where
  | malformedText (text : List Char) (fault : Json.Fault)
  | notAnObject
  | recordsNotAnArray
  | recordNotAnObject (index : Nat)
  | invalidRecord (issues : List Issue)
deriving Repr, Inhabited

/-- The message of an error, of which the first line where it has several. -/
def LoadError.message : LoadError → String
  | .malformedText text fault => fault.message text
  | .notAnObject => "Instruction-set document must be a JSON object"
  | .recordsNotAnArray => "'instructions' must be a JSON array"
  | .recordNotAnObject index => "Instruction record #" ++ toString index ++ " must be a JSON object"
  | .invalidRecord issues => issuesHeadline "InstructionRecord" issues

namespace Document

/-- The members of every record, the first of them at `index`. -/
def recordMembers : Nat → List Json → Except LoadError (List Json.Members)
  | _, [] => .ok []
  | index, .object members :: rest => (recordMembers (index + 1) rest).map (members :: ·)
  | index, _ :: _ => .error (.recordNotAnObject index)

/-- The records of members, up to the first with issues. -/
def recordsOf : List Json.Members → Except LoadError (List Record)
  | [] => .ok []
  | members :: rest =>
    match Record.ofMembers members with
    | .error issues => .error (.invalidRecord issues)
    | .ok record => (recordsOf rest).map (record :: ·)

/-- The document of a value. -/
def ofJson : Json → Except LoadError Document
  | .object members =>
    match (Json.Members.get? members "instructions").getD (.array []) with
    | .array items => do
      let memberLists ← recordMembers 0 items
      let records ← recordsOf memberLists
      return ⟨records⟩
    | _ => .error .recordsNotAnArray
  | _ => .error .notAnObject

/-- The document of a JSON text. -/
def parse (text : List Char) : Except LoadError Document :=
  match Json.read text with
  | .error fault => .error (.malformedText text fault)
  | .ok value => ofJson value

end Document

end OperandCleanup
