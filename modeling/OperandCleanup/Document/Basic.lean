import OperandCleanup.Document.Record
import OperandCleanup.Json.Equality
import OperandCleanup.Json.Printer

/-!
# Instruction-set documents

A document is a sequence of records. Its JSON value is an object with the records as its only
member; two documents are equal when those values are, and the canonical text is theirs.
-/

namespace OperandCleanup

/-- An ordered collection of instruction records. -/
structure Document where
  records : List Record := []
deriving DecidableEq, Repr, Inhabited

namespace Document

/-- The number of records. -/
def size (document : Document) : Nat := document.records.length

def append (document : Document) (records : List Record) : Document :=
  ⟨document.records ++ records⟩

/-- The records of a mnemonic, or all of them. -/
def filter (document : Document) : Option String → List Record
  | none => document.records
  | some mnemonic => document.records.filter (·.mnemonic == mnemonic)

def toJson (document : Document) : Json :=
  .object [("instructions", .array (document.records.map Record.toJson))]

/-- The canonical text of a document. -/
def text (document : Document) : String := document.toJson.canonicalText

/-- Whether two documents hold the same data. -/
def equals (document other : Document) : Bool := document.toJson.equals other.toJson

end Document

end OperandCleanup
