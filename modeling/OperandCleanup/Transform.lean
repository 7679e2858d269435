import OperandCleanup.Document.Basic
import OperandCleanup.Log
import OperandCleanup.Outcome

/-!
# Transforms

A transform changes a document and reports an outcome. Any function with that result is one; the
passes over the records are the transforms of this library.
-/

namespace OperandCleanup

/-- The result of applying a transform: the document it leaves, what it reports, and the events it
logs on the way. -/
structure Application where
  document : Document
  outcome : Outcome
  events : List Event := []
deriving Repr, Inhabited

/-- A named function that changes documents. -/
structure Transform where
  name : String
  description : String
  apply : Document → Application

end OperandCleanup
