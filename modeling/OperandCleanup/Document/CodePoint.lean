import OperandCleanup.Document.Loader
import OperandCleanup.Json.CodePoint

/-!
# Documents with surrogates

A document whose text holds surrogates is one with marked texts.
-/

namespace OperandCleanup.Document

/-- The document of a JSON text of code points, its texts marked. -/
def parsePoints (codes : List CodePoint) : Except LoadError Document :=
  match Json.readPoints codes with
  | .error fault => .error (.malformedText (codes.map CodePoint.shown) fault)
  | .ok value => ofJson value

/-- The canonical text of a document with marked texts. -/
def pointText (document : Document) : String :=
  String.ofList (Json.writtenBy Json.writtenMarked 0 document.toJson.sorted)

end OperandCleanup.Document
