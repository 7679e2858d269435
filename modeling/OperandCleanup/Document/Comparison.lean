import OperandCleanup.Diff.Hunk
import OperandCleanup.Document.Basic
import OperandCleanup.Text.Lines

/-!
# Comparison of documents

Two documents are expected to be equal. Where they are not, the report is a line-by-line comparison
of their canonical texts, from the expected one to the actual one.
-/

namespace OperandCleanup.Document

/-- The lines of a comparison from the expected document to the actual one. -/
def diff (actual expected : Document) : List String :=
  Diff.unified "expected" "actual" (Text.lines expected.text) (Text.lines actual.text)

/-- The report of a difference. -/
def differenceReport (actual expected : Document) : String :=
  "Document differs from expected output:\n" ++ Text.joined "\n" (diff actual expected)

/-- A difference between documents that are expected to be equal. -/
def checkEqual (actual expected : Document) : Except String Unit :=
  if actual.equals expected then .ok () else .error (differenceReport actual expected)

end OperandCleanup.Document
