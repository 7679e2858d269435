import OperandCleanup.Document.Comparison
import OperandCleanup.Proofs.Diff.Patch
import OperandCleanup.Proofs.LineSafety

/-!
# The comparison of documents is a patch

The lines of a document's text have no line ends in them, so the lines of a comparison can be told
from its text. The comparison of two documents is empty where their texts are equal only, and as a
patch it makes the actual text of the expected one.
-/

namespace OperandCleanup

/-- The lines of a document's text are the text. -/
theorem Document.joined_lines_text (document : Document) :
    Text.joined "\n" (Text.lines document.text) = document.text := by
  rw [lines_text]
  exact (Text.joined_pieces '\n' document.text.toList).trans String.ofList_toList

theorem Document.newline_not_mem_line (document : Document) :
    ∀ line ∈ Text.lines document.text, '\n' ∉ line.toList := by
  rw [lines_text]
  refine List.forall_mem_map.mpr fun piece hpiece => ?_
  rw [String.toList_ofList]
  exact Text.not_mem_of_mem_pieces piece hpiece

/-- Documents with the same lines have the same text. -/
theorem Document.lines_eq_iff {document other : Document} :
    Text.lines document.text = Text.lines other.text ↔ document.text = other.text := by
  constructor
  · intro h
    rw [← document.joined_lines_text, h, other.joined_lines_text]
  · exact congrArg Text.lines

/-- The text that the text of a comparison makes of a text. -/
def Diff.patched (diff text : String) : Option String :=
  if diff = "" then some text
  else do
    let patch ← readPatch? (Text.pieces '\n' diff.toList)
    let lines ← patch.applied (Text.lines text)
    return Text.joined "\n" lines

namespace Document

/-- The comparison of two documents as one text. -/
def diffText (actual expected : Document) : String := Text.joined "\n" (diff actual expected)

/-- The lines of a comparison are the pieces of its text. -/
theorem pieces_diffText {actual expected : Document} (h : diff actual expected ≠ []) :
    Text.pieces '\n' (diffText actual expected).toList =
      (diff actual expected).map String.toList := by
  have hlines : ∀ line ∈ diff actual expected, '\n' ∉ line.toList :=
    Diff.newline_not_mem_unified (by decide) (by decide) expected.newline_not_mem_line
      actual.newline_not_mem_line
  have hpieces := congrArg (List.map String.toList) (Text.pieces_joined h hlines)
  simpa [diffText, List.map_map, Function.comp_def] using hpieces

theorem diff_eq_nil_iff {actual expected : Document} :
    diff actual expected = [] ↔ actual.text = expected.text := by
  rw [diff, Diff.unified_eq_nil_iff, lines_eq_iff, eq_comm]

/-- The text of a comparison is empty where it has no lines only: its first line is not empty. -/
theorem diffText_eq_empty_iff {actual expected : Document} :
    diffText actual expected = "" ↔ actual.text = expected.text := by
  rw [← diff_eq_nil_iff]
  constructor
  · intro hempty
    by_contra hne
    obtain ⟨hunks, hunified, -, -⟩ :=
      Diff.exists_hunks "expected" "actual" (mt Diff.unified_eq_nil_iff.mpr hne)
    have hpieces := pieces_diffText hne
    rw [hempty, diff, hunified] at hpieces
    exact absurd (List.cons.inj hpieces).2 (List.cons_ne_nil _ _).symm
  · intro hnone
    rw [diffText, hnone]
    rfl

/-- The comparison of two documents is empty where their texts are equal only. Otherwise it is a
patch, and its hunks say how the text of the actual document differs from that of the expected one.
It makes the one of the other. -/
theorem diffText_isPatch (actual expected : Document) :
    (diffText actual expected = "" ↔ actual.text = expected.text) ∧
      (diffText actual expected = "" ∨
        ∃ patch, Diff.readPatch? (Text.pieces '\n' (diffText actual expected).toList) = some patch ∧
          patch.oldName = "expected" ∧ patch.newName = "actual" ∧ patch.hunks ≠ [] ∧
          patch.Fits (Text.lines expected.text) (Text.lines actual.text)) ∧
      Diff.patched (diffText actual expected) expected.text = some actual.text := by
  refine ⟨diffText_eq_empty_iff, ?_⟩
  by_cases hempty : diffText actual expected = ""
  · refine ⟨.inl hempty, ?_⟩
    rw [Diff.patched, if_pos hempty, diffText_eq_empty_iff.mp hempty]
  · have hdiffer : Text.lines expected.text ≠ Text.lines actual.text := fun hsame =>
      hempty (diffText_eq_empty_iff.mpr (lines_eq_iff.mp hsame.symm))
    obtain ⟨patch, hread, holdName, hnewName, hhunks, hfits⟩ :=
      Diff.exists_patch "expected" "actual" hdiffer
    have hpieces : Diff.readPatch? (Text.pieces '\n' (diffText actual expected).toList) =
        some patch := by
      rwa [pieces_diffText (mt Diff.unified_eq_nil_iff.mp hdiffer)]
    refine ⟨.inr ⟨patch, hpieces, holdName, hnewName, hhunks, hfits⟩, ?_⟩
    rw [Diff.patched, if_neg hempty, hpieces, Option.bind_eq_bind, Option.bind_some,
      hfits.applied, Option.bind_eq_bind, Option.bind_some, actual.joined_lines_text]
    rfl

end Document

end OperandCleanup
