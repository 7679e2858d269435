import OperandCleanup.Diff.Segment

/-!
# Hunks of a comparison

The changes of a comparison are shown in hunks, with three lines of context before and after.
Changes with up to six lines between them share a hunk. Each hunk begins with the range of its
lines in the old text and in the new one, counted from one; an empty range names the line before.
-/

namespace OperandCleanup.Diff

/-- Which of the texts a line is in. -/
inductive Mark where
  | both
  | old
  | new
deriving DecidableEq, Repr, Inhabited

/-- What a line of a hunk begins with. -/
def Mark.symbol : Mark → String
  | .both => " "
  | .old => "-"
  | .new => "+"

/-- Lines of a comparison from a place in the old text and one in the new text on, both counted
from zero. -/
structure Hunk where
  oldStart : Nat
  newStart : Nat
  lines : List (Mark × String) := []
deriving DecidableEq, Repr, Inhabited

/-- The number of lines of context. -/
def contextSize : Nat := 3

/-- The lines of a segment with their marks. -/
def Segment.marked : Segment → List (Mark × String)
  | .kept lines => lines.map (.both, ·)
  | .replaced removed added => removed.map (.old, ·) ++ added.map (.new, ·)

namespace Hunk

/-- A hunk with a segment at its end. -/
def extend (hunk : Hunk) (segment : Segment) : Hunk :=
  { hunk with lines := hunk.lines ++ segment.marked }

/-- The lines of the hunk in the old text. -/
def oldLines (hunk : Hunk) : List String :=
  (hunk.lines.filter fun (mark, _) => mark != .new).map (·.2)

/-- The lines of the hunk in the new text. -/
def newLines (hunk : Hunk) : List String :=
  (hunk.lines.filter fun (mark, _) => mark != .old).map (·.2)

/-- Whether a line of the hunk is in one text only. -/
def hasChange (hunk : Hunk) : Bool := hunk.lines.any fun (mark, _) => mark != .both

/-- The range of so many lines from a place on. -/
def range (start count : Nat) : String :=
  if count = 1 then toString (start + 1)
  else if count = 0 then toString start ++ ",0"
  else toString (start + 1) ++ "," ++ toString count

/-- The line that a hunk begins with. -/
def header (hunk : Hunk) : String :=
  "@@ -" ++ range hunk.oldStart hunk.oldLines.length ++ " +" ++
    range hunk.newStart hunk.newLines.length ++ " @@"

/-- A hunk as text. -/
def text (hunk : Hunk) : List String :=
  hunk.header :: hunk.lines.map fun (mark, line) => mark.symbol ++ line

end Hunk

/-- The last lines of a segment that is kept, as the beginning of a hunk. `old` and `new` are the
places where the segment begins. -/
def openHunk (old new : Nat) (lines : List String) : Hunk :=
  let skipped := lines.length - contextSize
  Hunk.extend ⟨old + skipped, new + skipped, []⟩ (.kept (lines.drop skipped))

/-- The hunks of segments that begin at a place in the old text and one in the new text, the first
of them a continuation of a hunk that is begun. -/
def hunksFrom : Nat → Nat → Hunk → List Segment → List Hunk
  | _, _, hunk, [] => if hunk.hasChange then [hunk] else []
  | _, _, hunk, [.kept lines] => [hunk.extend (.kept (lines.take contextSize))]
  | old, new, hunk, .kept lines :: segment :: rest =>
    if 2 * contextSize < lines.length then
      hunk.extend (.kept (lines.take contextSize)) ::
        hunksFrom (old + lines.length) (new + lines.length) (openHunk old new lines)
          (segment :: rest)
    else
      hunksFrom (old + lines.length) (new + lines.length) (hunk.extend (.kept lines))
        (segment :: rest)
  | old, new, hunk, .replaced removed added :: rest =>
    hunksFrom (old + removed.length) (new + added.length) (hunk.extend (.replaced removed added))
      rest

/-- The hunks of a comparison. -/
def hunks : List Segment → List Hunk
  | .kept lines :: rest => hunksFrom lines.length lines.length (openHunk 0 0 lines) rest
  | segments => hunksFrom 0 0 ⟨0, 0, []⟩ segments

/-- A comparison of two texts under the headers of their names; nothing where they are equal. -/
def unified (oldName newName : String) (old new : List String) : List String :=
  match hunks (segments old new) with
  | [] => []
  | found => ["--- " ++ oldName, "+++ " ++ newName] ++ found.flatMap Hunk.text

end OperandCleanup.Diff
