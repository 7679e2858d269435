import OperandCleanup.Diff.Matching

/-!
# Segments of a comparison

A comparison of two texts is a sequence of segments, each of which is in both texts or says which
lines of the old text give way to which of the new one. The old sides of the segments one after the
other are the old text, the new sides the new text.
-/

namespace OperandCleanup.Diff

/-- A part of a comparison. -/
inductive Segment where
  | kept (lines : List String)
  | replaced (removed added : List String)
deriving DecidableEq, Repr, Inhabited

/-- The lines of a segment in the old text. -/
def Segment.old : Segment → List String
  | .kept lines => lines
  | .replaced removed _ => removed

/-- The lines of a segment in the new text. -/
def Segment.new : Segment → List String
  | .kept lines => lines
  | .replaced _ added => added

/-- The segments of two texts: around their longest common run, those of what stands before it in
both and of what stands after. -/
def segmentsBy (usable : String → Bool) (old new : List String) : List Segment :=
  match longestMatch usable old new with
  | ⟨oldStart, newStart, size⟩ =>
    if 0 < size ∧ oldStart < old.length then
      segmentsBy usable (old.take oldStart) (new.take newStart) ++
        .kept ((old.drop oldStart).take size) ::
          segmentsBy usable (old.drop (oldStart + size)) (new.drop (newStart + size))
    else if old.isEmpty && new.isEmpty then []
    else [.replaced old new]
termination_by old.length
decreasing_by all_goals simp only [List.length_take, List.length_drop]; omega

/-- Segments with neighbours that are kept joined to one. -/
def joinKept : List Segment → List Segment
  | .kept lines :: rest =>
    match joinKept rest with
    | .kept more :: others => .kept (lines ++ more) :: others
    | others => .kept lines :: others
  | segment :: rest => segment :: joinKept rest
  | [] => []

/-- The segments of a comparison of two texts. -/
def segments (old new : List String) : List Segment :=
  joinKept (segmentsBy (fun line => !isCommon new line) old new)

end OperandCleanup.Diff
