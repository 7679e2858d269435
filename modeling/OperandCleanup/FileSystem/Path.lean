import OperandCleanup.Text.Lines

/-!
# Paths

A path is a sequence of names. Empty names and single dots are dropped as they name no step, so
that two texts with the same steps are one path. A path from the root has the root as its first
name; a path without names is the current directory.
-/

namespace OperandCleanup

/-- A path as its names, in order. -/
structure Path where
  names : List String
deriving DecidableEq, Repr, Inhabited

namespace Path

/-- The name of the root. -/
def root : String := "/"

/-- The path that a text writes. -/
def parse (s : String) : Path :=
  let names := ((Text.pieces '/' s.toList).map String.ofList).filter fun name =>
    name != "" && name != "."
  ⟨if s.toList.head? = some '/' then root :: names else names⟩

/-- The text of a path. -/
def text (path : Path) : String :=
  match path.names with
  | [] => "."
  | first :: rest =>
    if first = root then root ++ Text.joined "/" rest else Text.joined "/" (first :: rest)

/-- The directory that a path is in. -/
def parent (path : Path) : Path := ⟨path.names.dropLast⟩

/-- A path and the directories around it, the outermost first. -/
def withAncestors (path : Path) : List Path :=
  (List.range path.names.length).map fun count => ⟨path.names.take (count + 1)⟩

/-- Whether the last name of a path has an ending. -/
def hasEnding (path : Path) (ending : String) : Bool :=
  match path.names.getLast? with
  | none => false
  | some name => name.endsWith ending

end Path

end OperandCleanup
