import OperandCleanup.Text.Lines
import OperandCleanup.Text.Wrap

/-!
# Text on the console

The console has a width. Printing drops some controls, ends a line at every line feed, widens tabs
up to the next tab stop, and divides the lines that are wider than their room. What has been printed
is read again by lines, without the blanks at their ends.
-/

namespace OperandCleanup.Report

/-- The width of a console that has been given none. -/
def standardWidth : Nat := 400

/-- Whether printing drops a character: the bell and the controls that move back or down. -/
def isDropped (c : Char) : Bool := [7, 8, 11, 12, 13].contains c.toNat

/-- The characters of a text that are printed. -/
def printable (s : String) : List Char := s.toList.filter (!isDropped ·)

/-- The distance between two tab stops. -/
def tabSize : Nat := 8

/-- The first tab stop that is not before a column. -/
def tabStop (column : Nat) : Nat := (column + (tabSize - 1)) / tabSize * tabSize

/-- The parts of a line between its tabs, from a column on. A tab is a blank, and as many more as
lead to a tab stop. -/
def tabbedFrom : Nat → List (List Char) → List Char
  | _, [] => []
  | _, [part] => part
  | column, part :: rest =>
    let reached := column + Text.rowWidth (part ++ [' '])
    part ++ List.replicate (tabStop reached - reached + 1) ' ' ++ tabbedFrom (tabStop reached) rest

/-- A line with its tabs widened. -/
def withoutTabs (line : List Char) : List Char := tabbedFrom 0 (Text.pieces '\t' line)

/-- A line without tabs is printed as it is. -/
theorem withoutTabs_eq_self {line : List Char} (h : '\t' ∉ line) : withoutTabs line = line := by
  simp [withoutTabs, Text.pieces_eq_singleton h, tabbedFrom]

/-- How lines are made to fit. -/
structure Fitting where
  /-- Whether a word that is wider than the room is folded. -/
  fold : Bool
  /-- What marks the place where a line is cut. -/
  mark : List Char
deriving DecidableEq, Repr, Inhabited

/-- In a message, words are folded. -/
def Fitting.message : Fitting := ⟨true, []⟩

/-- In a cell, words are cut, and a mark is set. -/
def Fitting.cell : Fitting := ⟨false, ['…']⟩

/-- The lines that a text gives in a room. Those set to the right lose the blanks at their ends. -/
def Fitting.lines (fitting : Fitting) (toRight : Bool) (room : Nat) (s : String) : List String :=
  (Text.pieces '\n' (printable s)).flatMap fun line =>
    (Text.divided fitting.fold room (withoutTabs line)).map fun line =>
      String.ofList
        (Text.cut fitting.mark room (if toRight then Text.trimmedRight line else line))

/-- The lines that are read where lines have been printed. -/
def readAgain (printed : List String) : List String :=
  printed.flatMap fun line => (Text.lines (line ++ "\n")).map Text.trimEnd

end OperandCleanup.Report
