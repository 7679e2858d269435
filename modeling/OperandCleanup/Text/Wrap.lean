import OperandCleanup.Text.Blank
import OperandCleanup.Text.Width

/-!
# Wrapping

A line that is wider than its room is divided between words. A word that is wider than the room by
itself is folded at the room's end, or else stands on a line of its own to be cut there.
-/

namespace OperandCleanup.Text

/-- The words of a line after a word whose characters so far are given in reverse, and of which
something that is no blank may have been read. -/
def blankEndedWordsAfter : List Char → Bool → List Char → List (List Char)
  | word, begun, [] => if begun then [word.reverse] else []
  | word, begun, c :: rest =>
    if begun && !isBlank c && word.head?.any isBlank then
      word.reverse :: blankEndedWordsAfter [c] true rest
    else blankEndedWordsAfter (c :: word) (begun || !isBlank c) rest

/-- The words of a line, each with the blanks after it and the first with those before it. There
are none in a line of blanks. -/
def blankEndedWords (cs : List Char) : List (List Char) := blankEndedWordsAfter [] false cs

/-- Glyphs cut into lines that fit into a room, after a line so far and its width. -/
def foldedAfter (room : Nat) : List Char → Nat → List Glyph → List (List Char)
  | line, width, [] => if width = 0 then [] else [line]
  | line, width, glyph :: rest =>
    if room < width + glyph.width then line :: foldedAfter room glyph.chars glyph.width rest
    else foldedAfter room (line ++ glyph.chars) (width + glyph.width) rest

/-- A word folded into lines that fit into a room. -/
def folded (room : Nat) (cs : List Char) : List (List Char) := foldedAfter room [] 0 (glyphs cs)

/-- A line that ends, if there is anything on it. -/
def endedLine (line : List Char) : List (List Char) := if line.isEmpty then [] else [line]

/-- Words set on lines, after a line so far and its width. The blanks at the end of a word need no
room, but take it from the next. -/
def filledAfter (fold : Bool) (room : Nat) : List Char → Nat → List (List Char) →
    List (List Char)
  | line, _, [] => [line]
  | line, width, word :: rest =>
    let needed := rowWidth (trimmedRight word)
    if width + needed ≤ room then
      filledAfter fold room (line ++ word) (width + rowWidth word) rest
    else if fold && room < needed then
      let parts := folded room word
      let last := parts.getLast?.getD []
      endedLine line ++ parts.dropLast ++ filledAfter fold room last (rowWidth last) rest
    else endedLine line ++ filledAfter fold room word (rowWidth word) rest

/-- A line without the blanks at its end that stand beyond a number of characters. -/
def withoutOverhang (room : Nat) (line : List Char) : List Char :=
  let blanks := line.length - (trimmedRight line).length
  line.take (line.length - min blanks (line.length - room))

/-- A line divided into lines for a room. -/
def divided (fold : Bool) (room : Nat) (line : List Char) : List (List Char) :=
  let lines := match blankEndedWords line with
    | [] => [line]
    | words => filledAfter fold room [] 0 words
  lines.map (withoutOverhang room)

/-- The glyphs of a row that fit into a room. Half a glyph becomes a blank. -/
def fitting : Nat → List Glyph → List Char
  | _, [] => []
  | room, glyph :: rest =>
    if room = 0 then []
    else if glyph.width ≤ room then glyph.chars ++ fitting (room - glyph.width) rest
    else [' ']

/-- A row cut to a room, the cut marked by a character if one is given. -/
def cut (mark : List Char) (room : Nat) (cs : List Char) : List Char :=
  if rowWidth cs ≤ room then cs else fitting (room - mark.length) (glyphs cs) ++ mark

end OperandCleanup.Text
