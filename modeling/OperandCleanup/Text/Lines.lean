/-!
# Lines

A text is cut into lines at every line boundary of Unicode. A carriage return and a line feed in
succession are one boundary, and a boundary at the end of the text starts no further line. When a
file is read as text, each of the three common line ends becomes a line feed.
-/

namespace OperandCleanup.Text

/-- Whether a character ends a line. -/
def endsLine (c : Char) : Bool :=
  let code := c.toNat
  (10 ≤ code && code ≤ 13) || (0x1c ≤ code && code ≤ 0x1e) || code == 0x85 || code == 0x2028 ||
    code == 0x2029

/-- Put a character in front of the first line. -/
def consFirst (c : Char) : List (List Char) → List (List Char)
  | [] => [[c]]
  | line :: lines => (c :: line) :: lines

/-- The lines of a text as lists of characters. -/
def lineLists : List Char → List (List Char)
  | [] => []
  | '\r' :: '\n' :: rest => [] :: lineLists rest
  | c :: rest => if endsLine c then [] :: lineLists rest else consFirst c (lineLists rest)

/-- The lines of a text, without their ends. -/
def lines (s : String) : List String := (lineLists s.toList).map String.ofList

/-- Line feeds in place of carriage returns, alone or before a line feed. -/
def withLineFeeds : List Char → List Char
  | [] => []
  | '\r' :: '\n' :: rest => '\n' :: withLineFeeds rest
  | '\r' :: rest => '\n' :: withLineFeeds rest
  | c :: rest => c :: withLineFeeds rest

/-- The pieces of a text between the places where a character stands. There is one piece more than
there are such places. -/
def pieces (separator : Char) : List Char → List (List Char)
  | [] => [[]]
  | c :: rest =>
    if c = separator then [] :: pieces separator rest else consFirst c (pieces separator rest)

/-- A text without the character is one piece. -/
theorem pieces_eq_singleton {separator : Char} {cs : List Char} (h : separator ∉ cs) :
    pieces separator cs = [cs] := by
  induction cs with
  | nil => rfl
  | cons c rest ih =>
    simp only [List.mem_cons, not_or] at h
    simp [pieces, Ne.symm h.1, ih h.2, consFirst]

/-- Texts one after the other, a separator between each two. -/
def joined (separator : String) : List String → String
  | [] => ""
  | [s] => s
  | s :: rest => s ++ separator ++ joined separator rest

end OperandCleanup.Text
