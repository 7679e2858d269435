import OperandCleanup.Proofs.Trimming
import OperandCleanup.Text.Lines
import OperandCleanup.Text.Wrap

/-!
# Lines that fit

A row is no wider than a row that goes on after it. A character of one cell that neither joins
others nor selects their pictograph is a glyph by itself, so a row of such characters is as wide as
it is long. A line whose words together fit into a room stays one line, but for blanks at its end,
and nothing of it is cut off.
-/

namespace OperandCleanup.Text

/-! ## Widths -/

theorem glyphsWidth_append (first second : List Glyph) :
    glyphsWidth (first ++ second) = glyphsWidth first + glyphsWidth second := by
  induction first with
  | nil => exact (Nat.zero_add _).symm
  | cons glyph rest ih => rw [List.cons_append, glyphsWidth, ih, glyphsWidth, Nat.add_assoc]

theorem glyphsWidth_reverse (row : List Glyph) : glyphsWidth row.reverse = glyphsWidth row := by
  induction row with
  | nil => rfl
  | cons glyph rest ih =>
    rw [List.reverse_cons, glyphsWidth_append, ih, Nat.add_comm]
    rfl

/-- Reading on takes no width away. -/
theorem glyphsWidth_le_glyphsAfter (read : List Glyph) (joined widens : Bool) (cs : List Char) :
    glyphsWidth read ≤ glyphsWidth (glyphsAfter read joined widens cs) := by
  induction cs generalizing read joined widens with
  | nil => rw [glyphsAfter, glyphsWidth_reverse]
  | cons c rest ih =>
    match read, joined with
    | [], _ => exact Nat.zero_le _
    | glyph :: read, true =>
      rw [glyphsAfter]
      exact ih (glyph.followedBy c :: read) false widens
    | glyph :: read, false =>
      rw [glyphsAfter]
      split
      · exact ih (glyph.followedBy c :: read) true widens
      · split
        · refine Nat.le_trans ?_ (ih _ _ _)
          simp only [glyphsWidth]
          omega
        · dsimp only
          split
          · exact ih (glyph.followedBy c :: read) false widens
          · exact Nat.le_trans (Nat.le_add_left _ (charWidth c))
              (ih (⟨[c], _⟩ :: glyph :: read) _ _)

/-- The glyphs of a row are no wider than those of a row that goes on after it. -/
theorem glyphsAfter_append_le (read : List Glyph) (joined widens : Bool) (cs rest : List Char) :
    glyphsWidth (glyphsAfter read joined widens cs) ≤
      glyphsWidth (glyphsAfter read joined widens (cs ++ rest)) := by
  induction cs generalizing read joined widens with
  | nil =>
    rw [glyphsAfter, glyphsWidth_reverse]
    exact glyphsWidth_le_glyphsAfter read joined widens rest
  | cons c cs ih =>
    rw [List.cons_append]
    match read, joined with
    | [], _ => exact ih _ _ _
    | glyph :: read, true => exact ih _ _ _
    | glyph :: read, false =>
      rw [glyphsAfter, glyphsAfter]
      split
      · exact ih _ _ _
      · split
        · exact ih _ _ _
        · dsimp only
          split <;> exact ih _ _ _

/-- A row is no wider than one that goes on after it. -/
theorem rowWidth_le_of_isPrefix {cs longer : List Char} (h : cs <+: longer) :
    rowWidth cs ≤ rowWidth longer := by
  obtain ⟨rest, rfl⟩ := h
  exact glyphsAfter_append_le [] false false cs rest

/-- Whether a character takes one cell, and is a glyph by itself in every row of such characters. -/
structure IsSingle (c : Char) : Prop where
  width : charWidth c = 1
  not_joiner : c ≠ joiner
  not_selector : c ≠ pictographSelector

instance : DecidablePred IsSingle := fun c =>
  decidable_of_iff (charWidth c = 1 ∧ c ≠ joiner ∧ c ≠ pictographSelector)
    ⟨fun h => ⟨h.1, h.2.1, h.2.2⟩, fun h => ⟨h.width, h.not_joiner, h.not_selector⟩⟩

theorem glyphsAfter_single {cs : List Char} (h : ∀ c ∈ cs, IsSingle c) (read : List Glyph)
    (widens : Bool) :
    glyphsAfter read false widens cs = read.reverse ++ cs.map fun c => ⟨[c], 1⟩ := by
  induction cs generalizing read widens with
  | nil => rw [glyphsAfter, List.map_nil, List.append_nil]
  | cons c rest ih =>
    obtain ⟨⟨hwidth, hjoiner, hselector⟩, hrest⟩ := List.forall_mem_cons.mp h
    cases read with
    | nil =>
      rw [glyphsAfter, hwidth, beq_eq_false_iff_ne.mpr hjoiner, ih hrest]
      rfl
    | cons glyph read =>
      rw [glyphsAfter, if_neg hjoiner, if_neg hselector, hwidth, if_neg Nat.one_ne_zero, ih hrest,
        List.map_cons, List.reverse_cons, List.append_assoc, List.singleton_append]

/-- A row of single characters is as wide as it is long. -/
theorem rowWidth_eq_length {cs : List Char} (h : ∀ c ∈ cs, IsSingle c) :
    rowWidth cs = cs.length := by
  rw [rowWidth, glyphs, glyphsAfter_single h, List.reverse_nil, List.nil_append]
  clear h
  induction cs with
  | nil => rfl
  | cons c rest ih => rw [List.map_cons, glyphsWidth, ih, List.length_cons, Nat.add_comm]

/-- Printable ASCII is single. -/
theorem isSingle_of_ascii {c : Char} (h : 0x20 ≤ c.toNat ∧ c.toNat ≤ 0x7e) : IsSingle c := by
  refine ⟨?_, ?_, ?_⟩
  · rw [charWidth, if_pos h]
  · rintro rfl
    exact absurd h (by decide)
  · rintro rfl
    exact absurd h (by decide)

/-! ## Words -/

/-- The words of a line, one after the other, are the line. -/
theorem flatten_blankEndedWordsAfter (word cs : List Char) :
    (blankEndedWordsAfter word true cs).flatten = word.reverse ++ cs := by
  induction cs generalizing word with
  | nil => simp [blankEndedWordsAfter]
  | cons c rest ih =>
    rw [blankEndedWordsAfter]
    split
    · rw [List.flatten_cons, ih, List.reverse_singleton, List.singleton_append]
    · rw [Bool.true_or, ih, List.reverse_cons, List.append_assoc, List.singleton_append]

/-- A line has no words, or its words, one after the other, are the line. -/
theorem flatten_blankEndedWords (cs : List Char) :
    blankEndedWords cs = [] ∨ (blankEndedWords cs).flatten = cs := by
  have hafter (word : List Char) : blankEndedWordsAfter word false cs = [] ∨
      (blankEndedWordsAfter word false cs).flatten = word.reverse ++ cs := by
    induction cs generalizing word with
    | nil => exact Or.inl rfl
    | cons c rest ih =>
      rw [blankEndedWordsAfter, Bool.false_and, Bool.false_and, if_neg Bool.false_ne_true,
        Bool.false_or]
      cases isBlank c with
      | true => simpa using ih (c :: word)
      | false => exact Or.inr (by simp [flatten_blankEndedWordsAfter])
  exact hafter []

/-! ## One line -/

/-- The width of rows one after the other. -/
def rowsWidth : List (List Char) → Nat
  | [] => 0
  | row :: rest => rowWidth row + rowsWidth rest

/-- The room that a line needs to stay one line: for all of it, and for its words one after the
other. -/
def lineRoom (line : List Char) : Nat := max (rowWidth line) (rowsWidth (blankEndedWords line))

/-- Words that fit together are set on one line. -/
theorem filledAfter_of_le (fold : Bool) (room : Nat) {line : List Char} {width : Nat}
    {words : List (List Char)} (h : width + rowsWidth words ≤ room) :
    filledAfter fold room line width words = [line ++ words.flatten] := by
  induction words generalizing line width with
  | nil => rw [filledAfter, List.flatten_nil, List.append_nil]
  | cons word rest ih =>
    rw [rowsWidth, ← Nat.add_assoc] at h
    have hword : rowWidth (trimmedRight word) ≤ rowWidth word :=
      rowWidth_le_of_isPrefix (trimmedRight_isPrefix word)
    rw [filledAfter, if_pos (by omega), ih h, List.flatten_cons, List.append_assoc]

/-- A line that has its room is not divided. -/
theorem divided_of_le (fold : Bool) {room : Nat} {line : List Char} (h : lineRoom line ≤ room) :
    divided fold room line = [withoutOverhang room line] := by
  have hwords : rowsWidth (blankEndedWords line) ≤ room := (Nat.le_max_right _ _).trans h
  rw [divided]
  split
  case h_1 => rfl
  case h_2 hne =>
    have hflatten := (flatten_blankEndedWords line).resolve_left hne
    rw [filledAfter_of_le fold room (by rwa [Nat.zero_add]), hflatten]
    rfl

/-- Words are set on one line at least. -/
theorem filledAfter_ne_nil (fold : Bool) (room : Nat) (line : List Char) (width : Nat)
    (words : List (List Char)) : filledAfter fold room line width words ≠ [] := by
  induction words generalizing line width with
  | nil => exact List.cons_ne_nil _ _
  | cons word rest ih =>
    rw [filledAfter]
    split
    · exact ih _ _
    · split <;> exact List.append_ne_nil_of_right_ne_nil _ (ih _ _)

theorem divided_ne_nil (fold : Bool) (room : Nat) (line : List Char) :
    divided fold room line ≠ [] := by
  rw [divided]
  split
  · exact List.cons_ne_nil _ _
  · exact mt List.map_eq_nil_iff.mp (filledAfter_ne_nil fold room [] 0 _)

/-- Only blanks stand beyond. -/
theorem withoutOverhang_isPrefix (room : Nat) (line : List Char) :
    withoutOverhang room line <+: line := List.take_prefix _ line

theorem trimmedRight_withoutOverhang (room : Nat) (line : List Char) :
    trimmedRight (withoutOverhang room line) = trimmedRight line := by
  obtain ⟨blanks, hblanks, hline⟩ := exists_trimmedRight_append line
  generalize hkept : trimmedRight line = kept at hline
  have hlength : line.length = kept.length + blanks.length := by
    rw [hline, List.length_append]
  have hcount : kept.length ≤ line.length -
      min (line.length - kept.length) (line.length - room) := by omega
  obtain ⟨more, hmore⟩ := Nat.exists_eq_add_of_le hcount
  rw [withoutOverhang, hkept, hmore, hline, List.take_length_add_append,
    trimmedRight_append_of_blank kept fun c hc => hblanks c (List.mem_of_mem_take hc),
    ← trimmedRight_append_of_blank kept hblanks, ← hline, hkept]

theorem withoutOverhang_eq_self {room : Nat} {line : List Char} (h : line.length ≤ room) :
    withoutOverhang room line = line := by
  simp [withoutOverhang, Nat.sub_eq_zero_of_le h]

theorem cut_eq_self (mark : List Char) {room : Nat} {cs : List Char} (h : rowWidth cs ≤ room) :
    cut mark room cs = cs := if_pos h

/-- Rows of single characters are as wide as they are long together. -/
theorem rowsWidth_eq_length {rows : List (List Char)} (h : ∀ c ∈ rows.flatten, IsSingle c) :
    rowsWidth rows = rows.flatten.length := by
  induction rows with
  | nil => rfl
  | cons row rest ih =>
    obtain ⟨hrow, hrest⟩ := List.forall_mem_append.mp h
    rw [rowsWidth, rowWidth_eq_length hrow, ih hrest, List.flatten_cons, List.length_append]

/-- The room of a line of single characters is its length. -/
theorem lineRoom_le_length {cs : List Char} (h : ∀ c ∈ cs, IsSingle c) :
    lineRoom cs ≤ cs.length := by
  rw [lineRoom, rowWidth_eq_length h]
  refine Nat.max_le.mpr ⟨Nat.le_refl _, ?_⟩
  rcases flatten_blankEndedWords cs with hnone | hflatten
  · rw [hnone]
    exact Nat.zero_le _
  · rw [rowsWidth_eq_length (by rwa [hflatten]), hflatten]

end OperandCleanup.Text
