import OperandCleanup.Proofs.Json.Characters
import OperandCleanup.Proofs.Lines
import OperandCleanup.Proofs.Wrapping
import OperandCleanup.Report.Console

/-!
# Lines on a wide console

A text of one line that has its room on the console is printed on one line, without the characters
that printing drops and with blanks for its tabs, and read again without the blanks at its end.
Printable ASCII takes one cell a character and is printed as it is.
-/

namespace OperandCleanup

/-! ## Printable ASCII -/

namespace Json

variable {c : Char}

/-- Printable ASCII takes one cell a character. -/
theorem IsPlain.isSingle (h : IsPlain c) : Text.IsSingle c := Text.isSingle_of_ascii h

/-- Printable ASCII ends no line. -/
theorem IsPlain.endsLine_eq_false (h : IsPlain c) : Text.endsLine c = false := by
  obtain ⟨hlow, hhigh⟩ := h
  simp only [Text.endsLine, Bool.or_eq_false_iff, Bool.and_eq_false_iff, decide_eq_false_iff_not,
    beq_eq_false_iff_ne]
  omega

/-- Printable ASCII is neither widened nor dropped. -/
theorem IsPlain.isPrinted (h : IsPlain c) : c ≠ '\t' ∧ Report.isDropped c = false := by
  refine ⟨fun htab => absurd (htab ▸ h) (by decide), ?_⟩
  obtain ⟨hlow, hhigh⟩ := h
  simp only [Report.isDropped, List.contains_eq_mem, List.mem_cons, List.not_mem_nil, or_false,
    decide_eq_false_iff_not]
  omega

end Json

namespace Text

/-- Whether a text has nothing in it that ends a line. -/
def IsOneLine (cs : List Char) : Prop := ∀ c ∈ cs, endsLine c = false

instance (cs : List Char) : Decidable (IsOneLine cs) :=
  decidable_of_iff (cs.all (!endsLine ·) = true) (by simp [IsOneLine])

/-- A line feed ends a line. -/
theorem IsOneLine.not_mem {cs : List Char} (h : IsOneLine cs) : '\n' ∉ cs := fun hmem =>
  absurd (h '\n' hmem) (by decide)

/-- A text of one line in front of a line feed is the one line. -/
theorem IsOneLine.lineLists_append {cs : List Char} (h : IsOneLine cs) :
    lineLists (cs ++ ['\n']) = [cs] := by
  induction cs with
  | nil => rfl
  | cons c rest ih =>
    obtain ⟨hc, hrest⟩ := List.forall_mem_cons.mp h
    have hreturn : c ≠ '\r' := by
      rintro rfl
      exact absurd hc (by decide)
    rw [List.cons_append, lineLists.eq_3 c _ fun _ hcrlf _ => hreturn hcrlf, if_neg (by simp [hc]),
      ih hrest, consFirst]

/-- A text in front of a character has lines. -/
theorem lineLists_append_ne_nil (cs : List Char) (c : Char) : lineLists (cs ++ [c]) ≠ [] := by
  obtain ⟨first, rest, hcons⟩ := List.exists_cons_of_ne_nil (List.concat_ne_nil c cs)
  rw [hcons, lineLists.eq_def]
  split
  case h_1 hnil => cases hnil
  case h_2 => exact List.cons_ne_nil _ _
  case h_3 =>
    split
    · exact List.cons_ne_nil _ _
    · unfold consFirst
      split <;> exact List.cons_ne_nil _ _

end Text

namespace Report

/-- Lines that are printed are read again one by one, without the blanks at their ends. -/
theorem readAgain_eq_map_trimEnd {printed : List String}
    (h : ∀ line ∈ printed, Text.IsOneLine line.toList) :
    readAgain printed = printed.map Text.trimEnd := by
  have hline : ∀ line ∈ printed, (Text.lines (line ++ "\n")).map Text.trimEnd =
      [Text.trimEnd line] := by
    intro line hmem
    have hlists := (h line hmem).lineLists_append
    rw [Text.lines, String.toList_append, show "\n".toList = ['\n'] from rfl, hlists,
      List.map_singleton, String.ofList_toList, List.map_singleton]
  rw [readAgain, List.flatMap_congr hline, ← List.map_eq_flatMap]

/-- Lines that are printed behind others are read behind them. -/
theorem readAgain_append (first second : List String) :
    readAgain (first ++ second) = readAgain first ++ readAgain second := List.flatMap_append

/-! ## Tabs -/

theorem not_mem_tabbedFrom {column : Nat} {parts : List (List Char)}
    (h : ∀ part ∈ parts, '\t' ∉ part) : '\t' ∉ tabbedFrom column parts := by
  induction parts generalizing column with
  | nil => exact List.not_mem_nil
  | cons part rest ih =>
    obtain ⟨hpart, hrest⟩ := List.forall_mem_cons.mp h
    cases rest with
    | nil => exact hpart
    | cons next others =>
      simp only [tabbedFrom, List.mem_append, List.mem_replicate, not_or]
      exact ⟨⟨hpart, by simp⟩, ih hrest⟩

/-- There are no tabs where they have been widened. -/
theorem not_mem_withoutTabs (line : List Char) : '\t' ∉ withoutTabs line :=
  not_mem_tabbedFrom fun _ => Text.not_mem_of_mem_pieces _

theorem forall_mem_tabbedFrom {p : Char → Prop} (hblank : p ' ') {column : Nat}
    {parts : List (List Char)} (h : ∀ part ∈ parts, ∀ c ∈ part, p c) :
    ∀ c ∈ tabbedFrom column parts, p c := by
  induction parts generalizing column with
  | nil => exact List.forall_mem_nil _
  | cons part rest ih =>
    obtain ⟨hpart, hrest⟩ := List.forall_mem_cons.mp h
    cases rest with
    | nil => exact hpart
    | cons next others =>
      rw [tabbedFrom.eq_3 _ _ _ (List.cons_ne_nil next others), List.forall_mem_append,
        List.forall_mem_append]
      refine ⟨⟨hpart, fun c hc => ?_⟩, ih hrest⟩
      rw [List.eq_of_mem_replicate hc]
      exact hblank

/-! ## Messages -/

/-- What is printed of a text of one line. -/
def printedLine (s : String) : List Char := withoutTabs (printable s)

/-- The room that a text of one line needs to stay one line. -/
def messageRoom (s : String) : Nat := Text.lineRoom (printedLine s)

/-- What is printed of a text of one line is on one line. -/
theorem isOneLine_printedLine {s : String} (h : Text.IsOneLine s.toList) :
    Text.IsOneLine (printedLine s) :=
  forall_mem_tabbedFrom (by decide) <| Text.forall_mem_pieces fun c hc =>
    h c (List.mem_of_mem_filter hc)

/-- What is printed has no tabs, and nothing that printing drops. -/
theorem not_isDropped_of_mem_printedLine {s : String} :
    ∀ c ∈ printedLine s, c ≠ '\t' ∧ isDropped c = false := by
  have hkept : ∀ c ∈ printable s, isDropped c = false := fun c hc => by
    simpa using List.of_mem_filter hc
  refine fun c hc => ⟨fun htab => not_mem_withoutTabs _ (htab ▸ hc), ?_⟩
  exact forall_mem_tabbedFrom (by decide) (Text.forall_mem_pieces hkept) c hc

/-- Without tabs, and without characters that printing drops, a text is printed as it is. -/
theorem printedLine_eq_self {s : String} (h : ∀ c ∈ s.toList, c ≠ '\t' ∧ isDropped c = false) :
    printedLine s = s.toList := by
  have hprintable : printable s = s.toList :=
    List.filter_eq_self.mpr fun c hc => by simp [(h c hc).2]
  rw [printedLine, hprintable]
  exact withoutTabs_eq_self fun htab => (h _ htab).1 rfl

/-- A text of one line that has its room is printed on one line, and nothing of it is cut off. -/
theorem Fitting.lines_of_le (fitting : Fitting) (toRight : Bool) {room : Nat} {s : String}
    (h : Text.IsOneLine s.toList) (hroom : messageRoom s ≤ room) :
    fitting.lines toRight room s =
      [String.ofList (if toRight then Text.trimmedRight (Text.withoutOverhang room (printedLine s))
        else Text.withoutOverhang room (printedLine s))] := by
  have hfeed : '\n' ∉ printable s := fun hmem => h.not_mem (List.mem_of_mem_filter hmem)
  have hdivided : Text.divided fitting.fold room (withoutTabs (printable s)) =
      [Text.withoutOverhang room (printedLine s)] := Text.divided_of_le fitting.fold hroom
  have hstart := Text.withoutOverhang_isPrefix room (printedLine s)
  have hcut : ∀ cs, cs <+: printedLine s → Text.cut fitting.mark room cs = cs := fun cs hcs =>
    Text.cut_eq_self _
      ((Text.rowWidth_le_of_isPrefix hcs).trans ((Nat.le_max_left _ _).trans hroom))
  rw [lines, Text.pieces_eq_singleton hfeed, List.flatMap_singleton, hdivided, List.map_singleton]
  split
  · rw [hcut _ ((Text.trimmedRight_isPrefix _).trans hstart)]
  · rw [hcut _ hstart]

/-- A text of one line that has its room is read again as it is printed, but for the blanks at its
end. -/
theorem readAgain_message {s : String} {console : Nat} (h : Text.IsOneLine s.toList)
    (hroom : messageRoom s ≤ console) :
    readAgain (Fitting.message.lines false console s) =
      [String.ofList (Text.trimmedRight (printedLine s))] := by
  rw [Fitting.lines_of_le Fitting.message false h hroom, if_neg Bool.false_ne_true]
  have hline : Text.IsOneLine (Text.withoutOverhang console (printedLine s)) := fun c hc =>
    isOneLine_printedLine h c ((Text.withoutOverhang_isPrefix console _).subset hc)
  rw [readAgain_eq_map_trimEnd (by simpa using hline), List.map_singleton, Text.trimEnd,
    String.toList_ofList, Text.trimmedRight_withoutOverhang]

/-- Whatever a text is, there is something to be read of it. -/
theorem readAgain_message_ne_nil (s : String) (console : Nat) :
    readAgain (Fitting.message.lines false console s) ≠ [] := by
  obtain ⟨piece, pieces, hpieces⟩ :=
    List.exists_cons_of_ne_nil (Text.pieces_ne_nil '\n' (printable s))
  obtain ⟨line, lines, hlines⟩ := List.exists_cons_of_ne_nil
    (Text.divided_ne_nil Fitting.message.fold console (withoutTabs piece))
  have hread (line : String) : (Text.lines (line ++ "\n")).map Text.trimEnd ≠ [] := by
    rw [Text.lines, String.toList_append]
    simpa using Text.lineLists_append_ne_nil line.toList '\n'
  rw [Fitting.lines, hpieces, List.flatMap_cons, hlines, List.map_cons, readAgain,
    List.cons_append, List.flatMap_cons]
  exact List.append_ne_nil_of_left_ne_nil (hread _) _

/-! ## Cells -/

/-- Whether a text can stand in a cell as it is: it is printable ASCII, and neither begins nor ends
with a blank. -/
structure IsCell (s : String) : Prop where
  plain : ∀ c ∈ s.toList, Json.IsPlain c
  trimmed : Text.IsTrimmed s.toList

namespace IsCell

variable {s : String}

theorem isOneLine (h : IsCell s) : Text.IsOneLine s.toList :=
  fun c hc => (h.plain c hc).endsLine_eq_false

/-- A cell is as wide as it is long. -/
theorem width_eq_length (h : IsCell s) : Text.width s = s.toList.length :=
  Text.rowWidth_eq_length fun c hc => (h.plain c hc).isSingle

/-- A text that has its room in a cell is one line of it. -/
theorem lines_eq (h : IsCell s) (toRight : Bool) {room : Nat} (hroom : s.toList.length ≤ room) :
    Fitting.cell.lines toRight room s = [s] := by
  have hprinted : printedLine s = s.toList :=
    printedLine_eq_self fun c hc => (h.plain c hc).isPrinted
  have hneeded : messageRoom s ≤ room := by
    rw [messageRoom, hprinted]
    exact (Text.lineRoom_le_length fun c hc => (h.plain c hc).isSingle).trans hroom
  rw [Fitting.cell.lines_of_le toRight h.isOneLine hneeded, hprinted,
    Text.withoutOverhang_eq_self hroom, Text.trimmedRight_eq_self h.trimmed.last, ite_self,
    String.ofList_toList]

end IsCell

end Report

end OperandCleanup
