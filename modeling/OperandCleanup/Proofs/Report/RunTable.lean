import OperandCleanup.Proofs.ErrorTexts
import OperandCleanup.Proofs.Report.LastError
import OperandCleanup.Proofs.Report.Table

/-!
# The table of a run and its summary

A run is told twice: in a table for people, with a note and the last error under it, and in a
summary for programs. The table is made from the entries of the run, by way of markup and the widths
of a console, and the summary is a value. On a console that is wide enough both tell the same: what
is read between the strokes of the table is what the summary gives for each stage, the note stands
there if the run stopped early, and there is a line for the last error if there was one. That line
is the text in the summary only as far as escaped text is printed as it is.
-/

namespace OperandCleanup

/-- Whether the account of a stage is shown as it is: its name can stand in a cell, it begins no tag
and has no colons, and the account has its members in their usual form. -/
structure StageEntry.IsPlain (entry : StageEntry) : Prop where
  cell : Report.IsCell entry.stage
  unmarked : '[' ∉ entry.stage.toList ∧ ':' ∉ entry.stage.toList
  covers : entry.covers = []

namespace Report

/-! ## What is said -/

/-- Whether cells are those that a JSON value gives for a stage: its name, the number of records
that it left, after the number before where the two differ, the number of records that it changed,
the number of its errors, and whether it failed, which is whether there are any. -/
def RowTellsOf (cells : List String) (value : Json) : Prop :=
  ∃ (members : Json.Members) (stage : String) (before after modified : Int) (errors : List Json),
    value = .object members ∧ members.get? "stage" = some (.string stage) ∧
      members.get? "records_before" = some (.int before) ∧
      members.get? "records_after" = some (.int after) ∧
      members.get? "records_modified" = some (.int modified) ∧
      members.get? "errors" = some (.array errors) ∧
      cells = [stage,
        if after = before then toString after else toString before ++ " -> " ++ toString after,
        toString modified, toString errors.length, if errors = [] then "OK" else "FAIL"]

/-- Whether lines show the last error that a JSON value gives. For null there are none, and for a
text there are some. Unless a name in the text stands for a pictograph, there is one line, and that
is a title and the text, character for character, exactly if the text prints as it is. -/
def LastLinesTellOf (lines : List String) : Json → Prop
  | .null => lines = []
  | .string text =>
    lines ≠ [] ∧ (Markup.NamesNoPictograph (Markup.shownOfEscaped text.toList) →
      ∃ line, lines = [line] ∧ (line = "Last error: " ++ text ↔ PrintsAsIs text.toList))
  | _ => False

/-- The width of a console on which no line of a run is divided. -/
def roomFor (run : Run) : Nat :=
  match stageRows run.stages, runMessages run with
  | .ok rows, .ok messages => (messages.map messageRoom).foldl max (stageTable rows).frameWidth
  | _, _ => 0

/-! ## Cells -/

theorem toList_toString (value : Int) : (toString value).toList = Json.writtenInt value := by
  rw [← Json.text_int]
  exact String.toList_ofList

/-- An integer has no blanks, and nothing that markup reads in another way. -/
theorem not_isBlank_of_mem_toString {value : Int} :
    ∀ c ∈ (toString value).toList, Text.isBlank c = false ∧ c ≠ '[' ∧ c ≠ ':' := by
  rw [toList_toString]
  refine Json.forall_mem_writtenInt (fun c hc => ?_) (by decide)
  refine ⟨?_, by rintro rfl; exact absurd hc (by decide),
    by rintro rfl; exact absurd hc (by decide)⟩
  simp only [Char.isDigit, Bool.and_eq_true, decide_eq_true_eq, ge_iff_le, UInt32.le_iff_toNat_le]
    at hc
  have hlow : 48 ≤ c.toNat := hc.1
  have hhigh : c.toNat ≤ 57 := hc.2
  simp only [Text.isBlank, Bool.or_eq_false_iff, Bool.and_eq_false_iff, decide_eq_false_iff_not,
    beq_eq_false_iff_ne]
  omega

theorem isCell_toString (value : Int) : IsCell (toString value) := by
  refine ⟨?_, Text.isTrimmed_of_forall fun c hc => (not_isBlank_of_mem_toString c hc).1⟩
  rw [toList_toString]
  exact Json.isPlain_of_mem_writtenInt

theorem toString_ne_empty (value : Int) : (toString value).toList ≠ [] := by
  rw [toList_toString, Json.writtenInt]
  split
  · exact List.cons_ne_nil _ _
  · exact Nat.toDigits_ne_nil

theorem isCell_recordsCell (entry : StageEntry) : IsCell (recordsCell entry) := by
  have hbefore := isCell_toString entry.recordsBefore
  have hafter := isCell_toString entry.recordsAfter
  rw [recordsCell]
  split
  · exact hafter
  · refine ⟨?_, ?_⟩ <;> rw [String.toList_append, String.toList_append]
    · exact List.forall_mem_append.mpr ⟨List.forall_mem_append.mpr
        ⟨hbefore.plain, Json.isPlain_of_all rfl⟩, hafter.plain⟩
    · exact hbefore.trimmed.append hafter.trimmed (toString_ne_empty entry.recordsBefore)
        (toString_ne_empty entry.recordsAfter) " -> ".toList

/-- A text without brackets and colons is shown as it is. -/
theorem shownText_eq_self {s : String} (h : '[' ∉ s.toList ∧ ':' ∉ s.toList) :
    shownText s = .ok s := by
  have hcount : s.toList.count ':' ≤ 1 := by rw [List.count_eq_zero.mpr h.2]; exact Nat.zero_le 1
  rw [shownText, Markup.shown_of_not_mem h.1 (Markup.namesNoPictograph_of_count hcount)]
  exact congrArg Except.ok String.ofList_toList

end Report

namespace StageEntry.IsPlain

variable {entry : StageEntry} (h : entry.IsPlain)
include h

theorem text_modifiedValue : entry.modifiedValue.text = toString entry.modified := by
  rw [modifiedValue, h.covers, ← Json.text_int]
  rfl

theorem unmarked_modified :
    '[' ∉ entry.modifiedValue.text.toList ∧ ':' ∉ entry.modifiedValue.text.toList := by
  rw [h.text_modifiedValue]
  exact ⟨fun hmem => (Report.not_isBlank_of_mem_toString _ hmem).2.1 rfl,
    fun hmem => (Report.not_isBlank_of_mem_toString _ hmem).2.2 rfl⟩

/-- The row of an account that is shown as it is. -/
theorem isCell_of_mem_row :
    ∀ cell ∈ Report.stageRow entry.stage entry.modifiedValue.text entry, Report.IsCell cell := by
  have hstatus : Report.IsCell (if entry.errors.isEmpty then "OK" else "FAIL") := by
    split <;> exact ⟨Json.isPlain_of_all rfl, by decide⟩
  simp only [Report.stageRow, List.forall_mem_cons]
  exact ⟨h.cell, Report.isCell_recordsCell entry,
    by rw [h.text_modifiedValue]; exact Report.isCell_toString entry.modified,
    Report.isCell_toString entry.errors.length, hstatus, List.forall_mem_nil _⟩

/-- The row of an account tells of what the summary gives for the stage. -/
theorem rowTellsOf :
    Report.RowTellsOf (Report.stageRow entry.stage entry.modifiedValue.text entry)
      entry.toJson := by
  have hmembers : entry.toMembers =
      [("stage", .string entry.stage), ("records_before", .int entry.recordsBefore),
        ("records_after", .int entry.recordsAfter), ("records_modified", .int entry.modified),
        ("errors", .array (entry.errors.map .string))] := by
    rw [StageEntry.toMembers, h.covers]
    rfl
  have hrecords : Report.recordsCell entry =
      if (entry.recordsAfter : Int) = entry.recordsBefore then toString (entry.recordsAfter : Int)
      else toString (entry.recordsBefore : Int) ++ " -> " ++
        toString (entry.recordsAfter : Int) := by
    simp only [Report.recordsCell, Int.ofNat_inj]
    rfl
  have hstatus : (if entry.errors.isEmpty then "OK" else "FAIL") =
      if entry.errors.map Json.string = [] then "OK" else "FAIL" := by
    cases entry.errors <;> rfl
  refine ⟨entry.toMembers, entry.stage, entry.recordsBefore, entry.recordsAfter, entry.modified,
    entry.errors.map .string, rfl, ?_⟩
  rw [hmembers, Report.stageRow, h.text_modifiedValue, hrecords, hstatus, List.length_map]
  exact ⟨rfl, rfl, rfl, rfl, rfl, rfl⟩

end StageEntry.IsPlain

namespace Report

/-! ## The table -/

/-- A function that has a result for every item of a list has results for the list. -/
theorem mapM_eq_ok {ε α β : Type} {f : α → Except ε β} {g : α → β} {items : List α}
    (h : ∀ item ∈ items, f item = .ok (g item)) : items.mapM f = .ok (items.map g) := by
  induction items with
  | nil => rfl
  | cons item rest ih =>
    obtain ⟨hitem, hrest⟩ := List.forall_mem_cons.mp h
    rw [List.mapM_cons, hitem, ih hrest]
    rfl

theorem isCell_title : IsCell (stageTable []).title :=
  ⟨Json.isPlain_of_all rfl, by decide⟩

theorem isCell_header : ∀ column ∈ (stageTable []).columns, IsCell column.header := by
  have hheaders : ∀ column ∈ (stageTable []).columns,
      (column.header.toList.all fun c => decide (Json.IsPlain c)) = true ∧
        Text.IsTrimmed column.header.toList := by decide
  exact fun column hcolumn =>
    ⟨Json.isPlain_of_all (hheaders column hcolumn).1, (hheaders column hcolumn).2⟩

/-- A bound of the widest is a bound of all. -/
theorem le_of_foldl_max_le {widths : List Nat} {first bound : Nat}
    (h : widths.foldl max first ≤ bound) : first ≤ bound ∧ ∀ width ∈ widths, width ≤ bound := by
  induction widths generalizing first with
  | nil => exact ⟨h, List.forall_mem_nil _⟩
  | cons width rest ih =>
    obtain ⟨hfirst, hrest⟩ := ih h
    exact ⟨(Nat.le_max_left _ _).trans hfirst,
      List.forall_mem_cons.mpr ⟨(Nat.le_max_right _ _).trans hfirst, hrest⟩⟩

/-- The messages of a run with a last error: the note if the run stopped early, and its line. -/
theorem runMessages_of_lastError {run : Run} {error : DataError} {line : String}
    (herror : run.lastError? = some error) (hline : lastErrorLine error = .ok line) :
    runMessages run = .ok ((if run.stoppedEarly then [failFastNote] else []) ++ [line]) := by
  rw [runMessages, herror]
  exact bind_eq_ok_iff.mpr ⟨line, hline, rfl⟩

/-- The note is read as it is where it has its room. -/
theorem readAgain_failFastNote {console : Nat} (hroom : messageRoom failFastNote ≤ console) :
    readAgain (Fitting.message.lines false console failFastNote) = [failFastNote] := by
  have hplain : ∀ c ∈ failFastNote.toList, Json.IsPlain c := Json.isPlain_of_all rfl
  rw [readAgain_message (Text.isOneLine_of_isPlain hplain) hroom,
    printedLine_eq_self fun c hc => (hplain c hc).isPrinted,
    Text.trimmedRight_eq_self (by decide : Text.IsTrimmed failFastNote.toList).last,
    String.ofList_toList]

/-- The row of an account that is shown as it is. -/
def plainRow (entry : StageEntry) : List String :=
  stageRow entry.stage entry.modifiedValue.text entry

variable {run : Run} (h : ∀ entry ∈ run.stages, entry.IsPlain)
include h

theorem stageRows_eq : stageRows run.stages = .ok (run.stages.map plainRow) := by
  have hnames : run.stages.mapM (fun entry => shownText entry.stage) =
      .ok (run.stages.map (·.stage)) :=
    mapM_eq_ok fun entry hentry => shownText_eq_self (h entry hentry).unmarked
  have hmodified : run.stages.mapM (fun entry => shownText entry.modifiedValue.text) =
      .ok (run.stages.map (·.modifiedValue.text)) :=
    mapM_eq_ok fun entry hentry => shownText_eq_self (h entry hentry).unmarked_modified
  rw [stageRows, hnames, hmodified]
  refine congrArg Except.ok ?_
  induction run.stages with
  | nil => rfl
  | cons entry rest ih => exact congrArg (List.cons _) ih

theorem isPlain_stageTable : (stageTable (run.stages.map plainRow)).IsPlain where
  title := isCell_title
  columns := List.cons_ne_nil _ _
  headers := isCell_header
  lengths := List.forall_mem_map.mpr fun _ _ => rfl
  cells := List.forall_mem_map.mpr fun entry hentry => (h entry hentry).isCell_of_mem_row

/-- On a console that has the room for a run, the table and every message has its room. -/
theorem le_of_roomFor_le {messages : List String} (hmessages : runMessages run = .ok messages)
    {console : Nat} (hroom : roomFor run ≤ console) :
    (stageTable (run.stages.map plainRow)).frameWidth ≤ console ∧
      ∀ message ∈ messages, messageRoom message ≤ console := by
  rw [roomFor, stageRows_eq h, hmessages] at hroom
  obtain ⟨htable, hrest⟩ := le_of_foldl_max_le hroom
  exact ⟨htable, List.forall_mem_map.mp hrest⟩

/-- What is read of a run on a console that has the room for it: the table with a row for each
stage, the note if the run stopped early, and what is read of the other messages. -/
theorem exists_runLines_eq {last : List String}
    (hmessages : runMessages run =
      .ok ((if run.stoppedEarly then [failFastNote] else []) ++ last))
    {console : Nat} (hroom : roomFor run ≤ console) :
    ∃ title top header heading bottom rows,
      runLines console run = .ok (title :: ([top, header, heading] ++ rows ++ [bottom]) ++
        (if run.stoppedEarly then [failFastNote] else []) ++
          readAgain (last.flatMap (Fitting.message.lines false console))) ∧
      rows.map Table.cellsOf = run.stages.map plainRow ∧
      ∀ line ∈ [top, header, heading] ++ rows ++ [bottom],
        Text.width line = (stageTable (run.stages.map plainRow)).frameWidth := by
  obtain ⟨htable, hlines⟩ := le_of_roomFor_le h hmessages hroom
  obtain ⟨title, top, header, heading, bottom, rows, hread, hrows, hwidths⟩ :=
    (isPlain_stageTable h).readAgain_lines htable
  have hnote : readAgain ((if run.stoppedEarly then [failFastNote] else []).flatMap
      (Fitting.message.lines false console)) =
        if run.stoppedEarly then [failFastNote] else [] := by
    split at hlines
    case isTrue hstopped =>
      rw [if_pos hstopped, List.flatMap_singleton]
      exact readAgain_failFastNote (hlines _ List.mem_cons_self)
    case isFalse hstopped =>
      rw [if_neg hstopped]
      rfl
  refine ⟨title, top, header, heading, bottom, rows, ?_, hrows, hwidths⟩
  rw [runLines, stageRows_eq h, hmessages]
  refine congrArg Except.ok ?_
  rw [List.flatMap_append, readAgain_append, readAgain_append, hread, hnote]
  exact (List.append_assoc _ _ _).symm

end Report

/-! ## Cleanups -/

/-- The accounts of the passes of the library are shown as they are. -/
theorem Pass.isPlain_entry {pass : Pass} (h : pass ∈ standard) (document : Document) :
    (pass.stage.entry document (pass.apply document)).IsPlain := by
  have hnames : ∀ pass ∈ standard,
      (pass.name.toList.all fun c => decide (Json.IsPlain c)) = true ∧
        Text.IsTrimmed pass.name.toList ∧ '[' ∉ pass.name.toList ∧ ':' ∉ pass.name.toList := by
    decide
  obtain ⟨hplain, htrimmed, hunmarked⟩ := hnames pass h
  exact ⟨⟨Json.isPlain_of_all hplain, htrimmed⟩, hunmarked, rfl⟩

/-- The accounts of the stages of a cleanup are shown as they are. -/
theorem Pass.isPlain_of_cleanup {document : Document} {config : Config} {run : Run}
    (h : cleanup document config = .ok run) : ∀ entry ∈ run.stages, entry.IsPlain := by
  obtain rfl := eq_run_of_cleanup h
  intro entry hentry
  obtain ⟨pass, hpass, before, rfl⟩ := Pipeline.exists_entry_of_mem_stages hentry
  exact Pass.isPlain_entry (List.mem_filter.mp hpass).1 before

namespace Report

/-- What is read of the line of the last error, if there is one, tells of what the summary gives. -/
theorem lastLinesTellOf {run : Run} (h : ∀ error ∈ run.errors, error.IsLine) {console : Nat}
    (hroom : ∀ messages, runMessages run = .ok messages →
      ∀ message ∈ messages, messageRoom message ≤ console) :
    ∃ last, runMessages run = .ok ((if run.stoppedEarly then [failFastNote] else []) ++ last) ∧
      LastLinesTellOf (readAgain (last.flatMap (Fitting.message.lines false console)))
        ((run.lastError?.map fun error => Json.string error.describe).getD .null) := by
  cases hlast : run.lastError? with
  | none =>
    refine ⟨[], ?_, rfl⟩
    rw [runMessages, hlast, List.append_nil]
    rfl
  | some error =>
    obtain ⟨line, hline⟩ := exists_lastErrorLine error
    have hmessages := runMessages_of_lastError hlast hline
    refine ⟨[line], hmessages, ?_⟩
    rw [List.flatMap_singleton]
    refine ⟨readAgain_message_ne_nil line console, fun hnames => ?_⟩
    have herror := h error (List.mem_of_getLast? hlast)
    obtain rfl := Except.ok.inj ((lastErrorLine_eq hnames).symm.trans hline)
    exact readAgain_lastError herror.oneLine herror.trimmed herror.ne_empty
      (hroom _ hmessages _ (List.mem_append_right _ List.mem_cons_self))

end Report

/-- What is read of a cleanup by a configuration, on a console that has the room for it, tells the
same as its summary. If the mnemonics and names of the document are on one line each, the lines are
those of a table with a row for each stage of the summary, in order, all of them equally wide; the
note if the run stopped early; and what tells of the last error. -/
theorem cleanup_runLines {config : Config} (h : config.KnownTo Registry.default)
    {document : Document} (hdocument : document.NamedOnOneLine) :
    ∃ (run : Run) (members : Json.Members) (stages : List Json) (stopped : Bool) (error : Json),
      cleanup document config = .ok run ∧ run.summary = .object members ∧
        members.get? "stages" = some (.array stages) ∧
        members.get? "stopped_early" = some (.bool stopped) ∧
        members.get? "last_error" = some error ∧
        ∀ console, Report.roomFor run ≤ console →
          ∃ title top header heading bottom rows last,
            Report.runLines console run =
              .ok (title :: ([top, header, heading] ++ rows ++ [bottom]) ++
                (if stopped then [Report.failFastNote] else []) ++ last) ∧
            List.Forall₂ Report.RowTellsOf (rows.map Report.Table.cellsOf) stages ∧
            (∃ width, ∀ line ∈ [top, header, heading] ++ rows ++ [bottom],
              Text.width line = width) ∧
            Report.LastLinesTellOf last error := by
  have hrun := cleanup_selected h document
  refine ⟨_, _, _, _, _, hrun, rfl, rfl, rfl, rfl, fun console hroom => ?_⟩
  have hstages := Pass.isPlain_of_cleanup hrun
  obtain ⟨last, hmessages, hlast⟩ := Report.lastLinesTellOf (isLine_of_cleanup h hdocument hrun)
    fun messages hmessages => (Report.le_of_roomFor_le hstages hmessages hroom).2
  obtain ⟨title, top, header, heading, bottom, rows, hlines, hrows, hwidths⟩ :=
    Report.exists_runLines_eq hstages hmessages hroom
  refine ⟨title, top, header, heading, bottom, rows, _, hlines, ?_, ⟨_, hwidths⟩, hlast⟩
  rw [hrows, List.forall₂_map_left_iff, List.forall₂_map_right_iff, List.forall₂_same]
  exact fun entry hentry => (hstages entry hentry).rowTellsOf

/-- A document of one record with a placeholder, under a mnemonic that may ask for no register. -/
def placeholderUnder (mnemonic : String) : Document :=
  ⟨[{ mnemonic := mnemonic, operands := [{ name := Pass.placeholder }] }]⟩

/-- The configuration that selects the pass of the placeholders. -/
def placeholdersOnly : Config := { only := ["FixRegOperands"] }

theorem knownTo_placeholdersOnly : placeholdersOnly.KnownTo Registry.default := by decide

theorem namedOnOneLine_placeholderUnder {mnemonic : String}
    (h : Text.IsOneLine mnemonic.toList) : (placeholderUnder mnemonic).NamedOnOneLine :=
  List.forall_mem_singleton.mpr ⟨h, List.forall_mem_singleton.mpr (by decide)⟩

/-- A mnemonic that looks like a tag is shown in the last line as it is. -/
theorem cleanup_runLines_tag :
    placeholdersOnly.KnownTo Registry.default ∧ (placeholderUnder "[red]").NamedOnOneLine ∧
      ∃ run, cleanup (placeholderUnder "[red]") placeholdersOnly = .ok run ∧
        ∀ console, Report.roomFor run ≤ console → ∃ lines, Report.runLines console run =
          .ok (lines ++ ["Last error: [FixRegOperands] record #0 " ++
            "Unexpected instruction mnemonic: [red]"]) := by
  have hdocument : (placeholderUnder "[red]").NamedOnOneLine :=
    namedOnOneLine_placeholderUnder (by decide)
  obtain ⟨run, members, stages, stopped, error, hrun, hsummary, -, -, herror, hread⟩ :=
    cleanup_runLines knownTo_placeholdersOnly hdocument
  obtain rfl := Except.ok.inj ((cleanup_selected knownTo_placeholdersOnly _).symm.trans hrun)
  obtain rfl := Json.object.inj hsummary
  have htext : error = .string ("[FixRegOperands] record #0 " ++
      "Unexpected instruction mnemonic: [red]") :=
    Option.some.inj (herror.symm.trans (by decide +kernel))
  refine ⟨knownTo_placeholdersOnly, hdocument, _, hrun, fun console hroom => ?_⟩
  obtain ⟨title, top, header, heading, bottom, rows, last, hlines, -, -, hlast⟩ :=
    hread console hroom
  rw [htext] at hlast
  obtain ⟨line, rfl, hline⟩ :=
    hlast.2 (Report.Markup.namesNoPictograph_of_count (by decide +kernel))
  rw [hline.mpr ⟨fun c hc => (Json.isPlain_of_all rfl c hc).isPrinted,
    Report.Markup.withoutLooseEscapes_eq_self_iff.mp (by decide +kernel), by decide +kernel⟩]
    at hlines
  exact ⟨_, hlines⟩

/-- A single backslash at the end of the last error is shown twice. -/
theorem cleanup_runLines_backslash :
    placeholdersOnly.KnownTo Registry.default ∧ (placeholderUnder "\\").NamedOnOneLine ∧
      ∃ (run : Run) (members : Json.Members) (text line : String),
        cleanup (placeholderUnder "\\") placeholdersOnly = .ok run ∧
        run.summary = .object members ∧ members.get? "last_error" = some (.string text) ∧
        (∀ console, Report.roomFor run ≤ console →
          ∃ lines, Report.runLines console run = .ok (lines ++ [line])) ∧
        line = "Last error: " ++ text ++ "\\" ∧ line ≠ "Last error: " ++ text := by
  let text := "[FixRegOperands] record #0 Unexpected instruction mnemonic: \\"
  let run := Pipeline.run false ((Pass.selected placeholdersOnly).map Pass.stage)
    (placeholderUnder "\\")
  have hrun : cleanup (placeholderUnder "\\") placeholdersOnly = .ok run :=
    cleanup_selected knownTo_placeholdersOnly _
  have hlast : run.lastError?.map DataError.describe = some text := by decide +kernel
  obtain ⟨error, herror, hdescribe⟩ := Option.map_eq_some_iff.mp hlast
  have hnames : Report.Markup.NamesNoPictograph (Report.Markup.shownOfEscaped text.toList) :=
    Report.Markup.namesNoPictograph_of_count (by decide +kernel)
  have hline : Report.lastErrorLine error = .ok (Report.lastErrorText text) := by
    rw [← hdescribe] at hnames ⊢
    exact Report.lastErrorLine_eq hnames
  have hmessages := Report.runMessages_of_lastError herror hline
  have hone : Text.IsOneLine (Report.lastErrorText text).toList := by decide +kernel
  have hprinted : String.ofList (Text.trimmedRight
      (Report.printedLine (Report.lastErrorText text))) = Report.lastErrorText text := by
    decide +kernel
  refine ⟨knownTo_placeholdersOnly, namedOnOneLine_placeholderUnder (by decide), run, _, text,
    Report.lastErrorText text, hrun, rfl, ?_, fun console hroom => ?_, by decide +kernel,
    by decide +kernel⟩
  · change some ((run.lastError?.map fun error => Json.string error.describe).getD .null) = _
    rw [herror, Option.map_some, hdescribe, Option.getD_some]
  · have hstages := Pass.isPlain_of_cleanup hrun
    have hfits := (Report.le_of_roomFor_le hstages hmessages hroom).2 _
      (List.mem_append_right _ List.mem_cons_self)
    obtain ⟨_, _, _, _, _, _, hlines, -, -⟩ := Report.exists_runLines_eq hstages hmessages hroom
    rw [List.flatMap_singleton, Report.readAgain_message hone hfits, hprinted] at hlines
    exact ⟨_, hlines⟩

end OperandCleanup
