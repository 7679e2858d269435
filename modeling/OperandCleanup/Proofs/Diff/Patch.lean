import OperandCleanup.Proofs.Diff.Hunks
import OperandCleanup.Proofs.Lines
import OperandCleanup.Proofs.Number.Digits

/-!
# Comparisons are patches

A comparison is read as a patch: the names under which the texts are compared, and hunks, each with
the ranges that its header gives and the lines below it with their marks. A patch is applied by
putting the new lines of each hunk in place of the old ones in its range, where the text has those.
The comparison of two texts is a patch from the old one to the new one.
-/

namespace OperandCleanup.Diff

/-! ## Patches -/

/-- A hunk as it is read from a comparison. -/
structure PatchHunk where
  old : LineRange
  new : LineRange
  lines : List (Mark × String)

/-- A comparison as it is read. -/
structure Patch where
  oldName : String
  newName : String
  hunks : List PatchHunk

/-- The lines of a hunk that have one of some marks. -/
def PatchHunk.linesMarked (hunk : PatchHunk) (marks : List Mark) : List String :=
  (hunk.lines.filter fun entry => marks.contains entry.1).map (·.2)

/-- The text that hunks make of the lines of a text from a place on. -/
def appliedFrom : Nat → List PatchHunk → List String → Option (List String)
  | _, [], text => some text
  | place, hunk :: hunks, text =>
    let skipped := hunk.old.start - place
    if place ≤ hunk.old.start ∧
        (text.drop skipped).take hunk.old.count = hunk.linesMarked [.both, .old] then
      (appliedFrom hunk.old.stop hunks (text.drop (skipped + hunk.old.count))).map fun rest =>
        text.take skipped ++ (hunk.linesMarked [.both, .new] ++ rest)
    else none

/-- The lines that a patch makes of those of a text. -/
def Patch.applied (patch : Patch) (text : List String) : Option (List String) :=
  appliedFrom 0 patch.hunks text

/-- Whether a patch says how one text differs from another: each of its hunks has the lines of both
in its ranges, its hunks come in order and do not overlap, and the texts are the same around
them. -/
structure Patch.Fits (patch : Patch) (old new : List String) : Prop where
  oldLines : ∀ hunk ∈ patch.hunks, hunk.linesMarked [.both, .old] = hunk.old.slice old ∧
    hunk.old.stop ≤ old.length
  newLines : ∀ hunk ∈ patch.hunks, hunk.linesMarked [.both, .new] = hunk.new.slice new ∧
    hunk.new.stop ≤ new.length
  ordered : patch.hunks.Pairwise fun first second =>
    first.old.stop ≤ second.old.start ∧ first.new.stop ≤ second.new.start
  around : linesAround (patch.hunks.map (·.old)) 0 old =
    linesAround (patch.hunks.map (·.new)) 0 new
  applied : patch.applied old = some new

/-! ## Reading -/

/-- The number that decimal digits write. -/
def readNumber? (cs : List Char) : Option Nat :=
  if cs.isEmpty || !cs.all Char.isDigit then none else some (Nat.ofDigitChars 10 cs 0)

/-- The range that is written: the number of its first line, counted from one, and behind a comma
the number of its lines, unless there is one only. A range without lines names the line before. -/
def readRange? (cs : List Char) : Option LineRange :=
  match Text.pieces ',' cs with
  | [first] => do
    let first ← readNumber? first
    return ⟨first - 1, 1⟩
  | [first, count] => do
    let first ← readNumber? first
    let count ← readNumber? count
    return ⟨if count = 0 then first else first - 1, count⟩
  | _ => none

/-- The ranges that the header of a hunk gives. -/
def readHeader? (cs : List Char) : Option (LineRange × LineRange) :=
  match Text.pieces ' ' cs with
  | [['@', '@'], '-' :: old, '+' :: new, ['@', '@']] => do
    let old ← readRange? old
    let new ← readRange? new
    return (old, new)
  | _ => none

/-- A line below the names of a comparison. -/
inductive PatchLine where
  | header (old new : LineRange)
  | marked (mark : Mark) (line : String)

def readLine? : List Char → Option PatchLine
  | ' ' :: line => some (.marked .both (String.ofList line))
  | '-' :: line => some (.marked .old (String.ofList line))
  | '+' :: line => some (.marked .new (String.ofList line))
  | line => (readHeader? line).map fun ranges => .header ranges.1 ranges.2

/-- The lines before the first header, and the hunks. -/
def grouped : List PatchLine → List (Mark × String) × List PatchHunk
  | [] => ([], [])
  | .marked mark line :: rest => ((mark, line) :: (grouped rest).1, (grouped rest).2)
  | .header old new :: rest => ([], ⟨old, new, (grouped rest).1⟩ :: (grouped rest).2)

/-- The patch that lines are. -/
def readPatch? : List (List Char) → Option Patch
  | ('-' :: '-' :: '-' :: ' ' :: oldName) :: ('+' :: '+' :: '+' :: ' ' :: newName) :: rest => do
    let lines ← rest.mapM readLine?
    match grouped lines with
    | ([], hunks) => return ⟨String.ofList oldName, String.ofList newName, hunks⟩
    | _ => none
  | _ => none

/-! ## What is written is read -/

theorem readNumber?_toDigits (n : Nat) : readNumber? (Nat.toDigits 10 n) = some n := by
  have hdigits : (Nat.toDigits 10 n).all Char.isDigit = true :=
    List.all_eq_true.mpr fun _ => isDigit_of_mem_toDigits
  have hnonempty : (Nat.toDigits 10 n).isEmpty = false :=
    List.isEmpty_eq_false_iff.mpr Nat.toDigits_ne_nil
  rw [readNumber?, hdigits, hnonempty, Nat.ofDigitChars_toDigits (by decide) (by decide)]
  rfl

/-- Digits have no character among them that is no digit. -/
theorem not_mem_toDigits {c : Char} (h : c.isDigit = false) (n : Nat) : c ∉ Nat.toDigits 10 n :=
  fun hmem => ne_of_isDigit (isDigit_of_mem_toDigits hmem) h rfl

/-- The characters of a range. -/
theorem toList_range (start count : Nat) :
    (Hunk.range start count).toList =
      if count = 1 then Nat.toDigits 10 (start + 1)
      else Nat.toDigits 10 (if count = 0 then start else start + 1) ++
        ',' :: Nat.toDigits 10 count := by
  rw [Hunk.range]
  split
  case isTrue => exact Nat.toList_repr
  case isFalse =>
    split
    case isTrue hzero =>
      rw [hzero, String.toList_append]
      exact congrArg (· ++ [',', '0']) Nat.toList_repr
    case isFalse =>
      rw [String.toList_append, String.toList_append, List.append_assoc]
      exact congrArg₂ (· ++ ',' :: ·) Nat.toList_repr Nat.toList_repr

theorem readRange?_range (start count : Nat) :
    readRange? (Hunk.range start count).toList = some ⟨start, count⟩ := by
  rw [toList_range, readRange?]
  by_cases hone : count = 1
  · rw [if_pos hone, Text.pieces_eq_singleton (not_mem_toDigits rfl _)]
    simp only [readNumber?_toDigits, hone]
    rfl
  · rw [if_neg hone, Text.pieces_append_cons (not_mem_toDigits rfl _),
      Text.pieces_eq_singleton (not_mem_toDigits rfl _)]
    simp only [readNumber?_toDigits]
    by_cases hzero : count = 0
    · simp [hzero]
    · simp [hzero]

/-- A range is written in digits and commas. -/
theorem not_mem_range {c : Char} (h : c.isDigit = false) (hcomma : c ≠ ',') (start count : Nat) :
    c ∉ (Hunk.range start count).toList := by
  rw [toList_range]
  split
  · exact not_mem_toDigits h _
  · rw [List.mem_append, List.mem_cons, not_or, not_or]
    exact ⟨not_mem_toDigits h _, hcomma, not_mem_toDigits h _⟩

theorem toList_header (hunk : Hunk) :
    hunk.header.toList = ['@', '@'] ++
      ' ' :: (('-' :: (Hunk.range hunk.oldStart hunk.oldLines.length).toList) ++
        ' ' :: (('+' :: (Hunk.range hunk.newStart hunk.newLines.length).toList) ++
          ' ' :: ['@', '@'])) := by
  simp [Hunk.header]

theorem readHeader?_header (hunk : Hunk) :
    readHeader? hunk.header.toList = some (hunk.oldBlock.range, hunk.newBlock.range) := by
  have hfree (mark : Char) (hmark : ' ' ≠ mark) (start count : Nat) :
      ' ' ∉ mark :: (Hunk.range start count).toList :=
    List.not_mem_cons_of_ne_of_not_mem hmark (not_mem_range rfl (by decide) start count)
  rw [toList_header, readHeader?, Text.pieces_append_cons (by decide),
    Text.pieces_append_cons (hfree '-' (by decide) _ _),
    Text.pieces_append_cons (hfree '+' (by decide) _ _), Text.pieces_eq_singleton (by decide)]
  simp only [readRange?_range]
  rfl

/-- A header is one line. -/
theorem newline_not_mem_header (hunk : Hunk) : '\n' ∉ hunk.header.toList := by
  have hrange := not_mem_range (c := '\n') rfl (by decide)
  rw [toList_header]
  simp [hrange]

/-- The header of a hunk is read as its ranges. -/
theorem readLine?_header (hunk : Hunk) :
    readLine? hunk.header.toList = some (.header hunk.oldBlock.range hunk.newBlock.range) := by
  have hline : readLine? hunk.header.toList =
      (readHeader? hunk.header.toList).map fun ranges => .header ranges.1 ranges.2 := by
    rw [toList_header]
    rfl
  rw [hline, readHeader?_header]
  rfl

/-- A line of a hunk with its mark is read as it is. -/
theorem readLine?_marked (mark : Mark) (line : String) :
    readLine? (mark.symbol ++ line).toList = some (.marked mark line) := by
  rw [String.toList_append]
  cases mark <;> simp [Mark.symbol, readLine?]

/-- What is read of a hunk. -/
def Hunk.read (hunk : Hunk) : PatchHunk :=
  ⟨hunk.oldBlock.range, hunk.newBlock.range, hunk.lines⟩

/-- The lines that are read of a hunk. -/
def Hunk.patchLines (hunk : Hunk) : List PatchLine :=
  .header hunk.oldBlock.range hunk.newBlock.range ::
    hunk.lines.map fun entry => .marked entry.1 entry.2

theorem mapM_readLine?_text (hunk : Hunk) :
    (hunk.text.map String.toList).mapM readLine? = some hunk.patchLines := by
  have htext : hunk.text =
      hunk.header :: hunk.lines.map fun entry => entry.1.symbol ++ entry.2 := rfl
  have hlines : ((hunk.lines.map fun entry => entry.1.symbol ++ entry.2).map
      String.toList).mapM readLine? =
        some (hunk.lines.map fun entry => .marked entry.1 entry.2) := by
    rw [List.mapM_map, List.mapM_map]
    exact (congrArg (List.mapM · hunk.lines) (funext fun entry =>
      readLine?_marked entry.1 entry.2)).trans List.mapM_pure
  rw [htext, List.map_cons, List.mapM_cons, readLine?_header, hlines]
  rfl

theorem mapM_readLine?_hunks (hunks : List Hunk) :
    ((hunks.flatMap Hunk.text).map String.toList).mapM readLine? =
      some (hunks.flatMap Hunk.patchLines) := by
  induction hunks with
  | nil => rfl
  | cons hunk hunks ih =>
    rw [List.flatMap_cons, List.map_append, List.mapM_append, mapM_readLine?_text, ih]
    rfl

theorem grouped_marked (lines : List (Mark × String)) (rest : List PatchLine) :
    grouped ((lines.map fun entry => PatchLine.marked entry.1 entry.2) ++ rest) =
      (lines ++ (grouped rest).1, (grouped rest).2) := by
  induction lines with
  | nil => rfl
  | cons entry lines ih => rw [List.map_cons, List.cons_append, grouped, ih, List.cons_append]

theorem grouped_patchLines (hunks : List Hunk) :
    grouped (hunks.flatMap Hunk.patchLines) = ([], hunks.map Hunk.read) := by
  induction hunks with
  | nil => rfl
  | cons hunk hunks ih =>
    rw [List.flatMap_cons, Hunk.patchLines, List.cons_append, grouped, grouped_marked, ih,
      List.append_nil]
    rfl

/-- A comparison with hunks is read as a patch of them. -/
theorem readPatch?_hunks (oldName newName : String) (hunks : List Hunk) :
    readPatch? ((["--- " ++ oldName, "+++ " ++ newName] ++ hunks.flatMap Hunk.text).map
      String.toList) = some ⟨oldName, newName, hunks.map Hunk.read⟩ := by
  have hold : ("--- " ++ oldName).toList = '-' :: '-' :: '-' :: ' ' :: oldName.toList :=
    String.toList_append
  have hnew : ("+++ " ++ newName).toList = '+' :: '+' :: '+' :: ' ' :: newName.toList :=
    String.toList_append
  rw [List.map_append, List.map_cons, List.map_singleton, hold, hnew, List.cons_append,
    List.singleton_append, readPatch?, mapM_readLine?_hunks, Option.bind_eq_bind,
    Option.bind_some, grouped_patchLines, String.ofList_toList, String.ofList_toList]
  rfl

/-! ## Patches of two texts -/

theorem linesMarked_read (hunk : Hunk) :
    hunk.read.linesMarked [.both, .old] = hunk.oldLines ∧
      hunk.read.linesMarked [.both, .new] = hunk.newLines := by
  have hold : ∀ mark : Mark, [Mark.both, .old].contains mark = (mark != .new) := by
    rintro (_ | _ | _) <;> rfl
  have hnew : ∀ mark : Mark, [Mark.both, .new].contains mark = (mark != .old) := by
    rintro (_ | _ | _) <;> rfl
  constructor
  · simp only [PatchHunk.linesMarked, hold]
    rfl
  · simp only [PatchHunk.linesMarked, hnew]
    rfl

/-- A hunk is applied where the text has its old lines. -/
theorem appliedFrom_cons {place : Nat} {hunk : PatchHunk} {hunks : List PatchHunk}
    {same rest result : List String} (hstart : hunk.old.start = place + same.length)
    (hcount : hunk.old.count = (hunk.linesMarked [.both, .old]).length)
    (hrest : appliedFrom hunk.old.stop hunks rest = some result) :
    appliedFrom place (hunk :: hunks) (same ++ (hunk.linesMarked [.both, .old] ++ rest)) =
      some (same ++ (hunk.linesMarked [.both, .new] ++ result)) := by
  have hskipped : hunk.old.start - place = same.length := by
    rw [hstart, Nat.add_sub_cancel_left]
  have hplace : place ≤ hunk.old.start := Nat.le.intro hstart.symm
  simp only [appliedFrom, hskipped, hcount, ← List.drop_drop, List.drop_left, List.take_left,
    hplace, hrest, and_self, if_true, Option.map_some]

/-- Hunks that lead from one text to another make the other of the one. -/
theorem Leads.appliedFrom_eq {old new : Nat} {hunks : List Hunk} {oldText newText : List String}
    (h : Leads old new hunks oldText newText) :
    appliedFrom old (hunks.map Hunk.read) oldText = some newText := by
  induction h with
  | done => rfl
  | @hunk old new hunk hunks oldRest newRest same hold hnew rest ih =>
    obtain ⟨holdLines, hnewLines⟩ := linesMarked_read hunk
    rw [← holdLines, ← hnewLines]
    exact appliedFrom_cons hold (congrArg List.length holdLines).symm ih

/-- Hunks that lead from one text to another fit them. -/
theorem Leads.fits {hunks : List Hunk} {old new : List String} (h : Leads 0 0 hunks old new)
    (oldName newName : String) : Patch.Fits ⟨oldName, newName, hunks.map Hunk.read⟩ old new := by
  obtain ⟨around, hold, hnew⟩ := h.exists_laid
  constructor
  case oldLines =>
    refine List.forall_mem_map.mpr fun hunk hhunk => ?_
    have hblock : hunk.oldBlock ∈ hunks.map Hunk.oldBlock := List.mem_map_of_mem hhunk
    exact ⟨(linesMarked_read hunk).1.trans (hold.lines_eq _ hblock).symm,
      Nat.zero_add old.length ▸ hold.stop_le _ hblock⟩
  case newLines =>
    refine List.forall_mem_map.mpr fun hunk hhunk => ?_
    have hblock : hunk.newBlock ∈ hunks.map Hunk.newBlock := List.mem_map_of_mem hhunk
    exact ⟨(linesMarked_read hunk).2.trans (hnew.lines_eq _ hblock).symm,
      Nat.zero_add new.length ▸ hnew.stop_le _ hblock⟩
  case ordered =>
    rw [List.pairwise_map]
    exact (List.pairwise_map.mp hold.pairwise).and (List.pairwise_map.mp hnew.pairwise)
  case around =>
    have holdAround := hold.linesAround_eq
    have hnewAround := hnew.linesAround_eq
    rw [List.map_map] at holdAround hnewAround
    simp only [List.map_map]
    exact holdAround.trans hnewAround.symm
  case applied => exact h.appliedFrom_eq

/-- A line of a hunk is a line of one of the texts. -/
theorem Patch.Fits.mem_or_mem {patch : Patch} {old new : List String} (h : patch.Fits old new)
    {hunk : PatchHunk} (hhunk : hunk ∈ patch.hunks) {entry : Mark × String}
    (hentry : entry ∈ hunk.lines) : entry.2 ∈ old ∨ entry.2 ∈ new := by
  have hmarked {marks : List Mark} (hmark : marks.contains entry.1 = true) :
      entry.2 ∈ hunk.linesMarked marks :=
    List.mem_map_of_mem (List.mem_filter.mpr ⟨hentry, hmark⟩)
  have hslice {range : LineRange} {text : List String} (hmem : entry.2 ∈ range.slice text) :
      entry.2 ∈ text :=
    List.mem_of_mem_drop (List.mem_of_mem_take hmem)
  by_cases hnew : entry.1 = .new
  · refine .inr (hslice ((h.newLines hunk hhunk).1 ▸ hmarked ?_))
    rw [hnew]
    rfl
  · refine .inl (hslice ((h.oldLines hunk hhunk).1 ▸ hmarked ?_))
    cases hmark : entry.1 with
    | both => rfl
    | old => rfl
    | new => exact absurd hmark hnew

/-! ## Comparisons -/

section Comparison

variable {oldName newName : String} {old new : List String}

/-- A comparison has lines where the texts differ only. -/
theorem unified_eq_nil_iff : unified oldName newName old new = [] ↔ old = new := by
  refine Iff.trans ?_ hunks_segments_eq_nil_iff
  rw [unified]
  split
  case h_1 hnone => exact iff_of_true rfl hnone
  case h_2 hsome => exact iff_of_false (List.cons_ne_nil _ _) hsome

/-- The comparison of texts that differ has the names, and hunks that lead from one to the other. -/
theorem exists_hunks (oldName newName : String) (h : old ≠ new) :
    ∃ hunks, unified oldName newName old new =
      ["--- " ++ oldName, "+++ " ++ newName] ++ hunks.flatMap Hunk.text ∧ hunks ≠ [] ∧
      Leads 0 0 hunks old new := by
  have hleads := leads_hunks (segments old new)
  obtain ⟨hold, hnew⟩ := flatMap_segments old new
  rw [hold, hnew] at hleads
  have hhunks : hunks (segments old new) ≠ [] := mt hunks_segments_eq_nil_iff.mp h
  refine ⟨_, ?_, hhunks, hleads⟩
  rw [unified]
  split
  case h_1 hnone => exact absurd hnone hhunks
  case h_2 => rfl

/-- The comparison of texts that differ is a patch that fits them. -/
theorem exists_patch (oldName newName : String) (h : old ≠ new) :
    ∃ patch, readPatch? ((unified oldName newName old new).map String.toList) = some patch ∧
      patch.oldName = oldName ∧ patch.newName = newName ∧ patch.hunks ≠ [] ∧
      patch.Fits old new := by
  obtain ⟨hunks, hunified, hne, hleads⟩ := exists_hunks oldName newName h
  rw [hunified]
  exact ⟨_, readPatch?_hunks oldName newName hunks, rfl, rfl, mt List.map_eq_nil_iff.mp hne,
    hleads.fits oldName newName⟩

/-- The lines of a comparison have no line feeds in them where the names and the lines of the texts
have none. -/
theorem newline_not_mem_unified (holdName : '\n' ∉ oldName.toList)
    (hnewName : '\n' ∉ newName.toList) (hold : ∀ line ∈ old, '\n' ∉ line.toList)
    (hnew : ∀ line ∈ new, '\n' ∉ line.toList) :
    ∀ line ∈ unified oldName newName old new, '\n' ∉ line.toList := by
  by_cases h : old = new
  · rw [unified_eq_nil_iff.mpr h]
    exact fun _ hnone => absurd hnone List.not_mem_nil
  obtain ⟨hunks, hunified, -, hleads⟩ := exists_hunks oldName newName h
  have hfits := hleads.fits oldName newName
  rw [hunified]
  refine List.forall_mem_append.mpr ⟨?_, fun line hline => ?_⟩
  · simp [holdName, hnewName]
  · obtain ⟨hunk, hhunk, hline⟩ := List.mem_flatMap.mp hline
    rcases List.mem_cons.mp hline with rfl | hline
    · exact newline_not_mem_header hunk
    · obtain ⟨entry, hentry, rfl⟩ := List.mem_map.mp hline
      have hread : hunk.read ∈ hunks.map Hunk.read := List.mem_map_of_mem hhunk
      have hplain : '\n' ∉ entry.2.toList :=
        (hfits.mem_or_mem hread hentry).elim (hold _) (hnew _)
      have hsymbol : '\n' ∉ entry.1.symbol.toList := by
        cases entry.1 <;> decide
      rw [String.toList_append, List.mem_append, not_or]
      exact ⟨hsymbol, hplain⟩

end Comparison

end OperandCleanup.Diff
