import Mathlib.Data.List.Basic
import OperandCleanup.Diff.Hunk
import OperandCleanup.Proofs.Diff.Matching

/-!
# Hunks lead from the old text to the new one

The segments of a comparison hold all lines of both texts, since a segment that is kept is a common
run. Hunks are made of segments, and between hunks only lines that are kept are left out. So the
hunks of a comparison lead from one text to the other: before each of them, and after the last, both
texts have the same lines.
-/

namespace OperandCleanup.Diff

/-! ## Segments -/

/-- The sides of the segments of two texts are the texts. -/
theorem flatMap_segmentsBy (usable : String → Bool) (old new : List String) :
    (segmentsBy usable old new).flatMap Segment.old = old ∧
      (segmentsBy usable old new).flatMap Segment.new = new := by
  induction old, new using segmentsBy.induct usable with
  | case1 old new oldStart newStart size hmatch hsize ihBefore ihAfter =>
    obtain ⟨holdBefore, hnewBefore⟩ := ihBefore
    obtain ⟨holdAfter, hnewAfter⟩ := ihAfter
    have hrun := isRun_longestMatch usable old new
    rw [hmatch] at hrun
    obtain ⟨oldBefore, newBefore, run, oldAfter, newAfter, hold, hnew, hfound⟩ := hrun
    obtain ⟨rfl, rfl, rfl⟩ := Match.mk.inj hfound
    rw [segmentsBy, hmatch]
    simp only [if_pos hsize, List.flatMap_append, List.flatMap_cons, holdBefore, hnewBefore,
      holdAfter, hnewAfter, Segment.old, Segment.new]
    subst hold hnew
    constructor <;> simp
  | case2 old new oldStart newStart size hmatch hsize hempty =>
    obtain ⟨hold, hnew⟩ := Bool.and_eq_true_iff.mp hempty
    rw [segmentsBy, hmatch]
    simp only [if_neg hsize, if_pos hempty]
    exact ⟨(List.isEmpty_iff.mp hold).symm, (List.isEmpty_iff.mp hnew).symm⟩
  | case3 old new oldStart newStart size hmatch hsize hempty =>
    rw [segmentsBy, hmatch]
    simp only [if_neg hsize, if_neg hempty]
    exact ⟨List.append_nil old, List.append_nil new⟩

/-- Joining segments that are kept changes neither text. -/
theorem flatMap_joinKept {side : Segment → List String}
    (hside : ∀ lines, side (.kept lines) = lines) (segments : List Segment) :
    (joinKept segments).flatMap side = segments.flatMap side := by
  induction segments with
  | nil => rfl
  | cons segment rest ih =>
    cases segment with
    | replaced removed added =>
      change side (.replaced removed added) ++ (joinKept rest).flatMap side = _
      rw [ih, List.flatMap_cons]
    | kept lines =>
      rw [joinKept, List.flatMap_cons, ← ih]
      split
      case h_1 more others hrest => simp [hrest, hside]
      case h_2 => rw [List.flatMap_cons]

/-- The sides of the segments of a comparison are the texts. -/
theorem flatMap_segments (old new : List String) :
    (segments old new).flatMap Segment.old = old ∧
      (segments old new).flatMap Segment.new = new := by
  obtain ⟨hold, hnew⟩ := flatMap_segmentsBy (fun line => !isCommon new line) old new
  exact ⟨(flatMap_joinKept (fun _ => rfl) _).trans hold,
    (flatMap_joinKept (fun _ => rfl) _).trans hnew⟩

/-- A text is all kept where it is compared with itself. -/
theorem segments_self {text : List String} (h : text ≠ []) : segments text text = [.kept text] := by
  have hempty (usable : String → Bool) : segmentsBy usable [] [] = [] := by
    rw [segmentsBy, longestMatch_self]
    rfl
  have hlength : 0 < text.length := List.length_pos_iff.mpr h
  rw [segments, segmentsBy, longestMatch_self]
  simp [hlength, hempty, joinKept]

theorem segments_nil : segments [] [] = [] := by
  rw [segments, segmentsBy, longestMatch_self]
  rfl

/-! ## Sides of hunks -/

namespace Hunk

theorem oldLines_extend (hunk : Hunk) (segment : Segment) :
    (hunk.extend segment).oldLines = hunk.oldLines ++ segment.old := by
  have hold : (Mark.old != Mark.new) = true := rfl
  cases segment <;>
    simp [extend, oldLines, Segment.marked, Segment.old, List.filter_map, Function.comp_def, hold]

theorem newLines_extend (hunk : Hunk) (segment : Segment) :
    (hunk.extend segment).newLines = hunk.newLines ++ segment.new := by
  have hnew : (Mark.new != Mark.old) = true := rfl
  cases segment <;>
    simp [extend, newLines, Segment.marked, Segment.new, List.filter_map, Function.comp_def, hnew]

/-- The place in the old text behind a hunk. -/
def oldStop (hunk : Hunk) : Nat := hunk.oldStart + hunk.oldLines.length

/-- The place in the new text behind a hunk. -/
def newStop (hunk : Hunk) : Nat := hunk.newStart + hunk.newLines.length

theorem oldStop_extend (hunk : Hunk) (segment : Segment) :
    (hunk.extend segment).oldStop = hunk.oldStop + segment.old.length := by
  rw [oldStop, oldLines_extend, List.length_append, ← Nat.add_assoc]
  rfl

theorem newStop_extend (hunk : Hunk) (segment : Segment) :
    (hunk.extend segment).newStop = hunk.newStop + segment.new.length := by
  rw [newStop, newLines_extend, List.length_append, ← Nat.add_assoc]
  rfl

/-- A hunk without changes has the same lines on both sides. -/
theorem oldLines_eq_newLines {hunk : Hunk} (h : hunk.hasChange = false) :
    hunk.oldLines = hunk.newLines := by
  have hboth : ∀ entry ∈ hunk.lines, entry.1 = .both := by
    simpa [hasChange] using h
  have hmarks : ∀ entry ∈ hunk.lines, (entry.1 != .new) = (entry.1 != .old) := by
    intro entry hentry
    rw [hboth entry hentry]
    rfl
  exact congrArg _ (List.filter_congr hmarks)

end Hunk

/-! ## From one text to the other -/

/-- Whether hunks lead from one text to another, from a place in each on: before each hunk, and
after the last, both have the same lines. -/
inductive Leads : Nat → Nat → List Hunk → List String → List String → Prop
  | done (old new : Nat) (same : List String) : Leads old new [] same same
  | hunk {old new : Nat} {hunk : Hunk} {hunks : List Hunk} {oldRest newRest : List String}
    (same : List String) (hold : hunk.oldStart = old + same.length)
    (hnew : hunk.newStart = new + same.length)
    (rest : Leads hunk.oldStop hunk.newStop hunks oldRest newRest) :
    Leads old new (hunk :: hunks) (same ++ (hunk.oldLines ++ oldRest))
      (same ++ (hunk.newLines ++ newRest))

/-- More lines that both texts have, before the others. -/
theorem Leads.behind {old new : Nat} {hunks : List Hunk} {oldText newText : List String}
    (same : List String)
    (h : Leads (old + same.length) (new + same.length) hunks oldText newText) :
    Leads old new hunks (same ++ oldText) (same ++ newText) := by
  generalize hold' : old + same.length = oldPlace at h
  generalize hnew' : new + same.length = newPlace at h
  cases h with
  | done => exact .done old new (same ++ _)
  | hunk more hold hnew rest =>
    subst hold' hnew'
    have hmore := Leads.hunk (same ++ more) (by rw [hold, List.length_append, Nat.add_assoc])
      (by rw [hnew, List.length_append, Nat.add_assoc]) rest
    rwa [List.append_assoc, List.append_assoc] at hmore

/-- Hunks that lead over a segment at the end of a hunk lead over the hunk and then the segment. -/
theorem leads_extend {hunk : Hunk} {segment : Segment} {rest : List Segment} {hunks : List Hunk}
    (h : Leads hunk.oldStart hunk.newStart hunks
      ((hunk.extend segment).oldLines ++ rest.flatMap Segment.old)
      ((hunk.extend segment).newLines ++ rest.flatMap Segment.new)) :
    Leads hunk.oldStart hunk.newStart hunks
      (hunk.oldLines ++ (segment :: rest).flatMap Segment.old)
      (hunk.newLines ++ (segment :: rest).flatMap Segment.new) := by
  rwa [Hunk.oldLines_extend, Hunk.newLines_extend, List.append_assoc, List.append_assoc] at h

/-- A hunk that ends within lines that are kept leads up to there. -/
theorem leads_closed {hunk : Hunk} {lines : List String} {rest : List Segment} {hunks : List Hunk}
    (count : Nat)
    (h : Leads (hunk.extend (.kept (lines.take count))).oldStop
      (hunk.extend (.kept (lines.take count))).newStop hunks
      (lines.drop count ++ rest.flatMap Segment.old)
      (lines.drop count ++ rest.flatMap Segment.new)) :
    Leads hunk.oldStart hunk.newStart (hunk.extend (.kept (lines.take count)) :: hunks)
      (hunk.oldLines ++ (Segment.kept lines :: rest).flatMap Segment.old)
      (hunk.newLines ++ (Segment.kept lines :: rest).flatMap Segment.new) := by
  have hclosed : Leads hunk.oldStart hunk.newStart
      (hunk.extend (.kept (lines.take count)) :: hunks) _ _ := .hunk [] rfl rfl h
  rw [Hunk.oldLines_extend, Hunk.newLines_extend] at hclosed
  simpa [Segment.old, Segment.new, ← List.append_assoc (lines.take count)] using hclosed

/-- A hunk that begins within lines that are kept leads on from there. -/
theorem leads_openHunk {old new : Nat} {lines oldRest newRest : List String} {hunks : List Hunk}
    (count : Nat) (hcount : count ≤ lines.length - contextSize)
    (h : Leads (openHunk old new lines).oldStart (openHunk old new lines).newStart hunks
      ((openHunk old new lines).oldLines ++ oldRest)
      ((openHunk old new lines).newLines ++ newRest)) :
    Leads (old + count) (new + count) hunks (lines.drop count ++ oldRest)
      (lines.drop count ++ newRest) := by
  -- The lines before the hunk are those that are not in its context.
  let skipped := lines.length - contextSize
  have hsame : ((lines.drop count).take (skipped - count)).length = skipped - count := by
    rw [List.length_take, List.length_drop]
    omega
  have hlines : lines.drop count = (lines.drop count).take (skipped - count) ++
      lines.drop skipped := by
    conv => lhs; rw [← List.take_append_drop (skipped - count) (lines.drop count)]
    rw [List.drop_drop, Nat.add_sub_cancel' hcount]
  have hold : (openHunk old new lines).oldLines = lines.drop skipped :=
    Hunk.oldLines_extend _ _
  have hnew : (openHunk old new lines).newLines = lines.drop skipped :=
    Hunk.newLines_extend _ _
  rw [hold, hnew] at h
  rw [hlines, List.append_assoc, List.append_assoc]
  refine Leads.behind _ ?_
  rw [hsame, Nat.add_assoc, Nat.add_assoc, Nat.add_sub_cancel' hcount]
  exact h

theorem oldStop_openHunk (old new : Nat) (lines : List String) :
    (openHunk old new lines).oldStop = old + lines.length := by
  rw [openHunk, Hunk.oldStop_extend, Segment.old, List.length_drop]
  change old + (lines.length - contextSize) + 0 + _ = _
  omega

theorem newStop_openHunk (old new : Nat) (lines : List String) :
    (openHunk old new lines).newStop = new + lines.length := by
  rw [openHunk, Hunk.newStop_extend, Segment.new, List.length_drop]
  change new + (lines.length - contextSize) + 0 + _ = _
  omega

/-- The hunks from a hunk that is begun lead over it and what follows. -/
theorem leads_hunksFrom {old new : Nat} {hunk : Hunk} (segments : List Segment)
    (hold : hunk.oldStop = old) (hnew : hunk.newStop = new) :
    Leads hunk.oldStart hunk.newStart (hunksFrom old new hunk segments)
      (hunk.oldLines ++ segments.flatMap Segment.old)
      (hunk.newLines ++ segments.flatMap Segment.new) := by
  fun_induction hunksFrom old new hunk segments with
  | case1 old new hunk hchange => exact .hunk [] rfl rfl (.done _ _ [])
  | case2 old new hunk hchange =>
    rw [Hunk.oldLines_eq_newLines (eq_false_of_ne_true hchange)]
    exact .done _ _ _
  | case3 old new hunk lines => exact leads_closed contextSize (.done _ _ _)
  | case4 old new hunk lines segment rest hlong ih =>
    refine leads_closed contextSize ?_
    have hcount : contextSize ≤ lines.length - contextSize := by omega
    rw [Hunk.oldStop_extend, Hunk.newStop_extend, hold, hnew, Segment.old, Segment.new,
      List.length_take, Nat.min_eq_left (Nat.le_trans hcount (Nat.sub_le ..))]
    exact leads_openHunk contextSize hcount
      (ih (oldStop_openHunk old new lines) (newStop_openHunk old new lines))
  | case5 old new hunk lines segment rest hshort ih =>
    exact leads_extend (ih (by rw [Hunk.oldStop_extend, hold]; rfl)
      (by rw [Hunk.newStop_extend, hnew]; rfl))
  | case6 old new hunk removed added rest ih =>
    exact leads_extend (ih (by rw [Hunk.oldStop_extend, hold]; rfl)
      (by rw [Hunk.newStop_extend, hnew]; rfl))

/-- The hunks of a comparison lead from the old text to the new one. -/
theorem leads_hunks (segments : List Segment) :
    Leads 0 0 (hunks segments) (segments.flatMap Segment.old) (segments.flatMap Segment.new) := by
  rw [hunks.eq_def]
  split
  case h_1 lines rest =>
    have hopened := leads_hunksFrom rest (oldStop_openHunk 0 0 lines) (newStop_openHunk 0 0 lines)
    rw [Nat.zero_add] at hopened
    exact leads_openHunk 0 (Nat.zero_le _) hopened
  case h_2 =>
    have hall : Leads (⟨0, 0, []⟩ : Hunk).oldStart (⟨0, 0, []⟩ : Hunk).newStart _ _ _ :=
      leads_hunksFrom segments rfl rfl
    exact hall

/-- There are no hunks where the texts are equal only. -/
theorem hunks_segments_eq_nil_iff {old new : List String} :
    hunks (segments old new) = [] ↔ old = new := by
  constructor
  · intro h
    obtain ⟨hold, hnew⟩ := flatMap_segments old new
    have hleads := leads_hunks (segments old new)
    rw [h, hold, hnew] at hleads
    cases hleads
    rfl
  · rintro rfl
    by_cases hempty : old = []
    · rw [hempty, segments_nil]
      rfl
    · have hnone : (openHunk 0 0 old).hasChange = false := by
        refine List.any_eq_false.mpr fun entry hentry => ?_
        obtain ⟨line, -, rfl⟩ := List.mem_map.mp hentry
        exact Bool.false_ne_true
      rw [segments_self hempty, hunks, hunksFrom, hnone]
      rfl

/-! ## The sides of hunks in the texts -/

/-- So many lines from a place on. -/
structure LineRange where
  start : Nat
  count : Nat
deriving DecidableEq, Repr

/-- The place behind a range. -/
def LineRange.stop (range : LineRange) : Nat := range.start + range.count

def LineRange.has (range : LineRange) (place : Nat) : Bool :=
  range.start ≤ place && place < range.stop

theorem LineRange.has_eq_true_iff (range : LineRange) {place : Nat} :
    range.has place = true ↔ range.start ≤ place ∧ place < range.stop := by
  rw [has, Bool.and_eq_true, decide_eq_true_eq, decide_eq_true_eq]

theorem LineRange.has_eq_false_of_lt (range : LineRange) {place : Nat} (h : place < range.start) :
    range.has place = false :=
  eq_false_of_ne_true fun hhas => Nat.not_le_of_lt h (range.has_eq_true_iff.mp hhas).1

theorem LineRange.has_eq_false_of_le (range : LineRange) {place : Nat} (h : range.stop ≤ place) :
    range.has place = false :=
  eq_false_of_ne_true fun hhas => Nat.not_lt_of_le h (range.has_eq_true_iff.mp hhas).2

/-- The lines of a text that are in a range. -/
def LineRange.slice (range : LineRange) (text : List String) : List String :=
  (text.drop range.start).take range.count

/-- The lines of a text, from a place on, that are in none of some ranges. -/
def linesAround (ranges : List LineRange) (place : Nat) (text : List String) : List String :=
  ((text.zipIdx place).filter fun entry => !ranges.any (·.has entry.2)).map (·.1)

/-- Lines from a place on. -/
structure Block where
  start : Nat
  lines : List String

def Block.range (block : Block) : LineRange := ⟨block.start, block.lines.length⟩

/-- The lines of a hunk in the old text, and where they are. -/
def Hunk.oldBlock (hunk : Hunk) : Block := ⟨hunk.oldStart, hunk.oldLines⟩

/-- The lines of a hunk in the new text, and where they are. -/
def Hunk.newBlock (hunk : Hunk) : Block := ⟨hunk.newStart, hunk.newLines⟩

/-- Whether blocks are in a text from a place on, one after the other, with other lines around
them. -/
inductive Laid : Nat → List Block → List String → List String → Prop
  | done (place : Nat) (around : List String) : Laid place [] around around
  | block {place : Nat} {block : Block} {blocks : List Block} {rest others : List String}
    (around : List String) (hstart : block.start = place + around.length)
    (hrest : Laid block.range.stop blocks rest others) :
    Laid place (block :: blocks) (around ++ (block.lines ++ rest)) (around ++ others)

/-- The sides of hunks are in the texts that they lead from and to, and the lines around them are
the same. -/
theorem Leads.exists_laid {old new : Nat} {hunks : List Hunk} {oldText newText : List String}
    (h : Leads old new hunks oldText newText) :
    ∃ around, Laid old (hunks.map Hunk.oldBlock) oldText around ∧
      Laid new (hunks.map Hunk.newBlock) newText around := by
  induction h with
  | done old new same => exact ⟨same, .done old same, .done new same⟩
  | hunk same hold hnew rest ih =>
    obtain ⟨others, holdRest, hnewRest⟩ := ih
    exact ⟨same ++ others, .block same hold holdRest, .block same hnew hnewRest⟩

section Laid

variable {place : Nat} {blocks : List Block} {text others : List String}

/-- Blocks begin at the place that they are laid from, or later. -/
theorem Laid.le_start (h : Laid place blocks text others) :
    ∀ block ∈ blocks, place ≤ block.start := by
  induction h with
  | done => exact fun _ hnone => absurd hnone List.not_mem_nil
  | @block place block blocks rest others around hstart hrest ih =>
    have hfirst : place ≤ block.start := Nat.le.intro hstart.symm
    exact List.forall_mem_cons.mpr ⟨hfirst, fun other hother =>
      Nat.le_trans hfirst (Nat.le_trans (Nat.le_add_right ..) (ih other hother))⟩

/-- Blocks come in the order of their places, and no two share a place. -/
theorem Laid.pairwise (h : Laid place blocks text others) :
    blocks.Pairwise fun first second => first.range.stop ≤ second.range.start := by
  induction h with
  | done => exact .nil
  | block around hstart hrest ih => exact .cons hrest.le_start ih

/-- Blocks end within the text. -/
theorem Laid.stop_le (h : Laid place blocks text others) :
    ∀ block ∈ blocks, block.range.stop ≤ place + text.length := by
  induction h with
  | done => exact fun _ hnone => absurd hnone List.not_mem_nil
  | @block place block blocks rest others around hstart hrest ih =>
    have hstop : block.range.stop = block.start + block.lines.length := rfl
    have hlength : place + (around ++ (block.lines ++ rest)).length =
        block.range.stop + rest.length := by
      rw [List.length_append, List.length_append]
      omega
    rw [hlength]
    exact List.forall_mem_cons.mpr ⟨Nat.le_add_right .., ih⟩

/-- The lines of a block are those of the text at its place. -/
theorem Laid.lines_eq (h : Laid place blocks text others) :
    ∀ block ∈ blocks,
      (text.drop (block.start - place)).take block.lines.length = block.lines := by
  induction h with
  | done => exact fun _ hnone => absurd hnone List.not_mem_nil
  | @block place block blocks rest others around hstart hrest ih =>
    refine List.forall_mem_cons.mpr ⟨?_, fun other hother => ?_⟩
    · rw [hstart, Nat.add_sub_cancel_left, List.drop_left, List.take_left]
    · have hle := hrest.le_start other hother
      have hstop : block.range.stop = block.start + block.lines.length := rfl
      have hskip : other.start - place = (around ++ block.lines).length +
          (other.start - block.range.stop) := by
        rw [List.length_append]
        omega
      rw [hskip, ← List.append_assoc, List.drop_length_add_append]
      exact ih other hother

/-- The lines around blocks are those in none of their ranges. -/
theorem Laid.linesAround_eq (h : Laid place blocks text others) :
    linesAround (blocks.map Block.range) place text = others := by
  induction h with
  | done place around => simp [linesAround]
  | @block place block blocks rest others around hstart hrest ih =>
    have hbefore : ∀ entry ∈ around.zipIdx place,
        (!((block :: blocks).map Block.range).any (·.has entry.2)) = true := by
      intro entry hentry
      have hlt : entry.2 < block.start := hstart ▸ List.snd_lt_add_of_mem_zipIdx hentry
      have hnone : ∀ other ∈ block :: blocks, other.range.has entry.2 = false :=
        List.forall_mem_cons.mpr ⟨block.range.has_eq_false_of_lt hlt, fun other hother =>
          other.range.has_eq_false_of_lt (Nat.lt_of_lt_of_le hlt
            (Nat.le_trans (Nat.le_add_right ..) (hrest.le_start other hother)))⟩
      simpa using hnone
    have hwithin : ∀ entry ∈ block.lines.zipIdx (place + around.length),
        ¬(!((block :: blocks).map Block.range).any (·.has entry.2)) = true := by
      intro entry hentry
      rw [← hstart] at hentry
      have hhas : block.range.has entry.2 = true := block.range.has_eq_true_iff.mpr
        ⟨List.le_snd_of_mem_zipIdx hentry, List.snd_lt_add_of_mem_zipIdx hentry⟩
      simp [hhas]
    have hafter : ∀ entry ∈ rest.zipIdx block.range.stop,
        (!((block :: blocks).map Block.range).any (·.has entry.2)) =
          !(blocks.map Block.range).any (·.has entry.2) := by
      intro entry hentry
      have hnot : block.range.has entry.2 = false :=
        block.range.has_eq_false_of_le (List.le_snd_of_mem_zipIdx hentry)
      rw [List.map_cons, List.any_cons, hnot, Bool.false_or]
    rw [linesAround, List.zipIdx_append, List.zipIdx_append, List.filter_append,
      List.filter_append, List.filter_eq_self.mpr hbefore, List.filter_eq_nil_iff.mpr hwithin,
      List.nil_append, List.map_append, List.zipIdx_map_fst, ← hstart]
    refine congrArg (around ++ ·) ?_
    rw [← ih]
    exact congrArg _ (List.filter_congr hafter)

end Laid

end OperandCleanup.Diff
