import OperandCleanup.Diff.Matching

/-!
# The longest common run is a common run

The search for a run goes through the lines of the old text and keeps a row of lengths, one for each
line of the new text. What the lengths of a row say is kept from one row to the next: each is that
of a run with which both texts end, as far as they are read. So the run that is found is in both
texts where it says. In two equal texts no run is longer than the one that ends at the same line of
the other text, and that one comes first; so the run that is found stands at one place in both, and
its continuation is all of the text.
-/

namespace OperandCleanup.Diff

/-! ## Rows -/

/-- Whether the lengths of a row are as they should be, each for the lines of the new text up to its
own. `seen` are the lines before those of the row. -/
def RowHolds (holds : List String → Nat → Prop) : List String → List String → List Nat → Prop
  | _, [], [] => True
  | seen, line :: lines, length :: lengths =>
    holds (seen ++ [line]) length ∧ RowHolds holds (seen ++ [line]) lines lengths
  | _, _, _ => False

/-- A property of lengths, given the lines that are read of both texts, that the search keeps. -/
structure IsKept (usable : String → Bool) (holds : List String → List String → Nat → Prop) :
    Prop where
  noneOld : ∀ seen, holds [] seen 0
  noneNew : ∀ before, holds before [] 0
  grow : ∀ before seen line size, usable line = true → holds before seen size →
    holds (before ++ [line]) (seen ++ [line]) (size + 1)
  differ : ∀ before seen line other, ¬(usable other = true ∧ other = line) →
    holds (before ++ [line]) (seen ++ [other]) 0

section Rows

variable {usable : String → Bool} {holds : List String → List String → Nat → Prop}

/-- The row before the first line of the old text. -/
theorem IsKept.firstRow (h : IsKept usable holds) (seen lines : List String) :
    RowHolds (holds []) seen lines (lines.map fun _ => 0) := by
  induction lines generalizing seen with
  | nil => trivial
  | cons line lines ih => exact ⟨h.noneOld _, ih _⟩

/-- What holds of a row holds of the next. -/
theorem IsKept.nextRow (h : IsKept usable holds) {before seen lines : List String} {size : Nat}
    {above : List Nat} (line : String) (hsize : holds before seen size)
    (habove : RowHolds (holds before) seen lines above) :
    RowHolds (holds (before ++ [line])) seen lines
      (nextRow line (lines.map fun line => (line, usable line)) (size :: above)) := by
  induction lines generalizing seen size above with
  | nil => trivial
  | cons other lines ih =>
    cases above with
    | nil => exact habove.elim
    | cons length lengths =>
      obtain ⟨hlength, hlengths⟩ := habove
      refine ⟨?_, ih hlength hlengths⟩
      by_cases hsame : usable other = true ∧ other = line
      · obtain ⟨husable, rfl⟩ := hsame
        have hgrown := h.grow before seen other size husable hsize
        simpa [husable] using hgrown
      · have hnone := h.differ before seen line other hsame
        simpa [hsame] using hnone

/-- What a row keeps of the best run, the search keeps. -/
theorem IsKept.bestFrom (h : IsKept usable holds) {text lines : List String}
    (keeps : Nat → Match → Prop)
    (hrow : ∀ before line after row best, text = before ++ line :: after →
      RowHolds (holds (before ++ [line])) [] lines row → keeps before.length best →
        keeps (before.length + 1) (bestOfRow before.length 0 row best))
    {before rest : List String} {above : List Nat} {best : Match} (htext : text = before ++ rest)
    (habove : RowHolds (holds before) [] lines above) (hbest : keeps before.length best) :
    keeps text.length
      (bestFrom (lines.map fun line => (line, usable line)) before.length rest above best) := by
  induction rest generalizing before above best with
  | nil =>
    rw [htext, List.append_nil]
    exact hbest
  | cons line rest ih =>
    have hnext := h.nextRow line (h.noneNew before) habove
    have htext' : text = before ++ [line] ++ rest := by simpa using htext
    have hlength : (before ++ [line]).length = before.length + 1 := by simp
    have hkept := hrow before line rest _ best htext hnext hbest
    rw [← hlength] at hkept
    have hlast := ih htext' hnext hkept
    rwa [hlength] at hlast

end Rows

/-! ## Runs -/

/-- Whether a run is in both texts at its positions. -/
def Match.IsRun (found : Match) (old new : List String) : Prop :=
  ∃ oldBefore newBefore run oldAfter newAfter,
    old = oldBefore ++ run ++ oldAfter ∧ new = newBefore ++ run ++ newAfter ∧
      found = ⟨oldBefore.length, newBefore.length, run.length⟩

/-- Whether two texts end with a run of so many lines. -/
def EndAlike (before seen : List String) (size : Nat) : Prop :=
  ∃ oldBefore newBefore run, before = oldBefore ++ run ∧ seen = newBefore ++ run ∧
    size = run.length

theorem endAlike_zero (before seen : List String) : EndAlike before seen 0 :=
  ⟨before, seen, [], (List.append_nil _).symm, (List.append_nil _).symm, rfl⟩

theorem isKept_endAlike (usable : String → Bool) : IsKept usable EndAlike where
  noneOld := endAlike_zero []
  noneNew := fun before => endAlike_zero before []
  grow := by
    rintro _ _ line _ - ⟨oldBefore, newBefore, run, rfl, rfl, rfl⟩
    exact ⟨oldBefore, newBefore, run ++ [line], List.append_assoc .., List.append_assoc ..,
      by simp⟩
  differ := fun before seen line other _ => endAlike_zero (before ++ [line]) (seen ++ [other])

/-- The best run of a row and the one before is in both texts. -/
theorem isRun_bestOfRow {before after seen lines : List String} {old : Nat} {lengths : List Nat}
    {best : Match} (hold : before.length = old + 1)
    (hrow : RowHolds (EndAlike before) seen lines lengths)
    (hbest : best.IsRun (before ++ after) (seen ++ lines)) :
    (bestOfRow old seen.length lengths best).IsRun (before ++ after) (seen ++ lines) := by
  induction lines generalizing seen lengths best with
  | nil =>
    cases lengths with
    | nil => exact hbest
    | cons => exact hrow.elim
  | cons line lines ih =>
    cases lengths with
    | nil => exact hrow.elim
    | cons length lengths =>
      obtain ⟨hlength, hlengths⟩ := hrow
      have hstep : (if best.size < length then
          (⟨old + 1 - length, seen.length + 1 - length, length⟩ : Match) else best).IsRun
            (before ++ after) (seen ++ [line] ++ lines) := by
        split
        case isFalse => simpa using hbest
        case isTrue =>
          obtain ⟨oldBefore, newBefore, run, hbefore, hseen, rfl⟩ := hlength
          have hseenLength := congrArg List.length hseen
          rw [hbefore, List.length_append] at hold
          rw [List.length_append, List.length_append, List.length_singleton] at hseenLength
          refine ⟨oldBefore, newBefore, run, after, lines, by rw [hbefore], by rw [hseen], ?_⟩
          simp only [Match.mk.injEq, and_true]
          omega
      have hnext := ih hlengths hstep
      rwa [List.append_assoc, List.singleton_append, List.length_append,
        List.length_singleton] at hnext

/-- The beginning that two texts have in common. -/
theorem exists_commonLength (old new : List String) :
    ∃ run oldAfter newAfter, old = run ++ oldAfter ∧ new = run ++ newAfter ∧
      run.length = commonLength old new := by
  induction old generalizing new with
  | nil => exact ⟨[], [], new, rfl, rfl, rfl⟩
  | cons line old ih =>
    cases new with
    | nil => exact ⟨[], line :: old, [], rfl, rfl, rfl⟩
    | cons other new =>
      rw [commonLength]
      split
      case isTrue hsame =>
        obtain rfl := beq_iff_eq.mp hsame
        obtain ⟨run, oldAfter, newAfter, hold, hnew, hrun⟩ := ih new
        exact ⟨line :: run, oldAfter, newAfter, by rw [hold]; rfl, by rw [hnew]; rfl,
          congrArg Nat.succ hrun⟩
      case isFalse => exact ⟨[], line :: old, other :: new, rfl, rfl, rfl⟩

/-- The continuation of a run goes over what the texts have in common before it and after. -/
theorem extended_append (oldBefore newBefore run oldAfter newAfter : List String) :
    Match.extended ⟨oldBefore.length, newBefore.length, run.length⟩
        (oldBefore ++ run ++ oldAfter) (newBefore ++ run ++ newAfter) =
      ⟨oldBefore.length - commonLength oldBefore.reverse newBefore.reverse,
        newBefore.length - commonLength oldBefore.reverse newBefore.reverse,
        commonLength oldBefore.reverse newBefore.reverse + run.length +
          commonLength oldAfter newAfter⟩ := by
  simp [Match.extended]

/-- A run with the equal lines around it is in both texts. -/
theorem Match.IsRun.extended {found : Match} {old new : List String} (h : found.IsRun old new) :
    (found.extended old new).IsRun old new := by
  obtain ⟨oldBefore, newBefore, run, oldAfter, newAfter, rfl, rfl, rfl⟩ := h
  rw [extended_append]
  obtain ⟨before, oldFirst, newFirst, hold, hnew, hbefore⟩ :=
    exists_commonLength oldBefore.reverse newBefore.reverse
  obtain ⟨after, oldLast, newLast, rfl, rfl, hafter⟩ := exists_commonLength oldAfter newAfter
  rw [← hbefore, ← hafter]
  obtain rfl := List.reverse_eq_iff.mp hold
  obtain rfl := List.reverse_eq_iff.mp hnew
  exact ⟨oldFirst.reverse, newFirst.reverse, before.reverse ++ run ++ after, oldLast, newLast,
    by simp, by simp, by simp [Nat.add_assoc]⟩

/-- The best run of a search is in both texts at its positions. -/
theorem isRun_bestFrom (usable : String → Bool) (old new : List String) :
    (bestFrom (new.map fun line => (line, usable line)) 0 old (new.map fun _ => 0)
      ⟨0, 0, 0⟩).IsRun old new := by
  have hkept := isKept_endAlike usable
  have hfirst : (⟨0, 0, 0⟩ : Match).IsRun old new := ⟨[], [], [], old, new, rfl, rfl, rfl⟩
  refine hkept.bestFrom (fun _ best => best.IsRun old new) ?_ (List.nil_append old).symm
    (hkept.firstRow [] new) hfirst
  intro before line after row best htext hrow hbest
  have htext' : old = before ++ [line] ++ after := by simpa using htext
  rw [htext'] at hbest ⊢
  exact isRun_bestOfRow (by simp) hrow hbest

/-- The longest common run is in both texts at its positions. -/
theorem isRun_longestMatch (usable : String → Bool) (old new : List String) :
    (longestMatch usable old new).IsRun old new :=
  (isRun_bestFrom usable old new).extended

/-! ## Equal texts -/

/-- The number of usable lines at the end of a text, up to the last that is not. -/
def usableAtEnd (usable : String → Bool) (lines : List String) : Nat :=
  (lines.reverse.takeWhile usable).length

theorem usableAtEnd_concat (usable : String → Bool) (lines : List String) (line : String) :
    usableAtEnd usable (lines ++ [line]) =
      if usable line then usableAtEnd usable lines + 1 else 0 := by
  rw [usableAtEnd, List.reverse_append, List.reverse_singleton, List.singleton_append,
    List.takeWhile_cons]
  split <;> rfl

/-- No run has more lines than are usable at the end of either text; and with the same text on both
sides all of them are in one. -/
def AtMostUsable (usable : String → Bool) (before seen : List String) (size : Nat) : Prop :=
  size ≤ usableAtEnd usable before ∧ size ≤ usableAtEnd usable seen ∧
    (before = seen → size = usableAtEnd usable seen)

theorem isKept_atMostUsable (usable : String → Bool) : IsKept usable (AtMostUsable usable) where
  noneOld := fun seen => ⟨Nat.zero_le _, Nat.zero_le _, fun h => by rw [← h]; rfl⟩
  noneNew := fun before => ⟨Nat.zero_le _, Nat.zero_le _, fun _ => rfl⟩
  grow := by
    rintro before seen line size husable ⟨hbefore, hseen, hsame⟩
    rw [AtMostUsable, usableAtEnd_concat, usableAtEnd_concat, if_pos husable, if_pos husable]
    refine ⟨Nat.succ_le_succ hbefore, Nat.succ_le_succ hseen, fun h => ?_⟩
    rw [hsame (List.append_cancel_right h)]
  differ := by
    intro before seen line other hdiffer
    refine ⟨Nat.zero_le _, Nat.zero_le _, fun h => ?_⟩
    obtain ⟨-, hline⟩ := List.append_inj' h rfl
    obtain rfl := List.singleton_inj.mp hline
    rw [usableAtEnd_concat, if_neg fun husable => hdiffer ⟨husable, rfl⟩]

/-- Whether the best run stands at one place in both of two equal texts, of which so many lines are
read, and has no fewer lines than are usable at the end of any of them. -/
def IsLevel (usable : String → Bool) (text : List String) (read : Nat) (best : Match) : Prop :=
  best.old = best.new ∧ ∀ count ≤ read, usableAtEnd usable (text.take count) ≤ best.size

/-- The better of the best run and the one that ends at a line of the old text and at one of the
new. It stands at one place in both texts: a run that does not is no longer than the one that ends
at the earlier of the two lines in both, which came before. -/
theorem isLevel_step {usable : String → Bool} {text : List String} {old new length : Nat}
    {best : Match}
    (hlength : AtMostUsable usable (text.take (old + 1)) (text.take (new + 1)) length)
    (hlevel : IsLevel usable text (if old < new then old + 1 else old) best) :
    IsLevel usable text (if old < new + 1 then old + 1 else old)
      (if best.size < length then ⟨old + 1 - length, new + 1 - length, length⟩ else best) := by
  obtain ⟨hold, hnew, hsame⟩ := hlength
  obtain ⟨hplace, hsize⟩ := hlevel
  rcases Nat.lt_trichotomy new old with hearlier | rfl | hlater
  · rw [if_neg (Nat.lt_asymm hearlier)] at hsize
    have hbest : length ≤ best.size := Nat.le_trans hnew (hsize _ hearlier)
    rw [if_neg (Nat.not_lt.mpr hbest), if_neg (Nat.not_lt.mpr hearlier)]
    exact ⟨hplace, hsize⟩
  · rw [if_neg (Nat.lt_irrefl new)] at hsize
    rw [if_pos (Nat.lt_succ_self new)]
    have hcount (count : Nat) (hcount : count ≤ new + 1) :
        usableAtEnd usable (text.take count) ≤ max best.size length := by
      rcases Nat.le_or_eq_of_le_succ hcount with hbefore | rfl
      · exact Nat.le_trans (hsize _ hbefore) (Nat.le_max_left ..)
      · rw [← hsame rfl]
        exact Nat.le_max_right ..
    split
    case isTrue hbetter => exact ⟨rfl, fun count h => by
      rw [← Nat.max_eq_right (Nat.le_of_lt hbetter)]
      exact hcount count h⟩
    case isFalse hworse => exact ⟨hplace, fun count h => by
      rw [← Nat.max_eq_left (Nat.not_lt.mp hworse)]
      exact hcount count h⟩
  · rw [if_pos hlater] at hsize
    have hbest : length ≤ best.size := Nat.le_trans hold (hsize _ (Nat.le_refl _))
    rw [if_neg (Nat.not_lt.mpr hbest), if_pos (Nat.lt_succ_of_lt hlater)]
    exact ⟨hplace, hsize⟩

/-- The best run stays level through a row. -/
theorem isLevel_bestOfRow {usable : String → Bool} {text seen lines : List String} {old : Nat}
    {lengths : List Nat} {best : Match} (htext : text = seen ++ lines)
    (hrow : RowHolds (AtMostUsable usable (text.take (old + 1))) seen lines lengths)
    (hlevel : IsLevel usable text (if old < seen.length then old + 1 else old) best) :
    IsLevel usable text (if old < text.length then old + 1 else old)
      (bestOfRow old seen.length lengths best) := by
  induction lines generalizing seen lengths best with
  | nil =>
    cases lengths with
    | nil => simpa [htext, bestOfRow] using hlevel
    | cons => exact hrow.elim
  | cons line lines ih =>
    cases lengths with
    | nil => exact hrow.elim
    | cons length lengths =>
      obtain ⟨hlength, hlengths⟩ := hrow
      have htext' : text = seen ++ [line] ++ lines := by simpa using htext
      have hseen : (seen ++ [line]).length = seen.length + 1 := by simp
      have htake : seen ++ [line] = text.take (seen.length + 1) := by
        rw [htext', ← hseen, List.take_left]
      rw [htake] at hlength
      have hstep := isLevel_step hlength hlevel
      rw [← hseen] at hstep
      have hnext := ih htext' hlengths hstep
      rwa [hseen] at hnext

/-- The best run of a search through equal texts is level. -/
theorem isLevel_bestFrom (usable : String → Bool) (text : List String) :
    IsLevel usable text text.length
      (bestFrom (text.map fun line => (line, usable line)) 0 text (text.map fun _ => 0)
        ⟨0, 0, 0⟩) := by
  have hkept := isKept_atMostUsable usable
  have hfirst : IsLevel usable text 0 ⟨0, 0, 0⟩ := by
    refine ⟨rfl, fun count hcount => ?_⟩
    rw [Nat.le_zero.mp hcount, List.take_zero]
    exact Nat.le_refl 0
  refine hkept.bestFrom (IsLevel usable text) ?_ (List.nil_append text).symm
    (hkept.firstRow [] text) hfirst
  intro before line after row best htext hrow hbest
  have htext' : text = before ++ [line] ++ after := by simpa using htext
  have hread : before.length < text.length := by simp [htext]
  have hlength : (before ++ [line]).length = before.length + 1 := by simp
  have htake : before ++ [line] = text.take (before.length + 1) := by
    rw [htext', ← hlength, List.take_left]
  rw [htake] at hrow
  have hlevel := isLevel_bestOfRow (List.nil_append text).symm hrow hbest
  rwa [if_pos hread] at hlevel

theorem commonLength_self (lines : List String) : commonLength lines lines = lines.length := by
  induction lines with
  | nil => rfl
  | cons line rest ih => rw [commonLength, if_pos (beq_self_eq_true line), ih, List.length_cons]

/-- The longest common run of a text with itself is the text. -/
theorem longestMatch_self (usable : String → Bool) (text : List String) :
    longestMatch usable text text = ⟨0, 0, text.length⟩ := by
  obtain ⟨before, newBefore, run, after, newAfter, hold, hnew, hbest⟩ :=
    isRun_bestFrom usable text text
  have hlevel := (isLevel_bestFrom usable text).1
  rw [hbest] at hlevel
  have hplace : before.length = newBefore.length := hlevel
  rw [List.append_assoc] at hold hnew
  obtain ⟨rfl, hrest⟩ := List.append_inj (hold.symm.trans hnew) hplace
  obtain rfl := List.append_cancel_left hrest
  rw [← List.append_assoc] at hold
  rw [longestMatch, hbest]
  conv => lhs; rw [hold]
  rw [extended_append, commonLength_self, commonLength_self, hold]
  simp [Nat.add_assoc]

end OperandCleanup.Diff
