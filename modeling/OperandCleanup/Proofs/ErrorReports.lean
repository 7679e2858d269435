import Mathlib.Data.List.Basic
import OperandCleanup.Proofs.Concatenation
import OperandCleanup.Proofs.Frame
import OperandCleanup.Proofs.Idempotence

/-!
# Errors and the records that they are about

An error names its record by the index at which the record stood when the pass met it. A pass
reports each record at most once, in order, and leaves what it reports as it was.

The index is good for the document that a whole run leaves, although passes add records. They add
them at the end, and of two passes of which the earlier one adds records, the later one reports
nothing. So whatever is reported is about a record that the run began with, at its place, and that
record keeps its mnemonic.
-/

namespace OperandCleanup

namespace Pass

variable (pass : Pass)

/-! ## One application -/

/-- The errors name the indices of the records that are not accepted, in order. -/
theorem map_recordIndex_errorsFrom (first : Nat) (records : List Record) :
    (pass.errorsFrom first records).map (·.recordIndex) =
      (records.findIdxs (fun record => !pass.accepts record) first).map
        fun index : Nat => some (index : Int) := by
  induction records generalizing first with
  | nil => rfl
  | cons record rest ih =>
    rw [errorsFrom, List.map_append, ih, List.findIdxs_cons]
    cases herror : pass.errorFor? first record with
    | none => simp [(pass.errorFor?_eq_none_iff first record).mp herror]
    | some error =>
      simp [pass.accepts_of_errorFor? herror, (pass.isAbout_of_errorFor? herror).recordIndex]

/-- The errors of a scan are about ever later records. -/
theorem exists_indices_scan_errors (records : List Record) :
    ∃ indices : List Nat, indices.Pairwise (· < ·) ∧
      (pass.scan 0 records).errors.map (·.recordIndex) =
        indices.map fun index : Nat => some (index : Int) := by
  rw [scan_errors, map_recordIndex_errorsFrom]
  exact ⟨_, List.pairwise_findIdxs, rfl⟩

/-- A record that a pass reaches is one of the document, at the same index. -/
theorem getElem?_of_reached {records : List Record} {index : Nat} {record : Record}
    (h : (pass.reached records)[index]? = some record) : records[index]? = some record := by
  rw [reached_eq_take, List.getElem?_take] at h
  split at h
  · exact h
  · cases h

/-- An error of a scan is about a record that the pass does not accept, and that it leaves. -/
theorem exists_of_mem_scan_errors {records : List Record} {error : DataError}
    (h : error ∈ (pass.scan 0 records).errors) :
    ∃ index record, records[index]? = some record ∧ error.IsAbout pass.name index record ∧
      pass.accepts record = false ∧ (pass.swept records)[index]? = some record := by
  rw [scan_errors] at h
  obtain ⟨index, record, hreached, herror⟩ := pass.mem_errorsFrom.mp h
  rw [Nat.zero_add] at herror
  have hrecord := pass.getElem?_of_reached hreached
  have hreported := pass.accepts_of_errorFor? herror
  refine ⟨index, record, hrecord, pass.isAbout_of_errorFor? herror, hreported, ?_⟩
  rw [swept_getElem?, hrecord, Option.map_some, (revise_and_additions_of_not_accepts hreported).1,
    ite_self]

end Pass

namespace Pipeline

/-! ## A run -/

/-- Each outcome is that of a pass about the records that the passes before it left. -/
theorem exists_of_mem_reports {passes : List Pass} {records : List Record} {outcome : Outcome}
    (h : outcome ∈ reports passes records) :
    ∃ before pass after, passes = before ++ pass :: after ∧
      outcome = outcomeOf pass (through before records) := by
  induction passes generalizing records with
  | nil => exact absurd h List.not_mem_nil
  | cons first rest ih =>
    rcases List.mem_cons.mp h with hfirst | hrest
    · exact ⟨[], first, rest, rfl, hfirst⟩
    · obtain ⟨before, pass, after, hsplit, houtcome⟩ := ih hrest
      exact ⟨first :: before, pass, after, congrArg (List.cons first) hsplit, houtcome⟩

/-- Of two passes, the earlier one adds no records or the later one reports none. -/
def Ordered (earlier later : Pass) : Prop :=
  (∀ record, earlier.additions record = []) ∨ ∀ record, later.accepts record = true

/-- The passes of the library are ordered. -/
theorem ordered_standard : Pass.standard.Pairwise Ordered := by
  rw [standard_eq_counting, List.pairwise_append, List.pairwise_cons]
  refine ⟨List.pairwise_of_forall_mem_list ?_, ⟨?_, List.pairwise_of_forall_mem_list ?_⟩, ?_⟩
  · exact fun earlier hearlier _ _ => Or.inl (additions_of_mem_counting hearlier)
  · exact fun later hlater => Or.inr (Pass.accepts_of_mem_last hlater)
  · exact fun _ _ later hlater => Or.inr (Pass.accepts_of_mem_last hlater)
  · exact fun earlier hearlier _ _ => Or.inl (additions_of_mem_counting hearlier)

/-- An error that some of the passes of the library report is about a record at its place, which
still has its mnemonic when all of them are through. -/
theorem exists_left_of_mem_reports {passes : List Pass} (h : passes.Sublist Pass.standard)
    {records : List Record} {error : DataError}
    (herror : error ∈ (reports passes records).flatMap (·.errors)) :
    ∃ index left, index < records.length ∧ error.recordIndex = some (index : Int) ∧
      (through passes records)[index]? = some left ∧ left.mnemonic = error.mnemonic := by
  obtain ⟨outcome, houtcome, herror⟩ := List.mem_flatMap.mp herror
  obtain ⟨before, pass, after, rfl, rfl⟩ := exists_of_mem_reports houtcome
  obtain ⟨index, record, hrecord, habout, hreported, -⟩ := pass.exists_of_mem_scan_errors herror
  -- The pass reports something, so the passes before it have added nothing.
  have hadded : ∀ earlier ∈ before, ∀ record, earlier.additions record = [] := by
    intro earlier hearlier
    have hordered := (List.pairwise_append.mp (ordered_standard.sublist h)).2.2
    rcases hordered earlier hearlier pass List.mem_cons_self with hnone | haccepts
    · exact hnone
    · exact absurd (haccepts record) (Bool.eq_false_iff.mp hreported)
  have hindex : index < records.length := by
    rw [← length_through hadded records]
    exact (List.getElem?_eq_some_iff.mp hrecord).1
  have hbefore : before.Sublist Pass.standard := (List.sublist_append_left _ _).trans h
  obtain ⟨met, hmet, halike, -⟩ := through_framed hbefore (List.getElem?_eq_getElem hindex)
  obtain ⟨left, hleft, hlast, -⟩ := through_framed h (List.getElem?_eq_getElem hindex)
  obtain rfl := Option.some.inj (hmet.symm.trans hrecord)
  exact ⟨index, left, hindex, habout.recordIndex, hleft,
    hlast.mnemonic.trans (halike.mnemonic.symm.trans habout.mnemonic.symm)⟩

end Pipeline

/-- The passes that report nothing are known by their names. -/
theorem mem_closingPasses_of_name {pass : Pass} (h : pass ∈ Pass.standard)
    (hname : pass.name ∈
      ["RenameOperands", "RemoveImplicitST0Operand", "RemoveImplicitXmm0Operand"]) :
    pass ∈ Pipeline.closingPasses := by
  have hothers : ∀ name ∈ (Pipeline.countingPasses ++ [Pass.generalRegister]).map (·.name),
      name ∉ ["RenameOperands", "RemoveImplicitST0Operand", "RemoveImplicitXmm0Operand"] := by
    decide
  rw [Pipeline.standard_eq_counting, List.append_cons, List.mem_append] at h
  rcases h with hother | hclosing
  · exact absurd hname (hothers pass.name (List.mem_map_of_mem hother))
  · exact hclosing

/-- A transform of the default registry reports records of its document, each at most once and in
order, by its own name and the mnemonic of the record, and it leaves the records that it reports;
three of the transforms report none. In a cleanup by a configuration, every error is about a record
that the document began with, and at its index the document that is left has a record of the
mnemonic that the error gives. -/
theorem errors_addressed (document : Document) :
    (∀ entry ∈ Registry.default.entries,
      let application := entry.transform.apply document
      (∃ indices : List Nat, indices.Pairwise (· < ·) ∧
        application.outcome.errors.map (·.recordIndex) =
          indices.map fun index : Nat => some (index : Int)) ∧
      (∀ error ∈ application.outcome.errors, ∃ index record, index < document.size ∧
        document.records[index]? = some record ∧
        error.IsAbout entry.transform.name index record ∧
        application.document.records[index]? = some record) ∧
      (entry.transform.name ∈
          ["RenameOperands", "RemoveImplicitST0Operand", "RemoveImplicitXmm0Operand"] →
        application.outcome.errors = [])) ∧
    ∀ config : Config, config.KnownTo Registry.default →
      ∃ run, cleanup document config = .ok run ∧
        ∀ error ∈ run.errors, ∃ index left, index < document.size ∧
          error.recordIndex = some (index : Int) ∧ run.document.records[index]? = some left ∧
          left.mnemonic = error.mnemonic := by
  constructor
  · intro entry hentry application
    obtain ⟨pass, hpass, htransform⟩ := exists_pass_of_mem_passEntries hentry
    have herrors : application.outcome.errors = (pass.scan 0 document.records).errors := by
      simp only [application, htransform]
      rfl
    have hrecords : application.document.records =
        pass.swept document.records ++ pass.appended document.records := by
      simp only [application, htransform]
      exact pass.apply_records document
    rw [herrors, hrecords, htransform]
    refine ⟨pass.exists_indices_scan_errors _, fun error herror => ?_, fun hname => ?_⟩
    · obtain ⟨index, record, hrecord, habout, -, hswept⟩ := pass.exists_of_mem_scan_errors herror
      have hindex := (List.getElem?_eq_some_iff.mp hrecord).1
      refine ⟨index, record, hindex, hrecord, habout, ?_⟩
      rwa [List.getElem?_append_left (by rwa [Pass.length_swept])]
    · exact Pipeline.errors_outcomeOf_of_mem_closing (mem_closingPasses_of_name hpass hname) _
  · intro config hconfig
    obtain ⟨run, applied, hrun, happlied, houtcomes, -, hdocument⟩ :=
      cleanup_bestEffort hconfig document
    refine ⟨run, hrun, fun error herror => ?_⟩
    rw [Run.errors, houtcomes, Pipeline.bestEffort_outcomes] at herror
    rw [hdocument, Pipeline.bestEffort_records]
    exact Pipeline.exists_left_of_mem_reports happlied herror

end OperandCleanup
