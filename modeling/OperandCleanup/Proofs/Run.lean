import OperandCleanup.Cleanup
import OperandCleanup.Proofs.Scan
import OperandCleanup.Proofs.Stages

/-!
# Best-effort runs of passes

A run that does not fail fast applies every pass, each to the records that the one before it left.
So what it leaves and what it reports are determined by the passes in turn: the errors of a stage
are those of its pass about the records that the earlier passes left, and a run is clean when every
pass accepts every record that reaches it. A cleanup by default is such a run of the passes of the
library.
-/

namespace OperandCleanup

@[simp] theorem Pass.stage_apply (pass : Pass) : pass.stage.transform.apply = pass.apply := rfl

/-- The errors that the stages of a name report about the record at an index. -/
def Run.errorsAt (run : Run) (name : String) (index : Nat) : List DataError :=
  (run.outcomes.filter (·.transform == name)).flatMap fun outcome =>
    outcome.errors.filter (·.recordIndex == some (index : Int))

namespace Pipeline

/-- The records that passes leave when they are applied one after the other. -/
def through : List Pass → List Record → List Record
  | [], records => records
  | pass :: rest, records => through rest (pass.swept records ++ pass.appended records)

/-- What passes make of a record in its place. -/
def revised : List Pass → Record → Record
  | [], record => record
  | pass :: rest, record => revised rest (pass.revise record)

/-- Whether passes accept a record and all that they make of it on the way. -/
def Accepted : List Pass → Record → Prop
  | [], _ => True
  | pass :: rest, record =>
    pass.accepts record = true ∧ Accepted rest (pass.revise record) ∧
      ∀ added ∈ pass.additions record, Accepted rest added

/-- The run that applies every pass, whatever the passes before it report. -/
def bestEffort (passes : List Pass) (document : Document) : Run :=
  run false (passes.map Pass.stage) document

/-- What a pass reports of one application. -/
def outcomeOf (pass : Pass) (records : List Record) : Outcome where
  transform := pass.name
  errors := (pass.scan 0 records).errors
  modified := (pass.scan 0 records).modified

/-- A later pass works on what an earlier one left. -/
theorem through_append (before after : List Pass) (records : List Record) :
    through (before ++ after) records = through after (through before records) := by
  induction before generalizing records with
  | nil => rfl
  | cons pass before ih => exact ih _

/-- Passes that only revise records leave the revisions of all of them. -/
theorem through_of_recordWise {passes : List Pass} (h : ∀ pass ∈ passes, pass.RecordWise)
    (records : List Record) : through passes records = records.map (revised passes) := by
  induction passes generalizing records with
  | nil => exact (List.map_id' records).symm
  | cons pass rest ih =>
    have hfirst := h pass (by simp)
    rw [through, hfirst.swept_append_appended, ih fun other hother => h other (by simp [hother]),
      List.map_map]
    rfl

/-- What later passes are handed is what earlier ones make of a record. -/
theorem revised_append (before after : List Pass) (record : Record) :
    revised (before ++ after) record = revised after (revised before record) := by
  induction before generalizing record with
  | nil => rfl
  | cons pass before ih => exact ih _

/-- Passes that all decide to leave a record leave it. -/
theorem revised_of_forall {passes : List Pass} {record : Record}
    (h : ∀ pass ∈ passes, pass.judge record = .unchanged) : revised passes record = record := by
  induction passes with
  | nil => rfl
  | cons pass rest ih =>
    rw [revised, Pass.revise_of_unchanged (h pass (by simp))]
    exact ih fun other hother => h other (by simp [hother])

/-- Passes that only revise records hand on what they make of a record that they accept. -/
theorem accepted_append {before : List Pass} (h : ∀ pass ∈ before, pass.RecordWise)
    (after : List Pass) (record : Record) :
    Accepted (before ++ after) record ↔
      Accepted before record ∧ Accepted after (revised before record) := by
  induction before generalizing record with
  | nil => exact (and_iff_right trivial).symm
  | cons pass before ih =>
    have hadded := (h pass (by simp) record).2
    have hrest := ih (fun other hother => h other (by simp [hother])) (pass.revise record)
    simp [Accepted, revised, hadded, hrest, and_assoc]

/-- Passes that all decide to leave a record accept it. -/
theorem accepted_of_unchanged {passes : List Pass} {record : Record}
    (h : ∀ pass ∈ passes, pass.judge record = .unchanged) : Accepted passes record := by
  induction passes with
  | nil => trivial
  | cons pass rest ih =>
    have hfirst := h pass (by simp)
    have hadded : pass.additions record = [] := by
      rw [Pass.additions, hfirst]
      rfl
    have hrest := ih fun other hother => h other (by simp [hother])
    simpa [Accepted, Pass.accepts_of_unchanged hfirst, Pass.revise_of_unchanged hfirst, hadded]

/-- Passes that only revise records and report none accept every record. -/
theorem accepted_of_forall {passes : List Pass}
    (h : ∀ pass ∈ passes, pass.RecordWise ∧ ∀ record, pass.accepts record = true)
    (record : Record) : Accepted passes record := by
  induction passes generalizing record with
  | nil => trivial
  | cons pass rest ih =>
    obtain ⟨hrecords, haccepts⟩ := h pass (by simp)
    have hrest := ih (fun other hother => h other (by simp [hother])) (pass.revise record)
    simpa [Accepted, haccepts, (hrecords record).2]

/-- The stage of a pass keeps the outcome that the pass reports. -/
theorem named_stage (pass : Pass) (document : Document) :
    pass.stage.named (pass.apply document).outcome = outcomeOf pass document.records := by
  unfold Stage.named
  split
  · rename_i hname
    have hname : pass.name = "" := hname
    simp [Pass.stage, Pass.apply, outcomeOf, hname, Json.Members.without]
  · rfl

/-- The outcome of the first pass comes first. -/
theorem bestEffort_outcomes_cons (pass : Pass) (rest : List Pass) (document : Document) :
    (bestEffort (pass :: rest) document).outcomes =
      outcomeOf pass document.records ::
        (bestEffort rest (pass.apply document).document).outcomes := by
  simp only [bestEffort, run, List.map_cons, runStages, Pass.stage_apply, Bool.false_and,
    Bool.false_eq_true, ↓reduceIte, named_stage]

/-- A best-effort run leaves what its passes leave one after the other. -/
theorem bestEffort_records (passes : List Pass) (document : Document) :
    (bestEffort passes document).document.records = through passes document.records := by
  induction passes generalizing document with
  | nil => rfl
  | cons pass rest ih =>
    have hrest : (bestEffort (pass :: rest) document).document =
        (bestEffort rest (pass.apply document).document).document := rfl
    rw [hrest, ih, Pass.apply_records]
    rfl

/-- A best-effort run leaves the document of the records that its passes leave. -/
theorem bestEffort_document (passes : List Pass) (document : Document) :
    (bestEffort passes document).document = ⟨through passes document.records⟩ :=
  congrArg Document.mk (bestEffort_records passes document)

/-- The outcomes of later passes follow those of earlier ones. -/
theorem bestEffort_outcomes_append (before after : List Pass) (document : Document) :
    (bestEffort (before ++ after) document).outcomes =
      (bestEffort before document).outcomes ++
        (bestEffort after (bestEffort before document).document).outcomes := by
  rw [bestEffort, List.map_append]
  exact congrArg Run.outcomes (runStages_append _ _ document)

/-- Each outcome carries the name of its pass. -/
theorem bestEffort_outcomes_names (passes : List Pass) (document : Document) :
    (bestEffort passes document).outcomes.map (·.transform) = passes.map (·.name) := by
  induction passes generalizing document with
  | nil => rfl
  | cons pass rest ih => simp [bestEffort_outcomes_cons, ih, outcomeOf]

/-- Passes of other names have no outcome under a name. -/
theorem bestEffort_outcomes_filter_eq_nil (passes : List Pass) (document : Document) (name : String)
    (h : ∀ pass ∈ passes, pass.name ≠ name) :
    (bestEffort passes document).outcomes.filter (·.transform == name) = [] := by
  rw [List.filter_eq_nil_iff]
  intro outcome houtcome
  have hname : outcome.transform ∈ passes.map (·.name) := by
    rw [← bestEffort_outcomes_names passes document]
    exact List.mem_map_of_mem houtcome
  obtain ⟨pass, hpass, hname⟩ := List.mem_map.mp hname
  simp [← hname, h pass hpass]

/-- A stage reports what its pass finds among the records that the passes before it left. -/
theorem errorsAt_bestEffort (before after : List Pass) (pass : Pass) (document : Document)
    (index : Nat) (hbefore : ∀ other ∈ before, other.name ≠ pass.name)
    (hafter : ∀ other ∈ after, other.name ≠ pass.name) :
    (bestEffort (before ++ pass :: after) document).errorsAt pass.name index =
      ((pass.reached (through before document.records))[index]?.bind
        (pass.errorFor? index)).toList := by
  unfold Run.errorsAt
  rw [bestEffort_outcomes_append, bestEffort_outcomes_cons, List.filter_append, List.filter_cons,
    bestEffort_outcomes_filter_eq_nil before document pass.name hbefore,
    bestEffort_outcomes_filter_eq_nil after _ pass.name hafter]
  simp [outcomeOf, bestEffort_records, Pass.scan_errors_filter]

/-- A run is clean exactly when its passes accept every record and all that they make of it. -/
theorem bestEffort_ok_iff (passes : List Pass) (document : Document) :
    (bestEffort passes document).ok = true ↔
      ∀ record ∈ document.records, Accepted passes record := by
  induction passes generalizing document with
  | nil => simp [Accepted, bestEffort, run, runStages, Run.ok]
  | cons pass rest ih =>
    have hfirst : (outcomeOf pass document.records).ok = true ↔
        ∀ record ∈ document.records, pass.accepts record = true := by
      simp [Outcome.ok, outcomeOf, Pass.scan_errors_eq_nil_iff]
    have hrest : (bestEffort (pass :: rest) document).ok =
        ((outcomeOf pass document.records).ok &&
          (bestEffort rest (pass.apply document).document).ok) := by
      simp [Run.ok, bestEffort_outcomes_cons]
    -- A pass that reports nothing has reached every record, so all of them are revised.
    rw [hrest, Bool.and_eq_true, hfirst, ih, Pass.apply_records]
    constructor
    · rintro ⟨haccepts, hothers⟩ record hrecord
      have hgo : ∀ other ∈ document.records, pass.stopsAt other = false :=
        fun other hother => pass.stopsAt_of_accepts (haccepts other hother)
      refine ⟨haccepts record hrecord, hothers _ ?_, fun added hadded => hothers added ?_⟩
      · rw [pass.swept_of_forall hgo]
        exact List.mem_append_left _ (List.mem_map_of_mem hrecord)
      · rw [Pass.appended, pass.reached_of_forall hgo]
        exact List.mem_append_right _ (List.mem_flatMap.mpr ⟨record, hrecord, hadded⟩)
    · intro h
      have haccepts : ∀ record ∈ document.records, pass.accepts record = true :=
        fun record hrecord => (h record hrecord).1
      have hgo : ∀ other ∈ document.records, pass.stopsAt other = false :=
        fun other hother => pass.stopsAt_of_accepts (haccepts other hother)
      refine ⟨haccepts, fun left hleft => ?_⟩
      rw [pass.swept_of_forall hgo, Pass.appended, pass.reached_of_forall hgo] at hleft
      rcases List.mem_append.mp hleft with hleft | hleft
      · obtain ⟨record, hrecord, rfl⟩ := List.mem_map.mp hleft
        exact (h record hrecord).2.1
      · obtain ⟨record, hrecord, hadded⟩ := List.mem_flatMap.mp hleft
        exact (h record hrecord).2.2 left hadded

end Pipeline

/-! ## Cleaning up by default -/

/-- Entries for passes are stages for them. -/
theorem map_stage_passEntries (sequence : Nat) (passes : List Pass) :
    (Registry.passEntries sequence passes).map Entry.stage = passes.map Pass.stage := by
  induction passes generalizing sequence with
  | nil => rfl
  | cons pass rest ih => simp [Registry.passEntries, ih, Entry.stage, Pass.stage]

/-- The passes of the library run in the order in which they are registered. -/
theorem byPriority_default : Registry.default.byPriority = Registry.default.entries := by
  refine List.mergeSort_of_pairwise ?_
  simp [Registry.default, Pass.standard, Registry.passEntries, Entry.before]

/-- Without names to go by, all of the passes are selected. -/
theorem select_default : Registry.default.select [] [] = .ok Registry.default.entries := by
  simp [Registry.select, byPriority_default]

/-- A cleanup by default runs every pass of the library, whatever the passes before it report. -/
theorem cleanup_default (document : Document) :
    cleanup document = .ok (Pipeline.bestEffort Pass.standard document) := by
  have hstages : Registry.default.entries.map Entry.stage = Pass.standard.map Pass.stage :=
    map_stage_passEntries 0 Pass.standard
  unfold cleanup Registry.orDefault
  rw [select_default]
  simp only [Pipeline.bestEffort, ← hstages]
  rfl

end OperandCleanup
