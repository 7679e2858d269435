import Mathlib.Data.List.Forall2
import OperandCleanup.Proofs.Accounting
import OperandCleanup.Proofs.Selection

/-!
# The log of a cleanup

A pass logs an error as it meets it, and the run logs a summary of each stage, a warning where it
stops, and a closing line. The two have different sources: the passes go over records, the run reads
the outcomes. What is logged is still the outcomes told in order: nothing is logged that is not
reported, nothing reported is logged twice, and the texts of errors come through as they are.
-/

namespace OperandCleanup

/-- The event that tells of an error. -/
def DataError.event (error : DataError) : Event :=
  ⟨.error, error.transform ++ ": " ++ error.message⟩

/-- What is logged of a stage: its errors in order, a summary, and a warning if the run ends there
because it is to fail fast. -/
def StageEntry.log (failFast : Bool) (entry : StageEntry) (outcome : Outcome) : List Event :=
  outcome.errors.map DataError.event ++
    ⟨.debug, entry.stage ++ ": " ++ toString outcome.modified ++ " record(s) modified, " ++
      toString outcome.errors.length ++ " error(s)"⟩ ::
    if failFast = true ∧ outcome.ok = false then
      [⟨.warning, "Stopping after failed transform " ++ entry.stage⟩]
    else []

/-- What is logged of the stages of a run, one after the other. -/
def Run.stageLog (failFast : Bool) (run : Run) : List Event :=
  (run.stages.zip run.outcomes).flatMap fun (entry, outcome) => entry.log failFast outcome

/-- Whether a text says how a run ended: how many transforms it applied, or how many errors there
were, in which transforms, and the last of them. -/
structure Run.ClosedBy (run : Run) (text : String) : Prop where
  clean : run.errors = [] →
    text = "Cleanup finished: " ++ toString run.outcomes.length ++ " transform(s), no errors"
  failed : ∀ last, run.errors.getLast? = some last →
    text = "Cleanup finished with " ++ toString run.errors.length ++ " error(s) in " ++
      Text.joined ", " run.failedTransforms ++ "; last: " ++ last.describe

/-- Whether an event tells of an error that is given as a JSON value. -/
def Event.TellsOf (event : Event) (value : Json) : Prop :=
  ∃ (members : Json.Members) (transform message : String), value = .object members ∧
    members.get? "transform" = some (.string transform) ∧
    members.get? "message" = some (.string message) ∧ event = ⟨.error, transform ++ ": " ++ message⟩

/-! ## Passes -/

/-- An integer is shown in messages as it is written. -/
theorem Json.text_int (value : Int) : (Json.int value).text = toString value := by
  cases value with
  | ofNat n => rfl
  | negSucc n =>
    refine String.toList_inj.mp ?_
    change (String.ofList (writtenInt (Int.negSucc n))).toList = ("-" ++ Nat.repr (n + 1)).toList
    rw [writtenInt, if_pos (Int.negSucc_lt_zero n), String.toList_ofList, String.toList_append,
      Nat.toList_repr]
    rfl

namespace Pass

variable (pass : Pass)

/-- What a pass reports has its own name and no members in other than their usual form. -/
theorem errorFor?_plain {index : Nat} {record : Record} {error : DataError}
    (h : pass.errorFor? index record = some error) :
    error.transform = pass.name ∧ error.covers = [] := by
  refine ⟨(pass.isAbout_of_errorFor? h).transform, ?_⟩
  unfold errorFor? at h
  split at h
  · rw [← Option.some.inj h, errorAt]
  · rw [← Option.some.inj h, errorAt]
  · cases h

theorem plain_of_mem_scan_errors {index : Nat} {records : List Record} {error : DataError}
    (h : error ∈ (pass.scan index records).errors) :
    error.transform = pass.name ∧ error.covers = [] := by
  rw [scan_errors] at h
  obtain ⟨_, _, -, herror⟩ := pass.mem_errorsFrom.mp h
  exact pass.errorFor?_plain herror

/-- A pass logs the errors that it reports. -/
theorem apply_events (document : Document) :
    (pass.apply document).events = (pass.apply document).outcome.errors.map DataError.event := by
  refine List.map_congr_left fun error herror => ?_
  rw [errorEvent, DataError.event, (pass.plain_of_mem_scan_errors herror).1]

/-- The summary of a pass counts what it reports. -/
theorem summaryEvent_outcomeOf (records : List Record) :
    pass.stage.summaryEvent (Pipeline.outcomeOf pass records) =
      ⟨.debug, pass.name ++ ": " ++ toString (Pipeline.outcomeOf pass records).modified ++
        " record(s) modified, " ++ toString (Pipeline.outcomeOf pass records).errors.length ++
          " error(s)"⟩ := by
  have hmodified : (Pipeline.outcomeOf pass records).modifiedValue =
      .int (Pipeline.outcomeOf pass records).modified := rfl
  rw [Stage.summaryEvent, hmodified, Json.text_int]
  rfl

/-- What is logged of a pass that the run goes on after. -/
theorem log_of_go {failFast : Bool} {document : Document}
    (h : (failFast && !(pass.apply document).outcome.ok) = false) :
    (pass.apply document).events ++
        [pass.stage.summaryEvent (pass.stage.named (pass.apply document).outcome)] =
      (pass.stage.entry document (pass.apply document)).log failFast
        (pass.stage.named (pass.apply document).outcome) := by
  have hgo : ¬ (failFast = true ∧ (Pipeline.outcomeOf pass document.records).ok = false) := by
    rintro ⟨rfl, hok⟩
    have hfailed : (pass.apply document).outcome.ok = false := hok
    rw [hfailed] at h
    cases h
  rw [apply_events, Pipeline.named_stage, summaryEvent_outcomeOf, StageEntry.log, if_neg hgo]
  rfl

/-- What is logged of a pass that the run ends with. -/
theorem log_of_stop {failFast : Bool} {document : Document}
    (h : (failFast && !(pass.apply document).outcome.ok) = true) :
    (pass.apply document).events ++
        [pass.stage.summaryEvent (pass.stage.named (pass.apply document).outcome)] ++
          [pass.stage.stopEvent] =
      (pass.stage.entry document (pass.apply document)).log failFast
        (pass.stage.named (pass.apply document).outcome) := by
  simp only [Bool.and_eq_true, Bool.not_eq_true'] at h
  have hstop : failFast = true ∧ (Pipeline.outcomeOf pass document.records).ok = false := h
  rw [apply_events, Pipeline.named_stage, summaryEvent_outcomeOf, StageEntry.log, if_pos hstop,
    List.append_assoc]
  rfl

end Pass

/-! ## Runs -/

namespace Pipeline

/-- The stages of a run over passes log what they report, one after the other. -/
theorem runStages_events (failFast : Bool) (passes : List Pass) (document : Document) :
    (runStages failFast (passes.map Pass.stage) document).events =
      (runStages failFast (passes.map Pass.stage) document).stageLog failFast := by
  induction passes generalizing document with
  | nil => rfl
  | cons pass rest ih =>
    rw [List.map_cons]
    cases hstop : failFast && !(pass.apply document).outcome.ok with
    | true =>
      rw [runStages_cons_of_stop _ hstop]
      exact (pass.log_of_stop hstop).trans (List.append_nil _).symm
    | false =>
      rw [runStages_cons_of_go _ hstop]
      change _ ++ (runStages failFast _ _).events =
        _ ++ Run.stageLog failFast (runStages failFast _ _)
      rw [ih]
      exact congrArg (· ++ _) (pass.log_of_go hstop)

/-- Every error of a run over passes has its members in their usual form. -/
theorem covers_eq_nil_of_mem_errors {passes : List Pass} {document : Document} {error : DataError}
    (h : error ∈ (bestEffort passes document).errors) : error.covers = [] := by
  induction passes generalizing document with
  | nil => cases h
  | cons pass rest ih =>
    rw [Run.errors, bestEffort_outcomes_cons, List.flatMap_cons] at h
    rcases List.mem_append.mp h with hfirst | hrest
    · exact (pass.plain_of_mem_scan_errors hfirst).2
    · exact ih hrest

end Pipeline

namespace Run

/-- The error events of a log are those of the errors. -/
theorem filter_stageLog {run : Run} (h : run.stages.length = run.outcomes.length)
    (failFast : Bool) :
    (run.stageLog failFast).filter (·.level = .error) = run.errors.map DataError.event := by
  have hstage (entry : StageEntry) (outcome : Outcome) :
      (entry.log failFast outcome).filter (·.level = .error) =
        outcome.errors.map DataError.event := by
    have herrors : (outcome.errors.map DataError.event).filter (·.level = .error) =
        outcome.errors.map DataError.event := by
      refine List.filter_eq_self.mpr fun event hevent => ?_
      obtain ⟨error, -, rfl⟩ := List.mem_map.mp hevent
      rfl
    rw [StageEntry.log, List.filter_append, herrors]
    split <;> exact List.append_nil _
  have houtcomes : (run.stages.zip run.outcomes).map Prod.snd = run.outcomes :=
    List.map_snd_zip (Nat.le_of_eq h.symm)
  rw [stageLog, List.filter_flatMap, errors, List.map_flatMap]
  simp only [hstage]
  conv_rhs => rw [← houtcomes, List.flatMap_map]

/-- The closing event says how the run ended. -/
theorem exists_closedBy (run : Run) :
    ∃ text, run.closingEvent = ⟨.info, text⟩ ∧ run.ClosedBy text := by
  unfold closingEvent lastError?
  cases hlast : run.errors.getLast? with
  | none => exact ⟨_, rfl, fun _ => rfl, by simp [hlast]⟩
  | some last =>
    refine ⟨_, rfl, fun hnone => ?_, fun other hother => ?_⟩
    · rw [hnone] at hlast
      cases hlast
    · obtain rfl := Option.some.inj (hlast.symm.trans hother)
      rfl

end Run

/-- The event of an error tells of what the summary of a run gives for it. -/
theorem DataError.tellsOf_event {error : DataError} (h : error.covers = []) :
    error.event.TellsOf error.toJson := by
  refine ⟨error.toMembers, error.transform, error.message, rfl, ?_, ?_, rfl⟩
  · rw [toMembers, h]
    rfl
  · rw [toMembers, h]
    rfl

/-- A cleanup by a configuration logs what it reports: for each stage that was applied its errors,
each as the transform and the message, then a summary with the stage's name and numbers, then a
warning where the run is to fail fast and the stage has errors; and at the end one line that says
how the run ended. The error events are one for one and in order the errors that the summary of the
run gives. -/
theorem cleanup_events {config : Config} (h : config.KnownTo Registry.default)
    (document : Document) :
    ∃ (run : Run) (text : String), cleanup document config = .ok run ∧
      run.stages.length = run.outcomes.length ∧
      run.events = run.stageLog config.failFast ++ [⟨.info, text⟩] ∧ run.ClosedBy text ∧
      ∃ (members : Json.Members) (values : List Json), run.summary = .object members ∧
        members.get? "errors" = some (.array values) ∧
        List.Forall₂ Event.TellsOf (run.events.filter (·.level = .error)) values := by
  let stages := Pipeline.runStages config.failFast ((Pass.selected config).map Pass.stage) document
  have hlength : stages.stages.length = stages.outcomes.length :=
    (Pipeline.runStages_accounted _ _ document).length
  have hevents : stages.events = stages.stageLog config.failFast :=
    Pipeline.runStages_events config.failFast (Pass.selected config) document
  have hcovers : ∀ error ∈ stages.errors, error.covers = [] := by
    obtain ⟨applied, -, houtcomes, -, -⟩ :=
      Pipeline.exists_bestEffort config.failFast (Pass.selected config) document
    intro error herror
    have herror : error ∈ (Pipeline.bestEffort applied document).errors := by
      rw [Run.errors, ← houtcomes]
      exact herror
    exact Pipeline.covers_eq_nil_of_mem_errors herror
  obtain ⟨text, htext, hclosed⟩ := stages.exists_closedBy
  refine ⟨_, text, cleanup_selected h document, hlength, ?_, ⟨hclosed.clean, hclosed.failed⟩, _, _,
    rfl, rfl, ?_⟩
  · change stages.events ++ [stages.closingEvent] = _
    rw [hevents, htext]
    rfl
  · change List.Forall₂ Event.TellsOf
      ((stages.events ++ [stages.closingEvent]).filter (·.level = .error))
      (stages.errors.map DataError.toJson)
    rw [hevents, htext, List.filter_append, Run.filter_stageLog hlength]
    simp only [List.filter_cons, reduceCtorEq, decide_false, Bool.false_eq_true, if_false,
      List.filter_nil, List.append_nil]
    rw [List.forall₂_map_left_iff, List.forall₂_map_right_iff, List.forall₂_same]
    exact fun error herror => DataError.tellsOf_event (hcovers error herror)

/-- A comparison of bytes whose first operand has braces for its name. -/
def bracedComparison : Record where
  mnemonic := "CMPS"
  operands := [{ name := "\x7b0\x7d" }, { name := "m8" }]

/-- A cleanup of the comparison that fails fast logs its error with the braces as they are, stops
with a warning, and counts one error. -/
theorem cleanup_events_bracedComparison :
    ({ failFast := true } : Config).KnownTo Registry.default ∧
      ∃ run, cleanup ⟨[bracedComparison]⟩ { failFast := true } = .ok run ∧
        run.events =
          [⟨.error, "FixOperandsOfCmpsAndMovs: " ++
              "Unexpected operand of a CMPS/MOVS instruction: \x7b0\x7d"⟩,
            ⟨.debug, "FixOperandsOfCmpsAndMovs: 0 record(s) modified, 1 error(s)"⟩,
            ⟨.warning, "Stopping after failed transform FixOperandsOfCmpsAndMovs"⟩,
            ⟨.info, "Cleanup finished with 1 error(s) in FixOperandsOfCmpsAndMovs; last: " ++
              "[FixOperandsOfCmpsAndMovs] record #0 " ++
              "Unexpected operand of a CMPS/MOVS instruction: \x7b0\x7d"⟩] := by
  have hknown : ({ failFast := true } : Config).KnownTo Registry.default := by decide
  obtain ⟨run, text, hrun, -, hevents, hclosed, -⟩ := cleanup_events hknown ⟨[bracedComparison]⟩
  refine ⟨hknown, run, hrun, ?_⟩
  obtain rfl := Except.ok.inj ((cleanup_selected hknown _).symm.trans hrun)
  rw [hevents, hclosed.failed _ rfl]
  decide +kernel

end OperandCleanup
