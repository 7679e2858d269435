import OperandCleanup.Proofs.Stages

/-!
# Runs that fail fast

A run that is to fail fast is, up to the stage at which it ends, the run over the same stages that
goes on after failures. If no stage reports errors the two are the same run. Otherwise the one that
fails fast is a run over the stages up to the first that reports errors, that one included, with the
remark that it stopped: the stages after it leave no trace, neither in what is reported nor in the
document.
-/

namespace OperandCleanup

/-- The index of the first stage that reported errors. -/
def Run.firstFailure? (run : Run) : Option Nat := run.outcomes.findIdx? fun outcome => !outcome.ok

/-- A run that ended at a stage, with the remark that it did. -/
def Run.stoppedAt (run : Run) (stage : Option Stage) : Run :=
  { run with
    stoppedEarly := true
    events := run.events ++ (stage.map Stage.stopEvent).toList }

namespace Pipeline

/-- The first failure of a run that goes on after its first stage. -/
theorem firstFailure?_cons (stage : Stage) (rest : List Stage) (document : Document) :
    (runStages false (stage :: rest) document).firstFailure? =
      if (stage.transform.apply document).outcome.ok then
        (runStages false rest (stage.transform.apply document).document).firstFailure?.map (· + 1)
      else some 0 := by
  rw [runStages_cons_of_go rest (Bool.false_and _), Run.firstFailure?, List.findIdx?_cons,
    Stage.named_ok]
  cases (stage.transform.apply document).outcome.ok <;> rfl

/-- Whether a run is to fail fast makes no difference if no stage reports errors; otherwise it ends
the run at the first stage that does. -/
theorem runStages_failFast (stages : List Stage) (document : Document) :
    runStages true stages document =
      match (runStages false stages document).firstFailure? with
      | none => runStages false stages document
      | some index =>
        (runStages false (stages.take (index + 1)) document).stoppedAt stages[index]? := by
  induction stages generalizing document with
  | nil => rfl
  | cons stage rest ih =>
    rw [firstFailure?_cons]
    cases hok : (stage.transform.apply document).outcome.ok with
    | false =>
      rw [runStages_cons_of_stop rest (by rw [hok]; rfl), if_neg Bool.false_ne_true]
      simp only [List.take_succ_cons, List.take_zero, List.getElem?_cons_zero]
      rw [runStages_cons_of_go _ (Bool.false_and _)]
      simp only [Run.stoppedAt, runStages, List.append_nil, Option.map_some, Option.toList_some]
    | true =>
      rw [runStages_cons_of_go rest (by rw [hok]; rfl), ih, if_pos rfl]
      cases (runStages false rest (stage.transform.apply document).document).firstFailure? with
      | none => exact (runStages_cons_of_go rest (Bool.false_and _)).symm
      | some index =>
        simp only [Option.map_some, List.take_succ_cons, List.getElem?_cons_succ]
        rw [runStages_cons_of_go _ (Bool.false_and _)]
        simp only [Run.stoppedAt, List.append_assoc]

/-- A run that fails fast is a first part of the run that goes on after failures. The latter does
not stop early and has an outcome for each stage. If none of its outcomes has errors the two runs
are the same; otherwise the one that fails fast has the outcomes and the entries up to the first
outcome with errors, that one included, has stopped early, and leaves the document that the stages
up to there leave by themselves. -/
theorem run_failFast (stages : List Stage) (document : Document) :
    let best := run false stages document
    let fast := run true stages document
    best.stoppedEarly = false ∧ best.outcomes.length = stages.length ∧
      match best.firstFailure? with
      | none => fast = best
      | some index =>
        fast.outcomes = best.outcomes.take (index + 1) ∧
          fast.stages = best.stages.take (index + 1) ∧ fast.stoppedEarly = true ∧
          fast.document = (run false (stages.take (index + 1)) document).document := by
  intro best fast
  refine ⟨runStages_stoppedEarly stages document, length_runStages_outcomes stages document, ?_⟩
  have hfast := runStages_failFast stages document
  have hbest : best.firstFailure? = (runStages false stages document).firstFailure? := rfl
  rw [hbest]
  cases hfailure : (runStages false stages document).firstFailure? with
  | none =>
    simp only [hfailure] at hfast
    simp only [fast, best, run, hfast]
  | some index =>
    simp only [hfailure] at hfast
    obtain ⟨houtcomes, hstages⟩ := runStages_take (index + 1) stages document
    simp only [fast, best, run, hfast]
    exact ⟨houtcomes, hstages, rfl, rfl⟩

end Pipeline

end OperandCleanup
