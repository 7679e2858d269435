import OperandCleanup.Pipeline

/-!
# Runs stage by stage

A run applies its first stage and goes on from the document that this leaves, unless it is to fail
fast and the stage reports errors; then it ends there. What follows is about stages with any
transforms, and most of it about runs that go on after failures. Such a run has an outcome and an
entry for each stage. It can be cut anywhere: it is the run over the first stages, followed by the
run over the others from the document that was left.
-/

namespace OperandCleanup

namespace Stage

variable (stage : Stage) (outcome : Outcome)

/-- A name does not change what an outcome reports. -/
@[simp] theorem named_errors : (stage.named outcome).errors = outcome.errors := by
  unfold named
  split <;> rfl

@[simp] theorem named_ok : (stage.named outcome).ok = outcome.ok := by
  rw [Outcome.ok, Outcome.ok, named_errors]

end Stage

/-- What a run and a later one from the document that it left amount to. -/
def Run.followedBy (run later : Run) : Run where
  document := later.document
  outcomes := run.outcomes ++ later.outcomes
  stages := run.stages ++ later.stages
  stoppedEarly := later.stoppedEarly
  events := run.events ++ later.events

namespace Pipeline

variable {failFast : Bool} {stage : Stage} {document : Document}

/-! ## One stage -/

/-- A run that is to fail fast ends with a stage that reports errors. -/
theorem runStages_cons_of_stop (rest : List Stage)
    (h : (failFast && !(stage.transform.apply document).outcome.ok) = true) :
    runStages failFast (stage :: rest) document =
      { document := (stage.transform.apply document).document
        outcomes := [stage.named (stage.transform.apply document).outcome]
        stages := [stage.entry document (stage.transform.apply document)]
        stoppedEarly := true
        events := (stage.transform.apply document).events ++
          [stage.summaryEvent (stage.named (stage.transform.apply document).outcome)] ++
            [stage.stopEvent] } := by
  rw [runStages, Stage.named_ok, if_pos h]

/-- Otherwise the run goes on from the document that the stage leaves. -/
theorem runStages_cons_of_go (rest : List Stage)
    (h : (failFast && !(stage.transform.apply document).outcome.ok) = false) :
    runStages failFast (stage :: rest) document =
      { runStages failFast rest (stage.transform.apply document).document with
        outcomes := stage.named (stage.transform.apply document).outcome ::
          (runStages failFast rest (stage.transform.apply document).document).outcomes
        stages := stage.entry document (stage.transform.apply document) ::
          (runStages failFast rest (stage.transform.apply document).document).stages
        events := (stage.transform.apply document).events ++
          [stage.summaryEvent (stage.named (stage.transform.apply document).outcome)] ++
            (runStages failFast rest (stage.transform.apply document).document).events } := by
  rw [runStages, Stage.named_ok, h]
  rfl

/-! ## Runs that go on after failures -/

/-- A run that goes on after failures does not stop early. -/
theorem runStages_stoppedEarly (stages : List Stage) (document : Document) :
    (runStages false stages document).stoppedEarly = false := by
  induction stages generalizing document with
  | nil => rfl
  | cons stage rest ih =>
    rw [runStages_cons_of_go rest (Bool.false_and _)]
    exact ih (stage.transform.apply document).document

/-- A run that goes on after failures has an outcome for each stage. -/
theorem length_runStages_outcomes (stages : List Stage) (document : Document) :
    (runStages false stages document).outcomes.length = stages.length := by
  induction stages generalizing document with
  | nil => rfl
  | cons stage rest ih =>
    rw [runStages_cons_of_go rest (Bool.false_and _), List.length_cons, List.length_cons, ih]

/-- The first stages alone have the first outcomes and entries. -/
theorem runStages_take (count : Nat) (stages : List Stage) (document : Document) :
    (runStages false (stages.take count) document).outcomes =
        (runStages false stages document).outcomes.take count ∧
      (runStages false (stages.take count) document).stages =
        (runStages false stages document).stages.take count := by
  induction stages generalizing count document with
  | nil => simp [runStages]
  | cons stage rest ih =>
    cases count with
    | zero => exact ⟨rfl, rfl⟩
    | succ count =>
      obtain ⟨houtcomes, hstages⟩ := ih count (stage.transform.apply document).document
      rw [List.take_succ_cons, runStages_cons_of_go _ (Bool.false_and _),
        runStages_cons_of_go _ (Bool.false_and _)]
      exact ⟨congrArg (List.cons _) houtcomes, congrArg (List.cons _) hstages⟩

/-- A run that goes on after failures does the first stages and then the others. -/
theorem runStages_append (stages later : List Stage) (document : Document) :
    runStages false (stages ++ later) document =
      (runStages false stages document).followedBy
        (runStages false later (runStages false stages document).document) := by
  induction stages generalizing document with
  | nil => rfl
  | cons stage rest ih =>
    rw [List.cons_append, runStages_cons_of_go _ (Bool.false_and _), ih,
      runStages_cons_of_go _ (Bool.false_and _)]
    simp only [Run.followedBy, List.cons_append, List.append_assoc]

end Pipeline

end OperandCleanup
