import OperandCleanup.Proofs.Stages
import OperandCleanup.Report.Summary

/-!
# The account of a run

A run accounts for itself in several ways: by the outcomes of its stages, by an entry for each stage
that was written when the stage was over, and by a summary. Whatever the transforms do, these tell
the same. The entries are as many as the outcomes; their counts of records follow on each other,
from the size of the document that the run began with to the size of the one it leaves; their texts
are the errors of the outcomes, in order; and the summary is known from the entries and the errors.
-/

namespace OperandCleanup

/-- Whether the entries of a run fit what the run reports and leaves, if it began with some number
of records. -/
structure Run.Accounted (run : Run) (size : Nat) : Prop where
  length : run.stages.length = run.outcomes.length
  /-- Each entry begins with as many records as the one before it ended with; the first begins with
  as many as the run, and the last ends with as many as the run leaves. -/
  counts : run.stages.map (·.recordsBefore) ++ [run.document.size] =
    size :: run.stages.map (·.recordsAfter)
  texts : run.stages.map (·.errors) =
    run.outcomes.map fun outcome => outcome.errors.map (·.describe)

/-- The last of some texts is given as null exactly when there are none. -/
theorem lastText_eq_null_iff (texts : List String) :
    (texts.getLast?.map Json.string).getD .null = .null ↔ texts.isEmpty = true := by
  cases texts with
  | nil => simp
  | cons text rest => simp [List.getLast?_cons]

namespace Run

variable {run : Run} {size : Nat}

/-- The texts of the entries are those of the errors, in order. -/
theorem Accounted.flatMap_errors (h : run.Accounted size) :
    run.stages.flatMap (·.errors) = run.errors.map (·.describe) := by
  rw [List.flatMap_def, h.texts, errors, List.map_flatMap, List.flatMap_def]

/-- A run is without errors exactly when none of its stages reports any. -/
theorem ok_eq_isEmpty_errors (run : Run) : run.ok = run.errors.isEmpty := by
  rw [Bool.eq_iff_iff, List.isEmpty_iff, errors, List.flatMap_eq_nil_iff, ok, List.all_eq_true]
  exact forall₂_congr fun outcome _ => List.isEmpty_iff

/-- The summary of a run that is accounted for; what it says of failure is read off the entries. -/
theorem Accounted.summary (h : run.Accounted size) :
    run.summary =
      .object [("ok", .bool (run.stages.flatMap (·.errors)).isEmpty),
        ("stopped_early", .bool run.stoppedEarly), ("record_count", .int run.document.size),
        ("stages", .array (run.stages.map StageEntry.toJson)),
        ("errors", .array (run.errors.map DataError.toJson)),
        ("last_error", ((run.stages.flatMap (·.errors)).getLast?.map Json.string).getD .null)] := by
  rw [h.flatMap_errors, List.isEmpty_map, ← ok_eq_isEmpty_errors, List.getLast?_map, Option.map_map]
  rfl

end Run

namespace Pipeline

/-- A stage is accounted for, and so is a run that ends with it or goes on after it. -/
theorem runStages_accounted (failFast : Bool) (stages : List Stage) (document : Document) :
    (runStages failFast stages document).Accounted document.size := by
  induction stages generalizing document with
  | nil => exact ⟨rfl, rfl, rfl⟩
  | cons stage rest ih =>
    cases hstop : failFast && !(stage.transform.apply document).outcome.ok with
    | true =>
      rw [runStages_cons_of_stop rest hstop]
      exact ⟨rfl, rfl, by simp [Stage.entry]⟩
    | false =>
      rw [runStages_cons_of_go rest hstop]
      obtain ⟨hlength, hcounts, htexts⟩ := ih (stage.transform.apply document).document
      refine ⟨?_, ?_, ?_⟩
      · simp only [List.length_cons, hlength]
      · simp only [List.map_cons, List.cons_append, hcounts]
        rfl
      · simp only [List.map_cons, htexts, Stage.named_errors]
        rfl

/-- Closing the log of a run changes nothing that is accounted for. -/
theorem run_accounted (failFast : Bool) (stages : List Stage) (document : Document) :
    (run failFast stages document).Accounted document.size := by
  obtain ⟨hlength, hcounts, htexts⟩ := runStages_accounted failFast stages document
  exact ⟨hlength, hcounts, htexts⟩

/-- A run over stages that goes on after failures is one over the first of them, followed by one
over the others from the document that was left. Every run, also one that fails fast, has an entry
for each outcome; the entries' counts of records lead from the size of the document to the number of
records in the summary, each from where the one before it ended; their texts are the errors of the
summary, as they are described; and the summary says that the run is without errors exactly when
there are no texts, and gives the last of them, or null. -/
theorem run_accounts (stages later : List Stage) (document : Document) :
    (let first := run false stages document
      let second := run false later first.document
      let both := run false (stages ++ later) document
      both.outcomes = first.outcomes ++ second.outcomes ∧
        both.stages = first.stages ++ second.stages ∧ both.document = second.document) ∧
      ∀ failFast,
        let run := run failFast stages document
        let texts := run.stages.flatMap (·.errors)
        run.stages.length = run.outcomes.length ∧
          run.stages.map (·.recordsBefore) ++ [run.document.size] =
            document.size :: run.stages.map (·.recordsAfter) ∧
          texts = run.errors.map (·.describe) ∧
          ∃ ok last,
            run.summary =
              .object [("ok", .bool ok), ("stopped_early", .bool run.stoppedEarly),
                ("record_count", .int run.document.size),
                ("stages", .array (run.stages.map StageEntry.toJson)),
                ("errors", .array (run.errors.map DataError.toJson)), ("last_error", last)] ∧
            (ok = true ↔ texts = []) ∧ last = (texts.getLast?.map Json.string).getD .null ∧
            (last = .null ↔ ok = true) := by
  refine ⟨?_, fun failFast => ?_⟩
  · have hboth := runStages_append stages later document
    have houtcomes := congrArg Run.outcomes hboth
    have hstages := congrArg Run.stages hboth
    have hdocument := congrArg Run.document hboth
    exact ⟨houtcomes, hstages, hdocument⟩
  · have haccounted := run_accounted failFast stages document
    exact ⟨haccounted.length, haccounted.counts, haccounted.flatMap_errors, _, _,
      haccounted.summary, List.isEmpty_iff, rfl, lastText_eq_null_iff _⟩

end Pipeline

end OperandCleanup
