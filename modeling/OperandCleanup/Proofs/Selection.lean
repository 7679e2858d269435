import OperandCleanup.Proofs.FailFast
import OperandCleanup.Proofs.Standard

/-!
# Cleanups by a configuration

A configuration that names registered passes only selects some of the passes of the library and
keeps their order. A run that fails fast applies the selected passes up to the first that reports
errors, so whatever the configuration, a cleanup applies a sublist of the passes of the library, one
after the other, and its stages say which.

That order puts the pass that adds records behind those that count operands, and before passes that
only revise records.
-/

namespace OperandCleanup

/-- Whether a registry knows every name of a configuration. -/
def Config.KnownTo (config : Config) (registry : Registry) : Prop :=
  ∀ name ∈ config.only ++ config.skip, registry.contains name = true

instance (config : Config) (registry : Registry) : Decidable (config.KnownTo registry) :=
  inferInstanceAs (Decidable (∀ name ∈ config.only ++ config.skip, registry.contains name = true))

namespace Pipeline

/-! ## Runs that fail fast -/

/-- A run over passes, also one that fails fast, reports, accounts for and leaves what the
best-effort run over the first of the passes does, up to the last or to one that reports errors. -/
theorem exists_bestEffort (failFast : Bool) (passes : List Pass) (document : Document) :
    ∃ applied, applied <+: passes ∧
      (run failFast (passes.map Pass.stage) document).outcomes =
        (bestEffort applied document).outcomes ∧
      (run failFast (passes.map Pass.stage) document).stages =
        (bestEffort applied document).stages ∧
      (run failFast (passes.map Pass.stage) document).document =
        (bestEffort applied document).document := by
  cases failFast with
  | false => exact ⟨passes, List.prefix_refl passes, rfl, rfl, rfl⟩
  | true =>
    have hfast := runStages_failFast (passes.map Pass.stage) document
    cases hfailure : (runStages false (passes.map Pass.stage) document).firstFailure? with
    | none =>
      simp only [hfailure] at hfast
      simp only [run, hfast]
      exact ⟨passes, List.prefix_refl passes, rfl, rfl, rfl⟩
    | some index =>
      simp only [hfailure, ← List.map_take] at hfast
      simp only [run, hfast]
      exact ⟨passes.take (index + 1), List.take_prefix _ passes, rfl, rfl, rfl⟩

/-- The stages of a best-effort run carry the names of its passes. -/
theorem bestEffort_stages_names (passes : List Pass) (document : Document) :
    (bestEffort passes document).stages.map (·.stage) = passes.map (·.name) := by
  induction passes generalizing document with
  | nil => rfl
  | cons pass rest ih => exact congrArg (List.cons pass.name) (ih (pass.apply document).document)

/-! ## The order of the passes -/

/-- The passes before the one that adds records. -/
def countingPasses : List Pass := StringInstruction.passes ++ [.vmovq]

/-- The passes after the one that adds records. -/
def closingPasses : List Pass := [.renameSynonyms, .removeStackTop, .removeImpliedVector]

/-- The pass that adds records stands between the others. -/
theorem standard_eq_counting :
    Pass.standard = countingPasses ++ .generalRegister :: closingPasses := rfl

/-- A selection of the passes of the library has those that count operands first, and then the pass
that adds records, if it is selected. -/
theorem sublist_standard {passes : List Pass} (h : passes.Sublist Pass.standard) :
    ∃ before after, before.Sublist countingPasses ∧ after.Sublist closingPasses ∧
      (passes = before ++ after ∨ passes = before ++ .generalRegister :: after) := by
  rw [standard_eq_counting, List.sublist_append_iff] at h
  obtain ⟨before, later, rfl, hbefore, hlater⟩ := h
  rcases List.sublist_cons_iff.mp hlater with hafter | ⟨after, rfl, hafter⟩
  · exact ⟨before, later, hbefore, hafter, Or.inl rfl⟩
  · exact ⟨before, after, hbefore, hafter, Or.inr rfl⟩

/-- The passes that count operands add no records. -/
theorem additions_of_mem_counting {pass : Pass} (h : pass ∈ countingPasses) (record : Record) :
    pass.additions record = [] := by
  rcases List.mem_append.mp h with hstring | hvmovq
  · exact (StringInstruction.recordWise_of_mem_passes hstring record).2
  · obtain rfl := List.mem_singleton.mp hvmovq
    exact Pass.additions_vmovq record

/-- The passes after the one that adds records go record by record. -/
theorem recordWise_of_mem_closing {pass : Pass} (h : pass ∈ closingPasses) : pass.RecordWise :=
  Pass.recordWise_of_mem_last h

/-- Passes that add no records keep their number. -/
theorem length_through {passes : List Pass}
    (h : ∀ pass ∈ passes, ∀ record, pass.additions record = []) (records : List Record) :
    (through passes records).length = records.length := by
  induction passes generalizing records with
  | nil => rfl
  | cons pass rest ih =>
    rw [through, ih fun other hother => h other (by simp [hother]),
      Pass.appended_eq_nil (h pass (by simp)), List.append_nil, Pass.length_swept]

/-! ## What becomes of a record -/

/-- A relation that every pass keeps between a record and its revision holds between a record and
what stands in its place after all of them. -/
theorem through_getElem? {passes : List Pass} {Related : Record → Record → Prop}
    (hrefl : ∀ record, Related record record)
    (htrans : ∀ first second third, Related first second → Related second third →
      Related first third)
    (hrevise : ∀ pass ∈ passes, ∀ record, Related record (pass.revise record))
    {records : List Record} {index : Nat} {record : Record}
    (hrecord : records[index]? = some record) :
    ∃ left, (through passes records)[index]? = some left ∧ Related record left := by
  induction passes generalizing records record with
  | nil => exact ⟨record, hrecord, hrefl record⟩
  | cons pass rest ih =>
    -- The record at an index is revised or left, and nothing is added before it.
    have hindex : index < (pass.swept records).length := by
      rw [Pass.length_swept]
      exact (List.getElem?_eq_some_iff.mp hrecord).1
    obtain ⟨next, hnext, hrelated⟩ : ∃ next,
        (pass.swept records ++ pass.appended records)[index]? = some next ∧
          Related record next := by
      rw [List.getElem?_append_left hindex, Pass.swept_getElem?, hrecord, Option.map_some]
      split
      · exact ⟨_, rfl, hrevise pass (by simp) record⟩
      · exact ⟨_, rfl, hrefl record⟩
    obtain ⟨left, hleft, hlater⟩ := ih (fun other hother => hrevise other (by simp [hother])) hnext
    exact ⟨left, hleft, htrans record next left hrelated hlater⟩

end Pipeline

/-! ## Selections -/

/-- The names of the default registry are those of the passes of the library. -/
theorem contains_default_iff (name : String) :
    Registry.default.contains name = true ↔ name ∈ Pass.standard.map (·.name) := by
  have hentries : ∀ sequence passes,
      ((Registry.passEntries sequence passes).find? (·.name == name)).isSome = true ↔
        name ∈ passes.map Pass.name := by
    intro sequence passes
    induction passes generalizing sequence with
    | nil => simp [Registry.passEntries]
    | cons pass rest ih =>
      by_cases hname : pass.name = name
      · simp [Registry.passEntries, hname]
      · simp [Registry.passEntries, hname, Ne.symm hname, ih]
  exact hentries 0 Pass.standard

/-- The entries of passes that a configuration selects are the entries of the selected passes. -/
theorem map_stage_filter_passEntries (config : Config) (sequence : Nat) (passes : List Pass) :
    ((Registry.passEntries sequence passes).filter fun entry => config.selects entry.name).map
        Entry.stage =
      (passes.filter fun pass => config.selects pass.name).map Pass.stage := by
  induction passes generalizing sequence with
  | nil => rfl
  | cons pass rest ih =>
    rw [Registry.passEntries, List.filter_cons, List.filter_cons]
    split <;> simp [ih, Entry.stage, Pass.stage]

/-- The entries of a registry that a configuration selects, in the order in which they run. -/
def Registry.selected (registry : Registry) (config : Config) : List Entry :=
  registry.byPriority.filter fun entry => config.selects entry.name

/-- A registry that knows every name of a configuration selects its entries. -/
theorem Registry.select_of_knownTo {registry : Registry} {config : Config}
    (h : config.KnownTo registry) :
    registry.select config.only config.skip = .ok (registry.selected config) := by
  have hknown :
      ((config.only ++ config.skip).find? fun name => !registry.contains name) = none := by
    rw [List.find?_eq_none]
    intro name hname
    simp [h name hname]
  rw [select, hknown]
  rfl

/-- A registry refuses a configuration with a name that it does not know. -/
theorem Registry.select_of_not_knownTo {registry : Registry} {config : Config}
    (h : ¬ config.KnownTo registry) :
    ∃ name ∈ config.only ++ config.skip, registry.contains name = false ∧
      registry.select config.only config.skip = .error (.unknown name) := by
  unfold select
  cases hfound : (config.only ++ config.skip).find? fun name => !registry.contains name with
  | none =>
    refine absurd (fun name hname => ?_) h
    simpa using List.find?_eq_none.mp hfound name hname
  | some name =>
    exact ⟨name, List.mem_of_find?_eq_some hfound, by simpa using List.find?_some hfound, rfl⟩

/-- A cleanup whose names are all known runs the selected passes. -/
theorem cleanup_selected {config : Config} (h : config.KnownTo Registry.default)
    (document : Document) :
    cleanup document config =
      .ok (Pipeline.run config.failFast ((Pass.selected config).map Pass.stage) document) := by
  have hstages := map_stage_filter_passEntries config 0 Pass.standard
  unfold cleanup Registry.orDefault Pass.selected
  rw [Registry.select_of_knownTo h, ← hstages, Registry.selected, byPriority_default]
  rfl

/-- What a cleanup leaves is a run over the selected passes. -/
theorem eq_run_of_cleanup {document : Document} {config : Config} {run : Run}
    (h : cleanup document config = .ok run) :
    run = Pipeline.run config.failFast ((Pass.selected config).map Pass.stage) document := by
  by_cases hknown : config.KnownTo Registry.default
  · rw [cleanup_selected hknown] at h
    exact (Except.ok.inj h).symm
  · obtain ⟨name, -, -, hselect⟩ := Registry.select_of_not_knownTo hknown
    rw [cleanup, Registry.orDefault, hselect] at h
    cases h

/-- A cleanup whose names are all known reports, accounts for and leaves what a best-effort run over
some passes of the library does, in their order. -/
theorem cleanup_bestEffort {config : Config} (h : config.KnownTo Registry.default)
    (document : Document) :
    ∃ run applied, cleanup document config = .ok run ∧ applied.Sublist Pass.standard ∧
      run.outcomes = (Pipeline.bestEffort applied document).outcomes ∧
      run.stages = (Pipeline.bestEffort applied document).stages ∧
      run.document = (Pipeline.bestEffort applied document).document := by
  obtain ⟨applied, hprefix, houtcomes, hstages, hdocument⟩ :=
    Pipeline.exists_bestEffort config.failFast (Pass.selected config) document
  exact ⟨_, applied, cleanup_selected h document, hprefix.sublist.trans List.filter_sublist,
    houtcomes, hstages, hdocument⟩

/-- A cleanup whose names are all known applies some passes of the library in their order, one after
the other. -/
theorem cleanup_applied {config : Config} (h : config.KnownTo Registry.default)
    (document : Document) :
    ∃ run applied, cleanup document config = .ok run ∧ applied.Sublist Pass.standard ∧
      run.stages.map (·.stage) = applied.map (·.name) ∧
      run.document.records = Pipeline.through applied document.records := by
  obtain ⟨run, applied, hrun, happlied, -, hstages, hdocument⟩ := cleanup_bestEffort h document
  refine ⟨run, applied, hrun, happlied, ?_, ?_⟩
  · rw [hstages, Pipeline.bestEffort_stages_names]
  · rw [hdocument, Pipeline.bestEffort_records]

end OperandCleanup
