import OperandCleanup.Proofs.Selection

/-!
# Cleanups over a registry

A cleanup can be given a registry of transforms. With one that has entries it does what one expects:
it refuses a configuration with a name that the registry does not know, and otherwise applies the
selected entries one after the other, up to the first that reports errors if it is to fail fast,
and nothing else.

A registry without entries is taken for none at all, so a cleanup that is given one refuses and
runs what it would refuse and run by default. That is not what is expected unless the configuration
has a name that the default registry does not know either.
-/

namespace OperandCleanup

/-- The document that entries leave, one after the other. -/
def Entry.applyAll (entries : List Entry) (document : Document) : Document :=
  entries.foldl (fun left entry => (entry.transform.apply left).document) document

/-- Entries in order, each with the document that it is applied to. -/
def Entry.steps : List Entry → Document → List (Entry × Document)
  | [], _ => []
  | entry :: rest, document =>
    (entry, document) :: steps rest (entry.transform.apply document).document

namespace Run

/-- Whether a run applies entries one after the other and accounts for each of them, and does
nothing else. -/
structure Applies (run : Run) (entries : List Entry) (document : Document) : Prop where
  left : run.document = Entry.applyAll entries document
  outcomes : run.outcomes = (Entry.steps entries document).map fun (entry, before) =>
    entry.stage.named (entry.transform.apply before).outcome
  stages : run.stages = (Entry.steps entries document).map fun (entry, before) =>
    entry.stage.entry before (entry.transform.apply before)

/-- Whether a run that applies entries applies the selected ones up to where it has to end: only
one that is to fail fast ends early, and it ends at its first failure. -/
structure EndsDuly (run : Run) (failFast : Bool) (selected entries : List Entry) : Prop where
  initial : entries <+: selected
  whole : entries = selected ∨
    failFast = true ∧ ∃ last, run.outcomes.getLast? = some last ∧ last.ok = false
  earlier : failFast = true → ∀ outcome ∈ run.outcomes.dropLast, outcome.ok = true

end Run

/-- Whether the result of a cleanup is that of a registry: a refusal of a name that the registry
does not know, or a run of its selected entries. -/
structure Registry.Governs (registry : Registry) (config : Config) (document : Document)
    (result : Except RegistryError Run) : Prop where
  refuses : (∃ error, result = .error error) ↔ ¬ config.KnownTo registry
  unknown : ∀ error, result = .error error →
    ∃ name ∈ config.only ++ config.skip, registry.contains name = false ∧ error = .unknown name
  runs : ∀ run, result = .ok run → ∃ selected entries,
    registry.select config.only config.skip = .ok selected ∧
      run.EndsDuly config.failFast selected entries ∧ run.Applies entries document ∧
        ∀ entry ∈ entries, entry ∈ registry.entries

namespace Pipeline

/-- Stages for entries apply entries, up to where the run has to end. -/
theorem runStages_applies (failFast : Bool) (selected : List Entry) (document : Document) :
    ∃ entries, (runStages failFast (selected.map Entry.stage) document).EndsDuly failFast selected
        entries ∧
      (runStages failFast (selected.map Entry.stage) document).Applies entries document := by
  induction selected generalizing document with
  | nil => exact ⟨[], ⟨List.prefix_refl [], Or.inl rfl, by simp [runStages]⟩, ⟨rfl, rfl, rfl⟩⟩
  | cons entry rest ih =>
    rw [List.map_cons]
    cases hstop : failFast && !(entry.stage.transform.apply document).outcome.ok with
    | true =>
      rw [runStages_cons_of_stop _ hstop]
      simp only [Bool.and_eq_true, Bool.not_eq_true'] at hstop
      refine ⟨[entry], ⟨⟨rest, rfl⟩, Or.inr ⟨hstop.1, ?_⟩, by simp⟩, ⟨rfl, rfl, rfl⟩⟩
      exact ⟨_, rfl, (Stage.named_ok entry.stage _).trans hstop.2⟩
    | false =>
      obtain ⟨entries, hends, happlies⟩ := ih (entry.stage.transform.apply document).document
      rw [runStages_cons_of_go _ hstop]
      generalize runStages failFast (rest.map Entry.stage)
        (entry.stage.transform.apply document).document = later at hends happlies
      refine ⟨entry :: entries, ⟨?_, ?_, ?_⟩, ⟨?_, ?_, ?_⟩⟩
      · exact (List.prefix_cons_inj entry).mpr hends.initial
      · rcases hends.whole with rfl | ⟨hfast, last, hlast, hfailed⟩
        · exact Or.inl rfl
        · exact Or.inr ⟨hfast, last, by simp [List.getLast?_cons, hlast], hfailed⟩
      · intro hfast outcome houtcome
        -- The run went on after the first outcome, so that one has no errors.
        have hfirst : (entry.stage.named (entry.stage.transform.apply document).outcome).ok =
            true := by
          rw [Stage.named_ok]
          simpa [hfast] using hstop
        have hearlier := hends.earlier hfast
        cases hlater : later.outcomes with
        | nil => simp [hlater] at houtcome
        | cons next others =>
          rw [hlater] at houtcome hearlier
          rcases List.mem_cons.mp houtcome with rfl | hothers
          · exact hfirst
          · exact hearlier outcome hothers
      · exact happlies.left
      · exact congrArg (List.cons _) happlies.outcomes
      · exact congrArg (List.cons _) happlies.stages

end Pipeline

/-! ## The registry that governs a cleanup -/

namespace Registry

variable {registry : Registry} {config : Config} {document : Document}

/-- The selected entries are entries of the registry. -/
theorem mem_entries_of_mem_selected {entry : Entry} (h : entry ∈ registry.selected config) :
    entry ∈ registry.entries := by
  exact List.mem_mergeSort.mp (List.mem_filter.mp h).1

/-- A registry governs what is done with it. -/
theorem governs_orDefault (given : Option Registry) (config : Config) (document : Document) :
    (orDefault given).Governs config document (cleanup document config given) := by
  by_cases h : config.KnownTo (orDefault given)
  · obtain ⟨entries, hends, happlies⟩ := Pipeline.runStages_applies config.failFast
      ((orDefault given).selected config) document
    have hresult : cleanup document config given =
        .ok (Pipeline.run config.failFast (((orDefault given).selected config).map Entry.stage)
          document) := by
      rw [cleanup, select_of_knownTo h]
      rfl
    rw [hresult]
    refine ⟨by simp [h], by simp, fun run hrun => ?_⟩
    obtain rfl := Except.ok.inj hrun
    refine ⟨_, entries, select_of_knownTo h, ⟨hends.initial, hends.whole, hends.earlier⟩,
      ⟨happlies.left, happlies.outcomes, happlies.stages⟩, fun entry hentry => ?_⟩
    exact mem_entries_of_mem_selected (hends.initial.subset hentry)
  · obtain ⟨name, hmem, hunknown, hselect⟩ := select_of_not_knownTo h
    have hresult : cleanup document config given = .error (.unknown name) := by
      rw [cleanup, hselect]
      rfl
    rw [hresult]
    refine ⟨by simp [h], fun error herror => ?_, by simp⟩
    exact ⟨name, hmem, hunknown, (Except.error.inj herror).symm⟩

/-- A registry without entries knows no name. -/
theorem contains_of_entries_eq_nil (h : registry.entries = []) (name : String) :
    registry.contains name = false := by
  simp [contains, find?, h]

/-- A registry without entries governs runs without outcomes only, by configurations without
names. -/
theorem Governs.eq_nil {run : Run} (h : registry.Governs config document (.ok run))
    (hentries : registry.entries = []) : config.only ++ config.skip = [] ∧ run.outcomes = [] := by
  constructor
  · have hknown : config.KnownTo registry := by simpa using h.refuses
    refine List.eq_nil_iff_forall_not_mem.mpr fun name hname => ?_
    have hcontains := hknown name hname
    rw [contains_of_entries_eq_nil hentries] at hcontains
    exact Bool.false_ne_true hcontains
  · obtain ⟨-, entries, -, -, happlies, hmem⟩ := h.runs run rfl
    have hnone : entries = [] := by
      refine List.eq_nil_iff_forall_not_mem.mpr fun entry hentry => ?_
      have hentry := hmem entry hentry
      rw [hentries] at hentry
      exact List.not_mem_nil hentry
    rw [happlies.outcomes, hnone]
    rfl

/-- A run by a configuration without names that the default registry governs has outcomes. -/
theorem Governs.outcomes_ne_nil {run : Run} (h : default.Governs config document (.ok run))
    (hnames : config.only ++ config.skip = []) : run.outcomes ≠ [] := by
  obtain ⟨selected, entries, hselect, hends, happlies, -⟩ := h.runs run rfl
  obtain ⟨honly, hskip⟩ := List.append_eq_nil_iff.mp hnames
  have hselected : default.entries = selected := by
    rw [honly, hskip] at hselect
    exact Except.ok.inj (select_default.symm.trans hselect)
  intro houtcomes
  rcases hends.whole with rfl | ⟨-, last, hlast, -⟩
  · rw [happlies.outcomes, ← hselected] at houtcomes
    exact absurd houtcomes (List.cons_ne_nil _ _)
  · rw [houtcomes] at hlast
    exact absurd hlast (Option.some_ne_none last).symm

/-- A registry without entries does not govern a cleanup by a configuration that the default
registry knows: it has no entry to run, and a cleanup without names to know runs some. -/
theorem not_governs_of_entries_eq_nil (hentries : registry.entries = [])
    (hknown : config.KnownTo default) :
    ¬ registry.Governs config document (cleanup document config (some registry)) := by
  intro hgoverns
  have hdefault := governs_orDefault (some registry) config document
  rw [orDefault, hentries, List.isEmpty_nil, if_pos rfl] at hdefault
  cases hresult : cleanup document config (some registry) with
  | error error => exact absurd hknown (hdefault.refuses.mp ⟨error, hresult⟩)
  | ok run =>
    rw [hresult] at hgoverns hdefault
    obtain ⟨hnames, houtcomes⟩ := hgoverns.eq_nil hentries
    exact hdefault.outcomes_ne_nil hnames houtcomes

end Registry

/-- The registry that is given governs the cleanup exactly when it has entries, or the configuration
has a name that the default registry does not know. -/
theorem cleanup_governed_iff (registry : Registry) (config : Config) (document : Document) :
    registry.Governs config document (cleanup document config (some registry)) ↔
      registry.entries ≠ [] ∨ ¬ config.KnownTo Registry.default := by
  constructor
  · intro hgoverns
    by_cases hentries : registry.entries = []
    · exact Or.inr fun hknown => Registry.not_governs_of_entries_eq_nil hentries hknown hgoverns
    · exact Or.inl hentries
  · intro h
    have hgoverns := Registry.governs_orDefault (some registry) config document
    by_cases hentries : registry.entries = []
    · -- What the default registry does not know, one without entries does not know either.
      have hunknown := h.resolve_left fun hsome => hsome hentries
      rw [Registry.orDefault, hentries, List.isEmpty_nil, if_pos rfl] at hgoverns
      obtain ⟨error, herror⟩ := hgoverns.refuses.mpr hunknown
      obtain ⟨name, hname, -, hnamed⟩ := hgoverns.unknown error herror
      have hcontains := Registry.contains_of_entries_eq_nil hentries name
      have hrefused : ¬ config.KnownTo registry := fun hknown => by
        rw [hknown name hname] at hcontains
        exact Bool.false_ne_true hcontains.symm
      rw [herror]
      refine ⟨by simp [hrefused], fun other hother => ?_, by simp⟩
      obtain rfl := Except.error.inj hother
      exact ⟨name, hname, hcontains, hnamed⟩
    · rwa [Registry.orDefault, List.isEmpty_eq_false_iff.mpr hentries, if_neg Bool.false_ne_true]
        at hgoverns

/-- An addition whose operand has a synonym for its name. -/
def byteAddition : Document := ⟨[{ mnemonic := "ADD", operands := [{ name := "r8/m8" }] }]⟩

/-- A cleanup of the addition over the registry without entries renames the operand, where it is to
do nothing. -/
theorem cleanup_empty_byteAddition :
    ¬ Registry.empty.Governs {} byteAddition (cleanup byteAddition {} (some .empty)) ∧
      ∃ run, cleanup byteAddition {} (some .empty) = .ok run ∧ run.stages.length = 8 ∧
        run.document.records.map Record.operandNames = [["r/m8"]] := by
  have hdefault : cleanup byteAddition {} (some .empty) =
      .ok (Pipeline.bestEffort Pass.standard byteAddition) := cleanup_default byteAddition
  refine ⟨Registry.not_governs_of_entries_eq_nil rfl (by decide), _, hdefault, ?_, ?_⟩
  · rfl
  · rfl

end OperandCleanup
