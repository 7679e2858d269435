import OperandCleanup.Proofs.Acceptance
import OperandCleanup.Proofs.Selection

/-!
# Cleaning up documents one after the other

A pass looks at each record alone, so it does to the records of two documents what it does to those
of each, unless it ends among the first ones. Only the indices of the second document's records are
shifted. The records that are added come behind all others, those of the first document first; the
passes that still run then report nothing, so no error is about a record that has moved.
-/

namespace OperandCleanup

/-- An error about a record that stands further back. -/
def DataError.shifted (offset : Nat) (error : DataError) : DataError :=
  { error with recordIndex := error.recordIndex.map (· + (offset : Int)) }

/-- The outcome for records of which the later ones, from an offset on, have an outcome of their
own. -/
def Outcome.joined (offset : Nat) (first second : Outcome) : Outcome :=
  { first with
    errors := first.errors ++ second.errors.map (·.shifted offset)
    modified := first.modified + second.modified }

/-- The scan of records of which the later ones, from an offset on, have a scan of their own. -/
def Scan.joined (offset : Nat) (first second : Scan) : Scan where
  records := first.records ++ second.records
  added := first.added ++ second.added
  errors := first.errors ++ second.errors.map (·.shifted offset)
  modified := first.modified + second.modified

namespace Pass

variable (pass : Pass)

/-! ## One pass -/

/-- An error about a record further back is the same error, shifted. -/
theorem errorAt_add (kind : ErrorKind) (index offset : Nat) (record : Record) (message : String) :
    pass.errorAt kind (index + offset) record message =
      (pass.errorAt kind index record message).shifted offset := by
  simp [errorAt, DataError.shifted]

/-- A scan of records further back differs by the indices in its errors. -/
theorem scan_add (index offset : Nat) (records : List Record) :
    pass.scan (index + offset) records =
      { pass.scan index records with
        errors := (pass.scan index records).errors.map (·.shifted offset) } := by
  induction records generalizing index with
  | nil => rfl
  | cons record rest ih =>
    have hrest := ih (index + 1)
    rw [Nat.add_right_comm] at hrest
    cases hjudge : pass.judge record <;> simp [scan, hjudge, hrest, errorAt_add]

/-- A pass that ends at no record of the first ones scans the later ones by themselves. -/
theorem scan_append {records : List Record} (h : ∀ record ∈ records, pass.stopsAt record = false)
    (index : Nat) (later : List Record) :
    pass.scan index (records ++ later) =
      { records := (pass.scan index records).records ++
          (pass.scan (index + records.length) later).records
        added := (pass.scan index records).added ++
          (pass.scan (index + records.length) later).added
        errors := (pass.scan index records).errors ++
          (pass.scan (index + records.length) later).errors
        modified := (pass.scan index records).modified +
          (pass.scan (index + records.length) later).modified } := by
  induction records generalizing index with
  | nil => simp [scan]
  | cons record rest ih =>
    have hgo := h record (by simp)
    have hrest := ih (fun other hother => h other (by simp [hother])) (index + 1)
    have hlength : index + 1 + rest.length = index + (rest.length + 1) := by omega
    rw [hlength] at hrest
    cases hjudge : pass.judge record with
    | corrupt headline => simp [stopsAt, hjudge, Verdict.stops] at hgo
    | unchanged => simp [scan, hjudge, hrest]
    | malformed message => simp [scan, hjudge, hrest]
    | changed revised added =>
      simp only [List.cons_append, scan, hjudge, hrest, List.length_cons, List.append_assoc,
        Scan.mk.injEq, true_and]
      omega

/-- The scan of two documents' records joins their scans. -/
theorem scan_append_eq_joined {records : List Record}
    (h : ∀ record ∈ records, pass.stopsAt record = false) (later : List Record) :
    pass.scan 0 (records ++ later) =
      (pass.scan 0 records).joined records.length (pass.scan 0 later) := by
  rw [scan_append pass h, scan_add]
  rfl

/-- What a pass leaves of two documents' records in place. -/
theorem swept_append {records : List Record} (h : ∀ record ∈ records, pass.stopsAt record = false)
    (later : List Record) :
    pass.swept (records ++ later) = pass.swept records ++ pass.swept later := by
  rw [← scan_records pass 0, scan_append_eq_joined pass h]
  simp [Scan.joined, scan_records]

/-- What a pass adds for two documents' records. -/
theorem appended_append {records : List Record}
    (h : ∀ record ∈ records, pass.stopsAt record = false) (later : List Record) :
    pass.appended (records ++ later) = pass.appended records ++ pass.appended later := by
  rw [← scan_added pass 0, scan_append_eq_joined pass h]
  simp [Scan.joined, scan_added]

end Pass

namespace Pipeline

/-- What a pass reports of two documents' records. -/
theorem outcomeOf_append (pass : Pass) {records : List Record}
    (h : ∀ record ∈ records, pass.stopsAt record = false) (later : List Record) :
    outcomeOf pass (records ++ later) =
      (outcomeOf pass records).joined records.length (outcomeOf pass later) := by
  simp [outcomeOf, pass.scan_append_eq_joined h, Scan.joined, Outcome.joined]

/-! ## Several passes -/

/-- What passes report one after the other. -/
def reports : List Pass → List Record → List Outcome
  | [], _ => []
  | pass :: rest, records =>
    outcomeOf pass records :: reports rest (pass.swept records ++ pass.appended records)

/-- Whether no pass ends at a record that reaches it. -/
def Uninterrupted : List Pass → List Record → Prop
  | [], _ => True
  | pass :: rest, records =>
    (∀ record ∈ records, pass.stopsAt record = false) ∧
      Uninterrupted rest (pass.swept records ++ pass.appended records)

/-- The outcomes of a best-effort run are what its passes report. -/
theorem bestEffort_outcomes (passes : List Pass) (document : Document) :
    (bestEffort passes document).outcomes = reports passes document.records := by
  induction passes generalizing document with
  | nil => rfl
  | cons pass rest ih => rw [bestEffort_outcomes_cons, ih, Pass.apply_records, reports]

/-- The stages of a best-effort run account for what its passes report. -/
theorem bestEffort_stages_modified (passes : List Pass) (document : Document) :
    (bestEffort passes document).stages.map (·.modified) =
      (reports passes document.records).map (·.modified) := by
  induction passes generalizing document with
  | nil => rfl
  | cons pass rest ih =>
    have hrest := ih (pass.apply document).document
    rw [Pass.apply_records] at hrest
    rw [reports, List.map_cons, ← hrest]
    rfl

@[simp] theorem length_reports (passes : List Pass) (records : List Record) :
    (reports passes records).length = passes.length := by
  induction passes generalizing records with
  | nil => rfl
  | cons pass rest ih => simp [reports, ih]

/-- Later passes report about what earlier ones left. -/
theorem reports_append (before after : List Pass) (records : List Record) :
    reports (before ++ after) records =
      reports before records ++ reports after (through before records) := by
  induction before generalizing records with
  | nil => rfl
  | cons pass before ih => rw [List.cons_append, reports, ih, reports, through, List.cons_append]

/-- No pass ends among the records that earlier ones left. -/
theorem uninterrupted_append (before after : List Pass) (records : List Record) :
    Uninterrupted (before ++ after) records ↔
      Uninterrupted before records ∧ Uninterrupted after (through before records) := by
  induction before generalizing records with
  | nil => exact (and_iff_right trivial).symm
  | cons pass before ih => simp only [List.cons_append, Uninterrupted, through, ih, and_assoc]

/-- Only the pass over the fixed form ends anywhere, so passes go through when it reports
nothing. -/
theorem uninterrupted_of_reports {passes : List Pass} (h : passes ⊆ Pass.standard)
    {records : List Record}
    (hvmovq : ∀ outcome ∈ reports passes records, outcome.transform = Pass.vmovq.name →
      outcome.errors = []) : Uninterrupted passes records := by
  induction passes generalizing records with
  | nil => trivial
  | cons pass rest ih =>
    obtain ⟨hpass, hrest⟩ := List.cons_subset.mp h
    rw [reports] at hvmovq
    refine ⟨?_, ih hrest fun outcome houtcome => hvmovq outcome (by simp [houtcome])⟩
    have hcases : pass = .vmovq ∨ pass.Total := by
      rw [standard_eq_counting, List.mem_append, List.mem_cons] at hpass
      rcases hpass with hcounting | rfl | hclosing
      · rcases List.mem_append.mp hcounting with hstring | hvmovq
        · exact Or.inr fun record =>
            (StringInstruction.recordWise_of_mem_passes hstring record).1
        · exact Or.inl (List.mem_singleton.mp hvmovq)
      · exact Or.inr Pass.total_generalRegister
      · exact Or.inr fun record => (recordWise_of_mem_closing hclosing record).1
    rcases hcases with rfl | htotal
    · intro record hrecord
      have hnone := hvmovq (outcomeOf Pass.vmovq records) (by simp) rfl
      exact Pass.vmovq.stopsAt_of_accepts
        ((Pass.vmovq.scan_errors_eq_nil_iff 0 records).mp hnone record hrecord)
    · exact fun record _ => htotal record

/-! ## The passes before the records are added -/

/-- Passes that add no records do to two documents' records what they do to those of each. -/
theorem through_append_records {passes : List Pass}
    (hadded : ∀ pass ∈ passes, ∀ record, pass.additions record = []) {records : List Record}
    (h : Uninterrupted passes records) (later : List Record) :
    through passes (records ++ later) = through passes records ++ through passes later ∧
      reports passes (records ++ later) =
        List.zipWith (Outcome.joined records.length) (reports passes records)
          (reports passes later) := by
  induction passes generalizing records later with
  | nil => exact ⟨rfl, rfl⟩
  | cons pass rest ih =>
    obtain ⟨hgo, hrest⟩ := h
    have hnone (others : List Record) : pass.appended others = [] :=
      Pass.appended_eq_nil (hadded pass (by simp)) others
    rw [hnone, List.append_nil] at hrest
    obtain ⟨hthrough, hreports⟩ :=
      ih (fun other hother => hadded other (by simp [hother])) hrest (pass.swept later)
    rw [Pass.length_swept] at hreports
    simp only [through, reports, hnone, List.append_nil, pass.swept_append hgo, hthrough, hreports,
      outcomeOf_append pass hgo, List.zipWith_cons_cons, and_self]

/-! ## The passes after the records are added -/

/-- The last passes report nothing. -/
theorem errors_outcomeOf_of_mem_closing {pass : Pass} (h : pass ∈ closingPasses)
    (records : List Record) : (outcomeOf pass records).errors = [] :=
  (pass.scan_errors_eq_nil_iff 0 records).mpr fun record _ => Pass.accepts_of_mem_last h record

/-- The last passes count the changes in records in any order. -/
theorem modified_outcomeOf_interleaved {pass : Pass} (h : pass ∈ closingPasses)
    (main other added more : List Record) :
    (outcomeOf pass (main ++ other ++ added ++ more)).modified =
      (outcomeOf pass (main ++ added)).modified + (outcomeOf pass (other ++ more)).modified := by
  have hgo (records : List Record) : ∀ record ∈ records, pass.stopsAt record = false :=
    fun record _ => (recordWise_of_mem_closing h record).1
  simp only [outcomeOf_append pass (hgo _), Outcome.joined]
  omega

/-- The last passes report about two documents' records, interleaved with those that were added,
what they report about each. -/
theorem reports_interleaved {after : List Pass} (h : after ⊆ closingPasses) (offset : Nat)
    (main other added more : List Record) :
    reports after (main ++ other ++ added ++ more) =
      List.zipWith (Outcome.joined offset) (reports after (main ++ added))
        (reports after (other ++ more)) := by
  induction after generalizing main other added more with
  | nil => rfl
  | cons pass rest ih =>
    obtain ⟨hpass, hrest⟩ := List.cons_subset.mp h
    have hfirst : outcomeOf pass (main ++ other ++ added ++ more) =
        (outcomeOf pass (main ++ added)).joined offset (outcomeOf pass (other ++ more)) := by
      have hmodified := modified_outcomeOf_interleaved hpass main other added more
      have herrors := errors_outcomeOf_of_mem_closing hpass
      unfold Outcome.joined
      rw [herrors, herrors, ← hmodified, List.map_nil, List.append_nil,
        ← herrors (main ++ other ++ added ++ more)]
      rfl
    have hswept := (recordWise_of_mem_closing hpass).swept_append_appended
    rw [reports, reports, reports, hfirst, List.zipWith_cons_cons, hswept, hswept, hswept]
    simp only [List.map_append]
    rw [ih hrest]

/-- The last passes revise two documents' records, interleaved with those that were added, as they
revise each. -/
theorem through_closing {after : List Pass} (h : after ⊆ closingPasses) (records : List Record) :
    through after records = records.map (revised after) :=
  through_of_recordWise (fun _ hpass => recordWise_of_mem_closing (h hpass)) records

/-! ## A selection of the passes -/

/-- Some passes of the library do to two documents' records what they do to those of each, and add
the records for both behind them, unless the pass over the fixed form ends among the first ones. -/
theorem through_interleaved {passes : List Pass} (h : passes.Sublist Pass.standard)
    {records : List Record} (hgo : Uninterrupted passes records) (later : List Record) :
    (∃ main added other more, through passes records = main ++ added ∧
        main.length = records.length ∧ through passes later = other ++ more ∧
        other.length = later.length ∧
        through passes (records ++ later) = main ++ other ++ added ++ more) ∧
      reports passes (records ++ later) =
        List.zipWith (Outcome.joined records.length) (reports passes records)
          (reports passes later) := by
  obtain ⟨before, after, hbefore, hafter, rfl | rfl⟩ := sublist_standard h
  · have hadded : ∀ pass ∈ before ++ after, ∀ record, pass.additions record = [] := by
      intro pass hpass record
      rcases List.mem_append.mp hpass with hpass | hpass
      · exact additions_of_mem_counting (hbefore.subset hpass) record
      · exact (recordWise_of_mem_closing (hafter.subset hpass) record).2
    obtain ⟨hthrough, hreports⟩ := through_append_records hadded hgo later
    refine ⟨⟨through (before ++ after) records, [], through (before ++ after) later, [], ?_⟩,
      hreports⟩
    simp only [List.append_nil, hthrough, length_through hadded, and_self]
  · have hadded : ∀ pass ∈ before, ∀ record, pass.additions record = [] :=
      fun pass hpass => additions_of_mem_counting (hbefore.subset hpass)
    obtain ⟨hcounting, hregister, -⟩ := (uninterrupted_append _ _ _).mp hgo
    obtain ⟨hthrough, hreports⟩ := through_append_records hadded hcounting later
    have hswept := Pass.generalRegister.swept_append hregister (through before later)
    have happended := Pass.generalRegister.appended_append hregister (through before later)
    have hlength := length_through hadded records
    constructor
    · refine ⟨(Pass.generalRegister.swept (through before records)).map (revised after),
        (Pass.generalRegister.appended (through before records)).map (revised after),
        (Pass.generalRegister.swept (through before later)).map (revised after),
        (Pass.generalRegister.appended (through before later)).map (revised after), ?_⟩
      simp only [through_append, through, through_closing hafter.subset, List.map_append,
        List.length_map, Pass.length_swept, length_through hadded, hthrough, hswept, happended,
        List.append_assoc, and_self]
    · have hregisters := outcomeOf_append Pass.generalRegister hregister (through before later)
      rw [hlength] at hregisters
      rw [reports_append, reports_append, reports_append, hreports, hthrough,
        List.zipWith_append (by simp), reports, reports, reports, hswept, happended, hregisters,
        List.zipWith_cons_cons, ← reports_interleaved hafter.subset, List.append_assoc,
        List.append_assoc, List.append_assoc]

end Pipeline

/-! ## Two documents in one -/

/-- A best-effort cleanup of two documents one after the other leaves the records of both cleanups
in place and those that they add behind them, and reports in every stage what both report, with
shifted indices, unless the pass over the fixed form has reported an error in the first
document. -/
theorem cleanup_append {config : Config} (hconfig : config.KnownTo Registry.default)
    (hbestEffort : config.failFast = false) (first second : Document) :
    ∃ run other both, cleanup first config = .ok run ∧ cleanup second config = .ok other ∧
      cleanup (first.append second.records) config = .ok both ∧
      ((∀ outcome ∈ run.outcomes, outcome.transform = Pass.vmovq.name → outcome.errors = []) →
        (∃ main added mainOther more, run.document.records = main ++ added ∧
            main.length = first.size ∧ other.document.records = mainOther ++ more ∧
            mainOther.length = second.size ∧
            both.document.records = main ++ mainOther ++ added ++ more) ∧
          run.outcomes.length = both.outcomes.length ∧
          other.outcomes.length = both.outcomes.length ∧
          both.outcomes =
            List.zipWith (Outcome.joined first.size) run.outcomes other.outcomes ∧
          both.stages.map (·.modified) =
            List.zipWith (· + ·) (run.stages.map (·.modified))
              (other.stages.map (·.modified))) := by
  have hrun (document : Document) :
      cleanup document config = .ok (Pipeline.bestEffort (Pass.selected config) document) := by
    rw [cleanup_selected hconfig, hbestEffort]
    rfl
  refine ⟨_, _, _, hrun first, hrun second, hrun _, fun hvmovq => ?_⟩
  rw [Pipeline.bestEffort_outcomes] at hvmovq
  have hselected : (Pass.selected config).Sublist Pass.standard := List.filter_sublist
  have hgo := Pipeline.uninterrupted_of_reports hselected.subset hvmovq
  obtain ⟨hrecords, hreports⟩ := Pipeline.through_interleaved hselected hgo second.records
  simp only [Pipeline.bestEffort_records, Pipeline.bestEffort_outcomes,
    Pipeline.bestEffort_stages_modified, Document.append, Document.size, Pipeline.length_reports,
    true_and]
  refine ⟨hrecords, hreports, ?_⟩
  rw [hreports, List.map_zipWith, List.zipWith_map]
  rfl

/-- A load of access rights into a register of either size. -/
def splitLoad : Record where
  mnemonic := "LAR"
  operands := [{ name := "reg" }, { name := "m16" }]

/-- An addition to a register of no stated size, which is reported. -/
def looseAddition : Record where
  mnemonic := "ADD"
  operands := [{ name := "reg" }]

/-- A load that is split and an addition that is reported, each by itself and one after the
other. -/
theorem cleanup_append_splitLoad :
    ({} : Config).KnownTo Registry.default ∧ ({} : Config).failFast = false ∧
      ∃ run other both main added mainOther more,
        cleanup ⟨[splitLoad]⟩ {} = .ok run ∧ cleanup ⟨[looseAddition]⟩ {} = .ok other ∧
          cleanup ((⟨[splitLoad]⟩ : Document).append [looseAddition]) {} = .ok both ∧
          both.document.records = main ++ mainOther ++ added ++ more ∧ main.length = 1 ∧
          mainOther.length = 1 ∧
          both.outcomes = List.zipWith (Outcome.joined 1) run.outcomes other.outcomes := by
  have hknown : ({} : Config).KnownTo Registry.default := by decide
  obtain ⟨run, other, both, hrun, hother, hboth, hjoined⟩ :=
    cleanup_append hknown rfl ⟨[splitLoad]⟩ ⟨[looseAddition]⟩
  have hvmovq : ∀ outcome ∈ run.outcomes, outcome.transform = Pass.vmovq.name →
      outcome.errors = [] := by
    obtain rfl := Except.ok.inj ((cleanup_selected hknown _).symm.trans hrun)
    decide
  obtain ⟨⟨main, added, mainOther, more, -, hmain, -, hmainOther, hrecords⟩, -, -, houtcomes, -⟩ :=
    hjoined hvmovq
  exact ⟨hknown, rfl, run, other, both, main, added, mainOther, more, hrun, hother, hboth,
    hrecords, hmain, hmainOther, houtcomes⟩

end OperandCleanup
