import OperandCleanup.Proofs.Standard

/-!
# Applying a pass again

A pass is done with a document at once when it leaves whatever it makes of a record that it accepts:
the revision and every record that it adds. A record that it reports stays as it is, and is reported
again at the same index, so a second application reports what the first one did and changes nothing.
If the pass ends at a record, it ends there again.

Each pass of the library is done at once. For the string passes the reason is that a form states the
size that it was made for, or has two operands where one is looked for; for the others it is that
the names they look for are gone.
-/

namespace OperandCleanup

namespace Pass

/-- Whether a pass has nothing to do or to say about a record. -/
structure Leaves (pass : Pass) (record : Record) : Prop where
  accepts : pass.accepts record = true
  revise : pass.revise record = record
  additions : pass.additions record = []

/-- Whether a pass leaves all that it makes of the records that it accepts. -/
def DoneAtOnce (pass : Pass) : Prop :=
  ∀ record, pass.accepts record = true →
    pass.Leaves (pass.revise record) ∧ ∀ added ∈ pass.additions record, pass.Leaves added

variable {pass : Pass}

/-- A record that a pass decides to leave is left. -/
theorem leaves_of_unchanged {record : Record} (h : pass.judge record = .unchanged) :
    pass.Leaves record := by
  refine ⟨accepts_of_unchanged h, revise_of_unchanged h, ?_⟩
  rw [Pass.additions, h]
  rfl

/-- A record that is reported stays, and nothing is added for it. -/
theorem revise_and_additions_of_not_accepts {record : Record} (h : pass.accepts record = false) :
    pass.revise record = record ∧ pass.additions record = [] := by
  unfold Pass.accepts at h
  unfold Pass.revise Pass.additions
  cases hjudge : pass.judge record with
  | malformed message => exact ⟨rfl, rfl⟩
  | corrupt headline => exact ⟨rfl, rfl⟩
  | unchanged => simp [hjudge, Verdict.accepts] at h
  | changed revised added => simp [hjudge, Verdict.accepts] at h

/-- A pass that only revises records is done at once if it leaves its revisions. -/
theorem RecordWise.doneAtOnce (h : pass.RecordWise)
    (hleaves : ∀ record, pass.accepts record = true → pass.Leaves (pass.revise record)) :
    pass.DoneAtOnce := by
  intro record haccepts
  rw [(h record).2]
  exact ⟨hleaves record haccepts, fun _ hadded => absurd hadded List.not_mem_nil⟩

/-! ## The records that a pass leaves -/

/-- A pass leaves each of some records, so it leaves them all and reports none of them. -/
theorem swept_of_leaves {records : List Record} (h : ∀ record ∈ records, pass.Leaves record)
    (index : Nat) :
    pass.swept records = records ∧ pass.appended records = [] ∧
      pass.errorsFrom index (pass.reached records) = [] := by
  have hgo : ∀ record ∈ records, pass.stopsAt record = false :=
    fun record hrecord => pass.stopsAt_of_accepts (h record hrecord).accepts
  refine ⟨?_, ?_, ?_⟩
  · rw [pass.swept_of_forall hgo]
    exact (List.map_congr_left fun record hrecord => (h record hrecord).revise).trans
      (List.map_id' records)
  · rw [appended, pass.reached_of_forall hgo, List.flatMap_eq_nil_iff]
    exact fun record hrecord => (h record hrecord).additions
  · rw [← scan_errors, scan_errors_eq_nil_iff]
    exact fun record hrecord => (h record hrecord).accepts

/-- What a pass adds it leaves, if it is done at once. -/
theorem DoneAtOnce.leaves_of_mem_appended (h : pass.DoneAtOnce) {records : List Record}
    {added : Record} (hadded : added ∈ pass.appended records) : pass.Leaves added := by
  obtain ⟨record, -, hmem⟩ := List.mem_flatMap.mp hadded
  cases haccepts : pass.accepts record with
  | true => exact (h record haccepts).2 added hmem
  | false =>
    rw [(revise_and_additions_of_not_accepts haccepts).2] at hmem
    exact absurd hmem List.not_mem_nil

/-- What a pass that is done at once makes of a record it finds as it found the record: it goes on
where it went on, it has the same to report, and there is nothing left to revise or to add. -/
theorem DoneAtOnce.again (h : pass.DoneAtOnce) (index : Nat) {record : Record}
    (hgo : pass.stopsAt record = false) :
    pass.stopsAt (pass.revise record) = false ∧
      pass.revise (pass.revise record) = pass.revise record ∧
      pass.additions (pass.revise record) = [] ∧
      pass.errorFor? index (pass.revise record) = pass.errorFor? index record := by
  cases haccepts : pass.accepts record with
  | true =>
    obtain ⟨hleaves, -⟩ := h record haccepts
    refine ⟨pass.stopsAt_of_accepts hleaves.accepts, hleaves.revise, hleaves.additions, ?_⟩
    rw [(pass.errorFor?_eq_none_iff index _).mpr hleaves.accepts,
      (pass.errorFor?_eq_none_iff index _).mpr haccepts]
  | false =>
    obtain ⟨hrevise, hadditions⟩ := revise_and_additions_of_not_accepts haccepts
    rw [hrevise]
    exact ⟨hgo, hrevise, hadditions, rfl⟩

/-- A second sweep, over the swept records and more that the pass leaves, changes none of them, adds
nothing, and reports what the first one reported. -/
theorem DoneAtOnce.swept_again (h : pass.DoneAtOnce) {later : List Record}
    (hlater : ∀ record ∈ later, pass.Leaves record) (records : List Record) (index : Nat) :
    pass.swept (pass.swept records ++ later) = pass.swept records ++ later ∧
      pass.appended (pass.swept records ++ later) = [] ∧
      pass.errorsFrom index (pass.reached (pass.swept records ++ later)) =
        pass.errorsFrom index (pass.reached records) := by
  induction records generalizing index with
  | nil => exact swept_of_leaves hlater index
  | cons record rest ih =>
    cases hstop : pass.stopsAt record with
    | true =>
      -- The pass ends at the record again, before it gets to the records that were added.
      have haccepts : pass.accepts record = false := by
        rw [Bool.eq_false_iff]
        intro haccepts
        rw [pass.stopsAt_of_accepts haccepts] at hstop
        exact absurd hstop Bool.false_ne_true
      have hadditions := (revise_and_additions_of_not_accepts haccepts).2
      rw [pass.swept_cons_of_stopsAt rest hstop, List.cons_append]
      refine ⟨pass.swept_cons_of_stopsAt _ hstop, ?_, ?_⟩
      · simp [appended, reached, hstop, hadditions]
      · simp [reached, hstop]
    | false =>
      obtain ⟨hgo, hrevise, hadditions, herror⟩ := h.again index hstop
      obtain ⟨hswept, happended, herrors⟩ := ih (index + 1)
      rw [pass.swept_cons_of_not_stopsAt rest hstop, List.cons_append]
      refine ⟨?_, ?_, ?_⟩
      · rw [pass.swept_cons_of_not_stopsAt _ hgo, hrevise, hswept]
      · rw [appended] at happended ⊢
        simp [reached, hgo, hadditions, happended]
      · simp [reached, hgo, hstop, errorsFrom, herror, herrors]

/-- A pass that is done at once leaves its own document, and reports about it what it reported. -/
theorem DoneAtOnce.apply_again (h : pass.DoneAtOnce) (document : Document) :
    (pass.apply (pass.apply document).document).document = (pass.apply document).document ∧
      (pass.apply (pass.apply document).document).outcome.errors =
        (pass.apply document).outcome.errors := by
  obtain ⟨hswept, happended, herrors⟩ := h.swept_again
    (fun _ hadded => h.leaves_of_mem_appended hadded) document.records 0
  constructor
  · apply congrArg Document.mk
    change (pass.apply (pass.apply document).document).document.records =
      (pass.apply document).document.records
    rw [apply_records, apply_records, hswept, happended, List.append_nil]
  · change (pass.scan 0 (pass.apply document).document.records).errors =
      (pass.scan 0 document.records).errors
    rw [apply_records, scan_errors, scan_errors, herrors]

end Pass

/-! ## The passes of the library -/

namespace StringInstruction

/-- A record whose operands are in form is left by the pass of its instruction. -/
theorem leaves_of_inForm {instruction : StringInstruction} {size : PointerSize} {record : Record}
    (hmnemonic : record.mnemonic = instruction.mnemonic)
    (h : instruction.InForm size record.operands) : instruction.pass.Leaves record := by
  refine ⟨?_, ?_, (instruction.recordWise_pass record).2⟩
  · rw [instruction.accepts_pass_iff hmnemonic]
    cases hexpanded : instruction.isExpanded with
    | true => exact Or.inr ⟨rfl, by rw [length_of_inForm h]; decide⟩
    | false => exact Or.inl (by rw [formed?_eq_some_of_inForm hexpanded h]; rfl)
  · rw [instruction.revise_pass_eq_formed hmnemonic, Record.formed_of_inForm hmnemonic h]

/-- A string pass is done at once. -/
theorem doneAtOnce_pass (instruction : StringInstruction) : instruction.pass.DoneAtOnce := by
  refine instruction.recordWise_pass.doneAtOnce fun record haccepts => ?_
  rcases instruction.judge_pass_eq_or record.mnemonic with ⟨own, hmnemonic, hpass⟩ | hunchanged
  · rw [← hpass] at haccepts ⊢
    rw [own.revise_pass_eq_formed hmnemonic]
    rcases Record.formed_cases hmnemonic with ⟨-, hformed⟩ | ⟨-, size, -, hform⟩
    · -- What is accepted without a form is not looked at.
      rw [hformed]
      refine ⟨haccepts, ?_, (own.recordWise_pass record).2⟩
      rw [own.revise_pass_eq_formed hmnemonic, hformed]
    · exact leaves_of_inForm (by rw [Record.formed_mnemonic, hmnemonic]) hform
  · rw [Pass.revise_of_unchanged (hunchanged record rfl)]
    exact Pass.leaves_of_unchanged (hunchanged record rfl)

end StringInstruction

namespace Pass

/-- The pass over the fixed form is done at once. -/
theorem doneAtOnce_vmovq : vmovq.DoneAtOnce := by
  intro record haccepts
  rw [additions_vmovq, revise_vmovq]
  refine ⟨⟨?_, ?_, additions_vmovq record.fixed⟩, fun _ hadded => absurd hadded List.not_mem_nil⟩
  · rw [accepts_vmovq_iff, Bool.eq_false_iff, ne_eq, stopsAt_vmovq_iff] at haccepts ⊢
    rwa [Record.fixed_binaryEncoding, Record.length_fixed_operands]
  · rw [revise_vmovq]
    by_cases hencoding : record.binaryEncoding = vmovqEncoding
    · rw [Record.fixed_of_eq (by rw [Record.fixed_binaryEncoding, hencoding]),
        Record.fixed_of_eq hencoding, fixedOperands_fixedOperands]
    · rw [Record.fixed_of_ne hencoding, Record.fixed_of_ne hencoding]

/-- The pass over the general registers leaves a record without the placeholder. -/
theorem leaves_generalRegister {record : Record}
    (h : ∀ operand ∈ record.operands, operand.name ≠ placeholder) :
    generalRegister.Leaves record := by
  apply leaves_of_unchanged
  have hnone : ¬ record.hasOperand placeholder = true := by
    rw [hasOperand_iff]
    rintro ⟨operand, hoperand, hname⟩
    exact h operand hoperand hname
  simp only [generalRegister, judgeGeneralRegister]
  rw [if_neg hnone]

/-- The pass over the general registers is done at once. -/
theorem doneAtOnce_generalRegister : generalRegister.DoneAtOnce := by
  intro record haccepts
  rw [accepts_generalRegister_iff] at haccepts
  constructor
  · rw [revise_generalRegister]
    apply leaves_generalRegister
    intro operand hoperand
    obtain ⟨original, horiginal, rfl⟩ := List.mem_map.mp hoperand
    intro hname
    apply haccepts original horiginal
    rw [settledName_eq_placeholder_iff]
    exact (sizedName_eq_placeholder_iff record.mnemonic original.name).mp hname
  · intro added hadded
    rw [additions_generalRegister] at hadded
    split at hadded
    · rw [List.mem_singleton.mp hadded]
      exact leaves_generalRegister fun _ hoperand => name_ne_placeholder_of_mem_wide hoperand
    · exact absurd hadded List.not_mem_nil

/-- The pass over the synonyms is done at once. -/
theorem doneAtOnce_renameSynonyms : renameSynonyms.DoneAtOnce := by
  refine (recordWise_of_mem_last (by simp)).doneAtOnce fun record _ => leaves_of_unchanged ?_
  rw [revise_renameSynonyms]
  have hnone : ¬ ((record.renamed canonicalName).operands.any fun operand =>
      (canonicalName? operand.name).isSome) = true := by
    rw [List.any_eq_true]
    rintro ⟨operand, hoperand, hsynonym⟩
    obtain ⟨original, -, rfl⟩ := List.mem_map.mp hoperand
    rw [Operand.renamed, canonicalName?_canonicalName] at hsynonym
    exact absurd hsynonym Bool.false_ne_true
  simp only [renameSynonyms, judgeSynonyms]
  rw [if_neg hnone]

/-- A record without the operands of a name has none to remove. -/
theorem judgeRemoval_removeOperands (name : String) (record : Record) :
    judgeRemoval name (record.removeOperands name) = .unchanged := by
  have hnone : ¬ (record.removeOperands name).hasOperand name = true := by
    rw [hasOperand_iff]
    rintro ⟨operand, hoperand, hname⟩
    have hkept := (List.mem_filter.mp hoperand).2
    simp [hname] at hkept
  rw [judgeRemoval, if_neg hnone]

/-- The removal of the top of the register stack is done at once. -/
theorem doneAtOnce_removeStackTop : removeStackTop.DoneAtOnce := by
  refine (recordWise_of_mem_last (by simp)).doneAtOnce fun record _ => leaves_of_unchanged ?_
  unfold revise
  simp only [removeStackTop, judgeStackTop]
  split
  · rename_i hencoding
    rw [inPlace_judgeRemoval]
    have hkept : (record.removeOperands stackTop).binaryEncoding = record.binaryEncoding := rfl
    rw [hkept, if_pos hencoding, judgeRemoval_removeOperands]
  · rename_i hencoding
    rw [Verdict.inPlace, if_neg hencoding]
    exact fun _ _ h => by cases h

/-- The removal of the implied vector register is done at once. -/
theorem doneAtOnce_removeImpliedVector : removeImpliedVector.DoneAtOnce := by
  refine (recordWise_of_mem_last (by simp)).doneAtOnce fun record _ => leaves_of_unchanged ?_
  have hrevise : removeImpliedVector.revise record = record.removeOperands impliedVector :=
    inPlace_judgeRemoval impliedVector record
  rw [hrevise]
  exact judgeRemoval_removeOperands impliedVector record

/-- Every pass of the library is done at once. -/
theorem doneAtOnce_of_mem_standard {pass : Pass} (h : pass ∈ standard) : pass.DoneAtOnce := by
  simp only [standard, List.mem_cons, List.not_mem_nil, or_false] at h
  rcases h with rfl | rfl | rfl | rfl | rfl | rfl | rfl | rfl
  · exact StringInstruction.doneAtOnce_pass .cmps
  · exact StringInstruction.doneAtOnce_pass .ins
  · exact StringInstruction.doneAtOnce_pass .lods
  · exact doneAtOnce_vmovq
  · exact doneAtOnce_generalRegister
  · exact doneAtOnce_renameSynonyms
  · exact doneAtOnce_removeStackTop
  · exact doneAtOnce_removeImpliedVector

end Pass

/-- The entries for passes apply passes. -/
theorem exists_pass_of_mem_passEntries {entry : Entry} {sequence : Nat} {passes : List Pass}
    (h : entry ∈ Registry.passEntries sequence passes) :
    ∃ pass ∈ passes, entry.transform = pass.transform := by
  induction passes generalizing sequence with
  | nil => exact absurd h List.not_mem_nil
  | cons pass rest ih =>
    rcases List.mem_cons.mp h with rfl | hrest
    · exact ⟨pass, List.mem_cons_self, rfl⟩
    · obtain ⟨other, hother, htransform⟩ := ih hrest
      exact ⟨other, List.mem_cons_of_mem pass hother, htransform⟩

/-- A transform of the default registry leaves its own document, and reports about it the errors
that it reported, in the same order. -/
theorem default_apply_apply {entry : Entry} (h : entry ∈ Registry.default.entries)
    (document : Document) :
    (entry.transform.apply (entry.transform.apply document).document).document =
        (entry.transform.apply document).document ∧
      (entry.transform.apply (entry.transform.apply document).document).outcome.errors =
        (entry.transform.apply document).outcome.errors := by
  obtain ⟨pass, hpass, htransform⟩ := exists_pass_of_mem_passEntries h
  rw [htransform]
  exact (Pass.doneAtOnce_of_mem_standard hpass).apply_again document

/-- An addition to a register of no stated size. -/
def unsizedAddition : Record where
  mnemonic := "ADD"
  operands := [{ name := "reg" }]

/-- A load of access rights, and behind it the addition. -/
def loadThenAddition : Document :=
  ⟨[{ mnemonic := "LAR", operands := [{ name := "reg" }, { name := "m16" }] }, unsizedAddition]⟩

/-- The load is split once, and the addition is reported both times. -/
theorem default_apply_apply_loadThenAddition :
    ∃ entry ∈ Registry.default.entries, entry.name = Pass.generalRegister.name ∧
      (entry.transform.apply loadThenAddition).document.size = 3 ∧
      (entry.transform.apply (entry.transform.apply loadThenAddition).document).document.size = 3 ∧
      (entry.transform.apply (entry.transform.apply loadThenAddition).document).outcome.errors =
        [Pass.generalRegister.errorAt .malformedRecord 1 unsizedAddition
          "Unexpected instruction mnemonic: ADD"] := by
  let entry : Entry :=
    { name := Pass.generalRegister.name, priority := Registry.operandPriority
      transform := Pass.generalRegister.transform, sequence := 4 }
  have hentry : entry ∈ Registry.default.entries := by
    simp [entry, Registry.default, Registry.passEntries, Pass.standard]
  obtain ⟨hdocument, herrors⟩ := default_apply_apply hentry loadThenAddition
  refine ⟨entry, hentry, rfl, rfl, ?_, ?_⟩
  · rw [hdocument]
    rfl
  · rw [herrors]
    rfl

end OperandCleanup
