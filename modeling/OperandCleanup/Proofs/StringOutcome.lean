import OperandCleanup.Proofs.Standard

/-!
# What becomes of a string instruction

The record of a string instruction reaches the pass of its instruction as it was in the document,
and what that pass makes of it is not touched again: the names of a form endure. So a cleanup
reports the record, or leaves it in the form of the size that its own operands state.

A reported record is settled like any other, and dropping implied operands may leave it in a form
that it had too many operands for.
-/

namespace OperandCleanup

namespace StringInstruction

/-- The pass of an instruction reports about its records as they are in the document. -/
theorem errorsAt_pass {instruction : StringInstruction} {document : Document} {index : Nat}
    {record : Record} (hrecord : document.records[index]? = some record)
    (hmnemonic : record.mnemonic = instruction.mnemonic) :
    (Pipeline.bestEffort Pass.standard document).errorsAt instruction.pass.name index =
      (instruction.pass.errorFor? index record).toList := by
  obtain ⟨before, after, hpasses, hothers⟩ := instruction.passes_split
  have hstandard : Pass.standard = before ++ instruction.pass :: (after ++ laterPasses) := by
    rw [standard_eq, hpasses, List.append_assoc, List.cons_append]
  have hrecordWise : ∀ pass ∈ before, pass.RecordWise := fun pass hpass =>
    recordWise_of_mem_passes (by rw [hpasses]; simp [hpass])
  have hbefore : ∀ other ∈ before, other.name ≠ instruction.pass.name :=
    fun other hother => (hothers other (by simp [hother])).1
  have hlater : ∀ other ∈ laterPasses, other.name ≠ instruction.pass.name := by
    cases instruction <;> decide
  have hafter : ∀ other ∈ after ++ laterPasses, other.name ≠ instruction.pass.name := by
    intro other hother
    rcases List.mem_append.mp hother with hother | hother
    · exact (hothers other (by simp [hother])).1
    · exact hlater other hother
  rw [hstandard, Pipeline.errorsAt_bestEffort _ _ _ _ _ hbefore hafter,
    Pipeline.through_of_recordWise hrecordWise,
    Pass.reached_of_forall _ fun other _ => (instruction.recordWise_pass other).1,
    List.getElem?_map, hrecord, Option.map_some, Pipeline.revised_of_forall, Option.bind_some]
  exact fun other hother => (hothers other (by simp [hother])).2 record hmnemonic

/-- The pass of an instruction reports a record once or not at all. -/
theorem errorsAt_pass_cases {instruction : StringInstruction} {document : Document} {index : Nat}
    {record : Record} (hrecord : document.records[index]? = some record)
    (hmnemonic : record.mnemonic = instruction.mnemonic) :
    (instruction.pass.accepts record = true ∧
        (Pipeline.bestEffort Pass.standard document).errorsAt instruction.pass.name index = []) ∨
      ¬ instruction.pass.accepts record = true ∧
        ((Pipeline.bestEffort Pass.standard document).errorsAt
          instruction.pass.name index).length = 1 := by
  rw [errorsAt_pass hrecord hmnemonic, ← instruction.pass.errorFor?_eq_none_iff index]
  cases instruction.pass.errorFor? index record with
  | none => exact Or.inl ⟨rfl, rfl⟩
  | some error => exact Or.inr ⟨by simp, rfl⟩

end StringInstruction

namespace Pipeline

/-- A record of another encoding than the VMOVQ load's ends up formed and settled. -/
theorem standard_getElem? {document : Document} {index : Nat} {record : Record}
    (hrecord : document.records[index]? = some record)
    (hencoding : record.binaryEncoding ≠ Pass.vmovqEncoding) :
    (bestEffort Pass.standard document).document.records[index]? = some record.formed.settled := by
  have hformed : record.formed.fixed = record.formed :=
    Record.fixed_of_ne (by rwa [Record.formed_binaryEncoding])
  have hprepared : (prepared document.records)[index]? = some record.formed := by
    rw [prepared, Pass.swept_getElem?, List.getElem?_map, hrecord]
    simp [Pass.revise_vmovq, hformed]
  have hindex : index < (prepared document.records).length :=
    (List.getElem?_eq_some_iff.mp hprepared).1
  rw [standard_records, List.getElem?_map, List.getElem?_append_left hindex, hprepared]
  rfl

end Pipeline

namespace Record

/-- Settling a record that is not put into form leaves it in form only by dropping operands. -/
theorem inForm_settled {record : Record} {instruction : StringInstruction} {size : PointerSize}
    (hsingle : instruction.isExpanded = true → record.operands.length = 1)
    (hformed : instruction.formed? record.operands = none)
    (h : instruction.InForm size record.settled.operands) :
    2 < record.operands.length ∧ ¬ record.Intact := by
  have htwo := StringInstruction.length_of_inForm h
  have hexpanded : instruction.isExpanded = false := by
    rw [Bool.eq_false_iff]
    intro hexpanded
    have hone := hsingle hexpanded
    have hle := record.length_settled_le
    omega
  have hdropped : ¬ record.Intact := by
    intro hintact
    -- The settled names state the size of the form, so the names of the record do as well.
    rw [hintact.settled_eq, renamed_operands] at h
    have hsome := StringInstruction.formed?_eq_some_of_inForm hexpanded h
    rw [instruction.formed?_renamed (Pass.unobtrusive_settledName record.mnemonic),
      hformed] at hsome
    cases hsome
  exact ⟨htwo ▸ length_settled_lt hdropped, hdropped⟩

end Record

/-! ## Reported or in form -/

/-- A cleanup by default puts the record of a string instruction into form when its operands are as
many as the instruction comes with and state a size, and otherwise reports it once. It does both to
no record but one that has lost implied operands from more than two. -/
theorem cleanup_reported_or_inForm {document : Document} {index : Nat} {record : Record}
    {instruction : StringInstruction} (hrecord : document.records[index]? = some record)
    (hmnemonic : record.mnemonic = instruction.mnemonic)
    (hencoding : record.binaryEncoding ≠ Pass.vmovqEncoding)
    (hsingle : instruction.isExpanded = true → record.operands.length = 1) :
    ∃ run left, cleanup document = .ok run ∧ run.document.records[index]? = some left ∧
      ((record.operands.length = instruction.operandCount ∧
          run.errorsAt instruction.pass.name index = [] ∧
          ∃ size, instruction.statedSize? record.operandNames = some size ∧
            instruction.InForm size left.operands) ∨
        (record.operands.length = instruction.operandCount →
            instruction.statedSize? record.operandNames = none) ∧
          (run.errorsAt instruction.pass.name index).length = 1 ∧
          ∀ size, instruction.InForm size left.operands →
            2 < record.operands.length ∧ ¬ record.Intact) := by
  refine ⟨_, record.formed.settled, cleanup_default document,
    Pipeline.standard_getElem? hrecord hencoding, ?_⟩
  have haccepts := instruction.accepts_pass_iff hmnemonic
  have herrors := StringInstruction.errorsAt_pass_cases hrecord hmnemonic
  rcases Record.formed_cases hmnemonic with ⟨hnone, hformed⟩ | ⟨hlength, size, hsize, hform⟩
  · have hreported : ¬ instruction.pass.accepts record = true := by
      rw [haccepts, hnone]
      rintro (hsome | ⟨hexpanded, hlength⟩)
      · cases hsome
      · exact hlength (hsingle hexpanded)
    refine Or.inr ⟨fun hlength => ?_, (herrors.resolve_left fun h => hreported h.1).2, ?_⟩
    · rw [StringInstruction.formed?, if_pos hlength] at hnone
      exact Option.map_eq_none_iff.mp hnone
    · rw [hformed]
      exact fun size hform => Record.inForm_settled hsingle hnone hform
  · have hwritten := instruction.formed?_eq_some_iff.mpr ⟨hlength, size, hsize, rfl⟩
    have haccepted : instruction.pass.accepts record = true := by
      rw [haccepts, hwritten]
      exact Or.inl rfl
    refine Or.inl ⟨hlength, (herrors.resolve_right fun h => h.1 haccepted).2, size, hsize, ?_⟩
    rwa [Record.settled_of_inForm hform]

/-- Moving bytes between generic memory operands. -/
def moveBytes : Record where
  mnemonic := "MOVS"
  binaryEncoding := "A4"
  operands := [{ name := "m8" }, { name := "m8" }]

/-- The record of a move is put into form. -/
theorem cleanup_moveBytes_inForm :
    ∃ run left, cleanup ⟨[moveBytes]⟩ = .ok run ∧ run.document.records[0]? = some left ∧
      run.errorsAt StringInstruction.movs.pass.name 0 = [] ∧
      StringInstruction.movs.InForm .byte left.operands := by
  have hrecord : (⟨[moveBytes]⟩ : Document).records[0]? = some moveBytes := rfl
  have hmnemonic : moveBytes.mnemonic = StringInstruction.movs.mnemonic := rfl
  obtain ⟨run, left, hrun, hleft, ⟨-, herrors, size, hsize, hform⟩ | ⟨hnone, -⟩⟩ :=
    cleanup_reported_or_inForm hrecord hmnemonic (by decide) (by decide)
  · obtain rfl : PointerSize.byte = size := Option.some.inj hsize
    exact ⟨run, left, hrun, hleft, herrors, hform⟩
  · exact absurd (hnone rfl) (by decide)

/-- A comparison of bytes with an implied operand too many. -/
def crowdedComparison : Record where
  mnemonic := "CMPS"
  binaryEncoding := "A6"
  operands :=
    [{ name := "BYTE PTR [RSI]", usage := some .read },
      { name := "BYTE PTR [RDI]", usage := some .read }, { name := "<XMM0>" }]

/-- The crowded comparison is reported, and left in the form of the size that its first operand
states. -/
theorem cleanup_crowdedComparison_both :
    ∃ run left, cleanup ⟨[crowdedComparison]⟩ = .ok run ∧
      run.document.records[0]? = some left ∧
      (run.errorsAt StringInstruction.cmps.pass.name 0).length = 1 ∧
      StringInstruction.cmps.statedSize? crowdedComparison.operandNames = some .byte ∧
      StringInstruction.cmps.InForm .byte left.operands := by
  have hrecord : (⟨[crowdedComparison]⟩ : Document).records[0]? = some crowdedComparison := rfl
  have hmnemonic : crowdedComparison.mnemonic = StringInstruction.cmps.mnemonic := rfl
  refine ⟨_, _, cleanup_default _, Pipeline.standard_getElem? hrecord (by decide), ?_, by decide,
    ?_⟩
  · rw [StringInstruction.errorsAt_pass hrecord hmnemonic]
    rfl
  · exact ⟨by decide, by decide⟩

end OperandCleanup
