import OperandCleanup.Proofs.Standard

/-!
# Records that every pass accepts

Three kinds of passes report records: the string passes, the pass over the fixed form, and the pass
over the general registers. What each of them has to say about a record is known from the record as
it was in the document: the string passes look at it untouched, the next pass at what they made of
it, and the last at what both did.
-/

namespace OperandCleanup

namespace Record

/-- Whether the string passes have nothing to report about a record. -/
def StringAccepted (record : Record) : Prop :=
  ∀ instruction, record.mnemonic = StringInstruction.mnemonic instruction →
    (instruction.formed? record.operands).isSome = true ∨
      instruction.isExpanded = true ∧ record.operands.length ≠ 1

/-- What the string passes have to say is up to the pass of the instruction. -/
theorem stringAccepted_iff {record : Record} {instruction : StringInstruction}
    (h : record.mnemonic = instruction.mnemonic) :
    record.StringAccepted ↔
      (instruction.formed? record.operands).isSome = true ∨
        instruction.isExpanded = true ∧ record.operands.length ≠ 1 := by
  refine ⟨fun haccepted => haccepted instruction h, fun haccepted other hother => ?_⟩
  rwa [← StringInstruction.mnemonic_injective (h.symm.trans hother)]

/-- The string passes have nothing to say about a record of no string instruction. -/
theorem stringAccepted_of_forall_ne {record : Record}
    (h : ∀ instruction, record.mnemonic ≠ StringInstruction.mnemonic instruction) :
    record.StringAccepted :=
  fun instruction hmnemonic => absurd hmnemonic (h instruction)

end Record

namespace Pass

/-- The removal of an operand is never reported. -/
theorem accepts_judgeRemoval (name : String) (record : Record) :
    (judgeRemoval name record).accepts = true := by
  unfold judgeRemoval
  split <;> rfl

/-- The last three passes report nothing. -/
theorem accepts_of_mem_last {pass : Pass}
    (h : pass ∈ [renameSynonyms, removeStackTop, removeImpliedVector]) (record : Record) :
    pass.accepts record = true := by
  simp only [List.mem_cons, List.not_mem_nil, or_false] at h
  rcases h with rfl | rfl | rfl
  · simp only [accepts, renameSynonyms, judgeSynonyms]
    split <;> rfl
  · simp only [accepts, removeStackTop, judgeStackTop]
    split
    · exact accepts_judgeRemoval stackTop record
    · rfl
  · exact accepts_judgeRemoval impliedVector record

end Pass

namespace Pipeline

/-- The string passes accept a record when the pass of its instruction does. -/
theorem accepted_string_iff (record : Record) :
    Accepted StringInstruction.passes record ↔ record.StringAccepted := by
  by_cases h : ∃ own, record.mnemonic = StringInstruction.mnemonic own
  · obtain ⟨own, hown⟩ := h
    obtain ⟨before, after, hsplit, hothers⟩ := own.passes_split
    have hrecordWise : ∀ pass ∈ before, pass.RecordWise := fun pass hpass =>
      StringInstruction.recordWise_of_mem_passes (by rw [hsplit]; simp [hpass])
    have hbefore : ∀ pass ∈ before, pass.judge record = .unchanged :=
      fun pass hpass => (hothers pass (by simp [hpass])).2 _ hown
    have hafter : ∀ pass ∈ after, pass.judge record.formed = .unchanged :=
      fun pass hpass => (hothers pass (by simp [hpass])).2 _ (by rw [Record.formed_mnemonic, hown])
    rw [Record.stringAccepted_iff hown, ← own.accepts_pass_iff hown, hsplit,
      accepted_append hrecordWise, revised_of_forall hbefore,
      and_iff_right (accepted_of_unchanged hbefore), Accepted, own.revise_pass_eq_formed hown,
      (own.recordWise_pass record).2]
    exact and_iff_left ⟨accepted_of_unchanged hafter, by simp⟩
  · have hnone : ∀ own, record.mnemonic ≠ StringInstruction.mnemonic own :=
      fun own hown => h ⟨own, hown⟩
    exact iff_of_true
      (accepted_of_unchanged fun _ hpass => StringInstruction.judge_of_mem_passes hpass hnone)
      (Record.stringAccepted_of_forall_ne hnone)

/-- The passes of the library accept a record when the string passes do, when what they make of it
is not corrupt, and when no operand settles on the placeholder. -/
theorem accepted_standard_iff (record : Record) :
    Accepted Pass.standard record ↔
      record.StringAccepted ∧ Pass.vmovq.stopsAt record.formed = false ∧
        ∀ operand ∈ record.formed.fixed.operands,
          Pass.settledName record.mnemonic operand.name ≠ Pass.placeholder := by
  have hlast (other : Record) :
      Accepted [.renameSynonyms, .removeStackTop, .removeImpliedVector] other :=
    accepted_of_forall (fun pass hpass =>
      ⟨Pass.recordWise_of_mem_last hpass, Pass.accepts_of_mem_last hpass⟩) other
  have hregister : Pass.generalRegister.accepts record.formed.fixed = true ↔
      ∀ operand ∈ record.formed.fixed.operands,
        Pass.settledName record.mnemonic operand.name ≠ Pass.placeholder := by
    rw [Pass.accepts_generalRegister_iff, Record.fixed_mnemonic, Record.formed_mnemonic]
  rw [StringInstruction.standard_eq,
    accepted_append fun _ hpass => StringInstruction.recordWise_of_mem_passes hpass,
    accepted_string_iff, StringInstruction.revised_passes, StringInstruction.laterPasses, Accepted,
    Accepted,
    Pass.accepts_vmovq_iff, Pass.revise_vmovq, Pass.additions_vmovq, hregister]
  simp [hlast]

end Pipeline

end OperandCleanup
