import OperandCleanup.Proofs.StringForm

/-!
# Records of the fixed form

A record of the VMOVQ load has two operands, the second of which may be memory. Writing that operand
leaves the rest of the record, and the pass that does so ends at a record of the encoding that does
not have two operands.

The encoding does not rule out the mnemonic of a string instruction. In such a record this pass
writes over an operand that a string pass wrote before it, and the string pass of a further run
writes it again. The fixed form has the last word: forming a record of the fixed form and fixing it
once more gives the record back.
-/

namespace OperandCleanup

namespace Pass

/-- Two operands, the second of which is renamed. -/
def fixedOperands : List Operand → List Operand
  | [first, second] => [first, { second with name := registerOrMemory }]
  | operands => operands

/-- There are two operands, or they stay. -/
theorem fixedOperands_cases (operands : List Operand) :
    (∃ first second, operands = [first, second]) ∨
      operands.length ≠ 2 ∧ fixedOperands operands = operands := by
  rcases operands with _ | ⟨first, _ | ⟨second, _ | ⟨third, rest⟩⟩⟩
  · exact Or.inr ⟨by simp, rfl⟩
  · exact Or.inr ⟨by simp, rfl⟩
  · exact Or.inl ⟨first, second, rfl⟩
  · exact Or.inr ⟨by simp, rfl⟩

@[simp] theorem length_fixedOperands (operands : List Operand) :
    (fixedOperands operands).length = operands.length := by
  rcases fixedOperands_cases operands with ⟨first, second, rfl⟩ | ⟨-, hfixed⟩
  · rfl
  · rw [hfixed]

/-- Renaming the second operand twice is renaming it once. -/
@[simp] theorem fixedOperands_fixedOperands (operands : List Operand) :
    fixedOperands (fixedOperands operands) = fixedOperands operands := by
  rcases fixedOperands_cases operands with ⟨first, second, rfl⟩ | ⟨-, hfixed⟩
  · rfl
  · rw [hfixed, hfixed]

end Pass

namespace Record

/-- A record with the second operand of the VMOVQ load, where it has that encoding and two
operands. -/
def fixed (record : Record) : Record :=
  if record.binaryEncoding = Pass.vmovqEncoding then
    { record with operands := Pass.fixedOperands record.operands }
  else record

/-- A record of another encoding stays. -/
theorem fixed_of_ne {record : Record} (h : record.binaryEncoding ≠ Pass.vmovqEncoding) :
    record.fixed = record := by
  rw [fixed, if_neg h]

/-- The record of a VMOVQ load has its second operand renamed. -/
theorem fixed_of_eq {record : Record} (h : record.binaryEncoding = Pass.vmovqEncoding) :
    record.fixed = { record with operands := Pass.fixedOperands record.operands } := by
  rw [fixed, if_pos h]

@[simp] theorem fixed_mnemonic (record : Record) : record.fixed.mnemonic = record.mnemonic := by
  unfold fixed
  split <;> rfl

@[simp] theorem fixed_binaryEncoding (record : Record) :
    record.fixed.binaryEncoding = record.binaryEncoding := by
  unfold fixed
  split <;> rfl

@[simp] theorem length_fixed_operands (record : Record) :
    record.fixed.operands.length = record.operands.length := by
  unfold fixed
  split
  · exact Pass.length_fixedOperands record.operands
  · rfl

end Record

namespace Pass

/-! ## The pass -/

/-- What the pass decides about a record, by its encoding and the number of its operands. -/
theorem judge_vmovq_cases (record : Record) :
    record.binaryEncoding ≠ vmovqEncoding ∧ vmovq.judge record = .unchanged ∨
      record.binaryEncoding = vmovqEncoding ∧
        ((∃ first second, record.operands = [first, second] ∧
            vmovq.judge record =
              if second.name = registerOrMemory then .unchanged
              else .changed
                { record with operands := [first, { second with name := registerOrMemory }] } []) ∨
          record.operands.length ≠ 2 ∧
            vmovq.judge record =
              .corrupt "Unexpected number of operands of a VMOVQ instruction: ") := by
  by_cases hencoding : record.binaryEncoding = vmovqEncoding
  · refine Or.inr ⟨hencoding, ?_⟩
    simp only [vmovq, judgeVmovq, if_pos hencoding]
    rcases fixedOperands_cases record.operands with ⟨first, second, hoperands⟩ | ⟨hlength, -⟩
    · exact Or.inl ⟨first, second, hoperands, by rw [hoperands]⟩
    · refine Or.inr ⟨hlength, ?_⟩
      split
      · rename_i first second hoperands
        exact absurd (congrArg List.length hoperands) hlength
      · rfl
  · exact Or.inl ⟨hencoding, if_neg hencoding⟩

/-- The pass writes the second operand of the VMOVQ load. -/
theorem revise_vmovq (record : Record) : vmovq.revise record = record.fixed := by
  unfold revise
  rcases judge_vmovq_cases record with
    ⟨hencoding, hjudge⟩ | ⟨hencoding, ⟨first, second, hoperands, hjudge⟩ | ⟨hlength, hjudge⟩⟩
  · rw [hjudge, Record.fixed_of_ne hencoding]
    rfl
  · rw [hjudge, Record.fixed_of_eq hencoding, hoperands]
    split
    · rename_i hname
      rw [Verdict.inPlace.eq_def, fixedOperands, ← hname, ← hoperands]
    · rfl
  · rw [hjudge, Record.fixed_of_eq hencoding]
    rcases fixedOperands_cases record.operands with ⟨first, second, hoperands⟩ | ⟨-, hfixed⟩
    · exact absurd (congrArg List.length hoperands) hlength
    · rw [hfixed]
      rfl

/-- The pass ends at the records of the VMOVQ load that do not have two operands. -/
theorem stopsAt_vmovq_iff (record : Record) :
    vmovq.stopsAt record = true ↔
      record.binaryEncoding = vmovqEncoding ∧ record.operands.length ≠ 2 := by
  unfold stopsAt
  rcases judge_vmovq_cases record with
    ⟨hencoding, hjudge⟩ | ⟨hencoding, ⟨first, second, hoperands, hjudge⟩ | ⟨hlength, hjudge⟩⟩
  · simp [hjudge, hencoding, Verdict.stops]
  · rw [hjudge]
    split <;> simp [hoperands, Verdict.stops]
  · simp [hjudge, hencoding, hlength, Verdict.stops]

/-- The pass reports only the records at which it ends. -/
theorem accepts_vmovq_iff (record : Record) :
    vmovq.accepts record = true ↔ vmovq.stopsAt record = false := by
  unfold accepts stopsAt
  rcases judge_vmovq_cases record with
    ⟨-, hjudge⟩ | ⟨-, ⟨first, second, -, hjudge⟩ | ⟨-, hjudge⟩⟩
  · simp [hjudge, Verdict.accepts, Verdict.stops]
  · rw [hjudge]
    split <;> simp [Verdict.accepts, Verdict.stops]
  · simp [hjudge, Verdict.accepts, Verdict.stops]

/-- The pass adds no records. -/
theorem additions_vmovq (record : Record) : vmovq.additions record = [] := by
  unfold additions
  rcases judge_vmovq_cases record with
    ⟨-, hjudge⟩ | ⟨-, ⟨first, second, -, hjudge⟩ | ⟨-, hjudge⟩⟩
  · rw [hjudge]
    rfl
  · rw [hjudge]
    split <;> rfl
  · rw [hjudge]
    rfl

end Pass

/-! ## Beside the string forms -/

/-- A revision of an operand that has the usage already changes only the name. -/
theorem Operand.revised_rename {operand : Operand} {name : String} {usage : Usage}
    (h : operand.revised name usage = operand) (other : String) :
    ({ operand with name := other } : Operand).revised name usage =
      { operand with name := name } := by
  have husage : some usage = operand.usage := congrArg Operand.usage h
  simp [Operand.revised, husage]

namespace StringInstruction

/-- Forming operands that were formed before their second one was renamed changes nothing but the
name of the second one. -/
theorem formed?_rename_second {instruction : StringInstruction} {first second : Operand}
    (h : (instruction.formed? [first, second]).getD [first, second] = [first, second]) :
    ∃ name,
      (instruction.formed? [first, { second with name := Pass.registerOrMemory }]).getD
          [first, { second with name := Pass.registerOrMemory }] =
        [first, { second with name := name }] := by
  cases instruction with
  | cmps | movs | ins | outs =>
    cases hsize : PointerSize.ofOperand? first.name with
    | none =>
      exact ⟨Pass.registerOrMemory, by simp [formed?, operandCount, isExpanded, statedSize?, hsize]⟩
    | some size =>
      simp only [formed?, operandCount, isExpanded, statedSize?, written, form, List.map_cons,
        List.map_nil, List.length_cons, List.length_nil, List.getElem?_cons_zero, Option.bind_some,
        hsize, Option.some_or, Option.map_some, Option.getD_some, List.zipWith_cons_cons,
        List.zipWith_nil_left, List.cons.injEq, Bool.false_eq_true, ↓reduceIte, Nat.reduceAdd,
        and_true] at h ⊢
      exact ⟨_, h.1, Operand.revised_rename h.2 _⟩
  | lods | scas | stos =>
    exact ⟨Pass.registerOrMemory, rfl⟩

/-- Forming and fixing formed operands that were fixed gives the fixed operands back. -/
theorem fixedOperands_formed? {instruction : StringInstruction} {operands : List Operand}
    (h : (instruction.formed? operands).getD operands = operands) :
    Pass.fixedOperands
        ((instruction.formed? (Pass.fixedOperands operands)).getD (Pass.fixedOperands operands)) =
      Pass.fixedOperands operands := by
  rcases Pass.fixedOperands_cases operands with ⟨first, second, rfl⟩ | ⟨-, hfixed⟩
  · obtain ⟨name, hname⟩ := formed?_rename_second h
    rw [Pass.fixedOperands, hname, Pass.fixedOperands]
  · rw [hfixed, h, hfixed]

end StringInstruction

namespace Record

/-- The fixed form keeps its second operand when its record is formed once more. -/
theorem fixed_formed_fixed {record : Record} (h : record.formed = record) :
    record.fixed.formed.fixed = record.fixed := by
  by_cases hencoding : record.binaryEncoding = Pass.vmovqEncoding
  · have hagain : record.fixed.formed.binaryEncoding = Pass.vmovqEncoding := by
      rw [formed_binaryEncoding, fixed_binaryEncoding, hencoding]
    rw [fixed_of_eq hagain]
    -- A string pass may write the second operand again, and fixing renames it back.
    by_cases hstring : ∃ instruction, record.mnemonic = StringInstruction.mnemonic instruction
    · obtain ⟨instruction, hmnemonic⟩ := hstring
      rw [formed_of_mnemonic hmnemonic] at h
      have hoperands := StringInstruction.fixedOperands_formed? (congrArg operands h)
      have hfixed : record.fixed.mnemonic = instruction.mnemonic := by
        rw [fixed_mnemonic, hmnemonic]
      rw [formed_of_mnemonic hfixed, fixed_of_eq hencoding]
      simp only [hoperands]
    · rw [formed_of_forall_ne fun instruction hmnemonic =>
        hstring ⟨instruction, by rw [← hmnemonic, fixed_mnemonic]⟩, fixed_of_eq hencoding]
      simp only [Pass.fixedOperands_fixedOperands]
  · rw [fixed_of_ne hencoding, h, fixed_of_ne hencoding]

/-- Settled names keep the fixed form. -/
theorem fixed_renamed (record : Record) :
    (record.renamed (Pass.settledName record.mnemonic)).fixed =
      record.fixed.renamed (Pass.settledName record.mnemonic) := by
  by_cases hencoding : record.binaryEncoding = Pass.vmovqEncoding
  · rw [fixed_of_eq hencoding, fixed_of_eq (by rw [renamed_binaryEncoding, hencoding])]
    have hname : Pass.settledName record.mnemonic Pass.registerOrMemory = Pass.registerOrMemory :=
      Pass.enduring_registerOrMemory.settledName_eq _
    unfold renamed
    rcases Pass.fixedOperands_cases record.operands with
      ⟨first, second, hoperands⟩ | ⟨hlength, hfixed⟩
    · simp [hoperands, Pass.fixedOperands, Operand.renamed, hname]
    · rcases Pass.fixedOperands_cases
        (record.operands.map (·.renamed (Pass.settledName record.mnemonic))) with
        ⟨first, second, hoperands⟩ | ⟨-, hrenamed⟩
      · have htwo := congrArg List.length hoperands
        exact absurd (by simpa using htwo) hlength
      · simp only [hrenamed, hfixed]
  · rw [fixed_of_ne hencoding, fixed_of_ne (by rwa [renamed_binaryEncoding])]

/-- The operands of a fixed record are those of the record, but for the one that is written. -/
theorem mem_fixed_operands {record : Record} {operand : Operand}
    (h : operand ∈ record.fixed.operands) :
    operand ∈ record.operands ∨ operand.name = Pass.registerOrMemory := by
  unfold fixed at h
  split at h
  · rcases Pass.fixedOperands_cases record.operands with ⟨first, second, hoperands⟩ | ⟨-, hfixed⟩
    · simp only [hoperands, Pass.fixedOperands, List.mem_cons, List.not_mem_nil, or_false] at h
      rcases h with rfl | rfl
      · exact Or.inl (by simp [hoperands])
      · exact Or.inr rfl
    · exact Or.inl (by simpa only [hfixed] using h)
  · exact Or.inl h

/-- The fixed form keeps a record intact. -/
theorem Intact.fixed {record : Record} (h : record.Intact) : record.fixed.Intact := by
  have hendures := Pass.enduring_registerOrMemory
  unfold Record.fixed
  split
  · rcases Pass.fixedOperands_cases record.operands with ⟨first, second, hoperands⟩ | ⟨-, hfixed⟩
    · rw [Intact, hoperands] at h
      simp_all [Intact, Pass.fixedOperands, hendures.settledName_eq, hendures.remains_eq]
    · simpa only [hfixed] using h
  · exact h

end Record

end OperandCleanup
