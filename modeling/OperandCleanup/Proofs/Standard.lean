import OperandCleanup.Proofs.FixedForm
import OperandCleanup.Proofs.Run

/-!
# The passes of the library in a row

Of the eight passes that a cleanup runs, one can end before the last record and one adds records;
the others only revise. So a cleanup by default leaves every record formed, and fixed up to the
first corrupt one, then the wide copies, and all of these settled. Whatever was in the document, a
record of the result has settled names only, and no operand that is implied.
-/

namespace OperandCleanup

namespace Pass

/-- The last three passes go record by record. -/
theorem recordWise_of_mem_last {pass : Pass}
    (h : pass ∈ [renameSynonyms, removeStackTop, removeImpliedVector]) : pass.RecordWise := by
  simp only [List.mem_cons, List.not_mem_nil, or_false] at h
  intro record
  rcases h with rfl | rfl | rfl
  · simp only [stopsAt, additions, renameSynonyms, judgeSynonyms]
    split <;> exact ⟨rfl, rfl⟩
  · simp only [stopsAt, additions, removeStackTop, judgeStackTop, judgeRemoval]
    split
    · split <;> exact ⟨rfl, rfl⟩
    · exact ⟨rfl, rfl⟩
  · simp only [stopsAt, additions, removeImpliedVector, judgeRemoval]
    split <;> exact ⟨rfl, rfl⟩

/-- The placeholders of all records are looked at. -/
theorem total_generalRegister : generalRegister.Total := by
  intro record
  simp only [stopsAt, generalRegister, judgeGeneralRegister]
  split
  · split
    · rfl
    · cases singleRegister? record.mnemonic <;> rfl
  · rfl

/-- A split mnemonic is that of no string instruction, and asks for a register. -/
theorem split_mnemonic {mnemonic : String} (h : mnemonic ∈ splitMnemonics) :
    (∀ instruction, mnemonic ≠ StringInstruction.mnemonic instruction) ∧
      registerFor? mnemonic ≠ none := by
  refine ⟨fun instruction hmnemonic => ?_, ?_⟩
  · subst hmnemonic
    revert h
    cases instruction <;> decide
  · simp [registerFor?, h]

end Pass

namespace StringInstruction

/-! ## The string passes in a row -/

/-- The passes of the string instructions. -/
def passes : List Pass := [.cmpsMovs, .insOuts, .lodsScasStos]

/-- The passes after those of the string instructions. -/
def laterPasses : List Pass :=
  [.vmovq, .generalRegister, .renameSynonyms, .removeStackTop, .removeImpliedVector]

/-- The passes of the library are those of the string instructions and the later ones. -/
theorem standard_eq : Pass.standard = passes ++ laterPasses := rfl

/-- Each string pass is that of an instruction. -/
theorem exists_of_mem_passes {pass : Pass} (h : pass ∈ passes) :
    ∃ instruction : StringInstruction, instruction.pass = pass := by
  simp only [passes, List.mem_cons, List.not_mem_nil, or_false] at h
  rcases h with rfl | rfl | rfl
  · exact ⟨.cmps, rfl⟩
  · exact ⟨.ins, rfl⟩
  · exact ⟨.lods, rfl⟩

/-- The string passes go record by record. -/
theorem recordWise_of_mem_passes {pass : Pass} (h : pass ∈ passes) : pass.RecordWise := by
  obtain ⟨instruction, rfl⟩ := exists_of_mem_passes h
  exact instruction.recordWise_pass

/-- The passes before and after the pass of an instruction have other names, and leave its
records. -/
theorem passes_split (instruction : StringInstruction) :
    ∃ before after, passes = before ++ instruction.pass :: after ∧
      ∀ other ∈ before ++ after, other.name ≠ instruction.pass.name ∧
        ∀ record : Record, record.mnemonic = instruction.mnemonic →
          other.judge record = .unchanged := by
  have hother (other : StringInstruction) (hname : instruction.pass.name ≠ other.pass.name) :
      other.pass.name ≠ instruction.pass.name ∧
        ∀ record : Record, record.mnemonic = instruction.mnemonic →
          other.pass.judge record = .unchanged :=
    ⟨hname.symm, fun _ hmnemonic => judge_pass_of_pass_ne other hmnemonic hname⟩
  cases instruction with
  | cmps | movs =>
    refine ⟨[], [.insOuts, .lodsScasStos], rfl, ?_⟩
    simp only [List.nil_append, List.mem_cons, List.not_mem_nil, or_false, forall_eq_or_imp,
      forall_eq]
    exact ⟨hother .ins (by decide), hother .lods (by decide)⟩
  | ins | outs =>
    refine ⟨[.cmpsMovs], [.lodsScasStos], rfl, ?_⟩
    simp only [List.cons_append, List.nil_append, List.mem_cons, List.not_mem_nil, or_false,
      forall_eq_or_imp, forall_eq]
    exact ⟨hother .cmps (by decide), hother .lods (by decide)⟩
  | lods | scas | stos =>
    refine ⟨[.cmpsMovs, .insOuts], [], rfl, ?_⟩
    simp only [List.append_nil, List.mem_cons, List.not_mem_nil, or_false, forall_eq_or_imp,
      forall_eq]
    exact ⟨hother .cmps (by decide), hother .ins (by decide)⟩

/-- The string passes leave the records of no string instruction. -/
theorem judge_of_mem_passes {pass : Pass} {record : Record} (hpass : pass ∈ passes)
    (h : ∀ instruction, record.mnemonic ≠ mnemonic instruction) :
    pass.judge record = .unchanged := by
  obtain ⟨instruction, rfl⟩ := exists_of_mem_passes hpass
  exact instruction.judge_pass_of_forall_ne h

/-- The string passes form a record. -/
theorem revised_passes (record : Record) : Pipeline.revised passes record = record.formed := by
  by_cases h : ∃ own, record.mnemonic = mnemonic own
  · obtain ⟨own, hown⟩ := h
    obtain ⟨before, after, hsplit, hothers⟩ := own.passes_split
    have hformed : record.formed.mnemonic = own.mnemonic := by rw [Record.formed_mnemonic, hown]
    have hbefore : Pipeline.revised before record = record :=
      Pipeline.revised_of_forall fun other hother => (hothers other (by simp [hother])).2 _ hown
    have hafter : Pipeline.revised after record.formed = record.formed :=
      Pipeline.revised_of_forall fun other hother => (hothers other (by simp [hother])).2 _ hformed
    rw [hsplit, Pipeline.revised_append, hbefore, Pipeline.revised,
      own.revise_pass_eq_formed hown, hafter]
  · have hnone : ∀ own, record.mnemonic ≠ mnemonic own := fun own hown => h ⟨own, hown⟩
    rw [Pipeline.revised_of_forall fun pass hpass => judge_of_mem_passes hpass hnone,
      Record.formed_of_forall_ne hnone]

end StringInstruction

namespace Pipeline

/-! ## All passes in a row -/

/-- The records that the general registers are written into. -/
def prepared (records : List Record) : List Record := Pass.vmovq.swept (records.map Record.formed)

/-- The wide copies of records. -/
def wideCopies (records : List Record) : List Record :=
  records.flatMap Pass.generalRegister.additions

@[simp] theorem length_prepared (records : List Record) :
    (prepared records).length = records.length := by
  simp [prepared]

/-- A wide copy is made of one of the records. -/
theorem exists_wide_of_mem_wideCopies {records : List Record} {copy : Record}
    (h : copy ∈ wideCopies records) :
    ∃ record ∈ records, record.mnemonic ∈ Pass.splitMnemonics ∧ copy = record.wide := by
  obtain ⟨record, hrecord, hcopy⟩ := List.mem_flatMap.mp h
  rw [Pass.additions_generalRegister] at hcopy
  split at hcopy
  · rename_i hsplit
    simp only [Bool.and_eq_true, List.contains_iff_mem] at hsplit
    exact ⟨record, hrecord, hsplit.1, List.mem_singleton.mp hcopy⟩
  · simp at hcopy

/-- The string passes form every record. -/
theorem through_string (records : List Record) :
    through StringInstruction.passes records = records.map Record.formed := by
  rw [through_of_recordWise fun _ hpass => StringInstruction.recordWise_of_mem_passes hpass]
  exact List.map_congr_left fun record _ => StringInstruction.revised_passes record

/-- A prepared record is a formed one, or a formed and fixed one. -/
theorem exists_of_mem_prepared {records : List Record} {record : Record}
    (h : record ∈ prepared records) :
    ∃ original ∈ records, record = original.formed ∨ record = original.formed.fixed := by
  obtain ⟨index, hindex⟩ := List.mem_iff_getElem?.mp h
  rw [prepared, Pass.swept_getElem?, List.getElem?_map, Option.map_map] at hindex
  obtain ⟨original, horiginal, rfl⟩ := Option.map_eq_some_iff.mp hindex
  refine ⟨original, List.mem_of_getElem? horiginal, ?_⟩
  simp only [Function.comp_apply, Pass.revise_vmovq]
  split
  · exact Or.inr rfl
  · exact Or.inl rfl

/-- The pass over the fixed form adds nothing. -/
theorem appended_vmovq (records : List Record) : Pass.vmovq.appended records = [] :=
  Pass.appended_eq_nil Pass.additions_vmovq records

/-- The pass over the general registers revises every record. -/
theorem swept_generalRegister (records : List Record) :
    Pass.generalRegister.swept records = records.map Pass.generalRegister.revise :=
  Pass.generalRegister.swept_of_forall fun record _ => Pass.total_generalRegister record

/-- The pass over the general registers adds the wide copies of all records. -/
theorem appended_generalRegister (records : List Record) :
    Pass.generalRegister.appended records = wideCopies records := by
  rw [Pass.appended, wideCopies,
    Pass.generalRegister.reached_of_forall fun record _ => Pass.total_generalRegister record]

/-- The first four passes prepare the records. -/
theorem through_prepared (records : List Record) :
    through (StringInstruction.passes ++ [.vmovq]) records = prepared records := by
  rw [through_append, through_string, through, through, appended_vmovq, List.append_nil]
  rfl

/-- The passes of the library settle the prepared records and their wide copies. -/
theorem through_standard (records : List Record) :
    through Pass.standard records =
      (prepared records ++ wideCopies (prepared records)).map Record.settled := by
  have hsplit : Pass.standard =
      (StringInstruction.passes ++ [.vmovq]) ++
        .generalRegister :: [.renameSynonyms, .removeStackTop, .removeImpliedVector] := rfl
  have hlast : ∀ pass ∈ [Pass.renameSynonyms, .removeStackTop, .removeImpliedVector],
      pass.RecordWise := fun _ hpass => Pass.recordWise_of_mem_last hpass
  rw [hsplit, through_append, through_prepared, through, through_of_recordWise hlast,
    swept_generalRegister, appended_generalRegister, List.map_append, List.map_append, List.map_map]
  congr 1
  · exact List.map_congr_left fun record _ => Pass.revise_settled record
  · refine List.map_congr_left fun copy hcopy => ?_
    obtain ⟨record, -, -, rfl⟩ := exists_wide_of_mem_wideCopies hcopy
    exact Pass.revise_wide record

/-- The records of a cleanup by default. -/
theorem standard_records (document : Document) :
    (bestEffort Pass.standard document).document.records =
      (prepared document.records ++ wideCopies (prepared document.records)).map Record.settled := by
  rw [bestEffort_records, through_standard]

/-- Every record of a cleanup by default is settled. -/
theorem exists_settled_of_mem_standard {document : Document} {record : Record}
    (h : record ∈ (bestEffort Pass.standard document).document.records) :
    ∃ original : Record, original.settled = record := by
  rw [standard_records] at h
  obtain ⟨original, -, hsettled⟩ := List.mem_map.mp h
  exact ⟨original, hsettled⟩

end Pipeline

end OperandCleanup
