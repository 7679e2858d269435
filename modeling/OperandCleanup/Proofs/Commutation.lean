import OperandCleanup.Proofs.Standard

/-!
# The order of passes

All passes of the library are registered with the same priority, so nothing but the order of their
registration says which comes first. For most of them that order makes no difference. Two passes
commute when they leave the same document in either order; passes that commute with each other can
be applied in any order.

A pass that only revises records commutes with another one when the two commute on every record
and the records that the other one adds come out the same. For the string passes there are two
reasons: they deal with different mnemonics, so what one of them looks at the other leaves; and the
forms that they write neither depend on the names that the renaming passes change nor are changed
by them. The renaming passes and the removals are maps and filters of the operands, and neither
does anything to the names that the other looks for.
-/

namespace OperandCleanup

namespace Pass

/-- Whether two passes leave the same document in either order. -/
def Commutes (pass other : Pass) : Prop :=
  ∀ document, (pass.apply (other.apply document).document).document =
    (other.apply (pass.apply document).document).document

/-- The document that passes leave, one after the other. -/
def applyAll (passes : List Pass) (document : Document) : Document :=
  passes.foldl (fun left pass => (pass.apply left).document) document

/-- Whether a pass decides about the revisions of another one as about the records they come
from: the other one leaves a record, or the pass leaves the record and its revision. -/
def ApartFrom (pass other : Pass) : Prop :=
  ∀ record, other.revise record = record ∨
    pass.judge record = .unchanged ∧ pass.judge (other.revise record) = .unchanged

/-- Whether a pass makes of the revisions of another one the revisions of what it makes of the
records. -/
structure Exchanges (pass reviser : Pass) : Prop where
  revise : ∀ record, pass.revise (reviser.revise record) = reviser.revise (pass.revise record)
  additions : ∀ record,
    pass.additions (reviser.revise record) = (pass.additions record).map reviser.revise

variable {pass other : Pass}

/-! ## Passes that commute -/

/-- Passes commute in either direction. -/
theorem Commutes.symm (h : pass.Commutes other) : other.Commutes pass :=
  fun document => (h document).symm

/-- A pass commutes with itself. -/
theorem Commutes.refl (pass : Pass) : pass.Commutes pass := fun _ => rfl

/-- Passes that commute with each other leave the same document in any order. -/
theorem applyAll_eq_of_perm {passes order : List Pass}
    (h : ∀ pass ∈ passes, ∀ other ∈ passes, pass.Commutes other) (horder : order.Perm passes)
    (document : Document) : applyAll order document = applyAll passes document := by
  refine (List.Perm.foldl_eq' horder.symm ?_ document).symm
  exact fun pass hpass other hother left => h other hother pass hpass left

/-- A pass that ends at no record commutes with one that only revises records, if it makes of their
revisions the revisions of what it makes of the records. -/
theorem Exchanges.commutes {reviser : Pass} (h : pass.Exchanges reviser) (hpass : pass.Total)
    (hreviser : reviser.RecordWise) : pass.Commutes reviser := by
  intro document
  refine congrArg Document.mk ?_
  have hmap (records : List Record) :
      pass.swept records ++ pass.appended records =
        records.map pass.revise ++ records.flatMap pass.additions := by
    rw [pass.swept_of_forall fun record _ => hpass record, appended,
      pass.reached_of_forall fun record _ => hpass record]
  change (pass.apply (reviser.apply document).document).document.records =
    (reviser.apply (pass.apply document).document).document.records
  rw [apply_records, apply_records, apply_records, apply_records,
    hreviser.swept_append_appended, hreviser.swept_append_appended, hmap, hmap, List.map_append,
    List.map_map, List.map_map, List.flatMap_map, List.map_flatMap]
  simp only [Function.comp_def, h.revise, h.additions]

/-- Passes that only revise records commute if they commute on every record. -/
theorem RecordWise.commutes (hpass : pass.RecordWise) (hother : other.RecordWise)
    (h : ∀ record, pass.revise (other.revise record) = other.revise (pass.revise record)) :
    pass.Commutes other := by
  have hexchanges : pass.Exchanges other :=
    ⟨h, fun record => by rw [(hpass _).2, (hpass record).2, List.map_nil]⟩
  exact hexchanges.commutes (fun record => (hpass record).1) hother

/-! ## Passes that are apart -/

/-- A pass that is apart from another one reports about its revisions what it reports about the
records, and modifies as many. -/
theorem ApartFrom.scan_map_revise (h : pass.ApartFrom other) (records : List Record)
    (index : Nat) :
    (pass.scan index (records.map other.revise)).errors = (pass.scan index records).errors ∧
      (pass.scan index (records.map other.revise)).modified =
        (pass.scan index records).modified := by
  induction records generalizing index with
  | nil => exact ⟨rfl, rfl⟩
  | cons record rest ih =>
    obtain ⟨herrors, hmodified⟩ := ih (index + 1)
    rcases h record with hsame | ⟨hrecord, hrevised⟩
    · rw [List.map_cons, hsame]
      cases hjudge : pass.judge record <;> simp [scan, hjudge, herrors, hmodified]
    · simp [scan, hrecord, hrevised, herrors, hmodified]

/-- A pass that is apart from one that only revises records has the same outcome after it. -/
theorem ApartFrom.outcome_apply (h : pass.ApartFrom other) (hother : other.RecordWise)
    (document : Document) :
    (pass.apply (other.apply document).document).outcome = (pass.apply document).outcome := by
  have hrecords : (other.apply document).document.records = document.records.map other.revise := by
    rw [apply_records, hother.swept_append_appended]
  obtain ⟨herrors, hmodified⟩ := h.scan_map_revise document.records 0
  simp only [apply] at hrecords ⊢
  rw [hrecords, herrors, hmodified]

/-- Passes that are apart from each other commute on every record. -/
theorem ApartFrom.revise_comm (h : pass.ApartFrom other) (h' : other.ApartFrom pass)
    (record : Record) :
    pass.revise (other.revise record) = other.revise (pass.revise record) := by
  rcases h record with hother | ⟨hpass, hrevised⟩
  · rcases h' record with hpass | ⟨-, hrevised⟩
    · rw [hother, hpass, hother]
    · rw [hother, revise_of_unchanged hrevised]
  · rw [revise_of_unchanged hrevised, revise_of_unchanged hpass]

end Pass

/-! ## The string passes -/

namespace StringInstruction

/-- A string pass keeps the mnemonic of a record. -/
theorem revise_pass_mnemonic (instruction : StringInstruction) (record : Record) :
    (instruction.pass.revise record).mnemonic = record.mnemonic := by
  rcases instruction.judge_pass_eq_or record.mnemonic with ⟨own, hown, hpass⟩ | hleft
  · rw [← hpass, own.revise_pass_eq_formed hown, Record.formed_mnemonic]
  · rw [Pass.revise_of_unchanged (hleft record rfl)]

/-- String passes of different names are apart. -/
theorem apartFrom_of_name_ne {instruction other : StringInstruction}
    (h : instruction.pass.name ≠ other.pass.name) : instruction.pass.ApartFrom other.pass := by
  intro record
  rcases other.judge_pass_eq_or record.mnemonic with ⟨own, hown, hpass⟩ | hleft
  · have hname : own.pass.name ≠ instruction.pass.name := by
      rw [hpass]
      exact h.symm
    have hrevised : (other.pass.revise record).mnemonic = own.mnemonic := by
      rw [revise_pass_mnemonic, hown]
    exact Or.inr ⟨instruction.judge_pass_of_pass_ne hown hname,
      instruction.judge_pass_of_pass_ne hrevised hname⟩
  · exact Or.inl (Pass.revise_of_unchanged (hleft record rfl))

/-- It makes no difference to a string pass whether an unobtrusive renaming comes before it or
after it. -/
theorem revise_pass_renamed (instruction : StringInstruction) {rename : String → String}
    (h : Pass.Unobtrusive rename) (record : Record) :
    instruction.pass.revise (record.renamed rename) =
      (instruction.pass.revise record).renamed rename := by
  rcases instruction.judge_pass_eq_or record.mnemonic with ⟨own, hown, hpass⟩ | hleft
  · rw [← hpass, own.revise_pass_eq_formed hown, own.revise_pass_eq_formed (by exact hown),
      Record.formed_renamed h]
  · have hrenamed := hleft (record.renamed rename) rfl
    rw [Pass.revise_of_unchanged (hleft record rfl), Pass.revise_of_unchanged hrenamed]

/-- A string pass leaves the records of a split mnemonic. -/
theorem revise_pass_of_split (instruction : StringInstruction) {record : Record}
    (h : record.mnemonic ∈ Pass.splitMnemonics) : instruction.pass.revise record = record :=
  Pass.revise_of_unchanged (instruction.judge_pass_of_forall_ne (Pass.split_mnemonic h).1)

/-- String passes commute. -/
theorem commutes_pass (instruction other : StringInstruction) :
    instruction.pass.Commutes other.pass := by
  by_cases h : instruction.pass.name = other.pass.name
  · rw [pass_eq_of_name h]
    exact .refl other.pass
  · exact instruction.recordWise_pass.commutes other.recordWise_pass
      ((apartFrom_of_name_ne h).revise_comm (apartFrom_of_name_ne (Ne.symm h)))

/-- The pass over the general registers commutes with the string passes: the mnemonics that it
splits are not theirs. -/
theorem commutes_generalRegister (instruction : StringInstruction) :
    Pass.generalRegister.Commutes instruction.pass := by
  have hexchanges : Pass.generalRegister.Exchanges instruction.pass := by
    refine ⟨fun record => ?_, fun record => ?_⟩
    · rw [Pass.revise_generalRegister, Pass.revise_generalRegister, revise_pass_mnemonic,
        instruction.revise_pass_renamed (Pass.unobtrusive_sizedName record.mnemonic)]
    · rw [Pass.additions_generalRegister, Pass.additions_generalRegister, revise_pass_mnemonic]
      by_cases hsplit : record.mnemonic ∈ Pass.splitMnemonics
      · have hsplitWide : record.wide.mnemonic ∈ Pass.splitMnemonics := hsplit
        have hwide := instruction.revise_pass_of_split hsplitWide
        rw [instruction.revise_pass_of_split hsplit]
        split
        · rw [List.map_singleton, hwide]
        · rfl
      · simp [hsplit]
  exact hexchanges.commutes Pass.total_generalRegister instruction.recordWise_pass

/-- The pass over the synonyms commutes with the string passes. -/
theorem commutes_renameSynonyms (instruction : StringInstruction) :
    Pass.renameSynonyms.Commutes instruction.pass := by
  refine (Pass.recordWise_of_mem_last (by simp)).commutes instruction.recordWise_pass ?_
  intro record
  rw [Pass.revise_renameSynonyms, Pass.revise_renameSynonyms,
    instruction.revise_pass_renamed Pass.unobtrusive_canonicalName]

end StringInstruction

/-! ## Renamings and removals -/

namespace Pass

/-- The pass over the general registers puts a register, or the placeholder itself, in the place of
the placeholder. -/
theorem renamed_sizedName (record : Record) :
    record.renamed (sizedName record.mnemonic) =
      { record with
        operands := withRegister record.operands
          ((registerFor? record.mnemonic).getD placeholder) } := by
  refine congrArg (fun operands => { record with operands := operands }) ?_
  refine List.map_congr_left fun operand _ => ?_
  unfold Operand.renamed sizedName
  split
  · rename_i hname
    rw [hname]
  · rfl

/-- A pass that edits the operands, whatever else is in the record, commutes with the pass over the
general registers if the edit neither makes nor unmakes placeholders and leaves registers. -/
theorem commutes_generalRegister_of_edit {reviser : Pass} (hreviser : reviser.RecordWise)
    {edit : List Operand → List Operand}
    (hedit : ∀ record, reviser.revise record = { record with operands := edit record.operands })
    (hplaceholder : ∀ operands, (edit operands).any (·.name == placeholder) =
      operands.any (·.name == placeholder))
    (hregister : ∀ operands, ∀ register ∈ [placeholder, "r8", "r16", "r32", "r64"],
      edit (withRegister operands register) = withRegister (edit operands) register) :
    generalRegister.Commutes reviser := by
  refine Exchanges.commutes ⟨fun record => ?_, fun record => ?_⟩ total_generalRegister hreviser
  · have hmem : (registerFor? record.mnemonic).getD placeholder ∈
        [placeholder, "r8", "r16", "r32", "r64"] := by
      cases h : registerFor? record.mnemonic with
      | none => exact List.mem_cons_self
      | some register =>
        have hsubset : ["r8", "r16", "r32"] ⊆ [placeholder, "r8", "r16", "r32", "r64"] := by decide
        exact hsubset (mem_of_registerFor? h)
    simp only [revise_generalRegister, renamed_sizedName, hedit, hregister _ _ hmem]
  · have hmnemonic : (reviser.revise record).mnemonic = record.mnemonic := by rw [hedit]
    have hhas : (reviser.revise record).hasOperand placeholder = record.hasOperand placeholder := by
      rw [hedit]
      exact hplaceholder record.operands
    have hwide : reviser.revise record.wide = (reviser.revise record).wide := by
      rw [hedit, hedit]
      simp only [Record.wide, hregister record.operands "r64" (by simp)]
    rw [additions_generalRegister, additions_generalRegister, hmnemonic, hhas]
    split
    · rw [List.map_singleton, hwide]
    · rfl

/-- The pass over the synonyms commutes with the pass over the general registers. -/
theorem commutes_generalRegister_renameSynonyms : generalRegister.Commutes renameSynonyms := by
  have hplaceholder := canonicalName_invariant (· == placeholder) (by decide)
  have hkept : ∀ register ∈ [placeholder, "r8", "r16", "r32", "r64"],
      canonicalName register = register := by decide
  refine commutes_generalRegister_of_edit (recordWise_of_mem_last (by simp))
    revise_renameSynonyms (fun operands => ?_) fun operands register hregister => ?_
  · simp only [List.any_map, Function.comp_def, Operand.renamed, hplaceholder]
  · rw [withRegister, withRegister, List.map_map, List.map_map]
    refine List.map_congr_left fun operand _ => ?_
    by_cases h : operand.name = placeholder
    · simp [Operand.renamed, h, hkept register hregister, hkept placeholder (by simp)]
    · have hcanonical : canonicalName operand.name ≠ placeholder := by
        rw [← beq_eq_false_iff_ne, hplaceholder operand.name]
        exact beq_eq_false_iff_ne.mpr h
      simp [Operand.renamed, h, hcanonical]

/-- The removal of the implied vector register removes its operands. -/
theorem revise_removeImpliedVector (record : Record) :
    removeImpliedVector.revise record = record.removeOperands impliedVector :=
  inPlace_judgeRemoval impliedVector record

/-- The removal of the implied vector register commutes with the pass over the general
registers. -/
theorem commutes_generalRegister_removeImpliedVector :
    generalRegister.Commutes removeImpliedVector := by
  have hkept : ∀ register ∈ [placeholder, "r8", "r16", "r32", "r64"],
      (register != impliedVector) = true := by decide
  refine commutes_generalRegister_of_edit (recordWise_of_mem_last (by simp))
    revise_removeImpliedVector (fun operands => ?_) fun operands register hregister => ?_
  · rw [List.any_filter]
    refine congrArg operands.any (funext fun operand => ?_)
    by_cases h : operand.name = placeholder
    · simp [h, hkept placeholder (by simp)]
    · simp [h]
  · rw [withRegister, withRegister, List.filter_map]
    refine congrArg (List.map _) (List.filter_congr fun operand _ => ?_)
    by_cases h : operand.name = placeholder
    · simp [h, hkept register hregister, hkept placeholder (by simp)]
    · simp [h]

/-- The removal of the implied vector register commutes with the pass over the synonyms. -/
theorem commutes_renameSynonyms_removeImpliedVector :
    renameSynonyms.Commutes removeImpliedVector := by
  have hkept := canonicalName_invariant (· != impliedVector) (by decide)
  refine (recordWise_of_mem_last (by simp)).commutes (recordWise_of_mem_last (by simp)) ?_
  intro record
  simp only [revise_renameSynonyms, revise_removeImpliedVector, Record.removeOperands,
    Record.renamed, List.filter_map, Function.comp_def, Operand.renamed, hkept]

/-- The two removals commute: which operands the one removes depends on the encoding at most, and
the other keeps the encoding. -/
theorem commutes_removeStackTop_removeImpliedVector :
    removeStackTop.Commutes removeImpliedVector := by
  refine (recordWise_of_mem_last (by simp)).commutes (recordWise_of_mem_last (by simp)) ?_
  intro record
  have hstack (record : Record) : removeStackTop.revise record =
      if stackTopEncodings.contains record.binaryEncoding then record.removeOperands stackTop
      else record := by
    unfold revise
    simp only [removeStackTop, judgeStackTop]
    split
    · exact inPlace_judgeRemoval stackTop record
    · rfl
  simp only [hstack, revise_removeImpliedVector, Record.removeOperands]
  split
  · simp only [List.filter_filter, Bool.and_comm]
  · rfl

/-! ## The order of the passes -/

/-- The passes that write the names of operands and do not look at an encoding. -/
def naming : List Pass := StringInstruction.passes ++ [.generalRegister, .renameSynonyms]

/-- The passes that write the names of operands commute with each other. -/
theorem commutes_of_mem_naming {first second : Pass} (hfirst : first ∈ naming)
    (hsecond : second ∈ naming) : first.Commutes second := by
  have hcases {pass : Pass} (h : pass ∈ naming) :
      (∃ instruction : StringInstruction, instruction.pass = pass) ∨ pass = generalRegister ∨
        pass = renameSynonyms := by
    rcases List.mem_append.mp h with hstring | hlater
    · exact Or.inl (StringInstruction.exists_of_mem_passes hstring)
    · exact Or.inr (by simpa using hlater)
  rcases hcases hfirst with ⟨instruction, rfl⟩ | rfl | rfl <;>
    rcases hcases hsecond with ⟨other, rfl⟩ | rfl | rfl
  · exact instruction.commutes_pass other
  · exact instruction.commutes_generalRegister.symm
  · exact instruction.commutes_renameSynonyms.symm
  · exact other.commutes_generalRegister
  · exact .refl generalRegister
  · exact commutes_generalRegister_renameSynonyms
  · exact other.commutes_renameSynonyms
  · exact commutes_generalRegister_renameSynonyms.symm
  · exact .refl renameSynonyms

/-- The removal of the implied vector register commutes with both renaming passes and with the
other removal. -/
theorem commutes_removeImpliedVector {pass : Pass}
    (h : pass ∈ [generalRegister, renameSynonyms, removeStackTop]) :
    pass.Commutes removeImpliedVector := by
  simp only [List.mem_cons, List.not_mem_nil, or_false] at h
  rcases h with rfl | rfl | rfl
  · exact commutes_generalRegister_removeImpliedVector
  · exact commutes_renameSynonyms_removeImpliedVector
  · exact commutes_removeStackTop_removeImpliedVector

/-- The five passes that write the names of operands leave the same document in any order, and of
the string passes each has the same outcome before and after another one. The removal of the
implied vector register can be exchanged with each of the renaming passes and with the other
removal. -/
theorem apply_order_irrelevant (document : Document) :
    (∀ order : List Pass, order.Perm naming → applyAll order document = applyAll naming document) ∧
      (∀ first ∈ StringInstruction.passes, ∀ second ∈ StringInstruction.passes,
        first.name ≠ second.name →
          (first.apply (second.apply document).document).outcome =
            (first.apply document).outcome) ∧
      ∀ pass ∈ [generalRegister, renameSynonyms, removeStackTop],
        (pass.apply (removeImpliedVector.apply document).document).document =
          (removeImpliedVector.apply (pass.apply document).document).document := by
  refine ⟨fun order horder => ?_, fun first hfirst second hsecond hname => ?_, fun pass hpass => ?_⟩
  · refine applyAll_eq_of_perm (fun pass hpass other hother => ?_) horder document
    exact commutes_of_mem_naming hpass hother
  · obtain ⟨instruction, rfl⟩ := StringInstruction.exists_of_mem_passes hfirst
    obtain ⟨other, rfl⟩ := StringInstruction.exists_of_mem_passes hsecond
    exact (StringInstruction.apartFrom_of_name_ne hname).outcome_apply other.recordWise_pass
      document
  · exact commutes_removeImpliedVector hpass document

/-- A load of access rights with a synonym and an implied operand, a store of a string whose memory
has no stated size, and a move. -/
def loadStoreMove : Document :=
  ⟨[{ mnemonic := "LAR", binaryEncoding := "0F 02 /r"
      operands := [{ name := "reg" }, { name := "<XMM0>" }, { name := "r16/m16" }] },
    { mnemonic := "STOS", operands := [{ name := "m80dec" }] },
    { mnemonic := "MOVS", operands := [{ name := "m16" }, { name := "m16" }] }]⟩

/-- The passes in the opposite order split the load, and form the move; both the store's error and
what is left of the load do not depend on what comes first. -/
theorem apply_order_irrelevant_loadStoreMove :
    (applyAll naming.reverse loadStoreMove).records.map Record.operandNames =
        [["r32", "<XMM0>", "r/m16"], ["m80bcd"], ["WORD PTR [RDI]", "WORD PTR [RSI]"],
          ["r64", "<XMM0>", "r/m16"]] ∧
      (lodsScasStos.apply (cmpsMovs.apply loadStoreMove).document).outcome.errors =
        [lodsScasStos.errorAt .malformedRecord 1
          { mnemonic := "STOS", operands := [{ name := "m80dec" }] }
          "Unexpected operand of a LODS/SCAS/STOS instruction: m80dec"] ∧
      (generalRegister.apply (removeImpliedVector.apply loadStoreMove).document).document.size =
        4 := by
  obtain ⟨horder, houtcome, hremoval⟩ := apply_order_irrelevant loadStoreMove
  refine ⟨?_, ?_, ?_⟩
  · rw [horder naming.reverse (List.reverse_perm naming)]
    rfl
  · rw [houtcome lodsScasStos (by simp [StringInstruction.passes]) cmpsMovs
      (by simp [StringInstruction.passes]) (by decide)]
    rfl
  · rw [hremoval generalRegister (by simp)]
    rfl

end Pass

end OperandCleanup
