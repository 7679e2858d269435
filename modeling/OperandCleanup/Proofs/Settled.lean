import OperandCleanup.Proofs.Naming
import OperandCleanup.Proofs.Scan

/-!
# Settled records

The last four passes rename the operands of a record and then remove some of them. In terms of
names, each of them is a map or a filter of the operand list, and together they settle a record:
every operand gets its settled name, and the operands that do not remain are dropped. Settling a
settled record changes nothing. The wide copies of split records hold no placeholder, so they are
settled by the passes that are still to come when they are added.
-/

namespace OperandCleanup

namespace Record

/-- A record with its operands under the names that a function makes of theirs. -/
def renamed (record : Record) (rename : String → String) : Record :=
  { record with operands := record.operands.map (·.renamed rename) }

/-- A record without the operands that do not remain in records of its encoding. -/
def pruned (record : Record) : Record :=
  { record with
    operands := record.operands.filter fun operand =>
      Pass.remains record.binaryEncoding operand.name }

/-- A record with the remaining operands under their settled names. -/
def settled (record : Record) : Record := (record.renamed (Pass.settledName record.mnemonic)).pruned

/-- Whether settling a record drops none of its operands. -/
def Intact (record : Record) : Prop :=
  ∀ operand ∈ record.operands,
    Pass.remains record.binaryEncoding (Pass.settledName record.mnemonic operand.name) = true

/-- The copy of a record for the wide register. -/
def wide (record : Record) : Record :=
  { record with
    binaryEncoding := Pass.wideMark ++ record.binaryEncoding
    operands := Pass.withRegister record.operands "r64" }

@[simp] theorem renamed_mnemonic (record : Record) (rename : String → String) :
    (record.renamed rename).mnemonic = record.mnemonic := rfl

@[simp] theorem renamed_binaryEncoding (record : Record) (rename : String → String) :
    (record.renamed rename).binaryEncoding = record.binaryEncoding := rfl

@[simp] theorem renamed_operands (record : Record) (rename : String → String) :
    (record.renamed rename).operands = record.operands.map (·.renamed rename) := rfl

@[simp] theorem settled_mnemonic (record : Record) : record.settled.mnemonic = record.mnemonic :=
  rfl

@[simp] theorem settled_binaryEncoding (record : Record) :
    record.settled.binaryEncoding = record.binaryEncoding := rfl

/-- The operands of a settled record, from those of the record. -/
theorem settled_operands (record : Record) :
    record.settled.operands =
      (record.operands.map (·.renamed (Pass.settledName record.mnemonic))).filter fun operand =>
        Pass.remains record.binaryEncoding operand.name := rfl

/-- Renaming twice is renaming by one function after the other. -/
theorem renamed_renamed (record : Record) (first second : String → String) :
    (record.renamed first).renamed second = record.renamed (second ∘ first) := by
  simp [renamed, Operand.renamed]

/-- A function that leaves every name alone leaves the record. -/
theorem renamed_eq_self {record : Record} {rename : String → String}
    (h : ∀ operand ∈ record.operands, rename operand.name = operand.name) :
    record.renamed rename = record := by
  have hoperand : ∀ operand ∈ record.operands, operand.renamed rename = id operand := by
    intro operand hoperand
    rw [Operand.renamed, h operand hoperand]
    rfl
  rw [renamed, List.map_congr_left hoperand, List.map_id]

/-- A record all of whose operands remain keeps them. -/
theorem pruned_eq_self {record : Record}
    (h : ∀ operand ∈ record.operands, Pass.remains record.binaryEncoding operand.name = true) :
    record.pruned = record := by
  rw [pruned, List.filter_eq_self.mpr h]

/-- What the operands of a settled record come from. -/
theorem mem_settled_operands {record : Record} {operand : Operand} :
    operand ∈ record.settled.operands ↔
      (∃ original ∈ record.operands,
        original.renamed (Pass.settledName record.mnemonic) = operand) ∧
        Pass.remains record.binaryEncoding operand.name = true := by
  rw [settled_operands, List.mem_filter, List.mem_map]

/-- The operands of a settled record have settled names. -/
theorem settledName_of_mem_settled {record : Record} {operand : Operand}
    (h : operand ∈ record.settled.operands) :
    Pass.settledName record.mnemonic operand.name = operand.name := by
  obtain ⟨⟨original, -, rfl⟩, -⟩ := mem_settled_operands.mp h
  exact Pass.settledName_idem record.mnemonic original.name

/-- A record whose operands have settled names and remain is settled. -/
theorem settled_eq_self {record : Record}
    (hnames : ∀ operand ∈ record.operands,
      Pass.settledName record.mnemonic operand.name = operand.name)
    (hremains : ∀ operand ∈ record.operands,
      Pass.remains record.binaryEncoding operand.name = true) :
    record.settled = record := by
  rw [settled, renamed_eq_self hnames, pruned_eq_self hremains]

/-- Settling a settled record changes nothing. -/
theorem settled_settled (record : Record) : record.settled.settled = record.settled := by
  refine settled_eq_self (fun operand hoperand => ?_) fun operand hoperand => ?_
  · rw [settled_mnemonic, settledName_of_mem_settled hoperand]
  · exact (mem_settled_operands.mp hoperand).2

/-- Settling an intact record only renames its operands. -/
theorem Intact.settled_eq {record : Record} (h : record.Intact) :
    record.settled = record.renamed (Pass.settledName record.mnemonic) := by
  refine pruned_eq_self fun operand hoperand => ?_
  obtain ⟨original, horiginal, rfl⟩ := List.mem_map.mp hoperand
  exact h original horiginal

/-- Settling an intact record keeps the number of its operands. -/
theorem Intact.length_settled {record : Record} (h : record.Intact) :
    record.settled.operands.length = record.operands.length := by
  rw [h.settled_eq, renamed_operands, List.length_map]

/-- Settling adds no operands. -/
theorem length_settled_le (record : Record) :
    record.settled.operands.length ≤ record.operands.length := by
  rw [settled_operands]
  exact Nat.le_trans (List.length_filter_le _ _) (Nat.le_of_eq (List.length_map _))

/-- A record that is not intact has fewer operands when it is settled. -/
theorem length_settled_lt {record : Record} (h : ¬ record.Intact) :
    record.settled.operands.length < record.operands.length := by
  have hdropped : ∃ operand ∈ record.operands,
      ¬ Pass.remains record.binaryEncoding
        (Pass.settledName record.mnemonic operand.name) = true := by
    simpa [Intact] using h
  obtain ⟨operand, hoperand, hname⟩ := hdropped
  have hlength : (record.operands.map (·.renamed (Pass.settledName record.mnemonic))).length =
      record.operands.length := List.length_map _
  rw [settled_operands, ← hlength, List.length_filter_lt_length_iff_exists]
  exact ⟨_, List.mem_map_of_mem hoperand, hname⟩

/-- A record is intact when it has no operand that is implied by every instruction, and none that
its encoding implies. -/
theorem intact_iff (record : Record) :
    record.Intact ↔
      (∀ operand ∈ record.operands, operand.name ≠ Pass.impliedVector) ∧
        (record.binaryEncoding ∈ Pass.stackTopEncodings →
          ∀ operand ∈ record.operands, operand.name ≠ "ST" ∧ operand.name ≠ Pass.stackTop) := by
  have hremains (operand : Operand) :
      Pass.remains record.binaryEncoding (Pass.settledName record.mnemonic operand.name) = true ↔
        operand.name ≠ Pass.impliedVector ∧
          (record.binaryEncoding ∈ Pass.stackTopEncodings →
            operand.name ≠ "ST" ∧ operand.name ≠ Pass.stackTop) := by
    by_cases hencoding : record.binaryEncoding ∈ Pass.stackTopEncodings <;>
      simp [hencoding, Pass.remains, Pass.settledName_eq_impliedVector_iff,
        Pass.settledName_eq_stackTop_iff]
  constructor
  · intro h
    exact ⟨fun operand hoperand => ((hremains operand).mp (h operand hoperand)).1,
      fun hencoding operand hoperand => ((hremains operand).mp (h operand hoperand)).2 hencoding⟩
  · rintro ⟨hvector, hstack⟩ operand hoperand
    exact (hremains operand).mpr
      ⟨hvector operand hoperand, fun hencoding => hstack hencoding operand hoperand⟩

/-- A settled record is intact. -/
theorem intact_settled (record : Record) : record.settled.Intact := by
  intro operand hoperand
  rw [settled_mnemonic, settledName_of_mem_settled hoperand]
  exact (mem_settled_operands.mp hoperand).2

end Record

namespace Pass

/-! ## The four passes on a record -/

/-- The record's own placeholder test, by its operands. -/
theorem hasOperand_iff (record : Record) (name : String) :
    record.hasOperand name = true ↔ ∃ operand ∈ record.operands, operand.name = name := by
  simp [Record.hasOperand]

/-- The placeholder gives way to the register that the mnemonic asks for. -/
theorem revise_generalRegister (record : Record) :
    generalRegister.revise record = record.renamed (sizedName record.mnemonic) := by
  have hregister (register : String) (h : registerFor? record.mnemonic = some register) :
      withRegister record.operands register =
        record.operands.map (·.renamed (sizedName record.mnemonic)) := by
    refine List.map_congr_left fun operand _ => ?_
    unfold Operand.renamed sizedName
    split <;> simp [h]
  unfold revise
  simp only [generalRegister, judgeGeneralRegister]
  split
  · split
    · rename_i hsplit
      simp [Verdict.inPlace, Record.renamed, hregister "r32" (by rw [registerFor?, if_pos hsplit])]
    · rename_i hsplit
      have hsingle : registerFor? record.mnemonic = singleRegister? record.mnemonic := by
        rw [registerFor?, if_neg hsplit]
      cases hfor : singleRegister? record.mnemonic with
      | none =>
        refine (Record.renamed_eq_self fun operand _ => ?_).symm
        simp [sizedName, hsingle, hfor]
      | some register =>
        simp [Verdict.inPlace, Record.renamed, hregister register (by rw [hsingle, hfor])]
  · rename_i hnone
    refine (Record.renamed_eq_self fun operand hoperand => ?_).symm
    rw [sizedName, if_neg]
    exact fun hname => hnone ((hasOperand_iff record placeholder).mpr ⟨operand, hoperand, hname⟩)

/-- A record is reported when one of its operands settles on the placeholder. -/
theorem accepts_generalRegister_iff (record : Record) :
    generalRegister.accepts record = true ↔
      ∀ operand ∈ record.operands, settledName record.mnemonic operand.name ≠ placeholder := by
  have hsettled : (∀ operand ∈ record.operands,
        settledName record.mnemonic operand.name ≠ placeholder) ↔
      (record.hasOperand placeholder = true → registerFor? record.mnemonic ≠ none) := by
    simp only [ne_eq, settledName_eq_placeholder_iff, not_and, hasOperand_iff]
    exact ⟨fun h ⟨operand, hoperand, hname⟩ => h operand hoperand hname,
      fun h operand hoperand hname => h ⟨operand, hoperand, hname⟩⟩
  rw [hsettled]
  simp only [accepts, generalRegister, judgeGeneralRegister, registerFor?]
  split
  · split
    · simp [Verdict.accepts]
    · cases singleRegister? record.mnemonic <;> simp_all [Verdict.accepts]
  · simp_all [Verdict.accepts]

/-- Every synonym gives way to its canonical name. -/
theorem revise_renameSynonyms (record : Record) :
    renameSynonyms.revise record = record.renamed canonicalName := by
  have hoperand (operand : Operand) :
      canonicalOperand operand = operand.renamed canonicalName := by
    unfold canonicalOperand Operand.renamed canonicalName
    cases canonicalName? operand.name <;> rfl
  unfold revise
  simp only [renameSynonyms, judgeSynonyms]
  split
  · simp [Verdict.inPlace, Record.renamed, hoperand]
  · rename_i hnone
    refine (Record.renamed_eq_self fun operand hmem => ?_).symm
    have hname : canonicalName? operand.name = none := by
      simpa using (List.any_eq_false.mp (Bool.eq_false_iff.mpr hnone)) operand hmem
    rw [canonicalName, hname]
    rfl

/-- A removal drops the operands of its name, if there are any. -/
theorem inPlace_judgeRemoval (name : String) (record : Record) :
    (judgeRemoval name record).inPlace record = record.removeOperands name := by
  unfold judgeRemoval
  split
  · rfl
  · rename_i hnone
    have hkept : record.operands.filter (·.name != name) = record.operands := by
      rw [List.filter_eq_self]
      intro operand hoperand
      have hname : operand.name ≠ name := fun hname =>
        hnone ((hasOperand_iff record name).mpr ⟨operand, hoperand, hname⟩)
      simpa using hname
    simp [Verdict.inPlace, Record.removeOperands, hkept]

/-- The two removals drop the operands that do not remain. -/
theorem revise_removals (record : Record) :
    removeImpliedVector.revise (removeStackTop.revise record) = record.pruned := by
  have hvector (other : Record) :
      removeImpliedVector.revise other = other.removeOperands impliedVector :=
    inPlace_judgeRemoval impliedVector other
  have hstack : removeStackTop.revise record =
      if stackTopEncodings.contains record.binaryEncoding then record.removeOperands stackTop
      else record := by
    unfold revise
    simp only [removeStackTop, judgeStackTop]
    split
    · exact inPlace_judgeRemoval stackTop record
    · rfl
  rw [hvector, hstack]
  unfold Record.pruned Record.removeOperands
  split
  · rename_i hencoding
    simp only [remains, hencoding, List.filter_filter, Bool.true_and, bne]
  · rename_i hencoding
    simp only [remains, hencoding, Bool.false_and, Bool.not_false, Bool.and_true]

/-- The last four passes settle a record. -/
theorem revise_settled (record : Record) :
    removeImpliedVector.revise (removeStackTop.revise
      (renameSynonyms.revise (generalRegister.revise record))) = record.settled := by
  rw [revise_removals, revise_renameSynonyms, revise_generalRegister, Record.renamed_renamed]
  rfl

/-! ## Wide copies -/

/-- Only a split record with the placeholder has a copy. -/
theorem additions_generalRegister (record : Record) :
    generalRegister.additions record =
      if splitMnemonics.contains record.mnemonic && record.hasOperand placeholder then
        [record.wide] else [] := by
  unfold additions
  simp only [generalRegister, judgeGeneralRegister]
  split
  · rename_i hreg
    split
    · rename_i hsplit
      simp only [hreg, hsplit, Bool.and_true, ↓reduceIte]
      rfl
    · rename_i hsplit
      simp only [hsplit, Bool.false_and, Bool.false_eq_true, ↓reduceIte]
      cases singleRegister? record.mnemonic <;> rfl
  · rename_i hreg
    simp [Verdict.additions, hreg]

/-- No operand of a wide copy is the placeholder. -/
theorem name_ne_placeholder_of_mem_wide {record : Record} {operand : Operand}
    (h : operand ∈ record.wide.operands) : operand.name ≠ placeholder := by
  obtain ⟨original, -, rfl⟩ := List.mem_map.mp h
  split
  · exact (by decide : "r64" ≠ placeholder)
  · assumption

/-- The passes after the copies were made settle them too. -/
theorem revise_wide (record : Record) :
    removeImpliedVector.revise (removeStackTop.revise (renameSynonyms.revise record.wide)) =
      record.wide.settled := by
  rw [← revise_settled, revise_generalRegister, Record.renamed_eq_self]
  intro operand hoperand
  rw [sizedName, if_neg (name_ne_placeholder_of_mem_wide hoperand)]

end Pass

end OperandCleanup
