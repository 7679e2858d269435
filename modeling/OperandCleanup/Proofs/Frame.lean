import OperandCleanup.Proofs.Selection

/-!
# The frame of a cleanup

Whichever passes a configuration selects, and whether or not the run fails fast, a record keeps its
place, its mnemonic, its encoding and what is carried along. Its operands are edited: some of the
implied ones are dropped, and of the others only the name changes, and for four string instructions
the usage. The one exception is a single generic memory operand of LODS, SCAS or STOS, which gives
way to two new operands.

The records that are added are counted too: one for each record that is split.
-/

namespace OperandCleanup

namespace Pass

/-- Whether operands of a name may be dropped. -/
def Droppable (name : String) : Prop := name = "ST" ∨ name = stackTop ∨ name = impliedVector

instance : DecidablePred Droppable := fun name =>
  inferInstanceAs (Decidable (name = "ST" ∨ name = stackTop ∨ name = impliedVector))

/-- Operands of a name that endures are not dropped. -/
theorem Enduring.not_droppable {name : String} (h : Enduring name) : ¬ Droppable name := by
  rintro (rfl | hname | hname)
  · exact absurd h.2.1 (by decide)
  · exact h.2.2.2 hname
  · exact h.2.2.1 hname

/-- A register is dropped no more than the placeholder. -/
theorem droppable_sizedName_iff (mnemonic name : String) :
    Droppable (sizedName mnemonic name) ↔ Droppable name := by
  have h := sizedName_invariant (fun name => decide (Droppable name)) (by decide) mnemonic name
  simpa using h

/-- A canonical name is dropped as its synonyms are. -/
theorem droppable_canonicalName_iff (name : String) :
    Droppable (canonicalName name) ↔ Droppable name := by
  have h := canonicalName_invariant (fun name => decide (Droppable name)) (by decide) name
  simpa using h

end Pass

/-- What an operand that stays keeps in a record of a mnemonic: all but its name, and its usage
unless it is one of two operands of a string instruction. No name that is dropped is new. -/
structure Operand.Kept (mnemonic : String) (original left : Operand) : Prop where
  encoding : left.encoding = original.encoding
  extras : left.extras = original.extras
  usage : left.usage = original.usage ∨
    ∃ instruction : StringInstruction, instruction.isExpanded = false ∧
      mnemonic = instruction.mnemonic
  droppable : Pass.Droppable left.name → Pass.Droppable original.name

/-- Operands of a record of a mnemonic before and after some were dropped and the others kept, in
their order. -/
inductive Edited (mnemonic : String) : List Operand → List Operand → Prop
  | nil : Edited mnemonic [] []
  | kept {original left : Operand} {originals lefts : List Operand}
      (first : original.Kept mnemonic left) (rest : Edited mnemonic originals lefts) :
      Edited mnemonic (original :: originals) (left :: lefts)
  | dropped {original : Operand} {originals lefts : List Operand}
      (first : Pass.Droppable original.name) (rest : Edited mnemonic originals lefts) :
      Edited mnemonic (original :: originals) lefts

namespace Operand

/-- An operand keeps all of itself. -/
theorem Kept.refl (mnemonic : String) (operand : Operand) : operand.Kept mnemonic operand :=
  ⟨rfl, rfl, Or.inl rfl, id⟩

/-- What is kept twice is kept. -/
theorem Kept.trans {mnemonic : String} {first second third : Operand}
    (h : first.Kept mnemonic second) (h' : second.Kept mnemonic third) :
    first.Kept mnemonic third := by
  refine ⟨h'.encoding.trans h.encoding, h'.extras.trans h.extras, ?_, h.droppable ∘ h'.droppable⟩
  rcases h'.usage with husage | hstring
  · rw [husage]
    exact h.usage
  · exact Or.inr hstring

/-- A new name keeps the rest of an operand. -/
theorem kept_renamed (mnemonic : String) {rename : String → String} {operand : Operand}
    (h : Pass.Droppable (rename operand.name) → Pass.Droppable operand.name) :
    operand.Kept mnemonic (operand.renamed rename) :=
  ⟨rfl, rfl, Or.inl rfl, h⟩

/-- A string instruction that comes with two operands gives each a name that endures and a usage. -/
theorem kept_revised {instruction : StringInstruction} (h : instruction.isExpanded = false)
    (operand : Operand) {name : String} (hname : Pass.Enduring name) (usage : Usage) :
    operand.Kept instruction.mnemonic (operand.revised name usage) :=
  ⟨rfl, rfl, Or.inr ⟨instruction, h, rfl⟩, fun hdrop => absurd hdrop hname.not_droppable⟩

end Operand

namespace Edited

variable {mnemonic : String}

/-- Operands that are not edited. -/
theorem refl (operands : List Operand) : Edited mnemonic operands operands := by
  induction operands with
  | nil => exact .nil
  | cons operand rest ih => exact .kept (.refl mnemonic operand) ih

/-- Editing twice is editing. -/
theorem trans {first second third : List Operand} (h : Edited mnemonic first second)
    (h' : Edited mnemonic second third) : Edited mnemonic first third := by
  induction h generalizing third with
  | nil => exact h'
  | dropped hfirst _ ih => exact .dropped hfirst (ih h')
  | kept hfirst _ ih =>
    cases h' with
    | kept hsecond hrest => exact .kept (hfirst.trans hsecond) (ih hrest)
    | dropped hsecond hrest => exact .dropped (hfirst.droppable hsecond) (ih hrest)

/-- Renaming every operand is editing. -/
theorem map_renamed {rename : String → String} {operands : List Operand}
    (h : ∀ operand ∈ operands,
      Pass.Droppable (rename operand.name) → Pass.Droppable operand.name) :
    Edited mnemonic operands (operands.map (·.renamed rename)) := by
  induction operands with
  | nil => exact .nil
  | cons operand rest ih =>
    refine .kept (Operand.kept_renamed mnemonic (h operand (by simp))) (ih ?_)
    exact fun other hother => h other (by simp [hother])

/-- Dropping operands is editing. -/
theorem filter {stays : Operand → Bool} {operands : List Operand}
    (h : ∀ operand ∈ operands, stays operand = false → Pass.Droppable operand.name) :
    Edited mnemonic operands (operands.filter stays) := by
  induction operands with
  | nil => exact .nil
  | cons operand rest ih =>
    have hrest := ih fun other hother => h other (by simp [hother])
    rw [List.filter_cons]
    split
    · exact .kept (.refl mnemonic operand) hrest
    · rename_i hdrop
      exact .dropped (h operand (by simp) (Bool.eq_false_iff.mpr hdrop)) hrest

/-- Removing the operands of a name that may be dropped is editing. -/
theorem removeOperands (record : Record) {name : String} (h : Pass.Droppable name) :
    Edited mnemonic record.operands (record.removeOperands name).operands := by
  refine filter fun operand _ hname => ?_
  have hname : operand.name = name := by simpa using hname
  rwa [hname]

/-- Writing the second operand of the fixed form is editing. -/
theorem fixedOperands (operands : List Operand) :
    Edited mnemonic operands (Pass.fixedOperands operands) := by
  rcases Pass.fixedOperands_cases operands with ⟨first, second, rfl⟩ | ⟨-, hfixed⟩
  · have hname := Pass.enduring_registerOrMemory.not_droppable
    exact .kept (.refl mnemonic first)
      (.kept ⟨rfl, rfl, Or.inl rfl, fun hdrop => absurd hdrop hname⟩ .nil)
  · rw [hfixed]
    exact refl operands

/-- Putting two operands into form is editing. -/
theorem written {instruction : StringInstruction} (h : instruction.isExpanded = false)
    (size : PointerSize) (first second : Operand) :
    Edited instruction.mnemonic [first, second] (instruction.written size [first, second]) := by
  obtain ⟨entry, other, hform⟩ : ∃ entry other, instruction.form size = [entry, other] := by
    cases instruction <;> exact ⟨_, _, rfl⟩
  have hendures := instruction.enduring_form size
  rw [hform] at hendures
  rw [StringInstruction.written, if_neg (by simp [h]), hform]
  exact .kept (Operand.kept_revised h first (hendures entry (by simp)) _)
    (.kept (Operand.kept_revised h second (hendures other (by simp)) _) .nil)

end Edited

namespace Record

/-- Whether two records are alike but for their operands. -/
structure Alike (original left : Record) : Prop where
  mnemonic : left.mnemonic = original.mnemonic
  binaryEncoding : left.binaryEncoding = original.binaryEncoding
  extras : left.extras = original.extras

/-- Whether a record is an earlier one with its operands edited. -/
structure Framed (original left : Record) : Prop extends Alike original left where
  operands : Edited original.mnemonic original.operands left.operands

/-- Whether a record is one of LODS, SCAS or STOS with a single operand of generic memory. -/
def Expandable (record : Record) : Prop :=
  ∃ instruction : StringInstruction, ∃ size : PointerSize, instruction.isExpanded = true ∧
    record.mnemonic = instruction.mnemonic ∧ record.operandNames = [size.memory]

/-- A record is like itself. -/
theorem Alike.refl (record : Record) : record.Alike record := ⟨rfl, rfl, rfl⟩

/-- Records that are like one record are alike. -/
theorem Alike.trans {first second third : Record} (h : first.Alike second)
    (h' : second.Alike third) : first.Alike third :=
  ⟨h'.mnemonic.trans h.mnemonic, h'.binaryEncoding.trans h.binaryEncoding,
    h'.extras.trans h.extras⟩

/-- A record that is left is framed. -/
theorem Framed.refl (record : Record) : record.Framed record := ⟨.refl record, .refl _⟩

/-- What is framed twice is framed. -/
theorem Framed.trans {first second third : Record} (h : first.Framed second)
    (h' : second.Framed third) : first.Framed third := by
  refine ⟨h.toAlike.trans h'.toAlike, h.operands.trans ?_⟩
  rw [← h.mnemonic]
  exact h'.operands

end Record

namespace PointerSize

/-- The size of generic memory is known from its name. -/
theorem ofMemory?_eq_some_iff {name : String} {size : PointerSize} :
    ofMemory? name = some size ↔ name = size.memory := by
  constructor
  · intro h
    have hfound := List.find?_some h
    exact (beq_iff_eq.mp hfound).symm
  · rintro rfl
    cases size <;> decide

end PointerSize

namespace StringInstruction

/-- The single operand that an instruction expands is generic memory. -/
theorem statedSize?_singleton {instruction : StringInstruction}
    (h : instruction.isExpanded = true) (name : String) :
    instruction.statedSize? [name] = PointerSize.ofMemory? name := by
  cases instruction <;> simp_all [isExpanded, statedSize?]

end StringInstruction

namespace Record

/-! ## The passes on a record -/

/-- Forming changes the operands only. -/
theorem alike_formed (record : Record) : record.Alike record.formed := by
  refine ⟨record.formed_mnemonic, record.formed_binaryEncoding, ?_⟩
  unfold formed
  split <;> rfl

/-- Forming edits the operands of a record that is not expandable. -/
theorem framed_formed {record : Record} (h : ¬ record.Expandable) :
    record.Framed record.formed := by
  refine ⟨record.alike_formed, ?_⟩
  by_cases hstring : ∃ instruction, record.mnemonic = StringInstruction.mnemonic instruction
  · obtain ⟨instruction, hmnemonic⟩ := hstring
    rw [formed_of_mnemonic hmnemonic]
    cases hformed : instruction.formed? record.operands with
    | none => exact .refl record.operands
    | some operands =>
      obtain ⟨hlength, size, hsize, rfl⟩ := instruction.formed?_eq_some_iff.mp hformed
      rcases instruction.operands_cases hlength with
        ⟨hexpanded, operand, hoperands⟩ | ⟨hexpanded, first, second, hoperands⟩
      · -- A single operand that states a size is the one exception.
        refine absurd ⟨instruction, size, hexpanded, hmnemonic, ?_⟩ h
        rw [hoperands, List.map_singleton, StringInstruction.statedSize?_singleton hexpanded,
          PointerSize.ofMemory?_eq_some_iff] at hsize
        rw [operandNames, hoperands, List.map_singleton, hsize]
      · rw [Option.getD_some, hoperands, hmnemonic]
        exact Edited.written hexpanded size first second
  · rw [formed_of_forall_ne fun instruction hmnemonic => hstring ⟨instruction, hmnemonic⟩]
    exact .refl record.operands

/-- Renaming operands frames a record. -/
theorem framed_renamed (record : Record) {rename : String → String}
    (h : ∀ operand ∈ record.operands,
      Pass.Droppable (rename operand.name) → Pass.Droppable operand.name) :
    record.Framed (record.renamed rename) :=
  ⟨⟨rfl, rfl, rfl⟩, .map_renamed h⟩

/-- Removing droppable operands frames a record. -/
theorem framed_removeOperands (record : Record) {name : String} (h : Pass.Droppable name) :
    record.Framed (record.removeOperands name) :=
  ⟨⟨rfl, rfl, rfl⟩, .removeOperands record h⟩

/-- The fixed form frames a record. -/
theorem framed_fixed (record : Record) : record.Framed record.fixed := by
  unfold fixed
  split
  · exact ⟨⟨rfl, rfl, rfl⟩, .fixedOperands record.operands⟩
  · exact .refl record

/-- Each of the passes after those of the string instructions frames every record. -/
theorem framed_revise {pass : Pass} (h : pass ∈ StringInstruction.laterPasses) (record : Record) :
    record.Framed (pass.revise record) := by
  simp only [StringInstruction.laterPasses, List.mem_cons, List.not_mem_nil, or_false] at h
  rcases h with rfl | rfl | rfl | rfl | rfl
  · rw [Pass.revise_vmovq]
    exact record.framed_fixed
  · rw [Pass.revise_generalRegister]
    exact record.framed_renamed fun operand _ => (Pass.droppable_sizedName_iff _ _).mp
  · rw [Pass.revise_renameSynonyms]
    exact record.framed_renamed fun operand _ => (Pass.droppable_canonicalName_iff _).mp
  · unfold Pass.revise
    simp only [Pass.removeStackTop, Pass.judgeStackTop]
    split
    · rw [Pass.inPlace_judgeRemoval]
      exact record.framed_removeOperands (by decide)
    · exact .refl record
  · have hremoved : Pass.removeImpliedVector.revise record =
        record.removeOperands Pass.impliedVector :=
      Pass.inPlace_judgeRemoval Pass.impliedVector record
    rw [hremoved]
    exact record.framed_removeOperands (by decide)

end Record

namespace StringInstruction

/-- A string pass leaves a record or forms it. -/
theorem revise_of_mem_passes {pass : Pass} (h : pass ∈ passes) (record : Record) :
    pass.revise record = record ∨ pass.revise record = record.formed := by
  obtain ⟨instruction, rfl⟩ := exists_of_mem_passes h
  rcases instruction.judge_pass_eq_or record.mnemonic with ⟨own, hmnemonic, hpass⟩ | hjudge
  · rw [← hpass]
    exact Or.inr (own.revise_pass_eq_formed hmnemonic)
  · exact Or.inl (Pass.revise_of_unchanged (hjudge record rfl))

/-- Some of the string passes leave a record or form it. -/
theorem revised_of_subset {selected : List Pass} (h : selected ⊆ passes) (record : Record) :
    Pipeline.revised selected record = record ∨
      Pipeline.revised selected record = record.formed := by
  induction selected generalizing record with
  | nil => exact Or.inl rfl
  | cons pass rest ih =>
    obtain ⟨hpass, hsubset⟩ := List.cons_subset.mp h
    have hrest := ih hsubset
    rw [Pipeline.revised]
    rcases revise_of_mem_passes hpass record with hkept | hformed
    · rw [hkept]
      exact hrest record
    · rw [hformed]
      rcases hrest record.formed with hagain | hagain
      · exact Or.inr hagain
      · exact Or.inr (hagain.trans record.formed_formed)

end StringInstruction

namespace Pipeline

/-- Some passes of the library, in their order, leave in the place of a record one that is like it,
and framed unless it was expandable. -/
theorem through_framed {applied : List Pass} (h : applied.Sublist Pass.standard)
    {records : List Record} {index : Nat} {record : Record}
    (hrecord : records[index]? = some record) :
    ∃ left, (through applied records)[index]? = some left ∧ record.Alike left ∧
      (¬ record.Expandable → record.Framed left) := by
  rw [StringInstruction.standard_eq, List.sublist_append_iff] at h
  obtain ⟨string, later, rfl, hstring, hlater⟩ := h
  have hrecordWise : ∀ pass ∈ string, pass.RecordWise := fun pass hpass =>
    StringInstruction.recordWise_of_mem_passes (hstring.subset hpass)
  have hnext : (through string records)[index]? = some (revised string record) := by
    rw [through_of_recordWise hrecordWise, List.getElem?_map, hrecord, Option.map_some]
  obtain ⟨left, hleft, hframed⟩ := through_getElem? Record.Framed.refl
    (fun _ _ _ => Record.Framed.trans)
    (fun pass hpass => Record.framed_revise (hlater.subset hpass)) hnext
  refine ⟨left, by rw [through_append, hleft], ?_⟩
  rcases StringInstruction.revised_of_subset hstring.subset record with hkept | hformed
  · rw [hkept] at hframed
    exact ⟨hframed.toAlike, fun _ => hframed⟩
  · rw [hformed] at hframed
    exact ⟨record.alike_formed.trans hframed.toAlike,
      fun hexpandable => (Record.framed_formed hexpandable).trans hframed⟩

end Pipeline

/-! ## The records that are added -/

namespace Record

/-- Whether a record is split into one for each register size. -/
def splits (record : Record) : Bool :=
  Pass.splitMnemonics.contains record.mnemonic && record.hasOperand Pass.placeholder

/-- What the passes that count operands keep of a record: its mnemonic, and all of it where the
mnemonic is split and the encoding is not that of the VMOVQ load. -/
def Uncounted (original left : Record) : Prop :=
  left.mnemonic = original.mnemonic ∧
    (original.mnemonic ∈ Pass.splitMnemonics → original.binaryEncoding ≠ Pass.vmovqEncoding →
      left = original)

/-- A record that is left keeps what is not counted. -/
theorem Uncounted.refl (record : Record) : record.Uncounted record := ⟨rfl, fun _ _ => rfl⟩

/-- What is kept twice is kept. -/
theorem Uncounted.trans {first second third : Record} (h : first.Uncounted second)
    (h' : second.Uncounted third) : first.Uncounted third := by
  refine ⟨h'.1.trans h.1, fun hsplit hencoding => ?_⟩
  obtain rfl := h.2 hsplit hencoding
  exact h'.2 hsplit hencoding

/-- The passes that count operands leave the records that are split. -/
theorem uncounted_revise {pass : Pass} (h : pass ∈ Pipeline.countingPasses) (record : Record) :
    record.Uncounted (pass.revise record) := by
  rcases List.mem_append.mp h with hstring | hvmovq
  · constructor
    · rcases StringInstruction.revise_of_mem_passes hstring record with hkept | hformed
      · rw [hkept]
      · rw [hformed, formed_mnemonic]
    · intro hsplit _
      have hnone := (Pass.split_mnemonic hsplit).1
      exact Pass.revise_of_unchanged (StringInstruction.judge_of_mem_passes hstring hnone)
  · obtain rfl := List.mem_singleton.mp hvmovq
    rw [Pass.revise_vmovq]
    exact ⟨record.fixed_mnemonic, fun _ hencoding => fixed_of_ne hencoding⟩

end Record

namespace Pipeline

/-- The wide copies are those of the records that are split, in their order. -/
theorem wideCopies_eq_map (records : List Record) :
    wideCopies records = (records.filter Record.splits).map Record.wide := by
  induction records with
  | nil => rfl
  | cons record rest ih =>
    rw [wideCopies, List.flatMap_cons, ← wideCopies, ih, List.filter_cons,
      Pass.additions_generalRegister, ← Record.splits]
    split <;> rfl

/-- There are as many wide copies as records that are split. -/
theorem length_wideCopies (records : List Record) :
    (wideCopies records).length = records.countP Record.splits := by
  rw [wideCopies_eq_map, List.length_map, List.countP_eq_length_filter]

/-- The passes that count operands keep the number of records that are split. -/
theorem countP_splits_through {before : List Pass} (h : before.Sublist countingPasses)
    {records : List Record}
    (hsplit : ∀ record ∈ records, record.mnemonic ∈ Pass.splitMnemonics →
      record.binaryEncoding ≠ Pass.vmovqEncoding) :
    (through before records).countP Record.splits = records.countP Record.splits := by
  have hlength : (through before records).length = records.length :=
    length_through (fun pass hpass => additions_of_mem_counting (h.subset hpass)) records
  have hsplits : (through before records).map Record.splits = records.map Record.splits := by
    refine List.ext_getElem? fun index => ?_
    rw [List.getElem?_map, List.getElem?_map]
    cases hrecord : records[index]? with
    | none =>
      have hindex : (through before records).length ≤ index := by
        rw [hlength]
        exact List.getElem?_eq_none_iff.mp hrecord
      rw [List.getElem?_eq_none hindex]
    | some record =>
      obtain ⟨left, hleft, hmnemonic, hkept⟩ := through_getElem? Record.Uncounted.refl
        (fun _ _ _ => Record.Uncounted.trans)
        (fun pass hpass => Record.uncounted_revise (h.subset hpass)) hrecord
      rw [hleft, Option.map_some, Option.map_some]
      by_cases hmem : record.mnemonic ∈ Pass.splitMnemonics
      · rw [hkept hmem (hsplit record (List.mem_of_getElem? hrecord) hmem)]
      · have hleftMem : left.mnemonic ∉ Pass.splitMnemonics := by rwa [hmnemonic]
        simp [Record.splits, hmem, hleftMem]
  have hcount := congrArg (List.countP id) hsplits
  simpa only [List.countP_map, Function.id_comp] using hcount

/-- Without the pass that adds records, their number stays. -/
theorem length_through_of_notMem {applied : List Pass} (h : applied.Sublist Pass.standard)
    (hregister : Pass.generalRegister.name ∉ applied.map (·.name)) (records : List Record) :
    (through applied records).length = records.length := by
  obtain ⟨before, after, hbefore, hafter, rfl | rfl⟩ := sublist_standard h
  · refine length_through (fun pass hpass record => ?_) records
    rcases List.mem_append.mp hpass with hpass | hpass
    · exact additions_of_mem_counting (hbefore.subset hpass) record
    · exact (recordWise_of_mem_closing (hafter.subset hpass) record).2
  · simp at hregister

/-- The pass that adds records adds one for each that is split. -/
theorem length_through_of_mem {applied : List Pass} (h : applied.Sublist Pass.standard)
    (hregister : Pass.generalRegister.name ∈ applied.map (·.name)) {records : List Record}
    (hsplit : ∀ record ∈ records, record.mnemonic ∈ Pass.splitMnemonics →
      record.binaryEncoding ≠ Pass.vmovqEncoding) :
    (through applied records).length = records.length + records.countP Record.splits := by
  obtain ⟨before, after, hbefore, hafter, rfl | rfl⟩ := sublist_standard h
  · have hothers : Pass.generalRegister.name ∉
        (countingPasses ++ closingPasses).map (·.name) := by decide
    obtain ⟨pass, hpass, hname⟩ := List.mem_map.mp hregister
    have hmem : pass ∈ countingPasses ++ closingPasses :=
      (hbefore.append hafter).subset hpass
    exact absurd (List.mem_map.mpr ⟨pass, hmem, hname⟩) hothers
  · have hclosing : ∀ pass ∈ after, ∀ record, pass.additions record = [] :=
      fun pass hpass record => (recordWise_of_mem_closing (hafter.subset hpass) record).2
    have hcounting : ∀ pass ∈ before, ∀ record, pass.additions record = [] :=
      fun pass hpass => additions_of_mem_counting (hbefore.subset hpass)
    rw [through_append, through, length_through hclosing, List.length_append, Pass.length_swept,
      appended_generalRegister, length_wideCopies, length_through hcounting,
      countP_splits_through hbefore hsplit]

end Pipeline

/-! ## The frame -/

/-- A cleanup by a configuration keeps every record's place, mnemonic, encoding and carried members,
and edits its operands unless the record is expandable. It adds no records if the register pass is
not among its stages, and otherwise one for each record that is split, where no split mnemonic has
the encoding of the VMOVQ load. -/
theorem cleanup_frame {config : Config} (hconfig : config.KnownTo Registry.default)
    (document : Document) :
    ∃ run, cleanup document config = .ok run ∧
      (∀ (index : Nat) (record : Record), document.records[index]? = some record →
        ∃ left, run.document.records[index]? = some left ∧
          left.mnemonic = record.mnemonic ∧ left.binaryEncoding = record.binaryEncoding ∧
          left.extras = record.extras ∧
          (¬ record.Expandable → Edited record.mnemonic record.operands left.operands)) ∧
      (Pass.generalRegister.name ∈ run.stages.map (·.stage) →
        (∀ record ∈ document.records, record.mnemonic ∈ Pass.splitMnemonics →
          record.binaryEncoding ≠ Pass.vmovqEncoding) →
        run.document.size = document.size + document.records.countP Record.splits) ∧
      (Pass.generalRegister.name ∉ run.stages.map (·.stage) →
        run.document.size = document.size) := by
  obtain ⟨run, applied, hrun, happlied, hstages, hrecords⟩ := cleanup_applied hconfig document
  refine ⟨run, hrun, fun index record hrecord => ?_, fun hregister hsplit => ?_,
    fun hregister => ?_⟩
  · obtain ⟨left, hleft, halike, hframed⟩ := Pipeline.through_framed happlied hrecord
    exact ⟨left, by rw [hrecords, hleft], halike.mnemonic, halike.binaryEncoding, halike.extras,
      fun hexpandable => (hframed hexpandable).operands⟩
  · rw [hstages] at hregister
    rw [Document.size, hrecords, Pipeline.length_through_of_mem happlied hregister hsplit]
    rfl
  · rw [hstages] at hregister
    rw [Document.size, hrecords, Pipeline.length_through_of_notMem happlied hregister]
    rfl

/-- The load of access rights, with an implied operand that does not belong there. -/
def loadAccessRights : Record where
  mnemonic := "LAR"
  binaryEncoding := "0F 02 /r"
  operands := [{ name := "reg", usage := some .write }, { name := "<XMM0>" }, { name := "m16" }]

/-- Everything but the synonyms, up to the first failure. -/
def withoutSynonyms : Config := { skip := [Pass.renameSynonyms.name], failFast := true }

/-- The load of access rights is split, and the one in its place is framed. -/
theorem cleanup_loadAccessRights_framed :
    withoutSynonyms.KnownTo Registry.default ∧
      ∃ run, cleanup ⟨[loadAccessRights]⟩ withoutSynonyms = .ok run ∧ run.document.size = 2 ∧
        ∃ left, run.document.records[0]? = some left ∧
          left.binaryEncoding = loadAccessRights.binaryEncoding ∧
          Edited "LAR" loadAccessRights.operands left.operands := by
  have hknown : withoutSynonyms.KnownTo Registry.default := by decide
  obtain ⟨run, hrun, hframe, hadded, -⟩ := cleanup_frame hknown ⟨[loadAccessRights]⟩
  obtain ⟨left, hleft, -, hencoding, -, hedited⟩ := hframe 0 loadAccessRights rfl
  refine ⟨hknown, run, hrun, hadded ?_ ?_, left, hleft, hencoding, hedited ?_⟩
  · obtain rfl := Except.ok.inj ((cleanup_selected hknown _).symm.trans hrun)
    decide
  · decide
  · rintro ⟨instruction, size, -, hmnemonic, -⟩
    cases instruction <;> exact absurd hmnemonic (by decide)

end OperandCleanup
