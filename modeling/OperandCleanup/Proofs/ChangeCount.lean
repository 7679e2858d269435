import Mathlib.Logic.Function.Basic
import OperandCleanup.Proofs.Equality
import OperandCleanup.Proofs.RegisterSplit

/-!
# The number of changed records

A pass reports how many records it has changed. It counts the records that it decides to change, and
nothing else can change, so it never counts too few. Six of the passes decide on a change only where
the names of the operands become others: a placeholder, a synonym or an implied operand was there
and is gone, the second name was another one, or the operands were not as many. These count exactly
the records that are written differently afterwards, and count none exactly when the document stays.

The passes over the instructions with two memory operands write a record even if it has its form
already. They count what they write, so every record of their mnemonics is counted or reported.
-/

namespace OperandCleanup

namespace Record

/-- The number of places at which records are written differently from others. -/
def differences (records others : List Record) : Nat :=
  (List.range records.length).countP fun index =>
    records[index]?.map toJson != others[index]?.map toJson

/-- The first place counts if the records there are written differently. -/
theorem differences_cons (record other : Record) (records others : List Record) :
    differences (record :: records) (other :: others) =
      differences records others + if record.toJson != other.toJson then 1 else 0 := by
  rw [differences, List.length_cons, List.range_succ_eq_map, List.countP_cons, List.countP_map]
  rfl

/-- Records that are written alike place by place have no differences. -/
theorem differences_eq_zero {records others : List Record}
    (h : ∀ index < records.length, records[index]?.map toJson = others[index]?.map toJson) :
    differences records others = 0 := by
  rw [differences, List.countP_eq_zero]
  intro index hindex
  simp [h index (List.mem_range.mp hindex)]

end Record

/-- Where writing tells a fact apart, lists that are written alike share it item by item. -/
theorem map_eq_of_factorsThrough {α β γ : Type} [Nonempty γ] {fact : α → γ} {write : α → β}
    (h : fact.FactorsThrough write) {items others : List α}
    (hwritten : items.map write = others.map write) : items.map fact = others.map fact := by
  obtain ⟨read, rfl⟩ := (Function.factorsThrough_iff fact).mp h
  rw [← List.map_map, ← List.map_map, hwritten]

/-- An operand is written with its name. -/
theorem Operand.name_factorsThrough_toJson : Operand.name.FactorsThrough Operand.toJson := by
  intro operand other h
  simp only [toJson, toMembers, Json.object.injEq, List.cons_append, List.cons.injEq, Prod.mk.injEq,
    Json.string.injEq] at h
  exact h.1.2

/-- A record is written with the names of its operands. -/
theorem Record.operandNames_factorsThrough_toJson :
    Record.operandNames.FactorsThrough Record.toJson := by
  intro record other h
  simp only [toJson, toMembers, Json.object.injEq, List.cons.injEq, Prod.mk.injEq,
    Json.array.injEq] at h
  exact map_eq_of_factorsThrough Operand.name_factorsThrough_toJson h.2.2.1.2

/-- A document is written with the names of the operands in each record. -/
theorem Document.map_operandNames_of_toJson_eq {document other : Document}
    (h : document.toJson = other.toJson) :
    document.records.map Record.operandNames = other.records.map Record.operandNames := by
  simp only [toJson, Json.object.injEq, List.cons.injEq, Prod.mk.injEq, Json.array.injEq] at h
  exact map_eq_of_factorsThrough Record.operandNames_factorsThrough_toJson h.1.2

/-- Whether the number of changed records that an application reports is what an observer counts who
compares the document before with the one after. -/
structure Application.CountsChanges (application : Application) (document : Document) : Prop where
  modified : application.outcome.modified =
    Record.differences document.records application.document.records
  /-- A record that does not stay is not equal to the one before either. -/
  unequal : ∀ (index : Nat) (record left : Record), document.records[index]? = some record →
    application.document.records[index]? = some left →
      left = record ∨ record.toJson.equals left.toJson = false
  none_iff : application.outcome.modified = 0 ↔ application.document = document
  none_iff_written :
    application.outcome.modified = 0 ↔ application.document.toJson = document.toJson
  none_of_equals : document.equals application.document = true → application.outcome.modified = 0

namespace Pass

variable (pass : Pass)

/-- Whether a pass changes or reports a record. -/
def actsOn (record : Record) : Bool := pass.changes record || !pass.accepts record

/-- Whether the records that a pass counts as changed become ones with other names. -/
def ChangesNames : Prop :=
  ∀ record, pass.changes record = true → (pass.revise record).operandNames ≠ record.operandNames

variable {pass}

/-- A record that a pass counts as changed is one that it decides to change. -/
theorem changes_eq_true_iff {record : Record} :
    pass.changes record = true ↔
      ∃ added, pass.judge record = .changed (pass.revise record) added := by
  unfold changes revise
  cases pass.judge record <;> simp [Verdict.changes, Verdict.inPlace]

/-- A record that a pass counts as changed is not one that it decides to leave. -/
theorem judge_ne_unchanged_of_changes {record : Record} (h : pass.changes record = true) :
    pass.judge record ≠ .unchanged := by
  obtain ⟨added, hjudge⟩ := changes_eq_true_iff.mp h
  rw [hjudge]
  exact Verdict.noConfusion

/-- A record that a pass counts as changed is not reported. -/
theorem accepts_of_changes {record : Record} (h : pass.changes record = true) :
    pass.accepts record = true := by
  obtain ⟨added, hjudge⟩ := changes_eq_true_iff.mp h
  rw [accepts, hjudge]
  rfl

/-- A record that a pass does not count stays, and nothing is added for it. -/
theorem revise_and_additions_of_not_changes {record : Record} (h : pass.changes record = false) :
    pass.revise record = record ∧ pass.additions record = [] := by
  unfold changes at h
  unfold revise additions
  cases hjudge : pass.judge record with
  | changed revised added => simp [hjudge, Verdict.changes] at h
  | unchanged => exact ⟨rfl, rfl⟩
  | malformed message => exact ⟨rfl, rfl⟩
  | corrupt headline => exact ⟨rfl, rfl⟩

/-! ## Counting -/

/-- The places at which a pass leaves a record written differently are those of reached records. -/
theorem differences_swept_append (records added : List Record) :
    Record.differences records (pass.swept records ++ added) =
      (pass.reached records).countP fun record => record.toJson != (pass.revise record).toJson := by
  induction records with
  | nil => rfl
  | cons record rest ih =>
    cases hstop : pass.stopsAt record with
    | true =>
      have hrest : Record.differences (record :: rest) (record :: rest ++ added) = 0 := by
        refine Record.differences_eq_zero fun index hindex => ?_
        rw [List.getElem?_append_left hindex]
      rw [pass.swept_cons_of_stopsAt rest hstop, hrest, reached, if_pos hstop]
      simp [pass.revise_of_stopsAt hstop]
    | false =>
      rw [pass.swept_cons_of_not_stopsAt rest hstop, List.cons_append, Record.differences_cons, ih,
        reached, if_neg (Bool.eq_false_iff.mp hstop), List.countP_cons]

/-- A pass counts at least the records that it leaves written differently. -/
theorem differences_le_modified (pass : Pass) (document : Document) :
    (Record.differences document.records (pass.apply document).document.records : Int) ≤
      (pass.apply document).outcome.modified := by
  rw [apply_records, differences_swept_append]
  change _ ≤ ((pass.scan 0 document.records).modified : Int)
  rw [scan_modified]
  refine Int.ofNat_le.mpr (List.countP_mono_left fun record _ hdiffers => ?_)
  cases hchanges : pass.changes record with
  | true => rfl
  | false => simp [(revise_and_additions_of_not_changes hchanges).1] at hdiffers

/-- A pass that changes names counts exactly the records that it leaves written differently. -/
theorem ChangesNames.modified_eq (h : pass.ChangesNames) (document : Document) :
    (pass.apply document).outcome.modified =
      Record.differences document.records (pass.apply document).document.records := by
  refine Int.le_antisymm ?_ (differences_le_modified pass document)
  rw [apply_records, differences_swept_append]
  change ((pass.scan 0 document.records).modified : Int) ≤ _
  rw [scan_modified]
  refine Int.ofNat_le.mpr (List.countP_mono_left fun record _ hchanges => ?_)
  rw [bne_iff_ne]
  exact fun hsame => h record hchanges (Record.operandNames_factorsThrough_toJson hsame).symm

/-- A pass that counts no record leaves the document. -/
theorem document_eq_of_modified_eq_zero {document : Document}
    (h : (pass.apply document).outcome.modified = 0) :
    (pass.apply document).document = document := by
  have hcount : (pass.reached document.records).countP pass.changes = 0 := by
    rw [← pass.scan_modified 0]
    exact Int.ofNat_eq_zero.mp h
  have hnone : ∀ record ∈ pass.reached document.records,
      pass.revise record = record ∧ pass.additions record = [] := fun record hrecord =>
    revise_and_additions_of_not_changes
      (Bool.eq_false_iff.mpr (List.countP_eq_zero.mp hcount record hrecord))
  have hreached : (pass.reached document.records).map pass.revise = pass.reached document.records :=
    (List.map_congr_left fun record hrecord => (hnone record hrecord).1).trans (List.map_id' _)
  have hfront : pass.reached document.records <+: document.records := by
    rw [reached_eq_take]
    exact List.take_prefix _ _
  have hswept : pass.swept document.records = document.records := by
    rw [swept, hreached]
    exact List.prefix_iff_eq_append.mp hfront
  have hadded : pass.appended document.records = [] :=
    List.flatMap_eq_nil_iff.mpr fun record hrecord => (hnone record hrecord).2
  have hrecords := pass.apply_records document
  rw [hswept, hadded, List.append_nil] at hrecords
  exact congrArg Document.mk hrecords

/-- A pass that changes names leaves other names where it does not leave the record. -/
theorem ChangesNames.eq_or_names_ne (h : pass.ChangesNames) {document : Document} {index : Nat}
    {record left : Record} (hrecord : document.records[index]? = some record)
    (hleft : (pass.apply document).document.records[index]? = some left) :
    left = record ∨ left.operandNames ≠ record.operandNames := by
  have hindex := (List.getElem?_eq_some_iff.mp hrecord).1
  rw [apply_records, List.getElem?_append_left (by rwa [length_swept]), swept_getElem?, hrecord,
    Option.map_some] at hleft
  obtain rfl := Option.some.inj hleft
  cases hchanges : pass.changes record with
  | false => exact Or.inl (by rw [(revise_and_additions_of_not_changes hchanges).1, ite_self])
  | true =>
    split
    · exact Or.inr (h record hchanges)
    · exact Or.inl rfl

/-- A pass that changes names counts none where it leaves operands of the same names in each
record. -/
theorem ChangesNames.modified_eq_zero (h : pass.ChangesNames) {document : Document}
    (hnames : (pass.apply document).document.records.map Record.operandNames =
      document.records.map Record.operandNames) : (pass.apply document).outcome.modified = 0 := by
  have hsame : ∀ index < document.records.length, document.records[index]?.map Record.toJson =
      (pass.apply document).document.records[index]?.map Record.toJson := by
    intro index hindex
    have hname := congrArg (·[index]?) hnames
    simp only [List.getElem?_map, List.getElem?_eq_getElem hindex, Option.map_some,
      Option.map_eq_some_iff] at hname
    obtain ⟨left, hleft, hname⟩ := hname
    have hrecord := List.getElem?_eq_getElem hindex
    rw [hleft, hrecord, (h.eq_or_names_ne hrecord hleft).resolve_right (absurd hname)]
  rw [h.modified_eq, Record.differences_eq_zero hsame]
  rfl

/-- A pass that changes names counts what an observer does. -/
theorem ChangesNames.countsChanges (h : pass.ChangesNames) (document : Document) :
    (pass.apply document).CountsChanges document := by
  have hnone : (pass.apply document).outcome.modified = 0 →
      (pass.apply document).document = document := document_eq_of_modified_eq_zero
  refine ⟨h.modified_eq document, fun index record left hrecord hleft => ?_, ⟨hnone, ?_⟩,
    ⟨fun hzero => congrArg Document.toJson (hnone hzero), fun hwritten => ?_⟩, fun hequal => ?_⟩
  · refine (h.eq_or_names_ne hrecord hleft).imp_right fun hnames => Bool.eq_false_iff.mpr ?_
    exact fun hequal => hnames (Record.operandNames_of_equals hequal).symm
  · exact fun hsame => h.modified_eq_zero (by rw [hsame])
  · exact h.modified_eq_zero (Document.map_operandNames_of_toJson_eq hwritten)
  · exact h.modified_eq_zero (Document.map_operandNames_of_equals hequal).symm

/-- Every record that a pass reaches and acts on is counted or reported. -/
theorem scan_modified_add_errors (pass : Pass) (index : Nat) (records : List Record) :
    (pass.scan index records).modified + (pass.scan index records).errors.length =
      (pass.reached records).countP pass.actsOn := by
  induction records generalizing index with
  | nil => rfl
  | cons record rest ih =>
    have hrest := ih (index + 1)
    cases hjudge : pass.judge record <;>
      simp [scan, hjudge, reached, stopsAt, Verdict.stops, actsOn, changes, Verdict.changes,
        accepts, Verdict.accepts, ← hrest]
    all_goals omega

end Pass

namespace StringInstruction

/-- An instruction is expanded as the others of its pass are. -/
theorem isExpanded_eq_of_pass_eq {instruction other : StringInstruction}
    (h : other.pass = instruction.pass) : other.isExpanded = instruction.isExpanded := by
  have hname := congrArg Pass.name h
  cases other <;> cases instruction <;> first | rfl | exact absurd hname (by decide)

/-- The pass of an instruction counts the records of it that it puts into form. -/
theorem changes_pass (instruction : StringInstruction) {record : Record}
    (h : record.mnemonic = instruction.mnemonic) :
    instruction.pass.changes record = (instruction.formed? record.operands).isSome := by
  unfold Pass.changes
  rcases instruction.judge_pass_cases h with
    ⟨operands, hformed, hjudge⟩ | ⟨hformed, ⟨-, -, hjudge⟩ | ⟨-, message, hjudge⟩⟩ <;>
    rw [hformed, hjudge] <;> rfl

/-- The pass of an instruction with two memory operands acts on every record of it. -/
theorem actsOn_pass {instruction : StringInstruction} (hexpanded : instruction.isExpanded = false)
    {record : Record} (h : record.mnemonic = instruction.mnemonic) :
    instruction.pass.actsOn record = true := by
  have haccepts : instruction.pass.accepts record = (instruction.formed? record.operands).isSome :=
    Bool.eq_iff_iff.mpr ((instruction.accepts_pass_iff h).trans (by simp [hexpanded]))
  rw [Pass.actsOn, instruction.changes_pass h, haccepts, Bool.or_not_self]

/-- The mnemonics of the instructions that the pass of an instruction deals with. -/
def passMnemonics (instruction : StringInstruction) : List String :=
  (all.filter (·.pass.name == instruction.pass.name)).map mnemonic

/-- The mnemonics of a pass are those of the instructions with that pass. -/
theorem mem_passMnemonics {instruction : StringInstruction} {mnemonic : String} :
    mnemonic ∈ instruction.passMnemonics ↔
      ∃ own : StringInstruction, own.pass = instruction.pass ∧ own.mnemonic = mnemonic := by
  have hall (own : StringInstruction) : own ∈ all := by cases own <;> decide
  simp only [passMnemonics, List.mem_map, List.mem_filter, hall, true_and, beq_iff_eq]
  refine exists_congr fun own => and_congr_left fun _ => ⟨pass_eq_of_name, congrArg Pass.name⟩

/-- A pass over instructions with two memory operands acts on the records of their mnemonics, and on
no others. -/
theorem actsOn_pass_eq {instruction : StringInstruction} (h : instruction.isExpanded = false)
    (record : Record) :
    instruction.pass.actsOn record = instruction.passMnemonics.contains record.mnemonic := by
  rw [Bool.eq_iff_iff, List.contains_iff_mem, mem_passMnemonics]
  constructor
  · intro hacts
    rcases instruction.judge_pass_eq_or record.mnemonic with ⟨own, hmnemonic, hpass⟩ | hleft
    · exact ⟨own, hpass, hmnemonic.symm⟩
    · rw [Pass.actsOn, Pass.changes, Pass.accepts, hleft record rfl] at hacts
      exact absurd hacts Bool.false_ne_true
  · rintro ⟨own, hpass, hmnemonic⟩
    rw [← hpass]
    exact actsOn_pass ((isExpanded_eq_of_pass_eq hpass).trans h) hmnemonic.symm

/-- A pass over instructions with two memory operands counts or reports each record of their
mnemonics. -/
theorem modified_add_errors {instruction : StringInstruction} (h : instruction.isExpanded = false)
    (document : Document) :
    (instruction.pass.apply document).outcome.modified +
        (instruction.pass.apply document).outcome.errors.length =
      (document.records.countP fun record =>
        instruction.passMnemonics.contains record.mnemonic : Nat) := by
  have hreached : instruction.pass.reached document.records = document.records :=
    instruction.pass.reached_of_forall fun record _ => (instruction.recordWise_pass record).1
  have hcount := instruction.pass.scan_modified_add_errors 0 document.records
  rw [hreached, funext (actsOn_pass_eq h)] at hcount
  exact congrArg Int.ofNat hcount

end StringInstruction

namespace Pass

/-! ## Passes that change names -/

/-- A renaming that does not leave the name of some operand leaves other names. -/
theorem operandNames_renamed_ne {record : Record} {rename : String → String} {operand : Operand}
    (hoperand : operand ∈ record.operands) (hname : rename operand.name ≠ operand.name) :
    (record.renamed rename).operandNames ≠ record.operandNames := by
  intro hnames
  rw [Record.operandNames, Record.operandNames, Record.renamed_operands, List.map_map] at hnames
  exact hname (List.map_inj_left.mp hnames operand hoperand)

/-- The pass over the instructions with an accumulator changes one operand into two. -/
theorem changesNames_lodsScasStos : lodsScasStos.ChangesNames := by
  intro record hchanges hnames
  rcases StringInstruction.lods.judge_pass_eq_or record.mnemonic with
    ⟨own, hmnemonic, hpass⟩ | hleft
  · have hexpanded := StringInstruction.isExpanded_eq_of_pass_eq hpass
    have hpass : own.pass = lodsScasStos := hpass
    rw [← hpass] at hchanges hnames
    rw [own.changes_pass hmnemonic] at hchanges
    obtain ⟨operands, hformed⟩ := Option.isSome_iff_exists.mp hchanges
    obtain ⟨hlength, size, -, rfl⟩ := own.formed?_eq_some_iff.mp hformed
    have htwo := StringInstruction.length_of_inForm (own.inForm_written size hlength)
    have hcount := congrArg List.length hnames
    rw [own.revise_pass hmnemonic, hformed, Option.getD_some, Record.operandNames,
      Record.operandNames, List.length_map, List.length_map, htwo, hlength,
      StringInstruction.operandCount, hexpanded] at hcount
    exact absurd hcount (by decide)
  · exact judge_ne_unchanged_of_changes hchanges (hleft record rfl)

/-- The pass over the VMOVQ load changes the name of the second operand. -/
theorem changesNames_vmovq : vmovq.ChangesNames := by
  intro record hchanges hnames
  unfold changes at hchanges
  rcases judge_vmovq_cases record with
    ⟨-, hjudge⟩ | ⟨hencoding, ⟨first, second, hoperands, hjudge⟩ | ⟨-, hjudge⟩⟩
  · rw [hjudge] at hchanges
    exact Bool.false_ne_true hchanges
  · have hname : second.name ≠ registerOrMemory := by
      intro hname
      rw [hjudge, if_pos hname] at hchanges
      exact Bool.false_ne_true hchanges
    rw [revise_vmovq, Record.fixed_of_eq hencoding, Record.operandNames, Record.operandNames,
      hoperands] at hnames
    simp only [fixedOperands, List.map_cons, List.map_nil, List.cons.injEq, true_and,
      and_true] at hnames
    exact hname hnames.symm
  · rw [hjudge] at hchanges
    exact Bool.false_ne_true hchanges

/-- The pass over the general registers changes the placeholder into a register. -/
theorem changesNames_generalRegister : generalRegister.ChangesNames := by
  intro record hchanges
  have hplaceholder : record.hasOperand placeholder = true := by
    by_contra hnone
    exact judge_ne_unchanged_of_changes hchanges (if_neg hnone)
  obtain ⟨operand, hoperand, hname⟩ := (hasOperand_iff record placeholder).mp hplaceholder
  rw [revise_generalRegister]
  refine operandNames_renamed_ne hoperand ?_
  rw [hname, ne_eq, sizedName_eq_placeholder_iff]
  rintro ⟨-, hregister⟩
  have herror := errorFor?_generalRegister 0 record
  rw [if_pos ⟨hplaceholder, (registerFor?_eq_none_iff record.mnemonic).mp hregister⟩] at herror
  exact Bool.eq_false_iff.mp (generalRegister.accepts_of_errorFor? herror)
    (accepts_of_changes hchanges)

/-- The pass over the synonyms changes a synonym into its canonical name. -/
theorem changesNames_renameSynonyms : renameSynonyms.ChangesNames := by
  intro record hchanges
  have hsynonym : (record.operands.any fun operand => (canonicalName? operand.name).isSome) =
      true := by
    by_contra hnone
    exact judge_ne_unchanged_of_changes hchanges (if_neg hnone)
  obtain ⟨operand, hoperand, hname⟩ := List.any_eq_true.mp hsynonym
  rw [revise_renameSynonyms]
  refine operandNames_renamed_ne hoperand fun hsame => ?_
  -- A name that is its own canonical name is no synonym.
  rw [← hsame, canonicalName?_canonicalName] at hname
  exact Bool.false_ne_true hname

/-- A removal that changes a record changes its names. -/
theorem operandNames_removeOperands_ne {record : Record} {name : String}
    (h : (judgeRemoval name record).changes = true) :
    (record.removeOperands name).operandNames ≠ record.operandNames := by
  have hname : record.hasOperand name = true := by
    by_contra hnone
    rw [judgeRemoval, if_neg hnone] at h
    exact Bool.false_ne_true h
  obtain ⟨operand, hoperand, rfl⟩ := (hasOperand_iff record name).mp hname
  intro hnames
  have hmem : operand.name ∈ (record.removeOperands operand.name).operandNames := by
    rw [hnames]
    exact List.mem_map_of_mem hoperand
  obtain ⟨other, hother, hname⟩ := List.mem_map.mp hmem
  exact bne_iff_ne.mp (List.mem_filter.mp hother).2 hname

/-- The pass over the implied vector register removes it. -/
theorem changesNames_removeImpliedVector : removeImpliedVector.ChangesNames := by
  intro record hchanges
  have hrevise : removeImpliedVector.revise record = record.removeOperands impliedVector :=
    inPlace_judgeRemoval impliedVector record
  rw [hrevise]
  exact operandNames_removeOperands_ne hchanges

/-- The pass over the top of the register stack removes it. -/
theorem changesNames_removeStackTop : removeStackTop.ChangesNames := by
  intro record hchanges
  have hencoding : stackTopEncodings.contains record.binaryEncoding = true := by
    by_contra hnone
    exact judge_ne_unchanged_of_changes hchanges (if_neg hnone)
  have hjudge : removeStackTop.judge record = judgeRemoval stackTop record := if_pos hencoding
  rw [revise, hjudge, inPlace_judgeRemoval]
  rw [changes, hjudge] at hchanges
  exact operandNames_removeOperands_ne hchanges

/-! ## Every pass -/

/-- Six passes count exactly the records that they leave written differently: none exactly when the
document stays, the records added to it included. The two passes over the instructions with two
memory operands count or report each record of their mnemonics, and count no fewer than they leave
written differently. -/
theorem modified_counts_changes (document : Document) :
    (∀ pass ∈ [lodsScasStos, vmovq, generalRegister, renameSynonyms, removeStackTop,
        removeImpliedVector], (pass.apply document).CountsChanges document) ∧
      ∀ entry ∈ [(cmpsMovs, ["CMPS", "MOVS"]), (insOuts, ["INS", "OUTS"])],
        let application := entry.1.apply document
        application.outcome.modified + application.outcome.errors.length =
            (document.records.countP fun record => entry.2.contains record.mnemonic : Nat) ∧
          (Record.differences document.records application.document.records : Int) ≤
            application.outcome.modified := by
  constructor
  · intro pass hpass
    have hnames : pass.ChangesNames := by
      simp only [List.mem_cons, List.not_mem_nil, or_false] at hpass
      rcases hpass with rfl | rfl | rfl | rfl | rfl | rfl
      · exact changesNames_lodsScasStos
      · exact changesNames_vmovq
      · exact changesNames_generalRegister
      · exact changesNames_renameSynonyms
      · exact changesNames_removeStackTop
      · exact changesNames_removeImpliedVector
    exact hnames.countsChanges document
  · intro entry hentry application
    refine ⟨?_, differences_le_modified entry.1 document⟩
    simp only [List.mem_cons, List.not_mem_nil, or_false] at hentry
    rcases hentry with rfl | rfl
    · exact @StringInstruction.modified_add_errors .cmps rfl document
    · exact @StringInstruction.modified_add_errors .ins rfl document

end Pass

end OperandCleanup
