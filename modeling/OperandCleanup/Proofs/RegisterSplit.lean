import Mathlib.Data.List.Basic
import OperandCleanup.Proofs.Frame

/-!
# Records for each register size

The pass over the general registers writes a register into every record with the placeholder, if
the mnemonic asks for one, and reports the record otherwise. The records that are split are the only
ones for which another record is added: their wide copies stand behind all records of the document,
in the order of the records that they are made of. So the copy of the record that is split as the
first, the second and so on is known by its place.
-/

namespace OperandCleanup

namespace Record

/-- A record with a register in the place of the placeholder. -/
def sized (record : Record) (register : String) : Record :=
  record.renamed fun name => if name = "reg" then register else name

/-- A record without the placeholder has no place for a register. -/
theorem sized_eq_self {record : Record} (h : record.hasOperand "reg" = false) (register : String) :
    record.sized register = record := by
  refine renamed_eq_self fun operand hoperand => if_neg fun hname => ?_
  exact Bool.eq_false_iff.mp h ((Pass.hasOperand_iff record "reg").mpr ⟨operand, hoperand, hname⟩)

/-- The wide copy has the wide register and a longer encoding. -/
theorem wide_eq_sized (record : Record) :
    record.wide =
      { record.sized "r64" with binaryEncoding := "REX.W + " ++ record.binaryEncoding } := by
  have hoperands : Pass.withRegister record.operands "r64" = (record.sized "r64").operands := by
    refine List.map_congr_left fun operand _ => ?_
    rw [Operand.renamed, Pass.placeholder]
    split <;> rfl
  rw [wide, hoperands]
  rfl

/-- A record is split if it is a LAR with the placeholder. -/
theorem splits_eq (record : Record) :
    record.splits = (record.mnemonic == "LAR" && record.hasOperand "reg") := by
  rw [splits, Pass.splitMnemonics, List.contains_cons, List.contains_nil, Bool.or_false]
  rfl

/-- A wide copy has no placeholder. -/
theorem hasOperand_wide (record : Record) : record.wide.hasOperand "reg" = false := by
  rw [Bool.eq_false_iff, ne_eq, Pass.hasOperand_iff]
  rintro ⟨operand, hoperand, hname⟩
  exact Pass.name_ne_placeholder_of_mem_wide hoperand hname

end Record

namespace Pass

/-- The mnemonics that ask for a register. -/
def sizedMnemonics : List String := "LAR" :: (reg8Mnemonics ++ reg16Mnemonics ++ reg32Mnemonics)

/-- A mnemonic asks for a register exactly when it is in one of the tables. -/
theorem registerFor?_eq_none_iff (mnemonic : String) :
    registerFor? mnemonic = none ↔ mnemonic ∉ sizedMnemonics := by
  simp only [sizedMnemonics, List.mem_cons, List.mem_append, not_or, registerFor?, singleRegister?,
    splitMnemonics, List.contains_iff_mem]
  split
  · simp_all
  · split
    · simp_all
    · split
      · simp_all
      · split <;> simp_all

/-- The register that the mnemonic asks for takes the place of the placeholder. -/
theorem revise_generalRegister_of_eq_some {record : Record} {register : String}
    (h : registerFor? record.mnemonic = some register) :
    generalRegister.revise record = record.sized register := by
  have hname : sizedName record.mnemonic = fun name => if name = "reg" then register else name := by
    funext name
    rw [sizedName, h]
    rfl
  rw [revise_generalRegister, hname]
  rfl

/-- Where the mnemonic asks for no register the record stays. -/
theorem revise_generalRegister_of_eq_none {record : Record}
    (h : registerFor? record.mnemonic = none) : generalRegister.revise record = record := by
  rw [revise_generalRegister]
  refine Record.renamed_eq_self fun operand _ => ?_
  rw [sizedName, h]
  exact ite_self _

/-- A record without the placeholder stays. -/
theorem revise_generalRegister_of_hasOperand {record : Record}
    (h : record.hasOperand "reg" = false) : generalRegister.revise record = record := by
  cases hregister : registerFor? record.mnemonic with
  | none => exact revise_generalRegister_of_eq_none hregister
  | some register =>
    rw [revise_generalRegister_of_eq_some hregister, Record.sized_eq_self h]

/-- The error about a record whose mnemonic asks for no register. -/
def unsizedError (index : Nat) (record : Record) : DataError where
  kind := .malformedRecord
  message := "Unexpected instruction mnemonic: " ++ record.mnemonic
  transform := "FixRegOperands"
  recordIndex := some index
  mnemonic := record.mnemonic

/-- The pass reports a record with the placeholder whose mnemonic asks for no register. -/
theorem errorFor?_generalRegister (index : Nat) (record : Record) :
    generalRegister.errorFor? index record =
      if record.hasOperand "reg" = true ∧ record.mnemonic ∉ sizedMnemonics then
        some (unsizedError index record)
      else none := by
  split
  · rename_i hunsized
    obtain ⟨hplaceholder, hmnemonic⟩ := hunsized
    have hjudge : generalRegister.judge record =
        .malformed ("Unexpected instruction mnemonic: " ++ record.mnemonic) := by
      rw [← registerFor?_eq_none_iff, registerFor?] at hmnemonic
      simp only [generalRegister, judgeGeneralRegister, placeholder, hplaceholder, if_true]
      split at hmnemonic
      · cases hmnemonic
      · rename_i hsplit
        rw [if_neg hsplit, hmnemonic]
    rw [errorFor?, hjudge]
    rfl
  · rename_i hsized
    rw [errorFor?_eq_none_iff, accepts_generalRegister_iff]
    intro operand hoperand hsettled
    obtain ⟨hname, hregister⟩ := (settledName_eq_placeholder_iff _ _).mp hsettled
    exact hsized ⟨(hasOperand_iff record "reg").mpr ⟨operand, hoperand, hname⟩,
      (registerFor?_eq_none_iff _).mp hregister⟩

end Pass

/-- The item at the index that is found as the first, the second and so on is the first, the second
and so on that is kept. -/
theorem getElem?_filter_of_findIdxs {α : Type} {p : α → Bool} {items : List α} {place index : Nat}
    (h : (items.findIdxs p)[place]? = some index) :
    ∃ item, items[index]? = some item ∧ p item = true ∧ (items.filter p)[place]? = some item := by
  obtain ⟨hplace, rfl⟩ := List.getElem?_eq_some_iff.mp h
  have hkept : place < (items.filter p).length := by
    rwa [← List.countP_eq_length_filter, ← List.length_findIdxs]
  have hitem := List.getElem_filter_eq_getElem_getElem_findIdxs hkept
  refine ⟨_, List.getElem?_eq_getElem (List.getElem_findIdxs_lt hplace),
    List.getElem_getElem_findIdxs hplace, ?_⟩
  rw [List.getElem?_eq_getElem hkept, hitem]

namespace Pass

section

variable (document : Document)

/-- The pass over the general registers leaves the revised records in place, and the wide copies
behind them. -/
theorem generalRegister_records :
    (generalRegister.apply document).document.records =
      document.records.map generalRegister.revise ++
        (document.records.filter Record.splits).map Record.wide := by
  rw [apply_records, Pipeline.swept_generalRegister, Pipeline.appended_generalRegister,
    Pipeline.wideCopies_eq_map]

/-- The revision of a record stands in its place. -/
theorem generalRegister_getElem? {index : Nat} {record : Record}
    (h : document.records[index]? = some record) :
    (generalRegister.apply document).document.records[index]? =
      some (generalRegister.revise record) := by
  have hindex : index < (document.records.map generalRegister.revise).length := by
    rw [List.length_map]
    exact (List.getElem?_eq_some_iff.mp h).1
  rw [generalRegister_records, List.getElem?_append_left hindex, List.getElem?_map, h,
    Option.map_some]

/-- The wide copies stand behind the records, as many as are split. -/
theorem generalRegister_drop :
    (generalRegister.apply document).document.records.drop document.size =
      (document.records.filter Record.splits).map Record.wide := by
  have hsize : document.size = (document.records.map generalRegister.revise).length :=
    (List.length_map _).symm
  rw [generalRegister_records, hsize, List.drop_left]

/-- The pass over the general registers reports the records with the placeholder whose mnemonic asks
for no register. -/
theorem generalRegister_errors :
    (generalRegister.apply document).outcome.errors =
      document.records.zipIdx.filterMap fun (record, index) =>
        if record.hasOperand "reg" = true ∧ record.mnemonic ∉ sizedMnemonics then
          some (unsizedError index record)
        else none := by
  have herrors : (generalRegister.apply document).outcome.errors =
      (generalRegister.scan 0 document.records).errors := rfl
  rw [herrors, scan_errors, reached_of_forall _ fun record _ => total_generalRegister record,
    errorsFrom_eq_filterMap]
  simp only [errorFor?_generalRegister]

end

/-- The pass over the general registers puts the narrow register into each LAR record with the
placeholder, and for the first, the second and so on of these records it adds the copy with the wide
register and the longer encoding as the first, the second and so on behind the document. Other
records with the placeholder get the register of the table that has their mnemonic; those whose
mnemonic is in no table stay and are reported, each once and in order. Records without the
placeholder stay, and no copy has it. -/
theorem generalRegister_exact (document : Document) :
    let result := generalRegister.apply document
    let split := document.records.findIdxs fun record =>
      record.mnemonic == "LAR" && record.hasOperand "reg"
    result.document.size = document.size + split.length ∧
      (∀ place index, split[place]? = some index →
        ∃ record, document.records[index]? = some record ∧
          result.document.records[index]? = some (record.sized "r32") ∧
          result.document.records[document.size + place]? =
            some { record.sized "r64" with
              binaryEncoding := "REX.W + " ++ record.binaryEncoding }) ∧
      (∀ (index : Nat) (record : Record), document.records[index]? = some record →
        ∃ left, result.document.records[index]? = some left ∧
          (record.hasOperand "reg" = false → left = record) ∧
          (record.mnemonic ∈ reg8Mnemonics → left = record.sized "r8") ∧
          (record.mnemonic ∈ reg16Mnemonics → left = record.sized "r16") ∧
          (record.mnemonic ∈ reg32Mnemonics → left = record.sized "r32") ∧
          (record.mnemonic ∉ sizedMnemonics → left = record)) ∧
      result.outcome.errors =
        (document.records.zipIdx.filterMap fun (record, index) =>
          if record.hasOperand "reg" = true ∧ record.mnemonic ∉ sizedMnemonics then
            some (unsizedError index record)
          else none) ∧
      ∀ added ∈ result.document.records.drop document.size, added.hasOperand "reg" = false := by
  intro result split
  have hsplit : split = document.records.findIdxs Record.splits :=
    congrArg document.records.findIdxs (funext fun record => record.splits_eq.symm)
  refine ⟨?_, fun place index hindex => ?_, fun index record hrecord => ?_,
    generalRegister_errors document, fun added hadded => ?_⟩
  · rw [Document.size, generalRegister_records, List.length_append, List.length_map,
      List.length_map, hsplit, List.length_findIdxs, List.countP_eq_length_filter]
    rfl
  · rw [hsplit] at hindex
    obtain ⟨record, hrecord, hsplits, hkept⟩ := getElem?_filter_of_findIdxs hindex
    have hregister : registerFor? record.mnemonic = some "r32" :=
      if_pos (Bool.and_eq_true_iff.mp hsplits).1
    -- The record that is split as the first has the first copy, because a filter keeps the order.
    refine ⟨record, hrecord, ?_, ?_⟩
    · rw [generalRegister_getElem? document hrecord, revise_generalRegister_of_eq_some hregister]
    · rw [← List.getElem?_drop, generalRegister_drop, List.getElem?_map, hkept, Option.map_some,
        Record.wide_eq_sized]
  · have hregister (table : List String) (register : String)
        (htable : ∀ mnemonic ∈ table, registerFor? mnemonic = some register)
        (h : record.mnemonic ∈ table) :
        generalRegister.revise record = record.sized register :=
      revise_generalRegister_of_eq_some (htable record.mnemonic h)
    refine ⟨_, generalRegister_getElem? document hrecord, revise_generalRegister_of_hasOperand,
      hregister _ "r8" (by decide), hregister _ "r16" (by decide), hregister _ "r32" (by decide),
      fun h => revise_generalRegister_of_eq_none ((registerFor?_eq_none_iff _).mpr h)⟩
  · rw [generalRegister_drop] at hadded
    obtain ⟨record, -, rfl⟩ := List.mem_map.mp hadded
    exact record.hasOperand_wide

end Pass

end OperandCleanup
