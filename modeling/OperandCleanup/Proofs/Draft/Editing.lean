import OperandCleanup.Document.Draft.Editing
import OperandCleanup.Proofs.Reload

/-!
# Drafts of checked documents

A document under editing checks nothing, but where all of its values are those of a checked
document nothing goes wrong either: every operation has a result, and it is the draft of what the
operation makes of the document. So the operations on documents and records are those on drafts,
and a misuse needs a value that no checked document has.
-/

namespace OperandCleanup

/-- An operand is written as it is in a checked document. -/
theorem DraftOperand.toJson_ofOperand (operand : Operand) :
    (ofOperand operand).toJson = operand.toJson := by
  simp [ofOperand, toJson, Operand.toJson, Operand.toMembers, writtenExtras, Json.isNull,
    Json.finiteMembers, Json.finite]

/-- What is written of an operand has finite numbers only. -/
theorem Operand.allFinite_toJson (operand : Operand) : operand.toJson.AllFinite :=
  throughout_toJson (fun value _ => Json.isFinitePart_finite value) (fun _ => rfl) (fun _ => rfl)
    fun member _ => Json.throughout_of_forall (fun _ => rfl) member.2

namespace Record

/-- The operands of a record are those that a removal leaves and those of the name. -/
theorem length_removeOperands (record : Record) (name : String) :
    (record.removeOperands name).operands.length + record.countOperands name =
      record.operands.length := by
  have hparts := record.operands.length_eq_countP_add_countP (·.name == name)
  simp only [removeOperands, countOperands, ← List.countP_eq_length_filter, bne,
    Bool.not_eq_true, Bool.decide_eq_false] at hparts ⊢
  omega

/-- A record without operands of a name stays as it is when they are removed. -/
theorem removeOperands_eq_self {record : Record} {name : String}
    (h : record.countOperands name = 0) : record.removeOperands name = record := by
  have hkept : record.operands.filter (·.name != name) = record.operands :=
    List.filter_eq_self.mpr fun operand hoperand => by
      simpa using List.countP_eq_zero.mp h operand hoperand
  rw [removeOperands, hkept]

end Record

/-- A position in a list that memory can hold is an index of it. -/
theorem Json.position_int {position length : Nat} (h : position < length)
    (hsmall : position ≤ Int64.maxValue.toInt) :
    (Json.int position).position length = .ok position := by
  have hinside : ¬ ((position : Int) < Int64.minValue.toInt ∨
      Int64.maxValue.toInt < position) := by
    have hmin : Int64.minValue.toInt < 0 := by decide
    omega
  have hfound : position? length position = some position := by
    have hfront : ¬ (position : Int) < 0 := by omega
    simp only [position?, if_neg hfront]
    rw [if_pos (by omega), Int.toNat_natCast]
  simp only [Json.position, indexNumber?, if_neg hinside, hfound]

/-- What succeeds for every item of a list succeeds for the list. -/
theorem forM_eq_ok {ε α : Type} {f : α → Except ε Unit} {items : List α}
    (h : ∀ item ∈ items, f item = .ok ()) : items.forM f = .ok () := by
  induction items with
  | nil => rfl
  | cons item rest ih =>
    obtain ⟨hitem, hrest⟩ := List.forall_mem_cons.mp h
    rw [List.forM_eq_forM, List.forM_cons, hitem]
    exact ih hrest

namespace DraftRecord

/-- Nothing has taken the place of an operation of a checked record. -/
@[simp] theorem operation_ofRecord (record : Record) (name : String) :
    (ofRecord record).operation name = .ok () := rfl

/-- The operands of a checked record can be looked at. -/
@[simp] theorem items_ofRecord (record : Record) :
    (ofRecord record).operands.items = .ok (record.operands.map .ofOperand) := rfl

/-- The names of checked operands are texts. -/
theorem mapM_name_ofOperand (operands : List Operand) :
    (operands.map DraftOperand.ofOperand).mapM DraftOperand.name =
      .ok (operands.map fun operand => .string operand.name) := by
  rw [List.mapM_map]
  exact List.mapM_pure

/-- A record is written as it is in a checked document. -/
theorem toMembers_ofRecord (record : Record) :
    (ofRecord record).toMembers = record.toMembers := by
  have hoperands : (ofRecord record).operands.toJson =
      .array (record.operands.map Operand.toJson) := by
    have hsame : DraftOperand.toJson ∘ .ofOperand = Operand.toJson :=
      funext DraftOperand.toJson_ofOperand
    rw [ofRecord, DraftOperands.toJson, List.map_map, hsame]
  have hfinite : Json.finiteItems (record.operands.map Operand.toJson) =
      record.operands.map Operand.toJson := by
    rw [Json.finiteItems_eq_map, List.map_map]
    exact List.map_congr_left fun operand _ =>
      Json.finite_eq_self_iff.mpr operand.allFinite_toJson
  rw [toMembers, hoperands, writtenExtras]
  simp [ofRecord, Record.toMembers, Json.isNull, Json.finiteMembers, Json.finite, hfinite]

/-- It is always written. -/
theorem toJson_ofRecord (record : Record) : (ofRecord record).toJson = .ok record.toJson := by
  simp only [toJson, operation_ofRecord, toMembers_ofRecord, Record.toJson]
  rfl

/-- The names of the operands are those of the record. -/
theorem operandNames_ofRecord (record : Record) :
    (ofRecord record).operandNames = .ok (record.operandNames.map .string) := by
  rw [operandNames, operation_ofRecord, items_ofRecord, Record.operandNames, List.map_map]
  exact mapM_name_ofOperand record.operands

/-- An operand is added at the end. -/
theorem addOperand_ofRecord (record : Record) (operand : Operand) :
    (ofRecord record).addOperand operand = .ok (ofRecord (record.addOperand operand)) := by
  simp [ofRecord, addOperand, Record.addOperand]

/-- Other operands are put in place of the record's own. -/
theorem setOperands_ofRecord (record : Record) (operands : List Operand) :
    (ofRecord record).setOperands operands = .ok (ofRecord { record with operands }) := rfl

/-- The operands of a name are removed and counted. -/
theorem removeOperands_ofRecord (record : Record) (name : String) :
    (ofRecord record).removeOperands (.string name) =
      .ok (record.countOperands name, ofRecord (record.removeOperands name)) := by
  have hkept : (record.operands.filter fun operand =>
      !(Json.string operand.name).equals (.string name)).map DraftOperand.ofOperand =
        (record.removeOperands name).operands.map .ofOperand := rfl
  have hcount : (record.operands.map DraftOperand.ofOperand).length -
      ((record.removeOperands name).operands.map DraftOperand.ofOperand).length =
        record.countOperands name := by
    rw [List.length_map, List.length_map, ← record.length_removeOperands name,
      Nat.add_sub_cancel_left]
  simp only [removeOperands, operation_ofRecord, items_ofRecord, mapM_name_ofOperand, bind,
    Except.bind, List.zip_map', List.filter_map, List.map_map, Function.comp_def]
  rw [hkept, hcount]
  split
  · rw [Record.removeOperands_eq_self ‹_›]
    rfl
  · rfl

/-- An operand is found at its position. -/
theorem part_ofRecord {record : Record} {position : Nat} {operand : Operand}
    (h : record.operands[position]? = some operand)
    (hsmall : position ≤ Int64.maxValue.toInt) :
    (ofRecord record).operands.part (.int position) = .ok (.ofOperand operand) := by
  have hposition := Json.position_int (List.getElem?_eq_some_iff.mp h).1 hsmall
  rw [ofRecord, DraftOperands.part, List.length_map, hposition]
  simp only [bind, Except.bind, List.getElem?_map, h]
  rfl

/-- The operand at a position gets another name. -/
theorem renameOperand_ofRecord {record : Record} {position : Nat}
    (h : position < record.operands.length) (hsmall : position ≤ Int64.maxValue.toInt)
    (name : String) :
    (ofRecord record).renameOperand (.int position) (.string name) =
      .ok (ofRecord (record.renameOperand position name)) := by
  have hoperand := List.getElem?_eq_getElem h
  have hposition := Json.position_int h hsmall
  have hset : (record.operands.map DraftOperand.ofOperand).set position
        (.ofOperand { record.operands[position] with name := name }) =
      (record.renameOperand position name).operands.map .ofOperand := by
    rw [← List.map_set, Record.renameOperand, List.modify_eq_set, hoperand]
    rfl
  rw [renameOperand, part_ofRecord hoperand hsmall]
  simp only [ofRecord, DraftOperand.ofOperand, DraftOperand.renamed, bind, Except.bind, hposition,
    List.length_map]
  rw [← hset]
  rfl

end DraftRecord

namespace Draft

/-- Records are added at the end. -/
theorem append_ofDocument (document : Document) (records : List Record) :
    (ofDocument document).append (records.map .ofRecord) =
      ofDocument (document.append records) := by
  rw [append, ofDocument, ofDocument, Document.append, List.map_append]

/-- The same records are selected by their mnemonic. -/
theorem filter_ofDocument (document : Document) (mnemonic : Option String) :
    (ofDocument document).filter (mnemonic.elim .null .string) =
      (document.filter mnemonic).map .ofRecord := by
  cases mnemonic with
  | none => rfl
  | some mnemonic =>
    change (document.records.map DraftRecord.ofRecord).filter _ = _
    rw [List.filter_map]
    rfl

/-- A draft of a checked document can be copied. -/
theorem copied_ofDocument (document : Document) :
    (ofDocument document).copied = .ok (ofDocument document) := by
  have hchecked : ((ofDocument document).records.forM fun record =>
      record.operation "model_copy") = .ok () :=
    forM_eq_ok (List.forall_mem_map.mpr fun _ _ => rfl)
  rw [copied, hchecked]
  rfl

/-- It is written as the document is. -/
theorem toJson_ofDocument (document : Document) :
    (ofDocument document).toJson = .ok document.toJson := by
  have hrecords : (document.records.map DraftRecord.ofRecord).mapM DraftRecord.toJson =
      .ok (document.records.map Record.toJson) := by
    rw [List.mapM_map, show DraftRecord.toJson ∘ DraftRecord.ofRecord = (pure ·.toJson) from
      funext DraftRecord.toJson_ofRecord]
    exact List.mapM_pure
  rw [toJson, ofDocument, hrecords]
  rfl

/-- It has the text of the document. -/
theorem text_ofDocument (document : Document) :
    (ofDocument document).text = .ok document.text := by
  rw [text, toJson_ofDocument]
  rfl

/-- It is compared as the document is. -/
theorem equals_ofDocument (document other : Document) :
    (ofDocument document).equals (ofDocument other) = .ok (document.equals other) := by
  rw [equals, toJson_ofDocument, toJson_ofDocument]
  rfl

end Draft

end OperandCleanup
