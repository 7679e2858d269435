import OperandCleanup.Document.Basic
import OperandCleanup.Json.Misuse

/-!
# Drafts

A draft is a document under manual editing. Assigning a member of a record checks nothing, so a
mnemonic, an encoding or the name of an operand may be any value, and the operands may be no list.
An operation that needs what a value does not have is a misuse of that value. A member without a
value is written as null is elsewhere: not at all.
-/

namespace OperandCleanup

/-- An item among the operands of a draft. -/
inductive DraftOperand where
  | operand (name : Json) (usage : Option Usage) (encoding : Option Encoding)
    (extras : Json.Members)
  /-- A value that is no operand. -/
  | other (value : Json)
deriving DecidableEq, Repr, Inhabited

namespace DraftOperand

def ofOperand (operand : Operand) : DraftOperand :=
  .operand (.string operand.name) operand.usage operand.encoding operand.extras

def toJson : DraftOperand → Json
  | .operand name usage encoding extras =>
    .object (writtenExtras [("name", name)] ++
      (usage.toList.map fun usage => ("usage", .string usage.name)) ++
      (encoding.toList.map fun encoding => ("encoding", .string encoding.name)) ++
      writtenExtras extras)
  | .other value => value

/-- The name of an operand. -/
def name : DraftOperand → Except Misuse Json
  | .operand name .. => .ok name
  | .other value => .error (.forMember value.typeName "name")

/-- The operand under another name. -/
def renamed (item : DraftOperand) (name : Json) : Except Misuse DraftOperand :=
  match item with
  | .operand _ usage encoding extras => .ok (.operand name usage encoding extras)
  | .other value => .error (.forMember value.typeName "name")

end DraftOperand

/-- The operands of a draft. -/
inductive DraftOperands where
  | list (items : List DraftOperand)
  /-- A value that is no list. -/
  | other (value : Json)
deriving DecidableEq, Repr, Inhabited

namespace DraftOperands

def ofJson : Json → DraftOperands
  | .array items => .list (items.map .other)
  | value => .other value

def toJson : DraftOperands → Json
  | .list items => .array (items.map DraftOperand.toJson)
  | .other value => value

/-- The operands one after the other. -/
def items : DraftOperands → Except Misuse (List DraftOperand)
  | .list items => .ok items
  | .other value => value.items.map fun items => items.map .other

/-- The number of operands. -/
def size : DraftOperands → Except Misuse Nat
  | .list items => .ok items.length
  | .other value =>
    match value.items with
    | .ok items => .ok items.length
    | .error _ => .error (.forLength value.typeName)

/-- The operand at an index. -/
def part (operands : DraftOperands) (index : Json) : Except Misuse DraftOperand :=
  match operands with
  | .list items => do
    let position ← index.position items.length
    return items[position]?.getD (.other .null)
  | .other value => (value.part index).map .other

end DraftOperands

/-- A record of a draft. -/
structure DraftRecord where
  mnemonic : Json
  binaryEncoding : Json := .string ""
  operands : DraftOperands := .list []
  extras : Json.Members := []
  /-- What is assigned to names that records have a use for; it is not written. -/
  aside : Json.Members := []
deriving DecidableEq, Repr, Inhabited

namespace DraftRecord

def ofRecord (record : Record) : DraftRecord where
  mnemonic := .string record.mnemonic
  binaryEncoding := .string record.binaryEncoding
  operands := .list (record.operands.map .ofOperand)
  extras := record.extras

/-- The members that are written. -/
def toMembers (record : DraftRecord) : Json.Members :=
  writtenExtras [("mnemonic", record.mnemonic), ("binary_encoding", record.binaryEncoding),
    ("vendor_syntax", record.operands.toJson)] ++ writtenExtras record.extras

/-- Use one of a record's own operations, unless a value has taken its name. -/
def operation (record : DraftRecord) (name : String) : Except Misuse Unit :=
  match record.aside.get? name with
  | none => .ok ()
  | some value => .error (.asFunction value.typeName)

/-- A record as it is written. -/
def toJson (record : DraftRecord) : Except Misuse Json := do
  record.operation "to_dict"
  record.operation "model_dump"
  return .object record.toMembers

end DraftRecord

/-- A document under editing. -/
structure Draft where
  records : List DraftRecord := []
deriving DecidableEq, Repr, Inhabited

namespace Draft

def ofDocument (document : Document) : Draft := ⟨document.records.map .ofRecord⟩

def append (draft : Draft) (records : List DraftRecord) : Draft := ⟨draft.records ++ records⟩

/-- A copy of a draft, made record by record. -/
def copied (draft : Draft) : Except Misuse Draft := do
  draft.records.forM fun record => record.operation "model_copy"
  return draft

/-- The records whose mnemonic equals a value, or all of them if it is null. -/
def filter (draft : Draft) (mnemonic : Json) : List DraftRecord :=
  if mnemonic.isNull then draft.records
  else draft.records.filter (·.mnemonic.equals mnemonic)

/-- A draft as it is written. -/
def toJson (draft : Draft) : Except Misuse Json := do
  let records ← draft.records.mapM DraftRecord.toJson
  return .object [("instructions", .array records)]

def text (draft : Draft) : Except Misuse String := draft.toJson.map Json.canonicalText

/-- Whether two drafts are written alike. -/
def equals (draft other : Draft) : Except Misuse Bool := do
  return (← draft.toJson).equals (← other.toJson)

end Draft

end OperandCleanup
