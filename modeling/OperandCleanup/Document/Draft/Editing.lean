import OperandCleanup.Document.Draft

/-!
# Editing drafts

The operations on a record of a draft. Each leaves the record as it is where it fails.
-/

namespace OperandCleanup.DraftRecord

/-- The members of a record that hold what is known about it and cannot be assigned. -/
def fixedNames : List String := ["model_extra", "model_fields_set"]

/-- The names of the operations that every record has. A value assigned to one takes the
operation's place and is not written. -/
def operationNames : List String :=
  ["add_operand", "construct", "copy", "copy_record", "dict", "from_orm", "json",
    "model_computed_fields", "model_config", "model_construct", "model_copy", "model_dump",
    "model_dump_json", "model_fields", "model_json_schema", "model_parametrized_name",
    "model_post_init", "model_rebuild", "model_validate", "model_validate_json",
    "model_validate_strings", "mro", "operand_names", "parse_file", "parse_obj", "parse_raw",
    "register", "remove_operands", "schema", "schema_json", "set_operands", "to_dict",
    "update_forward_refs", "validate"]

/-- Whether a value assigned to a name is kept aside: the names of operations, and those that
begin with an underscore. -/
def isAside (name : String) : Bool :=
  operationNames.contains name || name.toList.head? == some '_'

/-- Assign a member without checking the value. -/
def assign (record : DraftRecord) (name : String) (value : Json) : Except Misuse DraftRecord :=
  if name = "mnemonic" then .ok { record with mnemonic := value }
  else if name = "binary_encoding" then .ok { record with binaryEncoding := value }
  else if name = "vendor_syntax" then .ok { record with operands := .ofJson value }
  else if fixedNames.contains name then .error (.fixedMember name)
  else if isAside name then .ok { record with aside := Json.Members.set record.aside name value }
  else .ok { record with extras := Json.Members.set record.extras name value }

/-- Assign the member that a value names. -/
def assignMember (record : DraftRecord) (name value : Json) : Except Misuse DraftRecord :=
  match name with
  | .string name => record.assign name value
  | name => .error (.asMemberName name.typeName)

/-- A copy of a record with some members assigned in order. -/
def copied (record : DraftRecord) (updates : Json.Members) : Except Misuse DraftRecord := do
  record.operation "copy_record"
  if (updates.get? "self").isSome then throw .updatesRecord
  record.operation "model_copy"
  updates.foldlM (fun copy (name, value) => copy.assign name value) record

/-- The names of the operands, in order. -/
def operandNames (record : DraftRecord) : Except Misuse (List Json) := do
  record.operation "operand_names"
  let items ← record.operands.items
  items.mapM DraftOperand.name

/-- Add an operand at the end. -/
def addOperand (record : DraftRecord) (operand : Operand) : Except Misuse DraftRecord :=
  match record.operands with
  | .list items => .ok { record with operands := .list (items ++ [.ofOperand operand]) }
  | .other value => .error (.forMember value.typeName "append")

/-- Put other operands in place of a record's own. -/
def setOperands (record : DraftRecord) (operands : List Operand) : Except Misuse DraftRecord := do
  record.operation "set_operands"
  return { record with operands := .list (operands.map .ofOperand) }

/-- Remove every operand whose name equals a value; the others keep their order. The number of
operands removed comes first. -/
def removeOperands (record : DraftRecord) (name : Json) : Except Misuse (Nat × DraftRecord) := do
  record.operation "remove_operands"
  let items ← record.operands.items
  let names ← items.mapM DraftOperand.name
  let kept := ((names.zip items).filter fun (other, _) => !other.equals name).map (·.2)
  let removed := items.length - kept.length
  return (removed, if removed = 0 then record else { record with operands := .list kept })

/-- Give the operand at an index another name. -/
def renameOperand (record : DraftRecord) (index name : Json) : Except Misuse DraftRecord := do
  let item ← record.operands.part index
  let renamed ← item.renamed name
  match record.operands with
  | .list items =>
    let position ← index.position items.length
    return { record with operands := .list (items.set position renamed) }
  | .other _ => return record

end OperandCleanup.DraftRecord
