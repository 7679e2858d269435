import OperandCleanup.Document.Operand

/-!
# Instruction records

A record describes one form of an instruction: its mnemonic, its binary encoding, its operands in
order, and members that are carried along. Operations on a record keep those members.
-/

namespace OperandCleanup

/-- One instruction record. -/
structure Record where
  mnemonic : String
  binaryEncoding : String := ""
  operands : List Operand := []
  /-- The members carried along, in order. -/
  extras : Json.Members := []
deriving DecidableEq, Repr, Inhabited

namespace Record

/-- The names of the members that have a meaning here. -/
def memberNames : List String := ["mnemonic", "binary_encoding", "vendor_syntax"]

/-- A record from its members; any other member is carried along. -/
def ofMembers (members : Json.Members) : Checked Record :=
  (Checked.both (Checked.required members "mnemonic" Checked.text) <|
    Checked.both (Checked.withDefault members "binary_encoding" "" Checked.text)
      (Checked.withDefault members "vendor_syntax" [] (Checked.list Operand.ofJson))).map
  fun (mnemonic, binaryEncoding, operands) =>
    { mnemonic := mnemonic
      binaryEncoding := binaryEncoding
      operands := operands
      extras := members.without memberNames }

/-- The members of a record: those with a meaning first. -/
def toMembers (record : Record) : Json.Members :=
  ("mnemonic", .string record.mnemonic) :: ("binary_encoding", .string record.binaryEncoding) ::
    ("vendor_syntax", .array (record.operands.map Operand.toJson)) :: writtenExtras record.extras

def toJson (record : Record) : Json := .object record.toMembers

/-- The names of the operands, in order. -/
def operandNames (record : Record) : List String := record.operands.map (·.name)

/-- Whether some operand has the name. -/
def hasOperand (record : Record) (name : String) : Bool :=
  record.operands.any (·.name == name)

def addOperand (record : Record) (operand : Operand) : Record :=
  { record with operands := record.operands ++ [operand] }

/-- Remove every operand of a name; the others keep their order. -/
def removeOperands (record : Record) (name : String) : Record :=
  { record with operands := record.operands.filter (·.name != name) }

/-- The number of operands of a name. -/
def countOperands (record : Record) (name : String) : Nat :=
  record.operands.countP (·.name == name)

/-- Give the operand at a position another name. -/
def renameOperand (record : Record) (position : Nat) (name : String) : Record :=
  { record with operands := record.operands.modify position ({ · with name := name }) }

end Record

end OperandCleanup
