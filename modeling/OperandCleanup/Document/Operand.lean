import OperandCleanup.Validation

/-!
# Operands

An operand of an instruction as vendor assembly writes it: its name, how the instruction uses it,
whether it is part of the encoded instruction, and members that the library carries along without
looking into them.
-/

namespace OperandCleanup

/-- How an instruction accesses an operand. -/
inductive Usage where
  | read
  | write
  | readWrite
deriving DecidableEq, Repr, Inhabited

namespace Usage

def all : List Usage := [.read, .write, .readWrite]

def name : Usage → String
  | .read => "READ"
  | .write => "WRITE"
  | .readWrite => "READ_WRITE"

def ofName? (name : String) : Option Usage := all.find? (·.name == name)

def ofJson : Json → Checked Usage
  | .string value => match ofName? value with
    | some usage => .ok usage
    | none => Checked.issue .unknownUsage
  | _ => Checked.issue .unknownUsage

end Usage

/-- Whether an operand is present in the bytes of the instruction. -/
inductive Encoding where
  | explicit
  | implicit
deriving DecidableEq, Repr, Inhabited

namespace Encoding

def all : List Encoding := [.explicit, .implicit]

def name : Encoding → String
  | .explicit => "EXPLICIT"
  | .implicit => "IMPLICIT"

def ofName? (name : String) : Option Encoding := all.find? (·.name == name)

def ofJson : Json → Checked Encoding
  | .string value => match ofName? value with
    | some encoding => .ok encoding
    | none => Checked.issue .unknownEncoding
  | _ => Checked.issue .unknownEncoding

end Encoding

/-- The members that are written of those carried along: null ones are left out, and within the
others null stands for every number that is not finite. -/
def writtenExtras (extras : Json.Members) : Json.Members :=
  Json.finiteMembers (extras.filter fun (_, value) => !value.isNull)

/-- One operand. -/
structure Operand where
  name : String
  usage : Option Usage := none
  encoding : Option Encoding := none
  /-- The members carried along, in order. -/
  extras : Json.Members := []
deriving DecidableEq, Repr, Inhabited

namespace Operand

/-- The names of the members that have a meaning here. -/
def memberNames : List String := ["name", "usage", "encoding"]

/-- An operand from its members; any other member is carried along. -/
def ofMembers (members : Json.Members) : Checked Operand :=
  (Checked.both (Checked.required members "name" Checked.text) <|
    Checked.both (Checked.withDefault members "usage" none (Checked.nullable Usage.ofJson))
      (Checked.withDefault members "encoding" none (Checked.nullable Encoding.ofJson))).map
  fun (name, usage, encoding) =>
    { name := name, usage := usage, encoding := encoding, extras := members.without memberNames }

/-- An operand from a value, which has to be an object. -/
def ofJson : Json → Checked Operand
  | .object members => ofMembers members
  | _ => Checked.issue .operandExpected

/-- The members of an operand: those with a meaning first, without the absent ones. -/
def toMembers (operand : Operand) : Json.Members :=
  ("name", .string operand.name) ::
    (operand.usage.toList.map fun usage => ("usage", .string usage.name)) ++
    (operand.encoding.toList.map fun encoding => ("encoding", .string encoding.name)) ++
    writtenExtras operand.extras

def toJson (operand : Operand) : Json := .object operand.toMembers

end Operand

end OperandCleanup
