import OperandCleanup.Pass.Basic

/-!
# Operands of the string instructions

Vendor manuals give the string instructions generic memory operands. Assemblers expect operands of
a stated size indexed by the source and the destination register, and the accumulator or the
register of the device's address that the manuals leave out. Three passes write those operands.
-/

namespace OperandCleanup

/-- The size of a memory operand. -/
inductive PointerSize where
  | byte
  | word
  | dword
  | qword
deriving DecidableEq, Repr, Inhabited

/-- The operand text of memory of a given size at a given index. -/
def indexedOperand (size index : String) : String := size ++ " PTR " ++ index

/-- The index of the source operand. -/
def sourceIndex : String := "[RSI]"

/-- The index of the destination operand. -/
def destinationIndex : String := "[RDI]"

namespace PointerSize

def all : List PointerSize := [.byte, .word, .dword, .qword]

/-- The word that states the size in assembly. -/
def keyword : PointerSize → String
  | .byte => "BYTE"
  | .word => "WORD"
  | .dword => "DWORD"
  | .qword => "QWORD"

/-- The generic memory operand of the size. -/
def memory : PointerSize → String
  | .byte => "m8"
  | .word => "m16"
  | .dword => "m32"
  | .qword => "m64"

/-- The accumulator register of the size. -/
def accumulator : PointerSize → String
  | .byte => "AL"
  | .word => "AX"
  | .dword => "EAX"
  | .qword => "RAX"

/-- The memory operand of the size indexed by the source register. -/
def source (size : PointerSize) : String := indexedOperand size.keyword sourceIndex

/-- The memory operand of the size indexed by the destination register. -/
def destination (size : PointerSize) : String := indexedOperand size.keyword destinationIndex

/-- The size that a generic memory operand names. -/
def ofMemory? (name : String) : Option PointerSize := all.find? (·.memory == name)

/-- The size that an operand names: a generic memory operand or an indexed one. -/
def ofOperand? (name : String) : Option PointerSize :=
  all.find? fun size => size.memory == name || size.source == name || size.destination == name

end PointerSize

/-- Give an operand a name and a usage; the rest of it stays. -/
def Operand.revised (operand : Operand) (name : String) (usage : Usage) : Operand :=
  { operand with name := name, usage := some usage }

namespace Pass

/-! ## CMPS and MOVS -/

/-- The operands of CMPS and MOVS: MOVS writes its destination first, CMPS reads its source
first. -/
def judgeCmpsMovs (record : Record) : Verdict :=
  if record.mnemonic = "MOVS" ∨ record.mnemonic = "CMPS" then
    match record.operands with
    | [first, second] =>
      match PointerSize.ofOperand? first.name with
      | none =>
        .malformed ("Unexpected operand of a CMPS/MOVS instruction: " ++ first.name)
      | some size =>
        let operands :=
          if record.mnemonic = "MOVS" then
            [first.revised size.destination .write, second.revised size.source .read]
          else
            [first.revised size.source .read, second.revised size.destination .read]
        .changed { record with operands := operands } []
    | _ => .malformed "Unexpected number of operands of a CMPS/MOVS instruction."
  else .unchanged

def cmpsMovs : Pass where
  name := "FixOperandsOfCmpsAndMovs"
  description :=
    "CMPS/MOVS: memory operands -> '<size> PTR [RDI]' (destination) and '<size> PTR [RSI]' " ++
      "(source); MOVS writes operand 0, CMPS only reads."
  judge := judgeCmpsMovs

/-! ## INS and OUTS -/

/-- The register that INS and OUTS take the address of a device from. -/
def addressRegister : String := "DX"

/-- The operands of INS and OUTS: memory of the size that the first operand names, or else the
second, and the address register. -/
def judgeInsOuts (record : Record) : Verdict :=
  if record.mnemonic = "INS" ∨ record.mnemonic = "OUTS" then
    match record.operands with
    | [first, second] =>
      match (PointerSize.ofOperand? first.name).or (PointerSize.ofOperand? second.name) with
      | none =>
        .malformed ("Unexpected operands of an INS/OUTS instruction: " ++ first.name ++ ", " ++
          second.name)
      | some size =>
        let operands :=
          if record.mnemonic = "INS" then
            [first.revised size.destination .write, second.revised addressRegister .read]
          else
            [first.revised addressRegister .read, second.revised size.source .read]
        .changed { record with operands := operands } []
    | _ => .malformed "Unexpected number of operands of an INS/OUTS instruction."
  else .unchanged

def insOuts : Pass where
  name := "FixOperandsOfInsAndOuts"
  description :=
    "INS/OUTS: operands -> '<size> PTR [RDI]', DX (INS) or DX, '<size> PTR [RSI]' (OUTS)."
  judge := judgeInsOuts

/-! ## LODS, SCAS and STOS -/

/-- The names that take the place of a single memory operand of a size. -/
def accumulatorForms (size : PointerSize) : String → Option (List String)
  | "LODS" => some [size.accumulator, size.source]
  | "SCAS" => some [size.accumulator, size.destination]
  | "STOS" => some [size.destination, size.accumulator]
  | _ => none

/-- An operand that the instruction reads and does not encode. -/
def implicitRead (name : String) : Operand :=
  { name := name, usage := some .read, encoding := some .implicit }

/-- The operands of LODS, SCAS and STOS. Only a record with a single operand is looked at; one
without operands has its size in the mnemonic. -/
def judgeLodsScasStos (record : Record) : Verdict :=
  if record.mnemonic = "LODS" ∨ record.mnemonic = "SCAS" ∨ record.mnemonic = "STOS" then
    match record.operands with
    | [operand] =>
      match PointerSize.ofMemory? operand.name with
      | none =>
        .malformed ("Unexpected operand of a LODS/SCAS/STOS instruction: " ++ operand.name)
      | some size =>
        let names := (accumulatorForms size record.mnemonic).getD []
        .changed { record with operands := names.map implicitRead } []
    | _ => .unchanged
  else .unchanged

def lodsScasStos : Pass where
  name := "FixOperandsOfLodsScasAndStos"
  description :=
    "LODS/SCAS/STOS: single memory operand -> implicit accumulator plus '<size> PTR [RSI]' " ++
      "(LODS) or '<size> PTR [RDI]' (SCAS, STOS)."
  judge := judgeLodsScasStos

end Pass

end OperandCleanup
