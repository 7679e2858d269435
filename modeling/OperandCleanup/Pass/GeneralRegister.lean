import OperandCleanup.Pass.Basic

/-!
# General-purpose registers

The placeholder for a general-purpose register is replaced by a register of the size that the
mnemonic asks for. A mnemonic that takes registers of 32 and of 64 bits has a record for each: the
record in place becomes the narrow one, and a wide copy with a longer encoding is added.
-/

namespace OperandCleanup.Pass

/-- The placeholder for a general-purpose register. -/
def placeholder : String := "reg"

/-- What the encoding of a 64-bit form begins with. -/
def wideMark : String := "REX.W + "

/-- The mnemonics that get a record for each register size. -/
def splitMnemonics : List String := ["LAR"]

def reg8Mnemonics : List String := ["VPBROADCASTB"]

def reg16Mnemonics : List String := ["VPBROADCASTW"]

def reg32Mnemonics : List String :=
  ["EXTRACTPS", "MOVMSKPD", "MOVMSKPS", "PEXTRB", "PEXTRW", "PMOVMSKB", "VMOVMSKPD", "VMOVMSKPS",
    "VPEXTRB", "VPEXTRW", "VPMOVMSKB"]

/-- The register of a mnemonic that takes one size only. -/
def singleRegister? (mnemonic : String) : Option String :=
  if reg8Mnemonics.contains mnemonic then some "r8"
  else if reg16Mnemonics.contains mnemonic then some "r16"
  else if reg32Mnemonics.contains mnemonic then some "r32"
  else none

/-- Every placeholder replaced by a register. -/
def withRegister (operands : List Operand) (register : String) : List Operand :=
  operands.map fun operand =>
    if operand.name = placeholder then { operand with name := register } else operand

def judgeGeneralRegister (record : Record) : Verdict :=
  if record.hasOperand placeholder then
    if splitMnemonics.contains record.mnemonic then
      .changed { record with operands := withRegister record.operands "r32" }
        [{ record with
          binaryEncoding := wideMark ++ record.binaryEncoding
          operands := withRegister record.operands "r64" }]
    else
      match singleRegister? record.mnemonic with
      | none => .malformed ("Unexpected instruction mnemonic: " ++ record.mnemonic)
      | some register =>
        .changed { record with operands := withRegister record.operands register } []
  else .unchanged

def generalRegister : Pass where
  name := "FixRegOperands"
  description :=
    "reg -> r8/r16/r32 by mnemonic; LAR is split into an r32 record and an appended REX.W r64 " ++
      "record."
  judge := judgeGeneralRegister

end OperandCleanup.Pass
