import OperandCleanup.Pass.Basic

/-!
# Implicit operands

Some operands are implied by the instruction, and assemblers refuse them in the operand list. One
pass removes the top of the register stack from the encodings that imply it, another the implied
vector register from every record.
-/

namespace OperandCleanup.Pass

/-- The top of the register stack. -/
def stackTop : String := "ST(0)"

/-- The implied vector register. -/
def impliedVector : String := "<XMM0>"

/-- The register-to-register encodings that imply the top of the register stack. -/
def stackTopEncodings : List String :=
  ["D8 C0+i", "D8 C8+i", "D8 E0+i", "D8 E8+i", "D8 F0+i", "D8 F8+i", "DB E8+i", "DB F0+i",
    "DE C0+i", "DE C8+i", "DE E0+i", "DE E8+i", "DE F0+i", "DE F8+i", "DF E8+i", "DF F0+i"]

/-- Remove the operands of a name, if there are any. -/
def judgeRemoval (name : String) (record : Record) : Verdict :=
  if record.hasOperand name then .changed (record.removeOperands name) [] else .unchanged

def judgeStackTop (record : Record) : Verdict :=
  if stackTopEncodings.contains record.binaryEncoding then judgeRemoval stackTop record
  else .unchanged

def removeStackTop : Pass where
  name := "RemoveImplicitST0Operand"
  description := "ST(0) removed from x87 register-register forms where it is implicit."
  judge := judgeStackTop

def removeImpliedVector : Pass where
  name := "RemoveImplicitXmm0Operand"
  description := "<XMM0> removed from every record."
  judge := judgeRemoval impliedVector

end OperandCleanup.Pass
