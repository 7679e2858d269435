import OperandCleanup.Pass.Basic

/-!
# The fixed form of the VMOVQ load

The manual lists a register as the second operand of one encoding of VMOVQ, which may also be
memory. A record of exactly that encoding whose operands are not two is corrupt, and the pass ends
at it.
-/

namespace OperandCleanup.Pass

/-- The encoding of the VMOVQ load. -/
def vmovqEncoding : String := "VEX.128.F3.0F.WIG 7E /r"

/-- The second operand of the VMOVQ load. -/
def registerOrMemory : String := "xmm2/m64"

def judgeVmovq (record : Record) : Verdict :=
  if record.binaryEncoding = vmovqEncoding then
    match record.operands with
    | [first, second] =>
      if second.name = registerOrMemory then .unchanged
      else
        .changed { record with operands := [first, { second with name := registerOrMemory }] } []
    | _ => .corrupt "Unexpected number of operands of a VMOVQ instruction: "
  else .unchanged

def vmovq : Pass where
  name := "FixOperandsOfVMovq"
  description := "'" ++ vmovqEncoding ++ "': operand 1 -> " ++ registerOrMemory ++ "."
  judge := judgeVmovq

end OperandCleanup.Pass
