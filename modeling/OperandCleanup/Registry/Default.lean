import OperandCleanup.Pass.FixedForm
import OperandCleanup.Pass.GeneralRegister
import OperandCleanup.Pass.ImplicitOperands
import OperandCleanup.Pass.StringOperands
import OperandCleanup.Pass.Synonyms
import OperandCleanup.Registry

/-!
# The default registry

Every pass of the library under one priority, so that the passes run in the order listed here.
-/

namespace OperandCleanup

/-- The passes of the library, in the order in which they run. -/
def Pass.standard : List Pass :=
  [.cmpsMovs, .insOuts, .lodsScasStos, .vmovq, .generalRegister, .renameSynonyms, .removeStackTop,
    .removeImpliedVector]

namespace Registry

/-- The priority of every pass of the library. -/
def operandPriority : Int := 2000

/-- Entries for passes of one priority, the first of them with the given number. -/
def passEntries : Nat → List Pass → List Entry
  | _, [] => []
  | sequence, pass :: rest =>
    { name := pass.name, priority := operandPriority, transform := pass.transform, sequence } ::
      passEntries (sequence + 1) rest

/-- The registry of the passes of the library. -/
def default : Registry := ⟨passEntries 0 Pass.standard⟩

end Registry

end OperandCleanup
