import OperandCleanup.Pass.Basic
import OperandCleanup.Text.Lines

/-!
# Synonyms of operands

Manuals spell the same operand in several ways. Each spelling of a table is replaced by the one
that assemblers know, in every operand of every record.
-/

namespace OperandCleanup.Pass

/-- The spellings that are replaced, each with the one in its place. Sizes that depend on the mode
become the larger one. -/
def synonyms : List (String × String) :=
  [("m80dec", "m80bcd"), ("r8/m8", "r/m8"), ("r16/m16", "r/m16"), ("r32/m32", "r/m32"),
    ("r64/m64", "r/m64"), ("ST", "ST(0)"), ("m14/28byte", "m28byte"), ("m94/108byte", "m108byte")]

/-- The spelling in place of a name, if the name is a synonym. -/
def canonicalName? (name : String) : Option String := synonyms.lookup name

/-- An operand under its canonical name. -/
def canonicalOperand (operand : Operand) : Operand :=
  match canonicalName? operand.name with
  | some name => { operand with name := name }
  | none => operand

def judgeSynonyms (record : Record) : Verdict :=
  if record.operands.any fun operand => (canonicalName? operand.name).isSome then
    .changed { record with operands := record.operands.map canonicalOperand } []
  else .unchanged

def renameSynonyms : Pass where
  name := "RenameOperands"
  description :=
    "Operand synonyms renamed: " ++
      Text.joined ", " (synonyms.map fun (name, canonical) => name ++ "->" ++ canonical) ++ "."
  judge := judgeSynonyms

end OperandCleanup.Pass
