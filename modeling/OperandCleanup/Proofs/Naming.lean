import OperandCleanup.Pass.FixedForm
import OperandCleanup.Pass.GeneralRegister
import OperandCleanup.Pass.ImplicitOperands
import OperandCleanup.Pass.StringOperands
import OperandCleanup.Pass.Synonyms

/-!
# The names that passes give to operands

Outside the string instructions and the fixed form, an operand's name changes in two ways only: the
placeholder becomes a register, and a synonym becomes its canonical name. The settled name is what
both make of a name. It is settled for good, it states the same memory size as the name it comes
from, and the names that the other passes write are settled already.

The facts about all names come down to the finite tables: a name is an entry of a table, or the
table leaves it alone.
-/

namespace OperandCleanup

/-- An operand under the name that a function makes of its own. -/
def Operand.renamed (operand : Operand) (rename : String → String) : Operand :=
  { operand with name := rename operand.name }

namespace Pass

/-- The register that the placeholder stands for in the record of a mnemonic. -/
def registerFor? (mnemonic : String) : Option String :=
  if splitMnemonics.contains mnemonic then some "r32" else singleRegister? mnemonic

/-- A name with the placeholder replaced as a mnemonic asks. -/
def sizedName (mnemonic name : String) : String :=
  if name = placeholder then (registerFor? mnemonic).getD name else name

/-- The canonical spelling of a name. -/
def canonicalName (name : String) : String := (canonicalName? name).getD name

/-- The name that an operand of a record of a mnemonic settles on. -/
def settledName (mnemonic name : String) : String := canonicalName (sizedName mnemonic name)

/-- Whether operands of a name stay in records of an encoding. -/
def remains (encoding name : String) : Bool :=
  name != impliedVector && !(stackTopEncodings.contains encoding && name == stackTop)

/-! ## Canonical names -/

/-- A name with another spelling stands beside it in the table of synonyms. -/
theorem mem_synonyms_of_canonicalName? {name canonical : String}
    (h : canonicalName? name = some canonical) : (name, canonical) ∈ synonyms := by
  obtain ⟨before, after, hsynonyms, -⟩ := List.lookup_eq_some_iff.mp h
  rw [hsynonyms]
  simp

/-- A canonical name is the name itself or stands beside it in the table of synonyms. -/
theorem canonicalName_cases (name : String) :
    canonicalName name = name ∨ (name, canonicalName name) ∈ synonyms := by
  unfold canonicalName
  cases h : canonicalName? name with
  | none => exact Or.inl rfl
  | some canonical => exact Or.inr (mem_synonyms_of_canonicalName? h)

/-- A fact that every synonym shares with its canonical name holds of all names. -/
theorem canonicalName_invariant {α : Type} (fact : String → α)
    (h : ∀ entry ∈ synonyms, fact entry.2 = fact entry.1) (name : String) :
    fact (canonicalName name) = fact name := by
  rcases canonicalName_cases name with hname | hentry
  · rw [hname]
  · exact h _ hentry

/-- No canonical name is a synonym. -/
theorem canonicalName?_canonicalName (name : String) :
    canonicalName? (canonicalName name) = none := by
  have htable : ∀ entry ∈ synonyms, canonicalName? entry.2 = none := by decide
  cases h : canonicalName? name with
  | none => rwa [canonicalName, h]
  | some canonical =>
    rw [canonicalName, h]
    exact htable _ (mem_synonyms_of_canonicalName? h)

/-- A canonical name is its own. -/
theorem canonicalName_idem (name : String) :
    canonicalName (canonicalName name) = canonicalName name := by
  rw [canonicalName.eq_def (canonicalName name), canonicalName?_canonicalName]
  rfl

/-! ## Registers in the place of the placeholder -/

/-- The register that a mnemonic asks for is one of three. -/
theorem mem_of_registerFor? {mnemonic register : String}
    (h : registerFor? mnemonic = some register) : register ∈ ["r8", "r16", "r32"] := by
  unfold registerFor? singleRegister? at h
  split at h
  · simp_all
  · split at h
    · simp_all
    · split at h
      · simp_all
      · split at h
        · simp_all
        · simp at h

/-- A fact that the registers share with the placeholder holds of all names. -/
theorem sizedName_invariant {α : Type} (fact : String → α)
    (h : ∀ register ∈ ["r8", "r16", "r32"], fact register = fact placeholder)
    (mnemonic name : String) : fact (sizedName mnemonic name) = fact name := by
  unfold sizedName
  split
  · rename_i hname
    subst hname
    cases hregister : registerFor? mnemonic with
    | none => rfl
    | some register => exact h register (mem_of_registerFor? hregister)
  · rfl

/-- The placeholder stays exactly where the mnemonic asks for no register. -/
theorem sizedName_eq_placeholder_iff (mnemonic name : String) :
    sizedName mnemonic name = placeholder ↔ name = placeholder ∧ registerFor? mnemonic = none := by
  unfold sizedName
  split
  · rename_i hname
    cases hregister : registerFor? mnemonic with
    | none => simp [hname]
    | some register =>
      have htable : ∀ register ∈ ["r8", "r16", "r32"], register ≠ placeholder := by decide
      simp [htable register (mem_of_registerFor? hregister)]
  · rename_i hname
    simp [hname]

/-! ## Settled names -/

/-- A fact that both tables keep holds of a settled name as of the name it comes from. -/
theorem settledName_invariant {α : Type} (fact : String → α)
    (hsynonyms : ∀ entry ∈ synonyms, fact entry.2 = fact entry.1)
    (hregisters : ∀ register ∈ ["r8", "r16", "r32"], fact register = fact placeholder)
    (mnemonic name : String) : fact (settledName mnemonic name) = fact name := by
  rw [settledName, canonicalName_invariant fact hsynonyms, sizedName_invariant fact hregisters]

/-- A settled name is no synonym. -/
theorem canonicalName?_settledName (mnemonic name : String) :
    canonicalName? (settledName mnemonic name) = none :=
  canonicalName?_canonicalName _

/-- The placeholder settles exactly where the mnemonic asks for no register. -/
theorem settledName_eq_placeholder_iff (mnemonic name : String) :
    settledName mnemonic name = placeholder ↔
      name = placeholder ∧ registerFor? mnemonic = none := by
  have hcanonical := canonicalName_invariant (fun name => decide (name = placeholder)) (by decide)
    (sizedName mnemonic name)
  rw [← sizedName_eq_placeholder_iff, settledName]
  simpa using hcanonical

/-- A settled name settles on itself. -/
theorem settledName_idem (mnemonic name : String) :
    settledName mnemonic (settledName mnemonic name) = settledName mnemonic name := by
  have hsized : sizedName mnemonic (settledName mnemonic name) = settledName mnemonic name := by
    by_cases h : settledName mnemonic name = placeholder
    · have hregister := ((settledName_eq_placeholder_iff mnemonic name).mp h).2
      simp [sizedName, hregister]
    · rw [sizedName, if_neg h]
  rw [settledName.eq_def mnemonic (settledName mnemonic name), hsized, settledName,
    canonicalName_idem]

/-- A name that is neither the placeholder nor a synonym is settled. -/
theorem settledName_eq_self {name : String} (hplaceholder : name ≠ placeholder)
    (hcanonical : canonicalName? name = none) (mnemonic : String) :
    settledName mnemonic name = name := by
  simp [settledName, sizedName, hplaceholder, canonicalName, hcanonical]

/-- Settling neither makes nor unmakes the implied vector register. -/
theorem settledName_eq_impliedVector_iff (mnemonic name : String) :
    settledName mnemonic name = impliedVector ↔ name = impliedVector := by
  have h := settledName_invariant (fun name => decide (name = impliedVector)) (by decide)
    (by decide) mnemonic name
  simpa using h

/-- Two names settle on the top of the register stack. -/
theorem settledName_eq_stackTop_iff (mnemonic name : String) :
    settledName mnemonic name = stackTop ↔ name = "ST" ∨ name = stackTop := by
  have h := settledName_invariant (fun name => decide (name = "ST" ∨ name = stackTop)) (by decide)
    (by decide) mnemonic name
  have hsynonym : settledName mnemonic name ≠ "ST" := by
    intro heq
    have hnone := canonicalName?_settledName mnemonic name
    rw [heq] at hnone
    exact absurd hnone (by decide)
  simpa only [hsynonym, false_or] using decide_eq_decide.mp h

/-! ## Names that endure -/

/-- Whether no later pass renames or removes the operands of a name, whatever their record. -/
def Enduring (name : String) : Prop :=
  name ≠ placeholder ∧ canonicalName? name = none ∧ name ≠ impliedVector ∧ name ≠ stackTop

instance : DecidablePred Enduring := fun name =>
  inferInstanceAs (Decidable (name ≠ placeholder ∧ canonicalName? name = none ∧
    name ≠ impliedVector ∧ name ≠ stackTop))

/-- A name that endures is settled. -/
theorem Enduring.settledName_eq {name : String} (h : Enduring name) (mnemonic : String) :
    settledName mnemonic name = name :=
  settledName_eq_self h.1 h.2.1 mnemonic

/-- Operands of a name that endures remain. -/
theorem Enduring.remains_eq {name : String} (h : Enduring name) (encoding : String) :
    remains encoding name = true := by
  simp [remains, h.2.2.1, h.2.2.2]

/-! ## Unobtrusive renamings -/

/-- Whether a renaming leaves the names that endure, and every other name's memory size. -/
structure Unobtrusive (rename : String → String) : Prop where
  enduring : ∀ name, Enduring name → rename name = name
  ofOperand? : ∀ name, PointerSize.ofOperand? (rename name) = PointerSize.ofOperand? name
  ofMemory? : ∀ name, PointerSize.ofMemory? (rename name) = PointerSize.ofMemory? name

/-- Writing registers in the place of the placeholder is unobtrusive. -/
theorem unobtrusive_sizedName (mnemonic : String) : Unobtrusive (sizedName mnemonic) where
  enduring _ h := if_neg h.1
  ofOperand? := sizedName_invariant PointerSize.ofOperand? (by decide) mnemonic
  ofMemory? := sizedName_invariant PointerSize.ofMemory? (by decide) mnemonic

/-- Writing canonical names is unobtrusive. -/
theorem unobtrusive_canonicalName : Unobtrusive canonicalName where
  enduring _ h := by rw [canonicalName, h.2.1, Option.getD_none]
  ofOperand? := canonicalName_invariant PointerSize.ofOperand? (by decide)
  ofMemory? := canonicalName_invariant PointerSize.ofMemory? (by decide)

/-- One unobtrusive renaming after another is unobtrusive. -/
theorem Unobtrusive.comp {rename before : String → String} (h : Unobtrusive rename)
    (hbefore : Unobtrusive before) : Unobtrusive (rename ∘ before) where
  enduring name hname := by
    rw [Function.comp_apply, hbefore.enduring name hname, h.enduring name hname]
  ofOperand? name := (h.ofOperand? _).trans (hbefore.ofOperand? name)
  ofMemory? name := (h.ofMemory? _).trans (hbefore.ofMemory? name)

/-- Settling names is unobtrusive. -/
theorem unobtrusive_settledName (mnemonic : String) : Unobtrusive (settledName mnemonic) :=
  unobtrusive_canonicalName.comp (unobtrusive_sizedName mnemonic)

/-! ## Names that passes write -/

/-- The second operand of the fixed form endures. -/
theorem enduring_registerOrMemory : Enduring registerOrMemory := by decide

/-- The register of the device's address endures. -/
theorem enduring_addressRegister : Enduring addressRegister := by decide

end Pass

namespace PointerSize

/-- Memory indexed by the source register endures. -/
theorem enduring_source (size : PointerSize) : Pass.Enduring size.source := by
  cases size <;> decide

/-- Memory indexed by the destination register endures. -/
theorem enduring_destination (size : PointerSize) : Pass.Enduring size.destination := by
  cases size <;> decide

/-- The accumulator endures. -/
theorem enduring_accumulator (size : PointerSize) : Pass.Enduring size.accumulator := by
  cases size <;> decide

/-- Memory indexed by the source register states its size. -/
@[simp] theorem ofOperand?_source (size : PointerSize) : ofOperand? size.source = some size := by
  cases size <;> decide

/-- Memory indexed by the destination register states its size. -/
@[simp] theorem ofOperand?_destination (size : PointerSize) :
    ofOperand? size.destination = some size := by
  cases size <;> decide

/-- The register of the device's address states no size. -/
@[simp] theorem ofOperand?_addressRegister : ofOperand? Pass.addressRegister = none := by decide

/-- The second operand of the fixed form states no size. -/
@[simp] theorem ofOperand?_registerOrMemory : ofOperand? Pass.registerOrMemory = none := by decide

/-- The second operand of the fixed form is no generic memory. -/
@[simp] theorem ofMemory?_registerOrMemory : ofMemory? Pass.registerOrMemory = none := by decide

end PointerSize

end OperandCleanup
