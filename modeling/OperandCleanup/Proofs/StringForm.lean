import OperandCleanup.Proofs.Settled

/-!
# The forms of the string instructions

Seven string instructions have a form that the assembler expects: a name and a usage for each of
two operands, fixed by the instruction and a memory size. Four of them come with two operands, and
keep whatever else those carry; the other three come with one, which gives way to two new operands.
Each of the three string passes is the same function of the instruction: it puts the operands into
the form of the size that they state, and leaves them where their number or their names do not state
one. A form states the size that it was made for, so putting operands into form twice is putting
them into form once.
-/

namespace OperandCleanup

/-- A string instruction that names its memory operands. -/
inductive StringInstruction where
  | cmps
  | movs
  | ins
  | outs
  | lods
  | scas
  | stos
deriving DecidableEq, Repr, Inhabited

namespace StringInstruction

def all : List StringInstruction := [.cmps, .movs, .ins, .outs, .lods, .scas, .stos]

def mnemonic : StringInstruction → String
  | .cmps => "CMPS"
  | .movs => "MOVS"
  | .ins => "INS"
  | .outs => "OUTS"
  | .lods => "LODS"
  | .scas => "SCAS"
  | .stos => "STOS"

/-- The instruction of a mnemonic. -/
def ofMnemonic? (mnemonic : String) : Option StringInstruction :=
  all.find? (·.mnemonic == mnemonic)

/-- The pass that deals with an instruction. -/
def pass : StringInstruction → Pass
  | .cmps => Pass.cmpsMovs
  | .movs => Pass.cmpsMovs
  | .ins => Pass.insOuts
  | .outs => Pass.insOuts
  | .lods => Pass.lodsScasStos
  | .scas => Pass.lodsScasStos
  | .stos => Pass.lodsScasStos

/-- Whether an instruction comes with a single operand, which two new ones replace. -/
def isExpanded : StringInstruction → Bool
  | .lods => true
  | .scas => true
  | .stos => true
  | _ => false

/-- The number of operands that an instruction comes with. -/
def operandCount (instruction : StringInstruction) : Nat := if instruction.isExpanded then 1 else 2

/-- The size that the names of the operands state. -/
def statedSize? (instruction : StringInstruction) (names : List String) : Option PointerSize :=
  match instruction with
  | .cmps => names[0]?.bind PointerSize.ofOperand?
  | .movs => names[0]?.bind PointerSize.ofOperand?
  | .ins => (names[0]?.bind PointerSize.ofOperand?).or (names[1]?.bind PointerSize.ofOperand?)
  | .outs => (names[0]?.bind PointerSize.ofOperand?).or (names[1]?.bind PointerSize.ofOperand?)
  | .lods => names[0]?.bind PointerSize.ofMemory?
  | .scas => names[0]?.bind PointerSize.ofMemory?
  | .stos => names[0]?.bind PointerSize.ofMemory?

/-- The names and usages that the operands of an instruction are to have. -/
def form (instruction : StringInstruction) (size : PointerSize) : List (String × Usage) :=
  match instruction with
  | .cmps => [(size.source, .read), (size.destination, .read)]
  | .movs => [(size.destination, .write), (size.source, .read)]
  | .ins => [(size.destination, .write), (Pass.addressRegister, .read)]
  | .outs => [(Pass.addressRegister, .read), (size.source, .read)]
  | .lods => [(size.accumulator, .read), (size.source, .read)]
  | .scas => [(size.accumulator, .read), (size.destination, .read)]
  | .stos => [(size.destination, .read), (size.accumulator, .read)]

/-- Whether operands are in the form of a size. -/
def InForm (instruction : StringInstruction) (size : PointerSize) (operands : List Operand) :
    Prop :=
  (operands.map fun operand => (operand.name, operand.usage)) =
      (instruction.form size).map (fun (name, usage) => (name, some usage)) ∧
    (instruction.isExpanded = true → ∀ operand ∈ operands, operand.encoding = some .implicit)

/-- Operands put into the form of a size. -/
def written (instruction : StringInstruction) (size : PointerSize) (operands : List Operand) :
    List Operand :=
  if instruction.isExpanded then
    (instruction.form size).map fun (name, _) => Pass.implicitRead name
  else
    List.zipWith (fun operand (name, usage) => operand.revised name usage) operands
      (instruction.form size)

/-- Operands put into the form of the size that they state. -/
def formed? (instruction : StringInstruction) (operands : List Operand) : Option (List Operand) :=
  if operands.length = instruction.operandCount then
    (instruction.statedSize? (operands.map (·.name))).map (instruction.written · operands)
  else none

/-- An instruction is found by its mnemonic. -/
theorem ofMnemonic?_mnemonic (instruction : StringInstruction) :
    ofMnemonic? instruction.mnemonic = some instruction := by
  cases instruction <;> decide

/-- Different instructions have different mnemonics. -/
theorem mnemonic_injective {instruction other : StringInstruction}
    (h : instruction.mnemonic = other.mnemonic) : instruction = other := by
  have hfound := ofMnemonic?_mnemonic instruction
  rw [h, ofMnemonic?_mnemonic] at hfound
  exact (Option.some.inj hfound).symm

/-- What is found has the mnemonic. -/
theorem mnemonic_of_ofMnemonic? {mnemonic : String} {instruction : StringInstruction}
    (h : ofMnemonic? mnemonic = some instruction) : mnemonic = instruction.mnemonic := by
  have hfound := List.find?_some h
  exact (beq_iff_eq.mp hfound).symm

end StringInstruction

namespace Record

/-- A record whose operands are in form where it is one of a string instruction and they state a
size. -/
def formed (record : Record) : Record :=
  match StringInstruction.ofMnemonic? record.mnemonic with
  | none => record
  | some instruction =>
    { record with operands := (instruction.formed? record.operands).getD record.operands }

end Record

namespace StringInstruction

/-! ## The string passes -/

/-- What the pass of an instruction decides about its records. -/
theorem judge_pass_cases (instruction : StringInstruction) {record : Record}
    (h : record.mnemonic = instruction.mnemonic) :
    (∃ operands, instruction.formed? record.operands = some operands ∧
        instruction.pass.judge record = .changed { record with operands := operands } []) ∨
      instruction.formed? record.operands = none ∧
        (instruction.isExpanded = true ∧ record.operands.length ≠ 1 ∧
            instruction.pass.judge record = .unchanged ∨
          (instruction.isExpanded = false ∨ record.operands.length = 1) ∧
            ∃ message, instruction.pass.judge record = .malformed message) := by
  obtain ⟨mnemonic, encoding, operands, extras⟩ := record
  obtain rfl : mnemonic = instruction.mnemonic := h
  -- One case for each pass, and in it one for each number of operands that the pass tells apart.
  cases instruction with
  | cmps | movs =>
    rcases operands with _ | ⟨first, _ | ⟨second, _ | ⟨third, rest⟩⟩⟩
    · simp [formed?, operandCount, isExpanded, pass, Pass.cmpsMovs, Pass.judgeCmpsMovs, mnemonic]
    · simp [formed?, operandCount, isExpanded, pass, Pass.cmpsMovs, Pass.judgeCmpsMovs, mnemonic]
    · cases hsize : PointerSize.ofOperand? first.name <;>
        simp [formed?, operandCount, isExpanded, pass, Pass.cmpsMovs, Pass.judgeCmpsMovs, mnemonic,
          statedSize?, hsize, written, form]
    · simp [formed?, operandCount, isExpanded, pass, Pass.cmpsMovs, Pass.judgeCmpsMovs, mnemonic]
  | ins | outs =>
    rcases operands with _ | ⟨first, _ | ⟨second, _ | ⟨third, rest⟩⟩⟩
    · simp [formed?, operandCount, isExpanded, pass, Pass.insOuts, Pass.judgeInsOuts, mnemonic]
    · simp [formed?, operandCount, isExpanded, pass, Pass.insOuts, Pass.judgeInsOuts, mnemonic]
    · cases hsize : (PointerSize.ofOperand? first.name).or (PointerSize.ofOperand? second.name) <;>
        simp [formed?, operandCount, isExpanded, pass, Pass.insOuts, Pass.judgeInsOuts, mnemonic,
          statedSize?, hsize, written, form]
    · simp [formed?, operandCount, isExpanded, pass, Pass.insOuts, Pass.judgeInsOuts, mnemonic]
  | lods | scas | stos =>
    rcases operands with _ | ⟨operand, _ | ⟨second, rest⟩⟩
    · simp [formed?, operandCount, isExpanded, pass, Pass.lodsScasStos, Pass.judgeLodsScasStos]
    · cases hsize : PointerSize.ofMemory? operand.name <;>
        simp [formed?, operandCount, isExpanded, pass, Pass.lodsScasStos, Pass.judgeLodsScasStos,
          mnemonic, statedSize?, hsize, written, form, Pass.accumulatorForms]
    · simp [formed?, operandCount, isExpanded, pass, Pass.lodsScasStos, Pass.judgeLodsScasStos]

/-- The pass of an instruction puts the operands of its records into form. -/
theorem revise_pass (instruction : StringInstruction) {record : Record}
    (h : record.mnemonic = instruction.mnemonic) :
    instruction.pass.revise record =
      { record with operands := (instruction.formed? record.operands).getD record.operands } := by
  unfold Pass.revise
  rcases instruction.judge_pass_cases h with
    ⟨operands, hformed, hjudge⟩ | ⟨hformed, ⟨-, -, hjudge⟩ | ⟨-, message, hjudge⟩⟩ <;>
    rw [hformed, hjudge] <;> rfl

/-- The pass of an instruction accepts what it puts into form, and the records of an expanded
instruction that do not have the single operand. -/
theorem accepts_pass_iff (instruction : StringInstruction) {record : Record}
    (h : record.mnemonic = instruction.mnemonic) :
    instruction.pass.accepts record = true ↔
      (instruction.formed? record.operands).isSome = true ∨
        instruction.isExpanded = true ∧ record.operands.length ≠ 1 := by
  unfold Pass.accepts
  rcases instruction.judge_pass_cases h with
    ⟨operands, hformed, hjudge⟩ | ⟨hformed, ⟨hexpanded, hlength, hjudge⟩ | ⟨hsize, message, hjudge⟩⟩
  · simp [hformed, hjudge, Verdict.accepts]
  · simp [hformed, hjudge, hexpanded, hlength, Verdict.accepts]
  · rw [hformed, hjudge]
    rcases hsize with hexpanded | hlength
    · simp [hexpanded, Verdict.accepts]
    · simp [hlength, Verdict.accepts]

/-- The pass of an instruction leaves the records of the instructions of other passes, and those of
no string instruction. -/
theorem judge_pass_of_ne (instruction : StringInstruction) {record : Record}
    (h : ∀ other, record.mnemonic = mnemonic other → other.pass.name ≠ instruction.pass.name) :
    instruction.pass.judge record = .unchanged := by
  cases instruction with
  | cmps | movs =>
    have hcmps : record.mnemonic ≠ "CMPS" := fun heq => h .cmps heq rfl
    have hmovs : record.mnemonic ≠ "MOVS" := fun heq => h .movs heq rfl
    simp [pass, Pass.cmpsMovs, Pass.judgeCmpsMovs, hcmps, hmovs]
  | ins | outs =>
    have hins : record.mnemonic ≠ "INS" := fun heq => h .ins heq rfl
    have houts : record.mnemonic ≠ "OUTS" := fun heq => h .outs heq rfl
    simp [pass, Pass.insOuts, Pass.judgeInsOuts, hins, houts]
  | lods | scas | stos =>
    have hlods : record.mnemonic ≠ "LODS" := fun heq => h .lods heq rfl
    have hscas : record.mnemonic ≠ "SCAS" := fun heq => h .scas heq rfl
    have hstos : record.mnemonic ≠ "STOS" := fun heq => h .stos heq rfl
    simp [pass, Pass.lodsScasStos, Pass.judgeLodsScasStos, hlods, hscas, hstos]

/-- A pass is known by its name. -/
theorem pass_eq_of_name {instruction other : StringInstruction}
    (h : other.pass.name = instruction.pass.name) : other.pass = instruction.pass := by
  cases other <;> cases instruction <;> first | rfl | exact absurd h (by decide)

/-- A string pass decides about the records of a mnemonic as their own instruction asks, or leaves
them all. -/
theorem judge_pass_eq_or (instruction : StringInstruction) (mnemonic : String) :
    (∃ own : StringInstruction, mnemonic = own.mnemonic ∧ own.pass = instruction.pass) ∨
      ∀ record : Record, record.mnemonic = mnemonic →
        instruction.pass.judge record = .unchanged := by
  by_cases h : ∃ own : StringInstruction, mnemonic = own.mnemonic ∧
      own.pass.name = instruction.pass.name
  · obtain ⟨own, hmnemonic, hname⟩ := h
    exact Or.inl ⟨own, hmnemonic, pass_eq_of_name hname⟩
  · refine Or.inr fun record hrecord => instruction.judge_pass_of_ne fun own hown hname => ?_
    exact h ⟨own, hrecord.symm.trans hown, hname⟩

/-- A string pass only revises records. -/
theorem recordWise_pass (instruction : StringInstruction) : instruction.pass.RecordWise := by
  intro record
  unfold Pass.stopsAt Pass.additions
  rcases instruction.judge_pass_eq_or record.mnemonic with ⟨other, hmnemonic, hpass⟩ | hjudge
  · rw [← hpass]
    rcases other.judge_pass_cases hmnemonic with
      ⟨operands, -, hjudge⟩ | ⟨-, ⟨-, -, hjudge⟩ | ⟨-, message, hjudge⟩⟩ <;>
      rw [hjudge] <;> exact ⟨rfl, rfl⟩
  · rw [hjudge record rfl]
    exact ⟨rfl, rfl⟩

end StringInstruction

namespace Record

@[simp] theorem formed_mnemonic (record : Record) : record.formed.mnemonic = record.mnemonic := by
  unfold formed
  split <;> rfl

@[simp] theorem formed_binaryEncoding (record : Record) :
    record.formed.binaryEncoding = record.binaryEncoding := by
  unfold formed
  split <;> rfl

/-- The record of a string instruction has its operands put into form. -/
theorem formed_of_mnemonic {record : Record} {instruction : StringInstruction}
    (h : record.mnemonic = instruction.mnemonic) :
    record.formed =
      { record with operands := (instruction.formed? record.operands).getD record.operands } := by
  rw [formed, h, StringInstruction.ofMnemonic?_mnemonic]

/-- The record of no string instruction stays. -/
theorem formed_of_forall_ne {record : Record}
    (h : ∀ instruction, record.mnemonic ≠ StringInstruction.mnemonic instruction) :
    record.formed = record := by
  unfold formed
  cases hfound : StringInstruction.ofMnemonic? record.mnemonic with
  | none => rfl
  | some instruction =>
    exact absurd (StringInstruction.mnemonic_of_ofMnemonic? hfound) (h instruction)

end Record

namespace StringInstruction

/-- The pass of a record's instruction forms the record. -/
theorem revise_pass_eq_formed (instruction : StringInstruction) {record : Record}
    (h : record.mnemonic = instruction.mnemonic) :
    instruction.pass.revise record = record.formed := by
  rw [revise_pass instruction h, Record.formed_of_mnemonic h]

/-- A string pass leaves the records of no string instruction. -/
theorem judge_pass_of_forall_ne (instruction : StringInstruction) {record : Record}
    (h : ∀ other, record.mnemonic ≠ mnemonic other) :
    instruction.pass.judge record = .unchanged :=
  instruction.judge_pass_of_ne fun other hother => absurd hother (h other)

/-- A string pass leaves the records of another pass's instruction. -/
theorem judge_pass_of_pass_ne (instruction : StringInstruction) {own : StringInstruction}
    {record : Record} (h : record.mnemonic = own.mnemonic)
    (hpass : own.pass.name ≠ instruction.pass.name) :
    instruction.pass.judge record = .unchanged := by
  refine instruction.judge_pass_of_ne fun other hother => ?_
  rwa [← mnemonic_injective (h.symm.trans hother)]

/-! ## Forms -/

/-- Operands are put into form where there are as many as the instruction comes with and they state
a size. -/
theorem formed?_eq_some_iff (instruction : StringInstruction) {operands formed : List Operand} :
    instruction.formed? operands = some formed ↔
      operands.length = instruction.operandCount ∧
        ∃ size, instruction.statedSize? (operands.map (·.name)) = some size ∧
          instruction.written size operands = formed := by
  unfold formed?
  split <;> simp_all

/-- The operands that an instruction comes with, by their number. -/
theorem operands_cases (instruction : StringInstruction) {operands : List Operand}
    (h : operands.length = instruction.operandCount) :
    instruction.isExpanded = true ∧ (∃ operand, operands = [operand]) ∨
      instruction.isExpanded = false ∧ ∃ first second, operands = [first, second] := by
  unfold operandCount at h
  split at h
  · rename_i hexpanded
    exact Or.inl ⟨hexpanded, List.length_eq_one_iff.mp h⟩
  · rename_i hexpanded
    obtain ⟨first, rest, rfl⟩ := List.exists_cons_of_length_eq_add_one h
    obtain ⟨second, rfl⟩ := List.length_eq_one_iff.mp (Nat.succ.inj h)
    exact Or.inr ⟨Bool.eq_false_iff.mpr hexpanded, first, second, rfl⟩

/-- What is put into form is in form. -/
theorem inForm_written (instruction : StringInstruction) (size : PointerSize)
    {operands : List Operand} (h : operands.length = instruction.operandCount) :
    instruction.InForm size (instruction.written size operands) := by
  rcases instruction.operands_cases h with
    ⟨hexpanded, operand, rfl⟩ | ⟨hexpanded, first, second, rfl⟩
  · clear h
    cases instruction <;> simp_all [InForm, written, isExpanded, form, Pass.implicitRead]
  · clear h
    cases instruction <;> simp_all [InForm, written, isExpanded, form, Operand.revised]

/-- The names of a form endure. -/
theorem enduring_form (instruction : StringInstruction) (size : PointerSize) :
    ∀ entry ∈ instruction.form size, Pass.Enduring entry.1 := by
  have hsource := size.enduring_source
  have hdestination := size.enduring_destination
  have haccumulator := size.enduring_accumulator
  have haddress := Pass.enduring_addressRegister
  cases instruction <;> simp_all [form]

/-- The names of operands in form are those of the form. -/
theorem names_of_inForm {instruction : StringInstruction} {size : PointerSize}
    {operands : List Operand} (h : instruction.InForm size operands) :
    operands.map (·.name) = (instruction.form size).map (·.1) := by
  have hnames := congrArg (List.map Prod.fst) h.1
  simpa [Function.comp_def] using hnames

/-- The names of operands in form endure. -/
theorem enduring_of_inForm {instruction : StringInstruction} {size : PointerSize}
    {operands : List Operand} (h : instruction.InForm size operands) {operand : Operand}
    (hoperand : operand ∈ operands) : Pass.Enduring operand.name := by
  have hname : operand.name ∈ (instruction.form size).map (·.1) := by
    rw [← names_of_inForm h]
    exact List.mem_map_of_mem hoperand
  obtain ⟨entry, hentry, hname⟩ := List.mem_map.mp hname
  rw [← hname]
  exact instruction.enduring_form size entry hentry

/-- Operands in form are two. -/
theorem length_of_inForm {instruction : StringInstruction} {size : PointerSize}
    {operands : List Operand} (h : instruction.InForm size operands) : operands.length = 2 := by
  have hlength := congrArg List.length (names_of_inForm h)
  cases instruction <;> simpa [form] using hlength

/-- A form states the size that it was made for, unless it has replaced the operand that did. -/
theorem statedSize?_form {instruction : StringInstruction} (h : instruction.isExpanded = false)
    (size : PointerSize) :
    instruction.statedSize? ((instruction.form size).map (·.1)) = some size := by
  cases instruction <;> simp_all [isExpanded, statedSize?, form]

/-- Putting operands that are in form into form changes nothing. -/
theorem written_of_inForm {instruction : StringInstruction} {size : PointerSize}
    {operands : List Operand} (hexpanded : instruction.isExpanded = false)
    (h : instruction.InForm size operands) : instruction.written size operands = operands := by
  obtain ⟨first, rest, rfl⟩ := List.exists_cons_of_length_eq_add_one (length_of_inForm h)
  obtain ⟨second, rfl⟩ := List.length_eq_one_iff.mp (Nat.succ.inj (length_of_inForm h))
  have hentries := h.1
  rw [written, if_neg (by simp [hexpanded])]
  obtain ⟨firstName, firstUsage, firstEncoding, firstExtras⟩ := first
  obtain ⟨secondName, secondUsage, secondEncoding, secondExtras⟩ := second
  cases instruction <;> simp_all [form, Operand.revised]

/-- Operands in form are put into form, where the form states its size. -/
theorem formed?_eq_some_of_inForm {instruction : StringInstruction} {size : PointerSize}
    {operands : List Operand} (hexpanded : instruction.isExpanded = false)
    (h : instruction.InForm size operands) : instruction.formed? operands = some operands := by
  rw [formed?, if_pos (by simp [length_of_inForm h, operandCount, hexpanded]), names_of_inForm h,
    statedSize?_form hexpanded size, Option.map_some, written_of_inForm hexpanded h]

/-- Operands in form stay as they are. -/
theorem formed?_of_inForm {instruction : StringInstruction} {size : PointerSize}
    {operands : List Operand} (h : instruction.InForm size operands) :
    (instruction.formed? operands).getD operands = operands := by
  cases hexpanded : instruction.isExpanded with
  | true =>
    rw [formed?, if_neg (by simp [length_of_inForm h, operandCount, hexpanded])]
    rfl
  | false =>
    rw [formed?_eq_some_of_inForm hexpanded h]
    rfl

/-- Names that an unobtrusive renaming makes state the size that the names state which they come
from. -/
theorem statedSize?_renamed (instruction : StringInstruction) {rename : String → String}
    (h : Pass.Unobtrusive rename) (names : List String) :
    instruction.statedSize? (names.map rename) = instruction.statedSize? names := by
  have hoperand : PointerSize.ofOperand? ∘ rename = PointerSize.ofOperand? := funext h.ofOperand?
  have hmemory : PointerSize.ofMemory? ∘ rename = PointerSize.ofMemory? := funext h.ofMemory?
  cases instruction <;>
    simp only [statedSize?, List.getElem?_map, Option.bind_map, hoperand, hmemory]

/-- A form has names of its own, whatever those of the operands. -/
theorem written_renamed (instruction : StringInstruction) (size : PointerSize)
    (operands : List Operand) (rename : String → String) :
    instruction.written size (operands.map (·.renamed rename)) =
      instruction.written size operands := by
  unfold written
  split
  · rfl
  · rw [List.zipWith_map_left]
    rfl

/-- Operands are put into the same form under names that an unobtrusive renaming makes. -/
theorem formed?_renamed (instruction : StringInstruction) {rename : String → String}
    (h : Pass.Unobtrusive rename) (operands : List Operand) :
    instruction.formed? (operands.map (·.renamed rename)) = instruction.formed? operands := by
  have hnames : (operands.map (·.renamed rename)).map (·.name) =
      (operands.map (·.name)).map rename := by
    simp [Operand.renamed, Function.comp_def]
  unfold formed?
  rw [hnames, instruction.statedSize?_renamed h, List.length_map]
  simp only [written_renamed]

/-- An unobtrusive renaming leaves operands that are in form. -/
theorem map_renamed_of_inForm {rename : String → String} (h : Pass.Unobtrusive rename)
    {instruction : StringInstruction} {size : PointerSize} {operands : List Operand}
    (hform : instruction.InForm size operands) :
    operands.map (·.renamed rename) = operands := by
  refine (List.map_congr_left fun operand hoperand => ?_).trans (List.map_id _)
  rw [Operand.renamed, h.enduring _ (enduring_of_inForm hform hoperand)]
  rfl

end StringInstruction

namespace Record

/-- A formed record of a string instruction has its operands in the form of the size that they
stated, or could not be put into form. -/
theorem formed_cases {record : Record} {instruction : StringInstruction}
    (h : record.mnemonic = instruction.mnemonic) :
    instruction.formed? record.operands = none ∧ record.formed = record ∨
      record.operands.length = instruction.operandCount ∧
        ∃ size, instruction.statedSize? record.operandNames = some size ∧
          instruction.InForm size record.formed.operands := by
  rw [formed_of_mnemonic h]
  cases hformed : instruction.formed? record.operands with
  | none => exact Or.inl ⟨rfl, rfl⟩
  | some operands =>
    obtain ⟨hlength, size, hsize, rfl⟩ := instruction.formed?_eq_some_iff.mp hformed
    exact Or.inr ⟨hlength, size, hsize, instruction.inForm_written size hlength⟩

/-- Forming leaves a record, or leaves it in form. -/
theorem formed_eq_or (record : Record) :
    record.formed = record ∨
      ∃ instruction size, record.mnemonic = StringInstruction.mnemonic instruction ∧
        StringInstruction.InForm instruction size record.formed.operands := by
  by_cases h : ∃ instruction, record.mnemonic = StringInstruction.mnemonic instruction
  · obtain ⟨instruction, hmnemonic⟩ := h
    rcases formed_cases hmnemonic with ⟨-, hformed⟩ | ⟨-, size, -, hform⟩
    · exact Or.inl hformed
    · exact Or.inr ⟨instruction, size, hmnemonic, hform⟩
  · exact Or.inl (formed_of_forall_ne fun instruction hmnemonic => h ⟨instruction, hmnemonic⟩)

/-- A record whose operands are in form is formed. -/
theorem formed_of_inForm {record : Record} {instruction : StringInstruction} {size : PointerSize}
    (hmnemonic : record.mnemonic = instruction.mnemonic)
    (h : instruction.InForm size record.operands) : record.formed = record := by
  rw [formed_of_mnemonic hmnemonic, StringInstruction.formed?_of_inForm h]

/-- Forming a formed record changes nothing. -/
@[simp] theorem formed_formed (record : Record) : record.formed.formed = record.formed := by
  rcases record.formed_eq_or with hformed | ⟨instruction, size, hmnemonic, hform⟩
  · rw [hformed, hformed]
  · exact formed_of_inForm (by rw [formed_mnemonic, hmnemonic]) hform

/-- It makes no difference to forming a record whether an unobtrusive renaming comes before it or
after it. -/
theorem formed_renamed {rename : String → String} (h : Pass.Unobtrusive rename) (record : Record) :
    (record.renamed rename).formed = record.formed.renamed rename := by
  by_cases hstring : ∃ instruction, record.mnemonic = StringInstruction.mnemonic instruction
  · obtain ⟨instruction, hmnemonic⟩ := hstring
    have hrenamed : (record.renamed rename).mnemonic = instruction.mnemonic := hmnemonic
    rw [formed_of_mnemonic hrenamed, formed_of_mnemonic hmnemonic, renamed_operands,
      instruction.formed?_renamed h]
    cases hformed : instruction.formed? record.operands with
    | none => rfl
    | some operands =>
      obtain ⟨hlength, size, -, rfl⟩ := instruction.formed?_eq_some_iff.mp hformed
      have hsame := StringInstruction.map_renamed_of_inForm h
        (instruction.inForm_written size hlength)
      exact congrArg (fun operands => { record with operands := operands }) hsame.symm
  · have hnone : ∀ instruction, record.mnemonic ≠ StringInstruction.mnemonic instruction :=
      fun instruction hmnemonic => hstring ⟨instruction, hmnemonic⟩
    have hrenamed : (record.renamed rename).formed = record.renamed rename :=
      formed_of_forall_ne hnone
    rw [hrenamed, formed_of_forall_ne hnone]

/-- A record whose operands are in form is settled. -/
theorem settled_of_inForm {record : Record} {instruction : StringInstruction} {size : PointerSize}
    (h : instruction.InForm size record.operands) : record.settled = record :=
  settled_eq_self
    (fun _ hoperand => (StringInstruction.enduring_of_inForm h hoperand).settledName_eq _)
    fun _ hoperand => (StringInstruction.enduring_of_inForm h hoperand).remains_eq _

/-- Forming keeps two operands two. -/
theorem length_formed_of_two {record : Record} (h : record.operands.length = 2) :
    record.formed.operands.length = 2 := by
  rcases record.formed_eq_or with hformed | ⟨instruction, size, -, hform⟩
  · rwa [hformed]
  · exact StringInstruction.length_of_inForm hform

/-- Forming keeps a record intact. -/
theorem Intact.formed {record : Record} (h : record.Intact) : record.formed.Intact := by
  rcases record.formed_eq_or with hformed | ⟨instruction, size, -, hform⟩
  · rwa [hformed]
  · intro operand hoperand
    have hendures := StringInstruction.enduring_of_inForm hform hoperand
    rw [hendures.settledName_eq, hendures.remains_eq]

end Record

end OperandCleanup
