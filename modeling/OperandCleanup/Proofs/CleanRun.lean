import OperandCleanup.Proofs.Acceptance
import OperandCleanup.Proofs.Convergence
import OperandCleanup.Proofs.Equality

/-!
# What a clean run certifies

A clean run says that every pass accepted every record as it met it. That does not make the result
a fixed point: the string passes leave some records alone for the number of their operands, two
passes write the second operand of a VMOVQ load, and the removals come last. The records that a
second run leaves as they are, are the steady ones. Whether a record is steady is known from the
record as it was before the first run.
-/

namespace OperandCleanup

namespace Record

/-- What a cleanup leaves of a record that every pass accepts. -/
def cleaned (record : Record) : Record := record.formed.fixed.settled

/-- Whether the string passes pass a record over: it is of no string instruction, or of one that has
another number of operands than the single one looked for. -/
def Skipped (record : Record) : Prop :=
  ∀ instruction, record.mnemonic = StringInstruction.mnemonic instruction →
    instruction.isExpanded = true ∧ record.operands.length ≠ 1

/-- Whether a record that a clean run has met is left as it is by a second run. Of a VMOVQ load the
first operand has to stay, and the second must not be the one that states the size. Any other record
must not come down to the single operand that a string pass looks for. -/
def Steady (record : Record) : Prop :=
  if record.binaryEncoding = Pass.vmovqEncoding then
    record.mnemonic ≠ StringInstruction.outs.mnemonic ∧
      (record.mnemonic = StringInstruction.ins.mnemonic ∨
        ∀ first ∈ record.operands.head?, first.name ≠ Pass.impliedVector)
  else
    ∀ instruction, record.mnemonic = StringInstruction.mnemonic instruction →
      instruction.isExpanded = true →
        record.operands.length = 1 ∨ record.settled.operands.length ≠ 1

/-- Whether the passes that count operands accept a record and give it back. -/
def Undisturbed (record : Record) : Prop :=
  record.StringAccepted ∧ Pass.vmovq.stopsAt record.formed = false ∧ record.formed.fixed = record

/-- Whether one of the passes that count operands reports a record, or a cleanup changes the number
of its operands. -/
def Disturbed (record : Record) : Prop :=
  record.StringAccepted → Pass.vmovq.stopsAt record.formed = false →
    record.cleaned.operands.length ≠ record.operands.length

end Record

namespace StringInstruction

/-- The names of a form state its size when the second is renamed, unless it was the one that stated
it. -/
theorem formed?_fixedOperands_isSome {instruction : StringInstruction} {size : PointerSize}
    {operands : List Operand} (hexpanded : instruction.isExpanded = false)
    (h : instruction.InForm size operands) :
    (instruction.formed? (Pass.fixedOperands operands)).isSome = true ↔
      instruction ≠ .outs := by
  have hnames := names_of_inForm h
  rcases Pass.fixedOperands_cases operands with ⟨first, second, rfl⟩ | ⟨hlength, -⟩
  · cases instruction <;>
      simp_all [formed?, operandCount, isExpanded, statedSize?, Pass.fixedOperands, form]
  · exact absurd (length_of_inForm h) hlength

/-- The second operand of the VMOVQ load states no size alone. -/
theorem formed?_registerOrMemory {instruction : StringInstruction}
    (h : instruction.isExpanded = true) (operand : Operand) :
    instruction.formed? [{ operand with name := Pass.registerOrMemory }] = none := by
  cases instruction <;> simp_all [formed?, operandCount, isExpanded, statedSize?]

/-- The implied vector register states no size in the place of the first operand. -/
theorem of_statedSize?_impliedVector {instruction : StringInstruction} {names : List String}
    {size : PointerSize}
    (h : instruction.statedSize? (Pass.impliedVector :: names) = some size) :
    instruction = .ins ∨ instruction = .outs := by
  have hmemory : PointerSize.ofMemory? Pass.impliedVector = none := by decide
  have hoperand : PointerSize.ofOperand? Pass.impliedVector = none := by decide
  cases instruction <;> simp_all [statedSize?]

end StringInstruction

namespace Record

/-! ## Records in form -/

/-- A fixed record is settled when its operands were in form. -/
theorem settled_fixed_of_inForm {record : Record} {instruction : StringInstruction}
    {size : PointerSize} (h : instruction.InForm size record.operands) :
    record.fixed.settled = record.fixed := by
  have hendures : ∀ operand ∈ record.fixed.operands, Pass.Enduring operand.name := by
    intro operand hoperand
    rcases mem_fixed_operands hoperand with hkept | hwritten
    · exact StringInstruction.enduring_of_inForm h hkept
    · rw [hwritten]
      exact Pass.enduring_registerOrMemory
  exact settled_eq_self (fun operand hoperand => (hendures operand hoperand).settledName_eq _)
    fun operand hoperand => (hendures operand hoperand).remains_eq _

/-- A record whose operands are in form and that is then fixed is not disturbed, if the string pass
still accepts it. -/
theorem undisturbed_of_inForm {record : Record} {instruction : StringInstruction}
    {size : PointerSize} (hform : instruction.InForm size record.formed.operands)
    (haccepted : record.cleaned.StringAccepted) : record.cleaned.Undisturbed := by
  have hcleaned : record.cleaned = record.formed.fixed := settled_fixed_of_inForm hform
  have htwo : record.cleaned.operands.length = 2 := by
    rw [hcleaned, length_fixed_operands, StringInstruction.length_of_inForm hform]
  refine ⟨haccepted, ?_, ?_⟩
  · rw [Bool.eq_false_iff, ne_eq, Pass.stopsAt_vmovq_iff]
    exact fun hstop => hstop.2 (length_formed_of_two htwo)
  · rw [hcleaned, fixed_formed_fixed record.formed_formed]

/-- A second run accepts what was put into form, but for OUTS with the operand renamed that stated
the size. -/
theorem stringAccepted_cleaned_of_inForm {record : Record} {instruction : StringInstruction}
    {size : PointerSize} (hmnemonic : record.mnemonic = instruction.mnemonic)
    (hform : instruction.InForm size record.formed.operands) :
    record.cleaned.StringAccepted ↔
      (record.binaryEncoding = Pass.vmovqEncoding → instruction ≠ .outs) := by
  have hcleaned : record.cleaned = record.formed.fixed := settled_fixed_of_inForm hform
  have htwo := StringInstruction.length_of_inForm hform
  have hagain : record.formed.fixed.mnemonic = instruction.mnemonic := by simpa using hmnemonic
  rw [hcleaned, stringAccepted_iff hagain, length_fixed_operands, htwo]
  cases hexpanded : instruction.isExpanded with
  | true =>
    refine iff_of_true (Or.inr ⟨rfl, by decide⟩) fun _ houts => ?_
    rw [houts] at hexpanded
    cases hexpanded
  | false =>
    by_cases hencoding : record.binaryEncoding = Pass.vmovqEncoding
    · have hiff := StringInstruction.formed?_fixedOperands_isSome hexpanded hform
      rw [fixed_of_eq (by rw [formed_binaryEncoding, hencoding])]
      simpa [hencoding] using hiff
    · have hsome := StringInstruction.formed?_eq_some_of_inForm hexpanded hform
      rw [fixed_of_ne (by rwa [formed_binaryEncoding]), hsome]
      simp [hencoding]

/-- A record that states its size is steady, but for OUTS in the encoding of the VMOVQ load. -/
theorem steady_iff_of_statedSize? {record : Record} {instruction : StringInstruction}
    {size : PointerSize} (hmnemonic : record.mnemonic = instruction.mnemonic)
    (hlength : record.operands.length = instruction.operandCount)
    (hsize : instruction.statedSize? record.operandNames = some size) :
    record.Steady ↔ (record.binaryEncoding = Pass.vmovqEncoding → instruction ≠ .outs) := by
  unfold Steady
  split
  · rename_i hencoding
    constructor
    · rintro ⟨hne, -⟩ - rfl
      exact hne hmnemonic
    · intro hne
      refine ⟨fun houts => hne hencoding ?_, ?_⟩
      · exact StringInstruction.mnemonic_injective (hmnemonic.symm.trans houts)
      · by_cases hins : instruction = .ins
        · exact Or.inl (hins ▸ hmnemonic)
        · refine Or.inr fun first hfirst hvector => ?_
          obtain ⟨rest, hoperands⟩ := List.head?_eq_some_iff.mp hfirst
          rw [operandNames, hoperands, List.map_cons, hvector] at hsize
          rcases StringInstruction.of_statedSize?_impliedVector hsize with heq | heq
          · exact hins heq
          · exact hne hencoding heq
  · rename_i hencoding
    refine iff_of_true (fun other hother hexpanded => Or.inl ?_) fun h => absurd h hencoding
    obtain rfl := StringInstruction.mnemonic_injective (hother.symm.trans hmnemonic)
    rw [hlength, StringInstruction.operandCount, if_pos hexpanded]

/-- What is put into form is steady exactly when a second run does not disturb it. -/
theorem steady_or_of_inForm {record : Record} {instruction : StringInstruction} {size : PointerSize}
    (hmnemonic : record.mnemonic = instruction.mnemonic)
    (hlength : record.operands.length = instruction.operandCount)
    (hsize : instruction.statedSize? record.operandNames = some size)
    (hform : instruction.InForm size record.formed.operands) :
    record.Steady ∧ record.cleaned.Undisturbed ∨ ¬ record.Steady ∧ record.cleaned.Disturbed := by
  have hsteady := steady_iff_of_statedSize? hmnemonic hlength hsize
  have haccepted := stringAccepted_cleaned_of_inForm hmnemonic hform
  by_cases h : record.Steady
  · exact Or.inl ⟨h, undisturbed_of_inForm hform (haccepted.mpr (hsteady.mp h))⟩
  · exact Or.inr ⟨h, fun hagain _ => absurd (hsteady.mpr (haccepted.mp hagain)) h⟩

/-! ## Records that are passed over -/

/-- A record that is passed over stays. -/
theorem Skipped.formed_eq {record : Record} (h : record.Skipped) : record.formed = record := by
  by_cases hstring : ∃ instruction, record.mnemonic = StringInstruction.mnemonic instruction
  · obtain ⟨instruction, hmnemonic⟩ := hstring
    obtain ⟨hexpanded, hlength⟩ := h instruction hmnemonic
    rcases formed_cases hmnemonic with ⟨-, hformed⟩ | ⟨hone, -⟩
    · exact hformed
    · rw [StringInstruction.operandCount, if_pos hexpanded] at hone
      exact absurd hone hlength
  · exact formed_of_forall_ne fun instruction hmnemonic => hstring ⟨instruction, hmnemonic⟩

/-- A record that is passed over is accepted. -/
theorem Skipped.stringAccepted {record : Record} (h : record.Skipped) : record.StringAccepted :=
  fun instruction hmnemonic => Or.inr (h instruction hmnemonic)

/-- A second run that accepts a string instruction with a single operand writes two in its place. -/
theorem disturbed_of_length_one {record : Record} {instruction : StringInstruction}
    (hmnemonic : record.mnemonic = instruction.mnemonic)
    (hencoding : record.binaryEncoding ≠ Pass.vmovqEncoding)
    (hone : record.operands.length = 1) : record.Disturbed := by
  intro haccepted _
  rcases formed_cases hmnemonic with ⟨hnone, -⟩ | ⟨-, size, -, hform⟩
  · rw [stringAccepted_iff hmnemonic, hnone] at haccepted
    simp [hone] at haccepted
  · have hcleaned : record.cleaned = record.formed := by
      rw [cleaned, fixed_of_ne (by rwa [formed_binaryEncoding]), settled_of_inForm hform]
    rw [hcleaned, hone, StringInstruction.length_of_inForm hform]
    decide

/-- A record that is passed over and is no VMOVQ load is steady when what is left of it is passed
over as well. -/
theorem steady_iff_of_ne {record : Record} (hskipped : record.Skipped)
    (hencoding : record.binaryEncoding ≠ Pass.vmovqEncoding) :
    record.Steady ↔ record.settled.Skipped := by
  unfold Steady
  rw [if_neg hencoding]
  constructor
  · intro h instruction hmnemonic
    obtain ⟨hexpanded, hlength⟩ := hskipped instruction hmnemonic
    exact ⟨hexpanded, (h instruction hmnemonic hexpanded).resolve_left hlength⟩
  · exact fun h instruction hmnemonic _ => Or.inr (h instruction hmnemonic).2

/-- A record that is passed over and is no VMOVQ load is steady unless it comes down to a single
operand that a string pass looks for. -/
theorem steady_or_of_ne {record : Record} (hskipped : record.Skipped)
    (hencoding : record.binaryEncoding ≠ Pass.vmovqEncoding) :
    record.Steady ∧ record.cleaned.Undisturbed ∨ ¬ record.Steady ∧ record.cleaned.Disturbed := by
  have hcleaned : record.cleaned = record.settled := by
    rw [cleaned, hskipped.formed_eq, fixed_of_ne hencoding]
  have hkept : record.settled.binaryEncoding ≠ Pass.vmovqEncoding := hencoding
  rw [hcleaned, steady_iff_of_ne hskipped hencoding]
  by_cases h : record.settled.Skipped
  · refine Or.inl ⟨h, h.stringAccepted, ?_, ?_⟩
    · rw [h.formed_eq, Bool.eq_false_iff, ne_eq, Pass.stopsAt_vmovq_iff]
      exact fun hstop => hkept hstop.1
    · rw [h.formed_eq, fixed_of_ne hkept]
  · obtain ⟨instruction, hinstruction⟩ := Classical.not_forall.mp h
    obtain ⟨hmnemonic, hcounted⟩ := Classical.not_imp.mp hinstruction
    have hexpanded := (hskipped instruction hmnemonic).1
    have hone : record.settled.operands.length = 1 :=
      Decidable.not_not.mp fun hlength => hcounted ⟨hexpanded, hlength⟩
    exact Or.inr ⟨h, disturbed_of_length_one hmnemonic hkept hone⟩

/-- A VMOVQ load that is passed over is steady when its first operand is not implied. -/
theorem steady_iff_of_operands {record : Record} {first second : Operand}
    (hskipped : record.Skipped) (hencoding : record.binaryEncoding = Pass.vmovqEncoding)
    (hoperands : record.operands = [first, second]) :
    record.Steady ↔ first.name ≠ Pass.impliedVector := by
  have houts : record.mnemonic ≠ StringInstruction.outs.mnemonic :=
    fun h => absurd (hskipped .outs h).1 (by decide)
  have hins : record.mnemonic ≠ StringInstruction.ins.mnemonic :=
    fun h => absurd (hskipped .ins h).1 (by decide)
  simp [Steady, hencoding, houts, hins, hoperands]

/-- A VMOVQ load whose first operand is implied is left with the second one. -/
theorem settled_fixed_of_implied {record : Record} {first second : Operand}
    (hencoding : record.binaryEncoding = Pass.vmovqEncoding)
    (hoperands : record.operands = [first, second]) (hvector : first.name = Pass.impliedVector) :
    record.fixed.settled.operands = [{ second with name := Pass.registerOrMemory }] := by
  have hfixed : record.fixed.operands =
      [first, { second with name := Pass.registerOrMemory }] := by
    rw [fixed_of_eq hencoding, hoperands]
    rfl
  have hdropped : Pass.settledName record.mnemonic first.name = Pass.impliedVector :=
    (Pass.settledName_eq_impliedVector_iff _ _).mpr hvector
  have hremains (encoding : String) : Pass.remains encoding Pass.impliedVector = false := by
    simp [Pass.remains]
  have hendures := Pass.enduring_registerOrMemory
  rw [settled_operands, hfixed]
  simp [Operand.renamed, hdropped, hremains, hendures.settledName_eq, hendures.remains_eq]

/-- A VMOVQ load whose first operand is not implied keeps both. -/
theorem intact_fixed_of_not_implied {record : Record} {first second : Operand}
    (hencoding : record.binaryEncoding = Pass.vmovqEncoding)
    (hoperands : record.operands = [first, second]) (hvector : first.name ≠ Pass.impliedVector) :
    record.fixed.Intact := by
  have hsecond : Pass.registerOrMemory ≠ Pass.impliedVector := by decide
  have hstack : Pass.vmovqEncoding ∉ Pass.stackTopEncodings := by decide
  rw [intact_iff, fixed_binaryEncoding, hencoding, fixed_of_eq hencoding, hoperands]
  exact ⟨by simp [Pass.fixedOperands, hvector, hsecond], fun h => absurd h hstack⟩

/-- A VMOVQ load with the second operand alone is corrupt, or reported by a string pass. -/
theorem disturbed_of_operands {record : Record} {operand : Operand}
    (hskipped : ∀ instruction, record.mnemonic = StringInstruction.mnemonic instruction →
      instruction.isExpanded = true)
    (hencoding : record.binaryEncoding = Pass.vmovqEncoding)
    (hoperands : record.operands = [{ operand with name := Pass.registerOrMemory }]) :
    record.Disturbed := by
  intro haccepted hagain
  by_cases hstring : ∃ instruction, record.mnemonic = StringInstruction.mnemonic instruction
  · obtain ⟨instruction, hmnemonic⟩ := hstring
    have hnone := StringInstruction.formed?_registerOrMemory (hskipped _ hmnemonic) operand
    rw [stringAccepted_iff hmnemonic, hoperands, hnone] at haccepted
    simp at haccepted
  · have hformed : record.formed = record :=
      formed_of_forall_ne fun instruction hmnemonic => hstring ⟨instruction, hmnemonic⟩
    rw [Bool.eq_false_iff, ne_eq, Pass.stopsAt_vmovq_iff, hformed, hoperands] at hagain
    exact absurd ⟨hencoding, by simp⟩ hagain

/-- A VMOVQ load that is passed over is steady unless its first operand is dropped. -/
theorem steady_or_of_eq {record : Record} (hskipped : record.Skipped)
    (hencoding : record.binaryEncoding = Pass.vmovqEncoding)
    (hgo : Pass.vmovq.stopsAt record = false) :
    record.Steady ∧ record.cleaned.Undisturbed ∨ ¬ record.Steady ∧ record.cleaned.Disturbed := by
  have hcleaned : record.cleaned = record.fixed.settled := by rw [cleaned, hskipped.formed_eq]
  have htwo : record.operands.length = 2 := by
    rw [Bool.eq_false_iff, ne_eq, Pass.stopsAt_vmovq_iff] at hgo
    exact Decidable.not_not.mp fun hne => hgo ⟨hencoding, hne⟩
  have hexpanded : ∀ instruction,
      record.cleaned.mnemonic = StringInstruction.mnemonic instruction →
        instruction.isExpanded = true :=
    fun instruction hmnemonic => (hskipped instruction (by simpa [cleaned] using hmnemonic)).1
  rcases Pass.fixedOperands_cases record.operands with ⟨first, second, hoperands⟩ | ⟨hne, -⟩
  · rw [steady_iff_of_operands hskipped hencoding hoperands]
    by_cases hvector : first.name = Pass.impliedVector
    · have hleft := settled_fixed_of_implied hencoding hoperands hvector
      rw [← hcleaned] at hleft
      have hagain : record.cleaned.binaryEncoding = Pass.vmovqEncoding := by
        simpa [cleaned] using hencoding
      exact Or.inr ⟨fun h => h hvector, disturbed_of_operands hexpanded hagain hleft⟩
    · have hintact := intact_fixed_of_not_implied hencoding hoperands hvector
      refine Or.inl ⟨hvector, fun instruction hmnemonic => ?_, ?_, ?_⟩
      · refine Or.inr ⟨hexpanded instruction hmnemonic, ?_⟩
        rw [hcleaned, hintact.length_settled, length_fixed_operands, htwo]
        decide
      · rw [hcleaned]
        exact stopsAt_fixed_settled (fun _ => hintact) hgo
      · rw [hcleaned]
        exact fixed_formed_settled hskipped.formed_eq fun _ => hintact
  · exact absurd htwo hne

/-- A record that every pass accepts is steady exactly when a second run does not disturb what is
left of it. -/
theorem steady_or {record : Record} (haccepted : record.StringAccepted)
    (hgo : Pass.vmovq.stopsAt record.formed = false) :
    record.Steady ∧ record.cleaned.Undisturbed ∨ ¬ record.Steady ∧ record.cleaned.Disturbed := by
  by_cases hskipped : record.Skipped
  · rw [hskipped.formed_eq] at hgo
    by_cases hencoding : record.binaryEncoding = Pass.vmovqEncoding
    · exact steady_or_of_eq hskipped hencoding hgo
    · exact steady_or_of_ne hskipped hencoding
  · obtain ⟨instruction, hinstruction⟩ := Classical.not_forall.mp hskipped
    obtain ⟨hmnemonic, hcounted⟩ := Classical.not_imp.mp hinstruction
    have hsome := (haccepted instruction hmnemonic).resolve_right hcounted
    rcases formed_cases hmnemonic with ⟨hnone, -⟩ | ⟨hlength, size, hsize, hform⟩
    · rw [hnone] at hsome
      cases hsome
    · exact steady_or_of_inForm hmnemonic hlength hsize hform

end Record

namespace Pipeline

/-! ## The second run -/

/-- A second run accepts what it does not disturb, and leaves it. -/
theorem accepted_cleaned {record : Record} (haccepted : Accepted Pass.standard record)
    (h : record.cleaned.Undisturbed) :
    Accepted Pass.standard record.cleaned ∧ record.cleaned.cleaned = record.cleaned := by
  obtain ⟨hstring, hgo, hkept⟩ := h
  refine ⟨(accepted_standard_iff _).mpr ⟨hstring, hgo, fun operand hoperand => ?_⟩, ?_⟩
  · rw [hkept] at hoperand
    obtain ⟨⟨original, horiginal, rfl⟩, -⟩ := Record.mem_settled_operands.mp hoperand
    have hname := ((accepted_standard_iff record).mp haccepted).2.2 original horiginal
    simpa [Record.cleaned, Operand.renamed, Pass.settledName_idem] using hname
  · rw [Record.cleaned, hkept, Record.cleaned, Record.settled_settled]

/-- A second run that accepts a disturbed record changes the number of its operands. -/
theorem not_disturbed {record : Record} (haccepted : Accepted Pass.standard record)
    (hlength : record.cleaned.operands.length = record.operands.length) : ¬ record.Disturbed := by
  obtain ⟨hstring, hgo, -⟩ := (accepted_standard_iff record).mp haccepted
  exact fun h => h hstring hgo hlength

/-- A second run accepts the wide copies and leaves them. -/
theorem accepted_settled_wide {record : Record} (h : record.mnemonic ∈ Pass.splitMnemonics) :
    Accepted Pass.standard record.wide.settled ∧
      record.wide.settled.cleaned = record.wide.settled := by
  obtain ⟨hformed, hfixed⟩ := Record.settled_wide h
  obtain ⟨hstring, hregister⟩ := Pass.split_mnemonic h
  refine ⟨(accepted_standard_iff _).mpr ⟨Record.stringAccepted_of_forall_ne hstring, ?_, ?_⟩, ?_⟩
  · rw [hformed, Bool.eq_false_iff, ne_eq, Pass.stopsAt_vmovq_iff]
    exact fun hstop => Pass.wideMark_append_ne record.binaryEncoding hstop.1
  · rw [hformed, hfixed]
    exact fun operand _ hname =>
      hregister ((Pass.settledName_eq_placeholder_iff _ operand.name).mp hname).2
  · rw [Record.cleaned, hformed, hfixed, Record.settled_settled]

/-- Records that every pass accepts are all formed and fixed. -/
theorem prepared_of_accepted {records : List Record}
    (h : ∀ record ∈ records, Accepted Pass.standard record) :
    prepared records = records.map fun record => record.formed.fixed := by
  have hgo : ∀ record ∈ records.map Record.formed, Pass.vmovq.stopsAt record = false := by
    intro record hrecord
    obtain ⟨original, horiginal, rfl⟩ := List.mem_map.mp hrecord
    exact ((accepted_standard_iff original).mp (h original horiginal)).2.1
  rw [prepared, Pass.vmovq.swept_of_forall hgo, List.map_map]
  exact List.map_congr_left fun record _ => Pass.revise_vmovq record.formed

/-- A clean run leaves every record cleaned, before the wide copies. -/
theorem through_of_accepted {records : List Record}
    (h : ∀ record ∈ records, Accepted Pass.standard record) :
    through Pass.standard records =
      records.map Record.cleaned ++ (wideCopies (prepared records)).map Record.settled := by
  rw [through_standard, List.map_append]
  congr 1
  rw [prepared_of_accepted h, List.map_map]
  rfl

/-- A clean second run cleans every record of the first result and adds none. -/
theorem through_through_of_accepted {records : List Record}
    (h : ∀ record ∈ through Pass.standard records, Accepted Pass.standard record) :
    through Pass.standard (through Pass.standard records) =
      (through Pass.standard records).map Record.cleaned := by
  rw [through_of_accepted h, through_standard, wideCopies_prepared_settled, List.map_nil,
    List.append_nil]

/-- After a clean run over steady records, a second one accepts every record and leaves it. -/
theorem accepted_of_steady {records : List Record}
    (haccepted : ∀ record ∈ records, Accepted Pass.standard record)
    (hsteady : ∀ record ∈ records, record.Steady) :
    ∀ left ∈ through Pass.standard records, Accepted Pass.standard left ∧ left.cleaned = left := by
  intro left hleft
  rw [through_of_accepted haccepted] at hleft
  rcases List.mem_append.mp hleft with hleft | hleft
  · obtain ⟨record, hrecord, rfl⟩ := List.mem_map.mp hleft
    obtain ⟨hstring, hgo, -⟩ := (accepted_standard_iff record).mp (haccepted record hrecord)
    rcases Record.steady_or hstring hgo with ⟨-, hundisturbed⟩ | ⟨hunsteady, -⟩
    · exact accepted_cleaned (haccepted record hrecord) hundisturbed
    · exact absurd (hsteady record hrecord) hunsteady
  · obtain ⟨copy, hcopy, rfl⟩ := List.mem_map.mp hleft
    obtain ⟨record, -, hsplit, rfl⟩ := exists_wide_of_mem_wideCopies hcopy
    exact accepted_settled_wide hsplit

/-- Records that are left are left by a second run where it cleans them to themselves. -/
theorem through_through_of_steady {records : List Record}
    (haccepted : ∀ record ∈ records, Accepted Pass.standard record)
    (hsteady : ∀ record ∈ records, record.Steady) :
    through Pass.standard (through Pass.standard records) = through Pass.standard records := by
  have hleft := accepted_of_steady haccepted hsteady
  rw [through_through_of_accepted fun left hmem => (hleft left hmem).1,
    List.map_congr_left fun left hmem => (hleft left hmem).2, List.map_id']

/-- After a clean run, a second one that accepts every record and keeps the number of its operands
shows that the records were steady. -/
theorem steady_of_accepted {records : List Record}
    (haccepted : ∀ record ∈ records, Accepted Pass.standard record)
    (hagain : ∀ left ∈ through Pass.standard records, Accepted Pass.standard left)
    (hlengths : (through Pass.standard (through Pass.standard records)).map (·.operands.length) =
      (through Pass.standard records).map (·.operands.length)) :
    ∀ record ∈ records, record.Steady := by
  intro record hrecord
  obtain ⟨hstring, hgo, -⟩ := (accepted_standard_iff record).mp (haccepted record hrecord)
  rcases Record.steady_or hstring hgo with ⟨hsteady, -⟩ | ⟨-, hdisturbed⟩
  · exact hsteady
  · have hleft : record.cleaned ∈ through Pass.standard records := by
      rw [through_of_accepted haccepted]
      exact List.mem_append_left _ (List.mem_map_of_mem hrecord)
    rw [through_through_of_accepted hagain, List.map_map] at hlengths
    have hlength := List.map_inj_left.mp hlengths _ hleft
    exact absurd hdisturbed (not_disturbed (hagain _ hleft) hlength)

end Pipeline

/-! ## Fixed points -/

/-- A second cleanup after a clean one is clean and leaves the same document exactly when every
record of the document was steady; otherwise it reports an error, or leaves a document with other
data. -/
theorem cleanup_fixedPoint_iff (document : Document) :
    ∃ first second, cleanup document = .ok first ∧ cleanup first.document = .ok second ∧
      (first.ok = true →
        (second.ok = true ∧ second.document = first.document ↔
            ∀ record ∈ document.records, record.Steady) ∧
          (second.ok = true → second.document.equals first.document = true →
            ∀ record ∈ document.records, record.Steady)) := by
  refine ⟨_, _, cleanup_default document, cleanup_default _, fun hok => ?_⟩
  have haccepted := (Pipeline.bestEffort_ok_iff Pass.standard document).mp hok
  rw [Pipeline.bestEffort_ok_iff, Pipeline.bestEffort_document, Pipeline.bestEffort_document]
  refine ⟨⟨fun ⟨hagain, hsame⟩ => ?_, fun hsteady => ⟨fun left hleft => ?_, ?_⟩⟩,
    fun hagain hequal => ?_⟩
  · refine Pipeline.steady_of_accepted haccepted hagain ?_
    rw [Document.mk.inj hsame]
  · exact (Pipeline.accepted_of_steady haccepted hsteady left hleft).1
  · rw [Pipeline.through_through_of_steady haccepted hsteady]
  · exact Pipeline.steady_of_accepted haccepted hagain
      (Document.map_length_operands_of_equals hequal)

/-- A load of bytes with an implied operand too many. -/
def crowdedLoad : Record where
  mnemonic := "LODS"
  binaryEncoding := "AC"
  operands := [{ name := "m8" }, { name := "<XMM0>" }]

/-- Two clean runs over the crowded load leave documents with different data. -/
theorem cleanup_crowdedLoad_changes :
    ∃ first second, cleanup ⟨[crowdedLoad]⟩ = .ok first ∧ cleanup first.document = .ok second ∧
      first.ok = true ∧ second.ok = true ∧
      second.document.equals first.document = false := by
  refine ⟨_, _, cleanup_default _, cleanup_default _, by decide, by decide, ?_⟩
  rw [Bool.eq_false_iff]
  intro hequal
  have hlengths := Document.map_length_operands_of_equals hequal
  exact absurd hlengths (by decide)

end OperandCleanup
