import OperandCleanup.Proofs.Standard

/-!
# Repeated cleanups

The string passes and the pass over the fixed form count operands, and they run before the passes
that remove some. So what a second cleanup finds may differ from what the first one looked at, but
only in the records that count: those of string instructions and those of the VMOVQ load. Where
these lose no operand, each record of the first result is left by the second cleanup, and the pass
over the fixed form ends at the same record, if at any. The argument goes along the records, with
one case for the record at which that pass ends.

A cleanup leaves only records that lose no further operand. So whatever the document, the third
cleanup changes nothing.
-/

namespace OperandCleanup

namespace Pass

/-- The encoding of a wide copy is not that of the VMOVQ load. -/
theorem wideMark_append_ne (encoding : String) : wideMark ++ encoding ≠ vmovqEncoding := by
  intro h
  have hhead := congrArg (fun text => text.toList.head?) h
  have hmark : wideMark.toList.head? = some 'R' := by decide
  simp only [String.toList_append, List.head?_append, hmark, Option.some_or] at hhead
  exact absurd hhead (by decide)

end Pass

namespace Record

/-- Whether some pass counts the operands of a record. -/
def CountSensitive (record : Record) : Prop :=
  (∃ instruction, record.mnemonic = StringInstruction.mnemonic instruction) ∨
    record.binaryEncoding = Pass.vmovqEncoding

variable {record : Record}

/-- A formed record stays formed when it is settled, unless a pass that counts its operands loses
some. -/
theorem formed_settled (hformed : record.formed = record)
    (hintact : record.CountSensitive → record.Intact) : record.settled.formed = record.settled := by
  by_cases hstring : ∃ instruction, record.mnemonic = StringInstruction.mnemonic instruction
  · rw [(hintact (Or.inl hstring)).settled_eq,
      formed_renamed (Pass.unobtrusive_settledName record.mnemonic), hformed]
  · exact formed_of_forall_ne fun instruction hmnemonic => hstring ⟨instruction, hmnemonic⟩

/-- Forming and settling a record once more changes nothing, unless a pass that counts its operands
loses some. -/
theorem settled_formed_settled (hformed : record.formed = record)
    (hintact : record.CountSensitive → record.Intact) :
    record.settled.formed.settled = record.settled := by
  rw [formed_settled hformed hintact, settled_settled]

/-- A settled record is prepared as the record was which it comes from. -/
theorem stopsAt_settled (hformed : record.formed = record)
    (hintact : record.CountSensitive → record.Intact) :
    Pass.vmovq.stopsAt record.settled.formed = Pass.vmovq.stopsAt record := by
  rw [formed_settled hformed hintact, Bool.eq_iff_iff, Pass.stopsAt_vmovq_iff,
    Pass.stopsAt_vmovq_iff, settled_binaryEncoding]
  refine and_congr_right fun hencoding => ?_
  rw [(hintact (Or.inr hencoding)).length_settled]

/-- A fixed record that is settled is given back by the passes that count its operands, one after
the other, although the first of them may change it. -/
theorem fixed_formed_settled (hformed : record.formed = record)
    (hintact : record.CountSensitive → record.fixed.Intact) :
    record.fixed.settled.formed.fixed = record.fixed.settled := by
  by_cases hencoding : record.binaryEncoding = Pass.vmovqEncoding
  · have hsettled : record.fixed.settled =
        (record.renamed (Pass.settledName record.mnemonic)).fixed := by
      rw [(hintact (Or.inr hencoding)).settled_eq, fixed_renamed, fixed_mnemonic]
    have hrenamed := formed_renamed (Pass.unobtrusive_settledName record.mnemonic) record
    rw [hformed] at hrenamed
    rw [hsettled, fixed_formed_fixed hrenamed]
  · rw [fixed_of_ne hencoding] at hintact ⊢
    rw [formed_settled hformed hintact, fixed_of_ne (by rwa [settled_binaryEncoding])]

/-- A fixed record that is settled does not end the pass that fixed it. -/
theorem stopsAt_fixed_settled (hintact : record.CountSensitive → record.fixed.Intact)
    (hgo : Pass.vmovq.stopsAt record = false) :
    Pass.vmovq.stopsAt record.fixed.settled.formed = false := by
  rw [Bool.eq_false_iff, ne_eq, Pass.stopsAt_vmovq_iff] at hgo ⊢
  rintro ⟨hencoding, hlength⟩
  rw [formed_binaryEncoding, settled_binaryEncoding, fixed_binaryEncoding] at hencoding
  have htwo : record.operands.length = 2 := Decidable.not_not.mp fun hne => hgo ⟨hencoding, hne⟩
  refine hlength (length_formed_of_two ?_)
  rw [(hintact (Or.inr hencoding)).length_settled, length_fixed_operands, htwo]

/-- A settled wide copy is neither formed nor fixed. -/
theorem settled_wide {record : Record} (h : record.mnemonic ∈ Pass.splitMnemonics) :
    record.wide.settled.formed = record.wide.settled ∧
      record.wide.settled.fixed = record.wide.settled :=
  ⟨formed_of_forall_ne (Pass.split_mnemonic h).1,
    fixed_of_ne (Pass.wideMark_append_ne record.binaryEncoding)⟩

end Record

namespace Pipeline

/-! ## The records in place -/

/-- From a corrupt record on, records are only formed. -/
theorem prepared_cons_of_stopsAt {record : Record} (rest : List Record)
    (h : Pass.vmovq.stopsAt record.formed = true) :
    prepared (record :: rest) = record.formed :: rest.map Record.formed :=
  Pass.vmovq.swept_cons_of_stopsAt _ h

/-- Up to a corrupt record, records are formed and fixed. -/
theorem prepared_cons_of_not_stopsAt {record : Record} (rest : List Record)
    (h : Pass.vmovq.stopsAt record.formed = false) :
    prepared (record :: rest) = record.formed.fixed :: prepared rest := by
  rw [prepared, List.map_cons, Pass.vmovq.swept_cons_of_not_stopsAt _ h, Pass.revise_vmovq]
  rfl

/-- Preparing records that were prepared and settled, and settling them again, changes nothing
where no pass that counts operands loses some. -/
theorem prepared_settled {records : List Record}
    (h : ∀ record ∈ records, record.CountSensitive → record.Intact) :
    (prepared ((prepared records).map Record.settled)).map Record.settled =
      (prepared records).map Record.settled := by
  have hformed : ∀ record ∈ records, record.formed.CountSensitive → record.formed.Intact := by
    intro record hrecord hsensitive
    refine (h record hrecord ?_).formed
    simpa [Record.CountSensitive] using hsensitive
  -- The second cleanup goes on or ends where the first one did.
  induction records with
  | nil => rfl
  | cons record rest ih =>
    have hfirst := hformed record (by simp)
    have hfixed : record.formed.CountSensitive → record.formed.fixed.Intact :=
      fun hsensitive => (hfirst hsensitive).fixed
    cases hstop : Pass.vmovq.stopsAt record.formed with
    | true =>
      have hagain : Pass.vmovq.stopsAt record.formed.settled.formed = true := by
        rw [Record.stopsAt_settled record.formed_formed hfirst, hstop]
      have hrest : (((rest.map Record.formed).map Record.settled).map Record.formed).map
          Record.settled = (rest.map Record.formed).map Record.settled := by
        simp only [List.map_map]
        refine List.map_congr_left fun other hother => ?_
        exact Record.settled_formed_settled other.formed_formed (hformed other (by simp [hother]))
      rw [prepared_cons_of_stopsAt rest hstop, List.map_cons, prepared_cons_of_stopsAt _ hagain,
        List.map_cons, hrest, Record.settled_formed_settled record.formed_formed hfirst]
    | false =>
      have hagain : Pass.vmovq.stopsAt record.formed.fixed.settled.formed = false :=
        Record.stopsAt_fixed_settled hfixed hstop
      rw [prepared_cons_of_not_stopsAt rest hstop, List.map_cons,
        prepared_cons_of_not_stopsAt _ hagain, List.map_cons,
        Record.fixed_formed_settled record.formed_formed hfixed, Record.settled_settled,
        ih (fun other hother => h other (by simp [hother]))
          fun other hother => hformed other (by simp [hother])]

/-! ## The wide copies -/

/-- Records that no pass counts or fixes may follow the others. -/
theorem prepared_append {later : List Record}
    (h : ∀ record ∈ later, record.formed = record ∧ record.fixed = record)
    (records : List Record) : prepared (records ++ later) = prepared records ++ later := by
  have hformed : later.map Record.formed = later :=
    (List.map_congr_left fun record hrecord => (h record hrecord).1).trans (List.map_id' later)
  induction records with
  | nil =>
    refine List.ext_getElem? fun index => ?_
    rw [List.nil_append, prepared, hformed, Pass.swept_getElem?]
    cases hrecord : later[index]? with
    | none => simp [hrecord, prepared]
    | some record =>
      have hfixed : record.fixed = record := (h record (List.mem_of_getElem? hrecord)).2
      simp [hrecord, prepared, Pass.revise_vmovq, hfixed]
  | cons record rest ih =>
    cases hstop : Pass.vmovq.stopsAt record.formed with
    | true =>
      rw [List.cons_append, prepared_cons_of_stopsAt _ hstop, prepared_cons_of_stopsAt _ hstop,
        List.map_append, hformed, List.cons_append]
    | false =>
      rw [List.cons_append, prepared_cons_of_not_stopsAt _ hstop,
        prepared_cons_of_not_stopsAt _ hstop, ih, List.cons_append]

/-- Records that were settled get no wide copies when they are prepared. -/
theorem wideCopies_prepared_settled (records : List Record) :
    wideCopies (prepared (records.map Record.settled)) = [] := by
  rw [wideCopies, List.flatMap_eq_nil_iff]
  intro record hrecord
  rw [Pass.additions_generalRegister, if_neg]
  rw [Bool.and_eq_true, List.contains_iff_mem, Pass.hasOperand_iff]
  rintro ⟨hsplit, operand, hoperand, hname⟩
  obtain ⟨_, hsettled, hprepared⟩ := exists_of_mem_prepared hrecord
  obtain ⟨original, -, rfl⟩ := List.mem_map.mp hsettled
  have hmnemonic : record.mnemonic = original.mnemonic := by
    rcases hprepared with rfl | rfl <;> simp
  rw [hmnemonic] at hsplit
  have hformed : original.settled.formed = original.settled :=
    Record.formed_of_forall_ne (Pass.split_mnemonic hsplit).1
  rw [hformed] at hprepared
  have hkept : operand ∈ original.settled.operands := by
    rcases hprepared with rfl | rfl
    · exact hoperand
    · rcases Record.mem_fixed_operands hoperand with hkept | hwritten
      · exact hkept
      · exact absurd (hname.symm.trans hwritten) (by decide)
  have hregister := (Pass.settledName_eq_placeholder_iff original.mnemonic operand.name).mp
    ((Record.settledName_of_mem_settled hkept).trans hname)
  exact (Pass.split_mnemonic hsplit).2 hregister.2

/-! ## Convergence -/

/-- A second cleanup leaves what the first one did where no pass that counts operands loses some. -/
theorem through_through {records : List Record}
    (h : ∀ record ∈ records, record.CountSensitive → record.Intact) :
    through Pass.standard (through Pass.standard records) = through Pass.standard records := by
  have hquiet : ∀ copy ∈ (wideCopies (prepared records)).map Record.settled,
      copy.formed = copy ∧ copy.fixed = copy := by
    intro copy hcopy
    obtain ⟨_, hwide, rfl⟩ := List.mem_map.mp hcopy
    obtain ⟨record, -, hsplit, rfl⟩ := exists_wide_of_mem_wideCopies hwide
    exact Record.settled_wide hsplit
  have hsettled : ∀ copies : List Record,
      (copies.map Record.settled).map Record.settled = copies.map Record.settled := by
    intro copies
    rw [List.map_map]
    exact List.map_congr_left fun record _ => record.settled_settled
  rw [through_standard (through Pass.standard records), through_standard records,
    wideCopies_prepared_settled, List.append_nil, List.map_append, prepared_append hquiet,
    List.map_append, prepared_settled h, hsettled]

/-- A second cleanup adds no records. -/
theorem length_through_through (records : List Record) :
    (through Pass.standard (through Pass.standard records)).length =
      (through Pass.standard records).length := by
  rw [through_standard (through Pass.standard records), through_standard records,
    wideCopies_prepared_settled, List.append_nil, List.length_map, length_prepared]

/-- A cleanup leaves only intact records. -/
theorem intact_of_mem_through {records : List Record} {record : Record}
    (h : record ∈ through Pass.standard records) : record.Intact := by
  rw [through_standard] at h
  obtain ⟨original, -, rfl⟩ := List.mem_map.mp h
  exact original.intact_settled

end Pipeline

/-- The document after a number of cleanups by default, one after the other. -/
def cleanupTimes : Nat → Document → Except RegistryError Document
  | 0, document => .ok document
  | times + 1, document => do
    let run ← cleanup document
    cleanupTimes times run.document

/-- The first of several cleanups leaves what its passes leave. -/
theorem cleanupTimes_succ (times : Nat) (document : Document) :
    cleanupTimes (times + 1) document =
      cleanupTimes times ⟨Pipeline.through Pass.standard document.records⟩ := by
  rw [cleanupTimes, cleanup_default, ← Pipeline.bestEffort_records]
  rfl

/-- Two cleanups leave what the passes leave when they run twice. -/
theorem cleanupTimes_two (records : List Record) :
    cleanupTimes 2 ⟨records⟩ =
      .ok ⟨Pipeline.through Pass.standard (Pipeline.through Pass.standard records)⟩ := by
  rw [cleanupTimes_succ, cleanupTimes_succ]
  rfl

/-- The records that are left do not become more. -/
theorem size_cleanupTimes (times : Nat) (records : List Record) :
    ∃ later, cleanupTimes times ⟨Pipeline.through Pass.standard records⟩ = .ok later ∧
      later.size = (Pipeline.through Pass.standard records).length := by
  induction times generalizing records with
  | zero => exact ⟨_, rfl, rfl⟩
  | succ times ih =>
    obtain ⟨later, hlater, hsize⟩ := ih (Pipeline.through Pass.standard records)
    refine ⟨later, by rw [cleanupTimes_succ, hlater], ?_⟩
    rw [hsize, Pipeline.length_through_through]

/-- A second cleanup by default changes nothing where no record that a pass counts the operands of
has an implied operand; a third one changes nothing in any document, and after the first one the
number of records stays. -/
theorem cleanupTimes_converges (document : Document) :
    ∃ first second, cleanupTimes 1 document = .ok first ∧ cleanupTimes 2 document = .ok second ∧
      ((∀ record ∈ document.records, record.CountSensitive →
          (∀ operand ∈ record.operands, operand.name ≠ Pass.impliedVector) ∧
            (record.binaryEncoding ∈ Pass.stackTopEncodings →
              ∀ operand ∈ record.operands,
                operand.name ≠ "ST" ∧ operand.name ≠ Pass.stackTop)) →
        second = first) ∧
      cleanupTimes 3 document = .ok second ∧
      ∀ times, ∃ later, cleanupTimes (times + 1) document = .ok later ∧
        later.size = first.size := by
  refine ⟨⟨Pipeline.through Pass.standard document.records⟩, _, cleanupTimes_succ 0 document,
    cleanupTimes_two document.records, fun hintact => ?_, ?_, fun times => ?_⟩
  · rw [Pipeline.through_through fun record hrecord hsensitive =>
      record.intact_iff.mpr (hintact record hrecord hsensitive)]
  · rw [cleanupTimes_succ, cleanupTimes_two,
      Pipeline.through_through fun record hrecord _ => Pipeline.intact_of_mem_through hrecord]
  · rw [cleanupTimes_succ]
    exact size_cleanupTimes times document.records

end OperandCleanup
