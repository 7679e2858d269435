import OperandCleanup.Proofs.Standard

/-!
# A pass that ends at a record

When a pass ends at a record, it has worked on the records before it, and everything from that
record on is as it was. This is the only way in which a document is left half done, so it is stated
by the index of the first record at which the pass ends: what is in front of it is revised, the
changes are counted there, and if the pass reports only where it ends there is one error, about
that record.

The pass over the fixed form of the VMOVQ load is such a pass.
-/

namespace OperandCleanup.Pass

variable (pass : Pass)

/-! ## Up to the first record at which a pass ends -/

/-- A record at which a pass ends is not changed. -/
theorem changes_of_stopsAt {record : Record} (h : pass.stopsAt record = true) :
    pass.changes record = false := by
  unfold stopsAt at h
  unfold changes
  cases hjudge : pass.judge record with
  | corrupt headline => rfl
  | unchanged => rfl
  | malformed message => rfl
  | changed revised added => simp [hjudge, Verdict.stops] at h

/-- A pass goes on at every record in front of the first at which it ends. -/
theorem stopsAt_of_mem_take {records : List Record} {record : Record}
    (h : record ∈ records.take (records.findIdx pass.stopsAt)) : pass.stopsAt record = false := by
  obtain ⟨index, hindex, rfl⟩ := List.mem_take_iff_getElem.mp h
  exact List.not_of_lt_findIdx (Nat.lt_of_lt_of_le hindex (Nat.min_le_left _ _))

/-- A pass revises the records in front of the first at which it ends, and leaves the others. -/
theorem swept_getElem?_findIdx (records : List Record) (index : Nat) :
    (pass.swept records)[index]? =
      records[index]?.map fun record =>
        if index < records.findIdx pass.stopsAt then pass.revise record else record := by
  induction records generalizing index with
  | nil => simp
  | cons record rest ih =>
    rw [List.findIdx_cons]
    cases hstop : pass.stopsAt record with
    | true => simp [pass.swept_cons_of_stopsAt rest hstop]
    | false =>
      rw [pass.swept_cons_of_not_stopsAt rest hstop]
      cases index with
      | zero => simp
      | succ index => simp [ih]

/-- A pass counts the changes in front of the first record at which it ends. -/
theorem scan_modified_eq_countP_take (index : Nat) (records : List Record) :
    (pass.scan index records).modified =
      (records.take (records.findIdx pass.stopsAt)).countP pass.changes := by
  rw [scan_modified]
  induction records with
  | nil => rfl
  | cons record rest ih =>
    rw [reached, List.findIdx_cons]
    cases hstop : pass.stopsAt record with
    | true => simp [pass.changes_of_stopsAt hstop]
    | false => simp [List.countP_cons, ih]

/-- A pass that reports only records at which it ends reports the first of them, if there is one. -/
theorem errorsFrom_reached_of_stops
    (h : ∀ record, pass.accepts record = true ↔ pass.stopsAt record = false) (first : Nat)
    (records : List Record) :
    pass.errorsFrom first (pass.reached records) =
      (records[records.findIdx pass.stopsAt]?.bind
        (pass.errorFor? (first + records.findIdx pass.stopsAt))).toList := by
  induction records generalizing first with
  | nil => rfl
  | cons record rest ih =>
    rw [reached, List.findIdx_cons]
    cases hstop : pass.stopsAt record with
    | true => simp [errorsFrom]
    | false =>
      -- Where the pass goes on it has accepted the record, so nothing is reported before the end.
      have hnone := (pass.errorFor?_eq_none_iff first record).mpr ((h record).mpr hstop)
      have hindex : first + 1 + rest.findIdx pass.stopsAt =
          first + (rest.findIdx pass.stopsAt + 1) := by omega
      simp [errorsFrom, hnone, ih, hindex]

/-! ## The VMOVQ load -/

/-- The error about a record of the VMOVQ load that does not have two operands. -/
def corruptError (index : Nat) (record : Record) : DataError where
  kind := .corruptFixedForm
  message := "Unexpected number of operands of a VMOVQ instruction: " ++
    String.ofList record.toJson.literal
  transform := "FixOperandsOfVMovq"
  recordIndex := some index
  mnemonic := record.mnemonic

/-- What the pass reports about a record at which it ends. -/
theorem errorFor?_vmovq (index : Nat) {record : Record} (h : vmovq.stopsAt record = true) :
    vmovq.errorFor? index record = some (corruptError index record) := by
  obtain ⟨hencoding, hlength⟩ := (stopsAt_vmovq_iff record).mp h
  rcases judge_vmovq_cases record with
    ⟨hother, -⟩ | ⟨-, ⟨first, second, hoperands, -⟩ | ⟨-, hjudge⟩⟩
  · exact absurd hencoding hother
  · exact absurd (congrArg List.length hoperands) hlength
  · rw [errorFor?, hjudge]
    rfl

/-- The pass changes a record of the VMOVQ load whose second operand is not yet renamed. -/
theorem changes_vmovq {record : Record} (h : vmovq.stopsAt record = false) :
    vmovq.changes record =
      (record.binaryEncoding == vmovqEncoding &&
        record.operandNames[1]? != some registerOrMemory) := by
  unfold changes
  rcases judge_vmovq_cases record with
    ⟨hencoding, hjudge⟩ | ⟨hencoding, ⟨first, second, hoperands, hjudge⟩ | ⟨hlength, -⟩⟩
  · rw [hjudge, beq_eq_false_iff_ne.mpr hencoding]
    rfl
  · rw [hjudge, beq_iff_eq.mpr hencoding, Bool.true_and, Record.operandNames, hoperands]
    by_cases hname : second.name = registerOrMemory <;> simp [hname, Verdict.changes]
  · exact absurd ((stopsAt_vmovq_iff record).mpr ⟨hencoding, hlength⟩) (Bool.eq_false_iff.mp h)

/-- A record of the VMOVQ load in front of the first at which the pass ends has two operands. -/
theorem exists_operands_of_mem_take {records : List Record} {record : Record}
    (h : record ∈ records.take (records.findIdx vmovq.stopsAt))
    (hencoding : record.binaryEncoding = vmovqEncoding) :
    ∃ first second, record.operands = [first, second] := by
  rcases fixedOperands_cases record.operands with htwo | ⟨hlength, -⟩
  · exact htwo
  · have hstop := (stopsAt_vmovq_iff record).mpr ⟨hencoding, hlength⟩
    rw [vmovq.stopsAt_of_mem_take h] at hstop
    exact absurd hstop Bool.false_ne_true

section

variable (document : Document)

/-- The pass adds no records to a document. -/
theorem vmovq_records : (vmovq.apply document).document.records = vmovq.swept document.records := by
  rw [apply_records, Pipeline.appended_vmovq, List.append_nil]

/-- The only error is about the first record at which the pass ends, if there is one. -/
theorem vmovq_errors :
    (vmovq.apply document).outcome.errors =
      (document.records[document.records.findIdx vmovq.stopsAt]?.map
        (corruptError (document.records.findIdx vmovq.stopsAt))).toList := by
  have herrors : (vmovq.apply document).outcome.errors = (vmovq.scan 0 document.records).errors :=
    rfl
  rw [herrors, scan_errors, vmovq.errorsFrom_reached_of_stops accepts_vmovq_iff, Nat.zero_add]
  cases hcorrupt : document.records[document.records.findIdx vmovq.stopsAt]? with
  | none => rfl
  | some record =>
    obtain ⟨hindex, rfl⟩ := List.getElem?_eq_some_iff.mp hcorrupt
    rw [Option.bind_some, errorFor?_vmovq _ List.findIdx_getElem, Option.map_some]

/-- The records of the VMOVQ load in front of the first at which the pass ends are counted where
their second operand has another name. -/
theorem vmovq_modified :
    (vmovq.apply document).outcome.modified =
      ((document.records.take (document.records.findIdx vmovq.stopsAt)).countP fun record =>
        record.binaryEncoding == vmovqEncoding &&
          record.operandNames[1]? != some registerOrMemory : Nat) := by
  have hmodified : (vmovq.apply document).outcome.modified =
      (vmovq.scan 0 document.records).modified := rfl
  rw [hmodified, scan_modified_eq_countP_take]
  refine congrArg Nat.cast (List.countP_congr fun record hrecord => ?_)
  rw [changes_vmovq (vmovq.stopsAt_of_mem_take hrecord)]

end

/-- The pass over the fixed form works up to the first record of the encoding that does not have two
operands. In front of that record, the second of the two operands of every record of the encoding is
renamed, and those records are counted in which it had another name; the other records, and all from
the corrupt one on, stay as they were. The only error is about the corrupt record, if there is
one. -/
theorem vmovq_exact (document : Document) :
    let result := vmovq.apply document
    let first := document.records.findIdx fun record =>
      record.binaryEncoding == "VEX.128.F3.0F.WIG 7E /r" && record.operands.length != 2
    result.document.size = document.size ∧
      (∀ (index : Nat) (record : Record), document.records[index]? = some record →
        ∃ left, result.document.records[index]? = some left ∧
          (index < first → record.binaryEncoding = "VEX.128.F3.0F.WIG 7E /r" →
            ∃ operand second, record.operands = [operand, second] ∧
              left = { record with operands := [operand, { second with name := "xmm2/m64" }] }) ∧
          (first ≤ index ∨ record.binaryEncoding ≠ "VEX.128.F3.0F.WIG 7E /r" → left = record)) ∧
      result.outcome.errors = (document.records[first]?.map (corruptError first)).toList ∧
      result.outcome.modified =
        ((document.records.take first).countP fun record =>
          record.binaryEncoding == "VEX.128.F3.0F.WIG 7E /r" &&
            record.operandNames[1]? != some "xmm2/m64" : Nat) := by
  intro result first
  have hstops (record : Record) : vmovq.stopsAt record =
      (record.binaryEncoding == vmovqEncoding && record.operands.length != 2) := by
    rw [Bool.eq_iff_iff, stopsAt_vmovq_iff, Bool.and_eq_true, beq_iff_eq, bne_iff_ne]
  have hfirst : first = document.records.findIdx vmovq.stopsAt :=
    congrArg document.records.findIdx (funext fun record => (hstops record).symm)
  rw [hfirst]
  refine ⟨?_, fun index record hrecord => ?_, vmovq_errors document, vmovq_modified document⟩
  · rw [Document.size, vmovq_records, length_swept]
    rfl
  · rw [vmovq_records, swept_getElem?_findIdx, hrecord, Option.map_some]
    refine ⟨_, rfl, fun hindex hencoding => ?_, fun hother => ?_⟩
    · have hfront : record ∈ document.records.take (document.records.findIdx vmovq.stopsAt) :=
        List.mem_of_getElem? ((List.getElem?_take_of_lt hindex).trans hrecord)
      obtain ⟨operand, second, hoperands⟩ := exists_operands_of_mem_take hfront hencoding
      refine ⟨operand, second, hoperands, ?_⟩
      rw [if_pos hindex, revise_vmovq, Record.fixed_of_eq hencoding, hoperands]
      rfl
    · rcases hother with hindex | hencoding
      · exact if_neg (Nat.not_lt.mpr hindex)
      · rw [revise_vmovq, Record.fixed_of_ne hencoding, ite_self]

end OperandCleanup.Pass
