import OperandCleanup.Pass.Basic

/-!
# What a pass leaves of a document

A pass decides about each record from that record alone, so what it leaves is known record by
record, up to the first record at which it ends. The records up to there, that one included, are
the records it reaches. Each of them gives way to its revision, the others stay, and errors are
reported about reached records only, each at the place of its record.

Nothing here depends on what a particular pass decides.
-/

namespace OperandCleanup

namespace Verdict

/-- The record that stands in the place of the judged one. -/
def inPlace (record : Record) : Verdict → Record
  | .changed revised _ => revised
  | _ => record

/-- The records that are added to the document. -/
def additions : Verdict → List Record
  | .changed _ added => added
  | _ => []

/-- Whether nothing is reported about the record. -/
def accepts : Verdict → Bool
  | .unchanged => true
  | .changed .. => true
  | _ => false

/-- Whether the pass ends at the record. -/
def stops : Verdict → Bool
  | .corrupt _ => true
  | _ => false

/-- Whether the judged record counts as changed. -/
def changes : Verdict → Bool
  | .changed .. => true
  | _ => false

end Verdict

/-- Whether an error is what a transform of a name reports about the record at an index. -/
structure DataError.IsAbout (error : DataError) (name : String) (index : Nat) (record : Record) :
    Prop where
  transform : error.transform = name
  recordIndex : error.recordIndex = some (index : Int)
  mnemonic : error.mnemonic = record.mnemonic

namespace Pass

/-- What a pass makes of a record in its place. -/
def revise (pass : Pass) (record : Record) : Record := (pass.judge record).inPlace record

/-- What a pass adds to the document for a record. -/
def additions (pass : Pass) (record : Record) : List Record := (pass.judge record).additions

/-- Whether a pass has nothing to report about a record. -/
def accepts (pass : Pass) (record : Record) : Bool := (pass.judge record).accepts

/-- Whether a pass ends at a record. -/
def stopsAt (pass : Pass) (record : Record) : Bool := (pass.judge record).stops

/-- Whether a pass counts a record as changed. -/
def changes (pass : Pass) (record : Record) : Bool := (pass.judge record).changes

/-- What a pass reports about a record at an index. -/
def errorFor? (pass : Pass) (index : Nat) (record : Record) : Option DataError :=
  match pass.judge record with
  | .malformed message => some (pass.errorAt .malformedRecord index record message)
  | .corrupt headline =>
    some (pass.errorAt .corruptFixedForm index record
      (headline ++ String.ofList record.toJson.literal))
  | _ => none

/-- The records that a pass looks at: all up to the first at which it ends, that one included. -/
def reached (pass : Pass) : List Record → List Record
  | [] => []
  | record :: rest => if pass.stopsAt record then [record] else record :: pass.reached rest

/-- What a pass reports about records, the first of them at an index. -/
def errorsFrom (pass : Pass) : Nat → List Record → List DataError
  | _, [] => []
  | index, record :: rest =>
    (pass.errorFor? index record).toList ++ pass.errorsFrom (index + 1) rest

/-- What a pass leaves in the places of the records. -/
def swept (pass : Pass) (records : List Record) : List Record :=
  (pass.reached records).map pass.revise ++ records.drop (pass.reached records).length

/-- What a pass adds at the end of the document. -/
def appended (pass : Pass) (records : List Record) : List Record :=
  (pass.reached records).flatMap pass.additions

/-- Whether a pass ends at no record. -/
def Total (pass : Pass) : Prop := ∀ record, pass.stopsAt record = false

/-- Whether a pass only revises records: it ends at none and adds none. -/
def RecordWise (pass : Pass) : Prop :=
  ∀ record, pass.stopsAt record = false ∧ pass.additions record = []

variable (pass : Pass)

/-- A record that a pass decides to leave stays. -/
theorem revise_of_unchanged {pass : Pass} {record : Record} (h : pass.judge record = .unchanged) :
    pass.revise record = record := by
  rw [revise, h]
  rfl

/-- A record that a pass decides to leave is accepted. -/
theorem accepts_of_unchanged {pass : Pass} {record : Record} (h : pass.judge record = .unchanged) :
    pass.accepts record = true := by
  rw [accepts, h]
  rfl

/-- A record at which a pass ends is left as it is. -/
theorem revise_of_stopsAt {record : Record} (h : pass.stopsAt record = true) :
    pass.revise record = record := by
  unfold stopsAt at h
  unfold revise
  cases hjudge : pass.judge record with
  | corrupt headline => rfl
  | unchanged => simp [hjudge, Verdict.stops] at h
  | changed revised added => simp [hjudge, Verdict.stops] at h
  | malformed message => simp [hjudge, Verdict.stops] at h

/-- A pass ends only at records that it reports. -/
theorem stopsAt_of_accepts {record : Record} (h : pass.accepts record = true) :
    pass.stopsAt record = false := by
  unfold accepts at h
  unfold stopsAt
  cases hjudge : pass.judge record with
  | corrupt headline => simp [hjudge, Verdict.accepts] at h
  | unchanged => rfl
  | changed revised added => rfl
  | malformed message => rfl

/-- A record is reported or accepted. -/
theorem errorFor?_eq_none_iff (index : Nat) (record : Record) :
    pass.errorFor? index record = none ↔ pass.accepts record = true := by
  unfold errorFor? accepts
  cases pass.judge record <;> simp [Verdict.accepts]

/-- A record that is reported is not accepted. -/
theorem accepts_of_errorFor? {index : Nat} {record : Record} {error : DataError}
    (h : pass.errorFor? index record = some error) : pass.accepts record = false := by
  rw [Bool.eq_false_iff, ne_eq, ← pass.errorFor?_eq_none_iff index, h]
  exact Option.some_ne_none error

/-- What a pass reports about a record is about that record. -/
theorem isAbout_of_errorFor? {index : Nat} {record : Record} {error : DataError}
    (h : pass.errorFor? index record = some error) : error.IsAbout pass.name index record := by
  unfold errorFor? at h
  cases hjudge : pass.judge record with
  | unchanged => simp [hjudge] at h
  | changed revised added => simp [hjudge] at h
  | malformed message =>
    simp only [hjudge, Option.some.injEq] at h
    rw [← h]
    exact ⟨rfl, rfl, rfl⟩
  | corrupt headline =>
    simp only [hjudge, Option.some.injEq] at h
    rw [← h]
    exact ⟨rfl, rfl, rfl⟩

/-! ## The records that a pass reaches -/

/-- A pass that ends at no record of a list reaches all of them. -/
theorem reached_of_forall {records : List Record}
    (h : ∀ record ∈ records, pass.stopsAt record = false) : pass.reached records = records := by
  induction records with
  | nil => rfl
  | cons record rest ih =>
    have hrest : pass.reached rest = rest := ih fun other hother => h other (by simp [hother])
    simp [reached, h record (by simp), hrest]

/-- A pass that ends at a record reaches those before the first such record, and that one. -/
theorem reached_eq_take (records : List Record) :
    pass.reached records = records.take (records.findIdx pass.stopsAt + 1) := by
  induction records with
  | nil => rfl
  | cons record rest ih =>
    rw [reached, List.findIdx_cons]
    cases pass.stopsAt record with
    | true => simp
    | false => simp [ih]

/-- The records that a pass reaches are among the records. -/
theorem mem_of_mem_reached {records : List Record} {record : Record}
    (h : record ∈ pass.reached records) : record ∈ records := by
  rw [reached_eq_take] at h
  exact List.mem_of_mem_take h

/-- Only the last of the reached records can end the pass, so a pass that accepts all of them has
reached every record. -/
theorem forall_reached_accepts_iff (records : List Record) :
    (∀ record ∈ pass.reached records, pass.accepts record = true) ↔
      ∀ record ∈ records, pass.accepts record = true := by
  constructor
  · intro h
    induction records with
    | nil => simp
    | cons record rest ih =>
      have hfirst : pass.accepts record = true := by
        refine h record ?_
        unfold reached
        split <;> simp
      have hgo := pass.stopsAt_of_accepts hfirst
      simp only [reached, hgo, Bool.false_eq_true, ↓reduceIte, List.mem_cons, forall_eq_or_imp] at h
      simpa [hfirst] using ih h.2
  · intro h
    rwa [pass.reached_of_forall fun record hrecord => pass.stopsAt_of_accepts (h record hrecord)]

/-! ## The records after a pass -/

@[simp] theorem swept_nil : pass.swept [] = [] := rfl

/-- From the record on at which a pass ends, every record stays. -/
theorem swept_cons_of_stopsAt {record : Record} (rest : List Record)
    (h : pass.stopsAt record = true) : pass.swept (record :: rest) = record :: rest := by
  simp [swept, reached, h, pass.revise_of_stopsAt h]

/-- A record at which a pass goes on gives way to its revision. -/
theorem swept_cons_of_not_stopsAt {record : Record} (rest : List Record)
    (h : pass.stopsAt record = false) :
    pass.swept (record :: rest) = pass.revise record :: pass.swept rest := by
  simp [swept, reached, h]

/-- A pass keeps every record's place. -/
@[simp] theorem length_swept (records : List Record) :
    (pass.swept records).length = records.length := by
  induction records with
  | nil => rfl
  | cons record rest ih =>
    cases h : pass.stopsAt record with
    | true => rw [pass.swept_cons_of_stopsAt rest h]
    | false => simp [pass.swept_cons_of_not_stopsAt rest h, ih]

/-- What stands at an index comes from the record there: the record itself or its revision. -/
theorem swept_getElem? (records : List Record) (index : Nat) :
    (pass.swept records)[index]? =
      (records[index]?).map fun record =>
        if index < (pass.reached records).length then pass.revise record else record := by
  induction records generalizing index with
  | nil => simp
  | cons record rest ih =>
    cases h : pass.stopsAt record with
    | true =>
      rw [pass.swept_cons_of_stopsAt rest h]
      cases index with
      | zero => simp [reached, h, pass.revise_of_stopsAt h]
      | succ index => simp [reached, h]
    | false =>
      rw [pass.swept_cons_of_not_stopsAt rest h]
      cases index with
      | zero => simp [reached, h]
      | succ index => simp [reached, h, ih]

/-- A pass that ends at no record of a list revises all of them. -/
theorem swept_of_forall {records : List Record}
    (h : ∀ record ∈ records, pass.stopsAt record = false) :
    pass.swept records = records.map pass.revise := by
  simp [swept, pass.reached_of_forall h]

/-- The scan leaves the swept records in place. -/
theorem scan_records (index : Nat) (records : List Record) :
    (pass.scan index records).records = pass.swept records := by
  induction records generalizing index with
  | nil => rfl
  | cons record rest ih =>
    cases hjudge : pass.judge record <;>
      simp [scan, hjudge, ih, swept, reached, stopsAt, Verdict.stops, revise, Verdict.inPlace]

/-- The scan collects the additions of the reached records. -/
theorem scan_added (index : Nat) (records : List Record) :
    (pass.scan index records).added = pass.appended records := by
  induction records generalizing index with
  | nil => rfl
  | cons record rest ih =>
    cases hjudge : pass.judge record <;>
      simp [scan, hjudge, ih, appended, reached, stopsAt, Verdict.stops, additions,
        Verdict.additions]

/-- The scan counts the changed ones among the reached records. -/
theorem scan_modified (index : Nat) (records : List Record) :
    (pass.scan index records).modified = (pass.reached records).countP pass.changes := by
  induction records generalizing index with
  | nil => rfl
  | cons record rest ih =>
    cases hjudge : pass.judge record <;>
      simp [scan, hjudge, ih, reached, stopsAt, Verdict.stops, changes, Verdict.changes]

/-- The records that a pass leaves, its additions at the end. -/
theorem apply_records (document : Document) :
    (pass.apply document).document.records =
      pass.swept document.records ++ pass.appended document.records := by
  simp [apply, scan_records, scan_added]

/-- What a pass keeps of every record, and gives to those that it adds, it keeps of a document. -/
theorem forall_mem_apply {P : Record → Prop}
    (hrevise : ∀ record, P record → P (pass.revise record))
    (hadditions : ∀ record, P record → ∀ added ∈ pass.additions record, P added)
    {document : Document} (h : ∀ record ∈ document.records, P record) :
    ∀ record ∈ (pass.apply document).document.records, P record := by
  intro record hrecord
  rw [apply_records] at hrecord
  rcases List.mem_append.mp hrecord with hswept | hadded
  · obtain ⟨index, hindex⟩ := List.mem_iff_getElem?.mp hswept
    rw [swept_getElem?] at hindex
    obtain ⟨original, horiginal, rfl⟩ := Option.map_eq_some_iff.mp hindex
    have hkept := h original (List.mem_of_getElem? horiginal)
    split
    · exact hrevise original hkept
    · exact hkept
  · obtain ⟨original, horiginal, hadded⟩ := List.mem_flatMap.mp hadded
    exact hadditions original (h original (pass.mem_of_mem_reached horiginal)) record hadded

/-- A pass that adds nothing for any record adds nothing. -/
theorem appended_eq_nil {pass : Pass} (h : ∀ record, pass.additions record = [])
    (records : List Record) : pass.appended records = [] :=
  List.flatMap_eq_nil_iff.mpr fun record _ => h record

/-- A pass that only revises records leaves their revisions. -/
theorem RecordWise.swept_append_appended {pass : Pass} (h : pass.RecordWise)
    (records : List Record) :
    pass.swept records ++ pass.appended records = records.map pass.revise := by
  rw [appended_eq_nil fun record => (h record).2, List.append_nil,
    pass.swept_of_forall fun record _ => (h record).1]

/-! ## The errors of a pass -/

/-- The errors of a scan are those about the reached records. -/
theorem scan_errors (index : Nat) (records : List Record) :
    (pass.scan index records).errors = pass.errorsFrom index (pass.reached records) := by
  induction records generalizing index with
  | nil => rfl
  | cons record rest ih =>
    cases hjudge : pass.judge record <;>
      simp [scan, hjudge, ih, reached, stopsAt, Verdict.stops, errorsFrom, errorFor?]

/-- The errors are what is reported about each record at its index. -/
theorem errorsFrom_eq_filterMap (first : Nat) (records : List Record) :
    pass.errorsFrom first records =
      (records.zipIdx first).filterMap fun (record, index) => pass.errorFor? index record := by
  induction records generalizing first with
  | nil => rfl
  | cons record rest ih =>
    rw [errorsFrom, ih, List.zipIdx_cons, List.filterMap_cons]
    cases herror : pass.errorFor? first record <;> simp [herror]

/-- Every error is about one of the records, at its index. -/
theorem mem_errorsFrom {first : Nat} {records : List Record} {error : DataError} :
    error ∈ pass.errorsFrom first records ↔
      ∃ offset record, records[offset]? = some record ∧
        pass.errorFor? (first + offset) record = some error := by
  induction records generalizing first with
  | nil => simp [errorsFrom]
  | cons record rest ih =>
    rw [errorsFrom, List.mem_append, ih, Option.mem_toList]
    constructor
    · rintro (herror | ⟨offset, other, hother, herror⟩)
      · exact ⟨0, record, rfl, herror⟩
      · exact ⟨offset + 1, other, hother, by rwa [← Nat.add_assoc, Nat.add_right_comm]⟩
    · rintro ⟨offset, other, hother, herror⟩
      cases offset with
      | zero =>
        obtain rfl : record = other := by simpa using hother
        exact Or.inl herror
      | succ offset =>
        exact Or.inr ⟨offset, other, hother, by rwa [Nat.add_right_comm, Nat.add_assoc]⟩

/-- Nothing is reported exactly when every record is accepted. -/
theorem scan_errors_eq_nil_iff (index : Nat) (records : List Record) :
    (pass.scan index records).errors = [] ↔ ∀ record ∈ records, pass.accepts record = true := by
  rw [scan_errors, ← forall_reached_accepts_iff]
  induction pass.reached records generalizing index with
  | nil => simp [errorsFrom]
  | cons record rest ih =>
    simp [errorsFrom, ih, Option.toList_eq_nil_iff, pass.errorFor?_eq_none_iff]

/-- No error from an index on is at an earlier one. -/
theorem errorsFrom_filter_of_lt {first index : Nat} (records : List Record) (h : index < first) :
    (pass.errorsFrom first records).filter (·.recordIndex == some (index : Int)) = [] := by
  rw [List.filter_eq_nil_iff]
  intro error herror
  obtain ⟨offset, record, -, herror⟩ := pass.mem_errorsFrom.mp herror
  rw [(pass.isAbout_of_errorFor? herror).recordIndex]
  simp only [beq_iff_eq, Option.some.injEq]
  omega

/-- The errors at an index are what is reported about the record there. -/
theorem errorsFrom_filter (first offset : Nat) (records : List Record) :
    (pass.errorsFrom first records).filter
        (·.recordIndex == some ((first + offset : Nat) : Int)) =
      (records[offset]?.bind (pass.errorFor? (first + offset))).toList := by
  induction records generalizing first offset with
  | nil => simp [errorsFrom]
  | cons record rest ih =>
    rw [errorsFrom, List.filter_append]
    cases offset with
    | zero =>
      rw [Nat.add_zero, pass.errorsFrom_filter_of_lt rest (Nat.lt_succ_self first), List.append_nil]
      cases herror : pass.errorFor? first record with
      | none => simp [herror]
      | some error => simp [herror, (pass.isAbout_of_errorFor? herror).recordIndex]
    | succ offset =>
      have hfirst : (pass.errorFor? first record).toList.filter
          (·.recordIndex == some ((first + (offset + 1) : Nat) : Int)) = [] := by
        cases herror : pass.errorFor? first record with
        | none => rfl
        | some error =>
          simp only [Option.toList_some, List.filter_cons,
            (pass.isAbout_of_errorFor? herror).recordIndex]
          simp
          omega
      rw [hfirst, List.nil_append, ← Nat.add_assoc, Nat.add_right_comm, ih (first + 1) offset]
      rfl

/-- The errors of a scan at an index are what is reported about the record reached there. -/
theorem scan_errors_filter (records : List Record) (index : Nat) :
    (pass.scan 0 records).errors.filter (·.recordIndex == some (index : Int)) =
      ((pass.reached records)[index]?.bind (pass.errorFor? index)).toList := by
  simpa [scan_errors] using pass.errorsFrom_filter 0 index (pass.reached records)

end Pass

end OperandCleanup
