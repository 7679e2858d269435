import OperandCleanup.Proofs.SameData

/-!
# Only the skeleton decides

The skeleton of a document is what passes look at: the mnemonic, the encoding and the names of the
operands of each record. Two documents of one skeleton have the same run, by any configuration: the
same stages, with the same numbers of records and of changes, and the same errors, but for the text
of a record that ends a pass. The documents that are left have one skeleton again. What usages,
encodings and carried members there are makes no difference; and if all of that is equal in the two
documents, in any order of members and with numbers by value, it is equal in those that are left.
-/

namespace OperandCleanup

open List (Forall₂)

/-- What passes look at in a record. -/
def Record.skeleton (record : Record) : String × String × List String :=
  (record.mnemonic, record.binaryEncoding, record.operandNames)

/-- Whether documents have the same skeleton: as many records, and one by one the same mnemonics,
encodings and names of operands. -/
def Document.SameSkeleton (document other : Document) : Prop :=
  document.records.map Record.skeleton = other.records.map Record.skeleton

instance (document other : Document) : Decidable (document.SameSkeleton other) :=
  inferInstanceAs (Decidable (document.records.map Record.skeleton = _))

/-- Having the same name is a relation that passes keep. -/
theorem Operand.congruent_sameName :
    Operand.Congruent fun operand other => operand.name = other.name where
  name h := h
  rename _ _ := rfl
  revise _ _ _ := rfl
  new _ := rfl

/-- Two lists are the same after a function exactly when the function gives the same, item by
item. -/
theorem map_eq_map_iff_forall₂ {α β γ : Type} {f : α → γ} {g : β → γ} {left : List α}
    {right : List β} :
    left.map f = right.map g ↔ Forall₂ (fun item other => f item = g other) left right := by
  rw [← List.forall₂_map_right_iff, ← List.forall₂_map_left_iff, List.forall₂_eq_eq_eq]

/-- Records have the same skeleton exactly when they are related by the names of their operands. -/
theorem Record.skeleton_eq_iff {record other : Record} :
    record.skeleton = other.skeleton ↔
      record.Related (fun operand other => operand.name = other.name) (fun _ _ => True) other := by
  rw [related_iff, skeleton, skeleton, Prod.mk.injEq, Prod.mk.injEq, operandNames, operandNames,
    map_eq_map_iff_forall₂, and_true]

/-- Documents have the same skeleton exactly when their records are related by the names of their
operands. -/
theorem Document.sameSkeleton_iff {document other : Document} :
    document.SameSkeleton other ↔
      Forall₂ (Record.Related (fun operand other => operand.name = other.name) fun _ _ => True)
        document.records other.records := by
  rw [SameSkeleton, map_eq_map_iff_forall₂]
  simp only [Record.skeleton_eq_iff]

/-- Cleanups of documents with related records are alike. -/
theorem cleanup_alike {onOperand : Operand → Operand → Prop}
    {onExtras : Json.Members → Json.Members → Prop} (hcongruent : Operand.Congruent onOperand)
    {config : Config} (hconfig : config.KnownTo Registry.default) {document other : Document}
    (h : Forall₂ (Record.Related onOperand onExtras) document.records other.records) :
    ∃ run otherRun, cleanup document config = .ok run ∧ cleanup other config = .ok otherRun ∧
      run.Alike (Record.Related onOperand onExtras) otherRun := by
  refine ⟨_, _, cleanup_selected hconfig document, cleanup_selected hconfig other, ?_⟩
  obtain ⟨hrecords, houtcomes, hstages, hstopped⟩ :=
    Pipeline.runStages_alike hcongruent config.failFast
      (fun pass hpass => Pass.parametric_of_mem_standard (List.mem_filter.mp hpass).1) h
  exact ⟨hrecords, houtcomes, hstages, hstopped⟩

/-- Documents of one skeleton have the same cleanup, by any configuration: the same stages with the
same numbers and the same errors, but for the messages about corrupt records, and an end at the same
stage. The documents that are left have one skeleton, and they are equal if the two documents are
and can come about. -/
theorem cleanup_sameSkeleton {config : Config} (hconfig : config.KnownTo Registry.default)
    {document other : Document} (h : document.SameSkeleton other) :
    ∃ run otherRun, cleanup document config = .ok run ∧ cleanup other config = .ok otherRun ∧
      Forall₂ StageEntry.Alike run.stages otherRun.stages ∧
      Forall₂ Outcome.Alike run.outcomes otherRun.outcomes ∧
      run.stoppedEarly = otherRun.stoppedEarly ∧
      run.document.SameSkeleton otherRun.document ∧
      (document.Reachable → other.Reachable → document.equals other = true →
        run.document.equals otherRun.document = true) := by
  obtain ⟨run, otherRun, hrun, hotherRun, halike⟩ :=
    cleanup_alike Operand.congruent_sameName hconfig (Document.sameSkeleton_iff.mp h)
  refine ⟨run, otherRun, hrun, hotherRun, halike.stages, halike.outcomes, halike.stoppedEarly,
    Document.sameSkeleton_iff.mpr halike.records, fun hdocument hother hequals => ?_⟩
  -- The same two runs, related by a finer relation.
  have hdata := (Document.equals_iff hdocument.wellFormed hother.wellFormed).mp hequals
  obtain ⟨_, _, hsame, hotherSame, hfiner⟩ :=
    cleanup_alike Operand.congruent_sameData hconfig hdata
  obtain rfl := Except.ok.inj (hrun.symm.trans hsame)
  obtain rfl := Except.ok.inj (hotherRun.symm.trans hotherSame)
  exact (Document.equals_iff (hdocument.cleanup hconfig hrun).wellFormed
    (hother.cleanup hconfig hotherRun).wellFormed).mpr hfiner.records

/-- A load into a register of no stated size, with a flag on it and a count on its operand. -/
def flaggedLoad : Record where
  mnemonic := "LAR"
  operands := [{ name := "reg", extras := [("count", .int 1)] }]
  extras := [("flag", .bool true), ("note", .null)]

/-- The load with other values that are equal, and without the note. -/
def reflaggedLoad : Record where
  mnemonic := "LAR"
  operands :=
    [{ name := "reg", extras := [("count", .float (.finite false 4503599627370496 (-52)))] }]
  extras := [("flag", .int 1)]

/-- A text of the load. -/
def flaggedText : String :=
  "\x7b\"instructions\":[\x7b\"mnemonic\":\"LAR\",\"vendor_syntax\":" ++
    "[\x7b\"name\":\"reg\",\"count\":1\x7d],\"flag\":true,\"note\":null\x7d]\x7d"

/-- A text of the other load, with its members in another order. -/
def reflaggedText : String :=
  "\x7b\"instructions\":[\x7b\"flag\":1,\"vendor_syntax\":" ++
    "[\x7b\"count\":1.0,\"name\":\"reg\"\x7d],\"mnemonic\":\"LAR\"\x7d]\x7d"

/-- The loads are read and split, and what is left of them is equal. -/
theorem cleanup_sameSkeleton_flaggedLoad :
    ({} : Config).KnownTo Registry.default ∧
      Document.parse flaggedText.toList = .ok ⟨[flaggedLoad]⟩ ∧
      Document.parse reflaggedText.toList = .ok ⟨[reflaggedLoad]⟩ ∧
      Document.SameSkeleton ⟨[flaggedLoad]⟩ ⟨[reflaggedLoad]⟩ ∧
      ∃ run otherRun, cleanup ⟨[flaggedLoad]⟩ {} = .ok run ∧
        cleanup ⟨[reflaggedLoad]⟩ {} = .ok otherRun ∧ run.document.size = 2 ∧
        run.document ≠ otherRun.document ∧ run.document.equals otherRun.document = true := by
  have hknown : ({} : Config).KnownTo Registry.default := by decide
  have hread : Document.parse flaggedText.toList = .ok ⟨[flaggedLoad]⟩ := rfl
  have hreread : Document.parse reflaggedText.toList = .ok ⟨[reflaggedLoad]⟩ := rfl
  have hskeleton : Document.SameSkeleton ⟨[flaggedLoad]⟩ ⟨[reflaggedLoad]⟩ := by decide
  obtain ⟨run, otherRun, hrun, hotherRun, -, -, -, -, hequals⟩ :=
    cleanup_sameSkeleton hknown hskeleton
  refine ⟨hknown, hread, hreread, hskeleton, run, otherRun, hrun, hotherRun, ?_, ?_,
    hequals (.read hread) (.read hreread) (by decide)⟩
  · obtain rfl := Except.ok.inj ((cleanup_selected hknown _).symm.trans hrun)
    decide
  · obtain rfl := Except.ok.inj ((cleanup_selected hknown _).symm.trans hrun)
    obtain rfl := Except.ok.inj ((cleanup_selected hknown _).symm.trans hotherRun)
    decide

end OperandCleanup
