import OperandCleanup.Proofs.Standard

/-!
# What a cleanup leaves in no record

The passes that remove operands come last, and the names that they look for are made by a pass
before them, never after. So what each of the last four passes establishes holds of every record of
the result, of the wide copies as of the others. A placeholder is left in the one case in which the
pass that replaces it has reported its record.
-/

namespace OperandCleanup

namespace Record

/-- A record without synonyms and without implied operands. -/
structure Clean (record : Record) : Prop where
  canonical : ∀ operand ∈ record.operands, operand.name ∉ Pass.synonyms.map (·.1)
  vectorless : ∀ operand ∈ record.operands, operand.name ≠ Pass.impliedVector
  stackless : record.binaryEncoding ∈ Pass.stackTopEncodings →
    ∀ operand ∈ record.operands, operand.name ≠ Pass.stackTop

/-- A settled record is clean. -/
theorem clean_settled (record : Record) : record.settled.Clean := by
  have hremains : ∀ operand ∈ record.settled.operands,
      Pass.remains record.binaryEncoding operand.name = true :=
    fun operand hoperand => (mem_settled_operands.mp hoperand).2
  refine ⟨fun operand hoperand hsynonym => ?_, fun operand hoperand hvector => ?_,
    fun hencoding operand hoperand hstack => ?_⟩
  · have hname := settledName_of_mem_settled hoperand
    have hcanonical := Pass.canonicalName?_settledName record.mnemonic operand.name
    rw [hname] at hcanonical
    obtain ⟨entry, hentry, heq⟩ := List.mem_map.mp hsynonym
    have htable : ∀ entry ∈ Pass.synonyms, Pass.canonicalName? entry.1 ≠ none := by decide
    exact htable entry hentry (heq ▸ hcanonical)
  · have hremains := hremains operand hoperand
    simp [Pass.remains, hvector] at hremains
  · have hremains := hremains operand hoperand
    rw [settled_binaryEncoding] at hencoding
    simp [Pass.remains, hstack, hencoding] at hremains

/-- A settled record has the placeholder where an operand has settled on it. -/
theorem exists_placeholder_settled_iff (record : Record) :
    (∃ operand ∈ record.settled.operands, operand.name = Pass.placeholder) ↔
      ∃ operand ∈ record.operands,
        Pass.settledName record.mnemonic operand.name = Pass.placeholder := by
  constructor
  · rintro ⟨operand, hoperand, hname⟩
    obtain ⟨⟨original, horiginal, rfl⟩, -⟩ := mem_settled_operands.mp hoperand
    exact ⟨original, horiginal, hname⟩
  · rintro ⟨original, horiginal, hname⟩
    have hremains : Pass.remains record.binaryEncoding Pass.placeholder = true := by
      have hvector : Pass.placeholder ≠ Pass.impliedVector := by decide
      have hstack : Pass.placeholder ≠ Pass.stackTop := by decide
      simp [Pass.remains, hvector, hstack]
    refine ⟨_, mem_settled_operands.mpr ⟨⟨original, horiginal, rfl⟩, ?_⟩, hname⟩
    rwa [Operand.renamed, hname]

end Record

namespace Pipeline

/-- The register pass reports a record for a placeholder that it cannot replace. -/
theorem errorsAt_generalRegister (document : Document) (index : Nat) :
    (bestEffort Pass.standard document).errorsAt Pass.generalRegister.name index ≠ [] ↔
      ∃ record, (prepared document.records)[index]? = some record ∧
        ∃ operand ∈ record.operands,
          Pass.settledName record.mnemonic operand.name = Pass.placeholder := by
  have hsplit : Pass.standard =
      (StringInstruction.passes ++ [.vmovq]) ++
        .generalRegister :: [.renameSynonyms, .removeStackTop, .removeImpliedVector] := rfl
  rw [hsplit, errorsAt_bestEffort _ _ _ _ _ (by decide) (by decide), through_prepared,
    Pass.generalRegister.reached_of_forall fun record _ => Pass.total_generalRegister record]
  cases hrecord : (prepared document.records)[index]? with
  | none => simp
  | some record =>
    have herror : Pass.generalRegister.errorFor? index record ≠ none ↔
        ∃ operand ∈ record.operands,
          Pass.settledName record.mnemonic operand.name = Pass.placeholder := by
      rw [ne_eq, Pass.errorFor?_eq_none_iff, Pass.accepts_generalRegister_iff]
      simp
    simpa [Option.toList_eq_nil_iff] using herror

end Pipeline

/-- After a cleanup by default every record is clean, the wide copies included, and a record has the
placeholder exactly where the register pass has reported it. -/
theorem cleanup_closure (document : Document) :
    ∃ run, cleanup document = .ok run ∧
      (∀ record ∈ run.document.records, record.Clean) ∧
      ∀ index record, run.document.records[index]? = some record →
        ((∃ operand ∈ record.operands, operand.name = Pass.placeholder) ↔
          run.errorsAt Pass.generalRegister.name index ≠ []) := by
  refine ⟨_, cleanup_default document, fun record hrecord => ?_, fun index record hrecord => ?_⟩
  · obtain ⟨original, rfl⟩ := Pipeline.exists_settled_of_mem_standard hrecord
    exact original.clean_settled
  · rw [Pipeline.errorsAt_generalRegister]
    rw [Pipeline.standard_records, List.getElem?_map] at hrecord
    obtain ⟨original, horiginal, rfl⟩ := Option.map_eq_some_iff.mp hrecord
    rw [Record.exists_placeholder_settled_iff]
    rcases Nat.lt_or_ge index (Pipeline.prepared document.records).length with hindex | hindex
    · rw [List.getElem?_append_left hindex] at horiginal
      simp [horiginal]
    · have hcopy : original ∈ Pipeline.wideCopies (Pipeline.prepared document.records) := by
        rw [List.getElem?_append_right hindex] at horiginal
        exact List.mem_of_getElem? horiginal
      obtain ⟨narrow, -, -, rfl⟩ := Pipeline.exists_wide_of_mem_wideCopies hcopy
      rw [List.getElem?_eq_none hindex]
      refine iff_of_false ?_ (by simp)
      rintro ⟨operand, hoperand, hname⟩
      exact Pass.name_ne_placeholder_of_mem_wide hoperand
        ((Pass.settledName_eq_placeholder_iff _ _).mp hname).1

end OperandCleanup
