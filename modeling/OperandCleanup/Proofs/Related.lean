import Mathlib.Data.List.Forall2
import OperandCleanup.Proofs.Run

/-!
# What a pass looks at

A pass of the library looks at the mnemonic of a record, at its encoding and at the names of its
operands, and at nothing else. It moves whatever else there is without looking into it. So a pass
treats two records alike that agree in those: take any relation between the usages, the encodings
and the carried members of operands that giving both operands a name, or a name and a usage, does
not break. If the operands of two records are so related, and what the records themselves carry is
related in any way at all, then a pass makes related records of them.

The same then holds for what a pass makes of documents whose records are related one by one, and for
whole runs, which report the same about both.
-/

namespace OperandCleanup

open List (Forall₂)

/-! ## Relations that passes keep -/

/-- Whether a relation between operands is one that passes keep: related operands have the same
name, they stay related if both are given a name, or a name and a usage, and a new operand is
related to itself. -/
structure Operand.Congruent (onOperand : Operand → Operand → Prop) : Prop where
  name {operand other : Operand} (h : onOperand operand other) : operand.name = other.name
  rename {operand other : Operand} (h : onOperand operand other) (name : String) :
    onOperand { operand with name := name } { other with name := name }
  revise {operand other : Operand} (h : onOperand operand other) (name : String) (usage : Usage) :
    onOperand (operand.revised name usage) (other.revised name usage)
  new (name : String) : onOperand (Pass.implicitRead name) (Pass.implicitRead name)

/-- Records of one mnemonic and one encoding, with related operands and related carried members. -/
inductive Record.Related (onOperand : Operand → Operand → Prop)
    (onExtras : Json.Members → Json.Members → Prop) : Record → Record → Prop
  | intro {mnemonic binaryEncoding : String} {operands others : List Operand}
      {extras extras' : Json.Members} (hoperands : Forall₂ onOperand operands others)
      (hextras : onExtras extras extras') :
      Related onOperand onExtras ⟨mnemonic, binaryEncoding, operands, extras⟩
        ⟨mnemonic, binaryEncoding, others, extras'⟩

/-- Verdicts that come to the same for related records. -/
inductive Verdict.Related (onRecord : Record → Record → Prop) : Verdict → Verdict → Prop
  | unchanged : Related onRecord .unchanged .unchanged
  | changed {revised revised' : Record} {added added' : List Record}
      (hrevised : onRecord revised revised') (hadded : Forall₂ onRecord added added') :
      Related onRecord (.changed revised added) (.changed revised' added')
  | malformed (message : String) : Related onRecord (.malformed message) (.malformed message)
  | corrupt (headline : String) : Related onRecord (.corrupt headline) (.corrupt headline)

/-- Whether a pass keeps every relation that passes are to keep. -/
def Pass.Parametric (pass : Pass) : Prop :=
  ∀ {onOperand : Operand → Operand → Prop} {onExtras : Json.Members → Json.Members → Prop},
    Operand.Congruent onOperand → ∀ {record other : Record},
      record.Related onOperand onExtras other →
        (pass.judge record).Related (Record.Related onOperand onExtras) (pass.judge other)

section Operands

variable {onOperand : Operand → Operand → Prop} {operands others : List Operand}

/-- Related operands have the same names. -/
theorem Operand.Congruent.map_name (h : Operand.Congruent onOperand)
    (hoperands : Forall₂ onOperand operands others) :
    operands.map (·.name) = others.map (·.name) := by
  induction hoperands with
  | nil => rfl
  | cons hfirst _ ih => rw [List.map_cons, List.map_cons, h.name hfirst, ih]

/-- A test of names does not tell related operands apart. -/
theorem Operand.Congruent.any_name (h : Operand.Congruent onOperand)
    (hoperands : Forall₂ onOperand operands others) (test : String → Bool) :
    (operands.any fun operand => test operand.name) =
      others.any fun operand => test operand.name := by
  have hnames := congrArg (List.any · test) (h.map_name hoperands)
  simpa only [List.any_map, Function.comp_def] using hnames

/-- The operands that a test of names selects are related. -/
theorem Operand.Congruent.filter_name (h : Operand.Congruent onOperand)
    (hoperands : Forall₂ onOperand operands others) (test : String → Bool) :
    Forall₂ onOperand (operands.filter fun operand => test operand.name)
      (others.filter fun operand => test operand.name) := by
  refine List.rel_filter (fun operand other hrelated => ?_) hoperands
  simp only [h.name hrelated]

/-- Two operands that are given names and usages stay related to two others. -/
theorem Operand.Congruent.revise_both (h : Operand.Congruent onOperand)
    {first second first' second' : Operand} (hfirst : onOperand first first')
    (hsecond : onOperand second second') (name name' : String) (usage usage' : Usage) :
    Forall₂ onOperand [first.revised name usage, second.revised name' usage']
      [first'.revised name usage, second'.revised name' usage'] :=
  .cons (h.revise hfirst name usage) (.cons (h.revise hsecond name' usage') .nil)

end Operands

section Records

variable {onOperand : Operand → Operand → Prop} {onExtras : Json.Members → Json.Members → Prop}
  {record other : Record}

/-- Records are related member by member. -/
theorem Record.related_iff :
    record.Related onOperand onExtras other ↔
      record.mnemonic = other.mnemonic ∧ record.binaryEncoding = other.binaryEncoding ∧
        Forall₂ onOperand record.operands other.operands ∧ onExtras record.extras other.extras := by
  constructor
  · rintro ⟨hoperands, hextras⟩
    exact ⟨rfl, rfl, hoperands, hextras⟩
  · obtain ⟨mnemonic, binaryEncoding, operands, extras⟩ := record
    obtain ⟨mnemonic', binaryEncoding', operands', extras'⟩ := other
    rintro ⟨hmnemonic, hencoding, hoperands, hextras⟩
    obtain rfl : mnemonic = mnemonic' := hmnemonic
    obtain rfl : binaryEncoding = binaryEncoding' := hencoding
    exact .intro hoperands hextras

/-- A test for the name of an operand does not tell related records apart. -/
theorem Record.Related.hasOperand (hcongruent : Operand.Congruent onOperand)
    (h : record.Related onOperand onExtras other) (name : String) :
    record.hasOperand name = other.hasOperand name :=
  hcongruent.any_name (Record.related_iff.mp h).2.2.1 (· == name)

end Records

/-! ## The passes of the library -/

namespace Pass

/-- The messages and the forms of CMPS and MOVS depend on names only. -/
theorem parametric_cmpsMovs : cmpsMovs.Parametric := by
  intro onOperand onExtras hcongruent record other hrelated
  obtain ⟨hoperands, hextras⟩ := hrelated
  simp only [cmpsMovs, judgeCmpsMovs]
  split
  · rcases hoperands with _ | ⟨hfirst, _ | ⟨hsecond, _ | _⟩⟩
    · exact .malformed _
    · exact .malformed _
    · simp only [hcongruent.name hfirst]
      split
      · exact .malformed _
      · refine .changed (.intro ?_ hextras) .nil
        split
        · exact hcongruent.revise_both hfirst hsecond _ _ _ _
        · exact hcongruent.revise_both hfirst hsecond _ _ _ _
    · exact .malformed _
  · exact .unchanged

/-- So do those of INS and OUTS, on the names of both operands. -/
theorem parametric_insOuts : insOuts.Parametric := by
  intro onOperand onExtras hcongruent record other hrelated
  obtain ⟨hoperands, hextras⟩ := hrelated
  simp only [insOuts, judgeInsOuts]
  split
  · rcases hoperands with _ | ⟨hfirst, _ | ⟨hsecond, _ | _⟩⟩
    · exact .malformed _
    · exact .malformed _
    · simp only [hcongruent.name hfirst, hcongruent.name hsecond]
      split
      · exact .malformed _
      · refine .changed (.intro ?_ hextras) .nil
        split
        · exact hcongruent.revise_both hfirst hsecond _ _ _ _
        · exact hcongruent.revise_both hfirst hsecond _ _ _ _
    · exact .malformed _
  · exact .unchanged

/-- New operands take the place of a single one whatever else that was. -/
theorem parametric_lodsScasStos : lodsScasStos.Parametric := by
  intro onOperand onExtras hcongruent record other hrelated
  obtain ⟨hoperands, hextras⟩ := hrelated
  simp only [lodsScasStos, judgeLodsScasStos]
  split
  · rcases hoperands with _ | ⟨hfirst, _ | _⟩
    · exact .unchanged
    · simp only [hcongruent.name hfirst]
      split
      · exact .malformed _
      · refine .changed (.intro ?_ hextras) .nil
        rw [List.forall₂_map_left_iff, List.forall₂_map_right_iff, List.forall₂_same]
        exact fun name _ => hcongruent.new name
    · exact .unchanged
  · exact .unchanged

/-- The pass over the fixed form counts operands and looks at the name of the second. -/
theorem parametric_vmovq : vmovq.Parametric := by
  intro onOperand onExtras hcongruent record other hrelated
  obtain ⟨hoperands, hextras⟩ := hrelated
  simp only [vmovq, judgeVmovq]
  split
  · rcases hoperands with _ | ⟨hfirst, _ | ⟨hsecond, _ | _⟩⟩
    · exact .corrupt _
    · exact .corrupt _
    · simp only [hcongruent.name hsecond]
      split
      · exact .unchanged
      · have hrenamed := hcongruent.rename hsecond registerOrMemory
        exact .changed (.intro (.cons hfirst (.cons hrenamed .nil)) hextras) .nil
    · exact .corrupt _
  · exact .unchanged

/-- Placeholders are replaced in related operands alike. -/
theorem forall₂_withRegister {onOperand : Operand → Operand → Prop}
    (hcongruent : Operand.Congruent onOperand) {operands others : List Operand}
    (hoperands : Forall₂ onOperand operands others) (register : String) :
    Forall₂ onOperand (withRegister operands register) (withRegister others register) := by
  refine List.rel_map (fun operand other hrelated => ?_) hoperands
  simp only [hcongruent.name hrelated]
  split
  · exact hcongruent.rename hrelated register
  · exact hrelated

/-- The pass over the general registers looks for the placeholder among the names, and at the
mnemonic. -/
theorem parametric_generalRegister : generalRegister.Parametric := by
  intro onOperand onExtras hcongruent record other hrelated
  have hplaceholder := hrelated.hasOperand hcongruent placeholder
  obtain ⟨hoperands, hextras⟩ := hrelated
  simp only [generalRegister, judgeGeneralRegister, hplaceholder]
  split
  · have hrenamed (register : String) := forall₂_withRegister hcongruent hoperands register
    split
    · exact .changed (.intro (hrenamed "r32") hextras)
        (.cons (.intro (hrenamed "r64") hextras) .nil)
    · split
      · exact .malformed _
      · exact .changed (.intro (hrenamed _) hextras) .nil
  · exact .unchanged

/-- Synonyms are names. -/
theorem parametric_renameSynonyms : renameSynonyms.Parametric := by
  intro onOperand onExtras hcongruent record other hrelated
  obtain ⟨hoperands, hextras⟩ := hrelated
  simp only [renameSynonyms, judgeSynonyms]
  rw [hcongruent.any_name hoperands fun name => (canonicalName? name).isSome]
  split
  · refine .changed (.intro ?_ hextras) .nil
    refine List.rel_map (fun operand other hrelated => ?_) hoperands
    simp only [canonicalOperand, hcongruent.name hrelated]
    split
    · exact hcongruent.rename hrelated _
    · exact hrelated
  · exact .unchanged

/-- The operands of a name are removed whatever else they are. -/
theorem related_judgeRemoval {onOperand : Operand → Operand → Prop}
    {onExtras : Json.Members → Json.Members → Prop} (hcongruent : Operand.Congruent onOperand)
    {record other : Record} (hrelated : record.Related onOperand onExtras other) (name : String) :
    (judgeRemoval name record).Related (Record.Related onOperand onExtras)
      (judgeRemoval name other) := by
  have hname := hrelated.hasOperand hcongruent name
  obtain ⟨hoperands, hextras⟩ := hrelated
  simp only [judgeRemoval, hname]
  split
  · exact .changed (.intro (hcongruent.filter_name hoperands (· != name)) hextras) .nil
  · exact .unchanged

/-- The top of the register stack is removed where the encoding says so. -/
theorem parametric_removeStackTop : removeStackTop.Parametric := by
  intro onOperand onExtras hcongruent record other hrelated
  have hremoval := related_judgeRemoval hcongruent hrelated stackTop
  obtain ⟨hoperands, hextras⟩ := hrelated
  simp only [removeStackTop, judgeStackTop]
  split
  · exact hremoval
  · exact .unchanged

/-- The implied vector register is removed from every record. -/
theorem parametric_removeImpliedVector : removeImpliedVector.Parametric :=
  fun hcongruent _ _ hrelated => related_judgeRemoval hcongruent hrelated impliedVector

/-- Every pass of the library keeps every relation that passes are to keep. -/
theorem parametric_of_mem_standard {pass : Pass} (h : pass ∈ standard) : pass.Parametric := by
  simp only [standard, List.mem_cons, List.not_mem_nil, or_false] at h
  rcases h with rfl | rfl | rfl | rfl | rfl | rfl | rfl | rfl
  · exact parametric_cmpsMovs
  · exact parametric_insOuts
  · exact parametric_lodsScasStos
  · exact parametric_vmovq
  · exact parametric_generalRegister
  · exact parametric_renameSynonyms
  · exact parametric_removeStackTop
  · exact parametric_removeImpliedVector

end Pass

/-! ## Reports about related documents -/

/-- Errors that say the same, but for the text of a record that ends a pass. -/
structure DataError.Alike (error other : DataError) : Prop where
  kind : error.kind = other.kind
  transform : error.transform = other.transform
  recordIndex : error.recordIndex = other.recordIndex
  mnemonic : error.mnemonic = other.mnemonic
  message : error.kind ≠ .corruptFixedForm → error.message = other.message

/-- Outcomes with as many changes and with the same to report. -/
structure Outcome.Alike (outcome other : Outcome) : Prop where
  transform : outcome.transform = other.transform
  modified : outcome.modified = other.modified
  errors : Forall₂ DataError.Alike outcome.errors other.errors

/-- Entries for the same stage with the same numbers. -/
structure StageEntry.Alike (entry other : StageEntry) : Prop where
  stage : entry.stage = other.stage
  recordsBefore : entry.recordsBefore = other.recordsBefore
  recordsAfter : entry.recordsAfter = other.recordsAfter
  modified : entry.modified = other.modified

/-- Runs over the same stages that report the same, over documents with related records. -/
structure Run.Alike (onRecord : Record → Record → Prop) (run other : Run) : Prop where
  records : Forall₂ onRecord run.document.records other.document.records
  outcomes : Forall₂ Outcome.Alike run.outcomes other.outcomes
  stages : Forall₂ StageEntry.Alike run.stages other.stages
  stoppedEarly : run.stoppedEarly = other.stoppedEarly

/-- Outcomes that are alike are without errors together. -/
theorem Outcome.Alike.ok {outcome other : Outcome} (h : outcome.Alike other) :
    outcome.ok = other.ok := by
  rw [Bool.eq_iff_iff, Outcome.ok, Outcome.ok, List.isEmpty_iff_length_eq_zero,
    List.isEmpty_iff_length_eq_zero, h.errors.length_eq]

/-- A stage gives its name to outcomes that are alike or to neither. -/
theorem Outcome.Alike.named {outcome other : Outcome} (h : outcome.Alike other) (stage : Stage) :
    (stage.named outcome).Alike (stage.named other) := by
  rw [Stage.named, Stage.named, h.transform]
  split
  · exact ⟨rfl, h.modified, h.errors⟩
  · exact h

section Runs

variable {onOperand : Operand → Operand → Prop} {onExtras : Json.Members → Json.Members → Prop}

namespace Pass.Parametric

variable {pass : Pass}

/-- A pass over related records leaves related ones, adds related ones, and reports alike. -/
theorem scan (hpass : pass.Parametric) (hcongruent : Operand.Congruent onOperand)
    {records others : List Record} (h : Forall₂ (Record.Related onOperand onExtras) records others)
    (index : Nat) :
    Forall₂ (Record.Related onOperand onExtras) (pass.scan index records).records
        (pass.scan index others).records ∧
      Forall₂ (Record.Related onOperand onExtras) (pass.scan index records).added
        (pass.scan index others).added ∧
      Forall₂ DataError.Alike (pass.scan index records).errors (pass.scan index others).errors ∧
      (pass.scan index records).modified = (pass.scan index others).modified := by
  induction h generalizing index with
  | nil => exact ⟨.nil, .nil, .nil, rfl⟩
  | @cons record other rest more hfirst hrest ih =>
    obtain ⟨hrecords, hadded, herrors, hmodified⟩ := ih (index + 1)
    have hmnemonic := (Record.related_iff.mp hfirst).1
    have hverdict := hpass hcongruent hfirst
    rw [Pass.scan, Pass.scan]
    generalize pass.judge record = verdict at hverdict ⊢
    generalize pass.judge other = verdict' at hverdict ⊢
    cases hverdict with
    | unchanged => exact ⟨.cons hfirst hrecords, hadded, herrors, hmodified⟩
    | changed hrevised hmore =>
      exact ⟨.cons hrevised hrecords, List.rel_append hmore hadded, herrors,
        congrArg (· + 1) hmodified⟩
    | malformed message =>
      have herror : (pass.errorAt .malformedRecord index record message).Alike
          (pass.errorAt .malformedRecord index other message) :=
        ⟨rfl, rfl, rfl, hmnemonic, fun _ => rfl⟩
      exact ⟨.cons hfirst hrecords, hadded, .cons herror herrors, hmodified⟩
    | corrupt headline =>
      -- The text of the record follows the headline, so the messages may differ.
      refine ⟨.cons hfirst hrest, .nil, .cons ⟨rfl, rfl, rfl, hmnemonic, ?_⟩ .nil, rfl⟩
      exact fun hkind => absurd rfl hkind

/-- The outcomes of a pass over related documents are alike, and it leaves related documents. -/
theorem apply (hpass : pass.Parametric) (hcongruent : Operand.Congruent onOperand)
    {document other : Document}
    (h : Forall₂ (Record.Related onOperand onExtras) document.records other.records) :
    Forall₂ (Record.Related onOperand onExtras) (pass.apply document).document.records
        (pass.apply other).document.records ∧
      (pass.apply document).outcome.Alike (pass.apply other).outcome := by
  obtain ⟨hrecords, hadded, herrors, hmodified⟩ := hpass.scan hcongruent h 0
  exact ⟨List.rel_append hrecords hadded, rfl, congrArg Int.ofNat hmodified, herrors⟩

end Pass.Parametric

/-- A run over related documents stops at the same stage, if it stops, and is alike up to there. -/
theorem Pipeline.runStages_alike (hcongruent : Operand.Congruent onOperand) (failFast : Bool)
    {passes : List Pass} (hpasses : ∀ pass ∈ passes, pass.Parametric) {document other : Document}
    (h : Forall₂ (Record.Related onOperand onExtras) document.records other.records) :
    (runStages failFast (passes.map Pass.stage) document).Alike (Record.Related onOperand onExtras)
      (runStages failFast (passes.map Pass.stage) other) := by
  induction passes generalizing document other with
  | nil => exact ⟨h, .nil, .nil, rfl⟩
  | cons pass rest ih =>
    obtain ⟨hpass, hrest⟩ := List.forall_mem_cons.mp hpasses
    obtain ⟨hrecords, houtcome⟩ := hpass.apply hcongruent h
    have hentry : (pass.stage.entry document (pass.apply document)).Alike
        (pass.stage.entry other (pass.apply other)) :=
      ⟨rfl, h.length_eq, hrecords.length_eq, houtcome.modified⟩
    have hnamed := houtcome.named pass.stage
    have hsame : (failFast && !(pass.apply document).outcome.ok) =
        (failFast && !(pass.apply other).outcome.ok) := by rw [houtcome.ok]
    rw [List.map_cons]
    cases hstop : failFast && !(pass.apply document).outcome.ok with
    | true =>
      rw [runStages_cons_of_stop _ hstop, runStages_cons_of_stop _ (hsame.symm.trans hstop)]
      exact ⟨hrecords, .cons hnamed .nil, .cons hentry .nil, rfl⟩
    | false =>
      rw [runStages_cons_of_go _ hstop, runStages_cons_of_go _ (hsame.symm.trans hstop)]
      obtain ⟨hleft, houtcomes, hstages, hstopped⟩ := ih hrest hrecords
      exact ⟨hleft, .cons hnamed houtcomes, .cons hentry hstages, hstopped⟩

end Runs

end OperandCleanup
