import OperandCleanup.Document.Draft.Passes
import OperandCleanup.Proofs.Carried
import OperandCleanup.Proofs.Draft.Editing
import OperandCleanup.Proofs.Related

/-!
# Passes over drafts of checked documents

What a pass sees of a record of a draft stands for the record: mnemonic, encoding and names are its
own, and each operand holds the place at which the rest of it is found. A pass looks at nothing
else and moves the rest, so what it makes of the one stands for what it makes of the other, and the
places lead back to it. On a checked document every reading succeeds besides. So a pass over the
draft of a document leaves the draft of what it leaves of the document and has the same outcome,
and passes one after the other do.
-/

namespace OperandCleanup

open List (Forall₂)

/-! ## What stands for an operand -/

/-- Whether an operand stands for another one: its name, usage and encoding are the other's, and it
holds the place among some operands where the members are found that the other carries along. A new
operand carries none and stands for itself. -/
structure Operand.StandsFor (operands : List Operand) (seen operand : Operand) : Prop where
  name : seen.name = operand.name
  usage : seen.usage = operand.usage
  encoding : seen.encoding = operand.encoding
  extras : seen.extras = [] ∧ operand.extras = [] ∨
    ∃ (position : Nat) (original : Operand), seen.extras = [("name", .int position)] ∧
      operands[position]? = some original ∧ operand.extras = original.extras

/-- Passes keep what stands for what. -/
theorem Operand.congruent_standsFor (operands : List Operand) :
    Operand.Congruent (StandsFor operands) where
  name h := h.name
  rename h _ := ⟨rfl, h.usage, h.encoding, h.extras⟩
  revise h _ _ := ⟨rfl, rfl, h.encoding, h.extras⟩
  new _ := ⟨rfl, rfl, rfl, Or.inl ⟨rfl, rfl⟩⟩

/-- A name that stays is the text it was, and another one is a text. -/
theorem DraftOperand.string_ite (name original : String) :
    (if name = original then Json.string original else .string name) = .string name := by
  split
  · rw [‹name = original›]
  · rfl

/-- An operand leads back to the one that it stands for. -/
theorem Operand.StandsFor.revised_eq {operands : List Operand} {seen operand : Operand}
    (h : StandsFor operands seen operand) :
    DraftOperand.revised (operands.map .ofOperand) seen = .ofOperand operand := by
  obtain ⟨name, usage, encoding, extras⟩ := operand
  obtain ⟨name', usage', encoding', extras'⟩ := seen
  obtain ⟨rfl, rfl, rfl, hextras⟩ := h
  rcases hextras with ⟨rfl, rfl⟩ | ⟨position, original, rfl, hfound, hextras⟩
  · rfl
  · obtain rfl : extras = original.extras := hextras
    have hitem : (operands.map DraftOperand.ofOperand)[(position : Int).toNat]? =
        some (.ofOperand original) := by
      rw [Int.toNat_natCast, List.getElem?_map, hfound]
      rfl
    simp only [DraftOperand.revised, hitem, DraftOperand.ofOperand]
    exact congrArg (DraftOperand.operand · _ _ _) (DraftOperand.string_ite name' original.name)

namespace DraftRecord

/-- What a pass sees of a checked record stands for the record. -/
theorem related_seen (record : Record) :
    (ofRecord record).seen.Related (Operand.StandsFor record.operands)
      (fun _ extras => extras = record.extras) record := by
  refine Record.related_iff.mpr ⟨rfl, rfl, ?_, rfl⟩
  change Forall₂ _ ((record.operands.map DraftOperand.ofOperand).mapIdx DraftOperand.seen) _
  refine List.forall₂_iff_get.mpr ⟨by simp, fun position _ hposition => ?_⟩
  simp only [List.get_eq_getElem, List.getElem_mapIdx, List.getElem_map]
  exact ⟨rfl, rfl, rfl,
    Or.inr ⟨position, _, rfl, List.getElem?_eq_getElem hposition, rfl⟩⟩

/-- What stands for a record of the same mnemonic leads back to it. -/
theorem revised_eq {record seen changed : Record}
    (h : seen.Related (Operand.StandsFor record.operands)
      (fun _ extras => extras = record.extras) changed)
    (hmnemonic : changed.mnemonic = record.mnemonic) :
    (ofRecord record).revised seen = ofRecord changed := by
  obtain ⟨-, hencoding, hoperands, hextras⟩ := Record.related_iff.mp h
  have hitems : seen.operands.map (DraftOperand.revised (record.operands.map .ofOperand)) =
      changed.operands.map .ofOperand := by
    rw [← List.forall₂_eq_eq_eq, List.forall₂_map_left_iff, List.forall₂_map_right_iff]
    exact hoperands.imp fun _ _ h => h.revised_eq
  have hbinary : (if seen.binaryEncoding = record.binaryEncoding then
      Json.string record.binaryEncoding else .string seen.binaryEncoding) =
        .string changed.binaryEncoding := by
    rw [DraftOperand.string_ite, hencoding]
  obtain ⟨mnemonic, binaryEncoding, operands, extras⟩ := changed
  obtain rfl : mnemonic = record.mnemonic := hmnemonic
  obtain rfl : extras = record.extras := hextras
  exact congrArg₂ (fun encoding items =>
    { ofRecord record with binaryEncoding := encoding, operands := .list items }) hbinary hitems

/-- Records that stand for others of the same mnemonic lead back to them. -/
theorem map_revised_eq {record : Record} {seen changed : List Record}
    (h : Forall₂ (Record.Related (Operand.StandsFor record.operands)
      fun _ extras => extras = record.extras) seen changed)
    (hmnemonic : ∀ copy ∈ changed, copy.mnemonic = record.mnemonic) :
    seen.map (ofRecord record).revised = changed.map .ofRecord := by
  induction h with
  | nil => rfl
  | cons hfirst _ ih =>
    obtain ⟨hmnemonic, hrest⟩ := List.forall_mem_cons.mp hmnemonic
    rw [List.map_cons, List.map_cons, revised_eq hfirst hmnemonic, ih hrest]

end DraftRecord

/-! ## Readings -/

/-- Whether an access to a record with a number of operands is to what there is. -/
def Access.Within (count : Nat) : Access → Prop
  | .operandName position => position < count ∧ position ≤ Int64.maxValue.toInt
  | .operandNameAsKey position => position < count ∧ position ≤ Int64.maxValue.toInt
  | _ => True

/-- Whether accesses to a record with a number of operands are all to what there is. -/
def Access.AllWithin (count : Nat) (accesses : List Access) : Prop :=
  ∀ access ∈ accesses, access.Within count

theorem Access.allWithin_nil {count : Nat} : AllWithin count [] := List.forall_mem_nil _

theorem Access.allWithin_cons {count : Nat} {access : Access} {rest : List Access} :
    AllWithin count (access :: rest) ↔ access.Within count ∧ AllWithin count rest :=
  List.forall_mem_cons

/-- Accesses on a condition are to what there is if the condition makes them so. -/
theorem Access.allWithin_ite {count : Nat} {condition : Prop} [Decidable condition]
    {accesses : List Access} (h : condition → AllWithin count accesses) :
    AllWithin count (if condition then accesses else []) := by
  split
  · exact h ‹_›
  · exact allWithin_nil

/-- A checked record can be used in every way that is within it. -/
theorem DraftRecord.access_ofRecord {record : Record} {access : Access}
    (h : access.Within record.operands.length) : (ofRecord record).access access = .ok () := by
  cases access with
  | mnemonicAsKey => rfl
  | encodingAsKey => rfl
  | encodingAsText => rfl
  | operandCount => rfl
  | operandName position =>
    rw [access, part_ofRecord (List.getElem?_eq_getElem h.1) h.2]
    rfl
  | operandNameAsKey position =>
    rw [access, part_ofRecord (List.getElem?_eq_getElem h.1) h.2]
    rfl
  | operandNames =>
    rw [access, items_ofRecord]
    exact forM_eq_ok (List.forall_mem_map.mpr fun _ _ => rfl)
  | operandNamesAsKeys =>
    rw [access, items_ofRecord]
    exact forM_eq_ok (List.forall_mem_map.mpr fun _ _ => rfl)
  | operation name => rfl
  | written => rw [access, toJson_ofRecord]; rfl

namespace DraftPass

open Access

/-- The passes over drafts are those over documents. -/
theorem map_pass_standard : standard.map (·.pass) = Pass.standard := rfl

/-- A record that is looked up by its mnemonic is read within what there is if its operands are. -/
theorem allWithin_readsByMnemonic (mnemonics : List String) {operands : Record → List Access}
    {record : Record} (h : AllWithin record.operands.length (operands record)) :
    AllWithin record.operands.length (readsByMnemonic mnemonics operands record) :=
  allWithin_ite fun _ => allWithin_cons.mpr ⟨trivial, h⟩

/-- CMPS and MOVS are read within what there is. -/
theorem allWithin_cmpsMovs (record : Record) :
    AllWithin record.operands.length (cmpsMovs.reads record) := by
  refine allWithin_cons.mpr ⟨trivial, allWithin_readsByMnemonic _ (allWithin_ite fun hcount => ?_)⟩
  exact allWithin_cons.mpr ⟨⟨by omega, by decide⟩, allWithin_nil⟩

/-- INS and OUTS are read within what there is. -/
theorem allWithin_insOuts (record : Record) :
    AllWithin record.operands.length (insOuts.reads record) := by
  simp only [insOuts]
  refine allWithin_readsByMnemonic _ ?_
  split
  · rename_i hoperands
    have hcount : record.operands.length = 2 := by rw [hoperands]; rfl
    refine allWithin_cons.mpr ⟨⟨by omega, by decide⟩, ?_⟩
    split
    · exact allWithin_nil
    · exact allWithin_cons.mpr ⟨⟨by omega, by decide⟩, allWithin_nil⟩
  · exact allWithin_nil

/-- LODS, SCAS and STOS are read within what there is. -/
theorem allWithin_lodsScasStos (record : Record) :
    AllWithin record.operands.length (lodsScasStos.reads record) := by
  refine allWithin_cons.mpr ⟨trivial, allWithin_readsByMnemonic _ ?_⟩
  split
  · rename_i hoperands
    have hcount : record.operands.length = 1 := by rw [hoperands]; rfl
    refine allWithin_cons.mpr ⟨⟨by omega, by decide⟩, allWithin_ite fun _ => ?_⟩
    exact allWithin_cons.mpr ⟨trivial, allWithin_nil⟩
  · exact allWithin_nil

/-- The VMOVQ load is read within what there is. -/
theorem allWithin_vmovq (record : Record) :
    AllWithin record.operands.length (vmovq.reads record) := by
  refine allWithin_ite fun _ => allWithin_cons.mpr ⟨trivial, allWithin_cons.mpr ⟨?_, allWithin_nil⟩⟩
  split
  · exact ⟨by omega, by decide⟩
  · trivial

/-- A pass reads what there is. -/
theorem allWithin_reads {pass : DraftPass} (h : pass ∈ standard) (record : Record) :
    AllWithin record.operands.length (pass.reads record) := by
  simp only [standard, List.mem_cons, List.not_mem_nil, or_false] at h
  rcases h with rfl | rfl | rfl | rfl | rfl | rfl | rfl | rfl
  · exact allWithin_cmpsMovs record
  · exact allWithin_insOuts record
  · exact allWithin_lodsScasStos record
  · exact allWithin_vmovq record
  · refine allWithin_cons.mpr ⟨trivial, allWithin_ite fun _ =>
      allWithin_cons.mpr ⟨trivial, allWithin_ite fun _ => ?_⟩⟩
    simp [AllWithin, Within]
  · exact allWithin_cons.mpr ⟨trivial, allWithin_nil⟩
  · refine allWithin_cons.mpr ⟨trivial, allWithin_ite fun _ => ?_⟩
    simp [AllWithin, Within]
  · simp [removeImpliedVector, AllWithin, Within]

end DraftPass

/-- A pass keeps the mnemonic of a record, in its place and in what it adds. -/
theorem Pass.mnemonic_of_judge {pass : Pass} (h : pass ∈ Pass.standard)
    {record revised : Record} {added : List Record}
    (hjudge : pass.judge record = .changed revised added) :
    revised.mnemonic = record.mnemonic ∧ ∀ copy ∈ added, copy.mnemonic = record.mnemonic := by
  have hrevise : pass.revise record = revised := by
    rw [revise, hjudge]
    rfl
  have hadditions : pass.additions record = added := by
    rw [additions, hjudge]
    rfl
  rw [← hrevise, ← hadditions]
  constructor
  · rcases List.mem_append.mp (StringInstruction.standard_eq ▸ h) with hstring | hlater
    · rcases StringInstruction.revise_of_mem_passes hstring record with hkept | hformed
      · rw [hkept]
      · rw [hformed, Record.formed_mnemonic]
    · exact (Record.framed_revise hlater record).mnemonic
  · rcases List.mem_append.mp (Pipeline.standard_eq_counting ▸ h) with hcounting | hrest
    · rw [Pipeline.additions_of_mem_counting hcounting]
      exact List.forall_mem_nil _
    · rcases List.mem_cons.mp hrest with rfl | hclosing
      · rw [additions_generalRegister]
        split
        · exact List.forall_mem_singleton.mpr rfl
        · exact List.forall_mem_nil _
      · rw [(Pipeline.recordWise_of_mem_closing hclosing record).2]
        exact List.forall_mem_nil _

namespace DraftPass

variable {pass : DraftPass}

/-- A pass over the records of a checked document goes as the pass over the document does. -/
theorem scan_ofRecord (h : pass ∈ standard) (records : List Record) (index : Nat) :
    pass.scan index (records.map .ofRecord) =
      { records := (pass.pass.scan index records).records.map .ofRecord
        added := (pass.pass.scan index records).added.map .ofRecord
        errors := (pass.pass.scan index records).errors
        modified := (pass.pass.scan index records).modified } := by
  have hpass : pass.pass ∈ Pass.standard := by
    rw [← map_pass_standard]
    exact List.mem_map_of_mem h
  induction records generalizing index with
  | nil => rfl
  | cons record rest ih =>
    have hreads : (pass.reads (DraftRecord.ofRecord record).seen).forM
        (DraftRecord.ofRecord record).access = .ok () := by
      refine forM_eq_ok fun access haccess => DraftRecord.access_ofRecord ?_
      have hcount : (DraftRecord.ofRecord record).seen.operands.length =
          record.operands.length :=
        (Record.related_iff.mp (DraftRecord.related_seen record)).2.2.1.length_eq
      rw [← hcount]
      exact allWithin_reads h _ access haccess
    have hverdict := Pass.parametric_of_mem_standard hpass
      (Operand.congruent_standsFor record.operands) (DraftRecord.related_seen record)
    rw [List.map_cons, scan, Pass.scan, hreads]
    simp only [ih (index + 1)]
    generalize pass.pass.judge (DraftRecord.ofRecord record).seen = verdict at hverdict ⊢
    generalize hjudge : pass.pass.judge record = verdict' at hverdict ⊢
    cases hverdict with
    | unchanged => rfl
    | changed hrevised hadded =>
      obtain ⟨hmnemonic, hcopies⟩ := Pass.mnemonic_of_judge hpass hjudge
      have hadditions := DraftRecord.map_revised_eq hadded hcopies
      simp only [DraftRecord.revised_eq hrevised hmnemonic, hadditions, List.map_append,
        List.map_cons]
    | malformed message => rfl
    | corrupt headline =>
      simp only [DraftRecord.toMembers_ofRecord]
      rfl

/-- A pass over the draft of a document leaves the draft of what it leaves of the document and has
the same outcome. -/
theorem apply_ofDocument (h : pass ∈ standard) (document : Document) :
    pass.apply (.ofDocument document) =
      ⟨.ofDocument (pass.pass.apply document).document,
        .ok (pass.pass.apply document).outcome⟩ := by
  rw [apply, Draft.ofDocument, scan_ofRecord h]
  simp only [Pass.apply, Draft.ofDocument, List.map_append]

/-- Passes over a draft of a document, one after the other, leave the draft of what they leave of
the document. -/
theorem foldl_apply_ofDocument {passes : List DraftPass} (h : passes ⊆ standard)
    (document : Document) :
    passes.foldl (fun draft pass => (pass.apply draft).draft) (.ofDocument document) =
      .ofDocument (Pipeline.bestEffort (passes.map (·.pass)) document).document := by
  rw [Pipeline.bestEffort_document]
  induction passes generalizing document with
  | nil => rfl
  | cons pass rest ih =>
    obtain ⟨hpass, hrest⟩ := List.cons_subset.mp h
    rw [List.foldl_cons, apply_ofDocument hpass, ih hrest, Pass.apply_records]
    rfl

end DraftPass

end OperandCleanup
