import OperandCleanup.Proofs.Frame
import OperandCleanup.Proofs.Json.Invariant
import OperandCleanup.Proofs.Loading

/-!
# What documents carry along

The members without a meaning that a record or an operand carries come from the value it was loaded
from, and no pass touches them: a record that a pass leaves, or adds, carries what an earlier one
did, and so do its operands, but for new ones, which carry nothing. So what holds of all that is
carried holds after any passes if it holds before them.
-/

namespace OperandCleanup

/-- Whether what a record carries, and what each of its operands does, has a property. -/
structure Record.Carries (onRecord onOperand : Json.Members → Prop) (record : Record) : Prop where
  own : onRecord record.extras
  operands : ∀ operand ∈ record.operands, onOperand operand.extras

instance {onRecord onOperand : Json.Members → Prop} [DecidablePred onRecord]
    [DecidablePred onOperand] : DecidablePred (Record.Carries onRecord onOperand) := fun record =>
  decidable_of_iff (onRecord record.extras ∧ ∀ operand ∈ record.operands, onOperand operand.extras)
    ⟨fun h => ⟨h.1, h.2⟩, fun h => ⟨h.own, h.operands⟩⟩

section Passes

variable {onRecord onOperand : Json.Members → Prop}

/-- Edited operands carry what the operands did. -/
theorem Edited.carries {mnemonic : String} {operands lefts : List Operand}
    (h : Edited mnemonic operands lefts)
    (hcarries : ∀ operand ∈ operands, onOperand operand.extras) :
    ∀ left ∈ lefts, onOperand left.extras := by
  induction h with
  | nil => exact fun _ hleft => absurd hleft List.not_mem_nil
  | kept hfirst _ ih =>
    obtain ⟨hown, hrest⟩ := List.forall_mem_cons.mp hcarries
    exact List.forall_mem_cons.mpr ⟨by rwa [hfirst.extras], ih hrest⟩
  | dropped _ _ ih => exact ih (List.forall_mem_cons.mp hcarries).2

namespace Record

/-- A framed record carries what the record did. -/
theorem Framed.carries {record left : Record} (h : record.Framed left)
    (hcarries : record.Carries onRecord onOperand) : left.Carries onRecord onOperand :=
  ⟨by rw [h.extras]; exact hcarries.own, h.operands.carries hcarries.operands⟩

/-- A formed record carries what the record did, or its operands are new. -/
theorem carries_formed (hnew : onOperand []) {record : Record}
    (h : record.Carries onRecord onOperand) : record.formed.Carries onRecord onOperand := by
  by_cases hexpandable : record.Expandable
  · obtain ⟨instruction, -, hexpanded, hmnemonic, -⟩ := hexpandable
    rw [formed_of_mnemonic hmnemonic]
    refine ⟨h.own, ?_⟩
    cases hformed : instruction.formed? record.operands with
    | none => exact h.operands
    | some operands =>
      obtain ⟨-, size, -, rfl⟩ := instruction.formed?_eq_some_iff.mp hformed
      intro operand hoperand
      rw [Option.getD_some, StringInstruction.written, if_pos hexpanded] at hoperand
      obtain ⟨entry, -, rfl⟩ := List.mem_map.mp hoperand
      exact hnew
  · exact (framed_formed hexpandable).carries h

/-- The copy for the wide register carries what the record does. -/
theorem carries_wide {record : Record} (h : record.Carries onRecord onOperand) :
    record.wide.Carries onRecord onOperand := by
  refine ⟨h.own, fun operand hoperand => ?_⟩
  obtain ⟨original, horiginal, rfl⟩ := List.mem_map.mp hoperand
  split
  · exact h.operands original horiginal
  · exact h.operands original horiginal

end Record

namespace Pass

/-- What a pass makes of a record carries what the record did, or is new. -/
theorem carries_revise {pass : Pass} (hpass : pass ∈ standard) (hnew : onOperand [])
    {record : Record} (h : record.Carries onRecord onOperand) :
    (pass.revise record).Carries onRecord onOperand := by
  rw [StringInstruction.standard_eq] at hpass
  rcases List.mem_append.mp hpass with hstring | hlater
  · rcases StringInstruction.revise_of_mem_passes hstring record with hkept | hformed
    · rwa [hkept]
    · rw [hformed]
      exact Record.carries_formed hnew h
  · exact (Record.framed_revise hlater record).carries h

/-- The records that a pass adds for a record carry what the record did. -/
theorem carries_additions {pass : Pass} (hpass : pass ∈ standard) {record : Record}
    (h : record.Carries onRecord onOperand) :
    ∀ added ∈ pass.additions record, added.Carries onRecord onOperand := by
  rw [Pipeline.standard_eq_counting] at hpass
  rcases List.mem_append.mp hpass with hcounting | hrest
  · rw [Pipeline.additions_of_mem_counting hcounting]
    exact fun _ hadded => absurd hadded List.not_mem_nil
  · rcases List.mem_cons.mp hrest with rfl | hclosing
    · intro added hadded
      rw [additions_generalRegister] at hadded
      split at hadded
      · rw [List.mem_singleton.mp hadded]
        exact Record.carries_wide h
      · exact absurd hadded List.not_mem_nil
    · rw [(Pipeline.recordWise_of_mem_closing hclosing record).2]
      exact fun _ hadded => absurd hadded List.not_mem_nil

/-- What holds of all that a document carries holds after a pass. -/
theorem carries_apply {pass : Pass} (hpass : pass ∈ standard) (hnew : onOperand [])
    {document : Document}
    (h : ∀ record ∈ document.records, record.Carries onRecord onOperand) :
    ∀ record ∈ (pass.apply document).document.records, record.Carries onRecord onOperand := by
  refine pass.forall_mem_apply (P := Record.Carries onRecord onOperand) ?_ ?_ h
  · exact fun record hrecord => carries_revise hpass hnew hrecord
  · exact fun record hrecord => carries_additions hpass hrecord

end Pass

/-- What holds of all that records carry holds after any passes of the library. -/
theorem Pipeline.carries_through (hnew : onOperand []) {applied : List Pass}
    (happlied : ∀ pass ∈ applied, pass ∈ Pass.standard) {records : List Record}
    (h : ∀ record ∈ records, record.Carries onRecord onOperand) :
    ∀ record ∈ through applied records, record.Carries onRecord onOperand := by
  induction applied generalizing records with
  | nil => exact h
  | cons pass rest ih =>
    obtain ⟨hpass, hrest⟩ := List.forall_mem_cons.mp happlied
    have hfirst : ∀ record ∈ (pass.apply ⟨records⟩).document.records,
        record.Carries onRecord onOperand := Pass.carries_apply hpass hnew h
    rw [Pass.apply_records] at hfirst
    exact ih hrest hfirst

/-- What holds of all that a document carries holds after a cleanup. -/
theorem carries_cleanup (hnew : onOperand []) {config : Config}
    (hconfig : config.KnownTo Registry.default) {document : Document} {run : Run}
    (hrun : cleanup document config = .ok run)
    (h : ∀ record ∈ document.records, record.Carries onRecord onOperand) :
    ∀ record ∈ run.document.records, record.Carries onRecord onOperand := by
  obtain ⟨_, applied, hcleanup, happlied, -, hrecords⟩ := cleanup_applied hconfig document
  obtain rfl := Except.ok.inj (hcleanup.symm.trans hrun)
  rw [hrecords]
  exact Pipeline.carries_through hnew (fun pass hpass => happlied.subset hpass) h

end Passes

/-! ## Documents that can come about -/

/-- What holds of the members that are carried along beside known names: each name is there once
and is not a known one, and no value in them has a name twice. -/
structure Carried (known : List String) (extras : Json.Members) : Prop where
  distinct : (extras.map (·.1)).Nodup
  unknown : ∀ member ∈ extras, member.1 ∉ known
  unambiguous : ∀ member ∈ extras, member.2.Unambiguous

/-- No members are carried well. -/
theorem carried_nil (known : List String) : Carried known [] :=
  ⟨List.nodup_nil, fun _ h => absurd h List.not_mem_nil, fun _ h => absurd h List.not_mem_nil⟩

/-- The members of an object without the known names are carried well. -/
theorem carried_without {members : Json.Members} (h : (Json.object members).Unambiguous)
    (known : List String) : Carried known (members.without known) := by
  obtain ⟨hdistinct, hvalues⟩ := Json.unambiguous_object.mp h
  refine ⟨Json.Members.nodup_names_filter hdistinct _, fun member hmember => ?_,
    fun member hmember => hvalues member (List.mem_filter.mp hmember).1⟩
  simpa using (List.mem_filter.mp hmember).2

/-- What holds of a record that can come about. -/
abbrev Record.WellFormed (record : Record) : Prop :=
  record.Carries (Carried Record.memberNames) (Carried Operand.memberNames)

/-- What holds of a document that can come about. -/
def Document.WellFormed (document : Document) : Prop :=
  ∀ record ∈ document.records, record.WellFormed

section Loaded

variable {test : Json → Bool} {onRecord onOperand : Json.Members → Prop}

/-- What an operand carries that is loaded is what its value has beside the known names. -/
theorem Operand.carries_of_ofJson
    (hoperand : ∀ members : Json.Members, Json.throughout test (.object members) = true →
      onOperand (members.without memberNames))
    {value : Json} (hvalue : Json.throughout test value = true) {operand : Operand}
    (h : ofJson value = .ok operand) : onOperand operand.extras := by
  obtain ⟨members, rfl, hmembers⟩ := ofJson_eq_ok_iff.mp h
  rw [(ofMembers_eq_ok_iff.mp hmembers).2.2.2]
  exact hoperand members hvalue

/-- What a record carries that is loaded, and what its operands do, is what its members have beside
the known names. -/
theorem Record.carries_of_ofMembers
    (hrecord : ∀ members : Json.Members, Json.throughout test (.object members) = true →
      onRecord (members.without memberNames))
    (hoperand : ∀ members : Json.Members, Json.throughout test (.object members) = true →
      onOperand (members.without Operand.memberNames))
    {members : Json.Members} (hmembers : Json.throughout test (.object members) = true)
    {record : Record} (h : ofMembers members = .ok record) :
    record.Carries onRecord onOperand := by
  obtain ⟨-, -, hoperands, hextras⟩ := ofMembers_eq_ok_iff.mp h
  refine ⟨?_, fun operand hmem => ?_⟩
  · rw [hextras]
    exact hrecord members hmembers
  · rcases Checked.withDefault_eq_ok_iff.mp hoperands with ⟨-, hnone⟩ | ⟨value, hvalue, hlist⟩
    · rw [hnone] at hmem
      exact absurd hmem List.not_mem_nil
    · obtain ⟨items, rfl, hitems⟩ := Checked.list_eq_ok_iff.mp hlist
      have hloaded : Except.ok operand ∈ items.map Operand.ofJson := by
        rw [hitems]
        exact List.mem_map_of_mem hmem
      obtain ⟨item, hitem, hoperandOf⟩ := List.mem_map.mp hloaded
      have harray := (Json.throughout_object.mp hmembers).2 _
        (Json.Members.mem_of_lookup_eq_some hvalue)
      exact Operand.carries_of_ofJson hoperand ((Json.throughout_array.mp harray).2 item hitem)
        hoperandOf

/-- What a document carries that is loaded is what the objects in its value have beside the known
names. -/
theorem Document.carries_of_ofJson
    (hrecord : ∀ members : Json.Members, Json.throughout test (.object members) = true →
      onRecord (members.without Record.memberNames))
    (hoperand : ∀ members : Json.Members, Json.throughout test (.object members) = true →
      onOperand (members.without Operand.memberNames))
    {value : Json} (hvalue : Json.throughout test value = true) {document : Document}
    (h : ofJson value = .ok document) :
    ∀ record ∈ document.records, record.Carries onRecord onOperand := by
  obtain ⟨members, lists, rfl, hitems, hrecords⟩ := ofJson_eq_ok_iff.mp h
  intro record hmem
  have hloaded : Except.ok record ∈ lists.map Record.ofMembers := by
    rw [hrecords]
    exact List.mem_map_of_mem hmem
  obtain ⟨list, hlist, hrecordOf⟩ := List.mem_map.mp hloaded
  have hlists : ∀ item ∈ lists.map Json.object, Json.throughout test item = true := by
    cases hfound : members.get? "instructions" with
    | none =>
      rw [hfound] at hitems
      rw [← Json.array.inj hitems]
      exact fun _ hitem => absurd hitem List.not_mem_nil
    | some value =>
      rw [hfound] at hitems
      have harray := (Json.throughout_object.mp hvalue).2 _
        (Json.Members.mem_of_lookup_eq_some hfound)
      rw [show value = .array (lists.map .object) from hitems] at harray
      exact (Json.throughout_array.mp harray).2
  exact Record.carries_of_ofMembers hrecord hoperand (hlists _ (List.mem_map_of_mem hlist))
    hrecordOf

end Loaded

namespace Document

/-- A document that is loaded is well formed. -/
theorem wellFormed_of_ofJson {value : Json} (hvalue : value.Unambiguous) {document : Document}
    (h : ofJson value = .ok document) : document.WellFormed :=
  carries_of_ofJson (fun _ hmembers => carried_without hmembers _)
    (fun _ hmembers => carried_without hmembers _) hvalue h

/-- A document that is read from a text is well formed. -/
theorem wellFormed_of_parse {text : List Char} {document : Document}
    (h : parse text = .ok document) : document.WellFormed := by
  rw [parse] at h
  split at h
  · cases h
  · rename_i value hread
    exact wellFormed_of_ofJson (Json.wellFormed_of_read hread).unambiguous h

/-- A document that can come about: it is read from a text or loaded from a value without ambiguous
names, and any passes of the library may have been over it. -/
inductive Reachable : Document → Prop
  | read {text : List Char} {document : Document} (h : parse text = .ok document) :
      Reachable document
  | loaded {value : Json} {document : Document} (hvalue : value.Unambiguous)
      (h : ofJson value = .ok document) : Reachable document
  | passed {document : Document} (h : Reachable document) {pass : Pass}
      (hpass : pass ∈ Pass.standard) : Reachable (pass.apply document).document

/-- A document that can come about is well formed. -/
theorem Reachable.wellFormed {document : Document} (h : document.Reachable) :
    document.WellFormed := by
  induction h with
  | read h => exact wellFormed_of_parse h
  | loaded hvalue h => exact wellFormed_of_ofJson hvalue h
  | passed _ hpass ih => exact Pass.carries_apply hpass (carried_nil _) ih

/-- Passes of the library leave a document that can come about. -/
theorem Reachable.through {document : Document} (h : document.Reachable) {applied : List Pass}
    (happlied : ∀ pass ∈ applied, pass ∈ Pass.standard) :
    Reachable ⟨Pipeline.through applied document.records⟩ := by
  induction applied generalizing document with
  | nil => exact h
  | cons pass rest ih =>
    obtain ⟨hpass, hrest⟩ := List.forall_mem_cons.mp happlied
    have hnext := ih (h.passed hpass) hrest
    rwa [Pass.apply_records] at hnext

/-- A cleanup leaves a document that can come about. -/
theorem Reachable.cleanup {document : Document} (h : document.Reachable) {config : Config}
    (hconfig : config.KnownTo Registry.default) {run : Run}
    (hrun : OperandCleanup.cleanup document config = .ok run) : run.document.Reachable := by
  obtain ⟨_, applied, hcleanup, happlied, -, hrecords⟩ := cleanup_applied hconfig document
  obtain rfl := Except.ok.inj (hcleanup.symm.trans hrun)
  have hreachable := h.through fun pass hpass => happlied.subset hpass
  rwa [← hrecords] at hreachable

end Document

end OperandCleanup
