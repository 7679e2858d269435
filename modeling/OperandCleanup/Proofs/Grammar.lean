import OperandCleanup.Proofs.Fields
import OperandCleanup.Proofs.Loading

/-!
# The grammar of documents

A value is a document if it is an object whose records, where it has any, are an array of objects,
each with a mnemonic and with an encoding and operands of the right shape, where they are given. All
other members are unconstrained. The document that is loaded has a record for each of those objects
with the values that are given there, or the default ones.

Every other value is refused for one reason. That all records are objects comes first, so the first
that is none is named even if a record before it does not follow the grammar. After that it is the
first record not to follow the grammar, with an issue for each of its fields that offends.
-/

namespace OperandCleanup

open List (Forall₂)

/-! ## Values that follow the grammar -/

/-- Whether the members of an operand follow the grammar. -/
structure Operand.Grammatical (members : Json.Members) : Prop where
  name : ∃ text, members.get? "name" = some (.string text)
  usage : ∀ value, members.get? "usage" = some value →
    value ∈ [.null, .string "READ", .string "WRITE", .string "READ_WRITE"]
  encoding : ∀ value, members.get? "encoding" = some value →
    value ∈ [.null, .string "EXPLICIT", .string "IMPLICIT"]

/-- Whether the members of a record follow the grammar. -/
structure Record.Grammatical (members : Json.Members) : Prop where
  mnemonic : ∃ text, members.get? "mnemonic" = some (.string text)
  binaryEncoding : ∀ value, members.get? "binary_encoding" = some value →
    ∃ text, value = .string text
  operands : ∀ value, members.get? "vendor_syntax" = some value →
    ∃ lists : List Json.Members, value = .array (lists.map .object) ∧
      ∀ operand ∈ lists, Operand.Grammatical operand

/-- Whether a value follows the grammar of documents. -/
def Document.Grammatical (value : Json) : Prop :=
  ∃ members : Json.Members, value = .object members ∧
    ∀ given, members.get? "instructions" = some given →
      ∃ lists : List Json.Members, given = .array (lists.map .object) ∧
        ∀ record ∈ lists, Record.Grammatical record

/-! ## What is read from them -/

/-- Whether an operand has the values that its members give. -/
structure Operand.Reads (members : Json.Members) (operand : Operand) : Prop where
  name : members.get? "name" = some (.string operand.name)
  usage : (members.get? "usage" = none ∨ members.get? "usage" = some .null) ∧
      operand.usage = none ∨
    ∃ usage : Usage, members.get? "usage" = some (.string usage.name) ∧ operand.usage = some usage
  encoding : (members.get? "encoding" = none ∨ members.get? "encoding" = some .null) ∧
      operand.encoding = none ∨
    ∃ encoding : Encoding, members.get? "encoding" = some (.string encoding.name) ∧
      operand.encoding = some encoding
  extras : operand.extras = members.without ["name", "usage", "encoding"]

/-- Whether a record has the values that its members give, or the default ones. -/
structure Record.Reads (members : Json.Members) (record : Record) : Prop where
  mnemonic : members.get? "mnemonic" = some (.string record.mnemonic)
  binaryEncoding : members.get? "binary_encoding" = none ∧ record.binaryEncoding = "" ∨
    members.get? "binary_encoding" = some (.string record.binaryEncoding)
  operands : members.get? "vendor_syntax" = none ∧ record.operands = [] ∨
    ∃ lists : List Json.Members, members.get? "vendor_syntax" = some (.array (lists.map .object)) ∧
      Forall₂ Operand.Reads lists record.operands
  extras : record.extras = members.without ["mnemonic", "binary_encoding", "vendor_syntax"]

/-- Whether a document has a record for each object that a value gives, in their order. -/
def Document.Reads (value : Json) (document : Document) : Prop :=
  ∃ members : Json.Members, value = .object members ∧
    (members.get? "instructions" = none ∧ document.records = [] ∨
      ∃ lists : List Json.Members, members.get? "instructions" = some (.array (lists.map .object)) ∧
        Forall₂ Record.Reads lists document.records)

/-- Why a value that does not follow the grammar is refused. -/
inductive Document.Refuses : Json → LoadError → Prop where
  | notAnObject {value : Json} (h : ∀ members, value ≠ .object members) :
    Refuses value .notAnObject
  | recordsNotAnArray {members : Json.Members} {given : Json}
    (hgiven : members.get? "instructions" = some given) (h : ∀ items, given ≠ .array items) :
    Refuses (.object members) .recordsNotAnArray
  /-- The first item that is no object, whatever the ones before it. -/
  | recordNotAnObject {members : Json.Members} {before : List Json.Members} {item : Json}
    {after : List Json}
    (hgiven : members.get? "instructions" = some (.array (before.map .object ++ item :: after)))
    (h : ∀ members, item ≠ .object members) :
    Refuses (.object members) (.recordNotAnObject before.length)
  /-- The first record that does not follow the grammar, where all are objects. -/
  | invalidRecord {members : Json.Members} {before : List Json.Members} {record : Json.Members}
    {after : List Json.Members}
    (hgiven : members.get? "instructions" =
      some (.array ((before ++ record :: after).map .object)))
    (hbefore : ∀ other ∈ before, Record.Grammatical other) (h : ¬ Record.Grammatical record) :
    Refuses (.object members) (.invalidRecord (Field.issues (Record.fields record)))

/-! ## Fields that offend -/

namespace FieldShape

variable {given : Option Json}

theorem admits_requiredText_iff :
    requiredText.admits given = true ↔ ∃ text, given = some (.string text) := by
  rcases given with _ | value
  · simp [admits]
  · cases value <;> simp [admits]

theorem admits_text_iff :
    text.admits given = true ↔ ∀ value, given = some value → ∃ text, value = .string text := by
  rcases given with _ | value
  · simp [admits]
  · cases value <;> simp [admits]

theorem admits_operands_iff :
    operands.admits given = true ↔ ∀ value, given = some value → ∃ items, value = .array items := by
  rcases given with _ | value
  · simp [admits]
  · cases value <;> simp [admits]

theorem admits_usage_iff :
    usage.admits given = true ↔ ∀ value, given = some value →
      value ∈ [.null, .string "READ", .string "WRITE", .string "READ_WRITE"] := by
  rcases given with _ | value
  · simp [admits]
  · cases value with
    | string name => simp [admits, Usage.ofName?, Usage.all, Usage.name, @eq_comm _ name]
    | _ => simp [admits]

theorem admits_encoding_iff :
    encoding.admits given = true ↔ ∀ value, given = some value →
      value ∈ [.null, .string "EXPLICIT", .string "IMPLICIT"] := by
  rcases given with _ | value
  · simp [admits]
  · cases value with
    | string name => simp [admits, Encoding.ofName?, Encoding.all, Encoding.name, @eq_comm _ name]
    | _ => simp [admits]

end FieldShape

/-- The members of an operand follow the grammar when none of its fields offends. -/
theorem Operand.grammatical_iff {members : Json.Members} :
    Grammatical members ↔ ∀ field ∈ fields members, field.offends = false := by
  simp only [fields, List.forall_mem_cons, Field.offends, Bool.not_eq_false',
    FieldShape.admits_requiredText_iff, FieldShape.admits_usage_iff,
    FieldShape.admits_encoding_iff, List.not_mem_nil, false_imp_iff, implies_true, and_true]
  exact ⟨fun h => ⟨h.name, h.usage, h.encoding⟩, fun h => ⟨h.1, h.2.1, h.2.2⟩⟩

/-- Items are objects with members that follow a grammar when they come from such members. -/
theorem forall_object_iff {follows : Json.Members → Prop} {items : List Json} :
    (∀ item ∈ items, ∃ members, item = .object members ∧ follows members) ↔
      ∃ lists : List Json.Members, items = lists.map .object ∧
        ∀ members ∈ lists, follows members := by
  constructor
  · intro h
    induction items with
    | nil => exact ⟨[], rfl, by simp⟩
    | cons item rest ih =>
      obtain ⟨⟨members, rfl, hmembers⟩, hrest⟩ := List.forall_mem_cons.mp h
      obtain ⟨lists, rfl, hlists⟩ := ih hrest
      exact ⟨members :: lists, rfl, List.forall_mem_cons.mpr ⟨hmembers, hlists⟩⟩
  · rintro ⟨lists, rfl, hlists⟩ item hitem
    obtain ⟨members, hmembers, rfl⟩ := List.mem_map.mp hitem
    exact ⟨members, rfl, hlists members hmembers⟩

/-- No field of an item offends when the item is an object with the members of an operand. -/
theorem Operand.itemFields_iff {item : Json} :
    (∀ field ∈ itemFields item, field.offends = false) ↔
      ∃ members, item = .object members ∧ Grammatical members := by
  rw [itemFields.eq_def, List.forall_mem_cons]
  cases item with
  | object members =>
    constructor
    · exact fun h => ⟨members, rfl, grammatical_iff.mpr h.2⟩
    · rintro ⟨other, hother, h⟩
      obtain rfl := Json.object.inj hother
      exact ⟨rfl, grammatical_iff.mp h⟩
  | _ =>
    refine iff_of_false (fun h => Bool.noConfusion h.1) ?_
    rintro ⟨other, hother, -⟩
    exact Json.noConfusion hother

/-- No field within operands offends when they are objects with the members of operands. -/
theorem Operand.listFields_iff {items : List Json} :
    (∀ field ∈ listFields (.array items), field.offends = false) ↔
      ∃ lists : List Json.Members, items = lists.map .object ∧
        ∀ operand ∈ lists, Grammatical operand := by
  rw [← forall_object_iff]
  simp only [← itemFields_iff]
  constructor
  · intro h item hitem field hfield
    obtain ⟨index, hindex⟩ := List.mem_iff_getElem?.mp hitem
    have hplace : (item, index) ∈ items.zipIdx := List.mem_zipIdx_iff_getElem?.mpr hindex
    exact h (field.under (.item index))
      (List.mem_flatMap.mpr ⟨(item, index), hplace, List.mem_map_of_mem hfield⟩)
  · intro h field hfield
    obtain ⟨⟨item, index⟩, hplace, hinner⟩ := List.mem_flatMap.mp hfield
    obtain ⟨inner, hmem, rfl⟩ := List.mem_map.mp hinner
    exact h item (List.mem_of_getElem? (List.mem_zipIdx_iff_getElem?.mp hplace)) inner hmem

/-- What is given for operands follows the grammar when its field and those within do not offend. -/
theorem Operand.listFields_elim_iff {given : Option Json} :
    (∀ value, given = some value →
        ∃ lists : List Json.Members, value = .array (lists.map .object) ∧
          ∀ operand ∈ lists, Grammatical operand) ↔
      FieldShape.operands.admits given = true ∧
        ∀ field ∈ given.elim [] listFields, field.offends = false := by
  rw [FieldShape.admits_operands_iff]
  rcases given with _ | value
  · simp
  · simp only [Option.some.injEq, forall_eq', Option.elim_some]
    cases value with
    | array items => simp [listFields_iff]
    | _ => simp

/-- The members of a record follow the grammar when none of its fields offends. -/
theorem Record.grammatical_iff {members : Json.Members} :
    Grammatical members ↔ ∀ field ∈ fields members, field.offends = false := by
  have hunder (field : Field) :
      (field.under (.member "vendor_syntax")).offends = field.offends := rfl
  simp only [fields, List.forall_mem_cons, List.forall_mem_map, hunder]
  simp only [Field.offends, Bool.not_eq_false', FieldShape.admits_requiredText_iff,
    FieldShape.admits_text_iff]
  have hoperands := @Operand.listFields_elim_iff (members.get? "vendor_syntax")
  simp only [Field.offends, Bool.not_eq_false'] at hoperands
  rw [← hoperands]
  exact ⟨fun h => ⟨h.mnemonic, h.binaryEncoding, h.operands⟩, fun h => ⟨h.1, h.2.1, h.2.2⟩⟩

/-! ## Reading -/

/-- Items are the objects of members one by one when they come from the members. -/
theorem forall₂_object_iff {α : Type} {reads : Json.Members → α → Prop} {items : List Json}
    {results : List α} :
    Forall₂ (fun item result => ∃ members, item = .object members ∧ reads members result) items
        results ↔
      ∃ lists : List Json.Members, items = lists.map .object ∧ Forall₂ reads lists results := by
  constructor
  · intro h
    induction h with
    | nil => exact ⟨[], rfl, .nil⟩
    | cons hfirst _ ih =>
      obtain ⟨members, rfl, hmembers⟩ := hfirst
      obtain ⟨lists, rfl, hlists⟩ := ih
      exact ⟨members :: lists, rfl, .cons hmembers hlists⟩
  · rintro ⟨lists, rfl, hlists⟩
    exact List.forall₂_map_left_iff.mpr (hlists.imp fun members _ h => ⟨members, rfl, h⟩)

/-- A member that may be absent or null gives a value when it is written as the value is. -/
theorem Checked.withDefault_nullable_eq_ok_iff {α : Type} {members : Json.Members} {name : String}
    {check : Json → Checked α} {write : α → String} {result : Option α}
    (hcheck : ∀ {value a}, check value = .ok a ↔ value = .string (write a)) :
    withDefault members name none (nullable check) = .ok result ↔
      (members.get? name = none ∨ members.get? name = some .null) ∧ result = none ∨
        ∃ a, members.get? name = some (.string (write a)) ∧ result = some a := by
  rw [withDefault_eq_ok_iff]
  simp only [nullable_eq_ok_iff, hcheck]
  constructor
  · rintro (⟨hgiven, hresult⟩ | ⟨value, hgiven, ⟨rfl, hresult⟩ | ⟨-, a, rfl, rfl⟩⟩)
    · exact Or.inl ⟨Or.inl hgiven, hresult⟩
    · exact Or.inl ⟨Or.inr hgiven, hresult⟩
    · exact Or.inr ⟨a, hgiven, rfl⟩
  · rintro (⟨hgiven | hgiven, hresult⟩ | ⟨a, hgiven, rfl⟩)
    · exact Or.inl ⟨hgiven, hresult⟩
    · exact Or.inr ⟨.null, hgiven, Or.inl ⟨rfl, hresult⟩⟩
    · exact Or.inr ⟨_, hgiven, Or.inr ⟨Json.noConfusion, a, rfl, rfl⟩⟩

/-- There is a result for every item when each item has one. -/
theorem exists_forall₂_iff {α β : Type} {reads : α → β → Prop} {items : List α} :
    (∃ results, Forall₂ reads items results) ↔ ∀ item ∈ items, ∃ result, reads item result := by
  induction items with
  | nil => simp
  | cons item rest ih =>
    rw [List.forall_mem_cons, ← ih]
    simp only [List.forall₂_cons_left_iff]
    constructor
    · rintro ⟨_, first, more, hfirst, hmore, rfl⟩
      exact ⟨⟨first, hfirst⟩, more, hmore⟩
    · rintro ⟨⟨first, hfirst⟩, more, hmore⟩
      exact ⟨first :: more, first, more, hfirst, hmore, rfl⟩

/-- An operand is made of members when it has the values that they give. -/
theorem Operand.ofMembers_eq_ok_iff_reads {members : Json.Members} {operand : Operand} :
    ofMembers members = .ok operand ↔ Reads members operand := by
  rw [ofMembers_eq_ok_iff, Checked.withDefault_nullable_eq_ok_iff Usage.ofJson_eq_ok_iff,
    Checked.withDefault_nullable_eq_ok_iff Encoding.ofJson_eq_ok_iff]
  constructor
  · rintro ⟨hname, husage, hencoding, hextras⟩
    exact ⟨hname, husage, hencoding, hextras⟩
  · rintro ⟨hname, husage, hencoding, hextras⟩
    exact ⟨hname, husage, hencoding, hextras⟩

/-- A record is made of members when it has the values that they give. -/
theorem Record.ofMembers_eq_ok_iff_reads {members : Json.Members} {record : Record} :
    ofMembers members = .ok record ↔ Reads members record := by
  have hencoding : checkedEncoding members = .ok record.binaryEncoding ↔
      members.get? "binary_encoding" = none ∧ record.binaryEncoding = "" ∨
        members.get? "binary_encoding" = some (.string record.binaryEncoding) := by
    simp only [Checked.withDefault_eq_ok_iff, Checked.text_eq_ok_iff, exists_eq_right]
  have hoperands : checkedOperands members = .ok record.operands ↔
      members.get? "vendor_syntax" = none ∧ record.operands = [] ∨
        ∃ lists : List Json.Members,
          members.get? "vendor_syntax" = some (.array (lists.map .object)) ∧
            Forall₂ Operand.Reads lists record.operands := by
    simp only [Checked.withDefault_eq_ok_iff, Checked.list_eq_ok_iff, map_eq_map_ok_iff,
      Operand.ofJson_eq_ok_iff, Operand.ofMembers_eq_ok_iff_reads, forall₂_object_iff]
    refine or_congr_right ⟨?_, ?_⟩
    · rintro ⟨value, hgiven, items, rfl, lists, rfl, hreads⟩
      exact ⟨lists, hgiven, hreads⟩
    · rintro ⟨lists, hgiven, hreads⟩
      exact ⟨_, hgiven, _, rfl, lists, rfl, hreads⟩
  rw [ofMembers_eq_ok_iff, hencoding, hoperands]
  constructor
  · rintro ⟨hmnemonic, hencoding, hoperands, hextras⟩
    exact ⟨hmnemonic, hencoding, hoperands, hextras⟩
  · rintro ⟨hmnemonic, hencoding, hoperands, hextras⟩
    exact ⟨hmnemonic, hencoding, hoperands, hextras⟩

/-- A document is loaded from a value when it has the records that the value gives. -/
theorem Document.ofJson_eq_ok_iff_reads {value : Json} {document : Document} :
    ofJson value = .ok document ↔ Reads value document := by
  rw [ofJson_eq_ok_iff]
  simp only [map_eq_map_ok_iff, Record.ofMembers_eq_ok_iff_reads]
  constructor
  · rintro ⟨members, lists, rfl, hitems, hreads⟩
    refine ⟨members, rfl, ?_⟩
    cases hgiven : members.get? "instructions" with
    | none =>
      rw [hgiven, Option.getD_none, Json.array.injEq, eq_comm, List.map_eq_nil_iff] at hitems
      rw [hitems] at hreads
      exact Or.inl ⟨rfl, List.forall₂_nil_left_iff.mp hreads⟩
    | some given =>
      rw [hgiven] at hitems
      exact Or.inr ⟨lists, congrArg some hitems, hreads⟩
  · rintro ⟨members, rfl, ⟨hgiven, hrecords⟩ | ⟨lists, hgiven, hreads⟩⟩
    · refine ⟨members, [], rfl, by rw [hgiven]; rfl, ?_⟩
      rw [hrecords]
      exact .nil
    · exact ⟨members, lists, rfl, by rw [hgiven]; rfl, hreads⟩

/-! ## Refusing -/

namespace Record

/-- Members make a record exactly when they follow the grammar. -/
theorem exists_ofMembers_eq_ok_iff {members : Json.Members} :
    (∃ record, ofMembers members = .ok record) ↔ Grammatical members := by
  rw [(covers_ofMembers members).exists_eq_ok_iff, grammatical_iff]

/-- Members that do not follow the grammar have the issues of their fields. -/
theorem ofMembers_eq_error_iff {members : Json.Members} {issues : List Issue} :
    ofMembers members = .error issues ↔
      ¬ Grammatical members ∧ issues = Field.issues (fields members) := by
  rw [(covers_ofMembers members).eq_error_iff, grammatical_iff, ← Field.issues_eq_nil_iff]

end Record

namespace Document

/-- An item that is no object is named. -/
theorem recordMembers_cons_of_ne {item : Json} (h : ∀ members, item ≠ .object members)
    (index : Nat) (rest : List Json) :
    recordMembers index (item :: rest) = .error (.recordNotAnObject index) := by
  cases item with
  | object members => exact absurd rfl (h members)
  | _ => rfl

/-- The first item that is no object is named. -/
theorem recordMembers_eq_error_iff {index : Nat} {items : List Json} {error : LoadError} :
    recordMembers index items = .error error ↔
      ∃ (before : List Json.Members) (item : Json) (after : List Json),
        items = before.map .object ++ item :: after ∧ (∀ members, item ≠ .object members) ∧
          error = .recordNotAnObject (index + before.length) := by
  induction items generalizing index with
  | nil => simp [recordMembers]
  | cons item rest ih =>
    by_cases hobject : ∃ members, item = .object members
    · obtain ⟨members, rfl⟩ := hobject
      rw [recordMembers, map_eq_error_iff, ih]
      constructor
      · rintro ⟨before, item, after, rfl, hitem, rfl⟩
        refine ⟨members :: before, item, after, rfl, hitem, ?_⟩
        rw [List.length_cons, Nat.add_right_comm, Nat.add_assoc]
      · rintro ⟨before, item, after, hitems, hitem, rfl⟩
        cases before with
        | nil => exact absurd (List.cons.inj hitems).1.symm (hitem members)
        | cons first before =>
          refine ⟨before, item, after, (List.cons.inj hitems).2, hitem, ?_⟩
          rw [List.length_cons, Nat.add_right_comm, Nat.add_assoc]
    · have hne : ∀ members, item ≠ .object members := not_exists.mp hobject
      rw [recordMembers_cons_of_ne hne, Except.error.injEq, eq_comm]
      constructor
      · rintro rfl
        exact ⟨[], item, rest, rfl, hne, rfl⟩
      · rintro ⟨before, other, after, hitems, -, rfl⟩
        cases before with
        | nil => rfl
        | cons first before => exact absurd (List.cons.inj hitems).1 (hne first)

/-- The first members that do not follow the grammar give the issues. -/
theorem recordsOf_eq_error_iff {lists : List Json.Members} {error : LoadError} :
    recordsOf lists = .error error ↔
      ∃ (before : List Json.Members) (record : Json.Members) (after : List Json.Members),
        lists = before ++ record :: after ∧ (∀ other ∈ before, Record.Grammatical other) ∧
          ¬ Record.Grammatical record ∧
          error = .invalidRecord (Field.issues (Record.fields record)) := by
  induction lists with
  | nil => simp [recordsOf]
  | cons members rest ih =>
    cases hmembers : Record.ofMembers members with
    | error issues =>
      obtain ⟨hinvalid, rfl⟩ := Record.ofMembers_eq_error_iff.mp hmembers
      simp only [recordsOf, hmembers, Except.error.injEq]
      constructor
      · rintro rfl
        exact ⟨[], members, rest, rfl, by simp, hinvalid, rfl⟩
      · rintro ⟨before, record, after, hlists, hbefore, -, rfl⟩
        cases before with
        | nil => rw [(List.cons.inj hlists).1]
        | cons first before =>
          rw [(List.cons.inj hlists).1] at hinvalid
          exact absurd (hbefore first (by simp)) hinvalid
    | ok record =>
      have hvalid := Record.exists_ofMembers_eq_ok_iff.mp ⟨record, hmembers⟩
      simp only [recordsOf, hmembers, map_eq_error_iff, ih]
      constructor
      · rintro ⟨before, record, after, rfl, hbefore, hrecord⟩
        exact ⟨members :: before, record, after, rfl,
          List.forall_mem_cons.mpr ⟨hvalid, hbefore⟩, hrecord⟩
      · rintro ⟨before, record, after, hlists, hbefore, hrecord⟩
        cases before with
        | nil =>
          rw [(List.cons.inj hlists).1] at hvalid
          exact absurd hvalid hrecord.1
        | cons first before =>
          exact ⟨before, record, after, (List.cons.inj hlists).2,
            (List.forall_mem_cons.mp hbefore).2, hrecord⟩

/-- What stands against a value is what it is refused for. -/
theorem Refuses.ofJson_eq {value : Json} {error : LoadError} (h : Refuses value error) :
    ofJson value = .error error := by
  cases h with
  | notAnObject hvalue =>
    cases value with
    | object members => exact absurd rfl (hvalue members)
    | _ => rfl
  | @recordsNotAnArray members given hgiven hne =>
    rw [ofJson, hgiven]
    cases given with
    | array items => exact absurd rfl (hne items)
    | _ => rfl
  | @recordNotAnObject members before item after hgiven hitem =>
    have hmembers : recordMembers 0 (before.map .object ++ item :: after) =
        .error (.recordNotAnObject before.length) :=
      recordMembers_eq_error_iff.mpr
        ⟨before, item, after, rfl, hitem, by rw [Nat.zero_add]⟩
    rw [ofJson, hgiven]
    exact bind_eq_error_iff.mpr (Or.inl hmembers)
  | @invalidRecord members before record after hgiven hbefore hrecord =>
    have hmembers : recordMembers 0 ((before ++ record :: after).map .object) =
        .ok (before ++ record :: after) := recordMembers_eq_ok_iff.mpr rfl
    have hrecords : recordsOf (before ++ record :: after) =
        .error (.invalidRecord (Field.issues (Record.fields record))) :=
      recordsOf_eq_error_iff.mpr ⟨before, record, after, rfl, hbefore, hrecord, rfl⟩
    rw [ofJson, hgiven]
    exact bind_eq_error_iff.mpr (Or.inr ⟨_, hmembers, bind_eq_error_iff.mpr (Or.inl hrecords)⟩)

/-- Items that are not the default ones are given. -/
theorem given_of_getD {members : Json.Members} {items : List Json}
    (h : (members.get? "instructions").getD (.array []) = .array items) (hne : items ≠ []) :
    members.get? "instructions" = some (.array items) := by
  cases hgiven : members.get? "instructions" with
  | none =>
    rw [hgiven, Option.getD_none, Json.array.injEq] at h
    exact absurd h.symm hne
  | some given =>
    rw [hgiven] at h
    exact congrArg some h

/-- A value is refused for the reason that stands against it. -/
theorem ofJson_eq_error_iff {value : Json} {error : LoadError} :
    ofJson value = .error error ↔ Refuses value error := by
  refine ⟨fun h => ?_, Refuses.ofJson_eq⟩
  cases value with
  | object members =>
    rw [ofJson] at h
    split at h
    · rename_i items hitems
      rcases bind_eq_error_iff.mp h with herror | ⟨lists, hlists, hrest⟩
      · obtain ⟨before, item, after, rfl, hitem, rfl⟩ := recordMembers_eq_error_iff.mp herror
        rw [Nat.zero_add]
        exact .recordNotAnObject (given_of_getD hitems (by simp)) hitem
      · obtain rfl := recordMembers_eq_ok_iff.mp hlists
        rcases bind_eq_error_iff.mp hrest with herror | ⟨records, -, hok⟩
        · obtain ⟨before, record, after, rfl, hbefore, hrecord, rfl⟩ :=
            recordsOf_eq_error_iff.mp herror
          exact .invalidRecord (given_of_getD hitems (by simp)) hbefore hrecord
        · cases hok
    · rename_i hne
      obtain rfl := Except.error.inj h
      cases hinstructions : Json.Members.get? members "instructions" with
      | none => exact absurd (by rw [hinstructions]; rfl) (hne [])
      | some given =>
        rw [hinstructions] at hne
        exact .recordsNotAnArray hinstructions hne
  | _ =>
    obtain rfl := Except.error.inj h
    exact .notAnObject fun _ => Json.noConfusion

/-- A value is a document exactly when it follows the grammar. -/
theorem exists_ofJson_eq_ok_iff {value : Json} :
    (∃ document, ofJson value = .ok document) ↔ Grammatical value := by
  have hrecord {members : Json.Members} :
      (∃ record, Record.Reads members record) ↔ Record.Grammatical members := by
    simp only [← Record.ofMembers_eq_ok_iff_reads, Record.exists_ofMembers_eq_ok_iff]
  simp only [ofJson_eq_ok_iff_reads]
  constructor
  · rintro ⟨document, members, rfl, hgiven⟩
    refine ⟨members, rfl, fun given hsome => ?_⟩
    rcases hgiven with ⟨hnone, -⟩ | ⟨lists, hlists, hreads⟩
    · rw [hnone] at hsome
      cases hsome
    · exact ⟨lists, Option.some.inj (hsome.symm.trans hlists), fun record hmem =>
        hrecord.mp (exists_forall₂_iff.mp ⟨_, hreads⟩ record hmem)⟩
  · rintro ⟨members, rfl, hgrammar⟩
    cases hgiven : members.get? "instructions" with
    | none => exact ⟨⟨[]⟩, members, rfl, Or.inl ⟨hgiven, rfl⟩⟩
    | some given =>
      obtain ⟨lists, rfl, hlists⟩ := hgrammar given hgiven
      obtain ⟨records, hreads⟩ := exists_forall₂_iff.mpr fun record hmem =>
        hrecord.mpr (hlists record hmem)
      exact ⟨⟨records⟩, members, rfl, Or.inr ⟨lists, hgiven, hreads⟩⟩

/-- Every value that follows the grammar is loaded, and no other value is. What is loaded has a
record for each object that the value gives, in their order and with exactly their values. What is
refused is refused for what stands against it: that it is no object, that its records are no array,
the first of them that is no object, or else the first one that does not follow the grammar, with an
issue for each of its fields that offends, in the order of their declaration. -/
theorem ofJson_grammar (value : Json) :
    ((∃ document, ofJson value = .ok document) ↔ Grammatical value) ∧
      (∀ document, ofJson value = .ok document ↔ Reads value document) ∧
      ∀ error, ofJson value = .error error ↔ Refuses value error :=
  ⟨exists_ofJson_eq_ok_iff, fun _ => ofJson_eq_ok_iff_reads, fun _ => ofJson_eq_error_iff⟩

end Document

end OperandCleanup
