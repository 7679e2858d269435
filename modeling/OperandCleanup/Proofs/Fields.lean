import OperandCleanup.Document.Record

/-!
# The fields of a record

A record declares fields, and each of its operands declares fields of its own. A field is known by
its path, by what is given for it, if anything is, and by its shape, which says what may be given.
A check of a record goes through its fields in the order of their declaration, those of the operands
in the order of the list, and finds one issue for each field that is not given what it takes.
-/

namespace OperandCleanup

/-- What a field takes. -/
inductive FieldShape where
  /-- A text, which has to be given. -/
  | requiredText
  | text
  | operands
  | operand
  | usage
  | encoding
deriving DecidableEq, Repr, Inhabited

namespace FieldShape

/-- Whether a field takes what is given for it, or does without. -/
def admits : FieldShape → Option Json → Bool
  | .requiredText, some (.string _) => true
  | .text, none => true
  | .text, some (.string _) => true
  | .operands, none => true
  | .operands, some (.array _) => true
  | .operand, some (.object _) => true
  | .usage, none => true
  | .usage, some .null => true
  | .usage, some (.string name) => (Usage.ofName? name).isSome
  | .encoding, none => true
  | .encoding, some .null => true
  | .encoding, some (.string name) => (Encoding.ofName? name).isSome
  | _, _ => false

/-- What is wrong where a field does not take what is given for it. -/
def problem : FieldShape → Option Json → IssueKind
  | .requiredText, none => .missing
  | .requiredText, some _ => .textExpected
  | .text, _ => .textExpected
  | .operands, _ => .listExpected
  | .operand, _ => .operandExpected
  | .usage, _ => .unknownUsage
  | .encoding, _ => .unknownEncoding

end FieldShape

/-- A field, where it lies and what is given for it. -/
structure Field where
  shape : FieldShape
  path : List PathStep := []
  given : Option Json
deriving DecidableEq, Repr, Inhabited

namespace Field

/-- Whether a field is not given what it takes. -/
def offends (field : Field) : Bool := !field.shape.admits field.given

/-- The issue of a field that offends. -/
def issue (field : Field) : Issue := ⟨field.shape.problem field.given, field.path⟩

/-- The same field seen from the value around. -/
def under (place : PathStep) (field : Field) : Field := { field with path := place :: field.path }

/-- The issues of those fields that offend, in order. -/
def issues (fields : List Field) : List Issue := (fields.filter offends).map issue

/-- Fields have the issues of each of them. -/
theorem issues_append (fields more : List Field) :
    issues (fields ++ more) = issues fields ++ issues more := by
  simp [issues]

/-- Seen from the value around, fields have the same issues. -/
theorem issues_map_under (place : PathStep) (fields : List Field) :
    issues (fields.map (·.under place)) = (issues fields).map (·.under place) := by
  have hoffends : offends ∘ under place = offends := rfl
  rw [issues, List.filter_map, hoffends, List.map_map, issues, List.map_map]
  rfl

/-- There are no issues where no field offends. -/
theorem issues_eq_nil_iff {fields : List Field} :
    issues fields = [] ↔ ∀ field ∈ fields, field.offends = false := by
  simp [issues]

end Field

/-- The fields of an operand with some members. -/
def Operand.fields (members : Json.Members) : List Field :=
  [{ shape := .requiredText, path := [.member "name"], given := members.get? "name" },
    { shape := .usage, path := [.member "usage"], given := members.get? "usage" },
    { shape := .encoding, path := [.member "encoding"], given := members.get? "encoding" }]

/-- An item among operands, with the fields of the operand that it is. -/
def Operand.itemFields (item : Json) : List Field :=
  { shape := .operand, given := some item } ::
    match item with
    | .object members => Operand.fields members
    | _ => []

/-- The fields of what is given for operands. -/
def Operand.listFields (value : Json) : List Field :=
  match value with
  | .array items =>
    items.zipIdx.flatMap fun (item, index) =>
      (Operand.itemFields item).map (·.under (.item index))
  | _ => []

/-- The fields of a record with some members. -/
def Record.fields (members : Json.Members) : List Field :=
  { shape := .requiredText, path := [.member "mnemonic"], given := members.get? "mnemonic" } ::
    { shape := .text, path := [.member "binary_encoding"],
      given := members.get? "binary_encoding" } ::
    { shape := .operands, path := [.member "vendor_syntax"],
      given := members.get? "vendor_syntax" } ::
    ((members.get? "vendor_syntax").elim [] Operand.listFields).map
      (·.under (.member "vendor_syntax"))

namespace Checked

variable {α β : Type}

/-- Whether a check goes through fields: it succeeds where none of them offends, and otherwise finds
their issues. -/
def Covers (checked : Checked α) (fields : List Field) : Prop :=
  match checked with
  | .ok _ => Field.issues fields = []
  | .error issues => issues = Field.issues fields ∧ Field.issues fields ≠ []

/-- A check goes through the fields of both of its parts. -/
theorem Covers.both {first : Checked α} {second : Checked β} {fields more : List Field}
    (hfirst : first.Covers fields) (hsecond : second.Covers more) :
    (Checked.both first second).Covers (fields ++ more) := by
  unfold Covers at *
  rw [Field.issues_append]
  cases first <;> cases second <;> simp_all [Checked.both]

/-- Making something of what is checked leaves the fields. -/
theorem Covers.map {checked : Checked α} {fields : List Field} (h : checked.Covers fields)
    (f : α → β) : Covers (checked.map f) fields := by
  cases checked <;> exact h

/-- Checking a part goes through its fields seen from the value around. -/
theorem Covers.under {checked : Checked α} {fields : List Field} (h : checked.Covers fields)
    (place : PathStep) : (Checked.under place checked).Covers (fields.map (·.under place)) := by
  unfold Covers at *
  rw [Field.issues_map_under]
  cases checked <;> simp_all [Checked.under]

/-- Checking items goes through the fields of each of them. -/
theorem covers_itemsFrom {check : Json → Checked α} {fields : Json → List Field}
    (h : ∀ item, (check item).Covers (fields item)) (index : Nat) (items : List Json) :
    (itemsFrom check index items).Covers
      ((items.zipIdx index).flatMap fun (item, index) =>
        (fields item).map (·.under (.item index))) := by
  induction items generalizing index with
  | nil => rfl
  | cons item rest ih =>
    rw [itemsFrom, List.zipIdx_cons, List.flatMap_cons]
    exact (((h item).under (.item index)).both (ih (index + 1))).map _

/-- Checking a text that has to be there goes through its field. -/
theorem covers_required_text (members : Json.Members) (name : String) :
    (required members name text).Covers
      [{ shape := .requiredText, path := [.member name], given := members.get? name }] := by
  rw [required]
  cases members.get? name with
  | none => exact ⟨rfl, List.cons_ne_nil _ _⟩
  | some value => cases value <;> first | rfl | exact ⟨rfl, List.cons_ne_nil _ _⟩

/-- Checking a member that may be absent goes through its field, and through what is in it. -/
theorem covers_withDefault {check : Json → Checked α} {shape : FieldShape}
    {inner : Json → List Field} (habsent : shape.admits none = true)
    (h : ∀ value, (check value).Covers ({ shape := shape, given := some value } :: inner value))
    (members : Json.Members) (name : String) (default : α) :
    (withDefault members name default check).Covers
      ({ shape := shape, path := [.member name], given := members.get? name } ::
        ((members.get? name).elim [] inner).map (·.under (.member name))) := by
  rw [withDefault]
  cases members.get? name with
  | none => exact Field.issues_eq_nil_iff.mpr (by simp [Field.offends, habsent])
  | some value => exact (h value).under (.member name)

/-- Checking a member that may be absent and is not looked into goes through its field. -/
theorem covers_optional {check : Json → Checked α} {shape : FieldShape}
    (habsent : shape.admits none = true)
    (h : ∀ value, (check value).Covers [{ shape := shape, given := some value }])
    (members : Json.Members) (name : String) (default : α) :
    (withDefault members name default check).Covers
      [{ shape := shape, path := [.member name], given := members.get? name }] := by
  -- There is nothing to look into.
  have hcovers := @covers_withDefault α check shape (fun _ => []) habsent h members name default
  cases hgiven : members.get? name <;> rwa [hgiven] at hcovers

/-- A text is checked as its field is. -/
theorem covers_text (value : Json) :
    (text value).Covers [{ shape := .text, given := some value }] := by
  cases value <;> first | rfl | exact ⟨rfl, List.cons_ne_nil _ _⟩

/-- What a check that goes through fields finds. -/
theorem Covers.eq_error_iff {checked : Checked α} {fields : List Field} (h : checked.Covers fields)
    {issues : List Issue} :
    checked = .error issues ↔ Field.issues fields ≠ [] ∧ issues = Field.issues fields := by
  unfold Covers at h
  cases checked with
  | ok a => exact iff_of_false (by simp) fun hissues => hissues.1 h
  | error found =>
    rw [Except.error.injEq, h.1, eq_comm]
    exact (and_iff_right h.2).symm

/-- A check that goes through fields succeeds where none of them offends. -/
theorem Covers.exists_eq_ok_iff {checked : Checked α} {fields : List Field}
    (h : checked.Covers fields) :
    (∃ a, checked = .ok a) ↔ ∀ field ∈ fields, field.offends = false := by
  rw [← Field.issues_eq_nil_iff]
  unfold Covers at h
  cases checked <;> simp_all

end Checked

namespace Operand

/-- A usage is checked as its field is. -/
theorem covers_usage (value : Json) :
    (Checked.nullable Usage.ofJson value).Covers [{ shape := .usage, given := some value }] := by
  cases value with
  | string name =>
    cases hname : Usage.ofName? name <;>
      simp [Checked.nullable, Usage.ofJson, hname, Except.map, Checked.issue, Checked.Covers,
        Field.issues, Field.offends, Field.issue, FieldShape.admits, FieldShape.problem]
  | null => rfl
  | _ => exact ⟨rfl, List.cons_ne_nil _ _⟩

/-- An encoding is checked as its field is. -/
theorem covers_encoding (value : Json) :
    (Checked.nullable Encoding.ofJson value).Covers
      [{ shape := .encoding, given := some value }] := by
  cases value with
  | string name =>
    cases hname : Encoding.ofName? name <;>
      simp [Checked.nullable, Encoding.ofJson, hname, Except.map, Checked.issue, Checked.Covers,
        Field.issues, Field.offends, Field.issue, FieldShape.admits, FieldShape.problem]
  | null => rfl
  | _ => exact ⟨rfl, List.cons_ne_nil _ _⟩

/-- The members of an operand are checked as its fields are. -/
theorem covers_ofMembers (members : Json.Members) :
    (ofMembers members).Covers (fields members) :=
  ((Checked.covers_required_text members "name").both
    ((Checked.covers_optional rfl covers_usage members "usage" none).both
      (Checked.covers_optional rfl covers_encoding members "encoding" none))).map _

/-- An item among operands is checked as its fields are. -/
theorem covers_ofJson (item : Json) : (ofJson item).Covers (itemFields item) := by
  cases item with
  | object members => exact covers_ofMembers members
  | _ => exact ⟨rfl, List.cons_ne_nil _ _⟩

/-- Operands are checked as their fields are. -/
theorem covers_list (value : Json) :
    (Checked.list ofJson value).Covers
      ({ shape := .operands, given := some value } :: listFields value) := by
  cases value with
  | array items => exact Checked.covers_itemsFrom covers_ofJson 0 items
  | _ => exact ⟨rfl, List.cons_ne_nil _ _⟩

end Operand

/-- The members of a record are checked as its fields are. -/
theorem Record.covers_ofMembers (members : Json.Members) :
    (ofMembers members).Covers (fields members) :=
  ((Checked.covers_required_text members "mnemonic").both
    ((Checked.covers_optional rfl Checked.covers_text members "binary_encoding" "").both
      (Checked.covers_withDefault rfl Operand.covers_list members "vendor_syntax" []))).map _

end OperandCleanup
