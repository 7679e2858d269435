import Mathlib.Data.List.Forall2
import OperandCleanup.Document.Loader

/-!
# What is loaded

A check succeeds on a value just when its parts do, so a document is loaded from a value just when
the value is an object whose records are objects, each with the members that a record has to have.
The members without a meaning are carried along.
-/

namespace OperandCleanup

/-- A result is a function's where the function was given a result. -/
theorem map_eq_ok_iff {ε α β : Type} {result : Except ε α} {f : α → β} {b : β} :
    result.map f = .ok b ↔ ∃ a, result = .ok a ∧ f a = b := by
  cases result <;> simp [Except.map]

/-- A step after another one has a result where both have. -/
theorem bind_eq_ok_iff {ε α β : Type} {result : Except ε α} {f : α → Except ε β} {b : β} :
    (result >>= f) = .ok b ↔ ∃ a, result = .ok a ∧ f a = .ok b := by
  cases result <;> simp [bind, Except.bind]

/-- Errors that are seen differently leave results as they are. -/
theorem mapError_eq_ok_iff {ε ε' α : Type} {result : Except ε α} {f : ε → ε'} {a : α} :
    result.mapError f = .ok a ↔ result = .ok a := by
  cases result with
  | error error => exact ⟨nofun, nofun⟩
  | ok b =>
    constructor
    · exact fun h => congrArg Except.ok (Except.ok.inj h)
    · exact fun h => congrArg Except.ok (Except.ok.inj h)

/-- An error that is seen differently is one that was there before. -/
theorem mapError_eq_error_iff {ε ε' α : Type} {result : Except ε α} {f : ε → ε'} {error : ε'} :
    result.mapError f = .error error ↔ ∃ before, result = .error before ∧ f before = error := by
  cases result <;> simp [Except.mapError]

/-- A step after another one fails where one of them does. -/
theorem bind_eq_error_iff {ε α β : Type} {result : Except ε α} {f : α → Except ε β} {error : ε} :
    (result >>= f) = .error error ↔
      result = .error error ∨ ∃ a, result = .ok a ∧ f a = .error error := by
  cases result <;> simp [bind, Except.bind]

/-- A function leaves the errors. -/
theorem map_eq_error_iff {ε α β : Type} {result : Except ε α} {f : α → β} {error : ε} :
    result.map f = .error error ↔ result = .error error := by
  cases result <;> simp [Except.map]

/-- Items are checked one by one when the results are theirs one by one. -/
theorem map_eq_map_ok_iff {ε α β : Type} {check : α → Except ε β} {items : List α}
    {results : List β} :
    items.map check = results.map .ok ↔
      List.Forall₂ (fun item result => check item = .ok result) items results := by
  rw [← List.forall₂_eq_eq_eq, List.forall₂_map_left_iff, List.forall₂_map_right_iff]

/-- What is found by a name is found by its own name only. -/
theorem find?_name_eq_some_iff {α : Type} {all : List α} {nameOf : α → String}
    (h : ∀ a, all.find? (nameOf · == nameOf a) = some a) {name : String} {a : α} :
    all.find? (nameOf · == name) = some a ↔ name = nameOf a := by
  constructor
  · intro hfound
    have hname := List.find?_some hfound
    exact (beq_iff_eq.mp hname).symm
  · rintro rfl
    exact h a

namespace Checked

variable {α β : Type}

theorem both_eq_ok_iff {first : Checked α} {second : Checked β} {a : α} {b : β} :
    both first second = .ok (a, b) ↔ first = .ok a ∧ second = .ok b := by
  cases first <;> cases second <;> simp [both]

theorem under_eq_ok_iff {place : PathStep} {checked : Checked α} {a : α} :
    under place checked = .ok a ↔ checked = .ok a := by
  cases checked <;> simp [under]

theorem text_eq_ok_iff {value : Json} {s : String} : text value = .ok s ↔ value = .string s := by
  cases value <;> simp [text, issue]

theorem nullable_eq_ok_iff {check : Json → Checked α} {value : Json} {result : Option α} :
    nullable check value = .ok result ↔
      value = .null ∧ result = none ∨
        value ≠ .null ∧ ∃ a, check value = .ok a ∧ some a = result := by
  cases value <;> simp [nullable, map_eq_ok_iff]
  exact eq_comm

theorem required_eq_ok_iff {members : Json.Members} {name : String} {check : Json → Checked α}
    {a : α} :
    required members name check = .ok a ↔
      ∃ value, members.get? name = some value ∧ check value = .ok a := by
  rw [required, under_eq_ok_iff]
  cases members.get? name <;> simp [issue]

theorem withDefault_eq_ok_iff {members : Json.Members} {name : String} {default : α}
    {check : Json → Checked α} {a : α} :
    withDefault members name default check = .ok a ↔
      members.get? name = none ∧ a = default ∨
        ∃ value, members.get? name = some value ∧ check value = .ok a := by
  rw [withDefault]
  cases members.get? name <;> simp only [under_eq_ok_iff] <;> simp [eq_comm]

/-- Items are checked one by one. -/
theorem itemsFrom_eq_ok_iff {check : Json → Checked α} {index : Nat} {items : List Json}
    {results : List α} :
    itemsFrom check index items = .ok results ↔ items.map check = results.map .ok := by
  induction items generalizing index results with
  | nil => cases results <;> simp [itemsFrom]
  | cons item rest ih =>
    rw [itemsFrom, map_eq_ok_iff]
    constructor
    · rintro ⟨⟨first, more⟩, hboth, rfl⟩
      obtain ⟨hfirst, hmore⟩ := both_eq_ok_iff.mp hboth
      rw [List.map_cons, List.map_cons, under_eq_ok_iff.mp hfirst, ih.mp hmore]
    · intro h
      cases results with
      | nil => simp at h
      | cons first more =>
        obtain ⟨hfirst, hmore⟩ := List.cons.inj h
        exact ⟨(first, more), both_eq_ok_iff.mpr ⟨under_eq_ok_iff.mpr hfirst, ih.mpr hmore⟩, rfl⟩

theorem list_eq_ok_iff {check : Json → Checked α} {value : Json} {results : List α} :
    list check value = .ok results ↔
      ∃ items, value = .array items ∧ items.map check = results.map .ok := by
  cases value <;> simp [list, issue, itemsFrom_eq_ok_iff]

/-- A list of texts is checked text by text. -/
theorem list_text_eq_ok_iff {value : Json} {texts : List String} :
    list text value = .ok texts ↔ value = .array (texts.map .string) := by
  have htexts {items : List Json} : items.map text = texts.map .ok ↔
      items = texts.map .string := by
    rw [map_eq_map_ok_iff, ← List.forall₂_eq_eq_eq, List.forall₂_map_right_iff]
    simp only [text_eq_ok_iff]
  rw [list_eq_ok_iff]
  simp only [htexts, exists_eq_right]

/-- There are no others when every member is named. -/
theorem noOthers_eq_ok_iff {members : Json.Members} {names : List String} {done : Unit} :
    noOthers members names = .ok done ↔ ∀ member ∈ members, member.1 ∈ names := by
  have hothers : members.without names = [] ↔ ∀ member ∈ members, member.1 ∈ names := by
    simp [Json.Members.without]
  rw [← hothers, noOthers]
  cases members.without names <;> simp

end Checked

/-- A usage is checked by its name. -/
theorem Usage.ofJson_eq_ok_iff {value : Json} {usage : Usage} :
    ofJson value = .ok usage ↔ value = .string usage.name := by
  cases value with
  | string name =>
    have hname : ofName? name = some usage ↔ name = usage.name :=
      find?_name_eq_some_iff fun usage => by cases usage <;> decide
    rw [Json.string.injEq, ← hname, ofJson]
    cases ofName? name <;> simp [Checked.issue]
  | _ => simp [ofJson, Checked.issue]

/-- An encoding is checked by its name. -/
theorem Encoding.ofJson_eq_ok_iff {value : Json} {encoding : Encoding} :
    ofJson value = .ok encoding ↔ value = .string encoding.name := by
  cases value with
  | string name =>
    have hname : ofName? name = some encoding ↔ name = encoding.name :=
      find?_name_eq_some_iff fun encoding => by cases encoding <;> decide
    rw [Json.string.injEq, ← hname, ofJson]
    cases ofName? name <;> simp [Checked.issue]
  | _ => simp [ofJson, Checked.issue]

namespace Operand

/-- The check of an operand's usage, where it is given. -/
abbrev checkedUsage (members : Json.Members) : Checked (Option Usage) :=
  Checked.withDefault members "usage" none (Checked.nullable Usage.ofJson)

/-- The check of an operand's encoding, where it is given. -/
abbrev checkedEncoding (members : Json.Members) : Checked (Option Encoding) :=
  Checked.withDefault members "encoding" none (Checked.nullable Encoding.ofJson)

/-- Members are an operand's when those with a meaning pass their checks. -/
theorem ofMembers_eq_ok_iff {members : Json.Members} {operand : Operand} :
    ofMembers members = .ok operand ↔
      members.get? "name" = some (.string operand.name) ∧
        checkedUsage members = .ok operand.usage ∧
        checkedEncoding members = .ok operand.encoding ∧
        operand.extras = members.without memberNames := by
  obtain ⟨name, usage, encoding, extras⟩ := operand
  rw [ofMembers, map_eq_ok_iff]
  constructor
  · rintro ⟨⟨name, usage, encoding⟩, hparts, hoperand⟩
    obtain ⟨rfl, rfl, rfl, rfl⟩ := Operand.mk.inj hoperand
    obtain ⟨hname, hrest⟩ := Checked.both_eq_ok_iff.mp hparts
    obtain ⟨husage, hencoding⟩ := Checked.both_eq_ok_iff.mp hrest
    obtain ⟨value, hvalue, htext⟩ := Checked.required_eq_ok_iff.mp hname
    obtain rfl := Checked.text_eq_ok_iff.mp htext
    exact ⟨hvalue, husage, hencoding, rfl⟩
  · rintro ⟨hname, husage, hencoding, rfl⟩
    have htext : Checked.required members "name" Checked.text = .ok name :=
      Checked.required_eq_ok_iff.mpr ⟨.string name, hname, rfl⟩
    exact ⟨(name, usage, encoding),
      Checked.both_eq_ok_iff.mpr ⟨htext, Checked.both_eq_ok_iff.mpr ⟨husage, hencoding⟩⟩, rfl⟩

/-- A value is an operand when it is an object with an operand's members. -/
theorem ofJson_eq_ok_iff {value : Json} {operand : Operand} :
    ofJson value = .ok operand ↔
      ∃ members, value = .object members ∧ ofMembers members = .ok operand := by
  cases value <;> simp [ofJson, Checked.issue]

end Operand

namespace Record

/-- The check of a record's encoding, where it is given. -/
abbrev checkedEncoding (members : Json.Members) : Checked String :=
  Checked.withDefault members "binary_encoding" "" Checked.text

/-- The check of a record's operands, where they are given. -/
abbrev checkedOperands (members : Json.Members) : Checked (List Operand) :=
  Checked.withDefault members "vendor_syntax" [] (Checked.list Operand.ofJson)

/-- Members are a record's when those with a meaning pass their checks. -/
theorem ofMembers_eq_ok_iff {members : Json.Members} {record : Record} :
    ofMembers members = .ok record ↔
      members.get? "mnemonic" = some (.string record.mnemonic) ∧
        checkedEncoding members = .ok record.binaryEncoding ∧
        checkedOperands members = .ok record.operands ∧
        record.extras = members.without memberNames := by
  obtain ⟨mnemonic, binaryEncoding, operands, extras⟩ := record
  rw [ofMembers, map_eq_ok_iff]
  constructor
  · rintro ⟨⟨mnemonic, binaryEncoding, operands⟩, hparts, hrecord⟩
    obtain ⟨rfl, rfl, rfl, rfl⟩ := Record.mk.inj hrecord
    obtain ⟨hmnemonic, hrest⟩ := Checked.both_eq_ok_iff.mp hparts
    obtain ⟨hencoding, hoperands⟩ := Checked.both_eq_ok_iff.mp hrest
    obtain ⟨value, hvalue, htext⟩ := Checked.required_eq_ok_iff.mp hmnemonic
    obtain rfl := Checked.text_eq_ok_iff.mp htext
    exact ⟨hvalue, hencoding, hoperands, rfl⟩
  · rintro ⟨hmnemonic, hencoding, hoperands, rfl⟩
    have htext : Checked.required members "mnemonic" Checked.text = .ok mnemonic :=
      Checked.required_eq_ok_iff.mpr ⟨.string mnemonic, hmnemonic, rfl⟩
    exact ⟨(mnemonic, binaryEncoding, operands),
      Checked.both_eq_ok_iff.mpr ⟨htext, Checked.both_eq_ok_iff.mpr ⟨hencoding, hoperands⟩⟩, rfl⟩

end Record

namespace Document

/-- The members of records are there when all records are objects. -/
theorem recordMembers_eq_ok_iff {index : Nat} {items : List Json} {lists : List Json.Members} :
    recordMembers index items = .ok lists ↔ items = lists.map .object := by
  induction items generalizing index lists with
  | nil => cases lists <;> simp [recordMembers]
  | cons item rest ih =>
    cases item with
    | object members =>
      rw [recordMembers, map_eq_ok_iff]
      constructor
      · rintro ⟨more, hmore, rfl⟩
        rw [List.map_cons, ih.mp hmore]
      · intro h
        obtain ⟨first, more, rfl, hfirst, hmore⟩ := List.map_eq_cons_iff.mp h.symm
        obtain rfl := Json.object.inj hfirst
        exact ⟨more, ih.mpr hmore.symm, rfl⟩
    | _ => cases lists <;> simp [recordMembers]

/-- The records are there when the members of each are a record's. -/
theorem recordsOf_eq_ok_iff {lists : List Json.Members} {records : List Record} :
    recordsOf lists = .ok records ↔ lists.map Record.ofMembers = records.map .ok := by
  induction lists generalizing records with
  | nil => cases records <;> simp [recordsOf]
  | cons members rest ih =>
    cases hrecord : Record.ofMembers members with
    | error issues => cases records <;> simp [recordsOf, hrecord]
    | ok record =>
      simp only [recordsOf, hrecord, map_eq_ok_iff, List.map_cons]
      constructor
      · rintro ⟨more, hmore, rfl⟩
        rw [List.map_cons, ih.mp hmore]
      · intro h
        obtain ⟨first, more, rfl, hfirst, hmore⟩ := List.map_eq_cons_iff.mp h.symm
        obtain rfl := Except.ok.inj hfirst
        exact ⟨more, ih.mpr hmore.symm, rfl⟩

/-- A document is loaded from an object whose records, if it has any, are objects with the members
of records. -/
theorem ofJson_eq_ok_iff {value : Json} {document : Document} :
    ofJson value = .ok document ↔
      ∃ (members : Json.Members) (lists : List Json.Members), value = .object members ∧
        (members.get? "instructions").getD (.array []) = .array (lists.map .object) ∧
        lists.map Record.ofMembers = document.records.map .ok := by
  constructor
  · intro h
    cases value with
    | object members =>
      rw [ofJson] at h
      split at h
      · rename_i items hitems
        obtain ⟨lists, hlists, hrest⟩ := bind_eq_ok_iff.mp h
        obtain ⟨records, hrecords, hdocument⟩ := bind_eq_ok_iff.mp hrest
        obtain rfl := Except.ok.inj hdocument
        exact ⟨members, lists, rfl, by rw [hitems, recordMembers_eq_ok_iff.mp hlists],
          recordsOf_eq_ok_iff.mp hrecords⟩
      · cases h
    | _ => cases h
  · rintro ⟨members, lists, rfl, hitems, hrecords⟩
    rw [ofJson, hitems]
    exact bind_eq_ok_iff.mpr ⟨lists, recordMembers_eq_ok_iff.mpr rfl,
      bind_eq_ok_iff.mpr ⟨document.records, recordsOf_eq_ok_iff.mpr hrecords, rfl⟩⟩

end Document

end OperandCleanup
