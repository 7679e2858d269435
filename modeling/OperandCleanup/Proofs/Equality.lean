import OperandCleanup.Document.Basic

/-!
# What equal documents have in common

Two documents are equal when their values are, with members in any order and numbers by value. Equal
arrays have equally many items and equal objects have equal members of each name, so equal documents
have as many records, and these as many operands each, of the same names.
-/

namespace OperandCleanup

namespace Json

/-- Where equal values are written of what has some fact in common, equal arrays of them are written
of what has it in common item by item. -/
theorem map_eq_of_equalsItems {α β : Type} {write : α → Json} {fact : α → β}
    (hfact : ∀ item other, (write item).equals (write other) = true → fact item = fact other)
    {items others : List α} (h : equalsItems (items.map write) (others.map write) = true) :
    items.map fact = others.map fact := by
  induction items generalizing others with
  | nil =>
    cases others with
    | nil => rfl
    | cons other others => simp [equalsItems] at h
  | cons item rest ih =>
    cases others with
    | nil => simp [equalsItems] at h
    | cons other others =>
      rw [List.map_cons, List.map_cons, equalsItems, Bool.and_eq_true] at h
      rw [List.map_cons, List.map_cons, hfact item other h.1, ih h.2]

/-- Equal objects have equal members of each name. -/
theorem lookup_of_equalsMembers {members others : List (String × Json)} {name : String}
    {value : Json} (h : equalsMembers members others = true) (hmember : (name, value) ∈ members) :
    ∃ other, others.lookup name = some other ∧ equals value other = true := by
  induction members with
  | nil => simp at hmember
  | cons member rest ih =>
    obtain ⟨firstName, firstValue⟩ := member
    rw [equalsMembers, Bool.and_eq_true] at h
    rcases List.mem_cons.mp hmember with heq | hrest
    · obtain ⟨rfl, rfl⟩ := Prod.mk.inj heq
      cases hlookup : others.lookup name with
      | none => simp [hlookup] at h
      | some other => exact ⟨other, rfl, by simpa [hlookup] using h.1⟩
    · exact ih h.2 hrest

end Json

/-- Equal operands have the same name. -/
theorem Operand.name_of_equals {operand other : Operand}
    (h : operand.toJson.equals other.toJson = true) : operand.name = other.name := by
  rw [Operand.toJson, Operand.toJson, Json.equals, Bool.and_eq_true] at h
  have hmember : ("name", Json.string operand.name) ∈ operand.toMembers := by
    simp [Operand.toMembers]
  obtain ⟨value, hlookup, hequal⟩ := Json.lookup_of_equalsMembers h.2 hmember
  have hother : other.toMembers.lookup "name" = some (Json.string other.name) := rfl
  obtain rfl := Option.some.inj (hother.symm.trans hlookup)
  simpa [Json.equals, Json.scalarEquals] using hequal

namespace Record

/-- Equal records have operands that are equal one by one. -/
theorem equalsItems_operands_of_equals {record other : Record}
    (h : record.toJson.equals other.toJson = true) :
    Json.equalsItems (record.operands.map Operand.toJson) (other.operands.map Operand.toJson) =
      true := by
  rw [Record.toJson, Record.toJson, Json.equals, Bool.and_eq_true] at h
  have hmember : ("vendor_syntax", Json.array (record.operands.map Operand.toJson)) ∈
      record.toMembers := by
    simp [Record.toMembers]
  obtain ⟨value, hlookup, hequal⟩ := Json.lookup_of_equalsMembers h.2 hmember
  have hother : other.toMembers.lookup "vendor_syntax" =
      some (Json.array (other.operands.map Operand.toJson)) := by
    simp [Record.toMembers, List.lookup_cons]
  obtain rfl := Option.some.inj (hother.symm.trans hlookup)
  rwa [Json.equals] at hequal

/-- Equal records have operands of the same names. -/
theorem operandNames_of_equals {record other : Record}
    (h : record.toJson.equals other.toJson = true) : record.operandNames = other.operandNames :=
  Json.map_eq_of_equalsItems (fun _ _ => Operand.name_of_equals) (equalsItems_operands_of_equals h)

end Record

namespace Document

/-- Equal documents have operands of the same names in each record. -/
theorem map_operandNames_of_equals {document other : Document}
    (h : document.equals other = true) :
    document.records.map Record.operandNames = other.records.map Record.operandNames := by
  have hitems : Json.equalsItems (document.records.map Record.toJson)
      (other.records.map Record.toJson) = true := by
    simpa [equals, toJson, Json.equals, Json.equalsMembers] using h
  exact Json.map_eq_of_equalsItems (fun _ _ => Record.operandNames_of_equals) hitems

/-- Equal documents have as many operands in each record. -/
theorem map_length_operands_of_equals {document other : Document}
    (h : document.equals other = true) :
    document.records.map (·.operands.length) = other.records.map (·.operands.length) := by
  simpa [Record.operandNames, Function.comp_def] using
    congrArg (List.map List.length) (map_operandNames_of_equals h)

end Document

end OperandCleanup
