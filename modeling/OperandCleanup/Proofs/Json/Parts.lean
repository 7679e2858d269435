import OperandCleanup.Json.Basic
import OperandCleanup.Json.Fault
import OperandCleanup.Proofs.Number.Rounding

/-!
# The parts of a JSON value

What is asked of a value is often asked of all values within it too: that no object names a member
twice, that no number is a floating-point one or that all those are finite, that no integer is too
long to be read.
-/

namespace OperandCleanup.Json

mutual
/-- Whether a value and every value within it pass a test. -/
def throughout (test : Json → Bool) : Json → Bool
  | .array items => test (.array items) && throughoutItems test items
  | .object members => test (.object members) && throughoutMembers test members
  | .null => test .null
  | .bool value => test (.bool value)
  | .int value => test (.int value)
  | .float value => test (.float value)
  | .string value => test (.string value)

/-- Whether every item passes a test throughout. -/
def throughoutItems (test : Json → Bool) : List Json → Bool
  | [] => true
  | item :: rest => throughout test item && throughoutItems test rest

/-- Whether the value of every member passes a test throughout. -/
def throughoutMembers (test : Json → Bool) : List (String × Json) → Bool
  | [] => true
  | (_, value) :: rest => throughout test value && throughoutMembers test rest
end

/-- What holds of every scalar, and of an array or an object if it holds of the values in it, holds
of every value. -/
theorem induction_parts {motive : Json → Prop} (null : motive .null)
    (bool : ∀ value, motive (.bool value)) (int : ∀ value, motive (.int value))
    (float : ∀ value, motive (.float value)) (string : ∀ value, motive (.string value))
    (array : ∀ items, (∀ item ∈ items, motive item) → motive (.array items))
    (object : ∀ members : Members, (∀ member ∈ members, motive member.2) →
      motive (.object members))
    (value : Json) : motive value :=
  @Json.rec motive (fun items => ∀ item ∈ items, motive item)
    (fun members => ∀ member ∈ members, motive member.2) (fun member => motive member.2)
    null bool int float string array object
    (fun _ h => absurd h List.not_mem_nil)
    (fun _ _ first rest => List.forall_mem_cons.mpr ⟨first, rest⟩)
    (fun _ h => absurd h List.not_mem_nil)
    (fun _ _ first rest => List.forall_mem_cons.mpr ⟨first, rest⟩)
    (fun _ _ h => h)
    value

/-- Items pass a test when each of them does. -/
theorem throughoutItems_iff {test : Json → Bool} {items : List Json} :
    throughoutItems test items = true ↔ ∀ item ∈ items, throughout test item = true := by
  induction items with
  | nil => simp [throughoutItems]
  | cons item rest ih => simp [throughoutItems, ih]

/-- Members pass a test when the value of each of them does. -/
theorem throughoutMembers_iff {test : Json → Bool} {members : Members} :
    throughoutMembers test members = true ↔
      ∀ member ∈ members, throughout test member.2 = true := by
  induction members with
  | nil => simp [throughoutMembers]
  | cons member rest ih => simp [throughoutMembers, ih]

/-- An array passes a test when it and its items do. -/
theorem throughout_array {test : Json → Bool} {items : List Json} :
    throughout test (.array items) = true ↔
      test (.array items) = true ∧ ∀ item ∈ items, throughout test item = true := by
  rw [throughout, Bool.and_eq_true, throughoutItems_iff]

/-- An object passes a test when it and the values of its members do. -/
theorem throughout_object {test : Json → Bool} {members : Members} :
    throughout test (.object members) = true ↔
      test (.object members) = true ∧ ∀ member ∈ members, throughout test member.2 = true := by
  rw [throughout, Bool.and_eq_true, throughoutMembers_iff]

/-- What every value passes is passed throughout. -/
theorem throughout_of_forall {test : Json → Bool} (h : ∀ value, test value = true) (value : Json) :
    throughout test value = true := by
  induction value using induction_parts with
  | null | bool | int | float | string => exact h _
  | array items ih => exact throughout_array.mpr ⟨h _, ih⟩
  | object members ih => exact throughout_object.mpr ⟨h _, ih⟩

/-- What passes a test throughout passes one that asks for less. -/
theorem throughout_mono {test weaker : Json → Bool}
    (h : ∀ value, test value = true → weaker value = true) {value : Json}
    (hvalue : throughout test value = true) : throughout weaker value = true := by
  induction value using induction_parts with
  | null | bool | int | float | string => exact h _ hvalue
  | array items ih =>
    obtain ⟨htest, hitems⟩ := throughout_array.mp hvalue
    exact throughout_array.mpr ⟨h _ htest, fun item hitem => ih item hitem (hitems item hitem)⟩
  | object members ih =>
    obtain ⟨htest, hmembers⟩ := throughout_object.mp hvalue
    exact throughout_object.mpr
      ⟨h _ htest, fun member hmember => ih member hmember (hmembers member hmember)⟩

/-! ## The tests -/

def isFloat : Json → Bool
  | .float _ => true
  | _ => false

def isBool : Json → Bool
  | .bool _ => true
  | _ => false

/-- Whether a value is no floating-point number, or a finite one. -/
def isFinitePart : Json → Bool
  | .float value => value.isFinite
  | _ => true

/-- Whether a value is no floating-point number, or one that decimals are rounded to. -/
def isCanonicalPart : Json → Bool
  | .float value => value.IsCanonical
  | _ => true

/-- Whether a value is no integer that has more digits than are read. -/
def isReadable : Json → Bool
  | .int value => (Nat.toDigits 10 value.natAbs).length ≤ maxIntegerDigits
  | _ => true

/-- Whether a value is no object that names two members alike. -/
def isUnambiguous : Json → Bool
  | .object members => (members.map (·.1)).Nodup
  | _ => true

/-- Whether a value is a text that passes a test, or an object whose names do, or neither. -/
def hasTexts (test : String → Bool) : Json → Bool
  | .string value => test value
  | .object members => members.all fun member => test member.1
  | _ => true

/-- Whether there is no floating-point number within a value. -/
def FloatFree (value : Json) : Prop := throughout (fun part => !part.isFloat) value = true

/-- Whether there is no boolean within a value. -/
def BoolFree (value : Json) : Prop := throughout (fun part => !part.isBool) value = true

/-- Whether all floating-point numbers within a value are finite. -/
def AllFinite (value : Json) : Prop := throughout isFinitePart value = true

/-- Whether decimals are rounded to all floating-point numbers within a value. -/
def AllCanonical (value : Json) : Prop := throughout isCanonicalPart value = true

/-- Whether every integer within a value can be read. -/
def Readable (value : Json) : Prop := throughout isReadable value = true

/-- Whether no object within a value names two members alike. -/
def Unambiguous (value : Json) : Prop := throughout isUnambiguous value = true

/-- Whether all texts within a value, names of members among them, pass a test. -/
def AllTexts (test : String → Bool) (value : Json) : Prop := throughout (hasTexts test) value = true

instance : DecidablePred FloatFree := fun value =>
  inferInstanceAs (Decidable (throughout (fun part => !part.isFloat) value = true))

instance : DecidablePred BoolFree := fun value =>
  inferInstanceAs (Decidable (throughout (fun part => !part.isBool) value = true))

instance : DecidablePred AllFinite := fun value =>
  inferInstanceAs (Decidable (throughout isFinitePart value = true))

instance : DecidablePred AllCanonical := fun value =>
  inferInstanceAs (Decidable (throughout isCanonicalPart value = true))

instance : DecidablePred Readable := fun value =>
  inferInstanceAs (Decidable (throughout isReadable value = true))

instance : DecidablePred Unambiguous := fun value =>
  inferInstanceAs (Decidable (throughout isUnambiguous value = true))

instance (test : String → Bool) : DecidablePred (AllTexts test) := fun value =>
  inferInstanceAs (Decidable (throughout (hasTexts test) value = true))

theorem floatFree_array {items : List Json} :
    (Json.array items).FloatFree ↔ ∀ item ∈ items, item.FloatFree := by
  simp [FloatFree, throughout_array, isFloat]

theorem floatFree_object {members : Members} :
    (Json.object members).FloatFree ↔ ∀ member ∈ members, member.2.FloatFree := by
  simp [FloatFree, throughout_object, isFloat]

theorem boolFree_array {items : List Json} :
    (Json.array items).BoolFree ↔ ∀ item ∈ items, item.BoolFree := by
  simp [BoolFree, throughout_array, isBool]

theorem boolFree_object {members : Members} :
    (Json.object members).BoolFree ↔ ∀ member ∈ members, member.2.BoolFree := by
  simp [BoolFree, throughout_object, isBool]

theorem allFinite_array {items : List Json} :
    (Json.array items).AllFinite ↔ ∀ item ∈ items, item.AllFinite := by
  simp [AllFinite, throughout_array, isFinitePart]

theorem allFinite_object {members : Members} :
    (Json.object members).AllFinite ↔ ∀ member ∈ members, member.2.AllFinite := by
  simp [AllFinite, throughout_object, isFinitePart]

theorem allCanonical_array {items : List Json} :
    (Json.array items).AllCanonical ↔ ∀ item ∈ items, item.AllCanonical := by
  simp [AllCanonical, throughout_array, isCanonicalPart]

theorem allCanonical_object {members : Members} :
    (Json.object members).AllCanonical ↔ ∀ member ∈ members, member.2.AllCanonical := by
  simp [AllCanonical, throughout_object, isCanonicalPart]

theorem readable_array {items : List Json} :
    (Json.array items).Readable ↔ ∀ item ∈ items, item.Readable := by
  simp [Readable, throughout_array, isReadable]

theorem readable_object {members : Members} :
    (Json.object members).Readable ↔ ∀ member ∈ members, member.2.Readable := by
  simp [Readable, throughout_object, isReadable]

theorem unambiguous_array {items : List Json} :
    (Json.array items).Unambiguous ↔ ∀ item ∈ items, item.Unambiguous := by
  simp [Unambiguous, throughout_array, isUnambiguous]

theorem unambiguous_object {members : Members} :
    (Json.object members).Unambiguous ↔
      (members.map (·.1)).Nodup ∧ ∀ member ∈ members, member.2.Unambiguous := by
  simp [Unambiguous, throughout_object, isUnambiguous]

theorem allTexts_array {test : String → Bool} {items : List Json} :
    (Json.array items).AllTexts test ↔ ∀ item ∈ items, item.AllTexts test := by
  simp [AllTexts, throughout_array, hasTexts]

theorem allTexts_object {test : String → Bool} {members : Members} :
    (Json.object members).AllTexts test ↔
      ∀ member ∈ members, test member.1 = true ∧ member.2.AllTexts test := by
  simp [AllTexts, throughout_object, hasTexts, forall_and]

/-- What passes two tests of texts passes both at once. -/
theorem AllTexts.and {test other : String → Bool} {value : Json} (h : value.AllTexts test)
    (hother : value.AllTexts other) : value.AllTexts fun s => test s && other s := by
  induction value using induction_parts with
  | null | bool | int | float => rfl
  | string s => exact Bool.and_eq_true_iff.mpr ⟨h, hother⟩
  | array items ih =>
    rw [allTexts_array] at h hother ⊢
    exact fun item hitem => ih item hitem (h item hitem) (hother item hitem)
  | object members ih =>
    rw [allTexts_object] at h hother ⊢
    exact fun member hmember =>
      ⟨Bool.and_eq_true_iff.mpr ⟨(h member hmember).1, (hother member hmember).1⟩,
        ih member hmember (h member hmember).2 (hother member hmember).2⟩

/-! ## Finite values -/

/-- The finite values of items are those of each. -/
theorem finiteItems_eq_map (items : List Json) : finiteItems items = items.map finite := by
  induction items with
  | nil => rfl
  | cons item rest ih => rw [finiteItems, ih, List.map_cons]

/-- The finite values of members are those of each. -/
theorem finiteMembers_eq_map (members : Members) :
    finiteMembers members = members.map fun member => (member.1, finite member.2) := by
  induction members with
  | nil => rfl
  | cons member rest ih => rw [finiteMembers, ih, List.map_cons]

/-- The values that stay when numbers that are not finite become null are those without any. -/
theorem finite_eq_self_iff {value : Json} : value.finite = value ↔ value.AllFinite := by
  induction value using induction_parts with
  | null | bool | int | string => simp [finite, AllFinite, throughout, isFinitePart]
  | float value => simp [finite, AllFinite, throughout, isFinitePart]
  | array items ih =>
    have hitems : items.map finite = items ↔ ∀ item ∈ items, finite item = id item := by
      rw [← List.map_inj_left, List.map_id]
    rw [finite, finiteItems_eq_map, array.injEq, hitems, allFinite_array]
    exact forall₂_congr ih
  | object members ih =>
    have hmembers : (members.map fun member => (member.1, finite member.2)) = members ↔
        ∀ member ∈ members, (member.1, finite member.2) = id member := by
      rw [← List.map_inj_left, List.map_id]
    rw [finite, finiteMembers_eq_map, object.injEq, hmembers, allFinite_object]
    simp only [id, Prod.ext_iff, true_and]
    exact forall₂_congr ih

/-- What passes a test throughout passes another one once numbers that are not finite are null, if
a single value does. -/
theorem throughout_finite {test after : Json → Bool}
    (h : ∀ value, test value = true → after value.finite = true) {value : Json}
    (hvalue : throughout test value = true) : throughout after value.finite = true := by
  induction value using induction_parts with
  | null | bool | int | string => exact h _ hvalue
  | float value =>
    have hafter := h _ hvalue
    rw [finite] at hafter ⊢
    split
    · rwa [if_pos ‹_›] at hafter
    · rwa [if_neg ‹_›] at hafter
  | array items ih =>
    obtain ⟨htest, hitems⟩ := throughout_array.mp hvalue
    have hafter := h _ htest
    rw [finite, finiteItems_eq_map] at hafter ⊢
    exact throughout_array.mpr
      ⟨hafter, List.forall_mem_map.mpr fun item hitem => ih item hitem (hitems item hitem)⟩
  | object members ih =>
    obtain ⟨htest, hmembers⟩ := throughout_object.mp hvalue
    have hafter := h _ htest
    rw [finite, finiteMembers_eq_map] at hafter ⊢
    exact throughout_object.mpr ⟨hafter, List.forall_mem_map.mpr fun member hmember =>
      ih member hmember (hmembers member hmember)⟩

/-- A number that is left is finite. -/
theorem isFinitePart_finite (value : Json) : isFinitePart value.finite = true := by
  cases value with
  | float value =>
    rw [finite]
    split
    · assumption
    · rfl
  | _ => rfl

/-- A number that is left is one that decimals are rounded to if it was one. -/
theorem isCanonicalPart_finite {value : Json} (h : isCanonicalPart value = true) :
    isCanonicalPart value.finite = true := by
  cases value with
  | float value =>
    rw [finite]
    split
    · exact h
    · rfl
  | _ => rfl

theorem isReadable_finite (value : Json) : isReadable value.finite = isReadable value := by
  cases value with
  | float value =>
    rw [finite]
    split <;> rfl
  | _ => rfl

theorem isUnambiguous_finite (value : Json) : isUnambiguous value.finite = isUnambiguous value := by
  cases value with
  | float value =>
    rw [finite]
    split <;> rfl
  | object members =>
    rw [finite, finiteMembers_eq_map, isUnambiguous, isUnambiguous, List.map_map]
    rfl
  | _ => rfl

theorem hasTexts_finite (test : String → Bool) (value : Json) :
    hasTexts test value.finite = hasTexts test value := by
  cases value with
  | float value =>
    rw [finite]
    split <;> rfl
  | object members =>
    rw [finite, finiteMembers_eq_map, hasTexts, hasTexts, List.all_map]
    rfl
  | _ => rfl

/-- Without floating-point numbers every number is finite. -/
theorem FloatFree.allFinite {value : Json} (h : value.FloatFree) : value.AllFinite := by
  refine throughout_mono (fun value hvalue => ?_) h
  cases value with
  | float => cases hvalue
  | _ => rfl

/-- Without floating-point numbers there is none that decimals are not rounded to. -/
theorem FloatFree.allCanonical {value : Json} (h : value.FloatFree) : value.AllCanonical := by
  refine throughout_mono (fun value hvalue => ?_) h
  cases value with
  | float => cases hvalue
  | _ => rfl

end OperandCleanup.Json
