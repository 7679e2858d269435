import OperandCleanup.Proofs.Json.Injective
import OperandCleanup.Proofs.Reordering
import OperandCleanup.Proofs.SameData

/-!
# Canonical texts

The text of a document is canonical for equality. Documents that carry no floating-point numbers
are equal if they have the same text: different values are written differently, and values that are
sorted alike are equal. Conversely equal documents have the same text, if they carry no booleans
either; a boolean equals the number that it counts as, and is written differently.

In particular a text in which the members of objects stand in another order is loaded as a document
of the same text, whatever it carries.
-/

namespace OperandCleanup

open List (Forall₂)

namespace Json

/-- Whether equal values are told apart from a value by the order of members only: it has neither
floating-point numbers nor booleans, and no object in it names two members alike. -/
structure Definite (value : Json) : Prop where
  floatFree : value.FloatFree
  boolFree : value.BoolFree
  unambiguous : value.Unambiguous

/-- The items of a definite array are definite. -/
theorem Definite.item {items : List Json} (h : (array items).Definite) :
    ∀ item ∈ items, item.Definite := fun item hitem =>
  ⟨floatFree_array.mp h.floatFree item hitem, boolFree_array.mp h.boolFree item hitem,
    unambiguous_array.mp h.unambiguous item hitem⟩

/-- The values in a definite object are definite. -/
theorem Definite.member {members : Members} (h : (object members).Definite) :
    ∀ member ∈ members, member.2.Definite := fun member hmember =>
  ⟨floatFree_object.mp h.floatFree member hmember, boolFree_object.mp h.boolFree member hmember,
    (unambiguous_object.mp h.unambiguous).2 member hmember⟩

/-- Functions agree on related lists if they do on their related items. -/
theorem map_eq_map_of_forall₂ {α β γ : Type} {related : α → β → Prop} {f : α → γ} {g : β → γ}
    {items : List α} {others : List β} (h : Forall₂ related items others)
    (hagree : ∀ item ∈ items, ∀ other ∈ others, related item other → f item = g other) :
    items.map f = others.map g := by
  induction h with
  | nil => rfl
  | @cons item other items others hfirst _ ih =>
    rw [List.map_cons, List.map_cons, hagree item (by simp) other (by simp) hfirst,
      ih fun item hitem other hother => hagree item (by simp [hitem]) other (by simp [hother])]

/-- Definite values that are equal are sorted alike. -/
theorem sorted_eq_of_equals {value other : Json} (hvalue : value.Definite) (hother : other.Definite)
    (h : value.equals other = true) : sorted value = sorted other := by
  induction value using induction_parts generalizing other with
  | null => cases other <;> simp_all [equals, scalarEquals]
  | bool => exact absurd hvalue.boolFree Bool.false_ne_true
  | int n =>
    cases other with
    | int m =>
      rw [equals, scalarEquals, beq_iff_eq] at h
      rw [h]
    | bool => exact absurd hother.boolFree Bool.false_ne_true
    | float => exact absurd hother.floatFree Bool.false_ne_true
    | _ => exact absurd h Bool.false_ne_true
  | float => exact absurd hvalue.floatFree Bool.false_ne_true
  | string => cases other <;> simp_all [equals, scalarEquals]
  | array items ih =>
    obtain ⟨others, rfl⟩ : ∃ others, other = .array others := by
      cases other <;> simp_all [equals]
    rw [equals, equalsItems_iff_forall₂] at h
    rw [sorted, sorted, sortedItems_eq_map, sortedItems_eq_map]
    exact congrArg array (map_eq_map_of_forall₂ h fun item hitem other hmem hequal =>
      ih item hitem (hvalue.item item hitem) (hother.item other hmem) hequal)
  | object members ih =>
    obtain ⟨others, rfl⟩ : ∃ others, other = .object others := by
      cases other <;> simp_all [equals]
    have hmembers := (unambiguous_object.mp hvalue.unambiguous).1
    have hothers := (unambiguous_object.mp hother.unambiguous).1
    rw [equals_object_iff hmembers hothers] at h
    refine congrArg object (sortedMembers_eq_of_lookup hmembers hothers fun name => ?_)
    cases hlookup : members.lookup name with
    | none => rw [(h.lookup_eq_none_iff name).mp hlookup]
    | some value =>
      obtain ⟨other, hlookup', hequal⟩ := h.exists_lookup hlookup
      have hmem := Members.mem_of_lookup_eq_some hlookup
      have hmem' := Members.mem_of_lookup_eq_some hlookup'
      rw [hlookup', Option.map_some, Option.map_some,
        ih (name, value) hmem (hvalue.member _ hmem) (hother.member (name, other) hmem') hequal]

end Json

namespace Document

variable {document other : Document}

/-- What is written of a document that carries no floating-point numbers has none. -/
theorem floatFree_toJson (h : document.CarriesOnly Json.FloatFree) : document.toJson.FloatFree := by
  refine throughout_toJson (fun value hvalue => ?_) (fun _ => rfl) (fun _ => rfl) (fun _ => rfl) h
  cases value with
  | float => exact absurd hvalue Bool.false_ne_true
  | _ => rfl

/-- What is written of a document that carries no booleans has none. -/
theorem boolFree_toJson (h : document.CarriesOnly Json.BoolFree) : document.toJson.BoolFree := by
  refine throughout_toJson (fun value hvalue => ?_) (fun _ => rfl) (fun _ => rfl) (fun _ => rfl) h
  cases value with
  | bool => exact absurd hvalue Bool.false_ne_true
  | float value =>
    rw [Json.finite]
    split <;> rfl
  | _ => rfl

/-- Documents that carry no floating-point numbers are equal if they are written alike, as far as
their texts are told apart. -/
theorem equals_of_writtenBy_eq {quoted : String → List Char} {test : String → Bool}
    (hquoted : Json.Quoting quoted test) (h : document.WellFormed) (hother : other.WellFormed)
    (hfree : document.CarriesOnly Json.FloatFree) (hfree' : other.CarriesOnly Json.FloatFree)
    (htexts : document.toJson.AllTexts test) (htexts' : other.toJson.AllTexts test)
    (hwritten : Json.writtenBy quoted 0 document.toJson.sorted =
      Json.writtenBy quoted 0 other.toJson.sorted) : document.equals other = true := by
  have hsorted : document.toJson.sorted = other.toJson.sorted :=
    Json.writtenBy_injective hquoted (Json.floatFree_sorted.mpr (floatFree_toJson hfree))
      (Json.floatFree_sorted.mpr (floatFree_toJson hfree')) (Json.allTexts_sorted.mpr htexts)
      (Json.allTexts_sorted.mpr htexts') hwritten
  exact Json.equals_of_sorted_eq document.allFinite_toJson (unambiguous_toJson h)
    (unambiguous_toJson hother) hsorted

/-- Equal documents that carry neither floating-point numbers nor booleans are written alike, but
for the order of members. -/
theorem sorted_toJson_eq_of_equals (h : document.WellFormed) (hother : other.WellFormed)
    (hfree : document.CarriesOnly Json.FloatFree) (hfree' : other.CarriesOnly Json.FloatFree)
    (hbool : document.CarriesOnly Json.BoolFree) (hbool' : other.CarriesOnly Json.BoolFree)
    (hequal : document.equals other = true) : document.toJson.sorted = other.toJson.sorted :=
  Json.sorted_eq_of_equals
    ⟨floatFree_toJson hfree, boolFree_toJson hbool, unambiguous_toJson h⟩
    ⟨floatFree_toJson hfree', boolFree_toJson hbool', unambiguous_toJson hother⟩ hequal

/-- The text of a document of characters is canonical. Documents that can come about and carry no
floating-point numbers are equal if they have the same text, and have the same text if they are
equal and carry no booleans either. Texts whose values differ in the order of members only are
loaded as documents of the same text, or not loaded for the same reason. -/
theorem text_canonical :
    (∀ document other : Document, document.Reachable → other.Reachable →
      document.CarriesOnly Json.FloatFree → other.CarriesOnly Json.FloatFree →
        (document.text = other.text → document.equals other = true) ∧
          (document.CarriesOnly Json.BoolFree → other.CarriesOnly Json.BoolFree →
            document.equals other = true → document.text = other.text)) ∧
      ∀ (source source' : List Char) (value value' : Json), Json.read source = .ok value →
        Json.read source' = .ok value' → Json.Reordering value value' →
          (parse source').map text = (parse source).map text := by
  constructor
  · intro document other h hother hfree hfree'
    constructor
    · intro htext
      have hany (value : Json) : value.AllTexts fun _ => true :=
        Json.throughout_of_forall (fun value => by cases value <;> simp [Json.hasTexts]) value
      refine equals_of_writtenBy_eq Json.quoting_writtenText h.wellFormed hother.wellFormed hfree
        hfree' (hany _) (hany _) ?_
      rw [Json.writtenBy_eq_writtenAt (fun _ _ => rfl) (hany _),
        Json.writtenBy_eq_writtenAt (fun _ _ => rfl) (hany _)]
      exact String.ofList_injective htext
    · intro hbool hbool' hequal
      rw [text, text, Json.canonicalText, Json.canonicalText,
        sorted_toJson_eq_of_equals h.wellFormed hother.wellFormed hfree hfree' hbool hbool' hequal]
  · intro source source' value value' hread hread' hreordering
    rw [parse, parse, hread, hread']
    exact map_write_ofJson_of_reordering (String.ofList ∘ Json.written) (fun _ => rfl)
      (Json.wellFormed_of_read hread).unambiguous hreordering

end Document

end OperandCleanup
