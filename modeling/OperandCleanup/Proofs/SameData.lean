import Mathlib.Data.List.Forall2
import OperandCleanup.Proofs.Equality
import OperandCleanup.Proofs.Related
import OperandCleanup.Proofs.Reload

/-!
# Equal documents, part by part

Two documents that can come about are equal exactly when their records are, one by one: they have
the same mnemonic and the same encoding, operands that are equal one by one, and carried members of
equal values under the same names, in whatever order. Equal operands have the same name, usage and
encoding, and carry equal members. Members count as they are written, so null ones do not count.

This relation between operands is one that passes keep.
-/

namespace OperandCleanup

open List (Forall₂)

namespace Json

/-- Whether there are two values, and they are equal, or none at all. -/
abbrev EqualIfAny : Option Json → Option Json → Prop :=
  Option.Rel fun value other => value.equals other = true

/-- Whether members give the same names values, and equal ones. -/
def Members.Alike (members others : Members) : Prop :=
  ∀ name, EqualIfAny (members.lookup name) (others.lookup name)

namespace Members

variable {members others : Members} {name : String}

/-- Alike members have values under the same names. -/
theorem Alike.lookup_eq_none_iff (h : members.Alike others) (name : String) :
    members.lookup name = none ↔ others.lookup name = none := by
  have hname := h name
  generalize members.lookup name = value at hname ⊢
  generalize others.lookup name = other at hname ⊢
  cases hname <;> simp

/-- Alike members have equal values. -/
theorem Alike.exists_lookup (h : members.Alike others) {value : Json}
    (hvalue : members.lookup name = some value) :
    ∃ other, others.lookup name = some other ∧ value.equals other = true := by
  have hname := h name
  rw [hvalue] at hname
  generalize others.lookup name = other at hname ⊢
  cases hname with
  | some hequal => exact ⟨_, rfl, hequal⟩

end Members

/-- Equal lists are equal item by item. -/
theorem equalsItems_iff_forall₂ {items others : List Json} :
    equalsItems items others = true ↔
      Forall₂ (fun item other => item.equals other = true) items others := by
  induction items generalizing others with
  | nil => cases others <;> simp [equalsItems]
  | cons item rest ih => cases others <;> simp [equalsItems, ih]

/-- Arrays of what values are written as are equal exactly when the values are, one by one. -/
theorem equals_array_map_iff {α : Type} {write : α → Json} {values others : List α} :
    (array (values.map write)).equals (array (others.map write)) = true ↔
      Forall₂ (fun value other => (write value).equals (write other) = true) values others := by
  rw [equals, equalsItems_iff_forall₂, List.forall₂_map_left_iff, List.forall₂_map_right_iff]

/-- Equal texts are the same. -/
theorem equals_string_iff (text other : String) :
    (string text).equals (string other) = true ↔ text = other := by
  rw [equals, scalarEquals, beq_iff_eq]

/-- Members of equal objects have each other's names, where no name is there twice. -/
theorem names_perm_of_equals {members others : Members} (hmembers : (members.map (·.1)).Nodup)
    (h : (object members).equals (object others) = true) :
    (members.map (·.1)).Perm (others.map (·.1)) := by
  rw [equals, Bool.and_eq_true, beq_iff_eq] at h
  obtain ⟨hlength, hequal⟩ := h
  have hsubset : members.map (·.1) ⊆ others.map (·.1) := by
    intro name hname
    obtain ⟨member, hmember, rfl⟩ := List.mem_map.mp hname
    obtain ⟨other, hlookup, -⟩ := lookup_of_equalsMembers hequal hmember
    exact List.mem_map.mpr ⟨_, Members.mem_of_lookup_eq_some hlookup, rfl⟩
  refine (List.subperm_of_subset hmembers hsubset).perm_of_length_le ?_
  rw [List.length_map, List.length_map, hlength]

/-- Objects are equal exactly when their members are alike, where no name is there twice. -/
theorem equals_object_iff {members others : Members} (hmembers : (members.map (·.1)).Nodup)
    (hothers : (others.map (·.1)).Nodup) :
    (object members).equals (object others) = true ↔ members.Alike others := by
  constructor
  · intro h name
    have hnames := names_perm_of_equals hmembers h
    rw [equals, Bool.and_eq_true] at h
    cases hvalue : members.lookup name with
    | some value =>
      obtain ⟨other, hlookup, hequal⟩ :=
        lookup_of_equalsMembers h.2 (Members.mem_of_lookup_eq_some hvalue)
      rw [hlookup]
      exact .some hequal
    | none =>
      have hnone : others.lookup name = none := by
        rw [Members.lookup_eq_none_iff_notMem, ← hnames.mem_iff]
        exact Members.lookup_eq_none_iff_notMem.mp hvalue
      rw [hnone]
      exact .none
  · intro h
    have hnames : (members.map (·.1)).Perm (others.map (·.1)) := by
      rw [List.perm_ext_iff_of_nodup hmembers hothers]
      intro name
      rw [← not_iff_not, ← Members.lookup_eq_none_iff_notMem, ← Members.lookup_eq_none_iff_notMem]
      exact h.lookup_eq_none_iff name
    rw [equals, Bool.and_eq_true]
    refine ⟨by simpa using hnames.length_eq, equalsMembers_of_forall fun member hmember => ?_⟩
    exact h.exists_lookup ((Members.lookup_eq_some_iff_mem hmembers).mpr hmember)

end Json

/-- Whether carried members are written alike. -/
def WrittenAlike (extras extras' : Json.Members) : Prop :=
  (writtenExtras extras).Alike (writtenExtras extras')

section Known

variable {names : List String} {known known' extras extras' : Json.Members}

/-- Known members and those carried along are alike exactly when each are. -/
theorem alike_known_append_iff (hknown : (known.map (·.1)).Sublist names)
    (hknown' : (known'.map (·.1)).Sublist names) (hextras : Carried names extras)
    (hextras' : Carried names extras') :
    Json.Members.Alike (known ++ writtenExtras extras) (known' ++ writtenExtras extras') ↔
      (∀ name ∈ names, Json.EqualIfAny (known.lookup name) (known'.lookup name)) ∧
        WrittenAlike extras extras' := by
  simp only [Json.Members.Alike, lookup_known_append hknown hextras,
    lookup_known_append hknown' hextras']
  constructor
  · intro h
    refine ⟨fun name hname => ?_, fun name => ?_⟩
    · have hmember := h name
      rwa [if_pos hname, if_pos hname] at hmember
    · by_cases hname : name ∈ names
      · rw [lookup_writtenExtras_of_mem hextras hname, lookup_writtenExtras_of_mem hextras' hname]
        exact .none
      · have hmember := h name
        rwa [if_neg hname, if_neg hname] at hmember
  · rintro ⟨hmembers, hwritten⟩ name
    split
    · exact hmembers name ‹_›
    · exact hwritten name

/-- Objects of known members and of those carried along are equal exactly when both parts are
alike. -/
theorem equals_known_append_iff (hnames : names.Nodup) (hknown : (known.map (·.1)).Sublist names)
    (hknown' : (known'.map (·.1)).Sublist names) (hextras : Carried names extras)
    (hextras' : Carried names extras') :
    (Json.object (known ++ writtenExtras extras)).equals
        (Json.object (known' ++ writtenExtras extras')) = true ↔
      (∀ name ∈ names, Json.EqualIfAny (known.lookup name) (known'.lookup name)) ∧
        WrittenAlike extras extras' := by
  have hdistinct := nodup_names_known_append hnames hknown hextras
  have hdistinct' := nodup_names_known_append hnames hknown' hextras'
  rw [Json.equals_object_iff hdistinct hdistinct']
  exact alike_known_append_iff hknown hknown' hextras hextras'

end Known

/-! ## Operands -/

/-- Whether operands hold the same data. -/
structure Operand.SameData (operand other : Operand) : Prop where
  name : operand.name = other.name
  usage : operand.usage = other.usage
  encoding : operand.encoding = other.encoding
  extras : WrittenAlike operand.extras other.extras

/-- Passes keep the same data the same. -/
theorem Operand.congruent_sameData : Operand.Congruent Operand.SameData where
  name h := h.name
  rename h _ := ⟨rfl, h.usage, h.encoding, h.extras⟩
  revise h _ _ := ⟨rfl, rfl, h.encoding, h.extras⟩
  new _ := ⟨rfl, rfl, rfl, fun _ => .none⟩

/-- Usages are told apart by their names. -/
theorem Usage.name_injective : Function.Injective Usage.name := by
  intro usage other h
  cases usage <;> cases other <;> first | rfl | exact absurd h (by decide)

/-- Encodings are told apart by their names. -/
theorem Encoding.name_injective : Function.Injective Encoding.name := by
  intro encoding other h
  cases encoding <;> cases other <;> first | rfl | exact absurd h (by decide)

/-- Optional values that are written by name are written as equal values exactly when they are the
same, if names tell them apart. -/
theorem rel_map_string_iff {α : Type} {name : α → String} (hname : Function.Injective name)
    (value other : Option α) :
    Json.EqualIfAny (value.map fun value => Json.string (name value))
      (other.map fun value => Json.string (name value)) ↔ value = other := by
  cases value <;> cases other <;>
    simp [Json.equals, Json.scalarEquals, hname.eq_iff]

namespace Operand

variable {operand other : Operand}

/-- The name is written under its name. -/
theorem lookup_name (operand : Operand) :
    operand.knownMembers.lookup "name" = some (.string operand.name) := rfl

/-- Operands are equal exactly when they hold the same data. -/
theorem equals_toJson_iff (h : Carried memberNames operand.extras)
    (hother : Carried memberNames other.extras) :
    operand.toJson.equals other.toJson = true ↔ operand.SameData other := by
  have hparts := equals_known_append_iff (by decide) operand.names_knownMembers_sublist
    other.names_knownMembers_sublist h hother
  rw [toJson, toJson, toMembers_eq, toMembers_eq, hparts]
  simp only [memberNames, List.forall_mem_cons, lookup_name, lookup_usage, lookup_encoding,
    Option.rel_some_some, Json.equals_string_iff, rel_map_string_iff Usage.name_injective,
    rel_map_string_iff Encoding.name_injective]
  constructor
  · rintro ⟨⟨hname, husage, hencoding, -⟩, hextras⟩
    exact ⟨hname, husage, hencoding, hextras⟩
  · rintro ⟨hname, husage, hencoding, hextras⟩
    exact ⟨⟨hname, husage, hencoding, fun _ h => absurd h List.not_mem_nil⟩, hextras⟩

end Operand

/-! ## Records and documents -/

/-- Relations that agree on the items of two lists relate the lists together. -/
theorem forall₂_congr_of_mem {α β : Type} {left : List α} {right : List β}
    {first second : α → β → Prop}
    (h : ∀ item ∈ left, ∀ other ∈ right, first item other ↔ second item other) :
    Forall₂ first left right ↔ Forall₂ second left right := by
  induction left generalizing right with
  | nil => simp
  | cons item rest ih =>
    cases right with
    | nil => simp
    | cons other others =>
      rw [List.forall₂_cons, List.forall₂_cons, h item (by simp) other (by simp),
        ih fun item hitem other hother => h item (by simp [hitem]) other (by simp [hother])]

namespace Record

variable {record other : Record}

theorem lookup_mnemonic (record : Record) :
    record.knownMembers.lookup "mnemonic" = some (.string record.mnemonic) := rfl

theorem lookup_binaryEncoding (record : Record) :
    record.knownMembers.lookup "binary_encoding" = some (.string record.binaryEncoding) := rfl

theorem lookup_operands (record : Record) :
    record.knownMembers.lookup "vendor_syntax" =
      some (.array (record.operands.map Operand.toJson)) := rfl

/-- Records are equal exactly when they are related by holding the same data. -/
theorem equals_toJson_iff (h : record.WellFormed) (hother : other.WellFormed) :
    record.toJson.equals other.toJson = true ↔
      record.Related Operand.SameData WrittenAlike other := by
  have hparts := equals_known_append_iff (by decide) record.names_knownMembers_sublist
    other.names_knownMembers_sublist h.own hother.own
  have hoperands :
      Forall₂ (fun operand other => operand.toJson.equals other.toJson = true) record.operands
          other.operands ↔
        Forall₂ Operand.SameData record.operands other.operands :=
    forall₂_congr_of_mem fun operand hoperand other hmem =>
      Operand.equals_toJson_iff (h.operands operand hoperand) (hother.operands other hmem)
  rw [toJson, toJson, toMembers_eq, toMembers_eq, hparts, related_iff, ← hoperands]
  simp only [memberNames, List.forall_mem_cons, lookup_mnemonic, lookup_binaryEncoding,
    lookup_operands, Option.rel_some_some, Json.equals_string_iff, Json.equals_array_map_iff]
  constructor
  · rintro ⟨⟨hmnemonic, hencoding, hoperands, -⟩, hextras⟩
    exact ⟨hmnemonic, hencoding, hoperands, hextras⟩
  · rintro ⟨hmnemonic, hencoding, hoperands, hextras⟩
    exact ⟨⟨hmnemonic, hencoding, hoperands, fun _ h => absurd h List.not_mem_nil⟩, hextras⟩

end Record

namespace Document

/-- Documents that can come about are equal exactly when their records hold the same data, one by
one. -/
theorem equals_iff {document other : Document} (h : document.WellFormed)
    (hother : other.WellFormed) :
    document.equals other = true ↔
      Forall₂ (Record.Related Operand.SameData WrittenAlike) document.records other.records := by
  have hrecords :
      Forall₂ (fun record other => record.toJson.equals other.toJson = true) document.records
          other.records ↔
        Forall₂ (Record.Related Operand.SameData WrittenAlike) document.records other.records :=
    forall₂_congr_of_mem fun record hrecord other hmem =>
      Record.equals_toJson_iff (h record hrecord) (hother other hmem)
  rw [← hrecords, ← Json.equals_array_map_iff, equals, toJson, toJson]
  simp [Json.equals, Json.equalsMembers]

end Document

end OperandCleanup
