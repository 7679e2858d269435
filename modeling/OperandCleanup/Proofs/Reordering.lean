import OperandCleanup.Proofs.Reload

/-!
# Members in another order

Loading looks members up by their names, so the order in which an object has them makes no
difference to what is loaded but for the order of the members that are carried along. Put precisely,
loading a sorted value is loading the value and sorting what it carries, issues and all. And the
text of a document does not depend on the order of what it carries. So permuting the members of any
object within a value, at whatever depth, changes neither whether a document is loaded from it nor
the text of that document.
-/

namespace OperandCleanup

namespace Json

/-! ## Reordered values -/

/-- Whether a value is another one with the members of some of the objects in it permuted. -/
inductive Reordering : Json → Json → Prop
  | refl (value : Json) : Reordering value value
  | trans {first second third : Json} (h : Reordering first second)
      (h' : Reordering second third) : Reordering first third
  | members {members others : Members} (h : members.Perm others) :
      Reordering (.object members) (.object others)
  | item {value other : Json} (before after : List Json) (h : Reordering value other) :
      Reordering (.array (before ++ value :: after)) (.array (before ++ other :: after))
  | member {value other : Json} (before after : Members) (name : String)
      (h : Reordering value other) :
      Reordering (.object (before ++ (name, value) :: after))
        (.object (before ++ (name, other) :: after))

/-- Permuted members give each name the same value, where no name is there twice. -/
theorem Members.lookup_eq_of_perm {members others : Members} (h : members.Perm others)
    (hmembers : (members.map (·.1)).Nodup) (name : String) :
    members.lookup name = others.lookup name := by
  have hothers : (others.map (·.1)).Nodup := (h.map (·.1)).nodup_iff.mp hmembers
  refine Option.ext fun value => ?_
  rw [lookup_eq_some_iff_mem hmembers, lookup_eq_some_iff_mem hothers, h.mem_iff]

/-- Members of which one has a value that is sorted alike are sorted alike. -/
theorem sortedMembers_append_cons {value other : Json} (h : sorted value = sorted other)
    (before after : Members) (name : String) :
    sortedMembers (before ++ (name, value) :: after) =
      sortedMembers (before ++ (name, other) :: after) := by
  induction before with
  | nil => rw [List.nil_append, List.nil_append, sortedMembers, sortedMembers, h]
  | cons member before ih =>
    rw [List.cons_append, List.cons_append, sortedMembers, sortedMembers, ih]

/-- A reordered value is sorted into the same value, and its names are as unambiguous. -/
theorem Reordering.sorted_eq {value other : Json} (h : Reordering value other)
    (hvalue : value.Unambiguous) : sorted value = sorted other ∧ other.Unambiguous := by
  induction h with
  | refl value => exact ⟨rfl, hvalue⟩
  | trans _ _ ih ih' =>
    obtain ⟨hsorted, hsecond⟩ := ih hvalue
    obtain ⟨hsorted', hthird⟩ := ih' hsecond
    exact ⟨hsorted.trans hsorted', hthird⟩
  | @members members others hperm =>
    obtain ⟨hnames, hvalues⟩ := unambiguous_object.mp hvalue
    have hothers : (others.map (·.1)).Nodup := (hperm.map (·.1)).nodup_iff.mp hnames
    refine ⟨congrArg object (sortedMembers_eq_of_lookup hnames hothers fun name => ?_), ?_⟩
    · rw [Members.lookup_eq_of_perm hperm hnames]
    · exact unambiguous_object.mpr
        ⟨hothers, fun other hother => hvalues other (hperm.mem_iff.mpr hother)⟩
  | @item value other before after _ ih =>
    have hitems := unambiguous_array.mp hvalue
    simp only [List.forall_mem_append, List.forall_mem_cons] at hitems
    obtain ⟨hsorted, hother⟩ := ih hitems.2.1
    constructor
    · rw [sorted, sorted, sortedItems_eq_map, sortedItems_eq_map, List.map_append, List.map_append,
        List.map_cons, List.map_cons, hsorted]
    · rw [unambiguous_array]
      simp only [List.forall_mem_append, List.forall_mem_cons]
      exact ⟨hitems.1, hother, hitems.2.2⟩
  | @member value other before after name _ ih =>
    obtain ⟨hnames, hvalues⟩ := unambiguous_object.mp hvalue
    simp only [List.forall_mem_append, List.forall_mem_cons] at hvalues
    obtain ⟨hsorted, hother⟩ := ih hvalues.2.1
    constructor
    · exact congrArg object (sortedMembers_append_cons hsorted before after name)
    · rw [unambiguous_object]
      simp only [List.forall_mem_append, List.forall_mem_cons]
      refine ⟨by simpa using hnames, hvalues.1, hother, hvalues.2.2⟩

/-! ## Sorting and what is done to members -/

/-- A member is put in front of members that do not come before it. -/
theorem insertSorted_of_forall_le {name : String} {members : Members}
    (h : ∀ member ∈ members, name ≤ member.1) (value : Json) :
    insertSorted name value members = (name, value) :: members := by
  cases members with
  | nil => rfl
  | cons member rest =>
    rw [insertSorted, if_neg (String.not_lt.mpr (h member (by simp)))]

/-- Of members in order and one that is put among them, those of chosen names are the chosen ones,
and that one among them if it is chosen. -/
theorem filter_insertSorted (chosen : String → Bool) {members : Members} (h : InOrder members)
    (name : String) (value : Json) :
    (insertSorted name value members).filter (chosen ·.1) =
      if chosen name then insertSorted name value (members.filter (chosen ·.1))
      else members.filter (chosen ·.1) := by
  induction members with
  | nil => cases hname : chosen name <;> simp [insertSorted, hname]
  | cons member rest ih =>
    obtain ⟨hfirst, hrest⟩ := List.pairwise_cons.mp h
    rw [insertSorted]
    split
    · rename_i hlt
      cases hmember : chosen member.1 with
      | true =>
        simp only [List.filter_cons, hmember, if_true, ih hrest, insertSorted, if_pos hlt]
        split <;> rfl
      | false => simp [hmember, ih hrest]
    · rename_i hle
      have hkept : ∀ kept ∈ (member :: rest).filter (chosen ·.1), name ≤ kept.1 := by
        intro kept hkept
        rcases List.mem_cons.mp (List.mem_filter.mp hkept).1 with rfl | hrest
        · exact String.not_lt.mp hle
        · exact String.le_trans (String.not_lt.mp hle) (hfirst kept hrest)
      rw [insertSorted_of_forall_le hkept, List.filter_cons]

/-- Sorted members without some names are the members without them, sorted. -/
theorem without_sortedMembers (members : Members) (names : List String) :
    Members.without (sortedMembers members) names = sortedMembers (members.without names) := by
  induction members with
  | nil => rfl
  | cons member rest ih =>
    have hinsert := filter_insertSorted (fun name => !names.contains name)
      (inOrder_sortedMembers rest) member.1 (sorted member.2)
    rw [sortedMembers]
    refine hinsert.trans ?_
    rw [show (sortedMembers rest).filter (fun member => !names.contains member.1) = _ from ih]
    rw [Members.without, Members.without, List.filter_cons]
    split <;> rfl

/-- A member whose value is changed is put where it is put with its own. -/
theorem map_insertSorted (change : Json → Json) (name : String) (value : Json) (members : Members) :
    (insertSorted name value members).map (fun member => (member.1, change member.2)) =
      insertSorted name (change value) (members.map fun member => (member.1, change member.2)) := by
  induction members with
  | nil => rfl
  | cons member rest ih =>
    rw [insertSorted, List.map_cons, insertSorted]
    split
    · rw [List.map_cons, ih]
    · rfl

/-- It makes no difference whether members are sorted before null stands for numbers that are not
finite or after it. -/
theorem finite_sorted (value : Json) : (sorted value).finite = sorted value.finite := by
  induction value using induction_parts with
  | null | bool | int | string => rfl
  | float value =>
    rw [sorted, finite]
    split <;> rfl
  | array items ih =>
    simp only [sorted, finite, sortedItems_eq_map, finiteItems_eq_map, List.map_map]
    exact congrArg array (List.map_congr_left ih)
  | object members ih =>
    simp only [sorted, finite]
    refine congrArg object ?_
    induction members with
    | nil => rfl
    | cons member rest ihrest =>
      obtain ⟨hmember, hrest⟩ := List.forall_mem_cons.mp ih
      have hrest := ihrest hrest
      rw [finiteMembers_eq_map] at hrest ⊢
      rw [sortedMembers, map_insertSorted, hrest, hmember, finiteMembers, sortedMembers]

end Json

/-! ## Loading sorted values -/

namespace Checked

variable {α β γ δ : Type}

/-- What is made of a part is made of its result. -/
theorem under_map (place : PathStep) (checked : Checked α) (f : α → β) :
    under place (checked.map f) = (under place checked).map f := by
  cases checked <;> rfl

/-- What is made of two values is made of both. -/
theorem both_map (first : Checked α) (second : Checked β) (f : α → γ) (g : β → δ) :
    both (first.map f) (second.map g) = (both first second).map (Prod.map f g) := by
  cases first <;> cases second <;> rfl

/-- A member that has to be there is checked among sorted members with the same result, as far as
its check gives it. -/
theorem required_sortedMembers {check : Json → Checked α} {f : α → α}
    (h : ∀ value, check value.sorted = (check value).map f) (members : Json.Members)
    (name : String) :
    required (Json.sortedMembers members) name check = (required members name check).map f := by
  rw [required, required, Json.Members.get?, Json.lookup_sortedMembers, ← under_map,
    Json.Members.get?]
  cases members.lookup name with
  | none => rfl
  | some value => exact congrArg (under (.member name)) (h value)

/-- A member with a default is checked among sorted members with the same result, as far as its
check gives it. -/
theorem withDefault_sortedMembers {default : α} {check : Json → Checked α} {f : α → α}
    (hdefault : f default = default) (h : ∀ value, check value.sorted = (check value).map f)
    (members : Json.Members) (name : String) :
    withDefault (Json.sortedMembers members) name default check =
      (withDefault members name default check).map f := by
  rw [withDefault, withDefault, Json.Members.get?, Json.lookup_sortedMembers, Json.Members.get?]
  cases members.lookup name with
  | none => rw [Option.map_none, Except.map, hdefault]
  | some value =>
    rw [Option.map_some, ← under_map]
    exact congrArg (under (.member name)) (h value)

/-- Sorted items are checked with the same results, as far as the check of an item gives them. -/
theorem list_sorted {check : Json → Checked α} {f : α → α}
    (h : ∀ value, check value.sorted = (check value).map f) (value : Json) :
    list check value.sorted = (list check value).map (List.map f) := by
  have hitems (index : Nat) (items : List Json) :
      itemsFrom check index (items.map Json.sorted) =
        (itemsFrom check index items).map (List.map f) := by
    induction items generalizing index with
    | nil => rfl
    | cons item rest ih =>
      rw [List.map_cons, itemsFrom, itemsFrom, h, ih, under_map, both_map]
      cases both (under (.item index) (check item)) (itemsFrom check (index + 1) rest) <;> rfl
  cases value with
  | array items =>
    rw [Json.sorted, Json.sortedItems_eq_map]
    exact hitems 0 items
  | _ => rfl

end Checked

namespace Operand

/-- An operand with what it carries sorted. -/
def sorted (operand : Operand) : Operand :=
  { operand with extras := Json.sortedMembers operand.extras }

/-- From sorted members an operand is loaded sorted, or with the same issues. -/
theorem ofMembers_sortedMembers (members : Json.Members) :
    ofMembers (Json.sortedMembers members) = (ofMembers members).map sorted := by
  have htext (value : Json) : Checked.text value.sorted = (Checked.text value).map id := by
    cases value <;> rfl
  have husage (value : Json) : Checked.nullable Usage.ofJson value.sorted =
      (Checked.nullable Usage.ofJson value).map id := by
    rw [Except.map_id]
    cases value <;> rfl
  have hencoding (value : Json) : Checked.nullable Encoding.ofJson value.sorted =
      (Checked.nullable Encoding.ofJson value).map id := by
    rw [Except.map_id]
    cases value <;> rfl
  simp only [ofMembers, Checked.required_sortedMembers htext,
    Checked.withDefault_sortedMembers rfl husage, Checked.withDefault_sortedMembers rfl hencoding,
    Except.map_id, id_eq, Json.without_sortedMembers]
  cases Checked.both (Checked.required members "name" Checked.text) _ <;> rfl

/-- From a sorted value an operand is loaded sorted, or with the same issues. -/
theorem ofJson_sorted (value : Json) : ofJson value.sorted = (ofJson value).map sorted := by
  cases value with
  | object members => exact ofMembers_sortedMembers members
  | _ => rfl

end Operand

namespace Record

/-- A record with what it and its operands carry sorted. -/
def sorted (record : Record) : Record :=
  { record with
    operands := record.operands.map Operand.sorted
    extras := Json.sortedMembers record.extras }

/-- From sorted members a record is loaded sorted, or with the same issues. -/
theorem ofMembers_sortedMembers (members : Json.Members) :
    ofMembers (Json.sortedMembers members) = (ofMembers members).map sorted := by
  have htext (value : Json) : Checked.text value.sorted = (Checked.text value).map id := by
    cases value <;> rfl
  simp only [ofMembers, Checked.required_sortedMembers htext,
    Checked.withDefault_sortedMembers rfl htext,
    Checked.withDefault_sortedMembers List.map_nil (Checked.list_sorted Operand.ofJson_sorted),
    Except.map_id, id_eq, Json.without_sortedMembers]
  cases Checked.required members "mnemonic" Checked.text <;>
    cases Checked.withDefault members "binary_encoding" "" Checked.text <;>
      cases Checked.withDefault members "vendor_syntax" [] (Checked.list Operand.ofJson) <;> rfl

end Record

namespace Document

/-- A document with what is carried in it sorted. -/
def sorted (document : Document) : Document := ⟨document.records.map Record.sorted⟩

/-- The members of sorted items are sorted members. -/
theorem recordMembers_sorted (index : Nat) (items : List Json) :
    recordMembers index (items.map Json.sorted) =
      (recordMembers index items).map (List.map Json.sortedMembers) := by
  induction items generalizing index with
  | nil => rfl
  | cons item rest ih =>
    cases item with
    | object members =>
      rw [List.map_cons, Json.sorted, recordMembers, recordMembers, ih]
      cases recordMembers (index + 1) rest <;> rfl
    | _ => rfl

/-- From sorted members records are loaded sorted, or with the same issues. -/
theorem recordsOf_sorted (lists : List Json.Members) :
    recordsOf (lists.map Json.sortedMembers) = (recordsOf lists).map (List.map Record.sorted) := by
  induction lists with
  | nil => rfl
  | cons members rest ih =>
    rw [List.map_cons, recordsOf, recordsOf, Record.ofMembers_sortedMembers, ih]
    cases Record.ofMembers members with
    | error issues => rfl
    | ok record => cases recordsOf rest <;> rfl

/-- From a sorted value a document is loaded sorted, or with the same error. -/
theorem ofJson_sorted (value : Json) : ofJson value.sorted = (ofJson value).map sorted := by
  cases value with
  | object members =>
    rw [Json.sorted, ofJson, ofJson, Json.Members.get?, Json.lookup_sortedMembers,
      Json.Members.get?]
    cases members.lookup "instructions" with
    | none => rfl
    | some value =>
      cases value with
      | array items =>
        simp only [Option.map_some, Option.getD_some, Json.sorted, Json.sortedItems_eq_map,
          recordMembers_sorted]
        cases recordMembers 0 items with
        | error error => rfl
        | ok lists =>
          change (recordsOf (lists.map Json.sortedMembers) >>= fun records => pure ⟨records⟩) =
            (recordsOf lists >>= fun records => pure ⟨records⟩).map sorted
          rw [recordsOf_sorted]
          cases recordsOf lists <;> rfl
      | _ => rfl
  | _ => rfl

end Document

/-! ## Texts of sorted documents -/

section Known

variable {names : List String} {known known' extras : Json.Members}

/-- What is carried well is carried well in another order. -/
theorem Carried.sorted (h : Carried names extras) : Carried names (Json.sortedMembers extras) := by
  have hmembers : ∀ member ∈ Json.sortedMembers extras, ∃ original ∈ extras,
      (original.1, original.2.sorted) = member := fun member hmember =>
    List.mem_map.mp ((Json.sortedMembers_perm extras).mem_iff.mp hmember)
  refine ⟨(Json.nodup_names_sortedMembers extras).mpr h.distinct, ?_, ?_⟩
  · intro member hmember
    obtain ⟨original, horiginal, rfl⟩ := hmembers member hmember
    exact h.unknown original horiginal
  · intro member hmember
    obtain ⟨original, horiginal, rfl⟩ := hmembers member hmember
    exact Json.unambiguous_sorted.mpr (h.unambiguous original horiginal)

/-- Sorted members are written with the same values, as far as these are sorted. -/
theorem lookup_writtenExtras_sortedMembers (h : Carried names extras) (name : String) :
    ((writtenExtras (Json.sortedMembers extras)).lookup name).map Json.sorted =
      ((writtenExtras extras).lookup name).map Json.sorted := by
  rw [lookup_writtenExtras h.sorted.distinct, lookup_writtenExtras h.distinct,
    Json.lookup_sortedMembers]
  cases extras.lookup name with
  | none => rfl
  | some value =>
    rw [Option.map_some, Option.filter_some, Option.filter_some, Json.isNull_sorted]
    split
    · rw [Option.map_some, Option.map_some, Option.map_some, Option.map_some, Json.finite_sorted,
        Json.sorted_sorted]
    · rfl

/-- Known members and carried ones are sorted alike whether the carried ones were sorted before
or not. -/
theorem sortedMembers_known_append (hnames : names.Nodup)
    (hknown : (known.map (·.1)).Sublist names) (hknown' : (known'.map (·.1)).Sublist names)
    (hextras : Carried names extras)
    (hsame : ∀ name, (known'.lookup name).map Json.sorted = (known.lookup name).map Json.sorted) :
    Json.sortedMembers (known' ++ writtenExtras (Json.sortedMembers extras)) =
      Json.sortedMembers (known ++ writtenExtras extras) := by
  refine Json.sortedMembers_eq_of_lookup (nodup_names_known_append hnames hknown' hextras.sorted)
    (nodup_names_known_append hnames hknown hextras) fun name => ?_
  rw [lookup_known_append hknown' hextras.sorted, lookup_known_append hknown hextras]
  split
  · exact hsame name
  · exact lookup_writtenExtras_sortedMembers hextras name

end Known

/-- A sorted operand is written as the operand, but for the order of members. -/
theorem Operand.sorted_toJson_sorted {operand : Operand}
    (h : Carried memberNames operand.extras) :
    operand.sorted.toJson.sorted = operand.toJson.sorted :=
  congrArg Json.object (sortedMembers_known_append (by decide) operand.names_knownMembers_sublist
    operand.sorted.names_knownMembers_sublist h fun _ => rfl)

/-- A sorted record is written as the record, but for the order of members. -/
theorem Record.sorted_toJson_sorted {record : Record} (h : record.WellFormed) :
    record.sorted.toJson.sorted = record.toJson.sorted := by
  have hoperands : Json.sortedItems (record.sorted.operands.map Operand.toJson) =
      Json.sortedItems (record.operands.map Operand.toJson) := by
    rw [Json.sortedItems_eq_map, Json.sortedItems_eq_map, sorted, List.map_map, List.map_map,
      List.map_map]
    exact List.map_congr_left fun operand hoperand =>
      Operand.sorted_toJson_sorted (h.operands operand hoperand)
  have hknown (name : String) : (record.sorted.knownMembers.lookup name).map Json.sorted =
      (record.knownMembers.lookup name).map Json.sorted := by
    rw [← Json.Members.lookup_mapValues, ← Json.Members.lookup_mapValues]
    simp only [knownMembers, List.map_cons, Json.sorted, hoperands]
    rfl
  exact congrArg Json.object (sortedMembers_known_append (by decide)
    record.names_knownMembers_sublist record.sorted.names_knownMembers_sublist h.own hknown)

namespace Document

/-- A sorted document is written as the document, but for the order of members. -/
theorem sorted_toJson_sorted {document : Document} (h : document.WellFormed) :
    document.sorted.toJson.sorted = document.toJson.sorted := by
  have hrecords : Json.sortedItems (document.sorted.records.map Record.toJson) =
      Json.sortedItems (document.records.map Record.toJson) := by
    rw [Json.sortedItems_eq_map, Json.sortedItems_eq_map, sorted, List.map_map, List.map_map,
      List.map_map]
    exact List.map_congr_left fun record hrecord => Record.sorted_toJson_sorted (h record hrecord)
  exact congrArg (fun items => Json.object [("instructions", .array items)]) hrecords

variable {α : Type} {write : Document → α} (writeJson : Json → α)

/-- What is loaded from a sorted value is written as what is loaded from the value, or fails for the
same reason. -/
theorem map_write_ofJson_sorted
    (hwrite : ∀ document, write document = writeJson document.toJson.sorted) {value : Json}
    (hvalue : value.Unambiguous) :
    (ofJson value.sorted).map write = (ofJson value).map write := by
  rw [ofJson_sorted]
  cases hloaded : ofJson value with
  | error error => rfl
  | ok document =>
    refine congrArg Except.ok ?_
    rw [hwrite, hwrite, sorted_toJson_sorted (wellFormed_of_ofJson hvalue hloaded)]

/-- What is loaded from a reordered value is written as what is loaded from the value, or fails for
the same reason. -/
theorem map_write_ofJson_of_reordering
    (hwrite : ∀ document, write document = writeJson document.toJson.sorted) {value other : Json}
    (hvalue : value.Unambiguous) (h : Json.Reordering value other) :
    (ofJson other).map write = (ofJson value).map write := by
  obtain ⟨hsorted, hother⟩ := h.sorted_eq hvalue
  rw [← map_write_ofJson_sorted writeJson hwrite hother,
    ← map_write_ofJson_sorted writeJson hwrite hvalue, hsorted]

end Document

end OperandCleanup
