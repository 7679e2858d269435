import OperandCleanup.Json.Equality
import OperandCleanup.Json.Printer
import OperandCleanup.Proofs.Json.Members
import OperandCleanup.Proofs.Json.Parts

/-!
# Members in the order of their names

Sorting a value changes no name and no scalar, so it changes nothing that is asked of all its parts.
Where names are distinct there is one order of them, and the sorted members are known from the value
of each name. Two values with finite numbers only that are sorted alike are equal.
-/

namespace OperandCleanup.Json

/-! ## Sorting members -/

/-- A member is put among the others. -/
theorem insertSorted_perm (name : String) (value : Json) (members : Members) :
    (insertSorted name value members).Perm ((name, value) :: members) := by
  induction members with
  | nil => exact .refl _
  | cons member rest ih =>
    rw [insertSorted]
    split
    · exact (ih.cons member).trans (.swap _ _ _)
    · exact .refl _

/-- Sorting items sorts each of them. -/
theorem sortedItems_eq_map (items : List Json) : sortedItems items = items.map sorted := by
  induction items with
  | nil => rfl
  | cons item rest ih => rw [sortedItems, ih, List.map_cons]

/-- Sorted members are the members with their values sorted, in some order. -/
theorem sortedMembers_perm (members : Members) :
    (sortedMembers members).Perm (members.map fun member => (member.1, sorted member.2)) := by
  induction members with
  | nil => exact .refl _
  | cons member rest ih =>
    exact (insertSorted_perm _ _ _).trans (ih.cons _)

/-- Sorting keeps the names. -/
theorem names_sortedMembers_perm (members : Members) :
    ((sortedMembers members).map (·.1)).Perm (members.map (·.1)) := by
  have hnames := (sortedMembers_perm members).map (·.1)
  rwa [List.map_map] at hnames

/-- Sorting keeps names distinct. -/
theorem nodup_names_sortedMembers (members : Members) :
    ((sortedMembers members).map (·.1)).Nodup ↔ (members.map (·.1)).Nodup :=
  (names_sortedMembers_perm members).nodup_iff

/-- Whether members stand in the order of their names. -/
def InOrder (members : Members) : Prop := members.Pairwise fun first later => first.1 ≤ later.1

/-- A member is put where it keeps the order. -/
theorem inOrder_insertSorted {members : Members} (h : InOrder members) (name : String)
    (value : Json) : InOrder (insertSorted name value members) := by
  induction members with
  | nil => exact List.pairwise_singleton _ _
  | cons member rest ih =>
    obtain ⟨hfirst, hrest⟩ := List.pairwise_cons.mp h
    rw [insertSorted]
    split
    · rename_i hlt
      refine List.pairwise_cons.mpr ⟨fun later hlater => ?_, ih hrest⟩
      rcases List.mem_cons.mp ((insertSorted_perm name value rest).mem_iff.mp hlater) with
        rfl | hlater
      · exact String.not_lt.mp (String.lt_asymm hlt)
      · exact hfirst later hlater
    · rename_i hle
      refine List.pairwise_cons.mpr ⟨fun later hlater => ?_, h⟩
      rcases List.mem_cons.mp hlater with rfl | hlater
      · exact String.not_lt.mp hle
      · exact String.le_trans (String.not_lt.mp hle) (hfirst later hlater)

/-- Sorted members stand in order. -/
theorem inOrder_sortedMembers (members : Members) : InOrder (sortedMembers members) := by
  induction members with
  | nil => exact List.Pairwise.nil
  | cons member rest ih => exact inOrder_insertSorted ih _ _

/-- Members in order stay where they are. -/
theorem sortedMembers_of_inOrder {members : Members} (h : InOrder members) :
    sortedMembers members = members.map fun member => (member.1, sorted member.2) := by
  induction members with
  | nil => rfl
  | cons member rest ih =>
    obtain ⟨hfirst, hrest⟩ := List.pairwise_cons.mp h
    rw [sortedMembers, ih hrest, List.map_cons]
    cases rest with
    | nil => rfl
    | cons next more =>
      rw [List.map_cons, insertSorted, if_neg (String.not_lt.mpr (hfirst next (by simp)))]

/-- Sorting twice is sorting. -/
theorem sorted_sorted (value : Json) : sorted (sorted value) = sorted value := by
  induction value using induction_parts with
  | null | bool | int | float | string => rfl
  | array items ih =>
    have hitems : ∀ item ∈ items, (sorted ∘ sorted) item = sorted item := ih
    rw [sorted, sorted, sortedItems_eq_map, sortedItems_eq_map, List.map_map,
      List.map_congr_left hitems]
  | object members ih =>
    have hmembers : ∀ member ∈ sortedMembers members, (member.1, sorted member.2) = member := by
      intro member hmember
      obtain ⟨original, horiginal, rfl⟩ :=
        List.mem_map.mp ((sortedMembers_perm members).mem_iff.mp hmember)
      rw [ih original horiginal]
    rw [sorted, sorted, sortedMembers_of_inOrder (inOrder_sortedMembers members),
      List.map_congr_left hmembers, List.map_id']

/-! ## What sorting keeps -/

/-- Only null is sorted into null. -/
theorem isNull_sorted (value : Json) : (sorted value).isNull = value.isNull := by
  cases value <;> rfl

/-- A test that sorting does not change at the top is not changed throughout. -/
theorem throughout_sorted {test : Json → Bool} (h : ∀ value, test (sorted value) = test value)
    (value : Json) : throughout test (sorted value) = throughout test value := by
  induction value using induction_parts with
  | null | bool | int | float | string => rfl
  | array items ih =>
    have hfirst := h (.array items)
    rw [sorted] at hfirst ⊢
    rw [Bool.eq_iff_iff, throughout_array, throughout_array, hfirst, sortedItems_eq_map,
      List.forall_mem_map]
    exact and_congr_right fun _ => forall₂_congr fun item hitem => by rw [ih item hitem]
  | object members ih =>
    have hfirst := h (.object members)
    rw [sorted] at hfirst ⊢
    rw [Bool.eq_iff_iff, throughout_object, throughout_object, hfirst]
    refine and_congr_right fun _ => ?_
    simp only [(sortedMembers_perm members).mem_iff, List.forall_mem_map]
    exact forall₂_congr fun member hmember => by rw [ih member hmember]

theorem floatFree_sorted {value : Json} : (sorted value).FloatFree ↔ value.FloatFree := by
  refine Bool.eq_iff_iff.mp (throughout_sorted (fun value => ?_) value)
  cases value <;> rfl

theorem allFinite_sorted {value : Json} : (sorted value).AllFinite ↔ value.AllFinite := by
  refine Bool.eq_iff_iff.mp (throughout_sorted (fun value => ?_) value)
  cases value <;> rfl

theorem allCanonical_sorted {value : Json} : (sorted value).AllCanonical ↔ value.AllCanonical := by
  refine Bool.eq_iff_iff.mp (throughout_sorted (fun value => ?_) value)
  cases value <;> rfl

theorem readable_sorted {value : Json} : (sorted value).Readable ↔ value.Readable := by
  refine Bool.eq_iff_iff.mp (throughout_sorted (fun value => ?_) value)
  cases value <;> rfl

theorem unambiguous_sorted {value : Json} : (sorted value).Unambiguous ↔ value.Unambiguous := by
  refine Bool.eq_iff_iff.mp (throughout_sorted (fun value => ?_) value)
  cases value with
  | object members => exact decide_eq_decide.mpr (nodup_names_sortedMembers members)
  | _ => rfl

theorem allTexts_sorted {test : String → Bool} {value : Json} :
    (sorted value).AllTexts test ↔ value.AllTexts test := by
  refine Bool.eq_iff_iff.mp (throughout_sorted (fun value => ?_) value)
  cases value with
  | object members =>
    have hnames := (names_sortedMembers_perm members).all_eq (f := test)
    rwa [List.all_map, List.all_map] at hnames
  | _ => rfl

/-! ## Sorted members by their names -/

/-- A member that is put among others gives its name its value, whatever the others. -/
theorem lookup_insertSorted (key : String) (value : Json) (members : Members) (name : String) :
    (insertSorted key value members).lookup name = ((key, value) :: members).lookup name := by
  induction members with
  | nil => rfl
  | cons member rest ih =>
    obtain ⟨other, kept⟩ := member
    rw [insertSorted]
    split
    · rename_i hlt
      rw [List.lookup_cons, ih]
      by_cases hname : name = other
      · have hkey : (other == key) = false := by simpa using String.ne_of_lt hlt
        subst hname
        simp [List.lookup_cons, hkey]
      · have hother : (name == other) = false := by simpa using hname
        simp [List.lookup_cons, hother]
    · rfl

/-- Sorted members give each name its value, sorted. -/
theorem lookup_sortedMembers (members : Members) (name : String) :
    (sortedMembers members).lookup name = (members.lookup name).map sorted := by
  induction members with
  | nil => rfl
  | cons member rest ih =>
    obtain ⟨key, value⟩ := member
    rw [sortedMembers, lookup_insertSorted, List.lookup_cons, List.lookup_cons, ih]
    cases name == key <;> rfl

/-- Members that are in order and give the same values to the same names are the same. -/
theorem eq_of_inOrder_of_lookup {members others : Members}
    (hmembers : (members.map (·.1)).Nodup) (hothers : (others.map (·.1)).Nodup)
    (horder : InOrder members) (horder' : InOrder others)
    (hlookup : ∀ name, members.lookup name = others.lookup name) : members = others := by
  have hperm : members.Perm others := by
    rw [List.perm_ext_iff_of_nodup (List.Pairwise.of_map _ (fun _ _ => mt (congrArg _)) hmembers)
      (List.Pairwise.of_map _ (fun _ _ => mt (congrArg _)) hothers)]
    rintro ⟨name, value⟩
    rw [← Members.lookup_eq_some_iff_mem hmembers, ← Members.lookup_eq_some_iff_mem hothers,
      hlookup]
  refine hperm.eq_of_pairwise (fun first later hfirst hlater hle hge => ?_) horder horder'
  have hname : first.1 = later.1 := String.le_antisymm hle hge
  have hvalue := (Members.lookup_eq_some_iff_mem hmembers).mpr hfirst
  rw [hlookup, hname] at hvalue
  have hvalue' := (Members.lookup_eq_some_iff_mem hothers).mpr hlater
  exact Prod.ext hname (Option.some.inj (hvalue.symm.trans hvalue'))

/-- Members that give the same sorted values to the same names are sorted alike. -/
theorem sortedMembers_eq_of_lookup {members others : Members}
    (hmembers : (members.map (·.1)).Nodup) (hothers : (others.map (·.1)).Nodup)
    (hlookup : ∀ name, (members.lookup name).map sorted = (others.lookup name).map sorted) :
    sortedMembers members = sortedMembers others := by
  refine eq_of_inOrder_of_lookup ((nodup_names_sortedMembers members).mpr hmembers)
    ((nodup_names_sortedMembers others).mpr hothers) (inOrder_sortedMembers members)
    (inOrder_sortedMembers others) fun name => ?_
  rw [lookup_sortedMembers, lookup_sortedMembers, hlookup]

/-! ## Equality -/

/-- Items that are sorted alike are equal if each of them equals what is sorted as it is. -/
theorem equalsItems_of_forall {items others : List Json}
    (h : items.map sorted = others.map sorted)
    (hequal : ∀ item ∈ items, ∀ other ∈ others, sorted item = sorted other →
      item.equals other = true) : equalsItems items others = true := by
  induction items generalizing others with
  | nil =>
    obtain rfl := List.map_eq_nil_iff.mp h.symm
    rfl
  | cons item rest ih =>
    obtain ⟨other, more, rfl, hother, hmore⟩ := List.map_eq_cons_iff.mp h.symm
    rw [equalsItems, Bool.and_eq_true]
    exact ⟨hequal item (by simp) other (by simp) hother.symm,
      ih hmore.symm fun item hitem other hother => hequal item (List.mem_cons_of_mem _ hitem) other
        (List.mem_cons_of_mem _ hother)⟩

/-- Members are equal to others that give each of their names an equal value. -/
theorem equalsMembers_of_forall {members others : Members}
    (h : ∀ member ∈ members, ∃ other, others.lookup member.1 = some other ∧
      member.2.equals other = true) : equalsMembers members others = true := by
  induction members with
  | nil => rfl
  | cons member rest ih =>
    obtain ⟨other, hlookup, hequal⟩ := h member (by simp)
    rw [equalsMembers, Bool.and_eq_true, hlookup]
    exact ⟨hequal, ih fun member hmember => h member (List.mem_cons_of_mem _ hmember)⟩

/-- Values with finite numbers only that are sorted alike are equal. -/
theorem equals_of_sorted_eq {value other : Json} (hfinite : value.AllFinite)
    (hvalue : value.Unambiguous) (hother : other.Unambiguous)
    (h : sorted value = sorted other) : value.equals other = true := by
  induction value using induction_parts generalizing other with
  | null => cases other <;> simp_all [sorted, equals, scalarEquals]
  | bool => cases other <;> simp_all [sorted, equals, scalarEquals]
  | int => cases other <;> simp_all [sorted, equals, scalarEquals]
  | string => cases other <;> simp_all [sorted, equals, scalarEquals]
  | float value =>
    obtain rfl : other = .float value := by
      cases other <;> simp_all [sorted]
    cases value with
    | finite => exact beq_self_eq_true _
    | infinite | nan => cases hfinite
  | array items ih =>
    obtain ⟨others, rfl⟩ : ∃ others, other = .array others := by
      cases other <;> simp_all [sorted]
    rw [sorted, sorted, sortedItems_eq_map, sortedItems_eq_map] at h
    rw [equals]
    exact equalsItems_of_forall (array.inj h) fun item hitem other hmem =>
      ih item hitem (allFinite_array.mp hfinite item hitem) (unambiguous_array.mp hvalue item hitem)
        (unambiguous_array.mp hother other hmem)
  | object members ih =>
    obtain ⟨others, rfl⟩ : ∃ others, other = .object others := by
      cases other <;> simp_all [sorted]
    rw [sorted, sorted] at h
    have hsorted := object.inj h
    have hlength : members.length = others.length := by
      have hlength := congrArg List.length hsorted
      rwa [(sortedMembers_perm members).length_eq, (sortedMembers_perm others).length_eq,
        List.length_map, List.length_map] at hlength
    rw [equals, Bool.and_eq_true]
    refine ⟨by simpa using hlength, equalsMembers_of_forall fun member hmember => ?_⟩
    obtain ⟨name, value⟩ := member
    have hlookup := congrArg (List.lookup name) hsorted
    rw [lookup_sortedMembers, lookup_sortedMembers,
      (Members.lookup_eq_some_iff_mem (unambiguous_object.mp hvalue).1).mpr hmember] at hlookup
    obtain ⟨other, hvalueOther, hequal⟩ := Option.map_eq_some_iff.mp hlookup.symm
    have hmem := Members.mem_of_lookup_eq_some hvalueOther
    exact ⟨other, hvalueOther, ih (name, value) hmember (allFinite_object.mp hfinite _ hmember)
      ((unambiguous_object.mp hvalue).2 _ hmember) ((unambiguous_object.mp hother).2 _ hmem)
      hequal.symm⟩

end OperandCleanup.Json
