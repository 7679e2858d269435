import OperandCleanup.Json.Basic

/-!
# Members by their names

Where no two members have the same name, the value of a name is as good as a member: what is done to
members is known from what it does to the value of each name.
-/

namespace OperandCleanup.Json.Members

variable {members : Members} {name : String} {value : Json}

/-- Among distinct names the value of a name is that of its member. -/
theorem lookup_eq_some_iff_mem (h : (members.map (·.1)).Nodup) :
    members.lookup name = some value ↔ (name, value) ∈ members := by
  induction members with
  | nil => simp
  | cons member rest ih =>
    obtain ⟨key, first⟩ := member
    simp only [List.map_cons, List.nodup_cons] at h
    rw [List.mem_cons]
    by_cases hname : name = key
    · subst hname
      have hrest : (name, value) ∉ rest := fun hmem => h.1 (List.mem_map.mpr ⟨_, hmem, rfl⟩)
      simp [hrest, eq_comm]
    · have hkey : (name == key) = false := by simpa using hname
      simp [List.lookup_cons, hkey, hname, ih h.2]

/-- The value of a name is that of some member. -/
theorem mem_of_lookup_eq_some (h : members.lookup name = some value) : (name, value) ∈ members := by
  obtain ⟨before, after, rfl, -⟩ := List.lookup_eq_some_iff.mp h
  simp

/-- A name without a value names no member. -/
theorem lookup_eq_none_iff_notMem : members.lookup name = none ↔ name ∉ members.map (·.1) := by
  rw [List.lookup_eq_none_iff, List.mem_map]
  constructor
  · rintro h ⟨member, hmember, rfl⟩
    simpa using h member hmember
  · intro h member hmember
    have hname : name ≠ member.1 := fun heq => h ⟨member, hmember, heq.symm⟩
    simpa using hname

/-- Changing the values of members changes the value of each name. -/
theorem lookup_mapValues (change : Json → Json) (members : Members) (name : String) :
    (members.map fun member => (member.1, change member.2)).lookup name =
      (members.lookup name).map change := by
  induction members with
  | nil => rfl
  | cons member rest ih =>
    rw [List.map_cons, List.lookup_cons, List.lookup_cons, ih]
    cases name == member.1 <;> rfl

/-- A chosen part of members with distinct names has distinct names. -/
theorem nodup_names_filter (h : (members.map (·.1)).Nodup) (chosen : String × Json → Bool) :
    ((members.filter chosen).map (·.1)).Nodup :=
  h.sublist (List.filter_sublist.map _)

/-- Among members with distinct names the chosen ones give a name its value if that is chosen. -/
theorem lookup_filter (h : (members.map (·.1)).Nodup) (chosen : String × Json → Bool)
    (name : String) :
    (members.filter chosen).lookup name =
      (members.lookup name).filter fun value => chosen (name, value) := by
  ext value
  rw [lookup_eq_some_iff_mem (nodup_names_filter h chosen), List.mem_filter,
    Option.filter_eq_some_iff, lookup_eq_some_iff_mem h]

/-- Leaving out names leaves the values of the others. -/
theorem lookup_without (h : (members.map (·.1)).Nodup) (names : List String) (name : String) :
    (members.without names).lookup name =
      if name ∈ names then none else members.lookup name := by
  rw [without, lookup_filter h]
  cases members.lookup name <;> by_cases hname : name ∈ names <;> simp [hname]

/-! ## Setting a name -/

/-- A new name goes to the end. -/
theorem set_of_notMem (h : name ∉ members.map (·.1)) (value : Json) :
    members.set name value = members ++ [(name, value)] := by
  induction members with
  | nil => rfl
  | cons member rest ih =>
    simp only [List.map_cons, List.mem_cons, not_or] at h
    rw [Members.set, if_neg (Ne.symm h.1), ih h.2, List.cons_append]

/-- The names after setting one are those before, and that one. -/
theorem mem_names_set {other : String} :
    other ∈ (members.set name value).map (·.1) ↔ other = name ∨ other ∈ members.map (·.1) := by
  induction members with
  | nil => simp [Members.set]
  | cons member rest ih =>
    obtain ⟨key, old⟩ := member
    rw [Members.set]
    split
    · rename_i hkey
      subst hkey
      simp
    · simp only [List.map_cons, List.mem_cons, ih]
      exact or_left_comm

/-- Setting a name keeps names distinct. -/
theorem nodup_names_set (h : (members.map (·.1)).Nodup) (name : String) (value : Json) :
    ((members.set name value).map (·.1)).Nodup := by
  induction members with
  | nil => simp [Members.set]
  | cons member rest ih =>
    obtain ⟨key, old⟩ := member
    simp only [List.map_cons, List.nodup_cons] at h
    rw [Members.set]
    split
    · simpa using h
    · rename_i hkey
      rw [List.map_cons, List.nodup_cons, mem_names_set]
      exact ⟨not_or.mpr ⟨hkey, h.1⟩, ih h.2⟩

/-- A member after setting a name is an earlier one or the one that was set. -/
theorem mem_of_mem_set {member : String × Json} (h : member ∈ members.set name value) :
    member ∈ members ∨ member = (name, value) := by
  induction members with
  | nil => exact Or.inr (List.mem_singleton.mp h)
  | cons first rest ih =>
    obtain ⟨key, old⟩ := first
    rw [Members.set] at h
    split at h
    · rename_i hkey
      rcases List.mem_cons.mp h with rfl | hrest
      · exact Or.inr (by rw [hkey])
      · exact Or.inl (List.mem_cons_of_mem _ hrest)
    · rcases List.mem_cons.mp h with rfl | hrest
      · exact Or.inl (List.mem_cons_self)
      · exact (ih hrest).imp (List.mem_cons_of_mem _) id

end OperandCleanup.Json.Members
