import Mathlib.Data.List.Forall2
import Mathlib.Data.List.Nodup
import OperandCleanup.Registry

/-!
# Registries after any history of registrations

A registry is filled by calls, each of which offers an object under a name and with a priority, and
any of which may be refused. A call that is refused leaves the registry; one that is accepted puts
an entry behind the others. So whatever was offered, the names of the entries are distinct, and
their sequence numbers count them in the order of their registration.

The order in which entries run compares priorities first and sequence numbers after that. No two
entries have the same sequence number, so this is a strict order of all entries, and those of one
priority run in the order of their registration.
-/

namespace OperandCleanup

/-- A call that offers an object for registration. -/
structure Registration where
  name : String
  priority : Json
  offer : Offer

/-- Whether an entry says what a call asked for. -/
structure Registration.Entered (call : Registration) (entry : Entry) : Prop where
  name : entry.name = call.name
  priority : call.priority = .int entry.priority
  transform : call.offer.transform? = some entry.transform

/-- An object is no transform when it lacks one of the members. -/
theorem Offer.transform?_eq_none_iff (offer : Offer) :
    offer.transform? = none ↔
      offer.name = none ∨ offer.description = none ∨ offer.apply = none := by
  obtain ⟨name, description, apply⟩ := offer
  cases name <;> cases description <;> cases apply <;> simp [transform?]

/-- Whether an entry runs before another one: by its priority, and among entries of one priority by
its sequence number. -/
def Entry.Precedes (entry other : Entry) : Prop :=
  entry.priority < other.priority ∨
    entry.priority = other.priority ∧ entry.sequence < other.sequence

/-- Entries that differ in their sequence numbers precede where they are not behind. -/
theorem Entry.precedes_of_before {entry other : Entry} (h : entry.before other = true)
    (hsequence : entry.sequence ≠ other.sequence) : entry.Precedes other := by
  simp only [before, Bool.or_eq_true, Bool.and_eq_true, decide_eq_true_eq, beq_iff_eq] at h
  rcases h with hpriority | ⟨hpriority, hle⟩
  · exact Or.inl hpriority
  · exact Or.inr ⟨hpriority, Nat.lt_of_le_of_ne hle hsequence⟩

namespace Registry

/-- What a call returns. -/
def answer (registry : Registry) (call : Registration) : Except RegistryError Entry :=
  (registry.register call.name call.priority call.offer.transform?).map (·.2)

/-- The registry after a call: the one that a call that is accepted returns, or the registry as it
was. -/
def after (registry : Registry) (call : Registration) : Registry :=
  match registry.register call.name call.priority call.offer.transform? with
  | .ok (filled, _) => filled
  | .error _ => registry

/-- The registry after several calls. -/
def afterAll (registry : Registry) (calls : List Registration) : Registry :=
  calls.foldl after registry

/-- What several calls return, one after the other. -/
def answers : Registry → List Registration → List (Except RegistryError Entry)
  | _, [] => []
  | registry, call :: rest => registry.answer call :: (registry.after call).answers rest

/-- Whether the names of the entries are distinct, and their sequence numbers count them. -/
structure Consistent (registry : Registry) : Prop where
  names : (registry.entries.map (·.name)).Nodup
  sequences : registry.entries.map (·.sequence) = List.range registry.size

/-- Whether the call at an index of those on a registry without entries is accepted for a name, and
returns an entry. -/
def Registers (calls : List Registration) (index : Nat) (name : String) (entry : Entry) : Prop :=
  ∃ call, calls[index]? = some call ∧ call.name = name ∧
    (empty.answers calls)[index]? = some (.ok entry)

variable {registry : Registry}

/-! ## One call -/

/-- A registry has a name when one of its entries does. -/
theorem contains_iff (registry : Registry) (name : String) :
    registry.contains name = true ↔ ∃ entry ∈ registry.entries, entry.name = name := by
  simp [contains, find?]

/-- A call is refused and leaves the registry, for one of three reasons; or it is accepted, and puts
an entry behind the others, numbered by how many they are. -/
theorem call_cases (registry : Registry) (call : Registration) :
    ((∃ error, registry.answer call = .error error) ∧ registry.after call = registry ∧
        (registry.contains call.name = true ∨ call.offer.transform? = none ∨
          ∀ number, call.priority ≠ .int number)) ∨
      ∃ entry, registry.answer call = .ok entry ∧
        registry.after call = ⟨registry.entries ++ [entry]⟩ ∧
        registry.contains call.name = false ∧ call.Entered entry ∧
        entry.sequence = registry.size := by
  obtain ⟨name, priority, offer⟩ := call
  unfold answer after register
  cases hname : registry.contains name with
  | true => exact Or.inl ⟨⟨.duplicate name, rfl⟩, rfl, Or.inl rfl⟩
  | false =>
    cases htransform : offer.transform? with
    | none => exact Or.inl ⟨⟨.notATransform name, rfl⟩, rfl, Or.inr (Or.inl rfl)⟩
    | some transform =>
      cases priority with
      | int number => exact Or.inr ⟨_, rfl, rfl, rfl, ⟨rfl, rfl, htransform⟩, rfl⟩
      | null | bool value | float value | string value | array items | object members =>
        exact Or.inl ⟨⟨_, rfl⟩, rfl, Or.inr (Or.inr fun number => by simp)⟩

/-- A call is refused when its name is there already, or what it offers is no transform, or its
priority is no integer. -/
theorem answer_eq_error_iff (registry : Registry) (call : Registration) :
    (∃ error, registry.answer call = .error error) ↔
      registry.contains call.name = true ∨ call.offer.transform? = none ∨
        ∀ number, call.priority ≠ .int number := by
  rcases registry.call_cases call with
    ⟨hrefused, -, hreason⟩ | ⟨entry, haccepted, -, hname, hentered, -⟩
  · exact iff_of_true hrefused hreason
  · refine iff_of_false (by simp [haccepted]) ?_
    rintro (hduplicate | hnone | hpriority)
    · rw [hname] at hduplicate
      exact Bool.false_ne_true hduplicate
    · rw [hentered.transform] at hnone
      cases hnone
    · exact hpriority entry.priority hentered.priority

/-- A call that is refused leaves the registry. -/
theorem after_of_answer_eq_error {call : Registration}
    (h : ∃ error, registry.answer call = .error error) : registry.after call = registry := by
  rcases registry.call_cases call with ⟨-, hafter, -⟩ | ⟨entry, haccepted, -⟩
  · exact hafter
  · obtain ⟨error, herror⟩ := h
    rw [haccepted] at herror
    cases herror

/-- A call keeps a registry consistent. -/
theorem Consistent.after (h : registry.Consistent) (call : Registration) :
    (registry.after call).Consistent := by
  rcases registry.call_cases call with
    ⟨-, hafter, -⟩ | ⟨entry, -, hafter, hname, hentered, hsequence⟩
  · rwa [hafter]
  · rw [hafter]
    refine ⟨?_, ?_⟩
    · have hnew : call.name ∉ registry.entries.map (·.name) := by
        intro hmem
        obtain ⟨other, hother, hsame⟩ := List.mem_map.mp hmem
        rw [(registry.contains_iff call.name).mpr ⟨other, hother, hsame⟩] at hname
        exact Bool.false_ne_true hname.symm
      rw [List.map_append, List.map_singleton, hentered.name, List.nodup_append]
      refine ⟨h.names, by simp, fun name hmem other hother => ?_⟩
      rw [List.mem_singleton.mp hother]
      exact fun hsame => hnew (hsame ▸ hmem)
    · have hsize : (⟨registry.entries ++ [entry]⟩ : Registry).size = registry.size + 1 :=
        List.length_append
      rw [hsize, List.range_succ, List.map_append, h.sequences, List.map_singleton, hsequence]

/-! ## Any number of calls -/

/-- Calls keep a registry consistent. -/
theorem Consistent.afterAll (h : registry.Consistent) (calls : List Registration) :
    (registry.afterAll calls).Consistent := by
  induction calls generalizing registry with
  | nil => exact h
  | cons call rest ih => exact ih (h.after call)

/-- The registry without entries is consistent. -/
theorem consistent_empty : empty.Consistent := ⟨List.nodup_nil, rfl⟩

/-- Every call has an answer, and an entry that it returns says what it asked for. -/
theorem answers_entered (registry : Registry) (calls : List Registration) :
    List.Forall₂ (fun call answer => ∀ entry, answer = .ok entry → call.Entered entry) calls
      (registry.answers calls) := by
  induction calls generalizing registry with
  | nil => exact .nil
  | cons call rest ih =>
    refine .cons (fun entry hanswer => ?_) (ih (registry.after call))
    rcases registry.call_cases call with ⟨⟨error, herror⟩, -⟩ | ⟨own, haccepted, -, -, hentered, -⟩
    · rw [herror] at hanswer
      cases hanswer
    · rw [haccepted] at hanswer
      exact Except.ok.inj hanswer ▸ hentered

/-- The entries that calls add are those that they return, in the same order. -/
theorem entries_afterAll (registry : Registry) (calls : List Registration) :
    (registry.afterAll calls).entries =
      registry.entries ++ (registry.answers calls).filterMap Except.toOption := by
  induction calls generalizing registry with
  | nil => exact (List.append_nil registry.entries).symm
  | cons call rest ih =>
    have hrest : registry.afterAll (call :: rest) = (registry.after call).afterAll rest := rfl
    rw [hrest, ih, answers]
    rcases registry.call_cases call with
      ⟨⟨error, herror⟩, hafter, -⟩ | ⟨entry, haccepted, hafter, -⟩
    · rw [hafter, herror, List.filterMap_cons_none rfl]
    · have hkept : (.ok entry : Except RegistryError Entry).toOption = some entry := rfl
      rw [hafter, haccepted, List.filterMap_cons_some hkept, List.append_assoc,
        List.singleton_append]

/-- The registry after calls has the entries that the calls return. -/
theorem mem_entries_afterAll_empty {calls : List Registration} {entry : Entry} :
    entry ∈ (empty.afterAll calls).entries ↔ .ok entry ∈ empty.answers calls := by
  rw [entries_afterAll, empty, List.nil_append, List.mem_filterMap]
  constructor
  · rintro ⟨answer, hanswer, hentry⟩
    cases answer with
    | error error => cases hentry
    | ok own => exact Option.some.inj hentry ▸ hanswer
  · exact fun hanswer => ⟨.ok entry, hanswer, rfl⟩

/-- Of several calls no two are accepted for one name. -/
theorem answers_pairwise (calls : List Registration) :
    (empty.answers calls).Pairwise fun answer other =>
      ∀ entry, answer = .ok entry → ∀ second, other = .ok second → entry.name ≠ second.name := by
  have hnames := (consistent_empty.afterAll calls).names
  rw [entries_afterAll, empty, List.nil_append, List.nodup_iff_pairwise_ne, List.pairwise_map,
    List.pairwise_filterMap] at hnames
  refine hnames.imp fun hdiffer entry hentry second hsecond => hdiffer entry ?_ second ?_
  · rw [hentry]
    rfl
  · rw [hsecond]
    rfl

/-! ## Looking up entries -/

/-- In a consistent registry a name stands for the entry that has it. -/
theorem Consistent.get_eq_ok_iff (h : registry.Consistent) {name : String} {entry : Entry} :
    registry.get name = .ok entry ↔ entry ∈ registry.entries ∧ entry.name = name := by
  have hget : registry.get name = .ok entry ↔ registry.find? name = some entry := by
    unfold get
    cases registry.find? name <;> simp
  rw [hget, find?]
  constructor
  · intro hfound
    exact ⟨List.mem_of_find?_eq_some hfound, by simpa using List.find?_some hfound⟩
  · rintro ⟨hentry, rfl⟩
    cases hfound : registry.entries.find? (·.name == entry.name) with
    | none => simpa using List.find?_eq_none.mp hfound entry hentry
    | some other =>
      have hsame : other.name = entry.name := by simpa using List.find?_some hfound
      have hother := List.mem_of_find?_eq_some hfound
      rw [List.inj_on_of_nodup_map h.names hother hentry hsame]

/-! ## The order in which entries run -/

/-- The entries run in some order, each of them once. -/
theorem byPriority_perm (registry : Registry) : registry.byPriority.Perm registry.entries :=
  List.mergeSort_perm _ _

/-- No entry runs before one that it is behind. -/
theorem byPriority_ordered (registry : Registry) :
    registry.byPriority.Pairwise fun entry other => entry.before other = true := by
  refine List.pairwise_mergeSort (fun first second third => ?_) (fun first second => ?_) _
  · simp only [Entry.before, Bool.or_eq_true, Bool.and_eq_true, decide_eq_true_eq, beq_iff_eq]
    omega
  · simp only [Entry.before, Bool.or_eq_true, Bool.and_eq_true, decide_eq_true_eq, beq_iff_eq]
    omega

/-- The sequence numbers of a consistent registry grow in the order of registration. -/
theorem Consistent.entries_ordered (h : registry.Consistent) :
    registry.entries.Pairwise fun entry other => entry.sequence < other.sequence := by
  have hrange : (registry.entries.map (·.sequence)).Pairwise (· < ·) := by
    rw [h.sequences]
    exact List.pairwise_lt_range
  exact List.pairwise_map.mp hrange

/-- In a consistent registry each entry precedes those that run after it. -/
theorem Consistent.byPriority_precedes (h : registry.Consistent) :
    registry.byPriority.Pairwise Entry.Precedes := by
  have hdistinct : registry.byPriority.Pairwise fun entry other =>
      entry.sequence ≠ other.sequence :=
    (h.entries_ordered.imp fun hlt => Nat.ne_of_lt hlt).perm registry.byPriority_perm.symm
      fun hne => hne.symm
  exact registry.byPriority_ordered.imp₂ (fun _ _ => Entry.precedes_of_before) hdistinct

/-- In a consistent registry entries of one priority run in the order of their registration. -/
theorem Consistent.byPriority_filter (h : registry.Consistent) (priority : Int) :
    registry.byPriority.filter (·.priority == priority) =
      registry.entries.filter (·.priority == priority) := by
  have hrun : (registry.byPriority.filter (·.priority == priority)).Pairwise
      fun entry other => entry.sequence < other.sequence := by
    refine (h.byPriority_precedes.filter _).imp_of_mem fun hentry hother hprecedes => ?_
    have hsame := (List.mem_filter.mp hentry).2
    have hsame' := (List.mem_filter.mp hother).2
    simp only [beq_iff_eq] at hsame hsame'
    rcases hprecedes with hlt | ⟨-, hlt⟩
    · omega
    · exact hlt
  have hregistered := h.entries_ordered.filter (·.priority == priority)
  refine List.Perm.eq_of_pairwise (fun entry other _ _ hlt hgt => ?_) hrun hregistered
    (registry.byPriority_perm.filter _)
  exact absurd hlt (Nat.lt_asymm hgt)

/-! ## Histories -/

/-- A call that returns an entry is accepted for the name of the entry. -/
theorem registers_iff {calls : List Registration} {index : Nat} {name : String} {entry : Entry} :
    Registers calls index name entry ↔
      (empty.answers calls)[index]? = some (.ok entry) ∧ entry.name = name := by
  have hentered := List.forall₂_iff_get.mp (empty.answers_entered calls)
  constructor
  · rintro ⟨call, hcall, rfl, hanswer⟩
    obtain ⟨hindex, rfl⟩ := List.getElem?_eq_some_iff.mp hcall
    obtain ⟨hindex', hanswered⟩ := List.getElem?_eq_some_iff.mp hanswer
    exact ⟨hanswer, (hentered.2 index hindex hindex' entry hanswered).name⟩
  · rintro ⟨hanswer, rfl⟩
    obtain ⟨hindex, hanswered⟩ := List.getElem?_eq_some_iff.mp hanswer
    have hindex' : index < calls.length := hentered.1 ▸ hindex
    exact ⟨calls[index], List.getElem?_eq_getElem hindex',
      (hentered.2 index hindex' hindex entry hanswered).name.symm, hanswer⟩

/-- An entry with a name is in the registry when some call was accepted for the name. -/
theorem exists_registers_iff {calls : List Registration} {name : String} {entry : Entry} :
    (∃ index, Registers calls index name entry) ↔
      entry ∈ (empty.afterAll calls).entries ∧ entry.name = name := by
  rw [mem_entries_afterAll_empty, List.mem_iff_getElem?, exists_and_right.symm]
  exact exists_congr fun index => registers_iff

/-- No two calls are accepted for one name. -/
theorem Registers.index_unique {calls : List Registration} {index other : Nat} {name : String}
    {entry second : Entry} (h : Registers calls index name entry)
    (h' : Registers calls other name second) : index = other := by
  obtain ⟨hanswer, hname⟩ := registers_iff.mp h
  obtain ⟨hanswer', hname'⟩ := registers_iff.mp h'
  obtain ⟨hindex, hanswered⟩ := List.getElem?_eq_some_iff.mp hanswer
  obtain ⟨hother, hanswered'⟩ := List.getElem?_eq_some_iff.mp hanswer'
  have hdiffer := List.pairwise_iff_getElem.mp (answers_pairwise calls)
  rcases Nat.lt_trichotomy index other with hlt | heq | hgt
  · exact absurd (hname.trans hname'.symm)
      (hdiffer index other hindex hother hlt entry hanswered second hanswered')
  · exact heq
  · exact absurd (hname'.trans hname.symm)
      (hdiffer other index hother hindex hgt second hanswered' entry hanswered)

/-- Whatever calls a fresh registry has had, the next one is refused exactly when an earlier call
was accepted for its name, or what it offers lacks a member of a transform, or its priority is no
integer (a boolean is none); then it leaves the registry. The names in the registry are distinct,
its entries are those that the accepted calls returned, in their order, and are numbered in it from
zero; each says what its call asked for. A name stands for the entry of the one call that was
accepted for it. The entries run in the strict order of their priorities and sequence numbers, so
those of one priority run in the order of their registration. -/
theorem registrations_recorded (calls : List Registration) :
    let registry := empty.afterAll calls
    let answers := empty.answers calls
    (∀ call : Registration,
      ((∃ error, registry.answer call = .error error) ↔
        (∃ index entry, Registers calls index call.name entry) ∨
          (call.offer.name = none ∨ call.offer.description = none ∨ call.offer.apply = none) ∨
            ∀ number, call.priority ≠ .int number) ∧
        ((∃ error, registry.answer call = .error error) → registry.after call = registry)) ∧
      (registry.entries.map (·.name)).Nodup ∧
      registry.entries = answers.filterMap Except.toOption ∧
      registry.entries.map (·.sequence) = List.range registry.size ∧
      List.Forall₂ (fun call answer => ∀ entry, answer = .ok entry → call.Entered entry) calls
        answers ∧
      (∀ name entry, registry.get name = .ok entry ↔ ∃ index, Registers calls index name entry) ∧
      (∀ name index other entry second, Registers calls index name entry →
        Registers calls other name second → index = other) ∧
      registry.byPriority.Perm registry.entries ∧ registry.byPriority.Pairwise Entry.Precedes ∧
      ∀ priority : Int, registry.byPriority.filter (·.priority == priority) =
        registry.entries.filter (·.priority == priority) := by
  intro registry answers
  have hconsistent : registry.Consistent := consistent_empty.afterAll calls
  refine ⟨fun call => ⟨?_, after_of_answer_eq_error⟩, hconsistent.names,
    entries_afterAll empty calls, hconsistent.sequences, empty.answers_entered calls,
    fun name entry => ?_, fun _ _ _ _ _ => Registers.index_unique, registry.byPriority_perm,
    hconsistent.byPriority_precedes, hconsistent.byPriority_filter⟩
  · have hname : registry.contains call.name = true ↔
        ∃ index entry, Registers calls index call.name entry := by
      rw [contains_iff, exists_comm]
      exact exists_congr fun entry => exists_registers_iff.symm
    rw [answer_eq_error_iff, hname, Offer.transform?_eq_none_iff]
  · rw [hconsistent.get_eq_ok_iff, exists_registers_iff]

end Registry

end OperandCleanup
