import Mathlib.Data.List.Perm.Basic
import OperandCleanup.Proofs.Loading
import OperandCleanup.Proofs.Registration
import OperandCleanup.Proofs.Selection
import OperandCleanup.Registry.Lookup

/-!
# Selections by name

A selection asks for entries by two lists of names, either of which may be absent: those to run, or
all if there are none, and those to leave out. The names are looked up in order, the ones to run
first, and the first that is not registered is refused, also where the other list leaves it out.

If every name is registered, what is selected follows the order in which the entries run, whatever
the order of the names and however often each is given. So the two lists matter as sets only, and
leaving names out is asking for the others, as long as there are others to ask for.
-/

namespace OperandCleanup

namespace Registry

/-- The value of a list of names, which may be absent. -/
def namesValue : Option (List String) → Json
  | none => .null
  | some names => .array (names.map .string)

/-- Whether a name is the first of some names that is not registered. -/
def FirstUnknown (registry : Registry) (names : List String) (name : String) : Prop :=
  ∃ before after, names = before ++ name :: after ∧
    (∀ other ∈ before, registry.contains other = true) ∧ registry.contains name = false

/-- Whether entries are those that two lists of names select, each of them once and in the order in
which they run. -/
structure Selects (registry : Registry) (only skip : List String) (entries : List Entry) :
    Prop where
  ordered : entries.Sublist registry.byPriority
  distinct : (entries.map (·.name)).Nodup
  mem_iff : ∀ entry, entry ∈ entries ↔
    entry ∈ registry.entries ∧ (only = [] ∨ entry.name ∈ only) ∧ entry.name ∉ skip

variable {registry : Registry}

/-! ## Looking names up -/

/-- The first name that is not registered is the first that is found not to be. -/
theorem firstUnknown_iff {names : List String} {name : String} :
    registry.FirstUnknown names name ↔
      names.find? (fun name => !registry.contains name) = some name := by
  simp only [FirstUnknown, List.find?_eq_some_iff_append, Bool.not_eq_eq_eq_not, Bool.not_true,
    Bool.not_false]
  constructor
  · rintro ⟨before, after, hnames, hbefore, hname⟩
    exact ⟨hname, before, after, hnames, hbefore⟩
  · rintro ⟨hname, before, after, hnames, hbefore⟩
    exact ⟨before, after, hnames, hbefore, hname⟩

/-- Some name is the first that is not registered just when some name is not registered. -/
theorem exists_firstUnknown_iff {names : List String} :
    (∃ name, registry.FirstUnknown names name) ↔
      ∃ name ∈ names, registry.contains name = false := by
  simp only [firstUnknown_iff, ← Option.isSome_iff_exists, List.find?_isSome,
    Bool.not_eq_eq_eq_not, Bool.not_true]

/-- A name is looked up as its entry. -/
theorem lookUp_string (registry : Registry) (name : String) :
    registry.lookUp (.string name) = (registry.get name).mapError .registry := by
  rw [lookUp]
  cases registry.get name <;> rfl

/-- Names are looked up in order, up to the first that is not registered. -/
theorem mapM_lookUp_string (registry : Registry) (names : List String) :
    (names.map Json.string).mapM registry.lookUp =
      match names.find? fun name => !registry.contains name with
      | some name => .error (.registry (.unknown name))
      | none => .ok (names.filterMap registry.find?) := by
  induction names with
  | nil => rfl
  | cons name rest ih =>
    rw [List.map_cons, List.mapM_cons, lookUp_string, get, ih, List.find?_cons, contains,
      List.filterMap_cons]
    cases registry.find? name with
    | none => rfl
    | some entry =>
      cases rest.find? fun name => !registry.contains name <;> rfl

/-- Registered names are those of the entries that they are looked up as. -/
theorem map_name_filterMap_find? {names : List String}
    (h : names.find? (fun name => !registry.contains name) = none) :
    (names.filterMap registry.find?).map (·.name) = names := by
  induction names with
  | nil => rfl
  | cons name rest ih =>
    rw [List.find?_cons] at h
    cases hfound : registry.find? name with
    | none => simp [contains, hfound] at h
    | some entry =>
      have hname : entry.name = name := by simpa using List.find?_some hfound
      have hrest := ih (by simpa [contains, hfound] using h)
      rw [List.filterMap_cons, hfound, List.map_cons, hname, hrest]

/-- A selection by values of lists of names is one by the lists, an absent one being empty. -/
theorem selectListed_namesValue (registry : Registry) (only skip : Option (List String)) :
    registry.selectListed (namesValue only) (namesValue skip) =
      (registry.select (only.getD []) (skip.getD [])).mapError .registry := by
  have hlisted (names : Option (List String)) :
      listed (namesValue names) = .ok ((names.getD []).map Json.string) := by
    rcases names with _ | _ | ⟨name, rest⟩ <;> rfl
  simp only [selectListed, hlisted, bind, Except.bind, mapM_lookUp_string]
  rw [select, List.find?_append]
  cases honly : (only.getD []).find? fun name => !registry.contains name with
  | some name => rfl
  | none =>
    cases hskip : (skip.getD []).find? fun name => !registry.contains name with
    | some name => rfl
    | none =>
      -- All names are found, and the selection goes by the names of what is found.
      simp only [select, map_name_filterMap_find? honly, map_name_filterMap_find? hskip,
        List.find?_append, honly, hskip]
      rfl

/-! ## What is selected -/

/-- The entries that two lists select are known by what they are to be. -/
theorem Consistent.selects_iff (h : registry.Consistent) {only skip : List String}
    {entries : List Entry} :
    registry.Selects only skip entries ↔
      entries = registry.selected { only := only, skip := skip } := by
  have hdistinct : (registry.byPriority.map (·.name)).Nodup :=
    (registry.byPriority_perm.map (·.name)).nodup_iff.mpr h.names
  have hmem (entry : Entry) : entry ∈ registry.selected { only := only, skip := skip } ↔
      entry ∈ registry.entries ∧ (only = [] ∨ entry.name ∈ only) ∧ entry.name ∉ skip := by
    simp [selected, Config.selects, registry.byPriority_perm.mem_iff]
  have hselected : (registry.selected { only := only, skip := skip }).Sublist registry.byPriority :=
    List.filter_sublist
  constructor
  · intro hselects
    have hrun : registry.byPriority.Nodup := hdistinct.of_map
    refine (List.Nodup.perm_iff_eq_of_sublist hrun hselects.ordered hselected).mp ?_
    refine (List.perm_ext_iff_of_nodup (hselects.distinct.of_map) (hselected.nodup hrun)).mpr ?_
    exact fun entry => (hselects.mem_iff entry).trans (hmem entry).symm
  · rintro rfl
    exact ⟨hselected, hdistinct.sublist (hselected.map _), hmem⟩

/-- What two lists select depends on which names are in them. -/
theorem Selects.congr {only skip other left : List String} {entries : List Entry}
    (honly : ∀ name, name ∈ only ↔ name ∈ other) (hskip : ∀ name, name ∈ skip ↔ name ∈ left)
    (h : registry.Selects only skip entries) : registry.Selects other left entries := by
  have hempty : only = [] ↔ other = [] := by
    rw [List.eq_nil_iff_forall_not_mem, List.eq_nil_iff_forall_not_mem]
    exact forall_congr' fun name => not_congr (honly name)
  refine ⟨h.ordered, h.distinct, fun entry => ?_⟩
  rw [h.mem_iff, hempty, honly, hskip]

/-- Leaving names out is asking for the others. -/
theorem Selects.only_of_skip {only skip : List String} {entries : List Entry} (hne : only ≠ [])
    (hothers : ∀ name, name ∈ only ↔ registry.contains name = true ∧ name ∉ skip)
    (h : registry.Selects [] skip entries) : registry.Selects only [] entries := by
  refine ⟨h.ordered, h.distinct, fun entry => ?_⟩
  rw [h.mem_iff, hothers]
  have hregistered (hentry : entry ∈ registry.entries) : registry.contains entry.name = true :=
    (registry.contains_iff entry.name).mpr ⟨entry, hentry, rfl⟩
  simp only [hne, List.not_mem_nil, or_false, true_and, false_or, not_false_eq_true, and_true]
  exact and_congr_right fun hentry => (and_iff_right (hregistered hentry)).symm

/-- A selection refuses the first name that is not registered, and nothing else. -/
theorem select_eq_error_iff {only skip : List String} {error : RegistryError} :
    registry.select only skip = .error error ↔
      ∃ name, registry.FirstUnknown (only ++ skip) name ∧ error = .unknown name := by
  simp only [select, firstUnknown_iff]
  cases (only ++ skip).find? fun name => !registry.contains name <;> simp [eq_comm]

/-- A selection whose names are all registered has what the names select. -/
theorem Consistent.select_eq_ok_iff (h : registry.Consistent) {only skip : List String}
    {entries : List Entry} :
    registry.select only skip = .ok entries ↔
      (∀ name ∈ only ++ skip, registry.contains name = true) ∧
        registry.Selects only skip entries := by
  rw [h.selects_iff]
  by_cases hknown : Config.KnownTo { only := only, skip := skip } registry
  · rw [Registry.select_of_knownTo hknown, Except.ok.injEq, eq_comm]
    exact (and_iff_right hknown).symm
  · obtain ⟨name, -, -, hrefused⟩ := Registry.select_of_not_knownTo hknown
    rw [hrefused]
    exact iff_of_false nofun fun hselected => hknown hselected.1

/-! ## Selections by values -/

/-- A selection by values of lists of names refuses the first name that is not registered. -/
theorem selectListed_eq_error_iff {only skip : Option (List String)} {error : LookupError} :
    registry.selectListed (namesValue only) (namesValue skip) = .error error ↔
      ∃ name, registry.FirstUnknown (only.getD [] ++ skip.getD []) name ∧
        error = .registry (.unknown name) := by
  rw [selectListed_namesValue, mapError_eq_error_iff]
  simp only [select_eq_error_iff]
  constructor
  · rintro ⟨before, ⟨name, hname, rfl⟩, rfl⟩
    exact ⟨name, hname, rfl⟩
  · rintro ⟨name, hname, rfl⟩
    exact ⟨.unknown name, ⟨name, hname, rfl⟩, rfl⟩

/-- A selection by values of lists of names is refused when some name is not registered. -/
theorem exists_selectListed_eq_error_iff {only skip : Option (List String)} :
    (∃ error, registry.selectListed (namesValue only) (namesValue skip) = .error error) ↔
      ∃ name ∈ only.getD [] ++ skip.getD [], registry.contains name = false := by
  simp only [selectListed_eq_error_iff, ← exists_firstUnknown_iff]
  exact ⟨fun ⟨_, name, hname, _⟩ => ⟨name, hname⟩, fun ⟨name, hname⟩ => ⟨_, name, hname, rfl⟩⟩

/-- A selection by values of lists of names whose names are all registered has what they select. -/
theorem Consistent.selectListed_eq_ok_iff (h : registry.Consistent)
    {only skip : Option (List String)} {entries : List Entry} :
    registry.selectListed (namesValue only) (namesValue skip) = .ok entries ↔
      (∀ name ∈ only.getD [] ++ skip.getD [], registry.contains name = true) ∧
        registry.Selects (only.getD []) (skip.getD []) entries := by
  rw [selectListed_namesValue, mapError_eq_ok_iff, h.select_eq_ok_iff]

/-- A selection by values of lists of names depends on which names are in them. -/
theorem Consistent.selectListed_congr (h : registry.Consistent)
    {only skip other left : Option (List String)}
    (honly : ∀ name, name ∈ only.getD [] ↔ name ∈ other.getD [])
    (hskip : ∀ name, name ∈ skip.getD [] ↔ name ∈ left.getD []) (entries : List Entry) :
    registry.selectListed (namesValue only) (namesValue skip) = .ok entries ↔
      registry.selectListed (namesValue other) (namesValue left) = .ok entries := by
  have hnames : ∀ name, name ∈ only.getD [] ++ skip.getD [] ↔
      name ∈ other.getD [] ++ left.getD [] := fun name => by
    rw [List.mem_append, List.mem_append, honly, hskip]
  rw [h.selectListed_eq_ok_iff, h.selectListed_eq_ok_iff]
  refine and_congr (forall_congr' fun name => imp_congr_left (hnames name)) ⟨?_, ?_⟩
  · exact Selects.congr honly hskip
  · exact Selects.congr (fun name => (honly name).symm) fun name => (hskip name).symm

/-- Leaving names out gives what asking for the others does, if the names that are left out are
registered; otherwise it is refused, which asking for the others is not. -/
theorem Consistent.selectListed_skip_eq_only_iff (h : registry.Consistent)
    {only skip : List String} (hne : only ≠ [])
    (hothers : ∀ name, name ∈ only ↔ registry.contains name = true ∧ name ∉ skip) :
    registry.selectListed (namesValue none) (namesValue (some skip)) =
        registry.selectListed (namesValue (some only)) (namesValue none) ↔
      ∀ name ∈ skip, registry.contains name = true := by
  have honly : ∀ name ∈ only ++ [], registry.contains name = true := fun name hname =>
    ((hothers name).mp (by simpa using hname)).1
  have hok {only skip : Option (List String)} {entries : List Entry} :
      registry.selectListed (namesValue only) (namesValue skip) = .ok entries ↔
        (∀ name ∈ only.getD [] ++ skip.getD [], registry.contains name = true) ∧
          registry.Selects (only.getD []) (skip.getD []) entries :=
    h.selectListed_eq_ok_iff
  constructor
  · intro hsame
    have hasked : registry.selectListed (namesValue (some only)) (namesValue none) =
        .ok (registry.selected { only := only }) := hok.mpr ⟨honly, h.selects_iff.mpr rfl⟩
    exact (hok.mp (hsame.trans hasked)).1
  · intro hskip
    have hleft : registry.Selects [] skip (registry.selected { skip := skip }) :=
      h.selects_iff.mpr rfl
    have hasked : registry.selectListed (namesValue (some only)) (namesValue none) =
        .ok (registry.selected { skip := skip }) :=
      hok.mpr ⟨honly, hleft.only_of_skip hne hothers⟩
    rw [hasked]
    exact hok.mpr ⟨hskip, hleft⟩

/-- Whatever calls have filled a registry, a selection by two lists of names is refused exactly when
some of the names is not registered, because of the first such one, and otherwise has exactly the
entries that the names select, each once and in the order in which they run. Whether there is a
selection, and which, depends on the sets of names only. Leaving names out gives what asking for the
others does exactly when the names that are left out are registered. -/
theorem select_by_names (calls : List Registration) :
    let registry := empty.afterAll calls
    let answer (only skip : Option (List String)) :=
      registry.selectListed (namesValue only) (namesValue skip)
    (∀ only skip : Option (List String),
      let names := only.getD [] ++ skip.getD []
      ((∃ error, answer only skip = .error error) ↔
          ∃ name ∈ names, registry.contains name = false) ∧
        (∀ error, answer only skip = .error error ↔
          ∃ name, registry.FirstUnknown names name ∧ error = .registry (.unknown name)) ∧
        ∀ entries, answer only skip = .ok entries →
          registry.Selects (only.getD []) (skip.getD []) entries) ∧
      (∀ only skip other left : Option (List String),
        (∀ name, name ∈ only.getD [] ↔ name ∈ other.getD []) →
        (∀ name, name ∈ skip.getD [] ↔ name ∈ left.getD []) →
          ∀ entries, answer only skip = .ok entries ↔ answer other left = .ok entries) ∧
      ∀ only skip : List String, only ≠ [] →
        (∀ name, name ∈ only ↔ registry.contains name = true ∧ name ∉ skip) →
          (answer none (some skip) = answer (some only) none ↔
            ∀ name ∈ skip, registry.contains name = true) := by
  intro registry answer
  have hconsistent : registry.Consistent := consistent_empty.afterAll calls
  refine ⟨fun only skip => ⟨exists_selectListed_eq_error_iff,
    fun error => selectListed_eq_error_iff, fun entries hentries => ?_⟩, ?_, ?_⟩
  · exact (hconsistent.selectListed_eq_ok_iff.mp hentries).2
  · exact fun only skip other left => hconsistent.selectListed_congr
  · exact fun only skip => hconsistent.selectListed_skip_eq_only_iff

/-! ## The default registry -/

/-- The call that registers a pass of the library. -/
def standardCall (pass : Pass) : Registration where
  name := pass.name
  priority := .int operandPriority
  offer := { name := pass.name, description := pass.description, apply := pass.apply }

/-- The default registry is one that calls have filled. -/
theorem default_eq_afterAll : default = empty.afterAll (Pass.standard.map standardCall) := rfl

/-- The default registry is consistent. -/
theorem consistent_default : default.Consistent := by
  rw [default_eq_afterAll]
  exact consistent_empty.afterAll _

/-- Leaving out a name that the default registry does not have is refused, while asking for all the
names that it has is not. -/
theorem default_select_skip_unregistered :
    let registered := Pass.standard.map (·.name)
    registered ≠ [] ∧
      (∀ name, name ∈ registered ↔ default.contains name = true ∧ name ∉ ["Nope"]) ∧
      default.selectListed (namesValue none) (namesValue (some ["Nope"])) =
        .error (.registry (.unknown "Nope")) ∧
      default.selectListed (namesValue (some registered)) (namesValue none) =
        .ok default.entries := by
  intro registered
  have hothers (name : String) :
      name ∈ registered ↔ default.contains name = true ∧ name ∉ ["Nope"] := by
    rw [contains_default_iff, iff_self_and]
    intro hname hnope
    rw [List.mem_singleton.mp hnope] at hname
    exact absurd hname (by decide)
  refine ⟨by decide, hothers, rfl, consistent_default.selectListed_eq_ok_iff.mpr ⟨?_, ?_⟩⟩
  · exact fun name hname => ((hothers name).mp (by simpa using hname)).1
  · have hall : default.Selects [] [] default.entries :=
      (consistent_default.select_eq_ok_iff.mp select_default).2
    exact hall.only_of_skip (by decide) fun name => by simp [contains_default_iff, registered]

end Registry

end OperandCleanup
