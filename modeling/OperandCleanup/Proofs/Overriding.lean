import OperandCleanup.Config
import OperandCleanup.Proofs.Loading

/-!
# Overriding a configuration

Overrides are merged into the members of a configuration, and what comes of it is checked like any
other members. The members of a configuration pass that check and give the configuration back, so a
merge puts in place what is given and keeps the rest: an empty list of names is not given, and
neither is what is absent. Only a level can fail the check, when its capital form is no name of a
level. Merging twice is merging once what the later overrides give, and what the earlier ones give
where the later ones give nothing.
-/

namespace OperandCleanup

/-! ## Levels -/

/-- A level is found by its own name only. -/
theorem Level.ofName?_eq_some_iff {name : String} {level : Level} :
    ofName? name = some level ↔ name = level.name :=
  find?_name_eq_some_iff ofName?_name

/-- There is no level of a name that is not listed. -/
theorem Level.ofName?_eq_none_iff {name : String} :
    ofName? name = none ↔ name ∉ all.map Level.name := by
  simp [ofName?, List.find?_eq_none]

/-- The name of a level is its own capital form. -/
theorem Level.uppercase_name (level : Level) : Text.uppercase level.name = level.name := by
  cases level <;> decide

/-- Every level is listed. -/
theorem Level.name_mem_names (level : Level) : level.name ∈ all.map Level.name := by
  cases level <;> decide

namespace Config

/-! ## Members of a configuration -/

/-- Whether a configuration has the values that members give, or the default ones, and the members
give no others. -/
structure Reads (members : Json.Members) (config : Config) : Prop where
  only : members.get? "only" = none ∧ config.only = [] ∨
    members.get? "only" = some (.array (config.only.map .string))
  skip : members.get? "skip" = none ∧ config.skip = [] ∨
    members.get? "skip" = some (.array (config.skip.map .string))
  failFast : members.get? "fail_fast" = none ∧ config.failFast = false ∨
    ∃ value, members.get? "fail_fast" = some value ∧ boolean value = .ok config.failFast
  logLevel : members.get? "log_level" = none ∧ config.logLevel.name = "INFO" ∨
    ∃ text, members.get? "log_level" = some (.string text) ∧
      config.logLevel.name = Text.uppercase text
  others : ∀ member ∈ members, member.1 ∈ memberNames

/-- Where no list of texts is given, it is empty. -/
theorem withDefault_texts_eq_ok_iff {members : Json.Members} {name : String}
    {texts : List String} :
    Checked.withDefault members name [] (Checked.list Checked.text) = .ok texts ↔
      members.get? name = none ∧ texts = [] ∨
        members.get? name = some (.array (texts.map .string)) := by
  simp only [Checked.withDefault_eq_ok_iff, Checked.list_text_eq_ok_iff, exists_eq_right]

/-- A level is checked by the capital form of a text. -/
theorem level_eq_ok_iff {value : Json} {level : Level} :
    Config.level value = .ok level ↔
      ∃ text, value = .string text ∧ level.name = Text.uppercase text := by
  cases value with
  | string text =>
    have hlevel : Config.level (.string text) = .ok level ↔
        Level.ofName? (Text.uppercase text) = some level := by
      rw [Config.level]
      cases Level.ofName? (Text.uppercase text) <;> simp [Checked.issue]
    rw [hlevel, Level.ofName?_eq_some_iff, eq_comm]
    simp
  | _ => simp [Config.level, Checked.issue]

/-- A level fails its check when the capital form of its text is no name of one. -/
theorem under_level_eq_error_iff {place : PathStep} {text : String} {issues : List Issue} :
    Checked.under place (Config.level (.string text)) = .error issues ↔
      Text.uppercase text ∉ Level.all.map Level.name ∧
        issues = [⟨.rejected (unknownLevelReason text), [place]⟩] := by
  rw [← Level.ofName?_eq_none_iff, Config.level]
  cases Level.ofName? (Text.uppercase text) <;>
    simp [Checked.under, Checked.issue, Issue.under, eq_comm]

/-- Where no level is given, it is the default one. -/
theorem withDefault_level_eq_ok_iff {members : Json.Members} {name : String} {level : Level} :
    Checked.withDefault members name .info Config.level = .ok level ↔
      members.get? name = none ∧ level.name = "INFO" ∨
        ∃ text, members.get? name = some (.string text) ∧ level.name = Text.uppercase text := by
  have hinfo : level = .info ↔ level.name = "INFO" := by cases level <;> decide
  rw [Checked.withDefault_eq_ok_iff, hinfo]
  simp only [level_eq_ok_iff]
  refine or_congr_right ⟨?_, ?_⟩
  · rintro ⟨value, hvalue, text, rfl, hlevel⟩
    exact ⟨text, hvalue, hlevel⟩
  · rintro ⟨text, htext, hlevel⟩
    exact ⟨.string text, htext, text, rfl, hlevel⟩

/-- A configuration is made of members when it has the values that they give. -/
theorem ofMembers_eq_ok_iff {members : Json.Members} {config : Config} :
    ofMembers members = .ok config ↔ Reads members config := by
  obtain ⟨only, skip, failFast, logLevel⟩ := config
  rw [ofMembers, map_eq_ok_iff]
  constructor
  · rintro ⟨⟨only, skip, failFast, logLevel, done⟩, hparts, hconfig⟩
    obtain ⟨rfl, rfl, rfl, rfl⟩ := Config.mk.inj hconfig
    simp only [Checked.both_eq_ok_iff] at hparts
    obtain ⟨honly, hskip, hfail, hlevel, hothers⟩ := hparts
    exact ⟨withDefault_texts_eq_ok_iff.mp honly, withDefault_texts_eq_ok_iff.mp hskip,
      Checked.withDefault_eq_ok_iff.mp hfail, withDefault_level_eq_ok_iff.mp hlevel,
      Checked.noOthers_eq_ok_iff.mp hothers⟩
  · rintro ⟨honly, hskip, hfail, hlevel, hothers⟩
    refine ⟨(only, skip, failFast, logLevel, ()), ?_, rfl⟩
    simp only [Checked.both_eq_ok_iff]
    exact ⟨withDefault_texts_eq_ok_iff.mpr honly, withDefault_texts_eq_ok_iff.mpr hskip,
      Checked.withDefault_eq_ok_iff.mpr hfail, withDefault_level_eq_ok_iff.mpr hlevel,
      Checked.noOthers_eq_ok_iff.mpr hothers⟩

/-! ## Values in place of others -/

/-- Members with a value of each of a configuration's names. -/
def membersOf (only skip : List String) (failFast : Bool) (level : String) : Json.Members :=
  [("only", .array (only.map .string)), ("skip", .array (skip.map .string)),
    ("fail_fast", .bool failFast), ("log_level", .string level)]

/-- With a value of each name, only the level can fail the check. -/
theorem ofMembers_membersOf (only skip : List String) (failFast : Bool) (text : String) :
    ofMembers (membersOf only skip failFast text) =
      (Checked.under (.member "log_level") (level (.string text))).map fun logLevel =>
        { only, skip, failFast, logLevel } := by
  have honly : Checked.withDefault (membersOf only skip failFast text) "only" []
      (Checked.list Checked.text) = .ok only := withDefault_texts_eq_ok_iff.mpr (.inr rfl)
  have hskip : Checked.withDefault (membersOf only skip failFast text) "skip" []
      (Checked.list Checked.text) = .ok skip := withDefault_texts_eq_ok_iff.mpr (.inr rfl)
  have hfail : Checked.withDefault (membersOf only skip failFast text) "fail_fast" false boolean =
      .ok failFast := Checked.withDefault_eq_ok_iff.mpr (.inr ⟨_, rfl, rfl⟩)
  rw [ofMembers, honly, hskip, hfail]
  change (Checked.both _ (Checked.both _ (Checked.both _ (Checked.both
    (Checked.under _ (level (.string text))) (.ok ()))))).map _ = _
  cases Checked.under (.member "log_level") (level (.string text)) <;> rfl

end Config

/-- Values that may take the place of a configuration's own: lists of names, a truth value and the
name of a level, each of which may be absent. -/
structure OverrideValues where
  only : Option (List String) := none
  skip : Option (List String) := none
  failFast : Option Bool := none
  logLevel : Option String := none
deriving DecidableEq, Repr, Inhabited

namespace OverrideValues

/-- The overrides that give these values. -/
def toOverrides (values : OverrideValues) : Overrides where
  only := values.only.elim .null fun names => .array (names.map .string)
  skip := values.skip.elim .null fun names => .array (names.map .string)
  failFast := values.failFast.elim .null .bool
  logLevel := values.logLevel.elim .null .string

/-- A list of names is given when it has names. -/
def given (names : Option (List String)) : Option (List String) := names.filter (· ≠ [])

/-- What later values give, and what earlier ones give where those give nothing. -/
def after (later earlier : OverrideValues) : OverrideValues where
  only := (given later.only).or earlier.only
  skip := (given later.skip).or earlier.skip
  failFast := later.failFast.or earlier.failFast
  logLevel := later.logLevel.or earlier.logLevel

/-- The text that a configuration's level is checked by. -/
def levelText (values : OverrideValues) (config : Config) : String :=
  values.logLevel.getD config.logLevel.name

/-- A configuration with values in place of its own, and a level. -/
def replace (values : OverrideValues) (config : Config) (level : Level) : Config where
  only := (given values.only).getD config.only
  skip := (given values.skip).getD config.skip
  failFast := values.failFast.getD config.failFast
  logLevel := level

/-- Later values in place of earlier ones are both in place at once. -/
theorem replace_after {later earlier : OverrideValues} {config : Config} (own : Level) :
    later.replace (earlier.replace config own) = (later.after earlier).replace config := by
  have hgiven (later earlier : Option (List String)) (own : List String) :
      (given later).getD ((given earlier).getD own) =
        (given ((given later).or earlier)).getD own := by
    rcases later with _ | _ | _ <;> rfl
  funext level
  simp only [replace, after, hgiven, Option.getD_or]

end OverrideValues

namespace Config

section Replacing

variable {members : Json.Members} {name : String}

/-- A list of names is put in place of a member's own, unless it is absent or empty. -/
theorem replaceList_names {own : List String}
    (h : Json.Members.set members name (.array (own.map .string)) = members)
    (names : Option (List String)) :
    replaceList members name (names.elim .null fun names => .array (names.map .string)) =
      .ok (Json.Members.set members name
        (.array (((OverrideValues.given names).getD own).map .string))) := by
  rcases names with _ | _ | ⟨first, rest⟩
  · exact congrArg Except.ok h.symm
  · exact congrArg Except.ok h.symm
  · rfl

/-- A value is put in place of a member's own, unless it is absent. -/
theorem replaceValue_elim {α : Type} {toJson : α → Json} {own : α}
    (h : Json.Members.set members name (toJson own) = members)
    (hpresent : ∀ value, (toJson value).isNull = false) (value : Option α) :
    replaceValue members name (value.elim .null toJson) =
      Json.Members.set members name (toJson (value.getD own)) := by
  cases value with
  | none => exact h.symm
  | some value => simp [replaceValue, hpresent]

end Replacing

variable {config : Config}

/-- A merge puts values in place and checks the level. -/
theorem merge_toOverrides (config : Config) (values : OverrideValues) :
    config.merge values.toOverrides =
      ((Checked.under (.member "log_level") (level (.string (values.levelText config)))).map
        (values.replace config)).mapError .invalid := by
  have honly : replaceList config.toMembers "only" values.toOverrides.only =
      .ok (membersOf ((OverrideValues.given values.only).getD config.only) config.skip
        config.failFast config.logLevel.name) := replaceList_names rfl values.only
  have hskip (only : List String) :
      replaceList (membersOf only config.skip config.failFast config.logLevel.name) "skip"
          values.toOverrides.skip =
        .ok (membersOf only ((OverrideValues.given values.skip).getD config.skip)
          config.failFast config.logLevel.name) := replaceList_names rfl values.skip
  have hfail (only skip : List String) :
      replaceValue (membersOf only skip config.failFast config.logLevel.name) "fail_fast"
          values.toOverrides.failFast =
        membersOf only skip (values.failFast.getD config.failFast) config.logLevel.name :=
    replaceValue_elim rfl (fun _ => rfl) values.failFast
  have hlevel (only skip : List String) (failFast : Bool) :
      replaceValue (membersOf only skip failFast config.logLevel.name) "log_level"
          values.toOverrides.logLevel =
        membersOf only skip failFast (values.levelText config) :=
    replaceValue_elim rfl (fun _ => rfl) values.logLevel
  simp only [merge, honly, hskip, hfail, hlevel, bind, Except.bind, ofMembers_membersOf]
  cases Checked.under (.member "log_level") _ <;> rfl

/-- A merge gives the configuration with values in place when the text of its level names one. -/
theorem merge_eq_ok_iff {values : OverrideValues} {merged : Config} :
    config.merge values.toOverrides = .ok merged ↔
      ∃ level : Level, level.name = Text.uppercase (values.levelText config) ∧
        values.replace config level = merged := by
  rw [merge_toOverrides, mapError_eq_ok_iff, map_eq_ok_iff]
  simp only [Checked.under_eq_ok_iff, level_eq_ok_iff, Json.string.injEq, exists_eq_left']

/-- A merge fails when it gives a level whose capital form is no name of one. -/
theorem merge_eq_error_iff {values : OverrideValues} {error : OverrideError} :
    config.merge values.toOverrides = .error error ↔
      ∃ text, values.logLevel = some text ∧ Text.uppercase text ∉ Level.all.map Level.name ∧
        error = .invalid [⟨.rejected (unknownLevelReason text), [.member "log_level"]⟩] := by
  rw [merge_toOverrides, mapError_eq_error_iff]
  simp only [map_eq_error_iff, under_level_eq_error_iff, OverrideValues.levelText]
  cases values.logLevel with
  | none =>
    -- The level that the configuration has passes its check again.
    have hown : Text.uppercase config.logLevel.name ∈ Level.all.map Level.name :=
      (Level.uppercase_name config.logLevel).symm ▸ config.logLevel.name_mem_names
    refine iff_of_false ?_ (by simp)
    rintro ⟨issues, ⟨hunknown, -⟩, -⟩
    exact hunknown hown
  | some text =>
    simp only [Option.getD_some]
    constructor
    · rintro ⟨issues, ⟨htext, rfl⟩, rfl⟩
      exact ⟨text, rfl, htext, rfl⟩
    · rintro ⟨other, hother, htext, rfl⟩
      obtain rfl := Option.some.inj hother
      exact ⟨_, ⟨htext, rfl⟩, rfl⟩

/-- Merging nothing leaves a configuration as it is. -/
theorem merge_nothing (config : Config) : config.merge {} = .ok config := by
  have hnothing : ({} : Overrides) = ({} : OverrideValues).toOverrides := rfl
  rw [hnothing, merge_eq_ok_iff]
  exact ⟨config.logLevel, (config.logLevel.uppercase_name).symm, rfl⟩

/-- Merging empty lists of names leaves a configuration as it is. -/
theorem merge_empty (config : Config) : config.merge (.of [] [] none none) = .ok config := by
  have hempty : Overrides.of [] [] none none =
      ({ only := some [], skip := some [] } : OverrideValues).toOverrides := rfl
  rw [hempty, merge_eq_ok_iff]
  exact ⟨config.logLevel, (config.logLevel.uppercase_name).symm, rfl⟩

/-- Merging twice is merging once what the later values give, and what the earlier ones give where
those give nothing. -/
theorem merge_merge {earlier later : OverrideValues} {first : Config}
    (h : config.merge earlier.toOverrides = .ok first) :
    first.merge later.toOverrides = config.merge (later.after earlier).toOverrides := by
  obtain ⟨own, hown, rfl⟩ := merge_eq_ok_iff.mp h
  have hlevel : level (.string (later.levelText (earlier.replace config own))) =
      level (.string ((later.after earlier).levelText config)) := by
    rw [OverrideValues.levelText, OverrideValues.levelText, OverrideValues.after]
    cases later.logLevel with
    | none =>
      have hagain : level (.string own.name) = .ok own :=
        level_eq_ok_iff.mpr ⟨_, rfl, own.uppercase_name.symm⟩
      exact hagain.trans (level_eq_ok_iff.mpr ⟨_, rfl, hown⟩).symm
    | some text => rfl
  rw [merge_toOverrides, merge_toOverrides, hlevel, OverrideValues.replace_after own]

end Config

end OperandCleanup
