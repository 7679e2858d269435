import OperandCleanup.Json.Misuse
import OperandCleanup.Log
import OperandCleanup.Text.Lines
import OperandCleanup.Text.Quoted
import OperandCleanup.Text.Uppercase
import OperandCleanup.Validation

/-!
# Configuration of a run

A configuration says which transforms run and how failures and logs are handled. It is checked once
when it is made; overrides are checked together with the values that they leave in place.
-/

namespace OperandCleanup

/-- Which transforms run, and how failures and logs are handled. -/
structure Config where
  /-- The names of the transforms to run; all of them if there are none. -/
  only : List String := []
  /-- The names of the transforms to leave out. -/
  skip : List String := []
  failFast : Bool := false
  logLevel : Level := .info
deriving DecidableEq, Repr, Inhabited

namespace Config

/-- The words that stand for false, in lower case. -/
def falseWords : List String := ["0", "off", "f", "false", "n", "no"]

/-- The words that stand for true, in lower case. -/
def trueWords : List String := ["1", "on", "t", "true", "y", "yes"]

/-- A boolean that a word stands for, ASCII letters of either case. -/
def booleanOfWord? (word : String) : Option Bool :=
  let lower := String.ofList (word.toList.map Char.toLower)
  if falseWords.contains lower then some false
  else if trueWords.contains lower then some true
  else none

/-- A boolean, or a number or a word that stands for one. An integer beyond 64 bits is no number
that could. -/
def boolean : Json → Checked Bool
  | .bool value => .ok value
  | .int 0 => .ok false
  | .int 1 => .ok true
  | .int value =>
    Checked.issue
      (if Int64.minValue.toInt ≤ value ∧ value ≤ Int64.maxValue.toInt then .unreadableBoolean
        else .booleanExpected)
  | .float value =>
    if value.equalsInt 0 then .ok false
    else if value.equalsInt 1 then .ok true
    else Checked.issue .booleanExpected
  | .string word =>
    match booleanOfWord? word with
    | some value => .ok value
    | none => Checked.issue .unreadableBoolean
  | _ => Checked.issue .booleanExpected

/-- Why a name is no level. -/
def unknownLevelReason (name : String) : String :=
  "Unknown log level " ++ Text.quoted name ++ "; expected one of (" ++
    Text.joined ", " (Level.all.map fun level => Text.quoted level.name) ++ ")"

/-- The level of a name in any case. -/
def level : Json → Checked Level
  | .string name =>
    match Level.ofName? (Text.uppercase name) with
    | some level => .ok level
    | none => Checked.issue (.rejected (unknownLevelReason name))
  | _ => Checked.issue .textExpected

/-- The names of a configuration's members. -/
def memberNames : List String := ["only", "skip", "fail_fast", "log_level"]

/-- The configuration of members, each of which may be absent. -/
def ofMembers (members : Json.Members) : Checked Config :=
  (Checked.both (Checked.withDefault members "only" [] (Checked.list Checked.text)) <|
    Checked.both (Checked.withDefault members "skip" [] (Checked.list Checked.text)) <|
      Checked.both (Checked.withDefault members "fail_fast" false boolean) <|
        Checked.both (Checked.withDefault members "log_level" .info level)
          (Checked.noOthers members memberNames)).map
  fun (only, skip, failFast, logLevel, _) => { only, skip, failFast, logLevel }

/-- The members of a configuration. -/
def toMembers (config : Config) : Json.Members :=
  [("only", .array (config.only.map .string)), ("skip", .array (config.skip.map .string)),
    ("fail_fast", .bool config.failFast), ("log_level", .string config.logLevel.name)]

/-- The issue with assigning a member of a configuration, which nothing may. -/
def assignmentIssue (name : String) : Issue := ⟨.frozen, [.member name]⟩

/-- The headline of issues with a configuration. -/
def headline (issues : List Issue) : String := issuesHeadline "CleanupConfig" issues

end Config

/-- Values that take the place of a configuration's own. An empty list of names takes no place, and
neither does null. -/
structure Overrides where
  only : Json := .null
  skip : Json := .null
  failFast : Json := .null
  logLevel : Json := .null
deriving Repr, Inhabited

/-- Overrides of the right types. -/
def Overrides.of (only skip : List String) (failFast : Option Bool) (logLevel : Option String) :
    Overrides where
  only := .array (only.map .string)
  skip := .array (skip.map .string)
  failFast := (failFast.map Json.bool).getD .null
  logLevel := (logLevel.map Json.string).getD .null

/-- Why overrides do not give a configuration. -/
inductive OverrideError where
  /-- A value in place of a list has no items. -/
  | misused (misuse : Misuse)
  | invalid (issues : List Issue)
deriving DecidableEq, Repr, Inhabited

def OverrideError.message : OverrideError → String
  | .misused misuse => misuse.message
  | .invalid issues => Config.headline issues

namespace Config

/-- Members with a list replaced, unless the replacement counts as nothing. -/
def replaceList (members : Json.Members) (name : String) (value : Json) :
    Except OverrideError Json.Members :=
  if value.isNothing then .ok members
  else
    match value.items with
    | .ok items => .ok (Json.Members.set members name (.array items))
    | .error misuse => .error (.misused misuse)

/-- Members with a value replaced, unless the replacement is null. -/
def replaceValue (members : Json.Members) (name : String) (value : Json) : Json.Members :=
  if value.isNull then members else Json.Members.set members name value

/-- A configuration with overrides in place. -/
def merge (config : Config) (overrides : Overrides) : Except OverrideError Config := do
  let members ← replaceList config.toMembers "only" overrides.only
  let members ← replaceList members "skip" overrides.skip
  let members := replaceValue members "fail_fast" overrides.failFast
  let members := replaceValue members "log_level" overrides.logLevel
  match ofMembers members with
  | .ok config => return config
  | .error issues => throw (.invalid issues)

end Config

end OperandCleanup
