import OperandCleanup.Json.Basic

/-!
# Validation

Checking a value against a shape finds every issue, in the order of the shape's fields. An issue
names the part of the value that it is about by the path to it.
-/

namespace OperandCleanup

/-- A step from a value to one of its parts. -/
inductive PathStep where
  | member (name : String)
  | item (index : Nat)
deriving DecidableEq, Repr, Inhabited

/-- What is wrong with a part of a value. -/
inductive IssueKind where
  | missing
  | textExpected
  | listExpected
  | operandExpected
  | unknownUsage
  | unknownEncoding
  | booleanExpected
  | unreadableBoolean
  | extraMember
  | frozen
  /-- The value has the right type and is not acceptable. -/
  | rejected (reason : String)
deriving DecidableEq, Repr, Inhabited

def IssueKind.message : IssueKind → String
  | .missing => "Field required"
  | .textExpected => "Input should be a valid string"
  | .listExpected => "Input should be a valid list"
  | .operandExpected => "Input should be a valid dictionary or instance of OperandDescriptor"
  | .unknownUsage => "Input should be 'READ', 'WRITE' or 'READ_WRITE'"
  | .unknownEncoding => "Input should be 'EXPLICIT' or 'IMPLICIT'"
  | .booleanExpected => "Input should be a valid boolean"
  | .unreadableBoolean => "Input should be a valid boolean, unable to interpret input"
  | .extraMember => "Extra inputs are not permitted"
  | .frozen => "Instance is frozen"
  | .rejected reason => "Value error, " ++ reason

/-- An issue and where it lies. -/
structure Issue where
  kind : IssueKind
  path : List PathStep := []
deriving DecidableEq, Repr, Inhabited

/-- The same issue seen from the value around. -/
def Issue.under (place : PathStep) (issue : Issue) : Issue :=
  { issue with path := place :: issue.path }

/-- A checked value, or all the issues that stand against it. -/
abbrev Checked (α : Type) := Except (List Issue) α

namespace Checked

variable {α β : Type}

/-- A single issue with the value itself. -/
def issue (kind : IssueKind) : Checked α := .error [⟨kind, []⟩]

/-- Both values, or the issues of the first and then of the second. -/
def both : Checked α → Checked β → Checked (α × β)
  | .ok a, .ok b => .ok (a, b)
  | .ok _, .error issues => .error issues
  | .error issues, .ok _ => .error issues
  | .error issues, .error more => .error (issues ++ more)

/-- The result of checking a part, its issues seen from the value around. -/
def under (place : PathStep) : Checked α → Checked α
  | .ok a => .ok a
  | .error issues => .error (issues.map (·.under place))

/-- Every item checked, the first of them at `index`. -/
def itemsFrom (check : Json → Checked α) : Nat → List Json → Checked (List α)
  | _, [] => .ok []
  | index, item :: rest =>
    (both (under (.item index) (check item)) (itemsFrom check (index + 1) rest)).map
      fun (first, more) => first :: more

/-- A list of checked items. -/
def list (check : Json → Checked α) : Json → Checked (List α)
  | .array items => itemsFrom check 0 items
  | _ => issue .listExpected

/-- A text. -/
def text : Json → Checked String
  | .string value => .ok value
  | _ => issue .textExpected

/-- A value that may be null. -/
def nullable (check : Json → Checked α) : Json → Checked (Option α)
  | .null => .ok none
  | value => (check value).map some

/-- A member that has to be there. -/
def required (members : Json.Members) (name : String) (check : Json → Checked α) : Checked α :=
  under (.member name) <|
    match members.get? name with
    | none => issue .missing
    | some value => check value

/-- A member that may be absent and then has a default. -/
def withDefault (members : Json.Members) (name : String) (default : α)
    (check : Json → Checked α) : Checked α :=
  match members.get? name with
  | none => .ok default
  | some value => under (.member name) (check value)

/-- No members but the named ones. -/
def noOthers (members : Json.Members) (names : List String) : Checked Unit :=
  match members.without names with
  | [] => .ok ()
  | others => .error (others.map fun (name, _) => ⟨.extraMember, [.member name]⟩)

end Checked

/-- The headline of a report of issues. -/
def issuesHeadline (subject : String) (issues : List Issue) : String :=
  toString issues.length ++
    (if issues.length = 1 then " validation error for " else " validation errors for ") ++ subject

end OperandCleanup
