import OperandCleanup.Json.Basic

/-!
# Equality of JSON values

Two values are equal when they hold the same data: the order of members does not count, numbers
are compared by their exact value whether they are integers or floating-point ones, and the
booleans are the numbers zero and one.
-/

namespace OperandCleanup.Json

/-- The integer that a boolean counts as. -/
def intOfBool (b : Bool) : Int := if b then 1 else 0

/-- Whether two scalars are equal. -/
def scalarEquals : Json → Json → Bool
  | .null, .null => true
  | .bool a, .bool b => a == b
  | .bool a, .int b => intOfBool a == b
  | .bool a, .float b => b.equalsInt (intOfBool a)
  | .int a, .bool b => a == intOfBool b
  | .int a, .int b => a == b
  | .int a, .float b => b.equalsInt a
  | .float a, .bool b => a.equalsInt (intOfBool b)
  | .float a, .int b => a.equalsInt b
  | .float a, .float b => a.equals b
  | .string a, .string b => a == b
  | _, _ => false

mutual
/-- Whether two values are equal. -/
def equals : Json → Json → Bool
  | .array items, .array others => equalsItems items others
  | .object members, .object others =>
    members.length == others.length && equalsMembers members others
  | .null, other => scalarEquals .null other
  | .bool value, other => scalarEquals (.bool value) other
  | .int value, other => scalarEquals (.int value) other
  | .float value, other => scalarEquals (.float value) other
  | .string value, other => scalarEquals (.string value) other
  | _, _ => false

/-- Whether two lists of items are equal, item by item. -/
def equalsItems : List Json → List Json → Bool
  | [], [] => true
  | item :: rest, other :: others => equals item other && equalsItems rest others
  | _, _ => false

/-- Whether every member has an equal one of its name among the others. -/
def equalsMembers : List (String × Json) → List (String × Json) → Bool
  | [], _ => true
  | (name, value) :: rest, others =>
    (match others.lookup name with
      | some other => equals value other
      | none => false) && equalsMembers rest others
end

end OperandCleanup.Json
