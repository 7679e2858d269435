import OperandCleanup.Number.Binary64

/-!
# JSON values

A number without a fraction or an exponent is an integer of any size; every other number is a
floating-point one. The members of an object keep their order, and setting a name that is there
already replaces its value in place.
-/

namespace OperandCleanup

/-- A JSON value. -/
inductive Json where
  | null
  | bool (value : Bool)
  | int (value : Int)
  | float (value : Binary64)
  | string (value : String)
  | array (items : List Json)
  | object (members : List (String × Json))
deriving Repr, Inhabited

namespace Json

mutual
/-- Whether two values are written the same way, members in the same order. -/
def same : Json → Json → Bool
  | .null, .null => true
  | .bool value, .bool other => value == other
  | .int value, .int other => value == other
  | .float value, .float other => value == other
  | .string value, .string other => value == other
  | .array items, .array others => sameItems items others
  | .object members, .object others => sameMembers members others
  | _, _ => false

/-- Whether two lists of items are the same, item by item. -/
def sameItems : List Json → List Json → Bool
  | [], [] => true
  | item :: rest, other :: others => same item other && sameItems rest others
  | _, _ => false

/-- Whether two lists of members are the same, member by member. -/
def sameMembers : List (String × Json) → List (String × Json) → Bool
  | [], [] => true
  | (name, value) :: rest, (otherName, other) :: others =>
    name == otherName && same value other && sameMembers rest others
  | _, _ => false
end

mutual
theorem same_iff (value other : Json) : same value other = true ↔ value = other := by
  match value with
  | .null => cases other <;> simp [same]
  | .bool _ => cases other <;> simp [same]
  | .int _ => cases other <;> simp [same]
  | .float _ => cases other <;> simp [same]
  | .string _ => cases other <;> simp [same]
  | .array items => cases other <;> simp [same, sameItems_iff items]
  | .object members => cases other <;> simp [same, sameMembers_iff members]

theorem sameItems_iff (items others : List Json) :
    sameItems items others = true ↔ items = others := by
  match items with
  | [] => cases others <;> simp [sameItems]
  | item :: rest => cases others <;> simp [sameItems, same_iff item, sameItems_iff rest]

theorem sameMembers_iff (members others : List (String × Json)) :
    sameMembers members others = true ↔ members = others := by
  match members, others with
  | [], [] => simp [sameMembers]
  | [], _ :: _ => simp [sameMembers]
  | _ :: _, [] => simp [sameMembers]
  | (_, value) :: rest, (_, _) :: _ =>
    simp [sameMembers, same_iff value, sameMembers_iff rest]
end

/-- Whether two values are one and the same is decided by comparing them part by part. -/
instance : DecidableEq Json := fun value other => decidable_of_iff _ (same_iff value other)

/-- The members of an object, in order. -/
abbrev Members := List (String × Json)

/-- Set the value of a name: in place where the name is there, at the end otherwise. -/
def Members.set : Members → String → Json → Members
  | [], name, value => [(name, value)]
  | (key, old) :: rest, name, value =>
    if key = name then (key, value) :: rest else (key, old) :: Members.set rest name value

/-- The value of a name. -/
def Members.get? (members : Members) (name : String) : Option Json := members.lookup name

/-- The members whose names are not among the given ones. -/
def Members.without (members : Members) (names : List String) : Members :=
  members.filter fun (name, _) => !names.contains name

/-- The members, each with the value of its name among the covers in place of its own. -/
def Members.coveredBy (members covers : Members) : Members :=
  members.map fun (name, value) => (name, (covers.get? name).getD value)

def isNull : Json → Bool
  | .null => true
  | _ => false

/-- Whether a value counts as nothing where only its presence matters: null, false, zero and
everything empty. -/
def isNothing : Json → Bool
  | .null => true
  | .bool value => !value
  | .int value => value == 0
  | .float value => value.equalsInt 0
  | .string value => value.isEmpty
  | .array items => items.isEmpty
  | .object members => members.isEmpty

/-- The name of a value's type in messages. -/
def typeName : Json → String
  | .null => "NoneType"
  | .bool _ => "bool"
  | .int _ => "int"
  | .float _ => "float"
  | .string _ => "str"
  | .array _ => "list"
  | .object _ => "dict"

mutual
/-- A value with null in place of every number that is not finite. -/
def finite : Json → Json
  | .float value => if value.isFinite then .float value else .null
  | .array items => .array (finiteItems items)
  | .object members => .object (finiteMembers members)
  | .null => .null
  | .bool value => .bool value
  | .int value => .int value
  | .string value => .string value

/-- Every item with null in place of numbers that are not finite. -/
def finiteItems : List Json → List Json
  | [] => []
  | item :: rest => finite item :: finiteItems rest

/-- Every member with null in place of numbers that are not finite. -/
def finiteMembers : List (String × Json) → List (String × Json)
  | [] => []
  | (name, value) :: rest => (name, finite value) :: finiteMembers rest
end

end Json

end OperandCleanup
