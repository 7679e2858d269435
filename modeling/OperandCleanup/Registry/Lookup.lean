import OperandCleanup.Json.Misuse
import OperandCleanup.Registry

/-!
# Looking up entries by values

An entry may be asked for by any value. Only texts are names; a value of another type is unknown,
or cannot be looked up at all.
-/

namespace OperandCleanup

/-- Why values do not select entries. -/
inductive LookupError where
  | registry (error : RegistryError)
  | unknownValue (value : Json)
  | misused (misuse : Misuse)
deriving DecidableEq, Repr, Inhabited

def LookupError.message : LookupError → String
  | .registry error => error.message
  | .unknownValue value => "No transform registered as " ++ String.ofList value.literal
  | .misused misuse => misuse.message

namespace Registry

/-- The entry that a value names. -/
def lookUp (registry : Registry) : Json → Except LookupError Entry
  | .string name =>
    match registry.get name with
    | .ok entry => .ok entry
    | .error error => .error (.registry error)
  | value =>
    match value.key with
    | .ok value => .error (.unknownValue value)
    | .error misuse => .error (.misused misuse)

/-- Whether a value names an entry. -/
def containsValue (registry : Registry) : Json → Except LookupError Bool
  | .string name => .ok (registry.contains name)
  | value =>
    match value.key with
    | .ok _ => .ok false
    | .error misuse => .error (.misused misuse)

/-- The items of a value that stands for a list. -/
def listed (value : Json) : Except LookupError (List Json) :=
  match value.itemsOrNone with
  | .ok items => .ok items
  | .error misuse => .error (.misused misuse)

/-- The entries to run by values that stand for lists of names. -/
def selectListed (registry : Registry) (only skip : Json) : Except LookupError (List Entry) := do
  let wanted ← listed only
  let unwanted ← listed skip
  let wanted ← wanted.mapM registry.lookUp
  let unwanted ← unwanted.mapM registry.lookUp
  match registry.select (wanted.map (·.name)) (unwanted.map (·.name)) with
  | .ok entries => return entries
  | .error error => throw (.registry error)

end Registry

end OperandCleanup
