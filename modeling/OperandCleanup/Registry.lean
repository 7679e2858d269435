import OperandCleanup.Json.Basic
import OperandCleanup.Text.Quoted
import OperandCleanup.Transform

/-!
# The registry of transforms

A registry catalogues transforms under distinct names. Each entry has a priority, and the number of
entries that were there before it; entries run in the order of priority, and those of one priority
in the order of their registration. A selection names the entries to run or to leave out.
-/

namespace OperandCleanup

/-- A registered transform. -/
structure Entry where
  name : String
  priority : Int
  transform : Transform
  sequence : Nat

/-- What is offered for registration: an object with some of the members of a transform. -/
structure Offer where
  name : Option String := none
  description : Option String := none
  apply : Option (Document → Application) := none

/-- The transform that an object is, if it has every member of one. -/
def Offer.transform? (offer : Offer) : Option Transform :=
  match offer.name, offer.description, offer.apply with
  | some name, some description, some apply => some { name, description, apply }
  | _, _, _ => none

/-- Whether an entry runs before another one, or is the same. -/
def Entry.before (entry other : Entry) : Bool :=
  entry.priority < other.priority ||
    (entry.priority == other.priority && entry.sequence ≤ other.sequence)

/-- Why a registry refuses what is asked of it. -/
inductive RegistryError where
  | duplicate (name : String)
  | notATransform (name : String)
  | priorityNotAnInteger (name : String) (typeName : String)
  | unknown (name : String)
deriving DecidableEq, Repr, Inhabited

def RegistryError.message : RegistryError → String
  | .duplicate name => "Duplicate transform registration: " ++ name
  | .notATransform name =>
    "Object registered as " ++ Text.quoted name ++ " does not implement the Transform protocol"
  | .priorityNotAnInteger name typeName =>
    "Priority of " ++ Text.quoted name ++ " must be an int, got " ++ typeName
  | .unknown name => "No transform registered as " ++ Text.quoted name

/-- A catalogue of transforms, in the order of registration. -/
structure Registry where
  entries : List Entry := []

namespace Registry

/-- The registry without entries. -/
def empty : Registry := ⟨[]⟩

def size (registry : Registry) : Nat := registry.entries.length

/-- The entry of a name. -/
def find? (registry : Registry) (name : String) : Option Entry :=
  registry.entries.find? (·.name == name)

def contains (registry : Registry) (name : String) : Bool := (registry.find? name).isSome

/-- The entry of a name, which has to be there. -/
def get (registry : Registry) (name : String) : Except RegistryError Entry :=
  match registry.find? name with
  | some entry => .ok entry
  | none => .error (.unknown name)

/-- Register a transform under a new name and return its entry too. What is registered need not be
a transform, nor the priority an integer; the name is checked first and the priority last. -/
def register (registry : Registry) (name : String) (priority : Json)
    (candidate : Option Transform) : Except RegistryError (Registry × Entry) :=
  if registry.contains name then .error (.duplicate name)
  else
    match candidate, priority with
    | none, _ => .error (.notATransform name)
    | some transform, .int priority =>
      let entry := { name, priority, transform, sequence := registry.size }
      .ok (⟨registry.entries ++ [entry]⟩, entry)
    | some _, priority => .error (.priorityNotAnInteger name priority.typeName)

/-- The entries in the order in which they run. -/
def byPriority (registry : Registry) : List Entry := registry.entries.mergeSort Entry.before

/-- The names in the order in which their entries run. -/
def names (registry : Registry) : List String := registry.byPriority.map (·.name)

/-- The entries to run: those of `only`, or all of them if it is empty, without those of `skip`.
Every name has to be registered. -/
def select (registry : Registry) (only skip : List String) : Except RegistryError (List Entry) :=
  match (only ++ skip).find? fun name => !registry.contains name with
  | some name => .error (.unknown name)
  | none =>
    .ok (registry.byPriority.filter fun entry =>
      (only.isEmpty || only.contains entry.name) && !skip.contains entry.name)

end Registry

end OperandCleanup
