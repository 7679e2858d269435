import OperandCleanup.Json.Literal

/-!
# Misused values

Where nobody has checked a value, it may be asked for what values of its type do not have: items, a
length, a place among keys. A misuse says what was asked, and of which type of value. The items of
a text are its characters and those of an object are its names, and both have a length.
-/

namespace OperandCleanup

/-- What a value was used as and is not. -/
inductive Misuse where
  /-- Arrays and objects are no keys. -/
  | asKey (typeName : String)
  | forItems (typeName : String)
  | forLength (typeName : String)
  | forPosition (typeName : String)
  | forMember (typeName member : String)
  /-- An object has no such key. -/
  | missingKey (key : Json)
  | asText (typeName : String)
  | asFunction (typeName : String)
  | asIndex (typeName : String)
  | asTextIndex (typeName : String)
  | asMemberName (typeName : String)
  | indexOutOfRange
  | textIndexOutOfRange
  | indexTooLarge
  /-- A member of a record cannot be assigned. -/
  | fixedMember (member : String)
  /-- The updates of a copy name the record itself. -/
  | updatesRecord
  /-- Names are joined, and the one at this place is no text. -/
  | joined (place : Nat) (typeName : String)
deriving DecidableEq, Repr, Inhabited

def Misuse.message : Misuse → String
  | .asKey typeName => "unhashable type: '" ++ typeName ++ "'"
  | .forItems typeName => "'" ++ typeName ++ "' object is not iterable"
  | .forLength typeName => "object of type '" ++ typeName ++ "' has no len()"
  | .forPosition typeName => "'" ++ typeName ++ "' object is not subscriptable"
  | .forMember typeName member =>
    "'" ++ typeName ++ "' object has no attribute '" ++ member ++ "'"
  | .missingKey key => String.ofList key.literal
  | .asText typeName => "can only concatenate str (not \"" ++ typeName ++ "\") to str"
  | .asFunction typeName => "'" ++ typeName ++ "' object is not callable"
  | .asIndex typeName => "list indices must be integers or slices, not " ++ typeName
  | .asTextIndex typeName => "string indices must be integers, not '" ++ typeName ++ "'"
  | .asMemberName typeName => "attribute name must be string, not '" ++ typeName ++ "'"
  | .indexOutOfRange => "list index out of range"
  | .textIndexOutOfRange => "string index out of range"
  | .indexTooLarge => "cannot fit 'int' into an index-sized integer"
  | .fixedMember member =>
    "property '" ++ member ++ "' of 'InstructionRecord' object has no setter"
  | .updatesRecord => "InstructionRecord.copy_record() got multiple values for argument 'self'"
  | .joined place typeName =>
    "sequence item " ++ toString place ++ ": expected str instance, " ++ typeName ++ " found"

/-- The position that an index names in a list of the given length: a negative index counts from
the end. -/
def position? (length : Nat) (index : Int) : Option Nat :=
  let position := if index < 0 then index + length else index
  if 0 ≤ position ∧ position < length then some position.toNat else none

namespace Json

/-- Whether values of a type can be keys. -/
def isKey : Json → Bool
  | .array _ => false
  | .object _ => false
  | _ => true

/-- A value that has to be a key. -/
def key (value : Json) : Except Misuse Json :=
  if value.isKey then .ok value else .error (.asKey value.typeName)

/-- The items of a value. -/
def items : Json → Except Misuse (List Json)
  | .array items => .ok items
  | .string text => .ok (text.toList.map fun c => .string c.toString)
  | .object members => .ok (members.map fun (name, _) => .string name)
  | value => .error (.forItems value.typeName)

/-- The items of a value, which is taken for an empty list where it counts as nothing. -/
def itemsOrNone (value : Json) : Except Misuse (List Json) :=
  if value.isNothing then .ok [] else value.items

/-- The integer that a value is as an index. A boolean counts as zero or one. -/
def indexNumber? : Json → Option Int
  | .int index => some index
  | .bool value => some (if value then 1 else 0)
  | _ => none

/-- The position that a value names in a list of the given length. -/
def position (index : Json) (length : Nat) : Except Misuse Nat :=
  match index.indexNumber? with
  | none => .error (.asIndex index.typeName)
  | some number =>
    if number < Int64.minValue.toInt ∨ Int64.maxValue.toInt < number then .error .indexTooLarge
    else
      match position? length number with
      | some position => .ok position
      | none => .error .indexOutOfRange

/-- The part of a value at an index: an item of an array, a character of a text, the value of a
key. -/
def part (value index : Json) : Except Misuse Json :=
  match value with
  | .array items => do
    let position ← index.position items.length
    return items[position]?.getD .null
  | .string text =>
    match index.position text.length with
    | .ok position => .ok (.string (String.ofList ((text.toList.drop position).take 1)))
    | .error .indexOutOfRange => .error .textIndexOutOfRange
    | .error (.asIndex typeName) => .error (.asTextIndex typeName)
    | .error misuse => .error misuse
  | .object members => do
    match ← index.key with
    | .string name =>
      match Members.get? members name with
      | some part => return part
      | none => throw (.missingKey index)
    | _ => throw (.missingKey index)
  | value => .error (.forPosition value.typeName)

end Json

end OperandCleanup
