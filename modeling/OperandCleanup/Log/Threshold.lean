import OperandCleanup.Json.Basic
import OperandCleanup.Log

/-!
# Thresholds of logs

A log shows the events whose severity reaches its threshold. A threshold is given by the exact name
of a level or as a severity of its own, which is not negative.
-/

namespace OperandCleanup

/-- Why a value gives no level. -/
inductive LevelFault where
  | unknown (name : String)
  | negative (severity : Int)
  | neither (typeName : String)
deriving DecidableEq, Repr, Inhabited

def LevelFault.message : LevelFault → String
  | .unknown name => "Level '" ++ name ++ "' does not exist"
  | .negative severity =>
    "Invalid level value, it should be a positive integer, not: " ++ severity.repr
  | .neither typeName =>
    "Invalid level, it should be an integer or a string, not: '" ++ typeName ++ "'"

/-- The level of an exact name. -/
def Level.named (name : String) : Except LevelFault Level :=
  match ofName? name with
  | some level => .ok level
  | none => .error (.unknown name)

/-- The severity that a value gives. A truth value counts as the number one or zero. -/
def Level.threshold : Json → Except LevelFault Nat
  | .string name => (Level.named name).map severity
  | .int (.ofNat severity) => .ok severity
  | .int severity => .error (.negative severity)
  | .bool value => .ok value.toNat
  | value => .error (.neither value.typeName)

/-- The events that reach a severity. -/
def eventsReaching (severity : Nat) (events : List Event) : List Event :=
  events.filter fun event => severity ≤ event.level.severity

end OperandCleanup
