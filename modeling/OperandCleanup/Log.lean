/-!
# Log events

What a run does is told as a sequence of events, each with a level. A log shows the events from a
level on.
-/

namespace OperandCleanup

/-- The importance of an event, in ascending order. -/
inductive Level where
  | trace
  | debug
  | info
  | success
  | warning
  | error
  | critical
deriving DecidableEq, Repr, Inhabited

namespace Level

/-- Every level, in ascending order. -/
def all : List Level := [.trace, .debug, .info, .success, .warning, .error, .critical]

def name : Level → String
  | .trace => "TRACE"
  | .debug => "DEBUG"
  | .info => "INFO"
  | .success => "SUCCESS"
  | .warning => "WARNING"
  | .error => "ERROR"
  | .critical => "CRITICAL"

/-- The number that levels are compared by. -/
def severity : Level → Nat
  | .trace => 5
  | .debug => 10
  | .info => 20
  | .success => 25
  | .warning => 30
  | .error => 40
  | .critical => 50

/-- The level of an exact name. -/
def ofName? (name : String) : Option Level := all.find? (·.name == name)

/-- A level is found by its name. -/
theorem ofName?_name (level : Level) : ofName? level.name = some level := by
  cases level <;> decide

end Level

/-- One event of a run. -/
structure Event where
  level : Level
  message : String
deriving DecidableEq, Repr, Inhabited

/-- The events that a log from a level on shows. -/
def eventsFrom (level : Level) (events : List Event) : List Event :=
  events.filter fun event => level.severity ≤ event.level.severity

end OperandCleanup
