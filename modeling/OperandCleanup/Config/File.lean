import OperandCleanup.Config
import OperandCleanup.FileSystem.Import

/-!
# Configuration files

A configuration may come from a JSON file whose value is an object of its members. Whatever is wrong
with the file is an error of the configuration, but a text that the stack has no room for is not.
-/

namespace OperandCleanup

/-- Why there is no configuration. -/
inductive ConfigError where
  | unreadable (path : Path) (cause : ImportError)
  | notAnObject (path : Path)
  | invalidFile (path : Path) (issues : List Issue)
  | override (cause : OverrideError)
deriving Repr, Inhabited

/-- The message of an error, of which the first line where it has several. -/
def ConfigError.message : ConfigError → String
  | .unreadable path cause => "Cannot read config " ++ path.text ++ ": " ++ cause.message
  | .notAnObject path => "Config " ++ path.text ++ " must contain a JSON object"
  | .invalidFile path _ => "Invalid config " ++ path.text ++ ":"
  | .override cause => cause.message

/-- The configuration in a file, within the room for so many arrays and objects around each
other. -/
def FileSystem.loadConfig (files : FileSystem) (room : Nat) (path : Path) :
    Except (Halt ConfigError) Config :=
  match files.importJson room path with
  | .error halt => .error (halt.map (.unreadable path))
  | .ok (.object members) =>
    match Config.ofMembers members with
    | .error issues => .error (.failed (.invalidFile path issues))
    | .ok config => .ok config
  | .ok _ => .error (.failed (.notAnObject path))

end OperandCleanup
