/-!
# Arguments of the command line

The first argument names a command. The options of a command stand in any place among its other
arguments; an option with a value takes it after an equals sign or from the next argument, whatever
that is. Two hyphens alone end the options.
-/

namespace OperandCleanup.CommandLine

/-- The options and the paths of a cleanup. -/
structure RunArguments where
  input : String
  output : String
  config : Option String := none
  only : List String := []
  skip : List String := []
  failFast : Bool := false
  logLevel : Option String := none
  logFile : Option String := none
  json : Bool := false
deriving DecidableEq, Repr, Inhabited

/-- What the command line asks for. -/
inductive Invocation where
  | help
  | run (arguments : RunArguments)
  | listTransforms
  /-- The arguments do not fit together. -/
  | usageError
deriving DecidableEq, Repr, Inhabited

/-- An option of a command. -/
inductive OptionKind where
  | flag
  | value
deriving DecidableEq, Repr, Inhabited

/-- The options that every command has. -/
def commonOptions : List (String × OptionKind) := [("--help", .flag)]

/-- The options of a cleanup. -/
def runOptions : List (String × OptionKind) :=
  [("--config", .value), ("--only", .value), ("--skip", .value), ("--fail-fast", .flag),
    ("--log-level", .value), ("--log-file", .value), ("--json", .flag)] ++ commonOptions

/-- Arguments sorted into options, each with its value, and others. -/
structure SortedArguments where
  options : List (String × String) := []
  others : List String := []
deriving DecidableEq, Repr, Inhabited

/-- The name of an option and the value after its equals sign. -/
def splitOption (argument : String) : String × Option String :=
  let name := argument.toList.takeWhile (· != '=')
  match argument.toList.drop name.length with
  | [] => (argument, none)
  | _ :: value => (String.ofList name, some (String.ofList value))

/-- Whether an argument is written as an option. -/
def isOption (argument : String) : Bool := argument.startsWith "-" && argument != "-"

/-- Sort arguments by the options of a command, or fail on one that does not fit. -/
def sortArguments (known : List (String × OptionKind)) : List String → Option SortedArguments
  | [] => some {}
  | argument :: rest =>
    if argument = "--" then some { others := rest }
    else if isOption argument then
      let (name, value) := splitOption argument
      match known.lookup name, value, rest with
      | some .flag, none, rest => do
        let sorted ← sortArguments known rest
        return { sorted with options := (name, "") :: sorted.options }
      | some .value, some value, rest => do
        let sorted ← sortArguments known rest
        return { sorted with options := (name, value) :: sorted.options }
      | some .value, none, value :: rest => do
        let sorted ← sortArguments known rest
        return { sorted with options := (name, value) :: sorted.options }
      | _, _, _ => none
    else do
      let sorted ← sortArguments known rest
      return { sorted with others := argument :: sorted.others }

namespace SortedArguments

def has (arguments : SortedArguments) (name : String) : Bool :=
  (arguments.options.lookup name).isSome

/-- Every value of an option, in order. -/
def values (arguments : SortedArguments) (name : String) : List String :=
  (arguments.options.filter fun (other, _) => other == name).map (·.2)

/-- The value of an option that counts once: the last. -/
def value? (arguments : SortedArguments) (name : String) : Option String :=
  (arguments.values name).getLast?

end SortedArguments

/-- Whether a text can be a path: no null character stands in it. -/
def isPath (s : String) : Bool := !s.toList.contains '\x00'

/-- The texts that are paths in the arguments of a cleanup. -/
def RunArguments.paths (arguments : RunArguments) : List String :=
  [arguments.input, arguments.output] ++ arguments.config.toList ++ arguments.logFile.toList

/-- The cleanup that sorted arguments ask for. -/
def runInvocation (arguments : SortedArguments) : Invocation :=
  if arguments.has "--help" then .help
  else
    match arguments.others with
    | [input, output] =>
      let run : RunArguments := {
        input := input
        output := output
        config := arguments.value? "--config"
        only := arguments.values "--only"
        skip := arguments.values "--skip"
        failFast := arguments.has "--fail-fast"
        logLevel := arguments.value? "--log-level"
        logFile := arguments.value? "--log-file"
        json := arguments.has "--json" }
      if run.paths.all isPath then .run run else .usageError
    | _ => .usageError

/-- The listing that sorted arguments ask for. -/
def listInvocation (arguments : SortedArguments) : Invocation :=
  if arguments.has "--help" then .help
  else if arguments.others.isEmpty then .listTransforms
  else .usageError

/-- What arguments after the name of a command ask for, if there is such a command. -/
def commandInvocation? (command : String) (arguments : List String) : Option Invocation :=
  if command = "run" then
    some (((sortArguments runOptions arguments).map runInvocation).getD .usageError)
  else if command = "list-transforms" then
    some (((sortArguments commonOptions arguments).map listInvocation).getD .usageError)
  else none

/-- Whether the options before a command ask for help, and the arguments from the command on; or
none if there is an option that asks for something else. -/
def leadingOptions : List String → Option (Bool × List String)
  | [] => some (false, [])
  | argument :: rest =>
    if argument = "--" then some (false, rest)
    else if argument = "--help" then (leadingOptions rest).map fun (_, rest) => (true, rest)
    else if isOption argument then none
    else some (false, argument :: rest)

/-- What arguments ask for. Where two hyphens alone end the options and no command follows, what
follows is read for options again. -/
def Invocation.ofArguments (arguments : List String) : Invocation :=
  match leadingOptions arguments with
  | none => .usageError
  | some (true, _) => .help
  | some (false, []) => .usageError
  | some (false, command :: rest) =>
    match commandInvocation? command rest, leadingOptions (command :: rest) with
    | some invocation, _ => invocation
    | none, some (true, _) => .help
    | none, _ => .usageError

end OperandCleanup.CommandLine
