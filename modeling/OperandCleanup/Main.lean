import OperandCleanup.CommandLine.Run

/-!
# The program

The program reads what stands at the paths that its arguments name, hands it to the command as a
file system, and writes back what the command has made or changed.
-/

namespace OperandCleanup.Program

/-- The number of the operating system's error for reading a directory as a file. -/
def isADirectoryCode : UInt32 := 21

/-- What stands at a path. -/
def readNode (path : Path) : IO (Option Node) := do
  try
    let bytes ← IO.FS.readBinFile path.text
    return some (.file bytes.toList)
  catch
    | .inappropriateType _ code _ =>
      return if code = isADirectoryCode then some .directory else none
    | _ => return none

/-- What stands at the given paths and around them. -/
def readFiles (paths : List Path) : IO FileSystem := do
  let mut files : FileSystem := {}
  for path in paths.flatMap Path.withAncestors do
    if (files.node? path.names).isNone then
      match ← readNode path with
      | some node => files := files.set path.names node
      | none => pure ()
  return files

/-- Write what has been made or changed. -/
def writeFiles (before after : FileSystem) : IO Unit := do
  for (place, node) in after.nodes do
    if before.node? place != some node then
      let path : Path := ⟨place⟩
      match node with
      | .directory => IO.FS.createDirAll path.text
      | .file bytes => IO.FS.writeBinFile path.text ⟨bytes.toArray⟩

/-- Print a line for every event. -/
def printEvents (asJson : Bool) (events : List Event) : IO Unit := do
  let stderr ← IO.getStderr
  for event in events do
    if asJson then
      stderr.putStrLn (String.ofList (event.toJson.written.filter (· != '\n')))
    else stderr.putStr event.line

/-- Print what a command prints. -/
def printResponse (response : Response) : IO Unit := do
  match response.failure, response.printed with
  | some failure, _ => (← IO.getStderr).putStrLn failure.message
  | none, .help => CommandLine.helpLines.forM IO.println
  | none, .lines lines => lines.forM IO.println
  | none, .summary value => IO.println (String.ofList value.written)

end OperandCleanup.Program

open OperandCleanup in
def main (arguments : List String) : IO UInt32 := do
  let time := toString (← IO.monoNanosNow)
  let (paths, asJson) := match CommandLine.Invocation.ofArguments arguments with
    | .run run => (CommandLine.pathsOf run time, run.json)
    | _ => ([], false)
  let files ← Program.readFiles paths
  let response := CommandLine.execute .standard arguments time files
  Program.writeFiles files response.files
  Program.printEvents asJson response.events
  Program.printResponse response
  return response.exitCode.toUInt32
