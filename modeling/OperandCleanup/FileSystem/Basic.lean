import OperandCleanup.FileSystem.Path
import OperandCleanup.Text.Quoted
import OperandCleanup.Text.Utf8

/-!
# File systems

A file system is a finite map from places to files and directories. A path is followed name by
name; two dots lead back to the directory around. Reading and writing fail as those of an operating
system do, and a failure names the path it is about. What was made before a failure stays.
-/

namespace OperandCleanup

/-- What stands at a place. -/
inductive Node where
  | directory
  | file (bytes : List UInt8)
deriving DecidableEq, Repr, Inhabited

/-- A place: the names of the directories down to it and its own. -/
abbrev Place := List String

/-- Files and directories by their places. The current directory is always there. -/
structure FileSystem where
  nodes : List (Place × Node) := []
deriving DecidableEq, Repr, Inhabited

/-- Why a path cannot be used. -/
inductive FileProblem where
  | notFound
  | exists
  | notADirectory
  | isADirectory
  | nameTooLong
  | nullCharacter
deriving DecidableEq, Repr, Inhabited

/-- A problem and the path it is about. -/
structure FileError where
  problem : FileProblem
  path : Path
deriving DecidableEq, Repr, Inhabited

/-- An error, and the file system that is left behind it. -/
structure Mishap (ε : Type) where
  error : ε
  files : FileSystem
deriving DecidableEq, Repr, Inhabited

/-- An error of one operation as that of another. -/
def Mishap.map {ε ε' : Type} (f : ε → ε') (mishap : Mishap ε) : Mishap ε' :=
  ⟨f mishap.error, mishap.files⟩

/-- The number and the text of a problem that the operating system reports. -/
def FileProblem.report : FileProblem → String
  | .notFound => "[Errno 2] No such file or directory"
  | .exists => "[Errno 17] File exists"
  | .notADirectory => "[Errno 20] Not a directory"
  | .isADirectory => "[Errno 21] Is a directory"
  | .nameTooLong => "[Errno 36] File name too long"
  | .nullCharacter => "embedded null byte"

def FileError.message (error : FileError) : String :=
  match error.problem with
  | .nullCharacter => error.problem.report
  | problem => problem.report ++ ": " ++ Text.quoted error.path.text

namespace FileSystem

/-- What stands at a place. -/
def node? (files : FileSystem) : Place → Option Node
  | [] => some .directory
  | place => files.nodes.lookup place

/-- Put a node at a place, in place of the one there. -/
def setNode : List (Place × Node) → Place → Node → List (Place × Node)
  | [], place, node => [(place, node)]
  | (other, old) :: rest, place, node =>
    if other = place then (other, node) :: rest else (other, old) :: setNode rest place node

def set (files : FileSystem) (place : Place) (node : Node) : FileSystem :=
  ⟨setNode files.nodes place node⟩

/-- The most bytes that a name may have. -/
def maxNameBytes : Nat := 255

/-- The most bytes that a path may have. -/
def maxPathBytes : Nat := 4095

/-- The problem that a name has wherever it stands. -/
def nameProblem? (name : String) : Option FileProblem :=
  if maxNameBytes < name.utf8ByteSize then some .nameTooLong else none

/-- The problem that a path has before it is followed. -/
def pathProblem? (path : Path) : Option FileProblem :=
  if path.names.any fun name => name.toList.contains '\x00' then some .nullCharacter
  else if maxPathBytes < path.text.utf8ByteSize then some .nameTooLong
  else none

/-- Follow names from a directory to a place where something stands. -/
def follow (files : FileSystem) : Place → List String → Except FileProblem Place
  | place, [] => .ok place
  | place, name :: rest =>
    if name = ".." then
      if place = [] then .error .notFound else files.follow place.dropLast rest
    else
      match nameProblem? name with
      | some problem => .error problem
      | none =>
        match files.node? (place ++ [name]), rest with
        | none, _ => .error .notFound
        | some .directory, _ => files.follow (place ++ [name]) rest
        | some (.file _), [] => .ok (place ++ [name])
        | some (.file _), _ :: _ => .error .notADirectory

/-- The directory at the end of a path. -/
def directoryAt (files : FileSystem) (path : Path) : Except FileProblem Place := do
  let place ← files.follow [] path.names
  match files.node? place with
  | some .directory => return place
  | _ => throw .notADirectory

def isDirectory (files : FileSystem) (path : Path) : Bool :=
  match files.directoryAt path with
  | .ok _ => true
  | .error _ => false

/-- The bytes of the file at a path. -/
def readBytes (files : FileSystem) (path : Path) : Except FileError (List UInt8) :=
  match pathProblem? path with
  | some problem => .error ⟨problem, path⟩
  | none =>
    match files.follow [] path.names with
    | .error problem => .error ⟨problem, path⟩
    | .ok place =>
      match files.node? place with
      | some (.file bytes) => .ok bytes
      | some .directory => .error ⟨.isADirectory, path⟩
      | none => .error ⟨.notFound, path⟩

/-- The place that a path names in a directory that is there, whether something stands there or
not. -/
def placeFor (files : FileSystem) (path : Path) : Except FileProblem Place :=
  match path.names.getLast? with
  | none => .ok []
  | some name => do
    if name = ".." then files.directoryAt path
    else
      let directory ← files.directoryAt path.parent
      match nameProblem? name with
      | some problem => throw problem
      | none => return directory ++ [name]

/-- Change the file at a path by a function of its bytes; a file that is not there is made. -/
def updateFile (files : FileSystem) (path : Path) (change : List UInt8 → List UInt8) :
    Except FileError FileSystem :=
  match pathProblem? path with
  | some problem => .error ⟨problem, path⟩
  | none =>
    match files.placeFor path with
    | .error problem => .error ⟨problem, path⟩
    | .ok place =>
      match files.node? place with
      | some .directory => .error ⟨.isADirectory, path⟩
      | some (.file bytes) => .ok (files.set place (.file (change bytes)))
      | none => .ok (files.set place (.file (change [])))

/-- Write the file at a path, in place of what it holds. -/
def writeBytes (files : FileSystem) (path : Path) (bytes : List UInt8) :
    Except FileError FileSystem :=
  files.updateFile path fun _ => bytes

/-- Write at the end of the file at a path. -/
def appendBytes (files : FileSystem) (path : Path) (bytes : List UInt8) :
    Except FileError FileSystem :=
  files.updateFile path (· ++ bytes)

/-- Make a directory in a directory that is there. -/
def makeDirectory (files : FileSystem) (path : Path) : Except FileProblem FileSystem := do
  let place ← files.placeFor path
  match files.node? place with
  | some _ => throw .exists
  | none => return files.set place .directory

/-- Make a directory, unless it is there. -/
def ensureOne (files : FileSystem) (path : Path) : Except FileError FileSystem :=
  match files.makeDirectory path with
  | .ok files => .ok files
  | .error problem => if files.isDirectory path then .ok files else .error ⟨problem, path⟩

/-- What an operation that changes nothing before it fails leaves behind. -/
def leaving {ε α : Type} (files : FileSystem) (result : Except ε α) : Except (Mishap ε) α :=
  result.mapError fun error => ⟨error, files⟩

/-- Make a directory and those around it as far as they are not there. The names are given from
the last one on. -/
def ensureReversed (files : FileSystem) : List String → Except (Mishap FileError) FileSystem
  | [] => .ok files
  | name :: around =>
    let path : Path := ⟨(name :: around).reverse⟩
    match files.makeDirectory path with
    | .ok files => .ok files
    | .error .notFound => do
      let files ← files.ensureReversed around
      files.leaving (files.ensureOne path)
    | .error problem =>
      if files.isDirectory path then .ok files else .error ⟨⟨problem, path⟩, files⟩

/-- Make the directory at a path and those around it as far as they are not there. -/
def ensureDirectory (files : FileSystem) (path : Path) : Except (Mishap FileError) FileSystem :=
  match pathProblem? path with
  | some problem => .error ⟨⟨problem, path⟩, files⟩
  | none => files.ensureReversed path.names.reverse

/-- Write a file and make the directories around it. -/
def store (files : FileSystem) (path : Path) (text : List Char) :
    Except (Mishap FileError) FileSystem := do
  let files ← files.ensureDirectory path.parent
  files.leaving (files.writeBytes path (Text.Utf8.encode text))

end FileSystem

end OperandCleanup
