import OperandCleanup.Document.Loader
import OperandCleanup.FileSystem.Basic
import OperandCleanup.Json.Room
import OperandCleanup.Text.Lines

/-!
# Documents in files

A file is read as UTF-8 text, each of the common line ends becoming a line feed, and its text as
JSON, within the room of the stack where that is limited. A document is written as its canonical
text with a line feed at the end.
-/

namespace OperandCleanup

/-- Why a file does not give what is read from it. -/
inductive ImportError where
  | file (error : FileError)
  | encoding (fault : Text.Utf8.Fault)
  | content (error : LoadError)
deriving Repr, Inhabited

def ImportError.message : ImportError → String
  | .file error => error.message
  | .encoding fault => fault.message
  | .content error => error.message

namespace FileSystem

/-- The text of a file. -/
def readText (files : FileSystem) (path : Path) : Except ImportError (List Char) :=
  match files.readBytes path with
  | .error error => .error (.file error)
  | .ok bytes =>
    match Text.Utf8.decode bytes with
    | .error fault => .error (.encoding fault)
    | .ok cs => .ok (Text.withLineFeeds cs)

/-- The JSON value in a file, within the room for so many arrays and objects around each other. -/
def importJson (files : FileSystem) (room : Nat) (path : Path) :
    Except (Halt ImportError) Json :=
  match files.readText path with
  | .error error => .error (.failed error)
  | .ok text =>
    (Json.readWithin room text).mapError (.map fun fault => .content (.malformedText text fault))

/-- The document in a file. -/
def importDocument (files : FileSystem) (path : Path) : Except ImportError Document := do
  let text ← files.readText path
  match Document.parse text with
  | .error error => throw (.content error)
  | .ok document => return document

/-- The document in a file, within the room for so many arrays and objects around each other. -/
def importDocumentWithin (files : FileSystem) (room : Nat) (path : Path) :
    Except (Halt ImportError) Document := do
  let value ← files.importJson room path
  (Document.ofJson value).mapError fun error => .failed (.content error)

/-- Write a document to a file. -/
def exportDocument (files : FileSystem) (path : Path) (document : Document) :
    Except (Mishap FileError) FileSystem :=
  files.store path (document.text.toList ++ ['\n'])

end FileSystem

end OperandCleanup
