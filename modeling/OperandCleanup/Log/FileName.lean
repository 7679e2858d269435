import OperandCleanup.FileSystem.Basic

/-!
# Names of log files

The name of a log file is a pattern. A field in braces stands for a value, of which there is one,
the time; a brace that stands for itself is written twice. A field may ask for a conversion and a
format, which may have fields of its own, but the time has one form only. The directories around the
pattern as it is written are made before the pattern is expanded, and those around the name after
it.
-/

namespace OperandCleanup

/-- Why a pattern gives no name. -/
inductive PatternFault where
  | singleOpening
  | singleClosing
  | unclosedField
  | braceInField
  | unclosedFormat
  | missingConversion
  | unendedConversion
  | unknownConversion (c : Char)
  /-- A field is named by its position, and there are none. -/
  | positionalField
  | unknownField (name : String)
  /-- A format has a field whose format has a field. -/
  | tooDeep
deriving DecidableEq, Repr, Inhabited

def PatternFault.message : PatternFault → String
  | .singleOpening => "Single '\x7b' encountered in format string"
  | .singleClosing => "Single '\x7d' encountered in format string"
  | .unclosedField => "expected '\x7d' before end of string"
  | .braceInField => "unexpected '\x7b' in field name"
  | .unclosedFormat => "unmatched '\x7b' in format spec"
  | .missingConversion => "end of string while looking for conversion specifier"
  | .unendedConversion => "expected ':' after conversion specifier"
  | .unknownConversion c =>
    "Unknown conversion specifier " ++
      if 32 < c.toNat && c.toNat < 127 then c.toString
      else "\\x" ++ String.ofList (Nat.toDigits 16 c.toNat)
  | .positionalField => "Format string contains positional fields"
  | .unknownField name => Text.quoted name
  | .tooDeep => "Max string recursion exceeded"

/-- A field of a pattern. -/
structure PatternField where
  name : List Char
  conversion : Option Char := none
  format : List Char := []
deriving DecidableEq, Repr, Inhabited

namespace PatternField

/-- The name of a field, the character that ends it, and the rest. Between square brackets every
character belongs to the name. -/
def readName (bracketed : Bool) : List Char → Except PatternFault (List Char × Char × List Char)
  | [] => .error .unclosedField
  | c :: rest =>
    if !bracketed && c = '{' then .error .braceInField
    else if !bracketed && (c = '}' || c = ':' || c = '!') then .ok ([], c, rest)
    else
      (readName (if bracketed then c != ']' else c == '[') rest).map fun (name, stop, rest) =>
        (c :: name, stop, rest)

/-- A format in which so many braces are open, and what stands after it. -/
def readFormat : Nat → List Char → Except PatternFault (List Char × List Char)
  | _, [] => .error .unclosedFormat
  | opened, c :: rest =>
    if c = '}' && opened ≤ 1 then .ok ([], rest)
    else
      let opened := if c = '{' then opened + 1 else if c = '}' then opened - 1 else opened
      (readFormat opened rest).map fun (format, rest) => (c :: format, rest)

/-- The field whose opening brace stands before these characters, and the rest. -/
def read (cs : List Char) : Except PatternFault (PatternField × List Char) := do
  let (name, stop, rest) ← readName false cs
  if stop = '}' then return ({ name }, rest)
  else if stop = ':' then
    let (format, rest) ← readFormat 1 rest
    return ({ name, format }, rest)
  else
    match rest with
    | [] => throw .missingConversion
    | [_] => throw .unclosedFormat
    | c :: '}' :: rest => return ({ name, conversion := some c }, rest)
    | c :: ':' :: rest =>
      let (format, rest) ← readFormat 1 rest
      return ({ name, conversion := some c, format }, rest)
    | _ => throw .unendedConversion

/-- The value of a field. A name without a first part, or with a number for it, is a position. -/
def value (time : List Char) (field : PatternField) : Except PatternFault (List Char) :=
  let first := field.name.takeWhile fun c => c != '.' && c != '['
  if first.all Char.isDigit then .error .positionalField
  else if first != "time".toList then .error (.unknownField (String.ofList first))
  else
    match field.conversion with
    | none => .ok time
    | some c => if ['r', 's', 'a'].contains c then .ok time else .error (.unknownConversion c)

end PatternField

namespace LogPattern

/-- A pattern of at most so many characters, expanded. Formats may go so many levels deep. -/
def expandedBy (time : List Char) : (steps depth : Nat) → List Char →
    Except PatternFault (List Char)
  | _, 0, _ => .error .tooDeep
  | _, _, [] => .ok []
  | 0, _, _ => .ok []
  | steps + 1, depth + 1, '{' :: '{' :: rest =>
    (expandedBy time steps (depth + 1) rest).map ('{' :: ·)
  | steps + 1, depth + 1, '}' :: '}' :: rest =>
    (expandedBy time steps (depth + 1) rest).map ('}' :: ·)
  | steps + 1, depth + 1, c :: rest =>
    if c = '}' then .error .singleClosing
    else if c = '{' then
      if rest.isEmpty then .error .singleOpening
      else do
        let (field, rest) ← PatternField.read rest
        let value ← field.value time
        if field.format.contains '{' then
          let _ ← expandedBy time steps depth field.format
        let after ← expandedBy time steps (depth + 1) rest
        return value ++ after
    else (expandedBy time steps (depth + 1) rest).map (c :: ·)

/-- The name that a pattern stands for at a time. -/
def expanded (time pattern : String) : Except PatternFault String :=
  (expandedBy time.toList pattern.length 2 pattern.toList).map String.ofList

end LogPattern

/-- Why there is no log file. -/
inductive LogFileError where
  | file (error : FileError)
  | pattern (fault : PatternFault)
deriving DecidableEq, Repr, Inhabited

def LogFileError.message : LogFileError → String
  | .file error => error.message
  | .pattern fault => fault.message

namespace FileSystem

/-- Make the directory around a log file. -/
def ensureAround (files : FileSystem) (path : Path) : Except (Mishap LogFileError) FileSystem :=
  (files.ensureDirectory path.parent).mapError (.map .file)

/-- Write at the end of a log file, which is made if it is not there. -/
def appendLog (files : FileSystem) (path : Path) (bytes : List UInt8) :
    Except LogFileError FileSystem :=
  (files.appendBytes path bytes).mapError .file

/-- Open the log file of a pattern at a time. Its path comes first. -/
def openLog (files : FileSystem) (time : String) (pattern : Path) :
    Except (Mishap LogFileError) (Path × FileSystem) := do
  let files ← files.ensureAround pattern
  let name ← files.leaving ((LogPattern.expanded time pattern.text).mapError .pattern)
  let path := Path.parse name
  let files ← files.ensureAround path
  let files ← files.leaving (files.appendLog path [])
  return (path, files)

end FileSystem

end OperandCleanup
