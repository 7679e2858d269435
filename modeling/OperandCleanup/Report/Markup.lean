import OperandCleanup.Report.Handler
import OperandCleanup.Report.Style
import OperandCleanup.Text.PictographNames

/-!
# Console markup

The console reads text as markup: a word in square brackets is a tag that changes the style and is
not shown, unless an odd number of backslashes stands in front of it. Escaping puts the backslashes
there. A closing tag has to close a tag that is open. Between tags, a name between two colons may
stand for a pictograph.
-/

namespace OperandCleanup.Report.Markup

/-- Whether a tag may begin with the character. -/
def startsTag (c : Char) : Bool :=
  ('a' ≤ c && c ≤ 'z') || c == '#' || c == '/' || c == '@'

/-- What stands before the first closing bracket, unless an opening one comes before it. -/
def tagBody? : List Char → Option (List Char)
  | [] => none
  | c :: rest =>
    if c = ']' then some []
    else if c = '[' then none
    else (tagBody? rest).map (c :: ·)

/-- The text of the tag whose opening bracket stands before these characters. -/
def tag? : List Char → Option (List Char)
  | [] => none
  | c :: rest => if startsTag c then (tagBody? rest).map (c :: ·) else none

/-! ## Escaping -/

/-- Escape text of which some backslashes stand just before. -/
def escapeFrom : Nat → List Char → List Char
  | _, [] => []
  | slashes, c :: rest =>
    if c = '\\' then c :: escapeFrom (slashes + 1) rest
    else if c = '[' ∧ (tag? rest).isSome then
      List.replicate (slashes + 1) '\\' ++ c :: escapeFrom 0 rest
    else c :: escapeFrom 0 rest

/-- Whether a text ends with one backslash that is not the second of two. -/
def endsWithBackslash (cs : List Char) : Bool :=
  match cs.reverse with
  | '\\' :: '\\' :: _ => false
  | '\\' :: _ => true
  | _ => false

/-- Text as markup that shows it. A single backslash at the end is doubled. -/
def escape (cs : List Char) : List Char :=
  let escaped := escapeFrom 0 cs
  if endsWithBackslash escaped then escaped ++ ['\\'] else escaped

/-! ## Pieces -/

/-- A piece of markup. -/
inductive Piece where
  | plain (chars : List Char)
  | tag (body : List Char) (position : Nat)
deriving DecidableEq, Repr, Inhabited

/-- A piece of plain text, if there is any. -/
def plainPiece (chars : List Char) : List Piece := if chars.isEmpty then [] else [.plain chars]

/-- The pieces of markup from a position on. So many backslashes stand just before, the first `skip`
characters belong to a tag that is read already, and some plain text, given in reverse, is open. Of
the backslashes before a tag half are kept. -/
def piecesFrom : Nat → Nat → Nat → List Char → List Char → List Piece
  | _, slashes, _, plain, [] => plainPiece (plain.reverse ++ List.replicate slashes '\\')
  | position, slashes, skip + 1, plain, _ :: rest =>
    piecesFrom (position + 1) slashes skip plain rest
  | position, slashes, 0, plain, c :: rest =>
    if c = '\\' then piecesFrom (position + 1) (slashes + 1) 0 plain rest
    else
      match if c = '[' then tag? rest else none with
      | none =>
        piecesFrom (position + 1) 0 0 (c :: (List.replicate slashes '\\' ++ plain)) rest
      | some tag =>
        let piece := if slashes % 2 = 1 then .plain (c :: (tag ++ [']'])) else .tag tag position
        plainPiece plain.reverse ++ plainPiece (List.replicate (slashes / 2) '\\') ++
          piece :: piecesFrom (position + 1) 0 (tag.length + 1) [] rest

/-- The pieces of markup. -/
def pieces (markup : List Char) : List Piece := piecesFrom 0 0 0 [] markup

/-! ## Plain text -/

/-- Plain text without the backslashes that stand before a bracket. -/
def withoutBracketEscapes : List Char → List Char
  | [] => []
  | '\\' :: '[' :: rest => '[' :: withoutBracketEscapes rest
  | c :: rest => c :: withoutBracketEscapes rest

/-- What stands before the next colon, unless a blank comes before it. -/
def name? : List Char → Option (List Char)
  | [] => none
  | c :: rest =>
    if c = ':' then some []
    else if Text.isBlank c then none
    else (name? rest).map (c :: ·)

/-- A name's ending and the character that it asks for: the text form of a pictograph, or its
picture. -/
def variants : List (List Char × List Char) :=
  [("-emoji".toList, ['\ufe0f']), ("-text".toList, ['\ufe0e'])]

/-- A letter of a name as a small letter. The names have accented letters of the first supplement
only, and the signs of kelvin and of angstrom count as letters. -/
def smallLetter (c : Char) : Char :=
  let code := c.toNat
  if 0xc0 ≤ code && code ≤ 0xde && code != 0xd7 then Char.ofNat (code + 32)
  else if code == 0x212a then 'k'
  else if code == 0x212b then 'å'
  else c.toLower

/-- The pictograph of a name, in the form that its ending asks for. The case of letters counts in
the ending only. -/
def namedPictograph? (name : List Char) : Option (List Char) :=
  let (base, variant) :=
    match variants.find? fun (ending, _) => ending.isSuffixOf name with
    | some (ending, variant) => (name.take (name.length - ending.length), variant)
    | none => (name, [])
  (Text.pictograph? (base.map smallLetter)).map (· ++ variant)

/-- Text with pictographs in place of their names; the first `skip` characters are done already. -/
def withPictographsFrom : Nat → List Char → List Char
  | _, [] => []
  | skip + 1, _ :: rest => withPictographsFrom skip rest
  | 0, c :: rest =>
    match if c = ':' then name? rest else none with
    | none => c :: withPictographsFrom 0 rest
    | some name =>
      (namedPictograph? name).getD (':' :: (name ++ [':'])) ++
        withPictographsFrom (name.length + 1) rest

/-- What plain text shows. -/
def shownPlain (cs : List Char) : List Char := withPictographsFrom 0 (withoutBracketEscapes cs)

/-! ## Tags -/

/-- Why markup cannot be shown. -/
inductive Fault where
  /-- A closing tag closes nothing. -/
  | unopened (tag : List Char) (position : Nat)
  /-- The parameters of a handler are no values. -/
  | handler (fault : HandlerFault)
deriving DecidableEq, Repr, Inhabited

def Fault.message : Fault → String
  | .unopened tag position =>
    let place := " at position " ++ toString position
    if tag = ['/'] then "closing tag '[/]'" ++ place ++ " has nothing to close"
    else "closing tag '[" ++ String.ofList tag ++ "]'" ++ place ++ " doesn't match any open tag"
  | .handler fault => fault.message

/-- A tag that is open. -/
structure OpenTag where
  name : String
  parameters : List Char
deriving DecidableEq, Repr, Inhabited

/-- The name in a tag: what stands before its parameters. -/
def tagName (tag : List Char) : String := String.ofList (tag.takeWhile (· != '='))

/-- The parameters in a tag: what stands after its first equals sign. -/
def tagParameters (tag : List Char) : List Char := (tag.dropWhile (· != '=')).drop 1

/-- A tag to open. -/
def OpenTag.of (tag : List Char) : OpenTag where
  name := Style.canonicalName (tagName tag)
  parameters := tagParameters tag

/-- Close a tag. The name of a handler's tag begins with an at sign, and its parameters are read
when it is closed. -/
def OpenTag.close (tag : OpenTag) : Except Fault Unit :=
  if tag.name.toList.head? = some '@' then
    match handlerFault? tag.parameters with
    | some fault => .error (.handler fault)
    | none => .ok ()
  else .ok ()

/-- The tags open after another tag, the one opened last first. -/
def openAfter (tag : List Char) (position : Nat) (tags : List OpenTag) :
    Except Fault (List OpenTag) :=
  match tag with
  | '/' :: rest =>
    let name := Text.trim (tagName rest)
    if name = "" then
      match tags with
      | [] => .error (.unopened ['/'] position)
      | last :: tags => last.close.map fun _ => tags
    else
      match tags.find? (·.name == Style.canonicalName name) with
      | none => .error (.unopened tag position)
      | some closed => closed.close.map fun _ => tags.eraseP (·.name == closed.name)
  | _ => .ok (.of tag :: tags)

/-- What pieces of markup show, with some tags open. -/
def shownPieces : List OpenTag → List Piece → Except Fault (List Char)
  | _, [] => .ok []
  | tags, .plain chars :: rest => (shownPieces tags rest).map (shownPlain chars ++ ·)
  | tags, .tag body position :: rest => do
    let tags ← openAfter body position tags
    shownPieces tags rest

/-- What markup shows. -/
def shown (markup : List Char) : Except Fault (List Char) := shownPieces [] (pieces markup)

end OperandCleanup.Report.Markup
