import OperandCleanup.Number.Hexadecimal
import OperandCleanup.Text.Lines
import OperandCleanup.Text.NameCharacter
import OperandCleanup.Text.Printable

/-!
# Lexemes of written values

A written value is cut into names, numbers, texts in quotes and marks. Brackets have to match, and
a text has to end on the line that it begins on, unless three quotes enclose it. What the escapes in
a text stand for is not looked at, nor what a formatted text has between braces.
-/

namespace OperandCleanup.Report

/-- A lexeme of a written value. -/
inductive Lexeme where
  | name (name : String)
  | keyword (name : String)
  | number (imaginary : Bool)
  /-- A text in quotes, or bytes. A formatted text has values put into it. -/
  | quoted (bytes formatted : Bool)
  | mark (mark : String)
  /-- A backslash at which nothing ends; nothing is read after it. -/
  | continuation
deriving DecidableEq, Repr, Inhabited

namespace Lexeme

open Text (startsName inName)

/-- The names that have a meaning of their own. -/
def keywords : List String :=
  ["False", "None", "True", "and", "as", "assert", "async", "await", "break", "class", "continue",
    "def", "del", "elif", "else", "except", "finally", "for", "from", "global", "if", "import",
    "in", "is", "lambda", "nonlocal", "not", "or", "pass", "raise", "return", "try", "while",
    "with", "yield"]

/-- The marks of two and three characters. -/
def longMarks : List String :=
  ["**=", "//=", ">>=", "<<=", "...", "==", "!=", "<=", ">=", "->", ":=", "+=", "-=", "*=", "/=",
    "%=", "&=", "|=", "^=", "@=", "**", "//", "<<", ">>", "<>"]

/-- The code of a character in capital digits of base sixteen, four of them at least. -/
def codeText (c : Char) : String :=
  let code := c.toNat
  let width := if code < 0x10000 then 4 else if code < 0x100000 then 5 else 6
  "U+" ++ String.ofList ((Hexadecimal.digits width code).map Char.toUpper)

/-- A character that belongs to no lexeme. -/
def unknownCharacter (c : Char) : String :=
  if Text.isPrintable c then "invalid character '" ++ c.toString ++ "' (" ++ codeText c ++ ")"
  else "invalid non-printable character " ++ codeText c

/-! ## Numbers

Each of these functions gives the characters after what it reads. -/

/-- What is no number of a kind. -/
def badNumber (kind : String) : String := "invalid " ++ kind ++ " literal"

/-- Whether a character of ASCII goes on with a name. -/
def continuesWord (c : Char) : Bool := c.isAlphanum || c == '_'

/-- Whether characters begin with a keyword that may follow a number at once. Some of them have to
end there. -/
def beginsWithFollower (cs : List Char) : Bool :=
  (["if", "in", "is"].any fun word => word.toList.isPrefixOf cs) ||
    ["and", "else", "for", "or", "not"].any fun word =>
      word.toList.isPrefixOf cs &&
        !(cs.drop word.length).head?.any fun c => continuesWord c || 0x80 ≤ c.toNat

/-- What follows a number at once is no part of a name. -/
def endNumber (kind : String) (cs : List Char) : Except String (List Char) :=
  if cs.head?.any continuesWord && !beginsWithFollower cs then .error (badNumber kind) else .ok cs

/-- Digits, with single underscores between them. -/
def afterDigits : List Char → Except String (List Char)
  | [] => .ok []
  | ['_'] => .error (badNumber "decimal")
  | '_' :: c :: rest =>
    if c.isDigit then afterDigits rest else .error (badNumber "decimal")
  | c :: rest => if c.isDigit then afterDigits rest else .ok (c :: rest)

/-- The digits of a number with a base. A digit has to come first and after each underscore. -/
def afterBased (kind : String) (isDigit : Char → Bool) : List Char → Except String (List Char)
  | [] => .error (badNumber kind)
  | c :: rest =>
    if isDigit c then
      match rest with
      | [] => .ok []
      | d :: others =>
        if d = '_' then afterBased kind isDigit others
        else if isDigit d then afterBased kind isDigit (d :: others)
        else if d.isDigit then wrongDigit d
        else .ok (d :: others)
    else if c.isDigit then wrongDigit c
    else .error (badNumber kind)
where
  wrongDigit (c : Char) : Except String (List Char) :=
    .error ("invalid digit '" ++ c.toString ++ "' in " ++ kind ++ " literal")

/-- A number with a base, after the letter that names it. -/
def basedNumber (kind : String) (isDigit : Char → Bool) (cs : List Char) :
    Except String (List Char) := do
  let digits := match cs with
    | '_' :: rest => rest
    | cs => cs
  endNumber kind (← afterBased kind isDigit digits)

/-- The fraction of a number, if it has one. -/
def afterFraction : List Char → Except String (List Char)
  | '.' :: rest => if rest.head?.any Char.isDigit then afterDigits rest else .ok rest
  | cs => .ok cs

/-- A sign, if there is one. -/
def afterSign : List Char → List Char
  | '+' :: rest => rest
  | '-' :: rest => rest
  | cs => cs

/-- The exponent of a number, if it has one. -/
def afterExponent (cs : List Char) : Except String (List Char) :=
  if cs.head? = some 'e' ∨ cs.head? = some 'E' then
    let digits := afterSign (cs.drop 1)
    if digits.head?.any Char.isDigit then afterDigits digits
    else if digits.length < cs.length - 1 then .error (badNumber "decimal")
    else endNumber "decimal" cs
  else .ok cs

/-- A number without a base: whether it is imaginary, and what follows. -/
def decimalNumber (cs : List Char) : Except String (Bool × List Char) := do
  let whole ← afterDigits cs
  let written := cs.take (cs.length - whole.length)
  let goesOn := whole.head?.any fun c => ['.', 'e', 'E', 'j', 'J'].contains c
  if cs.head? = some '0' && written.any (fun c => c != '0' && c != '_') && !goesOn then
    .error ("leading zeros in decimal integer literals are not permitted; " ++
      "use an 0o prefix for octal integers")
  else do
    let fraction ← afterFraction whole
    let rest ← afterExponent fraction
    if rest.head? = some 'j' ∨ rest.head? = some 'J' then
      (endNumber "imaginary" (rest.drop 1)).map (true, ·)
    else (endNumber "decimal" rest).map (false, ·)

/-- The number that characters begin with: whether it is imaginary, and what follows. -/
def afterNumber (cs : List Char) : Except String (Bool × List Char) :=
  let base := ((cs.drop 1).head?.map Char.toLower).filter fun _ => cs.head? = some '0'
  let based := fun kind isDigit => (basedNumber kind isDigit (cs.drop 2)).map (false, ·)
  match base with
  | some 'x' => based "hexadecimal" fun c => (Hexadecimal.value? [c]).isSome
  | some 'o' => based "octal" fun c => '0' ≤ c && c ≤ '7'
  | some 'b' => based "binary" fun c => c == '0' || c == '1'
  | _ => decimalNumber cs

/-! ## Texts -/

/-- The characters after a text in single quotes, which begin inside of it, or else those at which
it does not go on. -/
def afterText (quote : Char) : List Char → Except (List Char) (List Char)
  | [] => .error []
  | ['\\'] => .error []
  | '\\' :: _ :: rest => afterText quote rest
  | c :: rest =>
    if c = quote then .ok rest else if c = '\n' then .error (c :: rest) else afterText quote rest

/-- The characters after a text in triple quotes, which begin inside of it. -/
def afterLongText (quote : Char) : List Char → Option (List Char)
  | [] => none
  | '\\' :: _ :: rest => afterLongText quote rest
  | c :: rest =>
    if c = quote ∧ rest.take 2 = [quote, quote] then some (rest.drop 2)
    else afterLongText quote rest

/-- The characters after the text that begins here, at a quote, among so many lines. -/
def afterQuoted (lines : Nat) (cs : List Char) : Except String (List Char) :=
  match cs with
  | [] => .ok []
  | quote :: rest =>
    if rest.take 2 = [quote, quote] then
      match afterLongText quote (rest.drop 2) with
      | some after => .ok after
      | none =>
        .error ("unterminated triple-quoted string literal (detected at line " ++
          toString lines ++ ")")
    else
      match afterText quote rest with
      | .ok after => .ok after
      | .error left =>
        .error ("unterminated string literal (detected at line " ++
          toString (lines - left.count '\n') ++ ")")

def isQuote (c : Char) : Bool := c == '\'' || c == '"'

/-- Whether letters before a quote have one of some letters. -/
def haveLetter (letter : Char) (letters : List Char) : Bool :=
  (letters.map Char.toLower).contains letter

/-- Whether letters before a quote belong to the text. -/
def isTextPrefix (letters : List Char) : Bool :=
  ["b", "r", "u", "f", "br", "rb", "fr", "rf"].contains
    (String.ofList (letters.map Char.toLower))

/-! ## Lexemes -/

/-- A bracket that is open, and the line on which it opens. -/
structure OpenBracket where
  bracket : Char
  line : Nat
deriving DecidableEq, Repr, Inhabited

/-- The number of brackets that may be open. -/
def maxOpen : Nat := 200

/-- The opening bracket that a closing one matches. -/
def opening : Char → Char
  | ')' => '('
  | ']' => '['
  | _ => '\x7b'

/-- What is read of characters: a lexeme, unless they are passed over, the brackets that are open
then, and the characters after it. -/
structure Reading where
  lexeme? : Option Lexeme
  opened : List OpenBracket
  rest : List Char
deriving DecidableEq, Repr, Inhabited

/-- Open a bracket. -/
def openBracket (line : Nat) (opened : List OpenBracket) (c : Char) (rest : List Char) :
    Except String Reading :=
  if opened.length < maxOpen then .ok ⟨some (.mark c.toString), ⟨c, line⟩ :: opened, rest⟩
  else .error "too many nested parentheses"

/-- Close a bracket. -/
def closeBracket (line : Nat) (opened : List OpenBracket) (c : Char) (rest : List Char) :
    Except String Reading :=
  match opened with
  | [] => .error ("unmatched '" ++ c.toString ++ "'")
  | last :: outer =>
    if last.bracket = opening c then .ok ⟨some (.mark c.toString), outer, rest⟩
    else
      .error ("closing parenthesis '" ++ c.toString ++
        "' does not match opening parenthesis '" ++ last.bracket.toString ++ "'" ++
        if last.line = line then "" else " on line " ++ toString last.line)

/-- Read a name, or a text with letters before it. -/
def readWord (lines : Nat) (opened : List OpenBracket) (cs : List Char) : Except String Reading :=
  let word := cs.takeWhile inName
  let after := cs.drop word.length
  if isTextPrefix word && after.head?.any isQuote then do
    let rest ← afterQuoted lines after
    let written := after.take (after.length - rest.length)
    let bytes := haveLetter 'b' word
    if bytes && written.any (fun c => 0x80 ≤ c.toNat) then
      .error "bytes can only contain ASCII literal characters"
    else .ok ⟨some (.quoted bytes (haveLetter 'f' word)), opened, rest⟩
  else
    match after.head?.filter fun c => 0x80 ≤ c.toNat with
    | some next => .error (unknownCharacter next)
    | none =>
      let name := String.ofList word
      .ok ⟨some (if keywords.contains name then .keyword name else .name name), opened, after⟩

/-- Read a mark that is no bracket. -/
def readMark (opened : List OpenBracket) (cs : List Char) : Reading :=
  let long := (longMarks.find? fun long => long.toList.isPrefixOf cs).map String.toList
  let found := long.getD (cs.take 1)
  ⟨some (.mark (String.ofList found)), opened, cs.drop found.length⟩

/-- Read what a character begins. A line ends a value only where no bracket is open and something
stands on it. -/
def readFirst (lines : Nat) (begun : Bool) (opened : List OpenBracket) (c : Char)
    (rest : List Char) : Except String Reading :=
  let line := lines - (c :: rest).count '\n'
  if c = ' ' ∨ c = '\t' ∨ c = '\x0c' then .ok ⟨none, opened, rest⟩
  else if c = '\n' then
    .ok ⟨if opened.isEmpty && begun then some (.mark "\n") else none, opened, rest⟩
  else if c = '#' then .ok ⟨none, opened, rest.dropWhile (· != '\n')⟩
  else if c = '\\' then
    match rest with
    | '\n' :: d :: rest => .ok ⟨none, opened, d :: rest⟩
    | _ => .ok ⟨some .continuation, opened, []⟩
  else if startsName c then readWord lines opened (c :: rest)
  else if c.isDigit || (c == '.' && rest.head?.any Char.isDigit) then
    (afterNumber (c :: rest)).map fun (imaginary, rest) => ⟨some (.number imaginary), opened, rest⟩
  else if isQuote c then
    (afterQuoted lines (c :: rest)).map fun rest => ⟨some (.quoted false false), opened, rest⟩
  else if 0x80 ≤ c.toNat || !Text.isPrintable c then .error (unknownCharacter c)
  else if c = '(' ∨ c = '[' ∨ c = '\x7b' then openBracket line opened c rest
  else if c = ')' ∨ c = ']' ∨ c = '\x7d' then closeBracket line opened c rest
  else .ok (readMark opened (c :: rest))

/-- The lexemes of characters and the brackets left open, the innermost first, some being open
already. `begun` says whether something stands on the line. The fuel is the number of characters. -/
def readFrom (lines : Nat) : Nat → Bool → List OpenBracket → List Char →
    Except String (List Lexeme × List OpenBracket)
  | 0, _, opened, _ => .ok ([], opened)
  | _ + 1, _, opened, [] => .ok ([], opened)
  | fuel + 1, begun, opened, c :: rest => do
    let reading ← readFirst lines begun opened c rest
    let begun := match reading.lexeme? with
      | some lexeme => lexeme != .mark "\n"
      | none => begun
    let (lexemes, left) ← readFrom lines fuel begun reading.opened reading.rest
    return (reading.lexeme?.toList ++ lexemes, left)

/-- The lexemes of a text and the brackets that it leaves open, the innermost first. Carriage
returns end lines too. -/
def read (cs : List Char) : Except String (List Lexeme × List OpenBracket) :=
  let cs := Text.withLineFeeds cs
  readFrom (cs.count '\n' + 1) cs.length false [] cs

end Lexeme

end OperandCleanup.Report
