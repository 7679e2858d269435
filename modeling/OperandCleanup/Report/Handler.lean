import OperandCleanup.Report.Lexeme
import OperandCleanup.Text.Blank
import OperandCleanup.Text.Quoted

/-!
# Parameters of handlers

The tag of a handler has parameters: a name, a name with values in parentheses, or values alone.
The values have to be written properly, as expressions are: operands with operators between them,
tuples, sets and mappings. Besides they have to be given as they are, not by a name or as the
result of an operator. What they are is of no interest here.

The reason for a value that is not written properly is the one of the most likely mistake. It is
told for the mistakes below; for any other, and for values that go on after the end of a line, the
reason is that the syntax is invalid.
-/

namespace OperandCleanup.Report

/-- Why values are not written properly. -/
inductive Stop where
  /-- The text ends too early, for the given reason unless a bracket is open. -/
  | atEnd (reason : String)
  | refused (reason : String)
deriving DecidableEq, Repr, Inhabited

namespace Expression

/-- What is left after an expression. -/
abbrev Left := Except Stop (List Lexeme)

def invalid : Stop := .refused "invalid syntax"

/-- The end of the text where something has to follow. -/
def ended : Stop := .atEnd "invalid syntax"

/-- The reason for a lexeme that does not fit, or for there being none. -/
def unexpected : List Lexeme → Stop
  | [] => ended
  | .continuation :: _ => .refused "unexpected character after line continuation character"
  | _ => invalid

/-- The operators between two operands. -/
def binaryMarks : List String :=
  ["+", "-", "*", "/", "//", "%", "@", "**", "&", "|", "^", "<<", ">>", "<", ">", "==", "!=", "<=",
    ">="]

/-- The lexemes after an operator, and whether a negation may follow it. -/
def afterOperator? : List Lexeme → Option (Bool × List Lexeme)
  | .mark mark :: rest => if binaryMarks.contains mark then some (false, rest) else none
  | .keyword "and" :: rest => some (true, rest)
  | .keyword "or" :: rest => some (true, rest)
  | .keyword "in" :: rest => some (false, rest)
  | .keyword "not" :: .keyword "in" :: rest => some (false, rest)
  | .keyword "is" :: .keyword "not" :: rest => some (false, rest)
  | .keyword "is" :: rest => some (false, rest)
  | _ => none

/-- The lexemes after the texts that stand here in a row, which are all of one sort. -/
def afterTexts (bytes : Bool) : List Lexeme → Left
  | .quoted other _ :: rest =>
    if other = bytes then afterTexts bytes rest
    else .error (.refused "cannot mix bytes and nonbytes literals")
  | rest => .ok rest

/-- The reason for a name that was once a statement and is followed by an expression. -/
def bareCall? (lexemes next : List Lexeme) : Option Stop :=
  match lexemes with
  | .name name :: rest =>
    if rest = next && ["print", "exec"].contains name then
      some (.refused ("Missing parentheses in call to '" ++ name ++ "'. Did you mean " ++ name ++
        "(...)?"))
    else none
  | _ => none

/-- The reason for an expression that begins with the first lexemes and is followed by the next one
without a comma between them. -/
def withoutComma (lexemes next : List Lexeme) : Stop :=
  let missing : Stop := .refused "invalid syntax. Perhaps you forgot a comma?"
  (bareCall? lexemes next).getD <|
    match lexemes with
    | .name _ :: .quoted .. :: _ => invalid
    | .name name :: _ => if ["match", "case", "_"].contains name then invalid else missing
    | _ => missing

/-! ### What is assigned to -/

/-- The lexemes before the first at no depth that passes a test, given how many brackets are open,
and those from it on. -/
def splitAtDepth (test : Lexeme → Bool) : Nat → List Lexeme → List Lexeme × List Lexeme
  | _, [] => ([], [])
  | depth, first :: rest =>
    if depth = 0 && test first then ([], first :: rest)
    else
      let depth := match first with
        | .mark "(" => depth + 1
        | .mark "\x7b" => depth + 1
        | .mark ")" => depth - 1
        | .mark "\x7d" => depth - 1
        | _ => depth
      let (before, rest) := splitAtDepth test depth rest
      (first :: before, rest)

/-- Whether lexemes at no depth have one that passes a test. -/
def hasAtDepth (test : Lexeme → Bool) (lexemes : List Lexeme) : Bool :=
  !(splitAtDepth test 0 lexemes).2.isEmpty

/-- Whether a lexeme compares operands or chooses among them. -/
def isLoose : Lexeme → Bool
  | .keyword name => ["and", "or", "not", "in", "is", "if", "else", "lambda"].contains name
  | .mark mark => ["<", ">", "==", "!=", "<=", ">=", ":="].contains mark
  | _ => false

/-- Whether a lexeme joins operands. -/
def isOperator : Lexeme → Bool
  | .mark mark => mark == "~" || binaryMarks.contains mark
  | _ => false

/-- What an expression is called where something is assigned to it, unless that is said otherwise.
An expression in parentheses is called what it is called without them. -/
def assignedName? : Nat → List Lexeme → Option String
  | 0, _ => none
  | fuel + 1, lexemes =>
    if hasAtDepth isLoose lexemes then none
    else if hasAtDepth isOperator lexemes then some "expression"
    else
      match lexemes, lexemes.getLast? with
      | [.mark "..."], _ => some "ellipsis"
      | .mark "(" :: rest, some (.mark ")") =>
        let inner := rest.dropLast
        let (before, after) := splitAtDepth (· == .mark ")") 0 rest
        if after.length != 1 then some "function call"
        else if before.isEmpty || hasAtDepth (· == .mark ",") inner then none
        else if hasAtDepth isLoose inner then
          some (if hasAtDepth (· == .keyword "if") inner then "conditional expression"
            else if hasAtDepth (· == .mark ":=") inner then "named expression"
            else if hasAtDepth (fun lexeme =>
              ["and", "or", "not"].any fun name => lexeme == .keyword name) inner then "expression"
            else "comparison")
        else assignedName? fuel inner
      | _, some (.name _) => some (if lexemes.length = 1 then "name" else "attribute")
      | _, some (.mark ")") => some "function call"
      | .mark "\x7b" :: rest, some (.mark "\x7d") =>
        some (if rest.length = 1 || hasAtDepth (fun lexeme =>
          lexeme == .mark ":" || lexeme == .mark "**") rest.dropLast
          then "dict literal" else "set display")
      | _, some (.number _) => some "literal"
      | _, some (.quoted ..) => some "literal"
      | _, _ => none

/-- The reason for an equals sign after an expression, where something that fits follows it. -/
def misplacedEquals (assigned : List Lexeme) : Stop :=
  match assigned with
  | [.name _] => .refused "invalid syntax. Maybe you meant '==' or ':=' instead of '='?"
  | assigned =>
    match assignedName? (assigned.length + 1) assigned with
    | some name =>
      .refused ("cannot assign to " ++ name ++ " here. Maybe you meant '==' instead of '='?")
    | none => invalid

/-- The reason for an equals sign after an argument that is no name. -/
def misplacedArgument (argument : List Lexeme) : Stop :=
  match argument with
  | [.keyword name] =>
    if ["True", "False", "None"].contains name then .refused ("cannot assign to " ++ name)
    else invalid
  | _ => .refused "expression cannot contain assignment, perhaps you meant \"==\"?"

/-! ### Reading -/

/-- What stands between brackets. -/
inductive Content where
  | group
  /-- What stands after a comma in a group. -/
  | tuple
  | arguments
  | items
  | pairs
deriving DecidableEq, Repr, Inhabited

mutual
/-- The lexemes after an expression. Every function here takes one unit of fuel more than those
that it uses. -/
def expression : Nat → List Lexeme → Left
  | 0, _ => .error invalid
  | fuel + 1, lexemes => do
    match ← operands fuel true lexemes with
    | .keyword "if" :: rest =>
      match ← operands fuel true rest with
      | .keyword "else" :: rest => expression fuel rest
      | .mark ":" :: _ => throw invalid
      | [] => throw (.atEnd "expected 'else' after 'if' expression")
      | _ => throw (.refused "expected 'else' after 'if' expression")
    | rest => return rest

/-- The lexemes after operands with operators between them. -/
def operands : Nat → Bool → List Lexeme → Left
  | 0, _, _ => .error invalid
  | fuel + 1, negatable, lexemes =>
    match lexemes with
    | .keyword "not" :: rest => if negatable then operands fuel true rest else .error invalid
    | .mark "+" :: rest => operands fuel false rest
    | .mark "-" :: rest => operands fuel false rest
    | .mark "~" :: rest => operands fuel false rest
    | _ => do
      let rest ← operand fuel lexemes
      match afterOperator? rest with
      | some (negatable, rest) => operands fuel negatable rest
      | none => return rest

/-- The lexemes after an operand and what is asked of it. -/
def operand : Nat → List Lexeme → Left
  | 0, _ => .error invalid
  | fuel + 1, lexemes =>
    match lexemes with
    | .name _ :: rest => trailers fuel rest
    | .number _ :: rest => trailers fuel rest
    | .quoted bytes _ :: rest => do trailers fuel (← afterTexts bytes rest)
    | .mark "..." :: rest => trailers fuel rest
    | .keyword "True" :: rest => trailers fuel rest
    | .keyword "False" :: rest => trailers fuel rest
    | .keyword "None" :: rest => trailers fuel rest
    | .mark "(" :: rest => do trailers fuel (← content fuel .group ")" rest)
    | .mark "\x7b" :: .mark "\x7d" :: rest => trailers fuel rest
    | .mark "\x7b" :: rest => do
      let after ← part fuel .items rest
      let pairs := after.head? == some (.mark ":") || rest.head? == some (.mark "**")
      trailers fuel (← content fuel (if pairs then .pairs else .items) "\x7d" rest)
    | rest => .error (unexpected rest)

/-- The lexemes after members and arguments of an operand. -/
def trailers : Nat → List Lexeme → Left
  | 0, _ => .error invalid
  | fuel + 1, lexemes =>
    match lexemes with
    | .mark "." :: .name _ :: rest => trailers fuel rest
    | .mark "." :: rest => .error (unexpected rest)
    | .mark "(" :: rest => do trailers fuel (← content fuel .arguments ")" rest)
    | .continuation :: _ => .error (unexpected lexemes)
    | rest => .ok rest

/-- The lexemes after what stands between brackets, and the closing one. -/
def content : Nat → Content → String → List Lexeme → Left
  | 0, _, _, _ => .error invalid
  | fuel + 1, kind, closing, lexemes =>
    match lexemes with
    | [] => .error ended
    | first :: others =>
      if first = .mark closing then .ok others
      else do
        let rest ← part fuel kind lexemes
        let read := lexemes.take (lexemes.length - rest.length)
        match rest with
        | [] => throw ended
        | .mark "," :: rest => content fuel (if kind = .group then .tuple else kind) closing rest
        | .keyword "for" :: rest => clauses fuel closing rest
        | .mark "=" :: after =>
          if kind = .arguments then throw (misplacedArgument read)
          else if kind = .pairs then throw invalid
          else
            match ← operands fuel false after with
            | [] => throw ended
            | .mark "=" :: _ => throw invalid
            | .mark ":=" :: _ => throw invalid
            | _ => throw (misplacedEquals read)
        | next :: after =>
          if next = .mark closing then
            if kind = .group && first = .mark "*" then
              throw (.refused "cannot use starred expression here")
            else if kind = .group && first = .mark "**" then
              throw (.refused "cannot use double starred expression here")
            else return after
          else
            match ← expression fuel rest with
            | [] => throw ended
            | _ => throw (withoutComma lexemes rest)

/-- The lexemes after one part of what stands between brackets. -/
def part : Nat → Content → List Lexeme → Left
  | 0, _, _ => .error invalid
  | fuel + 1, kind, lexemes =>
    match kind, lexemes with
    | .group, .name _ :: .mark ":=" :: rest => expression fuel rest
    | .tuple, .name _ :: .mark ":=" :: rest => expression fuel rest
    | .arguments, .name _ :: .mark ":=" :: rest => expression fuel rest
    | .arguments, .name _ :: .mark "=" :: rest => expression fuel rest
    | .arguments, .mark "**" :: rest => expression fuel rest
    | .pairs, .mark "**" :: rest => expression fuel rest
    | .items, .mark "**" :: rest => expression fuel rest
    | .group, .mark "**" :: rest => do
      match ← expression fuel rest with
      | .mark ")" :: rest => return .mark ")" :: rest
      | _ => throw invalid
    | .pairs, lexemes => do
      match ← expression fuel lexemes with
      | .mark ":" :: rest =>
        match rest with
        | .mark "*" :: rest =>
          let _ ← operands fuel false rest
          throw (.refused "cannot use a starred expression in a dictionary value")
        | .mark "\x7d" :: _ =>
          throw (.refused "expression expected after dictionary key and ':'")
        | .mark "," :: _ => throw (.refused "expression expected after dictionary key and ':'")
        | rest => expression fuel rest
      | [] => throw ended
      | rest =>
        match expression fuel rest with
        | .ok [] => throw ended
        | .ok _ => throw (withoutComma lexemes rest)
        | .error _ => throw (.refused "':' expected after dictionary key")
    | _, .mark "*" :: rest =>
      match expression fuel rest with
      | .error (.refused _) => .error (.refused "Invalid star expression")
      | left => left
    | _, lexemes => expression fuel lexemes

/-- The lexemes after the clauses that make items out of others, and the closing bracket. -/
def clauses : Nat → String → List Lexeme → Left
  | 0, _, _ => .error invalid
  | fuel + 1, closing, lexemes => do
    match ← operand fuel lexemes with
    | .mark "," :: rest => clauses fuel closing rest
    | .keyword "in" :: rest =>
      match ← conditions fuel (← operands fuel true rest) with
      | .keyword "for" :: rest => clauses fuel closing rest
      | [] => throw ended
      | next :: rest => if next = .mark closing then return rest else throw invalid
    | rest => throw (unexpected rest)

/-- The lexemes after conditions. -/
def conditions : Nat → List Lexeme → Left
  | 0, _ => .error invalid
  | fuel + 1, lexemes =>
    match lexemes with
    | .keyword "if" :: rest => do conditions fuel (← operands fuel true rest)
    | rest => .ok rest
end

/-- The lexemes after expressions with commas between them. -/
def expressions : Nat → List Lexeme → Left
  | 0, _ => .error invalid
  | fuel + 1, lexemes => do
    match ← expression (16 * lexemes.length + 16) lexemes with
    | [.mark ","] => return []
    | .mark "," :: rest => expressions fuel rest
    | rest => return rest

/-- Why lexemes are no expressions; so many brackets are left open. -/
def problem? (lexemes : List Lexeme) (opened : List Lexeme.OpenBracket) : Option String :=
  let stopped : Option Stop := match expressions (lexemes.length + 1) lexemes with
    | .error stop => some stop
    | .ok rest =>
      if rest.all (· == .mark "\n") then none
      else
        match expression (16 * rest.length + 16) rest with
        | .error (.atEnd _) => some (if opened.isEmpty then invalid else ended)
        | .ok _ => some ((bareCall? lexemes rest).getD invalid)
        | _ => some invalid
  stopped.map fun stop =>
    match stop, opened with
    | .refused reason, _ => reason
    | .atEnd reason, [] => reason
    | .atEnd _, last :: _ => "'" ++ last.bracket.toString ++ "' was never closed"

end Expression

/-! ## Values that are given as they are -/

namespace Literal

/-- Why an expression is no value. -/
inductive Refusal where
  /-- Something in it has to be worked out. -/
  | malformed
  /-- A part that has to be looked up by cannot be. -/
  | unhashable (typeName : String)
deriving DecidableEq, Repr, Inhabited

/-- What matters of a value. -/
inductive Shape where
  | number (imaginary signed : Bool)
  /-- Any other value that can be looked up by. -/
  | plain
  /-- A value of a type that cannot be looked up by, or that holds one. -/
  | unhashable (typeName : String)
deriving DecidableEq, Repr, Inhabited

/-- A value that ends before some lexemes has to be one that can be looked up by. -/
def Shape.check (shape : Shape) (rest : List Lexeme) : Except Refusal Unit :=
  match shape with
  | .unhashable typeName =>
    if [some (Lexeme.mark ","), some (.mark "\x7d")].contains rest.head? then
      .error (.unhashable typeName)
    else .error .malformed
  | _ => .ok ()

/-- The shape of a tuple that begins with one part and goes on as another tuple does. -/
def Shape.join : Shape → Shape → Shape
  | .unhashable typeName, _ => .unhashable typeName
  | _, .unhashable typeName => .unhashable typeName
  | _, _ => .plain

/-- The shape of texts in a row, and the lexemes after them. -/
def texts : List Lexeme → Except Refusal (Shape × List Lexeme)
  | .quoted _ true :: _ => .error .malformed
  | .quoted _ false :: rest => texts rest
  | rest => .ok (.plain, rest)

/-- Whether lexemes begin with a sign, which joins two operands or belongs to one. -/
def beginsWithSign : List Lexeme → Bool
  | .mark mark :: _ => mark == "+" || mark == "-"
  | _ => false

mutual
/-- The shape of a value and the lexemes after it. Every function here takes one unit of fuel more
than those that it uses. -/
def value : Nat → List Lexeme → Except Refusal (Shape × List Lexeme)
  | 0, _ => .error .malformed
  | fuel + 1, lexemes => do
    let (left, rest) ← signed fuel lexemes
    if beginsWithSign rest then
      -- A sum is a real number and an imaginary one without a sign.
      match left, ← unit fuel (rest.drop 1) with
      | .number false _, (.number true false, rest) => return (.plain, rest)
      | _, _ => throw .malformed
    else return (left, rest)

/-- The shape of a value that may have a sign. -/
def signed : Nat → List Lexeme → Except Refusal (Shape × List Lexeme)
  | 0, _ => .error .malformed
  | fuel + 1, lexemes =>
    if beginsWithSign lexemes then do
      match ← unit fuel (lexemes.drop 1) with
      | (.number imaginary false, rest) => return (.number imaginary true, rest)
      | _ => throw .malformed
    else unit fuel lexemes

/-- The shape of a value without a sign and a sum, unless it is in parentheses. -/
def unit : Nat → List Lexeme → Except Refusal (Shape × List Lexeme)
  | 0, _ => .error .malformed
  | fuel + 1, lexemes =>
    match lexemes with
    | .number imaginary :: rest => .ok (.number imaginary false, rest)
    | .quoted .. :: _ => texts lexemes
    | .mark "..." :: rest => .ok (.plain, rest)
    | .keyword name :: rest =>
      if ["True", "False", "None"].contains name then .ok (.plain, rest) else .error .malformed
    | .name "set" :: .mark "(" :: .mark ")" :: rest => .ok (.unhashable "set", rest)
    | .mark "(" :: .mark ")" :: rest => .ok (.plain, rest)
    | .mark "(" :: rest => do
      match ← value fuel rest with
      | (first, .mark ")" :: rest) => return (first, rest)
      | (first, .mark "," :: rest) =>
        let (others, rest) ← tuple fuel rest
        match rest with
        | .mark ")" :: rest => return (first.join others, rest)
        | _ => throw .malformed
      | _ => throw .malformed
    | .mark "\x7b" :: .mark "\x7d" :: rest => .ok (.unhashable "dict", rest)
    | .mark "\x7b" :: rest => do
      match ← value fuel rest with
      | (key, .mark ":" :: rest) =>
        let (_, rest) ← value fuel rest
        key.check rest
        return (.unhashable "dict", ← pairs fuel rest)
      | (item, rest) =>
        item.check rest
        return (.unhashable "set", ← items fuel rest)
    | _ => .error .malformed

/-- The shape of the parts of a tuple up to where it ends. -/
def tuple : Nat → List Lexeme → Except Refusal (Shape × List Lexeme)
  | 0, _ => .error .malformed
  | fuel + 1, lexemes =>
    if lexemes.head? = none ∨ lexemes.head? = some (.mark ")") ∨
        lexemes.head? = some (.mark "\n") then .ok (.plain, lexemes)
    else do
      match ← value fuel lexemes with
      | (first, .mark "," :: rest) =>
        let (others, rest) ← tuple fuel rest
        return (first.join others, rest)
      | (first, rest) => return (Shape.join first .plain, rest)

/-- The lexemes after the further items of a set. -/
def items : Nat → List Lexeme → Except Refusal (List Lexeme)
  | 0, _ => .error .malformed
  | fuel + 1, lexemes =>
    match lexemes with
    | .mark "\x7d" :: rest => .ok rest
    | .mark "," :: .mark "\x7d" :: rest => .ok rest
    | .mark "," :: rest => do
      let (item, rest) ← value fuel rest
      item.check rest
      items fuel rest
    | _ => .error .malformed

/-- The lexemes after the further pairs of a mapping. -/
def pairs : Nat → List Lexeme → Except Refusal (List Lexeme)
  | 0, _ => .error .malformed
  | fuel + 1, lexemes =>
    match lexemes with
    | .mark "\x7d" :: rest => .ok rest
    | .mark "," :: .mark "\x7d" :: rest => .ok rest
    | .mark "," :: rest => do
      match ← value fuel rest with
      | (key, .mark ":" :: rest) =>
        let (_, rest) ← value fuel rest
        key.check rest
        pairs fuel rest
      | _ => throw .malformed
    | _ => .error .malformed
end

/-- Why properly written expressions are no values. -/
def refusal? (lexemes : List Lexeme) : Option Refusal :=
  match tuple (8 * lexemes.length + 8) lexemes with
  | .error refusal => some refusal
  | .ok (_, rest) => if rest.all (· == .mark "\n") then none else some .malformed

end Literal

/-- What is wrong with the values among parameters. -/
inductive ValueFault where
  | improper (values : List Char) (reason : String)
  | refused (refusal : Literal.Refusal)
deriving DecidableEq, Repr, Inhabited

/-- The parameters of a handler that give no values. -/
structure HandlerFault where
  parameters : List Char
  fault : ValueFault
deriving DecidableEq, Repr, Inhabited

/-- What is said of parameters. What has to be worked out is named by its place in memory, which is
left out. -/
def HandlerFault.message (fault : HandlerFault) : String :=
  let parameters := String.ofList (Text.quotedList fault.parameters)
  match fault.fault with
  | .improper values reason =>
    "error parsing " ++ String.ofList (Text.quotedList values) ++ " in " ++ parameters ++ "; " ++
      reason
  | .refused .malformed => "error parsing " ++ parameters ++ "; malformed node or string"
  | .refused (.unhashable typeName) =>
    "error parsing " ++ parameters ++ "; unhashable type: '" ++ typeName ++ "'"

/-- The values among parameters: those in parentheses after a name, or all that there is. A name
alone has none. -/
def handlerValues (parameters : List Char) : List Char :=
  let trimmed := (Text.trim (String.ofList parameters)).toList
  let rest := trimmed.dropWhile fun c => Text.inWord c || c == '.'
  if rest.isEmpty then ['(', ')']
  else if rest.head? = some '(' ∧ rest.getLast? = some ')' ∧ '\n' ∉ rest then rest
  else trimmed

/-- What is wrong with values. Blanks before them do not count. -/
def valueFault? (values : List Char) : Option ValueFault :=
  match Lexeme.read (values.dropWhile fun c => c == ' ' || c == '\t') with
  | .error reason => some (.improper values reason)
  | .ok (lexemes, opened) =>
    match Expression.problem? lexemes opened with
    | some reason => some (.improper values reason)
    | none => (Literal.refusal? lexemes).map .refused

/-- What is wrong with the parameters of a handler. -/
def handlerFault? (parameters : List Char) : Option HandlerFault :=
  if parameters.isEmpty then none
  else (valueFault? (handlerValues parameters)).map fun fault => ⟨parameters, fault⟩

end OperandCleanup.Report
