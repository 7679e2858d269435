import OperandCleanup.Json.Printer
import OperandCleanup.Text.Quoted

/-!
# JSON values in messages

A message that shows a whole value writes it on one line, its texts quoted as messages quote them
and the named values with a capital letter.
-/

namespace OperandCleanup.Json

/-- Numbers in messages are laid out as in JSON text, those that are not finite in lower case. -/
def literalFloatLayout : DecimalLayout := { floatLayout with infinity := "inf", nan := "nan" }

mutual
/-- A value as a message shows it. -/
def literal : Json → List Char
  | .null => "None".toList
  | .bool true => "True".toList
  | .bool false => "False".toList
  | .int value => writtenInt value
  | .float value => literalFloatLayout.render value
  | .string value => Text.quotedList value.toList
  | .array items => '[' :: (literalItems items ++ [']'])
  | .object members => '\x7b' :: (literalMembers members ++ ['\x7d'])

/-- Items with commas between them. -/
def literalItems : List Json → List Char
  | [] => []
  | [item] => literal item
  | item :: rest => literal item ++ (',' :: ' ' :: literalItems rest)

/-- Members with commas between them. -/
def literalMembers : List (String × Json) → List Char
  | [] => []
  | [(name, value)] => Text.quotedList name.toList ++ (':' :: ' ' :: literal value)
  | (name, value) :: rest =>
    Text.quotedList name.toList ++ (':' :: ' ' :: literal value) ++
      (',' :: ' ' :: literalMembers rest)
end

/-- A value as a part of a message: a text as it is, any other value as a message shows it. -/
def text : Json → String
  | .string value => value
  | value => String.ofList value.literal

end OperandCleanup.Json
