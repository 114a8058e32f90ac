import RecordSchema.Json.Basic
import RecordSchema.Text.Hex

namespace RecordSchema

/-!
# Writing JSON text

Values are written without spaces.  Inside a string a quote, a backslash and
the control characters below the space are escaped and nothing else.
-/

namespace Json

/-- A character as it stands inside a string. -/
def escapeCharacter (character : Char) : List Char :=
  if character = '"' then ['\\', '"']
  else if character = '\\' then ['\\', '\\']
  else if character = '\n' then ['\\', 'n']
  else if character = '\r' then ['\\', 'r']
  else if character = '\t' then ['\\', 't']
  else if character = '\x08' then ['\\', 'b']
  else if character = '\x0c' then ['\\', 'f']
  else if character.toNat < 0x20 then Text.unicodeEscape character
  else [character]

/-- A string between quotes. -/
def quote (text : String) : String :=
  String.ofList ('"' :: (text.toList.flatMap escapeCharacter ++ ['"']))

mutual

/-- The text of a value. -/
def render : Json → String
  | .null => "null"
  | .bool value => if value then "true" else "false"
  | .number value => value.toText
  | .string value => quote value
  | .array items => "[" ++ renderItems items ++ "]"
  | .object members => "\x7b" ++ renderMembers members ++ "\x7d"

/-- The texts of items with commas between them. -/
def renderItems : List Json → String
  | [] => ""
  | [item] => render item
  | item :: next :: items => render item ++ "," ++ renderItems (next :: items)

/-- The texts of members with commas between them. -/
def renderMembers : List (String × Json) → String
  | [] => ""
  | [(key, value)] => quote key ++ ":" ++ render value
  | (key, value) :: next :: members =>
      quote key ++ ":" ++ render value ++ "," ++ renderMembers (next :: members)

end

end Json

end RecordSchema
