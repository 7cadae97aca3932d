import Dialogue.Json.Basic

/-!
# Writing JSON

The two texts of a JSON value: `Dialogue.Json.compact` without any blanks, and
`Dialogue.Json.pretty` with one item or field a line, indented by two blanks a
level. A string escapes only what JSON requires: the quote, the backslash and the
controls below U+0020.
-/

namespace Dialogue

namespace Json

/-- The two hexadecimal digits of a control below U+0020. -/
def controlDigits (c : Char) : List Char :=
  [Nat.digitChar (c.toNat / 16), Nat.digitChar (c.toNat % 16)]

/-- One character as it stands in a JSON string. -/
def escapedChar (c : Char) : List Char :=
  match c with
  | '"' => ['\\', '"']
  | '\\' => ['\\', '\\']
  | '\n' => ['\\', 'n']
  | '\r' => ['\\', 'r']
  | '\t' => ['\\', 't']
  | '\x08' => ['\\', 'b']
  | '\x0c' => ['\\', 'f']
  | c => if c.toNat < 0x20 then '\\' :: 'u' :: '0' :: '0' :: controlDigits c else [c]

/-- A string with its quotes. -/
def quotedString (s : String) : String :=
  String.ofList ('"' :: (s.toList.flatMap escapedChar ++ ['"']))

mutual

/-- The text of a value without blanks. -/
def compact : Json → String
  | .null => "null"
  | .bool true => "true"
  | .bool false => "false"
  | .int n => toString n
  | .decimal literal => literal
  | .str s => quotedString s
  | .arr items => "[" ++ compactItems items ++ "]"
  | .obj fields => "\x7b" ++ compactFields fields ++ "\x7d"

/-- The items of an array with commas between them. -/
def compactItems : List Json → String
  | [] => ""
  | [item] => compact item
  | item :: rest => compact item ++ "," ++ compactItems rest

/-- The fields of an object with commas between them. -/
def compactFields : List (String × Json) → String
  | [] => ""
  | [(key, value)] => quotedString key ++ ":" ++ compact value
  | (key, value) :: rest => quotedString key ++ ":" ++ compact value ++ "," ++ compactFields rest

end

/-- A new line at a level of indentation. -/
def newline (level : Nat) : String :=
  "\n" ++ String.ofList (List.replicate (2 * level) ' ')

mutual

/-- The text of a value that stands at a level of indentation. An array or an object
without content takes no lines of its own. -/
def prettyAt (level : Nat) : Json → String
  | .null => "null"
  | .bool true => "true"
  | .bool false => "false"
  | .int n => toString n
  | .decimal literal => literal
  | .str s => quotedString s
  | .arr [] => "[]"
  | .arr (item :: rest) =>
    "[" ++ newline (level + 1) ++ prettyAt (level + 1) item ++ prettyItems (level + 1) rest
      ++ newline level ++ "]"
  | .obj [] => "\x7b\x7d"
  | .obj ((key, value) :: rest) =>
    "\x7b" ++ newline (level + 1) ++ quotedString key ++ ": " ++ prettyAt (level + 1) value
      ++ prettyFields (level + 1) rest ++ newline level ++ "\x7d"

/-- The items of an array after its first. -/
def prettyItems (level : Nat) : List Json → String
  | [] => ""
  | item :: rest => "," ++ newline level ++ prettyAt level item ++ prettyItems level rest

/-- The fields of an object after its first. -/
def prettyFields (level : Nat) : List (String × Json) → String
  | [] => ""
  | (key, value) :: rest =>
    "," ++ newline level ++ quotedString key ++ ": " ++ prettyAt level value
      ++ prettyFields level rest

end

/-- The text of a value with one item or field a line. -/
def pretty (value : Json) : String :=
  prettyAt 0 value

end Json

end Dialogue
