import Dialogue.Text.SpelledTable

/-!
# Quoted text

How a text is shown inside a message when its exact characters matter: between
double quotes, with quotes and backslashes escaped, the common controls by a
letter, and every other character that would not show by its code point, as in
`\u{301}`.
-/

namespace Dialogue

namespace Text

/-- The code point of `c` in braces, in lower-case hexadecimal digits without
leading zeros. -/
def spelled (c : Char) : List Char :=
  '\\' :: 'u' :: '\x7b' :: (Nat.toDigits 16 c.toNat ++ ['\x7d'])

/-- Whether `c` is shown by its code point: a control, or a character beyond ASCII
that has no shape of its own. -/
def isSpelled (c : Char) : Bool :=
  let n := c.toNat
  n < 0x20 || n == 0x7F || (0x80 ≤ n && spelledTable.contains n)

/-- One character as it stands between quotes. -/
def quotedChar (c : Char) : List Char :=
  match c with
  | '\x00' => ['\\', '0']
  | '\t' => ['\\', 't']
  | '\r' => ['\\', 'r']
  | '\n' => ['\\', 'n']
  | '\\' => ['\\', '\\']
  | '"' => ['\\', '"']
  | c => if isSpelled c then spelled c else [c]

/-- A text between quotes. -/
def quoted (s : String) : String :=
  String.ofList ('"' :: (s.toList.flatMap quotedChar ++ ['"']))

/-- An optional text: `None`, or the quoted text in `Some(…)`. -/
def quotedOption : Option String → String
  | none => "None"
  | some s => "Some(" ++ quoted s ++ ")"

end Text

end Dialogue
