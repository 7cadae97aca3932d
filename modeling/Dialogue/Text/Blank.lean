/-!
# Blank characters and trimming

Which characters count as white space (`Dialogue.Text.isBlank`, the Unicode
property `White_Space`), and the text left when they are removed at both ends
(`Dialogue.Text.trim`).
-/

namespace Dialogue

namespace Text

/-- Whether `c` has the property `White_Space`. -/
def isBlank (c : Char) : Bool :=
  let n := c.toNat
  (9 ≤ n && n ≤ 13) || n == 0x20 || n == 0x85 || n == 0xA0 || n == 0x1680
    || (0x2000 ≤ n && n ≤ 0x200A) || n == 0x2028 || n == 0x2029 || n == 0x202F
    || n == 0x205F || n == 0x3000

/-- Characters without the blank ones at their end. -/
def trimEnd (cs : List Char) : List Char :=
  (cs.reverse.dropWhile isBlank).reverse

/-- Characters without the blank ones at either end. -/
def trimmed (cs : List Char) : List Char :=
  trimEnd (cs.dropWhile isBlank)

/-- A text without the white space at either end. -/
def trim (s : String) : String :=
  String.ofList (trimmed s.toList)

/-- The characters of a trimmed text are the trimmed characters. -/
@[simp]
theorem toList_trim (s : String) : (trim s).toList = trimmed s.toList :=
  String.toList_ofList

end Text

end Dialogue
