import Dialogue.Text.CaseTable

/-!
# Lower-casing

The full lower-casing of Unicode text. All characters but two are replaced on
their own, by `Dialogue.Text.lowerChar`. The capital `İ` becomes two characters.
The capital `Σ` looks at its neighbours (`Dialogue.Text.endsWord`): it becomes `ς`
at the end of a word and `σ` elsewhere, so lower-casing a text is in general not
the same as lower-casing its parts.
-/

namespace Dialogue

namespace Text

/-- The small letter of a character, where that is a single character which does
not depend on its neighbours; any other character is returned as it is. -/
def lowerChar (c : Char) : Char :=
  if c.toNat < 0x80 then
    if 'A' ≤ c && c ≤ 'Z' then Char.ofNat (c.toNat + 32) else c
  else
    match caseRuns.findSome? (·.lower? c.toNat) with
    | some n => Char.ofNat n
    | none => c

/-- Whether the first character that is not passed over is a cased letter. -/
def meetsCased (cs : List Char) : Bool :=
  match cs.dropWhile isCaseIgnorable with
  | [] => false
  | c :: _ => isCased c

/-- Whether a sigma ends its word: a letter stands `before` it, read backwards, and
none stands `after` it. -/
def endsWord (before after : List Char) : Bool :=
  meetsCased before && !meetsCased after

/-- Lower-casing of a text of which the part `before`, read backwards, is already
done. -/
def lowerAfter (before : List Char) : List Char → List Char
  | [] => []
  | c :: rest =>
    (if c = 'Σ' then [if endsWord before rest then 'ς' else 'σ']
      else if c = 'İ' then ['i', '\u0307']
      else [lowerChar c]) ++ lowerAfter (c :: before) rest

/-- The characters of a text in lower case. -/
def lowered (cs : List Char) : List Char :=
  lowerAfter [] cs

/-- A text in lower case. -/
def lowercase (s : String) : String :=
  String.ofList (lowered s.toList)

/-- The characters of a lower-cased text are the lower-cased characters. -/
@[simp]
theorem toList_lowercase (s : String) : (lowercase s).toList = lowered s.toList :=
  String.toList_ofList

end Text

end Dialogue
