/-!
# Searching and cutting text

Whether one text occurs inside another, and the pieces of a text between its
commas.
-/

namespace Dialogue

namespace Text

/-- Whether `part` occurs in a text, as consecutive characters. -/
def occursIn (part : List Char) : List Char → Bool
  | [] => part.isEmpty
  | c :: rest => part.isPrefixOf (c :: rest) || occursIn part rest

/-- The pieces of a text cut at every comma; a text with `n` commas has `n + 1`
pieces. -/
def pieces : List Char → List (List Char)
  | [] => [[]]
  | c :: rest =>
    if c = ',' then [] :: pieces rest
    else match pieces rest with
      | [] => [[c]]
      | piece :: others => (c :: piece) :: others

end Text

end Dialogue
