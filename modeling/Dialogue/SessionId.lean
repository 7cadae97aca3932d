/-!
# Session ids

A session is told from others by a universally unique id of 128 bits, kept here as
its 32 hexadecimal digits. It is written in lower case with hyphens
(`Dialogue.SessionId.text`), and read in any case, with or without hyphens, in braces
or with its URN prefix (`Dialogue.SessionId.read?`).
-/

namespace Dialogue

/-- A universally unique id: 32 hexadecimal digits. -/
structure SessionId where
  digits : List (Fin 16)
  length_digits : digits.length = 32
  deriving DecidableEq, Repr

namespace SessionId

/-- A hexadecimal digit in lower case. -/
def hexChar (d : Fin 16) : Char :=
  Nat.digitChar d

/-- The value of a hexadecimal digit in either case. -/
def hexValue? (c : Char) : Option (Fin 16) :=
  (List.finRange 16).find? fun d => hexChar d == c || (hexChar d).toUpper == c

/-- The lengths of the groups between hyphens. -/
def groupLengths : List Nat :=
  [8, 4, 4, 4, 12]

/-- Puts hyphens between groups of the given lengths. -/
def group : List Nat → List Char → List Char
  | [], cs => cs
  | [_], cs => cs
  | n :: lengths, cs => cs.take n ++ '-' :: group lengths (cs.drop n)

/-- Takes out the hyphens between groups of the given lengths; none if they are
elsewhere. -/
def ungroup? : List Nat → List Char → Option (List Char)
  | [], _ => none
  | [n], cs => if cs.length = n then some cs else none
  | n :: lengths, cs =>
    match cs.drop n with
    | '-' :: rest => (ungroup? lengths rest).map (cs.take n ++ ·)
    | _ => none

/-- The text of an id, in lower case with hyphens. -/
def text (id : SessionId) : String :=
  String.ofList (group groupLengths (id.digits.map hexChar))

/-- The digits of a text without braces and URN prefix. -/
def bareDigits? (cs : List Char) : Option (List Char) :=
  if cs.length = 32 then some cs else ungroup? groupLengths cs

/-- The prefix of an id written as a URN, in lower case; it may have any. -/
def urn : List Char :=
  ['u', 'r', 'n', ':', 'u', 'u', 'i', 'd', ':']

/-- The characters that hold the digits of an id: they stand alone, with or without
hyphens, or hyphenated between braces or after the URN prefix. -/
def written? (cs : List Char) : Option (List Char) :=
  match cs with
  | '\x7b' :: rest =>
    if rest.getLast? = some '\x7d' then ungroup? groupLengths rest.dropLast else none
  | cs =>
    if urn.isPrefixOf (cs.map Char.toLower) then ungroup? groupLengths (cs.drop urn.length) else bareDigits? cs

/-- The id with the given digits, if there are 32 of them. -/
def ofDigits? (digits : List (Fin 16)) : Option SessionId :=
  if h : digits.length = 32 then some ⟨digits, h⟩ else none

/-- Reads an id. -/
def read? (s : String) : Option SessionId := do
  let cs ← written? s.toList
  ofDigits? (← cs.mapM hexValue?)

/-- The last hexadecimal digit of a number. -/
def lastDigit (n : Nat) : Fin 16 :=
  ⟨n % 16, Nat.mod_lt n (by decide)⟩

/-- The digits of a byte. -/
def byteDigits (b : UInt8) : List (Fin 16) :=
  [lastDigit (b.toNat / 16), lastDigit b.toNat]

/-- The digit at a place of an id that is drawn at random: two places tell that it was,
one of them in two of its bits only. -/
def randomDigit (drawn : Fin 16) (place : Nat) : Fin 16 :=
  if place = 12 then lastDigit 4
  else if place = 16 then lastDigit (8 + drawn.val % 4)
  else drawn

/-- The id made of bytes drawn at random, if there are 16 of them. -/
def ofRandom? (bytes : List UInt8) : Option SessionId :=
  ofDigits? ((bytes.flatMap byteDigits).zipIdx.map fun (drawn, place) => randomDigit drawn place)

instance : Inhabited SessionId :=
  ⟨⟨List.replicate 32 (lastDigit 0), by simp⟩⟩

end SessionId

end Dialogue
