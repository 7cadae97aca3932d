import Dialogue.Number.Digits

/-!
# Decimal numerals

A decimal numeral is an optional sign, digits with an optional point among or
beside them, and an optional exponent. `Dialogue.Number.Decimal` keeps its exact
value, a significand times a power of ten, and `Dialogue.Number.Decimal.read?`
reads it from text.
-/

namespace Dialogue

namespace Number

/-- The exact value of a decimal numeral: the significand times ten to the
exponent, negated if the numeral has a minus sign. -/
structure Decimal where
  negative : Bool
  significand : Nat
  exponent : Int
  deriving DecidableEq, Repr

/-- An optional sign and what follows it; the flag says whether it is a minus. -/
def splitSign : List Char → Bool × List Char
  | '-' :: rest => (true, rest)
  | '+' :: rest => (false, rest)
  | cs => (false, cs)

/-- The leading digits and what follows them. -/
def splitDigits (cs : List Char) : List Char × List Char :=
  (cs.takeWhile Char.isDigit, cs.dropWhile Char.isDigit)

/-- The digits after a point and what follows them; no digits if no point is next. -/
def splitFraction : List Char → List Char × List Char
  | '.' :: rest => splitDigits rest
  | cs => ([], cs)

/-- The exponent that ends a numeral: nothing at all, or the letter `e` in either
case, an optional sign and at least one digit. -/
def exponent? : List Char → Option Int
  | [] => some 0
  | c :: rest =>
    if c = 'e' ∨ c = 'E' then
      let (negative, digits) := splitSign rest
      if digits.isEmpty || !digits.all Char.isDigit then
        none
      else if negative then
        some (-(valueOf digits : Int))
      else
        some (valueOf digits)
    else
      none

/-- Reads a whole text as a decimal numeral. At least one digit must stand before
the exponent, on either side of the point. -/
def Decimal.read? (cs : List Char) : Option Decimal :=
  let (negative, unsigned) := splitSign cs
  let (whole, afterWhole) := splitDigits unsigned
  let (fraction, afterFraction) := splitFraction afterWhole
  if whole.isEmpty && fraction.isEmpty then
    none
  else
    (exponent? afterFraction).map fun exponent =>
      ⟨negative, valueOf (whole ++ fraction), exponent - fraction.length⟩

end Number

end Dialogue
