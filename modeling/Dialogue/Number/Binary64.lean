import Dialogue.Number.Decimal

/-!
# Rounding to double precision

Numbers are compared in double precision. A finite double is a whole multiple of
`2 ^ -1074`, so it is represented here by that whole number: comparing doubles is
comparing integers, and rounding is exact arithmetic.
`Dialogue.Number.nearest` rounds a quotient to 53 significant bits, a tie going to
the even neighbour, and `Dialogue.Number.Decimal.toDouble?` rounds the value of a
numeral; a numeral too large for a finite double has no value.
-/

namespace Dialogue

namespace Number

/-- The whole number nearest to `num / den`, of two equally near ones the even. -/
def roundHalfEven (num den : Nat) : Nat :=
  let below := num / den
  let rest := num % den
  if 2 * rest < den then below
  else if den < 2 * rest then below + 1
  else if below % 2 = 0 then below
  else below + 1

/-- The distance between neighbouring doubles just above the whole number `n`, both
counted in the same unit: one up to 53 bits, and doubled by every further bit. -/
def spacing (n : Nat) : Nat :=
  Nat.pow 2 (n.log2 - 52)

/-- The quotient `num / den` rounded to 53 significant bits, or to a whole number if
it is smaller than that. -/
def nearest (num den : Nat) : Nat :=
  let unit := spacing (num / den)
  roundHalfEven num (den * unit) * unit

/-- The number of units of `2 ^ -1074` in one. -/
def unitsPerOne : Nat :=
  Nat.pow 2 1074

/-- The first power of two beyond the doubles, in units of `2 ^ -1074`. -/
def overflowBound : Nat :=
  Nat.pow 2 (1024 + 1074)

/-- The double nearest to `significand * 10 ^ exponent`, in units of `2 ^ -1074`;
none if it is not finite. A value from `10 ^ 309` on overflows and one below
`10 ^ -324` rounds to zero whatever its digits, so only moderate powers of ten are
ever computed. -/
def magnitude? (significand : Nat) (exponent : Int) : Option Nat :=
  let size := (Nat.toDigits 10 significand).length + exponent
  if significand = 0 ∨ size ≤ -324 then
    some 0
  else if 310 ≤ size then
    none
  else
    let units := nearest (significand * Nat.pow 10 exponent.toNat * unitsPerOne)
      (Nat.pow 10 (-exponent).toNat)
    if units < overflowBound then some units else none

/-- The double nearest to the value of a numeral, in units of `2 ^ -1074`; none if it
is not finite. -/
def Decimal.toDouble? (d : Decimal) : Option Int :=
  (magnitude? d.significand d.exponent).map fun units =>
    if d.negative then -(units : Int) else units

end Number

end Dialogue
