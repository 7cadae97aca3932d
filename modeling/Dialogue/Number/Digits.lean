/-!
# Runs of decimal digits

The number a run of decimal digits stands for (`Dialogue.Number.valueOf`), and the
whole numbers that a setting or an answer may be written as
(`Dialogue.Number.count?`).
-/

namespace Dialogue

namespace Number

/-- The value of a decimal digit. -/
def digitValue (c : Char) : Nat :=
  c.toNat - '0'.toNat

/-- The number a run of digits stands for, its first digit being the highest. -/
def valueOf (digits : List Char) : Nat :=
  digits.foldl (fun n c => 10 * n + digitValue c) 0

/-- The largest whole number that is read as a count. -/
def countLimit : Nat :=
  UInt64.size - 1

/-- A whole number without blanks: an optional plus sign and at least one digit,
standing for at most `Dialogue.Number.countLimit`. -/
def count? (cs : List Char) : Option Nat :=
  let digits := match cs with
    | '+' :: rest => rest
    | _ => cs
  if digits.isEmpty || !digits.all Char.isDigit then
    none
  else if valueOf digits ≤ countLimit then
    some (valueOf digits)
  else
    none

end Number

end Dialogue
