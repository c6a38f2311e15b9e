/-!
# Numerals

A numeral is a run of digits, in front of which a plus sign may stand.  It stands for a number
that fits into 64 bits; a numeral for a larger number stands for nothing.
-/

namespace Remedy.Decimal

/-- The largest number that a numeral can stand for. -/
def largest : Nat := UInt64.size - 1

/-- The number that digits stand for. -/
def valueOf (digits : List Char) : Nat :=
  digits.foldl (fun n d => 10 * n + (d.toNat - '0'.toNat)) 0

/-- The number that a text stands for. -/
def read? (text : List Char) : Option Nat :=
  let digits :=
    match text with
    | '+' :: rest => rest
    | _ => text
  if digits ≠ [] ∧ digits.all Char.isDigit ∧ valueOf digits ≤ largest then
    some (valueOf digits)
  else
    none

end Remedy.Decimal
