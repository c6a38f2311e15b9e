/-!
# Hexadecimal text

Bytes and words as digits, two for each byte, in small letters.
-/

namespace Remedy.Text.Hex

/-- The digit for a number below sixteen. -/
def digit (n : Nat) : Char :=
  if n < 10 then Char.ofNat ('0'.toNat + n) else Char.ofNat ('a'.toNat + (n - 10))

/-- The number that a digit stands for. -/
def value? (c : Char) : Option Nat :=
  if c.isDigit then some (c.toNat - '0'.toNat)
  else if 'a' ≤ c ∧ c ≤ 'f' then some (c.toNat - 'a'.toNat + 10)
  else if 'A' ≤ c ∧ c ≤ 'F' then some (c.toNat - 'A'.toNat + 10)
  else none

/-- The digits of a byte. -/
def ofByte (byte : UInt8) : List Char :=
  [digit (byte.toNat / 16), digit (byte.toNat % 16)]

/-- The digits of some bytes. -/
def ofBytes (bytes : List UInt8) : String :=
  String.ofList (bytes.flatMap ofByte)

/-- The sixteen digits of a word. -/
def ofWord (word : UInt64) : String :=
  String.ofList <| (List.range 16).map fun i => digit (word.toNat / Nat.pow 16 (15 - i) % 16)

/-- The bytes that digits stand for. -/
def bytes? : List Char → Option (List UInt8)
  | [] => some []
  | [_] => none
  | high :: low :: rest => do
      let byte := UInt8.ofNat (16 * (← value? high) + (← value? low))
      return byte :: (← bytes? rest)

/-- The word that digits stand for. -/
def word? (text : String) : Option UInt64 := do
  let digits ← text.toList.mapM value?
  return UInt64.ofNat (digits.foldl (fun n d => 16 * n + d) 0)

end Remedy.Text.Hex
