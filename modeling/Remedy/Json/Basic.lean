import Remedy.Decimal.Shortest

/-!
# JSON values

A number is an integer of 64 bits, with or without a sign, or a double.  A double is kept as its
bits, so that two values are equal exactly if they are written alike.  The fields of an object
are a list; `Json.sortFields` gives it the order of the keys, a later field replacing an earlier
one of its key.
-/

namespace Remedy

namespace Json

/-- A number. -/
inductive Number where
  /-- An integer from 0 to 2^64 - 1. -/
  | natural (value : Nat)
  /-- The integer `-value`, down to -2^63. -/
  | negative (value : Nat)
  /-- A double, by its bits. -/
  | double (bits : UInt64)
deriving DecidableEq

end Json

/-- A JSON value. -/
inductive Json where
  | null
  | bool (value : Bool)
  | number (value : Json.Number)
  | string (value : String)
  | array (items : List Json)
  | object (fields : List (String × Json))
deriving Inhabited, BEq

namespace Json

/-- Puts a field at its place among fields that are ordered by their keys. -/
def insertField (key : String) (value : Json) : List (String × Json) → List (String × Json)
  | [] => [(key, value)]
  | (k, v) :: rest =>
      match compare key k with
      | .lt => (key, value) :: (k, v) :: rest
      | .eq => (key, value) :: rest
      | .gt => (k, v) :: insertField key value rest

/-- Orders fields by their keys; of two fields with one key the later stays. -/
def sortFields (fields : List (String × Json)) : List (String × Json) :=
  fields.foldl (fun sorted (key, value) => insertField key value sorted) []

/-- The value of a field of an object. -/
def field? (key : String) : Json → Option Json
  | .object fields => fields.lookup key
  | _ => none

/-- Doubles are written in full from 0.00001 up to 9999999999999999. -/
def doubleLayout : Decimal.Layout := ⟨-5, 15⟩

/-- The text of a number. -/
def Number.write : Number → List Char
  | .natural value => Nat.toDigits 10 value
  | .negative value => '-' :: Nat.toDigits 10 value
  | .double bits =>
      let sign := if bits.toNat < Nat.pow 2 63 then [] else ['-']
      match Decimal.Binary.ofBits? bits with
      | some value => sign ++ doubleLayout.write value.shortest
      | none => ['n', 'u', 'l', 'l']

end Json

end Remedy
