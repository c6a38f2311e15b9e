import Remedy.Text.Lines

/-!
# Sets of characters

A set of characters is a list of ranges of code points, in ascending order and with gaps between
them.  Halves of surrogate pairs are code points of no character and may lie in a range.
-/

namespace Remedy.Unicode

/-- A set of characters. -/
structure CharSet where
  ranges : List (Nat × Nat)
deriving DecidableEq, Inhabited

/-- The number with hexadecimal digits in capital letters. -/
def readHex (digits : List Char) : Nat :=
  digits.foldl
    (fun n d => n * 16 + (if d.isDigit then d.toNat - '0'.toNat else d.toNat - 'A'.toNat + 10)) 0

namespace CharSet

/-- The largest code point. -/
def lastCode : Nat := 0x10FFFF

/-- The set without characters. -/
def empty : CharSet := ⟨[]⟩

/-- The code points from `first` to `last`. -/
def range (first last : Nat) : CharSet := ⟨[(first, last)]⟩

/-- The set of one character. -/
def single (c : Char) : CharSet := range c.toNat c.toNat

/-- All characters. -/
def full : CharSet := range 0 lastCode

/-- Joins ranges in ascending order that overlap or touch; `first` and `last` is the one begun. -/
def merge (first last : Nat) : List (Nat × Nat) → List (Nat × Nat)
  | [] => [(first, last)]
  | (a, b) :: rest =>
      if a ≤ last + 1 then merge first (max last b) rest
      else (first, last) :: merge a b rest

/-- The set of the code points in any of some ranges. -/
def ofRanges (ranges : List (Nat × Nat)) : CharSet :=
  match ranges.mergeSort fun a b => a.1 ≤ b.1 with
  | [] => empty
  | (a, b) :: rest => ⟨merge a b rest⟩

/-- The code points in either set. -/
def union (a b : CharSet) : CharSet :=
  if a.ranges = [] then b
  else if b.ranges = [] then a
  else ofRanges (a.ranges ++ b.ranges)

/-- The gaps between ranges, from the code point `next` on. -/
def gaps (next : Nat) : List (Nat × Nat) → List (Nat × Nat)
  | [] => if next ≤ lastCode then [(next, lastCode)] else []
  | (a, b) :: rest => if next < a then (next, a - 1) :: gaps (b + 1) rest else gaps (b + 1) rest

/-- The code points that are not in a set. -/
def complement (set : CharSet) : CharSet :=
  ⟨gaps 0 set.ranges⟩

/-- The code points in both sets. -/
def inter (a b : CharSet) : CharSet :=
  (a.complement.union b.complement).complement

/-- The code points in the first set but not in the second. -/
def diff (a b : CharSet) : CharSet :=
  (a.complement.union b).complement

/-- The code points in exactly one of two sets. -/
def symmDiff (a b : CharSet) : CharSet :=
  (a.diff b).union (b.diff a)

/-- Holds for the code points in a set. -/
def containsCode (set : CharSet) (code : Nat) : Bool :=
  search set.ranges
where
  search : List (Nat × Nat) → Bool
    | [] => false
    | (a, b) :: rest => if code < a then false else code ≤ b || search rest

/-- Holds for the characters in a set. -/
def contains (set : CharSet) (c : Char) : Bool :=
  set.containsCode c.toNat

/-- Reads ranges that are written in hexadecimal with blanks between them. -/
def ofText (text : String) : CharSet :=
  ⟨(Text.words text.toList).map fun range =>
    let ends := (Text.splitAt '-' range).map readHex
    (ends.headD 0, ends.getLastD 0)⟩

end CharSet

end Remedy.Unicode
