/-!
# Offsets

Places in a file and distances between them are signed words of 64 bits.  A number that is too
large for one wraps around when it becomes an offset; a sum that is too large is no offset.
-/

namespace Remedy.Offset

/-- The signed word with the bits of a number. -/
def ofNat (n : Nat) : Int :=
  Int.bmod n 18446744073709551616

/-- Holds for the integers that a signed word can be. -/
def IsOffset (i : Int) : Prop :=
  -9223372036854775808 ≤ i ∧ i < 9223372036854775808

instance (i : Int) : Decidable (IsOffset i) :=
  inferInstanceAs (Decidable (_ ∧ _))

/-- The sum, unless it is too large. -/
def add? (a b : Int) : Option Int :=
  if IsOffset (a + b) then some (a + b) else none

/-- The difference, unless it is too large. -/
def sub? (a b : Int) : Option Int :=
  if IsOffset (a - b) then some (a - b) else none

/-- Wrapping a number around always yields an offset. -/
theorem isOffset_ofNat (n : Nat) : IsOffset (ofNat n) := by
  unfold IsOffset ofNat
  rw [Int.bmod_def]
  omega

/-- Numbers below 2^63 stay what they are. -/
theorem ofNat_of_lt {n : Nat} (h : n < 9223372036854775808) : ofNat n = n := by
  unfold ofNat
  rw [Int.bmod_def]
  omega

/-- Wrapping around leads down. -/
theorem ofNat_le (n : Nat) : ofNat n ≤ n := by
  unfold ofNat
  rw [Int.bmod_def]
  omega

/-- The place in front of a number that was not wrapped around is a number again. -/
theorem ofNat_sub_one_eq_iff {n index : Nat} (h : n < 18446744073709551616) :
    ofNat n - 1 = index ↔ n = index + 1 ∧ n < 9223372036854775808 := by
  unfold ofNat
  rw [Int.bmod_def]
  omega

/-- A sum is an offset or there is none. -/
theorem add?_eq_some_iff {a b c : Int} : add? a b = some c ↔ IsOffset (a + b) ∧ c = a + b := by
  unfold add?
  split
  · rename_i hoffset
    exact ⟨fun h => ⟨hoffset, (Option.some.inj h).symm⟩, fun h => congrArg some h.2.symm⟩
  · rename_i hoffset
    exact ⟨fun h => (nomatch h), fun h => absurd h.1 hoffset⟩

/-- A difference is an offset or there is none. -/
theorem sub?_eq_some_iff {a b c : Int} : sub? a b = some c ↔ IsOffset (a - b) ∧ c = a - b := by
  unfold sub?
  split
  · rename_i hoffset
    exact ⟨fun h => ⟨hoffset, (Option.some.inj h).symm⟩, fun h => congrArg some h.2.symm⟩
  · rename_i hoffset
    exact ⟨fun h => (nomatch h), fun h => absurd h.1 hoffset⟩

end Remedy.Offset
