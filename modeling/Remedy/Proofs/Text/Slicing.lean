import Mathlib.Data.String.Basic

/-!
# Slicing by bytes

A text is sliced at a byte, and that must be one at which a character begins or the text ends.
Anywhere else the slice is out of bounds.  A column is turned into such a byte by counting
characters, and a column behind the end of a line into the byte at which the line ends, so slices
at columns are always in bounds.
-/

namespace Remedy.Text

open String (utf8Len)

/--
What stands in front of a byte of a text and what stands from there on.  There is no such cut if
the byte lies inside a character or behind the end.
-/
def cutAt? : Nat → List Char → Option (List Char × List Char)
  | 0, text => some ([], text)
  | _ + 1, [] => none
  | index + 1, c :: rest =>
      if index + 1 < c.utf8Size then none
      else (cutAt? (index + 1 - c.utf8Size) rest).map fun cut => (c :: cut.1, cut.2)

/-- The bytes at which the characters of a text begin, if the text begins at byte `start`. -/
def charStarts (start : Nat) : List Char → List Nat
  | [] => []
  | c :: rest => start :: charStarts (start + c.utf8Size) rest

/-- The byte at which a column of a line begins; columns behind the end begin at the end. -/
def boundary (line : List Char) (col : Nat) : Nat :=
  (charStarts 0 line)[col]?.getD (utf8Len line)

theorem cutAt?_zero (text : List Char) : cutAt? 0 text = some ([], text) := by
  cases text <;> rfl

/-- A text can be cut behind any of its characters. -/
theorem cutAt?_append (front behind : List Char) :
    cutAt? (utf8Len front) (front ++ behind) = some (front, behind) := by
  induction front with
  | nil => exact cutAt?_zero behind
  | cons c rest ih =>
      have hsize := c.utf8Size_pos
      obtain ⟨index, hindex⟩ : ∃ index, utf8Len (c :: rest) = index + 1 :=
        Nat.exists_eq_add_one.mpr (Nat.add_pos_right _ hsize)
      have hbytes := String.utf8Len_cons c rest
      have hrest : index + 1 - c.utf8Size = utf8Len rest := by omega
      have hle : ¬index + 1 < c.utf8Size := by omega
      rw [hindex, List.cons_append, cutAt?, if_neg hle, hrest, ih]
      rfl

/-- A text can be cut nowhere else. -/
theorem cutAt?_eq_some_iff {index : Nat} {text front behind : List Char} :
    cutAt? index text = some (front, behind) ↔
      text = front ++ behind ∧ index = utf8Len front := by
  constructor
  · intro h
    induction text generalizing index front with
    | nil =>
        cases index with
        | zero =>
            cases h
            exact ⟨rfl, rfl⟩
        | succ index => cases h
    | cons c rest ih =>
        cases index with
        | zero =>
            cases h
            exact ⟨rfl, rfl⟩
        | succ index =>
            rw [cutAt?] at h
            split at h
            · cases h
            · rename_i hle
              obtain ⟨⟨more, later⟩, hcut, heq⟩ := Option.map_eq_some_iff.mp h
              cases heq
              obtain ⟨rfl, hindex⟩ := ih hcut
              refine ⟨rfl, ?_⟩
              rw [String.utf8Len_cons, ← hindex]
              omega
  · rintro ⟨rfl, rfl⟩
    exact cutAt?_append front behind

/-- The bytes at which characters begin are those behind the characters in front of them. -/
theorem getD_charStarts (start : Nat) (line : List Char) (col : Nat) :
    (charStarts start line)[col]?.getD (start + utf8Len line) =
      start + utf8Len (line.take col) := by
  induction line generalizing start col with
  | nil => simp [charStarts]
  | cons c rest ih =>
      cases col with
      | zero => rfl
      | succ col =>
          have hlater := ih (start + c.utf8Size) col
          rw [Nat.add_assoc, Nat.add_comm c.utf8Size, Nat.add_assoc,
            Nat.add_comm c.utf8Size] at hlater
          exact hlater

theorem boundary_eq (line : List Char) (col : Nat) :
    boundary line col = utf8Len (line.take col) := by
  have hstarts := getD_charStarts 0 line col
  rwa [Nat.zero_add, Nat.zero_add] at hstarts

/-- A line can be cut at every column. -/
theorem cutAt?_boundary (line : List Char) (col : Nat) :
    cutAt? (boundary line col) line = some (line.take col, line.drop col) := by
  have hcut := cutAt?_append (line.take col) (line.drop col)
  rwa [List.take_append_drop, ← boundary_eq] at hcut

end Remedy.Text
