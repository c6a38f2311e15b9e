import Mathlib.Data.Char
import Remedy.Git.Pending
import Remedy.Proofs.Git.Parts

/-!
# Records

Git lists changes and pending files as records of one part or more.  The record of a change has a
code with a score behind it, and one path or two.  The line of a pending file has two states and a
path, and the part behind the line of a file that was moved is where the file comes from.  Records
are read as they were written, whatever their paths look like: which part is which is told by what
stands in front of it alone.
-/

namespace Remedy.Git

/-!
## Changes
-/

namespace Change

/-- A change as it is written.  The score behind its code tells how much two files are alike. -/
structure Record where
  change : Change
  score : List Char
deriving DecidableEq

/-- A code with one path behind it. -/
theorem ofParts_cons_of_one_path {c : Char} (hblank : Text.isBlank c = false)
    (hone : (ChangeCode.ofChar c).hasTwoPaths = false) (score : List Char) (path : Path)
    (rest : List (List Char)) :
    ofParts ((c :: score) :: path.text.toList :: rest) =
      ⟨.ofChar c, path, none⟩ :: ofParts rest := by
  rw [ofParts.eq_def]
  simp [hblank, hone]

/-- A code with two paths behind it. -/
theorem ofParts_cons_of_two_paths {c : Char} (hblank : Text.isBlank c = false)
    (htwo : (ChangeCode.ofChar c).hasTwoPaths = true) (score : List Char) (path target : Path)
    (rest : List (List Char)) :
    ofParts ((c :: score) :: path.text.toList :: target.text.toList :: rest) =
      ⟨.ofChar c, path, some target⟩ :: ofParts rest := by
  rw [ofParts.eq_def]
  simp [hblank, htwo]

namespace Record

/-- The paths of a record. -/
def paths (record : Record) : List Path :=
  record.change.path :: record.change.target?.toList

/-- The parts that a record is written as. -/
def parts (record : Record) : List (List Char) :=
  (record.change.code.toChar :: record.score) :: record.paths.map (·.text.toList)

/-- The text that git lists records in. -/
def listing (records : List Record) : List Char :=
  terminated (records.flatMap parts)

/-- A record can be written: its code can be seen, and it has two paths just if its code asks. -/
structure Writable (record : Record) : Prop where
  canonical : .ofChar record.change.code.toChar = record.change.code
  visible : Text.isBlank record.change.code.toChar = false
  free : '\x00' ∉ record.change.code.toChar :: record.score
  paths : ∀ path ∈ record.paths, IsPart path.text.toList
  target : record.change.target?.isSome = record.change.code.hasTwoPaths

instance (record : Record) : Decidable record.Writable :=
  decidable_of_iff
    (.ofChar record.change.code.toChar = record.change.code ∧
      Text.isBlank record.change.code.toChar = false ∧
      '\x00' ∉ record.change.code.toChar :: record.score ∧
      (∀ path ∈ record.paths, IsPart path.text.toList) ∧
      record.change.target?.isSome = record.change.code.hasTwoPaths)
    ⟨fun ⟨canonical, visible, free, paths, target⟩ => ⟨canonical, visible, free, paths, target⟩,
      fun h => ⟨h.canonical, h.visible, h.free, h.paths, h.target⟩⟩

theorem Writable.isPart {record : Record} (h : record.Writable) :
    ∀ piece ∈ record.parts, IsPart piece := by
  refine List.forall_mem_cons.mpr ⟨⟨List.cons_ne_nil _ _, h.free⟩, fun piece hpiece => ?_⟩
  obtain ⟨path, hpath, rfl⟩ := List.mem_map.mp hpiece
  exact h.paths path hpath

/-- The parts of a record are read as its change, and those behind them as what they are. -/
theorem Writable.ofParts_append {record : Record} (h : record.Writable)
    (rest : List (List Char)) :
    ofParts (record.parts ++ rest) = record.change :: ofParts rest := by
  obtain ⟨hcanonical, hvisible, -, -, htarget⟩ := h
  obtain ⟨⟨code, path, target?⟩, score⟩ := record
  dsimp only at hcanonical hvisible htarget
  cases target? with
  | none =>
      refine (ofParts_cons_of_one_path hvisible ?_ score path rest).trans ?_
      · rw [hcanonical, ← htarget]
        rfl
      · rw [hcanonical]
  | some target =>
      refine (ofParts_cons_of_two_paths hvisible ?_ score path target rest).trans ?_
      · rw [hcanonical, ← htarget]
        rfl
      · rw [hcanonical]

/-- Records one behind the other are read as their changes. -/
theorem ofParts_flatMap_parts {records : List Record}
    (h : ∀ record ∈ records, record.Writable) :
    ofParts (records.flatMap parts) = records.map Record.change := by
  induction records with
  | nil =>
      rw [List.flatMap_nil, ofParts.eq_def]
      rfl
  | cons record rest ih =>
      obtain ⟨hrecord, hrest⟩ := List.forall_mem_cons.mp h
      rw [List.flatMap_cons, hrecord.ofParts_append, ih hrest, List.map_cons]

/-- What is read from a list of records. -/
theorem parse_listing {records : List Record} (h : ∀ record ∈ records, record.Writable) :
    parse (String.ofList (listing records)) = records.map Record.change := by
  have hparts : ∀ piece ∈ records.flatMap parts, IsPart piece := by
    intro piece hpiece
    obtain ⟨record, hmem, hpiece⟩ := List.mem_flatMap.mp hpiece
    exact (h record hmem).isPart piece hpiece
  rw [parse, String.toList_ofList, listing, parts_terminated hparts, ofParts_flatMap_parts h]

end Record

end Change

/-!
## Pending files
-/

namespace Pending

/-- A pending file as it is written: its states in the index and in the working tree, its path,
and where it comes from if it was moved. -/
structure Line where
  x : Char
  y : Char
  path : Path
  origin? : Option Path
deriving DecidableEq

/-- Behind two states and a blank there is the path. -/
theorem pathOf_line {x y : Char} (hx : x.utf8Size = 1) (hy : y.utf8Size = 1) (path : Path) :
    pathOf (x :: y :: ' ' :: path.text.toList) = path := by
  have hblank : (' ' : Char).utf8Size = 1 := by decide
  have hzero : ∀ text, pathOf.skip 0 text = text := by
    intro text
    cases text <;> rfl
  simp [pathOf, pathOf.skip, hx, hy, hblank, hzero]

theorem entries_cons_of_not_isMove {x y : Char} (hmove : isMove x = false ∧ isMove y = false)
    (more : List Char) (rest : List (List Char)) :
    entries ((x :: y :: more) :: rest) = (x, pathOf (x :: y :: more)) :: entries rest := by
  rw [entries.eq_def]
  simp [hmove]

theorem entries_cons_of_isMove {x y : Char} (hmove : isMove x = true ∨ isMove y = true)
    (more origin : List Char) (rest : List (List Char)) :
    entries ((x :: y :: more) :: origin :: rest) =
      (x, pathOf (x :: y :: more)) :: entries rest := by
  rw [entries.eq_def]
  simp [hmove]

namespace Line

/-- The parts that a line is written as. -/
def parts (line : Line) : List (List Char) :=
  (line.x :: line.y :: ' ' :: line.path.text.toList) :: line.origin?.toList.map (·.text.toList)

/-- The state that a line is filed under, and its path. -/
def entry (line : Line) : Char × Path :=
  (line.x, line.path)

/-- The text that git lists lines in. -/
def listing (lines : List Line) : List Char :=
  terminated (lines.flatMap parts)

/-- A character for a state takes one byte and is not a NUL. -/
def IsState (c : Char) : Prop :=
  c ≠ '\x00' ∧ c.toNat < 128

instance (c : Char) : Decidable (IsState c) :=
  inferInstanceAs (Decidable (_ ∧ _))

/-- A line can be written: a file comes from another just if one of its states says so. -/
structure Writable (line : Line) : Prop where
  x : IsState line.x
  y : IsState line.y
  path : IsPart line.path.text.toList
  origin : ∀ origin ∈ line.origin?, IsPart origin.text.toList
  moves : line.origin?.isSome = (isMove line.x || isMove line.y)

instance (line : Line) : Decidable line.Writable :=
  decidable_of_iff
    (IsState line.x ∧ IsState line.y ∧ IsPart line.path.text.toList ∧
      (∀ origin ∈ line.origin?, IsPart origin.text.toList) ∧
      line.origin?.isSome = (isMove line.x || isMove line.y))
    ⟨fun ⟨x, y, path, origin, moves⟩ => ⟨x, y, path, origin, moves⟩,
      fun h => ⟨h.x, h.y, h.path, h.origin, h.moves⟩⟩

theorem IsState.utf8Size_eq {c : Char} (h : IsState c) : c.utf8Size = 1 :=
  Char.utf8Size_eq_one_iff.mpr (UInt32.le_iff_toNat_le.mpr (Nat.le_of_lt_succ h.2))

theorem Writable.isPart {line : Line} (h : line.Writable) :
    ∀ piece ∈ line.parts, IsPart piece := by
  refine List.forall_mem_cons.mpr ⟨⟨List.cons_ne_nil _ _, ?_⟩, fun piece hpiece => ?_⟩
  · simp [h.x.1.symm, h.y.1.symm, h.path.2]
  · obtain ⟨origin, horigin, rfl⟩ := List.mem_map.mp hpiece
    exact h.origin origin (Option.mem_toList.mp horigin)

/-- The parts of a line are read as its entry; where its file comes from is passed over. -/
theorem Writable.entries_append {line : Line} (h : line.Writable) (rest : List (List Char)) :
    entries (line.parts ++ rest) = line.entry :: entries rest := by
  have hpath := pathOf_line h.x.utf8Size_eq h.y.utf8Size_eq line.path
  have hmoves := h.moves
  obtain ⟨x, y, path, origin?⟩ := line
  dsimp only at hpath hmoves
  cases origin? with
  | none =>
      refine (entries_cons_of_not_isMove ?_ _ rest).trans (by rw [hpath]; rfl)
      exact Bool.or_eq_false_iff.mp hmoves.symm
  | some origin =>
      refine (entries_cons_of_isMove ?_ _ origin.text.toList rest).trans (by rw [hpath]; rfl)
      exact Bool.or_eq_true_iff.mp hmoves.symm

/-- Lines one behind the other are read as their entries. -/
theorem entries_flatMap_parts {lines : List Line} (h : ∀ line ∈ lines, line.Writable) :
    entries (lines.flatMap parts) = lines.map entry := by
  induction lines with
  | nil => rfl
  | cons line rest ih =>
      obtain ⟨hline, hrest⟩ := List.forall_mem_cons.mp h
      rw [List.flatMap_cons, hline.entries_append, ih hrest, List.map_cons]

/-- The entries that are read from a list of lines are theirs. -/
theorem entries_parts_listing {lines : List Line} (h : ∀ line ∈ lines, line.Writable) :
    entries (Git.parts (listing lines)) = lines.map entry := by
  have hparts : ∀ piece ∈ lines.flatMap parts, IsPart piece := by
    intro piece hpiece
    obtain ⟨line, hmem, hpiece⟩ := List.mem_flatMap.mp hpiece
    exact (h line hmem).isPart piece hpiece
  rw [listing, parts_terminated hparts, entries_flatMap_parts h]

end Line

end Pending

end Remedy.Git
