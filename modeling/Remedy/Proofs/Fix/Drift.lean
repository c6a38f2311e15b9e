import Mathlib.Algebra.Ring.Nat
import Remedy.Fix.Pass
import Remedy.Proofs.Outcome

/-!
# What drifts do to places

Locating a match is four shifts, each of which is exact unless a sum leaves the range of offsets;
recording a fix adds to the drift, again unless a sum leaves that range.  Numbers below 2^63 do
not wrap around, and for them the shifts are those of the integers.
-/

namespace Remedy.Fix

open Outcome

namespace Drift

/-- Moving a place yields the exact sum, and only if no part of it leaves the range. -/
theorem move_eq_ok_iff {place offset moved : Int} :
    move place offset = .ok moved ↔
      Offset.IsOffset (place - 1) ∧ Offset.IsOffset (place - 1 + offset) ∧
        moved = place - 1 + offset := by
  unfold move
  rw [Int.sub_eq_add_neg]
  cases hindex : Offset.add? place (-1) with
  | none =>
      constructor
      · intro h
        cases h
      · rintro ⟨hoffset, -⟩
        rw [Offset.add?_eq_some_iff.mpr ⟨hoffset, rfl⟩] at hindex
        cases hindex
  | some index =>
      obtain ⟨hoffset, rfl⟩ := Offset.add?_eq_some_iff.mp hindex
      cases hmoved : Offset.add? (place + -1) offset with
      | none =>
          simp only [hmoved]
          constructor
          · intro h
            cases h
          · rintro ⟨-, hsum, -⟩
            rw [Offset.add?_eq_some_iff.mpr ⟨hsum, rfl⟩] at hmoved
            cases hmoved
      | some sum =>
          obtain ⟨hsum, rfl⟩ := Offset.add?_eq_some_iff.mp hmoved
          simp only [hmoved, Except.ok.injEq]
          exact ⟨fun h => ⟨hoffset, hsum, h.symm⟩, fun h => h.2.2.symm⟩

/-- A shift moves the number as it wraps around. -/
theorem shift_eq_ok_iff {value : Nat} {offset moved : Int} :
    shift value offset = .ok moved ↔
      Offset.IsOffset (Offset.ofNat value - 1) ∧
        Offset.IsOffset (Offset.ofNat value - 1 + offset) ∧
        moved = Offset.ofNat value - 1 + offset :=
  move_eq_ok_iff

/-- A number below 2^63 is shifted as an integer. -/
theorem shift_eq_ok_iff_of_lt {value : Nat} {offset moved : Int} (hvalue : value < 2 ^ 63) :
    shift value offset = .ok moved ↔
      Offset.IsOffset (value - 1 + offset) ∧ moved = value - 1 + offset := by
  rw [shift_eq_ok_iff, Offset.ofNat_of_lt hvalue]
  refine ⟨fun h => h.2, fun h => ⟨?_, h⟩⟩
  unfold Offset.IsOffset
  omega

theorem toLine_eq_ok_iff {line : Int} {index : Nat} : toLine line = .ok index ↔ line = index := by
  unfold toLine
  rw [guard_eq_ok_iff, Except.ok.injEq]
  omega

/-- What it means that a match is found on a span of the file as it is now. -/
structure Locates (drift : Drift) (start stop : Position) (span : Span) : Prop where
  startLine : shift start.line drift.lines = .ok span.startLine
  stopLine : shift stop.line drift.lines = .ok span.stopLine
  ordered : span.startLine ≤ span.stopLine
  startCol : shift start.col drift.cols = .ok span.startCol
  stopCol : shift stop.col drift.cols = .ok span.stopCol

/-- A match is located exactly where the four shifts lead. -/
theorem locate_eq_ok_iff {drift : Drift} {start stop : Position} {span : Span} :
    drift.locate start stop = .ok span ↔ drift.Locates start stop span := by
  unfold locate
  simp only [bind_eq_ok_iff, throw_bind, pure_eq_ok, guard_eq_ok_iff, toLine_eq_ok_iff]
  constructor
  · rintro ⟨_, hfirst, startLine, rfl, _, hlast, stopLine, rfl, hordered, startCol, hcol,
      stopCol, hend, hstart, hstop, hspan⟩
    obtain rfl := Except.ok.inj hspan
    refine ⟨hfirst, hlast, Nat.le_of_not_lt hordered, ?_, ?_⟩
    · rw [hcol, Int.toNat_of_nonneg (Int.not_lt.mp hstart)]
    · rw [hend, Int.toNat_of_nonneg (Int.not_lt.mp hstop)]
  · rintro ⟨hfirst, hlast, hordered, hcol, hend⟩
    exact ⟨_, hfirst, _, rfl, _, hlast, _, rfl, Nat.not_lt.mpr hordered, _, hcol, _, hend,
      by omega, by omega, rfl⟩

/-- A drift that has been entered keeps its lines. -/
@[simp] theorem lines_enterLine (drift : Drift) (line : Nat) :
    (drift.enterLine line).lines = drift.lines := by
  unfold enterLine
  split <;> rfl

/-- Entering a line makes it the active one. -/
@[simp] theorem activeLine_enterLine (drift : Drift) (line : Nat) :
    (drift.enterLine line).activeLine = line := by
  unfold enterLine
  split
  · assumption
  · rfl

/-- Columns do not count on a line that is new. -/
theorem cols_enterLine_of_ne {drift : Drift} {line : Nat} (h : drift.activeLine ≠ line) :
    (drift.enterLine line).cols = 0 := by
  rw [enterLine, if_neg h]

theorem enterLine_of_eq {drift : Drift} {line : Nat} (h : drift.activeLine = line) :
    drift.enterLine line = drift := by
  rw [enterLine, if_pos h]

/-- It does not matter on which line a drift of nothing began. -/
theorem enterLine_ofLine (first line : Nat) : (ofLine first).enterLine line = ofLine line := by
  unfold enterLine ofLine
  split
  · rename_i heq
    exact congrArg (Drift.mk 0 0) heq
  · rfl

theorem recordLines_eq_ok_iff {drift after : Drift} {delta : Int} :
    drift.recordLines delta = .ok after ↔
      Offset.IsOffset (drift.lines + delta) ∧
        after = { drift with lines := drift.lines + delta } := by
  unfold recordLines
  cases hsum : Offset.add? drift.lines delta with
  | none =>
      constructor
      · intro h
        cases h
      · rintro ⟨hoffset, -⟩
        rw [Offset.add?_eq_some_iff.mpr ⟨hoffset, rfl⟩] at hsum
        cases hsum
  | some sum =>
      obtain ⟨hoffset, rfl⟩ := Offset.add?_eq_some_iff.mp hsum
      simp only [Except.ok.injEq]
      exact ⟨fun h => ⟨hoffset, h.symm⟩, fun h => h.2.symm⟩

/-- Columns are recorded exactly, and only if no sum leaves the range of offsets. -/
theorem recordCols_eq_ok_iff {drift after : Drift} {chars width : Int} :
    drift.recordCols chars width = .ok after ↔
      Offset.IsOffset (chars - width) ∧ Offset.IsOffset (drift.cols + (chars - width)) ∧
        after = { drift with cols := drift.cols + (chars - width) } := by
  unfold recordCols
  cases hgained : Offset.sub? chars width with
  | none =>
      constructor
      · intro h
        cases h
      · rintro ⟨hoffset, -⟩
        rw [Offset.sub?_eq_some_iff.mpr ⟨hoffset, rfl⟩] at hgained
        cases hgained
  | some gained =>
      obtain ⟨hoffset, rfl⟩ := Offset.sub?_eq_some_iff.mp hgained
      cases hsum : Offset.add? drift.cols (chars - width) with
      | none =>
          simp only [hsum]
          constructor
          · intro h
            cases h
          · rintro ⟨-, hcols, -⟩
            rw [Offset.add?_eq_some_iff.mpr ⟨hcols, rfl⟩] at hsum
            cases hsum
      | some cols =>
          obtain ⟨hcols, rfl⟩ := Offset.add?_eq_some_iff.mp hsum
          simp only [hsum, Except.ok.injEq]
          exact ⟨fun h => ⟨hoffset, hcols, h.symm⟩, fun h => h.2.2.symm⟩

/-- The columns that a text of `chars` characters gains a line when it takes a span's place. -/
def gained (span : Span) (chars : Nat) : Int :=
  Offset.ofNat chars - Offset.ofNat span.width

/-- A literal fix adds to the lines, and on a single line to the columns. -/
theorem recordLiteral_eq_ok_iff {drift after : Drift} {span : Span} {delta : Int} {chars : Nat} :
    drift.recordLiteral span delta chars = .ok after ↔
      Offset.IsOffset (drift.lines + delta) ∧
        if span.startLine = span.stopLine then
          Offset.IsOffset (gained span chars) ∧
            Offset.IsOffset (drift.cols + gained span chars) ∧
            after = ⟨drift.lines + delta, drift.cols + gained span chars, drift.activeLine⟩
        else after = { drift with lines := drift.lines + delta } := by
  unfold recordLiteral
  simp only [bind_eq_ok_iff, recordLines_eq_ok_iff, Span.isSingleLine, beq_iff_eq]
  constructor
  · rintro ⟨_, ⟨hlines, rfl⟩, h⟩
    refine ⟨hlines, ?_⟩
    split at h
    · rename_i hsingle
      rw [if_pos hsingle]
      exact recordCols_eq_ok_iff.mp h
    · rename_i hsingle
      rw [if_neg hsingle]
      exact (Except.ok.inj h).symm
  · rintro ⟨hlines, h⟩
    refine ⟨_, ⟨hlines, rfl⟩, ?_⟩
    split at h
    · rename_i hsingle
      rw [if_pos hsingle]
      exact recordCols_eq_ok_iff.mpr h
    · rename_i hsingle
      rw [if_neg hsingle, h]

end Drift

namespace Directive

theorem record?_literal {fix : List Char} {drift after : Drift} {span : Span} {delta : Int} :
    (literal fix).record? drift span delta = some after ↔
      drift.recordLiteral span delta fix.length = .ok after :=
  toOption_eq_some_iff

theorem record?_substitution {pattern template : List Char} {count : Nat} {drift after : Drift}
    {span : Span} {delta : Int} :
    (substitution pattern template count).record? drift span delta = some after ↔
      drift.recordLines delta = .ok after :=
  toOption_eq_some_iff

/-- Recording a fix adds the lines that it gave the file, which must remain an offset. -/
theorem lines_of_record? {directive : Directive} {drift after : Drift} {span : Span}
    {delta : Int} (h : directive.record? drift span delta = some after) :
    Offset.IsOffset (drift.lines + delta) ∧ after.lines = drift.lines + delta ∧
      after.activeLine = drift.activeLine := by
  cases directive with
  | literal fix =>
      obtain ⟨hlines, hafter⟩ := Drift.recordLiteral_eq_ok_iff.mp (record?_literal.mp h)
      split at hafter
      · rw [hafter.2.2]
        exact ⟨hlines, rfl, rfl⟩
      · rw [hafter]
        exact ⟨hlines, rfl, rfl⟩
  | substitution pattern template count =>
      obtain ⟨hlines, rfl⟩ := Drift.recordLines_eq_ok_iff.mp (record?_substitution.mp h)
      exact ⟨hlines, rfl, rfl⟩

end Directive

end Remedy.Fix
