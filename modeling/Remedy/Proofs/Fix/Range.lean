import Remedy.Proofs.Fix.Exactness

/-!
# Sums that leave the range of offsets

Locating a match moves its lines and columns, and each move may leave the range of offsets; so may
telling the number of a line that a text has not.  That depends on the numbers of the match.  To
record a fix takes sums as well, but those stay in the range as long as there is room for the texts
that have been made: no match reaches so far that its columns could not be taken away.
-/

namespace Remedy.Fix

open Outcome

namespace Drift

/-- Where a number comes to lie, as an integer. -/
def target (value : Nat) (offset : Int) : Int :=
  Offset.ofNat value - 1 + offset

/-- Holds if a number can be counted from zero and moved by an offset within the range. -/
def Movable (moved : Nat × Int) : Prop :=
  Offset.IsOffset (Offset.ofNat moved.1 - 1) ∧ Offset.IsOffset (target moved.1 moved.2)

instance (moved : Nat × Int) : Decidable (Movable moved) :=
  inferInstanceAs (Decidable (_ ∧ _))

theorem shift_of_movable {value : Nat} {offset : Int} (h : Movable (value, offset)) :
    shift value offset = .ok (target value offset) :=
  shift_eq_ok_iff.mpr ⟨h.1, h.2, rfl⟩

/-- A move that fails has left the range. -/
theorem eq_overflow_of_move {place offset : Int} {failure : Failure}
    (h : move place offset = .error failure) : failure = .overflow := by
  unfold move at h
  split at h
  · exact (Except.error.inj h).symm
  · split at h
    · exact (Except.error.inj h).symm
    · cases h

/-- A number that cannot be moved makes a sum overflow. -/
theorem shift_of_not_movable {value : Nat} {offset : Int} (h : ¬Movable (value, offset)) :
    shift value offset = .error .overflow := by
  cases hshift : shift value offset with
  | ok moved =>
      obtain ⟨hindex, hsum, -⟩ := shift_eq_ok_iff.mp hshift
      exact absurd ⟨hindex, hsum⟩ h
  | error failure => rw [eq_overflow_of_move hshift]

section Bind

variable {α : Type}

/-- Behind a number that can be moved it is for the rest to overflow. -/
theorem shift_bind_eq_overflow_iff {value : Nat} {offset : Int} {f : Int → Except Failure α} :
    (shift value offset >>= f) = .error .overflow ↔
      (Movable (value, offset) → f (target value offset) = .error .overflow) := by
  by_cases h : Movable (value, offset)
  · rw [shift_of_movable h, ok_bind, forall_prop_of_true h]
  · rw [shift_of_not_movable h, error_bind]
    exact iff_of_true rfl fun hmovable => absurd hmovable h

/-- A line above the file stops a computation, but not by an overflow. -/
theorem toLine_bind_eq_overflow_iff {line : Int} {f : Nat → Except Failure α} :
    (toLine line >>= f) = .error .overflow ↔ 0 ≤ line ∧ f line.toNat = .error .overflow := by
  unfold toLine
  split
  · exact iff_of_false (fun h => nomatch h) fun h => by omega
  · rw [ok_bind, and_iff_right (by omega)]

end Bind

/--
The numbers that locating a match moves, each with the offset for it.  The second line is looked at
if the first one does not lie above the file, and the columns if the lines are in order.
-/
def consulted (drift : Drift) (start stop : Position) : List (Nat × Int) :=
  (start.line, drift.lines) ::
    if target start.line drift.lines < 0 then []
    else (stop.line, drift.lines) ::
      if target stop.line drift.lines < target start.line drift.lines then []
      else [(start.col, drift.cols), (stop.col, drift.cols)]

/-- Locating a match overflows just if one of the numbers that are looked at cannot be moved. -/
theorem locate_eq_overflow_iff {drift : Drift} {start stop : Position} :
    drift.locate start stop = .error .overflow ↔
      ¬∀ moved ∈ drift.consulted start stop, Movable moved := by
  simp (disch := simp) only [locate, consulted, shift_bind_eq_overflow_iff,
    toLine_bind_eq_overflow_iff, throw_bind, pure_eq_ok, guard_eq_error_iff, List.forall_mem_cons,
    not_and]
  generalize target start.line drift.lines = first
  generalize target stop.line drift.lines = last
  refine imp_congr_right fun _ => ?_
  by_cases habove : first < 0
  · rw [if_pos habove]
    exact iff_of_false (fun h => by omega) (not_not_intro (List.forall_mem_nil _))
  · rw [if_neg habove, List.forall_mem_cons, not_and, and_iff_right (Int.not_lt.mp habove)]
    refine imp_congr_right fun _ => ?_
    by_cases hinverted : last < first
    · rw [if_pos hinverted]
      exact iff_of_false (fun h => by omega) (not_not_intro (List.forall_mem_nil _))
    · rw [if_neg hinverted, and_iff_right (by omega), and_iff_right (by omega),
        List.forall_mem_cons, not_and, List.forall_mem_singleton]
      refine imp_congr_right fun _ => ?_
      simp

end Drift

namespace Splice

/-- Lines are counted from one, so the last index of all has no number. -/
theorem noLine_eq_overflow_iff {index : Nat} (h : index < 2 ^ 63) (count : Nat) :
    noLine index count = .overflow ↔ index = 2 ^ 63 - 1 := by
  unfold noLine
  rw [Offset.ofNat_of_lt h]
  cases hnumber : Offset.add? (index : Int) 1 with
  | none =>
      have hout : ¬Offset.IsOffset ((index : Int) + 1) := by
        intro hoffset
        rw [Offset.add?_eq_some_iff.mpr ⟨hoffset, rfl⟩] at hnumber
        cases hnumber
      refine iff_of_true rfl ?_
      unfold Offset.IsOffset at hout
      omega
  | some number =>
      obtain ⟨hoffset, -⟩ := Offset.add?_eq_some_iff.mp hnumber
      refine iff_of_false (fun heq => nomatch heq) ?_
      unfold Offset.IsOffset at hoffset
      omega

theorem lineAt_eq_overflow_iff {lines : List (List Char)} {index : Nat} (h : index < 2 ^ 63) :
    lineAt lines index = .error .overflow ↔ lines.length ≤ index ∧ index = 2 ^ 63 - 1 := by
  unfold lineAt
  cases hline : lines[index]? with
  | some line =>
      obtain ⟨hlt, -⟩ := List.getElem?_eq_some_iff.mp hline
      exact iff_of_false (fun heq => nomatch heq) fun hmissing => by omega
  | none =>
      rw [Except.error.injEq, noLine_eq_overflow_iff h,
        and_iff_right (List.getElem?_eq_none_iff.mp hline)]

end Splice

namespace Directive

/-- The lines for which a directive asks, one after the other. -/
def asked (directive : Directive) (span : Span) : List Nat :=
  match directive with
  | .literal _ => [span.startLine, span.stopLine]
  | .substitution pattern _ _ => if (Pattern.compile? pattern).isSome then [span.startLine] else []

/-- The first line for which a directive asks and that a text of `count` lines has not. -/
def missing? (directive : Directive) (count : Nat) (span : Span) : Option Nat :=
  (directive.asked span).find? (count ≤ ·)

/-- A splice overflows just if the line that it misses is the last of all. -/
theorem splice_eq_overflow_iff {directive : Directive} {text : List Char} {span : Span}
    (hordered : span.startLine ≤ span.stopLine) (hstop : span.stopLine < 2 ^ 63) :
    directive.splice text span = .error .overflow ↔
      directive.missing? (Text.split text).length span = some (2 ^ 63 - 1) := by
  have hrange := Nat.lt_of_le_of_lt hordered hstop
  unfold missing? asked
  cases directive with
  | literal fix =>
      simp only [Directive.splice, Splice.literal, bind_eq_error_iff, pure_eq_ok,
        Splice.lineAt_eq_overflow_iff hstop, Splice.lineAt_eq_overflow_iff hrange,
        Splice.lineAt_eq_ok_iff, reduceCtorEq, and_false, exists_false, or_false]
      by_cases hstart : (Text.split text).length ≤ span.startLine
      · rw [List.find?_cons_of_pos (by simpa using hstart), List.getElem?_eq_none hstart]
        simp [hstart]
      · rw [List.find?_cons_of_neg (by simpa using hstart),
          List.getElem?_eq_getElem (Nat.lt_of_not_le hstart)]
        by_cases hlast : (Text.split text).length ≤ span.stopLine
        · rw [List.find?_cons_of_pos (by simpa using hlast)]
          simp [hstart, hlast]
        · rw [List.find?_cons_of_neg (by simpa using hlast)]
          simp [hstart, hlast]
  | substitution pattern template count =>
      unfold Directive.splice
      dsimp only
      cases Pattern.compile? pattern with
      | none => simp
      | some program =>
          simp only [Splice.substitution, bind_eq_error_iff, pure_eq_ok,
            Splice.lineAt_eq_overflow_iff hrange, reduceCtorEq, and_false,
            exists_false, or_false, Option.isSome_some, if_true]
          by_cases hstart : (Text.split text).length ≤ span.startLine
          · rw [List.find?_cons_of_pos (by simpa using hstart)]
            simp [hstart]
          · rw [List.find?_cons_of_neg (by simpa using hstart)]
            simp [hstart]

end Directive

namespace Drift

/--
A drift of no more than `reach` lines and columns.  Columns that a line never had can be taken away
from it, too, but no more of them than a match can span.
-/
structure Within (reach : Nat) (drift : Drift) : Prop where
  lines_ge : -(reach : Int) ≤ drift.lines
  lines_le : drift.lines ≤ reach
  cols_ge : -9223372036854775806 ≤ drift.cols
  cols_le : drift.cols ≤ reach

theorem within_ofLine (reach line : Nat) : Within reach (ofLine line) := by
  refine ⟨?_, ?_, ?_, ?_⟩ <;> simp [ofLine]

theorem Within.enterLine {reach : Nat} {drift : Drift} (h : Within reach drift) (line : Nat) :
    Within reach (drift.enterLine line) := by
  by_cases hline : drift.activeLine = line
  · rwa [enterLine_of_eq hline]
  · refine ⟨?_, ?_, ?_, ?_⟩
    · rw [lines_enterLine]
      exact h.lines_ge
    · rw [lines_enterLine]
      exact h.lines_le
    · rw [cols_enterLine_of_ne hline]
      decide
    · rw [cols_enterLine_of_ne hline]
      exact Int.natCast_nonneg reach

theorem Within.mono {reach more : Nat} {drift : Drift} (h : Within reach drift)
    (hle : reach ≤ more) : Within more drift := by
  obtain ⟨hge, hle, hcols, hcolsLe⟩ := h
  exact ⟨by omega, by omega, hcols, by omega⟩

/--
Recording a fix reaches further by no more than the lines and characters of the fix.  The columns
that it takes away end at that of the match, which has been moved by the drift: so the drift does
not get below the limit, however often that is done.
-/
theorem Within.exists_record? {reach more : Nat} {drift : Drift} (h : Within reach drift)
    {directive : Directive} {start stop : Position} {span : Span}
    (hlocates : drift.Locates start stop span) {delta : Int} (hdelta : -(more : Int) ≤ delta)
    (hdeltaLe : delta ≤ more) (hfix : ∀ fix, directive = .literal fix → fix.length ≤ more)
    (hroom : reach + more < 2 ^ 63) :
    ∃ after, directive.record? drift span delta = some after ∧ after.Within (reach + more) := by
  obtain ⟨hlinesGe, hlinesLe, hcolsGe, hcolsLe⟩ := h
  have hlines : Offset.IsOffset (drift.lines + delta) := by
    unfold Offset.IsOffset
    omega
  have hkept : Within (reach + more) { drift with lines := drift.lines + delta } :=
    ⟨by dsimp only; omega, by dsimp only; omega, hcolsGe, by dsimp only; omega⟩
  cases directive with
  | literal fix =>
      have hchars := hfix fix rfl
      by_cases hsingle : span.startLine = span.stopLine
      · -- the width is that of the part of the match behind the start of the line
        obtain ⟨-, hmoved, hstopCol⟩ := shift_eq_ok_iff.mp hlocates.stopCol
        have hcol := Offset.isOffset_ofNat stop.col
        generalize Offset.ofNat stop.col = col at hmoved hcol hstopCol
        unfold Offset.IsOffset at hmoved hcol
        have hwidth : span.width ≤ span.stopCol := Nat.sub_le _ _
        have hge : -9223372036854775806 ≤ drift.cols + ((fix.length : Int) - span.width) := by
          omega
        have hle : drift.cols + ((fix.length : Int) - span.width) ≤ (reach + more : Nat) := by
          omega
        have hsum : Offset.IsOffset (drift.cols + ((fix.length : Int) - span.width)) := by
          unfold Offset.IsOffset
          omega
        have hdifference : Offset.IsOffset ((fix.length : Int) - span.width) := by
          unfold Offset.IsOffset
          omega
        have hgained : gained span fix.length = fix.length - span.width := by
          rw [gained, Offset.ofNat_of_lt (by omega), Offset.ofNat_of_lt (by omega)]
        refine ⟨⟨drift.lines + delta, drift.cols + (fix.length - span.width), drift.activeLine⟩,
          Directive.record?_literal.mpr (recordLiteral_eq_ok_iff.mpr ⟨hlines, ?_⟩),
          ⟨hkept.lines_ge, hkept.lines_le, hge, hle⟩⟩
        rw [if_pos hsingle, hgained]
        exact ⟨hdifference, hsum, rfl⟩
      · refine ⟨_, Directive.record?_literal.mpr (recordLiteral_eq_ok_iff.mpr ⟨hlines, ?_⟩), hkept⟩
        rw [if_neg hsingle]
  | substitution pattern template count =>
      exact ⟨_, Directive.record?_substitution.mpr (recordLines_eq_ok_iff.mpr ⟨hlines, rfl⟩), hkept⟩

end Drift

end Remedy.Fix
