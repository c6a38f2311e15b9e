import Remedy.Proofs.Fix.Strands
import Remedy.Proofs.Fix.Stretch

/-!
# Two fixes, the second on the line on which the first ends

What stands behind a literal fix moves with the end of its text: on the line on which the stretch
ended it moves to the place at which the text ends, further down it moves by lines only.  What
stands in front of it does not move.  The drift knows this much of it: the lines, always; of the
columns a single number for all places of a match that begins on the line of the fix.
-/

namespace Remedy

namespace Fix

open Outcome

namespace Patch

variable {patch : Patch Char} {text : List Char}

/-- Where the block of a patch ends in the text into which it was put. -/
def blockEnd (patch : Patch Char) (text : List Char) : Text.Place :=
  Text.placeOf text patch.start + Text.endOf patch.block

/-- Places behind a patch lie as far behind its block as they lay behind its stretch. -/
theorem placeOf_weave (hpatch : patch.Fits text) (more : Nat) :
    Text.placeOf (weave text 0 [patch]) (patch.start + patch.block.length + more) =
      patch.blockEnd text + Text.placeOf (text.drop patch.stop) more := by
  rw [Text.placeOf, take_weave hpatch, Text.endOf_append, Text.endOf_append]
  rfl

/-- Places in front of a patch stay. -/
theorem placeOf_weave_of_le (hpatch : patch.Fits text) {index : Nat}
    (hindex : index ≤ patch.start) :
    Text.placeOf (weave text 0 [patch]) index = Text.placeOf text index := by
  rw [Text.placeOf, take_weave_of_le hpatch hindex, Text.placeOf]

/-- The lines from the end of the block on. -/
theorem lineOf_weave (patch : Patch Char) (text : List Char) (index : Nat) :
    Text.lineOf (weave text 0 [patch]) ((patch.blockEnd text).line + index) =
      if index = 0 then Text.lastLine (text.take patch.start ++ patch.block) ++
        Text.lineOf (text.drop patch.stop) 0
      else Text.lineOf (text.drop patch.stop) index := by
  rw [weave_singleton, ← Text.lineOf_append, Text.endOf_append]
  rfl

/-- The lines further down are those behind the stretch. -/
theorem lineOf_weave_of_pos (patch : Patch Char) (text : List Char) {index : Nat}
    (hindex : 0 < index) :
    Text.lineOf (weave text 0 [patch]) ((patch.blockEnd text).line + index) =
      Text.lineOf text ((Text.placeOf text patch.stop).line + index) := by
  have hne : index ≠ 0 := by omega
  rw [lineOf_weave, Text.lineOf_placeOf_add, if_neg hne, if_neg hne]

theorem length_split_weave (patch : Patch Char) (text : List Char) :
    (Text.split (weave text 0 [patch])).length =
      (patch.blockEnd text).line + (Text.split (text.drop patch.stop)).length := by
  rw [weave_singleton, Text.length_split_append, Text.endOf_append]
  rfl

end Patch

/-- The draft of a text into which a literal fix was put first of all. -/
def Draft.ofFix (text fix : List Char) (finding : Finding) : Draft :=
  ⟨Patch.weave text 0 [finding.patch text fix],
    (Drift.ofLine finding.start.line).behind finding.span fix⟩

/-- Behind a first fix, matches are located with the lines that it has made. -/
@[simp] theorem Draft.lines_aim_ofFix (text fix : List Char) (finding : Finding) (job : Job) :
    ((Draft.ofFix text fix finding).aim job).lines = finding.span.growth fix := by
  rw [lines_aim]
  exact Int.zero_add _

/-- The line on which the text of a fix ends has no break. -/
theorem free_of_mem_lineOf_blockEnd {finding : Finding} {text fix : List Char}
    (h : finding.Replaces text fix) :
    ∀ c ∈ Text.lineOf (Patch.weave text 0 [finding.patch text fix])
      ((finding.patch text fix).blockEnd text).line, Text.isBreak c = false := by
  have hline := Patch.lineOf_weave (finding.patch text fix) text 0
  have hfirst := Text.lineOf_placeOf_add text (finding.patch text fix).start 0
  have hlast := Text.lineOf_placeOf_add text (finding.patch text fix).stop 0
  rw [Nat.add_zero, if_pos rfl] at hline hfirst hlast
  rw [h.placeOf_start] at hfirst
  rw [h.placeOf_stop] at hlast
  intro c hc
  rw [hline] at hc
  rcases List.mem_append.mp hc with hfront | hbehind
  · rcases Text.mem_lastLine_append hfront with hkept | hfix
    · exact h.first_free c (by rw [hfirst]; exact List.mem_append_left _ hkept)
    · -- The fix may have newlines, but none on its last line.
      refine Bool.eq_false_iff.mpr fun hbreak => ?_
      rw [h.fix_plain c hfix hbreak] at hfront
      exact Text.newline_not_mem_lastLine _ hfront
  · exact h.last_free c (by rw [hlast]; exact List.mem_append_right _ hbehind)

/-- How far a literal fix moves lines and columns, at most. -/
theorem span_bounds {finding : Finding} {text fix : List Char} (h : finding.Replaces text fix) :
    -(text.length : Int) ≤ finding.span.growth fix ∧ finding.span.growth fix ≤ fix.length ∧
      -(text.length : Int) ≤ finding.span.gain fix ∧ finding.span.gain fix ≤ fix.length := by
  have hstop := h.stop.place_le
  have hlines := Text.line_add_col_endOf_le fix
  rw [Finding.growth_span, Finding.gain_span]
  split <;> omega

/-- A literal fix on a text that nothing was written to goes through. -/
theorem Draft.carryOut_ofLine {finding : Finding} {text fix : List Char}
    (h : finding.Replaces text fix) (hmemory : text.length + fix.length < 2 ^ 63 - 1) :
    (Draft.mk text (.ofLine finding.start.line)).carryOut ⟨finding, .literal fix⟩ =
      .ok (Draft.ofFix text fix finding) := by
  have haim : (Draft.mk text (.ofLine finding.start.line)).aim ⟨finding, .literal fix⟩ =
      .ofLine finding.start.line := Drift.enterLine_ofLine _ _
  obtain ⟨hgrowth, hgrowthLe, hgain, hgainLe⟩ := span_bounds h
  have hstop := h.stop.place_le
  have hspan : finding.span.stopCol = finding.stop.place.col := rfl
  rw [Draft.carryOut_literal rfl (by rw [haim]; exact h.locates (by omega) _) h.isClean h.ne_nil
    h.isPlain (by omega) (by omega)]
  · rw [haim]
    rfl
  · rw [haim]
    unfold Offset.IsOffset Drift.ofLine
    dsimp only
    omega
  · rw [haim]
    unfold Offset.IsOffset Drift.ofLine
    dsimp only
    omega

end Fix

/-- A fix of a stretch within a line moves the columns by what it gains. -/
theorem Finding.Replaces.gain_span_of_eq {finding : Finding} {text fix : List Char}
    (h : finding.Replaces text fix) (hsingle : finding.start.line = finding.stop.line) :
    finding.span.gain fix = (fix.length : Int) - (finding.stop.col - finding.start.col : Nat) := by
  have heqs := h.eqs
  have hline : finding.start.place.line = finding.stop.place.line := by omega
  rw [gain_span, if_pos hline]
  omega

/--
The place at which a stretch ends moves as the drift says if the stretch and its fix are within a
line, or if a stretch of several lines and its fix end at the same column.
-/
theorem Finding.Replaces.col_blockEnd_iff {finding : Finding} {text fix : List Char}
    (h : finding.Replaces text fix) :
    (((finding.patch text fix).blockEnd text).col : Int) =
        finding.stop.place.col + finding.span.gain fix ↔
      (finding.start.line = finding.stop.line ∧ '\n' ∉ fix) ∨
        (finding.start.line < finding.stop.line ∧
          (finding.start.place + Text.endOf fix).col = finding.stop.place.col) := by
  have heqs := h.eqs
  have hplaces := h.place_ordered
  have hlength := Text.line_add_col_endOf_le fix
  rw [Fix.Patch.blockEnd, h.placeOf_start, gain_span]
  change ((finding.start.place + Text.endOf fix).col : Int) = _ ↔ _
  by_cases hsingle : finding.start.line = finding.stop.line
  · have hline : finding.start.place.line = finding.stop.place.line := by omega
    rw [if_pos hline, Text.add_def]
    by_cases hfree : '\n' ∈ fix
    · have hcol := mt Text.line_endOf_eq_zero_iff.mp (not_not_intro hfree)
      simp only [if_neg hcol, hfree, not_true_eq_false, and_false, false_or]
      omega
    · simp only [Text.endOf_of_not_mem hfree, if_true, hsingle, hfree, not_false_eq_true,
        and_self, true_or, iff_true]
      omega
  · have hline : finding.start.place.line ≠ finding.stop.place.line := by omega
    rw [if_neg hline]
    simp only [hsingle, false_and, false_or]
    omega

/-- Two literal fixes for a text, the second of which begins on the line on which the first ends. -/
structure Finding.Adjoins (first second : Finding) (text fix more : List Char) : Prop where
  replaces : first.Replaces text fix
  follows : second.Replaces text more
  line_eq : second.start.line = first.stop.line
  memory : text.length + fix.length + more.length < 2 ^ 63 - 1

instance (first second : Finding) (text fix more : List Char) :
    Decidable (first.Adjoins second text fix more) :=
  decidable_of_iff (first.Replaces text fix ∧ second.Replaces text more ∧
      second.start.line = first.stop.line ∧
      text.length + fix.length + more.length < 2 ^ 63 - 1)
    ⟨fun ⟨hfirst, hsecond, hline, hmemory⟩ => ⟨hfirst, hsecond, hline, hmemory⟩,
      fun h => ⟨h.replaces, h.follows, h.line_eq, h.memory⟩⟩

namespace Finding.Adjoins

open Remedy.Fix

variable {first second : Finding} {text fix more : List Char} {span : Span}

/-- The second fix is located with the columns that the first one has made, if it is on one line. -/
theorem cols_aim (h : first.Adjoins second text fix more) :
    ((Draft.ofFix text fix first).aim ⟨second, .literal more⟩).cols = first.span.gain fix := by
  have hstart := h.replaces.start.line_pos
  have hstop := h.replaces.stop.line_pos
  have hline := h.line_eq
  by_cases hactive : first.start.line = second.start.line
  · rw [Draft.aim, Drift.enterLine_of_eq hactive]
    exact Int.zero_add _
  · have hmany : first.span.startLine ≠ first.span.stopLine := by
      change first.start.line - 1 ≠ first.stop.line - 1
      omega
    rw [Draft.aim, Drift.cols_enterLine_of_ne hactive, Span.gain, if_neg hmany]

/-- The line on which the text of the first fix ends, and how far down the second one reaches. -/
theorem line_blockEnd (h : first.Adjoins second text fix more) :
    (((first.patch text fix).blockEnd text).line : Int) =
        second.start.place.line + first.span.growth fix ∧
      second.start.place.line = first.stop.place.line ∧
      first.stop.place.line ≤ second.stop.place.line := by
  have hend : ((first.patch text fix).blockEnd text).line =
      first.start.place.line + (Text.endOf fix).line := by
    rw [Patch.blockEnd, h.replaces.placeOf_start]
    rfl
  have hline : second.start.place.line = first.stop.place.line := by
    have heqs := h.replaces.eqs
    have heqsOther := h.follows.eqs
    have hshared := h.line_eq
    omega
  have hordered := h.replaces.isClean.ordered
  have hfollows := h.follows.isClean.ordered
  change first.start.place.line ≤ first.stop.place.line at hordered
  change second.start.place.line ≤ second.stop.place.line at hfollows
  refine ⟨?_, hline, by omega⟩
  rw [hend, hline]
  change _ = (first.stop.place.line : Int) +
    ((Text.endOf fix).line - (first.stop.place.line - first.start.place.line : Nat))
  omega

/--
The lines of the second fix are found; its columns, on whatever line they are, are taken to have
moved by what the line of the first one has gained.
-/
structure Lands (first second : Finding) (text fix : List Char) (span : Span) : Prop where
  startLine : span.startLine = ((first.patch text fix).blockEnd text).line
  stopLine : span.stopLine = ((first.patch text fix).blockEnd text).line +
    (second.stop.place.line - first.stop.place.line)
  startCol : (span.startCol : Int) = second.start.place.col + first.span.gain fix
  stopCol : (span.stopCol : Int) = second.stop.place.col + first.span.gain fix

/-- Where the second fix is located behind the first one. -/
theorem locates_iff (h : first.Adjoins second text fix more) :
    ((Draft.ofFix text fix first).aim ⟨second, .literal more⟩).Locates second.start second.stop
      span ↔ Lands first second text fix span := by
  have hmemory := h.memory
  obtain ⟨hend, hline, hreach⟩ := h.line_blockEnd
  constructor
  · intro hlocates
    obtain ⟨hstart, hstop, hcol, hcolEnd⟩ :=
      hlocates.eqs (by omega) h.follows.start h.follows.stop
    rw [Draft.lines_aim_ofFix] at hstart hstop
    rw [h.cols_aim] at hcol hcolEnd
    exact ⟨by omega, by omega, hcol, hcolEnd⟩
  · rintro ⟨hstart, hstop, hcol, hcolEnd⟩
    obtain ⟨-, hgrowth, -, hgain⟩ := span_bounds h.replaces
    have hfrom := h.follows.start.place_le
    have hto := h.follows.stop.place_le
    have hlength : text.length < 2 ^ 63 - 1 := by omega
    refine .of_eqs hlength h.follows.start h.follows.stop (by omega)
      (by omega) (by omega) (by omega) ?_
    rw [Draft.lines_aim_ofFix, h.cols_aim]
    exact ⟨by omega, by omega, hcol, hcolEnd⟩

/-- If the second fix reaches further down, it ends on the line on which it did. -/
theorem lineOf_stopLine (h : first.Adjoins second text fix more)
    (hlands : Lands first second text fix span)
    (hlt : first.stop.place.line < second.stop.place.line) :
    Text.lineOf (Draft.ofFix text fix first).text span.stopLine =
      Text.lineOf text second.stop.place.line := by
  rw [hlands.stopLine, Draft.ofFix, Patch.lineOf_weave_of_pos _ _ (Nat.sub_pos_of_lt hlt),
    h.replaces.placeOf_stop, Nat.add_sub_cancel' (Nat.le_of_lt hlt)]

/-- The lines on which the second fix lands are lines of the text, and have no break. -/
theorem isClean_of_lands (h : first.Adjoins second text fix more)
    (hlands : Lands first second text fix span) :
    span.IsClean (Draft.ofFix text fix first).text := by
  have hstart := hlands.startLine
  have hstop := hlands.stopLine
  obtain ⟨-, hline, hreach⟩ := h.line_blockEnd
  refine ⟨by omega, ?_, ?_, ?_⟩
  · have hcount := Text.length_split_eq_placeOf_add text (first.patch text fix).stop
    have hlast := h.follows.stop.place.line_lt
    rw [h.replaces.placeOf_stop] at hcount
    rw [Draft.ofFix, Patch.length_split_weave]
    omega
  · rw [hstart]
    exact free_of_mem_lineOf_blockEnd h.replaces
  · rcases Nat.eq_or_lt_of_le hreach with heq | hlt
    · rw [hstop, heq, Nat.sub_self, Nat.add_zero]
      exact free_of_mem_lineOf_blockEnd h.replaces
    · rw [h.lineOf_stopLine hlands hlt]
      exact h.follows.last_free

/-- Fixes that lie apart do so by their columns on the line that they share. -/
theorem place_apart (h : first.Adjoins second text fix more)
    (hapart : first.EndsBefore second ∨ second.EndsBefore first) :
    first.stop.place.col ≤ second.start.place.col ∨
      (second.stop.place.line = first.start.place.line ∧
        first.start.place.line = first.stop.place.line ∧
        second.stop.place.col ≤ first.start.place.col) := by
  have heqs := h.replaces.eqs
  have heqsOther := h.follows.eqs
  have hline := h.line_eq
  have hordered := h.replaces.ordered
  have hfollows := h.follows.ordered
  unfold Finding.EndsBefore at hapart
  omega

/-- Wherever the second fix lands, it puts its text there. -/
theorem exists_carryOut_of_lands (h : first.Adjoins second text fix more)
    (hapart : first.EndsBefore second ∨ second.EndsBefore first)
    (hlands : Lands first second text fix span) :
    ∃ next, (Draft.ofFix text fix first).carryOut ⟨second, .literal more⟩ = .ok next ∧
      next.text = Patch.weave (Draft.ofFix text fix first).text 0
        [span.patch (Draft.ofFix text fix first).text more] := by
  have hmemory := h.memory
  have hstart := hlands.startLine
  have hstop := hlands.stopLine
  have hcol := hlands.startCol
  have hcolEnd := hlands.stopCol
  have hto := h.follows.stop.place_le
  have hnewlines := Text.line_add_col_endOf_le more
  obtain ⟨hend, hline, hreach⟩ := h.line_blockEnd
  obtain ⟨-, hgrowth, -, hgain⟩ := span_bounds h.replaces
  refine ⟨_, Draft.carryOut_literal rfl (h.locates_iff.mpr hlands) (h.isClean_of_lands hlands)
    h.follows.ne_nil h.follows.isPlain (by omega) (by omega) ?_ ?_, rfl⟩
  · rw [Draft.lines_aim_ofFix]
    unfold Offset.IsOffset
    unfold Span.growth at hgrowth hend ⊢
    omega
  · rw [h.cols_aim]
    have happart := h.place_apart hapart
    have hfirst := h.replaces.stop.place_le
    rw [gain_span] at hcol hcolEnd ⊢
    unfold Offset.IsOffset Span.gain Span.width
    split at hcol <;> split <;> omega

/-- The patches of the two fixes follow one another if their stretches do. -/
theorem stop_le_start_iff (h : first.Adjoins second text fix more) :
    (first.patch text fix).stop ≤ (second.patch text more).start ↔ first.EndsBefore second := by
  have heqs := h.replaces.eqs
  have heqsOther := h.follows.eqs
  have hline := h.line_blockEnd.2.1
  have hcol := h.replaces.stop.place.col_le
  have hcolOther := h.follows.start.place.col_le
  change Text.indexOf text first.stop.place ≤ Text.indexOf text second.start.place ↔ _
  unfold Finding.EndsBefore Text.indexOf
  rw [hline] at hcolOther ⊢
  omega

/-- Stretches that do not overlap have patches that do not. -/
theorem patch_apart (h : first.Adjoins second text fix more)
    (hapart : first.EndsBefore second ∨ second.EndsBefore first) :
    (first.patch text fix).stop ≤ (second.patch text more).start ∨
      (second.patch text more).stop ≤ (first.patch text fix).start := by
  have hline := h.line_eq
  have hordered := h.replaces.ordered
  have hfollows := h.follows.ordered
  refine hapart.imp h.stop_le_start_iff.mpr fun hbefore =>
    Text.indexOf_le_indexOf h.follows.stop.place.line_lt (.inr ?_)
  change second.stop.line - 1 = first.start.line - 1 ∧ second.stop.col - 1 ≤ first.start.col - 1
  unfold Finding.EndsBefore at hbefore
  omega

/--
What lies behind the stretch of the first fix by so much comes to lie by as much behind the end of
its text.
-/
theorem exists_placeOf_after (h : first.Adjoins second text fix more)
    (hbefore : first.EndsBefore second) :
    ∃ near far : Text.Place, near.line = 0 ∧
      second.start.place = first.stop.place + near ∧
      second.stop.place = first.stop.place + far ∧
      Text.placeOf (Draft.ofFix text fix first).text
          ((second.patch text more).after (first.patch text fix)).start =
        (first.patch text fix).blockEnd text + near ∧
      Text.placeOf (Draft.ofFix text fix first).text
          ((second.patch text more).after (first.patch text fix)).stop =
        (first.patch text fix).blockEnd text + far := by
  have hbehind := h.stop_le_start_iff.mpr hbefore
  have hspan := h.follows.fits.start_le
  have hplace : ∀ index, (first.patch text fix).stop ≤ index → Text.placeOf text index =
      first.stop.place + Text.placeOf (text.drop (first.patch text fix).stop)
        (index - (first.patch text fix).stop) := by
    intro index hindex
    rw [← h.replaces.placeOf_stop, ← Text.placeOf_add, Nat.add_sub_cancel' hindex]
  have hstart := hplace _ hbehind
  have hstop := hplace _ (Nat.le_trans hbehind hspan)
  rw [h.follows.placeOf_start] at hstart
  rw [h.follows.placeOf_stop] at hstop
  rw [Patch.after, if_pos hbehind]
  refine ⟨_, _, ?_, hstart, hstop, Patch.placeOf_weave h.replaces.fits _,
    Patch.placeOf_weave h.replaces.fits _⟩
  have hline := h.line_blockEnd.2.1
  rw [hstart, Text.add_def] at hline
  dsimp only at hline
  omega

/--
The second fix lands where its stretch stands now if the end of the first one has moved by what its
line has gained, unless it ends further down, where columns have not moved.
-/
theorem eq_ofPatch_iff (h : first.Adjoins second text fix more)
    (hbefore : first.EndsBefore second) (hlands : Lands first second text fix span) :
    span = Span.ofPatch (Draft.ofFix text fix first).text
        ((second.patch text more).after (first.patch text fix)) ↔
      (((first.patch text fix).blockEnd text).col : Int) =
          first.stop.place.col + first.span.gain fix ∧
        (first.stop.place.line < second.stop.place.line → first.span.gain fix = 0) := by
  obtain ⟨near, far, hnear, hstart, hstop, hfrom, hto⟩ := h.exists_placeOf_after hbefore
  obtain ⟨hstartLine, hstopLine, hstartCol, hstopCol⟩ := hlands
  rw [hstart, Text.add_def, if_pos hnear] at hstartCol
  rw [hstop, Text.add_def] at hstopCol hstopLine
  rw [Span.ofPatch, hfrom, hto, hstop, Span.between, Text.add_def, Text.add_def, Text.add_def,
    if_pos hnear]
  obtain ⟨startLine, startCol, stopLine, stopCol⟩ := span
  rw [Span.mk.injEq]
  dsimp only at hstartLine hstopLine hstartCol hstopCol ⊢
  split at hstopCol
  · rename_i hfar
    rw [if_pos hfar]
    omega
  · rename_i hfar
    rw [if_neg hfar]
    omega

/-- In front of the first fix nothing has moved. -/
theorem ofPatch_after_of_not_endsBefore (h : first.Adjoins second text fix more)
    (hbefore : second.EndsBefore first) (hnot : ¬first.EndsBefore second) :
    Span.ofPatch (Draft.ofFix text fix first).text
        ((second.patch text more).after (first.patch text fix)) = second.span := by
  have hbehind := mt h.stop_le_start_iff.mp hnot
  have hfront := (h.patch_apart (.inr hbefore)).resolve_left hbehind
  have hspan := h.follows.fits.start_le
  rw [Patch.after, if_neg hbehind, Span.ofPatch, Draft.ofFix,
    Patch.placeOf_weave_of_le h.replaces.fits (by omega),
    Patch.placeOf_weave_of_le h.replaces.fits hfront, h.follows.placeOf_start,
    h.follows.placeOf_stop]
  rfl

/-- The second fix lands somewhere, unless its columns would lie in front of their lines. -/
theorem exists_lands (hstart : 0 ≤ second.start.place.col + first.span.gain fix)
    (hstop : 0 ≤ second.stop.place.col + first.span.gain fix) :
    ∃ span, Lands first second text fix span :=
  ⟨⟨_, (second.start.place.col + first.span.gain fix).toNat, _,
    (second.stop.place.col + first.span.gain fix).toNat⟩, rfl, rfl, Int.toNat_of_nonneg hstart,
    Int.toNat_of_nonneg hstop⟩

/-- Behind the first fix the columns of the second one cannot come to lie in front of its line. -/
theorem start_col_nonneg (h : first.Adjoins second text fix more)
    (hbefore : first.EndsBefore second) : 0 ≤ second.start.place.col + first.span.gain fix := by
  have hapart := h.place_apart (.inl hbefore)
  have hordered := h.replaces.place_ordered
  have hcol : first.stop.place.col ≤ second.start.place.col := by
    have heqs := h.replaces.eqs
    have heqsOther := h.follows.eqs
    have hline := h.line_eq
    unfold Finding.EndsBefore at hbefore
    omega
  rw [gain_span]
  split <;> omega

/-- If the second fix lands where its stretch stands now, both stretches are replaced. -/
theorem weave_ofPatch (h : first.Adjoins second text fix more)
    (hapart : first.EndsBefore second ∨ second.EndsBefore first) :
    Patch.weave (Draft.ofFix text fix first).text 0
        [(Span.ofPatch (Draft.ofFix text fix first).text
          ((second.patch text more).after (first.patch text fix))).patch
            (Draft.ofFix text fix first).text more] =
      Patch.weave text 0 (Patch.both (first.patch text fix) (second.patch text more)) := by
  have hpatches := h.patch_apart hapart
  have hpatch := Span.patch_ofPatch (h.follows.fits.after h.replaces.fits hpatches)
  rw [Patch.block_after] at hpatch
  rw [← Patch.weave_after h.replaces.fits h.follows.fits hpatches, Draft.ofFix]
  exact congrArg (fun patch => Patch.weave _ 0 [patch]) hpatch

/-- Where the line of the first fix has gained no line, the lines of the second one have not moved. -/
theorem line_blockEnd_of_not_mem (h : first.Adjoins second text fix more)
    (hsingle : first.start.line = first.stop.line) (hfree : '\n' ∉ fix) :
    ((first.patch text fix).blockEnd text).line = second.start.place.line := by
  have heqs := h.replaces.eqs
  have hend := h.line_blockEnd.1
  have hline : first.start.place.line = first.stop.place.line := by omega
  rw [growth_span, Text.endOf_of_not_mem hfree, hline, Nat.sub_self] at hend
  dsimp only at hend
  omega

/-- In front of the first fix the second one lands where it stood if the line has kept its length. -/
theorem lands_span_iff (h : first.Adjoins second text fix more)
    (hfirst : first.start.line = first.stop.line) (hsecond : second.start.line = second.stop.line)
    (hfree : '\n' ∉ fix) :
    Lands first second text fix second.span ↔ first.span.gain fix = 0 := by
  have hend := h.line_blockEnd_of_not_mem hfirst hfree
  have hline := h.line_blockEnd.2.1
  have heqs := h.follows.eqs
  constructor
  · intro hlands
    have hcol := hlands.startCol
    change (second.start.place.col : Int) = _ at hcol
    omega
  · intro hgain
    refine ⟨hend.symm, ?_, ?_, ?_⟩
    · change second.stop.place.line = _
      omega
    · rw [hgain, Int.add_zero]
      rfl
    · rw [hgain, Int.add_zero]
      rfl

/-- Behind a fix within its line, a match within that line lands where its stretch stands now. -/
theorem lands_ofPatch (h : first.Adjoins second text fix more) (hbefore : first.EndsBefore second)
    (hfirst : first.start.line = first.stop.line) (hsecond : second.start.line = second.stop.line)
    (hfree : '\n' ∉ fix) :
    Lands first second text fix (Span.ofPatch (Draft.ofFix text fix first).text
      ((second.patch text more).after (first.patch text fix))) := by
  have hstart := h.start_col_nonneg hbefore
  have hplaces := h.follows.place_ordered
  have hline := h.line_blockEnd.2.1
  have heqs := h.follows.eqs
  obtain ⟨span, hlands⟩ := exists_lands hstart (by omega)
  have hright := (h.eq_ofPatch_iff hbefore hlands).mpr
    ⟨h.replaces.col_blockEnd_iff.mpr (.inl ⟨hfirst, hfree⟩), fun hlt => absurd hlt (by omega)⟩
  rw [← hright]
  exact hlands

/-- A second fix that goes on to a later line starts where it stands now, and ends on its line. -/
theorem after_eq_of_lands (h : first.Adjoins second text fix more)
    (hbefore : first.EndsBefore second) (hsingle : first.start.line = first.stop.line)
    (hfree : '\n' ∉ fix) (hmany : second.start.place.line < second.stop.place.line)
    (hlands : Lands first second text fix span) :
    (second.patch text more).after (first.patch text fix) =
      ⟨Text.indexOf (Draft.ofFix text fix first).text ⟨span.startLine, span.startCol⟩,
        Text.indexOf (Draft.ofFix text fix first).text ⟨span.stopLine, second.stop.place.col⟩,
        more⟩ := by
  have hcol := h.replaces.col_blockEnd_iff.mpr (.inl ⟨hsingle, hfree⟩)
  have hfits : ((second.patch text more).after (first.patch text fix)).Fits
      (Draft.ofFix text fix first).text :=
    h.follows.fits.after h.replaces.fits (h.patch_apart (.inl hbefore))
  have hordered := hfits.start_le
  have hlength := hfits.stop_le
  obtain ⟨hstartLine, hstopLine, hstartCol, -⟩ := hlands
  obtain ⟨near, far, hnear, hstart, hstop, hfrom, hto⟩ := h.exists_placeOf_after hbefore
  rw [hstart, hstop, Text.add_def, Text.add_def] at hmany
  dsimp only at hmany
  rw [hstart, Text.add_def, if_pos hnear] at hstartCol
  rw [hstop, Text.add_def] at hstopLine
  dsimp only at hstartCol hstopLine
  have hfar : far.line ≠ 0 := by omega
  have hstartPlace : Text.placeOf (Draft.ofFix text fix first).text
      ((second.patch text more).after (first.patch text fix)).start =
        ⟨span.startLine, span.startCol⟩ := by
    rw [hfrom, Text.add_def, if_pos hnear, Text.Place.mk.injEq]
    omega
  have hstopPlace : Text.placeOf (Draft.ofFix text fix first).text
      ((second.patch text more).after (first.patch text fix)).stop =
        ⟨span.stopLine, second.stop.place.col⟩ := by
    rw [hto, hstop, Text.add_def, Text.add_def, if_neg hfar, if_neg hfar, Text.Place.mk.injEq]
    exact ⟨by omega, rfl⟩
  rw [← hstartPlace, ← hstopPlace, Text.indexOf_placeOf (by omega),
    Text.indexOf_placeOf hlength]
  change _ = Patch.mk _ _ (second.patch text more).block
  rw [← Patch.block_after (second.patch text more) (first.patch text fix)]

/--
If the second fix goes on to a later line, what it leaves of that line is what stood behind its
stretch, unless the drift of the first line makes a difference there.
-/
theorem weave_patch_eq_iff (h : first.Adjoins second text fix more)
    (hbefore : first.EndsBefore second) (hsingle : first.start.line = first.stop.line)
    (hfree : '\n' ∉ fix) (hmany : second.start.place.line < second.stop.place.line)
    (hlands : Lands first second text fix span) :
    Patch.weave (Draft.ofFix text fix first).text 0
          [span.patch (Draft.ofFix text fix first).text more] =
        Patch.weave text 0 [first.patch text fix, second.patch text more] ↔
      first.span.gain fix = 0 ∨ (0 < first.span.gain fix ∧
        second.stop.place.col = (Text.lineOf text second.stop.place.line).length) := by
  have hpatches := h.patch_apart (.inl hbefore)
  have hwoven := Patch.weave_after h.replaces.fits h.follows.fits hpatches
  have hline := h.line_blockEnd.2.1
  have hstopLt := (h.isClean_of_lands hlands).stopLine_lt
  have hcol := h.follows.stop.place.col_le
  have hlandsCol := hlands.stopCol
  rw [Patch.both, if_pos (h.stop_le_start_iff.mpr hbefore),
    h.after_eq_of_lands hbefore hsingle hfree hmany hlands] at hwoven
  rw [← hwoven]
  change Patch.weave (Draft.ofFix text fix first).text 0 [⟨_, _, more⟩] =
    Patch.weave (Draft.ofFix text fix first).text 0 _ ↔ _
  rw [Patch.weave_singleton_inj (Text.indexOf_le_length hstopLt) (Text.indexOf_le_length hstopLt),
    Text.indexOf_eq_indexOf_iff, h.lineOf_stopLine hlands (by omega)]
  omega

end Finding.Adjoins

end Remedy
