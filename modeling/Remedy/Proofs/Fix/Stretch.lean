import Remedy.Proofs.Fix.Columns
import Remedy.Proofs.Text.Place

/-!
# Literal fixes as patches of a text

A literal fix takes lines apart and puts new ones in, but what it comes to is a patch of the text:
the characters between two places give way to the fix.  That holds wherever the span of the fix
lies, on one line or on several, as long as the lines at its ends have no break and the newlines of
the fix are its only breaks.
-/

namespace Remedy

/-- The place of a position, which counts from one. -/
def Position.place (position : Position) : Text.Place :=
  ⟨position.line - 1, position.col - 1⟩

/-- Holds for the positions of a text. -/
structure Position.LiesIn (position : Position) (text : List Char) : Prop where
  line_pos : 1 ≤ position.line
  col_pos : 1 ≤ position.col
  place : position.place.LiesIn text

instance (position : Position) (text : List Char) : Decidable (position.LiesIn text) :=
  decidable_of_iff (1 ≤ position.line ∧ 1 ≤ position.col ∧ position.place.LiesIn text)
    ⟨fun ⟨hline, hcol, hplace⟩ => ⟨hline, hcol, hplace⟩,
      fun ⟨hline, hcol, hplace⟩ => ⟨hline, hcol, hplace⟩⟩

/--
A literal fix for a stretch of a text.  The lines at the ends of the stretch have no break, and the
fix has none but newlines.
-/
structure Finding.Replaces (finding : Finding) (text fix : List Char) : Prop where
  fix_eq : finding.literalFix? = some fix
  fix_plain : ∀ c ∈ fix, Text.isBreak c = true → c = '\n'
  start : finding.start.LiesIn text
  stop : finding.stop.LiesIn text
  ordered : finding.start.line < finding.stop.line ∨
    (finding.start.line = finding.stop.line ∧ finding.start.col ≤ finding.stop.col)
  first_free : ∀ c ∈ Text.lineOf text finding.start.place.line, Text.isBreak c = false
  last_free : ∀ c ∈ Text.lineOf text finding.stop.place.line, Text.isBreak c = false

-- The characters are checked one by one along the lists, not by going through all characters.
instance (finding : Finding) (text fix : List Char) : Decidable (finding.Replaces text fix) :=
  decidable_of_iff (finding.literalFix? = some fix ∧
      fix.all (fun c => !Text.isBreak c || c == '\n') = true ∧ finding.start.LiesIn text ∧
      finding.stop.LiesIn text ∧ (finding.start.line < finding.stop.line ∨
        (finding.start.line = finding.stop.line ∧ finding.start.col ≤ finding.stop.col)) ∧
      (Text.lineOf text finding.start.place.line).all (fun c => !Text.isBreak c) = true ∧
      (Text.lineOf text finding.stop.place.line).all (fun c => !Text.isBreak c) = true) <| by
    have hplain : fix.all (fun c => !Text.isBreak c || c == '\n') = true ↔
        ∀ c ∈ fix, Text.isBreak c = true → c = '\n' := by
      simp only [List.all_eq_true, Bool.or_eq_true, Bool.not_eq_true', beq_iff_eq,
        ← Bool.not_eq_true, ← imp_iff_not_or]
    rw [hplain]
    simp only [List.all_eq_true, Bool.not_eq_true']
    exact ⟨fun ⟨hfix, hplain, hstart, hstop, hordered, hfirst, hlast⟩ =>
        ⟨hfix, hplain, hstart, hstop, hordered, hfirst, hlast⟩,
      fun h => ⟨h.fix_eq, h.fix_plain, h.start, h.stop, h.ordered, h.first_free, h.last_free⟩⟩

/-- A literal fix does not end in a newline, since it has lost the blanks at its end. -/
theorem Finding.getLast?_ne_newline_of_literalFix? {finding : Finding} {fix : List Char}
    (hfix : finding.literalFix? = some fix) : fix.getLast? ≠ some '\n' := by
  have htrimmed : ∀ text : List Char, (Text.trimEnd text).getLast? ≠ some '\n' := by
    intro text hlast
    have hfirst := List.head?_dropWhile_not Text.isBlank text.reverse
    rw [Text.trimEnd, List.getLast?_reverse] at hlast
    rw [hlast] at hfirst
    exact absurd hfirst (by decide)
  unfold literalFix? at hfix
  split at hfix
  · cases hfix
  · split at hfix
    · cases hfix
    · obtain rfl := Option.some.inj hfix
      exact htrimmed _

namespace Fix

namespace Span

/-- The span between two places. -/
def between (start stop : Text.Place) : Span :=
  ⟨start.line, start.col, stop.line, stop.col⟩

/-- The span of the stretch that a patch of a text is for. -/
def ofPatch (text : List Char) (patch : Patch Char) : Span :=
  between (Text.placeOf text patch.start) (Text.placeOf text patch.stop)

/-- The patch of a text that puts a block in the place of what a span holds. -/
def patch (span : Span) (text block : List Char) : Patch Char :=
  ⟨Text.indexOf text ⟨span.startLine, span.startCol⟩,
    Text.indexOf text ⟨span.stopLine, span.stopCol⟩, block⟩

/-- Holds if a span covers lines of a text, and there is no break in those at its ends. -/
structure IsClean (span : Span) (text : List Char) : Prop where
  ordered : span.startLine ≤ span.stopLine
  stopLine_lt : span.stopLine < (Text.split text).length
  first_free : ∀ c ∈ Text.lineOf text span.startLine, Text.isBreak c = false
  last_free : ∀ c ∈ Text.lineOf text span.stopLine, Text.isBreak c = false

/-- How many lines a text gains if a fix takes the place of a span. -/
def growth (span : Span) (fix : List Char) : Int :=
  (Text.endOf fix).line - (span.stopLine - span.startLine : Nat)

/-- How many columns the drift gains by a fix: those of a span on a single line alone count. -/
def gain (span : Span) (fix : List Char) : Int :=
  if span.startLine = span.stopLine then fix.length - span.width else 0

/-- A patch is found again from the span of its stretch. -/
theorem patch_ofPatch {text : List Char} {patch : Patch Char} (hfits : patch.Fits text) :
    (ofPatch text patch).patch text patch.block = patch := by
  have hstart := hfits.start_le
  have hstop := hfits.stop_le
  unfold Span.patch ofPatch between
  rw [Text.indexOf_placeOf (by omega), Text.indexOf_placeOf hstop]

end Span

/-- What a fix makes of the lines of a span. -/
def Span.filled (span : Span) (text fix : List Char) : List Char :=
  (Text.lineOf text span.startLine).take span.startCol ++ fix ++
    (Text.lineOf text span.stopLine).drop span.stopCol

/-- Between the other lines it makes a patch of the text. -/
theorem Span.join_filled {span : Span} {text : List Char}
    (hstart : span.startLine < (Text.split text).length)
    (hstop : span.stopLine < (Text.split text).length) (fix : List Char) :
    Text.join ((Text.split text).take span.startLine ++ [span.filled text fix] ++
        (Text.split text).drop (span.stopLine + 1)) =
      Patch.weave text 0 [span.patch text fix] := by
  rw [List.append_assoc, List.singleton_append, Text.join_append_cons, Patch.weave_singleton,
    patch, Text.take_indexOf hstart, Text.drop_indexOf hstop, filled]
  simp only [List.append_assoc]

/-- The block of a literal fix holds the lines of what the fix makes of those of its span. -/
theorem Directive.splice_literal {text : List Char} {span : Span}
    (hordered : span.startLine ≤ span.stopLine)
    (hstop : span.stopLine < (Text.split text).length) (fix : List Char) :
    (literal fix).splice text span =
      .ok ⟨Text.join ((Text.split text).take span.startLine ++
          Text.breakLines (span.filled text fix) ++ (Text.split text).drop (span.stopLine + 1)),
        Text.breakLines (span.filled text fix),
        ((Text.breakLines (span.filled text fix)).length : Int) -
          (span.stopLine + 1 - span.startLine : Nat)⟩ := by
  have hcut : Cut text (literal fix) span _ _ _ := Cut.of_le hordered (by omega) (.inl hstop)
  have hcovered : (((Text.split text).take (span.stopLine + 1)).drop span.startLine).length =
      span.stopLine + 1 - span.startLine := by
    rw [List.length_drop, List.length_take, Nat.min_eq_left (by omega)]
  have hbefore : ((Text.split text).take span.startLine).length = span.startLine := by
    rw [List.length_take, Nat.min_eq_left (by omega)]
  have hfirst := hcut.getElem?_startLine
  have hlast := hcut.getElem?_stopLine (by rw [hcovered, hbefore]; omega)
  have hfilled : (literal fix).block
      (((Text.split text).take (span.stopLine + 1)).drop span.startLine) span.startCol
      span.stopCol = .ok (Text.breakLines (span.filled text fix)) := by
    rw [Directive.block, Span.filled, Text.lineOf, Text.lineOf, hfirst, hlast, Option.getD_some,
      Option.getD_some]
  rw [hcut.splice_eq, hfilled, hcovered]
  rfl

namespace Span.IsClean

variable {text fix : List Char} {span : Span}

theorem isPlain_filled (hclean : span.IsClean text) (hne : fix ≠ []) (hplain : Text.IsPlain fix) :
    span.filled text fix ≠ [] ∧ Text.IsPlain (span.filled text fix) := by
  refine ⟨by simp [filled, hne], hplain.between hne ?_ ?_⟩
  · exact fun c hc => hclean.first_free c (List.mem_of_mem_take hc)
  · exact fun c hc => hclean.last_free c (List.mem_of_mem_drop hc)

/-- What a fix makes of the lines of its span has as many newlines as the fix. -/
theorem line_endOf_filled (span : Span) (text fix : List Char) :
    (Text.endOf (span.filled text fix)).line = (Text.endOf fix).line := by
  have hfront : '\n' ∉ (Text.lineOf text span.startLine).take span.startCol := fun hmem =>
    Text.newline_not_mem_lineOf text span.startLine (List.mem_of_mem_take hmem)
  have hbehind : '\n' ∉ (Text.lineOf text span.stopLine).drop span.stopCol := fun hmem =>
    Text.newline_not_mem_lineOf text span.stopLine (List.mem_of_mem_drop hmem)
  rw [filled, Text.endOf_append, Text.endOf_append, Text.endOf_of_not_mem hfront,
    Text.endOf_of_not_mem hbehind, Text.add_def, Text.add_def]
  dsimp only
  omega

/-- A literal fix makes a patch of the text, and says how many lines that gains. -/
theorem splice_literal (hclean : span.IsClean text) (hne : fix ≠ []) (hplain : Text.IsPlain fix) :
    (Directive.literal fix).splice text span =
      .ok ⟨Patch.weave text 0 [span.patch text fix], Text.split (span.filled text fix),
        span.growth fix⟩ := by
  obtain ⟨hfilledNe, hfilled⟩ := hclean.isPlain_filled hne hplain
  have hordered := hclean.ordered
  have hstop := hclean.stopLine_lt
  have hdelta : ((Text.split (span.filled text fix)).length : Int) -
      (span.stopLine + 1 - span.startLine : Nat) = span.growth fix := by
    rw [Text.length_split_eq, line_endOf_filled, growth]
    omega
  rw [Directive.splice_literal hordered hstop,
    Text.join_append_breakLines_iff.mpr (.inl ⟨hfilledNe, hfilled⟩),
    Span.join_filled (by omega) hstop, Text.breakLines_of_isPlain hfilledNe hfilled, hdelta]

end Span.IsClean

namespace Drift

/-- The drift behind a literal fix. -/
def behind (drift : Drift) (span : Span) (fix : List Char) : Drift :=
  ⟨drift.lines + span.growth fix, drift.cols + span.gain fix, drift.activeLine⟩

/-- A literal fix is recorded, unless a sum leaves the range of offsets. -/
theorem recordLiteral_eq_behind {drift : Drift} {span : Span} {fix : List Char}
    (hfix : fix.length < 2 ^ 63) (hspan : span.stopCol < 2 ^ 63)
    (hlines : Offset.IsOffset (drift.lines + span.growth fix))
    (hcols : Offset.IsOffset (drift.cols + span.gain fix)) :
    drift.recordLiteral span (span.growth fix) fix.length = .ok (drift.behind span fix) := by
  have hwidth : span.width < 2 ^ 63 := by
    unfold Span.width
    omega
  rw [recordLiteral_eq_ok_iff]
  refine ⟨hlines, ?_⟩
  unfold behind
  unfold Span.gain at hcols ⊢
  split
  · rename_i hsingle
    have hgained : gained span fix.length = fix.length - span.width := by
      rw [gained, Offset.ofNat_of_lt hfix, Offset.ofNat_of_lt hwidth]
    rw [if_pos hsingle] at hcols
    rw [hgained]
    refine ⟨?_, hcols, rfl⟩
    unfold Offset.IsOffset
    omega
  · rw [Int.add_zero]

end Drift

/-- A literal fix that is located on a clean span makes a patch and moves the drift. -/
theorem Draft.carryOut_literal {draft : Draft} {job : Job} {span : Span} {fix : List Char}
    (hdirective : job.directive = .literal fix)
    (hlocates : (draft.aim job).Locates job.finding.start job.finding.stop span)
    (hclean : span.IsClean draft.text) (hne : fix ≠ []) (hplain : Text.IsPlain fix)
    (hfix : fix.length < 2 ^ 63) (hspan : span.stopCol < 2 ^ 63)
    (hlines : Offset.IsOffset ((draft.aim job).lines + span.growth fix))
    (hcols : Offset.IsOffset ((draft.aim job).cols + span.gain fix)) :
    draft.carryOut job =
      .ok ⟨Patch.weave draft.text 0 [span.patch draft.text fix],
        (draft.aim job).behind span fix⟩ := by
  have hsplice := hclean.splice_literal hne hplain
  have hrecord := Drift.recordLiteral_eq_behind hfix hspan hlines hcols
  rw [← hdirective] at hsplice
  rw [← Directive.record?_literal, ← hdirective] at hrecord
  exact carryOut_eq_ok_iff.mpr ⟨span, _, ⟨hlocates, hsplice⟩, rfl, hrecord⟩

end Fix

/-- No place of a text is further than the text is long. -/
theorem Position.LiesIn.place_le {position : Position} {text : List Char}
    (h : position.LiesIn text) :
    position.place.line ≤ text.length ∧ position.place.col ≤ text.length := by
  have hline := h.place.line_lt
  have hcol := h.place.col_le
  have hcount := Text.length_split_le text
  have hlength := Text.length_le_of_mem_split (Text.lineOf_mem_split hline)
  omega

/-- A position of a text is its place, counted from one. -/
theorem Position.LiesIn.eqs {position : Position} {text : List Char} (h : position.LiesIn text) :
    position.line = position.place.line + 1 ∧ position.col = position.place.col + 1 := by
  have hline := h.line_pos
  have hcol := h.col_pos
  unfold Position.place
  dsimp only
  omega

namespace Fix.Drift

variable {text : List Char} {drift : Drift} {start stop : Position} {span : Span}

/-- Where the positions of a text come to lie. -/
theorem Locates.eqs (hmemory : text.length < 2 ^ 63 - 1) (hstart : start.LiesIn text)
    (hstop : stop.LiesIn text) (h : drift.Locates start stop span) :
    (span.startLine : Int) = start.place.line + drift.lines ∧
      (span.stopLine : Int) = stop.place.line + drift.lines ∧
      (span.startCol : Int) = start.place.col + drift.cols ∧
      (span.stopCol : Int) = stop.place.col + drift.cols := by
  have hstartLe := hstart.place_le
  have hstopLe := hstop.place_le
  have hstartEqs := hstart.eqs
  have hstopEqs := hstop.eqs
  have h1 := ((shift_eq_ok_iff_of_lt (by omega)).mp h.startLine).2
  have h2 := ((shift_eq_ok_iff_of_lt (by omega)).mp h.stopLine).2
  have h3 := ((shift_eq_ok_iff_of_lt (by omega)).mp h.startCol).2
  have h4 := ((shift_eq_ok_iff_of_lt (by omega)).mp h.stopCol).2
  omega

/-- Positions of a text are located where they come to lie, if that is within memory. -/
theorem Locates.of_eqs (hmemory : text.length < 2 ^ 63 - 1) (hstart : start.LiesIn text)
    (hstop : stop.LiesIn text) (hordered : span.startLine ≤ span.stopLine)
    (hstopLine : span.stopLine < 2 ^ 63) (hstartCol : span.startCol < 2 ^ 63)
    (hstopCol : span.stopCol < 2 ^ 63)
    (h : (span.startLine : Int) = start.place.line + drift.lines ∧
      (span.stopLine : Int) = stop.place.line + drift.lines ∧
      (span.startCol : Int) = start.place.col + drift.cols ∧
      (span.stopCol : Int) = stop.place.col + drift.cols) :
    drift.Locates start stop span := by
  have hstartLe := hstart.place_le
  have hstopLe := hstop.place_le
  have hstartEqs := hstart.eqs
  have hstopEqs := hstop.eqs
  refine ⟨?_, ?_, hordered, ?_, ?_⟩
  all_goals
    rw [shift_eq_ok_iff_of_lt (by omega)]
    unfold Offset.IsOffset
    omega

end Fix.Drift

namespace Finding

/-- The span of a finding on a file that nothing was written to. -/
def span (finding : Finding) : Fix.Span :=
  .between finding.start.place finding.stop.place

/-- How many lines a file gains by a literal fix. -/
theorem growth_span (finding : Finding) (fix : List Char) :
    finding.span.growth fix = ((Text.endOf fix).line : Int) -
      (finding.stop.place.line - finding.start.place.line : Nat) := rfl

/-- How many columns the drift gains by a literal fix. -/
theorem gain_span (finding : Finding) (fix : List Char) :
    finding.span.gain fix =
      if finding.start.place.line = finding.stop.place.line then
        (fix.length : Int) - (finding.stop.place.col - finding.start.place.col : Nat)
      else 0 := rfl

/-- The patch that a literal fix asks for in a text. -/
def patch (finding : Finding) (text fix : List Char) : Fix.Patch Char :=
  finding.span.patch text fix

namespace Replaces

variable {finding : Finding} {text fix : List Char}

theorem isPlain (h : finding.Replaces text fix) : Text.IsPlain fix :=
  ⟨h.fix_plain, getLast?_ne_newline_of_literalFix? h.fix_eq⟩

theorem ne_nil (h : finding.Replaces text fix) : fix ≠ [] :=
  ne_nil_of_literalFix? h.fix_eq

/-- The positions of a finding are its places, counted from one. -/
theorem eqs (h : finding.Replaces text fix) :
    finding.start.line = finding.start.place.line + 1 ∧
      finding.start.col = finding.start.place.col + 1 ∧
      finding.stop.line = finding.stop.place.line + 1 ∧
      finding.stop.col = finding.stop.place.col + 1 :=
  ⟨h.start.eqs.1, h.start.eqs.2, h.stop.eqs.1, h.stop.eqs.2⟩

/-- The places of a finding are in order, as its positions are. -/
theorem place_ordered (h : finding.Replaces text fix) :
    finding.start.place.line < finding.stop.place.line ∨
      (finding.start.place.line = finding.stop.place.line ∧
        finding.start.place.col ≤ finding.stop.place.col) := by
  have heqs := h.eqs
  have hordered := h.ordered
  omega

theorem isClean (h : finding.Replaces text fix) : finding.span.IsClean text := by
  refine ⟨?_, h.stop.place.line_lt, h.first_free, h.last_free⟩
  rcases h.place_ordered with hlt | ⟨heq, -⟩
  · exact Nat.le_of_lt hlt
  · exact Nat.le_of_eq heq

theorem fits (h : finding.Replaces text fix) : (finding.patch text fix).Fits text :=
  ⟨Text.indexOf_le_indexOf h.start.place.line_lt h.place_ordered,
    Text.indexOf_le_length h.stop.place.line_lt⟩

theorem placeOf_start (h : finding.Replaces text fix) :
    Text.placeOf text (finding.patch text fix).start = finding.start.place :=
  Text.placeOf_indexOf h.start.place

theorem placeOf_stop (h : finding.Replaces text fix) :
    Text.placeOf text (finding.patch text fix).stop = finding.stop.place :=
  Text.placeOf_indexOf h.stop.place

/-- On a file that nothing was written to, a finding is located where it says. -/
theorem locates (h : finding.Replaces text fix) (hmemory : text.length < 2 ^ 63 - 1) (line : Nat) :
    (Fix.Drift.ofLine line).Locates finding.start finding.stop finding.span := by
  have hstart := h.start.place_le
  have hstop := h.stop.place_le
  refine .of_eqs hmemory h.start h.stop h.isClean.ordered ?_ ?_ ?_ ?_
  all_goals
    simp only [span, Fix.Span.between, Fix.Drift.ofLine]
    omega

end Replaces

end Finding

end Remedy
