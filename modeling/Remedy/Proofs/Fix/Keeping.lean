import Remedy.Proofs.Fix.Pairs
import Remedy.Proofs.Text.Made

/-!
# What a literal fix keeps

A literal fix keeps what stands in front of its span and what stands behind it.  The two lie apart
if the span does not end before it starts, and then no character of the file comes to stand twice.
A span whose lines are in the wrong order is never found.  Columns are not compared, so it takes a
match whose own columns are in order on a line.
-/

namespace Remedy

/-- Holds if a finding does not end before it starts, a number being read as an integer. -/
def Finding.InOrder (read : Nat → Int) (finding : Finding) : Prop :=
  read finding.start.line < read finding.stop.line ∨
    (read finding.start.line = read finding.stop.line ∧
      read finding.start.col ≤ read finding.stop.col)

instance (read : Nat → Int) (finding : Finding) : Decidable (finding.InOrder read) :=
  inferInstanceAs (Decidable (_ ∨ _))

namespace Fix

open Outcome

namespace Span

/-- Holds if a span does not end before it starts. -/
def InOrder (span : Span) : Prop :=
  span.startLine < span.stopLine ∨
    (span.startLine = span.stopLine ∧ span.startCol ≤ span.stopCol)

/--
A text keeps what is in front of a span and behind it.  The two lie apart, and of their characters
and those of the fix between them none stands twice.
-/
structure KeepsOnce (span : Span) (text fix made : List Char) : Prop where
  inOrder : span.InOrder
  fits : (span.patch text fix).Fits text
  isMadeOf : Text.IsMadeOf made
    (text.take (span.patch text fix).start ++ fix ++ text.drop (span.patch text fix).stop)

variable {span : Span} {text fix made : List Char}

/-- A text that keeps characters once is not longer than the two texts that it is made of. -/
theorem KeepsOnce.length_le (h : span.KeepsOnce text fix made) :
    made.length ≤ text.length + fix.length := by
  have hmade := h.isMadeOf.length_le
  have hstart := h.fits.start_le
  rw [List.length_append, List.length_append, List.length_take, List.length_drop] at hmade
  omega

/-- The places of a span that is in order are, too. -/
theorem InOrder.fits (h : span.InOrder) (hstart : span.startLine < (Text.split text).length)
    (hstop : span.stopLine < (Text.split text).length) (fix : List Char) :
    (span.patch text fix).Fits text :=
  ⟨Text.indexOf_le_indexOf hstart h, Text.indexOf_le_length hstop⟩

end Span

/-- Shifting keeps the order of signed words, since a line is not compared with a column. -/
theorem Drift.Locates.inOrder_iff {drift : Drift} {finding : Finding} {span : Span}
    (h : drift.Locates finding.start finding.stop span) :
    span.InOrder ↔ finding.InOrder Offset.ofNat := by
  obtain ⟨-, -, hfirst⟩ := shift_eq_ok_iff.mp h.startLine
  obtain ⟨-, -, hlast⟩ := shift_eq_ok_iff.mp h.stopLine
  obtain ⟨-, -, hcol⟩ := shift_eq_ok_iff.mp h.startCol
  obtain ⟨-, -, hend⟩ := shift_eq_ok_iff.mp h.stopCol
  unfold Span.InOrder Finding.InOrder
  omega

/-- A literal fix is made only on lines that a text has. -/
theorem Splice.lt_of_literal_eq_ok {text fix : List Char} {span : Span} {splice : Splice}
    (h : literal text span fix = .ok splice) :
    span.startLine < (Text.split text).length ∧ span.stopLine < (Text.split text).length := by
  simp only [literal, bind_eq_ok_iff, lineAt_eq_ok_iff] at h
  obtain ⟨first, hfirst, last, hlast, -⟩ := h
  obtain ⟨hstart, -⟩ := List.getElem?_eq_some_iff.mp hfirst
  obtain ⟨hstop, -⟩ := List.getElem?_eq_some_iff.mp hlast
  exact ⟨hstart, hstop⟩

/-- A literal fix on a span that is in order keeps each character of a text once at most. -/
theorem Span.InOrder.keepsOnce {text fix : List Char} {span : Span} {splice : Splice}
    (h : span.InOrder) (hsplice : Splice.literal text span fix = .ok splice) :
    span.KeepsOnce text fix splice.text := by
  obtain ⟨hstart, hstop⟩ := Splice.lt_of_literal_eq_ok hsplice
  have hlines : span.startLine ≤ span.stopLine := by
    unfold InOrder at h
    omega
  have htext := Directive.splice_literal hlines hstop fix
  obtain rfl := Except.ok.inj (htext.symm.trans hsplice)
  refine ⟨h, h.fits hstart hstop fix, ?_⟩
  have hmade := Text.isMadeOf_join_append ((Text.split text).take span.startLine)
    (span.filled text fix) ((Text.split text).drop (span.stopLine + 1))
  rw [Span.join_filled hstart hstop, Patch.weave_singleton] at hmade
  exact hmade

theorem compute_literal_eq_ok {disk : Disk} {drift : Drift} {finding : Finding} {fix : List Char}
    {computed : Computed} (h : compute disk drift finding (.literal fix) = .ok computed) :
    drift.Locates finding.start finding.stop computed.span ∧
      Splice.literal computed.before.toList computed.span fix = .ok computed.splice := by
  unfold compute at h
  split at h
  · cases h
  · simp only [bind_eq_ok_iff, Drift.locate_eq_ok_iff, pure_eq_ok] at h
    obtain ⟨span, hlocates, splice, hsplice, heq⟩ := h
    obtain rfl := Except.ok.inj heq
    exact ⟨hlocates, hsplice⟩

namespace Pass

/--
A pass that goes on to a finding keeps the characters of its file once, or does nothing to it.  A
finding that ends before it starts stops the pass.
-/
structure KeepsOnce (pass : Pass) (finding : Finding) (fix : List Char) : Prop where
  keeps : ∀ computed, compute pass.disk (pass.aim finding) finding (.literal fix) = .ok computed →
    computed.span.KeepsOnce computed.before.toList fix computed.splice.text
  rejects : ¬finding.InOrder Int.ofNat →
    ∃ failure, compute pass.disk (pass.aim finding) finding (.literal fix) = .error failure ∧
      step false pass finding = .error ⟨.literal finding.path failure, pass.disk⟩

variable {pass : Pass} {finding : Finding} {fix : List Char}

/-- A fix that cannot be worked out stops a pass, and nothing has been written. -/
theorem step_of_compute_eq_error (hfix : finding.literalFix? = some fix) {failure : Failure}
    (h : compute pass.disk (pass.aim finding) finding (.literal fix) = .error failure) :
    step false pass finding = .error ⟨.literal finding.path failure, pass.disk⟩ := by
  unfold aim at h
  rw [step_of_literalFix? hfix, carryOut]
  dsimp only
  rw [h]
  rfl

/--
A literal fix keeps the characters of its file once just if it is made only for a match that does
not end before it starts, be its lines and columns taken as numbers or as the signed words to which
they wrap around.
-/
theorem keepsOnce_iff (hfix : finding.literalFix? = some fix) :
    pass.KeepsOnce finding fix ↔
      ∀ computed, compute pass.disk (pass.aim finding) finding (.literal fix) = .ok computed →
        finding.InOrder Int.ofNat ∧ finding.InOrder Offset.ofNat := by
  constructor
  · rintro ⟨hkeeps, hrejects⟩ computed hcompute
    refine ⟨?_, ?_⟩
    · by_contra hinverted
      obtain ⟨failure, herror, -⟩ := hrejects hinverted
      rw [hcompute] at herror
      cases herror
    · exact (compute_literal_eq_ok hcompute).1.inOrder_iff.mp (hkeeps computed hcompute).inOrder
  · intro horder
    refine ⟨fun computed hcompute => ?_, fun hinverted => ?_⟩
    · obtain ⟨hlocates, hsplice⟩ := compute_literal_eq_ok hcompute
      exact (hlocates.inOrder_iff.mpr (horder computed hcompute).2).keepsOnce hsplice
    · cases hcompute : compute pass.disk (pass.aim finding) finding (.literal fix) with
      | ok computed => exact absurd (horder computed hcompute).1 hinverted
      | error failure => exact ⟨failure, rfl, step_of_compute_eq_error hfix hcompute⟩

/-- A match behind an edit of its line, which reaches into the next one. -/
def across : Finding :=
  .ofFix "r" "a.txt" (1, 3) (2, 2) "-"

theorem keepsOnce_across :
    ∃ pass computed, step false (begin (.ofFile "a.txt" "abcd\nef")) widening = .ok pass ∧
      compute pass.disk (pass.aim across) across (.literal ['-']) = .ok computed ∧
      computed.splice.text = "xyzb-".toList ∧ pass.KeepsOnce across ['-'] := by
  have hmade : (step false (begin (.ofFile "a.txt" "abcd\nef")) widening).toOption.bind
      (fun pass => (compute pass.disk (pass.aim across) across (.literal ['-'])).toOption.map
        fun computed => computed.splice.text) = some "xyzb-".toList := by
    decide +kernel
  obtain ⟨pass, hpass, hsecond⟩ := Option.bind_eq_some_iff.mp hmade
  obtain ⟨computed, hcomputed, htext⟩ := Option.map_eq_some_iff.mp hsecond
  refine ⟨pass, computed, toOption_eq_some_iff.mp hpass, toOption_eq_some_iff.mp hcomputed, htext,
    (keepsOnce_iff (by decide +kernel)).mpr fun _ _ => by decide⟩

/-- A match that ends on its line before it starts. -/
def backward : Finding :=
  .ofFix "r" "a.txt" (1, 4) (1, 2) "X"

/-- What lies between the columns of a match that ends before it starts is kept twice. -/
theorem not_forall_keepsOnce :
    ¬∀ (disk : Disk) (finding : Finding) (fix : List Char), finding.literalFix? = some fix →
      (begin disk).KeepsOnce finding fix := by
  intro h
  have hmade : (compute (.ofFile "a.txt" "abcd") ((begin (.ofFile "a.txt" "abcd")).aim backward)
      backward (.literal ['X'])).toOption.map (fun computed =>
        (computed.before, computed.splice.text)) = some ("abcd", "abcXbcd".toList) := by
    decide +kernel
  obtain ⟨computed, hcompute, hshown⟩ := Option.map_eq_some_iff.mp hmade
  have hkeeps := (h (.ofFile "a.txt" "abcd") backward ['X'] (by decide +kernel)).keeps computed
    (toOption_eq_some_iff.mp hcompute)
  obtain ⟨hbefore, htext⟩ := Prod.mk.inj hshown
  have hlength := hkeeps.length_le
  rw [hbefore, htext] at hlength
  exact absurd hlength (by decide)

end Pass

end Fix

end Remedy
