import Remedy.Proofs.Fix.Adjoining

/-!
# Passes over two fixes of a file

A pass over two literal fixes carries the second one out on what the first one has left.  Here is
when that comes to the same as replacing both stretches at once, for a second match that begins on
the line on which the first one ends: on what lies behind, on a later line, in front.
-/

namespace Remedy

/-- Two findings that spell the path of one file alike, which holds a text. -/
structure Findings.AreTwo (findings : Findings) (disk : Disk) (location : Location)
    (text : List Char) (first second : Finding) : Prop where
  toList_eq : findings.toList = [first, second]
  leads : disk.resolve first.path = .ok (location, .file (.text (String.ofList text)))
  follows : disk.resolve second.path = .ok (location, .file (.text (String.ofList text)))
  same : first.path.same second.path = true

/-- Two findings on a disk with one file; they come in turn, be they of one rule or of two. -/
theorem Findings.AreTwo.ofFile {first second : Finding} {text : String}
    (hfirst : first.path = ⟨"a.txt"⟩) (hsecond : second.path = ⟨"a.txt"⟩) :
    Findings.AreTwo (.ofList [first, second]) (.ofFile "a.txt" text) ["a.txt"] text.toList
      first second := by
  have hleads : (Disk.ofFile "a.txt" text).resolve ⟨"a.txt"⟩ =
      .ok (["a.txt"], .file (.text (String.ofList text.toList))) := by
    rw [String.ofList_toList]
    rfl
  refine ⟨?_, ?_, ?_, ?_⟩
  · simp only [ofList, push, push.pushGroup, empty, toList, List.foldl_cons, List.foldl_nil]
    split <;> rfl
  · rw [hfirst, hleads]
  · rw [hsecond, hleads]
  · rw [hfirst, hsecond]
    decide

namespace Fix.Pass

open Outcome

/-- The drift with which a pass locates a finding. -/
def aim (pass : Pass) (finding : Finding) : Drift :=
  ((pass.drift? finding.path).getD (.ofLine finding.start.line)).enterLine finding.start.line

/-- A step on a finding with a literal fix carries that out. -/
theorem step_of_literalFix? {finding : Finding} {fix : List Char}
    (hfix : finding.literalFix? = some fix) (pass : Pass) :
    step false pass finding = pass.carryOut finding (.literal fix) := by
  unfold step
  rw [Directive.ofFinding_of_literalFix? hfix]
  rfl

/-- A run has one outcome: a file holds what evaluation of the run shows. -/
theorem eq_of_get?_run {findings : Findings} {disk : Disk} {location : Location} {pass : Pass}
    {shown written : String}
    (hshown : ((run false findings disk).toOption.map fun pass => pass.disk.tree.get? location) =
      some (some (.file (.text shown))))
    (hrun : run false findings disk = .ok pass)
    (heffect : Rewrite.Effect disk pass.disk location written) : written = shown := by
  rw [hrun, Except.toOption, Option.map_some, heffect.get?, if_pos rfl] at hshown
  cases hshown
  rfl

/-- The pass behind the first of two fixes. -/
structure IsBehind (middle : Pass) (disk : Disk) (location : Location) (text fix : List Char)
    (first second : Finding) : Prop where
  step_eq : step false (begin disk) first = .ok middle
  effect : Rewrite.Effect disk middle.disk location
    (String.ofList (Draft.ofFix text fix first).text)
  drift : middle.drift? second.path = some (Draft.ofFix text fix first).drift

variable {findings : Findings} {disk : Disk} {location : Location} {text fix more : List Char}
  {first second : Finding} {middle pass : Pass}

/-- The first of two fixes goes through. -/
theorem exists_isBehind (htwo : findings.AreTwo disk location text first second)
    (h : first.Adjoins second text fix more) :
    ∃ middle : Pass, middle.IsBehind disk location text fix first second := by
  have hmemory := h.memory
  have hnext : ((begin disk).draftFor ⟨first, .literal fix⟩ (String.ofList text)).carryOut
      ⟨first, .literal fix⟩ = .ok (Draft.ofFix text fix first) := by
    have hdraft : (begin disk).draftFor ⟨first, .literal fix⟩ (String.ofList text) =
        ⟨text, .ofLine first.start.line⟩ := by
      rw [draftFor, String.toList_ofList]
      rfl
    rw [hdraft, Draft.carryOut_ofLine h.replaces (by omega)]
  have hleads : (begin disk).disk.resolve (Job.mk first (.literal fix)).finding.path =
      .ok (location, .file (.text (String.ofList text))) := htwo.leads
  obtain ⟨middle, hmiddle, hcarries⟩ := exists_carryOut hleads hnext
  refine ⟨middle, ?_, hcarries.effect, ?_⟩
  · rw [step_of_literalFix? h.replaces.fix_eq]
    exact hmiddle
  · unfold drift?
    rw [hcarries.drifts, find?_setDrift, if_pos htwo.same]

namespace IsBehind

/-- Behind the first fix, a pass over two goes on with the second one. -/
theorem run_eq (hbehind : middle.IsBehind disk location text fix first second)
    (htwo : findings.AreTwo disk location text first second) :
    run false findings disk = step false middle second := by
  rw [run, htwo.toList_eq, List.foldlM_cons, hbehind.step_eq, ok_bind, List.foldlM_cons]
  exact bind_pure _

/-- The second fix is located as on the draft of the file. -/
theorem aim_eq (hbehind : middle.IsBehind disk location text fix first second)
    (directive : Directive) :
    middle.aim second = (Draft.ofFix text fix first).aim ⟨second, directive⟩ := by
  rw [aim, hbehind.drift]
  rfl

theorem resolve (hbehind : middle.IsBehind disk location text fix first second)
    (htwo : findings.AreTwo disk location text first second) :
    middle.disk.resolve second.path =
      .ok (location, .file (.text (String.ofList (Draft.ofFix text fix first).text))) := by
  refine Disk.resolve_of_locationOf? ?_ ?_
  · rw [Disk.locationOf?_of_alike hbehind.effect.alike]
    exact Disk.locationOf?_of_resolve htwo.follows
  · rw [hbehind.effect.get?, if_pos rfl]

theorem draftFor_eq (hbehind : middle.IsBehind disk location text fix first second)
    (directive : Directive) :
    middle.draftFor ⟨second, directive⟩ (String.ofList (Draft.ofFix text fix first).text) =
      Draft.ofFix text fix first := by
  rw [draftFor, hbehind.drift, String.toList_ofList]
  rfl

/-- The second fix goes through if it does on the draft of the file. -/
theorem exists_step (hbehind : middle.IsBehind disk location text fix first second)
    (htwo : findings.AreTwo disk location text first second)
    (hmore : second.literalFix? = some more) {next : Draft}
    (hnext : (Draft.ofFix text fix first).carryOut ⟨second, .literal more⟩ = .ok next) :
    ∃ pass, step false middle second = .ok pass ∧
      Rewrite.Effect disk pass.disk location (String.ofList next.text) := by
  rw [← hbehind.draftFor_eq (.literal more)] at hnext
  have hresolve : middle.disk.resolve (Job.mk second (.literal more)).finding.path = _ :=
    hbehind.resolve htwo
  obtain ⟨pass, hpass, hcarries⟩ := exists_carryOut hresolve hnext
  refine ⟨pass, ?_, hbehind.effect.trans hcarries.effect⟩
  rw [step_of_literalFix? hmore]
  exact hpass

/-- If the second fix goes through it does on the draft of the file. -/
theorem exists_draft (hbehind : middle.IsBehind disk location text fix first second)
    (htwo : findings.AreTwo disk location text first second)
    (hmore : second.literalFix? = some more) (hstep : step false middle second = .ok pass) :
    ∃ next, (Draft.ofFix text fix first).carryOut ⟨second, .literal more⟩ = .ok next ∧
      Rewrite.Effect disk pass.disk location (String.ofList next.text) := by
  rw [step_of_literalFix? hmore] at hstep
  change middle.carryOut (Job.mk second (.literal more)).finding _ = _ at hstep
  obtain ⟨found, held, next, hresolve, hnext, hcarries⟩ := exists_draft_of_carryOut hstep
  obtain ⟨rfl, hheld⟩ :=
    Prod.mk.inj (Except.ok.inj (hresolve.symm.trans (hbehind.resolve htwo)))
  obtain rfl : held = String.ofList (Draft.ofFix text fix first).text := by simpa using hheld
  rw [hbehind.draftFor_eq] at hnext
  exact ⟨next, hnext, hbehind.effect.trans hcarries.effect⟩

theorem locate_eq_ok_iff (hbehind : middle.IsBehind disk location text fix first second)
    (h : first.Adjoins second text fix more) {span : Span} :
    (middle.aim second).locate second.start second.stop = .ok span ↔
      Finding.Adjoins.Lands first second text fix span := by
  rw [hbehind.aim_eq (.literal more), Drift.locate_eq_ok_iff]
  exact h.locates_iff

/-- Wherever the second fix lands, the pass goes through. -/
theorem exists_run_of_lands (hbehind : middle.IsBehind disk location text fix first second)
    (htwo : findings.AreTwo disk location text first second)
    (h : first.Adjoins second text fix more)
    (hapart : first.EndsBefore second ∨ second.EndsBefore first) {span : Span}
    (hlands : Finding.Adjoins.Lands first second text fix span) :
    ∃ pass, run false findings disk = .ok pass ∧
      Rewrite.Effect disk pass.disk location
        (String.ofList (Patch.weave (Draft.ofFix text fix first).text 0
          [span.patch (Draft.ofFix text fix first).text more])) := by
  obtain ⟨next, hnext, htext⟩ := h.exists_carryOut_of_lands hapart hlands
  rw [hbehind.run_eq htwo, ← htext]
  exact hbehind.exists_step htwo h.follows.fix_eq hnext

/-- If the pass goes through, the second fix has landed somewhere. -/
theorem exists_lands_of_run (hbehind : middle.IsBehind disk location text fix first second)
    (htwo : findings.AreTwo disk location text first second)
    (h : first.Adjoins second text fix more)
    (hapart : first.EndsBefore second ∨ second.EndsBefore first)
    (hrun : run false findings disk = .ok pass) :
    ∃ span, Finding.Adjoins.Lands first second text fix span ∧
      Rewrite.Effect disk pass.disk location
        (String.ofList (Patch.weave (Draft.ofFix text fix first).text 0
          [span.patch (Draft.ofFix text fix first).text more])) := by
  rw [hbehind.run_eq htwo] at hrun
  obtain ⟨next, hnext, heffect⟩ := hbehind.exists_draft htwo h.follows.fix_eq hrun
  obtain ⟨span, splice, hplans, -⟩ := Draft.carryOut_eq_ok_iff.mp hnext
  have hlands := h.locates_iff.mp hplans.locates
  obtain ⟨made, hmade, htext⟩ := h.exists_carryOut_of_lands hapart hlands
  obtain rfl := Except.ok.inj (hnext.symm.trans hmade)
  exact ⟨span, hlands, by rw [← htext]; exact heffect⟩

end IsBehind

/--
A match that begins on the line of an edit behind it, and goes on to a later line, is replaced
together with the stretch of the edit just if that has kept its length, or if it has grown and the
match takes the later line to its end: the columns by which the first line has moved are counted on
the later one too.
-/
theorem exists_run_reaching_iff (htwo : findings.AreTwo disk location text first second)
    (h : first.Adjoins second text fix more) (hbefore : first.EndsBefore second)
    (hsingle : first.start.line = first.stop.line) (hfree : '\n' ∉ fix)
    (hmany : second.start.line < second.stop.line) :
    (∃ pass, run false findings disk = .ok pass ∧
      Rewrite.Effect disk pass.disk location
        (String.ofList (Patch.weave text 0
          [first.patch text fix, second.patch text more]))) ↔
      fix.length = first.stop.col - first.start.col ∨
        (first.stop.col - first.start.col < fix.length ∧
          second.stop.col = (Text.lineOf text (second.stop.line - 1)).length + 1) := by
  obtain ⟨middle, hbehind⟩ := exists_isBehind htwo h
  have hgain := h.replaces.gain_span_of_eq hsingle
  have heqs := h.follows.eqs
  have hlines : second.start.place.line < second.stop.place.line := by omega
  have hlast : second.stop.line - 1 = second.stop.place.line := rfl
  have hcond : (first.span.gain fix = 0 ∨ (0 < first.span.gain fix ∧
      second.stop.place.col = (Text.lineOf text second.stop.place.line).length)) ↔
      fix.length = first.stop.col - first.start.col ∨
        (first.stop.col - first.start.col < fix.length ∧
          second.stop.col = (Text.lineOf text (second.stop.line - 1)).length + 1) := by
    rw [hgain, hlast]
    omega
  rw [← hcond]
  constructor
  · rintro ⟨pass, hrun, heffect⟩
    obtain ⟨span, hlands, hmade⟩ := hbehind.exists_lands_of_run htwo h (.inl hbefore) hrun
    exact (h.weave_patch_eq_iff hbefore hsingle hfree hlines hlands).mp
      (String.ofList_injective (hmade.unique heffect))
  · intro hright
    obtain ⟨span, hlands⟩ := @Finding.Adjoins.exists_lands first second text fix (by omega) (by omega)
    obtain ⟨pass, hrun, heffect⟩ := hbehind.exists_run_of_lands htwo h (.inl hbefore) hlands
    rw [(h.weave_patch_eq_iff hbefore hsingle hfree hlines hlands).mpr hright] at heffect
    exact ⟨pass, hrun, heffect⟩

/-- A letter gives way to three. -/
def widening : Finding :=
  .ofFix "r" "a.txt" (1, 1) (1, 2) "xyz"

/-- What stands behind it, up to a column of the next line, gives way to a letter. -/
def reaching (stop : Nat) : Finding :=
  .ofFix "r" "a.txt" (1, 2) (2, stop) "Q"

/-- The second fix takes the next line to its end. -/
theorem exists_run_reaching_iff_end :
    ∃ pass, run false (.ofList [widening, reaching 5]) (.ofFile "a.txt" "ab\ncdef\nend") =
        .ok pass ∧
      Rewrite.Effect (.ofFile "a.txt" "ab\ncdef\nend") pass.disk ["a.txt"] "xyzQ\nend" := by
  have htwo : Findings.AreTwo (.ofList [widening, reaching 5])
      (.ofFile "a.txt" "ab\ncdef\nend") ["a.txt"] "ab\ncdef\nend".toList widening (reaching 5) :=
    .ofFile rfl rfl
  have hadjoins : widening.Adjoins (reaching 5) "ab\ncdef\nend".toList "xyz".toList "Q".toList := by
    decide +kernel
  exact (exists_run_reaching_iff htwo hadjoins (by decide) rfl (by decide) (by decide)).mpr
    (.inr (by decide +kernel))

/-- If it does not, characters are left that stood behind the columns of the first line. -/
theorem not_forall_run_reaching :
    ¬∀ (findings : Findings) (disk : Disk) (location : Location) (text fix more : List Char)
        (first second : Finding), findings.AreTwo disk location text first second →
      first.Adjoins second text fix more → first.EndsBefore second →
      first.start.line = first.stop.line → '\n' ∉ fix → '\n' ∉ more →
      second.start.line < second.stop.line →
      ∃ pass, run false findings disk = .ok pass ∧
        Rewrite.Effect disk pass.disk location
          (String.ofList (Patch.weave text 0
            [first.patch text fix, second.patch text more])) := by
  intro h
  obtain ⟨pass, hrun, heffect⟩ := h (.ofList [widening, reaching 2]) (.ofFile "a.txt" "ab\ncdef")
    ["a.txt"] "ab\ncdef".toList "xyz".toList "Q".toList widening (reaching 2) (.ofFile rfl rfl)
    (by decide +kernel) (by decide) rfl (by decide) (by decide) (by decide)
  have hmade : ((run false (.ofList [widening, reaching 2])
      (.ofFile "a.txt" "ab\ncdef")).toOption.map fun pass => pass.disk.tree.get? ["a.txt"]) =
      some (some (.file (.text "xyzQf"))) := by decide +kernel
  exact absurd (eq_of_get?_run hmade hrun heffect) (by decide +kernel)

/--
A match that begins behind an edit, on the line on which that ended, is located where its text
stands now just if the edit was within a line, or was one of several lines that ends at the column
at which its stretch did.  Only then has the drift counted the columns by which the rest of the
line has moved.
-/
theorem exists_run_lands_iff (htwo : findings.AreTwo disk location text first second)
    (h : first.Adjoins second text fix more) (hbefore : first.EndsBefore second)
    (hsingle : second.start.line = second.stop.line) :
    ∃ middle pass span, step false (begin disk) first = .ok middle ∧
      Rewrite.Effect disk middle.disk location
        (String.ofList (Patch.weave text 0 [first.patch text fix])) ∧
      (middle.aim second).locate second.start second.stop = .ok span ∧
      run false findings disk = .ok pass ∧
      (span = Span.ofPatch (Patch.weave text 0 [first.patch text fix])
            ((second.patch text more).after (first.patch text fix)) ∧
          Rewrite.Effect disk pass.disk location
            (String.ofList (Patch.weave text 0
              [first.patch text fix, second.patch text more])) ↔
        (first.start.line = first.stop.line ∧ '\n' ∉ fix) ∨
          (first.start.line < first.stop.line ∧
            (first.start.place + Text.endOf fix).col = first.stop.place.col)) := by
  obtain ⟨middle, hbehind⟩ := exists_isBehind htwo h
  have hstart := h.start_col_nonneg hbefore
  have heqs := h.follows.eqs
  have hline := h.line_blockEnd.2.1
  have hordered := h.follows.place_ordered
  obtain ⟨span, hlands⟩ := Finding.Adjoins.exists_lands hstart (by omega)
  obtain ⟨pass, hrun, heffect⟩ := hbehind.exists_run_of_lands htwo h (.inl hbefore) hlands
  have hspan := h.eq_ofPatch_iff hbefore hlands
  have hwoven := h.weave_ofPatch (.inl hbefore)
  rw [Patch.both, if_pos (h.stop_le_start_iff.mpr hbefore)] at hwoven
  refine ⟨middle, pass, span, hbehind.step_eq, hbehind.effect,
    (hbehind.locate_eq_ok_iff h).mpr hlands, hrun, ?_⟩
  rw [← h.replaces.col_blockEnd_iff]
  constructor
  · rintro ⟨hright, -⟩
    exact (hspan.mp hright).1
  · intro hcol
    have hright := hspan.mpr ⟨hcol, fun hlt => absurd hlt (by omega)⟩
    refine ⟨hright, ?_⟩
    rw [hright, hwoven] at heffect
    exact heffect

/-- A stretch of two lines gives way to two lines that end at the same column. -/
def folding : Finding :=
  .ofFix "r" "a.txt" (1, 2) (2, 2) "x\ny"

/-- The rest of the second of these lines gives way to two letters. -/
def trailing : Finding :=
  .ofFix "r" "a.txt" (2, 2) (2, 3) "QQ"

/-- That rest is found behind the new lines. -/
theorem exists_run_lands_iff_folding :
    ∃ middle pass, step false (begin (.ofFile "a.txt" "ab\ncd\ne")) folding = .ok middle ∧
      Rewrite.Effect (.ofFile "a.txt" "ab\ncd\ne") middle.disk ["a.txt"] "ax\nyd\ne" ∧
      (middle.aim trailing).locate trailing.start trailing.stop = .ok ⟨1, 1, 1, 2⟩ ∧
      run false (.ofList [folding, trailing]) (.ofFile "a.txt" "ab\ncd\ne") = .ok pass ∧
      Rewrite.Effect (.ofFile "a.txt" "ab\ncd\ne") pass.disk ["a.txt"] "ax\nyQQ\ne" := by
  have hadjoins : folding.Adjoins trailing "ab\ncd\ne".toList "x\ny".toList "QQ".toList := by
    decide +kernel
  obtain ⟨middle, pass, span, hmiddle, hfirst, hlocate, hrun, hiff⟩ :=
    exists_run_lands_iff (.ofFile rfl rfl) hadjoins (by decide) rfl
  obtain ⟨rfl, hsecond⟩ := hiff.mpr (.inr (by decide +kernel))
  have hspan : Span.ofPatch (Patch.weave "ab\ncd\ne".toList 0
      [folding.patch "ab\ncd\ne".toList "x\ny".toList])
        ((trailing.patch "ab\ncd\ne".toList "QQ".toList).after
          (folding.patch "ab\ncd\ne".toList "x\ny".toList)) = ⟨1, 1, 1, 2⟩ := by
    decide +kernel
  rw [hspan] at hlocate
  exact ⟨middle, pass, hmiddle, hfirst, hlocate, hrun, hsecond⟩

/-- A letter gives way to two lines, so the letter behind it comes to stand on the second one. -/
def breaking : Finding :=
  .ofFix "r" "a.txt" (1, 1) (1, 2) "x\ny"

/-- The drift has counted the newline as a column, and the fix of that letter misses it. -/
theorem not_forall_run_lands :
    ¬∀ (findings : Findings) (disk : Disk) (location : Location) (text fix more : List Char)
        (first second : Finding), findings.AreTwo disk location text first second →
      first.Adjoins second text fix more → first.EndsBefore second →
      second.start.line = second.stop.line →
      ∃ middle pass, step false (begin disk) first = .ok middle ∧
        (middle.aim second).locate second.start second.stop =
          .ok (Span.ofPatch (Patch.weave text 0 [first.patch text fix])
            ((second.patch text more).after (first.patch text fix))) ∧
        run false findings disk = .ok pass ∧
        Rewrite.Effect disk pass.disk location
          (String.ofList (Patch.weave text 0
            [first.patch text fix, second.patch text more])) := by
  intro h
  obtain ⟨middle, pass, -, -, hrun, heffect⟩ := h
    (.ofList [breaking, .ofFix "r" "a.txt" (1, 2) (1, 3) "Q"]) (.ofFile "a.txt" "ab") ["a.txt"]
    "ab".toList "x\ny".toList "Q".toList breaking (.ofFix "r" "a.txt" (1, 2) (1, 3) "Q")
    (.ofFile rfl rfl) (by decide +kernel) (by decide) rfl
  have hmade : ((run false (.ofList [breaking, .ofFix "r" "a.txt" (1, 2) (1, 3) "Q"])
      (.ofFile "a.txt" "ab")).toOption.map fun pass => pass.disk.tree.get? ["a.txt"]) =
      some (some (.file (.text "x\nybQ"))) := by decide +kernel
  exact absurd (eq_of_get?_run hmade hrun heffect) (by decide +kernel)

/--
Of two fixes on one line, whichever comes first, the second one is made where its text stands just
if that is behind the first one, or if the first one has not changed the length of the line: the
drift counts in front of an edit as it does behind it.
-/
theorem exists_run_both_iff (htwo : findings.AreTwo disk location text first second)
    (h : first.Adjoins second text fix more) (hfirst : first.start.line = first.stop.line)
    (hsecond : second.start.line = second.stop.line) (hfree : '\n' ∉ fix)
    (hapart : first.EndsBefore second ∨ second.EndsBefore first) :
    (∃ middle pass, step false (begin disk) first = .ok middle ∧
      Rewrite.Effect disk middle.disk location
        (String.ofList (Patch.weave text 0 [first.patch text fix])) ∧
      (middle.aim second).locate second.start second.stop =
        .ok (Span.ofPatch (Patch.weave text 0 [first.patch text fix])
          ((second.patch text more).after (first.patch text fix))) ∧
      run false findings disk = .ok pass ∧
      Rewrite.Effect disk pass.disk location
        (String.ofList (Patch.weave text 0
          (Patch.both (first.patch text fix) (second.patch text more))))) ↔
      first.stop.col ≤ second.start.col ∨
        fix.length = first.stop.col - first.start.col := by
  obtain ⟨middle, hbehind⟩ := exists_isBehind htwo h
  have hline := h.line_eq
  have hlands : Finding.Adjoins.Lands first second text fix
      (Span.ofPatch (Draft.ofFix text fix first).text
        ((second.patch text more).after (first.patch text fix))) ↔
      first.stop.col ≤ second.start.col ∨
        fix.length = first.stop.col - first.start.col := by
    by_cases hbefore : first.EndsBefore second
    · refine iff_of_true (h.lands_ofPatch hbefore hfirst hsecond hfree) (.inl ?_)
      unfold Finding.EndsBefore at hbefore
      omega
    · have hordered := h.replaces.ordered
      have hpos := h.replaces.start.col_pos
      rw [h.ofPatch_after_of_not_endsBefore (hapart.resolve_left hbefore) hbefore,
        h.lands_span_iff hfirst hsecond hfree,
        h.replaces.gain_span_of_eq hfirst]
      unfold Finding.EndsBefore at hbefore
      omega
  rw [← hlands]
  constructor
  · rintro ⟨other, pass, hstep, -, hlocate, -⟩
    obtain rfl := Except.ok.inj (hstep.symm.trans hbehind.step_eq)
    exact (hbehind.locate_eq_ok_iff h).mp hlocate
  · intro hright
    obtain ⟨pass, hrun, heffect⟩ := hbehind.exists_run_of_lands htwo h hapart hright
    rw [h.weave_ofPatch hapart] at heffect
    exact ⟨middle, pass, hbehind.step_eq, hbehind.effect,
      (hbehind.locate_eq_ok_iff h).mpr hright, hrun, heffect⟩

/-- A match of a rule that stands further right on its line than that of the next rule. -/
def rightmost (fix : String) : Finding :=
  .ofFix "a" "a.txt" (1, 3) (1, 4) fix

/-- A match of the next rule, at the start of the line. -/
def leftmost (fix : String) : Finding :=
  .ofFix "b" "a.txt" (1, 1) (1, 2) fix

/-- A fix that keeps the length of its line leaves what stands in front of it. -/
theorem exists_run_both_iff_leftward :
    ∃ middle pass, step false (begin (.ofFile "a.txt" "abcd")) (rightmost "Z") = .ok middle ∧
      Rewrite.Effect (.ofFile "a.txt" "abcd") middle.disk ["a.txt"] "abZd" ∧
      (middle.aim (leftmost "QQ")).locate (leftmost "QQ").start (leftmost "QQ").stop =
        .ok ⟨0, 0, 0, 1⟩ ∧
      run false (.ofList [rightmost "Z", leftmost "QQ"]) (.ofFile "a.txt" "abcd") = .ok pass ∧
      Rewrite.Effect (.ofFile "a.txt" "abcd") pass.disk ["a.txt"] "QQbZd" := by
  have hadjoins : (rightmost "Z").Adjoins (leftmost "QQ") "abcd".toList "Z".toList
      "QQ".toList := by
    decide +kernel
  obtain ⟨middle, pass, hmiddle, hfirst, hlocate, hrun, hsecond⟩ :=
    (exists_run_both_iff (.ofFile rfl rfl) hadjoins rfl rfl (by decide)
      (.inr (by decide))).mpr (.inr (by decide))
  have hspan : Span.ofPatch (Patch.weave "abcd".toList 0
      [(rightmost "Z").patch "abcd".toList "Z".toList])
        (((leftmost "QQ").patch "abcd".toList "QQ".toList).after
          ((rightmost "Z").patch "abcd".toList "Z".toList)) = ⟨0, 0, 0, 1⟩ := by
    decide +kernel
  rw [hspan] at hlocate
  exact ⟨middle, pass, hmiddle, hfirst, hlocate, hrun, hsecond⟩

/-- A fix that makes its line longer shifts a match in front of it as if that stood behind. -/
theorem not_forall_run_both :
    ¬∀ (findings : Findings) (disk : Disk) (location : Location) (text fix more : List Char)
        (first second : Finding), findings.AreTwo disk location text first second →
      first.Adjoins second text fix more → first.start.line = first.stop.line →
      second.start.line = second.stop.line → '\n' ∉ fix → '\n' ∉ more →
      first.EndsBefore second ∨ second.EndsBefore first →
      ∃ pass, run false findings disk = .ok pass ∧
        Rewrite.Effect disk pass.disk location
          (String.ofList (Patch.weave text 0
            (Patch.both (first.patch text fix) (second.patch text more)))) := by
  intro h
  obtain ⟨pass, hrun, heffect⟩ := h (.ofList [rightmost "XYZ", leftmost "Q"])
    (.ofFile "a.txt" "abcd") ["a.txt"] "abcd".toList "XYZ".toList "Q".toList (rightmost "XYZ")
    (leftmost "Q") (.ofFile rfl rfl) (by decide +kernel) rfl rfl (by decide) (by decide)
    (.inr (by decide))
  have hmade : ((run false (.ofList [rightmost "XYZ", leftmost "Q"])
      (.ofFile "a.txt" "abcd")).toOption.map fun pass => pass.disk.tree.get? ["a.txt"]) =
      some (some (.file (.text "abQYZd"))) := by decide +kernel
  exact absurd (eq_of_get?_run hmade hrun heffect) (by decide +kernel)

end Fix.Pass

end Remedy
