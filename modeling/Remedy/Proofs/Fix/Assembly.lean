import Mathlib.Data.List.Chain
import Remedy.Proofs.Fix.Patch
import Remedy.Proofs.Fix.Trial

/-!
# What a pass assembles from its previews

A trial works every job out on the file as it is; a pass that writes works it out on what the
jobs before have left.  Where the matches in a file follow one another line by line, a draft is
at every moment the finished lines followed by lines that are still as they were, and the next
job lies in the latter.  So it makes the block that was shown, unless a sum of the pass leaves
the range of offsets.
-/

namespace Remedy

/-- What words of 64 bits and texts that fit into memory can hold of a finding. -/
structure Finding.IsStored (finding : Finding) : Prop where
  startLine : finding.start.line < 2 ^ 64
  startCol : finding.start.col < 2 ^ 64
  stopLine : finding.stop.line < 2 ^ 64
  stopCol : finding.stop.col < 2 ^ 64
  fix : ∀ fix, finding.literalFix? = some fix → fix.length < 2 ^ 63

instance (finding : Finding) : Decidable finding.IsStored :=
  decidable_of_iff (finding.start.line < 2 ^ 64 ∧ finding.start.col < 2 ^ 64 ∧
      finding.stop.line < 2 ^ 64 ∧ finding.stop.col < 2 ^ 64 ∧
      ∀ fix ∈ finding.literalFix?, fix.length < 2 ^ 63)
    ⟨fun ⟨a, b, c, d, e⟩ => ⟨a, b, c, d, e⟩, fun ⟨a, b, c, d, e⟩ => ⟨a, b, c, d, e⟩⟩

namespace Fix

open Outcome

/-- The literal fix of a directive is that of its finding. -/
theorem Directive.literalFix?_of_ofFinding {finding : Finding} {fix : List Char}
    (hfix : ofFinding finding = .ok (some (.literal fix))) : finding.literalFix? = some fix := by
  unfold ofFinding at hfix
  split at hfix
  · rename_i found hfound
    rw [hfound]
    simpa using hfix
  · split at hfix
    · unfold ofSubstitution at hfix
      split at hfix
      · split at hfix
        · cases hfix
        · split at hfix <;> cases hfix
      · cases hfix
    · cases hfix

/-- How the span of a job lies on a file that nothing was written to. -/
structure Job.Sits (job : Job) (span : Span) : Prop where
  startLine : job.finding.start.line = span.startLine + 1
  startCol : job.finding.start.col = span.startCol + 1
  stopLine : job.finding.stop.line = span.stopLine + 1
  stopCol : job.finding.stop.col = span.stopCol + 1
  ordered : span.startLine ≤ span.stopLine
  stopLine_lt : job.finding.stop.line < 2 ^ 63
  startCol_lt : job.finding.start.col < 2 ^ 63
  stopCol_lt : job.finding.stop.col < 2 ^ 63

namespace Drift

/-- A number that was shifted by nothing is one more than what came of it. -/
theorem eq_succ_of_shift {value index : Nat} (hstored : value < 2 ^ 64)
    (hshift : shift value 0 = .ok index) : value = index + 1 ∧ value < 2 ^ 63 := by
  obtain ⟨-, -, hindex⟩ := shift_eq_ok_iff.mp hshift
  rw [Int.add_zero] at hindex
  exact (Offset.ofNat_sub_one_eq_iff hstored).mp hindex.symm

/-- A match on a file that nothing was written to lies where it says. -/
theorem Locates.sits {line : Nat} {job : Job} {span : Span}
    (hlocates : (ofLine line).Locates job.finding.start job.finding.stop span)
    (hstored : job.finding.IsStored) : job.Sits span := by
  obtain ⟨hstart, -⟩ := eq_succ_of_shift hstored.startLine hlocates.startLine
  obtain ⟨hstop, hstoplt⟩ := eq_succ_of_shift hstored.stopLine hlocates.stopLine
  obtain ⟨hcol, hcollt⟩ := eq_succ_of_shift hstored.startCol hlocates.startCol
  obtain ⟨hend, hendlt⟩ := eq_succ_of_shift hstored.stopCol hlocates.stopCol
  exact ⟨hstart, hcol, hstop, hend, hlocates.ordered, hstoplt, hcollt, hendlt⟩

/-- Where no column has moved, a match that moves by lines keeps its columns. -/
theorem Locates.of_sits {drift : Drift} {job : Job} {span moved : Span} (hsits : job.Sits span)
    (hcols : drift.cols = 0) (hstart : (moved.startLine : Int) = span.startLine + drift.lines)
    (hstop : (moved.stopLine : Int) = span.stopLine + drift.lines)
    (hoffset : Offset.IsOffset moved.stopLine) (hstartCol : moved.startCol = span.startCol)
    (hstopCol : moved.stopCol = span.stopCol) :
    drift.Locates job.finding.start job.finding.stop moved := by
  have hordered := hsits.ordered
  have hstarts := hsits.startLine
  have hstops := hsits.stopLine
  have hlt := hsits.stopLine_lt
  have hcol := hsits.startCol
  have hcollt := hsits.startCol_lt
  have hend := hsits.stopCol
  have hendlt := hsits.stopCol_lt
  unfold Offset.IsOffset at hoffset
  refine ⟨?_, ?_, by omega, ?_, ?_⟩
  · rw [shift_eq_ok_iff_of_lt (by omega)]
    unfold Offset.IsOffset
    omega
  · rw [shift_eq_ok_iff_of_lt (by omega)]
    unfold Offset.IsOffset
    omega
  · rw [shift_eq_ok_iff_of_lt (by omega), hcols, hstartCol]
    unfold Offset.IsOffset
    omega
  · rw [shift_eq_ok_iff_of_lt (by omega), hcols, hstopCol]
    unfold Offset.IsOffset
    omega

end Drift

/-- Recording a fix on columns that have not moved can only fail by its lines. -/
theorem Directive.exists_record? {directive : Directive} {drift : Drift} {span : Span}
    {delta : Int} (hcols : drift.cols = 0) (hwidth : span.stopCol < 2 ^ 63)
    (hfix : ∀ fix, directive = .literal fix → fix.length < 2 ^ 63)
    (hlines : Offset.IsOffset (drift.lines + delta)) :
    ∃ after, directive.record? drift span delta = some after := by
  cases directive with
  | literal fix =>
      have hchars := hfix fix rfl
      have hspan : span.width < 2 ^ 63 := by
        unfold Span.width
        omega
      have hgained : Offset.IsOffset (Drift.gained span fix.length) := by
        unfold Drift.gained
        rw [Offset.ofNat_of_lt hchars, Offset.ofNat_of_lt hspan]
        unfold Offset.IsOffset
        omega
      by_cases hsingle : span.startLine = span.stopLine
      · refine ⟨⟨drift.lines + delta, drift.cols + Drift.gained span fix.length,
          drift.activeLine⟩, record?_literal.mpr (Drift.recordLiteral_eq_ok_iff.mpr ?_)⟩
        rw [if_pos hsingle, hcols, Int.zero_add]
        exact ⟨hlines, hgained, hgained, rfl⟩
      · refine ⟨{ drift with lines := drift.lines + delta },
          record?_literal.mpr (Drift.recordLiteral_eq_ok_iff.mpr ?_)⟩
        rw [if_neg hsingle]
        exact ⟨hlines, rfl⟩
  | substitution pattern template count =>
      exact ⟨_, record?_substitution.mpr (Drift.recordLines_eq_ok_iff.mpr ⟨hlines, rfl⟩)⟩

/-- The patch that a preview shows for a file of so many lines. -/
def Job.patch (count : Nat) (shown : Job × Preview) : Patch (List Char) :=
  ⟨shown.1.finding.start.line - 1, min shown.1.finding.stop.line count, shown.2.lines⟩

/-- What was worked out for a job on a file that nothing was written to. -/
structure Draft.Fresh (text : List Char) (shown : Job × Preview) (span : Span)
    (splice : Splice) : Prop where
  plans : (Draft.ofText text).Plans shown.1 span splice
  lines : shown.2.lines = splice.block
  sits : shown.1.Sits span
  fix : ∀ fix, shown.1.directive = .literal fix → fix.length < 2 ^ 63

namespace Draft.Fresh

variable {text : List Char} {shown : Job × Preview} {span : Span} {splice : Splice}

/-- How the span of a job cuts the lines of the file. -/
theorem cut (fresh : Fresh text shown span splice) :
    Cut text shown.1.directive span ((Text.split text).take span.startLine)
      (((Text.split text).take (span.stopLine + 1)).drop span.startLine)
      ((Text.split text).drop (span.stopLine + 1)) :=
  .of_splice fresh.sits.ordered fresh.plans.splice

/-- The patch covers the lines that the span covers. -/
theorem patch_eq (fresh : Fresh text shown span splice) :
    (Job.patch (Text.split text).length shown).start = span.startLine ∧
      (Job.patch (Text.split text).length shown).stop =
        min (span.stopLine + 1) (Text.split text).length ∧
      (Job.patch (Text.split text).length shown).block = splice.block := by
  refine ⟨?_, ?_, fresh.lines⟩
  · show shown.1.finding.start.line - 1 = span.startLine
    rw [fresh.sits.startLine]
    rfl
  · show min shown.1.finding.stop.line _ = _
    rw [fresh.sits.stopLine]

/-- The patch gains as many lines as the splice. -/
theorem gain_eq (fresh : Fresh text shown span splice) :
    (Job.patch (Text.split text).length shown).gain = splice.delta := by
  obtain ⟨hstart, hstop, hblock⟩ := fresh.patch_eq
  obtain ⟨-, hdelta, -⟩ := fresh.cut.split_text fresh.plans.splice
  rw [hdelta, Patch.gain, hstart, hstop, hblock, List.length_drop, List.length_take]

end Draft.Fresh

/--
A draft in which the finished lines stand in front of those lines of the file that are still as
they were, and columns have moved at most on a line that is finished.
-/
structure Draft.Woven (text : List Char) (draft : Draft) (done : List (List Char))
    (passed : Nat) : Prop where
  text_eq : draft.text = Text.join (done ++ (Text.split text).drop passed)
  free : ∀ line ∈ done, '\n' ∉ line
  gained : draft.drift.lines = (done.length : Int) - passed
  cols : draft.drift.cols ≠ 0 → draft.drift.activeLine ≤ passed

namespace Draft.Woven

variable {text : List Char} {draft next : Draft} {done : List (List Char)} {passed : Nat}
  {shown : Job × Preview} {span : Span} {splice : Splice}

/-- A file that nothing was written to. -/
theorem ofText (text : List Char) : Woven text (.ofText text) [] 0 := by
  refine ⟨?_, fun _ hmem => absurd hmem List.not_mem_nil, rfl, fun hne => absurd rfl hne⟩
  rw [List.nil_append, List.drop_zero, Text.join_split]
  rfl

/-- If the file has not come to its end, these are the lines of the draft. -/
theorem split_text (woven : Woven text draft done passed)
    (hpassed : passed < (Text.split text).length) :
    Text.split draft.text = done ++ (Text.split text).drop passed := by
  rw [woven.text_eq, Text.split_join]
  · intro hnil
    have hdrop := List.drop_eq_nil_iff.mp (List.append_eq_nil_iff.mp hnil).2
    omega
  · intro line hline
    rcases List.mem_append.mp hline with hdone | hlater
    · exact woven.free line hdone
    · exact Text.not_mem_of_mem_split (List.mem_of_mem_drop hlater)

/-- No column has moved on the line of a job that begins behind the finished lines. -/
theorem cols_aim (woven : Woven text draft done passed) {job : Job}
    (hjob : passed < job.finding.start.line) : (draft.aim job).cols = 0 := by
  by_cases hline : draft.drift.activeLine = job.finding.start.line
  · rw [Draft.aim, Drift.enterLine_of_eq hline]
    by_contra hcols
    have hactive := woven.cols hcols
    omega
  · exact Drift.cols_enterLine_of_ne hline

/-- The lines of the draft once the block of a job is in. -/
def doneWith (text : List Char) (done : List (List Char)) (passed : Nat)
    (patch : Patch (List Char)) : List (List Char) :=
  done ++ ((Text.split text).take patch.start).drop passed ++ patch.block

/-- How the lines of the draft are cut where a job behind the finished lines lies now. -/
theorem cut (woven : Woven text draft done passed) (fresh : Fresh text shown span splice)
    (hpassed : passed ≤ span.startLine) :
    Cut draft.text shown.1.directive
      ⟨span.startLine - passed + done.length, span.startCol,
        span.stopLine - passed + done.length, span.stopCol⟩
      (done ++ ((Text.split text).take span.startLine).drop passed)
      (((Text.split text).take (span.stopLine + 1)).drop span.startLine)
      ((Text.split text).drop (span.stopLine + 1)) := by
  have hcut := fresh.cut
  have hordered := fresh.sits.ordered
  have hstart := hcut.startLine
  have hlength := hcut.length_split
  have hcovered := List.length_pos_iff.mpr hcut.covered_ne
  have hbefore : (done ++ ((Text.split text).take span.startLine).drop passed).length =
      span.startLine - passed + done.length := by
    rw [List.length_append, List.length_drop, ← hstart, Nat.add_comm]
  have hdrop : (Text.split text).drop passed =
      ((Text.split text).take span.startLine).drop passed ++
        (((Text.split text).take (span.stopLine + 1)).drop span.startLine ++
          (Text.split text).drop (span.stopLine + 1)) := by
    rw [← List.drop_append_of_le_length (by rw [← hstart]; exact hpassed), ← List.append_assoc,
      ← hcut.split]
  refine ⟨?_, hbefore.symm, hcut.covered_ne, ?_⟩
  · rw [woven.split_text (by omega), hdrop, List.append_assoc, List.append_assoc]
  · rw [hbefore]
    dsimp only
    rcases hcut.stopLine with hstop | ⟨hsubstitution, hbehind, hstop⟩
    · left
      omega
    · right
      exact ⟨hsubstitution, hbehind, by omega⟩

/-- A job behind the finished lines makes the block that was shown. -/
theorem exists_plans (woven : Woven text draft done passed)
    (fresh : Fresh text shown span splice) (hpassed : passed ≤ span.startLine)
    (hoffset : Offset.IsOffset (shown.1.finding.stop.line - 1 + draft.drift.lines)) :
    ∃ moved made, draft.Plans shown.1 moved made ∧ moved.stopCol = span.stopCol ∧
      made.block = splice.block ∧ made.delta = splice.delta ∧
      made.text = Text.join
        (doneWith text done passed (Job.patch (Text.split text).length shown) ++
          (Text.split text).drop (Job.patch (Text.split text).length shown).stop) := by
  have hordered := fresh.sits.ordered
  have hstarts := fresh.sits.startLine
  have hstops := fresh.sits.stopLine
  have hgained := woven.gained
  obtain ⟨-, hdelta, hblock⟩ := fresh.cut.split_text fresh.plans.splice
  obtain ⟨hstart, hstop, hshown⟩ := fresh.patch_eq
  have hsplice := (woven.cut fresh hpassed).splice_eq
  rw [hblock] at hsplice
  refine ⟨_, _, ⟨?_, hsplice⟩, rfl, rfl, hdelta.symm, ?_⟩
  · refine Drift.Locates.of_sits fresh.sits (woven.cols_aim (by omega)) ?_ ?_ ?_ rfl rfl
    · rw [Draft.lines_aim]
      dsimp only
      omega
    · rw [Draft.lines_aim]
      dsimp only
      omega
    · unfold Offset.IsOffset at hoffset ⊢
      dsimp only
      omega
  · rw [doneWith, hstart, hstop, hshown]
    have hdrop : (Text.split text).drop (min (span.stopLine + 1) (Text.split text).length) =
        (Text.split text).drop (span.stopLine + 1) := by
      rcases Nat.le_total (span.stopLine + 1) (Text.split text).length with hle | hge
      · rw [Nat.min_eq_left hle]
      · rw [Nat.min_eq_right hge, List.drop_length, List.drop_eq_nil_of_le hge]
    rw [hdrop]

/-- A job behind the finished lines fails only if a sum is too large. -/
theorem exists_carryOut_iff (woven : Woven text draft done passed)
    (fresh : Fresh text shown span splice) (hpassed : passed ≤ span.startLine) :
    (∃ next, draft.carryOut shown.1 = .ok next) ↔
      Offset.IsOffset (shown.1.finding.stop.line - 1 + draft.drift.lines) ∧
        Offset.IsOffset
          (draft.drift.lines + (Job.patch (Text.split text).length shown).gain) := by
  have hstarts := fresh.sits.startLine
  have hstops := fresh.sits.stopLine
  have hstoplt := fresh.sits.stopLine_lt
  rw [fresh.gain_eq]
  constructor
  · rintro ⟨next, hnext⟩
    obtain ⟨moved, made, hplans, -, hrecord⟩ := carryOut_eq_ok_iff.mp hnext
    have hshift := (Drift.shift_eq_ok_iff_of_lt (by omega)).mp hplans.locates.stopLine
    rw [lines_aim] at hshift
    obtain ⟨found, remade, hfound, -, -, hdelta, -⟩ :=
      woven.exists_plans fresh hpassed hshift.1
    obtain ⟨-, rfl⟩ := hplans.unique hfound
    obtain ⟨hlines, -⟩ := Directive.lines_of_record? hrecord
    rw [lines_aim, hdelta] at hlines
    exact ⟨hshift.1, hlines⟩
  · rintro ⟨hoffset, hlines⟩
    obtain ⟨moved, made, hplans, hcol, -, hdelta, -⟩ :=
      woven.exists_plans fresh hpassed hoffset
    have hwidth : moved.stopCol < 2 ^ 63 := by
      have hstopCol := fresh.sits.stopCol
      have hstopCollt := fresh.sits.stopCol_lt
      omega
    obtain ⟨drift, hdrift⟩ := @Directive.exists_record? shown.1.directive (draft.aim shown.1)
      moved made.delta (woven.cols_aim (by omega)) hwidth fresh.fix
      (by rw [lines_aim, hdelta]; exact hlines)
    exact ⟨⟨made.text, drift⟩, carryOut_eq_ok_iff.mpr ⟨moved, made, hplans, rfl, hdrift⟩⟩

/-- What a job behind the finished lines leaves. -/
theorem eq_of_carryOut (woven : Woven text draft done passed)
    (fresh : Fresh text shown span splice) (hpassed : passed ≤ span.startLine)
    (hnext : draft.carryOut shown.1 = .ok next) :
    next.text = Text.join
        (doneWith text done passed (Job.patch (Text.split text).length shown) ++
          (Text.split text).drop (Job.patch (Text.split text).length shown).stop) ∧
      next.drift.lines =
        draft.drift.lines + (Job.patch (Text.split text).length shown).gain ∧
      next.drift.activeLine = shown.1.finding.start.line := by
  obtain ⟨hoffset, -⟩ := (woven.exists_carryOut_iff fresh hpassed).mp ⟨next, hnext⟩
  obtain ⟨moved, made, hplans, -, -, hdelta, htext⟩ :=
    woven.exists_plans fresh hpassed hoffset
  obtain ⟨found, remade, hfound, hnexttext, hrecord⟩ := carryOut_eq_ok_iff.mp hnext
  obtain ⟨rfl, rfl⟩ := hplans.unique hfound
  obtain ⟨-, hlines, hactive⟩ := Directive.lines_of_record? hrecord
  rw [lines_aim, hdelta, ← fresh.gain_eq] at hlines
  rw [activeLine_aim] at hactive
  exact ⟨hnexttext.trans htext, hlines, hactive⟩

/-- A job behind the finished lines puts its block in and finishes the lines that it covers. -/
theorem carryOut (woven : Woven text draft done passed)
    (fresh : Fresh text shown span splice) (hpassed : passed ≤ span.startLine)
    (hnext : draft.carryOut shown.1 = .ok next) :
    Woven text next (doneWith text done passed (Job.patch (Text.split text).length shown))
      (Job.patch (Text.split text).length shown).stop := by
  obtain ⟨htext, hlines, hactive⟩ := woven.eq_of_carryOut fresh hpassed hnext
  obtain ⟨hstart, hstop, hshown⟩ := fresh.patch_eq
  have hcut := fresh.cut
  have hordered := fresh.sits.ordered
  have hbefore := hcut.startLine
  have hlength := hcut.length_split
  have hcovered := List.length_pos_iff.mpr hcut.covered_ne
  refine ⟨htext, ?_, ?_, ?_⟩
  · intro line hline
    rcases List.mem_append.mp hline with hfront | hline
    · rcases List.mem_append.mp hfront with hdone | hkept
      · exact woven.free line hdone
      · exact Text.not_mem_of_mem_split (List.mem_of_mem_take (List.mem_of_mem_drop hkept))
    · rw [hshown] at hline
      obtain ⟨-, -, hmade⟩ := hcut.split_text fresh.plans.splice
      exact Directive.newline_not_mem_of_mem_block hmade line hline
  · rw [hlines, woven.gained, doneWith, Patch.gain]
    simp only [List.length_append, List.length_drop]
    rw [hstart, hstop, ← hbefore]
    omega
  · intro _
    rw [hactive, hstop, fresh.sits.startLine]
    omega

end Draft.Woven

/--
Holds if no sum leaves the range of offsets when patches are put in from the top to the bottom:
neither the place where a match ends now, nor the number of lines that the file has gained.
-/
def Job.StayInRange (count : Nat) (gained : Int) : List (Job × Preview) → Prop
  | [] => True
  | shown :: rest =>
      Offset.IsOffset (shown.1.finding.stop.line - 1 + gained) ∧
        Offset.IsOffset (gained + (Job.patch count shown).gain) ∧
        StayInRange count (gained + (Job.patch count shown).gain) rest

/-- The jobs that were shown for the file at a location. -/
def Job.shownAt (disk : Disk) (location : Location) (all : List (Job × Preview)) :
    List (Job × Preview) :=
  all.filter fun shown => disk.locationOf? shown.1.finding.path = some location

/-- Holds if each match begins behind the last line of the one before it. -/
def Job.FollowByLine (jobs : List Job) : Prop :=
  jobs.IsChain fun a b => a.finding.stop.line < b.finding.start.line

/-- Matches each of which begins behind all that come before it do so in every file. -/
theorem Job.FollowByLine.of_pairwise {jobs : List Job}
    (h : jobs.Pairwise fun a b => a.finding.stop.line < b.finding.start.line) (disk : Disk)
    (location : Location) : FollowByLine (leadingTo disk location jobs) :=
  (h.filter _).isChain

namespace Draft.Woven

variable {text : List Char} {draft final : Draft} {done : List (List Char)} {passed : Nat}
  {all : List (Job × Preview)}

/-- The first of the jobs behind the finished lines, and what is left for the others. -/
theorem exists_fresh_of_cons {shown : Job × Preview}
    (hfresh : ∀ other ∈ shown :: all, ∃ span splice, Fresh text other span splice)
    (hfollow : Job.FollowByLine ((shown :: all).map (·.1)))
    (hfirst : passed < shown.1.finding.start.line) :
    (∃ span splice, Fresh text shown span splice ∧ passed ≤ span.startLine) ∧
      (∀ other ∈ all, ∃ span splice, Fresh text other span splice) ∧
      Job.FollowByLine (all.map (·.1)) ∧
      ∀ other ∈ all.head?,
        (Job.patch (Text.split text).length shown).stop < other.1.finding.start.line := by
  obtain ⟨⟨span, splice, fresh⟩, hothers⟩ := List.forall_mem_cons.mp hfresh
  obtain ⟨hnext, hrest⟩ := List.isChain_cons.mp hfollow
  refine ⟨⟨span, splice, fresh, ?_⟩, hothers, hrest, ?_⟩
  · have hstarts := fresh.sits.startLine
    omega
  · intro other hother
    refine Nat.lt_of_le_of_lt (Nat.min_le_left _ _) (hnext other.1 ?_)
    rw [List.head?_map]
    exact Option.mem_map_of_mem _ hother

/-- Jobs that follow one another line by line fail only if a sum is too large. -/
theorem exists_run_iff (woven : Woven text draft done passed)
    (hfresh : ∀ shown ∈ all, ∃ span splice, Fresh text shown span splice)
    (hfollow : Job.FollowByLine (all.map (·.1)))
    (hfirst : ∀ shown ∈ all.head?, passed < shown.1.finding.start.line) :
    (∃ final, draft.run (all.map (·.1)) = .ok final) ↔
      Job.StayInRange (Text.split text).length draft.drift.lines all := by
  induction all generalizing draft done passed with
  | nil => exact ⟨fun _ => trivial, fun _ => ⟨draft, rfl⟩⟩
  | cons shown rest ih =>
      obtain ⟨⟨span, splice, fresh, hpassed⟩, hothers, hlater, hhead⟩ :=
        exists_fresh_of_cons hfresh hfollow (hfirst shown rfl)
      rw [List.map_cons, Job.StayInRange]
      constructor
      · rintro ⟨final, hrun⟩
        obtain ⟨next, hnext, hfinal⟩ := run_cons_eq_ok_iff.mp hrun
        obtain ⟨hoffset, hlines⟩ := (woven.exists_carryOut_iff fresh hpassed).mp ⟨next, hnext⟩
        refine ⟨hoffset, hlines, ?_⟩
        rw [← (woven.eq_of_carryOut fresh hpassed hnext).2.1]
        exact (ih (woven.carryOut fresh hpassed hnext) hothers hlater hhead).mp ⟨final, hfinal⟩
      · rintro ⟨hoffset, hlines, hrest⟩
        obtain ⟨next, hnext⟩ := (woven.exists_carryOut_iff fresh hpassed).mpr ⟨hoffset, hlines⟩
        rw [← (woven.eq_of_carryOut fresh hpassed hnext).2.1] at hrest
        obtain ⟨final, hfinal⟩ :=
          (ih (woven.carryOut fresh hpassed hnext) hothers hlater hhead).mpr hrest
        exact ⟨final, run_cons_eq_ok_iff.mpr ⟨next, hnext, hfinal⟩⟩

/-- Jobs that follow one another line by line put in what was shown for them. -/
theorem text_of_run (woven : Woven text draft done passed)
    (hfresh : ∀ shown ∈ all, ∃ span splice, Fresh text shown span splice)
    (hfollow : Job.FollowByLine (all.map (·.1)))
    (hfirst : ∀ shown ∈ all.head?, passed < shown.1.finding.start.line)
    (hrun : draft.run (all.map (·.1)) = .ok final) :
    final.text = Text.join (done ++ Patch.weave (Text.split text) passed
      (all.map (Job.patch (Text.split text).length))) := by
  induction all generalizing draft done passed with
  | nil =>
      obtain rfl := Except.ok.inj hrun
      exact woven.text_eq
  | cons shown rest ih =>
      obtain ⟨⟨span, splice, fresh, hpassed⟩, hothers, hlater, hhead⟩ :=
        exists_fresh_of_cons hfresh hfollow (hfirst shown rfl)
      obtain ⟨next, hnext, hfinal⟩ := run_cons_eq_ok_iff.mp hrun
      rw [ih (woven.carryOut fresh hpassed hnext) hothers hlater hhead hfinal, doneWith,
        List.map_cons, Patch.weave_cons]
      simp only [List.append_assoc]

end Draft.Woven

/--
A disk on which every file has the lines of its patches in the place of those that they cover,
and on which nothing else has changed.
-/
structure Assembles (disk : Disk) (all : List (Job × Preview)) (after : Disk) : Prop where
  target : ∀ location text, disk.tree.get? location = some (.file (.text text)) →
    after.tree.get? location = some (.file (.text (String.ofList (Text.join
      (Patch.weave (Text.split text.toList) 0
        ((Job.shownAt disk location all).map
          (Job.patch (Text.split text.toList).length)))))))
  others : ∀ location, Job.shownAt disk location all = [] →
    after.tree.get? location = disk.tree.get? location

namespace Pass

variable {findings : Findings} {disk : Disk} {trial : Pass}

/-- The jobs of a trial are those that were shown. -/
theorem map_shownAt (htrial : run true findings disk = .ok trial) (location : Location) :
    (Job.shownAt disk location ((Job.ofFindings findings).zip trial.previews)).map (·.1) =
      Job.leadingTo disk location (Job.ofFindings findings) := by
  obtain ⟨-, -, hshown⟩ := shown_of_trial htrial
  have hjobs : ((Job.ofFindings findings).zip trial.previews).map (·.1) =
      Job.ofFindings findings := List.map_fst_zip (Nat.le_of_eq hshown.length_eq)
  unfold Job.leadingTo Job.shownAt
  conv => rhs; rw [← hjobs]
  rw [List.filter_map]
  rfl

/-- What was shown for a file was worked out on its text. -/
theorem exists_fresh_of_trial (htrial : run true findings disk = .ok trial)
    (hstored : ∀ finding ∈ findings.toList, finding.IsStored) {location : Location}
    {text : String} (htext : disk.tree.get? location = some (.file (.text text))) :
    ∀ shown ∈ Job.shownAt disk location ((Job.ofFindings findings).zip trial.previews),
      ∃ span splice, Draft.Fresh text.toList shown span splice := by
  intro shown hmem
  obtain ⟨-, -, hpreviews⟩ := shown_of_trial htrial
  obtain ⟨hzip, hleads⟩ := List.mem_filter.mp hmem
  have hshown := List.forall₂_zip hpreviews hzip
  obtain ⟨span, splice, hplans, hlines⟩ := hshown.exists_plans (by simpa using hleads) htext
  obtain ⟨finding, hfinding, hjob⟩ := List.mem_filterMap.mp (List.of_mem_zip hzip).1
  obtain ⟨rfl, hdirective⟩ := Job.ofFinding?_eq_some_iff.mp hjob
  have hlocates := hplans.locates
  rw [Draft.aim, Draft.ofText, Drift.enterLine_ofLine] at hlocates
  refine ⟨span, splice, hplans, hlines, hlocates.sits (hstored _ hfinding), ?_⟩
  intro fix hfix
  rw [hfix] at hdirective
  exact (hstored _ hfinding).fix fix (Directive.literalFix?_of_ofFinding hdirective)

/-- A pass that goes through assembles its files from what a trial has shown. -/
theorem assembles_of_run (htrial : run true findings disk = .ok trial)
    (hstored : ∀ finding ∈ findings.toList, finding.IsStored)
    (hspelt : ∀ location, Job.SpeltAlike disk location (Job.ofFindings findings))
    (hfollow : ∀ location,
      Job.FollowByLine (Job.leadingTo disk location (Job.ofFindings findings)))
    {pass : Pass} (hrun : run false findings disk = .ok pass) :
    Assembles disk ((Job.ofFindings findings).zip trial.previews) pass.disk := by
  refine ⟨?_, ?_⟩
  · intro location text htext
    obtain ⟨final, hfinal, hafter⟩ := exists_draft_of_run hrun htext (hspelt location)
    have hfresh := exists_fresh_of_trial htrial hstored htext
    have hlater := hfollow location
    rw [← map_shownAt htrial] at hfinal hlater
    have hwoven := (Draft.Woven.ofText text.toList).text_of_run hfresh hlater ?_ hfinal
    · rw [hafter, hwoven, List.nil_append]
    · intro shown hshown
      obtain ⟨span, splice, fresh⟩ := hfresh shown (List.mem_of_mem_head? hshown)
      rw [fresh.sits.startLine]
      exact Nat.succ_pos span.startLine
  · intro location hnone
    refine get?_eq_of_leadingTo_eq_nil hrun ?_
    rw [← map_shownAt htrial, hnone, List.map_nil]

/--
After a trial, a pass that writes goes through and assembles the files from what was shown,
unless a match that ends far behind its file is moved out of the range of offsets.
-/
theorem exists_run_assembles_iff (htrial : run true findings disk = .ok trial)
    (hstored : ∀ finding ∈ findings.toList, finding.IsStored)
    (hspelt : ∀ location, Job.SpeltAlike disk location (Job.ofFindings findings))
    (hfollow : ∀ location,
      Job.FollowByLine (Job.leadingTo disk location (Job.ofFindings findings))) :
    (∃ pass, run false findings disk = .ok pass ∧
        Assembles disk ((Job.ofFindings findings).zip trial.previews) pass.disk) ↔
      ∀ location text, disk.tree.get? location = some (.file (.text text)) →
        Job.StayInRange (Text.split text.toList).length 0
          (Job.shownAt disk location ((Job.ofFindings findings).zip trial.previews)) := by
  have hdraft : ∀ location text, disk.tree.get? location = some (.file (.text text)) →
      ((∃ final, (Draft.ofText text.toList).run
          (Job.leadingTo disk location (Job.ofFindings findings)) = .ok final) ↔
        Job.StayInRange (Text.split text.toList).length 0
          (Job.shownAt disk location ((Job.ofFindings findings).zip trial.previews))) := by
    intro location text htext
    have hfresh := exists_fresh_of_trial htrial hstored htext
    have hlater := hfollow location
    rw [← map_shownAt htrial] at hlater ⊢
    refine (Draft.Woven.ofText text.toList).exists_run_iff hfresh hlater ?_
    intro shown hshown
    obtain ⟨span, splice, fresh⟩ := hfresh shown (List.mem_of_mem_head? hshown)
    rw [fresh.sits.startLine]
    exact Nat.succ_pos span.startLine
  obtain ⟨-, hsound, hshown⟩ := shown_of_trial htrial
  constructor
  · rintro ⟨pass, hrun, -⟩ location text htext
    obtain ⟨-, -, hdrafts⟩ := (exists_run_iff hspelt).mp ⟨pass, hrun⟩
    exact (hdraft location text htext).mp (hdrafts location text htext)
  · intro hrange
    obtain ⟨pass, hrun⟩ := (exists_run_iff hspelt).mpr
      ⟨hsound, leadsToText_of_shown hshown, fun location text htext =>
        (hdraft location text htext).mpr (hrange location text htext)⟩
    exact ⟨pass, hrun, assembles_of_run htrial hstored hspelt hfollow hrun⟩

/-- A first line that becomes three, and a substitution from the second line to some other. -/
def splitThenSubstitute (stop : Nat) : Findings :=
  .ofList [.ofFix "r" "a.txt" (1, 1) (1, 2) "x\ny\nz",
    .ofPattern "s" "a.txt" (2, 1) (stop, 1) "b" "c"]

/-- The substitution may end behind the file. -/
theorem exists_run_assembles_behind_end :
    ∃ trial, run true (splitThenSubstitute 9) (.ofFile "a.txt" "a\nb") = .ok trial ∧
      ((∃ pass, run false (splitThenSubstitute 9) (.ofFile "a.txt" "a\nb") = .ok pass ∧
          Assembles (.ofFile "a.txt" "a\nb")
            ((Job.ofFindings (splitThenSubstitute 9)).zip trial.previews) pass.disk) ↔
        ∀ location text,
          (Disk.ofFile "a.txt" "a\nb").tree.get? location = some (.file (.text text)) →
          Job.StayInRange (Text.split text.toList).length 0
            (Job.shownAt (.ofFile "a.txt" "a\nb") location
              ((Job.ofFindings (splitThenSubstitute 9)).zip trial.previews))) := by
  obtain ⟨trial, htrial⟩ := Option.isSome_iff_exists.mp (show
    (run true (splitThenSubstitute 9) (.ofFile "a.txt" "a\nb")).toOption.isSome = true by
      decide +kernel)
  rw [toOption_eq_some_iff] at htrial
  exact ⟨trial, htrial, exists_run_assembles_iff htrial (by decide +kernel)
    (.of_forall (by decide +kernel) _) (.of_pairwise (by decide +kernel) _)⟩

/-- If it ends too far behind the file, a trial goes through and a pass that writes does not. -/
theorem not_forall_run_assembles :
    ¬∀ (findings : Findings) (disk : Disk) (trial : Pass), run true findings disk = .ok trial →
      (∀ finding ∈ findings.toList, finding.IsStored) →
      (∀ location, Job.SpeltAlike disk location (Job.ofFindings findings)) →
      (∀ location, Job.FollowByLine (Job.leadingTo disk location (Job.ofFindings findings))) →
      ∃ pass, run false findings disk = .ok pass ∧
        Assembles disk ((Job.ofFindings findings).zip trial.previews) pass.disk := by
  intro h
  obtain ⟨trial, htrial⟩ := Option.isSome_iff_exists.mp (show
    (run true (splitThenSubstitute 9223372036854775807)
      (.ofFile "a.txt" "a\nb")).toOption.isSome = true by decide +kernel)
  rw [toOption_eq_some_iff] at htrial
  obtain ⟨pass, hrun, -⟩ := h _ _ trial htrial (by decide +kernel)
    (.of_forall (by decide +kernel) _) (.of_pairwise (by decide +kernel) _)
  have hfails : (run false (splitThenSubstitute 9223372036854775807)
      (.ofFile "a.txt" "a\nb")).toOption = none := by
    have hnone : (run false (splitThenSubstitute 9223372036854775807)
        (.ofFile "a.txt" "a\nb")).toOption.isNone = true := by decide +kernel
    exact Option.isNone_iff_eq_none.mp hnone
  rw [hrun] at hfails
  cases hfails

end Pass

end Fix

end Remedy
