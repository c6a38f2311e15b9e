import Remedy.Proofs.Fix.Assembly

/-!
# Columns drift exactly

A literal fix on a single line moves what stands behind it on that line and nothing else.  As long
as the fixes of a line come together and from left to right, the drift of the columns is what the
line has gained, each fix lands where its stretch has come to lie, and in the end all stretches of
the file have been replaced as if at once.
-/

namespace Remedy

/-- A literal fix within one line of a file; neither the fix nor the line has a line break. -/
structure Finding.IsInline (finding : Finding) (lines : List (List Char))
    (fix line : List Char) : Prop where
  fix_eq : finding.literalFix? = some fix
  fix_free : ∀ c ∈ fix, Text.isBreak c = false
  line_pos : 1 ≤ finding.start.line
  line_eq : lines[finding.start.line - 1]? = some line
  line_free : ∀ c ∈ line, Text.isBreak c = false
  single : finding.stop.line = finding.start.line
  col_pos : 1 ≤ finding.start.col
  ordered : finding.start.col ≤ finding.stop.col
  col_le : finding.stop.col ≤ line.length + 1

-- The characters are checked one by one along the lists, not by going through all characters.
instance (finding : Finding) (lines : List (List Char)) (fix line : List Char) :
    Decidable (finding.IsInline lines fix line) :=
  decidable_of_iff (finding.literalFix? = some fix ∧ fix.all (fun c => !Text.isBreak c) = true ∧
      1 ≤ finding.start.line ∧ lines[finding.start.line - 1]? = some line ∧
      line.all (fun c => !Text.isBreak c) = true ∧ finding.stop.line = finding.start.line ∧
      1 ≤ finding.start.col ∧ finding.start.col ≤ finding.stop.col ∧
      finding.stop.col ≤ line.length + 1) <| by
    simp only [List.all_eq_true, Bool.not_eq_true']
    exact ⟨fun ⟨hfix, hfree, hpos, hline, hlinefree, hsingle, hcol, hordered, hle⟩ =>
        ⟨hfix, hfree, hpos, hline, hlinefree, hsingle, hcol, hordered, hle⟩,
      fun h => ⟨h.fix_eq, h.fix_free, h.line_pos, h.line_eq, h.line_free, h.single, h.col_pos,
        h.ordered, h.col_le⟩⟩

/-- Findings whose remedies are literal fixes, each within a line of the file it leads to. -/
def Findings.AreInline (findings : Findings) (disk : Disk) : Prop :=
  ∀ finding ∈ findings.toList, finding.hasRemedy = true → ∃ location text fix line,
    disk.resolve finding.path = .ok (location, .file (.text text)) ∧
      finding.IsInline (Text.split text.toList) fix line

/-- A literal fix is not empty. -/
theorem Finding.ne_nil_of_literalFix? {finding : Finding} {fix : List Char}
    (hfix : finding.literalFix? = some fix) : fix ≠ [] := by
  unfold literalFix? at hfix
  split at hfix
  · cases hfix
  · split at hfix
    · cases hfix
    · rename_i hne
      obtain rfl := Option.some.inj hfix
      exact hne

namespace Fix

open Outcome

/-- The text that a directive puts in word by word. -/
def Directive.fix : Directive → List Char
  | .literal fix => fix
  | .substitution _ _ _ => []

namespace Job

/-- A job that is a literal fix within one line. -/
structure Inline (lines : List (List Char)) (job : Job) (fix line : List Char) : Prop
    extends job.finding.IsInline lines fix line where
  directive : job.directive = .literal fix

/-- The edit that a literal fix makes in its line. -/
def edit (job : Job) : Patch Char :=
  ⟨job.finding.start.col - 1, job.finding.stop.col - 1, job.directive.fix⟩

/-- The edits in the line at an index. -/
def editsOn (index : Nat) (jobs : List Job) : List (Patch Char) :=
  (jobs.filter fun job => job.finding.start.line = index + 1).map edit

/-- The lines of a file with all edits made, each where the line had its stretch at first. -/
def inlined (lines : List (List Char)) (jobs : List Job) : List (List Char) :=
  lines.mapIdx fun index line => Patch.weave line 0 (editsOn index jobs)

/-- How many columns the line at an index gains by its edits. -/
def widening (lines : List (List Char)) (jobs : List Job) (index : Nat) : Int :=
  ((inlined lines jobs)[index]?.getD []).length - (lines[index]?.getD []).length

/-- Holds if the jobs for one line come one after the other. -/
def Together (jobs : List Job) : Prop :=
  ∀ a b c, [a, b, c].Sublist jobs → a.finding.start.line = c.finding.start.line →
    b.finding.start.line = a.finding.start.line

/-- Jobs whose lines never go down the file come together in every file. -/
theorem Together.of_pairwise {jobs : List Job}
    (h : jobs.Pairwise fun a b => b.finding.start.line ≤ a.finding.start.line) (disk : Disk)
    (location : Location) : Together (leadingTo disk location jobs) := by
  intro a b c hsub heq
  have hsublines := h.sublist (hsub.trans List.filter_sublist)
  simp only [List.pairwise_cons, List.mem_cons, List.not_mem_nil, or_false] at hsublines
  have hab := hsublines.1 b (.inl rfl)
  have hbc := hsublines.2.1 c rfl
  omega

/-- Holds if on one line each job ends in front of those that come later. -/
def LeftToRight (jobs : List Job) : Prop :=
  jobs.Pairwise fun a b => a.finding.start.line = b.finding.start.line →
    a.finding.stop.col ≤ b.finding.start.col

/-- Holds if a text and all literal fixes for it fit into memory. -/
def FitMemory (text : List Char) (jobs : List Job) : Prop :=
  text.length + (jobs.map (·.directive.fix.length)).sum < 2 ^ 63 - 1

/-- Literal fixes within lines, those of one line together and from left to right. -/
structure Inlines (text : List Char) (jobs : List Job) : Prop where
  inline : ∀ job ∈ jobs, ∃ fix line, job.Inline (Text.split text) fix line
  together : Together jobs
  apart : LeftToRight jobs
  memory : FitMemory text jobs

theorem Inlines.of_concat {text : List Char} {jobs : List Job} {job : Job}
    (h : Inlines text (jobs ++ [job])) : Inlines text jobs := by
  have hsub : jobs.Sublist (jobs ++ [job]) := List.sublist_append_left jobs [job]
  refine ⟨fun other hother => h.inline other (hsub.subset hother),
    fun a b c habc => h.together a b c (habc.trans hsub), h.apart.sublist hsub, ?_⟩
  have hmemory := h.memory
  unfold FitMemory at hmemory ⊢
  rw [List.map_append, List.sum_append] at hmemory
  omega

theorem editsOn_concat_of_eq {index : Nat} {jobs : List Job} {job : Job}
    (hline : job.finding.start.line = index + 1) :
    editsOn index (jobs ++ [job]) = editsOn index jobs ++ [job.edit] := by
  unfold editsOn
  rw [List.filter_append, List.map_append, List.filter_cons_of_pos (by simpa using hline)]
  rfl

theorem editsOn_concat_of_ne {index : Nat} {jobs : List Job} {job : Job}
    (hline : job.finding.start.line ≠ index + 1) :
    editsOn index (jobs ++ [job]) = editsOn index jobs := by
  unfold editsOn
  rw [List.filter_append, List.filter_cons_of_neg (by simpa using hline), List.filter_nil,
    List.append_nil]

theorem getElem?_inlined (lines : List (List Char)) (jobs : List Job) (index : Nat) :
    (inlined lines jobs)[index]? =
      lines[index]?.map fun line => Patch.weave line 0 (editsOn index jobs) := by
  unfold inlined
  rw [List.getElem?_mapIdx]

/-- One more fix changes the line that it is for. -/
theorem inlined_concat {lines : List (List Char)} {jobs : List Job} {job : Job}
    {line : List Char} (hpos : 1 ≤ job.finding.start.line)
    (hline : lines[job.finding.start.line - 1]? = some line) :
    inlined lines (jobs ++ [job]) =
      (inlined lines jobs).take (job.finding.start.line - 1) ++
        [Patch.weave line 0 (editsOn (job.finding.start.line - 1) jobs ++ [job.edit])] ++
        (inlined lines jobs).drop (job.finding.start.line - 1 + 1) := by
  obtain ⟨hlt, -⟩ := List.getElem?_eq_some_iff.mp hline
  have hset : inlined lines (jobs ++ [job]) =
      (inlined lines jobs).set (job.finding.start.line - 1)
        (Patch.weave line 0 (editsOn (job.finding.start.line - 1) jobs ++ [job.edit])) := by
    apply List.ext_getElem?
    intro index
    rw [List.getElem?_set, getElem?_inlined, getElem?_inlined]
    by_cases hindex : job.finding.start.line - 1 = index
    · subst hindex
      rw [if_pos rfl, hline, editsOn_concat_of_eq (by omega)]
      simp [inlined, hlt]
    · rw [if_neg hindex, editsOn_concat_of_ne (by omega)]
  rw [hset, List.set_eq_take_append_cons_drop, if_pos (by simpa [inlined] using hlt),
    List.append_assoc, List.singleton_append]

theorem exists_of_mem_editsOn {index : Nat} {jobs : List Job} {patch : Patch Char}
    (hpatch : patch ∈ editsOn index jobs) :
    ∃ job ∈ jobs, job.finding.start.line = index + 1 ∧ job.edit = patch := by
  obtain ⟨job, hjob, hedit⟩ := List.mem_map.mp hpatch
  obtain ⟨hmem, hline⟩ := List.mem_filter.mp hjob
  exact ⟨job, hmem, by simpa using hline, hedit⟩

/-- The edits of a line put in no more than all fixes together. -/
theorem sum_editsOn_le (index : Nat) (jobs : List Job) :
    ((editsOn index jobs).map (·.block.length)).sum ≤
      (jobs.map (·.directive.fix.length)).sum := by
  induction jobs with
  | nil => exact Nat.le_refl 0
  | cons job rest ih =>
      by_cases hline : job.finding.start.line = index + 1
      · have hedits : editsOn index (job :: rest) = job.edit :: editsOn index rest := by
          unfold editsOn
          rw [List.filter_cons_of_pos (by simpa using hline), List.map_cons]
        rw [hedits, List.map_cons, List.sum_cons, List.map_cons, List.sum_cons]
        exact Nat.add_le_add_left ih _
      · have hedits : editsOn index (job :: rest) = editsOn index rest := by
          unfold editsOn
          rw [List.filter_cons_of_neg (by simpa using hline)]
        rw [hedits, List.map_cons, List.sum_cons]
        exact Nat.le_trans ih (Nat.le_add_left _ _)

namespace Inlines

variable {text : List Char} {jobs : List Job} {job : Job}

/-- The edits of a line follow one another. -/
theorem ordered (h : Inlines text jobs) (index : Nat) :
    Patch.Ordered 0 (editsOn index jobs) := by
  refine Patch.ordered_of_pairwise (fun _ _ => Nat.zero_le _) ?_ ?_
  · intro patch hpatch
    obtain ⟨job, hjob, -, rfl⟩ := exists_of_mem_editsOn hpatch
    obtain ⟨fix, line, hinline⟩ := h.inline job hjob
    exact Nat.sub_le_sub_right hinline.ordered 1
  · unfold editsOn
    rw [List.pairwise_map, List.pairwise_filter]
    refine List.Pairwise.imp ?_ h.apart
    intro a b hapart ha hb
    have hline : a.finding.start.line = b.finding.start.line := by
      simp only [decide_eq_true_eq] at ha hb
      rw [ha, hb]
    exact Nat.sub_le_sub_right (hapart hline) 1

/-- The edits made so far in the line of the last job lie in front of it. -/
theorem edits_le (h : Inlines text (jobs ++ [job])) :
    ∀ patch ∈ editsOn (job.finding.start.line - 1) jobs,
      patch.start ≤ job.edit.start ∧ patch.stop ≤ job.edit.start := by
  intro patch hpatch
  obtain ⟨other, hother, hline, rfl⟩ := exists_of_mem_editsOn hpatch
  obtain ⟨fix, line, hinline⟩ := h.inline other (List.mem_append_left [job] hother)
  obtain ⟨lastFix, lastLine, hlast⟩ :=
    h.inline job (List.mem_append_right jobs List.mem_cons_self)
  have hpos := hlast.line_pos
  have hapart := (List.pairwise_append.mp h.apart).2.2 other hother job List.mem_cons_self
    (by omega)
  have hordered := hinline.ordered
  unfold edit
  dsimp only
  omega

/-- No line grows out of memory. -/
theorem length_weave_le (h : Inlines text jobs) {index : Nat} {line : List Char}
    (hline : line ∈ Text.split text) :
    (Patch.weave line 0 (editsOn index jobs)).length ≤
      text.length + (jobs.map (·.directive.fix.length)).sum := by
  have hwoven := @Patch.length_weave_le _ line 0 _ (h.ordered index)
  have hsum := sum_editsOn_le index jobs
  have hlength := Text.length_le_of_mem_split hline
  omega

/-- Fixed lines contain no newline. -/
theorem newline_not_mem (h : Inlines text jobs) :
    ∀ line ∈ inlined (Text.split text) jobs, '\n' ∉ line := by
  intro line hline hmem
  obtain ⟨index, hindex⟩ := List.mem_iff_getElem?.mp hline
  rw [getElem?_inlined, Option.map_eq_some_iff] at hindex
  obtain ⟨old, hold, rfl⟩ := hindex
  rcases Patch.mem_or_mem_of_mem_weave hmem with hkept | ⟨patch, hpatch, hblock⟩
  · exact Text.not_mem_of_mem_split (List.mem_of_getElem? hold) hkept
  · obtain ⟨job, hjob, -, rfl⟩ := exists_of_mem_editsOn hpatch
    obtain ⟨fix, line, hinline⟩ := h.inline job hjob
    rw [edit, hinline.directive] at hblock
    exact absurd (hinline.fix_free '\n' hblock) (by decide)

/-- The fixed lines are the lines of their text. -/
theorem split_join (h : Inlines text jobs) :
    Text.split (Text.join (inlined (Text.split text) jobs)) =
      inlined (Text.split text) jobs := by
  refine Text.split_join ?_ h.newline_not_mem
  intro hnil
  have hlength := congrArg List.length hnil
  rw [inlined, List.length_mapIdx, List.length_nil, List.length_eq_zero_iff] at hlength
  exact Text.split_ne_nil text hlength

end Inlines

end Job

/-- A draft with all edits made; its columns have drifted by what its active line has gained. -/
structure Draft.Inlined (text : List Char) (jobs : List Job) (draft : Draft) : Prop where
  text_eq : draft.text = Text.join (Job.inlined (Text.split text) jobs)
  lines : draft.drift.lines = 0
  active : ∀ job ∈ jobs.getLast?, draft.drift.activeLine = job.finding.start.line
  cols : draft.drift.cols =
    Job.widening (Text.split text) jobs (draft.drift.activeLine - 1)

namespace Draft.Inlined

variable {text : List Char} {jobs : List Job} {job : Job} {draft : Draft}

theorem ofText (text : List Char) : Inlined text [] (.ofText text) := by
  have hlines : Job.inlined (Text.split text) [] = Text.split text := by
    apply List.ext_getElem?
    intro index
    rw [Job.getElem?_inlined]
    simp [Job.editsOn]
  refine ⟨?_, rfl, fun _ hlast => (nomatch hlast), ?_⟩
  · rw [hlines, Text.join_split]
    rfl
  · rw [Job.widening, hlines, Int.sub_self]
    rfl

/-- A line on which no fix was made has gained nothing. -/
theorem widening_of_untouched {lines : List (List Char)} {index : Nat}
    (hnone : ∀ job ∈ jobs, job.finding.start.line ≠ index + 1) :
    Job.widening lines jobs index = 0 := by
  have hedits : Job.editsOn index jobs = [] := by
    rw [Job.editsOn, List.map_eq_nil_iff, List.filter_eq_nil_iff]
    simpa using hnone
  rw [Job.widening, Job.getElem?_inlined, hedits]
  cases lines[index]? with
  | none => rfl
  | some line => simp

/-- The next fix is located with what its line has gained, whether or not it was active before. -/
theorem cols_aim (inlined : Inlined text jobs draft) (h : Job.Inlines text (jobs ++ [job])) :
    (draft.aim job).cols =
      Job.widening (Text.split text) jobs (job.finding.start.line - 1) := by
  obtain ⟨fix, line, hinline⟩ :=
    h.inline job (List.mem_append_right jobs List.mem_cons_self)
  have hpos := hinline.line_pos
  by_cases hline : draft.drift.activeLine = job.finding.start.line
  · rw [Draft.aim, Drift.enterLine_of_eq hline, inlined.cols, hline]
  · rw [Draft.aim, Drift.cols_enterLine_of_ne hline]
    refine (widening_of_untouched ?_).symm
    intro other hother heq
    -- Otherwise the last fix, which is for another line, lies between two fixes for this one.
    obtain ⟨front, last, rfl⟩ := List.eq_nil_or_concat' jobs |>.resolve_left
      (List.ne_nil_of_mem hother)
    have hactive := inlined.active last (by simp)
    rcases List.mem_append.mp hother with hfront | hlast
    · have hsub : [other, last, job].Sublist (front ++ [last] ++ [job]) := by
        rw [List.append_assoc]
        exact (List.singleton_sublist.mpr hfront).append (List.Sublist.refl [last, job])
      have htogether := h.together other last job hsub (by omega)
      omega
    · rw [List.mem_singleton.mp hlast] at heq
      omega

end Draft.Inlined

namespace Job

variable {text fix line : List Char} {jobs : List Job} {job : Job}

/-- What stands now in front of a job on its line. -/
def inFront (jobs : List Job) (job : Job) (line : List Char) : List Char :=
  Patch.weave (line.take job.edit.start) 0 (editsOn (job.finding.start.line - 1) jobs)

/-- The line of a job before the job is carried out. -/
theorem Inlines.weave_eq (h : Inlines text (jobs ++ [job])) (line : List Char) :
    Patch.weave line 0 (editsOn (job.finding.start.line - 1) jobs) =
      inFront jobs job line ++ line.drop job.edit.start :=
  Patch.weave_eq_append h.edits_le (Nat.zero_le _)

/-- The line of a job after the job has been carried out. -/
theorem Inlines.weave_concat_eq (h : Inlines text (jobs ++ [job])) (line : List Char) :
    Patch.weave line 0 (editsOn (job.finding.start.line - 1) jobs ++ [job.edit]) =
      inFront jobs job line ++ job.directive.fix ++ line.drop job.edit.stop :=
  Patch.weave_concat fun patch hpatch => (h.edits_le patch hpatch).1

/-- A stretch within a line. -/
theorem Inline.edit_le (hinline : job.Inline (Text.split text) fix line) :
    job.edit.start ≤ job.edit.stop ∧ job.edit.stop ≤ line.length := by
  have hordered := hinline.ordered
  have hcol := hinline.col_le
  unfold edit
  dsimp only
  omega

/-- What a line has gained by the edits in front of a job. -/
theorem Inlines.widening_eq (h : Inlines text (jobs ++ [job]))
    (hinline : job.Inline (Text.split text) fix line) :
    widening (Text.split text) jobs (job.finding.start.line - 1) =
      ((inFront jobs job line).length : Int) - job.edit.start := by
  have hedit := hinline.edit_le
  rw [widening, getElem?_inlined, hinline.line_eq, Option.map_some, Option.getD_some,
    Option.getD_some, h.weave_eq, List.length_append, List.length_drop]
  omega

/-- What a line has gained once a job is carried out. -/
theorem Inlines.widening_concat_eq (h : Inlines text (jobs ++ [job]))
    (hinline : job.Inline (Text.split text) fix line) :
    widening (Text.split text) (jobs ++ [job]) (job.finding.start.line - 1) =
      ((inFront jobs job line).length : Int) - job.edit.start +
        (fix.length - (job.edit.stop - job.edit.start : Nat)) := by
  have hedit := hinline.edit_le
  have hpos := hinline.line_pos
  rw [widening, getElem?_inlined, hinline.line_eq, Option.map_some, Option.getD_some,
    Option.getD_some, editsOn_concat_of_eq (by omega), h.weave_concat_eq, hinline.directive]
  simp only [List.length_append, List.length_drop, Directive.fix]
  omega

/-- Where a job lies now. -/
def spanNow (jobs : List Job) (job : Job) (line : List Char) : Span :=
  ⟨job.finding.start.line - 1, (inFront jobs job line).length, job.finding.start.line - 1,
    (inFront jobs job line).length + (job.edit.stop - job.edit.start)⟩

/-- The line of a job as it is now, and after the job, fits into memory. -/
theorem Inlines.length_lt (h : Inlines text (jobs ++ [job]))
    (hinline : job.Inline (Text.split text) fix line) :
    (inFront jobs job line).length + (line.length - job.edit.start) < 2 ^ 63 - 1 ∧
      (inFront jobs job line).length + fix.length + (line.length - job.edit.stop) <
        2 ^ 63 - 1 := by
  have hmemory : _ < 2 ^ 63 - 1 := h.memory
  have hpos := hinline.line_pos
  have hmem := List.mem_of_getElem? hinline.line_eq
  have hbefore := @Inlines.length_weave_le _ _ h.of_concat (job.finding.start.line - 1) _ hmem
  have hafter := @Inlines.length_weave_le _ _ h (job.finding.start.line - 1) _ hmem
  rw [h.weave_eq, List.length_append, List.length_drop] at hbefore
  rw [editsOn_concat_of_eq (by omega), h.weave_concat_eq, hinline.directive, List.length_append,
    List.length_append, List.length_drop, Directive.fix] at hafter
  rw [List.map_append, List.sum_append] at hmemory hafter
  omega

end Job

namespace Draft.Inlined

variable {text fix line : List Char} {jobs : List Job} {job : Job} {draft : Draft}

/-- A fix is located where its stretch has come to lie. -/
theorem locates (inlined : Inlined text jobs draft) (h : Job.Inlines text (jobs ++ [job]))
    (hinline : job.Inline (Text.split text) fix line) :
    (draft.aim job).Locates job.finding.start job.finding.stop
      (Job.spanNow jobs job line) := by
  have hpos := hinline.line_pos
  have hcolpos := hinline.col_pos
  have hordered := hinline.ordered
  have hcolle := hinline.col_le
  have hsingle := hinline.single
  have hmemory : _ < 2 ^ 63 - 1 := h.memory
  obtain ⟨hindex, -⟩ := List.getElem?_eq_some_iff.mp hinline.line_eq
  have hcount := Text.length_split_le text
  have hline := Text.length_le_of_mem_split (List.mem_of_getElem? hinline.line_eq)
  obtain ⟨hlength, -⟩ := h.length_lt hinline
  have hcols := inlined.cols_aim h
  rw [h.widening_eq hinline] at hcols
  unfold Job.edit at hlength hcols
  refine ⟨?_, ?_, Nat.le_refl _, ?_, ?_⟩
  · rw [Drift.shift_eq_ok_iff_of_lt (by omega), lines_aim, inlined.lines]
    unfold Offset.IsOffset Job.spanNow
    dsimp only
    omega
  · rw [Drift.shift_eq_ok_iff_of_lt (by omega), lines_aim, inlined.lines]
    unfold Offset.IsOffset Job.spanNow
    dsimp only
    omega
  · rw [Drift.shift_eq_ok_iff_of_lt (by omega), hcols]
    unfold Offset.IsOffset Job.spanNow
    dsimp only at hlength ⊢
    omega
  · rw [Drift.shift_eq_ok_iff_of_lt (by omega), hcols]
    unfold Offset.IsOffset Job.spanNow Job.edit
    dsimp only at hlength ⊢
    omega

/-- How the lines of the draft are cut by a fix. -/
theorem cut (inlined : Inlined text jobs draft) (h : Job.Inlines text (jobs ++ [job]))
    (hinline : job.Inline (Text.split text) fix line) :
    Cut draft.text job.directive (Job.spanNow jobs job line)
      ((Job.inlined (Text.split text) jobs).take (job.finding.start.line - 1))
      [Job.inFront jobs job line ++ line.drop job.edit.start]
      ((Job.inlined (Text.split text) jobs).drop (job.finding.start.line - 1 + 1)) := by
  have hcurrent : (Job.inlined (Text.split text) jobs)[job.finding.start.line - 1]? =
      some (Job.inFront jobs job line ++ line.drop job.edit.start) := by
    rw [Job.getElem?_inlined, hinline.line_eq, Option.map_some, h.weave_eq]
  obtain ⟨hindex, hget⟩ := List.getElem?_eq_some_iff.mp hcurrent
  have hlength : ((Job.inlined (Text.split text) jobs).take
      (job.finding.start.line - 1)).length = job.finding.start.line - 1 := by
    rw [List.length_take]
    omega
  refine ⟨?_, hlength.symm, List.cons_ne_nil _ _, .inl ?_⟩
  · rw [inlined.text_eq, h.of_concat.split_join, ← hget, ← List.take_succ_eq_append_getElem hindex,
      List.take_append_drop]
  · rw [hlength]
    rfl

/-- A fix puts its text between what stands in front of it and what stands behind it. -/
theorem block_eq (hinline : job.Inline (Text.split text) fix line)
    (h : Job.Inlines text (jobs ++ [job])) :
    job.directive.block [Job.inFront jobs job line ++ line.drop job.edit.start]
        (Job.spanNow jobs job line).startCol (Job.spanNow jobs job line).stopCol =
      .ok [Job.inFront jobs job line ++ fix ++ line.drop job.edit.stop] := by
  obtain ⟨hspan, -⟩ := hinline.edit_le
  have hbehind : (Job.inFront jobs job line ++ line.drop job.edit.start).drop
      ((Job.inFront jobs job line).length + (job.edit.stop - job.edit.start)) =
      line.drop job.edit.stop := by
    rw [List.drop_length_add_append, List.drop_drop, Nat.add_sub_cancel' hspan]
  have hfree : ∀ c ∈ Job.inFront jobs job line ++ fix ++ line.drop job.edit.stop,
      Text.isBreak c = false := by
    intro c hc
    rcases List.mem_append.mp hc with hfront | hbehind
    · rcases List.mem_append.mp hfront with hwoven | hfix
      · rcases Patch.mem_or_mem_of_mem_weave hwoven with hkept | ⟨patch, hpatch, hblock⟩
        · exact hinline.line_free c (List.mem_of_mem_take hkept)
        · obtain ⟨other, hother, -, rfl⟩ := Job.exists_of_mem_editsOn hpatch
          obtain ⟨theirs, held, htheirs⟩ := h.of_concat.inline other hother
          rw [Job.edit, htheirs.directive] at hblock
          exact htheirs.fix_free c hblock
      · exact hinline.fix_free c hfix
    · exact hinline.line_free c (List.mem_of_mem_drop hbehind)
  have hne : Job.inFront jobs job line ++ fix ++ line.drop job.edit.stop ≠ [] := by
    simp [Finding.ne_nil_of_literalFix? hinline.fix_eq]
  rw [hinline.directive, Directive.block]
  simp only [List.head?_cons, List.getLast?_singleton, Option.getD_some, Job.spanNow]
  rw [List.take_left, hbehind, Text.breakLines_of_free hne hfree]

/-- Recording a fix moves the columns by what the line gains. -/
theorem record?_eq (inlined : Inlined text jobs draft) (h : Job.Inlines text (jobs ++ [job]))
    (hinline : job.Inline (Text.split text) fix line) :
    job.directive.record? (draft.aim job) (Job.spanNow jobs job line) 0 =
      some ⟨0, Job.widening (Text.split text) (jobs ++ [job]) (job.finding.start.line - 1),
        job.finding.start.line⟩ := by
  have hmemory : _ < 2 ^ 63 - 1 := h.memory
  have hline := Text.length_le_of_mem_split (List.mem_of_getElem? hinline.line_eq)
  obtain ⟨hbefore, hafter⟩ := h.length_lt hinline
  obtain ⟨hspan, hstop⟩ := hinline.edit_le
  have hgained : Drift.gained (Job.spanNow jobs job line) fix.length =
      fix.length - (job.edit.stop - job.edit.start : Nat) := by
    unfold Drift.gained Span.width Job.spanNow
    dsimp only
    rw [Nat.add_sub_cancel_left, Offset.ofNat_of_lt (by omega), Offset.ofNat_of_lt (by omega)]
  have hsingle : (Job.spanNow jobs job line).startLine =
      (Job.spanNow jobs job line).stopLine := rfl
  rw [hinline.directive, Directive.record?_literal, Drift.recordLiteral_eq_ok_iff,
    if_pos hsingle, lines_aim, activeLine_aim, inlined.lines, inlined.cols_aim h,
    h.widening_eq hinline, h.widening_concat_eq hinline, hgained]
  unfold Offset.IsOffset
  exact ⟨by omega, by omega, by omega, rfl⟩

/-- The next fix is made where its stretch has come to lie, and the drift says so. -/
theorem exists_carryOut (inlined : Inlined text jobs draft)
    (h : Job.Inlines text (jobs ++ [job])) :
    ∃ next, draft.carryOut job = .ok next ∧ Inlined text (jobs ++ [job]) next := by
  obtain ⟨fix, line, hinline⟩ :=
    h.inline job (List.mem_append_right jobs List.mem_cons_self)
  have hsplice : job.directive.splice draft.text (Job.spanNow jobs job line) =
      .ok ⟨Text.join (Job.inlined (Text.split text) (jobs ++ [job])),
        [Job.inFront jobs job line ++ fix ++ line.drop job.edit.stop], 0⟩ := by
    rw [(inlined.cut h hinline).splice_eq, block_eq hinline h,
      Job.inlined_concat hinline.line_pos hinline.line_eq, h.weave_concat_eq,
      hinline.directive]
    rfl
  refine ⟨⟨Text.join (Job.inlined (Text.split text) (jobs ++ [job])), 0,
      Job.widening (Text.split text) (jobs ++ [job]) (job.finding.start.line - 1),
      job.finding.start.line⟩,
    carryOut_eq_ok_iff.mpr ⟨_, _, ⟨inlined.locates h hinline, hsplice⟩, rfl,
      inlined.record?_eq h hinline⟩, rfl, rfl, ?_, rfl⟩
  · intro last hlast
    obtain rfl : job = last := by simpa using hlast
    rfl

/-- Literal fixes within lines go through and make all their edits. -/
theorem exists_run (h : Job.Inlines text jobs) :
    ∃ final, (Draft.ofText text).run jobs = .ok final ∧ Inlined text jobs final := by
  induction jobs using List.reverseRecOn with
  | nil => exact ⟨_, rfl, .ofText text⟩
  | append_singleton before job ih =>
      obtain ⟨middle, hmiddle, hinlined⟩ := ih h.of_concat
      obtain ⟨next, hnext, hafter⟩ := hinlined.exists_carryOut h
      exact ⟨next, foldlM_concat_eq_ok_iff.mpr ⟨middle, hmiddle, hnext⟩, hafter⟩

end Draft.Inlined

/-- The job of a finding with a literal fix. -/
theorem Directive.ofFinding_of_literalFix? {finding : Finding} {fix : List Char}
    (hfix : finding.literalFix? = some fix) :
    ofFinding finding = .ok (some (.literal fix)) := by
  unfold ofFinding
  rw [hfix]

/-- A disk on which every file has all its edits, and on which nothing else has changed. -/
structure EditsInline (disk : Disk) (jobs : List Job) (after : Disk) : Prop where
  target : ∀ location text, disk.tree.get? location = some (.file (.text text)) →
    after.tree.get? location = some (.file (.text (String.ofList (Text.join
      (Job.inlined (Text.split text.toList) (Job.leadingTo disk location jobs))))))
  others : ∀ location, Job.leadingTo disk location jobs = [] →
    after.tree.get? location = disk.tree.get? location

namespace Pass

variable {findings : Findings} {disk : Disk}

/-- Findings that carry a literal fix or none are not at fault. -/
theorem faultless_of_inline (hinline : findings.AreInline disk) :
    ∀ finding ∈ findings.toList, Job.Faultless finding := by
  intro finding hfinding
  cases hremedy : finding.hasRemedy with
  | false => exact ⟨_, Directive.ofFinding_of_not_hasRemedy hremedy⟩
  | true =>
      obtain ⟨location, text, fix, line, -, hisInline⟩ := hinline finding hfinding hremedy
      exact ⟨_, Directive.ofFinding_of_literalFix? hisInline.fix_eq⟩

/-- The jobs of such findings are literal fixes within the lines of their files. -/
theorem inline_of_mem_ofFindings (hinline : findings.AreInline disk) {job : Job}
    (hjob : job ∈ Job.ofFindings findings) :
    ∃ location text fix line,
      disk.resolve job.finding.path = .ok (location, .file (.text text)) ∧
        job.Inline (Text.split text.toList) fix line := by
  obtain ⟨finding, hfinding, hof⟩ := List.mem_filterMap.mp hjob
  obtain ⟨rfl, hdirective⟩ := Job.ofFinding?_eq_some_iff.mp hof
  have hremedy : job.finding.hasRemedy = true := by
    cases hremedy : job.finding.hasRemedy with
    | true => rfl
    | false =>
        rw [Directive.ofFinding_of_not_hasRemedy hremedy] at hdirective
        cases hdirective
  obtain ⟨location, text, fix, line, hresolve, hisInline⟩ :=
    hinline job.finding hfinding hremedy
  rw [Directive.ofFinding_of_literalFix? hisInline.fix_eq] at hdirective
  refine ⟨location, text, fix, line, hresolve, ⟨hisInline, ?_⟩⟩
  exact (Option.some.inj (Except.ok.inj hdirective)).symm

/--
A pass over literal fixes within lines goes through, in whatever order the lines come, and
replaces all stretches at once, each where it stood in its file at first.
-/
theorem exists_run_editsInline
    (hinline : findings.AreInline disk)
    (hspelt : ∀ location, Job.SpeltAlike disk location (Job.ofFindings findings))
    (htogether : ∀ location,
      Job.Together (Job.leadingTo disk location (Job.ofFindings findings)))
    (hapart : ∀ location,
      Job.LeftToRight (Job.leadingTo disk location (Job.ofFindings findings)))
    (hmemory : ∀ location text, disk.tree.get? location = some (.file (.text text)) →
      Job.FitMemory text.toList (Job.leadingTo disk location (Job.ofFindings findings))) :
    ∃ pass, run false findings disk = .ok pass ∧
      EditsInline disk (Job.ofFindings findings) pass.disk := by
  have hinlines : ∀ location text, disk.tree.get? location = some (.file (.text text)) →
      Job.Inlines text.toList
        (Job.leadingTo disk location (Job.ofFindings findings)) := by
    intro location text htext
    refine ⟨?_, htogether location, hapart location, hmemory location text htext⟩
    intro job hjob
    obtain ⟨hmem, hleads⟩ := List.mem_filter.mp hjob
    obtain ⟨found, held, fix, line, hresolve, hjobInline⟩ :=
      inline_of_mem_ofFindings hinline hmem
    have hlocated := Disk.resolve_of_locationOf? (by simpa using hleads) htext
    obtain ⟨-, hheld⟩ := Prod.mk.inj (Except.ok.inj (hresolve.symm.trans hlocated))
    obtain rfl : held = text := by simpa using hheld
    exact ⟨fix, line, hjobInline⟩
  have hleads : ∀ job ∈ Job.ofFindings findings, job.LeadsToText disk := by
    intro job hjob
    obtain ⟨location, text, fix, line, hresolve, -⟩ := inline_of_mem_ofFindings hinline hjob
    exact ⟨location, text, hresolve⟩
  obtain ⟨pass, hrun⟩ := (exists_run_iff hspelt).mpr
    ⟨faultless_of_inline hinline, hleads, fun location text htext => by
      obtain ⟨final, hfinal, -⟩ := Draft.Inlined.exists_run (hinlines location text htext)
      exact ⟨final, hfinal⟩⟩
  refine ⟨pass, hrun, ?_, fun location => get?_eq_of_leadingTo_eq_nil hrun⟩
  intro location text htext
  obtain ⟨final, hfinal, hafter⟩ := exists_draft_of_run hrun htext (hspelt location)
  obtain ⟨made, hmade, hedits⟩ := Draft.Inlined.exists_run (hinlines location text htext)
  obtain rfl := Except.ok.inj (hfinal.symm.trans hmade)
  rw [hafter, hedits.text_eq]

/-- A last line, and then two stretches of a first line, the second of which is empty. -/
def upwardFixes : Findings :=
  .ofList [.ofFix "r" "a.txt" (2, 1) (2, 4) "z", .ofFix "r" "a.txt" (1, 2) (1, 3) "long",
    .ofFix "r" "a.txt" (1, 4) (1, 4) "!"]

/-- The fixes may go up the file. -/
theorem exists_run_editsInline_upward :
    ∃ pass, run false upwardFixes (.ofFile "a.txt" "abc\nend") = .ok pass ∧
      EditsInline (.ofFile "a.txt" "abc\nend") (Job.ofFindings upwardFixes) pass.disk := by
  refine exists_run_editsInline ?_ (.of_forall (by decide +kernel) _)
    (.of_pairwise (by decide +kernel) _) ?_ ?_
  · intro finding hfinding _
    have hlist : upwardFixes.toList = [.ofFix "r" "a.txt" (2, 1) (2, 4) "z",
        .ofFix "r" "a.txt" (1, 2) (1, 3) "long", .ofFix "r" "a.txt" (1, 4) (1, 4) "!"] := rfl
    rw [hlist] at hfinding
    simp only [List.mem_cons, List.not_mem_nil, or_false] at hfinding
    refine ⟨["a.txt"], "abc\nend", ?_⟩
    rcases hfinding with rfl | rfl | rfl
    · refine ⟨['z'], ['e', 'n', 'd'], by decide +kernel, ?_⟩
      decide +kernel
    · refine ⟨['l', 'o', 'n', 'g'], ['a', 'b', 'c'], by decide +kernel, ?_⟩
      decide +kernel
    · refine ⟨['!'], ['a', 'b', 'c'], by decide +kernel, ?_⟩
      decide +kernel
  · intro location
    exact List.Pairwise.filter _ (by decide +kernel)
  · intro location text htext
    obtain ⟨rfl, rfl⟩ := Disk.eq_of_get?_ofFile htext
    unfold Job.FitMemory
    decide +kernel

end Pass

end Fix

end Remedy
