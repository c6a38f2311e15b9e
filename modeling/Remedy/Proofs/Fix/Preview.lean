import Remedy.Proofs.Fix.Assembly

/-!
# What a trial foretells

A trial of many findings is made of the trials of each of them: it shows what they show, one after
the other, and stops where the first of them stops.  Nothing is written on the way.  What the trial
of one finding shows are the lines that carrying that finding out puts into its file.
-/

namespace Remedy.Fix

open Outcome

/-- The lines of a block stand in the text that it was put into, behind those in front of it. -/
theorem Cut.take_drop_split {text : List Char} {directive : Directive} {span : Span}
    {before covered behind : List (List Char)} {splice : Splice}
    (cut : Cut text directive span before covered behind)
    (hsplice : directive.splice text span = .ok splice) :
    ((Text.split splice.text).drop before.length).take splice.block.length = splice.block := by
  obtain ⟨htext, -, hblock⟩ := cut.split_text hsplice
  by_cases hempty : before ++ splice.block ++ behind = []
  · have hnone : splice.block = [] :=
      (List.append_eq_nil_iff.mp (List.append_eq_nil_iff.mp hempty).1).2
    rw [hnone]
    rfl
  · have hfree := cut.newline_not_mem_of_block (Directive.newline_not_mem_of_mem_block hblock)
    rw [htext, Text.split_join hempty hfree, List.append_assoc, List.drop_left, List.take_left]

/--
What was worked out on a text that nothing was written to is carried out there, and its lines come
to stand where the match begins.
-/
theorem Draft.Plans.exists_carryOut {text : String} {job : Job} {span : Span} {splice : Splice}
    (hplans : (Draft.ofText text.toList).Plans job span splice) (hstored : job.finding.IsStored)
    (hfix : ∀ fix, job.directive = .literal fix → fix.length < 2 ^ 63)
    (htext : text.length < 2 ^ 63) (hblock : splice.block.length < 2 ^ 63) :
    ∃ next, (Draft.ofText text.toList).carryOut job = .ok next ∧
      ((Text.split next.text).drop (job.finding.start.line - 1)).take splice.block.length =
        splice.block := by
  have haim : (Draft.ofText text.toList).aim job = .ofLine job.finding.start.line :=
    Drift.enterLine_ofLine 0 job.finding.start.line
  have hlocates := hplans.locates
  rw [haim] at hlocates
  have hsits := hlocates.sits hstored
  have hsplice : job.directive.splice text.toList span = .ok splice := hplans.splice
  have hcut := Cut.of_splice hsits.ordered hsplice
  have hoffset : Offset.IsOffset (0 + splice.delta) := by
    obtain ⟨-, hdelta, -⟩ := hcut.split_text hsplice
    have hcount := hcut.length_split
    have hlength := Text.length_split_le text.toList
    rw [String.length_toList] at hlength
    unfold Offset.IsOffset
    omega
  have hstopCol := hsits.stopCol
  have hstopColLt := hsits.stopCol_lt
  obtain ⟨drift, hrecord⟩ : ∃ drift,
      job.directive.record? ((Draft.ofText text.toList).aim job) span splice.delta =
        some drift := by
    rw [haim]
    exact Directive.exists_record? rfl (by omega) hfix hoffset
  refine ⟨⟨splice.text, drift⟩, carryOut_eq_ok_iff.mpr ⟨span, splice, hplans, rfl, hrecord⟩, ?_⟩
  have hindex : job.finding.start.line - 1 =
      ((Text.split text.toList).take span.startLine).length := by
    rw [hsits.startLine, ← hcut.startLine]
    rfl
  rw [hindex]
  exact hcut.take_drop_split hsplice

namespace Pass

/-!
## Trials of one finding
-/

/-- A trial of one finding. -/
def tryAlone (disk : Disk) (finding : Finding) : Except Stop Pass :=
  run true (.ofList [finding]) disk

/-- What a trial of one finding shows, if it goes through. -/
def shownAlone (disk : Disk) (finding : Finding) : List Preview :=
  match tryAlone disk finding with
  | .ok trial => trial.previews
  | .error _ => []

/-- A pass over one finding is one step. -/
theorem run_singleton (trial : Bool) (finding : Finding) (disk : Disk) :
    run trial (.ofList [finding]) disk = step trial (begin disk) finding := by
  have hlist : (Findings.ofList [finding]).toList = [finding] := rfl
  rw [run, hlist, List.foldlM_cons]
  exact bind_pure _

/-- A step of a trial adds what the trial of its finding alone shows, or stops as that does. -/
theorem step_true_eq (pass : Pass) (finding : Finding) :
    step true pass finding = (tryAlone pass.disk finding).map fun trial =>
      { pass with previews := pass.previews ++ trial.previews } := by
  rw [tryAlone, run_singleton]
  unfold step
  cases Directive.ofFinding finding with
  | error fault => rfl
  | ok directive? =>
      cases directive? with
      | none =>
          simp only [Except.map, begin, List.append_nil]
      | some directive =>
          simp only [if_true, preview, begin]
          cases compute pass.disk (.ofLine finding.start.line) finding directive with
          | error failure => rfl
          | ok computed => rfl

/-- A trial of findings that all go through alone shows what they show. -/
theorem foldlM_step_true {found : List Finding} {pass : Pass}
    (h : ∀ finding ∈ found, ∃ trial, tryAlone pass.disk finding = .ok trial) :
    found.foldlM (step true) pass =
      .ok { pass with
        previews := pass.previews ++ found.flatMap (shownAlone pass.disk) } := by
  induction found generalizing pass with
  | nil => rw [List.flatMap_nil, List.append_nil]; rfl
  | cons finding rest ih =>
      obtain ⟨⟨trial, htrial⟩, hrest⟩ := List.forall_mem_cons.mp h
      have hshown : shownAlone pass.disk finding = trial.previews := by
        unfold shownAlone
        rw [htrial]
      have hlater := @ih { pass with previews := pass.previews ++ trial.previews } hrest
      rw [List.foldlM_cons, step_true_eq, htrial, Except.map, ok_bind, hlater, List.flatMap_cons,
        hshown, List.append_assoc]

/-- A trial goes through if that of each finding does, and shows what these show. -/
theorem run_true_of_forall {findings : Findings} {disk : Disk}
    (h : ∀ finding ∈ findings.toList, ∃ trial, tryAlone disk finding = .ok trial) :
    run true findings disk =
      .ok { begin disk with previews := findings.toList.flatMap (shownAlone disk) } :=
  foldlM_step_true h

/-- A trial stops at the first finding whose trial stops, and for the same reason. -/
theorem run_true_of_first {findings : Findings} {disk : Disk} {front rest : List Finding}
    {finding : Finding} {stop : Stop} (hsplit : findings.toList = front ++ finding :: rest)
    (hfront : ∀ earlier ∈ front, ∃ trial, tryAlone disk earlier = .ok trial)
    (hstop : tryAlone disk finding = .error stop) : run true findings disk = .error stop := by
  rw [run, hsplit, List.foldlM_append, foldlM_step_true hfront, ok_bind, List.foldlM_cons,
    step_true_eq]
  dsimp only [begin]
  rw [hstop]
  rfl

/-- A trial of one finding that stops has written nothing. -/
theorem disk_of_tryAlone_eq_error {disk : Disk} {finding : Finding} {stop : Stop}
    (h : tryAlone disk finding = .error stop) : stop.disk = disk := by
  rw [tryAlone, run_singleton] at h
  unfold step at h
  split at h
  · cases h
    rfl
  · cases h
  · simp only [if_true, preview, begin] at h
    split at h
    · cases h
      rfl
    · cases h

/-- A trial goes through and changes nothing but what is shown, or it stops and changes nothing. -/
theorem run_true_cases (findings : Findings) (disk : Disk) :
    run true findings disk =
        .ok { begin disk with previews := findings.toList.flatMap (shownAlone disk) } ∨
      ∃ stop, run true findings disk = .error stop ∧ stop.disk = disk := by
  rcases forall_ok_or_exists_first_error (tryAlone disk) findings.toList with
    hall | ⟨front, finding, rest, stop, hsplit, hfront, hstop⟩
  · exact .inl (run_true_of_forall hall)
  · exact .inr ⟨stop, run_true_of_first hsplit hfront hstop, disk_of_tryAlone_eq_error hstop⟩

/-- A finding without a remedy shows nothing. -/
theorem tryAlone_of_not_hasRemedy {disk : Disk} {finding : Finding}
    (hnone : finding.hasRemedy = false) : tryAlone disk finding = .ok (begin disk) := by
  rw [tryAlone, run_singleton, step, Directive.ofFinding_of_not_hasRemedy hnone]

/-!
## The pass that a trial foretells
-/

/-- A job that leads to a text is carried out alone if it is on the draft of that text. -/
theorem exists_carryOut_begin {disk : Disk} {job : Job} {location : Location} {text : String}
    (hresolve : disk.resolve job.finding.path = .ok (location, .file (.text text)))
    {next : Draft} (hnext : (Draft.ofText text.toList).carryOut job = .ok next) :
    ∃ pass, (begin disk).carryOut job.finding job.directive = .ok pass ∧
      pass.disk.readText job.finding.path = .ok (String.ofList next.text) := by
  have hbegin : ((begin disk).draftFor job text).carryOut job = .ok next := by
    rw [← hnext]
    exact Draft.carryOut_congr ((Drift.enterLine_ofLine _ _).trans
      (Drift.enterLine_ofLine 0 _).symm)
  obtain ⟨pass, hpass, hcarries⟩ := @exists_carryOut (begin disk) _ _ _ hresolve _ hbegin
  have hafter : pass.disk.resolve job.finding.path =
      .ok (location, .file (.text (String.ofList next.text))) := by
    refine Disk.resolve_of_locationOf? ?_ (by rw [hcarries.effect.get?, if_pos rfl])
    rw [Disk.locationOf?_of_alike hcarries.effect.alike]
    exact Disk.locationOf?_of_resolve hresolve
  refine ⟨pass, hpass, ?_⟩
  unfold Disk.readText Disk.readContent
  rw [hafter]

/-- How a trial of findings goes by the trials of each of them. -/
structure GoesOneByOne (findings : Findings) (disk : Disk) : Prop where
  /-- A trial that goes through leaves the disk as it is and counts nothing as modified. -/
  unwritten : ∀ trial, run true findings disk = .ok trial →
    trial.disk = disk ∧ trial.modified = []
  /-- A trial that stops leaves the disk as it is. -/
  untouched : ∀ stop, run true findings disk = .error stop → stop.disk = disk
  /-- If each finding goes through alone, all do, and show in turn what each shows. -/
  shows : (∀ finding ∈ findings.toList, ∃ alone, tryAlone disk finding = .ok alone) →
    ∃ trial, run true findings disk = .ok trial ∧
      trial.previews = findings.toList.flatMap (shownAlone disk)
  /-- Where not, the trial stops at the first that stops alone, for the same reason. -/
  stops : ∀ front finding rest stop, findings.toList = front ++ finding :: rest →
    (∀ earlier ∈ front, ∃ alone, tryAlone disk earlier = .ok alone) →
      tryAlone disk finding = .error stop → run true findings disk = .error stop
  /-- A finding without a remedy goes through and shows nothing. -/
  silent : ∀ finding ∈ findings.toList, finding.hasRemedy = false →
    ∃ alone, tryAlone disk finding = .ok alone ∧ alone.previews = []
  /--
  What goes through alone is carried out alone, and its file then holds what was shown, if findings
  and files are of sizes that can be stored.
  -/
  foretells : ∀ finding ∈ findings.toList, ∀ alone, tryAlone disk finding = .ok alone →
    finding.IsStored →
    (∀ location text, disk.tree.get? location = some (.file (.text text)) →
      text.length < 2 ^ 63) →
    (∀ preview ∈ alone.previews, preview.lines.length < 2 ^ 63) →
      ∃ pass, run false (.ofList [finding]) disk = .ok pass ∧
        ∀ preview ∈ alone.previews, preview.path = finding.path ∧
          preview.line = finding.start.line ∧
          ∃ text, pass.disk.readText finding.path = .ok text ∧
            ((Text.split text.toList).drop (preview.line - 1)).take preview.lines.length =
              preview.lines

/-- A finding that goes through alone is carried out alone, as was shown. -/
theorem exists_run_of_tryAlone {disk : Disk} {finding : Finding} {alone : Pass}
    (halone : tryAlone disk finding = .ok alone) (hstored : finding.IsStored)
    (htexts : ∀ location text, disk.tree.get? location = some (.file (.text text)) →
      text.length < 2 ^ 63)
    (hlines : ∀ preview ∈ alone.previews, preview.lines.length < 2 ^ 63) :
    ∃ pass, run false (.ofList [finding]) disk = .ok pass ∧
      ∀ preview ∈ alone.previews, preview.path = finding.path ∧
        preview.line = finding.start.line ∧
        ∃ text, pass.disk.readText finding.path = .ok text ∧
          ((Text.split text.toList).drop (preview.line - 1)).take preview.lines.length =
            preview.lines := by
  rw [tryAlone, run_singleton, step_eq_ok_iff] at halone
  obtain ⟨hsound, hact⟩ := halone
  have hrun : ∀ pass, run false (.ofList [finding]) disk = .ok pass ↔
      (Job.ofFinding? finding).toList.foldlM (act false) (begin disk) = .ok pass := by
    intro pass
    rw [run_singleton, step_eq_ok_iff, and_iff_right hsound]
  cases hjob : Job.ofFinding? finding with
  | none =>
      rw [hjob] at hact hrun
      obtain rfl := Except.ok.inj hact
      exact ⟨begin disk, (hrun _).mpr rfl, fun _ hpreview => absurd hpreview List.not_mem_nil⟩
  | some job =>
      obtain ⟨rfl, hdirective⟩ := Job.ofFinding?_eq_some_iff.mp hjob
      simp only [hjob, Option.toList_some, List.foldlM_cons, List.foldlM_nil, bind_pure]
        at hact hrun
      obtain ⟨preview, hshown, rfl⟩ := exists_shown_of_act hact
      obtain ⟨location, text, span, splice, hresolve, hplans, hblock⟩ := hshown.block
      have hfix : ∀ fix, job.directive = .literal fix → fix.length < 2 ^ 63 := by
        intro fix hfix
        rw [hfix] at hdirective
        exact hstored.fix fix (Directive.literalFix?_of_ofFinding hdirective)
      have hcount : splice.block.length < 2 ^ 63 := by
        rw [← hblock]
        exact hlines preview (List.mem_append_right _ List.mem_cons_self)
      obtain ⟨next, hnext, hheld⟩ := hplans.exists_carryOut hstored hfix
        (htexts location text (Disk.get?_of_resolve hresolve)) hcount
      obtain ⟨pass, hpass, hread⟩ := exists_carryOut_begin hresolve hnext
      refine ⟨pass, (hrun pass).mpr hpass, fun other hother => ?_⟩
      obtain rfl : other = preview := List.mem_singleton.mp hother
      refine ⟨hshown.path, hshown.line, _, hread, ?_⟩
      rw [String.toList_ofList, hshown.line, hblock]
      exact hheld

/--
A trial writes nothing and goes finding by finding: it shows what the trials of its findings show,
or stops where the first of them stops; and what is shown for a finding is what its file holds once
it is carried out.
-/
theorem goesOneByOne (findings : Findings) (disk : Disk) : GoesOneByOne findings disk := by
  refine ⟨fun trial htrial => ?_, fun stop hstop => ?_,
    fun hall => ⟨_, run_true_of_forall hall, rfl⟩,
    fun _ _ _ _ hsplit hfront hstop => run_true_of_first hsplit hfront hstop,
    fun finding _ hnone => ⟨_, tryAlone_of_not_hasRemedy hnone, rfl⟩,
    fun finding _ alone halone hstored htexts hlines =>
      exists_run_of_tryAlone halone hstored htexts hlines⟩
  · rcases run_true_cases findings disk with hshown | ⟨stop, hstop, -⟩
    · obtain rfl := Except.ok.inj (hshown.symm.trans htrial)
      exact ⟨rfl, rfl⟩
    · cases hstop.symm.trans htrial
  · rcases run_true_cases findings disk with hshown | ⟨first, hfirst, hdisk⟩
    · cases hshown.symm.trans hstop
    · obtain rfl := Except.error.inj (hfirst.symm.trans hstop)
      exact hdisk

/-- A substitution that joins lines, a finding without a remedy, and a fix that makes lines. -/
def joinThenSplit : Findings :=
  .ofList [.ofPattern "r" "a.txt" (2, 1) (9, 1) "b\nc" "d", .ofFix "r" "a.txt" (1, 1) (1, 1) "",
    .ofFix "s" "a.txt" (1, 2) (2, 1) "x\r\ny"]

theorem goesOneByOne_joining :
    GoesOneByOne joinThenSplit (.ofFile "a.txt" "a\nb\nc\n") ∧
      (∀ finding ∈ joinThenSplit.toList, finding.IsStored ∧
        (tryAlone (.ofFile "a.txt" "a\nb\nc\n") finding).toOption.isSome = true) ∧
      (run true joinThenSplit (.ofFile "a.txt" "a\nb\nc\n")).toOption.map
          (fun trial => trial.previews.map (·.lines)) =
        some [[['d']], [['a', 'x'], ['y', 'b']]] :=
  ⟨goesOneByOne _ _, by decide +kernel, by decide +kernel⟩

end Pass

end Remedy.Fix
