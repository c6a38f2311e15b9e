import Remedy.Proofs.Fix.Draft
import Remedy.Proofs.Tree.Spelling

/-!
# A pass, file by file

A pass that writes is as many runs on drafts as there are files: what it makes of a file is what
the run of that file's jobs makes of its draft, whatever it does to other files in between.  It
fails only if one of these runs does, if a remedy is at fault, or if a job does not lead to a
text.  This needs that the jobs for one file spell its path in the same way, since the drifts are
kept by path.
-/

namespace Remedy

/-- A disk with one file, which lies at its top. -/
def Disk.ofFile (name text : String) : Disk :=
  ⟨⟨[([name], .file (.text text))]⟩, []⟩

@[simp] theorem Disk.get?_ofFile (name text : String) :
    (ofFile name text).tree.get? [name] = some (.file (.text text)) := by
  simp [ofFile, Tree.get?]

/-- Such a disk holds no other text. -/
theorem Disk.eq_of_get?_ofFile {name text held : String} {location : Location}
    (hget : (ofFile name text).tree.get? location = some (.file (.text held))) :
    location = [name] ∧ held = text := by
  have hne := Tree.ne_nil_of_get?_file hget
  unfold Tree.get? at hget
  rw [if_neg hne] at hget
  by_cases hlocation : location = [name]
  · subst hlocation
    simpa [ofFile, eq_comm] using hget
  · have hfar : (location == [name]) = false := by simpa using hlocation
    simp [ofFile, List.lookup_cons, hfar] at hget

/-- A finding that asks for a text in the place of a stretch between two lines and columns. -/
def Finding.ofFix (rule path : String) (start stop : Nat × Nat) (fix : String) : Finding :=
  ⟨rule, ⟨path⟩, ⟨start.1, start.2, 0⟩, ⟨stop.1, stop.2, 0⟩, "", some fix, none⟩

/-- A finding that asks for a substitution in the lines of a stretch. -/
def Finding.ofPattern (rule path : String) (start stop : Nat × Nat)
    (pattern replacement : String) : Finding :=
  ⟨rule, ⟨path⟩, ⟨start.1, start.2, 0⟩, ⟨stop.1, stop.2, 0⟩, "", none,
    some ⟨some pattern, some replacement, none⟩⟩

namespace Path

/-- The same paths have the same components. -/
theorem same_iff {a b : Path} : a.same b = true ↔ a.components = b.components := by
  unfold same
  exact beq_iff_eq

end Path

namespace Fix

open Outcome

namespace Job

/-- The jobs that findings ask for, in their order. -/
def ofFindings (findings : Findings) : List Job :=
  findings.toList.filterMap ofFinding?

/-- The jobs for the file at a location. -/
def leadingTo (disk : Disk) (location : Location) (jobs : List Job) : List Job :=
  jobs.filter fun job => disk.locationOf? job.finding.path = some location

/-- Holds if the jobs for the file at a location spell its path in the same way. -/
def SpeltAlike (disk : Disk) (location : Location) (jobs : List Job) : Prop :=
  ∀ a ∈ leadingTo disk location jobs, ∀ b ∈ leadingTo disk location jobs,
    a.finding.path.same b.finding.path = true

/-- Holds if nothing is wrong with the remedy of a finding. -/
def Faultless (finding : Finding) : Prop :=
  ∃ directive?, Directive.ofFinding finding = .ok directive?

/-- Holds if a job leads to a file that holds a text. -/
def LeadsToText (disk : Disk) (job : Job) : Prop :=
  ∃ location text, disk.resolve job.finding.path = .ok (location, .file (.text text))

/-- Jobs that all spell their path in the same way do so for each file. -/
theorem SpeltAlike.of_forall {jobs : List Job}
    (h : ∀ a ∈ jobs, ∀ b ∈ jobs, a.finding.path.same b.finding.path = true) (disk : Disk)
    (location : Location) : SpeltAlike disk location jobs := by
  intro a ha b hb
  exact h a (List.mem_filter.mp ha).1 b (List.mem_filter.mp hb).1

theorem leadingTo_cons_of_eq {disk : Disk} {location : Location} {job : Job}
    (hjob : disk.locationOf? job.finding.path = some location) (rest : List Job) :
    leadingTo disk location (job :: rest) = job :: leadingTo disk location rest :=
  List.filter_cons_of_pos (by simpa using hjob)

theorem leadingTo_cons_of_ne {disk : Disk} {location : Location} {job : Job}
    (hjob : disk.locationOf? job.finding.path ≠ some location) (rest : List Job) :
    leadingTo disk location (job :: rest) = leadingTo disk location rest :=
  List.filter_cons_of_neg (by simpa using hjob)

theorem SpeltAlike.of_cons {disk : Disk} {location : Location} {job : Job} {rest : List Job}
    (h : SpeltAlike disk location (job :: rest)) : SpeltAlike disk location rest := by
  have hsubset : ∀ a ∈ leadingTo disk location rest, a ∈ leadingTo disk location (job :: rest) := by
    intro a ha
    exact ((List.sublist_cons_self job rest).filter _).subset ha
  intro a ha b hb
  exact h a (hsubset a ha) b (hsubset b hb)

end Job

namespace Pass

/-- The drift of the path that was noted last, and the drifts of other paths, are found. -/
theorem find?_setDrift (path other : Path) (drift : Drift) (drifts : List (Path × Drift)) :
    ((setDrift path drift drifts).find? fun entry => entry.1.same other).map (·.2) =
      if path.same other then some drift
      else (drifts.find? fun entry => entry.1.same other).map (·.2) := by
  induction drifts with
  | nil =>
      by_cases hother : path.same other = true <;> simp [setDrift, hother]
  | cons entry rest ih =>
      obtain ⟨key, held⟩ := entry
      unfold setDrift
      by_cases hkey : key.same path = true
      · have hsame : key.same other = path.same other := by
          rw [Bool.eq_iff_iff, Path.same_iff, Path.same_iff, Path.same_iff.mp hkey]
        by_cases hother : path.same other = true <;> simp [hkey, hsame, hother]
      · rw [if_neg hkey]
        by_cases hother : key.same other = true
        · have hpath : path.same other ≠ true := by
            intro hpath
            apply hkey
            rw [Path.same_iff] at hother hpath ⊢
            rw [hother, hpath]
          simp [hother, hpath]
        · simpa [hother] using ih

/-- What carrying out a job changes: the text of one file, and the drift of its path. -/
structure Carries (pass after : Pass) (job : Job) (location : Location) (next : Draft) :
    Prop where
  effect : Rewrite.Effect pass.disk after.disk location (String.ofList next.text)
  drifts : after.drifts = setDrift job.finding.path next.drift pass.drifts

/-- The draft of the file that a job leads to, which holds a text. -/
def draftFor (pass : Pass) (job : Job) (text : String) : Draft :=
  ⟨text.toList, (pass.drift? job.finding.path).getD (.ofLine job.finding.start.line)⟩

/-- On a file that holds a text, a directive is worked out as on a draft. -/
theorem compute_eq_ok_iff {disk : Disk} {job : Job} {location : Location} {text : String}
    (hresolve : disk.resolve job.finding.path = .ok (location, .file (.text text)))
    {drift : Drift} {computed : Computed} :
    compute disk (drift.enterLine job.finding.start.line) job.finding job.directive =
        .ok computed ↔
      computed.before = text ∧
        (Draft.mk text.toList drift).Plans job computed.span computed.splice := by
  unfold compute Disk.readText Disk.readContent
  rw [hresolve]
  simp only [bind_eq_ok_iff, pure_eq_ok, Drift.locate_eq_ok_iff, Except.ok.injEq]
  constructor
  · rintro ⟨span, hlocates, splice, hsplice, rfl⟩
    exact ⟨rfl, hlocates, hsplice⟩
  · rintro ⟨rfl, hlocates, hsplice⟩
    exact ⟨computed.span, hlocates, computed.splice, hsplice, rfl⟩

/-- A directive is worked out only on a file that holds a text. -/
theorem exists_resolve_of_compute {disk : Disk} {drift : Drift} {finding : Finding}
    {directive : Directive} {computed : Computed}
    (hcompute : compute disk drift finding directive = .ok computed) :
    ∃ location text, disk.resolve finding.path = .ok (location, .file (.text text)) := by
  unfold compute Disk.readText Disk.readContent at hcompute
  rcases hresolve : disk.resolve finding.path with e | ⟨location, node⟩
  · rw [hresolve] at hcompute
    cases hcompute
  · rw [hresolve] at hcompute
    cases node with
    | folder => cases hcompute
    | link target => cases hcompute
    | file content =>
        cases content with
        | text text => exact ⟨location, text, rfl⟩
        | bytes bytes => cases hcompute

/-- A job that can be carried out on the draft of its file is carried out on the disk. -/
theorem exists_carryOut {pass : Pass} {job : Job} {location : Location} {text : String}
    (hresolve : pass.disk.resolve job.finding.path = .ok (location, .file (.text text)))
    {next : Draft} (hnext : (pass.draftFor job text).carryOut job = .ok next) :
    ∃ after, pass.carryOut job.finding job.directive = .ok after ∧
      pass.Carries after job location next := by
  obtain ⟨span, splice, hplans, htext, hrecord⟩ := Draft.carryOut_eq_ok_iff.mp hnext
  obtain ⟨disk, outcome, hwrite, heffect⟩ :=
    Rewrite.exists_apply_ofTexts hresolve (String.ofList next.text)
  have hcompute := (compute_eq_ok_iff hresolve).mpr
    (show (Computed.mk text span splice).before = text ∧ _ from ⟨rfl, hplans⟩)
  rw [htext] at hwrite
  unfold draftFor Draft.aim at hrecord
  unfold carryOut
  simp only [hcompute, hwrite, hrecord]
  exact ⟨_, rfl, heffect, rfl⟩

/-- A job that is carried out on the disk can be carried out on the draft of its file. -/
theorem exists_draft_of_carryOut {pass after : Pass} {job : Job}
    (hafter : pass.carryOut job.finding job.directive = .ok after) :
    ∃ location text next,
      pass.disk.resolve job.finding.path = .ok (location, .file (.text text)) ∧
        (pass.draftFor job text).carryOut job = .ok next ∧
        pass.Carries after job location next := by
  have hcomputes : ∃ computed, compute pass.disk
      (((pass.drift? job.finding.path).getD (.ofLine job.finding.start.line)).enterLine
        job.finding.start.line) job.finding job.directive = .ok computed := by
    unfold carryOut at hafter
    dsimp only at hafter
    split at hafter
    · cases hafter
    · rename_i computed hcompute
      exact ⟨computed, hcompute⟩
  obtain ⟨computed, hcompute⟩ := hcomputes
  obtain ⟨location, text, hresolve⟩ := exists_resolve_of_compute hcompute
  obtain ⟨hbefore, hplans⟩ := (compute_eq_ok_iff hresolve).mp hcompute
  cases hrecord : job.directive.record? ((pass.draftFor job text).aim job) computed.span
      computed.splice.delta with
  | none =>
      obtain ⟨disk, outcome, hwrite, -⟩ :=
        Rewrite.exists_apply_ofTexts hresolve (String.ofList computed.splice.text)
      unfold carryOut at hafter
      unfold draftFor Draft.aim at hrecord
      simp only [hcompute, hbefore, hwrite, hrecord] at hafter
      cases hafter
  | some drift =>
      have hnext : (pass.draftFor job text).carryOut job = .ok ⟨computed.splice.text, drift⟩ :=
        Draft.carryOut_eq_ok_iff.mpr
          ⟨computed.span, computed.splice, hplans, rfl, hrecord⟩
      obtain ⟨found, hfound, hcarries⟩ := exists_carryOut hresolve hnext
      obtain rfl := Except.ok.inj (hfound.symm.trans hafter)
      exact ⟨location, text, _, hresolve, hnext, hcarries⟩

/-- Deals with a job. -/
def act (trial : Bool) (pass : Pass) (job : Job) : Except Stop Pass :=
  if trial then
    (pass.preview job.finding job.directive).mapError fun trouble => ⟨trouble, pass.disk⟩
  else
    pass.carryOut job.finding job.directive

/-- A step deals with the job that a finding asks for, and with nothing else. -/
theorem step_eq_ok_iff {trial : Bool} {pass after : Pass} {finding : Finding} :
    step trial pass finding = .ok after ↔
      Job.Faultless finding ∧
        (Job.ofFinding? finding).toList.foldlM (act trial) pass = .ok after := by
  unfold step Job.Faultless Job.ofFinding?
  rcases Directive.ofFinding finding with fault | _ | directive
  · simp
  · simp [Except.toOption]
  · simp only [Except.toOption, Option.join_some, Option.map_some, Option.toList_some,
      List.foldlM_cons, List.foldlM_nil, bind_pure, act, Except.ok.injEq, exists_eq', true_and]

/-- A pass deals with the jobs that its findings ask for, none of which may be at fault. -/
theorem foldlM_step_eq_ok_iff {trial : Bool} {findings : List Finding} {pass after : Pass} :
    findings.foldlM (step trial) pass = .ok after ↔
      (∀ finding ∈ findings, Job.Faultless finding) ∧
        (findings.filterMap Job.ofFinding?).foldlM (act trial) pass = .ok after := by
  induction findings generalizing pass with
  | nil => simp
  | cons finding rest ih =>
      have hjobs : (finding :: rest).filterMap Job.ofFinding? =
          (Job.ofFinding? finding).toList ++ rest.filterMap Job.ofFinding? := by
        cases hjob : Job.ofFinding? finding with
        | none => simp [hjob]
        | some job => simp [hjob]
      rw [hjobs, List.foldlM_append, List.foldlM_cons, bind_eq_ok_iff, bind_eq_ok_iff]
      constructor
      · rintro ⟨middle, hstep, hrest⟩
        obtain ⟨hsound, hact⟩ := step_eq_ok_iff.mp hstep
        obtain ⟨hothers, hjobs⟩ := ih.mp hrest
        exact ⟨List.forall_mem_cons.mpr ⟨hsound, hothers⟩, middle, hact, hjobs⟩
      · rintro ⟨hsound, middle, hact, hjobs⟩
        obtain ⟨hfirst, hothers⟩ := List.forall_mem_cons.mp hsound
        exact ⟨middle, step_eq_ok_iff.mpr ⟨hfirst, hact⟩, ih.mpr ⟨hothers, hjobs⟩⟩

theorem run_eq_ok_iff {trial : Bool} {findings : Findings} {disk : Disk} {after : Pass} :
    run trial findings disk = .ok after ↔
      (∀ finding ∈ findings.toList, Job.Faultless finding) ∧
        (Job.ofFindings findings).foldlM (act trial) (begin disk) = .ok after :=
  foldlM_step_eq_ok_iff

/-- A pass has come with the file at a location as far as a draft says. -/
structure Tracks (disk : Disk) (location : Location) (jobs : List Job) (pass : Pass)
    (draft : Draft) : Prop where
  alike : disk.Alike pass.disk
  text : pass.disk.tree.get? location = some (.file (.text (String.ofList draft.text)))
  drift : ∀ job ∈ Job.leadingTo disk location jobs, ∀ line,
    ((pass.drift? job.finding.path).getD (.ofLine line)).enterLine line =
      draft.drift.enterLine line

namespace Tracks

variable {disk : Disk} {location : Location} {jobs rest : List Job} {job : Job}
  {pass after : Pass} {draft next : Draft}

/-- A pass begins with the draft of a file that nothing was written to. -/
theorem begin {text : String} (htext : disk.tree.get? location = some (.file (.text text))) :
    Tracks disk location jobs (Pass.begin disk) (.ofText text.toList) := by
  refine ⟨.refl disk, ?_, ?_⟩
  · rw [Draft.ofText, String.ofList_toList]
    exact htext
  · intro job _ line
    exact (Drift.enterLine_ofLine line line).trans (Drift.enterLine_ofLine 0 line).symm

/-- The file that a job leads to holds what its draft says. -/
theorem resolve (tracks : Tracks disk location jobs pass draft)
    (hjob : disk.locationOf? job.finding.path = some location) :
    pass.disk.resolve job.finding.path =
      .ok (location, .file (.text (String.ofList draft.text))) := by
  refine Disk.resolve_of_locationOf? ?_ tracks.text
  rw [Disk.locationOf?_of_alike tracks.alike]
  exact hjob

/-- The job of a file can be carried out if it can be on the draft that tracks the file. -/
theorem draftFor_carryOut (tracks : Tracks disk location (job :: rest) pass draft)
    (hjob : disk.locationOf? job.finding.path = some location) :
    (pass.draftFor job (String.ofList draft.text)).carryOut job = draft.carryOut job := by
  have hmem : job ∈ Job.leadingTo disk location (job :: rest) := by
    rw [Job.leadingTo_cons_of_eq hjob]
    exact List.mem_cons_self
  unfold draftFor
  rw [String.toList_ofList]
  exact Draft.carryOut_congr (tracks.drift job hmem _)

/-- What a job does to its file, the draft of that file tells. -/
theorem carryOut (tracks : Tracks disk location (job :: rest) pass draft)
    (hspelt : Job.SpeltAlike disk location (job :: rest))
    (hjob : disk.locationOf? job.finding.path = some location)
    (hcarries : pass.Carries after job location next) :
    Tracks disk location rest after next := by
  refine ⟨tracks.alike.trans hcarries.effect.alike, ?_, ?_⟩
  · rw [hcarries.effect.get?, if_pos rfl]
  · intro other hother line
    have hsame : job.finding.path.same other.finding.path = true := by
      refine hspelt job ?_ other ?_
      · rw [Job.leadingTo_cons_of_eq hjob]
        exact List.mem_cons_self
      · rw [Job.leadingTo_cons_of_eq hjob]
        exact List.mem_cons_of_mem job hother
    have hfound : after.drift? other.finding.path = some next.drift := by
      unfold drift?
      rw [hcarries.drifts, find?_setDrift, if_pos hsame]
    rw [hfound, Option.getD_some]

/-- A job for another file changes neither this file nor its drift. -/
theorem skip (tracks : Tracks disk location (job :: rest) pass draft) {other : Location}
    {text : String}
    (hresolve : pass.disk.resolve job.finding.path = .ok (other, .file (.text text)))
    (hne : other ≠ location) (hcarries : pass.Carries after job other next) :
    Tracks disk location rest after draft := by
  have hjob : disk.locationOf? job.finding.path ≠ some location := by
    rw [← Disk.locationOf?_of_alike tracks.alike, Disk.locationOf?_of_resolve hresolve]
    exact fun heq => hne (Option.some.inj heq)
  refine ⟨tracks.alike.trans hcarries.effect.alike, ?_, ?_⟩
  · rw [hcarries.effect.get?, if_neg (Ne.symm hne)]
    exact tracks.text
  · intro later hlater line
    have hleads : disk.locationOf? later.finding.path = some location := by
      simpa using (List.mem_filter.mp hlater).2
    have hdiffers : ¬job.finding.path.same later.finding.path = true := by
      intro hsame
      exact hne (Disk.location_eq_of_same hsame hresolve (tracks.resolve hleads))
    have hkept : after.drift? later.finding.path = pass.drift? later.finding.path := by
      unfold drift?
      rw [hcarries.drifts, find?_setDrift, if_neg hdiffers]
    rw [hkept]
    refine tracks.drift later ?_ line
    rw [Job.leadingTo_cons_of_ne hjob]
    exact hlater

/-- Along a pass, the draft of a file runs through the jobs of that file. -/
theorem run (tracks : Tracks disk location jobs pass draft)
    (hspelt : Job.SpeltAlike disk location jobs)
    (hrun : jobs.foldlM (act false) pass = .ok after) :
    ∃ final, draft.run (Job.leadingTo disk location jobs) = .ok final ∧
      Tracks disk location [] after final := by
  induction jobs generalizing pass draft with
  | nil =>
      obtain rfl := Except.ok.inj hrun
      exact ⟨draft, rfl, tracks⟩
  | cons job rest ih =>
      rw [List.foldlM_cons, bind_eq_ok_iff] at hrun
      obtain ⟨middle, hact, hrest⟩ := hrun
      obtain ⟨found, text, next, hresolve, hnext, hcarries⟩ := exists_draft_of_carryOut hact
      by_cases hfound : found = location
      · subst hfound
        have hjob : disk.locationOf? job.finding.path = some found := by
          rw [← Disk.locationOf?_of_alike tracks.alike]
          exact Disk.locationOf?_of_resolve hresolve
        have hheld := Except.ok.inj (hresolve.symm.trans (tracks.resolve hjob))
        obtain rfl : text = String.ofList draft.text := by simpa using hheld
        rw [tracks.draftFor_carryOut hjob] at hnext
        rw [Job.leadingTo_cons_of_eq hjob]
        obtain ⟨final, hfinal, hend⟩ := ih (tracks.carryOut hspelt hjob hcarries) hspelt.of_cons hrest
        exact ⟨final, Draft.run_cons_eq_ok_iff.mpr ⟨next, hnext, hfinal⟩, hend⟩
      · have hjob : disk.locationOf? job.finding.path ≠ some location := by
          rw [← Disk.locationOf?_of_alike tracks.alike, Disk.locationOf?_of_resolve hresolve]
          exact fun heq => hfound (Option.some.inj heq)
        rw [Job.leadingTo_cons_of_ne hjob]
        exact ih (tracks.skip hresolve hfound hcarries) hspelt.of_cons hrest

end Tracks

/-- Jobs that a pass has carried out lead to texts. -/
theorem leadsToText_of_foldlM {jobs : List Job} {disk : Disk} {pass after : Pass}
    (halike : disk.Alike pass.disk) (hrun : jobs.foldlM (act false) pass = .ok after) :
    disk.Alike after.disk ∧ ∀ job ∈ jobs, job.LeadsToText disk := by
  induction jobs generalizing pass with
  | nil =>
      obtain rfl := Except.ok.inj hrun
      exact ⟨halike, fun _ hmem => absurd hmem List.not_mem_nil⟩
  | cons job rest ih =>
      rw [List.foldlM_cons, bind_eq_ok_iff] at hrun
      obtain ⟨middle, hact, hrest⟩ := hrun
      obtain ⟨location, text, next, hresolve, -, hcarries⟩ := exists_draft_of_carryOut hact
      obtain ⟨hafter, hothers⟩ := ih (halike.trans hcarries.effect.alike) hrest
      refine ⟨hafter, List.forall_mem_cons.mpr ⟨?_, hothers⟩⟩
      obtain ⟨old, hold⟩ := Disk.resolve_text_of_alike halike.symm hresolve
      exact ⟨location, old, hold⟩

/-- Jobs that lead to texts are carried out if the drafts of all files go through. -/
theorem exists_foldlM {disk : Disk} {jobs : List Job} {pass : Pass}
    (halike : disk.Alike pass.disk) (hleads : ∀ job ∈ jobs, job.LeadsToText disk)
    (hspelt : ∀ location, Job.SpeltAlike disk location jobs)
    (hdrafts : ∀ location text, disk.tree.get? location = some (.file (.text text)) →
      ∃ draft final, Tracks disk location jobs pass draft ∧
        draft.run (Job.leadingTo disk location jobs) = .ok final) :
    ∃ after, jobs.foldlM (act false) pass = .ok after := by
  induction jobs generalizing pass with
  | nil => exact ⟨pass, rfl⟩
  | cons job rest ih =>
      obtain ⟨⟨location, text, hleads⟩, hothers⟩ := List.forall_mem_cons.mp hleads
      have hjob := Disk.locationOf?_of_resolve hleads
      obtain ⟨draft, final, tracks, hfinal⟩ :=
        hdrafts location text (Disk.get?_of_resolve hleads)
      rw [Job.leadingTo_cons_of_eq hjob] at hfinal
      obtain ⟨next, hnext, hlater⟩ := Draft.run_cons_eq_ok_iff.mp hfinal
      rw [← tracks.draftFor_carryOut hjob] at hnext
      obtain ⟨middle, hact, hcarries⟩ := exists_carryOut (tracks.resolve hjob) hnext
      have hrest := ih (halike.trans hcarries.effect.alike) hothers
        (fun other => (hspelt other).of_cons) ?_
      · obtain ⟨after, hafter⟩ := hrest
        refine ⟨after, ?_⟩
        rw [List.foldlM_cons, bind_eq_ok_iff]
        exact ⟨middle, hact, hafter⟩
      · intro other held hheld
        by_cases heq : other = location
        · subst heq
          exact ⟨next, final, tracks.carryOut (hspelt other) hjob hcarries, hlater⟩
        · obtain ⟨theirs, last, htheirs, hlast⟩ := hdrafts other held hheld
          rw [Job.leadingTo_cons_of_ne (by rw [hjob]; exact fun h => heq (Option.some.inj h).symm)]
            at hlast
          exact ⟨theirs, last, htheirs.skip (tracks.resolve hjob) (Ne.symm heq) hcarries, hlast⟩

/-- What a pass that writes makes of a text, the run of the jobs for it makes of its draft. -/
theorem exists_draft_of_run {findings : Findings} {disk : Disk} {pass : Pass}
    (hrun : run false findings disk = .ok pass) {location : Location} {text : String}
    (htext : disk.tree.get? location = some (.file (.text text)))
    (hspelt : Job.SpeltAlike disk location (Job.ofFindings findings)) :
    ∃ final, (Draft.ofText text.toList).run
        (Job.leadingTo disk location (Job.ofFindings findings)) = .ok final ∧
      pass.disk.tree.get? location = some (.file (.text (String.ofList final.text))) := by
  obtain ⟨-, hjobs⟩ := run_eq_ok_iff.mp hrun
  obtain ⟨final, hfinal, htracks⟩ := (Tracks.begin htext).run hspelt hjobs
  exact ⟨final, hfinal, htracks.text⟩

/-- A pass changes texts at most. -/
theorem alike_of_run {findings : Findings} {disk : Disk} {pass : Pass}
    (hrun : run false findings disk = .ok pass) : disk.Alike pass.disk := by
  obtain ⟨-, hjobs⟩ := run_eq_ok_iff.mp hrun
  exact (leadsToText_of_foldlM (Disk.Alike.refl disk) hjobs).1

/-- What no job is for stays. -/
theorem get?_eq_of_leadingTo_eq_nil {findings : Findings} {disk : Disk} {pass : Pass}
    (hrun : run false findings disk = .ok pass) {location : Location}
    (hnone : Job.leadingTo disk location (Job.ofFindings findings) = []) :
    pass.disk.tree.get? location = disk.tree.get? location := by
  by_cases htext : ∃ text, disk.tree.get? location = some (.file (.text text))
  · obtain ⟨text, htext⟩ := htext
    have hspelt : Job.SpeltAlike disk location (Job.ofFindings findings) := by
      unfold Job.SpeltAlike
      rw [hnone]
      exact fun _ h => absurd h List.not_mem_nil
    obtain ⟨final, hfinal, hafter⟩ := exists_draft_of_run hrun htext hspelt
    rw [hnone, Draft.run_nil] at hfinal
    obtain rfl := Except.ok.inj hfinal
    rw [hafter, htext, Draft.ofText, String.ofList_toList]
  · exact (alike_of_run hrun).get?_eq_of_not_text fun text heq => htext ⟨text, heq⟩

/-- When a pass that writes goes through. -/
theorem exists_run_iff {findings : Findings} {disk : Disk}
    (hspelt : ∀ location, Job.SpeltAlike disk location (Job.ofFindings findings)) :
    (∃ pass, run false findings disk = .ok pass) ↔
      (∀ finding ∈ findings.toList, Job.Faultless finding) ∧
        (∀ job ∈ Job.ofFindings findings, job.LeadsToText disk) ∧
        ∀ location text, disk.tree.get? location = some (.file (.text text)) →
          ∃ final, (Draft.ofText text.toList).run
            (Job.leadingTo disk location (Job.ofFindings findings)) = .ok final := by
  constructor
  · rintro ⟨pass, hrun⟩
    obtain ⟨hsound, hjobs⟩ := run_eq_ok_iff.mp hrun
    refine ⟨hsound, (leadsToText_of_foldlM (Disk.Alike.refl disk) hjobs).2, ?_⟩
    intro location text htext
    obtain ⟨final, hfinal, -⟩ := exists_draft_of_run hrun htext (hspelt location)
    exact ⟨final, hfinal⟩
  · rintro ⟨hsound, hleads, hdrafts⟩
    have hstart : ∀ location text, disk.tree.get? location = some (.file (.text text)) →
        ∃ draft final, Tracks disk location (Job.ofFindings findings) (begin disk) draft ∧
          draft.run (Job.leadingTo disk location (Job.ofFindings findings)) = .ok final := by
      intro location text htext
      obtain ⟨final, hfinal⟩ := hdrafts location text htext
      exact ⟨_, final, .begin htext, hfinal⟩
    obtain ⟨pass, hpass⟩ := exists_foldlM (Disk.Alike.refl disk) hleads hspelt hstart
    exact ⟨pass, run_eq_ok_iff.mpr ⟨hsound, hpass⟩⟩

end Pass

end Fix

end Remedy
