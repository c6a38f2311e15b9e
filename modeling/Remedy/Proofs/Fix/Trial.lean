import Mathlib.Data.List.Forall2
import Remedy.Proofs.Fix.Files

/-!
# Trial passes

A trial pass works every job out on the files as they are, each with a drift of nothing, and
shows the blocks that come of it.  There is one preview for each job, in the order of the jobs.
-/

namespace Remedy.Fix

open Outcome

/-- A preview shows the block that a job makes of its file as it is on the disk. -/
structure Job.Shown (disk : Disk) (job : Job) (preview : Preview) : Prop where
  rule : preview.rule = job.finding.rule
  path : preview.path = job.finding.path
  line : preview.line = job.finding.start.line
  block : ∃ location text span splice,
    disk.resolve job.finding.path = .ok (location, .file (.text text)) ∧
      (Draft.ofText text.toList).Plans job span splice ∧ preview.lines = splice.block

namespace Job.Shown

/-- A job that is shown leads to a text. -/
theorem leadsToText {disk : Disk} {job : Job} {preview : Preview}
    (shown : job.Shown disk preview) : job.LeadsToText disk := by
  obtain ⟨location, text, span, splice, hresolve, -⟩ := shown.block
  exact ⟨location, text, hresolve⟩

/-- What is shown for a job was worked out on the text that it leads to. -/
theorem exists_plans {disk : Disk} {job : Job} {preview : Preview}
    (shown : job.Shown disk preview) {location : Location} {text : String}
    (hlocation : disk.locationOf? job.finding.path = some location)
    (htext : disk.tree.get? location = some (.file (.text text))) :
    ∃ span splice, (Draft.ofText text.toList).Plans job span splice ∧
      preview.lines = splice.block := by
  obtain ⟨found, held, span, splice, hresolve, hplans, hlines⟩ := shown.block
  have hleads := Disk.resolve_of_locationOf? hlocation htext
  obtain ⟨-, hheld⟩ := Prod.mk.inj (Except.ok.inj (hresolve.symm.trans hleads))
  obtain rfl : held = text := by simpa using hheld
  exact ⟨span, splice, hplans, hlines⟩

end Job.Shown

namespace Pass

/-- A trial pass shows a job and changes nothing else. -/
theorem exists_shown_of_act {pass after : Pass} {job : Job}
    (hact : act true pass job = .ok after) :
    ∃ preview, job.Shown pass.disk preview ∧
      after = { pass with previews := pass.previews ++ [preview] } := by
  have hline : Drift.ofLine job.finding.start.line =
      (Drift.ofLine 0).enterLine job.finding.start.line :=
    (Drift.enterLine_ofLine 0 job.finding.start.line).symm
  simp only [act, if_true, preview] at hact
  rw [hline] at hact
  split at hact
  · cases hact
  · rename_i computed hcompute
    obtain rfl := Except.ok.inj hact
    obtain ⟨location, text, hresolve⟩ := exists_resolve_of_compute hcompute
    obtain ⟨-, hplans⟩ := (compute_eq_ok_iff hresolve).mp hcompute
    refine ⟨_, ⟨rfl, rfl, rfl, ?_⟩, rfl⟩
    exact ⟨location, text, computed.span, computed.splice, hresolve, hplans, rfl⟩

/-- A trial pass adds one preview for each job. -/
theorem exists_shown_of_foldlM {jobs : List Job} {pass after : Pass}
    (hrun : jobs.foldlM (act true) pass = .ok after) :
    ∃ previews, List.Forall₂ (Job.Shown pass.disk) jobs previews ∧
      after = { pass with previews := pass.previews ++ previews } := by
  induction jobs generalizing pass with
  | nil =>
      obtain rfl := Except.ok.inj hrun
      exact ⟨[], .nil, by rw [List.append_nil]⟩
  | cons job rest ih =>
      rw [List.foldlM_cons, bind_eq_ok_iff] at hrun
      obtain ⟨middle, hact, hrest⟩ := hrun
      obtain ⟨preview, hshown, rfl⟩ := exists_shown_of_act hact
      obtain ⟨previews, hpreviews, rfl⟩ := ih hrest
      refine ⟨preview :: previews, .cons hshown hpreviews, ?_⟩
      rw [List.append_assoc, List.singleton_append]

/-- All jobs of a list lead to texts if each of them was shown. -/
theorem leadsToText_of_shown {disk : Disk} {jobs : List Job} {previews : List Preview}
    (hshown : List.Forall₂ (Job.Shown disk) jobs previews) :
    ∀ job ∈ jobs, job.LeadsToText disk := by
  induction hshown with
  | nil => exact fun _ hmem => absurd hmem List.not_mem_nil
  | cons hfirst _ ih => exact List.forall_mem_cons.mpr ⟨hfirst.leadsToText, ih⟩

/-- A trial pass shows its jobs one by one and leaves the disk alone. -/
theorem shown_of_trial {findings : Findings} {disk : Disk} {trial : Pass}
    (htrial : run true findings disk = .ok trial) :
    trial.disk = disk ∧ (∀ finding ∈ findings.toList, Job.Faultless finding) ∧
      List.Forall₂ (Job.Shown disk) (Job.ofFindings findings) trial.previews := by
  obtain ⟨hsound, hjobs⟩ := run_eq_ok_iff.mp htrial
  obtain ⟨previews, hpreviews, rfl⟩ := exists_shown_of_foldlM hjobs
  exact ⟨rfl, hsound, hpreviews⟩

end Pass

end Remedy.Fix
