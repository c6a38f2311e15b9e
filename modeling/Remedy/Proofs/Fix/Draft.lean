import Remedy.Proofs.Fix.Splice

/-!
# One file in the course of a pass

A pass may go back and forth between files, but what it does to one of them depends on that file
alone: on its text and on its drift.  A draft holds both, and carrying out a job on a draft is
what a pass does to the file that the job is for.
-/

namespace Remedy.Fix

open Outcome

/-- A finding with the directive that is to be carried out for it. -/
structure Job where
  finding : Finding
  directive : Directive

/-- There is nothing to do about a finding without a remedy. -/
theorem Directive.ofFinding_of_not_hasRemedy {finding : Finding}
    (hnone : finding.hasRemedy = false) : ofFinding finding = .ok none := by
  unfold Finding.hasRemedy at hnone
  rw [Bool.or_eq_false_iff, Option.isSome_eq_false_iff, Option.isSome_eq_false_iff,
    Option.isNone_iff_eq_none, Option.isNone_iff_eq_none] at hnone
  unfold ofFinding
  rw [hnone.1, hnone.2]

namespace Job

/-- The job that a finding asks for, if it carries a remedy and nothing is wrong with that. -/
def ofFinding? (finding : Finding) : Option Job :=
  (Directive.ofFinding finding).toOption.join.map (Job.mk finding)

theorem ofFinding?_eq_some_iff {finding : Finding} {job : Job} :
    ofFinding? finding = some job ↔
      job.finding = finding ∧ Directive.ofFinding finding = .ok (some job.directive) := by
  unfold ofFinding?
  rcases Directive.ofFinding finding with fault | _ | directive
  · simp [Except.toOption]
  · simp [Except.toOption]
  · obtain ⟨found, held⟩ := job
    simp [Except.toOption, eq_comm]

end Job

/-- The text of a file and how far it has drifted. -/
structure Draft where
  text : List Char
  drift : Drift

namespace Draft

/-- The draft of a file that no remedy was written to. -/
def ofText (text : List Char) : Draft :=
  ⟨text, .ofLine 0⟩

/-- The drift with which a job is located. -/
def aim (draft : Draft) (job : Job) : Drift :=
  draft.drift.enterLine job.finding.start.line

/-- Works out where a job lies and what it makes of the text. -/
def plan (draft : Draft) (job : Job) : Except Failure (Span × Splice) := do
  let span ← (draft.aim job).locate job.finding.start job.finding.stop
  let splice ← job.directive.splice draft.text span
  return (span, splice)

/-- The draft after a job that was worked out. -/
def conclude (draft : Draft) (job : Job) (planned : Span × Splice) : Except Failure Draft :=
  match job.directive.record? (draft.aim job) planned.1 planned.2.delta with
  | none => .error .overflow
  | some drift => .ok ⟨planned.2.text, drift⟩

/-- Carries out a job. -/
def carryOut (draft : Draft) (job : Job) : Except Failure Draft := do
  draft.conclude job (← draft.plan job)

/-- Carries out one job after the other. -/
def run (draft : Draft) (jobs : List Job) : Except Failure Draft :=
  jobs.foldlM carryOut draft

@[simp] theorem lines_aim (draft : Draft) (job : Job) :
    (draft.aim job).lines = draft.drift.lines :=
  Drift.lines_enterLine draft.drift job.finding.start.line

@[simp] theorem activeLine_aim (draft : Draft) (job : Job) :
    (draft.aim job).activeLine = job.finding.start.line :=
  Drift.activeLine_enterLine draft.drift job.finding.start.line

/-- What was worked out for a job. -/
structure Plans (draft : Draft) (job : Job) (span : Span) (splice : Splice) : Prop where
  locates : (draft.aim job).Locates job.finding.start job.finding.stop span
  splice : job.directive.splice draft.text span = .ok splice

theorem plan_eq_ok_iff {draft : Draft} {job : Job} {span : Span} {splice : Splice} :
    draft.plan job = .ok (span, splice) ↔ draft.Plans job span splice := by
  unfold plan
  simp only [bind_eq_ok_iff, pure_eq_ok, Drift.locate_eq_ok_iff]
  constructor
  · rintro ⟨_, hlocates, _, hsplice, heq⟩
    obtain ⟨rfl, rfl⟩ := Prod.mk.inj (Except.ok.inj heq)
    exact ⟨hlocates, hsplice⟩
  · rintro ⟨hlocates, hsplice⟩
    exact ⟨span, hlocates, splice, hsplice, rfl⟩

/-- A job is worked out in one way at most. -/
theorem Plans.unique {draft : Draft} {job : Job} {span other : Span} {splice made : Splice}
    (h : draft.Plans job span splice) (hother : draft.Plans job other made) :
    span = other ∧ splice = made :=
  Prod.mk.inj (Except.ok.inj ((plan_eq_ok_iff.mpr h).symm.trans (plan_eq_ok_iff.mpr hother)))

/-- A job is carried out if it can be worked out and the drift can be recorded. -/
theorem carryOut_eq_ok_iff {draft after : Draft} {job : Job} :
    draft.carryOut job = .ok after ↔ ∃ span splice, draft.Plans job span splice ∧
      after.text = splice.text ∧
      job.directive.record? (draft.aim job) span splice.delta = some after.drift := by
  unfold carryOut conclude
  rw [bind_eq_ok_iff]
  constructor
  · rintro ⟨⟨span, splice⟩, hplan, hafter⟩
    split at hafter
    · cases hafter
    · rename_i drift hrecord
      obtain rfl := Except.ok.inj hafter
      exact ⟨span, splice, plan_eq_ok_iff.mp hplan, rfl, hrecord⟩
  · rintro ⟨span, splice, hplans, htext, hrecord⟩
    refine ⟨(span, splice), plan_eq_ok_iff.mpr hplans, ?_⟩
    rw [hrecord, ← htext]

/-- A run begins with its first job. -/
theorem run_cons_eq_ok_iff {draft after : Draft} {job : Job} {rest : List Job} :
    draft.run (job :: rest) = .ok after ↔
      ∃ next, draft.carryOut job = .ok next ∧ next.run rest = .ok after := by
  unfold run
  rw [List.foldlM_cons, bind_eq_ok_iff]

@[simp] theorem run_nil (draft : Draft) : draft.run [] = .ok draft := rfl

/-- The drift counts only as far as it is the one with which the job is located. -/
theorem carryOut_congr {text : List Char} {drift other : Drift} {job : Job}
    (h : drift.enterLine job.finding.start.line = other.enterLine job.finding.start.line) :
    (Draft.mk text drift).carryOut job = (Draft.mk text other).carryOut job := by
  unfold carryOut conclude plan aim
  dsimp only
  rw [h]

end Draft

end Remedy.Fix
