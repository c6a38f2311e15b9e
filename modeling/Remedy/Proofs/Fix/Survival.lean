import Mathlib.Algebra.Order.BigOperators.Group.List
import Remedy.Finding.Document
import Remedy.Proofs.Fix.Bounds
import Remedy.Proofs.Fix.Failing
import Remedy.Proofs.Tree.Rewriting

/-!
# Passes that stay in range

A pass comes to findings one by one, and works each out on the draft of its file.  All slices that
it takes are within bounds, and as long as there is room for the texts no fix is too large to be
recorded, whatever numbers the findings hold.  So it takes a finding whose own numbers leave the
range of offsets, where the pass has come to, to make a sum overflow.
-/

namespace Remedy.Fix

open Outcome

/-- A round of a pass: the job to which it comes, with the draft of its file at that time. -/
structure Round where
  draft : Draft
  job : Job

namespace Round

/-- Finds where the match lies. -/
def locate (round : Round) : Except Failure Span :=
  (round.draft.aim round.job).locate round.job.finding.start round.job.finding.stop

/-- Deals with the job.  A trial only works it out. -/
def carry (trial : Bool) (round : Round) : Except Failure Draft :=
  if trial then (round.draft.plan round.job).map fun _ => round.draft
  else round.draft.carryOut round.job

/-- The text that the job makes of that of its file, if it can be worked out. -/
def made (round : Round) : List Char :=
  (round.draft.plan round.job).toOption.elim [] fun planned => planned.2.text

/-- The text that the job puts in. -/
def fix (round : Round) : List Char :=
  match round.job.directive with
  | .literal fix => fix
  | .substitution _ _ _ => []

/-- The first line for which the job asks and that the file has not. -/
def missing? (round : Round) : Option Nat :=
  round.locate.toOption.bind fun span =>
    round.job.directive.missing? (Text.split round.draft.text).length span

/-- One more than the number of characters of the texts that a round has to do with. -/
def size (round : Round) : Nat :=
  round.draft.text.length + round.made.length + round.fix.length + 1

/--
The numbers of a match stay in the range of offsets: those that are looked at can be moved by the
drift, and if the line that comes of one is not there its number can be told.
-/
structure InRange (round : Round) : Prop where
  movable : ∀ moved ∈ (round.draft.aim round.job).consulted round.job.finding.start
    round.job.finding.stop, Drift.Movable moved
  told : round.missing? ≠ some (2 ^ 63 - 1)

instance (round : Round) : Decidable round.InRange :=
  decidable_of_iff ((∀ moved ∈ (round.draft.aim round.job).consulted round.job.finding.start
      round.job.finding.stop, Drift.Movable moved) ∧ round.missing? ≠ some (2 ^ 63 - 1))
    ⟨fun ⟨hmovable, htold⟩ => ⟨hmovable, htold⟩, fun ⟨hmovable, htold⟩ => ⟨hmovable, htold⟩⟩

/-- A match is located on lines that are in order and whose numbers are offsets. -/
theorem lines_of_locate {round : Round} {span : Span} (h : round.locate = .ok span) :
    span.startLine ≤ span.stopLine ∧ span.stopLine < 2 ^ 63 := by
  have hlocates := Drift.locate_eq_ok_iff.mp h
  obtain ⟨-, hoffset, hline⟩ := Drift.shift_eq_ok_iff.mp hlocates.stopLine
  rw [← hline] at hoffset
  refine ⟨hlocates.ordered, ?_⟩
  unfold Offset.IsOffset at hoffset
  omega

theorem missing?_of_locate {round : Round} {span : Span} (h : round.locate = .ok span) :
    round.missing? =
      round.job.directive.missing? (Text.split round.draft.text).length span := by
  unfold missing?
  rw [h]
  rfl

/-- Working out a job overflows just if the numbers of its match do not stay in range. -/
theorem plan_eq_overflow_iff {round : Round} :
    round.draft.plan round.job = .error .overflow ↔ ¬round.InRange := by
  unfold Draft.plan
  constructor
  · intro hplan hrange
    rcases bind_eq_error_iff.mp hplan with hlocate | ⟨span, hlocate, hrest⟩
    · exact Drift.locate_eq_overflow_iff.mp hlocate hrange.movable
    · obtain ⟨hordered, hstop⟩ := lines_of_locate hlocate
      rcases bind_eq_error_iff.mp hrest with hsplice | ⟨splice, -, hend⟩
      · have hmissing := (Directive.splice_eq_overflow_iff hordered hstop).mp hsplice
        exact hrange.told ((missing?_of_locate hlocate).trans hmissing)
      · cases hend
  · intro hout
    by_contra hplan
    refine hout ⟨by_contra fun hstuck => hplan ?_, fun hmissing => hplan ?_⟩
    · exact bind_eq_error_iff.mpr (.inl (Drift.locate_eq_overflow_iff.mpr hstuck))
    · obtain ⟨span, hspan, hline⟩ := Option.bind_eq_some_iff.mp hmissing
      have hlocate := toOption_eq_some_iff.mp hspan
      obtain ⟨hordered, hstop⟩ := lines_of_locate hlocate
      have hsplice := (Directive.splice_eq_overflow_iff hordered hstop).mpr hline
      exact bind_eq_error_iff.mpr (.inr ⟨span, hlocate, bind_eq_error_iff.mpr (.inl hsplice)⟩)

theorem carry_true (round : Round) :
    round.carry true = (round.draft.plan round.job).map fun _ => round.draft := rfl

theorem carry_false (round : Round) : round.carry false = round.draft.carryOut round.job := rfl

theorem carry_of_not_inRange {round : Round} (h : ¬round.InRange) (trial : Bool) :
    round.carry trial = .error .overflow := by
  have hplan := plan_eq_overflow_iff.mpr h
  unfold carry Draft.carryOut
  rw [hplan]
  cases trial <;> rfl

section Size

variable {round : Round} {span : Span} {splice : Splice}

/-- The text of a round and what is made of it count for its size. -/
theorem length_add_length_lt_size (hlocate : round.locate = .ok span)
    (hsplice : round.job.directive.splice round.draft.text span = .ok splice) :
    round.draft.text.length + splice.text.length < round.size := by
  have hlocates := Drift.locate_eq_ok_iff.mp hlocate
  have hplan := Draft.plan_eq_ok_iff.mpr ⟨hlocates, hsplice⟩
  have hmade : round.made = splice.text := by
    rw [made, hplan]
    rfl
  rw [size, hmade]
  omega

/-- A text gains and loses no more lines than the size of the round. -/
theorem delta_bounds (hlocate : round.locate = .ok span)
    (hsplice : round.job.directive.splice round.draft.text span = .ok splice) :
    -(round.size : Int) ≤ splice.delta ∧ splice.delta ≤ round.size := by
  have hsize := length_add_length_lt_size hlocate hsplice
  have hbefore := Text.length_split_le round.draft.text
  obtain ⟨made, -, -, htext, hdelta⟩ := Directive.exists_made?_of_splice hsplice
  have hafter := Text.length_le_length_join (splice.lines round.draft.text span)
  rw [htext] at hsize
  omega

/-- A fix that was worked out can be recorded. -/
theorem exists_record? {reach : Nat} (hwithin : round.draft.drift.Within reach)
    (hroom : reach + round.size < 2 ^ 63) (hplans : round.draft.Plans round.job span splice) :
    ∃ after, round.job.directive.record? (round.draft.aim round.job) span splice.delta =
        some after ∧ after.Within (reach + round.size) := by
  obtain ⟨hge, hle⟩ := delta_bounds (Drift.locate_eq_ok_iff.mpr hplans.locates) hplans.splice
  have haim : (round.draft.aim round.job).Within reach := hwithin.enterLine _
  refine haim.exists_record? hplans.locates hge hle (fun fix hdirective => ?_) hroom
  have hfix : round.fix = fix := by
    rw [Round.fix, hdirective]
  rw [size, hfix]
  omega

/-- The slices that a round takes are within bounds. -/
theorem splice?_eq (hroom : round.size < 2 ^ 63) (hlocate : round.locate = .ok span) :
    round.job.directive.splice? round.draft.text span =
      some (round.job.directive.splice round.draft.text span) := by
  obtain ⟨hordered, hstop⟩ := lines_of_locate hlocate
  have htext : round.draft.text.length < round.size := by
    unfold size
    omega
  refine Directive.splice?_eq hordered hstop (by omega) fun splice hsplice => ?_
  have hsize := length_add_length_lt_size hlocate hsplice
  omega

end Size

/-- Dealing with a job whose numbers stay in range moves the drift by the size of texts at most. -/
theorem InRange.carry {round : Round} {reach : Nat} (h : round.InRange)
    (hwithin : round.draft.drift.Within reach) (hroom : reach + round.size < 2 ^ 63)
    (trial : Bool) :
    round.carry trial ≠ .error .overflow ∧
      ∀ draft, round.carry trial = .ok draft → draft.drift.Within (reach + round.size) := by
  have hplan : round.draft.plan round.job ≠ .error .overflow :=
    fun hoverflow => plan_eq_overflow_iff.mp hoverflow h
  cases trial with
  | true =>
      rw [carry_true]
      cases hplanned : round.draft.plan round.job with
      | error failure =>
          rw [hplanned] at hplan
          exact ⟨fun hoverflow => hplan (congrArg Except.error (Except.error.inj hoverflow)),
            fun draft hdraft => nomatch hdraft⟩
      | ok planned =>
          refine ⟨fun hoverflow => (nomatch hoverflow), fun draft hdraft => ?_⟩
          obtain rfl := Except.ok.inj hdraft
          exact hwithin.mono (Nat.le_add_right _ _)
  | false =>
      rw [carry_false]
      refine ⟨fun hoverflow => ?_, fun draft hdraft => ?_⟩
      · obtain hstuck | ⟨⟨span, splice⟩, hplanned, hstuck⟩ := bind_eq_error_iff.mp hoverflow
        · exact hplan hstuck
        · obtain ⟨after, hrecord, -⟩ :=
            exists_record? hwithin hroom (Draft.plan_eq_ok_iff.mp hplanned)
          unfold Draft.conclude at hstuck
          rw [hrecord] at hstuck
          cases hstuck
      · obtain ⟨span, splice, hplans, -, hrecorded⟩ := Draft.carryOut_eq_ok_iff.mp hdraft
        obtain ⟨after, hrecord, hafter⟩ := exists_record? hwithin hroom hplans
        obtain rfl := Option.some.inj (hrecorded.symm.trans hrecord)
        exact hafter

end Round

namespace Pass

/-- The round that a pass makes when it goes on to a finding, if that asks for a job on a text. -/
def round? (trial : Bool) (pass : Pass) (finding : Finding) : Option Round := do
  let job ← Job.ofFinding? finding
  let text ← (pass.disk.readText finding.path).toOption
  return ⟨if trial then ⟨text.toList, .ofLine finding.start.line⟩ else pass.draftFor job text, job⟩

/-- The rounds that a pass makes when it goes through findings, in their order. -/
def rounds (trial : Bool) (pass : Pass) : List Finding → List Round
  | [] => []
  | finding :: rest =>
      (pass.round? trial finding).toList ++
        match step trial pass finding with
        | .ok next => next.rounds trial rest
        | .error _ => []

/-- Holds if no drift of a pass goes further than `reach`. -/
def Within (reach : Nat) (pass : Pass) : Prop :=
  ∀ path drift, pass.drift? path = some drift → drift.Within reach

/-- There is room for rounds if all the texts that they have to do with can be counted. -/
def HasRoom (rounds : List Round) : Prop :=
  (rounds.map Round.size).sum < 2 ^ 63

instance (rounds : List Round) : Decidable (HasRoom rounds) :=
  inferInstanceAs (Decidable (_ < _))

/--
A pass survives if it does not stop at an overflow, and all slices that it takes are within bounds.
-/
structure Survives (trial : Bool) (findings : Findings) (disk : Disk) : Prop where
  returns : ∀ stop, run trial findings disk = .error stop →
    stop.trouble.failure? ≠ some .overflow
  inBounds : ∀ round ∈ (begin disk).rounds trial findings.toList, ∀ span,
    round.locate = .ok span → round.job.directive.splice? round.draft.text span =
      some (round.job.directive.splice round.draft.text span)

/-- On a file that holds a text, working out a directive is planning on the draft of the file. -/
theorem compute_eq_map_plan {disk : Disk} {job : Job} {text : String}
    (hread : disk.readText job.finding.path = .ok text) (drift : Drift) :
    compute disk (drift.enterLine job.finding.start.line) job.finding job.directive =
      ((Draft.mk text.toList drift).plan job).map fun planned =>
        ⟨text, planned.1, planned.2⟩ := by
  unfold compute Draft.plan Draft.aim
  rw [hread]
  dsimp only
  cases (drift.enterLine job.finding.start.line).locate job.finding.start job.finding.stop with
  | error failure => rfl
  | ok span =>
      rw [ok_bind, ok_bind]
      cases job.directive.splice text.toList span with
      | error failure => rfl
      | ok splice => rfl

/-- A job that fails on the draft of its file fails on the disk. -/
theorem exists_stop_of_carryOut {pass : Pass} {job : Job} {text : String}
    (hread : pass.disk.readText job.finding.path = .ok text) {failure : Failure}
    (h : (pass.draftFor job text).carryOut job = .error failure) :
    ∃ stop, pass.carryOut job.finding job.directive = .error stop ∧
      stop.trouble.failure? = some failure := by
  have hcompute := compute_eq_map_plan hread
    ((pass.drift? job.finding.path).getD (.ofLine job.finding.start.line))
  change compute _ _ _ _ = ((pass.draftFor job text).plan job).map _ at hcompute
  unfold carryOut
  rcases bind_eq_error_iff.mp h with hplan | ⟨⟨span, splice⟩, hplan, hstuck⟩
  · rw [hplan] at hcompute
    dsimp only
    rw [hcompute]
    exact ⟨_, rfl, Directive.failure?_trouble _ _ _⟩
  · obtain ⟨location, hresolve⟩ := Disk.readText_eq_ok_iff.mp hread
    obtain ⟨disk, outcome, hwrite, -⟩ :=
      Rewrite.exists_apply_ofTexts hresolve (String.ofList splice.text)
    rw [hplan] at hcompute
    unfold Draft.conclude at hstuck
    split at hstuck
    · rename_i hrecord
      obtain rfl := Except.error.inj hstuck
      unfold draftFor Draft.aim at hrecord
      dsimp only at hrecord ⊢
      rw [hcompute]
      dsimp only [Except.map]
      rw [hwrite]
      dsimp only
      rw [hrecord]
      exact ⟨_, rfl, Directive.failure?_trouble _ _ _⟩
    · cases hstuck

/-- A step on a finding that asks for a job deals with it. -/
theorem step_of_ofFinding? {finding : Finding} {job : Job}
    (hjob : Job.ofFinding? finding = some job) (trial : Bool) (pass : Pass) :
    step trial pass finding = act trial pass job := by
  obtain ⟨rfl, hdirective⟩ := Job.ofFinding?_eq_some_iff.mp hjob
  unfold step
  rw [hdirective]
  rfl

/-- A job for a file without a text fails for that reason. -/
theorem failure?_of_act {pass : Pass} {job : Job} {error : SystemError}
    (hread : pass.disk.readText job.finding.path = .error error) (trial : Bool) :
    ∃ stop, act trial pass job = .error stop ∧ stop.trouble.failure? = some (.system error) := by
  have hcompute : ∀ drift, compute pass.disk drift job.finding job.directive =
      .error (.system error) := by
    intro drift
    unfold compute
    rw [hread]
  cases trial with
  | true =>
      unfold act preview
      rw [if_pos rfl, hcompute]
      exact ⟨_, rfl, Directive.failure?_trouble _ _ _⟩
  | false =>
      unfold act carryOut
      rw [if_neg Bool.false_ne_true]
      dsimp only
      rw [hcompute]
      exact ⟨_, rfl, Directive.failure?_trouble _ _ _⟩

/-- A step without a round does not overflow, and changes nothing. -/
theorem step_of_round?_eq_none {trial : Bool} {pass : Pass} {finding : Finding}
    (h : pass.round? trial finding = none) :
    (∀ stop, step trial pass finding = .error stop → stop.trouble.failure? ≠ some .overflow) ∧
      ∀ next, step trial pass finding = .ok next → next = pass := by
  cases hjob : Job.ofFinding? finding with
  | none =>
      unfold step
      rcases hdirective : Directive.ofFinding finding with fault | _ | directive
      · refine ⟨fun stop hstop => ?_, fun next hnext => nomatch hnext⟩
        obtain rfl := Except.error.inj hstop
        exact fun hoverflow => nomatch hoverflow
      · exact ⟨fun stop hstop => (nomatch hstop), fun next hnext => (Except.ok.inj hnext).symm⟩
      · have hasked := Job.ofFinding?_eq_some_iff.mpr (show (Job.mk finding directive).finding =
          finding ∧ _ from ⟨rfl, hdirective⟩)
        rw [hjob] at hasked
        cases hasked
  | some job =>
      obtain ⟨rfl, -⟩ := Job.ofFinding?_eq_some_iff.mp hjob
      rw [step_of_ofFinding? hjob]
      cases hread : pass.disk.readText job.finding.path with
      | ok text =>
          unfold round? at h
          rw [hjob, hread] at h
          cases h
      | error error =>
          obtain ⟨stop, hstop, hfailure⟩ := failure?_of_act hread trial
          rw [hstop]
          refine ⟨fun other hother hoverflow => ?_, fun next hnext => nomatch hnext⟩
          obtain rfl := Except.error.inj hother
          cases hfailure.symm.trans hoverflow

/-- A step with a round comes to what dealing with the job comes to. -/
theorem step_of_round? {trial : Bool} {pass : Pass} {finding : Finding} {round : Round}
    (h : pass.round? trial finding = some round) :
    (∀ failure, round.carry trial = .error failure →
      ∃ stop, step trial pass finding = .error stop ∧ stop.trouble.failure? = some failure) ∧
    ∀ draft, round.carry trial = .ok draft → ∃ next, step trial pass finding = .ok next ∧
      (next.drifts = pass.drifts ∨ next.drifts = setDrift finding.path draft.drift pass.drifts) := by
  obtain ⟨job, hjob, hmore⟩ := Option.bind_eq_some_iff.mp h
  obtain ⟨text, htext, heq⟩ := Option.bind_eq_some_iff.mp hmore
  obtain rfl := Option.some.inj heq
  obtain ⟨rfl, -⟩ := Job.ofFinding?_eq_some_iff.mp hjob
  have hread := toOption_eq_some_iff.mp htext
  rw [step_of_ofFinding? hjob]
  cases trial with
  | true =>
      have hcompute := compute_eq_map_plan hread (.ofLine job.finding.start.line)
      rw [Drift.enterLine_ofLine] at hcompute
      rw [Round.carry_true, if_pos rfl]
      unfold act preview
      rw [if_pos rfl, hcompute]
      cases (Draft.mk text.toList (.ofLine job.finding.start.line)).plan job with
      | error stuck =>
          refine ⟨fun failure hfailure => ?_, fun draft hdraft => nomatch hdraft⟩
          obtain rfl := Except.error.inj hfailure
          exact ⟨_, rfl, Directive.failure?_trouble _ _ _⟩
      | ok planned =>
          exact ⟨fun failure hfailure => (nomatch hfailure), fun draft _ => ⟨_, rfl, .inl rfl⟩⟩
  | false =>
      rw [Round.carry_false, if_neg Bool.false_ne_true]
      refine ⟨fun failure hfailure => exists_stop_of_carryOut hread hfailure, fun draft hdraft => ?_⟩
      obtain ⟨location, hresolve⟩ := Disk.readText_eq_ok_iff.mp hread
      obtain ⟨next, hnext, hcarries⟩ := exists_carryOut hresolve hdraft
      exact ⟨next, hnext, .inr hcarries.drifts⟩

/-!
## Whole runs
-/

section Runs

variable {trial : Bool} {reach : Nat} {pass next : Pass} {finding : Finding}

/-- The draft of a round has drifted no further than those of the pass. -/
theorem Within.round? (h : pass.Within reach) {round : Round}
    (hround : pass.round? trial finding = some round) : round.draft.drift.Within reach := by
  obtain ⟨job, -, hmore⟩ := Option.bind_eq_some_iff.mp hround
  obtain ⟨text, -, heq⟩ := Option.bind_eq_some_iff.mp hmore
  obtain rfl := Option.some.inj heq
  cases trial with
  | true => exact Drift.within_ofLine reach finding.start.line
  | false =>
      rw [if_neg Bool.false_ne_true, draftFor]
      cases hdrift : pass.drift? job.finding.path with
      | none => exact Drift.within_ofLine reach job.finding.start.line
      | some drift => exact h _ _ hdrift

/-- A drift that goes a little further may be noted. -/
theorem Within.of_drifts (h : pass.Within reach) {more : Nat} (hle : reach ≤ more) {path : Path}
    {drift : Drift} (hdrift : drift.Within more)
    (hdrifts : next.drifts = pass.drifts ∨ next.drifts = setDrift path drift pass.drifts) :
    next.Within more := by
  intro other held hheld
  unfold drift? at hheld
  rcases hdrifts with hdrifts | hdrifts
  · rw [hdrifts] at hheld
    exact (h other held hheld).mono hle
  · rw [hdrifts, find?_setDrift] at hheld
    split at hheld
    · obtain rfl := Option.some.inj hheld
      exact hdrift
    · exact (h other held hheld).mono hle

theorem rounds_cons_of_step (hstep : step trial pass finding = .ok next) (rest : List Finding) :
    pass.rounds trial (finding :: rest) =
      (pass.round? trial finding).toList ++ next.rounds trial rest := by
  rw [rounds, hstep]

/-- A step on numbers that stay in range does not overflow, and drifts by the size of texts. -/
theorem step_of_inRange {round : Round} (hround : pass.round? trial finding = some round)
    (hwithin : pass.Within reach) (hrange : round.InRange) (hroom : reach + round.size < 2 ^ 63) :
    (∀ stop, step trial pass finding = .error stop → stop.trouble.failure? ≠ some .overflow) ∧
      ∀ next, step trial pass finding = .ok next → next.Within (reach + round.size) := by
  obtain ⟨hcarry, hmoves⟩ := hrange.carry (hwithin.round? hround) hroom trial
  obtain ⟨hfails, hgoes⟩ := step_of_round? hround
  cases hcarried : round.carry trial with
  | error failure =>
      obtain ⟨other, hstep, hfailure⟩ := hfails failure hcarried
      rw [hstep]
      rw [hcarried] at hcarry
      refine ⟨fun stop hstop hoverflow => ?_, fun next hnext => nomatch hnext⟩
      obtain rfl := Except.error.inj hstop
      exact hcarry (congrArg Except.error (Option.some.inj (hfailure.symm.trans hoverflow)))
  | ok draft =>
      obtain ⟨next, hstep, hdrifts⟩ := hgoes draft hcarried
      rw [hstep]
      refine ⟨fun stop hstop => (nomatch hstop), fun other hother => ?_⟩
      obtain rfl := Except.ok.inj hother
      exact hwithin.of_drifts (Nat.le_add_right reach round.size) (hmoves draft hcarried) hdrifts

/-- A pass does not overflow as long as the numbers that it comes to stay in range. -/
theorem returns_of_inRange {findings : List Finding} (hwithin : pass.Within reach)
    (hrange : ∀ round ∈ pass.rounds trial findings, round.InRange)
    (hroom : reach + ((pass.rounds trial findings).map Round.size).sum < 2 ^ 63) {stop : Stop}
    (hrun : findings.foldlM (step trial) pass = .error stop) :
    stop.trouble.failure? ≠ some .overflow := by
  induction findings generalizing pass reach with
  | nil => cases hrun
  | cons finding rest ih =>
      rw [List.foldlM_cons] at hrun
      cases hround : pass.round? trial finding with
      | none =>
          obtain ⟨hstop, hkeeps⟩ := step_of_round?_eq_none hround
          rcases bind_eq_error_iff.mp hrun with hstep | ⟨next, hstep, hrest⟩
          · exact hstop stop hstep
          · obtain rfl := hkeeps next hstep
            rw [rounds_cons_of_step hstep, hround] at hrange hroom
            exact ih hwithin hrange hroom hrest
      | some round =>
          have hhere : round ∈ pass.rounds trial (finding :: rest) := by
            rw [rounds, hround]
            exact List.mem_append_left _ (List.mem_singleton_self round)
          have hone := List.le_sum_of_mem (List.mem_map_of_mem (f := Round.size) hhere)
          obtain ⟨hstop, hdrifts⟩ := step_of_inRange hround hwithin (hrange round hhere) (by omega)
          rcases bind_eq_error_iff.mp hrun with hstep | ⟨next, hstep, hrest⟩
          · exact hstop stop hstep
          · -- what this round can add to the drift is no longer needed for those that are left
            rw [rounds_cons_of_step hstep, hround, Option.toList_some,
              List.singleton_append] at hrange hroom
            rw [List.map_cons, List.sum_cons, ← Nat.add_assoc] at hroom
            exact ih (hdrifts next hstep) (List.forall_mem_cons.mp hrange).2 hroom hrest

/-- A pass that comes to numbers that leave the range overflows. -/
theorem overflows_of_not_inRange {findings : List Finding} {round : Round}
    (hround : round ∈ pass.rounds trial findings) (hout : ¬round.InRange) :
    ∃ stop, findings.foldlM (step trial) pass = .error stop ∧
      stop.trouble.failure? = some .overflow := by
  induction findings generalizing pass with
  | nil => exact absurd hround List.not_mem_nil
  | cons finding rest ih =>
      rw [List.foldlM_cons]
      rcases List.mem_append.mp hround with hhere | hlater
      · obtain ⟨hfails, -⟩ := step_of_round? (Option.mem_toList.mp hhere)
        obtain ⟨stop, hstep, hfailure⟩ := hfails _ (Round.carry_of_not_inRange hout trial)
        exact ⟨stop, by rw [hstep]; rfl, hfailure⟩
      · cases hstep : step trial pass finding with
        | error stop =>
            rw [hstep] at hlater
            exact absurd hlater List.not_mem_nil
        | ok next =>
            rw [hstep] at hlater
            exact ih hlater

end Runs

section Survival

variable {trial : Bool} {findings : Findings} {disk : Disk}

/--
A pass for whose texts there is room survives just if the numbers of each match stay in the range
of offsets where the pass comes to it.
-/
theorem survives_iff (hroom : HasRoom ((begin disk).rounds trial findings.toList)) :
    Survives trial findings disk ↔
      ∀ round ∈ (begin disk).rounds trial findings.toList, round.InRange := by
  constructor
  · intro hsurvives round hround
    by_contra hout
    obtain ⟨stop, hrun, hoverflow⟩ := overflows_of_not_inRange hround hout
    exact hsurvives.returns stop hrun hoverflow
  · intro hrange
    refine ⟨fun stop hrun => ?_, fun round hround span hlocate => ?_⟩
    · have hbegin : (begin disk).Within 0 := fun path drift hdrift => nomatch hdrift
      exact returns_of_inRange hbegin hrange ((Nat.zero_add _).trans_lt hroom) hrun
    · have hone := List.le_sum_of_mem (List.mem_map_of_mem (f := Round.size) hround)
      exact Round.splice?_eq (hone.trans_lt hroom) hlocate

/-- Numbers as large as they may be: a column behind a line, and a last line behind the text. -/
def farthest : Findings :=
  .ofList [.ofFix "r" "a.txt" (1, 1) (1, 9223372036854775807) "x",
    .ofPattern "s" "a.txt" (2, 1) (9223372036854775807, 1) "b" "c"]

theorem survives_farthest :
    (∃ pass, run false farthest (.ofFile "a.txt" "a\nb") = .ok pass ∧
      pass.disk.tree.get? ["a.txt"] = some (.file (.text "x\nc"))) ∧
    Survives false farthest (.ofFile "a.txt" "a\nb") ∧
    Survives true farthest (.ofFile "a.txt" "a\nb") := by
  have hmade : (run false farthest (.ofFile "a.txt" "a\nb")).toOption.map
      (fun pass => pass.disk.tree.get? ["a.txt"]) = some (some (.file (.text "x\nc"))) := by
    decide +kernel
  obtain ⟨pass, hpass, htext⟩ := Option.map_eq_some_iff.mp hmade
  have hroom : ∀ trial, HasRoom
      ((begin (.ofFile "a.txt" "a\nb")).rounds trial farthest.toList) := by
    decide +kernel
  exact ⟨⟨pass, toOption_eq_some_iff.mp hpass, htext⟩,
    (survives_iff (hroom false)).mpr (by decide +kernel),
    (survives_iff (hroom true)).mpr (by decide +kernel)⟩

/-- A document with a line that is too large for an offset: as one, it is the least of all. -/
def beyond : String :=
  "[[[\"r\",\"a.txt\",[9223372036854775808,1],[9223372036854775808,2],[\"\",\"x\"]]]]"

/-- Counting such a line from zero leaves the range. -/
theorem not_forall_survives : ¬∀ (trial : Bool) (text : String) (findings : Findings) (disk : Disk),
    Findings.parse? text = some findings → Survives trial findings disk := by
  intro h
  have hleaves : (Findings.parse? beyond).any (fun findings =>
      ((begin (.ofFile "a.txt" "a")).rounds false findings.toList).any
        fun round => !decide round.InRange) = true := by decide +kernel
  obtain ⟨findings, hfindings, hrounds⟩ := (Option.any_eq_true _ _).mp hleaves
  obtain ⟨round, hround, hout⟩ := List.any_eq_true.mp hrounds
  obtain ⟨stop, hrun, hoverflow⟩ := overflows_of_not_inRange hround (by simpa using hout)
  exact (h false beyond findings (.ofFile "a.txt" "a") hfindings).returns stop hrun hoverflow

end Survival

end Pass

end Remedy.Fix
