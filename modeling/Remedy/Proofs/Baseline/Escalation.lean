import Remedy.Proofs.Baseline.Steps
import Remedy.Proofs.Outcome

/-!
# Failed restorations are told or noted

When entering fails, what it has changed is restored before the failure is told.  If that fails
in turn, the caller learns of it from an error that is noted, and not from what is told.
-/

namespace Remedy

/-- The errors that are noted among some messages. -/
def errorNotes (said : List Message) : List String :=
  said.filterMap fun message =>
    match message with
    | .note .error text => some text
    | _ => none

@[simp] theorem errorNotes_append (said more : List Message) :
    errorNotes (said ++ more) = errorNotes said ++ errorNotes more :=
  List.filterMap_append

/-- Warnings are no errors. -/
theorem errorNotes_warnings (warnings : List String) :
    errorNotes (warnings.map (.note .warning)) = [] := by
  induction warnings with
  | nil => rfl
  | cons warning rest ih => exact ih

namespace Baseline

open Git (Runner)

variable {σ : Type}

/-- Entering changes no file: it records no tree, or removes no file and checks nothing out. -/
def Spares (baseline : Baseline) (start : Machine σ) : Prop :=
  ∀ tree recorded, baseline.record.runOn start = (.ok tree, recorded) →
    (baseline.checkOut.runOn recorded).2.disk = recorded.disk ∧
      (baseline.checkOut.runOn recorded).2.calls = recorded.calls

/-- Git accepts the recorded tree in the state that entering has come to. -/
def Recovers (baseline : Baseline) (start : Machine σ) : Prop :=
  ∃ tree recorded accepted, baseline.record.runOn start = (.ok tree, recorded) ∧
    Accepts baseline.runner tree (baseline.checkOut.runOn recorded).2 accepted

/-!
## What is said
-/

theorem said_of_record {baseline : Baseline} {machine recorded : Machine σ} {tree : String}
    (h : baseline.record.runOn machine = (.ok tree, recorded)) :
    recorded.said = machine.said := by
  obtain ⟨pending, checked, hread, -, hask⟩ := record_eq_ok_iff.mp h
  obtain ⟨output, hrun, -⟩ := readPending_eq_ok_iff.mp hread
  have hchecked := baseline.runner.snd_runOn_run statusArgs machine
  have hrecorded := baseline.runner.snd_runOn_ask ["write-tree"] checked
  rw [hrun] at hchecked
  rw [hask] at hrecorded
  rw [show recorded = _ from hrecorded, Runner.said_startOn, show checked = _ from hchecked,
    Runner.said_startOn]

theorem said_checkOut (baseline : Baseline) (machine : Machine σ) :
    (baseline.checkOut.runOn machine).2.said = machine.said := by
  obtain ⟨disk, ⟨hleft, -⟩ | hleft⟩ := snd_runOn_checkOut baseline machine
  · rw [hleft]
  · rw [hleft]
    exact Runner.said_startOn ..

theorem said_checkOutTree (baseline : Baseline) (tree : String) (machine : Machine σ) :
    ((baseline.checkOutTree tree).runOn machine).2.said = machine.said := by
  obtain ⟨refused, rfl, hleft | hleft⟩ := snd_runOn_checkOutTree baseline tree machine
  · rw [hleft, Runner.said_startOn]
  · rw [hleft, Runner.said_startOn, Runner.said_startOn]

/-- Removing what is left warns at most. -/
theorem errorNotes_removeLeft (baseline : Baseline) {ε : Type} (machine : Machine σ) :
    errorNotes ((baseline.removeLeft : Task σ ε Unit).runOn machine).2.said =
      errorNotes machine.said := by
  obtain ⟨after, hrun, ⟨-, rfl⟩ | ⟨-, warnings, rfl⟩⟩ := @runOn_removeLeft σ baseline ε machine
  · rw [hrun]
  · rw [hrun]
    dsimp only
    rw [errorNotes_append, errorNotes_warnings, List.append_nil]

/-- Letting go of a swap notes an error if git does not accept the tree, and else none. -/
theorem errorNotes_release (baseline : Baseline) (tree : String) (machine : Machine σ) :
    ((∃ accepted, Accepts baseline.runner tree machine accepted) ∧
        errorNotes ((baseline.release { tree } : Task σ Trouble Unit).runOn machine).2.said =
          errorNotes machine.said) ∨
      (¬∃ accepted, Accepts baseline.runner tree machine accepted) ∧
        ∃ report,
          errorNotes ((baseline.release { tree } : Task σ Trouble Unit).runOn machine).2.said =
            errorNotes machine.said ++ [(Trouble.restoration report).message] := by
  rw [runOn_release]
  have hsaid := said_checkOutTree baseline tree machine
  rcases runOn_checkOutTree baseline tree machine with
    ⟨accepted, hcheckout, haccepts⟩ | ⟨⟨report, after, hcheckout⟩, hrefuses⟩
  · rw [hcheckout] at hsaid
    have hremove := errorNotes_removeLeft baseline (ε := Trouble) accepted
    have hback : (baseline.bringBack tree).runOn machine = baseline.removeLeft.runOn accepted := by
      unfold bringBack
      exact Task.runOn_bind_of_ok hcheckout
    obtain ⟨after, hrun, -⟩ := @runOn_removeLeft σ baseline Trouble accepted
    rw [hrun] at hback hremove
    rw [hback]
    exact .inl ⟨⟨accepted, haccepts⟩, hremove.trans (congrArg errorNotes hsaid)⟩
  · rw [hcheckout] at hsaid
    have hback : (baseline.bringBack tree).runOn machine =
        (.error (.restoration report), after) := by
      unfold bringBack
      exact Task.runOn_bind_of_error hcheckout
    rw [hback]
    refine .inr ⟨fun ⟨accepted, haccepts⟩ => hrefuses accepted haccepts, report, ?_⟩
    exact (errorNotes_append after.said _).trans
      (congrArg (errorNotes · ++ [(Trouble.restoration report).message]) hsaid)

/-- What fails behind a swap that was entered is the restoration. -/
theorem enter_eq_error_of_runInside {baseline : Baseline} {start after : Machine σ}
    {trouble : Trouble} {α : Type} {work : StateM (Machine σ) (Option α)}
    (h : (baseline.runInside work).runOn start = (.error trouble, after))
    (hother : ∀ report, trouble ≠ .restoration report) :
    baseline.enter.runOn start = (.error trouble, after) := by
  rcases henter : baseline.enter.runOn start with ⟨result, inside⟩
  cases result with
  | error stop =>
      rw [runOn_runInside_of_error henter] at h
      cases h
      rfl
  | ok swap =>
      rw [runOn_runInside_of_ok henter] at h
      generalize StateT.run work inside = done at h
      rcases done with ⟨value?, outside⟩
      cases value? with
      | none => cases h
      | some value =>
          dsimp only at h
          rw [runOn_restore] at h
          rcases runOn_bringBack baseline swap.tree outside with
            ⟨_, left, hback, -⟩ | ⟨⟨report, left, hback⟩, -⟩
          · rw [hback] at h
            cases h
          · rw [hback] at h
            cases h
            exact absurd rfl (hother report)

/-- Whether the tree is brought back can be told from what is noted. -/
theorem errorNotes_of_enter {baseline : Baseline} {start recorded after : Machine σ}
    {tree : String} {trouble : Trouble}
    (hrecord : baseline.record.runOn start = (.ok tree, recorded))
    (h : baseline.enter.runOn start = (.error trouble, after)) :
    Recovers baseline start ∧ errorNotes after.said = errorNotes start.said ∨
      ¬Recovers baseline start ∧ ∃ report,
        errorNotes after.said =
          errorNotes start.said ++ [(Trouble.restoration report).message] := by
  have hsaid := said_checkOut baseline recorded
  rw [runOn_enter_of_record hrecord] at h
  rcases hcheckout : baseline.checkOut.runOn recorded with ⟨result, stopped⟩
  rw [hcheckout] at h hsaid
  have hrecovers : Recovers baseline start ↔
      ∃ accepted, Accepts baseline.runner tree stopped accepted := by
    constructor
    · rintro ⟨_, _, accepted, hsame, haccepts⟩
      rw [hrecord] at hsame
      cases hsame
      rw [hcheckout] at haccepts
      exact ⟨accepted, haccepts⟩
    · rintro ⟨accepted, haccepts⟩
      exact ⟨tree, recorded, accepted, hrecord, by rwa [hcheckout]⟩
  cases result with
  | ok done => cases h
  | error stop =>
      cases h
      rw [hrecovers, ← said_of_record hrecord, ← show stopped.said = recorded.said from hsaid]
      exact errorNotes_release baseline tree stopped

/-!
## Who learns of a failed restoration
-/

/--
A failure that is not one of the restoration is told while the tree is as it was, or is brought
back, just if no other error is noted.  Otherwise the note asks to restore by hand.
-/
theorem recovers_iff_nothing_noted {baseline : Baseline} {start after : Machine σ}
    {trouble : Trouble} {α : Type} {work : StateM (Machine σ) (Option α)}
    (h : baseline.enter.runOn start = (.error trouble, after) ∨
      (baseline.runInside work).runOn start = (.error trouble, after))
    (hother : ∀ report, trouble ≠ .restoration report) :
    (Spares baseline start ∨ Recovers baseline start ↔
        Spares baseline start ∨ errorNotes after.said = errorNotes start.said) ∧
      (¬(Spares baseline start ∨ Recovers baseline start) → ∃ report,
        errorNotes after.said =
          errorNotes start.said ++ [(Trouble.restoration report).message]) := by
  -- whatever fails inside the work, other than the restoration, has failed while entering
  have henter : baseline.enter.runOn start = (.error trouble, after) := by
    rcases h with h | h
    · exact h
    · exact enter_eq_error_of_runInside h hother
  rcases hrecord : baseline.record.runOn start with ⟨result, recorded⟩
  cases result with
  | error stop =>
      have hspares : Spares baseline start := fun tree left hsame => by
        rw [hrecord] at hsame
        cases hsame
      exact ⟨iff_of_true (.inl hspares) (.inl hspares), fun hnot => absurd (.inl hspares) hnot⟩
  | ok tree =>
      rcases errorNotes_of_enter hrecord henter with ⟨hrecovers, hsame⟩ | ⟨hlost, report, hnoted⟩
      · exact ⟨iff_of_true (.inr hrecovers) (.inr hsame),
          fun hnot => absurd (.inr hrecovers) hnot⟩
      · have hdiffers : errorNotes after.said ≠ errorNotes start.said := by
          rw [hnoted]
          exact fun heq => List.cons_ne_nil _ _ (List.append_right_eq_self.mp heq)
        exact ⟨or_congr_right (iff_of_false hlost hdiffers), fun _ => ⟨report, hnoted⟩⟩

/-- Git refuses the baseline, and then accepts the recorded tree. -/
def refusing : Machine Script :=
  scripted [.silent, exiting 0 "T\n", exiting 1 "", .silent]

/-- Git refuses the baseline, and then the recorded tree, in which there is a file. -/
def refusingBoth : Machine Script :=
  scripted [.silent, exiting 0 "T\n", exiting 1 "", exiting 1 "", exiting 0 "a.txt\x00"]

/-- Holds for a failure of git. -/
def Trouble.isGit : Trouble → Bool
  | .git _ => true
  | _ => false

theorem recovers_iff_nothing_noted_refusing :
    ∃ trouble after, beforeAddition.enter.runOn refusing = (.error trouble, after) ∧
      (Spares beforeAddition refusing ∨ Recovers beforeAddition refusing ↔
        Spares beforeAddition refusing ∨ errorNotes after.said = errorNotes refusing.said) := by
  have hgit : (match (beforeAddition.enter.runOn refusing).1 with
      | .error trouble => trouble.isGit
      | .ok _ => false) = true := by decide +kernel
  rcases hrun : beforeAddition.enter.runOn refusing with ⟨result, after⟩
  rw [hrun] at hgit
  cases result with
  | ok swap => cases hgit
  | error trouble =>
      refine ⟨trouble, after, rfl, (@recovers_iff_nothing_noted _ _ _ _ _ Unit (pure none)
        (.inl hrun) fun report h => ?_).1⟩
      rw [h] at hgit
      cases hgit

theorem not_forall_recovers :
    ¬∀ (σ : Type) (baseline : Baseline) (start after : Machine σ) (trouble : Trouble),
      baseline.enter.runOn start = (.error trouble, after) →
      (∀ report, trouble ≠ .restoration report) →
      Spares baseline start ∨ Recovers baseline start := by
  intro h
  have hgit : (match (beforeAddition.enter.runOn refusingBoth).1 with
      | .error trouble => trouble.isGit
      | .ok _ => false) = true := by decide +kernel
  have hnoted : errorNotes (beforeAddition.enter.runOn refusingBoth).2.said ≠
      errorNotes refusingBoth.said := by decide +kernel
  have hprinted : (beforeAddition.record.runOn refusingBoth).1.toOption = some "T" := by
    decide +kernel
  have hcalls : (beforeAddition.checkOut.runOn
      (beforeAddition.record.runOn refusingBoth).2).2.calls ≠
        (beforeAddition.record.runOn refusingBoth).2.calls := by decide +kernel
  rcases hrecord : beforeAddition.record.runOn refusingBoth with ⟨printed, recorded⟩
  rcases hrun : beforeAddition.enter.runOn refusingBoth with ⟨result, after⟩
  rw [hrun] at hgit hnoted
  rw [hrecord] at hprinted hcalls
  obtain rfl := Outcome.toOption_eq_some_iff.mp hprinted
  cases result with
  | ok swap => cases hgit
  | error trouble =>
      rcases h Script beforeAddition refusingBoth after trouble hrun (fun report h => by
        rw [h] at hgit
        cases hgit) with hspares | hrecovers
      · exact hcalls (hspares "T" recorded hrecord).2
      · rcases errorNotes_of_enter hrecord hrun with ⟨-, hsame⟩ | ⟨hlost, -⟩
        · exact hnoted hsame
        · exact hlost hrecovers

end Baseline

end Remedy
