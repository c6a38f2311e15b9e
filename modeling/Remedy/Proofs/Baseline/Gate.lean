import Remedy.Proofs.Baseline.Clearance
import Remedy.Proofs.Git.Questions

/-!
# The gate in front of a swap

Whatever is done with baselines, and in whatever order: before a swap takes a file away or calls
for the baseline, git has just listed the pending files once more, and all that it has listed is
untracked or ignored, and none of the untracked is in the way.  Else nothing is done but to put
questions to git, and neither is more done for a baseline that cannot be made.
-/

namespace Remedy

namespace Baseline

open Git (Runner Pending)

variable {σ : Type}

/-!
## What is asked
-/

/-- The questions by which a baseline is made. -/
def questions (reference : String) : List (List String) :=
  [["cat-file", "-e", reference ++ "^\x7bcommit\x7d"], ["rev-parse", "--show-prefix"],
    diffArgs reference, statusArgs]

theorem asks_readChanges (runner : Runner) (reference : String) :
    runner.Asks [diffArgs reference] (readChanges runner reference : Task σ _ _) :=
  .bind (.of_snd_eq (runner.snd_runOn_run _)) fun _ => .bind .disk fun _ => .pure _

theorem asks_readPending (runner : Runner) :
    runner.Asks [statusArgs] (readPending runner : Task σ _ _) :=
  .bind (.of_snd_eq (runner.snd_runOn_run _)) fun _ => .pure _

/-- Making a baseline is putting four questions. -/
theorem asks_ofReference (runner : Runner) (reference : String) :
    runner.Asks (questions reference) (ofReference runner reference : Task σ Trouble Baseline) := by
  unfold ofReference
  refine .bind (.relabel (.of_snd_eq (runner.snd_runOn_runAnyway _))) fun known => ?_
  dsimp only
  split
  · exact .throw_bind _ _ _
  · refine .bind (.relabel (.of_snd_eq (runner.snd_runOn_ask _))) fun place => ?_
    refine .bind (.relabel (asks_readChanges runner reference)) fun changes => ?_
    refine .bind (.relabel (asks_readPending runner)) fun pending => ?_
    exact .bind (.ofExcept _) fun _ => .pure _

/-- Recording the tree is putting two questions. -/
theorem asks_record (baseline : Baseline) :
    baseline.runner.Asks [statusArgs, ["write-tree"]]
      (baseline.record : Task σ Trouble String) := by
  unfold record
  refine .bind (.relabel (asks_readPending _)) fun pending => ?_
  exact .bind (.ofExcept _) fun _ => .relabel (.of_snd_eq (baseline.runner.snd_runOn_ask _))

/-- Nothing was done to a machine but to put questions to git, none of which changes files. -/
def OnlyAsked (runner : Runner) (machine after : Machine σ) : Prop :=
  ∃ asked : List (List String),
    (∀ args ∈ asked, args.head? ≠ some "checkout" ∧ args.head? ≠ some "rm") ∧
      after = runner.startAll asked machine

theorem onlyAsked_of_asks {ε α : Type} {runner : Runner} {asked : List (List String)}
    {task : Task σ ε α} (h : runner.Asks asked task)
    (hasked : ∀ args ∈ asked, args.head? ≠ some "checkout" ∧ args.head? ≠ some "rm")
    {machine after : Machine σ} {e : ε} (hrun : task.runOn machine = (.error e, after)) :
    OnlyAsked runner machine after := by
  obtain ⟨front, hfront, hafter⟩ := h.error hrun
  exact ⟨front, fun args hargs => hasked args (hfront.subset hargs), hafter⟩

/-!
## What is listed
-/

/-- A baseline may be swapped in, by what git lists: untracked files that are out of the way, and
ignored ones. -/
structure Admits (baseline : Baseline) (listing : String) : Prop where
  spared : ∀ entry ∈ Pending.entries (Git.parts listing.toList), entry.1 = '?' ∨ entry.1 = '!'
  apart : ∀ entry ∈ Pending.entries (Git.parts listing.toList), entry.1 = '?' →
    ∀ path ∈ baseline.changes.paths, (baseline.place.join path).same entry.2 = false

/-- A list passes the check just if it lets the baseline be swapped in. -/
theorem check_parse_eq_ok_iff {baseline : Baseline} {listing : String} :
    baseline.check (.parse listing) = .ok () ↔ baseline.Admits listing := by
  rw [check_eq_ok_iff]
  constructor
  · rintro ⟨htracked, hfree⟩
    constructor
    · rintro ⟨state, path⟩ hentry
      by_contra hstate
      refine List.not_mem_nil (a := path) ?_
      rw [← htracked, Pending.mem_tracked_parse_iff]
      exact ⟨state, not_or.mp hstate, hentry⟩
    · rintro ⟨state, path⟩ hentry rfl other hother
      exact hfree other hother path (Pending.mem_untracked_parse_iff.mpr hentry)
  · rintro ⟨hspared, hapart⟩
    constructor
    · refine List.eq_nil_iff_forall_not_mem.mpr fun path hpath => ?_
      obtain ⟨state, hstate, hentry⟩ := Pending.mem_tracked_parse_iff.mp hpath
      rcases hspared _ hentry with huntracked | hignored
      · exact hstate.1 huntracked
      · exact hstate.2 hignored
    · intro path hpath untracked huntracked
      exact hapart _ (Pending.mem_untracked_parse_iff.mp huntracked) rfl path hpath

/-!
## The gate
-/

/--
A task that is to swap the files of a baseline in comes to the gate first.  The gate is closed, and
the task fails without having touched a file; or git lists nothing that is in the way and records
the tree, and the task goes on from there.
-/
inductive Gated (baseline : Baseline) {α : Type} (task : Task σ Trouble α)
    (machine : Machine σ) : Prop where
  | closed {trouble : Trouble} {stopped : Machine σ}
      (fails : task.runOn machine = (.error trouble, stopped))
      (asked : OnlyAsked baseline.runner machine stopped)
  | opened {output : Git.Output} {listed recorded : Machine σ} {tree : String}
      (lists : (baseline.runner.run statusArgs).runOn machine = (.ok output, listed))
      (admits : baseline.Admits output.out)
      (records : (baseline.runner.ask ["write-tree"]).runOn listed = (.ok tree, recorded))

/-- A task is gated if whatever stops the record stops it. -/
theorem gated_of_record {baseline : Baseline} {α : Type} {task : Task σ Trouble α}
    {machine : Machine σ}
    (h : ∀ trouble stopped, baseline.record.runOn machine = (.error trouble, stopped) →
      task.runOn machine = (.error trouble, stopped)) :
    Gated baseline task machine := by
  rcases hrecord : baseline.record.runOn machine with ⟨result, recorded⟩
  cases result with
  | error trouble =>
      exact .closed (h trouble recorded hrecord)
        (onlyAsked_of_asks baseline.asks_record (by simp [statusArgs]) hrecord)
  | ok tree =>
      obtain ⟨pending, listed, hread, hcheck, hask⟩ := record_eq_ok_iff.mp hrecord
      obtain ⟨output, hlists, rfl⟩ := readPending_eq_ok_iff.mp hread
      exact .opened hlists (check_parse_eq_ok_iff.mp hcheck) hask

end Baseline

/-!
## Sessions
-/

variable {σ : Type}

/-- A machine with the baselines that were made there and the swaps of them that are open. -/
structure Session (σ : Type) where
  machine : Machine σ
  baselines : List Baseline := []
  swaps : List (Baseline × Baseline.Swap) := []

namespace Session

open Git (Runner)
open Baseline (Trouble Gated OnlyAsked beforeAddition exiting scripted)

/-- What can be done next in a session; baselines and swaps are told by where they are held. -/
inductive Operation (σ : Type) : Type 1 where
  | make (runner : Runner) (reference : String)
  | enter (place : Nat)
  | restore (place : Nat)
  | release (place : Nat)
  | work {α : Type} (place : Nat) (task : StateM (Machine σ) (Option α))
  /-- Something else happens to the machine. -/
  | meanwhile (change : Machine σ → Machine σ)

/-- The session behind an operation.  A swap that is restored or let go of is held no more. -/
def perform (session : Session σ) : Operation σ → Session σ
  | .make runner reference =>
      match (Baseline.ofReference runner reference).runOn session.machine with
      | (.ok baseline, machine) =>
          { session with machine, baselines := session.baselines ++ [baseline] }
      | (.error _, machine) => { session with machine }
  | .enter place =>
      match session.baselines[place]? with
      | none => session
      | some baseline =>
          match baseline.enter.runOn session.machine with
          | (.ok swap, machine) =>
              { session with machine, swaps := session.swaps ++ [(baseline, swap)] }
          | (.error _, machine) => { session with machine }
  | .restore place =>
      match session.swaps[place]? with
      | none => session
      | some (baseline, swap) =>
          { session with
            machine := ((baseline.restore swap).runOn session.machine).2
            swaps := session.swaps.eraseIdx place }
  | .release place =>
      match session.swaps[place]? with
      | none => session
      | some (baseline, swap) =>
          { session with
            machine :=
              ((baseline.release swap : Task σ Trouble Unit).runOn session.machine).2
            swaps := session.swaps.eraseIdx place }
  | .work place task =>
      match session.baselines[place]? with
      | none => session
      | some baseline =>
          { session with machine := ((baseline.runInside task).runOn session.machine).2 }
  | .meanwhile change => { session with machine := change session.machine }

/-- The operations of a session, each with the session that it was performed in. -/
def history : List (Operation σ) → Session σ → List (Session σ × Operation σ)
  | [], _ => []
  | operation :: rest, session =>
      (session, operation) :: history rest (session.perform operation)

/-- What an operation has to keep to: a baseline that cannot be made has only asked, and files are
swapped behind the gate. -/
def Keeps (session : Session σ) : Operation σ → Prop
  | .make runner reference => ∀ trouble stopped,
      (Baseline.ofReference runner reference).runOn session.machine =
        (.error trouble, stopped) → OnlyAsked runner session.machine stopped
  | .enter place => ∀ baseline, session.baselines[place]? = some baseline →
      Gated baseline baseline.enter session.machine
  | .work place task => ∀ baseline, session.baselines[place]? = some baseline →
      Gated baseline (baseline.runInside task) session.machine
  | _ => True

theorem keeps_step (session : Session σ) (operation : Operation σ) :
    session.Keeps operation := by
  cases operation with
  | make runner reference =>
      intro trouble stopped hrun
      exact Baseline.onlyAsked_of_asks (Baseline.asks_ofReference runner reference)
        (by simp [Baseline.questions, Baseline.statusArgs, Baseline.diffArgs]) hrun
  | enter place =>
      intro baseline _
      exact Baseline.gated_of_record fun _ _ => Baseline.runOn_enter_of_error
  | work place task =>
      intro baseline _
      exact Baseline.gated_of_record fun _ _ hrecord =>
        Baseline.runOn_runInside_of_error (Baseline.runOn_enter_of_error hrecord) task
  | restore _ => trivial
  | release _ => trivial
  | meanwhile _ => trivial

/-- Whatever is done in a session, and in whatever order, each operation keeps to the gate. -/
theorem keeps_of_mem_history (operations : List (Operation σ)) (start : Session σ)
    {session : Session σ} {operation : Operation σ}
    (h : (session, operation) ∈ history operations start) : session.Keeps operation := by
  induction operations generalizing start with
  | nil => exact absurd h List.not_mem_nil
  | cons first rest ih =>
      rcases List.mem_cons.mp h with hfirst | hlater
      · obtain ⟨rfl, rfl⟩ := Prod.ext_iff.mp hfirst
        exact keeps_step session operation
      · exact ih _ hlater

/-- The files are swapped and restored, and then a tracked file is found to be changed. -/
def revisit : List (Operation Script) :=
  [.make beforeAddition.runner "main", .enter 0, .restore 0, .enter 0]

/-- Git knows the commit, at the top of the repository, and a file was added since. -/
def visited : Session Script :=
  { machine := scripted [.silent, exiting 0 "\n", exiting 0 "A\x00new.txt\x00", .silent, .silent,
      exiting 0 "T\n", .silent, .silent, exiting 0 " M old.txt\x00"] }

theorem keeps_of_mem_history_revisited :
    ∃ session : Session Script, (session, .enter 0) ∈ history revisit visited ∧
      session.baselines[0]? = some beforeAddition ∧ session.machine.calls.length = 8 ∧
      Gated beforeAddition beforeAddition.enter session.machine ∧
      (beforeAddition.enter.runOn session.machine).1.toOption = none := by
  have hmem : (_, .enter 0) ∈ history revisit visited :=
    .tail _ (.tail _ (.tail _ (.head _)))
  have hbaseline : (((visited.perform (.make beforeAddition.runner "main")).perform
      (.enter 0)).perform (.restore 0)).baselines[0]? = some beforeAddition := by
    decide +kernel
  exact ⟨_, hmem, hbaseline, by decide +kernel,
    keeps_of_mem_history revisit visited hmem _ hbaseline, by decide +kernel⟩

end Session

end Remedy
