import Remedy.Proofs.Git.Runner

/-!
# Putting questions to git

Much of what is done with git is to put questions to it, one after the other, until one answer is
not what was hoped for.  Such a task leaves the machine as git has left it behind the questions
that were put, and does nothing else to it.
-/

namespace Remedy

namespace Git

namespace Runner

variable {σ ε α β : Type}

/-- The machine that is left when git is started with one list of arguments after the other. -/
def startAll (runner : Runner) (lists : List (List String)) (machine : Machine σ) : Machine σ :=
  lists.foldl (fun machine args => (runner.startOn args machine).2) machine

/--
A task that puts questions to git, one after the other, and does nothing else.  It may fail
behind any of them.
-/
structure Asks (runner : Runner) (questions : List (List String)) (task : Task σ ε α) :
    Prop where
  ok : ∀ {machine after : Machine σ} {a : α}, task.runOn machine = (.ok a, after) →
    after = runner.startAll questions machine
  error : ∀ {machine after : Machine σ} {e : ε}, task.runOn machine = (.error e, after) →
    ∃ asked, asked <+: questions ∧ after = runner.startAll asked machine

namespace Asks

variable {runner : Runner}

theorem ofExcept (result : Except ε α) :
    Asks runner [] (Task.ofExcept result : Task σ ε α) := by
  constructor <;> intro machine after found h
  · rw [Task.runOn_ofExcept] at h
    exact (Prod.mk.inj h).2.symm
  · rw [Task.runOn_ofExcept] at h
    exact ⟨[], List.nil_prefix, (Prod.mk.inj h).2.symm⟩

theorem pure (a : α) : Asks runner [] (Pure.pure a : Task σ ε α) :=
  ofExcept (.ok a)

theorem disk : Asks runner [] (Task.disk : Task σ ε Disk) := by
  constructor <;> intro machine after found h
  · rw [Task.runOn_disk] at h
    exact (Prod.mk.inj h).2.symm
  · rw [Task.runOn_disk] at h
    cases h

/-- A task that gives up puts none of its questions. -/
theorem throw_bind (e : ε) (next : β → Task σ ε α) (questions : List (List String)) :
    Asks runner questions ((throw e : Task σ ε β) >>= next) := by
  have hrun : ∀ machine, ((throw e : Task σ ε β) >>= next).runOn machine = (.error e, machine) :=
    fun machine => Task.runOn_bind_of_error (Task.runOn_throw e machine)
  constructor <;> intro machine after found h
  · rw [hrun] at h
    cases h
  · rw [hrun] at h
    exact ⟨[], List.nil_prefix, (Prod.mk.inj h).2.symm⟩

/-- A task that leaves the machine that git leaves puts one question. -/
theorem of_snd_eq {args : List String} {task : Task σ ε α}
    (h : ∀ machine, (task.runOn machine).2 = (runner.startOn args machine).2) :
    Asks runner [args] task := by
  constructor <;> intro machine after found hrun
  · rw [show after = (task.runOn machine).2 by rw [hrun], h]
    rfl
  · refine ⟨[args], List.prefix_rfl, ?_⟩
    rw [show after = (task.runOn machine).2 by rw [hrun], h]
    rfl

theorem relabel {ε' : Type} {label : ε → ε'} {questions : List (List String)}
    {task : Task σ ε α} (h : Asks runner questions task) :
    Asks runner questions (task.relabel label) := by
  constructor <;> intro machine after found hrun
  · exact h.ok (Task.relabel_eq_ok_iff.mp hrun)
  · rw [Task.runOn_relabel] at hrun
    rcases hinner : task.runOn machine with ⟨result, left⟩
    rw [hinner] at hrun
    cases result with
    | ok a => cases hrun
    | error e =>
        cases hrun
        exact h.error hinner

/-- Questions of one step come before those of the next. -/
theorem bind {first second : List (List String)} {task : Task σ ε α} {next : α → Task σ ε β}
    (h : Asks runner first task) (hnext : ∀ a, Asks runner second (next a)) :
    Asks runner (first ++ second) (task >>= next) := by
  constructor <;> intro machine after found hrun
  · obtain ⟨a, middle, hfirst, hrest⟩ := Task.bind_eq_ok_iff.mp hrun
    rw [(hnext a).ok hrest, h.ok hfirst]
    exact (List.foldl_append ..).symm
  · rw [Task.runOn_bind] at hrun
    rcases hfirst : task.runOn machine with ⟨result, middle⟩
    rw [hfirst] at hrun
    cases result with
    | error e =>
        cases hrun
        obtain ⟨asked, hasked, hafter⟩ := h.error hfirst
        exact ⟨asked, hasked.trans (List.prefix_append _ _), hafter⟩
    | ok a =>
        obtain ⟨asked, hasked, hafter⟩ := (hnext a).error hrun
        refine ⟨first ++ asked, (List.prefix_append_right_inj first).mpr hasked, ?_⟩
        rw [hafter, h.ok hfirst]
        exact (List.foldl_append ..).symm

end Asks

end Runner

end Git

end Remedy
