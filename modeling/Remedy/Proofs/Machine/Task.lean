import Remedy.Git.Runner

/-!
# Running a task

A task that is run on a machine comes to a result and leaves a machine.  Here is what both are for
the steps that tasks are made of, and which calls such a step adds to those that were made.
-/

namespace Remedy

namespace Task

variable {σ ε α β : Type}

/-- What a task comes to on a machine, and the machine that it leaves. -/
def runOn (task : Task σ ε α) (machine : Machine σ) : Except ε α × Machine σ :=
  task.run.run machine

@[simp] theorem runOn_pure (a : α) (machine : Machine σ) :
    (pure a : Task σ ε α).runOn machine = (.ok a, machine) := rfl

@[simp] theorem runOn_throw (e : ε) (machine : Machine σ) :
    (throw e : Task σ ε α).runOn machine = (.error e, machine) := rfl

@[simp] theorem runOn_ofExcept (result : Except ε α) (machine : Machine σ) :
    (ofExcept result : Task σ ε α).runOn machine = (result, machine) := rfl

@[simp] theorem runOn_disk (machine : Machine σ) :
    (disk : Task σ ε Disk).runOn machine = (.ok machine.disk, machine) := rfl

@[simp] theorem runOn_setDisk (disk : Disk) (machine : Machine σ) :
    (setDisk disk : Task σ ε Unit).runOn machine = (.ok (), { machine with disk }) := rfl

@[simp] theorem runOn_note (level : Level) (text : String) (machine : Machine σ) :
    (note level text : Task σ ε Unit).runOn machine =
      (.ok (), machine.say (.note level text)) := rfl

@[simp] theorem runOn_start (binary : String) (folder : Path) (args : List String)
    (machine : Machine σ) :
    (start binary folder args : Task σ ε Answer).runOn machine =
      (.ok (machine.start binary folder args).1, (machine.start binary folder args).2) := rfl

/-- Work that knows no failure is done as it is. -/
theorem runOn_liftM (work : StateM (Machine σ) α) (machine : Machine σ) :
    (liftM work : Task σ ε α).runOn machine =
      (.ok (work.run machine).1, (work.run machine).2) := rfl

/-- A sequence goes on with what its first step comes to, unless that is a failure. -/
theorem runOn_bind (task : Task σ ε α) (next : α → Task σ ε β) (machine : Machine σ) :
    (task >>= next).runOn machine =
      match task.runOn machine with
      | (.ok a, after) => (next a).runOn after
      | (.error e, after) => (.error e, after) := by
  change ((task.run >>= ExceptT.bindCont next : StateM (Machine σ) _).run machine) = _
  unfold runOn
  simp only [StateT.run_bind]
  rcases task.run.run machine with ⟨result, after⟩
  cases result <;> rfl

theorem runOn_bind_of_ok {task : Task σ ε α} {next : α → Task σ ε β} {machine after : Machine σ}
    {a : α} (h : task.runOn machine = (.ok a, after)) :
    (task >>= next).runOn machine = (next a).runOn after := by
  rw [runOn_bind, h]

theorem runOn_bind_of_error {task : Task σ ε α} {next : α → Task σ ε β}
    {machine after : Machine σ} {e : ε} (h : task.runOn machine = (.error e, after)) :
    (task >>= next).runOn machine = (.error e, after) := by
  rw [runOn_bind, h]

/-- The outcome of a task is told, and is not a failure. -/
@[simp] theorem runOn_outcome (task : Task σ ε α) {ε' : Type} (machine : Machine σ) :
    (task.outcome : Task σ ε' (Except ε α)).runOn machine =
      (.ok (task.runOn machine).1, (task.runOn machine).2) := rfl

@[simp] theorem runOn_relabel {ε' : Type} (label : ε → ε') (task : Task σ ε α)
    (machine : Machine σ) :
    (task.relabel label).runOn machine =
      ((task.runOn machine).1.mapError label, (task.runOn machine).2) := rfl

@[simp] theorem mapError_ok {ε' : Type} (label : ε → ε') (a : α) :
    (.ok a : Except ε α).mapError label = .ok a := rfl

@[simp] theorem mapError_error {ε' : Type} (label : ε → ε') (e : ε) :
    (.error e : Except ε α).mapError label = .error (label e) := rfl

/-- A sequence is successful just if its steps are. -/
theorem bind_eq_ok_iff {task : Task σ ε α} {next : α → Task σ ε β} {machine after : Machine σ}
    {b : β} : (task >>= next).runOn machine = (.ok b, after) ↔
      ∃ a middle, task.runOn machine = (.ok a, middle) ∧
        (next a).runOn middle = (.ok b, after) := by
  rw [runOn_bind]
  rcases task.runOn machine with ⟨result, middle⟩
  cases result with
  | error e => simp
  | ok a =>
      constructor
      · exact fun h => ⟨a, middle, rfl, h⟩
      · rintro ⟨_, _, hsame, h⟩
        cases hsame
        exact h

/-- Putting failures into another kind leaves success as it is. -/
theorem relabel_eq_ok_iff {ε' : Type} {label : ε → ε'} {task : Task σ ε α}
    {machine after : Machine σ} {a : α} :
    (task.relabel label).runOn machine = (.ok a, after) ↔
      task.runOn machine = (.ok a, after) := by
  rw [runOn_relabel]
  rcases task.runOn machine with ⟨result, left⟩
  cases result <;> simp

/-- A task comes to one result and leaves one machine. -/
theorem ok_unique {task : Task σ ε α} {machine after other : Machine σ} {a b : α}
    (h : task.runOn machine = (.ok a, after)) (hother : task.runOn machine = (.ok b, other)) :
    a = b ∧ after = other := by
  rw [h] at hother
  cases hother
  exact ⟨rfl, rfl⟩

/-- A task whose result is there has come to it and left a machine. -/
theorem exists_runOn_eq_ok {task : Task σ ε α} {machine : Machine σ}
    (h : (task.runOn machine).1.toOption.isSome) :
    ∃ a after, task.runOn machine = (.ok a, after) := by
  rcases hrun : task.runOn machine with ⟨result, after⟩
  rw [hrun] at h
  cases result with
  | ok a => exact ⟨a, after, rfl⟩
  | error e => cases h

end Task

end Remedy
