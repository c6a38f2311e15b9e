import Remedy.Proofs.Machine.Task

/-!
# What comes of running git

Whichever way git is run, one program is started and one call is added to those that were made.
The three ways differ in which answers of the program count as failures.
-/

namespace Remedy

namespace Machine

variable {σ : Type}

/-- Starting a program adds one call, whether or not there is a process. -/
theorem exists_calls_start (machine : Machine σ) (binary : String) (folder : Path)
    (args : List String) :
    ∃ location started, (machine.start binary folder args).2.calls =
      machine.calls ++ [(⟨binary, location, args⟩, started)] := by
  unfold start
  split
  · exact ⟨_, _, rfl⟩
  · split
    · exact ⟨_, _, rfl⟩
    · dsimp only
      split <;> exact ⟨_, _, rfl⟩
    · exact ⟨_, _, rfl⟩

/-- Starting a program says nothing. -/
@[simp] theorem said_start (machine : Machine σ) (binary : String) (folder : Path)
    (args : List String) : (machine.start binary folder args).2.said = machine.said := by
  unfold start
  split
  · rfl
  · split
    · rfl
    · dsimp only
      split <;> rfl
    · rfl

end Machine

namespace Git

namespace Runner

variable {σ : Type}

/-- Starts git with some arguments. -/
def startOn (runner : Runner) (args : List String) (machine : Machine σ) :
    Answer × Machine σ :=
  machine.start runner.binary runner.folder args

/-- Starting git adds one call with the arguments given. -/
theorem exists_call_startOn (runner : Runner) (args : List String) (machine : Machine σ) :
    ∃ call, (runner.startOn args machine).2.calls = machine.calls ++ [call] ∧
      call.1.binary = runner.binary ∧ call.1.args = args := by
  obtain ⟨location, started, hcalls⟩ := machine.exists_calls_start runner.binary runner.folder args
  exact ⟨_, hcalls, rfl, rfl⟩

@[simp] theorem said_startOn (runner : Runner) (args : List String) (machine : Machine σ) :
    (runner.startOn args machine).2.said = machine.said :=
  machine.said_start runner.binary runner.folder args

/-- A program that is started in a folder answers and leaves its traces. -/
theorem exists_startOn_eq {runner : Runner} {args : List String} {machine : Machine σ}
    {top : Location} {ending : Ending} {out err : List UInt8} {disk : Disk} {memory : σ}
    (hfree : ∀ text ∈ runner.binary :: runner.folder.text :: args, '\x00' ∉ text.toList)
    (hresolve : machine.disk.resolve runner.folder = .ok (top, .folder))
    (hstart : machine.programs.start ⟨runner.binary, top, args⟩ machine.disk machine.memory =
      (.finished ending out err, disk, memory)) :
    ∃ calls, runner.startOn args machine =
      (.finished ending out err, { machine with memory, disk, calls }) := by
  have hnone : (runner.binary :: runner.folder.text :: args).any
      (fun text => text.toList.contains '\x00') = false := by
    simpa [List.any_eq_false] using hfree
  unfold startOn Machine.start
  rw [if_neg (by rw [hnone]; exact Bool.false_ne_true), hresolve]
  dsimp only
  rw [hstart]
  exact ⟨_, rfl⟩

/-- No program is started with a NUL among its name, its folder and its arguments. -/
theorem free_of_startOn {runner : Runner} {args : List String} {machine after : Machine σ}
    {ending : Ending} {out err : List UInt8}
    (hstart : runner.startOn args machine = (.finished ending out err, after)) :
    ∀ text ∈ runner.binary :: runner.folder.text :: args, '\x00' ∉ text.toList := by
  unfold startOn Machine.start at hstart
  split at hstart
  · cases hstart
  · rename_i hnone
    simpa using hnone

/-- What an answer says. -/
def heard (runner : Runner) (args : List String) : Answer → Except Failure Output
  | .refused error => .error (.refused (runner.describe args) error)
  | .hung => .error (.late (runner.describe args) runner.patience)
  | .finished ending out err =>
      .ok ⟨ending, String.ofList (Text.decodeLossy out), String.ofList (Text.decodeLossy err)⟩

theorem runOn_runAnyway (runner : Runner) (args : List String) (machine : Machine σ) :
    (runner.runAnyway args).runOn machine =
      (runner.heard args (runner.startOn args machine).1, (runner.startOn args machine).2) := by
  unfold runAnyway startOn
  rw [Task.runOn_bind, Task.runOn_start]
  cases (machine.start runner.binary runner.folder args).1 <;> rfl

/-- Git is heard out if it is a process that ends. -/
theorem runAnyway_eq_ok_iff {runner : Runner} {args : List String} {machine after : Machine σ}
    {output : Output} :
    (runner.runAnyway args).runOn machine = (.ok output, after) ↔
      ∃ ending out err, runner.startOn args machine = (.finished ending out err, after) ∧
        output = ⟨ending, String.ofList (Text.decodeLossy out),
          String.ofList (Text.decodeLossy err)⟩ := by
  rw [runOn_runAnyway]
  rcases runner.startOn args machine with ⟨answer, left⟩
  cases answer with
  | refused error => simp [heard]
  | hung => simp [heard]
  | finished ending out err =>
      simp only [heard, Prod.mk.injEq, Except.ok.injEq, Answer.finished.injEq]
      constructor
      · rintro ⟨rfl, rfl⟩
        exact ⟨_, _, _, ⟨⟨rfl, rfl, rfl⟩, rfl⟩, rfl⟩
      · rintro ⟨_, _, _, ⟨⟨rfl, rfl, rfl⟩, rfl⟩, rfl⟩
        exact ⟨rfl, rfl⟩

/-- A run that must be successful is one whose process exits with zero. -/
theorem run_eq_ok_iff {runner : Runner} {args : List String} {machine after : Machine σ}
    {output : Output} :
    (runner.run args).runOn machine = (.ok output, after) ↔
      (runner.runAnyway args).runOn machine = (.ok output, after) ∧
        output.ending.isSuccess = true := by
  unfold run
  rw [Task.bind_eq_ok_iff]
  constructor
  · rintro ⟨found, left, hrun, hend⟩
    split at hend
    · rename_i hsuccess
      cases hend
      exact ⟨hrun, hsuccess⟩
    · cases hend
  · rintro ⟨hrun, hsuccess⟩
    exact ⟨output, after, hrun, by rw [if_pos hsuccess]; rfl⟩

/-- What git is asked is what it prints, without blanks around it. -/
theorem ask_eq_ok_iff {runner : Runner} {args : List String} {machine after : Machine σ}
    {text : String} :
    (runner.ask args).runOn machine = (.ok text, after) ↔
      ∃ output, (runner.run args).runOn machine = (.ok output, after) ∧
        text = String.ofList (Text.trim output.out.toList) := by
  unfold ask
  rw [Task.bind_eq_ok_iff]
  constructor
  · rintro ⟨output, left, hrun, hend⟩
    cases hend
    exact ⟨output, hrun, rfl⟩
  · rintro ⟨output, hrun, rfl⟩
    exact ⟨output, after, hrun, rfl⟩

theorem isSuccess_iff {ending : Ending} : ending.isSuccess = true ↔ ending = .exited 0 := by
  cases ending <;> simp [Ending.isSuccess]

/-- Git is started, is successful, and writes a text. -/
def Answers (runner : Runner) (args : List String) (machine : Machine σ) (text : List Char)
    (after : Machine σ) : Prop :=
  ∃ out err, runner.startOn args machine = (.finished (.exited 0) out err, after) ∧
    Text.decodeLossy out = text

theorem answers_iff {runner : Runner} {args : List String} {machine after : Machine σ}
    {text : List Char} :
    runner.Answers args machine text after ↔
      ∃ output, (runner.run args).runOn machine = (.ok output, after) ∧
        output.out = String.ofList text := by
  simp only [run_eq_ok_iff, runAnyway_eq_ok_iff, isSuccess_iff]
  constructor
  · rintro ⟨out, err, hstart, rfl⟩
    exact ⟨_, ⟨⟨_, out, err, hstart, rfl⟩, rfl⟩, rfl⟩
  · rintro ⟨_, ⟨⟨_, out, err, hstart, rfl⟩, rfl⟩, htext⟩
    exact ⟨out, err, hstart, String.ofList_injective htext⟩

/-- Whichever way git is run, the machine that it leaves is the same. -/
@[simp] theorem snd_runOn_runAnyway (runner : Runner) (args : List String)
    (machine : Machine σ) :
    ((runner.runAnyway args).runOn machine).2 = (runner.startOn args machine).2 := by
  rw [runOn_runAnyway]

@[simp] theorem snd_runOn_run (runner : Runner) (args : List String) (machine : Machine σ) :
    ((runner.run args).runOn machine).2 = (runner.startOn args machine).2 := by
  rw [← snd_runOn_runAnyway]
  unfold run
  rw [Task.runOn_bind]
  rcases (runner.runAnyway args).runOn machine with ⟨result, left⟩
  cases result with
  | error failure => rfl
  | ok found =>
      dsimp only
      split <;> rfl

@[simp] theorem snd_runOn_ask (runner : Runner) (args : List String) (machine : Machine σ) :
    ((runner.ask args).runOn machine).2 = (runner.startOn args machine).2 := by
  rw [← snd_runOn_run]
  unfold ask
  rw [Task.runOn_bind]
  rcases (runner.run args).runOn machine with ⟨result, left⟩
  cases result <;> rfl

/-- What git writes, if it is successful. -/
def out? (runner : Runner) (args : List String) (machine : Machine σ) : Option String :=
  ((runner.run args).runOn machine).1.toOption.map (·.out)

/-- An answer is what git writes, and leaves the machine that git leaves. -/
theorem answers_iff_out? {runner : Runner} {args : List String} {machine after : Machine σ}
    {text : List Char} :
    runner.Answers args machine text after ↔
      runner.out? args machine = some (String.ofList text) ∧
        (runner.startOn args machine).2 = after := by
  rw [answers_iff, out?, ← snd_runOn_run]
  rcases (runner.run args).runOn machine with ⟨result, left⟩
  cases result with
  | error failure => simp [Except.toOption]
  | ok output =>
      simp only [Prod.mk.injEq, Except.ok.injEq, Except.toOption, Option.map_some,
        Option.some.injEq]
      constructor
      · rintro ⟨_, ⟨rfl, rfl⟩, hout⟩
        exact ⟨hout, rfl⟩
      · rintro ⟨hout, rfl⟩
        exact ⟨output, ⟨rfl, rfl⟩, hout⟩

/-- Git gives one answer. -/
theorem Answers.unique {runner : Runner} {args : List String} {machine after other : Machine σ}
    {text found : List Char} (h : runner.Answers args machine text after)
    (hother : runner.Answers args machine found other) : text = found ∧ after = other := by
  obtain ⟨htext, rfl⟩ := answers_iff_out?.mp h
  obtain ⟨hfound, rfl⟩ := answers_iff_out?.mp hother
  exact ⟨String.ofList_injective (Option.some.inj (htext.symm.trans hfound)), rfl⟩

end Runner

end Git

end Remedy
