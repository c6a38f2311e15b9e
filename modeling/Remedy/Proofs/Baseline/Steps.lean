import Remedy.Baseline
import Remedy.Machine.Script
import Remedy.Proofs.Git.Runner

/-!
# The steps of a swap

What each step of a swap comes to: recording, removing, checking out, bringing back and letting
go.  The statements about whole swaps are put together from these.
-/

namespace Remedy

namespace Baseline

open Git (Runner)

variable {σ : Type}

/-!
## Checking out the baseline
-/

/-- A file that cannot be removed ends the removal, unless it is not there. -/
theorem runOn_removeFile (folder path : Path) (machine : Machine σ) :
    (removeFile folder path).runOn machine =
      match machine.disk.remove (folder.join path) with
      | .ok disk => (.ok (), { machine with disk })
      | .error .notFound => (.ok (), machine)
      | .error error => (.error (.removal path error), machine) := by
  unfold removeFile
  rw [Task.runOn_bind, Task.runOn_disk]
  dsimp only
  cases machine.disk.remove (folder.join path) with
  | ok disk => rfl
  | error error => cases error <;> rfl

/-- Removing a file changes the disk at most. -/
theorem snd_runOn_removeFile (folder path : Path) (machine : Machine σ) :
    ∃ disk, ((removeFile folder path).runOn machine).2 = { machine with disk } := by
  rw [runOn_removeFile]
  split
  · exact ⟨_, rfl⟩
  · exact ⟨machine.disk, rfl⟩
  · exact ⟨machine.disk, rfl⟩

/-- Removing files changes the disk at most. -/
theorem snd_runOn_removeFiles (folder : Path) (paths : List Path) (machine : Machine σ) :
    ∃ disk, ((removeFiles folder paths).runOn machine).2 = { machine with disk } := by
  induction paths generalizing machine with
  | nil => exact ⟨machine.disk, rfl⟩
  | cons path rest ih =>
      obtain ⟨disk, hfirst⟩ := snd_runOn_removeFile folder path machine
      rw [removeFiles, Task.runOn_bind]
      rcases hrun : (removeFile folder path).runOn machine with ⟨result, removed⟩
      rw [hrun] at hfirst
      cases result with
      | error trouble => exact ⟨disk, hfirst⟩
      | ok done =>
          obtain ⟨after, hrest⟩ := ih removed
          refine ⟨after, hrest.trans ?_⟩
          rw [show removed = { machine with disk } from hfirst]

/-- What could not be removed ends the checkout. -/
theorem runOn_checkOut_of_error {baseline : Baseline} {machine removed : Machine σ}
    {trouble : Trouble}
    (h : (removeFiles baseline.runner.folder baseline.changes.added).runOn machine =
      (.error trouble, removed)) :
    baseline.checkOut.runOn machine = (.error trouble, removed) := by
  unfold checkOut
  exact Task.runOn_bind_of_error h

/-- When the added files are gone, git has the last word. -/
theorem runOn_checkOut_of_ok {baseline : Baseline} {machine removed : Machine σ}
    (h : (removeFiles baseline.runner.folder baseline.changes.added).runOn machine =
      (.ok (), removed)) :
    baseline.checkOut.runOn machine =
      match (baseline.runner.run (checkoutArgs baseline.reference)).runOn removed with
      | (.ok _, after) => (.ok (), after)
      | (.error failure, after) => (.error (.git failure), after) := by
  unfold checkOut
  rw [Task.runOn_bind_of_ok h, Task.runOn_bind, Task.runOn_relabel]
  rcases (baseline.runner.run (checkoutArgs baseline.reference)).runOn removed with
    ⟨result, after⟩
  cases result <;> rfl

/-- The machine that a checkout leaves: files were removed, and then git was started, or not. -/
theorem snd_runOn_checkOut (baseline : Baseline) (machine : Machine σ) :
    ∃ disk,
      (baseline.checkOut.runOn machine).2 = { machine with disk } ∧
          (∃ trouble, (baseline.checkOut.runOn machine).1 = .error trouble) ∨
        (baseline.checkOut.runOn machine).2 =
          (baseline.runner.startOn (checkoutArgs baseline.reference) { machine with disk }).2 := by
  obtain ⟨disk, hkeeps⟩ := snd_runOn_removeFiles baseline.runner.folder baseline.changes.added
    machine
  refine ⟨disk, ?_⟩
  rcases hremove : (removeFiles baseline.runner.folder baseline.changes.added).runOn machine with
    ⟨result, removed⟩
  rw [hremove] at hkeeps
  obtain rfl : removed = { machine with disk } := hkeeps
  cases result with
  | error trouble =>
      rw [runOn_checkOut_of_error hremove]
      exact .inl ⟨rfl, trouble, rfl⟩
  | ok done =>
      refine .inr ?_
      rw [runOn_checkOut_of_ok hremove, ← Runner.snd_runOn_run]
      rcases (baseline.runner.run (checkoutArgs baseline.reference)).runOn
        { machine with disk } with ⟨result, after⟩
      cases result <;> rfl

/-!
## Bringing back a tree
-/

/-- Git accepts a recorded tree: it checks it out, or lists it as empty. -/
inductive Accepts (runner : Runner) (tree : String) (before : Machine σ) :
    Machine σ → Prop where
  | checkedOut {output : Git.Output} {after : Machine σ}
      (checkout : (runner.runAnyway (checkoutArgs tree)).runOn before = (.ok output, after))
      (success : output.ending.isSuccess = true) :
      Accepts runner tree before after
  | empty {output listing : Git.Output} {refused after : Machine σ}
      (checkout : (runner.runAnyway (checkoutArgs tree)).runOn before = (.ok output, refused))
      (failure : output.ending.isSuccess = false)
      (list : (runner.run (listArgs tree)).runOn refused = (.ok listing, after))
      (blank : listing.out.toList.all (· == '\x00') = true) :
      Accepts runner tree before after

/-- What is left is removed if there is anything, and a failure of this is a warning. -/
theorem runOn_removeLeft (baseline : Baseline) {ε : Type} (machine : Machine σ) :
    ∃ after, (baseline.removeLeft : Task σ ε Unit).runOn machine = (.ok (), after) ∧
      (baseline.left machine.disk = [] ∧ after = machine ∨
        baseline.left machine.disk ≠ [] ∧ ∃ warnings : List String,
          after = { (baseline.runner.startOn (removeArgs (baseline.left machine.disk)) machine).2
            with said := machine.said ++ warnings.map (.note .warning) }) := by
  unfold removeLeft
  rw [Task.runOn_bind, Task.runOn_disk]
  dsimp only
  split
  · rename_i hnone
    exact ⟨machine, rfl, .inl ⟨hnone, rfl⟩⟩
  · rename_i hsome
    rw [Task.runOn_bind, Task.runOn_outcome, Runner.snd_runOn_runAnyway]
    have hsaid := baseline.runner.said_startOn (removeArgs (baseline.left machine.disk)) machine
    cases ((baseline.runner.runAnyway (removeArgs (baseline.left machine.disk))).runOn
      machine).1 with
    | error failure =>
        refine ⟨_, rfl, .inr ⟨hsome, ["git rm of removed paths failed: " ++ failure.message], ?_⟩⟩
        rw [← hsaid]
        rfl
    | ok output =>
        dsimp only
        split
        · refine ⟨_, rfl, .inr ⟨hsome, ["git rm of removed paths failed stderr=" ++
            String.ofList (Text.trim output.err.toList)], ?_⟩⟩
          rw [← hsaid]
          rfl
        · refine ⟨_, rfl, .inr ⟨hsome, [], ?_⟩⟩
          rw [List.map_nil, List.append_nil, ← hsaid]

/-- Between two machines git was told once to remove paths, or not at all if there are none. -/
inductive ToldToRemove (runner : Runner) (paths : List Path) (before after : Machine σ) : Prop where
  | nothing (none : paths = []) (calls : after.calls = before.calls)
  | once {call : Call × Bool} (some : paths ≠ []) (calls : after.calls = before.calls ++ [call])
      (binary : call.1.binary = runner.binary) (args : call.1.args = removeArgs paths)

/-- Git is told to remove what is left. -/
theorem exists_toldToRemove_left (baseline : Baseline) (ε : Type) (machine : Machine σ) :
    ∃ after, (baseline.removeLeft : Task σ ε Unit).runOn machine = (.ok (), after) ∧
      ToldToRemove baseline.runner (baseline.left machine.disk) machine after := by
  obtain ⟨after, hrun, hdone⟩ := @runOn_removeLeft σ baseline ε machine
  refine ⟨after, hrun, ?_⟩
  rcases hdone with ⟨hnone, rfl⟩ | ⟨hsome, warnings, rfl⟩
  · exact .nothing hnone rfl
  · obtain ⟨call, hcalls, hbinary, hargs⟩ :=
      baseline.runner.exists_call_startOn (removeArgs (baseline.left machine.disk)) machine
    exact .once hsome hcalls hbinary hargs

theorem runOn_isEmptyTree (baseline : Baseline) (tree : String) (machine : Machine σ) :
    (baseline.isEmptyTree tree).runOn machine =
      match (baseline.runner.run (listArgs tree)).runOn machine with
      | (.ok listing, after) => (.ok (listing.out.toList.all (· == '\x00')), after)
      | (.error failure, after) => (.error failure, after) := by
  unfold isEmptyTree
  rw [Task.runOn_bind]
  rcases (baseline.runner.run (listArgs tree)).runOn machine with ⟨result, after⟩
  cases result <;> rfl

/-- The machine that a checkout of a tree leaves: the tree was listed, or not. -/
theorem snd_runOn_checkOutTree (baseline : Baseline) (tree : String) (machine : Machine σ) :
    ∃ refused, refused = (baseline.runner.startOn (checkoutArgs tree) machine).2 ∧
      (((baseline.checkOutTree tree).runOn machine).2 = refused ∨
        ((baseline.checkOutTree tree).runOn machine).2 =
          (baseline.runner.startOn (listArgs tree) refused).2) := by
  refine ⟨_, rfl, ?_⟩
  unfold checkOutTree
  rw [Task.runOn_bind, Task.runOn_relabel, Runner.snd_runOn_runAnyway]
  generalize (baseline.runner.startOn (checkoutArgs tree) machine).2 = refused
  cases ((baseline.runner.runAnyway (checkoutArgs tree)).runOn machine).1 with
  | error failure => exact .inl rfl
  | ok output =>
      dsimp only [Task.mapError_ok]
      split
      · exact .inl rfl
      · refine .inr ?_
        rw [Task.runOn_bind, Task.runOn_relabel, runOn_isEmptyTree, ← Runner.snd_runOn_run]
        rcases (baseline.runner.run (listArgs tree)).runOn refused with ⟨result, left⟩
        cases result with
        | error failure => rfl
        | ok listing =>
            dsimp only [Task.mapError_ok]
            cases listing.out.toList.all (· == '\x00') <;> rfl

/-- Git accepts a tree, or why it does not is told as a failure of the restoration. -/
theorem runOn_checkOutTree (baseline : Baseline) (tree : String) (before : Machine σ) :
    (∃ after, (baseline.checkOutTree tree).runOn before = (.ok (), after) ∧
        Accepts baseline.runner tree before after) ∨
      ((∃ report after,
          (baseline.checkOutTree tree).runOn before = (.error (.restoration report), after)) ∧
        ∀ after, ¬Accepts baseline.runner tree before after) := by
  unfold checkOutTree
  rw [Task.runOn_bind, Task.runOn_relabel]
  rcases hcheckout : (baseline.runner.runAnyway (checkoutArgs tree)).runOn before with
    ⟨result, refused⟩
  cases result with
  | error failure =>
      refine .inr ⟨⟨_, _, rfl⟩, fun after haccepts => ?_⟩
      cases haccepts with
      | checkedOut checkout => rw [hcheckout] at checkout; cases checkout
      | empty checkout => rw [hcheckout] at checkout; cases checkout
  | ok output =>
      dsimp only [Task.mapError_ok]
      cases hsuccess : output.ending.isSuccess with
      | true => exact .inl ⟨refused, rfl, .checkedOut hcheckout hsuccess⟩
      | false =>
          rw [if_neg Bool.false_ne_true, Task.runOn_bind, Task.runOn_relabel, runOn_isEmptyTree]
          rcases hlist : (baseline.runner.run (listArgs tree)).runOn refused with ⟨answer, left⟩
          -- git accepts a tree that it refused only by listing it
          have hlisted : ∀ after, Accepts baseline.runner tree before after →
              ∃ listing, answer = .ok listing ∧ left = after ∧
                listing.out.toList.all (· == '\x00') = true := by
            intro after haccepts
            cases haccepts with
            | checkedOut checkout success =>
                rw [hcheckout] at checkout
                cases checkout
                rw [hsuccess] at success
                cases success
            | empty checkout failure list blank =>
                rw [hcheckout] at checkout
                cases checkout
                rw [hlist] at list
                cases list
                exact ⟨_, rfl, rfl, blank⟩
          cases answer with
          | error failure =>
              refine .inr ⟨⟨_, _, rfl⟩, fun after haccepts => ?_⟩
              obtain ⟨listing, hanswer, -⟩ := hlisted after haccepts
              cases hanswer
          | ok listing =>
              dsimp only [Task.mapError_ok]
              cases hblank : listing.out.toList.all (· == '\x00') with
              | true => exact .inl ⟨left, rfl, .empty hcheckout hsuccess hlist hblank⟩
              | false =>
                  refine .inr ⟨⟨_, _, rfl⟩, fun after haccepts => ?_⟩
                  obtain ⟨found, hanswer, -, hfound⟩ := hlisted after haccepts
                  cases hanswer
                  rw [hblank] at hfound
                  cases hfound

/-- Git is asked in one way, so it accepts a tree with one outcome. -/
theorem Accepts.unique {runner : Runner} {tree : String} {before after other : Machine σ}
    (h : Accepts runner tree before after) (hother : Accepts runner tree before other) :
    after = other := by
  cases h with
  | checkedOut checkout success =>
      cases hother with
      | checkedOut same =>
          cases checkout.symm.trans same
          rfl
      | empty same failure =>
          cases checkout.symm.trans same
          rw [success] at failure
          cases failure
  | empty checkout failure list =>
      cases hother with
      | checkedOut same success =>
          cases checkout.symm.trans same
          rw [success] at failure
          cases failure
      | empty same _ listed =>
          cases checkout.symm.trans same
          cases list.symm.trans listed
          rfl

/-- A tree is checked out just if git accepts it. -/
theorem checkOutTree_eq_ok_iff {baseline : Baseline} {tree : String}
    {before after : Machine σ} :
    (baseline.checkOutTree tree).runOn before = (.ok (), after) ↔
      Accepts baseline.runner tree before after := by
  rcases runOn_checkOutTree baseline tree before with
    ⟨accepted, hrun, haccepts⟩ | ⟨⟨report, left, hrun⟩, hrefuses⟩
  · rw [hrun]
    constructor
    · intro h
      cases h
      exact haccepts
    · intro h
      rw [haccepts.unique h]
  · rw [hrun]
    constructor
    · intro h
      cases h
    · intro h
      exact absurd h (hrefuses after)

/-- A tree is brought back just if git accepts it; removing what is left has no say in this. -/
theorem bringBack_eq_ok_iff {baseline : Baseline} {tree : String} {before after : Machine σ} :
    (baseline.bringBack tree).runOn before = (.ok (), after) ↔
      ∃ accepted, (baseline.checkOutTree tree).runOn before = (.ok (), accepted) ∧
        (baseline.removeLeft : Task σ Trouble Unit).runOn accepted = (.ok (), after) := by
  unfold bringBack
  rw [Task.bind_eq_ok_iff]
  exact ⟨fun ⟨_, accepted, h⟩ => ⟨accepted, h⟩, fun ⟨accepted, h⟩ => ⟨(), accepted, h⟩⟩

/-- A tree is brought back, or what is told is a failure of the restoration. -/
theorem runOn_bringBack (baseline : Baseline) (tree : String) (before : Machine σ) :
    (∃ accepted after, (baseline.bringBack tree).runOn before = (.ok (), after) ∧
        Accepts baseline.runner tree before accepted) ∨
      ((∃ report after,
          (baseline.bringBack tree).runOn before = (.error (.restoration report), after)) ∧
        ∀ after, ¬Accepts baseline.runner tree before after) := by
  rcases runOn_checkOutTree baseline tree before with
    ⟨accepted, hcheckout, haccepts⟩ | ⟨⟨report, after, hcheckout⟩, hrefuses⟩
  · obtain ⟨after, hremove, -⟩ := @runOn_removeLeft σ baseline Trouble accepted
    exact .inl ⟨accepted, after, bringBack_eq_ok_iff.mpr ⟨accepted, hcheckout, hremove⟩, haccepts⟩
  · refine .inr ⟨⟨report, after, ?_⟩, hrefuses⟩
    unfold bringBack
    exact Task.runOn_bind_of_error hcheckout

/-- Letting go of a swap that is not settled brings its tree back, and notes a failure. -/
theorem runOn_release (baseline : Baseline) (tree : String) {ε : Type} (machine : Machine σ) :
    (baseline.release { tree } : Task σ ε Unit).runOn machine =
      match (baseline.bringBack tree).runOn machine with
      | (.ok (), after) => (.ok (), after)
      | (.error trouble, after) => (.ok (), after.say (.note .error trouble.message)) := by
  unfold release
  rw [if_neg Bool.false_ne_true, Task.runOn_bind, Task.runOn_outcome]
  rcases (baseline.bringBack tree).runOn machine with ⟨result, after⟩
  cases result <;> rfl

/-- Letting go of a swap fails in no case. -/
theorem exists_runOn_release (baseline : Baseline) (swap : Swap) {ε : Type}
    (machine : Machine σ) :
    ∃ after, (baseline.release swap : Task σ ε Unit).runOn machine = (.ok (), after) := by
  obtain ⟨tree, settled⟩ := swap
  cases settled with
  | true => exact ⟨machine, rfl⟩
  | false =>
      rw [runOn_release]
      rcases (baseline.bringBack tree).runOn machine with ⟨result, after⟩
      cases result <;> exact ⟨_, rfl⟩

/-- Restoring settles the swap: letting go of it brings nothing back a second time. -/
theorem runOn_restore (baseline : Baseline) (swap : Swap) (machine : Machine σ) :
    (baseline.restore swap).runOn machine = (baseline.bringBack swap.tree).runOn machine := by
  unfold restore
  rw [Task.runOn_bind, Task.runOn_outcome]
  rcases (baseline.bringBack swap.tree).runOn machine with ⟨result, after⟩
  rfl

/-!
## Recording and swapping
-/

/-- The pending files are those that git lists. -/
theorem readPending_eq_ok_iff {runner : Runner} {machine after : Machine σ}
    {pending : Git.Pending} :
    (readPending runner).runOn machine = (.ok pending, after) ↔
      ∃ output, (runner.run statusArgs).runOn machine = (.ok output, after) ∧
        pending = .parse output.out := by
  unfold readPending
  rw [Task.bind_eq_ok_iff]
  constructor
  · rintro ⟨output, left, hrun, hend⟩
    cases hend
    exact ⟨output, hrun, rfl⟩
  · rintro ⟨output, hrun, rfl⟩
    exact ⟨output, after, hrun, rfl⟩

/-- The changes are those that git lists, sorted when it has listed them. -/
theorem readChanges_eq_ok_iff {runner : Runner} {reference : String}
    {machine after : Machine σ} {changes : Git.Changes} :
    (readChanges runner reference).runOn machine = (.ok changes, after) ↔
      ∃ output, (runner.run (diffArgs reference)).runOn machine = (.ok output, after) ∧
        changes = .ofList after.disk runner.folder (Git.Change.parse output.out) := by
  unfold readChanges
  rw [Task.bind_eq_ok_iff]
  constructor
  · rintro ⟨output, left, hrun, hend⟩
    cases hend
    exact ⟨output, hrun, rfl⟩
  · rintro ⟨output, hrun, rfl⟩
    exact ⟨output, after, hrun, rfl⟩

/-- A baseline is made from what git answers in turn, if what is pending passes the check. -/
theorem ofReference_eq_ok_iff {runner : Runner} {reference : String} {start ready : Machine σ}
    {baseline : Baseline} :
    (ofReference runner reference).runOn start = (.ok baseline, ready) ↔
      ∃ known found place placed changes compared pending,
        (runner.runAnyway ["cat-file", "-e", reference ++ "^\x7bcommit\x7d"]).runOn start =
          (.ok known, found) ∧
        known.ending.isSuccess = true ∧
        (runner.ask ["rev-parse", "--show-prefix"]).runOn found = (.ok place, placed) ∧
        (readChanges runner reference).runOn placed = (.ok changes, compared) ∧
        (readPending runner).runOn compared = (.ok pending, ready) ∧
        baseline = ⟨runner, reference, ⟨place⟩, changes, pending⟩ ∧
        baseline.check pending = .ok () := by
  unfold ofReference
  rw [Task.bind_eq_ok_iff]
  constructor
  · rintro ⟨known, found, hknown, hrest⟩
    rw [Task.relabel_eq_ok_iff] at hknown
    cases hgood : known.ending.isSuccess with
    | false =>
        rw [hgood, if_pos (by rfl), Task.bind_eq_ok_iff] at hrest
        obtain ⟨_, _, hthrow, -⟩ := hrest
        cases hthrow
    | true =>
        rw [hgood, if_neg (by simp)] at hrest
        simp only [Task.bind_eq_ok_iff, Task.relabel_eq_ok_iff] at hrest
        obtain ⟨place, placed, hplace, changes, compared, hchanges, pending, checked, hpending,
          _, _, hcheck, hend⟩ := hrest
        rw [Task.runOn_ofExcept, Prod.mk.injEq] at hcheck
        obtain ⟨hcheck, rfl⟩ := hcheck
        cases hend
        exact ⟨known, found, place, placed, changes, compared, pending, hknown, hgood, hplace,
          hchanges, hpending, rfl, hcheck⟩
  · rintro ⟨known, found, place, placed, changes, compared, pending, hknown, hgood, hplace,
      hchanges, hpending, rfl, hcheck⟩
    refine ⟨known, found, Task.relabel_eq_ok_iff.mpr hknown, ?_⟩
    rw [hgood, if_neg (by simp)]
    simp only [Task.bind_eq_ok_iff, Task.relabel_eq_ok_iff]
    refine ⟨place, placed, hplace, changes, compared, hchanges, pending, ready, hpending, (),
      ready, ?_, rfl⟩
    rw [Task.runOn_ofExcept, hcheck]

/-- What stands in the way of a swap is found before the tree is recorded. -/
theorem record_eq_ok_iff {baseline : Baseline} {machine recorded : Machine σ} {tree : String} :
    baseline.record.runOn machine = (.ok tree, recorded) ↔
      ∃ pending checked,
        (readPending baseline.runner).runOn machine = (.ok pending, checked) ∧
        baseline.check pending = .ok () ∧
        (baseline.runner.ask ["write-tree"]).runOn checked = (.ok tree, recorded) := by
  unfold record
  rw [Task.bind_eq_ok_iff]
  constructor
  · rintro ⟨pending, checked, hread, hrest⟩
    obtain ⟨_, middle, hcheck, hask⟩ := Task.bind_eq_ok_iff.mp hrest
    rw [Task.runOn_ofExcept, Prod.mk.injEq] at hcheck
    obtain ⟨hcheck, rfl⟩ := hcheck
    exact ⟨pending, checked, Task.relabel_eq_ok_iff.mp hread, hcheck,
      Task.relabel_eq_ok_iff.mp hask⟩
  · rintro ⟨pending, checked, hread, hcheck, hask⟩
    refine ⟨pending, checked, Task.relabel_eq_ok_iff.mpr hread,
      Task.bind_eq_ok_iff.mpr ⟨(), checked, ?_, Task.relabel_eq_ok_iff.mpr hask⟩⟩
    rw [Task.runOn_ofExcept, hcheck]

/-- The files are swapped, or what was recorded is brought back and the trouble is told. -/
theorem runOn_enter_of_record {baseline : Baseline} {machine recorded : Machine σ}
    {tree : String} (h : baseline.record.runOn machine = (.ok tree, recorded)) :
    baseline.enter.runOn machine =
      match baseline.checkOut.runOn recorded with
      | (.ok (), entered) => (.ok { tree }, entered)
      | (.error trouble, stopped) =>
          (.error trouble,
            ((baseline.release { tree } : Task σ Trouble Unit).runOn stopped).2) := by
  unfold enter
  rw [Task.runOn_bind_of_ok h, Task.runOn_bind, Task.runOn_outcome]
  rcases baseline.checkOut.runOn recorded with ⟨result, stopped⟩
  cases result with
  | ok done => rfl
  | error trouble =>
      dsimp only
      rw [Task.runOn_bind, runOn_release]
      rcases (baseline.bringBack tree).runOn stopped with ⟨back, after⟩
      cases back <;> rfl

/-- What stops the record stops the swap. -/
theorem runOn_enter_of_error {baseline : Baseline} {machine stopped : Machine σ}
    {trouble : Trouble} (h : baseline.record.runOn machine = (.error trouble, stopped)) :
    baseline.enter.runOn machine = (.error trouble, stopped) := by
  unfold enter
  exact Task.runOn_bind_of_error h

/-- What stops the swap stops the work. -/
theorem runOn_runInside_of_error {baseline : Baseline} {machine stopped : Machine σ}
    {trouble : Trouble} (h : baseline.enter.runOn machine = (.error trouble, stopped))
    {α : Type} (work : StateM (Machine σ) (Option α)) :
    (baseline.runInside work).runOn machine = (.error trouble, stopped) := by
  unfold runInside
  exact Task.runOn_bind_of_error h

/-- After the work the swap is restored, or let go of if the work has broken off. -/
theorem runOn_runInside_of_ok {baseline : Baseline} {machine inside : Machine σ} {swap : Swap}
    (h : baseline.enter.runOn machine = (.ok swap, inside)) {α : Type}
    (work : StateM (Machine σ) (Option α)) :
    (baseline.runInside work).runOn machine =
      match work.run inside with
      | (some value, outside) =>
          match (baseline.restore swap).runOn outside with
          | (.ok (), after) => (.ok (some value), after)
          | (.error trouble, after) => (.error trouble, after)
      | (none, outside) =>
          (.ok none, ((baseline.release swap : Task σ Trouble Unit).runOn outside).2) := by
  unfold runInside
  rw [Task.runOn_bind_of_ok h, Task.runOn_bind, Task.runOn_liftM]
  rcases work.run inside with ⟨value?, outside⟩
  cases value? with
  | some value =>
      dsimp only
      rw [Task.runOn_bind]
      rcases (baseline.restore swap).runOn outside with ⟨result, after⟩
      cases result <;> rfl
  | none =>
      dsimp only
      obtain ⟨after, hrelease⟩ := exists_runOn_release baseline swap (ε := Trouble) outside
      rw [Task.runOn_bind_of_ok hrelease, hrelease]
      rfl

/-!
## A swap by script
-/

/-- A process that writes a text and exits. -/
def exiting (code : Nat) (out : String) : Reply :=
  ⟨some (.exited code), out.toUTF8.toList, [], []⟩

/-- A baseline before a file was added. -/
def beforeAddition : Baseline :=
  ⟨⟨"git", ⟨"/"⟩, 1000⟩, "main", ⟨""⟩, ⟨[⟨"new.txt"⟩], [], [], []⟩, ⟨[]⟩⟩

/-- A machine with the file that was added, where git plays replies. -/
def scripted (replies : List Reply) : Machine Script :=
  ⟨.scripted, ⟨["git"], [], replies⟩, ⟨⟨[(["new.txt"], .file (.text "new\n"))]⟩, []⟩, [], []⟩

end Baseline

end Remedy
