import Remedy.Proofs.Baseline.Steps
import Remedy.Proofs.Text.Utf8

/-!
# The verdict on a restoration

Whether a swap counts as restored is decided by two answers of git: to the checkout of the recorded
tree and, if that is refused, to the question what is in the tree.  A failure is told with the
report of git on one of the two.  Files that are left over are removed only behind a verdict that
is good, and nothing that comes of it makes the verdict another one.
-/

namespace Remedy

/-- Two machines that differ at most in what their programs do when told to remove files. -/
structure Machine.AlikeButRemovals {σ : Type} (machine other : Machine σ) : Prop where
  start : ∀ call disk memory, call.args.head? ≠ some "rm" →
    other.programs.start call disk memory = machine.programs.start call disk memory
  rest : other = { machine with programs := other.programs }

namespace Git.Runner

variable {σ : Type} {args : List String} {machine other : Machine σ}

/-- The answer to a call that removes nothing is the same, and so is what it leaves. -/
theorem startOn_of_alike (runner : Runner) (h : machine.AlikeButRemovals other)
    (hargs : args.head? ≠ some "rm") :
    (runner.startOn args other).1 = (runner.startOn args machine).1 ∧
      (runner.startOn args machine).2.AlikeButRemovals (runner.startOn args other).2 := by
  obtain ⟨hstart, hrest⟩ := h
  obtain ⟨programs, memory, disk, calls, said⟩ := machine
  obtain ⟨others, _, _, _, _⟩ := other
  cases hrest
  unfold startOn Machine.start
  split
  · exact ⟨rfl, hstart, rfl⟩
  · dsimp only
    split
    · exact ⟨rfl, hstart, rfl⟩
    · rename_i location _
      rw [hstart ⟨runner.binary, location, args⟩ disk memory hargs]
      rcases programs.start ⟨runner.binary, location, args⟩ disk memory with ⟨answer, left, after⟩
      cases answer <;> exact ⟨rfl, hstart, rfl⟩
    · exact ⟨rfl, hstart, rfl⟩

/-- So it is if the call must be successful. -/
theorem fst_runOn_run_of_alike (runner : Runner) (h : machine.AlikeButRemovals other)
    (hargs : args.head? ≠ some "rm") :
    ((runner.run args).runOn other).1 = ((runner.run args).runOn machine).1 := by
  unfold run
  rw [Task.runOn_bind, Task.runOn_bind, runOn_runAnyway, runOn_runAnyway,
    (runner.startOn_of_alike h hargs).1]
  cases runner.heard args (runner.startOn args machine).1 with
  | error failure => rfl
  | ok output =>
      dsimp only
      split <;> rfl

end Git.Runner

namespace Baseline

open Git (Runner)

variable {σ : Type}

/-- Git checks a tree out, or refuses that and then lists nothing but NULs in the tree. -/
def IsCheckedOut (runner : Runner) (tree : String) (start : Machine σ) : Prop :=
  ∃ ending out err checked,
    runner.startOn (checkoutArgs tree) start = (.finished ending out err, checked) ∧
      (ending = .exited 0 ∨ ending ≠ .exited 0 ∧ ∃ listing complaint after,
        runner.startOn (listArgs tree) checked =
            (.finished (.exited 0) listing complaint, after) ∧
          ∀ byte ∈ listing, byte = 0)

/-- Why a tree is not checked out. -/
inductive Reports (runner : Runner) (tree : String) (start : Machine σ) : String → Prop where
  /-- Git could not be run, or took too long. -/
  | unheard {failure : Git.Failure} {after : Machine σ}
      (checkout : (runner.runAnyway (checkoutArgs tree)).runOn start = (.error failure, after)) :
      Reports runner tree start failure.message
  /-- Git has refused the tree and did not list it either. -/
  | unlisted {ending : Ending} {out err : List UInt8} {checked after : Machine σ}
      {failure : Git.Failure}
      (checkout : runner.startOn (checkoutArgs tree) start = (.finished ending out err, checked))
      (refuses : ending ≠ .exited 0)
      (list : (runner.run (listArgs tree)).runOn checked = (.error failure, after)) :
      Reports runner tree start failure.message
  /-- Git has refused the tree and found something in it. -/
  | refused {ending : Ending} {out err listing complaint : List UInt8} {checked after : Machine σ}
      (checkout : runner.startOn (checkoutArgs tree) start = (.finished ending out err, checked))
      (refuses : ending ≠ .exited 0)
      (list : runner.startOn (listArgs tree) checked =
        (.finished (.exited 0) listing complaint, after))
      (some : ∃ byte ∈ listing, byte ≠ 0) :
      Reports runner tree start (String.ofList (Text.decodeLossy err))

theorem all_nul_listing_iff {listing : List UInt8} :
    (String.ofList (Text.decodeLossy listing)).toList.all (· == '\x00') = true ↔
      ∀ byte ∈ listing, byte = 0 := by
  rw [String.toList_ofList, List.all_eq_true, ← Text.forall_decodeLossy_eq_nul_iff]
  simp only [beq_iff_eq]

/-- A tree that git accepts is one that it checks out or lists as empty. -/
theorem isCheckedOut_iff {runner : Runner} {tree : String} {start : Machine σ} :
    IsCheckedOut runner tree start ↔ ∃ after, Accepts runner tree start after := by
  constructor
  · rintro ⟨ending, out, err, checked, hcheckout, rfl | ⟨hrefuses, hlists⟩⟩
    · exact ⟨checked,
        .checkedOut (Runner.runAnyway_eq_ok_iff.mpr ⟨_, out, err, hcheckout, rfl⟩) rfl⟩
    · obtain ⟨listing, complaint, after, hlist, hblank⟩ := hlists
      refine ⟨after, .empty (Runner.runAnyway_eq_ok_iff.mpr ⟨_, out, err, hcheckout, rfl⟩) ?_
        (Runner.run_eq_ok_iff.mpr
          ⟨Runner.runAnyway_eq_ok_iff.mpr ⟨_, listing, complaint, hlist, rfl⟩, rfl⟩)
        (all_nul_listing_iff.mpr hblank)⟩
      rw [Bool.eq_false_iff, Ne, Runner.isSuccess_iff]
      exact hrefuses
  · rintro ⟨after, haccepts⟩
    cases haccepts with
    | checkedOut checkout success =>
        obtain ⟨ending, out, err, hstart, rfl⟩ := Runner.runAnyway_eq_ok_iff.mp checkout
        exact ⟨ending, out, err, after, hstart, .inl (Runner.isSuccess_iff.mp success)⟩
    | empty checkout failure list blank =>
        obtain ⟨ending, out, err, hstart, rfl⟩ := Runner.runAnyway_eq_ok_iff.mp checkout
        obtain ⟨hlisted, hsuccess⟩ := Runner.run_eq_ok_iff.mp list
        obtain ⟨good, listing, complaint, hlist, rfl⟩ := Runner.runAnyway_eq_ok_iff.mp hlisted
        obtain rfl : good = _ := Runner.isSuccess_iff.mp hsuccess
        refine ⟨ending, out, err, _, hstart, .inr ⟨?_, listing, complaint, after, hlist,
          all_nul_listing_iff.mp blank⟩⟩
        rwa [Ne, ← Runner.isSuccess_iff, ← Ne, ← Bool.eq_false_iff]

/-- What is told of a tree that is not checked out is why it is not. -/
theorem reports_of_checkOutTree {baseline : Baseline} {tree : String} {start after : Machine σ}
    {trouble : Trouble}
    (h : (baseline.checkOutTree tree).runOn start = (.error trouble, after)) :
    ∃ report, trouble = .restoration report ∧ Reports baseline.runner tree start report := by
  unfold checkOutTree at h
  rw [Task.runOn_bind, Task.runOn_relabel] at h
  rcases hcheckout : (baseline.runner.runAnyway (checkoutArgs tree)).runOn start with
    ⟨result, checked⟩
  rw [hcheckout] at h
  cases result with
  | error failure =>
      cases h
      exact ⟨_, rfl, .unheard hcheckout⟩
  | ok output =>
      obtain ⟨ending, out, err, hstart, rfl⟩ := Runner.runAnyway_eq_ok_iff.mp hcheckout
      dsimp only [Task.mapError_ok] at h
      cases hsuccess : ending.isSuccess with
      | true =>
          rw [hsuccess, if_pos rfl] at h
          cases h
      | false =>
          have hrefuses : ending ≠ .exited 0 := by
            rwa [Ne, ← Runner.isSuccess_iff, ← Ne, ← Bool.eq_false_iff]
          rw [hsuccess, if_neg Bool.false_ne_true, Task.runOn_bind, Task.runOn_relabel,
            runOn_isEmptyTree] at h
          rcases hlist : (baseline.runner.run (listArgs tree)).runOn checked with ⟨answer, left⟩
          rw [hlist] at h
          cases answer with
          | error failure =>
              cases h
              exact ⟨_, rfl, .unlisted hstart hrefuses hlist⟩
          | ok listing =>
              obtain ⟨hlisted, hgood⟩ := Runner.run_eq_ok_iff.mp hlist
              obtain ⟨good, bytes, complaint, hbytes, rfl⟩ :=
                Runner.runAnyway_eq_ok_iff.mp hlisted
              obtain rfl : good = _ := Runner.isSuccess_iff.mp hgood
              dsimp only [Task.mapError_ok] at h
              split at h
              · cases h
              · rename_i hfull
                cases h
                refine ⟨_, rfl, .refused hstart hrefuses hbytes ?_⟩
                rw [all_nul_listing_iff] at hfull
                simpa using hfull

/-- What git makes of a removal has no say in whether a tree is checked out. -/
theorem fst_runOn_checkOutTree_of_alike (baseline : Baseline) (tree : String)
    {machine other : Machine σ} (h : machine.AlikeButRemovals other) :
    ((baseline.checkOutTree tree).runOn other).1 =
      ((baseline.checkOutTree tree).runOn machine).1 := by
  have hcheckout : (checkoutArgs tree).head? ≠ some "rm" := by simp [checkoutArgs]
  have hlisting : (listArgs tree).head? ≠ some "rm" := by simp [listArgs]
  obtain ⟨hanswer, hchecked⟩ := baseline.runner.startOn_of_alike h hcheckout
  have hlist := baseline.runner.fst_runOn_run_of_alike hchecked hlisting
  unfold checkOutTree
  rw [Task.runOn_bind, Task.runOn_bind, Task.runOn_relabel, Task.runOn_relabel,
    Runner.runOn_runAnyway, Runner.runOn_runAnyway, hanswer]
  cases baseline.runner.heard (checkoutArgs tree)
    (baseline.runner.startOn (checkoutArgs tree) machine).1 with
  | error failure => rfl
  | ok output =>
      dsimp only [Task.mapError_ok]
      split
      · rfl
      · rw [Task.runOn_bind, Task.runOn_bind, Task.runOn_relabel, Task.runOn_relabel,
          runOn_isEmptyTree, runOn_isEmptyTree]
        -- of the two listings only the answers are the same, and only they are looked at
        generalize (baseline.runner.run (listArgs tree)).runOn
          (baseline.runner.startOn (checkoutArgs tree) other).2 = there at hlist
        generalize (baseline.runner.run (listArgs tree)).runOn
          (baseline.runner.startOn (checkoutArgs tree) machine).2 = here at hlist
        obtain ⟨answer, left⟩ := there
        obtain ⟨same, right⟩ := here
        obtain rfl : answer = same := hlist
        cases answer with
        | error failure => rfl
        | ok listing =>
            dsimp only [Task.mapError_ok]
            split <;> rfl

/-- The verdict on a restoration is the one on its tree. -/
theorem fst_runOn_restore (baseline : Baseline) (swap : Swap) (machine : Machine σ) :
    ((baseline.restore swap).runOn machine).1 =
      ((baseline.checkOutTree swap.tree).runOn machine).1 := by
  rw [runOn_restore]
  unfold bringBack
  rw [Task.runOn_bind]
  rcases (baseline.checkOutTree swap.tree).runOn machine with ⟨result, accepted⟩
  cases result with
  | error trouble => rfl
  | ok done =>
      obtain ⟨after, hremove, -⟩ := @runOn_removeLeft σ baseline Trouble accepted
      dsimp only
      rw [hremove]

/-- Behind a tree that is not checked out nothing is removed. -/
theorem exists_calls_of_restore_eq_error {baseline : Baseline} {swap : Swap}
    {start after : Machine σ} {trouble : Trouble}
    (h : (baseline.restore swap).runOn start = (.error trouble, after)) :
    ∃ calls, after.calls = start.calls ++ calls ∧
      ∀ call ∈ calls, call.1.args = checkoutArgs swap.tree ∨ call.1.args = listArgs swap.tree := by
  obtain ⟨checked, rfl, hleft⟩ := snd_runOn_checkOutTree baseline swap.tree start
  rw [runOn_restore] at h
  unfold bringBack at h
  rcases hcheckout : (baseline.checkOutTree swap.tree).runOn start with ⟨result, left⟩
  rw [hcheckout] at hleft
  cases result with
  | ok done =>
      obtain ⟨removed, hremove, -⟩ := @runOn_removeLeft σ baseline Trouble left
      rw [Task.runOn_bind_of_ok hcheckout, hremove] at h
      cases h
  | error stop =>
      rw [Task.runOn_bind_of_error hcheckout] at h
      cases h
      obtain ⟨call, hcall, -, hargs⟩ :=
        baseline.runner.exists_call_startOn (checkoutArgs swap.tree) start
      obtain ⟨second, hsecond, -, hlists⟩ := baseline.runner.exists_call_startOn
        (listArgs swap.tree) (baseline.runner.startOn (checkoutArgs swap.tree) start).2
      rcases hleft with rfl | rfl
      · exact ⟨[call], hcall, by simp [hargs]⟩
      · refine ⟨[call, second], ?_, by simp [hargs, hlists]⟩
        rw [hsecond, hcall, List.append_assoc]
        rfl

/-- What is told of a restoration is decided by the answers of git, but for those to removals. -/
structure TellsVerdict (baseline : Baseline) (swap : Swap) (start : Machine σ) : Prop where
  ok_iff : (∃ after, (baseline.restore swap).runOn start = (.ok (), after)) ↔
    IsCheckedOut baseline.runner swap.tree start
  error : ∀ trouble after, (baseline.restore swap).runOn start = (.error trouble, after) →
    ∃ report, trouble = .restoration report ∧ Reports baseline.runner swap.tree start report
  unremoved : ∀ trouble after, (baseline.restore swap).runOn start = (.error trouble, after) →
    ∃ calls, after.calls = start.calls ++ calls ∧ ∀ call ∈ calls, call.1.args.head? ≠ some "rm"
  removals : ∀ other, start.AlikeButRemovals other →
    ((baseline.restore swap).runOn other).1 = ((baseline.restore swap).runOn start).1

/--
A swap counts as restored just if git checks out its tree, or refuses it and lists it as empty.  If
it does not, the report of git on this is told, and nothing is removed; and if it does, this is
so whatever comes of the removal of files that are left over.
-/
theorem tellsVerdict_restore (baseline : Baseline) (swap : Swap) (start : Machine σ) :
    TellsVerdict baseline swap start where
  ok_iff := by
    rw [isCheckedOut_iff]
    constructor
    · rintro ⟨after, hrun⟩
      rw [runOn_restore, bringBack_eq_ok_iff] at hrun
      obtain ⟨accepted, hcheckout, -⟩ := hrun
      exact ⟨accepted, checkOutTree_eq_ok_iff.mp hcheckout⟩
    · rintro ⟨accepted, haccepts⟩
      obtain ⟨after, hremove, -⟩ := @runOn_removeLeft σ baseline Trouble accepted
      refine ⟨after, ?_⟩
      rw [runOn_restore]
      exact bringBack_eq_ok_iff.mpr ⟨accepted, checkOutTree_eq_ok_iff.mpr haccepts, hremove⟩
  error := by
    intro trouble after hrun
    have hverdict := fst_runOn_restore baseline swap start
    rcases hcheckout : (baseline.checkOutTree swap.tree).runOn start with ⟨result, left⟩
    rw [hrun, hcheckout] at hverdict
    obtain rfl : .error trouble = result := hverdict
    exact reports_of_checkOutTree hcheckout
  unremoved := by
    intro trouble after hrun
    obtain ⟨calls, hcalls, hargs⟩ := exists_calls_of_restore_eq_error hrun
    refine ⟨calls, hcalls, fun call hcall => ?_⟩
    rcases hargs call hcall with hcheckout | hlist
    · simp [hcheckout, checkoutArgs]
    · simp [hlist, listArgs]
  removals := by
    intro other halike
    rw [fst_runOn_restore, fst_runOn_restore, fst_runOn_checkOutTree_of_alike _ _ halike]

end Baseline

end Remedy
