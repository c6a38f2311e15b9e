import Remedy.Proofs.Baseline.Steps
import Remedy.Proofs.Outcome

/-!
# A recorded tree is brought back once

From the moment the tree is recorded, every way out of a swap brings it back: the files cannot be
swapped, the swap is restored or let go of, the work is done or breaks off.  Git is called once
for this, behind any checkout of the baseline, and only to list and to remove afterwards.
-/

namespace Remedy

namespace Baseline

open Git (Runner)

variable {σ : Type}

/-- Git is called to check out the files of a tree or a commit. -/
def IsCheckout (runner : Runner) (name : String) (call : Call) : Prop :=
  call.binary = runner.binary ∧ call.args = checkoutArgs name

/-- Git is called to list a tree or to remove files. -/
def IsAftermath (runner : Runner) (call : Call) : Prop :=
  call.binary = runner.binary ∧
    (call.args.head? = some "ls-tree" ∨ call.args.head? = some "rm")

/-- The calls from one machine to another: a single checkout of a tree, and what follows it. -/
def BringsBackOnce (runner : Runner) (tree : String) (before after : Machine σ) : Prop :=
  ∃ checkout rest, after.calls = before.calls ++ checkout :: rest ∧
    IsCheckout runner tree checkout.1 ∧ ∀ call ∈ rest, IsAftermath runner call.1

/-- Calls that list or remove may be added to those that brought a tree back. -/
theorem BringsBackOnce.append {runner : Runner} {tree : String} {before middle after : Machine σ}
    (h : BringsBackOnce runner tree before middle) {more : List (Call × Bool)}
    (hcalls : after.calls = middle.calls ++ more)
    (hmore : ∀ call ∈ more, IsAftermath runner call.1) :
    BringsBackOnce runner tree before after := by
  obtain ⟨checkout, rest, hbefore, hcheckout, hrest⟩ := h
  refine ⟨checkout, rest ++ more, ?_, hcheckout, ?_⟩
  · rw [hcalls, hbefore, List.append_assoc, List.cons_append]
  · intro call hcall
    rcases List.mem_append.mp hcall with hcall | hcall
    · exact hrest call hcall
    · exact hmore call hcall

/-- What is left is removed by one call at most. -/
theorem calls_removeLeft (baseline : Baseline) {ε : Type} (machine : Machine σ) :
    ∃ more, ((baseline.removeLeft : Task σ ε Unit).runOn machine).2.calls =
        machine.calls ++ more ∧ ∀ call ∈ more, IsAftermath baseline.runner call.1 := by
  obtain ⟨after, hrun, htold⟩ := baseline.exists_toldToRemove_left ε machine
  rw [hrun]
  cases htold with
  | nothing _ calls =>
      exact ⟨[], by rw [calls, List.append_nil], fun _ hcall => absurd hcall List.not_mem_nil⟩
  | @once remove _ calls binary args =>
      refine ⟨[remove], calls, fun call hcall => ?_⟩
      obtain rfl := List.mem_singleton.mp hcall
      exact ⟨binary, .inr (by rw [args]; rfl)⟩

/-- A tree is checked out by one call, behind which it is listed at most. -/
theorem bringsBackOnce_checkOutTree (baseline : Baseline) (tree : String) (machine : Machine σ) :
    BringsBackOnce baseline.runner tree machine
      ((baseline.checkOutTree tree).runOn machine).2 := by
  obtain ⟨checkout, hcalls, hcheckout⟩ :=
    baseline.runner.exists_call_startOn (checkoutArgs tree) machine
  have honce : BringsBackOnce baseline.runner tree machine
      (baseline.runner.startOn (checkoutArgs tree) machine).2 :=
    ⟨checkout, [], hcalls, hcheckout, fun _ hcall => absurd hcall List.not_mem_nil⟩
  obtain ⟨refused, hrefused, hleft | hleft⟩ := snd_runOn_checkOutTree baseline tree machine
  · rw [hleft, hrefused]
    exact honce
  · obtain ⟨list, hlist, hbinary, hargs⟩ :=
      baseline.runner.exists_call_startOn (listArgs tree) refused
    rw [← hrefused] at honce
    rw [hleft]
    refine honce.append hlist fun call hcall => ?_
    obtain rfl := List.mem_singleton.mp hcall
    exact ⟨hbinary, .inl (by rw [hargs]; rfl)⟩

/-- A tree is brought back once, whatever git answers. -/
theorem bringsBackOnce_bringBack (baseline : Baseline) (tree : String) (machine : Machine σ) :
    BringsBackOnce baseline.runner tree machine ((baseline.bringBack tree).runOn machine).2 := by
  have honce := bringsBackOnce_checkOutTree baseline tree machine
  unfold bringBack
  rw [Task.runOn_bind]
  rcases hcheckout : (baseline.checkOutTree tree).runOn machine with ⟨result, checkedOut⟩
  rw [hcheckout] at honce
  cases result with
  | error trouble => exact honce
  | ok done =>
      obtain ⟨more, hcalls, hmore⟩ := calls_removeLeft baseline (ε := Trouble) checkedOut
      exact honce.append hcalls hmore

/-- A swap is let go of with its tree brought back once. -/
theorem bringsBackOnce_release (baseline : Baseline) (tree : String) {ε : Type}
    (machine : Machine σ) :
    BringsBackOnce baseline.runner tree machine
      ((baseline.release { tree } : Task σ ε Unit).runOn machine).2 := by
  have honce := bringsBackOnce_bringBack baseline tree machine
  rw [runOn_release]
  rcases hback : (baseline.bringBack tree).runOn machine with ⟨result, after⟩
  rw [hback] at honce
  cases result <;> exact honce

/-- The calls of a checkout of the baseline: one, or none if a file could not be removed. -/
theorem calls_checkOut (baseline : Baseline) (machine : Machine σ) :
    (baseline.checkOut.runOn machine).2.calls = machine.calls ∧
        (∃ trouble, (baseline.checkOut.runOn machine).1 = .error trouble) ∨
      ∃ checkout, (baseline.checkOut.runOn machine).2.calls = machine.calls ++ [checkout] ∧
        IsCheckout baseline.runner baseline.reference checkout.1 := by
  obtain ⟨disk, ⟨hleft, herror⟩ | hleft⟩ := snd_runOn_checkOut baseline machine
  · rw [hleft]
    exact .inl ⟨rfl, herror⟩
  · rw [hleft]
    exact .inr (baseline.runner.exists_call_startOn (checkoutArgs baseline.reference)
      { machine with disk })

/--
How the swaps of a baseline end whose tree has been recorded: `start` is where entering began and
`recorded` is where git had just written the tree.
-/
structure EndsOnce (baseline : Baseline) (start recorded : Machine σ) (tree : String) : Prop where
  /-- The tree is what git printed when it wrote the tree, without blanks around it. -/
  printed : ∃ ready out err, baseline.runner.startOn ["write-tree"] ready =
      (.finished (.exited 0) out err, recorded) ∧
    tree = String.ofList (Text.trim (Text.decodeLossy out))
  /-- Entering that fails has called for the baseline once at most, and then brings back. -/
  refused : ∀ trouble after, baseline.enter.runOn start = (.error trouble, after) →
    ∃ (front : List (Call × Bool)) (stopped : Machine σ),
      stopped.calls = recorded.calls ++ front ∧ front.length ≤ 1 ∧
      (∀ call ∈ front, IsCheckout baseline.runner baseline.reference call.1) ∧
      BringsBackOnce baseline.runner tree stopped after
  /-- Entering that succeeds has called for the baseline once and brings nothing back. -/
  entered : ∀ swap after, baseline.enter.runOn start = (.ok swap, after) →
    swap = { tree } ∧ ∃ checkout, after.calls = recorded.calls ++ [checkout] ∧
      IsCheckout baseline.runner baseline.reference checkout.1
  /-- The swap can be restored, -/
  restored : ∀ later : Machine σ,
    BringsBackOnce baseline.runner tree later ((baseline.restore { tree }).runOn later).2
  /-- or be let go of, -/
  released : ∀ later : Machine σ, BringsBackOnce baseline.runner tree later
    ((baseline.release { tree } : Task σ Trouble Unit).runOn later).2
  /-- but a swap that has been restored is let go of without a call. -/
  settled : ∀ later : Machine σ,
    (baseline.release { tree, settled := true } : Task σ Trouble Unit).runOn later =
      (.ok (), later)
  /-- Work that cannot begin leaves what entering has left, -/
  unbegun : ∀ {α : Type} (work : StateM (Machine σ) (Option α)) trouble after,
    baseline.enter.runOn start = (.error trouble, after) →
      (baseline.runInside work).runOn start = (.error trouble, after)
  /-- and behind work that is done or breaks off, the tree is brought back. -/
  behind : ∀ {α : Type} (work : StateM (Machine σ) (Option α)) swap inside,
    baseline.enter.runOn start = (.ok swap, inside) →
      BringsBackOnce baseline.runner tree (work.run inside).2
        ((baseline.runInside work).runOn start).2

/-- What git prints when it writes a tree. -/
theorem printed_of_record {baseline : Baseline} {start recorded : Machine σ} {tree : String}
    (h : baseline.record.runOn start = (.ok tree, recorded)) :
    ∃ ready out err, baseline.runner.startOn ["write-tree"] ready =
        (.finished (.exited 0) out err, recorded) ∧
      tree = String.ofList (Text.trim (Text.decodeLossy out)) := by
  obtain ⟨pending, checked, -, -, hask⟩ := record_eq_ok_iff.mp h
  obtain ⟨output, hrun, htree⟩ := Runner.ask_eq_ok_iff.mp hask
  obtain ⟨hanyway, hsuccess⟩ := Runner.run_eq_ok_iff.mp hrun
  obtain ⟨ending, out, err, hstart, rfl⟩ := Runner.runAnyway_eq_ok_iff.mp hanyway
  obtain rfl := Runner.isSuccess_iff.mp hsuccess
  exact ⟨checked, out, err, hstart, by rw [htree, String.toList_ofList]⟩

/-- Once its tree is recorded, a swap brings it back once, whichever way it ends. -/
theorem endsOnce_of_record {baseline : Baseline} {start recorded : Machine σ} {tree : String}
    (h : baseline.record.runOn start = (.ok tree, recorded)) :
    EndsOnce baseline start recorded tree := by
  have hcalls := calls_checkOut baseline recorded
  have henter := runOn_enter_of_record h
  rcases hcheckout : baseline.checkOut.runOn recorded with ⟨result, left⟩
  rw [hcheckout] at henter hcalls
  refine ⟨printed_of_record h, ?_, ?_, ?_, bringsBackOnce_release baseline tree, fun _ => rfl,
    fun work trouble after hentered => runOn_runInside_of_error hentered work, ?_⟩
  · intro trouble after hentered
    rw [henter] at hentered
    cases result with
    | ok done => cases hentered
    | error stop =>
        cases hentered
        have honce := bringsBackOnce_release baseline tree (ε := Trouble) left
        rcases hcalls with ⟨hsame, -⟩ | ⟨checkout, hone, hcheckout⟩
        · exact ⟨[], left, by rw [List.append_nil]; exact hsame, Nat.zero_le 1,
            fun _ hcall => absurd hcall List.not_mem_nil, honce⟩
        · refine ⟨[checkout], left, hone, Nat.le_refl 1, fun call hcall => ?_, honce⟩
          obtain rfl := List.mem_singleton.mp hcall
          exact hcheckout
  · intro swap after hentered
    rw [henter] at hentered
    cases result with
    | error stop => cases hentered
    | ok done =>
        cases hentered
        refine ⟨rfl, ?_⟩
        rcases hcalls with ⟨-, stop, herror⟩ | hone
        · cases herror
        · exact hone
  · intro later
    rw [runOn_restore]
    exact bringsBackOnce_bringBack baseline tree later
  · intro α work swap inside hentered
    rw [runOn_runInside_of_ok hentered]
    obtain rfl : swap = { tree } := by
      rw [henter] at hentered
      cases result <;> cases hentered
      rfl
    rcases work.run inside with ⟨value?, outside⟩
    cases value? with
    | none => exact bringsBackOnce_release baseline tree outside
    | some value =>
        have honce := bringsBackOnce_bringBack baseline tree outside
        dsimp only
        rw [runOn_restore]
        rcases hback : (baseline.bringBack tree).runOn outside with ⟨back, after⟩
        rw [hback] at honce
        cases back <;> exact honce

theorem endsOnce_of_record_by_script :
    ∃ recorded, EndsOnce beforeAddition (scripted [.silent, exiting 0 "T\n", exiting 1 ""])
      recorded "T" := by
  have hprinted : (beforeAddition.record.runOn
      (scripted [.silent, exiting 0 "T\n", exiting 1 ""])).1.toOption = some "T" := by
    decide +kernel
  exact ⟨_, endsOnce_of_record (Prod.ext (Outcome.toOption_eq_some_iff.mp hprinted) rfl)⟩

end Baseline

end Remedy
