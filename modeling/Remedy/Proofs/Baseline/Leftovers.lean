import Mathlib.Data.List.Basic
import Remedy.Proofs.Baseline.Steps
import Remedy.Proofs.Tree.Presence

/-!
# What a swap leaves over

When a tree was brought back, git is told to remove the files that came with the baseline and still
stand somewhere.  It is told of all of them, in their order, unless one of them is a link that leads
nowhere or has a path that is too long for the system; such a file stays.
-/

namespace Remedy.Baseline

open Git (Runner)

variable {σ : Type}

/-- The files that came with the baseline and stand at their paths. -/
def present (baseline : Baseline) (disk : Disk) : List Path :=
  baseline.changes.removed.filter fun path => disk.isOccupied (baseline.runner.folder.join path)

/-- A tree is brought back, and git is told to remove all files of the baseline that are present. -/
def ClearsLeftovers (baseline : Baseline) (tree : String) (start accepted : Machine σ) : Prop :=
  ∃ after, (baseline.bringBack tree).runOn start = (.ok (), after) ∧
    ToldToRemove baseline.runner (baseline.present accepted.disk) accepted after

theorem removeArgs_injective : Function.Injective removeArgs := by
  intro paths other h
  have htexts : paths.map (·.text) = other.map (·.text) := by
    simpa only [removeArgs, List.cons.injEq, true_and] using h
  have hpath : Function.Injective Path.text := fun _ _ htext => congrArg Path.mk htext
  exact hpath.list_map htexts

/-- The calls tell what git was told. -/
theorem ToldToRemove.unique {runner : Runner} {paths other : List Path}
    {before after : Machine σ} (h : ToldToRemove runner paths before after)
    (hother : ToldToRemove runner other before after) : paths = other := by
  cases h with
  | nothing none calls =>
      cases hother with
      | nothing noneOther => rw [none, noneOther]
      | once _ callsOther =>
          rw [calls, List.self_eq_append_right] at callsOther
          cases callsOther
  | once _ calls _ args =>
      cases hother with
      | nothing _ callsOther =>
          rw [calls, List.append_right_eq_self] at callsOther
          cases callsOther
      | once _ callsOther _ argsOther =>
          rw [calls] at callsOther
          obtain rfl := List.singleton_inj.mp (List.append_cancel_left callsOther)
          exact removeArgs_injective (args.symm.trans argsOther)

variable {baseline : Baseline} {tree : String} {start accepted : Machine σ}

/-- What git is told to remove is what is left. -/
theorem clearsLeftovers_iff_present_eq (h : Accepts baseline.runner tree start accepted) :
    ClearsLeftovers baseline tree start accepted ↔
      baseline.present accepted.disk = baseline.left accepted.disk := by
  obtain ⟨after, hremove, htold⟩ := baseline.exists_toldToRemove_left Trouble accepted
  have hrun : (baseline.bringBack tree).runOn start = (.ok (), after) :=
    bringBack_eq_ok_iff.mpr ⟨accepted, checkOutTree_eq_ok_iff.mpr h, hremove⟩
  constructor
  · rintro ⟨other, hother, hall⟩
    obtain rfl := (Prod.mk.inj (hrun.symm.trans hother)).2
    exact hall.unique htold
  · intro heq
    exact ⟨after, hrun, heq ▸ htold⟩

/-- What is present counts as left if its path leads there. -/
theorem present_eq_left_iff {disk : Disk} :
    baseline.present disk = baseline.left disk ↔
      ∀ path ∈ baseline.changes.removed,
        disk.isOccupied (baseline.runner.folder.join path) = true →
          (baseline.runner.folder.join path).text.utf8ByteSize ≤ Tree.longestPath ∧
            disk.isDangling (baseline.runner.folder.join path) = false := by
  constructor
  · intro h path hremoved hoccupied
    have hleft : path ∈ baseline.left disk := h ▸ List.mem_filter.mpr ⟨hremoved, hoccupied⟩
    obtain ⟨⟨-, hlength⟩, hstill⟩ := Disk.leads_iff.mp (List.mem_filter.mp hleft).2
    exact ⟨hlength, hstill⟩
  · intro h
    refine List.filter_congr fun path hremoved => Bool.eq_iff_iff.mpr ?_
    rw [Disk.leads_iff]
    constructor
    · intro hoccupied
      obtain ⟨hlength, hstill⟩ := h path hremoved hoccupied
      exact ⟨⟨hoccupied, hlength⟩, hstill⟩
    · exact fun hleads => hleads.1.1

/--
When git has accepted a tree, it is told to remove just the files that are present, if and only if
none of these has a path that is too long or is a link that leads nowhere.
-/
theorem clearsLeftovers_iff (h : Accepts baseline.runner tree start accepted) :
    ClearsLeftovers baseline tree start accepted ↔
      ∀ path ∈ baseline.changes.removed,
        accepted.disk.isOccupied (baseline.runner.folder.join path) = true →
          (baseline.runner.folder.join path).text.utf8ByteSize ≤ Tree.longestPath ∧
            accepted.disk.isDangling (baseline.runner.folder.join path) = false :=
  (clearsLeftovers_iff_present_eq h).trans present_eq_left_iff

/-- A baseline before three files were removed. -/
def beforeRemoval : Baseline :=
  ⟨⟨"git", ⟨"/"⟩, 1000⟩, "main", ⟨""⟩, ⟨[], [], [⟨"gone"⟩, ⟨"old"⟩, ⟨"alias"⟩], []⟩, ⟨[]⟩⟩

/-- A machine on which two of them are left over, the second as a link; git is always successful. -/
def leaving (target : Path) : Machine Script :=
  ⟨.scripted, ⟨["git"], [], []⟩,
    ⟨⟨[(["alias"], .link target), (["old"], .file (.text "old\n"))]⟩, []⟩, [], []⟩

theorem exists_accepts_leaving (target : Path) :
    ∃ accepted, Accepts beforeRemoval.runner "T" (leaving target) accepted ∧
      accepted.disk = (leaving target).disk := by
  obtain ⟨calls, hstart⟩ := @Runner.exists_startOn_eq Script beforeRemoval.runner
    (checkoutArgs "T") (leaving target) [] (.exited 0) [] [] (leaving target).disk
    ⟨["git"], [], []⟩ (by decide) rfl rfl
  exact ⟨_, .checkedOut (Runner.runAnyway_eq_ok_iff.mpr ⟨_, _, _, hstart, rfl⟩) rfl, rfl⟩

theorem clearsLeftovers_iff_leaving :
    ∃ accepted, Accepts beforeRemoval.runner "T" (leaving ⟨"old"⟩) accepted ∧
      ClearsLeftovers beforeRemoval "T" (leaving ⟨"old"⟩) accepted ∧
      beforeRemoval.present accepted.disk = [⟨"old"⟩, ⟨"alias"⟩] := by
  obtain ⟨accepted, haccepts, hdisk⟩ := exists_accepts_leaving ⟨"old"⟩
  refine ⟨accepted, haccepts, (clearsLeftovers_iff haccepts).mpr ?_, ?_⟩
  · rw [hdisk]
    decide +kernel
  · rw [hdisk]
    decide +kernel

/-- A link that leads nowhere is left over. -/
theorem not_forall_clearsLeftovers :
    ¬∀ (σ : Type) (baseline : Baseline) (tree : String) (start accepted : Machine σ),
      Accepts baseline.runner tree start accepted →
        ClearsLeftovers baseline tree start accepted := by
  intro h
  obtain ⟨accepted, haccepts, hdisk⟩ := exists_accepts_leaving ⟨"gone"⟩
  have hall := (clearsLeftovers_iff_present_eq haccepts).mp
    (h Script beforeRemoval "T" (leaving ⟨"gone"⟩) accepted haccepts)
  rw [hdisk] at hall
  revert hall
  decide +kernel

end Remedy.Baseline
