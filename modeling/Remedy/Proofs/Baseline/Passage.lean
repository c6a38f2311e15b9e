import Remedy.Proofs.Baseline.Clearance

/-!
# A swap as a passage of states

What the index and the working tree hold while a swap goes on: without the added files, with the
files of the reference over them, with the original files over these, and without the removed
files that are left.
-/

namespace Remedy

namespace Disk

/-- A file can be removed at some names, or has been: there is a folder to hold it. -/
def Removable (disk : Disk) (top names : Location) : Prop :=
  ∃ front name, names = front ++ [name] ∧ name.utf8ByteSize ≤ Tree.longestName ∧
    disk.tree.get? (top ++ front) = some .folder ∧
    (disk.tree.get? (top ++ names) = none ∨
      ∃ content, disk.tree.get? (top ++ names) = some (.file content))

variable {disk : Disk} {top names : Location}

theorem removable_of_file (hsound : disk.tree.Sound top) (hne : names ≠ []) {content : Content}
    (hget : disk.tree.get? (top ++ names) = some (.file content)) :
    disk.Removable top names := by
  obtain ⟨front, name, rfl⟩ : ∃ front name, names = front ++ [name] :=
    ⟨_, _, (List.dropLast_concat_getLast hne).symm⟩
  exact ⟨front, name, rfl, (hsound.name_of_concat _ _ _ hget).2,
    hsound.folder_of_concat _ _ _ hget, .inr ⟨content, hget⟩⟩

/-- Removing one file makes no other one irremovable. -/
theorem Removable.erase {others : Location} (h : disk.Removable top others) (hne : names ≠ [])
    (hget : disk.tree.get? (top ++ names) ≠ some .folder) :
    Disk.Removable { disk with tree := disk.tree.erase (top ++ names) } top others := by
  obtain ⟨front, name, rfl, hlength, hfolder, hstands⟩ := h
  have hlocation : top ++ names ≠ [] := List.append_ne_nil_of_right_ne_nil _ hne
  refine ⟨front, name, rfl, hlength, ?_, ?_⟩
  · refine (Tree.get?_erase _ hlocation _).trans ?_
    rw [if_neg, hfolder]
    intro heq
    rw [heq] at hfolder
    exact hget hfolder
  · dsimp only
    rw [Tree.get?_erase _ hlocation]
    split
    · exact .inl rfl
    · exact hstands

end Disk

namespace Baseline

open Git (Runner Difference Contents Repository Apart overlay without)

variable {σ : Type} {repo : Repository σ}

section Removal

variable {runner : Runner} {machine : Machine σ} {index : Contents}
  {standing : Location → Option Node} {names : Location}

/-- A file whose path is too long is not removed, and this ends the removal. -/
theorem runOn_removeFile_of_not_fits (h : repo.Shows runner machine index standing)
    (hnames : IsWay names) (hremovable : machine.disk.Removable repo.top names)
    (hfits : ¬Disk.Fits runner.folder names) :
    ∃ trouble, (removeFile runner.folder (.ofNames names)).runOn machine =
      (.error trouble, machine) := by
  obtain ⟨front, name, rfl, hlength, hfolder, hnone | ⟨content, hfile⟩⟩ := hremovable
  · rw [runOn_removeFile, Disk.remove_join_of_vacant h.orderly.sound h.moored.resolve hnames
      hlength hfolder hnone, if_neg hfits]
    exact ⟨_, rfl⟩
  · rw [runOn_removeFile, Disk.remove_join_of_file h.orderly.sound h.moored.resolve hnames hfile,
      if_neg hfits]
    exact ⟨_, rfl⟩

/-- A file whose path is not too long is removed, if it is there. -/
theorem exists_removeFile (h : repo.Shows runner machine index standing)
    (hnames : IsWay names) (hremovable : machine.disk.Removable repo.top names)
    (hfits : Disk.Fits runner.folder names) :
    ∃ after, (removeFile runner.folder (.ofNames names)).runOn machine = (.ok (), after) ∧
      repo.Shows runner after index (without standing [names]) ∧
      ∀ others, machine.disk.Removable repo.top others →
        after.disk.Removable repo.top others := by
  obtain ⟨front, name, rfl, hlength, hfolder, hnone | ⟨content, hfile⟩⟩ := hremovable
  · rw [runOn_removeFile, Disk.remove_join_of_vacant h.orderly.sound h.moored.resolve hnames
      hlength hfolder hnone, if_pos hfits]
    refine ⟨machine, rfl, ⟨h.serves, h.free, h.moored, h.orderly, h.index, ?_⟩, fun _ => id⟩
    funext others
    rw [h.standing]
    unfold without
    split
    · rename_i hmem
      rw [List.mem_singleton.mp hmem, ← h.standing, Disk.standing, hnone]
      rfl
    · rfl
  · rw [runOn_removeFile, Disk.remove_join_of_file h.orderly.sound h.moored.resolve hnames hfile,
      if_pos hfits]
    have hnode : machine.disk.tree.get? (repo.top ++ (front ++ [name])) ≠ some .folder := by
      rw [hfile]
      simp
    refine ⟨_, rfl, ⟨h.serves, h.free,
      h.moored.of_sameBeside (Disk.sameBeside_erase _ _ hnames.ne_nil),
      ⟨h.orderly.sound.erase hnames.ne_nil hnode, h.orderly.isWay⟩, h.index, ?_⟩,
      fun others hothers => hothers.erase hnames.ne_nil hnode⟩
    funext others
    rw [Disk.standing_erase _ _ hnames.ne_nil, h.standing, without]
    simp only [List.mem_singleton]

/-- Files are removed one after the other, if no path is too long. -/
theorem exists_removeFiles (h : repo.Shows runner machine index standing) {gone : List Location}
    (hgone : ∀ names ∈ gone, IsWay names ∧ machine.disk.Removable repo.top names)
    (hfits : ∀ names ∈ gone, Disk.Fits runner.folder names) :
    ∃ after, (removeFiles runner.folder (gone.map .ofNames)).runOn machine = (.ok (), after) ∧
      repo.Shows runner after index (without standing gone) := by
  induction gone generalizing machine standing with
  | nil => exact ⟨machine, rfl, by rwa [Git.without_nil]⟩
  | cons names rest ih =>
      obtain ⟨hnames, hremovable⟩ := hgone names List.mem_cons_self
      obtain ⟨removed, hfirst, hshows, hkeeps⟩ :=
        exists_removeFile h hnames hremovable (hfits names List.mem_cons_self)
      obtain ⟨after, hrest, hafter⟩ := ih hshows
        (fun others hothers =>
          have hother := hgone others (List.mem_cons_of_mem _ hothers)
          ⟨hother.1, hkeeps others hother.2⟩)
        (fun others hothers => hfits others (List.mem_cons_of_mem _ hothers))
      refine ⟨after, ?_, ?_⟩
      · rw [List.map_cons, removeFiles, Task.runOn_bind_of_ok hfirst, hrest]
      · rwa [Git.without_cons] at hafter

/-- Files are not removed if a path is too long. -/
theorem exists_removeFiles_eq_error (h : repo.Shows runner machine index standing)
    {gone : List Location}
    (hgone : ∀ names ∈ gone, IsWay names ∧ machine.disk.Removable repo.top names)
    (hfits : ¬∀ names ∈ gone, Disk.Fits runner.folder names) :
    ∃ trouble after, (removeFiles runner.folder (gone.map .ofNames)).runOn machine =
      (.error trouble, after) := by
  induction gone generalizing machine standing with
  | nil => exact absurd (fun _ hmem => absurd hmem List.not_mem_nil) hfits
  | cons names rest ih =>
      obtain ⟨hnames, hremovable⟩ := hgone names List.mem_cons_self
      rw [List.map_cons, removeFiles]
      by_cases hfirst : Disk.Fits runner.folder names
      · obtain ⟨removed, hrun, hshows, hkeeps⟩ := exists_removeFile h hnames hremovable hfirst
        rw [Task.runOn_bind_of_ok hrun]
        refine ih hshows (fun others hothers => ?_) fun hall => hfits fun others hothers => ?_
        · have hother := hgone others (List.mem_cons_of_mem _ hothers)
          exact ⟨hother.1, hkeeps others hother.2⟩
        · rcases List.mem_cons.mp hothers with rfl | hlater
          · exact hfirst
          · exact hall others hlater
      · obtain ⟨trouble, hrun⟩ := runOn_removeFile_of_not_fits h hnames hremovable hfirst
        exact ⟨trouble, machine, Task.runOn_bind_of_error hrun⟩

end Removal

/-!
## Into the baseline
-/

section Swap

variable {baseline : Baseline} {machine : Machine σ} {index : Contents}
  {standing : Location → Option Node}

/-- The files of the reference are brought in where the added files have been removed. -/
theorem exists_checkOut (h : repo.Shows baseline.runner machine index standing)
    (hreference : baseline.reference = repo.reference) {gone : List Location}
    (hadded : baseline.changes.added = gone.map .ofNames)
    (hgone : ∀ names ∈ gone, IsWay names ∧ machine.disk.Removable repo.top names)
    (hfits : ∀ names ∈ gone, Disk.Fits baseline.runner.folder names)
    (hsome : ∃ names, (repo.target names).isSome)
    (hapart : Apart fun names => (repo.target names).isSome ∨ (index names).isSome ∨
      (standing names).isSome) :
    ∃ after, baseline.checkOut.runOn machine = (.ok (), after) ∧
      repo.Shows baseline.runner after (overlay repo.target index)
        (overlay repo.target.nodes (without standing gone)) := by
  obtain ⟨removed, hremove, hshows⟩ := exists_removeFiles h hgone hfits
  obtain ⟨output, after, hrun, hending, hafter⟩ :=
    hshows.exists_runAnyway_checkout h.free.2 hshows.serves.checkout_reference hsome
      (hapart.mono fun names => Or.imp_right (Or.imp_right Git.isSome_of_without))
  rw [← hadded] at hremove
  have hgood : (baseline.runner.run (checkoutArgs repo.reference)).runOn removed =
      (.ok output, after) :=
    Runner.run_eq_ok_iff.mpr ⟨hrun, Runner.isSuccess_iff.mpr hending⟩
  exact ⟨after, by rw [runOn_checkOut_of_ok hremove, hreference, hgood], hafter⟩

/-- Nothing is brought in if the path of an added file is too long, or the reference is empty. -/
theorem exists_checkOut_eq_error (h : repo.Shows baseline.runner machine index standing)
    (hreference : baseline.reference = repo.reference) {gone : List Location}
    (hadded : baseline.changes.added = gone.map .ofNames)
    (hgone : ∀ names ∈ gone, IsWay names ∧ machine.disk.Removable repo.top names)
    (hbad : (¬∀ names ∈ gone, Disk.Fits baseline.runner.folder names) ∨
      ∀ names, repo.target names = none) :
    ∃ trouble after, baseline.checkOut.runOn machine = (.error trouble, after) := by
  by_cases hfits : ∀ names ∈ gone, Disk.Fits baseline.runner.folder names
  · obtain ⟨removed, hremove, hshows⟩ := exists_removeFiles h hgone hfits
    rw [← hadded] at hremove
    obtain ⟨output, after, hrun, hfails, -⟩ := hshows.exists_runAnyway_checkout_empty h.free.2
      hshows.serves.checkout_reference (hbad.resolve_left (not_not.mpr hfits))
    rw [← hreference] at hrun
    rw [runOn_checkOut_of_ok hremove]
    rcases hanswer : (baseline.runner.run (checkoutArgs baseline.reference)).runOn removed with
      ⟨result, left⟩
    cases result with
    | error failure => exact ⟨_, _, rfl⟩
    | ok found =>
        obtain ⟨hanyway, hsuccess⟩ := Runner.run_eq_ok_iff.mp hanswer
        obtain ⟨rfl, rfl⟩ := Task.ok_unique hrun hanyway
        rw [hfails] at hsuccess
        cases hsuccess
  · obtain ⟨trouble, removed, hremove⟩ := exists_removeFiles_eq_error h hgone hfits
    rw [← hadded] at hremove
    exact ⟨trouble, removed, runOn_checkOut_of_error hremove⟩

/-!
## Back from the baseline
-/

/-- Git accepts the recorded tree, even if it is empty. -/
theorem exists_accepts (h : repo.Shows baseline.runner machine index standing)
    (hapart : Apart fun names => (repo.original names).isSome ∨ (index names).isSome ∨
      (standing names).isSome) :
    ∃ after, Accepts baseline.runner repo.tree machine after ∧
      repo.Shows baseline.runner after (overlay repo.original index)
        (overlay repo.original.nodes standing) := by
  have hfree := h.serves.tree_free
  by_cases hsome : ∃ names, (repo.original names).isSome
  · obtain ⟨output, after, hrun, hending, hafter⟩ :=
      h.exists_runAnyway_checkout hfree h.serves.checkout_tree hsome hapart
    exact ⟨after, .checkedOut hrun (Runner.isSuccess_iff.mpr hending), hafter⟩
  · have hnone : ∀ names, repo.original names = none := fun names =>
      Option.not_isSome_iff_eq_none.mp fun hnames => hsome ⟨names, hnames⟩
    obtain ⟨output, refused, hrun, hfails, hrefused⟩ :=
      h.exists_runAnyway_checkout_empty hfree h.serves.checkout_tree hnone
    obtain ⟨ending, text, err, after, hlist, hstays, -, names, rfl, hnames⟩ :=
      hrefused.exists_run_of_tells hrefused.serves.list (Repository.free_listArgs hfree)
        fun _ _ htold => htold.1
    obtain rfl : names = [] := by
      refine List.eq_nil_iff_forall_not_mem.mpr fun name hname => ?_
      obtain ⟨rest, hrest⟩ := (hnames name).mp hname
      exact hsome ⟨_, hrest⟩
    have hindex : overlay repo.original index = index := by
      funext names
      simp [overlay, hnone]
    have hstanding : overlay repo.original.nodes standing = standing := by
      funext names
      simp [overlay, Git.Contents.nodes, hnone]
    rw [hindex, hstanding]
    refine ⟨after, .empty hrun hfails hlist ?_, hrefused.of_stays hstays⟩
    rfl

/-- What is left of the files that have come with the baseline is removed. -/
theorem exists_removeLeft (h : repo.Shows baseline.runner machine index standing)
    {gone : List Location} (hleft : baseline.left machine.disk = gone.map .ofNames)
    (hgone : ∀ names ∈ gone, (index names).isSome)
    (hapart : Apart fun names => (index names).isSome ∨ (standing names).isSome) :
    ∃ after, (baseline.removeLeft : Task σ Trouble Unit).runOn machine = (.ok (), after) ∧
      repo.Shows baseline.runner after (without index gone) (without standing gone) := by
  obtain ⟨after, hrun, ⟨hnone, rfl⟩ | ⟨hsome, warnings, rfl⟩⟩ :=
    @runOn_removeLeft σ baseline Trouble machine
  · obtain rfl : gone = [] := List.map_eq_nil_iff.mp (hleft.symm.trans hnone)
    refine ⟨_, hrun, ?_⟩
    rwa [Git.without_nil, Git.without_nil]
  · have hne : gone ≠ [] := by
      rintro rfl
      exact hsome hleft
    obtain ⟨output, removed, hremove, -, hshows⟩ := h.exists_runAnyway_remove hne hgone hapart
    rw [← hleft] at hremove
    have hmachine := baseline.runner.snd_runOn_runAnyway
      (removeArgs (baseline.left machine.disk)) machine
    rw [hremove] at hmachine
    rw [← hmachine] at hrun
    exact ⟨_, hrun, hshows.of_stays ⟨rfl, rfl, rfl, rfl⟩⟩

end Swap

end Baseline

end Remedy
