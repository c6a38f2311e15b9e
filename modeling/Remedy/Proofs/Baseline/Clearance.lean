import Remedy.Proofs.Baseline.Steps
import Remedy.Proofs.Git.Repository

/-!
# What it takes to begin a swap

A baseline is made, and a swap of it is begun, only if git lists no tracked file as pending and no
untracked file under a path that differs.  In a repository this says that the working tree holds
the files of the index, and that nothing else stands, unless git ignores it, where the changes of
the baseline say that a file is missing.
-/

namespace Remedy

namespace PathSet

theorem replace_ne_nil (path : Path) (set : PathSet) : replace path set ≠ [] := by
  cases set with
  | nil => exact List.cons_ne_nil _ _
  | cons first rest =>
      rw [replace]
      split <;> exact List.cons_ne_nil _ _

/-- A set is empty just if it is made of no path. -/
theorem ofList_eq_nil_iff {paths : List Path} : ofList paths = [] ↔ paths = [] := by
  constructor
  · intro h
    cases paths using List.reverseRecOn with
    | nil => rfl
    | append_singleton front path =>
        rw [ofList, List.foldl_append] at h
        exact absurd h (replace_ne_nil _ _)
  · rintro rfl
    rfl

end PathSet

namespace Baseline

open Git (Runner Pending Difference Contents Repository)

/-- The check passes just if nothing tracked is pending and no path that differs is untracked. -/
theorem check_eq_ok_iff {baseline : Baseline} {pending : Pending} :
    baseline.check pending = .ok () ↔ pending.tracked = [] ∧
      ∀ path ∈ baseline.changes.paths, ∀ untracked ∈ pending.untracked,
        (baseline.place.join path).same untracked = false := by
  unfold check conflicts
  by_cases htracked : pending.tracked = []
  · rw [if_neg (not_not.mpr htracked)]
    dsimp only
    by_cases hconflicts : PathSet.ofList (baseline.changes.paths.filter fun path =>
        pending.untracked.any fun untracked => (baseline.place.join path).same untracked) = []
    · rw [if_neg (not_not.mpr hconflicts)]
      rw [PathSet.ofList_eq_nil_iff, List.filter_eq_nil_iff] at hconflicts
      simpa [htracked] using hconflicts
    · rw [if_pos hconflicts]
      rw [PathSet.ofList_eq_nil_iff, List.filter_eq_nil_iff] at hconflicts
      simpa [htracked] using hconflicts
  · simp [htracked]

/-- At the top of a repository, paths are what they are. -/
theorem place_join (path : Path) : (⟨""⟩ : Path).join path = path := by
  unfold Path.join
  split
  · rfl
  · simp

variable {σ : Type}

/-- What a baseline knows of a repository, if it was made when the disk was as given. -/
structure Describes (repo : Repository σ) (baseline : Baseline) (disk : Disk) : Prop where
  reference : baseline.reference = repo.reference
  place : baseline.place = ⟨""⟩
  changes : ∃ differences, Repository.Compares repo.base repo.original differences ∧
    baseline.changes = .ofList disk baseline.runner.folder (differences.map Difference.change)

/-- The paths that differ are about files. -/
theorem Describes.isWay {repo : Repository σ} {baseline : Baseline} {disk : Disk}
    (h : Describes repo baseline disk)
    (hways : ∀ names, (repo.base names).isSome ∨ (repo.original names).isSome → IsWay names)
    {path : Path} (hpath : path ∈ baseline.changes.paths) :
    ∃ names, IsWay names ∧ path = .ofNames names := by
  obtain ⟨differences, hcompares, hchanges⟩ := h.changes
  rw [hchanges, Git.Changes.paths, List.mem_append, List.mem_append, List.mem_append,
    Git.Changes.mem_added_ofList, Git.Changes.mem_modified_ofList,
    Git.Changes.mem_removed_ofList, Git.Changes.unmerged_ofList] at hpath
  rcases hpath with ((hadded | hmodified) | hremoved) | hunmerged
  · obtain ⟨difference, hmem, -, names, hgained, rfl⟩ := hadded
    have hfound := (hcompares.gained names).mp ⟨difference, hmem, hgained⟩
    exact ⟨names, hways names (.inr hfound.2), rfl⟩
  · obtain ⟨difference, hmem, -, names, hkept, rfl⟩ := hmodified
    obtain ⟨old, new, hold, -, -⟩ := (hcompares.kept names).mp ⟨difference, hmem, hkept⟩
    exact ⟨names, hways names (.inl (Option.isSome_of_eq_some hold)), rfl⟩
  · obtain ⟨difference, hmem, -, names, hlost, rfl⟩ := hremoved
    have hfound := (hcompares.lost names).mp ⟨difference, hmem, hlost⟩
    exact ⟨names, hways names (.inl hfound.1), rfl⟩
  · cases hunmerged

/-- Nothing stands in the way of a swap. -/
structure Clear (repo : Repository σ) (baseline : Baseline) (machine : Machine σ) : Prop where
  same : ∀ names, ¬repo.Differs machine.disk machine.memory names
  free : ∀ names, .ofNames names ∈ baseline.changes.paths →
    (machine.disk.standing repo.top names).isSome → repo.index machine.memory names = none →
    repo.ignores machine.memory machine.disk names

theorem Clear.of_stays {repo : Repository σ} {baseline : Baseline} {machine after : Machine σ}
    (h : Clear repo baseline machine) (hstays : repo.Stays machine after) :
    Clear repo baseline after := by
  obtain ⟨hsame, hfree⟩ := h
  constructor
  · simpa only [Repository.Differs, hstays.disk, hstays.index] using hsame
  · rw [hstays.disk, hstays.index, hstays.ignores]
    exact hfree

/-- The check of what git lists passes just if nothing stands in the way. -/
theorem check_listing_eq_ok_iff {repo : Repository σ} {baseline : Baseline}
    {machine : Machine σ} {items : List Pending.Item} (hplace : baseline.place = ⟨""⟩)
    (hways : ∀ path ∈ baseline.changes.paths, ∃ names, IsWay names ∧ path = .ofNames names)
    (hlists : repo.Lists machine.disk machine.memory items) :
    baseline.check (.parse (String.ofList (Pending.Item.listing items))) = .ok () ↔
      Clear repo baseline machine := by
  have hlisted : ∀ names, Pending.Item.untracked names ∈ items → IsWay names := by
    intro names hmem
    cases hlists.writable _ hmem with
    | untracked h => exact h
  rw [check_eq_ok_iff, Pending.tracked_parse_eq_nil_iff hlists.writable, hplace]
  simp only [place_join]
  constructor
  · rintro ⟨htracked, hfree⟩
    constructor
    · intro names hdiffers
      obtain ⟨item, hmem, htracks⟩ := (hlists.tracked names).mpr hdiffers
      obtain ⟨other, rfl⟩ := htracked item hmem
      exact htracks
    · intro names hpath hstands hindex
      by_contra hignored
      have hmem := (hlists.untracked names).mpr ⟨hstands, hindex, hignored⟩
      have hdiffers := hfree _ hpath (.ofNames names)
        ((Pending.mem_untracked_parse hlists.writable).mpr ⟨names, hmem, rfl⟩)
      rw [(Path.same_ofNames_iff (hlisted names hmem) (hlisted names hmem)).mpr rfl] at hdiffers
      cases hdiffers
  · rintro ⟨hsame, hfree⟩
    constructor
    · intro item hmem
      cases item with
      | untracked names => exact ⟨names, rfl⟩
      | tracked x y names =>
          exact absurd ((hlists.tracked names).mp ⟨_, hmem, rfl⟩) (hsame names)
      | moved x y names origin =>
          exact absurd ((hlists.tracked names).mp ⟨_, hmem, .inl rfl⟩) (hsame names)
    · intro path hpath untracked huntracked
      obtain ⟨names, hmem, rfl⟩ := (Pending.mem_untracked_parse hlists.writable).mp huntracked
      obtain ⟨own, hown, rfl⟩ := hways path hpath
      obtain ⟨hstands, hindex, hignored⟩ := (hlists.untracked names).mp hmem
      rw [← Bool.not_eq_true, Path.same_ofNames_iff hown (hlisted names hmem)]
      rintro rfl
      exact hignored (hfree own hpath hstands hindex)

/-!
## Making a baseline and recording the tree
-/

section Machine

variable {repo : Repository σ} {runner : Runner} {machine : Machine σ} {index : Contents}
  {standing : Location → Option Node}

/-- Reading the pending files, one finds what git lists. -/
theorem exists_readPending (h : repo.Shows runner machine index standing) :
    ∃ items after, (readPending runner).runOn machine =
        (.ok (.parse (String.ofList (Pending.Item.listing items))), after) ∧
      repo.Stays machine after ∧ repo.Lists machine.disk machine.memory items := by
  obtain ⟨ending, text, err, after, hrun, hstays, -, items, rfl, hlists⟩ :=
    h.exists_run_of_tells h.serves.status (by decide) fun _ _ htold => htold.1
  exact ⟨items, after, readPending_eq_ok_iff.mpr ⟨_, hrun, rfl⟩, hstays, hlists⟩

/-- The tree is recorded, since nothing stands in the way. -/
theorem exists_record {baseline : Baseline}
    (h : repo.Shows baseline.runner machine repo.original standing)
    (hplace : baseline.place = ⟨""⟩)
    (hways : ∀ path ∈ baseline.changes.paths, ∃ names, IsWay names ∧ path = .ofNames names)
    (hclear : Clear repo baseline machine) :
    ∃ recorded, baseline.record.runOn machine = (.ok repo.tree, recorded) ∧
      repo.Stays machine recorded := by
  obtain ⟨items, checked, hread, hchecked, hlists⟩ := exists_readPending h
  have hafter := h.of_stays hchecked
  obtain ⟨ending, text, err, recorded, hrun, hrecorded, htold⟩ :=
    hafter.exists_run_of_tells hafter.serves.write (by decide)
      fun _ _ htold => (htold hafter.index).1
  have hcheck := (check_listing_eq_ok_iff hplace hways hlists).mpr hclear
  refine ⟨recorded, record_eq_ok_iff.mpr ⟨_, checked, hread, hcheck, ?_⟩,
    hchecked.trans hrecorded⟩
  refine Runner.ask_eq_ok_iff.mpr ⟨_, hrun, ?_⟩
  rw [String.toList_ofList, (htold hafter.index).2, String.ofList_toList]

end Machine

/-- A baseline that was made in a repository. -/
structure Made (repo : Repository σ) (baseline : Baseline) (machine : Machine σ) : Prop where
  shows : repo.Shows baseline.runner machine repo.original (machine.disk.standing repo.top)
  describes : Describes repo baseline machine.disk
  clear : Clear repo baseline machine

/-- Making a baseline changes nothing, and it describes the repository as it is. -/
theorem made_of_ofReference {repo : Repository σ} {runner : Runner} {start ready : Machine σ}
    {baseline : Baseline} (hosts : repo.Hosts runner start)
    (h : (ofReference runner repo.reference).runOn start = (.ok baseline, ready)) :
    baseline.runner = runner ∧ repo.Stays start ready ∧ Made repo baseline ready := by
  obtain ⟨known, found, place, placed, changes, compared, pending, hknown, -, hplace, hchanges,
    hpending, rfl, hcheck⟩ := ofReference_eq_ok_iff.mp h
  have hstart := hosts.shows hknown
  have hcommit : '\x00' ∉ (repo.reference ++ "^\x7bcommit\x7d").toList := by
    rw [String.toList_append, List.mem_append]
    rintro (hnul | hnul)
    · exact hstart.free.2 hnul
    · exact absurd hnul (by decide)
  -- what git is asked first changes nothing, and the folder is at the top
  obtain ⟨_, _, _, _, hrun, hfound, -⟩ :=
    hstart.exists_runAnyway_of_tells hstart.serves.known (by simpa using hcommit)
  obtain ⟨rfl, rfl⟩ := Task.ok_unique hknown hrun
  have hfound' := hstart.of_stays hfound
  obtain ⟨output, hasked, hplace⟩ := Runner.ask_eq_ok_iff.mp hplace
  obtain ⟨_, text, _, _, hrun, hplaced, -, hblank⟩ := hfound'.exists_run_of_tells
    hfound'.serves.place (by decide) fun _ _ htold => htold.1
  obtain ⟨rfl, rfl⟩ := Task.ok_unique hasked hrun
  rw [String.toList_ofList, hblank] at hplace
  -- the changes are read from what it lists as differences
  have hplaced' := hfound'.of_stays hplaced
  obtain ⟨output, hlisted, hchanges⟩ := readChanges_eq_ok_iff.mp hchanges
  obtain ⟨_, _, _, _, hrun, hcompared, -, differences, rfl, hcompares⟩ :=
    hplaced'.exists_run_of_tells hplaced'.serves.diff
      (Repository.free_diffArgs hstart.free.2) fun _ _ htold => htold.1
  obtain ⟨rfl, rfl⟩ := Task.ok_unique hlisted hrun
  have hdisk : compared.disk = start.disk := (hfound.trans (hplaced.trans hcompared)).disk
  rw [hdisk, Difference.parse_listing hcompares.writable] at hchanges
  rw [hplaced'.index] at hcompares
  have hdescribes : Describes repo ⟨runner, repo.reference, ⟨place⟩, changes, pending⟩
      start.disk := ⟨rfl, by rw [hplace], differences, hcompares, hchanges⟩
  -- the pending files have passed the check
  have hcompared' := hplaced'.of_stays hcompared
  obtain ⟨items, _, hread, hready, hlists⟩ := exists_readPending hcompared'
  obtain ⟨rfl, rfl⟩ := Task.ok_unique hpending hread
  have hclear := (check_listing_eq_ok_iff hdescribes.place (fun path hpath =>
    hdescribes.isWay (fun names hnames => hstart.serves.isWay names
      (hnames.imp_right .inr)) hpath) hlists).mp hcheck
  have hstays := hfound.trans (hplaced.trans (hcompared.trans hready))
  have hshows := hcompared'.of_stays hready
  rw [← hstays.disk] at hshows hdescribes
  exact ⟨rfl, hstays, hshows, hdescribes, hclear.of_stays hready⟩

end Baseline

end Remedy
