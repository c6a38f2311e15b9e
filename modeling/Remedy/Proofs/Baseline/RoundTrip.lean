import Remedy.Proofs.Baseline.Return

/-!
# The round trip

Into the files of a commit that the current one descends from, and back.  While the swap lasts,
the paths of the index and of the commit hold the files of the commit, and nothing else has
changed; when it is over, the index and the working tree are what they were.  There are two ways
to miss this: a link to a folder that git does not track stands where the commit has a file, or a
path is too long for the system.
-/

namespace Remedy

namespace Baseline

open Git (Runner Repository Keeper overlay without)

variable {σ : Type}

/-- The working tree while a swap lasts. -/
structure HoldsReference (repo : Repository σ) (ready inside : Machine σ) : Prop where
  swapped : ∀ names, (repo.original names).isSome ∨ (repo.target names).isSome →
    inside.disk.standing repo.top names = repo.target.nodes names
  others : ∀ names, repo.original names = none → repo.target names = none →
    inside.disk.standing repo.top names = ready.disk.standing repo.top names

/--
A swap can be entered, and work in it that changes nothing that git keeps leaves everything as it
was before, whether the work comes to a result or breaks off.
-/
def RoundTrips (repo : Repository σ) (baseline : Baseline) (ready : Machine σ) : Prop :=
  ∃ swap inside, baseline.enter.runOn ready = (.ok swap, inside) ∧
    HoldsReference repo ready inside ∧
    ∀ {α : Type} (work : StateM (Machine σ) (Option α)),
      repo.Stays inside (work.run inside).2 →
      ∃ after, (baseline.runInside work).runOn ready = (.ok (work.run inside).1, after) ∧
        repo.index after.memory = repo.original ∧
        after.disk.standing repo.top = ready.disk.standing repo.top

section Passage

variable {repo : Repository σ} {baseline : Baseline} {ready : Machine σ}

/-- After work that changes nothing, the tree is brought back, even if the work has broken off. -/
theorem Made.exists_runInside (h : Made repo baseline ready) {swap : Swap} {inside : Machine σ}
    (henter : baseline.enter.runOn ready = (.ok swap, inside))
    (hbase : ∀ names, (repo.base names).isSome → repo.original names = none →
      (repo.target names).isSome)
    (hapart : repo.KeepsApart ready.disk)
    {α : Type} {work : StateM (Machine σ) (Option α)}
    (hwork : repo.Stays inside (work.run inside).2) :
    ∃ after, (baseline.runInside work).runOn ready = (.ok (work.run inside).1, after) ∧
      Returns repo baseline ready after := by
  obtain ⟨rfl, after, hback, hreturns⟩ :=
    h.exists_bringBack_of_enter henter hwork hbase hapart
  refine ⟨after, ?_, hreturns⟩
  rw [runOn_runInside_of_ok henter]
  rcases hrun : work.run inside with ⟨value?, outside⟩
  rw [hrun] at hback
  cases value? with
  | some value =>
      dsimp only
      rw [runOn_restore, hback]
  | none =>
      dsimp only
      rw [runOn_release, hback]

/-- Nothing stands where an original file is missing that the baseline knows. -/
theorem Made.standing_eq_none (h : Made repo baseline ready)
    (hignores : ∀ memory disk names, ¬repo.ignores memory disk names) {names : Location}
    (hbase : (repo.base names).isSome) (horiginal : repo.original names = none)
    (hlink : ¬LinksToFolder baseline ready names) :
    ready.disk.standing repo.top names = none := by
  by_contra hstands
  refine hignores _ _ _ (h.clear.free names ?_ (Option.isSome_iff_ne_none.mpr hstands) ?_)
  · have hremoved := (h.mem_removed_iff (h.isWay (.inl hbase))).mpr ⟨hbase, horiginal, hlink⟩
    simp [Git.Changes.paths, hremoved]
  · rw [h.shows.index, horiginal]

/-- What returns is what there was, if every file that has come with the baseline is dropped. -/
theorem Returns.unchanged {after : Machine σ} (h : Returns repo baseline ready after)
    (hmade : Made repo baseline ready)
    (hignores : ∀ memory disk names, ¬repo.ignores memory disk names)
    (hbase : repo.base = repo.target)
    (hdrops : ∀ names, (repo.target names).isSome → repo.original names = none →
      Drops repo baseline ready names) :
    repo.index after.memory = repo.original ∧
      after.disk.standing repo.top = ready.disk.standing repo.top := by
  rw [funext_iff, funext_iff, ← forall_and]
  intro names
  cases horiginal : repo.original names with
  | some content =>
      obtain ⟨hindex, hstanding⟩ := h.kept names (by simp [horiginal])
      rw [hindex, hstanding, hmade.standing_eq horiginal, Git.Contents.nodes, horiginal]
      exact ⟨rfl, rfl⟩
  | none =>
      cases htarget : repo.target names with
      | some content =>
          have hdrop := hdrops names (by simp [htarget]) horiginal
          rw [hmade.standing_eq_none hignores hdrop.1 horiginal hdrop.2.2.1]
          exact h.dropped names hdrop
      | none =>
          obtain ⟨hindex, hstanding⟩ := h.left names horiginal fun hdrop => by
            have hnames := hdrop.1
            rw [hbase, htarget] at hnames
            cases hnames
          rw [hindex, hstanding]
          simp [overlay, Git.Contents.nodes, htarget]

/-- If the index is what it was after some work, all that has come with the baseline is dropped. -/
theorem Made.drops_of_index (h : Made repo baseline ready) {swap : Swap} {inside : Machine σ}
    (henter : baseline.enter.runOn ready = (.ok swap, inside))
    (hbase : ∀ names, (repo.base names).isSome → repo.original names = none →
      (repo.target names).isSome)
    (hapart : repo.KeepsApart ready.disk)
    {α : Type} {work : StateM (Machine σ) (Option α)}
    (hwork : repo.Stays inside (work.run inside).2) {result : Option α} {after : Machine σ}
    (hrun : (baseline.runInside work).runOn ready = (.ok result, after))
    (hindex : repo.index after.memory = repo.original) {names : Location}
    (htarget : (repo.target names).isSome) (horiginal : repo.original names = none) :
    Drops repo baseline ready names := by
  obtain ⟨other, hother, hreturns⟩ := h.exists_runInside henter hbase hapart hwork
  obtain ⟨rfl, rfl⟩ := Task.ok_unique hother hrun
  by_contra hdrop
  have hleft := (hreturns.left names horiginal hdrop).1
  rw [hindex, horiginal] at hleft
  rw [← hleft] at htarget
  cases htarget

/-- With the added files gone, there are the files of the reference and the untracked ones. -/
theorem holdsReference_of_standing {inside : Machine σ} {gone : List Location}
    (hstanding : inside.disk.standing repo.top =
      overlay repo.target.nodes (without (ready.disk.standing repo.top) gone))
    (hgone : ∀ names ∈ gone, (repo.original names).isSome)
    (hall : ∀ names, (repo.original names).isSome → repo.target names = none → names ∈ gone) :
    HoldsReference repo ready inside where
  swapped := by
    intro names hnames
    rw [hstanding]
    cases htarget : repo.target names with
    | some content => simp [overlay, Git.Contents.nodes, htarget]
    | none =>
        have horiginal := hnames.resolve_right (by simp [htarget])
        simp [overlay, without, Git.Contents.nodes, htarget, hall names horiginal htarget]
  others := by
    intro names horiginal htarget
    have hstays : names ∉ gone := fun hnames => by
      have hfound := hgone names hnames
      rw [horiginal] at hfound
      cases hfound
    rw [hstanding]
    simp [overlay, without, Git.Contents.nodes, htarget, hstays]

end Passage

/--
The round trip succeeds just if no link to a folder stands where the commit has a file that the
index lacks, and if the paths of the files that come or go are not too long.
-/
theorem roundTrips_iff {repo : Repository σ} {runner : Runner} {start ready : Machine σ}
    {baseline : Baseline} (hosts : repo.Hosts runner start)
    (hready : (ofReference runner repo.reference).runOn start = (.ok baseline, ready))
    (hignores : ∀ memory disk names, ¬repo.ignores memory disk names)
    (hbase : repo.base = repo.target) (hsome : ∃ names, (repo.target names).isSome)
    (hapart : repo.KeepsApart ready.disk) :
    RoundTrips repo baseline ready ↔
      (∀ names, (repo.target names).isSome → repo.original names = none →
        ¬LinksToFolder baseline ready names ∧ Disk.Fits runner.folder names) ∧
      ∀ names, (repo.original names).isSome → repo.target names = none →
        Disk.Fits runner.folder names := by
  obtain ⟨rfl, -, hmade⟩ := made_of_ofReference hosts hready
  obtain ⟨gone, hadded, hgone⟩ := hmade.exists_added
  have hcomes : ∀ names, (repo.base names).isSome → repo.original names = none →
      (repo.target names).isSome := by
    rw [hbase]
    exact fun _ hnames _ => hnames
  have hall : (∀ names, (repo.target names).isSome → repo.original names = none →
      ¬LinksToFolder baseline ready names) → ∀ names, (repo.original names).isSome →
      repo.target names = none → names ∈ gone := by
    rw [← hbase]
    exact fun hlinks names horiginal hlacks => hmade.mem_gone hadded hgone hlinks hlacks horiginal
  constructor
  · rintro ⟨swap, inside, henter, -, hwork⟩
    obtain ⟨after, hrun, hindex, -⟩ := hwork (pure (some ())) (.refl inside)
    have hdrops : ∀ names, (repo.target names).isSome → repo.original names = none →
        Drops repo baseline ready names := fun _ =>
      hmade.drops_of_index henter hcomes hapart (.refl inside) hrun hindex
    refine ⟨fun names htarget horiginal => (hdrops names htarget horiginal).2.2, ?_⟩
    intro names horiginal htarget
    refine (hmade.of_enter hadded hgone henter).1 names (hall ?_ names horiginal htarget)
    exact fun other hother hlacks => (hdrops other hother hlacks).2.2.1
  · rintro ⟨hcome, hgo⟩
    have hlacks : ∀ names ∈ gone, repo.target names = none := fun names hnames => by
      rw [← hbase]
      exact (hgone names hnames).1
    obtain ⟨inside, henter, hinside⟩ := hmade.exists_enter hadded hgone
      (fun names hnames => hgo names (hgone names hnames).2 (hlacks names hnames)) hsome hapart
    refine ⟨_, inside, henter, holdsReference_of_standing hinside.standing
      (fun names hnames => (hgone names hnames).2)
      (hall fun names htarget horiginal => (hcome names htarget horiginal).1), ?_⟩
    intro α work hwork
    obtain ⟨after, hrun, hreturns⟩ := hmade.exists_runInside henter hcomes hapart hwork
    refine ⟨after, hrun, hreturns.unchanged hmade hignores hbase ?_⟩
    intro names htarget horiginal
    exact ⟨by rwa [hbase], horiginal, hcome names htarget horiginal⟩

/-- Since the commit one file has changed, one is gone and one has come. -/
def changed : Keeper where
  head := [(["keep.txt"], .text "now\n"), (["src", "new.txt"], .text "new\n")]
  base := [(["keep.txt"], .text "then\n"), (["old.txt"], .text "old\n")]
  target := [(["keep.txt"], .text "then\n"), (["old.txt"], .text "old\n")]
  original := [(["keep.txt"], .text "now\n"), (["src", "new.txt"], .text "new\n")]
  named := by decide +kernel

/-- The files of the index, and one that git does not track. -/
def changedEntries : List (Location × Node) :=
  [(["keep.txt"], .file (.text "now\n")), (["src", "new.txt"], .file (.text "new\n")),
    (["notes.txt"], .file (.text "mine\n"))]

theorem roundTrips_changed : ∃ baseline ready,
    (ofReference Keeper.runner "main").runOn (changed.machine changedEntries) =
        (.ok baseline, ready) ∧
      RoundTrips changed.repository baseline ready := by
  have htidy : changed.Tidy changedEntries := by decide +kernel
  obtain ⟨baseline, ready, hready, hrunner, hdisk, -, hapart⟩ :=
    exists_made htidy (by decide +kernel)
  have hlink : ¬LinksToFolder baseline ready ["old.txt"] := by
    rw [LinksToFolder, hrunner, hdisk]
    decide +kernel
  refine ⟨baseline, ready, hready,
    (roundTrips_iff (Keeper.hosts htidy) hready (fun _ _ _ => id) rfl ⟨["keep.txt"], rfl⟩
      hapart).mpr
      ⟨fun names htarget horiginal => ?_, fun names horiginal _ => ?_⟩⟩
  · have hmem : names ∈ [["keep.txt"], ["old.txt"]] := Git.isSome_contents_iff.mp htarget
    simp only [List.mem_cons, List.not_mem_nil, or_false] at hmem
    rcases hmem with rfl | rfl
    · cases horiginal
    · exact ⟨hlink, by decide +kernel⟩
  · have hfits : ∀ names ∈ [["keep.txt"], ["src", "new.txt"]],
        Disk.Fits Keeper.runner.folder names := by decide +kernel
    exact hfits names (Git.isSome_contents_iff.mp horiginal)

/-- A file of the commit is gone, and a link to a folder has taken its place. -/
def linked : Keeper where
  head := [(["keep.txt"], .text "k\n")]
  base := [(["keep.txt"], .text "k\n"), (["old"], .text "old\n")]
  target := [(["keep.txt"], .text "k\n"), (["old"], .text "old\n")]
  original := [(["keep.txt"], .text "k\n")]
  named := by decide +kernel

/-- The file of the index, and a folder with the link to it. -/
def linkedEntries : List (Location × Node) :=
  [(["keep.txt"], .file (.text "k\n")), (["dir", "x.txt"], .file (.text "x\n")),
    (["old"], .link ⟨"dir"⟩)]

/-- A round trip takes away the link, and leaves the file of the commit in the index. -/
theorem not_forall_roundTrips :
    ¬∀ (σ : Type) (repo : Repository σ) (runner : Runner) (start ready : Machine σ)
      (baseline : Baseline), repo.Hosts runner start →
      (ofReference runner repo.reference).runOn start = (.ok baseline, ready) →
      (∀ memory disk names, ¬repo.ignores memory disk names) →
      repo.base = repo.target → (∃ names, (repo.target names).isSome) →
      repo.KeepsApart ready.disk →
      RoundTrips repo baseline ready := by
  intro h
  have htidy : linked.Tidy linkedEntries := by decide +kernel
  obtain ⟨baseline, ready, hready, hrunner, hdisk, hmade, hapart⟩ :=
    exists_made htidy (by decide +kernel)
  have hlink : LinksToFolder baseline ready ["old"] := by
    rw [LinksToFolder, hrunner, hdisk]
    decide +kernel
  obtain ⟨swap, inside, henter, -, hwork⟩ := h Git.Stock linked.repository Keeper.runner
    (linked.machine linkedEntries) ready baseline (Keeper.hosts htidy) hready (fun _ _ _ => id) rfl
    ⟨["keep.txt"], rfl⟩ hapart
  obtain ⟨after, hrun, hindex, -⟩ := hwork (pure (some ())) (.refl inside)
  have hdrop := hmade.drops_of_index henter (fun _ hnames _ => hnames) hapart (.refl inside) hrun
    hindex (show (linked.repository.target ["old"]).isSome from rfl) rfl
  exact hdrop.2.2.1 hlink

end Baseline

end Remedy
