import Remedy.Proofs.Baseline.Return

/-!
# Files that git does not track

A swap brings in all files of the reference, but it was checked only that no untracked file
stands where the index and the merge base differ.  What is outside the index survives a swap just
if these two come to the same: each file that the reference brings in from outside the index is
one of the merge base too, and is removed in the end from a place where nothing had been, or the
very same file had been there and stays.
-/

namespace Remedy

namespace Baseline

open Git (Runner Repository Keeper overlay)

variable {σ : Type} {repo : Repository σ}

/-- What is outside the original index is as it was. -/
def SparesUntracked (repo : Repository σ) (ready after : Machine σ) : Prop :=
  ∀ names, repo.original names = none →
    after.disk.standing repo.top names = ready.disk.standing repo.top names

/-- No link leads from a name at which nothing stands, or that a file has. -/
theorem Made.not_linksToFolder {baseline : Baseline} {ready : Machine σ}
    (h : Made repo baseline ready) (hapart : repo.KeepsApart ready.disk)
    {names : Location} (htarget : (repo.target names).isSome)
    (hstands : ∀ link, ready.disk.standing repo.top names ≠ some (.link link)) :
    ¬LinksToFolder baseline ready names := by
  unfold LinksToFolder
  rw [Disk.isLinkToFolder_join_of_no_links h.shows.moored.resolve (h.isWay (.inr (.inl htarget)))]
  · exact Bool.false_ne_true
  · rintro front rest rfl link hlink
    have hfront : ready.disk.standing repo.top front = some (.link link) := by
      rw [Disk.standing, hlink]
      rfl
    obtain rfl := hapart front rest (.inr (.inr (by rw [hfront]; rfl))) (.inl htarget)
    rw [List.append_nil] at hstands
    exact hstands link hfront

/--
A swap that was entered and restored has spared what is outside the index just if each file that
the reference has there is one of the merge base and came to a free place, or is the very file that
stood there before.
-/
theorem sparesUntracked_iff {runner : Runner} {baseline : Baseline} {swap : Swap}
    {start ready inside outside after : Machine σ} (hosts : repo.Hosts runner start)
    (hready : (ofReference runner repo.reference).runOn start = (.ok baseline, ready))
    (henter : baseline.enter.runOn ready = (.ok swap, inside))
    (hwork : repo.Stays inside outside)
    (hrestore : (baseline.restore swap).runOn outside = (.ok (), after))
    (hbase : ∀ names, (repo.base names).isSome → repo.original names = none →
      (repo.target names).isSome)
    (hapart : repo.KeepsApart ready.disk) :
    SparesUntracked repo ready after ↔ ∀ names content, repo.original names = none →
      repo.target names = some content →
      ready.disk.standing repo.top names =
        if (repo.base names).isSome ∧ Disk.Fits runner.folder names then none
        else some (.file content) := by
  obtain ⟨rfl, -, hmade⟩ := made_of_ofReference hosts hready
  obtain ⟨rfl, other, hback, hreturns⟩ :=
    hmade.exists_bringBack_of_enter henter hwork hbase hapart
  rw [runOn_restore, hback] at hrestore
  cases hrestore
  refine forall_congr' fun names => ⟨fun hspares content horiginal htarget => ?_,
    fun hcontent horiginal => ?_⟩
  · have hsame := hspares horiginal
    by_cases hdrop : Drops repo baseline ready names
    · rw [if_pos ⟨hdrop.1, hdrop.2.2.2⟩, ← hsame]
      exact (hreturns.dropped names hdrop).2
    · have hstands : ready.disk.standing repo.top names = some (.file content) := by
        rw [← hsame, (hreturns.left names horiginal hdrop).2]
        simp [overlay, Git.Contents.nodes, htarget]
      rw [if_neg, hstands]
      rintro ⟨hnames, hfits⟩
      refine hdrop ⟨hnames, horiginal, hmade.not_linksToFolder hapart (by simp [htarget]) ?_, hfits⟩
      simp [hstands]
  · cases htarget : repo.target names with
    | none =>
        have hdrop : ¬Drops repo baseline ready names := fun hdrop => by
          have hsome := hbase names hdrop.1 horiginal
          rw [htarget] at hsome
          cases hsome
        rw [(hreturns.left names horiginal hdrop).2]
        simp [overlay, Git.Contents.nodes, htarget]
    | some content =>
        have hstands := hcontent content horiginal htarget
        split at hstands
        · rename_i hnames
          rw [hstands]
          refine (hreturns.dropped names ⟨hnames.1, horiginal, ?_, hnames.2⟩).2
          exact hmade.not_linksToFolder hapart (by simp [htarget]) (by simp [hstands])
        · rename_i hnames
          rw [(hreturns.left names horiginal fun hdrop => hnames ⟨hdrop.1, hdrop.2.2.2⟩).2, hstands]
          simp [overlay, Git.Contents.nodes, htarget]

/-- A swap at which nothing is in the way can be entered and restored. -/
theorem Made.exists_swap {baseline : Baseline} {ready : Machine σ}
    (h : Made repo baseline ready)
    (hfits : ∀ names, (repo.original names).isSome → repo.base names = none →
      Disk.Fits baseline.runner.folder names)
    (hsome : ∃ names, (repo.target names).isSome)
    (hbase : ∀ names, (repo.base names).isSome → repo.original names = none →
      (repo.target names).isSome)
    (hapart : repo.KeepsApart ready.disk) :
    ∃ swap inside after, baseline.enter.runOn ready = (.ok swap, inside) ∧
      (baseline.restore swap).runOn inside = (.ok (), after) ∧
      Returns repo baseline ready after := by
  obtain ⟨gone, hadded, hgone⟩ := h.exists_added
  obtain ⟨inside, henter, -⟩ := h.exists_enter hadded hgone
    (fun names hnames => hfits names (hgone names hnames).2 (hgone names hnames).1) hsome hapart
  obtain ⟨-, after, hback, hreturns⟩ :=
    h.exists_bringBack_of_enter henter (.refl inside) hbase hapart
  exact ⟨_, inside, after, henter, by rw [runOn_restore, hback], hreturns⟩

/-- The reference and the current commit have both changed the same file since they parted. -/
def parted : Keeper where
  head := [(["keep.txt"], .text "ours\n"), (["new.txt"], .text "new\n")]
  base := [(["keep.txt"], .text "then\n"), (["old.txt"], .text "old\n")]
  target := [(["keep.txt"], .text "theirs\n"), (["old.txt"], .text "old\n")]
  original := [(["keep.txt"], .text "ours\n"), (["new.txt"], .text "new\n")]
  named := by decide +kernel

/-- The files of the index, and one that git does not track. -/
def partedEntries : List (Location × Node) :=
  [(["keep.txt"], .file (.text "ours\n")), (["new.txt"], .file (.text "new\n")),
    (["notes", "mine.txt"], .file (.text "mine\n"))]

theorem sparesUntracked_parted : ∃ baseline ready swap inside after,
    (ofReference Keeper.runner "main").runOn (parted.machine partedEntries) =
        (.ok baseline, ready) ∧
      baseline.enter.runOn ready = (.ok swap, inside) ∧
      (baseline.restore swap).runOn inside = (.ok (), after) ∧
      SparesUntracked parted.repository ready after := by
  have htidy : parted.Tidy partedEntries := by decide +kernel
  obtain ⟨baseline, ready, hready, hrunner, hdisk, hmade, hapart⟩ :=
    exists_made htidy (by decide +kernel)
  have hcomes : ∀ names, (parted.repository.base names).isSome →
      parted.repository.original names = none → (parted.repository.target names).isSome :=
    fun names hbase _ => by
      have hmem : names ∈ [["keep.txt"], ["old.txt"]] := Git.isSome_contents_iff.mp hbase
      exact Git.isSome_contents_iff.mpr hmem
  have hfits : ∀ names ∈ [["keep.txt"], ["new.txt"], ["old.txt"]],
      Disk.Fits Keeper.runner.folder names := by decide +kernel
  obtain ⟨swap, inside, after, henter, hrestore, -⟩ := hmade.exists_swap
    (fun names horiginal _ => by
      rw [hrunner]
      have hmem : names ∈ [["keep.txt"], ["new.txt"]] := Git.isSome_contents_iff.mp horiginal
      exact hfits names (List.mem_append_left [["old.txt"]] hmem))
    ⟨["keep.txt"], rfl⟩ hcomes hapart
  refine ⟨baseline, ready, swap, inside, after, hready, henter, hrestore,
    (sparesUntracked_iff (Keeper.hosts htidy) hready henter (.refl inside) hrestore hcomes
      hapart).mpr fun names content horiginal hcontent => ?_⟩
  have hmem : names ∈ [["keep.txt"], ["old.txt"]] :=
    Git.isSome_contents_iff.mp (Option.isSome_of_eq_some hcontent)
  simp only [List.mem_cons, List.not_mem_nil, or_false] at hmem
  rcases hmem with rfl | rfl
  · cases horiginal
  · rw [if_pos ⟨rfl, hfits _ (by simp)⟩, hdisk]
    exact Keeper.standing_machine htidy ["old.txt"]

/-- The reference has got a file since it and the current commit parted. -/
def outgrown : Keeper where
  head := [(["keep.txt"], .text "k\n")]
  base := [(["keep.txt"], .text "k\n")]
  target := [(["keep.txt"], .text "k\n"), (["side.txt"], .text "theirs\n")]
  original := [(["keep.txt"], .text "k\n")]
  named := by decide +kernel

/-- The file of the index, and one that git does not track under the name of the new one. -/
def outgrownEntries : List (Location × Node) :=
  [(["keep.txt"], .file (.text "k\n")), (["side.txt"], .file (.text "mine\n"))]

/-- A swap writes a file of the reference over one that git does not track. -/
theorem not_forall_sparesUntracked :
    ¬∀ (σ : Type) (repo : Repository σ) (runner : Runner) (baseline : Baseline) (swap : Swap)
      (start ready inside outside after : Machine σ), repo.Hosts runner start →
      (ofReference runner repo.reference).runOn start = (.ok baseline, ready) →
      baseline.enter.runOn ready = (.ok swap, inside) → repo.Stays inside outside →
      (baseline.restore swap).runOn outside = (.ok (), after) →
      SparesUntracked repo ready after := by
  intro h
  have htidy : outgrown.Tidy outgrownEntries := by decide +kernel
  obtain ⟨baseline, ready, hready, hrunner, hdisk, hmade, hapart⟩ :=
    exists_made htidy (by decide +kernel)
  have hsame : ∀ names, (outgrown.repository.original names).isSome →
      outgrown.repository.base names ≠ none := fun names horiginal =>
    Option.isSome_iff_ne_none.mp horiginal
  obtain ⟨swap, inside, after, henter, hrestore, hreturns⟩ := hmade.exists_swap
    (fun names horiginal hbase => absurd hbase (hsame names horiginal)) ⟨["keep.txt"], rfl⟩
    (fun names hbase horiginal => absurd horiginal (Option.isSome_iff_ne_none.mp hbase)) hapart
  have hspares := h Git.Stock outgrown.repository Keeper.runner baseline swap _ ready inside inside
    after (Keeper.hosts htidy) hready henter (.refl inside) hrestore ["side.txt"] rfl
  rw [(hreturns.left ["side.txt"] rfl fun hdrop => by cases hdrop.1).2, hdisk] at hspares
  have hstands : (outgrown.machine outgrownEntries).disk.standing [] ["side.txt"] =
      some (.file (.text "mine\n")) := Keeper.standing_machine htidy ["side.txt"]
  rw [show (outgrown.machine outgrownEntries).disk.standing outgrown.repository.top ["side.txt"] =
    _ from hstands] at hspares
  exact absurd hspares (by decide +kernel)

end Baseline

end Remedy
