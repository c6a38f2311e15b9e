import Remedy.Proofs.Baseline.Passage
import Remedy.Proofs.Git.Keeper

/-!
# What a swap leaves behind

From what a baseline knows of a repository it follows which files go when a swap is entered and
which go when it is left, so that it can be said of each file what becomes of it.
-/

namespace Remedy

namespace Baseline

open Git (Difference Contents Repository Keeper Apart overlay without)

variable {σ : Type} {repo : Repository σ}

/-- Paths along ways have names. -/
theorem exists_map_ofNames {paths : List Path}
    (h : ∀ path ∈ paths, ∃ names, IsWay names ∧ path = .ofNames names) :
    ∃ gone : List Location, paths = gone.map .ofNames ∧ ∀ names ∈ gone, IsWay names := by
  induction paths with
  | nil => exact ⟨[], rfl, fun _ hmem => absurd hmem List.not_mem_nil⟩
  | cons path rest ih =>
      obtain ⟨names, hnames, rfl⟩ := h path List.mem_cons_self
      obtain ⟨gone, rfl, hgone⟩ := ih fun other hother => h other (List.mem_cons_of_mem _ hother)
      refine ⟨names :: gone, rfl, fun others hothers => ?_⟩
      rcases List.mem_cons.mp hothers with rfl | hlater
      · exact hnames
      · exact hgone others hlater

theorem mem_map_ofNames_iff {gone : List Location} (hgone : ∀ names ∈ gone, IsWay names)
    {names : Location} (hnames : IsWay names) :
    .ofNames names ∈ gone.map Path.ofNames ↔ names ∈ gone := by
  rw [List.mem_map]
  constructor
  · rintro ⟨other, hother, heq⟩
    rwa [← Path.ofNames_inj (hgone other hother) hnames heq]
  · intro hmem
    exact ⟨names, hmem, rfl⟩

/-- The names lead to a link to a folder, as the system sees it. -/
def LinksToFolder (baseline : Baseline) (machine : Machine σ) (names : Location) : Prop :=
  machine.disk.isLinkToFolder (baseline.runner.folder.join (.ofNames names)) = true

section Passage

variable {baseline : Baseline} {ready : Machine σ}

namespace Made

theorem isWay (h : Made repo baseline ready) {names : Location}
    (hnames : (repo.base names).isSome ∨ (repo.target names).isSome ∨
      (repo.original names).isSome) : IsWay names :=
  h.shows.serves.isWay names hnames

/-- The working tree holds the files of the index. -/
theorem standing_eq (h : Made repo baseline ready) {names : Location} {content : Content}
    (hnames : repo.original names = some content) :
    ready.disk.standing repo.top names = some (.file content) := by
  by_contra hother
  refine h.clear.same names (.inr ⟨content, ?_, hother⟩)
  rw [h.shows.index, hnames]

theorem get?_eq (h : Made repo baseline ready) {names : Location} {content : Content}
    (hnames : repo.original names = some content) :
    ready.disk.tree.get? (repo.top ++ names) = some (.file content) :=
  Disk.standing_eq_some_file_iff.mp (h.standing_eq hnames)

/-- A file that the index lacks is removed later on, unless a link to a folder stood there. -/
theorem mem_removed_iff (h : Made repo baseline ready) {names : Location} (hway : IsWay names) :
    .ofNames names ∈ baseline.changes.removed ↔ (repo.base names).isSome ∧
      repo.original names = none ∧ ¬LinksToFolder baseline ready names := by
  obtain ⟨differences, hcompares, hchanges⟩ := h.describes.changes
  rw [hchanges, Git.Changes.mem_removed_ofList]
  have hhead : ∀ difference : Difference, ∀ names, difference.lost? = some names →
      difference.head = names := by
    intro difference names hlost
    cases difference <;> simp_all [Difference.lost?, Difference.head]
  constructor
  · rintro ⟨difference, hmem, hpasses, other, hlost, heq⟩
    obtain ⟨hbase, horiginal⟩ := (hcompares.lost other).mp ⟨difference, hmem, hlost⟩
    obtain rfl := Path.ofNames_inj (h.isWay (.inl hbase)) hway heq
    refine ⟨hbase, horiginal, fun hlink => hpasses ?_⟩
    rw [Git.Changes.PassesOver, hhead difference _ hlost]
    exact hlink
  · rintro ⟨hbase, horiginal, hlink⟩
    obtain ⟨difference, hmem, hlost⟩ := (hcompares.lost names).mpr ⟨hbase, horiginal⟩
    refine ⟨difference, hmem, fun hpasses => hlink ?_, names, hlost, rfl⟩
    rw [Git.Changes.PassesOver, hhead difference names hlost] at hpasses
    exact hpasses

/-- The files that are added are in the index, and not in the merge base. -/
theorem added (h : Made repo baseline ready) {names : Location} (hway : IsWay names)
    (hmem : .ofNames names ∈ baseline.changes.added) :
    repo.base names = none ∧ (repo.original names).isSome := by
  obtain ⟨differences, hcompares, hchanges⟩ := h.describes.changes
  rw [hchanges, Git.Changes.mem_added_ofList] at hmem
  obtain ⟨difference, hmem, -, other, hgained, heq⟩ := hmem
  have hother := (hcompares.gained other).mp ⟨difference, hmem, hgained⟩
  obtain rfl := Path.ofNames_inj (h.isWay (.inr (.inr hother.2))) hway heq
  exact hother

/-- All these files are added, if no link to a folder stands where a file was renamed. -/
theorem mem_added (h : Made repo baseline ready)
    (hlinks : ∀ names, (repo.base names).isSome → repo.original names = none →
      ¬LinksToFolder baseline ready names)
    {names : Location} (hbase : repo.base names = none)
    (horiginal : (repo.original names).isSome) :
    .ofNames names ∈ baseline.changes.added := by
  obtain ⟨differences, hcompares, hchanges⟩ := h.describes.changes
  obtain ⟨difference, hmem, hgained⟩ := (hcompares.gained names).mpr ⟨hbase, horiginal⟩
  rw [hchanges, Git.Changes.mem_added_ofList]
  refine ⟨difference, hmem, fun hpasses => ?_, names, hgained, rfl⟩
  cases difference with
  | added other =>
      obtain rfl : other = names := Option.some.inj hgained
      obtain ⟨content, hcontent⟩ := Option.isSome_iff_exists.mp horiginal
      rw [Git.Changes.PassesOver, Difference.head,
        Disk.isLinkToFolder_join_of_file h.shows.orderly.sound h.shows.moored.resolve
          (h.isWay (.inr (.inr horiginal))) (h.get?_eq hcontent)] at hpasses
      cases hpasses
  | renamed score old new =>
      obtain ⟨hold, hlost⟩ := (hcompares.lost old).mp ⟨_, hmem, rfl⟩
      exact hlinks old hold hlost hpasses
  | deleted other => cases hgained
  | modified other => cases hgained

/-!
### In and out again
-/

theorem exists_names_of_mem (h : Made repo baseline ready) {path : Path}
    (hpath : path ∈ baseline.changes.paths) : ∃ names, IsWay names ∧ path = .ofNames names :=
  h.describes.isWay (fun _ hnames => h.isWay (hnames.imp_right .inr)) hpath

/-- The added files by their names. -/
theorem exists_added (h : Made repo baseline ready) :
    ∃ gone : List Location, baseline.changes.added = gone.map .ofNames ∧
      ∀ names ∈ gone, repo.base names = none ∧ (repo.original names).isSome := by
  obtain ⟨gone, hadded, hgone⟩ := @exists_map_ofNames baseline.changes.added
    fun path hpath => h.exists_names_of_mem (by simp [Git.Changes.paths, hpath])
  refine ⟨gone, hadded, fun names hnames => h.added (hgone names hnames) ?_⟩
  rw [hadded]
  exact List.mem_map_of_mem hnames

/-- The tree is recorded, and then nothing has changed. -/
theorem exists_record (h : Made repo baseline ready) :
    ∃ recorded, baseline.record.runOn ready = (.ok repo.tree, recorded) ∧
      repo.Stays ready recorded :=
  Baseline.exists_record h.shows h.describes.place (fun _ => h.exists_names_of_mem) h.clear

section Enter

variable {gone : List Location} (hadded : baseline.changes.added = gone.map .ofNames)
  (hgone : ∀ names ∈ gone, repo.base names = none ∧ (repo.original names).isSome)

include hadded hgone in
/-- All files of the index that the merge base lacks are added, if no link hides one. -/
theorem mem_gone (h : Made repo baseline ready)
    (hlinks : ∀ names, (repo.base names).isSome → repo.original names = none →
      ¬LinksToFolder baseline ready names)
    {names : Location} (hbase : repo.base names = none)
    (horiginal : (repo.original names).isSome) : names ∈ gone := by
  have hways : ∀ other ∈ gone, IsWay other := fun other hother =>
    h.isWay (.inr (.inr (hgone other hother).2))
  rw [← mem_map_ofNames_iff hways (h.isWay (.inr (.inr horiginal))), ← hadded]
  exact h.mem_added hlinks hbase horiginal

include hgone in
/-- The added files stand in the working tree. -/
theorem removable (h : Made repo baseline ready) {recorded : Machine σ}
    (hrecorded : repo.Stays ready recorded) :
    ∀ names ∈ gone, IsWay names ∧ recorded.disk.Removable repo.top names := by
  intro names hnames
  have hway := h.isWay (.inr (.inr (hgone names hnames).2))
  obtain ⟨content, hcontent⟩ := Option.isSome_iff_exists.mp (hgone names hnames).2
  rw [hrecorded.disk]
  exact ⟨hway, Disk.removable_of_file h.shows.orderly.sound hway.ne_nil (h.get?_eq hcontent)⟩

include hadded hgone

/-- The files are swapped for those of the reference, and the others are left alone. -/
theorem exists_enter (h : Made repo baseline ready)
    (hfits : ∀ names ∈ gone, Disk.Fits baseline.runner.folder names)
    (hsome : ∃ names, (repo.target names).isSome)
    (hapart : repo.KeepsApart ready.disk) :
    ∃ inside, baseline.enter.runOn ready = (.ok { tree := repo.tree }, inside) ∧
      repo.Shows baseline.runner inside (overlay repo.target repo.original)
        (overlay repo.target.nodes (without (ready.disk.standing repo.top) gone)) := by
  obtain ⟨recorded, hrecord, hrecorded⟩ := h.exists_record
  obtain ⟨inside, hcheckout, hinside⟩ := exists_checkOut (h.shows.of_stays hrecorded)
    h.describes.reference hadded (h.removable hgone hrecorded) hfits hsome hapart
  exact ⟨inside, by rw [runOn_enter_of_record hrecord, hcheckout], hinside⟩

/-- The files are swapped only if all added files can be removed and the reference has files. -/
theorem of_enter (h : Made repo baseline ready) {swap : Swap} {inside : Machine σ}
    (henter : baseline.enter.runOn ready = (.ok swap, inside)) :
    (∀ names ∈ gone, Disk.Fits baseline.runner.folder names) ∧
      ∃ names, (repo.target names).isSome := by
  by_contra hbad
  obtain ⟨recorded, hrecord, hrecorded⟩ := h.exists_record
  obtain ⟨trouble, stopped, hcheckout⟩ := exists_checkOut_eq_error (h.shows.of_stays hrecorded)
    h.describes.reference hadded (h.removable hgone hrecorded) (by
      rw [not_and_or, not_exists] at hbad
      exact hbad.imp_right fun hnone names => Option.not_isSome_iff_eq_none.mp (hnone names))
  rw [runOn_enter_of_record hrecord, hcheckout] at henter
  cases henter

end Enter

end Made

/-- A file that has come with the baseline is removed at the end. -/
def Drops (repo : Repository σ) (baseline : Baseline) (machine : Machine σ) (names : Location) :
    Prop :=
  (repo.base names).isSome ∧ repo.original names = none ∧
    ¬LinksToFolder baseline machine names ∧ Disk.Fits baseline.runner.folder names

/-- What the index and the working tree hold when a swap is over. -/
structure Returns (repo : Repository σ) (baseline : Baseline) (ready after : Machine σ) :
    Prop where
  kept : ∀ names, (repo.original names).isSome →
    repo.index after.memory names = repo.original names ∧
      after.disk.standing repo.top names = repo.original.nodes names
  dropped : ∀ names, Drops repo baseline ready names →
    repo.index after.memory names = none ∧ after.disk.standing repo.top names = none
  left : ∀ names, repo.original names = none → ¬Drops repo baseline ready names →
    repo.index after.memory names = repo.target names ∧
      after.disk.standing repo.top names =
        overlay repo.target.nodes (ready.disk.standing repo.top) names

/-- The files to remove at the end, by their names. -/
theorem Made.exists_left (h : Made repo baseline ready) {accepted : Machine σ}
    {index : Contents} {standing : Location → Option Node}
    (hshows : repo.Shows baseline.runner accepted index standing)
    (hstanding : ∀ names, (repo.base names).isSome → repo.original names = none →
      ∃ content, standing names = some (.file content)) :
    ∃ left : List Location, baseline.left accepted.disk = left.map .ofNames ∧
      ∀ names, names ∈ left ↔ Drops repo baseline ready names := by
  obtain ⟨removed, hremoved, hways⟩ := @exists_map_ofNames baseline.changes.removed
    fun path hpath => h.exists_names_of_mem (by simp [Git.Changes.paths, hpath])
  refine ⟨removed.filter fun names =>
    accepted.disk.leads (baseline.runner.folder.join (.ofNames names)), ?_, fun names => ?_⟩
  · rw [left, hremoved, List.filter_map]
    rfl
  · have hleads : IsWay names → (repo.base names).isSome → repo.original names = none →
        (accepted.disk.leads (baseline.runner.folder.join (.ofNames names)) = true ↔
          Disk.Fits baseline.runner.folder names) := by
      intro hway hbase horiginal
      obtain ⟨content, hfile⟩ := hstanding names hbase horiginal
      rw [← hshows.standing] at hfile
      have hresolve := hshows.moored.resolve
      by_cases hfits : Disk.Fits baseline.runner.folder names
      · rw [Disk.leads_join_of_file hshows.orderly.sound hresolve hway
          (Disk.standing_eq_some_file_iff.mp hfile) hfits]
        exact iff_of_true rfl hfits
      · rw [Disk.leads_join_of_not_fits hresolve hway hfits]
        exact iff_of_false Bool.false_ne_true hfits
    rw [List.mem_filter]
    constructor
    · rintro ⟨hmem, hfound⟩
      have hway := hways names hmem
      rw [← mem_map_ofNames_iff hways hway, ← hremoved, h.mem_removed_iff hway] at hmem
      exact ⟨hmem.1, hmem.2.1, hmem.2.2, (hleads hway hmem.1 hmem.2.1).mp hfound⟩
    · rintro ⟨hbase, horiginal, hlink, hfits⟩
      have hway := h.isWay (.inl hbase)
      rw [← mem_map_ofNames_iff hways hway, ← hremoved, h.mem_removed_iff hway]
      exact ⟨⟨hbase, horiginal, hlink⟩, (hleads hway hbase horiginal).mpr hfits⟩

/-- What becomes of each file, if the original files are over those of the reference. -/
theorem returns_of_shows {after : Machine σ} {gone left : List Location}
    (h : repo.Shows baseline.runner after
      (without (overlay repo.original (overlay repo.target repo.original)) left)
      (without (overlay repo.original.nodes (overlay repo.target.nodes
        (without (ready.disk.standing repo.top) gone))) left))
    (hgone : ∀ names ∈ gone, (repo.original names).isSome)
    (hleft : ∀ names, names ∈ left ↔ Drops repo baseline ready names) :
    Returns repo baseline ready after where
  kept := by
    intro names hnames
    obtain ⟨content, hcontent⟩ := Option.isSome_iff_exists.mp hnames
    have hstays : names ∉ left := fun hin => by
      rw [((hleft names).mp hin).2.1] at hcontent
      cases hcontent
    rw [h.index, h.standing]
    simp [without, overlay, Git.Contents.nodes, hstays, hcontent]
  dropped := by
    intro names hdrops
    rw [h.index, h.standing]
    simp [without, (hleft names).mpr hdrops]
  left := by
    intro names horiginal hdrops
    have hstays : names ∉ left := fun hin => hdrops ((hleft names).mp hin)
    have hthere : names ∉ gone := fun hin => by
      have hsome := hgone names hin
      rw [horiginal] at hsome
      cases hsome
    rw [h.index, h.standing]
    simp [without, overlay, Git.Contents.nodes, hstays, hthere, horiginal]

/-- Bringing the tree back succeeds, and what becomes of each file can be told. -/
theorem Made.exists_bringBack (h : Made repo baseline ready) {inside : Machine σ}
    {gone : List Location} (hgone : ∀ names ∈ gone, (repo.original names).isSome)
    (hinside : repo.Shows baseline.runner inside (overlay repo.target repo.original)
      (overlay repo.target.nodes (without (ready.disk.standing repo.top) gone)))
    (hbase : ∀ names, (repo.base names).isSome → repo.original names = none →
      (repo.target names).isSome)
    (hapart : repo.KeepsApart ready.disk) :
    ∃ after, (baseline.bringBack repo.tree).runOn inside = (.ok (), after) ∧
      Returns repo baseline ready after := by
  have hindex : ∀ names, (overlay repo.target repo.original names).isSome →
      (repo.target names).isSome ∨ (repo.original names).isSome := fun _ => Git.isSome_of_overlay
  have hnodes : ∀ names, (overlay repo.target.nodes
        (without (ready.disk.standing repo.top) gone) names).isSome →
      (repo.target names).isSome ∨ (ready.disk.standing repo.top names).isSome := by
    intro names hnames
    rcases Git.isSome_of_overlay hnames with htarget | hstands
    · exact .inl (by rwa [Git.isSome_nodes] at htarget)
    · exact .inr (Git.isSome_of_without hstands)
  obtain ⟨accepted, haccepts, hshows⟩ := exists_accepts hinside (Apart.mono hapart (by
    rintro names (horiginal | hnames | hnames)
    · exact .inr (.inl horiginal)
    · exact (hindex names hnames).imp_right .inl
    · exact (hnodes names hnames).imp_right .inr))
  obtain ⟨left, hleft, hmem⟩ := h.exists_left hshows fun names hnames horiginal => by
    obtain ⟨content, hcontent⟩ := Option.isSome_iff_exists.mp (hbase names hnames horiginal)
    exact ⟨content, by simp [overlay, Git.Contents.nodes, horiginal, hcontent]⟩
  obtain ⟨after, hremove, hafter⟩ := exists_removeLeft hshows hleft
    (fun names hnames => by
      obtain ⟨hnames, horiginal, -⟩ := (hmem names).mp hnames
      obtain ⟨content, hcontent⟩ := Option.isSome_iff_exists.mp (hbase names hnames horiginal)
      simp [overlay, horiginal, hcontent])
    (Apart.mono hapart (by
      rintro names (hnames | hnames)
      · exact (Git.isSome_of_overlay hnames).elim (.inr ∘ .inl) fun hnames =>
          (hindex names hnames).imp_right .inl
      · rcases Git.isSome_of_overlay hnames with horiginal | hnames
        · exact .inr (.inl (by rwa [Git.isSome_nodes] at horiginal))
        · exact (hnodes names hnames).imp_right .inr))
  exact ⟨after, bringBack_eq_ok_iff.mpr
    ⟨accepted, checkOutTree_eq_ok_iff.mpr haccepts, hremove⟩, returns_of_shows hafter hgone hmem⟩

/-- A swap that was entered is brought back, if only what git does not keep has changed since. -/
theorem Made.exists_bringBack_of_enter (h : Made repo baseline ready) {swap : Swap}
    {inside outside : Machine σ} (henter : baseline.enter.runOn ready = (.ok swap, inside))
    (hwork : repo.Stays inside outside)
    (hbase : ∀ names, (repo.base names).isSome → repo.original names = none →
      (repo.target names).isSome)
    (hapart : repo.KeepsApart ready.disk) :
    swap = { tree := repo.tree } ∧ ∃ after,
      (baseline.bringBack repo.tree).runOn outside = (.ok (), after) ∧
      Returns repo baseline ready after := by
  obtain ⟨gone, hadded, hgone⟩ := h.exists_added
  obtain ⟨hfits, hsome⟩ := h.of_enter hadded hgone henter
  obtain ⟨entered, hrun, hshows⟩ := h.exists_enter hadded hgone hfits hsome hapart
  obtain ⟨rfl, rfl⟩ := Task.ok_unique hrun henter
  exact ⟨rfl, h.exists_bringBack (fun names hnames => (hgone names hnames).2)
    (hshows.of_stays hwork) hbase hapart⟩

end Passage

/-- Where git is a keeper, a baseline is made of which all this can be said. -/
theorem exists_made {keeper : Keeper} {entries : List (Location × Node)}
    (htidy : keeper.Tidy entries)
    (hmade : ((ofReference Keeper.runner "main").runOn
      (keeper.machine entries)).1.toOption.isSome) :
    ∃ baseline ready, (ofReference Keeper.runner "main").runOn (keeper.machine entries) =
        (.ok baseline, ready) ∧
      baseline.runner = Keeper.runner ∧ ready.disk = (keeper.machine entries).disk ∧
      Made keeper.repository baseline ready ∧ keeper.repository.KeepsApart ready.disk := by
  obtain ⟨baseline, ready, hready⟩ := Task.exists_runOn_eq_ok hmade
  obtain ⟨hrunner, hstays, hmade⟩ := made_of_ofReference (Keeper.hosts htidy) hready
  refine ⟨baseline, ready, hready, hrunner, hstays.disk, hmade, ?_⟩
  rw [hstays.disk]
  exact Keeper.keepsApart_machine htidy

end Baseline

end Remedy
