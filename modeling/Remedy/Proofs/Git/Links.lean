import Remedy.Proofs.Git.Streams

/-!
# Links to folders among changes

A change is passed over if its path is a link to a folder.  Where a file was renamed to is not asked
about: a link to a folder there is kept if a file was renamed to it, and a file there is lost if it
was such a link before.  Changes are sorted without the links to folders, and with all else, exactly
as long as files and such links are not renamed into each other.
-/

namespace Remedy.Git.Changes

/-- Sorted changes leave out the paths that are links to folders, and no others. -/
structure SkipsLinks (disk : Disk) (folder : Path) (list : List Change) (changes : Changes) :
    Prop where
  skipped : ∀ path ∈ changes.paths, disk.isLinkToFolder (folder.join path) = false
  /-- Another path is sorted as often as a change says of it that it differs. -/
  kept : ∀ path, disk.isLinkToFolder (folder.join path) = false →
    changes.paths.count path = (list.flatMap Change.paths).count path

variable {disk : Disk} {folder : Path} {list : List Change}

/-- All paths of a change are links to folders, or none of them is. -/
def Alike (disk : Disk) (folder : Path) (change : Change) : Prop :=
  ∀ path ∈ change.paths,
    disk.isLinkToFolder (folder.join path) = disk.isLinkToFolder (folder.join change.path)

/-- Only a rename has a path that can differ from the first one. -/
theorem alike_iff {change : Change} :
    Alike disk folder change ↔ (change.code = .renamed → ∀ target ∈ change.target?,
      disk.isLinkToFolder (folder.join target) =
        disk.isLinkToFolder (folder.join change.path)) := by
  obtain ⟨code, path, target?⟩ := change
  cases code <;> simp [Alike, Change.paths]

/-- The changes that are passed over. -/
def passedOver (disk : Disk) (folder : Path) (list : List Change) : List Change :=
  list.filter fun change => disk.isLinkToFolder (folder.join change.path)

/-- A path of the list is sorted, or it is one of a change that is passed over. -/
theorem count_paths_ofList_add (path : Path) :
    (ofList disk folder list).paths.count path +
        ((passedOver disk folder list).flatMap Change.paths).count path =
      (list.flatMap Change.paths).count path := by
  have hsplit := List.filter_append_perm
    (fun change => disk.isLinkToFolder (folder.join change.path)) list
  rw [ofList_eq_grouped, (paths_grouped_perm _).count_eq, Nat.add_comm, passedOver,
    ← List.count_append, ← List.flatMap_append]
  exact (hsplit.flatMap_right Change.paths).count_eq path

theorem SkipsLinks.alike (h : SkipsLinks disk folder list (ofList disk folder list))
    {change : Change} (hchange : change ∈ list) : Alike disk folder change := by
  intro path hpath
  cases hfirst : disk.isLinkToFolder (folder.join change.path) with
  | false => exact h.skipped path (mem_paths_ofList.mpr ⟨change, hchange, hfirst, hpath⟩)
  | true =>
      by_contra hlink
      have hkept := h.kept path (eq_false_of_ne_true hlink)
      rw [← count_paths_ofList_add, Nat.left_eq_add, List.count_eq_zero] at hkept
      exact hkept (List.mem_flatMap.mpr ⟨change, List.mem_filter.mpr ⟨hchange, hfirst⟩, hpath⟩)

theorem skipsLinks_of_alike (h : ∀ change ∈ list, Alike disk folder change) :
    SkipsLinks disk folder list (ofList disk folder list) := by
  refine ⟨fun path hpath => ?_, fun path hlink => ?_⟩
  · obtain ⟨change, hchange, hfirst, hown⟩ := mem_paths_ofList.mp hpath
    rw [h change hchange path hown, hfirst]
  · rw [← count_paths_ofList_add, Nat.left_eq_add, List.count_eq_zero]
    intro hover
    obtain ⟨change, hchange, hown⟩ := List.mem_flatMap.mp hover
    obtain ⟨hmem, hfirst⟩ := List.mem_filter.mp hchange
    rw [h change hmem path hown, hfirst] at hlink
    exact Bool.noConfusion hlink

/--
The links to folders, and they alone, are left out if and only if every rename is one of a link to a
folder into another, or of what is none into what is none.
-/
theorem skipsLinks_ofList_iff :
    SkipsLinks disk folder list (ofList disk folder list) ↔
      ∀ change ∈ list, change.code = .renamed → ∀ target ∈ change.target?,
        disk.isLinkToFolder (folder.join target) =
          disk.isLinkToFolder (folder.join change.path) := by
  constructor
  · exact fun h change hchange => alike_iff.mp (h.alike hchange)
  · exact fun h => skipsLinks_of_alike fun change hchange => alike_iff.mpr (h change hchange)

/-- A file that was renamed to where a link to a folder stands is added there. -/
theorem not_forall_skipsLinks_ofList :
    ¬∀ (disk : Disk) (folder : Path) (list : List Change),
      SkipsLinks disk folder list (ofList disk folder list) := by
  intro h
  let disk : Disk := ⟨⟨[(["alias"], .link ⟨"real"⟩), (["real"], .folder)]⟩, []⟩
  let list : List Change := [⟨.renamed, ⟨"old"⟩, some ⟨"alias"⟩⟩]
  have hsorted : (⟨"alias"⟩ : Path) ∈ (ofList disk ⟨"/"⟩ list).paths := by decide +kernel
  have hlink : disk.isLinkToFolder ((⟨"/"⟩ : Path).join ⟨"alias"⟩) = true := by decide +kernel
  exact Bool.noConfusion (hlink.symm.trans ((h disk ⟨"/"⟩ list).skipped _ hsorted))

end Remedy.Git.Changes
