import Remedy.Proofs.Tree.Way
import Remedy.Tree.Access

/-!
# What stands below a folder

The files and links below a folder are what its users see of it.  A path that leads to the folder
leads, joined with names, to what stands there; removing a file by such a path takes away that
file and nothing else.
-/

namespace Remedy

namespace Disk

/-- The file or link that stands below a folder, found by the names that lead to it from there. -/
def standing (disk : Disk) (top names : Location) : Option Node :=
  (disk.tree.get? (top ++ names)).filter (· ≠ .folder)

/-- Two disks that differ below a folder at most. -/
structure SameBeside (top : Location) (disk other : Disk) : Prop where
  here : other.here = disk.here
  get? : ∀ location, (∀ names, names ≠ [] → location ≠ top ++ names) →
    other.tree.get? location = disk.tree.get? location

namespace SameBeside

variable {top : Location} {disk other more : Disk}

theorem refl (disk : Disk) : SameBeside top disk disk :=
  ⟨rfl, fun _ _ => rfl⟩

theorem trans (h : SameBeside top disk other) (hmore : SameBeside top other more) :
    SameBeside top disk more :=
  ⟨hmore.here.trans h.here, fun location hbeside =>
    (hmore.get? location hbeside).trans (h.get? location hbeside)⟩

end SameBeside

/-- A path leads to a folder, whatever stands below it. -/
def Moors (folder : Path) (top : Location) (disk : Disk) : Prop :=
  ∀ other, SameBeside top disk other → other.resolve folder = .ok (top, .folder)

theorem Moors.of_sameBeside {folder : Path} {top : Location} {disk other : Disk}
    (h : Moors folder top disk) (hsame : SameBeside top disk other) : Moors folder top other :=
  fun more hmore => h more (hsame.trans hmore)

theorem Moors.resolve {folder : Path} {top : Location} {disk : Disk}
    (h : Moors folder top disk) : disk.resolve folder = .ok (top, .folder) :=
  h disk (.refl disk)

/-- The path to some names below a folder is short enough for the system. -/
def Fits (folder : Path) (names : Location) : Prop :=
  (folder.join (.ofNames names)).text.utf8ByteSize ≤ Tree.longestPath

instance (folder : Path) (names : Location) : Decidable (Fits folder names) :=
  inferInstanceAs (Decidable (_ ≤ _))

section Folder

variable {disk : Disk} {folder : Path} {top : Location}

/-- What can be said of a path that leads somewhere. -/
theorem walk_of_resolve_folder (h : disk.resolve folder = .ok (top, .folder)) :
    folder.text ≠ "" ∧ '\x00' ∉ folder.text.toList ∧
      disk.tree.walk true Tree.linkBudget (if folder.isAbsolute then [] else disk.here)
        folder.steps = .ok (.found top .folder) := by
  unfold resolve walk at h
  split at h
  · rename_i hplace
    split at hplace
    · cases hplace
    · rename_i hfree
      split at hplace
      · cases hplace
      · rename_i hne
        split at hplace
        · cases hplace
        · cases h
          exact ⟨hne, by simpa using hfree, hplace⟩
  · cases h
  · cases h

/-- A walk to names below a folder goes along the names, unless their path is too long. -/
theorem exists_walk_join (h : disk.resolve folder = .ok (top, .folder)) {names : Location}
    (hnames : IsWay names) :
    ∃ budget, ∀ followLast,
      disk.walk followLast (folder.join (.ofNames names)) =
        if Fits folder names then disk.tree.walk followLast budget top (names.map .name)
        else .error .nameTooLong := by
  obtain ⟨hne, hfree, hwalk⟩ := walk_of_resolve_folder h
  obtain ⟨habsolute, steps, idle, hsteps, hidle, hjoin⟩ := Path.exists_steps_join hne hnames
  rw [hsteps] at hwalk
  obtain ⟨budget, hbudget⟩ := Tree.exists_walk_append hidle hwalk
  have hnul := Path.nul_not_mem_join hne hfree hnames
  have htext : (folder.join (.ofNames names)).text ≠ "" := by
    obtain ⟨front, -, -, -, htext⟩ := Path.exists_text_join hne hnames
    intro hempty
    rw [hempty] at htext
    exact List.append_ne_nil_of_right_ne_nil front (List.cons_ne_nil _ _) htext.symm
  refine ⟨budget, fun followLast => ?_⟩
  unfold walk
  rw [if_neg (by simpa using hnul), if_neg htext]
  by_cases hfits : Fits folder names
  · rw [if_pos hfits, if_neg (Nat.not_lt.mpr hfits), habsolute, hjoin]
    exact hbudget followLast _ fun hnil => hnames.ne_nil (List.map_eq_nil_iff.mp hnil)
  · rw [if_neg hfits, if_pos (Nat.not_le.mp hfits)]

theorem leads_join_of_not_fits (h : disk.resolve folder = .ok (top, .folder)) {names : Location}
    (hnames : IsWay names) (hfits : ¬Fits folder names) :
    disk.leads (folder.join (.ofNames names)) = false := by
  obtain ⟨budget, hwalk⟩ := exists_walk_join h hnames
  simp only [leads, resolve, hwalk, if_neg hfits]

/-- Names at none of which there is a link do not lead to one. -/
theorem isLinkToFolder_join_of_no_links (h : disk.resolve folder = .ok (top, .folder))
    {names : Location} (hnames : IsWay names)
    (hlinks : ∀ front rest, names = front ++ rest → ∀ target,
      disk.tree.get? (top ++ front) ≠ some (.link target)) :
    disk.isLinkToFolder (folder.join (.ofNames names)) = false := by
  have hwalk : ∀ location target, disk.walk false (folder.join (.ofNames names)) ≠
      .ok (.found location (.link target)) := by
    intro location target
    obtain ⟨budget, hwalk⟩ := exists_walk_join h hnames
    rw [hwalk]
    split
    · cases budget <;> exact Tree.descend_ne_link hlinks location target
    · exact nofun
  unfold isLinkToFolder isLink nodeAt?
  split
  · rename_i target hlink
    split at hlink
    · rename_i location node hfound
      cases hlink
      exact absurd hfound (hwalk location target)
    · cases hlink
  · rfl

section File

variable {names : Location} {content : Content}

theorem walk_join_of_file (hsound : disk.tree.Sound top)
    (h : disk.resolve folder = .ok (top, .folder)) (hnames : IsWay names)
    (hget : disk.tree.get? (top ++ names) = some (.file content)) (followLast : Bool) :
    disk.walk followLast (folder.join (.ofNames names)) =
      if Fits folder names then .ok (.found (top ++ names) (.file content))
      else .error .nameTooLong := by
  obtain ⟨budget, hwalk⟩ := exists_walk_join h hnames
  rw [hwalk, hsound.walk_of_file followLast budget hnames.ne_nil hget]

/-- The path to a file leads there if it is not too long. -/
theorem leads_join_of_file (hsound : disk.tree.Sound top)
    (h : disk.resolve folder = .ok (top, .folder)) (hnames : IsWay names)
    (hget : disk.tree.get? (top ++ names) = some (.file content)) (hfits : Fits folder names) :
    disk.leads (folder.join (.ofNames names)) = true := by
  simp only [leads, resolve, walk_join_of_file hsound h hnames hget, if_pos hfits]

/-- A file is no link. -/
theorem isLinkToFolder_join_of_file (hsound : disk.tree.Sound top)
    (h : disk.resolve folder = .ok (top, .folder)) (hnames : IsWay names)
    (hget : disk.tree.get? (top ++ names) = some (.file content)) :
    disk.isLinkToFolder (folder.join (.ofNames names)) = false := by
  unfold isLinkToFolder isLink nodeAt?
  rw [walk_join_of_file hsound h hnames hget]
  by_cases hfits : Fits folder names
  · rw [if_pos hfits]
    rfl
  · rw [if_neg hfits]
    rfl

/-- A file is removed unless its path is too long. -/
theorem remove_join_of_file (hsound : disk.tree.Sound top)
    (h : disk.resolve folder = .ok (top, .folder)) (hnames : IsWay names)
    (hget : disk.tree.get? (top ++ names) = some (.file content)) :
    disk.remove (folder.join (.ofNames names)) =
      if Fits folder names then .ok { disk with tree := disk.tree.erase (top ++ names) }
      else .error .nameTooLong := by
  have hbare := Path.bare_join (walk_of_resolve_folder h).1 hnames
  unfold remove Path.isSlashed
  rw [hbare, walk_join_of_file hsound h hnames hget]
  by_cases hfits : Fits folder names
  · simp [if_pos hfits]
  · rw [if_neg hfits, if_neg hfits]

end File

/-- A file that is not there is not found, unless its path is too long. -/
theorem remove_join_of_vacant (hsound : disk.tree.Sound top)
    (h : disk.resolve folder = .ok (top, .folder)) {names : Location} {name : String}
    (hnames : IsWay (names ++ [name])) (hlength : name.utf8ByteSize ≤ Tree.longestName)
    (hfolder : disk.tree.get? (top ++ names) = some .folder)
    (hget : disk.tree.get? (top ++ (names ++ [name])) = none) :
    disk.remove (folder.join (.ofNames (names ++ [name]))) =
      if Fits folder (names ++ [name]) then .error .notFound else .error .nameTooLong := by
  obtain ⟨budget, hwalk⟩ := exists_walk_join h hnames
  have hbare := Path.bare_join (walk_of_resolve_folder h).1 hnames
  unfold remove
  rw [hbare, hwalk, hsound.walk_of_vacant false budget hlength hfolder hget]
  by_cases hfits : Fits folder (names ++ [name])
  · rw [if_pos hfits, if_pos hfits]
  · rw [if_neg hfits, if_neg hfits]

end Folder

/-!
## What is left when a file is removed
-/

theorem standing_eq_some_file_iff {disk : Disk} {top names : Location} {content : Content} :
    disk.standing top names = some (.file content) ↔
      disk.tree.get? (top ++ names) = some (.file content) := by
  unfold standing
  cases disk.tree.get? (top ++ names) with
  | none => simp
  | some node =>
      by_cases hnode : node = .folder
      · subst hnode
        simp
      · simp

theorem standing_erase (disk : Disk) (top : Location) {names : Location} (hne : names ≠ [])
    (others : Location) :
    Disk.standing { disk with tree := disk.tree.erase (top ++ names) } top others =
      if others = names then none else disk.standing top others := by
  unfold standing
  dsimp only
  rw [Tree.get?_erase _ (List.append_ne_nil_of_right_ne_nil _ hne)]
  by_cases heq : others = names
  · rw [if_pos heq, if_pos (by rw [heq])]
    rfl
  · rw [if_neg heq, if_neg fun hsame => heq (List.append_cancel_left hsame)]

theorem sameBeside_erase (disk : Disk) (top : Location) {names : Location} (hne : names ≠ []) :
    SameBeside top disk { disk with tree := disk.tree.erase (top ++ names) } := by
  refine ⟨rfl, fun location hbeside => ?_⟩
  exact (Tree.get?_erase _ (List.append_ne_nil_of_right_ne_nil _ hne) location).trans
    (if_neg (hbeside names hne))

end Disk

end Remedy
