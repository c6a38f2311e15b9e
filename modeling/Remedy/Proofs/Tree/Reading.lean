import Remedy.Proofs.Outcome
import Remedy.Proofs.Tree.Writing

/-!
# Reading what was written

A text that was written to a path is read from that path, whether the file was there before or
not: the way to it goes through folders and links only, and no other node is changed.
-/

namespace Remedy

/-- The location at which a walk ends, be there a node or not. -/
def Place.location : Place → Location
  | .found location _ => location
  | .vacant folder name => folder ++ [name]

namespace Tree

/-- No folder and no link stands at a location, so that no walk goes on from there. -/
def Ends (tree : Tree) (location : Location) : Prop :=
  tree.get? location ≠ some .folder ∧ ∀ target, tree.get? location ≠ some (.link target)

theorem Ends.ne_nil {tree : Tree} {location : Location} (h : tree.Ends location) :
    location ≠ [] := by
  rintro rfl
  exact h.1 (get?_nil tree)

/-- Where a walk misses the last name, no node stands. -/
theorem get?_of_descend_vacant {tree : Tree} {followLast : Bool}
    {relink : Location → Path → List Path.Step → Except SystemError Place}
    (hrelink : ∀ folder target rest parent name,
      relink folder target rest = .ok (.vacant parent name) → tree.get? (parent ++ [name]) = none)
    {folder parent : Location} {steps : List Path.Step} {name : String}
    (hwalk : descend tree followLast relink folder steps = .ok (.vacant parent name)) :
    tree.get? (parent ++ [name]) = none := by
  fun_induction descend tree followLast relink folder steps with
  | case12 folder step rest _ target hget hlast => exact hrelink _ _ _ _ _ hwalk
  | _ => simp_all

theorem get?_of_walk_vacant {tree : Tree} {followLast : Bool} {budget : Nat}
    {folder parent : Location} {steps : List Path.Step} {name : String}
    (hwalk : walk tree followLast budget folder steps = .ok (.vacant parent name)) :
    tree.get? (parent ++ [name]) = none := by
  induction budget generalizing folder parent steps name with
  | zero =>
      rw [walk] at hwalk
      refine get?_of_descend_vacant (fun _ _ _ _ _ hlink => ?_) hwalk
      cases hlink
  | succ budget ih =>
      rw [walk] at hwalk
      exact get?_of_descend_vacant (fun _ _ _ _ _ hlink => ih hlink) hwalk

/-- A walk that ends at a location still ends there when a file is put there. -/
theorem descend_set {tree : Tree} {location : Location} (hends : tree.Ends location)
    (content : Content)
    {relink relinkSet : Location → Path → List Path.Step → Except SystemError Place}
    (hrelink : ∀ folder target rest place, relink folder target rest = .ok place →
      place.location = location →
      relinkSet folder target rest = .ok (.found location (.file content)))
    {folder : Location} {steps : List Path.Step} {place : Place}
    (hwalk : tree.descend true relink folder steps = .ok place)
    (hplace : place.location = location) :
    (tree.set location (.file content)).descend true relinkSet folder steps =
      .ok (.found location (.file content)) := by
  have hget (other : Location) := get?_set tree location other (.file content) hends.ne_nil
  induction steps generalizing folder with
  | nil =>
      rw [descend] at hwalk ⊢
      split at hwalk
      · cases hwalk
        obtain rfl : folder = location := hplace
        rw [hget, if_pos rfl]
      · cases hwalk
  | cons step rest ih =>
      cases step with
      | here => exact ih (by simpa only [descend] using hwalk)
      | up => exact ih (by simpa only [descend] using hwalk)
      | name name =>
          rw [descend] at hwalk ⊢
          split at hwalk
          · cases hwalk
          · rename_i hlength
            rw [if_neg hlength, hget]
            -- at the location itself the walk has come to its end
            by_cases hhere : folder ++ [name] = location
            · rw [if_pos hhere]
              dsimp only
              split at hwalk
              · split at hwalk
                · rename_i hrest
                  rw [if_pos hrest, hhere]
                · cases hwalk
              · rename_i hfolder
                exact absurd (hhere ▸ hfolder) hends.1
              · split at hwalk
                · rename_i hrest
                  rw [if_pos hrest, hhere]
                · cases hwalk
              · rename_i target hlink
                exact absurd (hhere ▸ hlink) (hends.2 target)
            · rw [if_neg hhere]
              split at hwalk
              · split at hwalk
                · cases hwalk
                  exact absurd hplace hhere
                · cases hwalk
              · exact ih hwalk
              · split at hwalk
                · cases hwalk
                  exact absurd hplace hhere
                · cases hwalk
              · rw [if_neg (by simp)] at hwalk ⊢
                exact hrelink _ _ _ _ hwalk hplace

theorem walk_set {tree : Tree} {location : Location} (hends : tree.Ends location)
    (content : Content) {budget : Nat} {folder : Location} {steps : List Path.Step}
    {place : Place} (hwalk : tree.walk true budget folder steps = .ok place)
    (hplace : place.location = location) :
    (tree.set location (.file content)).walk true budget folder steps =
      .ok (.found location (.file content)) := by
  induction budget generalizing folder steps place with
  | zero =>
      rw [walk] at hwalk ⊢
      refine descend_set hends content (fun _ _ _ _ hlink _ => ?_) hwalk hplace
      cases hlink
  | succ budget ih =>
      rw [walk] at hwalk ⊢
      exact descend_set hends content (fun _ _ _ _ hlink hend => ih hlink hend) hwalk hplace

end Tree

namespace Disk

/-- A path that can be walked is checked first, and then walked step by step. -/
theorem walk_eq_ok_iff {disk : Disk} {followLast : Bool} {path : Path} {place : Place} :
    disk.walk followLast path = .ok place ↔
      (path.text.toList.contains '\x00' = false ∧ path.text ≠ "" ∧
        path.text.utf8ByteSize ≤ Tree.longestPath) ∧
      disk.tree.walk followLast Tree.linkBudget (if path.isAbsolute then [] else disk.here)
        path.steps = .ok place := by
  rw [walk, Outcome.guard_eq_ok_iff, Outcome.guard_eq_ok_iff, Outcome.guard_eq_ok_iff,
    Bool.not_eq_true, Nat.not_lt, and_assoc, and_assoc]

/-- A walk along a path that ends where no walk goes on ends there when a text is put there. -/
theorem walk_putText {disk : Disk} {path : Path} {place : Place}
    (hwalk : disk.walk true path = .ok place) (hends : disk.tree.Ends place.location)
    (text : String) :
    (disk.putText place.location text).walk true path =
      .ok (.found place.location (.file (.text text))) := by
  obtain ⟨hchecks, hsteps⟩ := walk_eq_ok_iff.mp hwalk
  exact walk_eq_ok_iff.mpr ⟨hchecks, Tree.walk_set hends (.text text) hsteps rfl⟩

/-- A text is put where a walk along the path ends: in a file, or where there is nothing yet. -/
theorem exists_walk_of_writeText {disk after : Disk} {path : Path} {text : String}
    (h : disk.writeText path text = .ok after) :
    ∃ place, disk.walk true path = .ok place ∧ disk.tree.Ends place.location ∧
      after = disk.putText place.location text := by
  unfold writeText at h
  split at h
  · rename_i location content hwalk
    have hget : disk.tree.get? location = some (.file content) :=
      Tree.get?_of_walk (walk_eq_ok_iff.mp hwalk).2
    exact ⟨_, hwalk, by simp [Tree.Ends, Place.location, hget], (Except.ok.inj h).symm⟩
  · cases h
  · rename_i folder name hwalk
    have hget : disk.tree.get? (folder ++ [name]) = none :=
      Tree.get?_of_walk_vacant (walk_eq_ok_iff.mp hwalk).2
    exact ⟨_, hwalk, by simp [Tree.Ends, Place.location, hget], (Except.ok.inj h).symm⟩
  · split at h <;> cases h
  · cases h

/-- A text that was written to a path is read from it. -/
theorem readText_of_writeText {disk after : Disk} {path : Path} {text : String}
    (h : disk.writeText path text = .ok after) : after.readText path = .ok text := by
  obtain ⟨place, hwalk, hends, rfl⟩ := exists_walk_of_writeText h
  unfold readText readContent resolve
  rw [walk_putText hwalk hends text]

end Disk

end Remedy
