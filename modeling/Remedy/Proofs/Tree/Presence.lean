import Remedy.Proofs.Tree.Reading

/-!
# What stands at a path

Something stands at a path even if it is a link that leads nowhere, and even if the path is too long
for the system.  Whether a path leads anywhere is another question, but these are the only two cases
in which the answer is another.
-/

namespace Remedy

namespace Tree

/--
Links at the end make the only difference: where a walk that leaves them alone does not end at one,
the walk that follows them is the same.
-/
theorem descend_true_eq {tree : Tree}
    {relink relinkFirst : Location → Path → List Path.Step → Except SystemError Place}
    (hrelink : ∀ folder target rest,
      (∀ location last, relinkFirst folder target rest ≠ .ok (.found location (.link last))) →
      relink folder target rest = relinkFirst folder target rest)
    {folder : Location} {steps : List Path.Step}
    (h : ∀ location last,
      descend tree false relinkFirst folder steps ≠ .ok (.found location (.link last))) :
    descend tree true relink folder steps = descend tree false relinkFirst folder steps := by
  induction steps generalizing folder with
  | nil => rfl
  | cons step rest ih =>
      cases step with
      | here => exact ih h
      | up => exact ih h
      | name name =>
          rw [descend] at h
          rw [descend, descend]
          split
          · rfl
          · rename_i hlength
            rw [if_neg hlength] at h
            cases hget : tree.get? (folder ++ [name]) with
            | none => rfl
            | some node =>
                rw [hget] at h
                cases node with
                | folder => exact ih h
                | file content => rfl
                | link target =>
                    dsimp only at h ⊢
                    by_cases hlast : rest = []
                    · rw [if_pos ⟨hlast, rfl⟩] at h
                      exact absurd rfl (h (folder ++ [name]) target)
                    · rw [if_neg fun hboth => hlast hboth.1] at h ⊢
                      rw [if_neg fun hboth => hlast hboth.1]
                      exact hrelink folder target rest h

theorem walk_true_eq {tree : Tree} {budget : Nat} {folder : Location} {steps : List Path.Step}
    (h : ∀ location last,
      walk tree false budget folder steps ≠ .ok (.found location (.link last))) :
    walk tree true budget folder steps = walk tree false budget folder steps := by
  induction budget generalizing folder steps with
  | zero => exact descend_true_eq (fun _ _ _ _ => rfl) h
  | succ budget ih => exact descend_true_eq (fun _ _ _ hlink => ih hlink) h

end Tree

namespace Disk

/-- Something stands at the path, whether it is a link or not, and however long the path is. -/
def isOccupied (disk : Disk) (path : Path) : Bool :=
  !path.text.toList.contains '\x00' && path.text ≠ "" &&
    match disk.tree.walk false Tree.linkBudget (if path.isAbsolute then [] else disk.here)
        path.steps with
    | .ok (.found _ _) => true
    | _ => false

/-- A link stands at the path, and it leads nowhere. -/
def isDangling (disk : Disk) (path : Path) : Bool :=
  disk.isLink path && !disk.leads path

variable {disk : Disk} {path : Path}

theorem isOccupied_iff :
    disk.isOccupied path = true ↔
      (path.text.toList.contains '\x00' = false ∧ path.text ≠ "") ∧
        ∃ location node, disk.tree.walk false Tree.linkBudget
          (if path.isAbsolute then [] else disk.here) path.steps = .ok (.found location node) := by
  rw [isOccupied, Bool.and_eq_true, Bool.and_eq_true, Bool.not_eq_true', decide_eq_true_eq]
  refine and_congr_right fun _ => ?_
  rcases disk.tree.walk false Tree.linkBudget (if path.isAbsolute then [] else disk.here)
    path.steps with error | ⟨location, node⟩ | ⟨folder, name⟩ <;> simp

theorem isSome_nodeAt?_iff_walk :
    (disk.nodeAt? path).isSome = true ↔
      ∃ location node, disk.walk false path = .ok (.found location node) := by
  rw [nodeAt?]
  rcases disk.walk false path with error | ⟨location, node⟩ | ⟨folder, name⟩ <;> simp

/-- What stands at a path is named by it, unless the path is too long. -/
theorem isSome_nodeAt?_iff :
    (disk.nodeAt? path).isSome = true ↔
      disk.isOccupied path = true ∧ path.text.utf8ByteSize ≤ Tree.longestPath := by
  simp only [isSome_nodeAt?_iff_walk, isOccupied_iff, walk_eq_ok_iff, exists_and_left]
  constructor
  · rintro ⟨⟨hfree, htext, hlength⟩, hwalk⟩
    exact ⟨⟨⟨hfree, htext⟩, hwalk⟩, hlength⟩
  · rintro ⟨⟨⟨hfree, htext⟩, hwalk⟩, hlength⟩
    exact ⟨⟨hfree, htext, hlength⟩, hwalk⟩

theorem leads_iff_walk :
    disk.leads path = true ↔ ∃ location node, disk.walk true path = .ok (.found location node) := by
  rw [leads, resolve]
  rcases disk.walk true path with error | ⟨location, node⟩ | ⟨folder, name⟩ <;> simp

theorem walk_true_eq (h : disk.isLink path = false) :
    disk.walk true path = disk.walk false path := by
  have hlink : ∀ location last, disk.walk false path ≠ .ok (.found location (.link last)) := by
    intro location last hwalk
    simp [isLink, nodeAt?, hwalk] at h
  unfold walk at hlink ⊢
  split
  · rfl
  · rename_i hfree
    rw [if_neg hfree] at hlink
    split
    · rfl
    · rename_i htext
      rw [if_neg htext] at hlink
      split
      · rfl
      · rename_i hlength
        rw [if_neg hlength] at hlink
        exact Tree.walk_true_eq hlink

/-- A link is something that stands there. -/
theorem isSome_nodeAt?_of_isLink (h : disk.isLink path = true) :
    (disk.nodeAt? path).isSome = true := by
  unfold isLink at h
  split at h
  · rename_i target hnode
    rw [hnode, Option.isSome_some]
  · cases h

/-- A path leads somewhere if something stands there, other than a link that leads nowhere. -/
theorem leads_iff :
    disk.leads path = true ↔
      (disk.isOccupied path = true ∧ path.text.utf8ByteSize ≤ Tree.longestPath) ∧
        disk.isDangling path = false := by
  rw [← isSome_nodeAt?_iff, isDangling]
  cases hlink : disk.isLink path with
  | true =>
      rw [isSome_nodeAt?_of_isLink hlink]
      simp
  | false =>
      rw [leads_iff_walk, walk_true_eq hlink, ← isSome_nodeAt?_iff_walk]
      simp

end Disk

end Remedy
