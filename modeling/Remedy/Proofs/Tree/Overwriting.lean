import Remedy.Proofs.Tree.Writing

/-!
# Overwriting in place

A tree is kept as a list of nodes, of which the first at a location counts.  Rewrites put texts in
the place of nodes that stand in that list, so its shape stays.  Two trees that were overwritten
from the same one are equal as soon as they hold the same nodes.
-/

namespace Remedy

namespace Tree

/--
The second list comes from the first by putting other nodes in the place of some, but for nodes
that do not count because their location was seen before.
-/
inductive Overwritten : List Location → List (Location × Node) → List (Location × Node) → Prop where
  | nil {seen : List Location} : Overwritten seen [] []
  | cons {seen : List Location} {location : Location} {old new : Node}
      {rest after : List (Location × Node)} (hidden : location ∈ seen → new = old)
      (behind : Overwritten (location :: seen) rest after) :
      Overwritten seen ((location, old) :: rest) ((location, new) :: after)

namespace Overwritten

variable {seen : List Location} {nodes after other : List (Location × Node)}

theorem refl (seen : List Location) (nodes : List (Location × Node)) :
    Overwritten seen nodes nodes := by
  induction nodes generalizing seen with
  | nil => exact .nil
  | cons entry rest ih => exact .cons (fun _ => rfl) (ih _)

/-- A node may be put in the place of one that counts. -/
theorem put (h : Overwritten seen nodes after) {location : Location} (hseen : location ∉ seen)
    (hstands : (after.lookup location).isSome) (node : Node) :
    Overwritten seen nodes (set.put location node after) := by
  induction h with
  | nil => cases hstands
  | @cons seen first old new rest after hidden behind ih =>
      rw [set.put]
      by_cases heq : first = location
      · rw [if_pos heq]
        refine .cons (fun hmem => ?_) behind
        rw [heq] at hmem
        exact absurd hmem hseen
      · rw [if_neg heq]
        refine .cons hidden (ih ?_ ?_)
        · exact List.not_mem_cons_of_ne_of_not_mem (Ne.symm heq) hseen
        · have hfar : (location == first) = false := by simpa using Ne.symm heq
          rwa [List.lookup_cons, hfar] at hstands

/-- What comes from the same list is equal if the same nodes count in it. -/
theorem eq_of_lookup_eq (h : Overwritten seen nodes after) (hother : Overwritten seen nodes other)
    (hlookup : ∀ location, location ∉ seen → after.lookup location = other.lookup location) :
    after = other := by
  induction h generalizing other with
  | nil =>
      cases hother
      rfl
  | @cons seen first old new rest after hidden behind ih =>
      cases hother with
      | @cons _ _ _ newer _ others hiddenToo behindToo =>
          have hnode : new = newer := by
            by_cases hseen : first ∈ seen
            · rw [hidden hseen, hiddenToo hseen]
            · have hfirst := hlookup first hseen
              rw [List.lookup_cons_self, List.lookup_cons_self] at hfirst
              exact Option.some.inj hfirst
          have hrest : after = others := by
            refine ih behindToo fun location hlocation => ?_
            have hne := List.ne_of_not_mem_cons hlocation
            have hseen := List.not_mem_of_not_mem_cons hlocation
            have hfar : (location == first) = false := by simpa using hne
            have hbehind := hlookup location hseen
            rwa [List.lookup_cons, List.lookup_cons, hfar] at hbehind
          rw [hnode, hrest]

end Overwritten

end Tree

namespace Disk

/-- A disk comes from another by overwriting nodes that stand there. -/
structure Overwrites (disk after : Disk) : Prop where
  -- the top counts as seen: what is listed for it is never found
  nodes : Tree.Overwritten [[]] disk.tree.nodes after.tree.nodes
  here : disk.here = after.here

theorem Overwrites.refl (disk : Disk) : disk.Overwrites disk :=
  ⟨.refl _ _, rfl⟩

/-- Two disks that come from the same one are equal if the same nodes stand there. -/
theorem Overwrites.eq_of_get?_eq {disk after other : Disk} (h : disk.Overwrites after)
    (hother : disk.Overwrites other)
    (hget : ∀ location, after.tree.get? location = other.tree.get? location) : after = other := by
  have hnodes : after.tree.nodes = other.tree.nodes := by
    refine h.nodes.eq_of_lookup_eq hother.nodes fun location hlocation => ?_
    have hne : location ≠ [] := by simpa using hlocation
    have hsame := hget location
    rwa [Tree.get?, Tree.get?, if_neg hne, if_neg hne] at hsame
  have hhere : after.here = other.here := h.here.symm.trans hother.here
  obtain ⟨⟨nodes⟩, here⟩ := after
  obtain ⟨⟨others⟩, there⟩ := other
  cases hnodes
  cases hhere
  rfl

/-- A rewrite overwrites the file that it is for. -/
theorem Overwrites.apply {disk before after : Disk} {rewrite : Rewrite}
    {outcome : Rewrite.Outcome} (h : disk.Overwrites before)
    (happly : rewrite.apply before = .ok (after, outcome)) : disk.Overwrites after := by
  unfold Rewrite.apply at happly
  split at happly
  · cases happly
  · cases happly
  · cases happly
  · cases happly
  · rename_i location current hresolve
    split at happly
    · cases happly
      exact h
    · split at happly
      · cases happly
        have hget := get?_of_resolve hresolve
        have hne := Tree.ne_nil_of_get?_file hget
        rw [Tree.get?, if_neg hne] at hget
        refine ⟨h.nodes.put (by simpa using hne) ?_ _, h.here⟩
        rw [hget]
        rfl
      · cases happly

end Disk

end Remedy
