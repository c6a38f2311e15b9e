import Mathlib.Algebra.Ring.Nat

/-!
# Patches

A patch says that a stretch of a list gives way to a block.  Weaving puts patches that follow one
another into a list, all at once: what lies between them stays.  Two patches may as well be put in
one after the other, in either order, if the second one is moved by what the first one gains.
-/

namespace Remedy.Fix

/-- A block for the items from `start` to `stop`, the last of which is left out. -/
structure Patch (α : Type) where
  start : Nat
  stop : Nat
  block : List α

namespace Patch

variable {α : Type}

/-- How many items a list gains by a patch. -/
def gain (patch : Patch α) : Int :=
  (patch.block.length : Int) - (patch.stop - patch.start : Nat)

/-- The items behind the first `passed` ones, with patches that begin there or later put in. -/
def weave (items : List α) (passed : Nat) : List (Patch α) → List α
  | [] => items.drop passed
  | patch :: rest =>
      (items.take patch.start).drop passed ++ patch.block ++ weave items patch.stop rest

/-- Without patches everything stays. -/
@[simp] theorem weave_nil (items : List α) (passed : Nat) :
    weave items passed [] = items.drop passed := rfl

theorem weave_cons (items : List α) (passed : Nat) (patch : Patch α) (rest : List (Patch α)) :
    weave items passed (patch :: rest) =
      (items.take patch.start).drop passed ++ patch.block ++ weave items patch.stop rest := rfl

/-- A woven list holds nothing but the items and those of the blocks. -/
theorem mem_or_mem_of_mem_weave {items : List α} {passed : Nat} {patches : List (Patch α)}
    {item : α} (hitem : item ∈ weave items passed patches) :
    item ∈ items ∨ ∃ patch ∈ patches, item ∈ patch.block := by
  induction patches generalizing passed with
  | nil => exact .inl (List.mem_of_mem_drop hitem)
  | cons patch rest ih =>
      rw [weave_cons] at hitem
      rcases List.mem_append.mp hitem with hfront | hlater
      · rcases List.mem_append.mp hfront with hkept | hblock
        · exact .inl (List.mem_of_mem_take (List.mem_of_mem_drop hkept))
        · exact .inr ⟨patch, List.mem_cons_self, hblock⟩
      · rcases ih hlater with hkept | ⟨other, hother, hblock⟩
        · exact .inl hkept
        · exact .inr ⟨other, List.mem_cons_of_mem patch hother, hblock⟩

/-- What lies behind all patches stays behind. -/
theorem weave_eq_append {items : List α} {passed limit : Nat} {patches : List (Patch α)}
    (hlimit : ∀ patch ∈ patches, patch.start ≤ limit ∧ patch.stop ≤ limit)
    (hpassed : passed ≤ limit) :
    weave items passed patches =
      weave (items.take limit) passed patches ++ items.drop limit := by
  induction patches generalizing passed with
  | nil =>
      obtain ⟨more, rfl⟩ := Nat.exists_eq_add_of_le hpassed
      rw [weave_nil, weave_nil, ← List.drop_drop, List.drop_take, Nat.add_sub_cancel_left,
        List.take_append_drop]
  | cons patch rest ih =>
      obtain ⟨⟨hstart, hstop⟩, hrest⟩ := List.forall_mem_cons.mp hlimit
      rw [weave_cons, weave_cons, ih hrest hstop, List.take_take, Nat.min_eq_left hstart,
        ← List.append_assoc]

/-- A last patch is put in behind the others. -/
theorem weave_concat {items : List α} {passed : Nat} {patches : List (Patch α)}
    {last : Patch α} (hlast : ∀ patch ∈ patches, patch.start ≤ last.start) :
    weave items passed (patches ++ [last]) =
      weave (items.take last.start) passed patches ++ last.block ++ items.drop last.stop := by
  induction patches generalizing passed with
  | nil => rfl
  | cons patch rest ih =>
      obtain ⟨hstart, hrest⟩ := List.forall_mem_cons.mp hlast
      rw [List.cons_append, weave_cons, weave_cons, ih hrest, List.take_take,
        Nat.min_eq_left hstart]
      simp only [List.append_assoc]

/-- Holds if patches follow one another, the first one behind the first `passed` items. -/
def Ordered (passed : Nat) : List (Patch α) → Prop
  | [] => True
  | patch :: rest => passed ≤ patch.start ∧ patch.start ≤ patch.stop ∧ Ordered patch.stop rest

/-- Patches each of which ends in front of all later ones follow one another. -/
theorem ordered_of_pairwise {passed : Nat} {patches : List (Patch α)}
    (hfirst : ∀ patch ∈ patches, passed ≤ patch.start)
    (hstop : ∀ patch ∈ patches, patch.start ≤ patch.stop)
    (hapart : patches.Pairwise fun a b => a.stop ≤ b.start) : Ordered passed patches := by
  induction patches generalizing passed with
  | nil => trivial
  | cons patch rest ih =>
      obtain ⟨hhead, hrest⟩ := List.pairwise_cons.mp hapart
      obtain ⟨hspan, hspans⟩ := List.forall_mem_cons.mp hstop
      exact ⟨hfirst patch List.mem_cons_self, hspan, ih hhead hspans hrest⟩

/-- Putting patches in makes a list longer by their blocks at most. -/
theorem length_weave_le {items : List α} {passed : Nat} {patches : List (Patch α)}
    (hordered : Ordered passed patches) :
    (weave items passed patches).length ≤
      items.length - passed + (patches.map (·.block.length)).sum := by
  induction patches generalizing passed with
  | nil =>
      rw [weave_nil, List.length_drop]
      exact Nat.le_add_right _ _
  | cons patch rest ih =>
      obtain ⟨hfirst, hspan, hrest⟩ := hordered
      have hlater := ih hrest
      rw [weave_cons, List.length_append, List.length_append, List.length_drop,
        List.length_take, List.map_cons, List.sum_cons]
      omega

/-!
## Two patches
-/

/-- Two patches as they stand in a list; the first one is in front where both could be. -/
def both (first second : Patch α) : List (Patch α) :=
  if first.stop ≤ second.start then [first, second] else [second, first]

/-- A patch for the list into which an earlier one was put: what stands behind that has moved. -/
def after (patch earlier : Patch α) : Patch α :=
  if earlier.stop ≤ patch.start then
    ⟨earlier.start + earlier.block.length + (patch.start - earlier.stop),
      earlier.start + earlier.block.length + (patch.stop - earlier.stop), patch.block⟩
  else patch

@[simp] theorem block_after (patch earlier : Patch α) : (patch.after earlier).block = patch.block := by
  unfold after
  split <;> rfl

/-- Holds if a patch is for a stretch of a list. -/
structure Fits (patch : Patch α) (items : List α) : Prop where
  start_le : patch.start ≤ patch.stop
  stop_le : patch.stop ≤ items.length

variable {items : List α} {patch earlier : Patch α}

theorem weave_singleton (items : List α) (patch : Patch α) :
    weave items 0 [patch] = items.take patch.start ++ patch.block ++ items.drop patch.stop := by
  rw [weave_cons, List.drop_zero, weave_nil]

/-- How far a patch reaches can be told from the list into which it was put. -/
theorem weave_singleton_inj {start stop other : Nat} {block : List α} (hstop : stop ≤ items.length)
    (hother : other ≤ items.length) :
    weave items 0 [⟨start, stop, block⟩] = weave items 0 [⟨start, other, block⟩] ↔
      stop = other := by
  refine ⟨fun h => ?_, fun h => h ▸ rfl⟩
  have hlength := congrArg List.length h
  rw [weave_singleton, weave_singleton, List.length_append, List.length_append,
    List.length_append, List.length_append, List.length_drop, List.length_drop] at hlength
  dsimp only at hlength
  omega

/-- What a list has in front of the end of a patch that was put in. -/
theorem length_front (hearlier : earlier.Fits items) :
    (items.take earlier.start ++ earlier.block).length =
      earlier.start + earlier.block.length := by
  have hstart := hearlier.start_le
  have hstop := hearlier.stop_le
  rw [List.length_append, List.length_take, Nat.min_eq_left (by omega)]

/-- The list up to a place behind a patch that was put in. -/
theorem take_weave (hearlier : earlier.Fits items) (more : Nat) :
    (weave items 0 [earlier]).take (earlier.start + earlier.block.length + more) =
      items.take earlier.start ++ earlier.block ++ (items.drop earlier.stop).take more := by
  rw [weave_singleton, ← length_front hearlier, List.take_length_add_append]

/-- The list from a place behind a patch that was put in. -/
theorem drop_weave (hearlier : earlier.Fits items) (more : Nat) :
    (weave items 0 [earlier]).drop (earlier.start + earlier.block.length + more) =
      items.drop (earlier.stop + more) := by
  rw [weave_singleton, ← length_front hearlier, List.drop_length_add_append, List.drop_drop]

/-- A patch that was put in leaves what stands in front of it. -/
theorem take_weave_of_le (hearlier : earlier.Fits items) {index : Nat}
    (hindex : index ≤ earlier.start) :
    (weave items 0 [earlier]).take index = items.take index := by
  have hstart := hearlier.start_le
  have hstop := hearlier.stop_le
  rw [weave_singleton, List.append_assoc, List.take_append_of_le_length
    (by rw [List.length_take]; omega), List.take_take, Nat.min_eq_left hindex]

/-- From a place in front of a patch on, only the patch makes a difference. -/
theorem drop_weave_of_le (hearlier : earlier.Fits items) {index : Nat}
    (hindex : index ≤ earlier.start) :
    (weave items 0 [earlier]).drop index =
      (items.take earlier.start).drop index ++ earlier.block ++ items.drop earlier.stop := by
  have hstart := hearlier.start_le
  have hstop := hearlier.stop_le
  rw [weave_singleton, List.append_assoc, List.drop_append_of_le_length
    (by rw [List.length_take]; omega), List.append_assoc]

/-- A patch that has moved is for a stretch of the list into which the earlier one was put. -/
theorem Fits.after (hpatch : patch.Fits items) (hearlier : earlier.Fits items)
    (hapart : earlier.stop ≤ patch.start ∨ patch.stop ≤ earlier.start) :
    (patch.after earlier).Fits (weave items 0 [earlier]) := by
  have hlength : (weave items 0 [earlier]).length =
      earlier.start + earlier.block.length + (items.length - earlier.stop) := by
    rw [weave_singleton, List.length_append, length_front hearlier, List.length_drop]
  have hordered := hpatch.start_le
  have hstop := hpatch.stop_le
  have hspan := hearlier.start_le
  have hend := hearlier.stop_le
  unfold Patch.after
  split
  · exact ⟨by dsimp only; omega, by dsimp only; omega⟩
  · exact ⟨hordered, by omega⟩

/-- Where a patch has moved to there stands what it is for. -/
theorem stretch_after (hearlier : earlier.Fits items) (hpatch : patch.Fits items)
    (hapart : earlier.stop ≤ patch.start ∨ patch.stop ≤ earlier.start) :
    ((weave items 0 [earlier]).take (patch.after earlier).stop).drop
        (patch.after earlier).start =
      (items.take patch.stop).drop patch.start := by
  have hordered := hpatch.start_le
  unfold after
  split
  · rename_i hbehind
    dsimp only
    rw [take_weave hearlier, ← length_front hearlier, List.drop_length_add_append,
      List.drop_take, List.drop_take, List.drop_drop, Nat.add_sub_cancel' hbehind]
    congr 1
    omega
  · rename_i hfront
    rw [take_weave_of_le hearlier (hapart.resolve_left hfront)]

/-- Two patches that lie apart are put in at once by putting in one after the other. -/
theorem weave_after (hearlier : earlier.Fits items) (hpatch : patch.Fits items)
    (hapart : earlier.stop ≤ patch.start ∨ patch.stop ≤ earlier.start) :
    weave (weave items 0 [earlier]) 0 [patch.after earlier] =
      weave items 0 (both earlier patch) := by
  have hordered := hpatch.start_le
  rw [weave_singleton (weave items 0 [earlier])]
  unfold after both
  split
  · rename_i hbehind
    dsimp only
    rw [take_weave hearlier, drop_weave hearlier, Nat.add_sub_cancel' (by omega), weave_cons,
      weave_cons, weave_nil, List.drop_zero, List.drop_take]
    simp only [List.append_assoc]
  · rename_i hfront
    have hle := hapart.resolve_left hfront
    rw [take_weave_of_le hearlier (by omega), drop_weave_of_le hearlier hle, weave_cons,
      weave_cons, weave_nil, List.drop_zero]

end Patch

end Remedy.Fix
