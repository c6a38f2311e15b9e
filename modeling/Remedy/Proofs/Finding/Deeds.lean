import Mathlib.Data.List.Forall2
import Mathlib.Data.List.Nodup
import Remedy.Proofs.Finding.Stopping

/-!
# Findings through a run of deeds

A rule is written down twice for each finding: the finding names it, and so does the group that the
finding is in.  No deed makes the two differ, and none opens a second group of a rule, not even a
removal that breaks off and leaves a group without findings.  If findings are only pushed, the
groups are also in the order in which their rules were first seen, and no finding is lost.
-/

namespace Remedy

namespace Findings

/-- Findings by rule: a rule has a single group, which holds findings of the rule, or none. -/
structure AreGrouped (groups : List (String × List Finding)) : Prop where
  named : ∀ group ∈ groups, ∀ finding ∈ group.2, finding.rule = group.1
  distinct : (groups.map (·.1)).Nodup

/-- What can be done to findings. -/
inductive Deed where
  | push (finding : Finding)
  | rebase (root : Path)
  | remove (disk : Disk) (root : Path) (known : List Fingerprint)

/-- The findings that a deed leaves; a removal that fails leaves some, too. -/
def Deed.apply (findings : Findings) : Deed → Findings
  | .push finding => findings.push finding
  | .rebase root => findings.rebase root
  | .remove disk root known =>
      match findings.removal disk root known with
      | .ok removal => removal.left
      | .error stop => stop.left

/-- Findings that deeds can lead to, from none or from those of a document. -/
inductive Reachable : Findings → Prop where
  | empty : Reachable .empty
  | parsed {text : String} {findings : Findings} (h : parse? text = some findings) :
      Reachable findings
  | step {findings : Findings} (h : Reachable findings) (deed : Deed) :
      Reachable (deed.apply findings)

theorem Tidy.areGrouped {groups : List (String × List Finding)} (h : Tidy groups) :
    AreGrouped groups :=
  ⟨h.named, List.pairwise_map.mpr h.distinct⟩

/-- A group is still of the same rule, and no finding in it is of a rule that was not there. -/
def Thins (old new : String × List Finding) : Prop :=
  new.1 = old.1 ∧ ∀ finding ∈ new.2, ∃ other ∈ old.2, finding.rule = other.rule

theorem map_fst_extend (finding : Finding) (groups : List (String × List Finding)) :
    (groups.map (extend finding)).map (·.1) = groups.map (·.1) := by
  rw [List.map_map]
  exact List.map_congr_left fun group _ => fst_extend finding group

namespace AreGrouped

variable {groups : List (String × List Finding)}

/-- A finding goes to the group of its rule, or it opens one. -/
theorem push (h : AreGrouped groups) (finding : Finding) :
    AreGrouped (push.pushGroup finding groups) := by
  obtain ⟨hnamed, hdistinct⟩ := h
  by_cases hseen : ∃ group ∈ groups, group.1 = finding.rule
  · rw [pushGroup_of_mem (List.pairwise_map.mp hdistinct) hseen]
    refine ⟨fun group hgroup => ?_, ?_⟩
    · obtain ⟨old, hold, rfl⟩ := List.mem_map.mp hgroup
      unfold extend
      split
      · rename_i hrule
        exact List.forall_mem_append.mpr
          ⟨hnamed old hold, List.forall_mem_singleton.mpr hrule.symm⟩
      · exact hnamed old hold
    · rwa [map_fst_extend]
  · have hnew : ∀ group ∈ groups, group.1 ≠ finding.rule :=
      fun group hgroup heq => hseen ⟨group, hgroup, heq⟩
    rw [pushGroup_of_not_mem hnew]
    refine ⟨List.forall_mem_append.mpr ⟨hnamed, ?_⟩, ?_⟩
    · exact List.forall_mem_singleton.mpr (List.forall_mem_singleton.mpr rfl)
    · rw [List.map_append, List.map_singleton, List.nodup_append]
      refine ⟨hdistinct, List.nodup_singleton _, fun rule hrule last hlast => ?_⟩
      obtain ⟨group, hgroup, rfl⟩ := List.mem_map.mp hrule
      rw [List.mem_singleton.mp hlast]
      exact hnew group hgroup

/-- Groups that are thinned one by one stay groups of their rules. -/
theorem of_thins {thinned : List (String × List Finding)} (h : AreGrouped groups)
    (hthins : List.Forall₂ Thins groups thinned) : AreGrouped thinned := by
  have hsame : thinned.map (·.1) = groups.map (·.1) := by
    induction hthins with
    | nil => rfl
    | cons hfirst _ ih =>
        obtain ⟨hnamed, hdistinct⟩ := h
        rw [List.map_cons, List.map_cons, hfirst.1,
          ih ⟨(List.forall_mem_cons.mp hnamed).2, hdistinct.of_cons⟩]
  refine ⟨?_, hsame ▸ h.distinct⟩
  replace h := h.named
  induction hthins with
  | nil => exact List.forall_mem_nil _
  | cons hfirst _ ih =>
      obtain ⟨hnamed, hrest⟩ := List.forall_mem_cons.mp h
      obtain ⟨_, hsame⟩ := List.cons.inj hsame
      refine List.forall_mem_cons.mpr ⟨fun finding hfinding => ?_, ih hsame hrest⟩
      obtain ⟨other, hother, hrule⟩ := hfirst.2 finding hfinding
      rw [hrule, hfirst.1]
      exact hnamed other hother

theorem filter (h : AreGrouped groups) (keeps : String × List Finding → Bool) :
    AreGrouped (groups.filter keeps) :=
  ⟨fun group hgroup => h.named group (List.mem_filter.mp hgroup).1,
    h.distinct.sublist (List.filter_sublist.map _)⟩

end AreGrouped

theorem thins_refl (group : String × List Finding) : Thins group group :=
  ⟨rfl, fun finding hfinding => ⟨finding, hfinding, rfl⟩⟩

theorem thins_rebase (root : Path) (groups : List (String × List Finding)) :
    List.Forall₂ Thins groups
      (groups.map fun group => (group.1, group.2.map (Finding.rebase root))) := by
  refine List.forall₂_map_right_iff.mpr (List.forall₂_same.mpr fun group _ => ⟨rfl, ?_⟩)
  intro finding hfinding
  obtain ⟨other, hother, rfl⟩ := List.mem_map.mp hfinding
  refine ⟨other, hother, ?_⟩
  unfold Finding.rebase
  split <;> rfl

theorem thins_sift (disk : Disk) (root : Path) (known : List Fingerprint)
    (groups : List (String × List Finding)) :
    List.Forall₂ Thins groups (sift disk root known groups) := by
  refine List.forall₂_map_right_iff.mpr (List.forall₂_same.mpr fun group _ => ⟨rfl, ?_⟩)
  exact fun finding hfinding => ⟨finding, (List.mem_filter.mp hfinding).1, rfl⟩

/-- A removal that breaks off has thinned the groups it came to, one of them out of existence. -/
theorem BreaksOff.thins {disk : Disk} {root : Path} {known : List Fingerprint}
    {groups : List (String × List Finding)} {stop : RemovalStop}
    (h : BreaksOff disk root known groups stop) : List.Forall₂ Thins groups stop.left.groups := by
  obtain ⟨before, rule, found, after, rfl, -, -, hleft⟩ := h
  rw [hleft]
  refine List.rel_append (thins_sift disk root known before) (.cons ⟨rfl, ?_⟩ ?_)
  · exact List.forall_mem_nil _
  · exact List.forall₂_same.mpr fun group _ => thins_refl group

/-- Findings stay grouped, whatever is done to them. -/
theorem AreGrouped.apply {findings : Findings} (h : AreGrouped findings.groups) (deed : Deed) :
    AreGrouped (deed.apply findings).groups := by
  cases deed with
  | push finding => exact h.push finding
  | rebase root => exact h.of_thins (thins_rebase root findings.groups)
  | remove disk root known =>
      rw [Deed.apply]
      cases hremoval : findings.removal disk root known with
      | ok removal =>
          obtain ⟨-, rfl⟩ := removal_eq_ok_iff.mp hremoval
          exact (h.of_thins (thins_sift disk root known findings.groups)).filter _
      | error stop => exact h.of_thins (removal_eq_error_iff.mp hremoval).thins

/-- Findings are grouped wherever deeds can lead to. -/
theorem Reachable.areGrouped {findings : Findings} (h : Reachable findings) :
    AreGrouped findings.groups := by
  induction h with
  | empty => exact ⟨List.forall_mem_nil _, List.nodup_nil⟩
  | parsed hparse =>
      obtain ⟨listed, -, rfl⟩ := Option.map_eq_some_iff.mp hparse
      exact (tidy_ofList listed).areGrouped
  | step _ deed ih => exact ih.apply deed

/-- Findings are those of a list, sorted by rule. -/
structure Sorts (listed : List Finding) (findings : Findings) : Prop where
  rules : findings.groups.map (·.1) = (listed.map (·.rule)).eraseDups
  found : ∀ rule, findings.get? rule =
    if ofRule listed rule = [] then none else some (ofRule listed rule)
  perm : findings.toList.Perm listed
  size : findings.size = listed.length

theorem mem_map_fst_ofList {listed : List Finding} {rule : String} :
    rule ∈ (ofList listed).groups.map (·.1) ↔ rule ∈ listed.map (·.rule) := by
  simpa using (grouped_ofList listed).exists_group_iff rule

/-- The groups are in the order in which their rules were first seen. -/
theorem map_fst_ofList (listed : List Finding) :
    (ofList listed).groups.map (·.1) = (listed.map (·.rule)).eraseDups := by
  induction listed using List.reverseRecOn with
  | nil => rfl
  | append_singleton listed finding ih =>
      have hdistinct := (grouped_ofList listed).pairwise_ne
      rw [ofList_concat, List.map_append, List.eraseDups_append, ← ih, List.map_singleton]
      change (push.pushGroup finding (ofList listed).groups).map (·.1) = _
      by_cases hseen : finding.rule ∈ listed.map (·.rule)
      · obtain ⟨group, hgroup, hrule⟩ := List.mem_map.mp (mem_map_fst_ofList.mpr hseen)
        rw [pushGroup_of_mem hdistinct ⟨group, hgroup, hrule⟩, map_fst_extend,
          List.cons_removeAll, if_neg (by simpa using hseen), List.nil_removeAll,
          List.eraseDups_nil, List.append_nil]
      · have hnew : ∀ group ∈ (ofList listed).groups, group.1 ≠ finding.rule :=
          fun group hgroup heq =>
            hseen (mem_map_fst_ofList.mp (List.mem_map.mpr ⟨group, hgroup, heq⟩))
        rw [pushGroup_of_not_mem hnew, List.map_append, List.cons_removeAll,
          if_pos (by simpa using hseen), List.nil_removeAll, List.eraseDups_cons]
        rfl

/-- The findings of a rule are those of the list, in their order; a rule without any is not there. -/
theorem get?_ofList (listed : List Finding) (rule : String) :
    (ofList listed).get? rule =
      if ofRule listed rule = [] then none else some (ofRule listed rule) := by
  have hgrouped := grouped_ofList listed
  have htidy := tidy_ofList listed
  unfold get?
  cases hlookup : (ofList listed).groups.lookup rule with
  | some found =>
      obtain ⟨before, after, hsplit, -⟩ := List.lookup_eq_some_iff.mp hlookup
      have hgroup : (rule, found) ∈ (ofList listed).groups := by
        rw [hsplit]
        exact List.mem_append_right _ List.mem_cons_self
      obtain rfl : found = ofRule listed rule := hgrouped.found _ hgroup
      rw [if_neg (htidy.filled _ hgroup)]
  | none =>
      have hnone := List.lookup_eq_none_iff.mp hlookup
      refine (if_pos (List.filter_eq_nil_iff.mpr fun finding hfinding hrule => ?_)).symm
      obtain ⟨group, hgroup, hsame⟩ := hgrouped.complete finding hfinding
      simp only [decide_eq_true_eq] at hrule
      simpa [hsame, hrule] using hnone group hgroup

/-- A finding that is pushed is there besides those that were. -/
theorem flatMap_pushGroup_perm (finding : Finding) (groups : List (String × List Finding)) :
    ((push.pushGroup finding groups).flatMap (·.2)).Perm (finding :: groups.flatMap (·.2)) := by
  induction groups with
  | nil => exact .refl _
  | cons group rest ih =>
      obtain ⟨rule, found⟩ := group
      rw [push.pushGroup]
      split
      · simp only [List.flatMap_cons, List.append_assoc, List.singleton_append]
        exact List.perm_middle
      · simp only [List.flatMap_cons]
        exact (ih.append_left found).trans List.perm_middle

theorem toList_ofList_perm (listed : List Finding) : (ofList listed).toList.Perm listed := by
  induction listed using List.reverseRecOn with
  | nil => exact .refl _
  | append_singleton listed finding ih =>
      rw [ofList_concat]
      exact ((flatMap_pushGroup_perm finding (ofList listed).groups).trans (ih.cons finding)).trans
        (List.perm_append_singleton finding listed).symm

theorem sorts_ofList (listed : List Finding) : Sorts listed (ofList listed) :=
  ⟨map_fst_ofList listed, get?_ofList listed, toList_ofList_perm listed,
    (toList_ofList_perm listed).length_eq⟩

/--
Findings that deeds have led to are grouped by rule, and findings that were only pushed are those
of a list, sorted by rule.
-/
theorem reachable_areGrouped_and_ofList_sorts :
    (∀ findings, Reachable findings → AreGrouped findings.groups) ∧
      ∀ listed, Sorts listed (ofList listed) :=
  ⟨fun _ => Reachable.areGrouped, sorts_ofList⟩

/-- A removal that fails over a finding in a file that is not there leaves a group without any. -/
theorem areGrouped_emptied_and_sorts_in_turn : ∃ findings, Reachable findings ∧
    findings.groups.map (fun group => (group.1, group.2.length)) = [("r", 0), ("s", 1)] ∧
    AreGrouped findings.groups ∧
    Sorts [onLine "s" 1, onLine "r" 1, onLine "s" 2]
      (ofList [onLine "s" 1, onLine "r" 1, onLine "s" 2]) := by
  have hreachable : Reachable ((Deed.remove (diskOf "one\n") ⟨"/"⟩ []).apply
      ((Deed.push (onLine "s" 1)).apply
        ((Deed.push { onLine "r" 1 with path := ⟨"gone.txt"⟩ }).apply .empty))) :=
    ((Reachable.empty.step _).step _).step _
  refine ⟨_, hreachable, by decide +kernel, ?_, ?_⟩
  · exact reachable_areGrouped_and_ofList_sorts.1 _ hreachable
  · exact reachable_areGrouped_and_ofList_sorts.2 _

end Findings

end Remedy
