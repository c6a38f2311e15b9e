import Remedy.Proofs.Finding.Order

/-!
# Grouping again

The findings of groups, listed rule by rule, are in these groups again when they are grouped.
-/

namespace Remedy

namespace Findings

/-- Groups that findings by rule can be in: a rule has one group, which holds findings of it. -/
structure Tidy (groups : List (String × List Finding)) : Prop where
  named : ∀ group ∈ groups, ∀ finding ∈ group.2, finding.rule = group.1
  filled : ∀ group ∈ groups, group.2 ≠ []
  distinct : groups.Pairwise fun a b => a.1 ≠ b.1

theorem tidy_ofList (listed : List Finding) : Tidy (ofList listed).groups := by
  have hgrouped := grouped_ofList listed
  refine ⟨fun group hgroup finding hfinding => ?_, fun group hgroup => ?_,
    hgrouped.pairwise_ne⟩
  · rw [hgrouped.found group hgroup] at hfinding
    simpa using (List.mem_filter.mp hfinding).2
  · obtain ⟨finding, hfinding, hrule⟩ := hgrouped.seen group hgroup
    rw [hgrouped.found group hgroup]
    exact List.ne_nil_of_mem (List.mem_filter.mpr ⟨hfinding, by simpa using hrule⟩)

/-- Only findings that were listed are in a group. -/
theorem mem_of_mem_toList_ofList {listed : List Finding} {finding : Finding}
    (h : finding ∈ (ofList listed).toList) : finding ∈ listed := by
  obtain ⟨group, hgroup, hfinding⟩ := List.mem_flatMap.mp h
  rw [(grouped_ofList listed).found group hgroup] at hfinding
  exact (List.mem_filter.mp hfinding).1

/-- A finding of the last rule goes to the end of its group. -/
theorem pushGroup_last {finding : Finding} {groups : List (String × List Finding)}
    (hnew : ∀ group ∈ groups, group.1 ≠ finding.rule) (found : List Finding) :
    push.pushGroup finding (groups ++ [(finding.rule, found)]) =
      groups ++ [(finding.rule, found ++ [finding])] := by
  induction groups with
  | nil => rw [List.nil_append, push.pushGroup, if_pos rfl, List.nil_append]
  | cons group rest ih =>
      obtain ⟨hfirst, hrest⟩ := List.forall_mem_cons.mp hnew
      rw [List.cons_append, push.pushGroup, if_neg hfirst, ih hrest, List.cons_append]

/-- Findings of one new rule, pushed one after the other, make up a group. -/
theorem foldl_push_group {groups : List (String × List Finding)} {rule : String}
    {found : List Finding} (hnew : ∀ group ∈ groups, group.1 ≠ rule) (hne : found ≠ [])
    (hnamed : ∀ finding ∈ found, finding.rule = rule) :
    found.foldl push ⟨groups⟩ = ⟨groups ++ [(rule, found)]⟩ := by
  induction found using List.reverseRecOn with
  | nil => exact absurd rfl hne
  | append_singleton front last ih =>
      obtain rfl := hnamed last (by simp)
      rw [List.foldl_append, List.foldl_cons, List.foldl_nil]
      by_cases hfront : front = []
      · subst hfront
        exact congrArg Findings.mk (pushGroup_of_not_mem hnew)
      · rw [ih hfront fun finding hfinding => hnamed finding (by simp [hfinding])]
        exact congrArg Findings.mk (pushGroup_last hnew front)

/-- Groups of findings are found again from the list of the findings. -/
theorem ofList_flatMap {groups : List (String × List Finding)} (h : Tidy groups) :
    ofList (groups.flatMap (·.2)) = ⟨groups⟩ := by
  induction groups using List.reverseRecOn with
  | nil => rfl
  | append_singleton front last ih =>
      obtain ⟨hnamed, hfilled, hdistinct⟩ := h
      obtain ⟨hfront, -, hlast⟩ := List.pairwise_append.mp hdistinct
      have hearlier := ih ⟨fun group hgroup => hnamed group (by simp [hgroup]),
        fun group hgroup => hfilled group (by simp [hgroup]), hfront⟩
      unfold ofList at hearlier ⊢
      rw [List.flatMap_append, List.foldl_append, hearlier]
      simp only [List.flatMap_cons, List.flatMap_nil, List.append_nil]
      exact foldl_push_group (fun group hgroup => hlast group hgroup last (by simp))
        (hfilled last (by simp)) (hnamed last (by simp))

/-- Listing findings by rule and grouping them again changes nothing. -/
theorem ofList_toList_ofList (listed : List Finding) :
    ofList (ofList listed).toList = ofList listed :=
  ofList_flatMap (tidy_ofList listed)

end Findings

end Remedy
