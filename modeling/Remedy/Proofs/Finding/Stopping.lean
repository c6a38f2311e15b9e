import Remedy.Proofs.Finding.Removal

/-!
# Removals that break off

A removal breaks off at the first finding whose lines cannot be read.  The rules before it have
been sorted by then, and the findings of its own rule, which are being sorted, are all gone.  So a
removal leaves all findings as they were just if it does not break off.
-/

namespace Remedy

open Outcome

theorem Finding.fingerprint_eq_error_iff {finding : Finding} {disk : Disk} {root : Path}
    {failure : ReadFailure} :
    finding.fingerprint disk root = .error failure ↔
      finding.lines disk root = .error failure := by
  unfold Finding.fingerprint
  rw [bind_eq_error_iff, or_iff_left]
  rintro ⟨lines, -, hend⟩
  cases hend

namespace Findings

variable {disk : Disk} {root : Path} {known : List Fingerprint}

/-- Of some findings one is the first whose lines cannot be read. -/
def BreaksAt (disk : Disk) (root : Path) (found : List Finding) (failure : ReadFailure) : Prop :=
  ∃ seen finding unseen, found = seen ++ finding :: unseen ∧ Readable disk root seen ∧
    finding.lines disk root = .error failure

theorem breaksAt_cons {finding : Finding} {rest : List Finding} {failure : ReadFailure} :
    BreaksAt disk root (finding :: rest) failure ↔
      finding.lines disk root = .error failure ∨
        (∃ lines, finding.lines disk root = .ok lines) ∧ BreaksAt disk root rest failure := by
  constructor
  · rintro ⟨seen, stopper, unseen, hfound, hseen, hstop⟩
    rcases List.cons_eq_append_iff.mp hfound with ⟨rfl, hsame⟩ | ⟨more, rfl, hrest⟩
    · obtain ⟨rfl, rfl⟩ := List.cons.inj hsame
      exact .inl hstop
    · obtain ⟨hfirst, hmore⟩ := List.forall_mem_cons.mp hseen
      exact .inr ⟨hfirst, more, stopper, unseen, hrest, hmore, hstop⟩
  · rintro (hstop | ⟨hfirst, seen, stopper, unseen, rfl, hseen, hstop⟩)
    · exact ⟨[], finding, rest, rfl, List.forall_mem_nil _, hstop⟩
    · exact ⟨finding :: seen, stopper, unseen, rfl, List.forall_mem_cons.mpr ⟨hfirst, hseen⟩, hstop⟩

/-- Sorting findings breaks off at the first one whose lines cannot be read. -/
theorem unmatched_eq_error_iff {found : List Finding} {failure : ReadFailure} :
    unmatched disk root known found = .error failure ↔ BreaksAt disk root found failure := by
  induction found with
  | nil => simp [unmatched, BreaksAt]
  | cons finding rest ih =>
      rw [breaksAt_cons, unmatched, bind_eq_error_iff, Finding.fingerprint_eq_error_iff, ← ih]
      refine or_congr_right ?_
      constructor
      · rintro ⟨fingerprint, hfirst, hrest⟩
        obtain ⟨lines, hlines, -⟩ := Finding.fingerprint_eq_ok_iff.mp hfirst
        refine ⟨⟨lines, hlines⟩, ?_⟩
        rcases bind_eq_error_iff.mp hrest with hstop | ⟨sorted, -, hend⟩
        · exact hstop
        · cases hend
      · rintro ⟨⟨lines, hlines⟩, hrest⟩
        refine ⟨_, Finding.fingerprint_eq_ok_iff.mpr ⟨lines, hlines, rfl⟩, ?_⟩
        exact bind_eq_error_iff.mpr (.inl hrest)

/-- Groups of findings without the known ones. -/
def sift (disk : Disk) (root : Path) (known : List Fingerprint)
    (groups : List (String × List Finding)) : List (String × List Finding) :=
  groups.map fun group =>
    (group.1, group.2.filter fun finding => !isKnown disk root known finding)

/--
A removal has broken off.  The rules before the one at which it did are without the known findings,
that one is without any, and the others are as they were.
-/
def BreaksOff (disk : Disk) (root : Path) (known : List Fingerprint)
    (groups : List (String × List Finding)) (stop : RemovalStop) : Prop :=
  ∃ before rule found after, groups = before ++ (rule, found) :: after ∧
    Readable disk root (before.flatMap (·.2)) ∧ BreaksAt disk root found stop.failure ∧
    stop.left.groups = sift disk root known before ++ (rule, []) :: after

theorem unmatchedGroups_eq_error_iff {groups : List (String × List Finding)}
    {stop : RemovalStop} :
    unmatchedGroups disk root known groups = .error stop ↔
      BreaksOff disk root known groups stop := by
  induction groups generalizing stop with
  | nil => simp [unmatchedGroups, BreaksOff]
  | cons group rest ih =>
      obtain ⟨rule, found⟩ := group
      rw [unmatchedGroups]
      constructor
      · intro h
        split at h
        · rename_i failure hfound
          cases h
          exact ⟨[], rule, found, rest, rfl, List.forall_mem_nil _,
            unmatched_eq_error_iff.mp hfound, rfl⟩
        · rename_i count kept hfound
          obtain ⟨hreadable, hkept⟩ := unmatched_eq_ok_iff.mp hfound
          split at h
          · rename_i inner hrest
            cases h
            obtain ⟨before, name, stopped, after, rfl, hbefore, hbreaks, hleft⟩ := ih.mp hrest
            refine ⟨(rule, found) :: before, name, stopped, after, rfl, ?_, hbreaks, ?_⟩
            · exact List.forall_mem_append.mpr ⟨hreadable, hbefore⟩
            · rw [hleft, (Prod.mk.inj hkept).2]
              rfl
          · cases h
      · rintro ⟨before, name, stopped, after, hgroups, hbefore, hbreaks, hleft⟩
        obtain ⟨failure, left⟩ := stop
        obtain ⟨remaining⟩ := left
        obtain rfl : remaining = _ := hleft
        rcases List.cons_eq_append_iff.mp hgroups with ⟨rfl, hsame⟩ | ⟨more, rfl, hrest⟩
        · obtain ⟨hgroup, rfl⟩ := List.cons.inj hsame
          obtain ⟨rfl, rfl⟩ := Prod.mk.inj hgroup
          rw [unmatched_eq_error_iff.mpr hbreaks]
          rfl
        · obtain ⟨hfirst, hmore⟩ := List.forall_mem_append.mp hbefore
          have hinner : unmatchedGroups disk root known rest =
              .error ⟨failure, ⟨sift disk root known more ++ (name, []) :: after⟩⟩ :=
            ih.mpr ⟨more, name, stopped, after, hrest, hmore, hbreaks, rfl⟩
          rw [unmatched_eq_ok_iff.mpr ⟨hfirst, rfl⟩]
          dsimp only
          rw [hinner]
          rfl

/-- A removal that fails has broken off, and tells why and what is left. -/
theorem removal_eq_error_iff {findings : Findings} {stop : RemovalStop} :
    findings.removal disk root known = .error stop ↔
      BreaksOff disk root known findings.groups stop := by
  rw [← unmatchedGroups_eq_error_iff, removal]
  cases unmatchedGroups disk root known findings.groups with
  | error inner => simp [Except.map]
  | ok sorted => simp [Except.map]

/-- A removal that breaks off loses a finding at least. -/
theorem size_left_lt {findings : Findings} {stop : RemovalStop}
    (h : findings.removal disk root known = .error stop) : stop.left.size < findings.size := by
  obtain ⟨before, rule, found, after, hgroups, -, hbreaks, hleft⟩ := removal_eq_error_iff.mp h
  obtain ⟨seen, finding, unseen, rfl, -, -⟩ := hbreaks
  have hsift : (sift disk root known before).flatMap (·.2) =
      (before.flatMap (·.2)).filter fun finding => !isKnown disk root known finding := by
    rw [sift, List.flatMap_map, List.filter_flatMap]
  have hkept := List.length_filter_le (fun finding => !isKnown disk root known finding)
    (before.flatMap (·.2))
  unfold size toList
  rw [hgroups, hleft]
  simp only [List.flatMap_append, List.flatMap_cons, List.length_append, List.length_cons,
    List.length_nil, hsift]
  omega

/-- A removal leaves all findings as they were when it fails. -/
def KeepsAll (disk : Disk) (root : Path) (known : List Fingerprint) (findings : Findings) : Prop :=
  ∀ stop, findings.removal disk root known = .error stop → stop.left = findings

/-- A removal that fails leaves no findings as they were: all lines have to be readable. -/
theorem keepsAll_iff_readable {findings : Findings} :
    KeepsAll disk root known findings ↔ Readable disk root findings.toList := by
  constructor
  · intro h
    cases hremoval : findings.removal disk root known with
    | error stop =>
        have hlost := size_left_lt hremoval
        rw [h stop hremoval] at hlost
        exact absurd hlost (Nat.lt_irrefl _)
    | ok removal => exact (removal_eq_ok_iff.mp hremoval).1
  · intro h stop hstop
    rw [removal_eq_ok_iff.mpr ⟨h, rfl⟩] at hstop
    cases hstop

/-- Two findings of a rule, of which the second is in a file that is not there. -/
def halfGone : Findings :=
  ofList [onLine "r" 1, { onLine "r" 1 with path := ⟨"gone.txt"⟩ }]

theorem not_forall_keepsAll : ¬∀ (disk : Disk) (root : Path) (known : List Fingerprint)
    (findings : Findings), KeepsAll disk root known findings := by
  intro h
  have hbroken : (halfGone.removal (diskOf "one\n") ⟨"/"⟩ []).toOption.isNone = true := by
    decide +kernel
  cases hremoval : halfGone.removal (diskOf "one\n") ⟨"/"⟩ [] with
  | ok removal =>
      rw [hremoval] at hbroken
      cases hbroken
  | error stop =>
      have hlost := size_left_lt hremoval
      rw [h _ _ _ _ stop hremoval] at hlost
      exact absurd hlost (Nat.lt_irrefl _)

end Findings

end Remedy
