import Remedy.Finding.Fingerprint
import Remedy.Proofs.Finding.RoundTrip

/-!
# Taking out what was there before

Fingerprints are compared by rule, path, lines and the digest of the lines.  The digest adds
nothing, so a finding is taken out just if an earlier one has its rule, its path and, each in the
files of its time, its lines.  The others stay in their order, and what stays can be written and
read like any document.
-/

namespace Remedy

open Outcome

/-!
## Fingerprints
-/

namespace Finding

/-- Holds if an earlier finding has the rule and the path of a later one, and the same lines. -/
def recurs (before now : Disk) (root : Path) (earlier later : Finding) : Bool :=
  earlier.rule == later.rule && earlier.path.same later.path &&
    match earlier.lines before root, later.lines now root with
    | .ok old, .ok new => old == new
    | _, _ => false

/-- What is kept of a finding that has some lines. -/
def marked (finding : Finding) (lines : List (List Char)) : Fingerprint :=
  ⟨finding.rule, finding.path, lines, Digest.ofText (String.ofList (Text.join lines))⟩

theorem fingerprint_eq_ok_iff {finding : Finding} {disk : Disk} {root : Path}
    {fingerprint : Fingerprint} :
    finding.fingerprint disk root = .ok fingerprint ↔
      ∃ lines, finding.lines disk root = .ok lines ∧ fingerprint = finding.marked lines := by
  unfold Finding.fingerprint
  rw [bind_eq_ok_iff]
  constructor
  · rintro ⟨lines, hlines, hend⟩
    cases hend
    exact ⟨lines, hlines, rfl⟩
  · rintro ⟨lines, hlines, rfl⟩
    exact ⟨lines, hlines, rfl⟩

/-- Equal lines have one digest, so it does not matter that digests are compared. -/
theorem same_marked (earlier later : Finding) (old new : List (List Char)) :
    (earlier.marked old).same (later.marked new) =
      (earlier.rule == later.rule && earlier.path.same later.path && old == new) := by
  unfold Fingerprint.same marked
  dsimp only
  by_cases hlines : old = new
  · subst hlines
    simp only [beq_self_eq_true, Bool.and_true]
  · have hfar : (old == new) = false := by simpa using hlines
    simp only [hfar, Bool.and_false]

end Finding

namespace Findings

/-- The lines of all findings can be read. -/
def Readable (disk : Disk) (root : Path) (findings : List Finding) : Prop :=
  ∀ finding ∈ findings, ∃ lines, finding.lines disk root = .ok lines

/--
Fingerprints are taken of findings that can be read.  There is one among them like that of a later
finding just if one of the findings recurs.
-/
theorem mapM_fingerprint_eq_ok {before : Disk} {root : Path} {earlier : List Finding}
    {known : List Fingerprint}
    (h : earlier.mapM (fun finding => finding.fingerprint before root) = .ok known) :
    Readable before root earlier ∧
      ∀ {now : Disk} {later : Finding} {lines : List (List Char)},
        later.lines now root = .ok lines →
          known.any (·.same (later.marked lines)) =
            earlier.any fun finding => finding.recurs before now root later := by
  induction earlier generalizing known with
  | nil =>
      cases h
      exact ⟨fun _ hfinding => absurd hfinding List.not_mem_nil, fun _ => rfl⟩
  | cons finding rest ih =>
      rw [List.mapM_cons] at h
      obtain ⟨fingerprint, hfirst, hmore⟩ := bind_eq_ok_iff.mp h
      obtain ⟨others, hrest, hend⟩ := bind_eq_ok_iff.mp hmore
      cases hend
      obtain ⟨hreadable, hany⟩ := ih hrest
      obtain ⟨old, hold, rfl⟩ := Finding.fingerprint_eq_ok_iff.mp hfirst
      refine ⟨List.forall_mem_cons.mpr ⟨⟨old, hold⟩, hreadable⟩, fun hlines => ?_⟩
      rw [List.any_cons, List.any_cons, hany hlines, Finding.same_marked, Finding.recurs, hold,
        hlines]

/-!
## What stays
-/

/-- Holds if a finding is taken out because of some fingerprints. -/
def isKnown (disk : Disk) (root : Path) (known : List Fingerprint) (finding : Finding) : Bool :=
  match finding.fingerprint disk root with
  | .ok fingerprint => known.any (·.same fingerprint)
  | .error _ => false

/-- If all lines can be read, and only then, the known findings are counted and the others stay. -/
theorem unmatched_eq_ok_iff {disk : Disk} {root : Path} {known : List Fingerprint}
    {findings : List Finding} {sorted : Nat × List Finding} :
    unmatched disk root known findings = .ok sorted ↔ Readable disk root findings ∧
      sorted = (findings.countP (isKnown disk root known),
        findings.filter fun finding => !isKnown disk root known finding) := by
  induction findings generalizing sorted with
  | nil =>
      rw [unmatched, Except.ok.injEq]
      refine ⟨fun h => ⟨fun _ hfinding => absurd hfinding List.not_mem_nil, h.symm⟩,
        fun h => h.2.symm⟩
  | cons finding rest ih =>
      have hread : Readable disk root (finding :: rest) ↔
          (∃ lines, finding.lines disk root = .ok lines) ∧ Readable disk root rest :=
        List.forall_mem_cons
      rw [hread, unmatched]
      simp only [bind_eq_ok_iff, ih]
      constructor
      · rintro ⟨fingerprint, hfirst, ⟨count, kept⟩, ⟨hreadable, hrest⟩, hend⟩
        obtain ⟨rfl, rfl⟩ := Prod.mk.inj hrest
        obtain ⟨lines, hlines, -⟩ := Finding.fingerprint_eq_ok_iff.mp hfirst
        refine ⟨⟨⟨lines, hlines⟩, hreadable⟩, ?_⟩
        have hknown : isKnown disk root known finding = known.any (·.same fingerprint) := by
          rw [isKnown, hfirst]
        rw [pure_eq_ok, Except.ok.injEq] at hend
        rw [List.filter_cons, List.countP_cons, hknown, ← hend]
        cases known.any (·.same fingerprint) <;> rfl
      · rintro ⟨⟨⟨lines, hlines⟩, hreadable⟩, rfl⟩
        have hfirst : finding.fingerprint disk root = .ok (finding.marked lines) :=
          Finding.fingerprint_eq_ok_iff.mpr ⟨lines, hlines, rfl⟩
        have hknown : isKnown disk root known finding =
            known.any (·.same (finding.marked lines)) := by
          rw [isKnown, hfirst]
        refine ⟨_, hfirst, _, ⟨hreadable, rfl⟩, ?_⟩
        rw [pure_eq_ok, Except.ok.injEq, List.filter_cons, List.countP_cons, hknown]
        cases known.any (·.same (finding.marked lines)) <;> rfl

/-- The same for all groups. -/
theorem unmatchedGroups_eq_ok_iff {disk : Disk} {root : Path} {known : List Fingerprint}
    {groups : List (String × List Finding)} {sorted : Nat × List (String × List Finding)} :
    unmatchedGroups disk root known groups = .ok sorted ↔
      Readable disk root (groups.flatMap (·.2)) ∧
        sorted = ((groups.flatMap (·.2)).countP (isKnown disk root known),
          groups.map fun group =>
            (group.1, group.2.filter fun finding => !isKnown disk root known finding)) := by
  induction groups generalizing sorted with
  | nil =>
      rw [unmatchedGroups, Except.ok.injEq]
      refine ⟨fun h => ⟨fun _ hfinding => absurd hfinding List.not_mem_nil, h.symm⟩,
        fun h => h.2.symm⟩
  | cons group rest ih =>
      obtain ⟨rule, found⟩ := group
      have hread : Readable disk root (((rule, found) :: rest).flatMap (·.2)) ↔
          Readable disk root found ∧ Readable disk root (rest.flatMap (·.2)) :=
        List.forall_mem_append
      rw [hread, unmatchedGroups]
      constructor
      · intro h
        split at h
        · cases h
        · rename_i hfound
          split at h
          · cases h
          · rename_i hrest
            obtain ⟨hreadable, hsorted⟩ := unmatched_eq_ok_iff.mp hfound
            obtain ⟨hothers, hmore⟩ := ih.mp hrest
            cases hsorted
            cases hmore
            cases h
            refine ⟨⟨hreadable, hothers⟩, ?_⟩
            rw [List.flatMap_cons, List.countP_append, List.map_cons]
      · rintro ⟨⟨hreadable, hothers⟩, rfl⟩
        rw [unmatched_eq_ok_iff.mpr ⟨hreadable, rfl⟩]
        dsimp only
        rw [ih.mpr ⟨hothers, rfl⟩, List.flatMap_cons, List.countP_append, List.map_cons]

/-- Leaving out groups without findings leaves out no finding. -/
theorem flatMap_filter_isEmpty (groups : List (String × List Finding)) :
    (groups.filter fun group => !group.2.isEmpty).flatMap (·.2) = groups.flatMap (·.2) := by
  induction groups with
  | nil => rfl
  | cons group rest ih =>
      obtain ⟨rule, found⟩ := group
      cases found with
      | nil => simpa using ih
      | cons finding others => simpa using ih

/-- What stays of findings by rule are again findings by rule. -/
theorem Tidy.filter {groups : List (String × List Finding)} (h : Tidy groups)
    (keep : Finding → Bool) :
    Tidy ((groups.map fun group => (group.1, group.2.filter keep)).filter
      fun group => !group.2.isEmpty) := by
  refine ⟨fun group hgroup finding hfinding => ?_, fun group hgroup => ?_, ?_⟩
  · obtain ⟨old, hold, rfl⟩ := List.mem_map.mp (List.mem_filter.mp hgroup).1
    exact h.named old hold finding (List.mem_filter.mp hfinding).1
  · simpa using (List.mem_filter.mp hgroup).2
  · refine List.Pairwise.filter _ (List.pairwise_map.mpr ?_)
    exact h.distinct

/-- What is left of findings by rule without the known ones. -/
def withoutKnown (findings : Findings) (disk : Disk) (root : Path)
    (known : List Fingerprint) : Findings :=
  ⟨(findings.groups.map fun group =>
    (group.1, group.2.filter fun finding => !isKnown disk root known finding)).filter
      fun group => !group.2.isEmpty⟩

theorem toList_withoutKnown (findings : Findings) (disk : Disk) (root : Path)
    (known : List Fingerprint) :
    (findings.withoutKnown disk root known).toList =
      findings.toList.filter fun finding => !isKnown disk root known finding := by
  unfold toList withoutKnown
  rw [flatMap_filter_isEmpty, List.flatMap_map, List.filter_flatMap]

/-- A removal goes through just if all lines can be read; then the known findings are counted. -/
theorem removal_eq_ok_iff {disk : Disk} {root : Path} {known : List Fingerprint}
    {findings : Findings} {removal : Removal} :
    findings.removal disk root known = .ok removal ↔ Readable disk root findings.toList ∧
      removal = ⟨findings.toList.countP (isKnown disk root known),
        findings.withoutKnown disk root known⟩ := by
  unfold Findings.removal
  constructor
  · intro h
    cases hgroups : unmatchedGroups disk root known findings.groups with
    | error stop =>
        rw [hgroups] at h
        cases h
    | ok sorted =>
        rw [hgroups] at h
        obtain ⟨hreadable, rfl⟩ := unmatchedGroups_eq_ok_iff.mp hgroups
        exact ⟨hreadable, (Except.ok.inj h).symm⟩
  · rintro ⟨hreadable, rfl⟩
    rw [unmatchedGroups_eq_ok_iff.mpr ⟨hreadable, rfl⟩]
    rfl

/-- A removal that succeeds has read all lines, and what is not known stays in its order. -/
theorem removeBaseline_eq_ok {disk : Disk} {root : Path} {known : List Fingerprint}
    {findings left : Findings} (h : findings.removeBaseline disk root known = .ok left) :
    Readable disk root findings.toList ∧
      left.toList = findings.toList.filter (fun finding => !isKnown disk root known finding) ∧
      (Tidy findings.groups → Tidy left.groups) := by
  unfold removeBaseline at h
  cases hremoval : findings.removal disk root known with
  | error stop =>
      rw [hremoval] at h
      cases h
  | ok removal =>
      rw [hremoval] at h
      obtain ⟨hreadable, rfl⟩ := removal_eq_ok_iff.mp hremoval
      cases h
      exact ⟨hreadable, toList_withoutKnown findings disk root known, fun htidy => htidy.filter _⟩

/-!
## Once and again
-/

end Findings

namespace Fingerprint

/-- Holds if a fingerprint was taken of a finding, in whatever files. -/
def IsTaken (fingerprint : Fingerprint) : Prop :=
  ∃ (finding : Finding) (disk : Disk) (root : Path), finding.fingerprint disk root = .ok fingerprint

/-- Holds if a finding has the rule, the path and, in the files as they are, the lines of this. -/
def describes (fingerprint : Fingerprint) (disk : Disk) (root : Path) (finding : Finding) : Bool :=
  fingerprint.rule == finding.rule && fingerprint.path.same finding.path &&
    match finding.lines disk root with
    | .ok lines => fingerprint.lines == lines
    | .error _ => false

/-- The digest of a fingerprint that was taken tells no more than its lines. -/
theorem same_marked_of_isTaken {fingerprint : Fingerprint} (htaken : fingerprint.IsTaken)
    {disk : Disk} {root : Path} {finding : Finding} {lines : List (List Char)}
    (hlines : finding.lines disk root = .ok lines) :
    fingerprint.same (finding.marked lines) = fingerprint.describes disk root finding := by
  obtain ⟨earlier, before, folder, hfingerprint⟩ := htaken
  obtain ⟨old, -, rfl⟩ := Finding.fingerprint_eq_ok_iff.mp hfingerprint
  rw [Finding.same_marked, describes, hlines]
  rfl

end Fingerprint

namespace Findings

/-- The findings that are known by fingerprints that were taken are those that they describe. -/
theorem isKnown_eq_any_describes {known : List Fingerprint}
    (htaken : ∀ fingerprint ∈ known, fingerprint.IsTaken) {disk : Disk} {root : Path}
    {finding : Finding} {lines : List (List Char)} (hlines : finding.lines disk root = .ok lines) :
    isKnown disk root known finding = known.any (·.describes disk root finding) := by
  have hfingerprint : finding.fingerprint disk root = .ok (finding.marked lines) :=
    Finding.fingerprint_eq_ok_iff.mpr ⟨lines, hlines, rfl⟩
  rw [isKnown, hfingerprint, Bool.eq_iff_iff, List.any_eq_true, List.any_eq_true]
  refine exists_congr fun fingerprint => and_congr_right fun hmem => ?_
  rw [Fingerprint.same_marked_of_isTaken (htaken fingerprint hmem) hlines]

/-- What was left is found unknown throughout, and so is left once more. -/
theorem withoutKnown_withoutKnown (findings : Findings) (disk : Disk) (root : Path)
    (known : List Fingerprint) :
    (findings.withoutKnown disk root known).withoutKnown disk root known =
      findings.withoutKnown disk root known := by
  unfold withoutKnown
  rw [Findings.mk.injEq]
  dsimp only
  have hkept : ∀ group ∈ (findings.groups.map fun group =>
      (group.1, group.2.filter fun finding => !isKnown disk root known finding)).filter
        (fun group => !group.2.isEmpty),
      (group.1, group.2.filter fun finding => !isKnown disk root known finding) = group := by
    intro group hgroup
    obtain ⟨old, -, rfl⟩ := List.mem_map.mp (List.mem_filter.mp hgroup).1
    rw [List.filter_filter]
    simp only [Bool.and_self]
  rw [List.map_congr_left hkept, List.map_id', List.filter_filter]
  simp only [Bool.and_self]

/--
Of findings those are taken out that fingerprints describe, and are counted; the others stay, in
their groups and in their order, and no group stays empty.  Nothing more is found the next time.
-/
structure SiftsOut (disk : Disk) (root : Path) (known : List Fingerprint) (findings : Findings)
    (removal : Removal) : Prop where
  groups : removal.left.groups = (findings.groups.map fun group =>
    (group.1, group.2.filter fun finding => !known.any (·.describes disk root finding))).filter
      fun group => !group.2.isEmpty
  list : removal.left.toList =
    findings.toList.filter fun finding => !known.any (·.describes disk root finding)
  filled : ∀ group ∈ removal.left.groups, group.2 ≠ []
  count : removal.count + removal.left.size = findings.size
  again : removal.left.removal disk root known = .ok ⟨0, removal.left⟩

/-- A removal that goes through sifts out what the fingerprints of a baseline describe. -/
theorem siftsOut_of_removal {disk : Disk} {root : Path} {known : List Fingerprint}
    {findings : Findings} {removal : Removal}
    (htaken : ∀ fingerprint ∈ known, fingerprint.IsTaken)
    (h : findings.removal disk root known = .ok removal) :
    SiftsOut disk root known findings removal := by
  obtain ⟨hreadable, rfl⟩ := removal_eq_ok_iff.mp h
  have hknown : ∀ finding ∈ findings.toList,
      isKnown disk root known finding = known.any (·.describes disk root finding) := by
    intro finding hfinding
    obtain ⟨lines, hlines⟩ := hreadable finding hfinding
    exact isKnown_eq_any_describes htaken hlines
  refine ⟨?_, ?_, fun group hgroup => ?_, ?_, ?_⟩
  · unfold withoutKnown
    dsimp only
    refine congrArg _ (List.map_congr_left fun group hgroup => ?_)
    refine congrArg _ (List.filter_congr fun finding hfinding => ?_)
    rw [hknown finding (List.mem_flatMap.mpr ⟨group, hgroup, hfinding⟩)]
  · rw [toList_withoutKnown]
    exact List.filter_congr fun finding hfinding => by rw [hknown finding hfinding]
  · simpa using (List.mem_filter.mp hgroup).2
  · have hsum := List.length_eq_countP_add_countP (isKnown disk root known) (l := findings.toList)
    rw [size, toList_withoutKnown, ← List.countP_eq_length_filter, size, hsum]
    simp only [Bool.not_eq_true, Bool.decide_eq_false]
  · rw [removal_eq_ok_iff, toList_withoutKnown, withoutKnown_withoutKnown]
    refine ⟨fun finding hfinding => hreadable finding (List.mem_filter.mp hfinding).1, ?_⟩
    rw [Removal.mk.injEq, eq_comm, List.countP_eq_zero]
    refine ⟨fun finding hfinding => ?_, rfl⟩
    simpa using (List.mem_filter.mp hfinding).2

/-- A finding of a rule on a line of the file at the top. -/
def onLine (rule : String) (line : Nat) : Finding :=
  ⟨rule, ⟨"a.txt"⟩, ⟨line, 1, 0⟩, ⟨line, 4, 0⟩, "", none, none⟩

/-- A disk on which the file at the top holds the given text. -/
def diskOf (text : String) : Disk :=
  ⟨⟨[(["a.txt"], .file (.text text))]⟩, []⟩

/-- What was found on the first line, when that was the only one of its kind. -/
def once : Fingerprint :=
  (onLine "r" 1).marked ["old\n".toList]

/-- The same twice on a later line, another finding of its rule, and one of another rule. -/
def twice : Findings :=
  ofList [onLine "r" 2, onLine "s" 2, onLine "r" 3, onLine "r" 2]

theorem siftsOut_of_removal_moved :
    once.IsTaken ∧ ∃ removal,
      twice.removal (diskOf "top\nold\nnew\n") ⟨"/"⟩ [once] = .ok removal ∧ removal.count = 2 ∧
      removal.left.toList.map (fun finding => (finding.rule, finding.start.line)) =
        [("r", 3), ("s", 2)] ∧
      SiftsOut (diskOf "top\nold\nnew\n") ⟨"/"⟩ [once] twice removal := by
  have htaken : once.IsTaken := by
    refine ⟨onLine "r" 1, diskOf "old\nnew\n", ⟨"/"⟩, ?_⟩
    exact Finding.fingerprint_eq_ok_iff.mpr ⟨_, by decide +kernel, rfl⟩
  have hleft : (twice.removal (diskOf "top\nold\nnew\n") ⟨"/"⟩ [once]).toOption.map
      (fun removal => (removal.count,
        removal.left.toList.map fun finding => (finding.rule, finding.start.line))) =
      some (2, [("r", 3), ("s", 2)]) := by
    decide +kernel
  obtain ⟨removal, hremoval, hshown⟩ := Option.map_eq_some_iff.mp hleft
  obtain ⟨hcount, hlist⟩ := Prod.mk.inj hshown
  rw [toOption_eq_some_iff] at hremoval
  refine ⟨htaken, removal, hremoval, hcount, hlist, siftsOut_of_removal ?_ hremoval⟩
  exact List.forall_mem_singleton.mpr htaken

/-!
## From one document to the next
-/

/-- What is taken out of findings that can be read are those that recur. -/
theorem filter_isKnown {before now : Disk} {root : Path} {earlier : Findings}
    {known : List Fingerprint} {findings : List Finding}
    (h : earlier.fingerprints before root = .ok known) (hreadable : Readable now root findings) :
    findings.filter (fun finding => !isKnown now root known finding) =
      findings.filter fun finding =>
        !earlier.toList.any fun old => old.recurs before now root finding := by
  refine List.filter_congr fun finding hfinding => ?_
  obtain ⟨lines, hlines⟩ := hreadable finding hfinding
  have hfingerprint : finding.fingerprint now root = .ok (finding.marked lines) :=
    Finding.fingerprint_eq_ok_iff.mpr ⟨lines, hlines, rfl⟩
  have hany := (mapM_fingerprint_eq_ok h).2 hlines
  rw [isKnown, hfingerprint, ← hany]

/-- Findings that were loaded are those of a list, grouped, and fit into a document. -/
theorem exists_ofList_of_load {disk : Disk} {path : Path} {findings : Findings}
    (h : load disk path = .ok findings) :
    ∃ listed, findings = ofList listed ∧ ∀ finding ∈ listed, finding.Fits countDepth := by
  unfold load at h
  split at h
  · cases h
  · split at h
    · rename_i hparse
      cases h
      obtain ⟨listed, hlisted, rfl⟩ := Option.map_eq_some_iff.mp hparse
      exact ⟨listed, rfl, fits_of_list? hlisted⟩
    · cases h

/-- What stays of findings that were loaded is read again from the document written of it. -/
theorem parse?_write_of_removeBaseline {disk now : Disk} {path root : Path}
    {known : List Fingerprint} {findings left : Findings}
    (hload : load disk path = .ok findings)
    (hremove : findings.removeBaseline now root known = .ok left)
    (hexact : ∀ finding ∈ findings.toList, finding.Exact) : parse? left.write = some left := by
  obtain ⟨listed, rfl, hfits⟩ := exists_ofList_of_load hload
  obtain ⟨-, hleft, htidy⟩ := removeBaseline_eq_ok hremove
  have hmem : ∀ finding ∈ left.toList, finding ∈ (ofList listed).toList := by
    intro finding hfinding
    rw [hleft] at hfinding
    exact (List.mem_filter.mp hfinding).1
  have hread : list? left.write = some left.toList :=
    list?_write
      (fun finding hfinding => hfits finding (mem_of_mem_toList_ofList (hmem finding hfinding)))
      (fun finding hfinding => hexact finding (hmem finding hfinding))
  unfold parse?
  rw [hread, Option.map_some]
  exact congrArg some (ofList_flatMap (htidy (tidy_ofList listed)))

end Findings

end Remedy
