import Remedy.Proofs.Fix.Files
import Remedy.Proofs.Tree.Overwriting
import Remedy.Proofs.Tree.PathSet

/-!
# Files are independent

What a pass does depends on what is asked of each path, and on nothing else: not on the rules that
ask for it, and not on how the findings for different files are interleaved.  This needs that
paths that are written differently lead to different files.
-/

namespace Remedy

/-- A finding without its rule and its message. -/
def Finding.anonymous (finding : Finding) : Finding :=
  { finding with rule := "", message := "" }

namespace Findings

/-- The findings for a path that carry a remedy, in their order. -/
def remediesFor (findings : Findings) (path : Path) : List Finding :=
  findings.toList.filter fun finding => finding.hasRemedy && finding.path = path

/-- The same is asked of each path, in the same order, by whatever rules. -/
def SameByPath (first second : Findings) : Prop :=
  ∀ path, (first.remediesFor path).map Finding.anonymous =
    (second.remediesFor path).map Finding.anonymous

/-- Remedies for paths that are written differently are for different files. -/
def Apart (disk : Disk) (findings : Findings) : Prop :=
  ∀ a ∈ findings.toList, ∀ b ∈ findings.toList, a.hasRemedy = true → b.hasRemedy = true →
    (disk.locationOf? a.path).isSome = true → disk.locationOf? a.path = disk.locationOf? b.path →
      a.path = b.path

instance (disk : Disk) (findings : Findings) : Decidable (Apart disk findings) :=
  inferInstanceAs (Decidable (∀ _ ∈ _, ∀ _ ∈ _, _))

theorem SameByPath.symm {first second : Findings} (h : SameByPath first second) :
    SameByPath second first :=
  fun path => (h path).symm

theorem mem_remediesFor {findings : Findings} {path : Path} {finding : Finding} :
    finding ∈ findings.remediesFor path ↔
      finding ∈ findings.toList ∧ finding.hasRemedy = true ∧ finding.path = path := by
  simp [remediesFor]

/-- What is asked by one list of findings is asked by the other, for the same path. -/
theorem SameByPath.exists_anonymous {first second : Findings} (h : SameByPath first second)
    {finding : Finding} (hmem : finding ∈ first.toList) (hremedy : finding.hasRemedy = true) :
    ∃ other ∈ second.toList, other.hasRemedy = true ∧ other.path = finding.path ∧
      other.anonymous = finding.anonymous := by
  have hfinding := List.mem_map_of_mem (f := Finding.anonymous)
    (mem_remediesFor.mpr ⟨hmem, hremedy, rfl⟩)
  rw [h, List.mem_map] at hfinding
  obtain ⟨other, hother, hanonymous⟩ := hfinding
  obtain ⟨hsecond, hasked, hpath⟩ := mem_remediesFor.mp hother
  exact ⟨other, hsecond, hasked, hpath, hanonymous⟩

theorem Apart.of_sameByPath {disk : Disk} {first second : Findings} (h : Apart disk first)
    (hsame : SameByPath first second) : Apart disk second := by
  intro a ha b hb hremedy hremedies
  obtain ⟨c, hc, hasked, hpath, -⟩ := hsame.symm.exists_anonymous ha hremedy
  obtain ⟨d, hd, hasks, hpaths, -⟩ := hsame.symm.exists_anonymous hb hremedies
  rw [← hpath, ← hpaths]
  exact h c hc d hd hasked hasks

end Findings

namespace Fix

open Outcome

/-- Whether there is a directive, and which one, does not depend on rule and message. -/
theorem Directive.toOption_ofFinding_anonymous (finding : Finding) :
    (ofFinding finding.anonymous).toOption = (ofFinding finding).toOption := by
  have hrule : ∀ rule other substitution, (ofSubstitution rule substitution).toOption =
      (ofSubstitution other substitution).toOption := by
    intro rule other substitution
    unfold ofSubstitution
    split
    · split
      · rfl
      · split <;> rfl
    · rfl
  have hmap : ∀ result : Except Fault Directive,
      (result.map some).toOption = result.toOption.map some := by
    intro result
    cases result <;> rfl
  unfold ofFinding
  rw [show finding.anonymous.literalFix? = finding.literalFix? from rfl,
    show finding.anonymous.substitution? = finding.substitution? from rfl]
  cases finding.literalFix? with
  | some fix => rfl
  | none =>
      cases finding.substitution? with
      | none => rfl
      | some request => rw [hmap, hmap, hrule finding.anonymous.rule finding.rule]

namespace Job

/-- A job without the rule and the message of its finding. -/
def anonymous (job : Job) : Job :=
  { job with finding := job.finding.anonymous }

theorem ofFinding?_anonymous (finding : Finding) :
    ofFinding? finding.anonymous = (ofFinding? finding).map anonymous := by
  unfold ofFinding?
  rw [Directive.toOption_ofFinding_anonymous, Option.map_map]
  rfl

theorem faultless_iff {finding : Finding} :
    Faultless finding ↔ (Directive.ofFinding finding).toOption.isSome = true := by
  unfold Faultless
  cases Directive.ofFinding finding <;> simp [Except.toOption]

/-- Nothing is wrong with a remedy just if nothing is with one that asks for the same. -/
theorem faultless_of_anonymous_eq {finding other : Finding}
    (h : finding.anonymous = other.anonymous) (hfaultless : Faultless finding) :
    Faultless other := by
  rw [faultless_iff, ← Directive.toOption_ofFinding_anonymous] at hfaultless ⊢
  rwa [← h]

/-- Only a finding that carries a remedy asks for a job. -/
theorem hasRemedy_of_ofFinding? {finding : Finding} {job : Job}
    (h : ofFinding? finding = some job) : finding.hasRemedy = true := by
  obtain ⟨-, hdirective⟩ := ofFinding?_eq_some_iff.mp h
  by_contra hnone
  rw [Directive.ofFinding_of_not_hasRemedy (by simpa using hnone)] at hdirective
  cases hdirective

theorem mem_of_mem_ofFindings {findings : Findings} {job : Job} (h : job ∈ ofFindings findings) :
    job.finding ∈ findings.toList ∧ job.finding.hasRemedy = true := by
  obtain ⟨finding, hmem, hjob⟩ := List.mem_filterMap.mp h
  obtain ⟨hfinding, -⟩ := ofFinding?_eq_some_iff.mp hjob
  rw [hfinding]
  exact ⟨hmem, hasRemedy_of_ofFinding? hjob⟩

/-- The jobs for a path. -/
def forPath (path : Path) (jobs : List Job) : List Job :=
  jobs.filter fun job => job.finding.path = path

theorem mem_forPath {path : Path} {jobs : List Job} {job : Job} :
    job ∈ forPath path jobs ↔ job ∈ jobs ∧ job.finding.path = path := by
  simp [forPath]

theorem forPath_ofFindings (findings : Findings) (path : Path) :
    forPath path (ofFindings findings) = (findings.remediesFor path).filterMap ofFinding? := by
  unfold forPath ofFindings Findings.remediesFor
  induction findings.toList with
  | nil => rfl
  | cons finding rest ih =>
      cases hjob : ofFinding? finding with
      | none =>
          rw [List.filterMap_cons_none hjob, ih, List.filter_cons]
          split
          · rw [List.filterMap_cons_none hjob]
          · rfl
      | some job =>
          obtain ⟨hfinding, -⟩ := ofFinding?_eq_some_iff.mp hjob
          rw [List.filterMap_cons_some hjob, List.filter_cons, List.filter_cons, ih, hfinding,
            hasRemedy_of_ofFinding? hjob, Bool.true_and]
          split
          · rw [List.filterMap_cons_some hjob]
          · rfl

/-- If the same is asked of each path, the jobs for a path are the same but for their rules. -/
theorem map_anonymous_forPath {first second : Findings} (h : first.SameByPath second)
    (path : Path) :
    (forPath path (ofFindings first)).map anonymous =
      (forPath path (ofFindings second)).map anonymous := by
  have hjobs : ∀ findings : Findings, (forPath path (ofFindings findings)).map anonymous =
      ((findings.remediesFor path).map Finding.anonymous).filterMap ofFinding? := by
    intro findings
    rw [forPath_ofFindings, List.map_filterMap, List.filterMap_map]
    exact congrArg (List.filterMap · _) (funext fun finding => (ofFinding?_anonymous finding).symm)
  rw [hjobs, hjobs, h]

/-- A job for a path by the one is a job for that path by the other. -/
theorem exists_of_sameByPath {first second : Findings} (h : first.SameByPath second) {job : Job}
    (hjob : job ∈ ofFindings first) :
    ∃ other ∈ ofFindings second, other.finding.path = job.finding.path := by
  have hmem := List.mem_map_of_mem (f := anonymous) (mem_forPath.mpr ⟨hjob, rfl⟩)
  rw [map_anonymous_forPath h, List.mem_map] at hmem
  obtain ⟨other, hother, -⟩ := hmem
  exact ⟨other, mem_forPath.mp hother⟩

section Apart

variable {disk : Disk} {findings : Findings}

/-- Jobs that lead to one file are for one path. -/
theorem path_eq_of_apart (hapart : findings.Apart disk) {a b : Job} (ha : a ∈ ofFindings findings)
    (hb : b ∈ ofFindings findings) {location : Location}
    (hleads : disk.locationOf? a.finding.path = some location)
    (hleadsToo : disk.locationOf? b.finding.path = some location) :
    a.finding.path = b.finding.path :=
  hapart _ (mem_of_mem_ofFindings ha).1 _ (mem_of_mem_ofFindings hb).1
    (mem_of_mem_ofFindings ha).2 (mem_of_mem_ofFindings hb).2
    (Option.isSome_of_eq_some hleads) (hleads.trans hleadsToo.symm)

theorem speltAlike_of_apart (hapart : findings.Apart disk) (location : Location) :
    SpeltAlike disk location (ofFindings findings) := by
  intro a ha b hb
  obtain ⟨hmem, hleads⟩ := List.mem_filter.mp ha
  obtain ⟨hmemToo, hleadsToo⟩ := List.mem_filter.mp hb
  rw [path_eq_of_apart hapart hmem hmemToo (by simpa using hleads) (by simpa using hleadsToo)]
  exact Path.same_iff.mpr rfl

/-- The jobs that lead to a file are those for its path. -/
theorem leadingTo_eq_forPath (hapart : findings.Apart disk) {job : Job}
    (hjob : job ∈ ofFindings findings) {location : Location}
    (hleads : disk.locationOf? job.finding.path = some location) :
    leadingTo disk location (ofFindings findings) =
      forPath job.finding.path (ofFindings findings) := by
  refine List.filter_congr fun other hother => decide_eq_decide.mpr ⟨fun hlocation => ?_, ?_⟩
  · exact path_eq_of_apart hapart hother hjob hlocation hleads
  · intro hpath
    rw [hpath]
    exact hleads

/-- The jobs that lead to a file are the same but for their rules. -/
theorem map_anonymous_leadingTo {first second : Findings} (hsame : first.SameByPath second)
    (hapart : first.Apart disk) (location : Location) :
    (leadingTo disk location (ofFindings first)).map anonymous =
      (leadingTo disk location (ofFindings second)).map anonymous := by
  have hapartToo := hapart.of_sameByPath hsame
  by_cases hjob : ∃ job ∈ ofFindings first, disk.locationOf? job.finding.path = some location
  · obtain ⟨job, hjob, hleads⟩ := hjob
    obtain ⟨other, hother, hpath⟩ := exists_of_sameByPath hsame hjob
    rw [leadingTo_eq_forPath hapart hjob hleads,
      leadingTo_eq_forPath hapartToo hother (by rw [hpath]; exact hleads), hpath]
    exact map_anonymous_forPath hsame _
  · have hnone : leadingTo disk location (ofFindings first) = [] :=
      List.filter_eq_nil_iff.mpr fun job hmem hleads => hjob ⟨job, hmem, by simpa using hleads⟩
    have hnoneToo : leadingTo disk location (ofFindings second) = [] := by
      refine List.filter_eq_nil_iff.mpr fun other hmem hleads => ?_
      obtain ⟨job, hmemFirst, hpath⟩ := exists_of_sameByPath hsame.symm hmem
      exact hjob ⟨job, hmemFirst, by rw [hpath]; simpa using hleads⟩
    rw [hnone, hnoneToo]

end Apart

end Job

/-- A draft does not ask for rules. -/
theorem Draft.run_map_anonymous (draft : Draft) (jobs : List Job) :
    draft.run (jobs.map Job.anonymous) = draft.run jobs := by
  unfold run
  rw [List.foldlM_map]
  rfl

namespace Pass

/-!
## What a pass leaves
-/

/-- What carrying out a job leaves: files that were overwritten, and a path that was noted. -/
theorem overwrites_of_act {disk : Disk} {pass after : Pass} {job : Job}
    (h : disk.Overwrites pass.disk) (hact : act false pass job = .ok after) :
    disk.Overwrites after.disk ∧ after.modified = pass.modified.insert job.finding.path := by
  change pass.carryOut job.finding job.directive = .ok after at hact
  unfold carryOut at hact
  dsimp only at hact
  split at hact
  · cases hact
  · split at hact
    · cases hact
    · rename_i happly
      split at hact
      · cases hact
      · cases hact
        exact ⟨h.apply happly, rfl⟩

theorem overwrites_of_foldlM {disk : Disk} {jobs : List Job} {pass after : Pass}
    (h : disk.Overwrites pass.disk) (hrun : jobs.foldlM (act false) pass = .ok after) :
    disk.Overwrites after.disk ∧
      after.modified = PathSet.gather (jobs.map (·.finding.path)) pass.modified := by
  induction jobs generalizing pass with
  | nil =>
      obtain rfl := Except.ok.inj hrun
      exact ⟨h, rfl⟩
  | cons job rest ih =>
      rw [List.foldlM_cons, bind_eq_ok_iff] at hrun
      obtain ⟨middle, hact, hrest⟩ := hrun
      obtain ⟨hmiddle, hmodified⟩ := overwrites_of_act h hact
      obtain ⟨hafter, hgathered⟩ := ih hmiddle hrest
      rw [hmodified] at hgathered
      exact ⟨hafter, hgathered⟩

section Independence

variable {disk : Disk} {first second : Findings}

/-- A pass goes through if one does that asks the same of each path. -/
theorem exists_run_of_sameByPath (hsame : first.SameByPath second) (hapart : first.Apart disk)
    (h : ∃ pass, run false first disk = .ok pass) : ∃ pass, run false second disk = .ok pass := by
  obtain ⟨hsound, hleads, hdrafts⟩ :=
    (exists_run_iff (Job.speltAlike_of_apart hapart)).mp h
  refine (exists_run_iff (Job.speltAlike_of_apart (hapart.of_sameByPath hsame))).mpr ⟨?_, ?_, ?_⟩
  · intro finding hmem
    cases hremedy : finding.hasRemedy with
    | false => exact ⟨none, Directive.ofFinding_of_not_hasRemedy hremedy⟩
    | true =>
        obtain ⟨other, hother, -, -, hanonymous⟩ := hsame.symm.exists_anonymous hmem hremedy
        exact Job.faultless_of_anonymous_eq hanonymous (hsound other hother)
  · intro job hjob
    obtain ⟨other, hother, hpath⟩ := Job.exists_of_sameByPath hsame.symm hjob
    obtain ⟨location, text, hresolve⟩ := hleads other hother
    exact ⟨location, text, by rw [← hpath]; exact hresolve⟩
  · intro location text htext
    obtain ⟨final, hfinal⟩ := hdrafts location text htext
    refine ⟨final, ?_⟩
    rw [← Draft.run_map_anonymous, ← Job.map_anonymous_leadingTo hsame hapart,
      Draft.run_map_anonymous]
    exact hfinal

/-- Passes that ask the same of each path leave the same disk. -/
theorem disk_eq_of_sameByPath (hsame : first.SameByPath second) (hapart : first.Apart disk)
    {pass other : Pass} (hfirst : run false first disk = .ok pass)
    (hsecond : run false second disk = .ok other) : pass.disk = other.disk := by
  have hpass := (overwrites_of_foldlM (.refl disk) (run_eq_ok_iff.mp hfirst).2).1
  have hother := (overwrites_of_foldlM (.refl disk) (run_eq_ok_iff.mp hsecond).2).1
  refine hpass.eq_of_get?_eq hother fun location => ?_
  by_cases htext : ∃ text, disk.tree.get? location = some (.file (.text text))
  · obtain ⟨text, htext⟩ := htext
    obtain ⟨final, hfinal, hget⟩ :=
      exists_draft_of_run hfirst htext (Job.speltAlike_of_apart hapart location)
    obtain ⟨last, hlast, hgetToo⟩ := exists_draft_of_run hsecond htext
      (Job.speltAlike_of_apart (hapart.of_sameByPath hsame) location)
    rw [← Draft.run_map_anonymous, Job.map_anonymous_leadingTo hsame hapart,
      Draft.run_map_anonymous, hlast] at hfinal
    rw [hget, hgetToo, Except.ok.inj hfinal]
  · have hnot : ∀ text, disk.tree.get? location ≠ some (.file (.text text)) :=
      fun text heq => htext ⟨text, heq⟩
    rw [(alike_of_run hfirst).get?_eq_of_not_text hnot,
      (alike_of_run hsecond).get?_eq_of_not_text hnot]

/-- Passes that ask the same of each path modify the same files. -/
theorem modified_eq_of_sameByPath (hsame : first.SameByPath second) (hapart : first.Apart disk)
    {pass other : Pass} (hfirst : run false first disk = .ok pass)
    (hsecond : run false second disk = .ok other) : pass.modified = other.modified := by
  have hjobs := (run_eq_ok_iff.mp hfirst).2
  rw [(overwrites_of_foldlM (.refl disk) hjobs).2,
    (overwrites_of_foldlM (.refl disk) (run_eq_ok_iff.mp hsecond).2).2]
  have hleads := (leadsToText_of_foldlM (Disk.Alike.refl disk) hjobs).2
  refine PathSet.gather_eq_of_mem_iff ?_ ?_
  · intro a ha b hb hspelt
    obtain ⟨job, hjob, rfl⟩ := List.mem_map.mp ha
    obtain ⟨later, hlater, rfl⟩ := List.mem_map.mp hb
    obtain ⟨location, text, hresolve⟩ := hleads job hjob
    obtain ⟨place, held, hresolveToo⟩ := hleads later hlater
    obtain rfl := Disk.location_eq_of_same hspelt hresolve hresolveToo
    exact Job.path_eq_of_apart hapart hjob hlater (Disk.locationOf?_of_resolve hresolve)
      (Disk.locationOf?_of_resolve hresolveToo)
  · intro path
    simp only [List.mem_map]
    constructor
    · rintro ⟨job, hjob, rfl⟩
      exact Job.exists_of_sameByPath hsame hjob
    · rintro ⟨job, hjob, rfl⟩
      exact Job.exists_of_sameByPath hsame.symm hjob

/--
Findings that ask the same of each path, in whatever order the files come and by whatever rules,
are carried out alike: one pass goes through if the other does, and then both leave the same disk
and have modified the same files.
-/
theorem run_iff_of_sameByPath (hsame : first.SameByPath second) (hapart : first.Apart disk) :
    ((∃ pass, run false first disk = .ok pass) ↔ ∃ pass, run false second disk = .ok pass) ∧
      ∀ pass other, run false first disk = .ok pass → run false second disk = .ok other →
        pass.disk = other.disk ∧ pass.modified = other.modified :=
  ⟨⟨exists_run_of_sameByPath hsame hapart,
      exists_run_of_sameByPath hsame.symm (hapart.of_sameByPath hsame)⟩,
    fun _ _ hfirst hsecond => ⟨disk_eq_of_sameByPath hsame hapart hfirst hsecond,
      modified_eq_of_sameByPath hsame hapart hfirst hsecond⟩⟩

/-- Two files with two findings each, by two rules. -/
def inTurns : Findings :=
  .ofList [.ofFix "r" "a.txt" (1, 1) (1, 2) "12", .ofFix "r" "b.txt" (1, 1) (1, 2) "34",
    .ofFix "s" "a.txt" (1, 3) (1, 4) "5", .ofPattern "s" "b.txt" (1, 1) (1, 1) "w" "6"]

/-- The same by three rules, one file behind the other. -/
def inBlocks : Findings :=
  .ofList [.ofFix "x" "b.txt" (1, 1) (1, 2) "34", .ofPattern "y" "b.txt" (1, 1) (1, 1) "w" "6",
    .ofFix "z" "a.txt" (1, 1) (1, 2) "12", .ofFix "z" "a.txt" (1, 3) (1, 4) "5"]

/-- The two files. -/
def twoFiles : Disk :=
  ⟨⟨[(["a.txt"], .file (.text "one\n")), (["b.txt"], .file (.text "two\n"))]⟩, []⟩

theorem sameByPath_inBlocks : inTurns.SameByPath inBlocks := by
  intro path
  by_cases ha : path = ⟨"a.txt"⟩
  · subst ha
    rfl
  by_cases hb : path = ⟨"b.txt"⟩
  · subst hb
    rfl
  have hnone : ∀ findings : Findings, (∀ finding ∈ findings.toList,
      finding.path = ⟨"a.txt"⟩ ∨ finding.path = ⟨"b.txt"⟩) → findings.remediesFor path = [] := by
    intro findings hpaths
    refine List.eq_nil_iff_forall_not_mem.mpr fun finding hmem => ?_
    obtain ⟨hfinding, -, rfl⟩ := Findings.mem_remediesFor.mp hmem
    rcases hpaths finding hfinding with hpath | hpath
    · exact ha hpath
    · exact hb hpath
  rw [hnone inTurns (by decide +kernel), hnone inBlocks (by decide +kernel)]

theorem run_iff_of_sameByPath_inBlocks :
    inTurns.SameByPath inBlocks ∧ inTurns.Apart twoFiles ∧
      ∃ pass other, run false inTurns twoFiles = .ok pass ∧
        run false inBlocks twoFiles = .ok other ∧
        pass.disk = other.disk ∧ pass.modified = other.modified := by
  have hapart : inTurns.Apart twoFiles := by decide +kernel
  obtain ⟨hiff, halike⟩ := run_iff_of_sameByPath sameByPath_inBlocks hapart
  have hruns : (run false inTurns twoFiles).toOption.isSome = true := by decide +kernel
  obtain ⟨pass, hpass⟩ := Option.isSome_iff_exists.mp hruns
  have hfirst := toOption_eq_some_iff.mp hpass
  obtain ⟨other, hsecond⟩ := hiff.mp ⟨pass, hfirst⟩
  exact ⟨sameByPath_inBlocks, hapart, pass, other, hfirst, hsecond,
    halike pass other hfirst hsecond⟩

end Independence

end Pass

end Fix

end Remedy
