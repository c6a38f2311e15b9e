import Remedy.Proofs.Baseline.Gate
import Remedy.Proofs.Git.Streams
import Remedy.Proofs.Tree.PathSet

/-!
# Whether there is a baseline

A baseline is made from four answers of git.  What these say decides whether it is made, and if it
is not, which paths are to blame: the tracked files that are pending, or else the untracked ones
that are in the way.
-/

namespace Remedy

namespace Baseline

open Git (Runner Pending Changes)

variable {σ : Type}

/-- What git writes when it is asked about a baseline. -/
structure Streams where
  place : List Char
  differences : List Char
  files : List Char

/-- Git knows the commit and answers all that is asked about it. -/
inductive Hears (runner : Runner) (reference : String) (start : Machine σ) :
    Streams → Machine σ → Machine σ → Prop where
  | intro {found placed compared ready : Machine σ} {known place differences files : List Char}
      (knows : runner.Answers ["cat-file", "-e", reference ++ "^\x7bcommit\x7d"] start known found)
      (places : runner.Answers ["rev-parse", "--show-prefix"] found place placed)
      (compares : runner.Answers (diffArgs reference) placed differences compared)
      (lists : runner.Answers statusArgs compared files ready) :
      Hears runner reference start ⟨place, differences, files⟩ compared ready

/-- What git says about a baseline. -/
structure Account where
  place : Path
  changes : List Git.Change
  entries : List (Char × Path)

/-- What git writes is an account. -/
structure Streams.Tells (streams : Streams) (account : Account) : Prop where
  place : account.place = ⟨String.ofList (Text.trim streams.place)⟩
  changes : Git.Change.Lists streams.differences account.changes
  entries : Pending.Lists streams.files account.entries

namespace Account

/-- A path that differs is that of an untracked file. -/
def Collides (account : Account) (path : Path) : Prop :=
  (∃ change ∈ account.changes, path ∈ change.paths) ∧
    ∃ entry ∈ account.entries, entry.1 = '?' ∧ (account.place.join path).same entry.2 = true

/-- By an account there is a baseline. -/
structure Admits (account : Account) : Prop where
  spared : ∀ entry ∈ account.entries, entry.1 = '?' ∨ entry.1 = '!'
  apart : ∀ path, ¬account.Collides path

/-- By an account there is no baseline because of some paths. -/
inductive Refuses (account : Account) (reference : String) : Trouble → Prop where
  | pending {sorted : List (Char × Path)}
      (order : Pending.InOrder (account.entries.filter Pending.isTracked) sorted)
      (some : sorted ≠ []) : Refuses account reference (.pendingChanges (sorted.map (·.2)))
  | conflict {paths : List Path} (spared : ∀ entry ∈ account.entries, entry.1 = '?' ∨ entry.1 = '!')
      (gathers : PathSet.Gathers account.Collides paths) (some : paths ≠ []) :
      Refuses account reference (.untrackedConflict reference paths)

end Account

/-- The baseline that is made of what git has written. -/
def Streams.baseline (streams : Streams) (runner : Runner) (reference : String) (disk : Disk) :
    Baseline :=
  ⟨runner, reference, ⟨String.ofList (Text.trim streams.place)⟩,
    .ofList disk runner.folder (Git.Change.parse (String.ofList streams.differences)),
    .parse (String.ofList streams.files)⟩

/-- The account that is read from what git has written. -/
def Streams.account (streams : Streams) : Account :=
  ⟨⟨String.ofList (Text.trim streams.place)⟩,
    Git.Change.parse (String.ofList streams.differences),
    Pending.entries (Git.parts streams.files)⟩

/-- What git writes is one account in any case, the one that is read from it. -/
theorem Streams.tells_iff {streams : Streams} {account : Account} :
    streams.Tells account ↔ streams.account = account := by
  obtain ⟨place, changes, entries⟩ := account
  rw [account, Account.mk.injEq, Git.Change.parse_eq_iff, Pending.entries_parts_eq_iff]
  constructor
  · rintro ⟨hplace, hchanges, hentries⟩
    exact ⟨hplace.symm, hchanges, hentries⟩
  · rintro ⟨hplace, hchanges, hentries⟩
    exact ⟨hplace.symm, hchanges, hentries⟩

namespace Account

/-- No account both lets a baseline be made and refuses it. -/
theorem Admits.not_refuses {account : Account} (h : account.Admits) {reference : String}
    {trouble : Trouble} : ¬account.Refuses reference trouble := by
  intro hrefuses
  cases hrefuses with
  | pending order some =>
      obtain ⟨entry, rest, rfl⟩ := List.exists_cons_of_ne_nil some
      obtain ⟨hentry, htracked⟩ := List.mem_filter.mp (order.mem_iff.mp List.mem_cons_self)
      rcases h.spared entry hentry with hstate | hstate
      · simp [Pending.isTracked, hstate] at htracked
      · simp [Pending.isTracked, hstate] at htracked
  | conflict spared gathers some =>
      obtain ⟨path, rest, rfl⟩ := List.exists_cons_of_ne_nil some
      exact h.apart path (gathers.drawn path List.mem_cons_self)

end Account

section Check

variable {streams : Streams} {runner : Runner} {reference : String} {disk : Disk}

theorem mem_conflicts_iff
    (hlinks : ∀ change ∈ streams.account.changes,
      disk.isLinkToFolder (runner.folder.join change.path) = false) {path : Path} :
    path ∈ (streams.baseline runner reference disk).changes.paths.filter (fun path =>
        (Pending.parse (String.ofList streams.files)).untracked.any fun untracked =>
          ((streams.baseline runner reference disk).place.join path).same untracked) ↔
      streams.account.Collides path := by
  rw [List.mem_filter, List.any_eq_true]
  refine and_congr ?_ ?_
  · rw [Streams.baseline, Changes.mem_paths_ofList]
    constructor
    · rintro ⟨change, hchange, -, hpath⟩
      exact ⟨change, hchange, hpath⟩
    · rintro ⟨change, hchange, hpath⟩
      exact ⟨change, hchange, hlinks change hchange, hpath⟩
  · simp only [Pending.mem_untracked_parse_iff, String.toList_ofList]
    constructor
    · rintro ⟨untracked, hentry, hsame⟩
      exact ⟨_, hentry, rfl, hsame⟩
    · rintro ⟨⟨state, untracked⟩, hentry, rfl, hsame⟩
      exact ⟨untracked, hentry, hsame⟩

/-- The check passes if the account lets it, and else tells why the account does not. -/
theorem check_baseline
    (hlinks : ∀ change ∈ streams.account.changes,
      disk.isLinkToFolder (runner.folder.join change.path) = false) :
    (streams.baseline runner reference disk).check (.parse (String.ofList streams.files)) =
        .ok () ∧ streams.account.Admits ∨
      ∃ trouble, (streams.baseline runner reference disk).check
          (.parse (String.ofList streams.files)) = .error trouble ∧
        streams.account.Refuses reference trouble := by
  have hentries := (Streams.tells_iff.mpr (rfl : streams.account = _)).entries
  obtain ⟨sorted, horder, htracked⟩ := Pending.exists_tracked_eq hentries
  have hgathers : PathSet.Gathers streams.account.Collides
      ((streams.baseline runner reference disk).conflicts
        (.parse (String.ofList streams.files))) :=
    (PathSet.gathers_ofList _).of_iff fun _ => mem_conflicts_iff hlinks
  unfold check
  rw [htracked]
  by_cases hsorted : sorted = []
  · have hspared : ∀ entry ∈ streams.account.entries, entry.1 = '?' ∨ entry.1 = '!' := by
      intro entry hentry
      by_contra hstate
      refine List.not_mem_nil (a := entry) ?_
      rw [← hsorted, horder.mem_iff, List.mem_filter]
      exact ⟨hentry, by simpa [Pending.isTracked] using hstate⟩
    rw [hsorted, List.map_nil, if_neg (not_not.mpr rfl)]
    dsimp only
    by_cases hnone : (streams.baseline runner reference disk).conflicts
        (.parse (String.ofList streams.files)) = []
    · refine .inl ⟨if_neg (not_not.mpr hnone), hspared, fun path hpath => ?_⟩
      obtain ⟨spelt, hspelt, -⟩ := hgathers.complete path hpath
      rw [hnone] at hspelt
      exact List.not_mem_nil hspelt
    · exact .inr ⟨_, if_pos hnone, .conflict hspared hgathers hnone⟩
  · exact .inr ⟨_, if_pos (by simpa using hsorted), .pending horder hsorted⟩

end Check

/-!
## Making the baseline
-/

section Making

variable {runner : Runner} {reference : String} {start compared ready : Machine σ}
  {streams : Streams}

/-- Git answers in one way. -/
theorem Hears.unique {other : Streams} {before after : Machine σ}
    (h : Hears runner reference start streams compared ready)
    (hother : Hears runner reference start other before after) :
    streams = other ∧ compared = before ∧ ready = after := by
  obtain ⟨knows, places, compares, lists⟩ := h
  obtain ⟨knowsToo, placesToo, comparesToo, listsToo⟩ := hother
  obtain ⟨-, rfl⟩ := knows.unique knowsToo
  obtain ⟨rfl, rfl⟩ := places.unique placesToo
  obtain ⟨rfl, rfl⟩ := compares.unique comparesToo
  obtain ⟨rfl, rfl⟩ := lists.unique listsToo
  exact ⟨rfl, rfl, rfl⟩

/-- If git answers, a baseline is made of what it has written and is checked. -/
theorem Hears.runOn_ofReference (h : Hears runner reference start streams compared ready) :
    (ofReference runner reference).runOn start =
      (((streams.baseline runner reference compared.disk).check
        (.parse (String.ofList streams.files))).map
          fun _ => streams.baseline runner reference compared.disk, ready) := by
  obtain ⟨knows, places, compares, lists⟩ := h
  obtain ⟨known, hknown, -⟩ := Runner.answers_iff.mp knows
  obtain ⟨shown, hplace, houtPlace⟩ := Runner.answers_iff.mp places
  obtain ⟨compared, hcompare, houtCompared⟩ := Runner.answers_iff.mp compares
  obtain ⟨status, hlist, houtStatus⟩ := Runner.answers_iff.mp lists
  obtain ⟨hknown, hgood⟩ := Runner.run_eq_ok_iff.mp hknown
  have hask := Runner.ask_eq_ok_iff.mpr ⟨_, hplace, rfl⟩
  have hchanges := readChanges_eq_ok_iff.mpr ⟨_, hcompare, rfl⟩
  have hpending := readPending_eq_ok_iff.mpr ⟨_, hlist, rfl⟩
  rw [houtPlace, String.toList_ofList] at hask
  rw [houtCompared] at hchanges
  rw [houtStatus] at hpending
  unfold ofReference
  rw [Task.runOn_bind_of_ok (Task.relabel_eq_ok_iff.mpr hknown), hgood, if_neg (by simp),
    Task.runOn_bind_of_ok (Task.relabel_eq_ok_iff.mpr hask),
    Task.runOn_bind_of_ok (Task.relabel_eq_ok_iff.mpr hchanges),
    Task.runOn_bind_of_ok (Task.relabel_eq_ok_iff.mpr hpending), Task.runOn_bind,
    Task.runOn_ofExcept]
  unfold Streams.baseline
  dsimp only
  generalize Baseline.check _ _ = result
  cases result <;> rfl

/-- A baseline that is made is made of what git has answered. -/
theorem exists_hears_of_ok {baseline : Baseline}
    (h : (ofReference runner reference).runOn start = (.ok baseline, ready)) :
    ∃ streams compared, Hears runner reference start streams compared ready := by
  obtain ⟨known, found, place, placed, changes, compared, pending, hknown, hgood, hplace,
    hchanges, hpending, -, -⟩ := ofReference_eq_ok_iff.mp h
  obtain ⟨output, hask, -⟩ := Runner.ask_eq_ok_iff.mp hplace
  obtain ⟨listed, hcompare, -⟩ := readChanges_eq_ok_iff.mp hchanges
  obtain ⟨status, hlist, -⟩ := readPending_eq_ok_iff.mp hpending
  have hanswers : ∀ {args : List String} {before after : Machine σ} {output : Git.Output},
      (runner.run args).runOn before = (.ok output, after) →
        runner.Answers args before output.out.toList after :=
    fun hrun => Runner.answers_iff.mpr ⟨_, hrun, String.ofList_toList.symm⟩
  exact ⟨_, compared, .intro (hanswers (Runner.run_eq_ok_iff.mpr ⟨hknown, hgood⟩))
    (hanswers hask) (hanswers hcompare) (hanswers hlist)⟩

/-- If git answers, what it has written decides whether a baseline is made. -/
theorem Hears.verdict (h : Hears runner reference start streams compared ready)
    (hlinks : ∀ change ∈ streams.account.changes,
      compared.disk.isLinkToFolder (runner.folder.join change.path) = false) :
    (∃ baseline, (ofReference runner reference).runOn start = (.ok baseline, ready)) ∧
        streams.account.Admits ∨
      ∃ trouble, (ofReference runner reference).runOn start = (.error trouble, ready) ∧
        streams.account.Refuses reference trouble := by
  rw [h.runOn_ofReference]
  rcases check_baseline hlinks with ⟨hcheck, hadmits⟩ | ⟨trouble, hcheck, hrefuses⟩
  · rw [hcheck]
    exact .inl ⟨⟨_, rfl⟩, hadmits⟩
  · rw [hcheck]
    exact .inr ⟨trouble, rfl, hrefuses⟩

/--
As long as no change is listed for a link to a folder, a baseline is made just if git answers and
what it has written lets it be made.  If git answers and none is made, what it has written refuses
it, and the trouble names the paths for which it does.
-/
theorem ofReference_verdict
    (hlinks : ∀ streams compared ready, Hears runner reference start streams compared ready →
      ∀ account, streams.Tells account → ∀ change ∈ account.changes,
        compared.disk.isLinkToFolder (runner.folder.join change.path) = false) :
    ((∃ baseline ready, (ofReference runner reference).runOn start = (.ok baseline, ready)) ↔
      ∃ streams compared ready, Hears runner reference start streams compared ready ∧
        ∃ account, streams.Tells account ∧ account.Admits) ∧
    ∀ streams compared ready, Hears runner reference start streams compared ready →
      ∀ trouble stopped, (ofReference runner reference).runOn start = (.error trouble, stopped) →
        ∃ account, streams.Tells account ∧ account.Refuses reference trouble := by
  have hverdict := fun streams compared ready hhears =>
    Hears.verdict hhears (hlinks streams compared ready hhears _ (Streams.tells_iff.mpr rfl))
  refine ⟨⟨?_, ?_⟩, ?_⟩
  · rintro ⟨baseline, ready, hrun⟩
    obtain ⟨streams, compared, hhears⟩ := exists_hears_of_ok hrun
    refine ⟨streams, compared, ready, hhears, _, Streams.tells_iff.mpr rfl, ?_⟩
    rcases hverdict streams compared ready hhears with ⟨-, hadmits⟩ | ⟨trouble, herror, -⟩
    · exact hadmits
    · rw [hrun] at herror
      cases herror
  · rintro ⟨streams, compared, ready, hhears, account, htells, hadmits⟩
    obtain rfl := Streams.tells_iff.mp htells
    rcases hverdict streams compared ready hhears with
      ⟨⟨baseline, hrun⟩, -⟩ | ⟨trouble, -, hrefuses⟩
    · exact ⟨baseline, ready, hrun⟩
    · exact absurd hrefuses hadmits.not_refuses
  · intro streams compared ready hhears trouble stopped hrun
    refine ⟨_, Streams.tells_iff.mpr rfl, ?_⟩
    rcases hverdict streams compared ready hhears with
      ⟨⟨baseline, hok⟩, -⟩ | ⟨found, herror, hrefuses⟩
    · rw [hrun] at hok
      cases hok
    · rw [hrun] at herror
      cases herror
      exact hrefuses

end Making

/-- What git writes where a file was renamed and another one stands in its old place. -/
def ofRenamed : Streams where
  place := "sub/\n".toList
  differences := "R100\x00old.txt\x00new.txt\x00M\x00kept.txt\x00".toList
  files := "!! sub/kept.txt\x00?? sub/old.txt\x00?? new.txt\x00".toList

/-- A machine on which git writes this. -/
def renamed : Machine Script :=
  scripted [.silent, exiting 0 "sub/\n",
    exiting 0 "R100\x00old.txt\x00new.txt\x00M\x00kept.txt\x00",
    exiting 0 "!! sub/kept.txt\x00?? sub/old.txt\x00?? new.txt\x00"]

theorem ofReference_verdict_renamed :
    ∃ (account : Account) (stopped : Machine Script), ofRenamed.Tells account ∧
      (ofReference beforeAddition.runner "main").runOn renamed =
        (.error (.untrackedConflict "main" [⟨"old.txt"⟩]), stopped) ∧
      account.changes =
        [⟨.renamed, ⟨"old.txt"⟩, some ⟨"new.txt"⟩⟩, ⟨.modified, ⟨"kept.txt"⟩, none⟩] ∧
      account.entries = [('!', ⟨"sub/kept.txt"⟩), ('?', ⟨"sub/old.txt"⟩), ('?', ⟨"new.txt"⟩)] ∧
      account.Refuses "main" (.untrackedConflict "main" [⟨"old.txt"⟩]) := by
  have hhears : Hears beforeAddition.runner "main" renamed ofRenamed _ _ :=
    .intro
      (Runner.answers_iff_out?.mpr ⟨by decide +kernel, rfl⟩ : Runner.Answers _ _ _ [] _)
      (Runner.answers_iff_out?.mpr ⟨by decide +kernel, rfl⟩)
      (Runner.answers_iff_out?.mpr ⟨by decide +kernel, rfl⟩)
      (Runner.answers_iff_out?.mpr ⟨by decide +kernel, rfl⟩)
  have hlinks : ∀ streams compared ready,
      Hears beforeAddition.runner "main" renamed streams compared ready →
        ∀ account, streams.Tells account → ∀ change ∈ account.changes,
          compared.disk.isLinkToFolder (beforeAddition.runner.folder.join change.path) = false := by
    intro streams compared ready hother account htells
    obtain ⟨rfl, rfl, -⟩ := hhears.unique hother
    obtain rfl := Streams.tells_iff.mp htells
    decide +kernel
  have hresult : ((ofReference beforeAddition.runner "main").runOn renamed).1 =
      .error (.untrackedConflict "main" [⟨"old.txt"⟩]) := by
    decide +kernel
  rcases hrun : (ofReference beforeAddition.runner "main").runOn renamed with ⟨result, stopped⟩
  rw [hrun] at hresult
  obtain rfl : result = _ := hresult
  obtain ⟨account, htells, hrefuses⟩ :=
    (ofReference_verdict hlinks).2 _ _ _ hhears _ _ hrun
  obtain rfl := Streams.tells_iff.mp htells
  exact ⟨_, stopped, htells, rfl, by decide +kernel, by decide +kernel, hrefuses⟩

end Baseline

end Remedy
