import Remedy.Git.History
import Remedy.Proofs.Git.Ancestry
import Remedy.Proofs.Git.Runner
import Remedy.Proofs.Text.Utf8

/-!
# Whether the reference has gone on

A reference names a commit, or a tag of one.  It has gone on if its commit is not among those that
the current commit came from, and then the commits that are missing here are listed.  This is told
by comparing two ids: that of what the reference names, and that of the commit at which the two
histories part.  For a tag they are never the same, since the first one is the id of the tag.
-/

namespace Remedy.Git

namespace Runner

variable {σ : Type} {runner : Runner} {args : List String} {machine after : Machine σ}
  {text : List Char}

/-- A question is answered if git is successful. -/
theorem Answers.ask (h : runner.Answers args machine text after) :
    (runner.ask args).runOn machine = (.ok (String.ofList (Text.trim text)), after) := by
  obtain ⟨output, hrun, hout⟩ := answers_iff.mp h
  refine ask_eq_ok_iff.mpr ⟨output, hrun, ?_⟩
  rw [hout, String.toList_ofList]

/-- A question is answered only if git is successful. -/
theorem exists_answers_of_ask {found : String}
    (h : (runner.ask args).runOn machine = (.ok found, after)) :
    ∃ text, runner.Answers args machine text after := by
  obtain ⟨output, hrun, -⟩ := ask_eq_ok_iff.mp h
  exact ⟨output.out.toList, answers_iff.mpr ⟨output, hrun, String.ofList_toList.symm⟩⟩

/-- The commits of a range are listed if git is successful. -/
theorem Answers.list {range : String}
    (h : runner.Answers ["log", "--oneline", "--graph", range] machine text after) :
    (History.list runner range).runOn machine =
      (.ok (String.ofList (Text.trimEnd text)), after) := by
  obtain ⟨output, hrun, hout⟩ := answers_iff.mp h
  unfold History.list
  rw [Task.runOn_bind_of_ok hrun, hout, String.toList_ofList]
  rfl

end Runner

/-- The current commit and a reference to compare it with. -/
structure Comparison where
  objects : Objects
  made : objects.Made
  reference : String
  /-- The object that the reference names, a commit or a tag. -/
  named : String
  /-- The commit that the reference stands for. -/
  commit : String
  commitOf_named : objects.commitOf? named = some commit
  head : String
  commitOf_head : objects.commitOf? head = some head

namespace Comparison

/-- The two histories have commits in common. -/
def IsRelated (comparison : Comparison) : Prop :=
  ∃ id, comparison.objects.IsCommon comparison.commit comparison.head id

/-- A commit at which the two histories part. -/
def IsBase (comparison : Comparison) (base : String) : Prop :=
  comparison.objects.IsBest comparison.commit comparison.head base

/-- The commit of the reference is the current one, or that came from it. -/
def IsBehind (comparison : Comparison) : Prop :=
  comparison.objects.IsAncestor comparison.commit comparison.head

theorem commitOf_commit (comparison : Comparison) :
    comparison.objects.commitOf? comparison.commit = some comparison.commit := by
  obtain ⟨⟨parents, hlookup⟩, -⟩ := comparison.made.of_commitOf? comparison.commitOf_named
  exact comparison.made.commitOf?_of_commit hlookup

/-- How the end of a range is written, and the object that it stands for. -/
inductive Tip (comparison : Comparison) : String → String → Prop where
  | head : Tip comparison "HEAD" comparison.head
  | named : Tip comparison comparison.named comparison.named

/-- The commits that are reached from one object and not from another. -/
def Between (comparison : Comparison) (base tip : String) (commits : List String) : Prop :=
  ∀ id, id ∈ commits ↔ id ∈ comparison.objects.reach tip ∧ id ∉ comparison.objects.reach base

/--
What git answers on machines of a kind, which it leaves on machines of that kind.  How a list of
commits is written is left open.
-/
structure Told {σ : Type} (comparison : Comparison) (listing : List String → List Char)
    (runner : Runner) (kind : Machine σ → Prop) : Prop where
  named : ∀ machine, kind machine → ∃ text after,
    runner.Answers ["rev-parse", comparison.reference] machine text after ∧ kind after ∧
      Text.trim text = comparison.named.toList
  base : ∀ machine, kind machine → comparison.IsRelated → ∃ base text after,
    comparison.IsBase base ∧
      runner.Answers ["merge-base", comparison.reference, "HEAD"] machine text after ∧
      kind after ∧ Text.trim text = base.toList
  unrelated : ∀ machine, kind machine → ¬comparison.IsRelated → ∀ text after,
    ¬runner.Answers ["merge-base", comparison.reference, "HEAD"] machine text after
  list : ∀ machine, kind machine → ∀ base tip id, comparison.IsBase base →
    comparison.Tip tip id → ∃ commits after, comparison.Between base id commits ∧
      runner.Answers ["log", "--oneline", "--graph", base ++ ".." ++ tip] machine
        (listing commits) after ∧ kind after

/-- The commits that a history tells of. -/
structure Covers (comparison : Comparison) (listing : List String → List Char) (base : String)
    (history : History) : Prop where
  commit : history.commit = comparison.named
  mergeBase : history.mergeBase = base
  introduced : ∃ commits, comparison.Between base comparison.head commits ∧
    history.introduced = String.ofList (Text.trimEnd (listing commits))
  none_missing : base = comparison.named → history.missing? = none
  missing : base ≠ comparison.named →
    ∃ commits, comparison.Between base comparison.named commits ∧
      history.missing? = some (String.ofList (Text.trimEnd (listing commits)))

section Collect

variable {σ : Type} {comparison : Comparison} {listing : List String → List Char}
  {runner : Runner} {kind : Machine σ → Prop} {machine : Machine σ}

/-- If the histories have commits in common, those since they parted are told. -/
theorem exists_collect (told : comparison.Told listing runner kind) (hkind : kind machine)
    (hrelated : comparison.IsRelated) :
    ∃ base history after, comparison.IsBase base ∧
      (History.collect runner comparison.reference).runOn machine = (.ok history, after) ∧
      comparison.Covers listing base history := by
  obtain ⟨written, first, hrev, hfirst, hnamed⟩ := told.named machine hkind
  obtain ⟨base, parted, second, hbase, hmerge, hsecond, htext⟩ := told.base first hfirst hrelated
  obtain ⟨news, third, hnews, hlist, hthird⟩ := told.list second hsecond base _ _ hbase .head
  -- three questions are put in any case, and a fourth one only if the two ids are not the same
  have hcommit := hrev.ask
  have hparted := hmerge.ask
  rw [hnamed, String.ofList_toList] at hcommit
  rw [htext, String.ofList_toList] at hparted
  have hintroduced := hlist.list
  rw [String.append_assoc, show ".." ++ "HEAD" = "..HEAD" from rfl] at hintroduced
  refine ⟨base, ?_⟩
  unfold History.collect
  rw [Task.runOn_bind_of_ok hcommit, Task.runOn_bind_of_ok hparted,
    Task.runOn_bind_of_ok hintroduced]
  by_cases hsame : base = comparison.named
  · rw [if_pos hsame, Task.runOn_pure]
    exact ⟨_, _, hbase, rfl, rfl, rfl, ⟨news, hnews, rfl⟩, fun _ => rfl, fun hne => absurd hsame hne⟩
  · obtain ⟨lost, last, hlost, hlist, -⟩ := told.list third hthird base _ _ hbase .named
    rw [if_neg hsame, Task.runOn_bind_of_ok hlist.list, Task.runOn_pure]
    exact ⟨_, _, hbase, rfl, rfl, rfl, ⟨news, hnews, rfl⟩, fun heq => absurd heq hsame,
      fun _ => ⟨lost, hlost, rfl⟩⟩

/-- Without commits in common nothing is told. -/
theorem isRelated_of_collect (told : comparison.Told listing runner kind) (hkind : kind machine)
    {history : History} {after : Machine σ}
    (h : (History.collect runner comparison.reference).runOn machine = (.ok history, after)) :
    comparison.IsRelated := by
  by_contra hunrelated
  unfold History.collect at h
  obtain ⟨commit, first, hcommit, hrest⟩ := Task.bind_eq_ok_iff.mp h
  obtain ⟨base, second, hbase, -⟩ := Task.bind_eq_ok_iff.mp hrest
  obtain ⟨text, hanswers⟩ := Runner.exists_answers_of_ask hbase
  obtain ⟨written, left, hrev, hleft, -⟩ := told.named machine hkind
  obtain rfl : left = first := (Task.ok_unique hrev.ask hcommit).2
  exact told.unrelated left hleft hunrelated text second hanswers

/-- Histories part at a commit, and at the one of the reference just if that is behind. -/
theorem IsBase.eq_named_iff {base : String} (h : comparison.IsBase base) :
    base = comparison.named ↔ comparison.named = comparison.commit ∧ comparison.IsBehind := by
  constructor
  · rintro rfl
    have hself :=
      comparison.made.commitOf?_of_isAncestor h.common.1 comparison.commitOf_commit
    have hsame : comparison.named = comparison.commit :=
      Option.some.inj (hself.symm.trans comparison.commitOf_named)
    exact ⟨hsame, (Objects.IsBest.eq_first_iff h).mp hsame⟩
  · rintro ⟨hsame, hbehind⟩
    rw [hsame]
    exact (Objects.IsBest.eq_first_iff h).mpr hbehind

/-- What is told about a reference says whether its commit is missing here. -/
def TellsDivergence (comparison : Comparison) (runner : Runner) (machine : Machine σ) : Prop :=
  ∃ history after,
    (History.collect runner comparison.reference).runOn machine = (.ok history, after) ∧
      (history.missing?.isSome = true ↔ ¬comparison.IsBehind)

/-- Commits are said to be missing unless the reference names a commit that is behind. -/
theorem Covers.isSome_missing_iff {base : String} {history : History}
    (hbase : comparison.IsBase base) (h : comparison.Covers listing base history) :
    history.missing?.isSome = true ↔
      ¬(comparison.named = comparison.commit ∧ comparison.IsBehind) := by
  rw [← hbase.eq_named_iff]
  by_cases hsame : base = comparison.named
  · simp [hsame, h.none_missing hsame]
  · obtain ⟨commits, -, hmissing⟩ := h.missing hsame
    simp [hsame, hmissing]

/--
Whether the commit of a reference is missing here is told rightly just if the two histories have
commits in common and, unless it is missing, the reference names the commit itself.
-/
theorem tellsDivergence_iff (told : comparison.Told listing runner kind) (hkind : kind machine) :
    comparison.TellsDivergence runner machine ↔
      comparison.IsRelated ∧
        (comparison.named = comparison.commit ∨ ¬comparison.IsBehind) := by
  constructor
  · rintro ⟨history, after, hcollect, hmissing⟩
    have hrelated := isRelated_of_collect told hkind hcollect
    obtain ⟨base, found, left, hbase, hfound, hcovers⟩ := exists_collect told hkind hrelated
    obtain rfl := (Task.ok_unique hfound hcollect).1
    rw [hcovers.isSome_missing_iff hbase] at hmissing
    exact ⟨hrelated, by tauto⟩
  · rintro ⟨hrelated, hright⟩
    obtain ⟨base, history, after, hbase, hcollect, hcovers⟩ := exists_collect told hkind hrelated
    refine ⟨history, after, hcollect, ?_⟩
    rw [hcovers.isSome_missing_iff hbase]
    tauto

end Collect

/-!
## A git that knows the answers
-/

/-- A git that answers from a list, and fails at other questions. -/
def knowing (answers : List (List String × List Char)) : Programs Unit where
  start call disk memory :=
    match answers.lookup call.args with
    | some text => (.finished (.exited 0) (Text.encode text) [], disk, memory)
    | none => (.finished (.exited 1) [] [], disk, memory)

/-- Git as it is called at the top of the file tree. -/
def atTop : Runner := ⟨"git", ⟨"/"⟩, 1000⟩

/-- A machine with such a git and no files. -/
def Knows (answers : List (List String × List Char)) (machine : Machine Unit) : Prop :=
  machine.programs = knowing answers ∧ machine.disk = ⟨⟨[]⟩, []⟩

theorem Knows.exists_answers {answers : List (List String × List Char)} {machine : Machine Unit}
    (h : Knows answers machine) {args : List String} {text : List Char}
    (hfree : ∀ arg ∈ args, '\x00' ∉ arg.toList) (hlookup : answers.lookup args = some text) :
    ∃ after, atTop.Answers args machine text after ∧ Knows answers after := by
  obtain ⟨hprograms, hdisk⟩ := h
  have hcall : ∀ arg ∈ atTop.binary :: atTop.folder.text :: args, '\x00' ∉ arg.toList :=
    List.forall_mem_cons.mpr ⟨by decide, List.forall_mem_cons.mpr ⟨by decide, hfree⟩⟩
  have hstart : machine.programs.start ⟨atTop.binary, [], args⟩ machine.disk machine.memory =
      (.finished (.exited 0) (Text.encode text) [], machine.disk, machine.memory) := by
    simp [hprograms, knowing, hlookup]
  obtain ⟨calls, hstarted⟩ := Runner.exists_startOn_eq hcall (by rw [hdisk]; rfl) hstart
  exact ⟨_, ⟨_, _, hstarted, Text.decodeLossy_encode text⟩, hprograms, hdisk⟩

/-- A list of commits, one on each line. -/
def lines (commits : List String) : List Char :=
  commits.flatMap fun id => id.toList ++ ['\n']

/-- The commits that are reached from one object and not from another. -/
def between (comparison : Comparison) (base tip : String) : List String :=
  (comparison.objects.reach tip).filter (· ∉ comparison.objects.reach base)

/-- The answers to what is asked about a comparison. -/
def answers (comparison : Comparison) (base : String) : List (List String × List Char) :=
  [(["rev-parse", comparison.reference], comparison.named.toList ++ ['\n']),
    (["merge-base", comparison.reference, "HEAD"], base.toList ++ ['\n']),
    (["log", "--oneline", "--graph", base ++ ".." ++ comparison.named],
      lines (comparison.between base comparison.named)),
    (["log", "--oneline", "--graph", base ++ ".." ++ "HEAD"],
      lines (comparison.between base comparison.head))]

theorem between_between (comparison : Comparison) (base tip : String) :
    comparison.Between base tip (comparison.between base tip) := by
  intro id
  simp [between]

/-- An id that can be written on a line and in a call. -/
def IsPlain (id : String) : Prop :=
  '\x00' ∉ id.toList ∧ Text.trim (id.toList ++ ['\n']) = id.toList

instance (id : String) : Decidable (IsPlain id) :=
  inferInstanceAs (Decidable (_ ∧ _))

theorem free_range {base tip : String} (hbase : '\x00' ∉ base.toList)
    (htip : '\x00' ∉ tip.toList) :
    ∀ arg ∈ ["log", "--oneline", "--graph", base ++ ".." ++ tip], '\x00' ∉ arg.toList := by
  have hrange : '\x00' ∉ (base ++ ".." ++ tip).toList := by simp [hbase, htip]
  have hall : ∀ arg ∈ ["log", "--oneline", "--graph"] ++ [base ++ ".." ++ tip],
      '\x00' ∉ arg.toList :=
    List.forall_mem_append.mpr ⟨by decide, List.forall_mem_singleton.mpr hrange⟩
  exact hall

/-- Such a git tells what it should. -/
theorem told_answers {comparison : Comparison} {base : String}
    (hbest : comparison.objects.bestOf comparison.commit comparison.head = [base])
    (hreference : '\x00' ∉ comparison.reference.toList) (hnamed : IsPlain comparison.named)
    (hplain : IsPlain base) (hhead : comparison.named ≠ "HEAD") :
    comparison.Told lines atTop (Knows (comparison.answers base)) := by
  have hbase : ∀ other, comparison.IsBase other ↔ other = base := by
    intro other
    rw [IsBase, ← comparison.made.mem_bestOf_iff comparison.commitOf_commit
      comparison.commitOf_head, hbest, List.mem_singleton]
  -- an object named `HEAD` would be asked about by the range of the current commit
  have hfar : (base ++ ".." ++ "HEAD" == base ++ ".." ++ comparison.named) = false := by
    rw [beq_eq_false_iff_ne]
    intro heq
    have htips := congrArg String.toList heq
    simp only [String.toList_append] at htips
    exact hhead (String.toList_inj.mp (List.append_cancel_left htips)).symm
  constructor
  · intro machine hknows
    have hlookup : (comparison.answers base).lookup ["rev-parse", comparison.reference] =
        some (comparison.named.toList ++ ['\n']) := by simp [answers]
    obtain ⟨after, hanswers, hafter⟩ := hknows.exists_answers (by simp [hreference]) hlookup
    exact ⟨_, after, hanswers, hafter, hnamed.2⟩
  · intro machine hknows _
    have hlookup : (comparison.answers base).lookup
        ["merge-base", comparison.reference, "HEAD"] = some (base.toList ++ ['\n']) := by
      simp [answers, List.lookup_cons]
    obtain ⟨after, hanswers, hafter⟩ := hknows.exists_answers (by simp [hreference]) hlookup
    exact ⟨base, _, after, (hbase base).mpr rfl, hanswers, hafter, hplain.2⟩
  · intro machine _ hunrelated
    exact absurd ⟨base, ((hbase base).mpr rfl).common⟩ hunrelated
  · intro machine hknows other tip id hother htip
    obtain rfl := (hbase other).mp hother
    have hlookup : '\x00' ∉ tip.toList ∧ (comparison.answers other).lookup
        ["log", "--oneline", "--graph", other ++ ".." ++ tip] =
          some (lines (comparison.between other id)) := by
      cases htip with
      | head => exact ⟨by decide, by simp [answers, List.lookup_cons, hfar]⟩
      | named => exact ⟨hnamed.1, by simp [answers, List.lookup_cons]⟩
    obtain ⟨after, hanswers, hafter⟩ :=
      hknows.exists_answers (free_range hplain.1 hlookup.1) hlookup.2
    exact ⟨_, after, comparison.between_between other id, hanswers, hafter⟩

/-- A commit, two that came from it, and a tag of each of these. -/
def forked : Objects :=
  [("t2", .tag "c2"), ("t1", .tag "c1"), ("c2", .commit ["c0"]), ("c1", .commit ["c0"]),
    ("c0", .commit [])]

theorem made_forked : forked.Made :=
  .tag (.tag (.commit (.commit (.commit .nil rfl nofun) rfl (by decide)) rfl (by decide)) rfl
    (by decide)) rfl (by decide)

/-- The commit `c1` is compared with a commit of which there is a tag. -/
def ofTag (tag commit : String) (h : forked.commitOf? tag = some commit) : Comparison :=
  ⟨forked, made_forked, "v1", tag, commit, h, "c1", by decide⟩

/-- A machine with a git that knows about a comparison. -/
def machineFor (comparison : Comparison) (base : String) : Machine Unit :=
  ⟨knowing (comparison.answers base), (), ⟨⟨[]⟩, []⟩, [], []⟩

/-- The tag of a commit that is missing. -/
def tagOfMissing : Comparison :=
  ofTag "t2" "c2" (by decide)

theorem tellsDivergence_iff_tag_of_missing :
    tagOfMissing.Told lines atTop (Knows (tagOfMissing.answers "c0")) ∧
      tagOfMissing.TellsDivergence atTop (machineFor tagOfMissing "c0") := by
  have htold : tagOfMissing.Told lines atTop (Knows (tagOfMissing.answers "c0")) :=
    told_answers (by decide +kernel) (by decide) (by decide) (by decide) (by decide)
  have hknows : Knows (tagOfMissing.answers "c0") (machineFor tagOfMissing "c0") := ⟨rfl, rfl⟩
  have hmissing : ¬tagOfMissing.IsBehind := by
    rw [IsBehind, ← tagOfMissing.made.mem_reach_iff tagOfMissing.commitOf_head]
    decide +kernel
  have hbest : "c0" ∈ tagOfMissing.objects.bestOf tagOfMissing.commit tagOfMissing.head := by
    decide +kernel
  have hbase := (tagOfMissing.made.mem_bestOf_iff tagOfMissing.commitOf_commit
    tagOfMissing.commitOf_head).mp hbest
  exact ⟨htold, (tellsDivergence_iff htold hknows).mpr ⟨⟨"c0", hbase.common⟩, .inr hmissing⟩⟩

/-- The tag of the current commit. -/
def tagOfHead : Comparison :=
  ofTag "t1" "c1" (by decide)

/-- The tag of a commit that is there is taken for one that has gone on. -/
theorem not_forall_tellsDivergence :
    ¬∀ (comparison : Comparison) (listing : List String → List Char) (runner : Runner)
      (kind : Machine Unit → Prop) (machine : Machine Unit),
      comparison.Told listing runner kind → kind machine → comparison.IsRelated →
        comparison.TellsDivergence runner machine := by
  intro h
  have htold : tagOfHead.Told lines atTop (Knows (tagOfHead.answers "c1")) :=
    told_answers (by decide +kernel) (by decide) (by decide) (by decide) (by decide)
  have hknows : Knows (tagOfHead.answers "c1") (machineFor tagOfHead "c1") := ⟨rfl, rfl⟩
  have hbehind : tagOfHead.IsBehind := .refl
  have hrelated : tagOfHead.IsRelated := ⟨"c1", .refl, .refl⟩
  obtain ⟨history, after, hcollect, hmissing⟩ := h _ _ _ _ _ htold hknows hrelated
  obtain ⟨base, found, left, hbase, hfound, hcovers⟩ := exists_collect htold hknows hrelated
  obtain rfl := (Task.ok_unique hfound hcollect).1
  have htag : tagOfHead.named ≠ tagOfHead.commit := by decide
  have hsome := (hcovers.isSome_missing_iff hbase).mpr fun hboth => htag hboth.1
  exact hmissing.mp hsome hbehind

end Comparison

end Remedy.Git
