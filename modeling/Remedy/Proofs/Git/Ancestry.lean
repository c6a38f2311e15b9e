import Mathlib.Data.Finset.Max
import Mathlib.Data.List.Basic
import Mathlib.Logic.Relation

/-!
# Commits and their ancestors

A repository holds objects by their ids, and an object is made after those that it refers to.  So
the commits that are reached from an id, through tags and parents, can be listed; they are the
ancestors of the commit that the id stands for.  If two commits have ancestors in common, some of
these are best: they are ancestors of no other one.
-/

namespace Remedy.Git

/-- What an object is, as far as histories go. -/
inductive Object where
  /-- A commit with the commits that it came from. -/
  | commit (parents : List String)
  /-- An annotated tag of another object. -/
  | tag (target : String)
deriving DecidableEq

/-- Objects by their ids, the latest first. -/
abbrev Objects := List (String × Object)

namespace Objects

/-- The commit that an id stands for, be it its own or that of what it tags. -/
def commitOf? : Objects → String → Option String
  | [], _ => none
  | (first, .commit _) :: rest, id => if first = id then some id else commitOf? rest id
  | (first, .tag target) :: rest, id =>
      if first = id then commitOf? rest target else commitOf? rest id

/-- The commits that are reached from an id, through tags and parents. -/
def reach : Objects → String → List String
  | [], _ => []
  | (first, .commit parents) :: rest, id =>
      if first = id then id :: parents.flatMap fun parent => reach rest parent
      else reach rest id
  | (first, .tag target) :: rest, id =>
      if first = id then reach rest target else reach rest id

/-- One commit came from another. -/
def IsParent (objects : Objects) (parent child : String) : Prop :=
  ∃ parents, objects.lookup child = some (.commit parents) ∧ parent ∈ parents

/-- A commit is another one, or that came from it. -/
def IsAncestor (objects : Objects) : String → String → Prop :=
  Relation.ReflTransGen objects.IsParent

/-- Objects as they are made one after the other: each refers to objects that are there. -/
inductive Made : Objects → Prop where
  | nil : Made []
  | commit {objects : Objects} {id : String} {parents : List String} (made : Made objects)
      (fresh : objects.lookup id = none)
      (known : ∀ parent ∈ parents, objects.commitOf? parent = some parent) :
      Made ((id, .commit parents) :: objects)
  | tag {objects : Objects} {id target : String} (made : Made objects)
      (fresh : objects.lookup id = none) (known : (objects.commitOf? target).isSome = true) :
      Made ((id, .tag target) :: objects)

variable {objects : Objects} {id : String}

/-- What stands for a commit is there. -/
theorem lookup_ne_none_of_commitOf? {commit : String} (h : objects.commitOf? id = some commit) :
    objects.lookup id ≠ none := by
  induction objects with
  | nil => cases h
  | cons entry rest ih =>
      obtain ⟨first, object⟩ := entry
      by_cases hfirst : first = id
      · simp [hfirst]
      · have hfar : (id == first) = false := by simpa using Ne.symm hfirst
        rw [List.lookup_cons, hfar]
        refine ih ?_
        cases object <;> simpa [commitOf?, hfirst] using h

/-- More objects, among which everything that was there is as it was. -/
structure Extends (objects older : Objects) : Prop where
  lookup : ∀ id, older.lookup id ≠ none → objects.lookup id = older.lookup id
  commitOf? : ∀ id, older.lookup id ≠ none → objects.commitOf? id = older.commitOf? id
  reach : ∀ id, older.lookup id ≠ none → objects.reach id = older.reach id

namespace Extends

theorem refl (objects : Objects) : objects.Extends objects :=
  ⟨fun _ _ => rfl, fun _ _ => rfl, fun _ _ => rfl⟩

theorem trans {older oldest : Objects} (h : objects.Extends older) (holder : older.Extends oldest) :
    objects.Extends oldest := by
  have hstands : ∀ id, oldest.lookup id ≠ none → older.lookup id ≠ none := by
    intro id hid
    rwa [holder.lookup id hid]
  exact ⟨fun id hid => (h.lookup id (hstands id hid)).trans (holder.lookup id hid),
    fun id hid => (h.commitOf? id (hstands id hid)).trans (holder.commitOf? id hid),
    fun id hid => (h.reach id (hstands id hid)).trans (holder.reach id hid)⟩

/-- An object with a fresh id says nothing about the others. -/
theorem cons {first : String} (fresh : objects.lookup first = none) (object : Object) :
    Extends ((first, object) :: objects) objects := by
  have hne : ∀ id, objects.lookup id ≠ none → first ≠ id := by
    rintro id hid rfl
    exact hid fresh
  refine ⟨fun id hid => ?_, fun id hid => ?_, fun id hid => ?_⟩
  · have hfar : (id == first) = false := by simpa using (hne id hid).symm
    rw [List.lookup_cons, hfar]
  · cases object <;> simp [Objects.commitOf?, hne id hid]
  · cases object <;> simp [Objects.reach, hne id hid]

end Extends

namespace Made

/-- An object that was made before the last one was made after those that it refers to. -/
theorem exists_extends_cons {first : String} {found object : Object}
    (made : Made ((first, found) :: objects)) (fresh : objects.lookup first = none)
    (ih : objects.lookup id = some object →
      ∃ older, Made ((id, object) :: older) ∧ objects.Extends ((id, object) :: older))
    (hlookup : List.lookup id ((first, found) :: objects) = some object) :
    ∃ older, Made ((id, object) :: older) ∧
      Extends ((first, found) :: objects) ((id, object) :: older) := by
  rw [List.lookup_cons] at hlookup
  split at hlookup
  · rename_i hfirst
    obtain rfl := Option.some.inj hlookup
    obtain rfl : id = first := by simpa using hfirst
    exact ⟨objects, made, .refl _⟩
  · obtain ⟨older, holder, hextends⟩ := ih hlookup
    exact ⟨older, holder, (Extends.cons fresh found).trans hextends⟩

/-- Before an object was made there were the objects that it refers to. -/
theorem exists_extends (made : Made objects) {object : Object}
    (hlookup : objects.lookup id = some object) :
    ∃ older, Made ((id, object) :: older) ∧ objects.Extends ((id, object) :: older) := by
  induction made with
  | nil => cases hlookup
  | commit made fresh known ih =>
      exact exists_extends_cons (.commit made fresh known) fresh ih hlookup
  | tag made fresh known ih =>
      exact exists_extends_cons (.tag made fresh known) fresh ih hlookup

/-- A commit stands for itself. -/
theorem commitOf?_of_commit (made : Made objects) {parents : List String}
    (hlookup : objects.lookup id = some (.commit parents)) : objects.commitOf? id = some id := by
  obtain ⟨older, -, hextends⟩ := made.exists_extends hlookup
  rw [hextends.commitOf? id (by simp)]
  simp [commitOf?]

theorem commitOf?_of_isParent (made : Made objects) {parent : String}
    (h : objects.IsParent parent id) : objects.commitOf? parent = some parent := by
  obtain ⟨parents, hlookup, hmem⟩ := h
  obtain ⟨older, hmade, hextends⟩ := made.exists_extends hlookup
  cases hmade with
  | commit _ fresh known =>
      have hparent := known parent hmem
      rw [(hextends.trans (.cons fresh _)).commitOf? parent (lookup_ne_none_of_commitOf? hparent)]
      exact hparent

/-- What a commit came from is a commit. -/
theorem commitOf?_of_isAncestor (made : Made objects) {ancestor : String}
    (h : objects.IsAncestor ancestor id) (hid : objects.commitOf? id = some id) :
    objects.commitOf? ancestor = some ancestor := by
  rcases h.cases_head with rfl | ⟨child, hstep, -⟩
  · exact hid
  · exact made.commitOf?_of_isParent hstep

/-- From a commit, it is reached itself, and what is reached from its parents. -/
theorem reach_of_commit (made : Made objects) {parents : List String}
    (hlookup : objects.lookup id = some (.commit parents)) :
    objects.reach id = id :: parents.flatMap objects.reach := by
  obtain ⟨older, hmade, hextends⟩ := made.exists_extends hlookup
  cases hmade with
  | commit _ fresh known =>
      have hparents : parents.flatMap (reach older) = parents.flatMap objects.reach := by
        refine List.flatMap_congr fun parent hparent => ?_
        have hthere := lookup_ne_none_of_commitOf? (known parent hparent)
        exact ((hextends.trans (.cons fresh _)).reach parent hthere).symm
      rw [hextends.reach id (by simp), ← hparents]
      simp [reach]

end Made

/-- What an id stood for, and what was reached from it, stays. -/
theorem Extends.of_commitOf? {older : Objects} (h : objects.Extends older) {other commit : String}
    (hcommit : (∃ parents, older.lookup commit = some (.commit parents)) ∧
      older.reach other = older.reach commit) (hreach : objects.reach id = older.reach other) :
    (∃ parents, objects.lookup commit = some (.commit parents)) ∧
      objects.reach id = objects.reach commit := by
  obtain ⟨⟨parents, hlookup⟩, hsame⟩ := hcommit
  have hthere : older.lookup commit ≠ none := by simp [hlookup]
  exact ⟨⟨parents, (h.lookup commit hthere).trans hlookup⟩,
    by rw [hreach, hsame, h.reach commit hthere]⟩

namespace Made

/-- An id stands for a commit, from which the same is reached. -/
theorem of_commitOf? (made : Made objects) {commit : String}
    (h : objects.commitOf? id = some commit) :
    (∃ parents, objects.lookup commit = some (.commit parents)) ∧
      objects.reach id = objects.reach commit := by
  induction made generalizing id with
  | nil => cases h
  | @commit objects first parents made fresh known ih =>
      by_cases hfirst : first = id
      · obtain rfl : id = commit := by simpa [commitOf?, hfirst] using h
        exact ⟨⟨parents, by simp [hfirst]⟩, rfl⟩
      · exact (Extends.cons fresh _).of_commitOf? (ih (by simpa [commitOf?, hfirst] using h))
          (by simp [reach, hfirst])
  | @tag objects first target made fresh known ih =>
      by_cases hfirst : first = id
      · exact (Extends.cons fresh _).of_commitOf? (ih (by simpa [commitOf?, hfirst] using h))
          (by simp [reach, hfirst])
      · exact (Extends.cons fresh _).of_commitOf? (ih (by simpa [commitOf?, hfirst] using h))
          (by simp [reach, hfirst])

/-- Less is reached from a parent. -/
theorem length_reach_lt (made : Made objects) {parent : String}
    (h : objects.IsParent parent id) : (objects.reach parent).length < (objects.reach id).length := by
  obtain ⟨parents, hlookup, hmem⟩ := h
  obtain ⟨front, rest, rfl⟩ := List.append_of_mem hmem
  rw [made.reach_of_commit hlookup, List.flatMap_append, List.flatMap_cons, List.length_cons,
    List.length_append, List.length_append]
  omega

/-- What is reached from an id are the ancestors of the commit that it stands for. -/
theorem mem_reach_iff (made : Made objects) {commit ancestor : String}
    (h : objects.commitOf? id = some commit) :
    ancestor ∈ objects.reach id ↔ objects.IsAncestor ancestor commit := by
  obtain ⟨⟨parents, hlookup⟩, hsame⟩ := made.of_commitOf? h
  rw [hsame]
  constructor
  · intro hmem
    -- the induction goes down from the commit to its parents, from which less is reached
    clear h hsame
    induction hlength : (objects.reach commit).length using Nat.strong_induction_on
      generalizing commit parents with
    | _ length ih =>
        subst hlength
        rw [made.reach_of_commit hlookup, List.mem_cons, List.mem_flatMap] at hmem
        rcases hmem with rfl | ⟨parent, hparent, hmem⟩
        · exact .refl
        · have hstep : objects.IsParent parent commit := ⟨parents, hlookup, hparent⟩
          obtain ⟨⟨others, hothers⟩, -⟩ := made.of_commitOf? (made.commitOf?_of_isParent hstep)
          exact (ih _ (made.length_reach_lt hstep) others hothers hmem rfl).tail hstep
  · intro hancestor
    clear h hsame
    induction hancestor generalizing parents with
    | refl =>
        rw [made.reach_of_commit hlookup]
        exact List.mem_cons_self
    | tail _ hstep ih =>
        obtain ⟨⟨others, hothers⟩, -⟩ := made.of_commitOf? (made.commitOf?_of_isParent hstep)
        obtain ⟨found, hfound, hmem⟩ := hstep
        rw [made.reach_of_commit hfound]
        exact List.mem_cons_of_mem _ (List.mem_flatMap.mpr ⟨_, hmem, ih others hothers⟩)

/-- Less is reached from an ancestor. -/
theorem length_reach_le (made : Made objects) {ancestor : String}
    (h : objects.IsAncestor ancestor id) :
    ancestor = id ∨ (objects.reach ancestor).length < (objects.reach id).length := by
  induction h with
  | refl => exact .inl rfl
  | tail _ hstep ih =>
      have hlt := made.length_reach_lt hstep
      rcases ih with rfl | hless
      · exact .inr hlt
      · exact .inr (hless.trans hlt)

end Made

/-!
## Where two histories part
-/

/-- A commit from which both histories go on. -/
def IsCommon (objects : Objects) (first second id : String) : Prop :=
  objects.IsAncestor id first ∧ objects.IsAncestor id second

/-- A commit from which both histories go on, and that is an ancestor of no other such commit. -/
structure IsBest (objects : Objects) (first second base : String) : Prop where
  common : objects.IsCommon first second base
  last : ∀ id, objects.IsCommon first second id → objects.IsAncestor base id → id = base

/-- If there are common ancestors of two commits, some are best. -/
theorem Made.exists_isBest (made : Made objects) {first second : String}
    (hfirst : objects.commitOf? first = some first)
    (h : ∃ id, objects.IsCommon first second id) : ∃ base, objects.IsBest first second base := by
  classical
  have hmem : ∀ id, id ∈ (objects.reach first).toFinset.filter
      (fun id => objects.IsAncestor id second) ↔ objects.IsCommon first second id := by
    intro id
    rw [Finset.mem_filter, List.mem_toFinset, made.mem_reach_iff hfirst]
    rfl
  obtain ⟨id, hid⟩ := h
  -- the one from which most is reached: from what is behind another one, less is reached
  obtain ⟨base, hbase, hmost⟩ := Finset.exists_max_image _
    (fun id => (objects.reach id).length) ⟨id, (hmem id).mpr hid⟩
  refine ⟨base, (hmem base).mp hbase, fun other hother hancestor => ?_⟩
  rcases made.length_reach_le hancestor with rfl | hless
  · rfl
  · exact absurd (hmost other ((hmem other).mpr hother)) (Nat.not_le.mpr hless)

/-- The best common ancestors of two commits. -/
def bestOf (objects : Objects) (first second : String) : List String :=
  let common := (objects.reach first).filter (· ∈ objects.reach second)
  common.filter fun id => common.all fun other => id ∉ objects.reach other || other = id

theorem Made.mem_bestOf_iff (made : Made objects) {first second base : String}
    (hfirst : objects.commitOf? first = some first)
    (hsecond : objects.commitOf? second = some second) :
    base ∈ objects.bestOf first second ↔ objects.IsBest first second base := by
  have hcommon : ∀ id, id ∈ (objects.reach first).filter (· ∈ objects.reach second) ↔
      objects.IsCommon first second id := by
    intro id
    rw [List.mem_filter, made.mem_reach_iff hfirst, decide_eq_true_eq, made.mem_reach_iff hsecond]
    rfl
  have hlast : ∀ id, objects.IsCommon first second id →
      (base ∈ objects.reach id ↔ objects.IsAncestor base id) := fun id hid =>
    made.mem_reach_iff (made.commitOf?_of_isAncestor hid.1 hfirst)
  unfold bestOf
  rw [List.mem_filter, hcommon, List.all_eq_true]
  constructor
  · rintro ⟨hbase, hall⟩
    refine ⟨hbase, fun id hid hancestor => ?_⟩
    have hid' := hall id ((hcommon id).mpr hid)
    simpa [(hlast id hid).mpr hancestor] using hid'
  · rintro ⟨hbase, hall⟩
    refine ⟨hbase, fun id hmem => ?_⟩
    have hid := (hcommon id).mp hmem
    by_cases hreached : base ∈ objects.reach id
    · simp [hall id hid ((hlast id hid).mp hreached)]
    · simp [hreached]

/-- A commit is the best common ancestor with another one just if it is an ancestor of that. -/
theorem IsBest.eq_first_iff {first second base : String} (h : objects.IsBest first second base) :
    base = first ↔ objects.IsAncestor first second := by
  constructor
  · rintro rfl
    exact h.common.2
  · intro hancestor
    exact (h.last first ⟨.refl, hancestor⟩ h.common.1).symm

end Objects

end Remedy.Git
