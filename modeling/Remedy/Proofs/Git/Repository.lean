import Remedy.Baseline
import Remedy.Proofs.Git.Listing
import Remedy.Proofs.Git.Runner
import Remedy.Proofs.Text.Utf8
import Remedy.Proofs.Tree.Standing

/-!
# Git as a keeper of files

A repository has an index, commits and trees, all of which hold files, and a working tree below
its top.  `Serves` says what git makes of them when it is called: it tells about them and changes
nothing, or it copies files into the index and the working tree, or it removes files from both.
`Shows` says which files the index and the working tree of a machine hold at some time, and each
call is a step from one such state to another.
-/

namespace Remedy.Git

/-- What files hold, by the names that lead to them. -/
abbrev Contents := Location → Option Content

/-- What is found in front, or else behind. -/
def overlay {α : Type} (front back : Location → Option α) : Location → Option α :=
  fun names => (front names).or (back names)

/-- What is found but for some that are gone. -/
def without {α : Type} (held : Location → Option α) (gone : List Location) :
    Location → Option α :=
  fun names => if names ∈ gone then none else held names

/-- The files that hold some contents. -/
def Contents.nodes (contents : Contents) : Location → Option Node :=
  fun names => (contents names).map .file

/-- None of some names leads on from others. -/
def Apart (stands : Location → Prop) : Prop :=
  ∀ front rest, stands front → stands (front ++ rest) → rest = []

theorem Apart.mono {stands others : Location → Prop} (h : Apart others)
    (hsub : ∀ names, stands names → others names) : Apart stands :=
  fun front rest hfront hrest => h front rest (hsub front hfront) (hsub _ hrest)

/-- What is found in two steps is found in front or behind. -/
theorem isSome_of_overlay {α : Type} {front back : Location → Option α} {names : Location}
    (h : (overlay front back names).isSome) : (front names).isSome ∨ (back names).isSome := by
  unfold overlay at h
  cases hfront : front names with
  | none => exact .inr (by simpa [hfront] using h)
  | some held => exact .inl rfl

theorem isSome_of_without {α : Type} {held : Location → Option α} {gone : List Location}
    {names : Location} (h : (without held gone names).isSome) : (held names).isSome := by
  unfold without at h
  split at h
  · cases h
  · exact h

@[simp] theorem isSome_nodes (contents : Contents) (names : Location) :
    (contents.nodes names).isSome = (contents names).isSome :=
  Option.isSome_map

@[simp] theorem without_nil {α : Type} (held : Location → Option α) : without held [] = held := by
  funext names
  simp [without]

theorem without_cons {α : Type} (held : Location → Option α) (first : Location)
    (gone : List Location) :
    without (without held [first]) gone = without held (first :: gone) := by
  funext names
  unfold without
  by_cases hfirst : names = first <;> simp [hfirst]

/-- What git keeps, and where; `σ` is what it remembers from call to call. -/
structure Repository (σ : Type) where
  top : Location
  /-- What the commit to compare with is called. -/
  reference : String
  /-- What the tree with the original files of the index is called. -/
  tree : String
  /-- The files of the current commit. -/
  head : Contents
  /-- The files of the commit at which the current one and the reference part. -/
  base : Contents
  /-- The files of the reference. -/
  target : Contents
  /-- The original files of the index. -/
  original : Contents
  index : σ → Contents
  /-- The files that are left out when untracked files are listed. -/
  ignores : σ → Disk → Location → Prop

namespace Repository

variable {σ : Type}

/-- The working tree is a tree of files, and so is the index. -/
structure Orderly (repo : Repository σ) (disk : Disk) (memory : σ) : Prop where
  sound : disk.tree.Sound repo.top
  isWay : ∀ names, (repo.index memory names).isSome → IsWay names

/-- No file of the reference, the index or the working tree lies on the way to another one. -/
def KeepsApart (repo : Repository σ) (disk : Disk) : Prop :=
  Apart fun names => (repo.target names).isSome ∨ (repo.original names).isSome ∨
    (disk.standing repo.top names).isSome

/-- A tracked file is not the same in the current commit, the index and the working tree. -/
def Differs (repo : Repository σ) (disk : Disk) (memory : σ) (names : Location) : Prop :=
  repo.head names ≠ repo.index memory names ∨
    ∃ content, repo.index memory names = some content ∧
      disk.standing repo.top names ≠ some (.file content)

/-- The differences are those between two commits, renames found or not. -/
structure Compares (base index : Contents) (differences : List Difference) : Prop where
  writable : ∀ difference ∈ differences, difference.Writable
  lost : ∀ names, (∃ difference ∈ differences, difference.lost? = some names) ↔
    (base names).isSome ∧ index names = none
  gained : ∀ names, (∃ difference ∈ differences, difference.gained? = some names) ↔
    base names = none ∧ (index names).isSome
  kept : ∀ names, (∃ difference ∈ differences, difference.kept? = some names) ↔
    ∃ old new, base names = some old ∧ index names = some new ∧ old ≠ new

/-- The items are the tracked files that differ and the untracked files. -/
structure Lists (repo : Repository σ) (disk : Disk) (memory : σ) (items : List Pending.Item) :
    Prop where
  writable : ∀ item ∈ items, item.Writable
  tracked : ∀ names, (∃ item ∈ items, item.Tracks names) ↔ repo.Differs disk memory names
  untracked : ∀ names, .untracked names ∈ items ↔
    (disk.standing repo.top names).isSome ∧ repo.index memory names = none ∧
      ¬repo.ignores memory disk names

section Calls

variable (repo : Repository σ) (programs : Programs σ) (binary : String)

/-- A call that tells something and changes nothing. -/
def Tells (args : List String) (telling : Disk → σ → Ending → List Char → Prop) : Prop :=
  ∀ disk memory, repo.Orderly disk memory → ∃ ending text err after,
    programs.start ⟨binary, repo.top, args⟩ disk memory =
      (.finished ending (Text.encode text) err, disk, after) ∧
    repo.index after = repo.index memory ∧ repo.ignores after = repo.ignores memory ∧
    telling disk memory ending text

/-- What the index and the working tree hold when a call is over. -/
structure Becomes (before disk : Disk) (memory : σ) (index : Contents)
    (standing : Location → Option Node) : Prop where
  beside : Disk.SameBeside repo.top before disk
  orderly : repo.Orderly disk memory
  index : repo.index memory = index
  standing : disk.standing repo.top = standing

/-- A call that copies all files of a commit or tree, and fails if there are none. -/
structure ChecksOut (name : String) (contents : Contents) : Prop where
  copies : ∀ disk memory, repo.Orderly disk memory → (∃ names, (contents names).isSome) →
    Apart (fun names => (contents names).isSome ∨ (repo.index memory names).isSome ∨
      (disk.standing repo.top names).isSome) →
    ∃ out err left after,
      programs.start ⟨binary, repo.top, Baseline.checkoutArgs name⟩ disk memory =
        (.finished (.exited 0) out err, left, after) ∧
      repo.Becomes disk left after (overlay contents (repo.index memory))
        (overlay contents.nodes (disk.standing repo.top))
  fails : ∀ disk memory, repo.Orderly disk memory → (∀ names, contents names = none) →
    ∃ code out err after, code ≠ 0 ∧
      programs.start ⟨binary, repo.top, Baseline.checkoutArgs name⟩ disk memory =
        (.finished (.exited code) out err, disk, after) ∧
      repo.index after = repo.index memory

/-- A call that removes files that git tracks. -/
def Removes : Prop :=
  ∀ disk memory gone, repo.Orderly disk memory → gone ≠ [] →
    (∀ names ∈ gone, (repo.index memory names).isSome) →
    Apart (fun names => (repo.index memory names).isSome ∨
      (disk.standing repo.top names).isSome) →
    ∃ out err left after,
      programs.start ⟨binary, repo.top, Baseline.removeArgs (gone.map .ofNames)⟩ disk memory =
        (.finished (.exited 0) out err, left, after) ∧
      repo.Becomes disk left after (without (repo.index memory) gone)
        (without (disk.standing repo.top) gone)

/-- What git answers, called at the top of a repository. -/
structure Serves : Prop where
  isWay : ∀ names, (repo.base names).isSome ∨ (repo.target names).isSome ∨
    (repo.original names).isSome → IsWay names
  tree_free : '\x00' ∉ repo.tree.toList
  known : repo.Tells programs binary
    ["cat-file", "-e", repo.reference ++ "^\x7bcommit\x7d"] fun _ _ _ _ => True
  place : repo.Tells programs binary ["rev-parse", "--show-prefix"]
    fun _ _ ending text => ending = .exited 0 ∧ Text.trim text = []
  diff : repo.Tells programs binary (Baseline.diffArgs repo.reference)
    fun _ memory ending text => ending = .exited 0 ∧ ∃ differences,
      text = Difference.listing differences ∧ Compares repo.base (repo.index memory) differences
  status : repo.Tells programs binary Baseline.statusArgs
    fun disk memory ending text => ending = .exited 0 ∧ ∃ items,
      text = Pending.Item.listing items ∧ repo.Lists disk memory items
  write : repo.Tells programs binary ["write-tree"]
    fun _ memory ending text => repo.index memory = repo.original →
      ending = .exited 0 ∧ Text.trim text = repo.tree.toList
  list : repo.Tells programs binary (Baseline.listArgs repo.tree)
    fun _ _ ending text => ending = .exited 0 ∧ ∃ names : List String,
      text = terminated (names.map String.toList) ∧
      ∀ name, name ∈ names ↔ ∃ rest, (repo.original (name :: rest)).isSome
  checkout_reference : repo.ChecksOut programs binary repo.reference repo.target
  checkout_tree : repo.ChecksOut programs binary repo.tree repo.original
  remove : repo.Removes programs binary

end Calls

/-!
## Texts that can be called with

No text in a call may have a NUL in it.
-/

theorem free_diffArgs {reference : String} (hfree : '\x00' ∉ reference.toList) :
    ∀ text ∈ Baseline.diffArgs reference, '\x00' ∉ text.toList :=
  show ∀ text ∈ (Baseline.diffArgs "").dropLast ++ [reference], _ from
    List.forall_mem_append.mpr ⟨by decide, by simpa using hfree⟩

theorem free_checkoutArgs {name : String} (hfree : '\x00' ∉ name.toList) :
    ∀ text ∈ Baseline.checkoutArgs name, '\x00' ∉ text.toList :=
  List.forall_mem_cons.mpr ⟨by decide, List.forall_mem_cons.mpr ⟨hfree, by decide⟩⟩

theorem free_listArgs {tree : String} (hfree : '\x00' ∉ tree.toList) :
    ∀ text ∈ Baseline.listArgs tree, '\x00' ∉ text.toList :=
  show ∀ text ∈ (Baseline.listArgs "").dropLast ++ [tree], _ from
    List.forall_mem_append.mpr ⟨by decide, by simpa using hfree⟩

theorem free_removeArgs {gone : List Location} (hgone : ∀ names ∈ gone, IsWay names) :
    ∀ text ∈ Baseline.removeArgs (gone.map .ofNames), '\x00' ∉ text.toList := by
  refine show ∀ text ∈ Baseline.removeArgs [] ++ _, _ from
    List.forall_mem_append.mpr ⟨by decide, fun text htext => ?_⟩
  obtain ⟨path, hpath, rfl⟩ := List.mem_map.mp htext
  obtain ⟨names, hnames, rfl⟩ := List.mem_map.mp hpath
  exact Path.nul_not_mem_ofNames (hgone names hnames)

/-!
## States of a machine
-/

/-- The files that the index and the working tree of a machine hold. -/
structure Shows (repo : Repository σ) (runner : Runner) (machine : Machine σ) (index : Contents)
    (standing : Location → Option Node) : Prop where
  serves : repo.Serves machine.programs runner.binary
  free : '\x00' ∉ runner.binary.toList ∧ '\x00' ∉ repo.reference.toList
  moored : Disk.Moors runner.folder repo.top machine.disk
  orderly : repo.Orderly machine.disk machine.memory
  index : repo.index machine.memory = index
  standing : machine.disk.standing repo.top = standing

/-- A machine on which nothing has changed that git keeps. -/
structure Stays (repo : Repository σ) (machine after : Machine σ) : Prop where
  programs : after.programs = machine.programs
  disk : after.disk = machine.disk
  index : repo.index after.memory = repo.index machine.memory
  ignores : repo.ignores after.memory = repo.ignores machine.memory

theorem Stays.refl {repo : Repository σ} (machine : Machine σ) : repo.Stays machine machine :=
  ⟨rfl, rfl, rfl, rfl⟩

theorem Stays.trans {repo : Repository σ} {machine middle after : Machine σ}
    (h : repo.Stays machine middle) (hafter : repo.Stays middle after) :
    repo.Stays machine after :=
  ⟨hafter.programs.trans h.programs, hafter.disk.trans h.disk, hafter.index.trans h.index,
    hafter.ignores.trans h.ignores⟩

namespace Shows

variable {repo : Repository σ} {runner : Runner} {machine : Machine σ} {index : Contents}
  {standing : Location → Option Node}

theorem of_stays (h : repo.Shows runner machine index standing) {after : Machine σ}
    (hstays : repo.Stays machine after) : repo.Shows runner after index standing where
  serves := by
    rw [hstays.programs]
    exact h.serves
  free := h.free
  moored := by
    rw [hstays.disk]
    exact h.moored
  orderly := by
    refine ⟨?_, fun names hnames => h.orderly.isWay names ?_⟩
    · rw [hstays.disk]
      exact h.orderly.sound
    · rwa [← hstays.index]
  index := hstays.index.trans h.index
  standing := by
    rw [hstays.disk]
    exact h.standing

/-- What is called must be free of NULs; the name of git and its folder are. -/
theorem free_args (h : repo.Shows runner machine index standing) {args : List String}
    (hargs : ∀ text ∈ args, '\x00' ∉ text.toList) :
    ∀ text ∈ runner.binary :: runner.folder.text :: args, '\x00' ∉ text.toList := by
  intro text htext
  rcases List.mem_cons.mp htext with rfl | htext
  · exact h.free.1
  · rcases List.mem_cons.mp htext with rfl | htext
    · exact (Disk.walk_of_resolve_folder h.moored.resolve).2.1
    · exact hargs text htext

/-- A call that tells something is heard, and nothing has changed behind it. -/
theorem exists_runAnyway_of_tells (h : repo.Shows runner machine index standing)
    {args : List String} {telling : Disk → σ → Ending → List Char → Prop}
    (htells : repo.Tells machine.programs runner.binary args telling)
    (hargs : ∀ text ∈ args, '\x00' ∉ text.toList) :
    ∃ ending text err after,
      (runner.runAnyway args).runOn machine =
        (.ok ⟨ending, String.ofList text, err⟩, after) ∧
      repo.Stays machine after ∧ telling machine.disk machine.memory ending text := by
  obtain ⟨ending, text, err, memory, hstart, hindex, hignores, htelling⟩ :=
    htells machine.disk machine.memory h.orderly
  obtain ⟨calls, hstarted⟩ :=
    Runner.exists_startOn_eq (h.free_args hargs) h.moored.resolve hstart
  have hrun : (runner.runAnyway args).runOn machine = _ :=
    Runner.runAnyway_eq_ok_iff.mpr ⟨ending, _, err, hstarted, rfl⟩
  rw [Text.decodeLossy_encode] at hrun
  exact ⟨ending, text, _, _, hrun, ⟨rfl, rfl, hindex, hignores⟩, htelling⟩

/-- The same for a call that must be successful. -/
theorem exists_run_of_tells (h : repo.Shows runner machine index standing)
    {args : List String} {telling : Disk → σ → Ending → List Char → Prop}
    (htells : repo.Tells machine.programs runner.binary args telling)
    (hargs : ∀ text ∈ args, '\x00' ∉ text.toList)
    (hgood : ∀ ending text, telling machine.disk machine.memory ending text →
      ending = .exited 0) :
    ∃ ending text err after,
      (runner.run args).runOn machine = (.ok ⟨ending, String.ofList text, err⟩, after) ∧
      repo.Stays machine after ∧ telling machine.disk machine.memory ending text := by
  obtain ⟨ending, text, err, after, hrun, hstays, htelling⟩ :=
    h.exists_runAnyway_of_tells htells hargs
  refine ⟨ending, text, err, after, Runner.run_eq_ok_iff.mpr ⟨hrun, ?_⟩, hstays, htelling⟩
  exact Runner.isSuccess_iff.mpr (hgood ending text htelling)

/-- A call that changes files leads to the state that it is meant to lead to. -/
theorem exists_runAnyway_of_becomes (h : repo.Shows runner machine index standing)
    {args : List String} {out err : List UInt8} {disk : Disk} {memory : σ} {nextIndex : Contents}
    {nextStanding : Location → Option Node}
    (hargs : ∀ text ∈ args, '\x00' ∉ text.toList)
    (hstart : machine.programs.start ⟨runner.binary, repo.top, args⟩ machine.disk
      machine.memory = (.finished (.exited 0) out err, disk, memory))
    (hbecomes : repo.Becomes machine.disk disk memory nextIndex nextStanding) :
    ∃ output after, (runner.runAnyway args).runOn machine = (.ok output, after) ∧
      output.ending = .exited 0 ∧ repo.Shows runner after nextIndex nextStanding := by
  obtain ⟨calls, hstarted⟩ :=
    Runner.exists_startOn_eq (h.free_args hargs) h.moored.resolve hstart
  exact ⟨_, _, Runner.runAnyway_eq_ok_iff.mpr ⟨.exited 0, out, err, hstarted, rfl⟩, rfl,
    ⟨h.serves, h.free, h.moored.of_sameBeside hbecomes.beside, hbecomes.orderly, hbecomes.index,
      hbecomes.standing⟩⟩

/-- A commit or tree with files is copied into the index and the working tree. -/
theorem exists_runAnyway_checkout (h : repo.Shows runner machine index standing) {name : String}
    {contents : Contents} (hfree : '\x00' ∉ name.toList)
    (hchecks : repo.ChecksOut machine.programs runner.binary name contents)
    (hsome : ∃ names, (contents names).isSome)
    (hapart : Apart fun names => (contents names).isSome ∨ (index names).isSome ∨
      (standing names).isSome) :
    ∃ output after, (runner.runAnyway (Baseline.checkoutArgs name)).runOn machine =
        (.ok output, after) ∧ output.ending = .exited 0 ∧
      repo.Shows runner after (overlay contents index) (overlay contents.nodes standing) := by
  rw [← h.index, ← h.standing] at hapart ⊢
  obtain ⟨out, err, disk, memory, hstart, hbecomes⟩ :=
    hchecks.copies machine.disk machine.memory h.orderly hsome hapart
  exact h.exists_runAnyway_of_becomes (free_checkoutArgs hfree) hstart hbecomes

/-- A commit or tree without files is refused, and nothing has changed behind it. -/
theorem exists_runAnyway_checkout_empty (h : repo.Shows runner machine index standing)
    {name : String} {contents : Contents} (hfree : '\x00' ∉ name.toList)
    (hchecks : repo.ChecksOut machine.programs runner.binary name contents)
    (hnone : ∀ names, contents names = none) :
    ∃ output after, (runner.runAnyway (Baseline.checkoutArgs name)).runOn machine =
        (.ok output, after) ∧ output.ending.isSuccess = false ∧
      repo.Shows runner after index standing := by
  obtain ⟨code, out, err, memory, hcode, hstart, hindex⟩ :=
    hchecks.fails machine.disk machine.memory h.orderly hnone
  obtain ⟨calls, hstarted⟩ :=
    Runner.exists_startOn_eq (h.free_args (free_checkoutArgs hfree)) h.moored.resolve hstart
  refine ⟨_, _, Runner.runAnyway_eq_ok_iff.mpr ⟨.exited code, out, err, hstarted, rfl⟩, ?_,
    ⟨h.serves, h.free, h.moored, ⟨h.orderly.sound, ?_⟩, hindex.trans h.index, h.standing⟩⟩
  · simpa [Ending.isSuccess] using hcode
  · rw [hindex]
    exact h.orderly.isWay

/-- Files that are tracked are removed from the index and the working tree. -/
theorem exists_runAnyway_remove (h : repo.Shows runner machine index standing)
    {gone : List Location} (hne : gone ≠ []) (hgone : ∀ names ∈ gone, (index names).isSome)
    (hapart : Apart fun names => (index names).isSome ∨ (standing names).isSome) :
    ∃ output after,
      (runner.runAnyway (Baseline.removeArgs (gone.map .ofNames))).runOn machine =
        (.ok output, after) ∧ output.ending = .exited 0 ∧
      repo.Shows runner after (without index gone) (without standing gone) := by
  rw [← h.index, ← h.standing] at hapart ⊢
  rw [← h.index] at hgone
  obtain ⟨out, err, disk, memory, hstart, hbecomes⟩ :=
    h.serves.remove machine.disk machine.memory gone h.orderly hne hgone hapart
  exact h.exists_runAnyway_of_becomes
    (free_removeArgs fun names hnames => h.orderly.isWay names (hgone names hnames)) hstart hbecomes

end Shows

/-- Git is at home on a machine: it serves the repository, and is called at its top. -/
structure Hosts (repo : Repository σ) (runner : Runner) (machine : Machine σ) : Prop where
  serves : repo.Serves machine.programs runner.binary
  moored : Disk.Moors runner.folder repo.top machine.disk
  orderly : repo.Orderly machine.disk machine.memory
  index : repo.index machine.memory = repo.original

/-- If git was heard out, there is no NUL in its name, nor in that of the commit. -/
theorem Hosts.shows {repo : Repository σ} {runner : Runner} {start found : Machine σ}
    {known : Output} (hosts : repo.Hosts runner start)
    (h : (runner.runAnyway ["cat-file", "-e", repo.reference ++ "^\x7bcommit\x7d"]).runOn start =
      (.ok known, found)) :
    repo.Shows runner start repo.original (start.disk.standing repo.top) := by
  obtain ⟨ending, out, err, hstart, -⟩ := Runner.runAnyway_eq_ok_iff.mp h
  have hfree := Runner.free_of_startOn hstart
  refine ⟨hosts.serves, ⟨hfree _ (by simp), fun hnul => ?_⟩, hosts.moored, hosts.orderly,
    hosts.index, rfl⟩
  refine hfree (repo.reference ++ "^\x7bcommit\x7d") (by simp) ?_
  rw [String.toList_append]
  exact List.mem_append_left _ hnul

end Repository

end Remedy.Git
