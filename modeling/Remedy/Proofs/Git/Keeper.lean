import Mathlib.Data.List.Dedup
import Remedy.Proofs.Git.Repository
import Remedy.Proofs.Tree.Entries

/-!
# A small git

A git whose commits are given as lists of files, and which remembers its index as another one.
It is called at the top of the file tree.  It serves a repository, so what is asked of git can be
had.
-/

namespace Remedy.Git

/-- Files with their contents. -/
abbrev Stock := List (Location × Content)

/-- What the files of a list hold. -/
def Stock.contents (stock : Stock) : Contents :=
  fun names => List.lookup names stock

/-- The files of a list as they stand in a tree. -/
def Stock.nodes (stock : Stock) : List (Location × Node) :=
  stock.map fun entry => (entry.1, .file entry.2)

theorem Stock.lookup_nodes (stock : Stock) (names : Location) :
    stock.nodes.lookup names = stock.contents.nodes names :=
  Tree.lookup_map_snd Node.file stock names

theorem isSome_contents_iff {stock : Stock} {names : Location} :
    (stock.contents names).isSome ↔ names ∈ stock.map Prod.fst := by
  rw [Stock.contents, List.lookup_isSome_iff, List.mem_map]
  exact exists_congr fun entry => and_congr_right fun _ => beq_iff_eq.trans eq_comm

theorem lookup_filter_not_mem {α : Type} (entries : List (Location × α)) (gone : List Location) :
    (fun names => (entries.filter (·.1 ∉ gone)).lookup names) =
      without (fun names => entries.lookup names) gone := by
  funext names
  refine (Tree.lookup_filter_fst (fun names => decide (names ∉ gone)) entries names).trans ?_
  by_cases hmem : names ∈ gone <;> simp [without, hmem]

/-- No name leads on from others, as a list of all names shows. -/
theorem apart_of_forall_mem {stands : Location → Prop} (all : List Location)
    (hall : ∀ names, stands names → names ∈ all)
    (hapart : ∀ front ∈ all, ∀ behind ∈ all, front <+: behind → front = behind) :
    Apart stands := by
  intro front rest hfront hrest
  have heq := hapart front (hall _ hfront) _ (hall _ hrest) (List.prefix_append front rest)
  exact List.append_right_eq_self.mp heq.symm

/-!
## Listing
-/

/-- How a file differs between a commit and the index. -/
def difference? (names : Location) : Option Content → Option Content → Option Difference
  | some old, some new => if old = new then none else some (.modified names)
  | some _, none => some (.deleted names)
  | none, some _ => some (.added names)
  | none, none => none

/-- The differences between a commit and the index. -/
def differences (base index : Stock) : List Difference :=
  ((base ++ index).map Prod.fst).filterMap fun names =>
    difference? names (base.contents names) (index.contents names)

theorem mem_differences {base index : Stock} {difference : Difference} :
    difference ∈ differences base index ↔ ∃ names,
      difference? names (base.contents names) (index.contents names) = some difference := by
  rw [differences, List.mem_filterMap]
  refine exists_congr fun names => and_iff_right_of_imp fun h => ?_
  rw [List.map_append, List.mem_append, ← isSome_contents_iff, ← isSome_contents_iff]
  by_contra hnone
  rw [not_or, Option.not_isSome_iff_eq_none, Option.not_isSome_iff_eq_none] at hnone
  rw [hnone.1, hnone.2] at h
  cases h

theorem compares_differences {base index : Stock} (hbase : Tree.Named base)
    (hindex : ∀ names, (index.contents names).isSome → IsWay names) :
    Repository.Compares base.contents index.contents (differences base index) where
  writable := by
    intro difference hmem
    obtain ⟨names, hnames⟩ := mem_differences.mp hmem
    have hold : (base.contents names).isSome → IsWay names := hbase.isWay
    have hnew := hindex names
    unfold difference? at hnames
    split at hnames
    · rename_i hfound
      split at hnames
      · cases hnames
      · cases hnames
        exact .modified (hold (by simp [*]))
    · cases hnames
      exact .deleted (hold (by simp [*]))
    · cases hnames
      exact .added (hnew (by simp [*]))
    · cases hnames
  lost := by
    intro names
    constructor
    · rintro ⟨difference, hmem, hlost⟩
      obtain ⟨other, hother⟩ := mem_differences.mp hmem
      unfold difference? at hother
      grind [Difference.lost?]
    · rintro ⟨hold, hnew⟩
      obtain ⟨old, hold⟩ := Option.isSome_iff_exists.mp hold
      exact ⟨.deleted names, mem_differences.mpr ⟨names, by rw [hold, hnew]; rfl⟩, rfl⟩
  gained := by
    intro names
    constructor
    · rintro ⟨difference, hmem, hgained⟩
      obtain ⟨other, hother⟩ := mem_differences.mp hmem
      unfold difference? at hother
      grind [Difference.gained?]
    · rintro ⟨hold, hnew⟩
      obtain ⟨new, hnew⟩ := Option.isSome_iff_exists.mp hnew
      exact ⟨.added names, mem_differences.mpr ⟨names, by rw [hold, hnew]; rfl⟩, rfl⟩
  kept := by
    intro names
    constructor
    · rintro ⟨difference, hmem, hkept⟩
      obtain ⟨other, hother⟩ := mem_differences.mp hmem
      unfold difference? at hother
      grind [Difference.kept?]
    · rintro ⟨old, new, hold, hnew, hne⟩
      refine ⟨.modified names, mem_differences.mpr ⟨names, ?_⟩, rfl⟩
      rw [hold, hnew, difference?, if_neg hne]

/-- The state of what was in one place and is in the next. -/
def state {α : Type} [DecidableEq α] (old new : Option α) : Char :=
  if old = new then ' ' else if old = none then 'A' else if new = none then 'D' else 'M'

theorem state_eq_blank_iff {α : Type} [DecidableEq α] {old new : Option α} :
    state old new = ' ' ↔ old = new := by
  unfold state
  by_cases heq : old = new
  · simp [heq]
  · rw [if_neg heq]
    refine iff_of_false ?_ heq
    split
    · decide
    · split <;> decide

theorem state_mem {α : Type} [DecidableEq α] (old new : Option α) :
    state old new ∈ Pending.trackedStates ∧ Pending.isMove (state old new) = false := by
  unfold state
  split
  · decide
  · split
    · decide
    · split <;> decide

/-- The state of a file of the index in the working tree. -/
def stateOnDisk (index : Option Content) (standing : Option Node) : Char :=
  if index = none then ' ' else state (index.map .file) standing

theorem stateOnDisk_eq_blank_iff {index : Option Content} {standing : Option Node} :
    stateOnDisk index standing = ' ' ↔
      ∀ content, index = some content → standing = some (.file content) := by
  unfold stateOnDisk
  cases index with
  | none => simp
  | some content =>
      rw [if_neg (by simp), state_eq_blank_iff]
      simp [eq_comm]

theorem stateOnDisk_mem (index : Option Content) (standing : Option Node) :
    stateOnDisk index standing ∈ Pending.trackedStates ∧
      Pending.isMove (stateOnDisk index standing) = false := by
  unfold stateOnDisk
  split
  · decide
  · exact state_mem _ _

/-- How a tracked file is listed, if it is not the same everywhere. -/
def tracked? (names : Location) (head index : Option Content) (standing : Option Node) :
    Option Pending.Item :=
  if state head index = ' ' ∧ stateOnDisk index standing = ' ' then none
  else some (.tracked (state head index) (stateOnDisk index standing) names)

theorem tracked?_eq_none_iff {names : Location} {head index : Option Content}
    {standing : Option Node} :
    tracked? names head index standing = none ↔
      head = index ∧ ∀ content, index = some content → standing = some (.file content) := by
  unfold tracked?
  rw [← stateOnDisk_eq_blank_iff, ← @state_eq_blank_iff _ _ head index]
  split <;> simp [*]

theorem tracks_of_tracked? {names : Location} {head index : Option Content}
    {standing : Option Node} {item : Pending.Item}
    (h : tracked? names head index standing = some item) (hway : IsWay names) :
    item.Writable ∧ ∀ other, item.Tracks other ↔ other = names := by
  unfold tracked? at h
  split at h
  · cases h
  · cases h
    obtain ⟨hstaged, hstill⟩ := state_mem head index
    obtain ⟨hunstaged, hquiet⟩ := stateOnDisk_mem index standing
    exact ⟨.tracked hstaged hunstaged ⟨hstill, hquiet⟩ hway, fun other => eq_comm⟩

/-- The tracked files that differ and the untracked files. -/
def items (head index : Stock) (disk : Disk) : List Pending.Item :=
  (((head ++ index).map Prod.fst).filterMap fun names =>
    tracked? names (head.contents names) (index.contents names) (disk.standing [] names)) ++
  ((disk.entries.map Prod.fst).filter fun names => index.contents names = none).map .untracked

/-!
## A keeper
-/

/-- The commits of a small git, and the files that its index has at first. -/
structure Keeper where
  head : Stock
  base : Stock
  target : Stock
  original : Stock
  named : Tree.Named (head ++ base ++ target ++ original)

namespace Keeper

/-- What a keeper keeps. -/
def repository (keeper : Keeper) : Repository Stock where
  top := []
  reference := "main"
  tree := "T"
  head := keeper.head.contents
  base := keeper.base.contents
  target := keeper.target.contents
  original := keeper.original.contents
  index := Stock.contents
  ignores := fun _ _ _ => False

/-- Tells something and changes nothing. -/
def tell (text : List Char) (disk : Disk) (index : Stock) : Answer × Disk × Stock :=
  (.finished (.exited 0) (Text.encode text) [], disk, index)

/-- Fails and changes nothing. -/
def fail (disk : Disk) (index : Stock) : Answer × Disk × Stock :=
  (.finished (.exited 1) [] [], disk, index)

/-- Copies files into the index and the working tree. -/
def copy (stock : Stock) (disk : Disk) (index : Stock) : Answer × Disk × Stock :=
  if stock = [] then fail disk index
  else
    (.finished (.exited 0) [] [], disk.holding (stock.nodes ++ disk.entries), stock ++ index)

-- named, so that a definition does not prove it by itself
local instance lawfulBEqLocation : LawfulBEq Location := inferInstance

/-- Removes files from the index and the working tree, if all of them are tracked. -/
def remove (gone : List Location) (disk : Disk) (index : Stock) : Answer × Disk × Stock :=
  if ∃ names ∈ gone, index.contents names = none then fail disk index
  else
    (.finished (.exited 0) [] [], disk.holding (disk.entries.filter (·.1 ∉ gone)),
      index.filter (·.1 ∉ gone))

/-- What the keeper answers. -/
def answer (keeper : Keeper) : List String → Disk → Stock → Answer × Disk × Stock
  | ["rev-parse", "--show-prefix"], disk, index => tell ['\n'] disk index
  | "diff" :: _, disk, index =>
      tell (Difference.listing (differences keeper.base index)) disk index
  | "status" :: _, disk, index =>
      tell (Pending.Item.listing (items keeper.head index disk)) disk index
  | ["write-tree"], disk, index => tell ['T', '\n'] disk index
  | "ls-tree" :: _, disk, index =>
      tell (terminated ((keeper.original.filterMap (·.1.head?)).dedup.map String.toList))
        disk index
  | ["checkout", "main", "--", "."], disk, index => copy keeper.target disk index
  | ["checkout", "T", "--", "."], disk, index => copy keeper.original disk index
  | "rm" :: "-f" :: "--" :: paths, disk, index =>
      remove (paths.map fun path => Path.segments ⟨path⟩) disk index
  | _, disk, index => tell [] disk index

/-- The keeper as a program. -/
def programs (keeper : Keeper) : Programs Stock :=
  ⟨fun call => keeper.answer call.args⟩

/-!
## The keeper serves
-/

section Serves

variable (keeper : Keeper)

theorem named_of_mem {stock : Stock} (h : ∀ entry ∈ stock, entry ∈ keeper.head ∨
    entry ∈ keeper.base ∨ entry ∈ keeper.target ∨ entry ∈ keeper.original) :
    Tree.Named stock := by
  intro entry hmem
  refine keeper.named entry ?_
  simp only [List.mem_append, or_assoc]
  exact h entry hmem

theorem lists_items {disk : Disk} {index : Stock}
    (h : keeper.repository.Orderly disk index) :
    keeper.repository.Lists disk index (items keeper.head index disk) := by
  have hway : ∀ names, (keeper.head.contents names).isSome ∨ (index.contents names).isSome →
      IsWay names := by
    rintro names (hnames | hnames)
    · exact (keeper.named_of_mem fun _ => .inl).isWay hnames
    · exact h.isWay names hnames
  have htracked : ∀ names item, tracked? names (keeper.head.contents names)
      (index.contents names) (disk.standing [] names) = some item →
      (keeper.head.contents names).isSome ∨ (index.contents names).isSome := by
    intro names item hitem
    by_contra hnone
    rw [not_or, Option.not_isSome_iff_eq_none, Option.not_isSome_iff_eq_none] at hnone
    rw [hnone.1, hnone.2] at hitem
    cases hitem
  have hmem : ∀ item, item ∈ items keeper.head index disk ↔
      (∃ names, tracked? names (keeper.head.contents names) (index.contents names)
        (disk.standing [] names) = some item) ∨
      ∃ names, item = .untracked names ∧ (disk.standing [] names).isSome ∧
        index.contents names = none := by
    intro item
    rw [items, List.mem_append, List.mem_filterMap, List.mem_map]
    refine or_congr (exists_congr fun names => and_iff_right_of_imp fun hitem => ?_)
      (exists_congr fun names => ?_)
    · rw [List.map_append, List.mem_append, ← isSome_contents_iff, ← isSome_contents_iff]
      exact htracked names item hitem
    · rw [List.mem_filter, ← disk.lookup_entries, List.lookup_isSome_iff, List.mem_map]
      simp only [beq_iff_eq, decide_eq_true_eq]
      tauto
  refine ⟨fun item hitem => ?_, fun names => ?_, fun names => ?_⟩
  · rcases (hmem item).mp hitem with ⟨names, hfound⟩ | ⟨names, rfl, hstands, -⟩
    · exact (tracks_of_tracked? hfound (hway names (htracked names item hfound))).1
    · obtain ⟨node, hnode⟩ := Option.isSome_iff_exists.mp hstands
      refine .untracked ((Disk.named_entries h.sound).isWay ?_)
      rw [Disk.lookup_entries, hnode]
      rfl
  · have hdiffers : keeper.repository.Differs disk index names ↔
        tracked? names (keeper.head.contents names) (index.contents names)
          (disk.standing [] names) ≠ none := by
      rw [Ne, tracked?_eq_none_iff, not_and_or, not_forall]
      simp only [Classical.not_imp]
      rfl
    rw [hdiffers, Option.ne_none_iff_exists']
    constructor
    · rintro ⟨item, hitem, htracks⟩
      rcases (hmem item).mp hitem with ⟨other, hfound⟩ | ⟨other, rfl, -⟩
      · have hsame := (tracks_of_tracked? hfound (hway other (htracked other item hfound))).2 names
        obtain rfl := hsame.mp htracks
        exact ⟨item, hfound⟩
      · cases htracks
    · rintro ⟨item, hfound⟩
      refine ⟨item, (hmem item).mpr (.inl ⟨names, hfound⟩), ?_⟩
      exact ((tracks_of_tracked? hfound (hway names (htracked names item hfound))).2 names).mpr rfl
  · rw [hmem]
    constructor
    · rintro (⟨other, hfound⟩ | ⟨other, heq, hstands, hindex⟩)
      · unfold tracked? at hfound
        split at hfound <;> cases hfound
      · cases heq
        exact ⟨hstands, hindex, not_false⟩
    · rintro ⟨hstands, hindex, -⟩
      exact .inr ⟨names, rfl, hstands, hindex⟩

/-- What is asked of the keeper is told, and nothing has changed. -/
theorem tells {args : List String} {telling : Disk → Stock → Ending → List Char → Prop}
    (text : Disk → Stock → List Char) (binary : String)
    (hanswer : ∀ disk index, keeper.answer args disk index = tell (text disk index) disk index)
    (htelling : ∀ disk index, keeper.repository.Orderly disk index →
      telling disk index (.exited 0) (text disk index)) :
    keeper.repository.Tells keeper.programs binary args telling :=
  fun disk index h =>
    ⟨.exited 0, text disk index, [], index, hanswer disk index, rfl, rfl, htelling disk index h⟩

/-- A tree that is made of files and links is what it is made to be. -/
theorem becomes {disk : Disk} {index : Stock} {entries : List (Location × Node)}
    (hnamed : Tree.Named entries) (hnodes : ∀ entry ∈ entries, entry.2 ≠ .folder)
    (hapart : Apart fun names => (entries.lookup names).isSome)
    (hindex : ∀ names, (index.contents names).isSome → IsWay names) :
    keeper.repository.Becomes disk (disk.holding entries) index
      index.contents (fun names => entries.lookup names) where
  beside := by
    refine ⟨rfl, fun location hbeside => ?_⟩
    by_cases hne : location = []
    · rw [hne]
      rfl
    · exact absurd rfl (hbeside location hne)
  orderly := ⟨Tree.sound_ofEntries hnamed hapart, hindex⟩
  index := rfl
  standing := funext fun names => Disk.standing_holding hnamed hnodes names

/-- Copying files, the keeper checks them out. -/
theorem checksOut {name : String} {stock : Stock} (binary : String) (hnamed : Tree.Named stock)
    (hanswer : ∀ disk index, keeper.answer (Baseline.checkoutArgs name) disk index =
      copy stock disk index) :
    keeper.repository.ChecksOut keeper.programs binary name stock.contents where
  copies := by
    intro disk index horderly hsome hapart
    have hne : stock ≠ [] := by
      rintro rfl
      obtain ⟨names, hnames⟩ := hsome
      cases hnames
    have hlookup : (fun names => (stock.nodes ++ disk.entries).lookup names) =
        overlay stock.contents.nodes (disk.standing []) := by
      funext names
      rw [List.lookup_append, stock.lookup_nodes, Disk.lookup_entries]
      rfl
    have hindex : Stock.contents (stock ++ index) = overlay stock.contents index.contents := by
      funext names
      exact List.lookup_append
    have hbecomes : keeper.repository.Becomes disk (disk.holding (stock.nodes ++ disk.entries))
        (stock ++ index) (stock ++ index).contents
        (fun names => (stock.nodes ++ disk.entries).lookup names) := by
      refine keeper.becomes (fun entry hmem => ?_) (fun entry hmem => ?_) ?_ fun names hnames => ?_
      · rcases List.mem_append.mp hmem with hcopied | hstood
        · obtain ⟨held, hheld, rfl⟩ := List.mem_map.mp hcopied
          exact hnamed held hheld
        · exact Disk.named_entries horderly.sound entry hstood
      · rcases List.mem_append.mp hmem with hcopied | hstood
        · obtain ⟨held, -, rfl⟩ := List.mem_map.mp hcopied
          exact nofun
        · exact Disk.ne_folder_of_mem_entries hstood
      · refine hapart.mono fun names hnames => ?_
        rw [congrFun hlookup names] at hnames
        rcases isSome_of_overlay hnames with hcopied | hstood
        · exact .inl (by rwa [isSome_nodes] at hcopied)
        · exact .inr (.inr hstood)
      · rw [hindex] at hnames
        exact (isSome_of_overlay hnames).elim hnamed.isWay (horderly.isWay names)
    rw [hlookup, hindex] at hbecomes
    exact ⟨[], [], _, _, (hanswer disk index).trans (if_neg hne), hbecomes⟩
  fails := by
    intro disk index _ hnone
    obtain rfl : stock = [] := by
      cases stock with
      | nil => rfl
      | cons entry rest =>
          have hsome : (Stock.contents (entry :: rest) entry.1).isSome :=
            Tree.isSome_lookup_of_mem List.mem_cons_self
          rw [hnone] at hsome
          cases hsome
    exact ⟨1, [], [], index, Nat.one_ne_zero, hanswer disk index, rfl⟩

/-- Files that are tracked are removed. -/
theorem removes (binary : String) : keeper.repository.Removes keeper.programs binary := by
  intro disk index gone horderly _ hgone hapart
  have hpaths : ((gone.map Path.ofNames).map (·.text)).map (fun path => Path.segments ⟨path⟩) =
      gone := by
    rw [List.map_map, List.map_map]
    refine (List.map_congr_left fun names hnames => ?_).trans (List.map_id gone)
    exact Path.segments_ofNames (horderly.isWay names (hgone names hnames))
  have htracked : ¬∃ names ∈ gone, index.contents names = none := by
    rintro ⟨names, hnames, hnone⟩
    have hsome := hgone names hnames
    rw [show keeper.repository.index index names = none from hnone] at hsome
    cases hsome
  have hlookup : (fun names => (disk.entries.filter (·.1 ∉ gone)).lookup names) =
      without (disk.standing []) gone := by
    rw [lookup_filter_not_mem]
    exact congrArg (without · gone) (funext disk.lookup_entries)
  have hindex : Stock.contents (index.filter (·.1 ∉ gone)) = without index.contents gone :=
    lookup_filter_not_mem index gone
  have hbecomes : keeper.repository.Becomes disk
      (disk.holding (disk.entries.filter (·.1 ∉ gone))) (index.filter (·.1 ∉ gone))
      (Stock.contents (index.filter (·.1 ∉ gone)))
      (fun names => (disk.entries.filter (·.1 ∉ gone)).lookup names) := by
    refine keeper.becomes (fun entry hmem => ?_) (fun entry hmem => ?_) ?_ fun names hnames => ?_
    · exact Disk.named_entries horderly.sound entry (List.mem_filter.mp hmem).1
    · exact Disk.ne_folder_of_mem_entries (List.mem_filter.mp hmem).1
    · refine hapart.mono fun names hnames => .inr ?_
      rw [congrFun hlookup names] at hnames
      exact isSome_of_without hnames
    · rw [hindex] at hnames
      exact horderly.isWay names (isSome_of_without hnames)
  rw [hlookup, hindex] at hbecomes
  refine ⟨[], [], _, _, ?_, hbecomes⟩
  show remove _ disk index = _
  rw [hpaths, remove, if_neg htracked]

/-- The keeper answers as it is asked to. -/
theorem serves (binary : String) : keeper.repository.Serves keeper.programs binary where
  isWay := by
    rintro names (hnames | hnames | hnames)
    · exact (keeper.named_of_mem fun _ => .inr ∘ .inl).isWay hnames
    · exact (keeper.named_of_mem fun _ => .inr ∘ .inr ∘ .inl).isWay hnames
    · exact (keeper.named_of_mem fun _ => .inr ∘ .inr ∘ .inr).isWay hnames
  tree_free := show '\x00' ∉ "T".toList by decide
  known := keeper.tells (fun _ _ => []) binary (fun _ _ => rfl) fun _ _ _ => trivial
  place := keeper.tells (fun _ _ => ['\n']) binary (fun _ _ => rfl)
    fun _ _ _ => ⟨rfl, by decide⟩
  diff := keeper.tells (fun _ index => Difference.listing (differences keeper.base index)) binary
    (fun _ _ => rfl) fun _ index horderly =>
      ⟨rfl, _, rfl, compares_differences (keeper.named_of_mem fun _ => .inr ∘ .inl)
        horderly.isWay⟩
  status := keeper.tells
    (fun disk index => Pending.Item.listing (items keeper.head index disk)) binary
    (fun _ _ => rfl) fun disk index horderly => ⟨rfl, _, rfl, keeper.lists_items horderly⟩
  write := keeper.tells (fun _ _ => ['T', '\n']) binary (fun _ _ => rfl)
    fun _ _ _ _ => ⟨rfl, show Text.trim ['T', '\n'] = "T".toList by decide⟩
  list := keeper.tells (fun _ _ => terminated
      ((keeper.original.filterMap (·.1.head?)).dedup.map String.toList)) binary
    (fun _ _ => rfl) fun _ _ _ => by
      refine ⟨rfl, _, rfl, fun name => ?_⟩
      rw [List.mem_dedup, List.mem_filterMap]
      constructor
      · rintro ⟨entry, hmem, hhead⟩
        obtain ⟨rest, hrest⟩ := List.head?_eq_some_iff.mp hhead
        refine ⟨rest, ?_⟩
        rw [← hrest]
        exact Tree.isSome_lookup_of_mem hmem
      · rintro ⟨rest, hsome⟩
        obtain ⟨content, hcontent⟩ := Option.isSome_iff_exists.mp hsome
        exact ⟨_, Tree.mem_of_lookup_eq_some hcontent, rfl⟩
  checkout_reference := keeper.checksOut binary
    (keeper.named_of_mem fun _ => .inr ∘ .inr ∘ .inl) fun _ _ => rfl
  checkout_tree := keeper.checksOut binary
    (keeper.named_of_mem fun _ => .inr ∘ .inr ∘ .inr) fun _ _ => rfl
  remove := keeper.removes binary

end Serves

/-!
## Machines with a keeper
-/

/-- A machine on which some files and links stand, and git is a keeper. -/
def machine (keeper : Keeper) (entries : List (Location × Node)) : Machine Stock :=
  ⟨keeper.programs, keeper.original, Disk.holding ⟨.empty, []⟩ entries, [], []⟩

/-- Git is called in the topmost folder. -/
def runner : Runner :=
  ⟨"git", ⟨"/"⟩, 1000⟩

/-- The entries are files and links, and no file at all lies on the way to another. -/
def Tidy (keeper : Keeper) (entries : List (Location × Node)) : Prop :=
  let all := (keeper.target ++ keeper.original).map Prod.fst ++ entries.map Prod.fst
  Tree.Named entries ∧ (∀ entry ∈ entries, entry.2 ≠ .folder) ∧
    ∀ front ∈ all, ∀ behind ∈ all, front <+: behind → front = behind

instance (keeper : Keeper) (entries : List (Location × Node)) :
    Decidable (keeper.Tidy entries) :=
  inferInstanceAs (Decidable (_ ∧ (∀ entry ∈ entries, _) ∧ ∀ front ∈ _, ∀ behind ∈ _, _ → _))

section Tidy

variable {keeper : Keeper} {entries : List (Location × Node)} (h : keeper.Tidy entries)

include h

theorem standing_machine (names : Location) :
    (keeper.machine entries).disk.standing [] names = entries.lookup names :=
  Disk.standing_holding h.1 h.2.1 names

theorem keepsApart_machine : keeper.repository.KeepsApart (keeper.machine entries).disk := by
  refine apart_of_forall_mem _ (fun names hnames => ?_) h.2.2
  rw [List.map_append, List.append_assoc, List.mem_append, List.mem_append,
    ← isSome_contents_iff, ← isSome_contents_iff]
  refine hnames.imp_right (Or.imp_right fun hstands => ?_)
  rw [show (keeper.machine entries).disk.standing keeper.repository.top names = _ from
    standing_machine h names] at hstands
  obtain ⟨node, hnode⟩ := Option.isSome_iff_exists.mp hstands
  exact List.mem_map_of_mem (Tree.mem_of_lookup_eq_some hnode)

/-- On such a machine, what is asked of git can be had. -/
theorem hosts : keeper.repository.Hosts runner (keeper.machine entries) where
  serves := keeper.serves "git"
  moored := fun _ _ => rfl
  orderly := by
    refine ⟨Tree.sound_ofEntries h.1 fun front rest hfront hrest => ?_, fun _ =>
      (keeper.named_of_mem fun _ => .inr ∘ .inr ∘ .inr).isWay⟩
    rw [← standing_machine h] at hfront hrest
    exact keepsApart_machine h front rest (.inr (.inr hfront)) (.inr (.inr hrest))
  index := rfl

end Tidy

end Keeper

end Remedy.Git
