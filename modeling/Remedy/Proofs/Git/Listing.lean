import Remedy.Proofs.Git.Records
import Remedy.Proofs.Tree.Way

/-!
# Reading what git lists

A list of differences is read as the changes that it tells of, and a list of pending files as their
states and paths: what git lists of a repository are records of files along ways.
-/

namespace Remedy.Git

theorem isPart_ofNames {names : Location} (h : IsWay names) :
    IsPart (Path.ofNames names).text.toList :=
  ⟨(Path.ends_of_ofNames h).1, Path.nul_not_mem_ofNames h⟩

/-!
## Differences from a commit
-/

/-- A difference between a commit and the index. -/
inductive Difference where
  | added (names : Location)
  | deleted (names : Location)
  | modified (names : Location)
  /-- A file that was deleted and one that was added are alike, as the score tells. -/
  | renamed (score : List Char) (old new : Location)

namespace Difference

/-- The parts that a difference is written as. -/
def parts : Difference → List (List Char)
  | .added names => [['A'], (Path.ofNames names).text.toList]
  | .deleted names => [['D'], (Path.ofNames names).text.toList]
  | .modified names => [['M'], (Path.ofNames names).text.toList]
  | .renamed score old new =>
      ['R' :: score, (Path.ofNames old).text.toList, (Path.ofNames new).text.toList]

/-- The change that a difference is read as. -/
def change : Difference → Change
  | .added names => ⟨.added, .ofNames names, none⟩
  | .deleted names => ⟨.deleted, .ofNames names, none⟩
  | .modified names => ⟨.modified, .ofNames names, none⟩
  | .renamed _ old new => ⟨.renamed, .ofNames old, some (.ofNames new)⟩

/-- The file that a difference is listed under. -/
def head : Difference → Location
  | .added names | .deleted names | .modified names => names
  | .renamed _ old _ => old

/-- The file that the commit has and the index lacks. -/
def lost? : Difference → Option Location
  | .deleted names => some names
  | .renamed _ old _ => some old
  | _ => none

/-- The file that the index has and the commit lacks. -/
def gained? : Difference → Option Location
  | .added names => some names
  | .renamed _ _ new => some new
  | _ => none

/-- The file that both have. -/
def kept? : Difference → Option Location
  | .modified names => some names
  | _ => none

/-- A difference can be written: it is about files, and its score has no NUL in it. -/
inductive Writable : Difference → Prop where
  | added {names : Location} (h : IsWay names) : Writable (.added names)
  | deleted {names : Location} (h : IsWay names) : Writable (.deleted names)
  | modified {names : Location} (h : IsWay names) : Writable (.modified names)
  | renamed {score : List Char} {old new : Location} (hscore : '\x00' ∉ score)
      (hold : IsWay old) (hnew : IsWay new) : Writable (.renamed score old new)

/-- The text that git lists differences in. -/
def listing (differences : List Difference) : List Char :=
  terminated (differences.flatMap parts)

/-- The record of a difference. -/
def record (difference : Difference) : Change.Record :=
  ⟨difference.change,
    match difference with
    | .renamed score _ _ => score
    | _ => []⟩

theorem parts_record (difference : Difference) : difference.record.parts = difference.parts := by
  cases difference <;> rfl

theorem Writable.record {difference : Difference} (h : difference.Writable) :
    difference.record.Writable := by
  have hpath : ∀ {names : Location}, IsWay names →
      ∀ path ∈ [Path.ofNames names], IsPart path.text.toList :=
    fun hnames => List.forall_mem_singleton.mpr (isPart_ofNames hnames)
  cases h with
  | added h => exact ⟨rfl, rfl, (by decide : '\x00' ∉ ['A']), hpath h, rfl⟩
  | deleted h => exact ⟨rfl, rfl, (by decide : '\x00' ∉ ['D']), hpath h, rfl⟩
  | modified h => exact ⟨rfl, rfl, (by decide : '\x00' ∉ ['M']), hpath h, rfl⟩
  | @renamed score old new hscore hold hnew =>
      have hfree : '\x00' ∉ 'R' :: score := by simpa using hscore
      exact ⟨rfl, rfl, hfree, List.forall_mem_cons.mpr ⟨isPart_ofNames hold, hpath hnew⟩, rfl⟩

/-- What is read from a list of differences. -/
theorem parse_listing {differences : List Difference} (h : ∀ d ∈ differences, d.Writable) :
    Change.parse (String.ofList (listing differences)) = differences.map change := by
  have hlisting : listing differences = Change.Record.listing (differences.map record) := by
    rw [listing, Change.Record.listing, List.flatMap_map]
    exact congrArg (terminated <| List.flatMap · differences) (funext parts_record).symm
  have hwritable : ∀ other ∈ differences.map record, other.Writable := by
    intro other hother
    obtain ⟨difference, hmem, rfl⟩ := List.mem_map.mp hother
    exact (h difference hmem).record
  rw [hlisting, Change.Record.parse_listing hwritable, List.map_map]
  rfl

end Difference

/-!
## Sorted differences
-/

namespace Changes

/-- The paths that a change adds. -/
def sentToAdded (change : Change) : List Path :=
  match change.code with
  | .added => [change.path]
  | .renamed => change.target?.toList
  | _ => []

/-- The paths that a change removes. -/
def sentToRemoved (change : Change) : List Path :=
  match change.code with
  | .deleted | .renamed => [change.path]
  | _ => []

/-- The paths that a change modifies. -/
def sentToModified (change : Change) : List Path :=
  match change.code with
  | .modified | .typeChanged => [change.path]
  | _ => []

/-- The paths that a change leaves unmerged. -/
def sentToUnmerged (change : Change) : List Path :=
  match change.code with
  | .unmerged => [change.path]
  | _ => []

/-- The groups of some changes, each in the order of the changes. -/
def grouped (list : List Change) : Changes where
  added := list.flatMap sentToAdded
  modified := list.flatMap sentToModified
  removed := list.flatMap sentToRemoved
  unmerged := list.flatMap sentToUnmerged

/-- A change that is added sends its paths behind those that are there. -/
theorem add_eq (changes : Changes) (change : Change) :
    changes.add change =
      { added := changes.added ++ sentToAdded change
        modified := changes.modified ++ sentToModified change
        removed := changes.removed ++ sentToRemoved change
        unmerged := changes.unmerged ++ sentToUnmerged change } := by
  obtain ⟨code, path, target?⟩ := change
  cases code <;>
    simp [add, sentToAdded, sentToModified, sentToRemoved, sentToUnmerged]

theorem foldl_add_empty (list : List Change) : list.foldl add empty = grouped list := by
  induction list using List.reverseRecOn with
  | nil => rfl
  | append_singleton front change ih =>
      rw [List.foldl_concat, ih, add_eq]
      simp [grouped]

/-- The changes that are sorted are those of which the path is not a link to a folder. -/
theorem ofList_eq_grouped (disk : Disk) (folder : Path) (list : List Change) :
    ofList disk folder list =
      grouped (list.filter fun change => !disk.isLinkToFolder (folder.join change.path)) :=
  foldl_add_empty _

section Differences

variable {disk : Disk} {folder : Path} {differences : List Difference} {path : Path}

/-- A difference is passed over if it is listed under a link to a folder. -/
def PassesOver (disk : Disk) (folder : Path) (difference : Difference) : Prop :=
  disk.isLinkToFolder (folder.join (.ofNames difference.head)) = true

theorem mem_filter_map_change {change : Change} :
    change ∈ (differences.map Difference.change).filter
        (fun change => !disk.isLinkToFolder (folder.join change.path)) ↔
      ∃ difference ∈ differences, ¬PassesOver disk folder difference ∧
        difference.change = change := by
  have hhead : ∀ difference : Difference,
      difference.change.path = .ofNames difference.head := by
    intro difference
    cases difference <;> rfl
  simp only [List.mem_filter, List.mem_map, Bool.not_eq_true', PassesOver, Bool.not_eq_true]
  constructor
  · rintro ⟨⟨difference, hmem, rfl⟩, hlink⟩
    rw [hhead] at hlink
    exact ⟨difference, hmem, hlink, rfl⟩
  · rintro ⟨difference, hmem, hlink, rfl⟩
    rw [← hhead] at hlink
    exact ⟨⟨difference, hmem, rfl⟩, hlink⟩

/-- A group holds the paths that differences send there, but for those that are passed over. -/
theorem mem_flatMap_sent {sent : Change → List Path} {names? : Difference → Option Location}
    (hsent : ∀ difference, sent difference.change = ((names? difference).map .ofNames).toList) :
    path ∈ ((differences.map Difference.change).filter fun change =>
        !disk.isLinkToFolder (folder.join change.path)).flatMap sent ↔
      ∃ difference ∈ differences, ¬PassesOver disk folder difference ∧
        ∃ names, names? difference = some names ∧ .ofNames names = path := by
  simp only [List.mem_flatMap, mem_filter_map_change]
  constructor
  · rintro ⟨_, ⟨difference, hmem, hlink, rfl⟩, hpath⟩
    rw [hsent, Option.mem_toList, Option.map_eq_some_iff] at hpath
    exact ⟨difference, hmem, hlink, hpath⟩
  · rintro ⟨difference, hmem, hlink, hpath⟩
    refine ⟨_, ⟨difference, hmem, hlink, rfl⟩, ?_⟩
    rw [hsent, Option.mem_toList, Option.map_eq_some_iff]
    exact hpath

theorem mem_added_ofList :
    path ∈ (ofList disk folder (differences.map Difference.change)).added ↔
      ∃ difference ∈ differences, ¬PassesOver disk folder difference ∧
        ∃ names, difference.gained? = some names ∧ .ofNames names = path := by
  rw [ofList_eq_grouped]
  exact mem_flatMap_sent fun difference => by cases difference <;> rfl

theorem mem_removed_ofList :
    path ∈ (ofList disk folder (differences.map Difference.change)).removed ↔
      ∃ difference ∈ differences, ¬PassesOver disk folder difference ∧
        ∃ names, difference.lost? = some names ∧ .ofNames names = path := by
  rw [ofList_eq_grouped]
  exact mem_flatMap_sent fun difference => by cases difference <;> rfl

theorem mem_modified_ofList :
    path ∈ (ofList disk folder (differences.map Difference.change)).modified ↔
      ∃ difference ∈ differences, ¬PassesOver disk folder difference ∧
        ∃ names, difference.kept? = some names ∧ .ofNames names = path := by
  rw [ofList_eq_grouped]
  exact mem_flatMap_sent fun difference => by cases difference <;> rfl

theorem unmerged_ofList :
    (ofList disk folder (differences.map Difference.change)).unmerged = [] := by
  rw [ofList_eq_grouped]
  refine List.flatMap_eq_nil_iff.mpr fun change hchange => ?_
  obtain ⟨difference, -, -, rfl⟩ := mem_filter_map_change.mp hchange
  cases difference <;> rfl

end Differences

end Changes

/-!
## Pending files
-/

namespace Pending

/-- A file that git lists as pending. -/
inductive Item where
  | untracked (names : Location)
  /-- A tracked file with its states in the index and in the working tree. -/
  | tracked (x y : Char) (names : Location)
  /-- A tracked file that has come from another. -/
  | moved (x y : Char) (names origin : Location)

/-- The characters for the states of tracked files. -/
def trackedStates : List Char :=
  [' ', 'M', 'T', 'A', 'D', 'R', 'C', 'U']

namespace Item

/-- The parts that an item is written as. -/
def parts : Item → List (List Char)
  | .untracked names => ['?' :: '?' :: ' ' :: (Path.ofNames names).text.toList]
  | .tracked x y names => [x :: y :: ' ' :: (Path.ofNames names).text.toList]
  | .moved x y names origin =>
      [x :: y :: ' ' :: (Path.ofNames names).text.toList, (Path.ofNames origin).text.toList]

/-- The state that an item is filed under, and its path. -/
def entry : Item → Char × Path
  | .untracked names => ('?', .ofNames names)
  | .tracked x _ names | .moved x _ names _ => (x, .ofNames names)

/-- An item is about a tracked file. -/
def Tracks (names : Location) : Item → Prop
  | .untracked _ => False
  | .tracked _ _ other => other = names
  | .moved _ _ other origin => other = names ∨ origin = names

/-- An item can be written: it is about files in states that there are. -/
inductive Writable : Item → Prop where
  | untracked {names : Location} (h : IsWay names) : Writable (.untracked names)
  | tracked {x y : Char} {names : Location} (hx : x ∈ trackedStates) (hy : y ∈ trackedStates)
      (hmove : isMove x = false ∧ isMove y = false) (h : IsWay names) :
      Writable (.tracked x y names)
  | moved {x y : Char} {names origin : Location} (hx : x ∈ trackedStates)
      (hy : y ∈ trackedStates) (hmove : isMove x = true ∨ isMove y = true) (h : IsWay names)
      (horigin : IsWay origin) : Writable (.moved x y names origin)

/-- The text that git lists pending files in. -/
def listing (items : List Item) : List Char :=
  terminated (items.flatMap parts)

/-- The line of an item. -/
def line : Item → Line
  | .untracked names => ⟨'?', '?', .ofNames names, none⟩
  | .tracked x y names => ⟨x, y, .ofNames names, none⟩
  | .moved x y names origin => ⟨x, y, .ofNames names, some (.ofNames origin)⟩

theorem parts_line (item : Item) : item.line.parts = item.parts := by
  cases item <;> rfl

theorem entry_line (item : Item) : item.line.entry = item.entry := by
  cases item <;> rfl

theorem Writable.line {item : Item} (h : item.Writable) : item.line.Writable := by
  have hstates : ∀ x ∈ trackedStates, Line.IsState x := by simp [trackedStates, Line.IsState]
  have hquery : Line.IsState '?' := by decide
  cases h with
  | untracked h => exact ⟨hquery, hquery, isPart_ofNames h, nofun, rfl⟩
  | @tracked x y _ hx hy hmove h =>
      have hstill : false = (isMove x || isMove y) := (Bool.or_eq_false_iff.mpr hmove).symm
      exact ⟨hstates x hx, hstates y hy, isPart_ofNames h, nofun, hstill⟩
  | @moved x y names origin hx hy hmove h horigin =>
      have hmoves : true = (isMove x || isMove y) := (Bool.or_eq_true_iff.mpr hmove).symm
      have hpart : ∀ path ∈ some (Path.ofNames origin), IsPart path.text.toList := by
        rintro _ ⟨⟩
        exact isPart_ofNames horigin
      exact ⟨hstates x hx, hstates y hy, isPart_ofNames h, hpart, hmoves⟩

end Item

/-!
## Filed items
-/

/-- A path is filed under a state. -/
def Files (groups : List (Char × List Path)) (state : Char) (path : Path) : Prop :=
  ∃ paths, (state, paths) ∈ groups ∧ path ∈ paths

/-- The states of groups are in ascending order, without repetition. -/
def Ascending (groups : List (Char × List Path)) : Prop :=
  groups.Pairwise fun group other => group.1 < other.1

theorem files_cons {first state : Char} {paths : List Path} {path : Path}
    {rest : List (Char × List Path)} :
    Files ((first, paths) :: rest) state path ↔
      state = first ∧ path ∈ paths ∨ Files rest state path := by
  simp [Files, or_and_right, exists_or]

theorem files_add {state found : Char} {path other : Path} {groups : List (Char × List Path)} :
    Files (add state path groups) found other ↔
      Files groups found other ∨ found = state ∧ other = path := by
  induction groups with
  | nil => simp [add, Files]
  | cons group rest ih =>
      obtain ⟨first, paths⟩ := group
      simp only [add]
      split
      · rw [files_cons, List.mem_singleton, or_comm]
      · split
        · rename_i heq
          rw [files_cons, files_cons, List.mem_append, List.mem_singleton, ← heq]
          tauto
        · rw [files_cons, files_cons, ih, or_assoc]

/-- Adding a path adds no state but its own. -/
theorem state_of_mem_add {state : Char} {path : Path} {groups : List (Char × List Path)}
    {group : Char × List Path} (h : group ∈ add state path groups) :
    group.1 = state ∨ ∃ other ∈ groups, group.1 = other.1 := by
  induction groups with
  | nil => exact .inl (by rw [List.mem_singleton.mp h])
  | cons first rest ih =>
      obtain ⟨held, paths⟩ := first
      simp only [add] at h
      split at h
      · rcases List.mem_cons.mp h with rfl | hlater
        · exact .inl rfl
        · exact .inr ⟨group, hlater, rfl⟩
      · split at h
        · rcases List.mem_cons.mp h with rfl | hlater
          · exact .inr ⟨_, List.mem_cons_self, rfl⟩
          · exact .inr ⟨group, List.mem_cons_of_mem _ hlater, rfl⟩
        · rcases List.mem_cons.mp h with rfl | hlater
          · exact .inr ⟨_, List.mem_cons_self, rfl⟩
          · rcases ih hlater with hstate | ⟨other, hother, heq⟩
            · exact .inl hstate
            · exact .inr ⟨other, List.mem_cons_of_mem _ hother, heq⟩

theorem ascending_add {state : Char} {path : Path} {groups : List (Char × List Path)}
    (h : Ascending groups) : Ascending (add state path groups) := by
  induction groups with
  | nil => exact List.pairwise_singleton _ _
  | cons first rest ih =>
      obtain ⟨held, paths⟩ := first
      have hrest := List.pairwise_cons.mp h
      simp only [add]
      split
      · rename_i hlt
        refine List.pairwise_cons.mpr ⟨fun group hgroup => ?_, h⟩
        rcases List.mem_cons.mp hgroup with rfl | hlater
        · exact hlt
        · exact lt_trans hlt (hrest.1 group hlater)
      · rename_i hnot
        split
        · exact List.pairwise_cons.mpr ⟨fun group hgroup => hrest.1 group hgroup, hrest.2⟩
        · rename_i hne
          have hlt : held < state := (lt_or_gt_of_ne hne).resolve_left hnot
          refine List.pairwise_cons.mpr ⟨fun group hgroup => ?_, ih hrest.2⟩
          rcases state_of_mem_add hgroup with heq | ⟨other, hother, heq⟩
          · rw [heq]
            exact hlt
          · rw [heq]
            exact hrest.1 other hother

/-- What is filed under a state is found there. -/
theorem files_iff_mem_lookup {groups : List (Char × List Path)} (h : Ascending groups)
    {state : Char} {path : Path} :
    Files groups state path ↔ path ∈ (groups.lookup state).getD [] := by
  induction groups with
  | nil => simp [Files]
  | cons first rest ih =>
      obtain ⟨held, paths⟩ := first
      have hrest := List.pairwise_cons.mp h
      rw [files_cons, List.lookup_cons]
      by_cases heq : state = held
      · subst heq
        have hnone : ¬Files rest state path := by
          rintro ⟨more, hmem, -⟩
          exact lt_irrefl state (hrest.1 _ hmem)
        simp [hnone]
      · have hfar : (state == held) = false := by simpa using heq
        simp [heq, hfar, ih hrest.2]

/-- Filing entries one after the other keeps the states in order and files each entry. -/
theorem files_foldl_add (listed : List (Char × Path)) (groups : List (Char × List Path))
    (h : Ascending groups) :
    Ascending (listed.foldl (fun groups (state, path) => add state path groups) groups) ∧
      ∀ state path, Files (listed.foldl (fun groups (state, path) => add state path groups)
        groups) state path ↔ Files groups state path ∨ (state, path) ∈ listed := by
  induction listed generalizing groups with
  | nil => exact ⟨h, fun state path => by simp⟩
  | cons first rest ih =>
      obtain ⟨hascending, hfiles⟩ := ih _ (@ascending_add first.1 first.2 _ h)
      refine ⟨hascending, fun state path => ?_⟩
      rw [List.foldl_cons, hfiles, files_add, List.mem_cons, or_assoc]
      simp [Prod.ext_iff]

/-- Reading a text files the entries of its parts, and nothing else. -/
theorem files_parse (text : String) :
    Ascending (parse text).groups ∧ ∀ state path,
      Files (parse text).groups state path ↔ (state, path) ∈ entries (parts text.toList) := by
  obtain ⟨hascending, hfiles⟩ := files_foldl_add (entries (parts text.toList)) [] .nil
  refine ⟨hascending, fun state path => (hfiles state path).trans ?_⟩
  simp [Files]

/-- The untracked files of a text are its entries with a question mark. -/
theorem mem_untracked_parse_iff {text : String} {path : Path} :
    path ∈ (parse text).untracked ↔ ('?', path) ∈ entries (parts text.toList) := by
  obtain ⟨hascending, hfiles⟩ := files_parse text
  rw [untracked, get, show ChangeCode.untracked.toChar = '?' from rfl,
    ← files_iff_mem_lookup hascending, hfiles]

/-- The tracked files of a text are its entries that are neither untracked nor ignored. -/
theorem mem_tracked_parse_iff {text : String} {path : Path} :
    path ∈ (parse text).tracked ↔
      ∃ state, (state ≠ '?' ∧ state ≠ '!') ∧ (state, path) ∈ entries (parts text.toList) := by
  simp only [← (files_parse text).2, Files, tracked, List.mem_flatMap, List.mem_filter]
  constructor
  · rintro ⟨⟨state, paths⟩, ⟨hgroup, hstate⟩, hpath⟩
    exact ⟨state, by simpa using hstate, paths, hgroup, hpath⟩
  · rintro ⟨state, hstate, paths, hgroup, hpath⟩
    exact ⟨⟨state, paths⟩, ⟨hgroup, by simpa using hstate⟩, hpath⟩

section Items

variable {items : List Item}

/-- The entries that are read from a list of items are those of the items. -/
theorem entries_parts_listing (h : ∀ item ∈ items, item.Writable) :
    entries (parts (String.ofList (Item.listing items)).toList) = items.map Item.entry := by
  have hlisting : Item.listing items = Line.listing (items.map Item.line) := by
    rw [Item.listing, Line.listing, List.flatMap_map]
    exact congrArg (terminated <| List.flatMap · items) (funext Item.parts_line).symm
  have hwritable : ∀ line ∈ items.map Item.line, line.Writable := by
    intro line hline
    obtain ⟨item, hmem, rfl⟩ := List.mem_map.mp hline
    exact (h item hmem).line
  rw [String.toList_ofList, hlisting, Line.entries_parts_listing hwritable, List.map_map]
  exact List.map_congr_left fun item _ => item.entry_line

/-- The untracked files are those that are listed as such. -/
theorem mem_untracked_parse (h : ∀ item ∈ items, item.Writable) {path : Path} :
    path ∈ (parse (String.ofList (Item.listing items))).untracked ↔
      ∃ names, .untracked names ∈ items ∧ .ofNames names = path := by
  have hstates : ∀ x other, x ∈ trackedStates → (x, other) ≠ ('?', path) := by
    rintro x other hx heq
    cases heq
    exact absurd hx (by decide)
  rw [mem_untracked_parse_iff, entries_parts_listing h, List.mem_map]
  constructor
  · rintro ⟨item, hmem, hentry⟩
    cases h item hmem with
    | @untracked names _ => exact ⟨names, hmem, (Prod.ext_iff.mp hentry).2⟩
    | tracked hx => exact absurd hentry (hstates _ _ hx)
    | moved hx => exact absurd hentry (hstates _ _ hx)
  · rintro ⟨names, hmem, rfl⟩
    exact ⟨_, hmem, rfl⟩

/-- No tracked file is pending just if all that is listed is untracked. -/
theorem tracked_parse_eq_nil_iff (h : ∀ item ∈ items, item.Writable) :
    (parse (String.ofList (Item.listing items))).tracked = [] ↔
      ∀ item ∈ items, ∃ names, item = .untracked names := by
  have hstates : ∀ x ∈ trackedStates, x ≠ '?' ∧ x ≠ '!' := by simp [trackedStates]
  constructor
  · intro hnil item hitem
    have hnone : ∀ x path, x ∈ trackedStates → item.entry ≠ (x, path) := by
      intro x path hx hentry
      refine List.not_mem_nil (a := path) ?_
      rw [← hnil, mem_tracked_parse_iff, entries_parts_listing h]
      exact ⟨x, hstates x hx, List.mem_map.mpr ⟨item, hitem, hentry⟩⟩
    cases h item hitem with
    | @untracked names _ => exact ⟨names, rfl⟩
    | tracked hx => exact absurd rfl (hnone _ _ hx)
    | moved hx => exact absurd rfl (hnone _ _ hx)
  · intro hall
    refine List.eq_nil_iff_forall_not_mem.mpr fun path hpath => ?_
    obtain ⟨state, hstate, hentry⟩ := mem_tracked_parse_iff.mp hpath
    rw [entries_parts_listing h] at hentry
    obtain ⟨item, hitem, hsame⟩ := List.mem_map.mp hentry
    obtain ⟨names, rfl⟩ := hall item hitem
    exact hstate.1 (Prod.ext_iff.mp hsame).1.symm

end Items

end Pending

end Remedy.Git
