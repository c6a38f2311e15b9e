import Remedy.Proofs.Git.Listing

/-!
# What the lists of git say

The lists that git writes are read here as a grammar would have them read: the parts of a text tell
of changes or of pending files, one behind the other.  Whatever the text, there is one way to read
it, and that is how it is read.
-/

namespace Remedy.Git

/-!
## Changes
-/

namespace Change

/--
Parts tell of changes.  A code is known by its first character, and has one path behind it, or two
if it is that of a rename or a copy.  A part in the place of a code that is empty or begins with a
blank says nothing, and neither does a code with nothing behind it.
-/
inductive Tells : List (List Char) → List Change → Prop where
  | nil : Tells [] []
  | alone (code : List Char) : Tells [code] []
  | blank {code next : List Char} {rest : List (List Char)} {changes : List Change}
      (void : ∀ c ∈ code.head?, Text.isBlank c = true) (more : Tells (next :: rest) changes) :
      Tells (code :: next :: rest) changes
  | onePath {c : Char} {score path : List Char} {rest : List (List Char)} {changes : List Change}
      (plain : Text.isBlank c = false) (one : (ChangeCode.ofChar c).hasTwoPaths = false)
      (more : Tells rest changes) :
      Tells ((c :: score) :: path :: rest) (⟨.ofChar c, ⟨String.ofList path⟩, none⟩ :: changes)
  | twoPaths {c : Char} {score path target : List Char} {rest : List (List Char)}
      {changes : List Change}
      (plain : Text.isBlank c = false) (two : (ChangeCode.ofChar c).hasTwoPaths = true)
      (more : Tells rest changes) :
      Tells ((c :: score) :: path :: target :: rest)
        (⟨.ofChar c, ⟨String.ofList path⟩, some ⟨String.ofList target⟩⟩ :: changes)
  | cutShort {c : Char} {score path : List Char}
      (plain : Text.isBlank c = false) (two : (ChangeCode.ofChar c).hasTwoPaths = true) :
      Tells [c :: score, path] [⟨.ofChar c, ⟨String.ofList path⟩, none⟩]

theorem tells_ofParts (pieces : List (List Char)) : Tells pieces (ofParts pieces) := by
  fun_induction ofParts pieces with
  | case1 path rest ih => exact .blank (by simp) ih
  | case2 path rest c score hblank ih => exact .blank (by simpa using hblank) ih
  | case3 path c score hblank code path' htwo => exact .cutShort (by simpa using hblank) htwo
  | case4 path c score hblank code path' htwo target rest ih =>
      exact .twoPaths (by simpa using hblank) htwo ih
  | case5 path rest c score hblank code path' hone ih =>
      exact .onePath (by simpa using hblank) (by simpa using hone) ih
  | case6 pieces hshort =>
      cases pieces with
      | nil => exact .nil
      | cons code rest =>
          cases rest with
          | nil => exact .alone code
          | cons path rest => exact absurd rfl (hshort code path rest)

/-- Parts tell of the changes that are read from them, and of no others. -/
theorem ofParts_eq_iff {pieces : List (List Char)} {changes : List Change} :
    ofParts pieces = changes ↔ Tells pieces changes := by
  constructor
  · rintro rfl
    exact tells_ofParts pieces
  · intro h
    induction h with
    | nil => rw [ofParts.eq_def]
    | alone code => rw [ofParts.eq_def]
    | @blank code next rest changes void _ ih =>
        rw [ofParts.eq_def, ← ih]
        cases code with
        | nil => rfl
        | cons c score => simp [void c rfl]
    | onePath plain one _ ih =>
        rw [ofParts.eq_def, ← ih]
        simp [plain, one]
    | twoPaths plain two _ ih =>
        rw [ofParts.eq_def, ← ih]
        simp [plain, two]
    | cutShort plain two =>
        rw [ofParts.eq_def]
        simp [plain, two]

/-- A text is a list of changes. -/
def Lists (text : List Char) (changes : List Change) : Prop :=
  ∃ pieces, IsCut text pieces ∧ Tells pieces changes

theorem parse_eq_iff {text : List Char} {changes : List Change} :
    parse (String.ofList text) = changes ↔ Lists text changes := by
  rw [parse, String.toList_ofList, ofParts_eq_iff]
  constructor
  · exact fun h => ⟨_, parts_eq_iff.mp rfl, h⟩
  · rintro ⟨pieces, hcut, htells⟩
    rw [parts_eq_iff.mpr hcut]
    exact htells

/-- The paths of which a change says that they differ. -/
def paths (change : Change) : List Path :=
  match change.code with
  | .added | .modified | .typeChanged | .deleted | .unmerged => [change.path]
  | .renamed => change.path :: change.target?.toList
  | _ => []

end Change

namespace Changes

/-- The paths of groups are those of the changes that were grouped, in another order. -/
theorem paths_grouped_perm (list : List Change) :
    (grouped list).paths.Perm (list.flatMap Change.paths) := by
  refine List.perm_iff_count.mpr fun path => ?_
  induction list with
  | nil => rfl
  | cons change rest ih =>
      have hown : (sentToAdded change).count path + (sentToModified change).count path +
          (sentToRemoved change).count path + (sentToUnmerged change).count path =
            change.paths.count path := by
        obtain ⟨code, old, target?⟩ := change
        cases code <;>
          simp [sentToAdded, sentToModified, sentToRemoved, sentToUnmerged, Change.paths,
            List.count_cons, Nat.add_comm]
      simp only [grouped, paths, List.flatMap_cons, List.count_append] at ih ⊢
      omega

/-- The paths of changes that differ, whichever group they are sorted into. -/
theorem mem_paths_ofList {disk : Disk} {folder : Path} {list : List Change} {path : Path} :
    path ∈ (ofList disk folder list).paths ↔
      ∃ change ∈ list, disk.isLinkToFolder (folder.join change.path) = false ∧
        path ∈ change.paths := by
  rw [ofList_eq_grouped, (paths_grouped_perm _).mem_iff, List.mem_flatMap]
  simp only [List.mem_filter, Bool.not_eq_true', and_assoc]

end Changes

/-!
## Pending files
-/

namespace Pending

/-- How many bytes a text is written as. -/
def byteSize (text : List Char) : Nat :=
  (text.map Char.utf8Size).sum

/-- A line has a path behind its first three bytes, or none if no character ends with the third. -/
inductive HasPath : List Char → Path → Prop where
  | behind {front path : List Char} (three : byteSize front = 3) :
      HasPath (front ++ path) ⟨String.ofList path⟩
  | missing {line : List Char}
      (none : ∀ front path, line = front ++ path → byteSize front ≠ 3) : HasPath line ⟨""⟩

theorem byteSize_cons (c : Char) (rest : List Char) :
    byteSize (c :: rest) = c.utf8Size + byteSize rest := by
  simp [byteSize]

theorem skip_append (front rest : List Char) :
    pathOf.skip (byteSize front) (front ++ rest) = rest := by
  induction front with
  | nil => cases rest <;> rfl
  | cons c more ih =>
      have hpos := c.utf8Size_pos
      rw [byteSize_cons, List.cons_append, pathOf.skip, if_neg (by omega), Nat.add_sub_cancel_left,
        ih]
      omega

theorem skip_of_none {bytes : Nat} {line : List Char}
    (h : ∀ front path, line = front ++ path → byteSize front ≠ bytes) :
    pathOf.skip bytes line = [] := by
  induction line generalizing bytes with
  | nil => cases bytes <;> rfl
  | cons c rest ih =>
      have hne : bytes ≠ 0 := (h [] (c :: rest) rfl).symm
      rw [pathOf.skip]
      · split
        · rfl
        · refine ih fun front path hrest hsize => ?_
          refine h (c :: front) path (congrArg (c :: ·) hrest) ?_
          rw [byteSize_cons]
          omega
      · exact hne

/-- The path that is read from a line is the one that it has. -/
theorem pathOf_eq_iff {line : List Char} {path : Path} :
    pathOf line = path ↔ HasPath line path := by
  constructor
  · rintro rfl
    by_cases h : ∃ front rest, line = front ++ rest ∧ byteSize front = 3
    · obtain ⟨front, rest, rfl, hsize⟩ := h
      rw [pathOf, ← hsize, skip_append]
      exact .behind hsize
    · have hnone : ∀ front rest, line = front ++ rest → byteSize front ≠ 3 :=
        fun front rest hline hsize => h ⟨front, rest, hline, hsize⟩
      rw [pathOf, skip_of_none hnone]
      exact .missing hnone
  · intro h
    cases h with
    | behind three => rw [pathOf, ← three, skip_append]
    | missing none => rw [pathOf, skip_of_none none, String.ofList_nil]

/--
Parts tell of pending files, each with its first state.  A line with fewer than two characters says
nothing, and the part behind a file that was moved, which is where it comes from, is passed over.
-/
inductive Tells : List (List Char) → List (Char × Path) → Prop where
  | nil : Tells [] []
  | short {line : List Char} {rest : List (List Char)} {entries : List (Char × Path)}
      (void : line.length < 2) (more : Tells rest entries) : Tells (line :: rest) entries
  | stays {x y : Char} {text : List Char} {path : Path} {rest : List (List Char)}
      {entries : List (Char × Path)} (behind : HasPath (x :: y :: text) path)
      (still : isMove x = false ∧ isMove y = false) (more : Tells rest entries) :
      Tells ((x :: y :: text) :: rest) ((x, path) :: entries)
  | moved {x y : Char} {text origin : List Char} {path : Path} {rest : List (List Char)}
      {entries : List (Char × Path)} (behind : HasPath (x :: y :: text) path)
      (moves : isMove x = true ∨ isMove y = true) (more : Tells rest entries) :
      Tells ((x :: y :: text) :: origin :: rest) ((x, path) :: entries)
  | cutShort {x y : Char} {text : List Char} {path : Path}
      (behind : HasPath (x :: y :: text) path) (moves : isMove x = true ∨ isMove y = true) :
      Tells [x :: y :: text] [(x, path)]

theorem tells_entries (pieces : List (List Char)) : Tells pieces (entries pieces) := by
  have hpath : ∀ line, HasPath line (pathOf line) := fun line => pathOf_eq_iff.mp rfl
  fun_induction entries pieces with
  | case1 => exact .nil
  | case2 x y text entry hmoves => exact .cutShort (hpath _) (by simpa using hmoves)
  | case3 x y text entry hmoves origin rest ih => exact .moved (hpath _) (by simpa using hmoves) ih
  | case4 x y text rest entry hstill ih => exact .stays (hpath _) (by simpa using hstill) ih
  | case5 line rest hshort ih =>
      refine .short ?_ ih
      rcases line with - | ⟨x, - | ⟨y, text⟩⟩
      · exact Nat.zero_lt_two
      · exact Nat.one_lt_two
      · exact absurd rfl (hshort x y text)

/-- Parts tell of the pending files that are read from them, and of no others. -/
theorem entries_eq_iff {pieces : List (List Char)} {listed : List (Char × Path)} :
    entries pieces = listed ↔ Tells pieces listed := by
  constructor
  · rintro rfl
    exact tells_entries pieces
  · intro h
    induction h with
    | nil => rfl
    | @short line rest listed void _ ih =>
        rcases line with - | ⟨x, - | ⟨y, text⟩⟩
        · exact ih
        · exact ih
        · exact absurd void (by simp)
    | stays behind still _ ih =>
        rw [entries_cons_of_not_isMove still, pathOf_eq_iff.mpr behind, ih]
    | moved behind moves _ ih =>
        rw [entries_cons_of_isMove moves, pathOf_eq_iff.mpr behind, ih]
    | cutShort behind moves =>
        rw [entries.eq_def]
        simp [moves, pathOf_eq_iff.mpr behind]

/-- A text is a list of pending files. -/
def Lists (text : List Char) (listed : List (Char × Path)) : Prop :=
  ∃ pieces, IsCut text pieces ∧ Tells pieces listed

theorem entries_parts_eq_iff {text : List Char} {listed : List (Char × Path)} :
    entries (parts text) = listed ↔ Lists text listed := by
  rw [entries_eq_iff]
  constructor
  · exact fun h => ⟨_, parts_eq_iff.mp rfl, h⟩
  · rintro ⟨pieces, hcut, htells⟩
    rw [parts_eq_iff.mpr hcut]
    exact htells

/-!
### Their order
-/

/-- Entries are put in order by their states; those of one state stay in the order that they had. -/
structure InOrder (entries sorted : List (Char × Path)) : Prop where
  ascending : sorted.Pairwise fun entry other => entry.1 ≤ other.1
  kept : ∀ state, sorted.filter (·.1 = state) = entries.filter (·.1 = state)

/-- The entries that are filed in groups, group by group. -/
def filed (groups : List (Char × List Path)) : List (Char × Path) :=
  groups.flatMap fun group => group.2.map (Prod.mk group.1)

theorem filed_cons (state : Char) (paths : List Path) (rest : List (Char × List Path)) :
    filed ((state, paths) :: rest) = paths.map (Prod.mk state) ++ filed rest := rfl

theorem filter_filed_eq_nil {state : Char} {groups : List (Char × List Path)}
    (h : ∀ group ∈ groups, state < group.1) : (filed groups).filter (·.1 = state) = [] := by
  refine List.filter_eq_nil_iff.mpr fun entry hentry => ?_
  obtain ⟨group, hgroup, hfiled⟩ := List.mem_flatMap.mp hentry
  obtain ⟨path, -, rfl⟩ := List.mem_map.mp hfiled
  simpa using ne_of_gt (h group hgroup)

/-- In front of groups of later states an entry is as well as behind them, state by state. -/
theorem filter_append_filed {entry : Char × Path} {groups : List (Char × List Path)}
    (h : ∀ group ∈ groups, entry.1 < group.1) (state : Char) :
    [entry].filter (·.1 = state) ++ (filed groups).filter (·.1 = state) =
      (filed groups).filter (·.1 = state) ++ [entry].filter (·.1 = state) := by
  by_cases hstate : entry.1 = state
  · rw [filter_filed_eq_nil fun group hgroup => hstate ▸ h group hgroup, List.append_nil,
      List.nil_append]
  · have hnone : [entry].filter (·.1 = state) = [] := by
      simp [hstate]
    rw [hnone, List.append_nil, List.nil_append]

/-- A path that is added comes behind the others of its state, wherever these are. -/
theorem filter_filed_add {groups : List (Char × List Path)} (h : Ascending groups)
    (entry : Char × Path) (state : Char) :
    (filed (add entry.1 entry.2 groups)).filter (·.1 = state) =
      (filed groups).filter (·.1 = state) ++ [entry].filter (·.1 = state) := by
  have hentry : [entry.2].map (Prod.mk entry.1) = [entry] := rfl
  induction groups with
  | nil => rfl
  | cons group rest ih =>
      obtain ⟨first, paths⟩ := group
      obtain ⟨hfirst, hrest⟩ := List.pairwise_cons.mp h
      rw [add]
      split
      · rename_i hlt
        rw [filed_cons, List.filter_append, hentry]
        exact filter_append_filed (List.forall_mem_cons.mpr
          ⟨hlt, fun group hgroup => lt_trans hlt (hfirst group hgroup)⟩) state
      · split
        · rename_i heq
          rw [filed_cons, filed_cons, List.map_append, ← heq, hentry, List.filter_append,
            List.filter_append, List.filter_append, List.append_assoc, List.append_assoc,
            filter_append_filed (fun group hgroup => heq ▸ hfirst group hgroup) state]
        · rw [filed_cons, filed_cons, List.filter_append, List.filter_append, ih hrest,
            List.append_assoc]

theorem pairwise_filed {groups : List (Char × List Path)} (h : Ascending groups) :
    (filed groups).Pairwise fun entry other => entry.1 ≤ other.1 := by
  refine List.pairwise_flatMap.mpr
    ⟨fun group _ => ?_, h.imp fun hlt entry hentry other hother => ?_⟩
  · exact List.pairwise_map.mpr (List.pairwise_of_forall fun _ _ => le_refl group.1)
  · obtain ⟨_, -, rfl⟩ := List.mem_map.mp hentry
    obtain ⟨_, -, rfl⟩ := List.mem_map.mp hother
    exact le_of_lt hlt

/-- Filing entries one after the other puts them in order. -/
theorem inOrder_filed (listed : List (Char × Path)) :
    InOrder listed
      (filed (listed.foldl (fun groups (state, path) => add state path groups) [])) := by
  refine ⟨pairwise_filed (files_foldl_add listed [] .nil).1, fun state => ?_⟩
  induction listed using List.reverseRecOn with
  | nil => rfl
  | append_singleton front entry ih =>
      rw [List.foldl_concat, List.filter_append, ← ih]
      exact filter_filed_add (files_foldl_add front [] .nil).1 entry state

/-- Holds for the entries of tracked files. -/
def isTracked (entry : Char × Path) : Bool :=
  entry.1 ≠ '?' && entry.1 ≠ '!'

theorem map_filter_filed (groups : List (Char × List Path)) :
    ((filed groups).filter isTracked).map (·.2) =
      (groups.filter fun group => group.1 ≠ '?' && group.1 ≠ '!').flatMap (·.2) := by
  induction groups with
  | nil => rfl
  | cons group rest ih =>
      obtain ⟨state, paths⟩ := group
      rw [filed_cons, List.filter_append, List.map_append, ih, List.filter_cons]
      cases hstate : (state ≠ '?' && state ≠ '!' : Bool) with
      | true =>
          have hall : (paths.map (Prod.mk state)).filter isTracked = paths.map (Prod.mk state) :=
            List.filter_eq_self.mpr (by simpa [isTracked] using fun _ _ => by simpa using hstate)
          rw [if_pos rfl, List.flatMap_cons, hall, List.map_map]
          exact congrArg (· ++ _) (List.map_id paths)
      | false =>
          have hnone : (paths.map (Prod.mk state)).filter isTracked = [] :=
            List.filter_eq_nil_iff.mpr (by simpa [isTracked] using fun _ _ => by simpa using hstate)
          rw [if_neg Bool.false_ne_true, hnone]
          rfl

/-- Entries that are put in order stay the same. -/
theorem InOrder.mem_iff {entries sorted : List (Char × Path)} (h : InOrder entries sorted)
    {entry : Char × Path} : entry ∈ sorted ↔ entry ∈ entries := by
  have hkept := congrArg (entry ∈ ·) (h.kept entry.1)
  simpa using hkept

theorem InOrder.filter {entries sorted : List (Char × Path)} (h : InOrder entries sorted)
    (select : Char × Path → Bool) : InOrder (entries.filter select) (sorted.filter select) := by
  refine ⟨h.ascending.filter select, fun state => ?_⟩
  rw [List.filter_comm, h.kept, List.filter_comm]

/-- The tracked files that are read from a text are those that it lists, in order. -/
theorem exists_tracked_eq {text : List Char} {listed : List (Char × Path)}
    (h : Lists text listed) :
    ∃ sorted, InOrder (listed.filter isTracked) sorted ∧
      (parse (String.ofList text)).tracked = sorted.map (·.2) := by
  obtain rfl := entries_parts_eq_iff.mpr h
  refine ⟨_, (inOrder_filed _).filter isTracked, ?_⟩
  rw [map_filter_filed, tracked, parse, String.toList_ofList]

end Pending

end Remedy.Git
