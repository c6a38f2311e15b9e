import Mathlib.Data.List.Infix
import Remedy.Proofs.Tree.Standing

/-!
# Trees made of lists

A list of files and links makes a tree, with folders on the way to each.  If none of them lies on
the way to another, they are what stands below the top of that tree.
-/

namespace Remedy

instance (name : String) : Decidable (IsName name) :=
  decidable_of_iff
    (name ≠ "" ∧ name ≠ "." ∧ name ≠ ".." ∧ '/' ∉ name.toList ∧ '\x00' ∉ name.toList)
    ⟨fun ⟨hempty, hhere, hup, hseparator, hnul⟩ => ⟨hempty, hhere, hup, hseparator, hnul⟩,
      fun ⟨hempty, hhere, hup, hseparator, hnul⟩ => ⟨hempty, hhere, hup, hseparator, hnul⟩⟩

namespace Tree

variable {α β : Type}

theorem lookup_map_snd (f : α → β) (entries : List (Location × α)) (key : Location) :
    (entries.map fun entry => (entry.1, f entry.2)).lookup key = (entries.lookup key).map f := by
  induction entries with
  | nil => rfl
  | cons entry rest ih =>
      rw [List.map_cons, List.lookup_cons, List.lookup_cons, ih]
      split <;> rfl

theorem lookup_map_pair (locations : List Location) (held : α) (key : Location) :
    (locations.map (·, held)).lookup key = if key ∈ locations then some held else none := by
  induction locations with
  | nil => rfl
  | cons location rest ih =>
      rw [List.map_cons, List.lookup_cons, ih]
      by_cases hkey : key = location
      · simp [hkey]
      · have hfar : (key == location) = false := by simpa using hkey
        simp [hkey, hfar]

theorem mem_of_lookup_eq_some {entries : List (Location × α)} {key : Location} {held : α}
    (h : entries.lookup key = some held) : (key, held) ∈ entries := by
  obtain ⟨front, behind, rfl, -⟩ := List.lookup_eq_some_iff.mp h
  simp

theorem isSome_lookup_of_mem {entries : List (Location × α)} {entry : Location × α}
    (h : entry ∈ entries) : (entries.lookup entry.1).isSome :=
  List.lookup_isSome_iff.mpr ⟨entry, h, by simp⟩

/-- What is found at some locations, as a list. -/
def entriesAt (found : Location → Option α) (locations : List Location) :
    List (Location × α) :=
  locations.filterMap fun location => (found location).map (location, ·)

theorem lookup_entriesAt {found : Location → Option α} {locations : List Location}
    (h : ∀ key ∉ locations, found key = none) (key : Location) :
    (entriesAt found locations).lookup key = found key := by
  have hlookup : (entriesAt found locations).lookup key =
      if key ∈ locations then found key else none := by
    clear h
    induction locations with
    | nil => rfl
    | cons location rest ih =>
        rw [entriesAt] at ih ⊢
        by_cases hkey : key = location
        · subst hkey
          cases hfound : found key with
          | none => simp [hfound, ih]
          | some held => simp [hfound]
        · have hfar : (key == location) = false := by simpa using hkey
          cases hfound : found location with
          | none => simp [hfound, ih, hkey]
          | some held => simp [hfound, ih, hkey, hfar, List.lookup_cons]
  by_cases hmem : key ∈ locations
  · rw [hlookup, if_pos hmem]
  · rw [hlookup, if_neg hmem, h key hmem]

/-- The entries have names that there can be. -/
def Named (entries : List (Location × α)) : Prop :=
  ∀ entry ∈ entries, entry.1 ≠ [] ∧
    ∀ name ∈ entry.1, IsName name ∧ name.utf8ByteSize ≤ longestName

instance (entries : List (Location × α)) : Decidable (Named entries) :=
  inferInstanceAs (Decidable (∀ entry ∈ entries, _ ∧ ∀ name ∈ entry.1, _))

theorem Named.isWay {entries : List (Location × α)} (h : Named entries) {names : Location}
    (hnames : (entries.lookup names).isSome) : IsWay names := by
  obtain ⟨held, hheld⟩ := Option.isSome_iff_exists.mp hnames
  obtain ⟨hne, hall⟩ := h _ (mem_of_lookup_eq_some hheld)
  exact ⟨hne, fun name hname => (hall name hname).1⟩

/-- The tree that holds some files and links, and the folders that lead to them. -/
def ofEntries (entries : List (Location × Node)) : Tree :=
  ⟨entries ++ (entries.flatMap (·.1.inits)).map (·, .folder)⟩

theorem get?_ofEntries (entries : List (Location × Node)) {location : Location}
    (hne : location ≠ []) :
    (ofEntries entries).get? location = (entries.lookup location).or
      (if ∃ entry ∈ entries, location <+: entry.1 then some .folder else none) := by
  rw [get?, if_neg hne, ofEntries, List.lookup_append, lookup_map_pair]
  simp only [List.mem_flatMap, List.mem_inits]

/-- A tree that is made of a list is a tree of files, if none lies on the way to another. -/
theorem sound_ofEntries {entries : List (Location × Node)} (hnamed : Named entries)
    (hapart : ∀ front rest, (entries.lookup front).isSome →
      (entries.lookup (front ++ rest)).isSome → rest = []) :
    (ofEntries entries).Sound [] := by
  have hentry : ∀ names name node,
      (ofEntries entries).get? ([] ++ (names ++ [name])) = some node →
      ∃ entry ∈ entries, names ++ [name] <+: entry.1 := by
    intro names name node hget
    rw [List.nil_append, get?_ofEntries _ (List.concat_ne_nil _ _)] at hget
    cases hlookup : entries.lookup (names ++ [name]) with
    | some held => exact ⟨_, mem_of_lookup_eq_some hlookup, List.prefix_refl _⟩
    | none =>
        rw [hlookup, Option.none_or] at hget
        split at hget
        · assumption
        · cases hget
  refine ⟨rfl, fun names name node hget => ?_, fun names name node hget => ?_⟩
  · obtain ⟨entry, hmem, rest, hrest⟩ := hentry names name node hget
    rw [List.nil_append]
    by_cases hne : names = []
    · rw [hne]
      rfl
    · rw [get?_ofEntries _ hne, if_pos ⟨entry, hmem, [name] ++ rest, by rw [← hrest]; simp⟩]
      cases hlookup : entries.lookup names with
      | none => rfl
      | some held =>
          have hnil := hapart names ([name] ++ rest) (by simp [hlookup]) (by
            rw [← List.append_assoc, hrest]
            exact isSome_lookup_of_mem hmem)
          cases hnil
  · obtain ⟨entry, hmem, hleads⟩ := hentry names name node hget
    exact (hnamed entry hmem).2 name (hleads.subset (by simp))

end Tree

namespace Disk

/-- The disk that holds some files and links instead of its own. -/
def holding (disk : Disk) (entries : List (Location × Node)) : Disk :=
  { disk with tree := .ofEntries entries }

/-- In a tree that is made of a list of files and links, these are what stands. -/
theorem standing_holding {disk : Disk} {entries : List (Location × Node)}
    (hnamed : Tree.Named entries) (hnodes : ∀ entry ∈ entries, entry.2 ≠ .folder)
    (names : Location) : (disk.holding entries).standing [] names = entries.lookup names := by
  unfold standing holding
  dsimp only
  rw [List.nil_append]
  by_cases hne : names = []
  · subst hne
    cases hlookup : entries.lookup [] with
    | none => rfl
    | some held => exact absurd rfl (hnamed _ (Tree.mem_of_lookup_eq_some hlookup)).1
  · rw [Tree.get?_ofEntries _ hne]
    cases hlookup : entries.lookup names with
    | some held => simpa using hnodes _ (Tree.mem_of_lookup_eq_some hlookup)
    | none =>
        rw [Option.none_or]
        split <;> rfl

/-- What stands below the top, as a list. -/
def entries (disk : Disk) : List (Location × Node) :=
  Tree.entriesAt (disk.standing []) (disk.tree.nodes.map Prod.fst)

theorem lookup_entries (disk : Disk) (names : Location) :
    disk.entries.lookup names = disk.standing [] names := by
  refine Tree.lookup_entriesAt (fun key hkey => ?_) names
  unfold standing Tree.get?
  rw [List.nil_append]
  split
  · rfl
  · cases hlookup : disk.tree.nodes.lookup key with
    | none => rfl
    | some node =>
        exact absurd (List.mem_map_of_mem (Tree.mem_of_lookup_eq_some hlookup)) hkey

theorem mem_entries {disk : Disk} {entry : Location × Node} (h : entry ∈ disk.entries) :
    disk.standing [] entry.1 = some entry.2 := by
  obtain ⟨names, -, hnode⟩ := List.mem_filterMap.mp h
  obtain ⟨node, hstands, rfl⟩ := Option.map_eq_some_iff.mp hnode
  exact hstands

theorem named_entries {disk : Disk} (h : disk.tree.Sound []) : Tree.Named disk.entries := by
  intro entry hmem
  have hstands := mem_entries hmem
  obtain ⟨hget, hnode⟩ := Option.filter_eq_some_iff.mp hstands
  have hne : entry.1 ≠ [] := by
    intro hnil
    rw [hnil, List.nil_append, Tree.get?_nil, Option.some.injEq] at hget
    simp [← hget] at hnode
  refine ⟨hne, fun name hname => ?_⟩
  obtain ⟨front, rest, heq⟩ := List.append_of_mem hname
  rw [heq] at hget
  exact h.name_of_append hget

theorem ne_folder_of_mem_entries {disk : Disk} {entry : Location × Node}
    (h : entry ∈ disk.entries) : entry.2 ≠ .folder := by
  obtain ⟨-, hnode⟩ := Option.filter_eq_some_iff.mp (mem_entries h)
  simpa using hnode

end Disk

end Remedy
