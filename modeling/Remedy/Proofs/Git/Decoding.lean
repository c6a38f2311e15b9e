import Remedy.Proofs.Git.Streams

/-!
# What is known from a list

A list of records is read as the changes that were written, and these are sorted in the order of the
list.  A list of lines is read as files by state: each state has the paths of its lines in the order
of the list, and where files come from is filed nowhere.
-/

namespace Remedy.Git

/-!
## Changes
-/

/--
Records are read as the changes that were written.  As long as none of them is listed for a link to
a folder, they are sorted into groups in the order in which they come.
-/
theorem Changes.ofList_parse_listing {records : List Change.Record}
    (h : ∀ record ∈ records, record.Writable) :
    Change.parse (String.ofList (Change.Record.listing records)) =
        records.map Change.Record.change ∧
      ∀ (disk : Disk) (folder : Path),
        (∀ record ∈ records, disk.isLinkToFolder (folder.join record.change.path) = false) →
        ofList disk folder (Change.parse (String.ofList (Change.Record.listing records))) =
          grouped (records.map Change.Record.change) := by
  have hparse := Change.Record.parse_listing h
  refine ⟨hparse, fun disk folder hlinks => ?_⟩
  have hall : ∀ change ∈ records.map Change.Record.change,
      (!disk.isLinkToFolder (folder.join change.path)) = true := by
    intro change hchange
    obtain ⟨record, hrecord, rfl⟩ := List.mem_map.mp hchange
    rw [hlinks record hrecord]
    rfl
  rw [hparse, ofList_eq_grouped, List.filter_eq_self.mpr hall]

/-- Records with paths that look like codes, like scores or like nothing. -/
def misleadingRecords : List Change.Record :=
  [⟨⟨.modified, ⟨"R100"⟩, none⟩, []⟩, ⟨⟨.renamed, ⟨"A"⟩, some ⟨" "⟩⟩, "087".toList⟩,
    ⟨⟨.copied, ⟨"D"⟩, some ⟨"U"⟩⟩, "100".toList⟩, ⟨⟨.other 'X', ⟨"M"⟩, none⟩, []⟩,
    ⟨⟨.typeChanged, ⟨"T"⟩, none⟩, []⟩, ⟨⟨.deleted, ⟨"R"⟩, none⟩, []⟩,
    ⟨⟨.unmerged, ⟨"\n"⟩, none⟩, []⟩]

theorem Changes.ofList_parse_listing_misleading :
    (∀ record ∈ misleadingRecords, record.Writable) ∧
      Change.parse (String.ofList (Change.Record.listing misleadingRecords)) =
        misleadingRecords.map Change.Record.change ∧
      ofList ⟨⟨[(["T"], .file (.text ""))]⟩, []⟩ ⟨"/"⟩
          (Change.parse (String.ofList (Change.Record.listing misleadingRecords))) =
        ⟨[⟨" "⟩], [⟨"R100"⟩, ⟨"T"⟩], [⟨"A"⟩, ⟨"R"⟩], [⟨"\n"⟩]⟩ := by
  have hwritable : ∀ record ∈ misleadingRecords, record.Writable := by decide
  obtain ⟨hparse, hgroups⟩ := ofList_parse_listing hwritable
  exact ⟨hwritable, hparse, hgroups _ _ (by decide +kernel)⟩

/-!
## Pending files
-/

namespace Pending

/-- The paths of a state are those that are filed under it. -/
theorem getD_lookup_eq {groups : List (Char × List Path)} (h : Ascending groups) (state : Char) :
    (groups.lookup state).getD [] = ((filed groups).filter (·.1 = state)).map (·.2) := by
  induction groups with
  | nil => rfl
  | cons group rest ih =>
      obtain ⟨held, paths⟩ := group
      obtain ⟨hheld, hrest⟩ := List.pairwise_cons.mp h
      rw [List.lookup_cons, filed_cons, List.filter_append, List.map_append]
      by_cases hstate : state = held
      · subst hstate
        have hall : (paths.map (Prod.mk state)).filter (·.1 = state) =
            paths.map (Prod.mk state) :=
          List.filter_eq_self.mpr (by simp)
        rw [hall, filter_filed_eq_nil hheld, List.map_map, List.map_nil, List.append_nil]
        simp [Function.comp_def]
      · have hfar : (state == held) = false := by simpa using hstate
        have hnone : (paths.map (Prod.mk held)).filter (·.1 = state) = [] :=
          List.filter_eq_nil_iff.mpr (by simpa using fun _ _ => Ne.symm hstate)
        rw [hfar, hnone]
        exact ih hrest

/-- Entries that are put in order are the same ones, each as often as before. -/
theorem InOrder.perm {entries sorted : List (Char × Path)} (h : InOrder entries sorted) :
    sorted.Perm entries := by
  refine List.perm_iff_count.mpr fun entry => ?_
  have hcount : ∀ list : List (Char × Path),
      (list.filter (·.1 = entry.1)).count entry = list.count entry :=
    fun list => List.count_filter (by simp)
  rw [← hcount sorted, h.kept, hcount]

/-- What is pending is what lines say, and nothing else. -/
structure Comprises (pending : Pending) (lines : List Line) : Prop where
  /-- A state has the paths of its lines in their order. -/
  get : ∀ code, pending.get code = (lines.filter (·.x = code.toChar)).map Line.path
  /-- The tracked files are those of the lines of tracked files, state by state. -/
  tracked : ∃ sorted, InOrder ((lines.map Line.entry).filter isTracked) sorted ∧
    pending.tracked = sorted.map (·.2)
  /-- One path is filed for each line, so that no file is filed for coming from somewhere. -/
  filed : (filed pending.groups).Perm (lines.map Line.entry)

/-- Lines are read as the pending files that were written. -/
theorem comprises_parse_listing {lines : List Line} (h : ∀ line ∈ lines, line.Writable) :
    Comprises (parse (String.ofList (Line.listing lines))) lines := by
  have hentries := Line.entries_parts_listing h
  have hascending := (files_parse (String.ofList (Line.listing lines))).1
  have horder : InOrder (lines.map Line.entry)
      (Pending.filed (parse (String.ofList (Line.listing lines))).groups) := by
    rw [← hentries, parse, String.toList_ofList]
    exact inOrder_filed _
  refine ⟨fun code => ?_, ?_, horder.perm⟩
  · rw [get, getD_lookup_eq hascending, horder.kept, List.filter_map, List.map_map]
    rfl
  · refine exists_tracked_eq ?_
    exact entries_parts_eq_iff.mp hentries

/-- Lines of which paths look like other lines, one for a file that came from such a path. -/
def misleadingLines : List Line :=
  [⟨' ', 'M', ⟨"?? a"⟩, none⟩, ⟨'?', '?', ⟨" "⟩, none⟩, ⟨'R', ' ', ⟨"R"⟩, some ⟨"?? b"⟩⟩,
    ⟨' ', 'C', ⟨"c"⟩, some ⟨"M  d"⟩⟩, ⟨'!', '!', ⟨"\n"⟩, none⟩, ⟨' ', '\n', ⟨"e"⟩, none⟩]

theorem comprises_parse_listing_misleading :
    (∀ line ∈ misleadingLines, line.Writable) ∧
      Comprises (parse (String.ofList (Line.listing misleadingLines))) misleadingLines ∧
      (parse (String.ofList (Line.listing misleadingLines))).untracked = [⟨" "⟩] := by
  have hwritable : ∀ line ∈ misleadingLines, line.Writable := by decide
  have hcomprises := comprises_parse_listing hwritable
  exact ⟨hwritable, hcomprises, hcomprises.get .untracked⟩

end Pending

end Remedy.Git
