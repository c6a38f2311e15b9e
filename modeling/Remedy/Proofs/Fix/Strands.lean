import Remedy.Proofs.Fix.Files

/-!
# From which lines the lines of a file descend

A strand is a line of a file in the course of a pass, with the range of original lines that it
descends from.  A block descends from all lines whose place it takes.  When all lines of a file
are taken away, the empty line that is left takes their place.

Fixes that go down a file never reach too low: what a match touches descends from lines that are
not below its own.  They may reach too high, and just when the lines from which a match begins
have become fewer since.
-/

namespace Remedy

namespace Finding

/-- Holds if a match covers a line. -/
def Covers (finding : Finding) (number : Nat) : Prop :=
  finding.start.line ≤ number ∧ number ≤ finding.stop.line

instance (finding : Finding) (number : Nat) : Decidable (finding.Covers number) :=
  inferInstanceAs (Decidable (_ ∧ _))

/-- Holds if a match ends in front of another one. -/
def EndsBefore (finding other : Finding) : Prop :=
  finding.stop.line < other.start.line ∨
    (finding.stop.line = other.start.line ∧ finding.stop.col ≤ other.start.col)

instance (finding other : Finding) : Decidable (finding.EndsBefore other) :=
  inferInstanceAs (Decidable (_ ∨ _))

end Finding

namespace Fix

open Outcome

/-- The lines that none of the matches covers. -/
def Job.uncovered (jobs : List Job) (lines : List (List Char)) : List (List Char) :=
  ((lines.zipIdx 1).filter fun entry => ∀ job ∈ jobs, ¬job.finding.Covers entry.2).map (·.1)

/-- A line, and the first and the last of the original lines that it descends from. -/
structure Strand where
  first : Nat
  last : Nat
  line : List Char

namespace Strand

/-- The lines of a file that nothing was written to, each of which descends from itself. -/
def ofLines (lines : List (List Char)) : List Strand :=
  (lines.zipIdx 1).map fun (line, number) => ⟨number, number, line⟩

/-- Holds if a strand descends from a line that a match covers. -/
def Meets (strand : Strand) (finding : Finding) : Prop :=
  strand.first ≤ finding.stop.line ∧ finding.start.line ≤ strand.last

/-- A line that nothing was written to descends from a line that a match covers if it is one. -/
theorem meets_mk_iff {number : Nat} {line : List Char} {finding : Finding} :
    (mk number number line).Meets finding ↔ finding.Covers number :=
  and_comm

/-- The strands of the lines that no match covers. -/
theorem exists_kept (lines : List (List Char)) (jobs : List Job) :
    ∃ kept : List Strand, kept.Sublist (ofLines lines) ∧
      kept.map line = Job.uncovered jobs lines ∧
      ∀ strand ∈ kept, ∀ job ∈ jobs, ¬strand.Meets job.finding := by
  refine ⟨((lines.zipIdx 1).filter fun entry =>
    ∀ job ∈ jobs, ¬job.finding.Covers entry.2).map fun (line, number) => ⟨number, number, line⟩,
    List.filter_sublist.map _, ?_, ?_⟩
  · rw [List.map_map]
    rfl
  · intro strand hstrand job hjob hmeets
    obtain ⟨⟨line, number⟩, hentry, rfl⟩ := List.mem_map.mp hstrand
    have hnone := (List.mem_filter.mp hentry).2
    rw [decide_eq_true_eq] at hnone
    exact hnone job hjob (meets_mk_iff.mp hmeets)

/-- The strands that a span covers. -/
def touched (strands : List Strand) (span : Span) : List Strand :=
  (strands.take (span.stopLine + 1)).drop span.startLine

/-- The strands of a block that takes the place of others. -/
def ofBlock (others : List Strand) (block : List (List Char)) : List Strand :=
  block.map (mk (others.head?.elim 0 first) (others.getLast?.elim 0 last))

/-- The strands after a block was put in; a file always has a line. -/
def splice (strands : List Strand) (span : Span) (block : List (List Char)) : List Strand :=
  let all := strands.take span.startLine ++ ofBlock (touched strands span) block ++
    strands.drop (span.stopLine + 1)
  if all.isEmpty then ofBlock (touched strands span) [[]] else all

@[simp] theorem map_line_ofLines (lines : List (List Char)) :
    (ofLines lines).map line = lines := by
  unfold ofLines
  rw [List.map_map]
  exact List.zipIdx_map_fst 1 lines

@[simp] theorem map_line_ofBlock (others : List Strand) (block : List (List Char)) :
    (ofBlock others block).map line = block := by
  unfold ofBlock
  rw [List.map_map]
  exact List.map_id block

/-- The strands keep to the lines of the file. -/
theorem map_line_splice {text : List Char} {directive : Directive} {span : Span}
    {made : Splice} {strands : List Strand} (hordered : span.startLine ≤ span.stopLine)
    (hmade : directive.splice text span = .ok made)
    (hstrands : Text.split text = strands.map line) :
    Text.split made.text = (splice strands span made.block).map line := by
  have hcut := Cut.of_splice hordered hmade
  obtain ⟨htext, -, hblock⟩ := hcut.split_text hmade
  have hlines : (Text.split text).take span.startLine ++ made.block ++
      (Text.split text).drop (span.stopLine + 1) =
      (strands.take span.startLine ++ ofBlock (touched strands span) made.block ++
        strands.drop (span.stopLine + 1)).map line := by
    rw [hstrands, List.map_append, List.map_append, map_line_ofBlock, List.map_take,
      List.map_drop]
  unfold splice
  dsimp only
  split
  · rename_i hempty
    rw [htext, hlines, List.isEmpty_iff.mp hempty, map_line_ofBlock]
    rfl
  · rename_i hsome
    rw [← hlines, htext, Text.split_join]
    · intro hnil
      rw [hnil, eq_comm, List.map_eq_nil_iff] at hlines
      exact hsome (List.isEmpty_iff.mpr hlines)
    · intro line hline
      rcases List.mem_append.mp hline with hfront | hbehind
      · rcases List.mem_append.mp hfront with hbefore | hmid
        · exact Text.not_mem_of_mem_split (List.mem_of_mem_take hbefore)
        · exact Directive.newline_not_mem_of_mem_block hblock line hmid
      · exact Text.not_mem_of_mem_split (List.mem_of_mem_drop hbehind)

/-- How many strands descend from a line or from lines below it. -/
def countFrom (strands : List Strand) (number : Nat) : Nat :=
  (strands.filter fun strand => number ≤ strand.last).length

/-- If the strands from an index on descend so, there are as many. -/
theorem le_countFrom {strands : List Strand} {index number : Nat}
    (h : ∀ strand ∈ strands.drop index, number ≤ strand.last) :
    strands.length ≤ index + countFrom strands number := by
  have htail : (strands.drop index).filter (fun strand => number ≤ strand.last) =
      strands.drop index := List.filter_eq_self.mpr fun strand hmem => by simpa using h strand hmem
  have hcount := congrArg List.length
    (@List.filter_append _ (fun strand : Strand => decide (number ≤ strand.last))
      (strands.take index) (strands.drop index))
  rw [List.take_append_drop, List.length_append, htail, List.length_drop] at hcount
  unfold countFrom
  omega

/-- If there are as many, they are those from the index on, provided that strands go down. -/
theorem le_last_of_le_countFrom {strands : List Strand} {index number : Nat}
    (hsorted : strands.Pairwise fun a b => a.last ≤ b.last)
    (hcount : strands.length ≤ index + countFrom strands number) :
    ∀ strand ∈ strands.drop index, number ≤ strand.last := by
  intro strand hmem
  refine Nat.le_of_not_lt fun hlt => ?_
  obtain ⟨front, behind, hdrop⟩ := List.append_of_mem hmem
  have hindex : index < strands.length := by
    have hpos := List.length_pos_of_mem hmem
    rw [List.length_drop] at hpos
    omega
  have hall : strands = (strands.take index ++ front ++ [strand]) ++ behind := by
    rw [List.append_assoc, List.append_assoc, List.singleton_append, ← hdrop,
      List.take_append_drop]
  have hlength : (strands.take index ++ front ++ [strand]).length =
      index + front.length + 1 := by
    rw [List.length_append, List.length_append, List.length_take, List.length_singleton]
    omega
  -- Everything up to the strand descends from lines further up, so too few are left behind it.
  have hnone : (strands.take index ++ front ++ [strand]).filter
      (fun strand => number ≤ strand.last) = [] := by
    rw [hall, List.pairwise_append] at hsorted
    rw [List.filter_eq_nil_iff]
    intro other hother
    rcases List.mem_append.mp hother with hbefore | hself
    · have hle := (List.pairwise_append.mp hsorted.1).2.2 other hbefore strand
        List.mem_cons_self
      simp only [decide_eq_true_eq]
      omega
    · rw [List.mem_singleton.mp hself]
      simpa using hlt
  have hlen := congrArg List.length hall
  rw [List.length_append, hlength] at hlen
  have hfew : countFrom strands number ≤ behind.length := by
    unfold countFrom
    rw [hall, List.filter_append, hnone, List.nil_append]
    exact List.length_filter_le _ _
  omega

/--
How strands lie in a file of `count` lines that has gained some, when the last match began on the
line `above`.  The second case of `length` is that of a file without lines.
-/
structure Settled (count above : Nat) (gained : Int) (strands : List Strand) : Prop where
  length : (strands.length : Int) = count + gained ∨
    (strands.length = 1 ∧ gained = -(count : Int))
  sorted : strands.Pairwise fun a b => a.last ≤ b.last
  last_le : ∀ strand ∈ strands, strand.last ≤ count
  first_le : ∀ (index : Nat) (strand : Strand), strands[index]? = some strand →
    above ≤ strand.last →
      strand.first ≤ above ∨ (strand.first : Int) ≤ index + 1 - gained

theorem getElem?_ofLines (lines : List (List Char)) (index : Nat) :
    (ofLines lines)[index]? = lines[index]?.map fun line => ⟨index + 1, index + 1, line⟩ := by
  unfold ofLines
  rw [List.getElem?_map, List.getElem?_zipIdx, Option.map_map, Nat.add_comm 1 index]
  rfl

theorem Settled.ofLines (lines : List (List Char)) :
    Settled lines.length 0 0 (ofLines lines) := by
  have hlength : (Strand.ofLines lines).length = lines.length := by
    rw [← List.length_map Strand.line, map_line_ofLines]
  refine ⟨.inl (by omega), ?_, ?_, ?_⟩
  · rw [List.pairwise_iff_getElem]
    intro i j hi hj hij
    have hfirst := getElem?_ofLines lines i
    have hsecond := getElem?_ofLines lines j
    rw [List.getElem?_eq_getElem hi, List.getElem?_eq_getElem (by omega), Option.map_some] at hfirst
    rw [List.getElem?_eq_getElem hj, List.getElem?_eq_getElem (by omega), Option.map_some] at hsecond
    rw [Option.some.inj hfirst, Option.some.inj hsecond]
    dsimp only
    omega
  · intro strand hstrand
    obtain ⟨index, hindex⟩ := List.mem_iff_getElem?.mp hstrand
    obtain ⟨hlt, -⟩ := List.getElem?_eq_some_iff.mp hindex
    rw [getElem?_ofLines, Option.map_eq_some_iff] at hindex
    obtain ⟨line, -, rfl⟩ := hindex
    dsimp only
    omega
  · intro index strand hindex _
    rw [getElem?_ofLines, Option.map_eq_some_iff] at hindex
    obtain ⟨line, -, rfl⟩ := hindex
    right
    dsimp only
    omega

/-- What a span covers begins at the index at which the span begins. -/
theorem touched_eq_cons {strands : List Strand} {span : Span}
    (hordered : span.startLine ≤ span.stopLine) {strand : Strand}
    (hstart : strands[span.startLine]? = some strand) :
    ∃ rest, touched strands span = strand :: rest := by
  obtain ⟨hlt, hget⟩ := List.getElem?_eq_some_iff.mp hstart
  unfold touched
  rw [List.drop_eq_getElem_cons (by rw [List.length_take]; omega), List.getElem_take, hget]
  exact ⟨_, rfl⟩

/-- A strand that a span covers lies at an index of the span. -/
theorem exists_getElem?_of_mem_touched {strands : List Strand} {span : Span} {strand : Strand}
    (hmem : strand ∈ touched strands span) :
    ∃ index, span.startLine ≤ index ∧ index ≤ span.stopLine ∧
      strands[index]? = some strand := by
  obtain ⟨offset, hoffset⟩ := List.mem_iff_getElem?.mp hmem
  unfold touched at hoffset
  rw [List.getElem?_drop, List.getElem?_take] at hoffset
  split at hoffset
  · rename_i hlt
    exact ⟨span.startLine + offset, by omega, by omega, hoffset⟩
  · cases hoffset

/-- What a span covers lies between what stands before it and what stands behind it. -/
theorem take_touched_drop {strands : List Strand} {span : Span}
    (hordered : span.startLine ≤ span.stopLine) :
    strands.take span.startLine ++ touched strands span ++ strands.drop (span.stopLine + 1) =
      strands := by
  have hfront : strands.take span.startLine =
      (strands.take (span.stopLine + 1)).take span.startLine := by
    rw [List.take_take, Nat.min_eq_left (by omega)]
  unfold touched
  rw [hfront, List.take_append_drop, List.take_append_drop]

/-- A strand of a block descends from the first to the last of those whose place it takes. -/
theorem exists_of_mem_ofBlock {others : List Strand} {block : List (List Char)}
    {strand : Strand} (hne : others ≠ []) (hstrand : strand ∈ ofBlock others block) :
    (∃ rest, ∃ head, others = head :: rest ∧ strand.first = head.first) ∧
      ∃ front, ∃ foot, others = front ++ [foot] ∧ strand.last = foot.last := by
  obtain ⟨line, -, rfl⟩ := List.mem_map.mp hstrand
  constructor
  · obtain ⟨head, rest, rfl⟩ := List.exists_cons_of_ne_nil hne
    exact ⟨rest, head, rfl, rfl⟩
  · refine ⟨others.dropLast, others.getLast hne, (List.dropLast_concat_getLast hne).symm, ?_⟩
    dsimp only
    rw [List.getLast?_eq_some_getLast hne]
    rfl

theorem length_ofBlock (others : List Strand) (block : List (List Char)) :
    (ofBlock others block).length = block.length :=
  List.length_map _

/--
Settled strands of which a match on a line covers some, all of which descend from that line or
from lines below it.
-/
structure Reached (count above line : Nat) (gained : Int) (before others behind : List Strand) :
    Prop where
  settled : Settled count above gained (before ++ others ++ behind)
  ne : others ≠ []
  above_le : above ≤ line
  start : (before.length : Int) = line - 1 + gained
  keeps : ∀ strand ∈ others, line ≤ strand.last

namespace Reached

variable {count above line : Nat} {gained : Int} {before others behind : List Strand}

/-- What the first strand descends from begins no lower than the line of the match. -/
theorem first_le_of_head (reached : Reached count above line gained before others behind)
    {head : Strand} {rest : List Strand} (hhead : others = head :: rest) :
    head.first ≤ line := by
  have hreach := reached.keeps head (by rw [hhead]; exact List.mem_cons_self)
  have hstart := reached.start
  have habove := reached.above_le
  have hget : (before ++ others ++ behind)[before.length]? = some head := by
    rw [List.append_assoc, List.getElem?_append_right (Nat.le_refl _), Nat.sub_self, hhead]
    rfl
  rcases reached.settled.first_le before.length head hget (by omega) with hle | hle
  · omega
  · omega

/-- A strand of the block descends from lines between those that it takes the place of. -/
theorem exists_foot (reached : Reached count above line gained before others behind)
    {block : List (List Char)} {strand : Strand} (hstrand : strand ∈ ofBlock others block) :
    strand.first ≤ line ∧ ∃ foot ∈ others, strand.last = foot.last ∧
      (∀ other ∈ before, other.last ≤ strand.last) ∧
      (∀ other ∈ behind, strand.last ≤ other.last) := by
  obtain ⟨⟨rest, head, hhead, hfirst⟩, front, foot, hfoot, hlast⟩ :=
    exists_of_mem_ofBlock reached.ne hstrand
  have hmem : foot ∈ others := by
    rw [hfoot]
    exact List.mem_append_right _ List.mem_cons_self
  obtain ⟨hfronts, -, hbehind⟩ := List.pairwise_append.mp reached.settled.sorted
  rw [hfirst, hlast]
  refine ⟨reached.first_le_of_head hhead, foot, hmem, rfl, ?_, ?_⟩
  · intro other hother
    exact (List.pairwise_append.mp hfronts).2.2 other hother foot hmem
  · intro other hother
    exact hbehind foot (List.mem_append_right _ hmem) other hother

theorem last_le_of_mem_ofBlock (reached : Reached count above line gained before others behind)
    {block : List (List Char)} {strand : Strand} (hstrand : strand ∈ ofBlock others block) :
    strand.last ≤ count := by
  obtain ⟨-, foot, hfoot, hlast, -⟩ := reached.exists_foot hstrand
  rw [hlast]
  exact reached.settled.last_le foot (List.mem_append_left _ (List.mem_append_right _ hfoot))

theorem length_replace (reached : Reached count above line gained before others behind)
    (block : List (List Char)) :
    ((before ++ ofBlock others block ++ behind).length : Int) =
      count + (gained + (block.length - others.length)) := by
  obtain ⟨head, rest, hhead⟩ := List.exists_cons_of_ne_nil reached.ne
  have hmem : head ∈ others := by
    rw [hhead]
    exact List.mem_cons_self
  have hreach := reached.keeps head hmem
  have hlast := reached.settled.last_le head
    (List.mem_append_left _ (List.mem_append_right _ hmem))
  have hpos := List.length_pos_of_mem hmem
  have hstart := reached.start
  have hold := reached.settled.length
  simp only [List.length_append] at hold
  rw [List.length_append, List.length_append, length_ofBlock]
  omega

theorem sorted_replace (reached : Reached count above line gained before others behind)
    (block : List (List Char)) :
    (before ++ ofBlock others block ++ behind).Pairwise fun a b => a.last ≤ b.last := by
  obtain ⟨hfronts, hbehinds, hbehind⟩ := List.pairwise_append.mp reached.settled.sorted
  refine List.pairwise_append.mpr ⟨List.pairwise_append.mpr
    ⟨(List.pairwise_append.mp hfronts).1, ?_, ?_⟩, hbehinds, ?_⟩
  · unfold ofBlock
    rw [List.pairwise_map]
    exact List.pairwise_of_forall fun _ _ => Nat.le_refl _
  · intro a ha b hb
    obtain ⟨-, foot, -, -, hbefore, -⟩ := reached.exists_foot hb
    exact hbefore a ha
  · intro a ha b hb
    rcases List.mem_append.mp ha with hfront | hmid
    · exact hbehind a (List.mem_append_left _ hfront) b hb
    · obtain ⟨-, foot, -, -, -, hafter⟩ := reached.exists_foot hmid
      exact hafter b hb

theorem last_le_replace (reached : Reached count above line gained before others behind)
    (block : List (List Char)) :
    ∀ strand ∈ before ++ ofBlock others block ++ behind, strand.last ≤ count := by
  intro strand hstrand
  rcases List.mem_append.mp hstrand with hfront | hlater
  · rcases List.mem_append.mp hfront with hearly | hmid
    · exact reached.settled.last_le strand
        (List.mem_append_left _ (List.mem_append_left _ hearly))
    · exact reached.last_le_of_mem_ofBlock hmid
  · exact reached.settled.last_le strand (List.mem_append_right _ hlater)

/-- Strands in front of the block and behind it reach no lower than before. -/
theorem first_le_replace (reached : Reached count above line gained before others behind)
    (block : List (List Char)) (index : Nat) (strand : Strand)
    (hget : (before ++ ofBlock others block ++ behind)[index]? = some strand)
    (hreach : line ≤ strand.last) :
    strand.first ≤ line ∨
      (strand.first : Int) ≤ index + 1 - (gained + (block.length - others.length)) := by
  have habove := reached.above_le
  have hstart := reached.start
  have hpos := List.length_pos_iff.mpr reached.ne
  rw [List.append_assoc, List.getElem?_append] at hget
  split at hget
  · rename_i hlt
    have hold : (before ++ others ++ behind)[index]? = some strand := by
      rw [List.append_assoc, List.getElem?_append_left hlt]
      exact hget
    left
    rcases reached.settled.first_le index strand hold (by omega) with hle | hle
    · omega
    · omega
  · rw [List.getElem?_append, length_ofBlock] at hget
    split at hget
    · left
      exact (reached.exists_foot (List.mem_of_getElem? hget)).1
    · have hold : (before ++ others ++ behind)[before.length + others.length +
          (index - before.length - block.length)]? = some strand := by
        rw [← List.length_append, List.getElem?_append_right (Nat.le_add_right _ _),
          Nat.add_sub_cancel_left]
        exact hget
      rcases reached.settled.first_le _ strand hold (by omega) with hle | hle
      · left
        omega
      · right
        omega

/-- A block in the place of strands that a match has reached leaves strands settled. -/
theorem replace (reached : Reached count above line gained before others behind)
    (block : List (List Char)) :
    Settled count line (gained + (block.length - others.length))
      (before ++ ofBlock others block ++ behind) :=
  ⟨.inl (reached.length_replace block), reached.sorted_replace block,
    reached.last_le_replace block, reached.first_le_replace block⟩

end Reached

/-- A splice leaves strands settled, whether or not it leaves lines. -/
theorem Settled.splice {count above line : Nat} {gained : Int} {strands : List Strand}
    {span : Span} (settled : Settled count above gained strands)
    (hordered : span.startLine ≤ span.stopLine) (hlt : span.startLine < strands.length)
    (habove : above ≤ line) (hstart : (span.startLine : Int) = line - 1 + gained)
    (hkeeps : ∀ strand ∈ touched strands span, line ≤ strand.last)
    (block : List (List Char)) :
    Settled count line (gained + (block.length - (touched strands span).length))
      (Strand.splice strands span block) := by
  have hbefore : (strands.take span.startLine).length = span.startLine := by
    rw [List.length_take]
    omega
  have hne : touched strands span ≠ [] := by
    obtain ⟨rest, hrest⟩ := touched_eq_cons hordered (List.getElem?_eq_getElem hlt)
    rw [hrest]
    exact List.cons_ne_nil _ _
  rw [← @take_touched_drop strands span hordered] at settled
  rw [← hbefore] at hstart
  have reached : Reached count above line gained _ _ _ := ⟨settled, hne, habove, hstart, hkeeps⟩
  unfold Strand.splice
  dsimp only
  split
  · -- No line is left, so the empty line takes the place of the block.
    rename_i hempty
    have hlength := reached.length_replace block
    rw [List.isEmpty_iff.mp hempty, List.length_nil] at hlength
    refine ⟨.inr ⟨rfl, by omega⟩, List.pairwise_singleton _ _, ?_, ?_⟩
    · exact fun strand hstrand => reached.last_le_of_mem_ofBlock hstrand
    · intro index strand hget _
      left
      exact (reached.exists_foot (List.mem_of_getElem? hget)).1
  · exact reached.replace block

/-- Strands that a block does not take the place of stay. -/
theorem sublist_splice {strands kept : List Strand} {span : Span}
    (hordered : span.startLine ≤ span.stopLine) (hkept : kept.Sublist strands)
    (hapart : ∀ strand ∈ kept, strand ∉ touched strands span) (block : List (List Char)) :
    kept.Sublist (splice strands span block) := by
  rw [← @take_touched_drop strands span hordered] at hkept
  obtain ⟨front, last, rfl, hfront, hlast⟩ := List.sublist_append_iff.mp hkept
  obtain ⟨first, mid, rfl, hfirst, hmid⟩ := List.sublist_append_iff.mp hfront
  have hnone : mid = [] := by
    refine List.eq_nil_iff_forall_not_mem.mpr fun strand hstrand => ?_
    exact hapart strand (List.mem_append_left _ (List.mem_append_right _ hstrand))
      (hmid.subset hstrand)
  have hall : (first ++ mid ++ last).Sublist (strands.take span.startLine ++
      ofBlock (touched strands span) block ++ strands.drop (span.stopLine + 1)) := by
    rw [hnone]
    exact (hfirst.append (List.nil_sublist _)).append hlast
  unfold splice
  dsimp only
  split
  · rename_i hempty
    rw [List.isEmpty_iff.mp hempty, List.sublist_nil] at hall
    rw [hall]
    exact List.nil_sublist _
  · exact hall

end Strand

/-- What a job comes upon: the strands of its file, and the span on which it is located. -/
structure Visit where
  job : Job
  strands : List Strand
  span : Span

namespace Visit

/-- Holds if a job touches only strands that descend from lines that its match covers. -/
def KeepsToItsLines (visit : Visit) : Prop :=
  ∀ strand ∈ Strand.touched visit.strands visit.span, strand.Meets visit.job.finding

/--
Holds if a match begins on one of the `count` lines of the file, and the lines from there on have
not become fewer.
-/
def FindsItsLines (count : Nat) (visit : Visit) : Prop :=
  visit.job.finding.start.line ≤ count ∧
    count + 1 ≤ visit.job.finding.start.line +
      Strand.countFrom visit.strands visit.job.finding.start.line

instance (count : Nat) (visit : Visit) : Decidable (visit.FindsItsLines count) :=
  inferInstanceAs (Decidable (_ ∧ _))

variable {visit : Visit} {count above : Nat} {drift : Drift}

/-- A job that keeps to its lines finds them: none from its line on has gone. -/
theorem KeepsToItsLines.findsItsLines (hkeeps : visit.KeepsToItsLines)
    (settled : Strand.Settled count above drift.lines visit.strands) (hcount : count < 2 ^ 63)
    (hlocates : drift.Locates visit.job.finding.start visit.job.finding.stop visit.span)
    (hlt : visit.span.startLine < visit.strands.length) : visit.FindsItsLines count := by
  obtain ⟨-, -, hstart⟩ := Drift.shift_eq_ok_iff.mp hlocates.startLine
  have hget := List.getElem?_eq_getElem hlt
  obtain ⟨rest, hrest⟩ := Strand.touched_eq_cons hlocates.ordered hget
  obtain ⟨-, hmeets⟩ := hkeeps _ (by rw [hrest]; exact List.mem_cons_self)
  have hlast := settled.last_le _ (List.mem_of_getElem? hget)
  rw [Offset.ofNat_of_lt (by omega)] at hstart
  have htail : ∀ other ∈ visit.strands.drop visit.span.startLine,
      visit.job.finding.start.line ≤ other.last := by
    intro other hother
    have hsorted := settled.sorted.sublist (List.drop_sublist visit.span.startLine _)
    rw [List.drop_eq_getElem_cons hlt] at hother hsorted
    rcases List.mem_cons.mp hother with rfl | hlater
    · exact hmeets
    · exact Nat.le_trans hmeets ((List.pairwise_cons.mp hsorted).1 other hlater)
  have hle := Strand.le_countFrom htail
  have hlength := settled.length
  constructor
  · omega
  · omega

/-- A job that finds its lines keeps to them. -/
theorem FindsItsLines.keepsToItsLines (hfinds : visit.FindsItsLines count)
    (settled : Strand.Settled count above drift.lines visit.strands) (hcount : count < 2 ^ 63)
    (habove : above ≤ visit.job.finding.start.line)
    (hlocates : drift.Locates visit.job.finding.start visit.job.finding.stop visit.span) :
    visit.KeepsToItsLines := by
  intro strand hmem
  obtain ⟨hinside, henough⟩ := hfinds
  obtain ⟨-, -, hstart⟩ := Drift.shift_eq_ok_iff.mp hlocates.startLine
  obtain ⟨-, -, hstop⟩ := Drift.shift_eq_ok_iff.mp hlocates.stopLine
  rw [Offset.ofNat_of_lt (by omega)] at hstart
  have hstopline := Offset.ofNat_le visit.job.finding.stop.line
  have hlength : (visit.strands.length : Int) = count + drift.lines := by
    rcases settled.length with hlength | ⟨hlength, hgained⟩
    · exact hlength
    · omega
  obtain ⟨index, hfrom, hto, hget⟩ := Strand.exists_getElem?_of_mem_touched hmem
  have hdrop : strand ∈ visit.strands.drop visit.span.startLine := by
    refine List.mem_iff_getElem?.mpr ⟨index - visit.span.startLine, ?_⟩
    rw [List.getElem?_drop, Nat.add_sub_cancel' hfrom]
    exact hget
  have hcount : visit.strands.length ≤ visit.span.startLine +
      Strand.countFrom visit.strands visit.job.finding.start.line := by
    omega
  have hlast := Strand.le_last_of_le_countFrom settled.sorted hcount strand hdrop
  refine ⟨?_, hlast⟩
  have hordered := hlocates.ordered
  rcases settled.first_le index strand hget (by omega) with hfirst | hfirst
  · omega
  · omega

end Visit

namespace Draft

/-- Carries out a job, and keeps record of what it comes upon and of the strands it leaves. -/
def visit (draft : Draft) (strands : List Strand) (job : Job) :
    Except Failure (Visit × Draft × List Strand) := do
  let planned ← draft.plan job
  let next ← draft.conclude job planned
  return (⟨job, strands, planned.1⟩, next, Strand.splice strands planned.1 planned.2.block)

/-- What the jobs of a file come upon, one after the other. -/
def visits (draft : Draft) (strands : List Strand) : List Job → List Visit
  | [] => []
  | job :: rest =>
      (draft.visit strands job).toOption.elim [] fun found =>
        found.1 :: found.2.1.visits found.2.2 rest

/-- The first job of a run, and what it leaves to the others. -/
theorem exists_visits_cons {draft final : Draft} {job : Job} {rest : List Job}
    (hrun : draft.run (job :: rest) = .ok final) (strands : List Strand) :
    ∃ (span : Span) (splice : Splice) (next : Draft),
      draft.Plans job span splice ∧ next.text = splice.text ∧
      next.drift.lines = draft.drift.lines + splice.delta ∧ next.run rest = .ok final ∧
      draft.visits strands (job :: rest) =
        ⟨job, strands, span⟩ ::
          next.visits (Strand.splice strands span splice.block) rest := by
  obtain ⟨next, hnext, hfinal⟩ := run_cons_eq_ok_iff.mp hrun
  obtain ⟨span, splice, hplans, htext, hrecord⟩ := carryOut_eq_ok_iff.mp hnext
  have hlines := (Directive.lines_of_record? hrecord).2.1
  rw [lines_aim] at hlines
  have hvisit : draft.visit strands job = .ok (⟨job, strands, span⟩, next,
      Strand.splice strands span splice.block) := by
    have hplan := plan_eq_ok_iff.mpr hplans
    unfold carryOut at hnext
    rw [hplan, ok_bind] at hnext
    unfold visit
    rw [hplan, ok_bind, hnext, ok_bind, pure_eq_ok]
  refine ⟨span, splice, next, hplans, htext, hlines, hfinal, ?_⟩
  rw [visits, hvisit]
  rfl

/-- The lines of a draft are those of strands, which are settled. -/
structure Descends (count above : Nat) (strands : List Strand) (draft : Draft) : Prop where
  lines : Text.split draft.text = strands.map Strand.line
  settled : Strand.Settled count above draft.drift.lines strands

namespace Descends

variable {count above : Nat} {strands : List Strand} {draft final : Draft} {job : Job}
  {jobs : List Job} {span : Span} {splice : Splice}

/-- A file that nothing was written to. -/
theorem ofText (text : List Char) :
    Descends (Text.split text).length 0 (Strand.ofLines (Text.split text)) (.ofText text) :=
  ⟨(Strand.map_line_ofLines _).symm, .ofLines _⟩

/-- A job begins on a line of the file. -/
theorem startLine_lt (descends : Descends count above strands draft)
    (hplans : draft.Plans job span splice) : span.startLine < strands.length := by
  have hcut := Cut.of_splice hplans.locates.ordered hplans.splice
  have hlength := congrArg List.length descends.lines
  have hbefore := hcut.startLine
  have hcovered := List.length_pos_iff.mpr hcut.covered_ne
  rw [hcut.length_split, List.length_map] at hlength
  omega

/-- A job keeps to its lines just if it still finds them. -/
theorem keepsToItsLines_iff (descends : Descends count above strands draft)
    (hcount : count < 2 ^ 63) (habove : above ≤ job.finding.start.line)
    (hplans : draft.Plans job span splice) :
    (Visit.mk job strands span).KeepsToItsLines ↔
      (Visit.mk job strands span).FindsItsLines count := by
  have hsettled := descends.settled
  rw [← lines_aim draft job] at hsettled
  constructor
  · intro hkeeps
    exact hkeeps.findsItsLines hsettled hcount hplans.locates (descends.startLine_lt hplans)
  · intro hfinds
    exact hfinds.keepsToItsLines hsettled hcount habove hplans.locates

/-- A job that keeps to its lines leaves strands settled. -/
theorem next (descends : Descends count above strands draft) (hcount : count < 2 ^ 63)
    (habove : above ≤ job.finding.start.line) (hplans : draft.Plans job span splice)
    (hkeeps : (Visit.mk job strands span).KeepsToItsLines) {after : Draft}
    (htext : after.text = splice.text)
    (hlines : after.drift.lines = draft.drift.lines + splice.delta) :
    Descends count job.finding.start.line (Strand.splice strands span splice.block) after := by
  obtain ⟨hinside, -⟩ := (descends.keepsToItsLines_iff hcount habove hplans).mp hkeeps
  obtain ⟨-, -, hstart⟩ := Drift.shift_eq_ok_iff.mp hplans.locates.startLine
  rw [Offset.ofNat_of_lt (Nat.lt_of_le_of_lt hinside hcount), lines_aim] at hstart
  obtain ⟨-, hdelta, -⟩ :=
    (Cut.of_splice hplans.locates.ordered hplans.splice).split_text hplans.splice
  refine ⟨?_, ?_⟩
  · rw [htext]
    exact Strand.map_line_splice hplans.locates.ordered hplans.splice descends.lines
  · have hcovered : (((Text.split draft.text).take (span.stopLine + 1)).drop
        span.startLine).length = (Strand.touched strands span).length := by
      rw [descends.lines, ← List.map_take, ← List.map_drop, List.length_map]
      rfl
    rw [hlines, hdelta, hcovered]
    exact descends.settled.splice hplans.locates.ordered (descends.startLine_lt hplans) habove
      hstart (fun strand hstrand => (hkeeps strand hstrand).2) splice.block

/-- Along a run down a file, the jobs keep to their lines just if they still find them. -/
theorem visits_iff (descends : Descends count above strands draft) (hcount : count < 2 ^ 63)
    (hdown : jobs.Pairwise fun a b => a.finding.start.line ≤ b.finding.start.line)
    (habove : ∀ job ∈ jobs, above ≤ job.finding.start.line)
    (hrun : draft.run jobs = .ok final) :
    (∀ visit ∈ draft.visits strands jobs, visit.KeepsToItsLines) ↔
      ∀ visit ∈ draft.visits strands jobs, visit.FindsItsLines count := by
  induction jobs generalizing draft strands above with
  | nil => exact ⟨fun _ _ h => absurd h List.not_mem_nil, fun _ _ h => absurd h List.not_mem_nil⟩
  | cons job rest ih =>
      obtain ⟨span, splice, next, hplans, htext, hlines, hfinal, hvisits⟩ :=
        exists_visits_cons hrun strands
      obtain ⟨hhead, hrest⟩ := List.pairwise_cons.mp hdown
      have hfirst := habove job List.mem_cons_self
      have hiff := descends.keepsToItsLines_iff hcount hfirst hplans
      rw [hvisits, List.forall_mem_cons, List.forall_mem_cons, hiff]
      refine and_congr_right fun hfinds => ?_
      exact ih (descends.next hcount hfirst hplans (hiff.mpr hfinds) htext hlines) hrest hhead
        hfinal

end Descends

/-- Strands that no match covers stay, if the jobs keep to their lines. -/
theorem sublist_of_run {draft final : Draft} {strands kept : List Strand} {jobs : List Job}
    (hlines : Text.split draft.text = strands.map Strand.line) (hkept : kept.Sublist strands)
    (hapart : ∀ strand ∈ kept, ∀ job ∈ jobs, ¬strand.Meets job.finding)
    (hrun : draft.run jobs = .ok final)
    (hkeeps : ∀ visit ∈ draft.visits strands jobs, visit.KeepsToItsLines) :
    (kept.map Strand.line).Sublist (Text.split final.text) := by
  induction jobs generalizing draft strands with
  | nil =>
      obtain rfl := Except.ok.inj hrun
      rw [hlines]
      exact hkept.map Strand.line
  | cons job rest ih =>
      obtain ⟨span, splice, next, hplans, htext, -, hfinal, hvisits⟩ :=
        exists_visits_cons hrun strands
      rw [hvisits] at hkeeps
      obtain ⟨hfirst, hlater⟩ := List.forall_mem_cons.mp hkeeps
      have hordered := hplans.locates.ordered
      refine ih ?_ (Strand.sublist_splice hordered hkept ?_ splice.block) ?_ hfinal hlater
      · rw [htext]
        exact Strand.map_line_splice hordered hplans.splice hlines
      · intro strand hstrand htouched
        exact hapart strand hstrand job List.mem_cons_self (hfirst strand htouched)
      · intro strand hstrand other hother
        exact hapart strand hstrand other (List.mem_cons_of_mem job hother)

/--
What the jobs of a file make of its text: each touches only what descends from the lines of its
match, and the lines that no match covers stay in their order.
-/
structure Frames (text : List Char) (jobs : List Job) (after : List Char) : Prop where
  keeps : ∀ visit ∈ (ofText text).visits (Strand.ofLines (Text.split text)) jobs,
    visit.KeepsToItsLines
  stays : (Job.uncovered jobs (Text.split text)).Sublist (Text.split after)

/-- Down a file, lines that no match covers stay just if the jobs still find their lines. -/
theorem frames_iff {text : List Char} {jobs : List Job} {final : Draft}
    (hlength : (Text.split text).length < 2 ^ 63)
    (hdown : jobs.Pairwise fun a b => a.finding.start.line ≤ b.finding.start.line)
    (hrun : (ofText text).run jobs = .ok final) :
    Frames text jobs final.text ↔
      ∀ visit ∈ (ofText text).visits (Strand.ofLines (Text.split text)) jobs,
        visit.FindsItsLines (Text.split text).length := by
  have hiff := (Descends.ofText text).visits_iff hlength hdown (fun _ _ => Nat.zero_le _) hrun
  rw [← hiff]
  constructor
  · exact Frames.keeps
  · intro hkeeps
    obtain ⟨kept, hkept, hlines, hapart⟩ := Strand.exists_kept (Text.split text) jobs
    refine ⟨hkeeps, ?_⟩
    rw [← hlines]
    exact sublist_of_run (Descends.ofText text).lines hkept hapart hrun hkeeps

end Draft

namespace Pass

/--
A pass that goes down a file leaves the lines that no match covers as they are, and each of its
jobs touches only what descends from the lines of its match, if and only if each match begins on
a line of the file and comes before the lines from there on have become fewer.
-/
theorem exists_frames_iff {findings : Findings} {disk : Disk} {pass : Pass}
    (hrun : run false findings disk = .ok pass) {location : Location} {text : String}
    (htext : disk.tree.get? location = some (.file (.text text)))
    (hlength : (Text.split text.toList).length < 2 ^ 63)
    (hspelt : Job.SpeltAlike disk location (Job.ofFindings findings))
    (hdown : (Job.leadingTo disk location (Job.ofFindings findings)).Pairwise
      fun a b => a.finding.start.line ≤ b.finding.start.line) :
    ∃ after, pass.disk.tree.get? location = some (.file (.text after)) ∧
      (Draft.Frames text.toList (Job.leadingTo disk location (Job.ofFindings findings))
          after.toList ↔
        ∀ visit ∈ (Draft.ofText text.toList).visits (Strand.ofLines (Text.split text.toList))
            (Job.leadingTo disk location (Job.ofFindings findings)),
          visit.FindsItsLines (Text.split text.toList).length) := by
  obtain ⟨final, hfinal, hafter⟩ := exists_draft_of_run hrun htext hspelt
  refine ⟨String.ofList final.text, hafter, ?_⟩
  rw [String.toList_ofList]
  exact Draft.frames_iff hlength hdown hfinal

/-- Two substitutions that share the second line of a file, the first of which has a pattern. -/
def sharedLine (pattern : String) : Findings :=
  .ofList [.ofPattern "r" "a.txt" (2, 1) (2, 3) pattern "\\1",
    .ofPattern "r" "a.txt" (2, 3) (2, 5) "e" "E"]

/-- If the first substitution leaves the line, only that line is edited. -/
theorem exists_frames_shared :
    ∃ pass, run false (sharedLine "d(r)op") (.ofFile "a.txt" "keep\ndrop\nlast") = .ok pass ∧
      ∃ after, pass.disk.tree.get? ["a.txt"] = some (.file (.text after)) ∧
        Draft.Frames "keep\ndrop\nlast".toList
          (Job.leadingTo (.ofFile "a.txt" "keep\ndrop\nlast") ["a.txt"]
            (Job.ofFindings (sharedLine "d(r)op"))) after.toList := by
  obtain ⟨pass, hrun⟩ := Option.isSome_iff_exists.mp (show
    (run false (sharedLine "d(r)op")
      (.ofFile "a.txt" "keep\ndrop\nlast")).toOption.isSome = true by decide +kernel)
  rw [toOption_eq_some_iff] at hrun
  obtain ⟨after, hafter, hiff⟩ := exists_frames_iff hrun (Disk.get?_ofFile _ _)
    (by decide +kernel) (.of_forall (by decide +kernel) _ _) (by decide +kernel)
  exact ⟨pass, hrun, after, hafter, hiff.mpr (by decide +kernel)⟩

/-- If the first substitution takes the line away, the second reaches the line above. -/
theorem not_forall_run_frames :
    ¬∀ (findings : Findings) (disk : Disk) (pass : Pass), run false findings disk = .ok pass →
      ∀ (location : Location) (text : String),
      disk.tree.get? location = some (.file (.text text)) →
      (Text.split text.toList).length < 2 ^ 63 →
      Job.SpeltAlike disk location (Job.ofFindings findings) →
      (Job.leadingTo disk location (Job.ofFindings findings)).Pairwise
        (fun a b => a.finding.start.line ≤ b.finding.start.line) →
      (Job.leadingTo disk location (Job.ofFindings findings)).Pairwise
        (fun a b => a.finding.EndsBefore b.finding) →
      ∃ after, pass.disk.tree.get? location = some (.file (.text after)) ∧
        Draft.Frames text.toList (Job.leadingTo disk location (Job.ofFindings findings))
          after.toList := by
  intro h
  obtain ⟨pass, hrun⟩ := Option.isSome_iff_exists.mp (show
    (run false (sharedLine "( *)drop")
      (.ofFile "a.txt" "keep\ndrop\nlast")).toOption.isSome = true by decide +kernel)
  have hmade : ((run false (sharedLine "( *)drop")
      (.ofFile "a.txt" "keep\ndrop\nlast")).toOption.map
        fun pass => pass.disk.tree.get? ["a.txt"]) =
      some (some (.file (.text "kEEp\nlast"))) := by decide +kernel
  rw [hrun, Option.map_some] at hmade
  rw [toOption_eq_some_iff] at hrun
  obtain ⟨after, hafter, hframes⟩ := h _ _ pass hrun ["a.txt"] "keep\ndrop\nlast"
    (Disk.get?_ofFile _ _) (by decide +kernel) (.of_forall (by decide +kernel) _ _) (by decide +kernel)
    (by decide +kernel)
  rw [hafter] at hmade
  obtain rfl : after = "kEEp\nlast" := by simpa using hmade
  exact absurd hframes.stays (by decide +kernel)

end Pass

end Fix

end Remedy
