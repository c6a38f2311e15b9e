import Mathlib.Data.List.Induction
import Remedy.Command.Run
import Remedy.Proofs.Tree.Writing

/-!
# The order in which findings are visited

Findings are visited rule by rule, the rules in the order in which they were first seen.  So two
findings of a list trade places if the rule of the second was seen before that of the first.  In
what order the findings in one file are visited is decided by this alone.
-/

namespace Remedy

namespace Findings

/-- The place at which a rule is first seen. -/
def rank (listed : List Finding) (rule : String) : Nat :=
  listed.findIdx fun finding => finding.rule = rule

/-- The findings of a rule. -/
def ofRule (listed : List Finding) (rule : String) : List Finding :=
  listed.filter fun finding => finding.rule = rule

/-- A rule that was seen keeps its rank. -/
theorem rank_concat_of_mem {listed : List Finding} {rule : String} {finding : Finding}
    (hseen : ∃ other ∈ listed, other.rule = rule) :
    rank (listed ++ [finding]) rule = rank listed rule := by
  have hlt : listed.findIdx (fun other => decide (other.rule = rule)) < listed.length := by
    rw [List.findIdx_lt_length]
    simpa using hseen
  unfold rank
  rw [List.findIdx_append, if_pos hlt]

/-- A rule that is new comes last. -/
theorem rank_concat_of_not_mem {listed : List Finding} {finding : Finding}
    (hnew : ¬∃ other ∈ listed, other.rule = finding.rule) :
    rank (listed ++ [finding]) finding.rule = listed.length := by
  have hlength : listed.findIdx (fun other => decide (other.rule = finding.rule)) =
      listed.length := by
    rw [List.findIdx_eq_length]
    intro other hother
    simpa using fun heq => hnew ⟨other, hother, heq⟩
  unfold rank
  rw [List.findIdx_append, hlength, if_neg (Nat.lt_irrefl _)]
  simp

theorem rank_lt_length {listed : List Finding} {rule : String}
    (hseen : ∃ other ∈ listed, other.rule = rule) : rank listed rule < listed.length := by
  unfold rank
  rw [List.findIdx_lt_length]
  simpa using hseen

theorem ofRule_concat_of_eq {listed : List Finding} {rule : String} {finding : Finding}
    (h : finding.rule = rule) : ofRule (listed ++ [finding]) rule = ofRule listed rule ++ [finding] := by
  unfold ofRule
  rw [List.filter_append, List.filter_cons_of_pos (by simpa using h), List.filter_nil]

theorem ofRule_concat_of_ne {listed : List Finding} {rule : String} {finding : Finding}
    (h : finding.rule ≠ rule) : ofRule (listed ++ [finding]) rule = ofRule listed rule := by
  unfold ofRule
  rw [List.filter_append, List.filter_cons_of_neg (by simpa using h), List.filter_nil,
    List.append_nil]

/-- The groups of a list: one for each rule, in the order of the ranks. -/
structure Grouped (listed : List Finding) (groups : List (String × List Finding)) : Prop where
  found : ∀ group ∈ groups, group.2 = ofRule listed group.1
  seen : ∀ group ∈ groups, ∃ finding ∈ listed, finding.rule = group.1
  complete : ∀ finding ∈ listed, ∃ group ∈ groups, group.1 = finding.rule
  ranked : groups.Pairwise fun a b => rank listed a.1 < rank listed b.1

/-- Pushing a finding of a new rule opens a group. -/
theorem pushGroup_of_not_mem {finding : Finding} {groups : List (String × List Finding)}
    (hnew : ∀ group ∈ groups, group.1 ≠ finding.rule) :
    push.pushGroup finding groups = groups ++ [(finding.rule, [finding])] := by
  induction groups with
  | nil => rfl
  | cons group rest ih =>
      obtain ⟨hfirst, hrest⟩ := List.forall_mem_cons.mp hnew
      rw [push.pushGroup, if_neg hfirst, ih hrest]
      rfl

/-- Adds a finding to a group if it is of the same rule. -/
def extend (finding : Finding) (group : String × List Finding) : String × List Finding :=
  if group.1 = finding.rule then (group.1, group.2 ++ [finding]) else group

@[simp] theorem fst_extend (finding : Finding) (group : String × List Finding) :
    (extend finding group).1 = group.1 := by
  unfold extend
  split <;> rfl

/-- Pushing a finding of a rule that was seen adds it to the group of the rule. -/
theorem pushGroup_of_mem {finding : Finding} {groups : List (String × List Finding)}
    (hdistinct : groups.Pairwise fun a b => a.1 ≠ b.1)
    (hseen : ∃ group ∈ groups, group.1 = finding.rule) :
    push.pushGroup finding groups = groups.map (extend finding) := by
  induction groups with
  | nil =>
      obtain ⟨group, hgroup, -⟩ := hseen
      exact absurd hgroup List.not_mem_nil
  | cons group rest ih =>
      obtain ⟨hhead, hrest⟩ := List.pairwise_cons.mp hdistinct
      obtain ⟨rule, found⟩ := group
      rw [push.pushGroup, List.map_cons]
      by_cases hrule : rule = finding.rule
      · have hkeep : rest.map (extend finding) = rest := by
          refine (List.map_congr_left ?_).trans (List.map_id rest)
          intro other hother
          exact if_neg fun heq => hhead other hother (hrule.trans heq.symm)
        rw [if_pos hrule, hkeep, extend, if_pos hrule]
      · have hlater : ∃ other ∈ rest, other.1 = finding.rule := by
          obtain ⟨other, hother, heq⟩ := hseen
          rcases List.mem_cons.mp hother with rfl | hmem
          · exact absurd heq hrule
          · exact ⟨other, hmem, heq⟩
        rw [if_neg hrule, ih hrest hlater, extend, if_neg hrule]

namespace Grouped

variable {listed : List Finding} {groups : List (String × List Finding)} {finding : Finding}

theorem nil : Grouped [] [] :=
  ⟨fun _ h => absurd h List.not_mem_nil, fun _ h => absurd h List.not_mem_nil,
    fun _ h => absurd h List.not_mem_nil, .nil⟩

/-- A rule has a group if it was seen. -/
theorem exists_group_iff (grouped : Grouped listed groups) (rule : String) :
    (∃ group ∈ groups, group.1 = rule) ↔ ∃ other ∈ listed, other.rule = rule := by
  constructor
  · rintro ⟨group, hgroup, rfl⟩
    exact grouped.seen group hgroup
  · rintro ⟨other, hother, rfl⟩
    exact grouped.complete other hother

theorem rank_concat (grouped : Grouped listed groups) (finding : Finding) :
    ∀ group ∈ groups, rank (listed ++ [finding]) group.1 = rank listed group.1 :=
  fun group hgroup => rank_concat_of_mem (grouped.seen group hgroup)

theorem seen_concat (grouped : Grouped listed groups) (finding : Finding) :
    ∀ group ∈ groups, ∃ other ∈ listed ++ [finding], other.rule = group.1 := by
  intro group hgroup
  obtain ⟨other, hother, hrule⟩ := grouped.seen group hgroup
  exact ⟨other, List.mem_append_left _ hother, hrule⟩

theorem pairwise_ne (grouped : Grouped listed groups) :
    groups.Pairwise fun a b => a.1 ≠ b.1 := by
  refine grouped.ranked.imp ?_
  intro a b hlt heq
  rw [heq] at hlt
  exact Nat.lt_irrefl _ hlt

/-- A finding of a rule that was seen goes into the group of the rule. -/
theorem extend (grouped : Grouped listed groups)
    (hseen : ∃ group ∈ groups, group.1 = finding.rule) :
    Grouped (listed ++ [finding]) (groups.map (Findings.extend finding)) := by
  refine ⟨?_, ?_, ?_, ?_⟩
  · intro group hgroup
    obtain ⟨old, hold, rfl⟩ := List.mem_map.mp hgroup
    unfold Findings.extend
    split
    · rename_i hrule
      rw [ofRule_concat_of_eq hrule.symm, ← grouped.found old hold]
    · rename_i hrule
      rw [ofRule_concat_of_ne (Ne.symm hrule), ← grouped.found old hold]
  · intro group hgroup
    obtain ⟨old, hold, rfl⟩ := List.mem_map.mp hgroup
    rw [fst_extend]
    exact grouped.seen_concat finding old hold
  · intro other hother
    have hgroup : ∃ group ∈ groups, group.1 = other.rule := by
      rcases List.mem_append.mp hother with hold | hlast
      · exact grouped.complete other hold
      · rw [List.mem_singleton.mp hlast]
        exact hseen
    obtain ⟨group, hmem, hrule⟩ := hgroup
    exact ⟨_, List.mem_map_of_mem hmem, (fst_extend finding group).trans hrule⟩
  · rw [List.pairwise_map]
    refine grouped.ranked.imp_of_mem ?_
    intro a b ha hb hlt
    rw [fst_extend, fst_extend, grouped.rank_concat finding a ha,
      grouped.rank_concat finding b hb]
    exact hlt

/-- A finding of a new rule opens a group, which comes last. -/
theorem concat (grouped : Grouped listed groups)
    (hnew : ¬∃ group ∈ groups, group.1 = finding.rule) :
    Grouped (listed ++ [finding]) (groups ++ [(finding.rule, [finding])]) := by
  have hunseen := (grouped.exists_group_iff finding.rule).not.mp hnew
  refine ⟨?_, ?_, ?_, ?_⟩
  · intro group hgroup
    rcases List.mem_append.mp hgroup with hold | hlast
    · rw [ofRule_concat_of_ne fun heq => hnew ⟨group, hold, heq.symm⟩]
      exact grouped.found group hold
    · have hnone : ofRule listed finding.rule = [] := by
        unfold ofRule
        rw [List.filter_eq_nil_iff]
        intro other hother
        simpa using fun heq => hunseen ⟨other, hother, heq⟩
      rw [List.mem_singleton.mp hlast, ofRule_concat_of_eq rfl, hnone, List.nil_append]
  · intro group hgroup
    rcases List.mem_append.mp hgroup with hold | hlast
    · exact grouped.seen_concat finding group hold
    · rw [List.mem_singleton.mp hlast]
      exact ⟨finding, List.mem_append_right _ List.mem_cons_self, rfl⟩
  · intro other hother
    rcases List.mem_append.mp hother with hold | hlast
    · obtain ⟨group, hgroup, hrule⟩ := grouped.complete other hold
      exact ⟨group, List.mem_append_left _ hgroup, hrule⟩
    · rw [List.mem_singleton.mp hlast]
      exact ⟨_, List.mem_append_right _ List.mem_cons_self, rfl⟩
  · rw [List.pairwise_append]
    refine ⟨?_, List.pairwise_singleton _ _, ?_⟩
    · refine grouped.ranked.imp_of_mem ?_
      intro a b ha hb hlt
      rw [grouped.rank_concat finding a ha, grouped.rank_concat finding b hb]
      exact hlt
    · intro group hgroup last hlast
      rw [List.mem_singleton.mp hlast, grouped.rank_concat finding group hgroup,
        rank_concat_of_not_mem hunseen]
      exact rank_lt_length (grouped.seen group hgroup)

/-- Pushing keeps the groups in the order of the ranks. -/
theorem push (grouped : Grouped listed groups) (finding : Finding) :
    Grouped (listed ++ [finding]) (push.pushGroup finding groups) := by
  by_cases hseen : ∃ group ∈ groups, group.1 = finding.rule
  · rw [pushGroup_of_mem grouped.pairwise_ne hseen]
    exact grouped.extend hseen
  · rw [pushGroup_of_not_mem fun group hgroup heq => hseen ⟨group, hgroup, heq⟩]
    exact grouped.concat hseen

end Grouped

theorem ofList_concat (listed : List Finding) (finding : Finding) :
    ofList (listed ++ [finding]) = (ofList listed).push finding := by
  unfold ofList
  rw [List.foldl_append]
  rfl

/-- The groups of the findings of a list. -/
theorem grouped_ofList (listed : List Finding) : Grouped listed (ofList listed).groups := by
  induction listed using List.reverseRecOn with
  | nil => exact .nil
  | append_singleton listed finding ih =>
      rw [ofList_concat]
      exact ih.push finding

/-- What holds of two items wherever they stand, if one has the lower rank, holds by rank. -/
theorem rel_of_pairwise_of_lt {α : Type} {items : List α} {rank : α → Nat}
    {R : α → α → Prop}
    (h : items.Pairwise fun a b => (rank a < rank b → R a b) ∧ (rank b < rank a → R b a))
    {a b : α} (ha : a ∈ items) (hb : b ∈ items) (hlt : rank a < rank b) : R a b := by
  refine @List.Pairwise.forall_of_forall_of_flip α items (fun a b => rank a < rank b → R a b)
    ?_ ?_ ?_ a ha b hb hlt
  · exact fun x _ hlt => absurd hlt (Nat.lt_irrefl _)
  · exact h.imp fun hab => hab.1
  · exact h.imp fun hab => hab.2

section Order

variable {listed : List Finding} {R : Finding → Finding → Prop}

/-- Findings of a rule that was seen earlier are visited earlier. -/
theorem rel_of_rank_lt (hvisited : (ofList listed).toList.Pairwise R) {a b : Finding}
    (ha : a ∈ listed) (hb : b ∈ listed) (hrank : rank listed a.rule < rank listed b.rule) :
    R a b := by
  have grouped := grouped_ofList listed
  obtain ⟨-, hgroups⟩ := List.pairwise_flatMap.mp hvisited
  obtain ⟨first, hfirst, hfirstrule⟩ := grouped.complete a ha
  obtain ⟨second, hsecond, hsecondrule⟩ := grouped.complete b hb
  have hall : (ofList listed).groups.Pairwise fun x y =>
      (rank listed x.1 < rank listed y.1 → ∀ p ∈ x.2, ∀ q ∈ y.2, R p q) ∧
        (rank listed y.1 < rank listed x.1 → ∀ p ∈ y.2, ∀ q ∈ x.2, R p q) := by
    refine (hgroups.and grouped.ranked).imp ?_
    rintro x y ⟨hrel, hlt⟩
    exact ⟨fun _ => hrel, fun hgt => absurd hlt (Nat.lt_asymm hgt)⟩
  refine rel_of_pairwise_of_lt hall hfirst hsecond ?_ a ?_ b ?_
  · rw [hfirstrule, hsecondrule]
    exact hrank
  · rw [grouped.found first hfirst, hfirstrule]
    exact List.mem_filter.mpr ⟨ha, decide_eq_true rfl⟩
  · rw [grouped.found second hsecond, hsecondrule]
    exact List.mem_filter.mpr ⟨hb, decide_eq_true rfl⟩

/-- What holds along a list, and between rules of lower and higher rank, holds along a visit. -/
theorem pairwise_toList (hlisted : listed.Pairwise R)
    (hranks : ∀ a ∈ listed, ∀ b ∈ listed, rank listed a.rule < rank listed b.rule → R a b) :
    (ofList listed).toList.Pairwise R := by
  have grouped := grouped_ofList listed
  have hrule : ∀ group ∈ (ofList listed).groups, ∀ finding ∈ group.2,
      finding ∈ listed ∧ finding.rule = group.1 := by
    intro group hgroup finding hfinding
    rw [grouped.found group hgroup] at hfinding
    obtain ⟨hmem, heq⟩ := List.mem_filter.mp hfinding
    exact ⟨hmem, of_decide_eq_true heq⟩
  refine List.pairwise_flatMap.mpr ⟨?_, ?_⟩
  · intro group hgroup
    rw [grouped.found group hgroup]
    exact hlisted.filter _
  · refine grouped.ranked.imp_of_mem ?_
    intro x y hx hy hlt a ha b hb
    obtain ⟨hamem, harule⟩ := hrule x hx a ha
    obtain ⟨hbmem, hbrule⟩ := hrule y hy b hb
    refine hranks a hamem b hbmem ?_
    rw [harule, hbrule]
    exact hlt

end Order

/-- Holds if a finding carries a remedy and leads to the file at a location. -/
def isRemedyAt (disk : Disk) (location : Location) (finding : Finding) : Bool :=
  finding.hasRemedy && disk.locationOf? finding.path = some location

/-- The findings with remedies that lead to the file at a location. -/
def remediesAt (disk : Disk) (location : Location) (findings : List Finding) : List Finding :=
  findings.filter (isRemedyAt disk location)

/-- Holds if no finding begins above one that comes before it. -/
def GoesDown (findings : List Finding) : Prop :=
  findings.Pairwise fun a b => a.start.line ≤ b.start.line

instance (findings : List Finding) : Decidable (GoesDown findings) :=
  inferInstanceAs (Decidable (findings.Pairwise _))

/-- Findings that go down go down in every file. -/
theorem GoesDown.remediesAt {findings : List Finding} (h : GoesDown findings) (disk : Disk)
    (location : Location) : GoesDown (remediesAt disk location findings) :=
  List.Pairwise.filter _ h

/--
If the remedies for a file are listed from the top to the bottom, they are visited so just if
wherever one begins below another, its rule was not seen before the rule of that other.
-/
theorem goesDown_toList_iff {disk : Disk} {location : Location} {listed : List Finding}
    (hlisted : GoesDown (remediesAt disk location listed)) :
    GoesDown (remediesAt disk location (ofList listed).toList) ↔
      (remediesAt disk location listed).Pairwise fun a b =>
        a.start.line < b.start.line → rank listed a.rule ≤ rank listed b.rule := by
  unfold GoesDown remediesAt at *
  rw [List.pairwise_filter] at hlisted ⊢
  rw [List.pairwise_filter]
  constructor
  · intro hvisited
    refine List.Pairwise.imp_of_mem ?_ hlisted
    intro a b ha hb _ hremedya hremedyb hlt
    by_contra hrank
    have hrel := rel_of_rank_lt hvisited hb ha (Nat.lt_of_not_le hrank) hremedyb hremedya
    omega
  · intro hranks
    refine pairwise_toList hlisted ?_
    intro a ha b hb hrank
    refine @rel_of_pairwise_of_lt _ listed (fun finding => rank listed finding.rule)
      (fun a b => isRemedyAt disk location a → isRemedyAt disk location b →
        a.start.line ≤ b.start.line) ?_ a b ha hb hrank
    refine (hlisted.and hranks).imp ?_
    rintro a b ⟨hle, hrank⟩
    refine ⟨fun _ => hle, fun hgt hremedyb hremedya => ?_⟩
    by_contra hlt
    have hrankle := hrank hremedya hremedyb (Nat.lt_of_not_le hlt)
    exact absurd hgt (Nat.not_lt.mpr hrankle)

theorem map_pushGroup (root : Path) (finding : Finding)
    (groups : List (String × List Finding)) :
    (push.pushGroup finding groups).map
        (fun (rule, found) => (rule, found.map (Finding.rebase root))) =
      push.pushGroup (finding.rebase root)
        (groups.map fun (rule, found) => (rule, found.map (Finding.rebase root))) := by
  have hrule : (finding.rebase root).rule = finding.rule := by
    unfold Finding.rebase
    split <;> rfl
  induction groups with
  | nil => simp [push.pushGroup, hrule]
  | cons group rest ih =>
      simp only [push.pushGroup, List.map_cons, hrule]
      split
      · simp
      · rw [List.map_cons, ih]

/-- Taking paths as seen from a folder does not change how findings are grouped. -/
theorem rebase_ofList (listed : List Finding) (root : Path) :
    (ofList listed).rebase root = ofList (listed.map (Finding.rebase root)) := by
  induction listed using List.reverseRecOn with
  | nil => rfl
  | append_singleton listed finding ih =>
      rw [List.map_append, List.map_singleton, ofList_concat, ofList_concat, ← ih]
      exact congrArg Findings.mk (map_pushGroup root finding (ofList listed).groups)

end Findings

namespace Command

open Findings

/--
The findings of a document whose remedies are listed from the top of each file to its bottom are
visited so just if no rule overtakes another: wherever a remedy begins below another one for its
file, the rule of the latter was seen first, or the rule is the same.
-/
theorem findingsFrom_goesDown_iff {disk : Disk} {folder results : Path} {text : String}
    {listed : List Finding} (hread : disk.readText (folder.join results) = .ok text)
    (hlisted : Findings.list? text = some listed)
    (hdown : ∀ location,
      GoesDown (remediesAt disk location (listed.map (Finding.rebase folder)))) :
    ∃ findings, findingsFrom disk folder results = .ok findings ∧
      ((∀ location, GoesDown (remediesAt disk location findings.toList)) ↔
        ∀ location, (remediesAt disk location (listed.map (Finding.rebase folder))).Pairwise
          fun a b => a.start.line < b.start.line →
            rank (listed.map (Finding.rebase folder)) a.rule ≤
              rank (listed.map (Finding.rebase folder)) b.rule) := by
  refine ⟨(ofList listed).rebase folder, ?_, ?_⟩
  · simp [findingsFrom, Findings.load, hread, Findings.parse?, hlisted, Except.map]
  · rw [rebase_ofList]
    exact forall_congr' fun location => goesDown_toList_iff (hdown location)

/-- A disk with a file and a document of findings in it. -/
def diskWith (document : String) : Disk :=
  ⟨⟨[(["a.txt"], .file (.text "one\ntwo\nthree")), (["found"], .file (.text document))]⟩, []⟩

/-- Three fixes on three lines, of which the second and the third share a rule. -/
def inTurn : String :=
  "[[[\"a\",\"a.txt\",[1,1],[1,4],[\"\",\"ONE\"]]," ++
    "[\"b\",\"a.txt\",[2,1],[2,4],[\"\",\"TWO\"]]," ++
    "[\"b\",\"a.txt\",[3,1],[3,6],[\"\",\"three\\nfour\"]]]]"

/-- The same three fixes, but the first and the third share a rule. -/
def interleaved : String :=
  "[[[\"a\",\"a.txt\",[1,1],[1,4],[\"\",\"ONE\"]]," ++
    "[\"b\",\"a.txt\",[2,1],[2,4],[\"\",\"TWO\"]]," ++
    "[\"a\",\"a.txt\",[3,1],[3,6],[\"\",\"three\\nfour\"]]]]"

/-- Findings whose rules take turns only once are visited as they are listed. -/
theorem findingsFrom_goesDown_in_turn :
    ∃ listed findings, Findings.list? inTurn = some listed ∧
      findingsFrom (diskWith inTurn) ⟨"/"⟩ ⟨"found"⟩ = .ok findings ∧
      ((∀ location, GoesDown (remediesAt (diskWith inTurn) location findings.toList)) ↔
        ∀ location, (remediesAt (diskWith inTurn) location
          (listed.map (Finding.rebase ⟨"/"⟩))).Pairwise fun a b =>
            a.start.line < b.start.line →
              rank (listed.map (Finding.rebase ⟨"/"⟩)) a.rule ≤
                rank (listed.map (Finding.rebase ⟨"/"⟩)) b.rule) := by
  have hlists : (Findings.list? inTurn).any (fun listed =>
      decide (GoesDown (listed.map (Finding.rebase ⟨"/"⟩)))) = true := by decide +kernel
  obtain ⟨listed, hlisted, hdown⟩ := (Option.any_eq_true _ _).mp hlists
  have hread : (diskWith inTurn).readText (Path.join ⟨"/"⟩ ⟨"found"⟩) = .ok inTurn := by
    decide +kernel
  obtain ⟨findings, hfindings, hiff⟩ := findingsFrom_goesDown_iff hread hlisted
    fun location => (of_decide_eq_true hdown).remediesAt _ location
  exact ⟨listed, findings, hlisted, hfindings, hiff⟩

/-- Findings that are listed line after line need not be visited so. -/
theorem not_forall_findingsFrom_goesDown :
    ¬∀ (disk : Disk) (folder results : Path) (text : String) (listed : List Finding),
      disk.readText (folder.join results) = .ok text → Findings.list? text = some listed →
      (∀ location, (remediesAt disk location (listed.map (Finding.rebase folder))).Pairwise
        fun a b => a.start.line ≤ a.stop.line ∧ a.stop.line < b.start.line) →
      ∃ findings, findingsFrom disk folder results = .ok findings ∧
        ∀ location, GoesDown (remediesAt disk location findings.toList) := by
  intro h
  have hlists : (Findings.list? interleaved).any (fun listed =>
      decide ((listed.map (Finding.rebase ⟨"/"⟩)).Pairwise fun a b =>
        a.start.line ≤ a.stop.line ∧ a.stop.line < b.start.line)) = true := by decide +kernel
  obtain ⟨listed, hlisted, hapart⟩ := (Option.any_eq_true _ _).mp hlists
  have hread : (diskWith interleaved).readText (Path.join ⟨"/"⟩ ⟨"found"⟩) =
      .ok interleaved := by decide +kernel
  obtain ⟨findings, hfindings, hdown⟩ := h _ _ _ _ listed hread hlisted
    fun location => (of_decide_eq_true hapart).filter _
  have hvisits : (findingsFrom (diskWith interleaved) ⟨"/"⟩ ⟨"found"⟩).toOption.any
      (fun findings => !decide (GoesDown (remediesAt (diskWith interleaved) ["a.txt"]
        findings.toList))) = true := by decide +kernel
  rw [hfindings] at hvisits
  simp [Except.toOption, hdown ["a.txt"]] at hvisits

end Command

end Remedy
