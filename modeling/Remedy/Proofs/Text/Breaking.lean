import Remedy.Proofs.Text.Lines

/-!
# Breaking blocks

A block is broken into lines at every kind of break.  Here this is said in two steps: all breaks
become newlines, of which one at the end is dropped, and the text is cut at those that are left.
So a block comes back from its lines just if newlines are its only breaks and it ends in none, and
lines come back from their block just if they contain no break and the last one is not empty.
-/

namespace Remedy.Text

/-- The text with a newline for every break; a carriage return with the newline behind it is one. -/
def unify : List Char → List Char
  | [] => []
  | '\r' :: '\n' :: rest => '\n' :: unify rest
  | c :: rest => (if isBreak c then '\n' else c) :: unify rest

/-- The text without the newline that may stand at its end. -/
def dropNewline (text : List Char) : List Char :=
  if text.getLast? = some '\n' then text.dropLast else text

/--
The lines of a block, read off the text in which its breaks are newlines: a newline at the end is
dropped, the others are where lines meet.  An empty block has no line.
-/
def unifiedLines (block : List Char) : List (List Char) :=
  if block = [] then [] else split (dropNewline (unify block))

/-- Holds if newlines are the only breaks of a block and it does not end in one. -/
def IsPlain (block : List Char) : Prop :=
  (∀ c ∈ block, isBreak c = true → c = '\n') ∧ block.getLast? ≠ some '\n'

instance (block : List Char) : Decidable (IsPlain block) :=
  inferInstanceAs (Decidable (_ ∧ _))

/-- Holds if no line contains a break and the last line is not empty. -/
def AreUnbroken (lines : List (List Char)) : Prop :=
  (∀ line ∈ lines, ∀ c ∈ line, isBreak c = false) ∧ lines.getLast? ≠ some []

instance (lines : List (List Char)) : Decidable (AreUnbroken lines) :=
  inferInstanceAs (Decidable (_ ∧ _))

/-!
## Lines around others
-/

/-- The lines in front of one end in newlines, and those behind it begin with them. -/
theorem join_append_cons (front : List (List Char)) (line : List Char)
    (behind : List (List Char)) :
    join (front ++ line :: behind) =
      front.flatMap (· ++ ['\n']) ++ line ++ behind.flatMap ('\n' :: ·) := by
  induction front with
  | nil =>
      induction behind generalizing line with
      | nil => simp [join, List.intercalate]
      | cons next rest ih =>
          have hnext : join (next :: rest) = next ++ rest.flatMap ('\n' :: ·) := by
            simpa using ih next
          have hcons : join (line :: next :: rest) = line ++ '\n' :: join (next :: rest) := by
            simp [join, List.intercalate, List.intersperse]
          rw [List.nil_append, hcons, hnext]
          simp
  | cons first rest ih =>
      have hcons : join (first :: (rest ++ line :: behind)) =
          first ++ '\n' :: join (rest ++ line :: behind) := by
        unfold join
        cases rest <;> simp [List.intercalate, List.intersperse]
      rw [List.cons_append, hcons, ih]
      simp [List.append_assoc]

/-- Lines take the newlines between them at least. -/
theorem length_le_length_join (lines : List (List Char)) :
    lines.length ≤ (join lines).length + 1 := by
  cases lines with
  | nil => exact Nat.zero_le _
  | cons first rest =>
      have hrest : rest.length ≤ (rest.flatMap ('\n' :: ·)).length := by
        induction rest with
        | nil => exact Nat.le_refl _
        | cons line more ih =>
            rw [List.flatMap_cons, List.length_append, List.length_cons, List.length_cons]
            omega
      have hjoin := join_append_cons [] first rest
      rw [List.nil_append] at hjoin
      rw [hjoin, List.length_append, List.length_append, List.length_cons]
      omega

/-- Lines may be joined beforehand with those next to them. -/
theorem join_append_join {lines : List (List Char)} (hne : lines ≠ [])
    (front behind : List (List Char)) :
    join (front ++ [join lines] ++ behind) = join (front ++ lines ++ behind) := by
  obtain ⟨first, rest, rfl⟩ := List.exists_cons_of_ne_nil hne
  have hjoin : join (first :: rest) = first ++ rest.flatMap ('\n' :: ·) := by
    simpa using join_append_cons [] first rest
  calc join (front ++ [join (first :: rest)] ++ behind)
      = front.flatMap (· ++ ['\n']) ++ join (first :: rest) ++ behind.flatMap ('\n' :: ·) := by
        rw [List.append_assoc, List.singleton_append, join_append_cons]
    _ = front.flatMap (· ++ ['\n']) ++ first ++ (rest ++ behind).flatMap ('\n' :: ·) := by
        rw [hjoin, List.flatMap_append]
        simp only [List.append_assoc]
    _ = join (front ++ (first :: rest) ++ behind) := by
        rw [List.append_assoc front, List.cons_append, join_append_cons]

/-- Two texts between the same lines are told apart. -/
theorem join_append_singleton_inj {front behind : List (List Char)} {first second : List Char} :
    join (front ++ [first] ++ behind) = join (front ++ [second] ++ behind) ↔ first = second := by
  rw [List.append_assoc, List.append_assoc, List.singleton_append, List.singleton_append,
    join_append_cons, join_append_cons, List.append_cancel_right_eq, List.append_cancel_left_eq]

/-- An empty line counts unless it is the only one. -/
theorem join_append_nil_iff {front behind : List (List Char)} :
    join (front ++ behind) = join (front ++ [[]] ++ behind) ↔ front = [] ∧ behind = [] := by
  constructor
  · intro h
    have hlength := congrArg List.length h
    rw [List.append_assoc, List.singleton_append, join_append_cons] at hlength
    cases behind with
    | cons next rest =>
        rw [join_append_cons] at hlength
        simp only [List.length_append, List.flatMap_cons, List.length_cons,
          List.length_nil] at hlength
        omega
    | nil =>
        rcases List.eq_nil_or_concat front with rfl | ⟨more, last, rfl⟩
        · exact ⟨rfl, rfl⟩
        · rw [List.append_nil, List.concat_eq_append, join_append_cons] at hlength
          simp only [List.length_append, List.flatMap_append, List.flatMap_cons,
            List.flatMap_nil, List.length_cons, List.length_nil] at hlength
          omega
  · rintro ⟨rfl, rfl⟩
    rfl

/-!
## Unifying breaks
-/

theorem unify_cons {c : Char} {rest : List Char}
    (hpair : ∀ more, c = '\r' → rest = '\n' :: more → False) :
    unify (c :: rest) = (if isBreak c then '\n' else c) :: unify rest := by
  rw [unify]
  exact hpair

theorem unify_eq_nil_iff {block : List Char} : unify block = [] ↔ block = [] := by
  fun_cases unify block <;> simp

theorem dropNewline_cons (c : Char) {text : List Char} (hne : text ≠ []) :
    dropNewline (c :: text) = c :: dropNewline text := by
  obtain ⟨d, rest, rfl⟩ := List.exists_cons_of_ne_nil hne
  unfold dropNewline
  rw [List.getLast?_cons_cons, List.dropLast_cons_cons]
  split <;> rfl

/-- Nothing is dropped from a text that does not end in a newline. -/
theorem dropNewline_eq_self_iff {text : List Char} :
    dropNewline text = text ↔ text.getLast? ≠ some '\n' := by
  unfold dropNewline
  split
  · rename_i hlast
    refine ⟨fun h => ?_, fun h => absurd hlast h⟩
    have hlength := congrArg List.length h
    rw [List.length_dropLast] at hlength
    obtain rfl : text = [] := List.eq_nil_of_length_eq_zero (by omega)
    cases hlast
  · rename_i hlast
    exact ⟨fun _ => hlast, fun _ => rfl⟩

theorem mem_of_mem_dropNewline {text : List Char} {c : Char} (h : c ∈ dropNewline text) :
    c ∈ text := by
  unfold dropNewline at h
  split at h
  · exact List.dropLast_subset text h
  · exact h

/-- Newlines are the only breaks of a unified text. -/
theorem eq_newline_of_mem_unify {block : List Char} {c : Char} (hmem : c ∈ unify block)
    (hbreak : isBreak c = true) : c = '\n' := by
  fun_induction unify block with
  | case1 => cases hmem
  | case2 rest ih =>
      rcases List.mem_cons.mp hmem with rfl | hrest
      · rfl
      · exact ih hrest
  | case3 d rest _ ih =>
      rcases List.mem_cons.mp hmem with rfl | hrest
      · split at hbreak
        · rename_i hd
          rw [if_pos hd]
        · rename_i hd
          exact absurd hbreak hd
      · exact ih hrest

/-- A text whose only breaks are newlines is unified already. -/
theorem unify_eq_self {block : List Char} (hplain : ∀ c ∈ block, isBreak c = true → c = '\n') :
    unify block = block := by
  fun_induction unify block with
  | case1 => rfl
  | case2 rest ih => exact absurd (hplain '\r' List.mem_cons_self rfl) (by decide)
  | case3 c rest _ ih =>
      obtain ⟨hfirst, hrest⟩ := List.forall_mem_cons.mp hplain
      rw [ih hrest]
      split
      · rename_i hbreak
        rw [hfirst hbreak]
      · rfl

/-- Cutting at newlines, character by character. -/
theorem split_cons (c : Char) (text : List Char) :
    split (c :: text) = if c = '\n' then [] :: split text else consFirst c (split text) := by
  unfold split
  rw [splitAt]
  split
  · rfl
  · cases hcut : splitAt '\n' text with
    | nil => exact absurd hcut (splitAt_ne_nil '\n' text)
    | cons line lines => rfl

/-- A break opens a line in front of those of the rest. -/
theorem unifiedLines_of_break {rest : List Char} :
    split (dropNewline ('\n' :: unify rest)) = [] :: unifiedLines rest := by
  unfold unifiedLines
  by_cases hrest : rest = []
  · rw [hrest, if_pos rfl]
    rfl
  · rw [if_neg hrest, dropNewline_cons _ (mt unify_eq_nil_iff.mp hrest), split_cons, if_pos rfl]

/-- A character that is no break belongs to the first line of the rest. -/
theorem unifiedLines_of_not_break {c : Char} {rest : List Char} (hc : isBreak c = false) :
    split (dropNewline (c :: unify rest)) = consFirst c (unifiedLines rest) := by
  have hne : c ≠ '\n' := by
    rintro rfl
    cases hc
  unfold unifiedLines
  by_cases hrest : rest = []
  · have hkept : dropNewline [c] = [c] := dropNewline_eq_self_iff.mpr (by simpa using hne)
    rw [hrest, if_pos rfl, unify, hkept, split_cons, if_neg hne]
    rfl
  · rw [if_neg hrest, dropNewline_cons _ (mt unify_eq_nil_iff.mp hrest), split_cons, if_neg hne]

/-- A block is broken where the text with unified breaks is cut. -/
theorem breakLines_eq_unifiedLines (block : List Char) : breakLines block = unifiedLines block := by
  fun_induction breakLines block with
  | case1 => rfl
  | case2 rest ih =>
      rw [ih, ← unifiedLines_of_break, unifiedLines, if_neg (List.cons_ne_nil _ _), unify]
  | case3 c rest hpair hbreak ih =>
      rw [ih, ← unifiedLines_of_break, unifiedLines, if_neg (List.cons_ne_nil _ _),
        unify_cons hpair, if_pos hbreak]
  | case4 c rest hpair hbreak ih =>
      rw [ih, ← unifiedLines_of_not_break (by simpa using hbreak), unifiedLines,
        if_neg (List.cons_ne_nil _ _), unify_cons hpair, if_neg hbreak]

/-!
## What comes back
-/

/-- Only an empty block has no lines. -/
theorem breakLines_eq_nil_iff {block : List Char} : breakLines block = [] ↔ block = [] := by
  rw [breakLines_eq_unifiedLines, unifiedLines]
  split
  · rename_i hblock
    exact ⟨fun _ => hblock, fun _ => rfl⟩
  · rename_i hblock
    exact ⟨fun h => absurd h (split_ne_nil _), fun h => absurd h hblock⟩

/-- A plain block is broken where it is cut. -/
theorem breakLines_of_isPlain {block : List Char} (hne : block ≠ []) (hplain : IsPlain block) :
    breakLines block = split block := by
  rw [breakLines_eq_unifiedLines, unifiedLines, if_neg hne, unify_eq_self hplain.1,
    dropNewline_eq_self_iff.mpr hplain.2]

/-- A plain block stays plain between pieces of lines without breaks. -/
theorem IsPlain.between {front block behind : List Char} (hne : block ≠ [])
    (hplain : IsPlain block) (hfront : ∀ c ∈ front, isBreak c = false)
    (hbehind : ∀ c ∈ behind, isBreak c = false) : IsPlain (front ++ block ++ behind) := by
  refine ⟨?_, ?_⟩
  · intro c hc hbreak
    rcases List.mem_append.mp hc with hearly | hlate
    · rcases List.mem_append.mp hearly with hmem | hmem
      · rw [hfront c hmem] at hbreak
        cases hbreak
      · exact hplain.1 c hmem hbreak
    · rw [hbehind c hlate] at hbreak
      cases hbreak
  · intro hend
    rw [List.getLast?_append, List.getLast?_append] at hend
    cases hlast : behind.getLast? with
    | some c =>
        rw [hlast, Option.some_or] at hend
        obtain rfl := Option.some.inj hend
        exact absurd (hbehind _ (List.mem_of_getLast? hlast)) (by decide)
    | none =>
        rw [hlast, Option.none_or, List.getLast?_eq_some_getLast hne, Option.some_or] at hend
        exact hplain.2 (by rw [List.getLast?_eq_some_getLast hne, hend])

/-- The lines of a block, joined, are its text with unified breaks, but for one at the end. -/
theorem join_breakLines (block : List Char) :
    join (breakLines block) = dropNewline (unify block) := by
  rw [breakLines_eq_unifiedLines, unifiedLines]
  split
  · rename_i hblock
    rw [hblock]
    rfl
  · rw [join_split]

/-- A block comes back from its lines just if it is plain. -/
theorem join_breakLines_eq_self_iff {block : List Char} :
    join (breakLines block) = block ↔ IsPlain block := by
  rw [join_breakLines]
  constructor
  · intro h
    have hplain : ∀ c ∈ block, isBreak c = true → c = '\n' := by
      intro c hc hbreak
      rw [← h] at hc
      exact eq_newline_of_mem_unify (mem_of_mem_dropNewline hc) hbreak
    rw [unify_eq_self hplain] at h
    exact ⟨hplain, dropNewline_eq_self_iff.mp h⟩
  · rintro ⟨hplain, hlast⟩
    rw [unify_eq_self hplain, dropNewline_eq_self_iff.mpr hlast]

/--
Putting the lines of a block between others is putting the block there just if it is plain and not
empty, or if it is empty and there are no others.
-/
theorem join_append_breakLines_iff {front behind : List (List Char)} {block : List Char} :
    join (front ++ breakLines block ++ behind) = join (front ++ [block] ++ behind) ↔
      (block ≠ [] ∧ IsPlain block) ∨ (block = [] ∧ front = [] ∧ behind = []) := by
  by_cases hblock : block = []
  · subst hblock
    rw [breakLines_eq_nil_iff.mpr rfl, List.append_nil, join_append_nil_iff]
    simp
  · have hlines := mt breakLines_eq_nil_iff.mp hblock
    rw [← join_append_join hlines, join_append_singleton_inj, join_breakLines_eq_self_iff]
    simp [hblock]

/-- A text holds newlines and what its lines hold. -/
theorem mem_join {lines : List (List Char)} {c : Char} (h : c ∈ join lines) :
    c = '\n' ∨ ∃ line ∈ lines, c ∈ line := by
  cases lines with
  | nil => cases h
  | cons first rest =>
      rw [← List.nil_append (first :: rest), join_append_cons] at h
      simp only [List.flatMap_nil, List.nil_append, List.mem_append, List.mem_flatMap,
        List.mem_cons] at h
      rcases h with hfirst | ⟨line, hline, rfl | hc⟩
      · exact .inr ⟨first, List.mem_cons_self, hfirst⟩
      · exact .inl rfl
      · exact .inr ⟨line, List.mem_cons_of_mem first hline, hc⟩

/-- The text of unbroken lines is not empty and is plain. -/
theorem AreUnbroken.isPlain {lines : List (List Char)} (hne : lines ≠ [])
    (h : AreUnbroken lines) : join lines ≠ [] ∧ IsPlain (join lines) := by
  obtain ⟨hunbroken, hlast⟩ := h
  obtain ⟨front, last, rfl⟩ := (List.eq_nil_or_concat lines).resolve_left hne
  obtain ⟨more, c, rfl⟩ := (List.eq_nil_or_concat last).resolve_left (by simpa using hlast)
  have hc : isBreak c = false := hunbroken (more.concat c) (by simp) c (by simp)
  have hend : join (front.concat (more.concat c)) = front.flatMap (· ++ ['\n']) ++ more ++ [c] := by
    rw [List.concat_eq_append, List.concat_eq_append, join_append_cons, List.flatMap_nil,
      List.append_nil, List.append_assoc]
  refine ⟨?_, ?_, ?_⟩
  · rw [hend]
    exact List.append_ne_nil_of_right_ne_nil _ (List.cons_ne_nil c [])
  · intro d hd hbreak
    rcases mem_join hd with rfl | ⟨line, hline, hmem⟩
    · rfl
    · rw [hunbroken line hline d hmem] at hbreak
      cases hbreak
  · rw [hend, List.getLast?_concat]
    rintro hlast
    rw [Option.some.inj hlast] at hc
    cases hc

/-- Lines come back from their block just if they are unbroken. -/
theorem breakLines_join_eq_self_iff {lines : List (List Char)} (hne : lines ≠ [])
    (hfree : ∀ line ∈ lines, '\n' ∉ line) :
    breakLines (join lines) = lines ↔ AreUnbroken lines := by
  constructor
  · intro h
    refine ⟨fun line hline => not_isBreak_of_mem_breakLines (by rw [h]; exact hline), ?_⟩
    intro hlast
    obtain ⟨front, last, rfl⟩ := (List.eq_nil_or_concat lines).resolve_left hne
    obtain rfl : last = [] := by simpa using hlast
    have hplain : IsPlain (join (front.concat [])) :=
      join_breakLines_eq_self_iff.mp (congrArg join h)
    rcases List.eq_nil_or_concat front with rfl | ⟨more, next, rfl⟩
    · cases h
    · refine hplain.2 ?_
      rw [List.concat_eq_append, List.concat_eq_append, join_append_cons]
      simp
  · intro h
    obtain ⟨hjoin, hplain⟩ := h.isPlain hne
    rw [breakLines_of_isPlain hjoin hplain, split_join hne hfree]

end Remedy.Text
