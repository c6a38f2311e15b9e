import Mathlib.Algebra.Ring.Nat
import Remedy.Text.Lines

/-!
# Cutting and joining lines

Joining undoes cutting for every text.  Here is the other direction: lines without newlines come
back when their text is cut, unless there are none.  The lines that a block is broken into are
such lines, since they contain no break of any kind.
-/

namespace Remedy.Text

section Pieces

variable {α : Type} [DecidableEq α] {separator : α}

/-- No piece contains the separator. -/
theorem not_mem_of_mem_splitAt {text piece : List α}
    (hpiece : piece ∈ splitAt separator text) : separator ∉ piece := by
  induction text generalizing piece with
  | nil =>
      rw [List.mem_singleton.mp hpiece]
      exact List.not_mem_nil
  | cons c rest ih =>
      simp only [splitAt] at hpiece
      split at hpiece
      · rcases List.mem_cons.mp hpiece with rfl | hrest
        · exact List.not_mem_nil
        · exact ih hrest
      · rename_i hc
        cases hcut : splitAt separator rest with
        | nil => exact absurd hcut (splitAt_ne_nil separator rest)
        | cons first pieces =>
            rw [hcut] at hpiece ih
            rcases List.mem_cons.mp hpiece with rfl | hlater
            · exact List.not_mem_cons_of_ne_of_not_mem (fun heq => hc heq.symm)
                (ih List.mem_cons_self)
            · exact ih (List.mem_cons_of_mem _ hlater)

/-- A text without the separator is one piece. -/
theorem splitAt_of_not_mem {piece : List α} (hfree : separator ∉ piece) :
    splitAt separator piece = [piece] := by
  induction piece with
  | nil => rfl
  | cons c rest ih =>
      obtain ⟨hc, hrest⟩ := List.ne_and_not_mem_of_not_mem_cons hfree
      simp [splitAt, Ne.symm hc, ih hrest]

/-- The first separator ends the first piece. -/
theorem splitAt_append_cons {piece : List α} (hfree : separator ∉ piece) (rest : List α) :
    splitAt separator (piece ++ separator :: rest) = piece :: splitAt separator rest := by
  induction piece with
  | nil => simp [splitAt]
  | cons c tail ih =>
      obtain ⟨hc, htail⟩ := List.ne_and_not_mem_of_not_mem_cons hfree
      simp [splitAt, Ne.symm hc, ih htail]

/-- Every separator ends a piece. -/
theorem splitAt_append_separator (front rest : List α) :
    splitAt separator (front ++ separator :: rest) =
      splitAt separator front ++ splitAt separator rest := by
  induction front with
  | nil => simp [splitAt]
  | cons c tail ih =>
      by_cases hc : c = separator
      · simp [splitAt, hc, ih]
      · cases hcut : splitAt separator tail with
        | nil => exact absurd hcut (splitAt_ne_nil separator tail)
        | cons piece pieces => simp [splitAt, hc, ih, hcut]

/-- A text with no empty piece is not empty and has no separator at its ends. -/
theorem ne_nil_of_nil_not_mem_splitAt {text : List α} (h : [] ∉ splitAt separator text) :
    text ≠ [] ∧ ∀ front rest, text = front ++ separator :: rest → front ≠ [] ∧ rest ≠ [] := by
  refine ⟨?_, fun front rest htext => ⟨?_, ?_⟩⟩
  · rintro rfl
    exact h List.mem_cons_self
  · rintro rfl
    rw [htext, splitAt_append_separator] at h
    exact h (List.mem_append_left _ List.mem_cons_self)
  · rintro rfl
    rw [htext, splitAt_append_separator] at h
    exact h (List.mem_append_right _ List.mem_cons_self)

/-- Pieces that were put together with separators come back. -/
theorem splitAt_intercalate {pieces : List (List α)} (hne : pieces ≠ [])
    (hfree : ∀ piece ∈ pieces, separator ∉ piece) :
    splitAt separator (List.intercalate [separator] pieces) = pieces := by
  induction pieces with
  | nil => exact absurd rfl hne
  | cons piece rest ih =>
      have hpiece : separator ∉ piece := hfree piece List.mem_cons_self
      cases rest with
      | nil => simpa [List.intercalate] using splitAt_of_not_mem hpiece
      | cons next more =>
          have hlater := ih (List.cons_ne_nil next more) fun other hmem =>
            hfree other (List.mem_cons_of_mem _ hmem)
          have hunfold : List.intercalate [separator] (piece :: next :: more) =
              piece ++ separator :: List.intercalate [separator] (next :: more) := by
            simp [List.intercalate, List.intersperse]
          rw [hunfold, splitAt_append_cons hpiece, hlater]

/-- The pieces and the separators between them make up the text. -/
theorem sum_length_splitAt (text : List α) :
    ((splitAt separator text).map List.length).sum + (splitAt separator text).length =
      text.length + 1 := by
  induction text with
  | nil => rfl
  | cons c rest ih =>
      simp only [splitAt]
      split
      · simp only [List.map_cons, List.sum_cons, List.length_cons, List.length_nil]
        omega
      · cases hcut : splitAt separator rest with
        | nil => exact absurd hcut (splitAt_ne_nil separator rest)
        | cons first pieces =>
            rw [hcut] at ih
            simp only [List.map_cons, List.sum_cons, List.length_cons] at ih ⊢
            omega

end Pieces

/-- There is always a line. -/
theorem split_ne_nil (text : List Char) : split text ≠ [] :=
  splitAt_ne_nil '\n' text

/-- No line contains a newline. -/
theorem not_mem_of_mem_split {text line : List Char} (hline : line ∈ split text) :
    '\n' ∉ line :=
  not_mem_of_mem_splitAt hline

/-- A text has no more lines than characters, but for one. -/
theorem length_split_le (text : List Char) : (split text).length ≤ text.length + 1 := by
  have hsum := @sum_length_splitAt _ _ '\n' text
  unfold split
  omega

/-- No line is longer than the text. -/
theorem length_le_of_mem_split {text line : List Char} (hline : line ∈ split text) :
    line.length ≤ text.length := by
  have hsum := @sum_length_splitAt _ _ '\n' text
  obtain ⟨front, behind, hsplit⟩ := List.append_of_mem hline
  unfold split at hsplit
  rw [hsplit] at hsum
  simp only [List.map_append, List.map_cons, List.sum_append, List.sum_cons,
    List.length_append, List.length_cons] at hsum
  omega

/-- Lines that were joined come back, if there are any and none contains a newline. -/
theorem split_join {lines : List (List Char)} (hne : lines ≠ [])
    (hfree : ∀ line ∈ lines, '\n' ∉ line) : split (join lines) = lines :=
  splitAt_intercalate hne hfree

/-- The lines of a block contain no break of any kind. -/
theorem not_isBreak_of_mem_breakLines {block line : List Char}
    (hline : line ∈ breakLines block) : ∀ c ∈ line, isBreak c = false := by
  fun_induction breakLines block generalizing line with
  | case1 => exact absurd hline List.not_mem_nil
  | case2 rest ih =>
      rcases List.mem_cons.mp hline with rfl | hrest
      · exact fun _ hc => absurd hc List.not_mem_nil
      · exact ih hrest
  | case3 c rest _ hbreak ih =>
      rcases List.mem_cons.mp hline with rfl | hrest
      · exact fun _ hc => absurd hc List.not_mem_nil
      · exact ih hrest
  | case4 c rest _ hbreak ih =>
      intro d hd
      cases hlines : breakLines rest with
      | nil =>
          rw [hlines] at hline
          rw [List.mem_singleton.mp hline] at hd
          rw [List.mem_singleton.mp hd]
          simpa using hbreak
      | cons first later =>
          rw [hlines] at hline ih
          rcases List.mem_cons.mp hline with rfl | hlater
          · rcases List.mem_cons.mp hd with rfl | hd
            · simpa using hbreak
            · exact ih List.mem_cons_self d hd
          · exact ih (List.mem_cons_of_mem _ hlater) d hd

/-- The lines of a block contain no newline. -/
theorem newline_not_mem_of_mem_breakLines {block line : List Char}
    (hline : line ∈ breakLines block) : '\n' ∉ line := by
  intro hmem
  have hfree := not_isBreak_of_mem_breakLines hline '\n' hmem
  exact absurd hfree (by decide)

/-- A block without breaks is one line. -/
theorem breakLines_of_free {block : List Char} (hne : block ≠ [])
    (hfree : ∀ c ∈ block, isBreak c = false) : breakLines block = [block] := by
  fun_induction breakLines block with
  | case1 => exact absurd rfl hne
  | case2 rest ih => exact absurd (hfree '\n' (by simp)) (by decide)
  | case3 c rest _ hbreak ih =>
      rw [hfree c List.mem_cons_self] at hbreak
      exact absurd hbreak Bool.false_ne_true
  | case4 c rest _ hbreak ih =>
      cases rest with
      | nil => rfl
      | cons d more =>
          rw [ih (List.cons_ne_nil d more) fun e he => hfree e (List.mem_cons_of_mem _ he)]
          rfl

end Remedy.Text
