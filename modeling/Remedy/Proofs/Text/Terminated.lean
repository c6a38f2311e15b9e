import Mathlib.Data.List.Induction
import Remedy.Text.Lines

/-!
# Texts behind one another, line by line

A line with its newline ends where the newline is, so behind a whole text, one that ends in a
newline or has nothing in it, the lines of another text begin as if nothing stood in front.
-/

namespace Remedy.Text

variable {α : Type} {newline : α}

/-- A text is whole if its last line has its newline. -/
def IsWhole (newline : α) (text : List α) : Prop :=
  ∀ last ∈ text.getLast?, last = newline

theorem IsWhole.append {front rest : List α} (hfront : IsWhole newline front)
    (hrest : IsWhole newline rest) : IsWhole newline (front ++ rest) := by
  intro last hlast
  rw [List.getLast?_append, Option.mem_def, Option.or_eq_some_iff] at hlast
  rcases hlast with hlast | ⟨-, hlast⟩
  · exact hrest last hlast
  · exact hfront last hlast

theorem IsWhole.of_append {front rest : List α} (h : IsWhole newline (front ++ rest)) :
    IsWhole newline rest := by
  intro last hlast
  refine h last ?_
  rw [List.getLast?_append, Option.mem_def, Option.mem_def.mp hlast]
  rfl

variable [DecidableEq α]

instance (newline : α) (text : List α) : Decidable (IsWhole newline text) :=
  inferInstanceAs (Decidable (∀ last ∈ text.getLast?, last = newline))

theorem terminatedLines_ne_nil {text : List α} (h : text ≠ []) :
    terminatedLines newline text ≠ [] := by
  intro hnone
  have hflatten := flatten_terminatedLines newline text
  rw [hnone] at hflatten
  exact h hflatten.symm

/-- Behind a whole text the lines of another one begin. -/
theorem terminatedLines_append {front : List α} (h : IsWhole newline front) (rest : List α) :
    terminatedLines newline (front ++ rest) =
      terminatedLines newline front ++ terminatedLines newline rest := by
  induction front with
  | nil => rfl
  | cons c tail ih =>
      rw [List.cons_append, terminatedLines, terminatedLines]
      by_cases htail : tail = []
      · subst htail
        obtain rfl := h c rfl
        simp [terminatedLines]
      · have hlast : (c :: tail).getLast? = tail.getLast? := by
          rw [List.getLast?_cons_of_ne_nil htail]
        have hlater := ih fun last hmem => h last (hlast ▸ hmem)
        by_cases hc : c = newline
        · rw [if_pos hc, if_pos hc, hlater]
          rfl
        · rw [if_neg hc, if_neg hc, hlater]
          cases hlines : terminatedLines newline tail with
          | nil => exact absurd hlines (terminatedLines_ne_nil htail)
          | cons line lines => rfl

/-- A text without a newline is one line. -/
theorem terminatedLines_of_free {line : List α} (hne : line ≠ []) (hfree : newline ∉ line) :
    terminatedLines newline line = [line] := by
  induction line with
  | nil => exact absurd rfl hne
  | cons c rest ih =>
      obtain ⟨hc, hrest⟩ := List.ne_and_not_mem_of_not_mem_cons hfree
      rw [terminatedLines, if_neg hc.symm]
      by_cases hend : rest = []
      · rw [hend]
        rfl
      · rw [ih hend hrest]

/-- The first newline ends the first line. -/
theorem terminatedLines_append_cons {line : List α} (hfree : newline ∉ line) (rest : List α) :
    terminatedLines newline (line ++ newline :: rest) =
      (line ++ [newline]) :: terminatedLines newline rest := by
  induction line with
  | nil => simp [terminatedLines]
  | cons c more ih =>
      obtain ⟨hc, hmore⟩ := List.ne_and_not_mem_of_not_mem_cons hfree
      rw [List.cons_append, terminatedLines, if_neg hc.symm, ih hmore]
      rfl

/-- A text is a whole one with a line without a newline behind it. -/
theorem exists_whole_append (newline : α) (text : List α) :
    ∃ front last, text = front ++ last ∧ IsWhole newline front ∧ newline ∉ last := by
  induction text using List.reverseRecOn with
  | nil =>
      exact ⟨[], [], rfl, fun _ hlast => absurd hlast (Option.not_mem_none _), List.not_mem_nil⟩
  | append_singleton text c ih =>
      by_cases hc : c = newline
      · refine ⟨text ++ [c], [], (List.append_nil _).symm, fun last hlast => ?_, List.not_mem_nil⟩
        rw [List.getLast?_concat] at hlast
        exact (Option.mem_some.mp hlast).symm.trans hc
      · obtain ⟨front, last, rfl, hwhole, hfree⟩ := ih
        refine ⟨front, last ++ [c], List.append_assoc .., hwhole, ?_⟩
        rw [List.mem_append, List.mem_singleton, not_or]
        exact ⟨hfree, Ne.symm hc⟩

end Remedy.Text
