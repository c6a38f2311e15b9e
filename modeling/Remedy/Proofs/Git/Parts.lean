import Mathlib.Data.List.Basic
import Mathlib.Data.List.Induction
import Mathlib.Data.List.TakeWhile
import Remedy.Git.Change
import Remedy.Proofs.Text.Lines

/-!
# Cutting lists at their NULs

The parts of a list are what lies between the NULs of a text that has none at its ends, so NULs
around a text do not matter, and any text is cut in one way.  Texts that have a NUL behind each are
the parts of what they make up.
-/

namespace Remedy.Git

/-- A text is cut into its parts: NULs are between the parts and at both ends of the text. -/
structure IsCut (text : List Char) (pieces : List (List Char)) : Prop where
  free : ∀ piece ∈ pieces, '\x00' ∉ piece
  first : pieces.head? ≠ some []
  last : pieces.getLast? ≠ some []
  text : ∃ front back, text =
    List.replicate front '\x00' ++ (List.intercalate ['\x00'] pieces ++ List.replicate back '\x00')

/-- The text without the NULs at both of its ends. -/
def trimNuls (text : List Char) : List Char :=
  ((text.dropWhile (· == '\x00')).reverse.dropWhile (· == '\x00')).reverse

theorem parts_eq (text : List Char) :
    parts text = if trimNuls text = [] then [] else Text.splitAt '\x00' (trimNuls text) := by
  unfold parts trimNuls
  dsimp only
  split
  · rename_i h
    rw [h, if_pos rfl]
  · rename_i h
    rw [if_neg h]

/-- A text that neither begins nor ends in a NUL. -/
def IsTrimmed (text : List Char) : Prop :=
  text.head? ≠ some '\x00' ∧ text.getLast? ≠ some '\x00'

theorem dropWhile_nul_eq_self {text : List Char} (h : text.head? ≠ some '\x00') :
    text.dropWhile (· == '\x00') = text := by
  cases text with
  | nil => rfl
  | cons c rest => exact List.dropWhile_cons_of_neg (by simpa using h)

/-- NULs that are put around a text are taken off again. -/
theorem trimNuls_around {text : List Char} (h : IsTrimmed text) (front back : Nat) :
    trimNuls (List.replicate front '\x00' ++ (text ++ List.replicate back '\x00')) = text := by
  have hnuls : ∀ count, ∀ c ∈ List.replicate count '\x00', (c == '\x00') = true := by
    intro count c hc
    rw [List.eq_of_mem_replicate hc]
    rfl
  have hend : (List.replicate back '\x00' ++ text.reverse).dropWhile (· == '\x00') =
      text.reverse := by
    rw [List.dropWhile_append_of_pos (hnuls back),
      dropWhile_nul_eq_self (by rw [List.head?_reverse]; exact h.2)]
  rw [trimNuls, List.dropWhile_append_of_pos (hnuls front)]
  cases text with
  | nil =>
      have hnone : (List.replicate back '\x00').dropWhile (· == '\x00') = [] :=
        List.dropWhile_eq_nil_iff.mpr (hnuls back)
      rw [List.nil_append, hnone]
      rfl
  | cons c rest =>
      rw [@dropWhile_nul_eq_self (c :: rest ++ _) h.1, List.reverse_append,
        List.reverse_replicate, hend, List.reverse_reverse]

/-- A text is what remains of it without the NULs in front, behind as many NULs. -/
theorem exists_replicate_append_dropWhile (text : List Char) :
    ∃ count, text = List.replicate count '\x00' ++ text.dropWhile (· == '\x00') := by
  refine ⟨(text.takeWhile (· == '\x00')).length, ?_⟩
  have hnuls : text.takeWhile (· == '\x00') =
      List.replicate (text.takeWhile (· == '\x00')).length '\x00' := by
    refine List.eq_replicate_iff.mpr ⟨rfl, fun c hc => ?_⟩
    exact eq_of_beq (List.all_eq_true.mp List.all_takeWhile c hc)
  rw [← hnuls, List.takeWhile_append_dropWhile]

theorem head?_dropWhile_nul_ne (text : List Char) :
    (text.dropWhile (· == '\x00')).head? ≠ some '\x00' := by
  intro h
  have hnot := List.head?_dropWhile_not (· == '\x00') text
  rw [h] at hnot
  exact absurd hnot (by decide)

/-- A text is a trimmed one with NULs around it. -/
theorem exists_trimmed (text : List Char) :
    ∃ front back, text = List.replicate front '\x00' ++
      (trimNuls text ++ List.replicate back '\x00') ∧ IsTrimmed (trimNuls text) := by
  obtain ⟨front, hfront⟩ := exists_replicate_append_dropWhile text
  obtain ⟨back, hback⟩ :=
    exists_replicate_append_dropWhile (text.dropWhile (· == '\x00')).reverse
  have hrest : text.dropWhile (· == '\x00') = trimNuls text ++ List.replicate back '\x00' := by
    rw [← List.reverse_inj, hback]
    simp [trimNuls]
  refine ⟨front, back, by rw [← hrest, ← hfront], fun hhead => ?_, ?_⟩
  · refine head?_dropWhile_nul_ne text ?_
    rw [hrest, List.head?_append, hhead]
    rfl
  · rw [trimNuls, List.getLast?_reverse]
    exact head?_dropWhile_nul_ne _

/-- All parts but the last have a NUL behind them. -/
theorem intercalate_concat (front : List (List Char)) (piece : List Char) :
    List.intercalate ['\x00'] (front ++ [piece]) = front.flatMap (· ++ ['\x00']) ++ piece := by
  induction front with
  | nil => simp [List.intercalate]
  | cons first rest ih =>
      rw [List.flatMap_cons, List.append_assoc, ← ih, List.cons_append]
      cases rest <;> simp [List.intercalate]

/-- The parts of a text without NULs at its ends do not begin or end in an empty one. -/
theorem ends_splitAt {text : List Char} (hne : text ≠ []) (h : IsTrimmed text) :
    (Text.splitAt '\x00' text).head? ≠ some [] ∧ (Text.splitAt '\x00' text).getLast? ≠ some [] := by
  have hjoin := Text.intercalate_splitAt '\x00' text
  constructor
  · intro hfirst
    obtain ⟨rest, hpieces⟩ := List.head?_eq_some_iff.mp hfirst
    rw [hpieces] at hjoin
    cases rest with
    | nil => exact hne hjoin.symm
    | cons next more => exact h.1 (by rw [← hjoin]; rfl)
  · intro hlast
    obtain ⟨before, hpieces⟩ := List.getLast?_eq_some_iff.mp hlast
    rw [hpieces, intercalate_concat, List.append_nil] at hjoin
    cases before using List.reverseRecOn with
    | nil => exact hne hjoin.symm
    | append_singleton front piece =>
        refine h.2 ?_
        rw [← hjoin, List.flatMap_append, List.flatMap_singleton, ← List.append_assoc,
          List.getLast?_concat]

/-- Any text is cut into parts. -/
theorem isCut_parts (text : List Char) : IsCut text (parts text) := by
  obtain ⟨front, back, htext, htrimmed⟩ := exists_trimmed text
  rw [parts_eq]
  split
  · rename_i hnil
    rw [hnil] at htext
    exact ⟨List.forall_mem_nil _, by simp, by simp, front, back, htext⟩
  · rename_i hne
    obtain ⟨hfirst, hlast⟩ := ends_splitAt hne htrimmed
    refine ⟨fun _ hmem => Text.not_mem_of_mem_splitAt hmem, hfirst, hlast, front, back, ?_⟩
    rw [Text.intercalate_splitAt]
    exact htext

namespace IsCut

variable {text : List Char} {pieces : List (List Char)}

/-- Parts that do not begin or end in an empty one make up a trimmed text. -/
theorem isTrimmed (h : IsCut text pieces) : IsTrimmed (List.intercalate ['\x00'] pieces) := by
  have hedge : ∀ piece ∈ pieces, piece.head? ≠ some '\x00' ∧ piece.getLast? ≠ some '\x00' :=
    fun piece hpiece => ⟨fun hhead => h.free piece hpiece (List.mem_of_mem_head? hhead),
      fun hlast => h.free piece hpiece (List.mem_of_mem_getLast? hlast)⟩
  constructor
  · cases pieces with
    | nil => simp [List.intercalate]
    | cons first rest =>
        have hne : first ≠ [] := fun hnil => h.first (by rw [hnil]; rfl)
        obtain ⟨c, more, rfl⟩ := List.exists_cons_of_ne_nil hne
        cases rest <;> exact (hedge _ List.mem_cons_self).1
  · cases pieces using List.reverseRecOn with
    | nil => simp [List.intercalate]
    | append_singleton front last =>
        have hne : last ≠ [] := fun hnil => h.last (by rw [hnil, List.getLast?_concat])
        rw [intercalate_concat, List.getLast?_append_of_ne_nil _ hne]
        exact (hedge last (List.mem_append_right _ List.mem_cons_self)).2

/-- There are no other parts than those into which a text is cut. -/
theorem parts_eq (h : IsCut text pieces) : parts text = pieces := by
  obtain ⟨front, back, htext⟩ := h.text
  rw [Git.parts_eq, htext, trimNuls_around h.isTrimmed]
  cases pieces with
  | nil => rfl
  | cons first rest =>
      have hne : List.intercalate ['\x00'] (first :: rest) ≠ [] := by
        intro hnil
        cases rest with
        | nil => exact h.first (by simpa [List.intercalate] using hnil)
        | cons next more => simp [List.intercalate] at hnil
      rw [if_neg hne, Text.splitAt_intercalate (List.cons_ne_nil first rest) h.free]

end IsCut

/-- A text can be cut in one way, and this is how it is cut. -/
theorem parts_eq_iff {text : List Char} {pieces : List (List Char)} :
    parts text = pieces ↔ IsCut text pieces :=
  ⟨fun h => h ▸ isCut_parts text, IsCut.parts_eq⟩

/-!
## Texts with NULs behind them
-/

/-- Texts one behind the other, with a NUL at the end of each. -/
def terminated (pieces : List (List Char)) : List Char :=
  pieces.flatMap (· ++ ['\x00'])

/-- A text that can be a part of a list. -/
def IsPart (piece : List Char) : Prop :=
  piece ≠ [] ∧ '\x00' ∉ piece

instance (piece : List Char) : Decidable (IsPart piece) :=
  inferInstanceAs (Decidable (_ ∧ _))

theorem terminated_eq_intercalate {pieces : List (List Char)} (hne : pieces ≠ []) :
    terminated pieces = List.intercalate ['\x00'] pieces ++ ['\x00'] := by
  cases pieces using List.reverseRecOn with
  | nil => exact absurd rfl hne
  | append_singleton front piece =>
      rw [intercalate_concat, terminated, List.flatMap_append, List.flatMap_singleton,
        List.append_assoc]

/-- The parts of a list are the texts that were written. -/
theorem parts_terminated {pieces : List (List Char)} (h : ∀ piece ∈ pieces, IsPart piece) :
    parts (terminated pieces) = pieces := by
  by_cases hne : pieces = []
  · rw [hne]
    rfl
  · refine IsCut.parts_eq ⟨fun piece hpiece => (h piece hpiece).2, fun hfirst => ?_,
      fun hlast => ?_, 0, 1, terminated_eq_intercalate hne⟩
    · exact (h [] (List.mem_of_mem_head? hfirst)).1 rfl
    · exact (h [] (List.mem_of_mem_getLast? hlast)).1 rfl

end Remedy.Git
