import Mathlib.Data.List.Forall2
import Remedy.Proofs.Text.Breaking

/-!
# Texts made of others

Cutting a block into lines and joining these takes characters away and puts newlines in the place
of other breaks, but no character comes to stand twice.  So the text is made of the block: each of
its characters stands for another character of the block, further on than those before it.
-/

namespace Remedy.Text

/-- A character stands for another one if it is the same, or a newline for a break. -/
def StandsFor (made origin : Char) : Prop :=
  made = origin ∨ (made = '\n' ∧ isBreak origin = true)

instance : Std.Refl StandsFor :=
  ⟨fun _ => .inl rfl⟩

instance : IsTrans Char StandsFor where
  trans := by
    rintro made middle origin (rfl | ⟨rfl, hmiddle⟩) (rfl | ⟨rfl, horigin⟩)
    · exact .inl rfl
    · exact .inr ⟨rfl, horigin⟩
    · exact .inr ⟨rfl, hmiddle⟩
    · exact .inr ⟨rfl, horigin⟩

/-- Of the characters of a text some are left, each of them once, and in their order. -/
abbrev IsMadeOf : List Char → List Char → Prop :=
  List.SublistForall₂ StandsFor

namespace IsMadeOf

theorem of_sublist {made origin : List Char} (h : made.Sublist origin) : IsMadeOf made origin :=
  h.sublistForall₂

/-- What is made is not longer. -/
theorem length_le {made origin : List Char} (h : IsMadeOf made origin) :
    made.length ≤ origin.length := by
  obtain ⟨kept, hkept, hsublist⟩ := List.sublistForall₂_iff.mp h
  rw [hkept.length_eq]
  exact hsublist.length_le

theorem append {front behind origin more : List Char} (hfront : IsMadeOf front origin)
    (hbehind : IsMadeOf behind more) : IsMadeOf (front ++ behind) (origin ++ more) := by
  obtain ⟨first, hfirst, horigin⟩ := List.sublistForall₂_iff.mp hfront
  obtain ⟨second, hsecond, hmore⟩ := List.sublistForall₂_iff.mp hbehind
  exact List.sublistForall₂_iff.mpr
    ⟨first ++ second, List.rel_append hfirst hsecond, horigin.append hmore⟩

end IsMadeOf

/-- Unifying breaks keeps the other characters; a pair of breaks counts as its second one. -/
theorem isMadeOf_unify (block : List Char) : IsMadeOf (unify block) block := by
  fun_induction unify block with
  | case1 => exact .nil
  | case2 rest ih => exact .cons_right (.cons (.inl rfl) ih)
  | case3 c rest _ ih =>
      refine .cons ?_ ih
      split
      · rename_i hbreak
        exact .inr ⟨rfl, hbreak⟩
      · exact .inl rfl

theorem dropNewline_sublist (text : List Char) : (dropNewline text).Sublist text := by
  unfold dropNewline
  split
  · exact List.dropLast_sublist text
  · exact .refl text

theorem isMadeOf_join_breakLines (block : List Char) :
    IsMadeOf (join (breakLines block)) block := by
  rw [join_breakLines]
  exact IsTrans.trans _ _ _ (IsMadeOf.of_sublist (dropNewline_sublist (unify block)))
    (isMadeOf_unify block)

/-- Taking a line away takes characters away. -/
theorem join_append_sublist (front : List (List Char)) (line : List Char)
    (behind : List (List Char)) :
    (join (front ++ behind)).Sublist (join (front ++ line :: behind)) := by
  rw [join_append_cons front line]
  cases behind with
  | cons next rest =>
      rw [join_append_cons, List.flatMap_cons]
      simp only [List.append_assoc, List.cons_append]
      exact (List.Sublist.refl _).append
        (List.sublist_append_of_sublist_right (List.sublist_cons_self _ _))
  | nil =>
      rcases List.eq_nil_or_concat front with rfl | ⟨more, last, rfl⟩
      · exact List.nil_sublist _
      · rw [List.append_nil, List.concat_eq_append, join_append_cons, List.flatMap_append]
        simp only [List.flatMap_cons, List.flatMap_nil, List.append_nil, List.append_assoc]
        exact (List.Sublist.refl _).append (List.sublist_append_left _ _)

/-- Lines around those of a block are made of themselves, whatever becomes of the block. -/
theorem isMadeOf_join_append (front : List (List Char)) (block : List Char)
    (behind : List (List Char)) :
    IsMadeOf (join (front ++ breakLines block ++ behind)) (join (front ++ [block] ++ behind)) := by
  by_cases hblock : block = []
  · rw [breakLines_eq_nil_iff.mpr hblock, List.append_nil, List.append_assoc]
    exact .of_sublist (join_append_sublist front block behind)
  · have hlines := mt breakLines_eq_nil_iff.mp hblock
    rw [← join_append_join hlines]
    simp only [List.append_assoc, List.singleton_append, join_append_cons]
    exact .append (Std.Refl.refl _) (.append (isMadeOf_join_breakLines block) (Std.Refl.refl _))

end Remedy.Text
