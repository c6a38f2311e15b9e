import Remedy.Fix.Template
import Remedy.Pattern.Dollar

/-!
# What templates stand for

A template reads as pieces, each a character or a group.  In the form with dollars every piece is
written for itself, one behind the other, so that expanding this form gives what the pieces stand
for.  Only a name with a closing brace in it is written as something else.
-/

namespace Remedy

namespace Pattern.Dollar

/-- A name without a closing brace is read up to the first one. -/
theorem braced?_append {name : List Char} (hname : '\x7d' ∉ name) (rest : List Char) :
    braced? (name ++ '\x7d' :: rest) = some (name, rest) := by
  induction name with
  | nil => rfl
  | cons c more ih =>
      obtain ⟨hc, hmore⟩ := List.ne_and_not_mem_of_not_mem_cons hname
      rw [List.cons_append, braced?, if_neg hc.symm, ih hmore]
      rfl

theorem not_mem_of_braced? {text name rest : List Char} (h : braced? text = some (name, rest)) :
    '\x7d' ∉ name := by
  induction text generalizing name rest with
  | nil => cases h
  | cons c more ih =>
      rw [braced?] at h
      split at h
      · cases h
        exact List.not_mem_nil
      · rename_i hc
        obtain ⟨⟨found, left⟩, hfound, hsame⟩ := Option.map_eq_some_iff.mp h
        cases hsame
        exact List.not_mem_cons_of_ne_of_not_mem (Ne.symm hc) (ih hfound)

/-- No reference is read that has a closing brace in its name. -/
theorem exists_of_reference? {text rest : List Char} {reference : Reference}
    (h : reference? text = some (reference, rest)) :
    ∃ name, '\x7d' ∉ name ∧ reference = .ofText name := by
  cases text with
  | nil => cases h
  | cons c more =>
      rw [reference?] at h
      split at h
      · obtain ⟨⟨name, left⟩, hname, hsame⟩ := Option.map_eq_some_iff.mp h
        cases hsame
        exact ⟨name, not_mem_of_braced? hname, rfl⟩
      · dsimp only at h
        split at h
        · cases h
        · cases h
          refine ⟨_, fun hbrace => ?_, rfl⟩
          exact absurd (List.all_eq_true.mp List.all_takeWhile _ hbrace) (by decide)

variable {group : Reference → List Char}

theorem expand_cons {c : Char} (hc : c ≠ '$') (rest : List Char) :
    expand group (c :: rest) = c :: expand group rest := by
  rw [expand]
  all_goals simp [hc]

theorem expand_dollars (rest : List Char) :
    expand group ('$' :: '$' :: rest) = '$' :: expand group rest := by
  rw [expand]

theorem expand_reference {text after : List Char} {reference : Reference}
    (h : reference? text = some (reference, after)) :
    expand group ('$' :: text) = group reference ++ expand group after := by
  have hplain : ∀ rest, text ≠ '$' :: rest := by
    rintro rest rfl
    rw [reference?] at h
    cases h
  rw [expand]
  · split
    · rename_i found left hfound
      cases hfound.symm.trans h
      rfl
    · rename_i hnone
      cases hnone.symm.trans h
  · exact hplain

/-- If no group that can be referred to has matched anything, a template does not grow. -/
theorem length_expand_le (hgroup : ∀ name, '\x7d' ∉ name → group (.ofText name) = [])
    (template : List Char) : (expand group template).length ≤ template.length := by
  fun_induction expand group template with
  | case1 => exact Nat.le_refl 0
  | case2 rest ih =>
      simp only [List.length_cons]
      omega
  | case3 rest _ reference after h _ ih =>
      obtain ⟨name, hname, rfl⟩ := exists_of_reference? h
      rw [hgroup name hname, List.nil_append, List.length_cons]
      omega
  | case4 rest _ _ ih | case5 _ rest _ _ ih =>
      simp only [List.length_cons]
      omega

/-- A name with a closing brace in it is no numeral. -/
theorem Reference.ofText_of_mem {name : List Char} (h : '\x7d' ∈ name) :
    Reference.ofText name = .name (String.ofList name) := by
  have hnone : Decimal.read? name = none := by
    unfold Decimal.read?
    rw [if_neg]
    rintro ⟨-, hdigits, -⟩
    refine absurd (List.all_eq_true.mp hdigits '\x7d' ?_) (by decide)
    split
    · simpa using h
    · exact h
  rw [Reference.ofText, hnone]

theorem Reference.ofText_ne {name other : List Char} (hname : '\x7d' ∉ name)
    (hother : '\x7d' ∈ other) : Reference.ofText name ≠ .ofText other := by
  rw [Reference.ofText_of_mem hother, Reference.ofText]
  split
  · exact Reference.noConfusion
  · intro hsame
    have heq := String.ofList_injective (Reference.name.inj hsame)
    exact hname (heq ▸ hother)

end Pattern.Dollar

namespace Fix.Template

open Pattern.Dollar (Reference)

/-- A piece of a template. -/
inductive Piece where
  | char (c : Char)
  | group (name : List Char)

/-- What a piece stands for, where `group` says what the groups matched. -/
def Piece.text (group : Reference → List Char) : Piece → List Char
  | .char c => [c]
  | .group name => group (.ofText name)

/--
The piece that a backslash in front of a text belongs to, and what follows it.  There is none if
the backslash stands for itself.
-/
def escape? : List Char → Option (Piece × List Char)
  | 'n' :: rest => some (.char '\n', rest)
  | 't' :: rest => some (.char '\t', rest)
  | '\\' :: rest => some (.char '\\', rest)
  | 'g' :: '<' :: rest =>
      some (.group (rest.takeWhile (· ≠ '>')), (rest.dropWhile (· ≠ '>')).drop 1)
  | text =>
      let digits := (text.take 2).takeWhile Char.isDigit
      if digits = [] then none else some (.group digits, text.drop digits.length)

theorem length_of_escape? {text rest : List Char} {piece : Piece}
    (h : escape? text = some (piece, rest)) : rest.length < text.length := by
  unfold escape? at h
  split at h
  · cases h
    exact Nat.lt_succ_self _
  · cases h
    exact Nat.lt_succ_self _
  · cases h
    exact Nat.lt_succ_self _
  · rename_i name
    cases h
    have hname := (name.dropWhile_sublist (· ≠ '>')).length_le
    simp only [List.length_drop, List.length_cons]
    omega
  · dsimp only at h
    split at h
    · cases h
    · rename_i hdigits
      cases h
      have hsome := List.length_pos_iff.mpr hdigits
      have htaken := ((text.take 2).takeWhile_sublist Char.isDigit).length_le
      rw [List.length_take] at htaken
      rw [List.length_drop]
      omega

/-- The pieces of a template, read from its front. -/
def pieces : List Char → List Piece
  | [] => []
  | '\\' :: rest =>
      match h : escape? rest with
      | some (piece, after) =>
          have : after.length < rest.length := length_of_escape? h
          piece :: pieces after
      | none => .char '\\' :: pieces rest
  | c :: rest => .char c :: pieces rest
termination_by template => template.length
decreasing_by all_goals simp only [List.length_cons]; omega

/-- A piece in the form with dollars. -/
def Piece.dollars : Piece → List Char
  | .char c => if c = '$' then ['$', '$'] else [c]
  | .group name => groupReference name

theorem translate_name (reversed text : List Char) :
    translate (.name reversed) text =
      groupReference (reversed.reverse ++ text.takeWhile (· ≠ '>')) ++
        translate .plain ((text.dropWhile (· ≠ '>')).drop 1) := by
  induction text generalizing reversed with
  | nil => simp [translate]
  | cons c rest ih =>
      rw [translate]
      by_cases hend : c = '>'
      · simp [hend]
      · rw [if_neg hend, ih]
        simp [hend]

theorem translate_cons {c : Char} (hc : c ≠ '\\') (rest : List Char) :
    translate .plain (c :: rest) = (Piece.char c).dollars ++ translate .plain rest := by
  by_cases hdollar : c = '$'
  · subst hdollar
    rfl
  · rw [Piece.dollars, if_neg hdollar]
    cases rest <;> simp [translate, hc]

/-- A backslash in front of a digit refers to a group by one digit or by two. -/
theorem translate_digits {c : Char} (hc : c.isDigit = true) (rest : List Char) :
    translate .plain ('\\' :: c :: rest) =
      let digits := ((c :: rest).take 2).takeWhile Char.isDigit
      groupReference digits ++ translate .plain ((c :: rest).drop digits.length) := by
  have hfar : c ≠ 'g' ∧ c ≠ 'n' ∧ c ≠ 't' ∧ c ≠ '\\' := by
    refine ⟨?_, ?_, ?_, ?_⟩ <;> rintro rfl <;> exact absurd hc (by decide)
  cases rest with
  | nil => simp [translate, hc, hfar]
  | cons d more => by_cases hd : d.isDigit = true <;> simp [translate, hc, hfar, hd]

/-- A backslash is translated with the piece that it belongs to. -/
theorem translate_backslash (text : List Char) :
    translate .plain ('\\' :: text) =
      match escape? text with
      | some (piece, rest) => piece.dollars ++ translate .plain rest
      | none => '\\' :: translate .plain text := by
  fun_cases escape? text with
  | case1 rest => rfl
  | case2 rest => rfl
  | case3 rest => rfl
  | case4 rest =>
      rw [translate, translate_name]
      rfl
  | case5 text hn ht hs hg digits hnone =>
      dsimp only
      cases text with
      | nil => rfl
      | cons c rest =>
        have hc : c.isDigit = false := by
          simpa [digits, List.takeWhile_cons] using hnone
        by_cases hletter : c = 'g'
        · subst hletter
          have hplain := @translate_cons 'g' (by decide) rest
          cases rest with
          | nil => rfl
          | cons d more =>
            have hd : d ≠ '<' := fun heq => hg more (by rw [heq])
            rw [hplain]
            simp [translate, hd, Piece.dollars]
        · have hfar : c ≠ 'n' ∧ c ≠ 't' ∧ c ≠ '\\' :=
            ⟨fun heq => hn rest (by rw [heq]), fun heq => ht rest (by rw [heq]),
              fun heq => hs rest (by rw [heq])⟩
          cases rest <;> simp [translate, hletter, hfar, hc]
  | case6 text hn ht hs hg digits hsome =>
      dsimp only
      cases text with
      | nil => exact absurd rfl hsome
      | cons c rest =>
        cases hc : c.isDigit with
        | false => exact absurd (by simp [digits, hc]) hsome
        | true => exact translate_digits hc rest

/-- The form with dollars is each piece in that form, one behind the other. -/
theorem toDollars_eq (template : List Char) :
    toDollars template = (pieces template).flatMap Piece.dollars := by
  unfold toDollars
  fun_induction pieces template with
  | case1 => rfl
  | case2 rest piece after h _ ih =>
      rw [translate_backslash, h]
      simp only [List.flatMap_cons, ih]
  | case3 rest h ih =>
      rw [translate_backslash, h]
      simp only [List.flatMap_cons, ← ih]
      rfl
  | case4 c rest hc ih =>
      rw [translate_cons hc, List.flatMap_cons, ih]

/-- What a template stands for, where `group` says what the groups matched. -/
def meaning (group : Reference → List Char) (template : List Char) : List Char :=
  (pieces template).flatMap (Piece.text group)

/-- Pieces are expanded one by one, if no name ends where a brace in it would have it end. -/
theorem expand_flatMap_dollars {read : List Piece}
    (h : ∀ name, .group name ∈ read → '\x7d' ∉ name) (group : Reference → List Char) :
    Pattern.Dollar.expand group (read.flatMap Piece.dollars) =
      read.flatMap (Piece.text group) := by
  induction read with
  | nil => rw [List.flatMap_nil, Pattern.Dollar.expand, List.flatMap_nil]
  | cons piece rest ih =>
      have hrest := ih fun name hname => h name (List.mem_cons_of_mem piece hname)
      rw [List.flatMap_cons, List.flatMap_cons]
      cases piece with
      | char c =>
          rw [Piece.dollars]
          split
          · rename_i hc
            subst hc
            exact (Pattern.Dollar.expand_dollars _).trans (congrArg _ hrest)
          · rename_i hc
            exact (Pattern.Dollar.expand_cons hc _).trans (congrArg _ hrest)
      | group name =>
          have hread : Pattern.Dollar.reference?
              ('\x7b' :: (name ++ '\x7d' :: rest.flatMap Piece.dollars)) =
                some (.ofText name, rest.flatMap Piece.dollars) := by
            rw [Pattern.Dollar.reference?, if_pos rfl,
              Pattern.Dollar.braced?_append (h name List.mem_cons_self)]
            rfl
          rw [Piece.dollars, groupReference, List.append_assoc]
          exact (Pattern.Dollar.expand_reference hread).trans (congrArg _ hrest)

/--
The form with dollars stands for what the template stands for, whatever the groups matched, just if
no group that the template refers to has a closing brace in its name.
-/
theorem expand_toDollars_iff {template : List Char} :
    (∀ group, Pattern.Dollar.expand group (toDollars template) = meaning group template) ↔
      ∀ name, .group name ∈ pieces template → '\x7d' ∉ name := by
  rw [toDollars_eq]
  constructor
  · intro h other hother hbrace
    -- no reference is expanded to this long text, which the other group is to stand for
    let long := List.replicate ((pieces template).flatMap Piece.dollars).length.succ 'x'
    let group (reference : Reference) := if reference = .ofText other then long else []
    have hshort := @Pattern.Dollar.length_expand_le group
      (fun name hname => if_neg (Reference.ofText_ne hname hbrace))
      ((pieces template).flatMap Piece.dollars)
    have hlong : long.length ≤ (meaning group template).length := by
      refine (List.sublist_flatten_of_mem (List.mem_map.mpr ⟨_, hother, ?_⟩)).length_le
      exact if_pos rfl
    rw [h group] at hshort
    rw [List.length_replicate] at hlong
    omega
  · exact fun h group => expand_flatMap_dollars h group

example : pieces ['\\', '1', '2', '3', '\\', '$', '\\', 'g', '<', 'n'] =
    [.group ['1', '2'], .char '3', .char '\\', .char '$', .group ['n']] := by
  cbv

end Fix.Template

end Remedy
