import Remedy.Proofs.Text.Breaking

/-!
# Places in a text

A place in a text is a line and a column of it.  Where a text ends is such a place, and the ends of
texts that are written one behind the other add up: their lines do, while a column counts only as
long as no new line begins behind it.  So places and numbers of characters can be told from each
other, and it can be seen what becomes of a place when the text in front of it is another one.
-/

namespace Remedy.Text

/-- A line and a column, both counted from zero. -/
structure Place where
  line : Nat
  col : Nat
deriving DecidableEq

/-- The place that lies as far behind a first one as a second one lies behind the start. -/
instance : Add Place where
  add a b := ⟨a.line + b.line, if b.line = 0 then a.col + b.col else b.col⟩

theorem add_def (a b : Place) :
    a + b = ⟨a.line + b.line, if b.line = 0 then a.col + b.col else b.col⟩ := rfl

/-- The line of a text at an index; there are empty ones behind the last. -/
def lineOf (text : List Char) (index : Nat) : List Char :=
  (split text)[index]?.getD []

/-- The last line of a text. -/
def lastLine (text : List Char) : List Char :=
  (split text).getLast?.getD []

/-- The place at which a text ends. -/
def endOf (text : List Char) : Place :=
  ⟨(split text).length - 1, (lastLine text).length⟩

/-- The place behind so many characters of a text. -/
def placeOf (text : List Char) (index : Nat) : Place :=
  endOf (text.take index)

/-- How many characters stand in front of a place; behind the end of its line it counts as that. -/
def indexOf (text : List Char) (place : Place) : Nat :=
  (((split text).take place.line).map (·.length + 1)).sum +
    min place.col (lineOf text place.line).length

/-- Holds if a text has the line of a place, and the line its column. -/
structure Place.LiesIn (place : Place) (text : List Char) : Prop where
  line_lt : place.line < (split text).length
  col_le : place.col ≤ (lineOf text place.line).length

instance (place : Place) (text : List Char) : Decidable (place.LiesIn text) :=
  decidable_of_iff (place.line < (split text).length ∧
      place.col ≤ (lineOf text place.line).length)
    ⟨fun ⟨hline, hcol⟩ => ⟨hline, hcol⟩, fun ⟨hline, hcol⟩ => ⟨hline, hcol⟩⟩

/-!
## Texts behind one another
-/

theorem lineOf_zero {text first : List Char} {rest : List (List Char)}
    (hsplit : split text = first :: rest) : lineOf text 0 = first := by
  rw [lineOf, hsplit, List.getElem?_cons_zero, Option.getD_some]

/-- The last line of a text goes on with the first line of what is written behind it. -/
theorem split_append (front behind : List Char) :
    split (front ++ behind) =
      (split front).dropLast ++ (lastLine front ++ lineOf behind 0) :: (split behind).tail := by
  induction front with
  | nil =>
      obtain ⟨first, rest, hsplit⟩ := List.exists_cons_of_ne_nil (split_ne_nil behind)
      rw [List.nil_append, lineOf_zero hsplit, hsplit]
      rfl
  | cons c rest ih =>
      obtain ⟨first, more, hsplit⟩ := List.exists_cons_of_ne_nil (split_ne_nil rest)
      rw [List.cons_append, split_cons, split_cons, ih, lastLine, lastLine, split_cons, hsplit]
      by_cases hc : c = '\n'
      · simp [hc]
      · cases more <;> simp [hc, consFirst]

theorem length_split_eq (text : List Char) : (split text).length = (endOf text).line + 1 := by
  have hpos := List.length_pos_iff.mpr (split_ne_nil text)
  unfold endOf
  dsimp only
  omega

/-- A text without newlines ends on its first line. -/
theorem endOf_of_not_mem {text : List Char} (hfree : '\n' ∉ text) : endOf text = ⟨0, text.length⟩ := by
  rw [endOf, lastLine, split, splitAt_of_not_mem hfree]
  rfl

/-- A text has room for the newlines in front of its last line, and for that. -/
theorem line_add_col_endOf_le (text : List Char) :
    (endOf text).line + (endOf text).col ≤ text.length := by
  have hsum := @sum_length_splitAt _ _ '\n' text
  have hlength := length_split_eq text
  have hsplit := List.dropLast_concat_getLast (split_ne_nil text)
  have hlast : (split text).getLast (split_ne_nil text) = lastLine text := by
    rw [lastLine, List.getLast?_eq_some_getLast (split_ne_nil text), Option.getD_some]
  change ((split text).map List.length).sum + (split text).length = text.length + 1 at hsum
  have hcol : (lastLine text).length ≤ ((split text).map List.length).sum := by
    rw [← hsplit, hlast, List.map_append, List.sum_append]
    simp
  change (endOf text).line + (lastLine text).length ≤ text.length
  omega

/-- A text that ends on its first line is that line. -/
theorem lastLine_of_line_eq_zero {text : List Char} (h : (endOf text).line = 0) :
    lastLine text = text ∧ lineOf text 0 = text := by
  have hlength := length_split_eq text
  rw [h] at hlength
  obtain ⟨only, hsplit⟩ := List.length_eq_one_iff.mp hlength
  have htext : only = text := by
    rw [← join_split text, hsplit]
    simp [join, List.intercalate]
  rw [lastLine, lineOf_zero hsplit, hsplit, htext]
  exact ⟨rfl, rfl⟩

/-- What is written behind a text ends it, unless it goes on on the last line. -/
theorem lastLine_append (front behind : List Char) :
    lastLine (front ++ behind) =
      if (endOf behind).line = 0 then lastLine front ++ behind else lastLine behind := by
  have hlength := length_split_eq behind
  obtain ⟨first, rest, hsplit⟩ := List.exists_cons_of_ne_nil (split_ne_nil behind)
  rw [hsplit, List.length_cons] at hlength
  rw [lastLine, split_append]
  split
  · rename_i hline
    obtain rfl : rest = [] := List.eq_nil_of_length_eq_zero (by omega)
    rw [hsplit, (lastLine_of_line_eq_zero hline).2]
    simp
  · rename_i hline
    obtain ⟨next, more, rfl⟩ := List.exists_cons_of_ne_nil
      (List.ne_nil_of_length_pos (l := rest) (by omega))
    unfold lastLine
    rw [hsplit]
    simp [List.getLast?_cons]

/-- The ends of texts add up. -/
theorem endOf_append (front behind : List Char) :
    endOf (front ++ behind) = endOf front + endOf behind := by
  have hfront := length_split_eq front
  have hbehind := length_split_eq behind
  have hlines : (split (front ++ behind)).length - 1 = (endOf front).line + (endOf behind).line := by
    rw [split_append, List.length_append, List.length_cons, List.length_dropLast,
      List.length_tail]
    omega
  rw [endOf, hlines, lastLine_append, add_def, Place.mk.injEq]
  refine ⟨rfl, ?_⟩
  split
  · rename_i hline
    rw [List.length_append, endOf, endOf, (lastLine_of_line_eq_zero hline).1]
  · rfl

/-- The lines of a text behind another. -/
theorem lineOf_append (front behind : List Char) (index : Nat) :
    lineOf (front ++ behind) ((endOf front).line + index) =
      if index = 0 then lastLine front ++ lineOf behind 0 else lineOf behind index := by
  have hlength := length_split_eq front
  have hindex : (endOf front).line = (split front).dropLast.length := by
    rw [List.length_dropLast]
    omega
  rw [lineOf, split_append, hindex, List.getElem?_append_right (Nat.le_add_right _ _),
    Nat.add_sub_cancel_left]
  split
  · rename_i hzero
    rw [hzero, List.getElem?_cons_zero, Option.getD_some]
  · rename_i hpos
    obtain ⟨more, rfl⟩ := Nat.exists_eq_succ_of_ne_zero hpos
    rw [List.getElem?_cons_succ, List.getElem?_tail]
    rfl

theorem getElem_split {text : List Char} {index : Nat} (h : index < (split text).length) :
    (split text)[index] = lineOf text index := by
  rw [lineOf, List.getElem?_eq_getElem h, Option.getD_some]

theorem lineOf_mem_split {text : List Char} {index : Nat} (h : index < (split text).length) :
    lineOf text index ∈ split text := by
  rw [← getElem_split h]
  exact List.getElem_mem h

theorem newline_not_mem_lineOf (text : List Char) (index : Nat) : '\n' ∉ lineOf text index := by
  unfold lineOf
  cases hline : (split text)[index]? with
  | none => exact List.not_mem_nil
  | some line => exact not_mem_of_mem_split (List.mem_of_getElem? hline)

theorem newline_not_mem_lastLine (text : List Char) : '\n' ∉ lastLine text := by
  unfold lastLine
  cases hline : (split text).getLast? with
  | none => exact List.not_mem_nil
  | some line => exact not_mem_of_mem_split (List.mem_of_getLast? hline)

/-- Only a text without newlines ends on its first line. -/
theorem line_endOf_eq_zero_iff {text : List Char} : (endOf text).line = 0 ↔ '\n' ∉ text := by
  constructor
  · intro hline
    rw [← (lastLine_of_line_eq_zero hline).1]
    exact newline_not_mem_lastLine text
  · intro hfree
    rw [endOf_of_not_mem hfree]

/-- What stands in a line stands in the text. -/
theorem mem_of_mem_split {text line : List Char} (hline : line ∈ split text) {c : Char}
    (hc : c ∈ line) : c ∈ text := by
  obtain ⟨front, behind, hsplit⟩ := List.append_of_mem hline
  rw [← join_split text, hsplit, join_append_cons]
  exact List.mem_append_left _ (List.mem_append_right _ hc)

/-- The last line of two texts is made of the last line of the first and of the second. -/
theorem mem_lastLine_append {front behind : List Char} {c : Char}
    (h : c ∈ lastLine (front ++ behind)) : c ∈ lastLine front ∨ c ∈ behind := by
  rw [lastLine_append] at h
  split at h
  · exact List.mem_append.mp h
  · right
    unfold lastLine at h
    cases hline : (split behind).getLast? with
    | none =>
        rw [hline] at h
        cases h
    | some line =>
        rw [hline] at h
        exact mem_of_mem_split (List.mem_of_getLast? hline) h

/-!
## Places and numbers of characters
-/

/-- The lines around the one at an index. -/
theorem split_around {text : List Char} {index : Nat} (h : index < (split text).length) :
    split text =
      (split text).take index ++ lineOf text index :: (split text).drop (index + 1) := by
  rw [← getElem_split h, ← List.drop_eq_getElem_cons h, List.take_append_drop]

/-- A text is what stands in front of a line, the line and what stands behind it. -/
theorem eq_around {text : List Char} {index : Nat} (h : index < (split text).length) :
    text = ((split text).take index).flatMap (· ++ ['\n']) ++ lineOf text index ++
      ((split text).drop (index + 1)).flatMap ('\n' :: ·) := by
  have hjoin := join_append_cons ((split text).take index) (lineOf text index)
    ((split text).drop (index + 1))
  rw [← split_around h, join_split] at hjoin
  exact hjoin

theorem length_flatMap_newline (lines : List (List Char)) :
    (lines.flatMap (· ++ ['\n'])).length = (lines.map (·.length + 1)).sum := by
  rw [List.length_flatMap]
  simp only [List.length_append, List.length_cons, List.length_nil]

/-- What stands in front of a place. -/
theorem take_indexOf {text : List Char} {place : Place}
    (hline : place.line < (split text).length) :
    text.take (indexOf text place) =
      ((split text).take place.line).flatMap (· ++ ['\n']) ++
        (lineOf text place.line).take place.col := by
  have htake := congrArg (List.take (indexOf text place)) (eq_around hline)
  rw [indexOf, ← length_flatMap_newline, List.append_assoc,
    List.take_length_add_append, List.take_append_of_le_length (Nat.min_le_right _ _),
    ← List.take_take, List.take_length] at htake
  rw [indexOf, ← length_flatMap_newline]
  exact htake

/-- What stands behind a place. -/
theorem drop_indexOf {text : List Char} {place : Place}
    (hline : place.line < (split text).length) :
    text.drop (indexOf text place) =
      (lineOf text place.line).drop place.col ++
        ((split text).drop (place.line + 1)).flatMap ('\n' :: ·) := by
  have hdrop := congrArg (List.drop (indexOf text place)) (eq_around hline)
  have hline : (lineOf text place.line).drop (min place.col (lineOf text place.line).length) =
      (lineOf text place.line).drop place.col := by
    rcases Nat.le_total place.col (lineOf text place.line).length with hle | hle
    · rw [Nat.min_eq_left hle]
    · rw [Nat.min_eq_right hle, List.drop_length, List.drop_eq_nil_of_le hle]
  rw [indexOf, ← length_flatMap_newline, List.append_assoc, List.drop_length_add_append,
    List.drop_append_of_le_length (Nat.min_le_right _ _), hline] at hdrop
  rw [indexOf, ← length_flatMap_newline]
  exact hdrop

theorem indexOf_le_length {text : List Char} {place : Place}
    (hline : place.line < (split text).length) : indexOf text place ≤ text.length := by
  have hlength := congrArg List.length (eq_around hline)
  rw [List.length_append, List.length_append, length_flatMap_newline] at hlength
  have hcol := Nat.min_le_right place.col (lineOf text place.line).length
  unfold indexOf
  omega

/-- Lines that end in newlines, and another one behind them, end in that. -/
theorem endOf_flatMap_append {lines : List (List Char)} {last : List Char}
    (hlines : ∀ line ∈ lines, '\n' ∉ line) (hlast : '\n' ∉ last) :
    endOf (lines.flatMap (· ++ ['\n']) ++ last) = ⟨lines.length, last.length⟩ := by
  have hjoin := join_append_cons lines last []
  rw [List.flatMap_nil, List.append_nil] at hjoin
  have hsplit : split (join (lines ++ [last])) = lines ++ [last] :=
    split_join (by simp) (List.forall_mem_append.mpr ⟨hlines, List.forall_mem_singleton.mpr hlast⟩)
  rw [endOf, lastLine, ← hjoin, hsplit]
  simp

/-- A place of a text is found again from the number of characters in front of it. -/
theorem placeOf_indexOf {text : List Char} {place : Place} (h : place.LiesIn text) :
    placeOf text (indexOf text place) = place := by
  have hline := h.line_lt
  have hcol := h.col_le
  rw [placeOf, take_indexOf hline, endOf_flatMap_append
      (fun line hmem => not_mem_of_mem_split (List.mem_of_mem_take hmem))
      (fun hmem => newline_not_mem_lineOf text place.line (List.mem_of_mem_take hmem)),
    List.length_take, List.length_take, Nat.min_eq_left (by omega), Nat.min_eq_left hcol]

theorem length_split_append (front behind : List Char) :
    (split (front ++ behind)).length = (endOf front).line + (split behind).length := by
  rw [length_split_eq, length_split_eq behind, endOf_append, add_def]
  rfl

/-- The lines behind a number of characters. -/
theorem lineOf_placeOf_add (text : List Char) (front index : Nat) :
    lineOf text ((placeOf text front).line + index) =
      if index = 0 then lastLine (text.take front) ++ lineOf (text.drop front) 0
      else lineOf (text.drop front) index := by
  have hline := lineOf_append (text.take front) (text.drop front) index
  rw [List.take_append_drop] at hline
  exact hline

theorem length_split_eq_placeOf_add (text : List Char) (front : Nat) :
    (split text).length = (placeOf text front).line + (split (text.drop front)).length := by
  have hlength := length_split_append (text.take front) (text.drop front)
  rw [List.take_append_drop] at hlength
  exact hlength

/-- A place further behind has no fewer characters in front of it. -/
theorem indexOf_le_indexOf {text : List Char} {a b : Place} (hline : a.line < (split text).length)
    (h : a.line < b.line ∨ (a.line = b.line ∧ a.col ≤ b.col)) :
    indexOf text a ≤ indexOf text b := by
  unfold indexOf
  rcases h with hlt | ⟨heq, hcol⟩
  · obtain ⟨more, hmore⟩ := Nat.exists_eq_add_of_lt hlt
    have htake : (split text).take b.line = (split text).take a.line ++ [lineOf text a.line] ++
        ((split text).drop (a.line + 1)).take more := by
      rw [← getElem_split hline, ← List.take_succ_eq_append_getElem hline, ← List.take_add,
        hmore]
      congr 1
      omega
    rw [htake, List.map_append, List.map_append, List.sum_append, List.sum_append,
      List.map_singleton, List.sum_singleton]
    omega
  · rw [heq]
    omega

/-- Two columns of a line are told apart by what stands behind them only within the line. -/
theorem indexOf_eq_indexOf_iff {text : List Char} {line col other : Nat} :
    indexOf text ⟨line, col⟩ = indexOf text ⟨line, other⟩ ↔
      min col (lineOf text line).length = min other (lineOf text line).length := by
  unfold indexOf
  dsimp only
  omega

/-- Characters behind others end where those of the rest do, seen from the end of the first. -/
theorem placeOf_add (text : List Char) (front more : Nat) :
    placeOf text (front + more) = placeOf text front + placeOf (text.drop front) more := by
  unfold placeOf
  rw [List.take_add, endOf_append]

/-- Where so many characters end is a place of the text. -/
theorem liesIn_placeOf (text : List Char) (index : Nat) : (placeOf text index).LiesIn text := by
  have hlines := length_split_eq_placeOf_add text index
  have hline := lineOf_placeOf_add text index 0
  have hpos := List.length_pos_iff.mpr (split_ne_nil (text.drop index))
  rw [Nat.add_zero, if_pos rfl] at hline
  refine ⟨by omega, ?_⟩
  rw [hline, List.length_append]
  exact Nat.le_add_right _ _

/-- What stands in front of the place at which a text ends is the text. -/
theorem take_indexOf_endOf (front behind : List Char) :
    (front ++ behind).take (indexOf (front ++ behind) (endOf front)) = front := by
  have hlines := length_split_append front behind
  have hbehind := List.length_pos_iff.mpr (split_ne_nil behind)
  have hline := lineOf_append front behind 0
  rw [Nat.add_zero, if_pos rfl] at hline
  have hlength := length_split_eq front
  have hindex : (endOf front).line = (split front).dropLast.length := by
    rw [List.length_dropLast]
    omega
  have hlast : (split front).dropLast ++ [lastLine front] = split front := by
    rw [lastLine, List.getLast?_eq_some_getLast (split_ne_nil front), Option.getD_some,
      List.dropLast_concat_getLast (split_ne_nil front)]
  have hjoin := join_append_cons (split front).dropLast (lastLine front) []
  rw [hlast, join_split, List.flatMap_nil, List.append_nil] at hjoin
  rw [take_indexOf (by omega), hline, hindex, split_append, List.take_left]
  have hcol : (lastLine front ++ lineOf behind 0).take (endOf front).col = lastLine front :=
    List.take_left
  rw [hcol]
  exact hjoin.symm

/-- Characters are counted again from the place at which they end. -/
theorem indexOf_placeOf {text : List Char} {index : Nat} (h : index ≤ text.length) :
    indexOf text (placeOf text index) = index := by
  have hle := indexOf_le_length (liesIn_placeOf text index).line_lt
  have htake := congrArg List.length (take_indexOf_endOf (text.take index) (text.drop index))
  rw [List.take_append_drop, List.length_take, List.length_take] at htake
  unfold placeOf at hle ⊢
  omega

end Remedy.Text
