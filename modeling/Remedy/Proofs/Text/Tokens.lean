import Remedy.Proofs.Text.Breaking
import Remedy.Proofs.Text.Slicing

/-!
# Lines with the breaks that end them

A block is broken into lines in turns.  Each turn looks for the first break, slices off the line in
front of it and goes on behind it.  Nothing is lost: the lines, each with the break that ends it,
are the block, and there is only one way to tell lines and breaks apart.
-/

namespace Remedy.Text

open String (utf8Len)

/-- A line and the break that ends it; the last line of a block may have none. -/
structure Token where
  line : List Char
  ending : List Char
deriving DecidableEq

namespace Token

/-- The characters of a line with its break. -/
def text (token : Token) : List Char :=
  token.line ++ token.ending

end Token

/-- A break: one character that ends lines, or a carriage return with the newline behind it. -/
inductive IsEnding : List Char → Prop where
  | single {c : Char} (hbreak : isBreak c = true) : IsEnding [c]
  | pair : IsEnding ['\r', '\n']

/-- Holds for a break that is not a carriage return torn off from the newline behind it. -/
structure Ends (ending rest : List Char) : Prop where
  isEnding : IsEnding ending
  whole : ending = ['\r'] → rest.head? ≠ some '\n'

/-- Holds if the last character of a block is a break. -/
def EndsInBreak (block : List Char) : Prop :=
  ∃ c, block.getLast? = some c ∧ isBreak c = true

/--
A block taken apart into lines with their breaks.  No line contains a break, all but the last one
are ended by one, and so is the last one if the block ends in a break.
-/
structure Tokenises (block : List Char) (tokens : List Token) : Prop where
  text : tokens.flatMap Token.text = block
  unbroken : ∀ token ∈ tokens, ∀ c ∈ token.line, isBreak c = false
  ended : ∀ token ∈ tokens.dropLast, IsEnding token.ending
  last : ∀ token ∈ tokens.getLast?,
    (IsEnding token.ending ∨ token.ending = []) ∧ (token.ending = [] ↔ ¬EndsInBreak block)
  whole : ∀ front token behind, tokens = front ++ token :: behind → token.ending = ['\r'] →
    (behind.flatMap Token.text).head? ≠ some '\n'
  filled : tokens = [] ↔ block = []

/-- Puts a character in front of the first line, and opens a line where there is none. -/
def consToken (c : Char) : List Token → List Token
  | [] => [⟨[c], []⟩]
  | token :: tokens => { token with line := c :: token.line } :: tokens

/-- The lines of a block with the breaks that end them. -/
def tokens : List Char → List Token
  | [] => []
  | '\r' :: '\n' :: rest => ⟨[], ['\r', '\n']⟩ :: tokens rest
  | c :: rest => if isBreak c then ⟨[], [c]⟩ :: tokens rest else consToken c (tokens rest)

/-!
## The loop over bytes
-/

/-- The first break of a text, with the byte at which it begins. -/
def firstBreak? : List Char → Option (Nat × Char)
  | [] => none
  | c :: rest =>
      if isBreak c then some (0, c)
      else (firstBreak? rest).map fun found => (found.1 + c.utf8Size, found.2)

/-- One turn: the first line of a text, and what is left.  There is none if a slice is out of bounds. -/
def turn? (text : List Char) : Option (List Char × List Char) :=
  match firstBreak? text with
  | none => some (text, [])
  | some (index, c) => do
      let (line, found) ← cutAt? index text
      let size := if ['\r', '\n'].isPrefixOf found then 2 else c.utf8Size
      let (_, rest) ← cutAt? (index + size) text
      return (line, rest)

theorem firstBreak?_eq_none {text : List Char} (hfree : ∀ c ∈ text, isBreak c = false) :
    firstBreak? text = none := by
  induction text with
  | nil => rfl
  | cons c rest ih =>
      obtain ⟨hc, hrest⟩ := List.forall_mem_cons.mp hfree
      rw [firstBreak?, hc, ih hrest]
      rfl

/-- The first break is found behind a line without any. -/
theorem firstBreak?_append {line : List Char} (hfree : ∀ c ∈ line, isBreak c = false) {c : Char}
    (hbreak : isBreak c = true) (rest : List Char) :
    firstBreak? (line ++ c :: rest) = some (utf8Len line, c) := by
  induction line with
  | nil => rw [List.nil_append, firstBreak?, if_pos hbreak]; rfl
  | cons d more ih =>
      obtain ⟨hd, hmore⟩ := List.forall_mem_cons.mp hfree
      rw [List.cons_append, firstBreak?, hd, ih hmore]
      rfl

/-- A text has no break, or it is a line, the break that ends it and a rest. -/
theorem exists_first_break (text : List Char) :
    (∀ c ∈ text, isBreak c = false) ∨
      ∃ line ending rest, text = line ++ ending ++ rest ∧
        (∀ c ∈ line, isBreak c = false) ∧ Ends ending rest := by
  induction text with
  | nil => exact .inl (List.forall_mem_nil _)
  | cons c rest ih =>
      cases hbreak : isBreak c with
      | true =>
          right
          -- only here can a pair be met: a newline behind a carriage return belongs to it
          by_cases hpair : c = '\r' ∧ rest.head? = some '\n'
          · obtain ⟨rfl, hhead⟩ := hpair
            obtain ⟨more, rfl⟩ := List.head?_eq_some_iff.mp hhead
            exact ⟨[], ['\r', '\n'], more, rfl, List.forall_mem_nil _, .pair, fun h => nomatch h⟩
          · refine ⟨[], [c], rest, rfl, List.forall_mem_nil _, .single hbreak, fun h hhead => ?_⟩
            exact hpair ⟨List.singleton_inj.mp h, hhead⟩
      | false =>
          rcases ih with hfree | ⟨line, ending, more, rfl, hfree, hends⟩
          · exact .inl (List.forall_mem_cons.mpr ⟨hbreak, hfree⟩)
          · exact .inr ⟨c :: line, ending, more, rfl,
              List.forall_mem_cons.mpr ⟨hbreak, hfree⟩, hends⟩

/-- A break takes as many bytes as the loop goes on by. -/
theorem Ends.exists_size {ending rest : List Char} (h : Ends ending rest) :
    ∃ c more, ending = c :: more ∧ isBreak c = true ∧
      (if ['\r', '\n'].isPrefixOf (ending ++ rest) then 2 else c.utf8Size) = utf8Len ending := by
  obtain ⟨hending, hwhole⟩ := h
  cases hending with
  | pair => exact ⟨'\r', ['\n'], rfl, rfl, rfl⟩
  | @single c hbreak =>
      refine ⟨c, [], rfl, hbreak, ?_⟩
      have hsingle : ¬['\r', '\n'] <+: [c] ++ rest := by
        rintro ⟨more, hmore⟩
        obtain ⟨rfl, hrest⟩ := List.cons.inj hmore
        obtain rfl : '\n' :: more = rest := hrest
        exact hwhole rfl rfl
      rw [if_neg (by rwa [List.isPrefixOf_iff_prefix]), String.utf8Len_cons, String.utf8Len_nil,
        Nat.zero_add]

/-- A turn on a text without breaks takes all of it. -/
theorem turn?_of_free {text : List Char} (hfree : ∀ c ∈ text, isBreak c = false) :
    turn? text = some (text, []) := by
  rw [turn?, firstBreak?_eq_none hfree]

/-- A turn takes off the first line with its break; all its slices are in bounds. -/
theorem turn?_append {line ending rest : List Char} (hfree : ∀ c ∈ line, isBreak c = false)
    (hends : Ends ending rest) : turn? (line ++ ending ++ rest) = some (line, rest) := by
  obtain ⟨c, more, hending, hbreak, hsize⟩ := hends.exists_size
  have hfirst : firstBreak? (line ++ ending ++ rest) = some (utf8Len line, c) := by
    rw [hending, List.append_assoc]
    exact firstBreak?_append hfree hbreak (more ++ rest)
  have hline : cutAt? (utf8Len line) (line ++ ending ++ rest) = some (line, ending ++ rest) := by
    rw [List.append_assoc]
    exact cutAt?_append line (ending ++ rest)
  have hrest : cutAt? (utf8Len line + utf8Len ending) (line ++ ending ++ rest) =
      some (line ++ ending, rest) := by
    rw [← String.utf8Len_append]
    exact cutAt?_append (line ++ ending) rest
  simp only [turn?, hfirst, hline, Option.bind_eq_bind, Option.bind_some, hsize, hrest,
    Option.pure_def]

/-- What is left after a turn is shorter. -/
theorem utf8Len_lt_of_turn? {text line rest : List Char} (hne : text ≠ [])
    (hturn : turn? text = some (line, rest)) : utf8Len rest < utf8Len text := by
  rcases exists_first_break text with hfree | ⟨first, ending, more, rfl, hfree, hends⟩
  · rw [turn?_of_free hfree] at hturn
    cases hturn
    exact Nat.pos_of_ne_zero (mt String.utf8Len_eq_zero.mp hne)
  · rw [turn?_append hfree hends] at hturn
    cases hturn
    obtain ⟨c, others, rfl, -⟩ := hends.exists_size
    have hsize := c.utf8Size_pos
    rw [String.utf8Len_append, String.utf8Len_append, String.utf8Len_cons]
    omega

/-- The lines that the loop takes off a text turn by turn, until nothing is left. -/
def loop? (text : List Char) : Option (List (List Char)) :=
  if _ : text = [] then some []
  else
    match _ : turn? text with
    | none => none
    | some (line, rest) => (loop? rest).map (line :: ·)
termination_by utf8Len text
decreasing_by exact utf8Len_lt_of_turn? ‹_› ‹_›

/-- What holds of texts without breaks, and behind a line if of the rest, holds of all texts. -/
@[elab_as_elim]
theorem induction_on_breaks {P : List Char → Prop} (nil : P [])
    (free : ∀ line, line ≠ [] → (∀ c ∈ line, isBreak c = false) → P line)
    (append : ∀ line ending rest, (∀ c ∈ line, isBreak c = false) → Ends ending rest → P rest →
      P (line ++ ending ++ rest)) (block : List Char) : P block := by
  induction hlength : block.length using Nat.strong_induction_on generalizing block with
  | h length ih =>
      rcases exists_first_break block with hfree | ⟨line, ending, rest, rfl, hfree, hends⟩
      · by_cases hne : block = []
        · rw [hne]
          exact nil
        · exact free block hne hfree
      · obtain ⟨c, more, hending, -⟩ := hends.exists_size
        refine append line ending rest hfree hends (ih rest.length ?_ rest rfl)
        rw [← hlength, hending]
        simp only [List.length_append, List.length_cons]
        omega

theorem line_consToken (c : Char) (tokens : List Token) :
    (consToken c tokens).map Token.line = consFirst c (tokens.map Token.line) := by
  cases tokens <;> rfl

/-- The lines of the tokens are those into which the block is broken. -/
theorem map_line_tokens (block : List Char) : (tokens block).map Token.line = breakLines block := by
  fun_induction tokens block with
  | case1 => rfl
  | case2 rest ih => rw [List.map_cons, ih, breakLines]
  | case3 c rest hpair hbreak ih => rw [List.map_cons, ih, breakLines, if_pos hbreak]; exact hpair
  | case4 c rest hpair hbreak ih =>
      rw [line_consToken, ih, breakLines, if_neg hbreak]
      exact hpair

/-- A character that is no break belongs to the first line. -/
theorem tokens_cons {c : Char} (hc : isBreak c = false) (rest : List Char) :
    tokens (c :: rest) = consToken c (tokens rest) := by
  rw [tokens, hc]
  · rfl
  · rintro more rfl
    cases hc

/-- A text without breaks is one line. -/
theorem tokens_of_free {line : List Char} (hne : line ≠ [])
    (hfree : ∀ c ∈ line, isBreak c = false) : tokens line = [⟨line, []⟩] := by
  induction line with
  | nil => exact absurd rfl hne
  | cons c rest ih =>
      obtain ⟨hc, hrest⟩ := List.forall_mem_cons.mp hfree
      rw [tokens_cons hc]
      by_cases hend : rest = []
      · rw [hend]
        rfl
      · rw [ih hend hrest]
        rfl

/-- The first break ends the first line. -/
theorem tokens_append {line ending rest : List Char} (hfree : ∀ c ∈ line, isBreak c = false)
    (hends : Ends ending rest) :
    tokens (line ++ ending ++ rest) = ⟨line, ending⟩ :: tokens rest := by
  induction line with
  | nil =>
      obtain ⟨hending, hwhole⟩ := hends
      cases hending with
      | pair => rfl
      | @single c hbreak =>
          change tokens (c :: rest) = _
          rw [tokens, if_pos hbreak]
          rintro more rfl rfl
          exact hwhole rfl rfl
  | cons c more ih =>
      obtain ⟨hc, hmore⟩ := List.forall_mem_cons.mp hfree
      rw [List.cons_append, List.cons_append, tokens_cons hc, ih hmore]
      rfl

/-- Behind a break the lines of the rest begin. -/
theorem breakLines_append {line ending rest : List Char} (hfree : ∀ c ∈ line, isBreak c = false)
    (hends : Ends ending rest) : breakLines (line ++ ending ++ rest) = line :: breakLines rest := by
  rw [← map_line_tokens, tokens_append hfree hends, List.map_cons, map_line_tokens]

theorem loop?_nil : loop? [] = some [] := by
  rw [loop?, dif_pos rfl]

/-- The loop takes off what its first turn does, and goes on with what is left. -/
theorem loop?_of_turn? {text line rest : List Char} (hne : text ≠ [])
    (hturn : turn? text = some (line, rest)) : loop? text = (loop? rest).map (line :: ·) := by
  rw [loop?, dif_neg hne]
  split
  · rename_i hnone
    rw [hturn] at hnone
    cases hnone
  · rename_i first more hfirst
    rw [hturn] at hfirst
    cases hfirst
    rfl

/-- The loop ends on every text, and takes off its lines. -/
theorem loop?_eq (text : List Char) : loop? text = some (breakLines text) := by
  induction text using induction_on_breaks with
  | nil => exact loop?_nil
  | free line hne hfree =>
      rw [loop?_of_turn? hne (turn?_of_free hfree), loop?_nil, breakLines_of_free hne hfree]
      rfl
  | append line ending rest hfree hends ih =>
      obtain ⟨c, more, hending, -⟩ := hends.exists_size
      have hne : line ++ ending ++ rest ≠ [] := by simp [hending]
      rw [loop?_of_turn? hne (turn?_append hfree hends), ih, breakLines_append hfree hends]
      rfl

/-!
## One way to take a block apart
-/

theorem endsInBreak_append {front rest : List Char} (hne : rest ≠ []) :
    EndsInBreak (front ++ rest) ↔ EndsInBreak rest := by
  unfold EndsInBreak
  rw [List.getLast?_append_of_ne_nil front hne]

theorem IsEnding.ne_nil {ending : List Char} (h : IsEnding ending) : ending ≠ [] := by
  cases h <;> exact List.cons_ne_nil _ _

theorem IsEnding.endsInBreak {ending : List Char} (h : IsEnding ending) (front : List Char) :
    EndsInBreak (front ++ ending) := by
  rw [endsInBreak_append h.ne_nil]
  cases h with
  | @single c hbreak => exact ⟨c, rfl, hbreak⟩
  | pair => exact ⟨'\n', rfl, rfl⟩

theorem not_endsInBreak_of_free {line : List Char} (hfree : ∀ c ∈ line, isBreak c = false) :
    ¬EndsInBreak line := by
  rintro ⟨c, hlast, hbreak⟩
  rw [hfree c (List.mem_of_getLast? hlast)] at hbreak
  cases hbreak

namespace Tokenises

theorem nil : Tokenises [] [] :=
  ⟨rfl, List.forall_mem_nil _, List.forall_mem_nil _, fun _ h => absurd h (Option.not_mem_none _),
    fun _ _ _ h => absurd h.symm (List.append_ne_nil_of_right_ne_nil _ (List.cons_ne_nil _ _)),
    iff_of_true rfl rfl⟩

/-- A text without breaks is one line, which nothing ends. -/
theorem free {line : List Char} (hne : line ≠ []) (hfree : ∀ c ∈ line, isBreak c = false) :
    Tokenises line [⟨line, []⟩] := by
  refine ⟨?_, ?_, List.forall_mem_nil _, ?_, ?_, ?_⟩
  · simp [Token.text]
  · exact List.forall_mem_singleton.mpr hfree
  · intro token htoken
    obtain rfl := Option.some.inj htoken
    exact ⟨.inr rfl, iff_of_true rfl (not_endsInBreak_of_free hfree)⟩
  · intro front token behind hsplit hending
    have htoken : token ∈ [Token.mk line []] := by rw [hsplit]; simp
    rw [List.mem_singleton.mp htoken] at hending
    cases hending
  · exact iff_of_false (List.cons_ne_nil _ _) hne

/-- A line with its break may be put in front of a text that was taken apart. -/
theorem cons {line ending rest : List Char} {tokens : List Token}
    (hfree : ∀ c ∈ line, isBreak c = false) (hends : Ends ending rest)
    (h : Tokenises rest tokens) : Tokenises (line ++ ending ++ rest) (⟨line, ending⟩ :: tokens) := by
  have hne := hends.isEnding.ne_nil
  refine ⟨?_, List.forall_mem_cons.mpr ⟨hfree, h.unbroken⟩, ?_, ?_, ?_, ?_⟩
  · rw [List.flatMap_cons, h.text]
    rfl
  · by_cases hlast : tokens = []
    · rw [hlast]
      exact List.forall_mem_nil _
    · rw [List.dropLast_cons_of_ne_nil hlast]
      exact List.forall_mem_cons.mpr ⟨hends.isEnding, h.ended⟩
  · intro token htoken
    by_cases hlast : tokens = []
    · obtain rfl := h.filled.mp hlast
      rw [hlast] at htoken
      obtain rfl := Option.some.inj htoken
      rw [List.append_nil]
      exact ⟨.inl hends.isEnding, iff_of_false hne (not_not_intro (hends.isEnding.endsInBreak line))⟩
    · rw [List.getLast?_cons_of_ne_nil hlast] at htoken
      rw [endsInBreak_append (mt h.filled.mpr hlast)]
      exact h.last token htoken
  · intro front token behind hsplit hending
    rcases List.cons_eq_append_iff.mp hsplit with ⟨-, hfirst⟩ | ⟨more, -, hlater⟩
    · obtain ⟨rfl, rfl⟩ := List.cons.inj hfirst
      rw [h.text]
      exact hends.whole hending
    · exact h.whole more token behind hlater hending
  · exact iff_of_false (List.cons_ne_nil _ _) (by simp [hne])

end Tokenises

/-- The lines of a block with their breaks are the block taken apart. -/
theorem tokenises_tokens (block : List Char) : Tokenises block (tokens block) := by
  induction block using induction_on_breaks with
  | nil => exact .nil
  | free line hne hfree =>
      rw [tokens_of_free hne hfree]
      exact .free hne hfree
  | append line ending rest hfree hends ih =>
      rw [tokens_append hfree hends]
      exact .cons hfree hends ih

namespace Tokenises

variable {block : List Char} {token : Token} {rest : List Token}

/-- The last line has no break, and then is not empty, or it has one. -/
theorem single (h : Tokenises block [token]) :
    token.line ≠ [] ∧ block = token.line ∧ token.ending = [] ∨
      block = token.line ++ token.ending ∧ Ends token.ending [] := by
  have htext : block = token.line ++ token.ending := by
    rw [← h.text, List.flatMap_singleton]
    rfl
  rcases (h.last token rfl).1 with hending | hnone
  · exact .inr ⟨htext, hending, fun _ h => nomatch h⟩
  · rw [hnone, List.append_nil] at htext
    refine .inl ⟨?_, htext, hnone⟩
    rw [← htext]
    exact mt h.filled.mpr (List.cons_ne_nil _ _)

/-- Behind a line that is not the last one stands a text that is taken apart as well. -/
theorem tail (h : Tokenises block (token :: rest)) (hne : rest ≠ []) :
    Ends token.ending (rest.flatMap Token.text) ∧ Tokenises (rest.flatMap Token.text) rest := by
  have htext : token.line ++ token.ending ++ rest.flatMap Token.text = block := h.text
  have hending : IsEnding token.ending := h.ended token (by
    rw [List.dropLast_cons_of_ne_nil hne]
    exact List.mem_cons_self)
  -- if nothing stood behind the break, the last line would have none although the block ends in one
  have hbehind : rest.flatMap Token.text ≠ [] := by
    intro hnil
    obtain ⟨front, last, rfl⟩ := (List.eq_nil_or_concat rest).resolve_left hne
    obtain ⟨-, hlast⟩ := h.last last (by simp [List.getLast?_cons])
    rw [List.concat_eq_append, List.flatMap_append, List.append_eq_nil_iff,
      List.flatMap_singleton] at hnil
    have hnone : last.ending = [] := (List.append_eq_nil_iff.mp hnil.2).2
    refine hlast.mp hnone ?_
    rw [← htext, List.concat_eq_append, List.flatMap_append, hnil.1, List.flatMap_singleton,
      hnil.2, List.append_nil, List.append_nil]
    exact hending.endsInBreak token.line
  refine ⟨⟨hending, h.whole [] token rest rfl⟩, rfl, ?_, ?_, ?_, ?_, iff_of_false hne hbehind⟩
  · exact fun other hother => h.unbroken other (List.mem_cons_of_mem _ hother)
  · intro other hother
    refine h.ended other ?_
    rw [List.dropLast_cons_of_ne_nil hne]
    exact List.mem_cons_of_mem _ hother
  · intro other hother
    have hlast := h.last other (by rwa [List.getLast?_cons_of_ne_nil hne])
    rwa [← htext, endsInBreak_append hbehind] at hlast
  · intro front other behind hsplit
    exact h.whole (token :: front) other behind (congrArg (token :: ·) hsplit)

/-- A block is taken apart in one way only. -/
theorem eq_tokens {others : List Token} (h : Tokenises block others) : others = tokens block := by
  induction others generalizing block with
  | nil =>
      rw [h.filled.mp rfl]
      rfl
  | cons token rest ih =>
      have hfree := h.unbroken token List.mem_cons_self
      by_cases hlast : rest = []
      · subst hlast
        rcases h.single with ⟨hne, rfl, hnone⟩ | ⟨rfl, hends⟩
        · rw [tokens_of_free hne hfree, ← hnone]
        · have happend := tokens_append hfree hends
          rw [List.append_nil] at happend
          rw [happend]
          rfl
      · obtain ⟨hends, htail⟩ := h.tail hlast
        rw [ih htail, ← tokens_append hfree hends]
        exact congrArg tokens h.text

end Tokenises

/-- What it means that a block is broken into lines and nothing is lost. -/
structure IsLossless (block : List Char) (lines : List (List Char)) : Prop where
  /-- There is one way to take the block apart, and the lines come of it. -/
  apart : ∃ tokens, Tokenises block tokens ∧ tokens.map Token.line = lines ∧
    ∀ others, Tokenises block others → others = tokens
  eq_nil_iff : lines = [] ↔ block = []
  /-- The loop ends with the lines, since every turn leaves less. -/
  loop : loop? block = some lines
  turn : ∀ text, text ≠ [] → ∃ line rest, turn? text = some (line, rest) ∧
    utf8Len rest < utf8Len text

/--
Breaking a block into lines loses nothing: the lines, each with the break that ends it, are the
block, and the loop that slices them off ends on every block and is never out of bounds.
-/
theorem isLossless_iff {block : List Char} {lines : List (List Char)} :
    IsLossless block lines ↔ lines = breakLines block := by
  constructor
  · intro h
    exact Option.some.inj (h.loop.symm.trans (loop?_eq block))
  · rintro rfl
    refine ⟨?_, breakLines_eq_nil_iff, loop?_eq block, ?_⟩
    · exact ⟨tokens block, tokenises_tokens block, map_line_tokens block,
        fun _ => Tokenises.eq_tokens⟩
    · intro text hne
      rcases exists_first_break text with hfree | ⟨line, ending, rest, rfl, hfree, hends⟩
      · have hturn := turn?_of_free hfree
        exact ⟨text, [], hturn, utf8Len_lt_of_turn? hne hturn⟩
      · have hturn := turn?_append hfree hends
        exact ⟨line, rest, hturn, utf8Len_lt_of_turn? hne hturn⟩

/-- A carriage return is a break of its own only if no newline follows. -/
example : tokens ['a', '\r', '\n', '\r', 'b', '\u2028'] =
    [⟨['a'], ['\r', '\n']⟩, ⟨[], ['\r']⟩, ⟨['b'], ['\u2028']⟩] := by
  decide +kernel

end Remedy.Text
