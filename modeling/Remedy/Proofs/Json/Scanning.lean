import Mathlib.Data.List.Basic
import Remedy.Json.Printer
import Remedy.Json.Source

/-!
# Reading strings and numbers back

A string that was written is read back character by character, and an integer digit by digit.  An
integer ends where its digits do, so what follows it must not be a part of a number.
-/

namespace Remedy.Json

namespace Source

/-!
## Strings
-/

theorem hexValue?_hexDigit : ∀ n < 16, hexValue? (hexDigit n) = some n := by
  decide

theorem units?_short {c letter : Char} (hletter : shortEscape? letter = some c)
    (text : List Char) :
    units? ('\\' :: letter :: text) =
      (units? text).map fun (units, rest) => (c.toNat :: units, rest) := by
  rw [units?]
  · rw [hletter]
    cases units? text <;> rfl
  · rintro _ _ _ _ _ rfl
    cases hletter

theorem units?_control {c : Char} (hcontrol : c.toNat < 0x20) (text : List Char) :
    units? ('\\' :: 'u' :: '0' :: '0' :: hexDigit (c.toNat / 16) :: hexDigit (c.toNat % 16) ::
        text) =
      (units? text).map fun (units, rest) => (c.toNat :: units, rest) := by
  have hzero : hexValue? '0' = some 0 := by decide
  have hunit : ((0 * 16 + 0) * 16 + c.toNat / 16) * 16 + c.toNat % 16 = c.toNat := by omega
  rw [units?, hzero, hexValue?_hexDigit (c.toNat / 16) (by omega),
    hexValue?_hexDigit (c.toNat % 16) (by omega)]
  simp only [Option.bind_eq_bind, Option.bind_some, hunit]
  cases units? text <;> rfl

theorem units?_plain {c : Char} (hcontrol : ¬c.toNat < 0x20) (hquote : c ≠ '"')
    (hslash : c ≠ '\\') (text : List Char) :
    units? (c :: text) = (units? text).map fun (units, rest) => (c.toNat :: units, rest) := by
  rw [units?]
  · rw [if_neg (not_or.mpr ⟨hcontrol, hslash⟩)]
    cases units? text <;> rfl
  · exact hquote
  · rintro _ _ _ _ _ rfl
    exact absurd rfl hslash
  · rintro _ _ rfl
    exact absurd rfl hslash

/-- A character is read as its code, however it had to be escaped. -/
theorem units?_escape (c : Char) (text : List Char) :
    units? (escape c ++ text) =
      (units? text).map fun (units, rest) => (c.toNat :: units, rest) := by
  unfold escape
  split_ifs with hquote hslash hb ht hn hf hr hcontrol
  · subst hquote
    exact units?_short rfl text
  · subst hslash
    exact units?_short rfl text
  · subst hb
    exact units?_short rfl text
  · subst ht
    exact units?_short rfl text
  · subst hn
    exact units?_short rfl text
  · subst hf
    exact units?_short rfl text
  · subst hr
    exact units?_short rfl text
  · exact units?_control hcontrol text
  · exact units?_plain hcontrol hquote hslash text

theorem units?_flatMap_escape (text rest : List Char) :
    units? (text.flatMap escape ++ '"' :: rest) = some (text.map Char.toNat, rest) := by
  induction text with
  | nil => rfl
  | cons c text ih =>
      rw [List.flatMap_cons, List.append_assoc, units?_escape, ih]
      rfl

/-- The code of a character is no half of a surrogate pair. -/
theorem isSurrogate_toNat (c : Char) :
    isHighSurrogate c.toNat = false ∧ isLowSurrogate c.toNat = false := by
  have hvalid : c.toNat < 0xD800 ∨ 0xDFFF < c.toNat ∧ c.toNat < 0x110000 := c.valid
  constructor
  · unfold isHighSurrogate
    rw [Bool.and_eq_false_iff, decide_eq_false_iff_not, decide_eq_false_iff_not]
    omega
  · unfold isLowSurrogate
    rw [Bool.and_eq_false_iff, decide_eq_false_iff_not, decide_eq_false_iff_not]
    omega

/-- Characters are put together from their codes. -/
theorem characters?_map_toNat (text : List Char) :
    characters? (text.map Char.toNat) = some text := by
  induction text with
  | nil => rfl
  | cons c rest ih =>
      obtain ⟨hhigh, hlow⟩ := isSurrogate_toNat c
      cases rest with
      | nil => simp [characters?, hhigh, hlow]
      | cons d more =>
          rw [List.map_cons] at ih
          rw [List.map_cons, List.map_cons, characters?, hhigh, hlow, ih]
          simp

theorem string?_flatMap_escape (s : String) (rest : List Char) :
    string? (s.toList.flatMap escape ++ '"' :: rest) = some (some s, rest) := by
  unfold string?
  rw [units?_flatMap_escape]
  simp [characters?_map_toNat]

/-!
## Numbers
-/

/-- A text that may follow a value: it is empty, or goes on behind a comma or on a new line. -/
def Follows (rest : List Char) : Prop :=
  ∀ c ∈ rest.head?, c = ',' ∨ c = '\n'

theorem Follows.nil : Follows [] :=
  fun _ h => nomatch h

theorem Follows.comma (rest : List Char) : Follows (',' :: rest) :=
  fun _ h => .inl (Option.mem_some.mp h).symm

theorem Follows.newLine (level : Nat) (rest : List Char) : Follows (newLine level ++ rest) :=
  fun _ h => .inr (Option.mem_some.mp h).symm

section Follows

variable {rest : List Char}

theorem digits_toDigits (h : Follows rest) (n : Nat) :
    digits (Nat.toDigits 10 n ++ rest) = (Nat.toDigits 10 n, rest) := by
  have hdigits : ∀ c ∈ Nat.toDigits 10 n, Char.isDigit c = true :=
    fun c hc => Nat.isDigit_of_mem_toDigits (by decide) (by decide) hc
  have hrest : rest.takeWhile Char.isDigit = [] ∧ rest.dropWhile Char.isDigit = rest := by
    cases rest with
    | nil => exact ⟨rfl, rfl⟩
    | cons c more =>
        rcases h c rfl with rfl | rfl <;> exact ⟨rfl, rfl⟩
  unfold digits
  rw [List.takeWhile_append_of_pos hdigits, List.dropWhile_append_of_pos hdigits, hrest.1, hrest.2,
    List.append_nil]

theorem fraction?_of_follows (h : Follows rest) : fraction? rest = some ([], rest) := by
  cases rest with
  | nil => rfl
  | cons c more =>
      rcases h c rfl with rfl | rfl <;> rfl

theorem exponent?_of_follows (h : Follows rest) : exponent? rest = some (none, rest) := by
  cases rest with
  | nil => rfl
  | cons c more =>
      rcases h c rfl with rfl | rfl <;> rfl

/-- There is always a digit to begin with. -/
theorem exists_toDigits_eq_cons (n : Nat) :
    ∃ c tail, Nat.toDigits 10 n = c :: tail ∧ c.isDigit = true := by
  obtain ⟨c, tail, hdigits⟩ := List.exists_cons_of_ne_nil (Nat.toDigits_ne_nil (n := n) (b := 10))
  have hmem : c ∈ Nat.toDigits 10 n := by
    rw [hdigits]
    exact List.mem_cons_self
  exact ⟨c, tail, hdigits, Nat.isDigit_of_mem_toDigits (by decide) (by decide) hmem⟩

/-- Digits begin with a zero only if this is all there is. -/
theorem toDigits_of_head?_eq_zero {n : Nat} (h : (Nat.toDigits 10 n).head? = some '0') :
    Nat.toDigits 10 n = ['0'] := by
  induction n using Nat.strongRecOn with
  | ind n ih =>
      by_cases hsmall : n < 10
      · rw [Nat.toDigits_of_lt_base hsmall] at h ⊢
        rw [Option.some.inj h]
      · exfalso
        have hbase : 10 ≤ n := Nat.le_of_not_lt hsmall
        rw [Nat.toDigits_of_base_le (by decide) hbase,
          List.head?_append_of_ne_nil _ Nat.toDigits_ne_nil] at h
        have hone := ih (n / 10) (by omega) h
        have hzero : n / 10 = 0 := by
          rw [← Nat.ofDigitChars_toDigits (b := 10) (n := n / 10) (by decide) (by decide), hone]
          rfl
        omega

/-- A number is read as its digits. -/
theorem numeral?_toDigits (h : Follows rest) (n : Nat) :
    numeral? (Nat.toDigits 10 n ++ rest) = some (⟨false, Nat.toDigits 10 n, [], none⟩, rest) ∧
      numeral? ('-' :: (Nat.toDigits 10 n ++ rest)) =
        some (⟨true, Nat.toDigits 10 n, [], none⟩, rest) := by
  have hwhole : ¬(Nat.toDigits 10 n = [] ∨
      (Nat.toDigits 10 n).head? = some '0' ∧ Nat.toDigits 10 n ≠ ['0']) := by
    rintro (hnil | ⟨hhead, hne⟩)
    · exact Nat.toDigits_ne_nil hnil
    · exact hne (toDigits_of_head?_eq_zero hhead)
  constructor
  · obtain ⟨c, tail, hdigits, hc⟩ := exists_toDigits_eq_cons n
    unfold numeral?
    split
    rename_i negative text hsign
    have hunsigned : negative = false ∧ text = Nat.toDigits 10 n ++ rest := by
      rw [hdigits] at hsign ⊢
      split at hsign
      · rename_i heq
        obtain ⟨rfl, -⟩ := List.cons.inj heq
        cases hc
      · cases hsign
        exact ⟨rfl, rfl⟩
    obtain ⟨rfl, rfl⟩ := hunsigned
    simp only [digits_toDigits h, fraction?_of_follows h, exponent?_of_follows h, if_neg hwhole,
      Option.bind_eq_bind, Option.bind_some]
    rfl
  · unfold numeral?
    simp only [digits_toDigits h, fraction?_of_follows h, exponent?_of_follows h, if_neg hwhole,
      Option.bind_eq_bind, Option.bind_some]
    rfl

end Follows

end Source

end Remedy.Json
