import Mathlib.Algebra.Ring.Nat
import Remedy.Text.Utf8

/-!
# Reading what was written as UTF-8

Each character is read from the bytes that it is written as, with nothing left open behind it.
So a text that was written as UTF-8 is read as it was.  A newline is read as such even behind bytes
that are no UTF-8, since no character that they may have begun goes on with it.  A NUL is read only
where a NUL was written.
-/

namespace Remedy.Text

/-- The bytes of a text. -/
def encode (text : List Char) : List UInt8 :=
  text.flatMap String.utf8EncodeChar

/-- The bytes behind the first one that are still expected are read one by one. -/
theorem decodeFrom_some_cons {state : Partial} {byte : UInt8} (rest : List UInt8)
    (hlow : state.low ≤ byte.toNat) (hhigh : byte.toNat ≤ state.high) :
    decodeFrom (some state) (byte :: rest) =
      if state.missing ≤ 1 then
        Char.ofNat (state.bits * 64 + (byte.toNat - 0x80)) :: decodeFrom none rest
      else
        decodeFrom (some ⟨state.missing - 1, 0x80, 0xBF,
          state.bits * 64 + (byte.toNat - 0x80)⟩) rest := by
  simp [decodeFrom, hlow, hhigh]

theorem decodeFrom_none_single {byte : UInt8} {c : Char} (rest : List UInt8)
    (h : opening byte = .single c) :
    decodeFrom none (byte :: rest) = c :: decodeFrom none rest := by
  simp [decodeFrom, h]

theorem decodeFrom_none_longer {byte : UInt8} {state : Partial} (rest : List UInt8)
    (h : opening byte = .longer state) :
    decodeFrom none (byte :: rest) = decodeFrom (some state) rest := by
  simp [decodeFrom, h]

/-- A first byte of two announces one more. -/
theorem opening_of_two {byte : UInt8} (hlow : 0xC2 ≤ byte.toNat) (hhigh : byte.toNat < 0xE0) :
    opening byte = .longer ⟨1, 0x80, 0xBF, byte.toNat - 0xC0⟩ := by
  unfold opening
  grind

/-- A first byte of three announces two more, the first of which has narrower bounds at the ends. -/
theorem opening_of_three {byte : UInt8} (hlow : 0xE0 ≤ byte.toNat) (hhigh : byte.toNat < 0xF0) :
    opening byte = .longer ⟨2, if byte.toNat = 0xE0 then 0xA0 else 0x80,
      if byte.toNat = 0xED then 0x9F else 0xBF, byte.toNat - 0xE0⟩ := by
  unfold opening
  grind

/--
A first byte of four announces three more, the first of which has narrower bounds at the ends.
-/
theorem opening_of_four {byte : UInt8} (hlow : 0xF0 ≤ byte.toNat) (hhigh : byte.toNat < 0xF5) :
    opening byte = .longer ⟨3, if byte.toNat = 0xF0 then 0x90 else 0x80,
      if byte.toNat = 0xF4 then 0x8F else 0xBF, byte.toNat - 0xF0⟩ := by
  unfold opening
  grind

theorem toNat_ofNat {n : Nat} (h : n < 256) : (UInt8.ofNat n).toNat = n := by
  simp [UInt8.toNat_ofNat', Nat.mod_eq_of_lt h]

/-!
## Characters by the number of their bytes
-/

theorem decodeFrom_of_one {n : Nat} (hhigh : n ≤ 0x7f) (rest : List UInt8) :
    decodeFrom none (UInt8.ofNat n :: rest) = Char.ofNat n :: decodeFrom none rest := by
  have hopen : opening (UInt8.ofNat n) = .single (Char.ofNat n) := by
    rw [opening, toNat_ofNat (by omega), if_pos (by omega)]
  exact decodeFrom_none_single rest hopen

theorem decodeFrom_of_two {n : Nat} (hlow : 0x7f < n) (hhigh : n ≤ 0x7ff) (rest : List UInt8) :
    decodeFrom none
        (UInt8.ofNat (n / 64 % 0x20 + 0xC0) :: UInt8.ofNat (n % 0x40 + 0x80) :: rest) =
      Char.ofNat n :: decodeFrom none rest := by
  have hfirst := @toNat_ofNat (n / 64 % 0x20 + 0xC0) (by omega)
  have hsecond := @toNat_ofNat (n % 0x40 + 0x80) (by omega)
  rw [decodeFrom_none_longer _ (opening_of_two (by omega) (by omega)),
    decodeFrom_some_cons _ (by dsimp only; omega) (by dsimp only; omega),
    if_pos (Nat.le_refl 1), hfirst, hsecond,
    show (n / 64 % 0x20 + 0xC0 - 0xC0) * 64 + (n % 0x40 + 0x80 - 0x80) = n by omega]

/-- The surrogates are no characters, and would need bytes beyond the narrower bounds. -/
theorem decodeFrom_of_three {n : Nat} (hlow : 0x7ff < n) (hhigh : n ≤ 0xffff)
    (hvalid : n < 0xD800 ∨ 0xDFFF < n) (rest : List UInt8) :
    decodeFrom none
        (UInt8.ofNat (n / 4096 % 0x10 + 0xE0) :: UInt8.ofNat (n / 64 % 0x40 + 0x80) ::
          UInt8.ofNat (n % 0x40 + 0x80) :: rest) =
      Char.ofNat n :: decodeFrom none rest := by
  have hfirst := @toNat_ofNat (n / 4096 % 0x10 + 0xE0) (by omega)
  have hsecond := @toNat_ofNat (n / 64 % 0x40 + 0x80) (by omega)
  have hthird := @toNat_ofNat (n % 0x40 + 0x80) (by omega)
  rw [decodeFrom_none_longer _ (opening_of_three (by omega) (by omega)),
    decodeFrom_some_cons _ (by dsimp only; grind) (by dsimp only; grind),
    if_neg (by dsimp only; omega),
    decodeFrom_some_cons _ (by dsimp only; omega) (by dsimp only; omega),
    if_pos (by dsimp only; omega), hfirst, hsecond, hthird,
    show ((n / 4096 % 0x10 + 0xE0 - 0xE0) * 64 + (n / 64 % 0x40 + 0x80 - 0x80)) * 64 +
      (n % 0x40 + 0x80 - 0x80) = n by omega]

theorem decodeFrom_of_four {n : Nat} (hlow : 0xffff < n) (hhigh : n < 0x110000)
    (rest : List UInt8) :
    decodeFrom none
        (UInt8.ofNat (n / 262144 % 0x08 + 0xF0) :: UInt8.ofNat (n / 4096 % 0x40 + 0x80) ::
          UInt8.ofNat (n / 64 % 0x40 + 0x80) :: UInt8.ofNat (n % 0x40 + 0x80) :: rest) =
      Char.ofNat n :: decodeFrom none rest := by
  have hfirst := @toNat_ofNat (n / 262144 % 0x08 + 0xF0) (by omega)
  have hsecond := @toNat_ofNat (n / 4096 % 0x40 + 0x80) (by omega)
  have hthird := @toNat_ofNat (n / 64 % 0x40 + 0x80) (by omega)
  have hfourth := @toNat_ofNat (n % 0x40 + 0x80) (by omega)
  rw [decodeFrom_none_longer _ (opening_of_four (by omega) (by omega)),
    decodeFrom_some_cons _ (by dsimp only; grind) (by dsimp only; grind),
    if_neg (by dsimp only; omega),
    decodeFrom_some_cons _ (by dsimp only; omega) (by dsimp only; omega),
    if_neg (by dsimp only; omega),
    decodeFrom_some_cons _ (by dsimp only; omega) (by dsimp only; omega),
    if_pos (by dsimp only; omega), hfirst, hsecond, hthird, hfourth,
    show (((n / 262144 % 0x08 + 0xF0 - 0xF0) * 64 + (n / 4096 % 0x40 + 0x80 - 0x80)) * 64 +
      (n / 64 % 0x40 + 0x80 - 0x80)) * 64 + (n % 0x40 + 0x80 - 0x80) = n by omega]

/-- A character is read from its own bytes. -/
theorem decodeFrom_utf8EncodeChar (c : Char) (rest : List UInt8) :
    decodeFrom none (String.utf8EncodeChar c ++ rest) = c :: decodeFrom none rest := by
  have hvalid : c.val.toNat < 0xD800 ∨ 0xDFFF < c.val.toNat ∧ c.val.toNat < 0x110000 := c.valid
  have hback : Char.ofNat c.val.toNat = c := Char.ofNat_toNat c
  unfold String.utf8EncodeChar
  generalize c.val.toNat = n at hvalid hback
  subst hback
  dsimp only
  split
  · rename_i hone
    exact decodeFrom_of_one hone rest
  · rename_i hone
    split
    · rename_i htwo
      exact decodeFrom_of_two (by omega) htwo rest
    · rename_i htwo
      split
      · rename_i hthree
        exact decodeFrom_of_three (by omega) hthree (by omega) rest
      · rename_i hthree
        exact decodeFrom_of_four (by omega) (by omega) rest

/-- A text is read from its own bytes. -/
theorem decodeLossy_encode (text : List Char) : decodeLossy (encode text) = text := by
  unfold decodeLossy
  induction text with
  | nil => rfl
  | cons c rest ih =>
      rw [encode, List.flatMap_cons, decodeFrom_utf8EncodeChar]
      exact congrArg (c :: ·) ih

/-- What a first byte announces is no newline. -/
theorem low_of_opening {byte : UInt8} {next : Partial} (h : opening byte = .longer next) :
    10 < next.low := by
  unfold opening at h
  grind

theorem decodeFrom_none_invalid {byte : UInt8} (rest : List UInt8)
    (h : opening byte = .invalid) :
    decodeFrom none (byte :: rest) = replacementCharacter :: decodeFrom none rest := by
  simp [decodeFrom, h]

/-- A byte that is not expected ends what is open and is read on its own. -/
theorem decodeFrom_some_of_not {state : Partial} {byte : UInt8} (rest : List UInt8)
    (h : ¬(state.low ≤ byte.toNat ∧ byte.toNat ≤ state.high)) :
    decodeFrom (some state) (byte :: rest) =
      replacementCharacter :: decodeFrom none (byte :: rest) := by
  have hfar : (decide (state.low ≤ byte.toNat) && decide (byte.toNat ≤ state.high)) = false := by
    simpa using h
  simp only [decodeFrom, hfar]
  cases opening byte <;> rfl

/-- A newline is read as such, whatever stands in front of it. -/
theorem decodeFrom_append_newline {state : Option Partial}
    (hstate : ∀ s ∈ state, 10 < s.low) (bytes : List UInt8) :
    decodeFrom state (bytes ++ [10]) = decodeFrom state bytes ++ ['\n'] := by
  induction bytes generalizing state with
  | nil =>
      cases state with
      | none => rfl
      | some s =>
          have hlow : 10 < s.low := hstate s rfl
          rw [List.nil_append, decodeFrom_some_of_not]
          · rfl
          · exact fun h => absurd h.1 (Nat.not_le.mpr hlow)
  | cons byte rest ih =>
      have hnone := @ih none fun _ hnone => absurd hnone (Option.not_mem_none _)
      have hstart : decodeFrom none (byte :: (rest ++ [10])) =
          decodeFrom none (byte :: rest) ++ ['\n'] := by
        cases hopen : opening byte with
        | single c =>
            rw [decodeFrom_none_single _ hopen, decodeFrom_none_single _ hopen, hnone]
            rfl
        | longer next =>
            rw [decodeFrom_none_longer _ hopen, decodeFrom_none_longer _ hopen]
            refine ih fun s hs => ?_
            obtain rfl := Option.mem_some.mp hs
            exact low_of_opening hopen
        | invalid =>
            rw [decodeFrom_none_invalid _ hopen, decodeFrom_none_invalid _ hopen, hnone]
            rfl
      cases state with
      | none => exact hstart
      | some s =>
          rw [List.cons_append]
          by_cases hopen : s.low ≤ byte.toNat ∧ byte.toNat ≤ s.high
          · rw [decodeFrom_some_cons _ hopen.1 hopen.2, decodeFrom_some_cons _ hopen.1 hopen.2]
            split
            · rw [hnone]
              rfl
            · refine ih fun next hnext => ?_
              obtain rfl := Option.mem_some.mp hnext
              exact (by decide : 10 < 0x80)
          · rw [decodeFrom_some_of_not _ hopen, decodeFrom_some_of_not _ hopen, hstart]
            rfl

/-- A text and the same text with a newline behind it are read as different ones. -/
theorem decodeLossy_append_newline (bytes : List UInt8) :
    decodeLossy (bytes ++ [10]) = decodeLossy bytes ++ ['\n'] :=
  decodeFrom_append_newline (fun _ hnone => absurd hnone (Option.not_mem_none _)) bytes

/-!
## What is read as a NUL
-/

/-- The least number that a character which was begun may come to. -/
def Partial.least (s : Partial) : Nat :=
  (s.bits * 64 + (s.low - 0x80)) * 64 ^ (s.missing - 1)

/-- The numbers that a character which was begun may come to are all below this one. -/
def Partial.bound (s : Partial) : Nat :=
  (s.bits * 64 + (s.high - 0x80) + 1) * 64 ^ (s.missing - 1)

/-- Whatever follows, the character that was begun comes to be one, and not NUL. -/
structure Partial.IsSound (s : Partial) : Prop where
  low : 0x80 ≤ s.low
  pos : 0 < s.least
  valid : s.bound ≤ 0xD800 ∨ 0xDFFF < s.least ∧ s.bound ≤ 0x110000

theorem Partial.isSound_of_opening {byte : UInt8} {next : Partial}
    (h : opening byte = .longer next) : next.IsSound := by
  have hrange : 0xC2 ≤ byte.toNat ∧ byte.toNat < 0xF5 := by
    unfold opening at h
    grind
  by_cases htwo : byte.toNat < 0xE0
  · rw [opening_of_two hrange.1 htwo] at h
    cases h
    constructor <;> simp only [least, bound] <;> omega
  · by_cases hthree : byte.toNat < 0xF0
    · rw [opening_of_three (by omega) hthree] at h
      cases h
      constructor <;> simp only [least, bound] <;> grind
    · rw [opening_of_four (by omega) hrange.2] at h
      cases h
      constructor <;> simp only [least, bound] <;> grind

/-- One more byte leaves the bounds narrower. -/
theorem Partial.IsSound.next {s : Partial} (h : s.IsSound) {b : Nat} (hlow : s.low ≤ b)
    (hhigh : b ≤ s.high) (hmore : ¬s.missing ≤ 1) :
    (Partial.mk (s.missing - 1) 0x80 0xBF (s.bits * 64 + (b - 0x80))).IsSound := by
  obtain ⟨missing, low, high, bits⟩ := s
  obtain ⟨more, rfl⟩ : ∃ more, missing = more + 2 := ⟨missing - 2, by dsimp only at hmore; omega⟩
  have hleast : (bits * 64 + (low - 0x80)) * 64 ^ (more + 1) ≤
      (bits * 64 + (b - 0x80)) * 64 ^ (more + 1) :=
    Nat.mul_le_mul_right _ (by dsimp only at hlow; omega)
  have hbound : (bits * 64 + (b - 0x80) + 1) * 64 ^ (more + 1) ≤
      (bits * 64 + (high - 0x80) + 1) * 64 ^ (more + 1) :=
    Nat.mul_le_mul_right _ (by dsimp only at hhigh; omega)
  obtain ⟨hfirst, hpos, hvalid⟩ := h
  simp only [least, bound, show more + 2 - 1 = more + 1 by omega] at hpos hvalid
  have hpow : 64 ^ (more + 1) = 64 * 64 ^ more := Nat.pow_succ'
  have hleastNext (value : Nat) :
      (value * 64 + (0x80 - 0x80)) * 64 ^ more = value * 64 ^ (more + 1) := by
    simp [hpow, Nat.mul_assoc]
  have hboundNext (value : Nat) :
      (value * 64 + (0xBF - 0x80) + 1) * 64 ^ more = (value + 1) * 64 ^ (more + 1) := by
    simp [hpow, ← Nat.mul_assoc, Nat.add_mul, Nat.add_assoc]
  constructor
  · exact Nat.le_refl _
  · simp only [least, show more + 2 - 1 - 1 = more by omega, hleastNext]
    omega
  · simp only [least, bound, show more + 2 - 1 - 1 = more by omega, hleastNext, hboundNext]
    omega

/-- The number of NUL is zero, and no other number that is one of a character is. -/
theorem ofNat_eq_nul_iff {n : Nat} (h : n.isValidChar) : Char.ofNat n = '\x00' ↔ n = 0 := by
  constructor
  · intro hnul
    have hnumber : (Char.ofNat n).toNat = n := by
      rw [show Char.ofNat n = Char.ofNatAux n h from dif_pos h]
      rfl
    rw [← hnumber, hnul]
    rfl
  · rintro rfl
    rfl

/-- The last byte makes a character other than NUL. -/
theorem Partial.IsSound.ne_nul {s : Partial} (h : s.IsSound) {b : Nat} (hlow : s.low ≤ b)
    (hhigh : b ≤ s.high) (hlast : s.missing ≤ 1) :
    Char.ofNat (s.bits * 64 + (b - 0x80)) ≠ '\x00' := by
  obtain ⟨hfirst, hpos, hvalid⟩ := h
  simp only [least, bound, show s.missing - 1 = 0 by omega, Nat.pow_zero, Nat.mul_one] at hpos hvalid
  have hnumber : Nat.isValidChar (s.bits * 64 + (b - 0x80)) := by
    unfold Nat.isValidChar
    omega
  rw [Ne, ofNat_eq_nul_iff hnumber]
  omega

/-- A character that was begun is read as one other than NUL, whatever follows. -/
theorem exists_ne_nul_of_isSound {s : Partial} (h : s.IsSound) (bytes : List UInt8) :
    ∃ c ∈ decodeFrom (some s) bytes, c ≠ '\x00' := by
  induction bytes generalizing s with
  | nil => exact ⟨_, List.mem_singleton_self _, by decide⟩
  | cons byte rest ih =>
      by_cases hopen : s.low ≤ byte.toNat ∧ byte.toNat ≤ s.high
      · rw [decodeFrom_some_cons _ hopen.1 hopen.2]
        split
        · rename_i hlast
          exact ⟨_, List.mem_cons_self, h.ne_nul hopen.1 hopen.2 hlast⟩
        · rename_i hmore
          exact ih (h.next hopen.1 hopen.2 hmore)
      · rw [decodeFrom_some_of_not _ hopen]
        exact ⟨_, List.mem_cons_self, by decide⟩

/-- A byte that is a character by itself is its number. -/
theorem of_opening_single {byte : UInt8} {c : Char} (h : opening byte = .single c) :
    byte.toNat < 0x80 ∧ c = Char.ofNat byte.toNat := by
  unfold opening at h
  dsimp only at h
  split at h
  · rename_i hone
    cases h
    exact ⟨hone, rfl⟩
  · grind

/-- Only NULs are read as NULs. -/
theorem forall_decodeLossy_eq_nul_iff (bytes : List UInt8) :
    (∀ c ∈ decodeLossy bytes, c = '\x00') ↔ ∀ byte ∈ bytes, byte = 0 := by
  unfold decodeLossy
  induction bytes with
  | nil => exact iff_of_true (fun _ h => absurd h List.not_mem_nil) fun _ h => absurd h List.not_mem_nil
  | cons byte rest ih =>
      rw [List.forall_mem_cons (a := byte), ← ih]
      cases hopen : opening byte with
      | single c =>
          rw [decodeFrom_none_single _ hopen, List.forall_mem_cons]
          obtain ⟨hbyte, rfl⟩ := of_opening_single hopen
          rw [ofNat_eq_nul_iff (.inl (by omega)), ← UInt8.toNat_inj]
          rfl
      | longer next =>
          rw [decodeFrom_none_longer _ hopen]
          obtain ⟨c, hc, hne⟩ := exists_ne_nul_of_isSound (Partial.isSound_of_opening hopen) rest
          refine iff_of_false (fun h => hne (h c hc)) fun h => ?_
          rw [h.1] at hopen
          cases hopen
      | invalid =>
          rw [decodeFrom_none_invalid _ hopen]
          refine iff_of_false (fun h => absurd (h _ List.mem_cons_self) (by decide)) fun h => ?_
          rw [h.1] at hopen
          cases hopen

end Remedy.Text
