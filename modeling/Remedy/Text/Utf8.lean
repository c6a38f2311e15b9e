/-!
# Reading bytes as UTF-8

`decodeLossy` reads any bytes: a sequence that is not UTF-8 becomes U+FFFD, one for each maximal
run of bytes that begins a character, and one for each byte that cannot begin any.
-/

namespace Remedy.Text

/-- What is still expected of a character whose first bytes have been read. -/
structure Partial where
  /-- How many bytes are missing. -/
  missing : Nat
  /-- The smallest next byte that may follow. -/
  low : Nat
  /-- The largest next byte that may follow. -/
  high : Nat
  /-- The value of the bits read so far. -/
  bits : Nat
deriving DecidableEq

/-- The character that stands for bytes that are no UTF-8. -/
def replacementCharacter : Char := '\ufffd'

/-- What a first byte begins: a whole character, a longer one, or nothing. -/
inductive Opening where
  | single (c : Char)
  | longer (state : Partial)
  | invalid

/-- Reads the first byte of a character. -/
def opening (byte : UInt8) : Opening :=
  let b := byte.toNat
  if b < 0x80 then .single (Char.ofNat b)
  else if b < 0xC2 then .invalid
  else if b < 0xE0 then .longer ⟨1, 0x80, 0xBF, b - 0xC0⟩
  else if b = 0xE0 then .longer ⟨2, 0xA0, 0xBF, 0⟩
  else if b = 0xED then .longer ⟨2, 0x80, 0x9F, 0xD⟩
  else if b < 0xF0 then .longer ⟨2, 0x80, 0xBF, b - 0xE0⟩
  else if b = 0xF0 then .longer ⟨3, 0x90, 0xBF, 0⟩
  else if b < 0xF4 then .longer ⟨3, 0x80, 0xBF, b - 0xF0⟩
  else if b = 0xF4 then .longer ⟨3, 0x80, 0x8F, 4⟩
  else .invalid

/-- Reads the remaining bytes; `state` is what is left open by the bytes before them. -/
def decodeFrom : Option Partial → List UInt8 → List Char
  | none, [] => []
  | some _, [] => [replacementCharacter]
  | state, byte :: rest =>
      let start (front : List Char) : List Char :=
        match opening byte with
        | .single c => front ++ c :: decodeFrom none rest
        | .longer next => front ++ decodeFrom (some next) rest
        | .invalid => front ++ replacementCharacter :: decodeFrom none rest
      match state with
      | none => start []
      | some ⟨missing, low, high, bits⟩ =>
          let b := byte.toNat
          if low ≤ b && b ≤ high then
            let bits := bits * 64 + (b - 0x80)
            if missing ≤ 1 then
              Char.ofNat bits :: decodeFrom none rest
            else
              decodeFrom (some ⟨missing - 1, 0x80, 0xBF, bits⟩) rest
          else
            start [replacementCharacter]

/-- The text of some bytes, with U+FFFD for whatever is not UTF-8. -/
def decodeLossy (bytes : List UInt8) : List Char :=
  decodeFrom none bytes

end Remedy.Text
