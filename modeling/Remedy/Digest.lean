/-!
# Digests

`digest` is the 64-bit XXH3 hash with seed zero and the standard secret.  Inputs of up to 16, 128
and 240 bytes and longer ones are treated by four different rules, as the algorithm lays down.
Two texts with the same digest are taken for the same text where only digests are kept.
-/

namespace Remedy.Digest

def prime32One : UInt64 := 0x9E3779B1
def prime32Two : UInt64 := 0x85EBCA77
def prime32Three : UInt64 := 0xC2B2AE3D
def prime64One : UInt64 := 0x9E3779B185EBCA87
def prime64Two : UInt64 := 0xC2B2AE3D27D4EB4F
def prime64Three : UInt64 := 0x165667B19E3779F9
def prime64Four : UInt64 := 0x85EBCA77C2B2AE63
def prime64Five : UInt64 := 0x27D4EB2F165667C5
def primeMixOne : UInt64 := 0x165667919E3779F9
def primeMixTwo : UInt64 := 0x9FB21C651E98DF25

/-- The 192 bytes that the input is mixed with. -/
def secret : ByteArray := ⟨#[
  0xb8, 0xfe, 0x6c, 0x39, 0x23, 0xa4, 0x4b, 0xbe, 0x7c, 0x01, 0x81, 0x2c, 0xf7, 0x21, 0xad, 0x1c,
  0xde, 0xd4, 0x6d, 0xe9, 0x83, 0x90, 0x97, 0xdb, 0x72, 0x40, 0xa4, 0xa4, 0xb7, 0xb3, 0x67, 0x1f,
  0xcb, 0x79, 0xe6, 0x4e, 0xcc, 0xc0, 0xe5, 0x78, 0x82, 0x5a, 0xd0, 0x7d, 0xcc, 0xff, 0x72, 0x21,
  0xb8, 0x08, 0x46, 0x74, 0xf7, 0x43, 0x24, 0x8e, 0xe0, 0x35, 0x90, 0xe6, 0x81, 0x3a, 0x26, 0x4c,
  0x3c, 0x28, 0x52, 0xbb, 0x91, 0xc3, 0x00, 0xcb, 0x88, 0xd0, 0x65, 0x8b, 0x1b, 0x53, 0x2e, 0xa3,
  0x71, 0x64, 0x48, 0x97, 0xa2, 0x0d, 0xf9, 0x4e, 0x38, 0x19, 0xef, 0x46, 0xa9, 0xde, 0xac, 0xd8,
  0xa8, 0xfa, 0x76, 0x3f, 0xe3, 0x9c, 0x34, 0x3f, 0xf9, 0xdc, 0xbb, 0xc7, 0xc7, 0x0b, 0x4f, 0x1d,
  0x8a, 0x51, 0xe0, 0x4b, 0xcd, 0xb4, 0x59, 0x31, 0xc8, 0x9f, 0x7e, 0xc9, 0xd9, 0x78, 0x73, 0x64,
  0xea, 0xc5, 0xac, 0x83, 0x34, 0xd3, 0xeb, 0xc3, 0xc5, 0x81, 0xa0, 0xff, 0xfa, 0x13, 0x63, 0xeb,
  0x17, 0x0d, 0xdd, 0x51, 0xb7, 0xf0, 0xda, 0x49, 0xd3, 0x16, 0x55, 0x26, 0x29, 0xd4, 0x68, 0x9e,
  0x2b, 0x16, 0xbe, 0x58, 0x7d, 0x47, 0xa1, 0xfc, 0x8f, 0xf8, 0xb8, 0xd1, 0x7a, 0xd0, 0x31, 0xce,
  0x45, 0xcb, 0x3a, 0x8f, 0x95, 0x16, 0x04, 0x28, 0xaf, 0xd7, 0xfb, 0xca, 0xbb, 0x4b, 0x40, 0x7e]⟩

/-- The number whose `count` bytes from `start` on are given, the lowest first. -/
def readWord (count : Nat) (bytes : ByteArray) (start : Nat) : UInt64 :=
  (List.range count).foldr
    (fun i word =>
      let byte := if h : start + i < bytes.size then bytes[start + i] else 0
      word <<< 8 ||| byte.toUInt64)
    0

/-- Eight bytes as a number. -/
def read64 (bytes : ByteArray) (start : Nat) : UInt64 := readWord 8 bytes start

/-- Four bytes as a number. -/
def read32 (bytes : ByteArray) (start : Nat) : UInt64 := readWord 4 bytes start

/-- Turns the bits to the left; those that leave come back on the right. -/
def rotateLeft (word count : UInt64) : UInt64 :=
  word <<< count ||| word >>> (64 - count)

/-- The bytes of a word in the opposite order. -/
def swapBytes (word : UInt64) : UInt64 :=
  (List.range 8).foldl
    (fun swapped i => swapped <<< 8 ||| (word >>> (8 * i).toUInt64 &&& 0xFF)) 0

/-- The two halves of the product of two words, combined bit by bit. -/
def foldProduct (a b : UInt64) : UInt64 :=
  let product := a.toNat * b.toNat
  product.toUInt64 ^^^ (product / UInt64.size).toUInt64

/-- The last mixing of inputs of up to three bytes. -/
def finishShort (word : UInt64) : UInt64 :=
  let word := (word ^^^ word >>> 33) * prime64Two
  let word := (word ^^^ word >>> 29) * prime64Three
  word ^^^ word >>> 32

/-- The last mixing of inputs of nine bytes or more. -/
def finish (word : UInt64) : UInt64 :=
  let word := (word ^^^ word >>> 37) * primeMixOne
  word ^^^ word >>> 32

/-- The last mixing of inputs of four to eight bytes. -/
def finishMiddle (word length : UInt64) : UInt64 :=
  let word := (word ^^^ rotateLeft word 49 ^^^ rotateLeft word 24) * primeMixTwo
  let word := (word ^^^ (word >>> 35 + length)) * primeMixTwo
  word ^^^ word >>> 28

/-- Mixes sixteen bytes of the input with sixteen bytes of the secret. -/
def mixSixteen (bytes : ByteArray) (start key : Nat) : UInt64 :=
  foldProduct (read64 bytes start ^^^ read64 secret key)
    (read64 bytes (start + 8) ^^^ read64 secret (key + 8))

/-- Inputs of up to sixteen bytes. -/
def digestUpTo16 (bytes : ByteArray) : UInt64 :=
  let size := bytes.size
  if size = 0 then finishShort (read64 secret 56 ^^^ read64 secret 64)
  else if size ≤ 3 then
    let first := readWord 1 bytes 0
    let middle := readWord 1 bytes (size / 2)
    let last := readWord 1 bytes (size - 1)
    let combined := first <<< 16 ||| middle <<< 24 ||| last ||| size.toUInt64 <<< 8
    finishShort (combined ^^^ (read32 secret 0 ^^^ read32 secret 4))
  else if size ≤ 8 then
    let combined := read32 bytes (size - 4) + read32 bytes 0 <<< 32
    finishMiddle (combined ^^^ (read64 secret 8 ^^^ read64 secret 16)) size.toUInt64
  else
    let low := read64 bytes 0 ^^^ (read64 secret 24 ^^^ read64 secret 32)
    let high := read64 bytes (size - 8) ^^^ (read64 secret 40 ^^^ read64 secret 48)
    finish (size.toUInt64 + swapBytes low + high + foldProduct low high)

/-- Inputs of seventeen to 128 bytes, mixed from both ends toward the middle. -/
def digestUpTo128 (bytes : ByteArray) : UInt64 :=
  let size := bytes.size
  let pairs := (size - 1) / 32 + 1
  finish <| (List.range pairs).foldl
    (fun sum i =>
      sum + mixSixteen bytes (16 * i) (32 * i)
        + mixSixteen bytes (size - 16 * (i + 1)) (32 * i + 16))
    (size.toUInt64 * prime64One)

/-- Inputs of 129 to 240 bytes. -/
def digestUpTo240 (bytes : ByteArray) : UInt64 :=
  let size := bytes.size
  let front := (List.range 8).foldl
    (fun sum i => sum + mixSixteen bytes (16 * i) (16 * i)) (size.toUInt64 * prime64One)
  let back := (List.range (size / 16 - 8)).foldl
    (fun sum i => sum + mixSixteen bytes (16 * (i + 8)) (16 * i + 3))
    (mixSixteen bytes (size - 16) 119)
  finish (finish front + back)

/-- The eight sums that long inputs are gathered in, before any byte is read. -/
def startingSums : Array UInt64 :=
  #[prime32Three, prime64One, prime64Two, prime64Three, prime64Four, prime32Two, prime64Five,
    prime32One]

/-- Gathers 64 bytes of the input. -/
def gather (bytes : ByteArray) (start key : Nat) (sums : Array UInt64) : Array UInt64 :=
  (List.range 8).foldl
    (fun sums i =>
      let value := read64 bytes (start + 8 * i)
      let keyed := value ^^^ read64 secret (key + 8 * i)
      let partner := if i % 2 = 0 then i + 1 else i - 1
      let sums := sums.modify partner (· + value)
      sums.modify i (· + (keyed &&& (0xFFFFFFFF : UInt64)) * (keyed >>> 32)))
    sums

/-- Mixes the sums after each block of 1024 bytes. -/
def scramble (sums : Array UInt64) : Array UInt64 :=
  (List.range 8).foldl
    (fun sums i =>
      sums.modify i fun sum =>
        (sum ^^^ sum >>> 47 ^^^ read64 secret (128 + 8 * i)) * prime32One)
    sums

/-- Inputs of more than 240 bytes. -/
def digestLong (bytes : ByteArray) : UInt64 :=
  let size := bytes.size
  let blocks := (size - 1) / 1024
  let gatherMany (start count : Nat) (sums : Array UInt64) : Array UInt64 :=
    (List.range count).foldl (fun sums i => gather bytes (start + 64 * i) (8 * i) sums) sums
  let sums := (List.range blocks).foldl
    (fun sums block => scramble (gatherMany (1024 * block) 16 sums)) startingSums
  let sums := gatherMany (1024 * blocks) ((size - 1 - 1024 * blocks) / 64) sums
  let sums := gather bytes (size - 64) 121 sums
  finish <| (List.range 4).foldl
    (fun sum i =>
      sum + foldProduct (sums.getD (2 * i) 0 ^^^ read64 secret (11 + 16 * i))
        (sums.getD (2 * i + 1) 0 ^^^ read64 secret (11 + 16 * i + 8)))
    (size.toUInt64 * prime64One)

/-- The digest of some bytes. -/
def ofBytes (bytes : ByteArray) : UInt64 :=
  if bytes.size ≤ 16 then digestUpTo16 bytes
  else if bytes.size ≤ 128 then digestUpTo128 bytes
  else if bytes.size ≤ 240 then digestUpTo240 bytes
  else digestLong bytes

/-- The digest of a text is that of its UTF-8 bytes. -/
def ofText (text : String) : UInt64 :=
  ofBytes text.toUTF8

end Remedy.Digest
