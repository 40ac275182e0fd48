/-
  OpenArm.Manifest.Sha256 — `sha256.cpp`: the digest and the keyed digest.

  A text is a list of characters, each standing for the byte of its code.
  Words are natural numbers below 2^32.  `sha256_hex` absorbs the whole
  64-byte blocks of its input and then one or two padded blocks.

  Main results:
    * `sha256Hex_length` / `sha256Hex_digits` — the shape of every digest.
-/
import OpenArm.Lib.Text
import Mathlib

namespace OpenArm.Manifest

/-- The bytes of a file or of a string. -/
abbrev Text := List Char

/-! ## §1. One block. -/

/-- `rotate`. -/
def rotate (value amount : Nat) : Nat :=
  (value >>> amount) ||| ((value <<< (32 - amount)) % 2 ^ 32)

/-- `k`. -/
def roundConstants : List Nat := [
  0x428a2f98, 0x71374491, 0xb5c0fbcf, 0xe9b5dba5, 0x3956c25b, 0x59f111f1, 0x923f82a4, 0xab1c5ed5,
  0xd807aa98, 0x12835b01, 0x243185be, 0x550c7dc3, 0x72be5d74, 0x80deb1fe, 0x9bdc06a7, 0xc19bf174,
  0xe49b69c1, 0xefbe4786, 0x0fc19dc6, 0x240ca1cc, 0x2de92c6f, 0x4a7484aa, 0x5cb0a9dc, 0x76f988da,
  0x983e5152, 0xa831c66d, 0xb00327c8, 0xbf597fc7, 0xc6e00bf3, 0xd5a79147, 0x06ca6351, 0x14292967,
  0x27b70a85, 0x2e1b2138, 0x4d2c6dfc, 0x53380d13, 0x650a7354, 0x766a0abb, 0x81c2c92e, 0x92722c85,
  0xa2bfe8a1, 0xa81a664b, 0xc24b8b70, 0xc76c51a3, 0xd192e819, 0xd6990624, 0xf40e3585, 0x106aa070,
  0x19a4c116, 0x1e376c08, 0x2748774c, 0x34b0bcb5, 0x391c0cb3, 0x4ed8aa4a, 0x5b9cca4f, 0x682e6ff3,
  0x748f82ee, 0x78a5636f, 0x84c87814, 0x8cc70208, 0x90befffa, 0xa4506ceb, 0xbef9a3f7, 0xc67178f2]

/-- `state`, the words a to h. -/
structure HashState where
  a : Nat
  b : Nat
  c : Nat
  d : Nat
  e : Nat
  f : Nat
  g : Nat
  h : Nat

/-- The initial `state`. -/
def HashState.initial : HashState :=
  ⟨0x6a09e667, 0xbb67ae85, 0x3c6ef372, 0xa54ff53a, 0x510e527f, 0x9b05688c, 0x1f83d9ab, 0x5be0cd19⟩

/-- The words in order. -/
def HashState.words (s : HashState) : List Nat := [s.a, s.b, s.c, s.d, s.e, s.f, s.g, s.h]

/-- One turn of the second loop of `block`, on the sum of `k[i]` and `w[i]`. -/
def HashState.round (s : HashState) (kw : Nat) : HashState :=
  let s1 := rotate s.e 6 ^^^ rotate s.e 11 ^^^ rotate s.e 25
  let choice := (s.e &&& s.f) ^^^ ((s.e ^^^ 0xffffffff) &&& s.g)
  let temp1 := (s.h + s1 + choice + kw) % 2 ^ 32
  let s0 := rotate s.a 2 ^^^ rotate s.a 13 ^^^ rotate s.a 22
  let majority := (s.a &&& s.b) ^^^ (s.a &&& s.c) ^^^ (s.b &&& s.c)
  let temp2 := (s0 + majority) % 2 ^ 32
  ⟨(temp1 + temp2) % 2 ^ 32, s.a, s.b, s.c, (s.d + temp1) % 2 ^ 32, s.e, s.f, s.g⟩

/-- Four bytes as a big-endian word, for all words of a block. -/
def wordsOf : List Nat → List Nat
  | b0 :: b1 :: b2 :: b3 :: rest =>
    ((b0 <<< 24) ||| (b1 <<< 16) ||| (b2 <<< 8) ||| b3) :: wordsOf rest
  | _ => []

/-- `w[i]` from `w[i - 16]`, `w[i - 15]`, `w[i - 7]` and `w[i - 2]`. -/
def nextWord (w16 w15 w7 w2 : Nat) : Nat :=
  let s0 := rotate w15 7 ^^^ rotate w15 18 ^^^ (w15 >>> 3)
  let s1 := rotate w2 17 ^^^ rotate w2 19 ^^^ (w2 >>> 10)
  (w16 + s0 + w7 + s1) % 2 ^ 32

/-- The first loop of `block`: sixteen words of the schedule are known, and
    `count` more follow. -/
def expand (count w0 w1 w2 w3 w4 w5 w6 w7 w8 w9 w10 w11 w12 w13 w14 w15 : Nat) : List Nat :=
  match count with
  | 0 => [w0, w1, w2, w3, w4, w5, w6, w7, w8, w9, w10, w11, w12, w13, w14, w15]
  | count + 1 =>
    w0 :: expand count w1 w2 w3 w4 w5 w6 w7 w8 w9 w10 w11 w12 w13 w14 w15 (nextWord w0 w1 w9 w14)

/-- `w`, from the sixteen words of the block. -/
def schedule : List Nat → List Nat
  | [w0, w1, w2, w3, w4, w5, w6, w7, w8, w9, w10, w11, w12, w13, w14, w15] =>
    expand 48 w0 w1 w2 w3 w4 w5 w6 w7 w8 w9 w10 w11 w12 w13 w14 w15
  | _ => []

/-- The second loop of `block`, over `k` and `w`. -/
def rounds : List Nat → List Nat → HashState → HashState
  | constant :: constants, word :: words, s =>
    rounds constants words (s.round ((constant + word) % 2 ^ 32))
  | _, _, s => s

/-- `block`, on the first 64 bytes of `input`. -/
def block (state : HashState) (input : List Nat) : HashState :=
  let t := rounds roundConstants (schedule (wordsOf (input.take 64))) state
  ⟨(state.a + t.a) % 2 ^ 32, (state.b + t.b) % 2 ^ 32, (state.c + t.c) % 2 ^ 32,
    (state.d + t.d) % 2 ^ 32, (state.e + t.e) % 2 ^ 32, (state.f + t.f) % 2 ^ 32,
    (state.g + t.g) % 2 ^ 32, (state.h + t.h) % 2 ^ 32⟩

/-! ## §2. The digest. -/

/-- The loop over the whole blocks: `count` of them are left. -/
def absorb : Nat → List Nat → HashState → HashState
  | 0, _, state => state
  | count + 1, data, state => absorb count (data.drop 64) (block state data)

/-- `tail`: the rest of the input, the bit 0x80, zeros up to 64 or 128 bytes,
    and the length in bits as eight big-endian bytes. -/
def tailOf (rest : List Nat) (size : Nat) : List Nat :=
  let padded := if rest.length < 56 then 64 else 128
  let bits := (size * 8) % 2 ^ 64
  rest ++ 0x80 :: List.replicate (padded - rest.length - 9) 0 ++
    (List.range 8).map fun i => (bits >>> ((7 - i) * 8)) % 256

/-- The state after all blocks. -/
def hashOf (data : List Nat) : HashState :=
  let count := data.length / 64
  let rest := data.drop (64 * count)
  let tail := tailOf rest data.length
  let state := block (absorb count data .initial) tail
  if rest.length < 56 then state else block state (tail.drop 64)

/-- `hex`. -/
def hexDigit (n : Nat) : Char :=
  "0123456789abcdef".toList.getD n '0'

/-- Byte `i` of the digest in `state`. -/
def digestByte (state : HashState) (i : Nat) : Nat :=
  (state.words.getD (i / 4) 0 >>> (24 - (i % 4) * 8)) % 256

/-- The bytes of a text. -/
def bytesOf (text : Text) : List Nat := text.map fun c => c.toNat % 256

/-- `sha256_hex`. -/
def sha256Hex (text : Text) : Text :=
  let state := hashOf (bytesOf text)
  (List.range 32).flatMap fun i =>
    let byte := digestByte state i
    [hexDigit (byte / 16), hexDigit (byte % 16)]

/-! ## §3. The keyed digest. -/

/-- `OA_RUNTIME_PERSISTENCE_KEY_BYTES`. -/
abbrev Key := Fin 32 → UInt8

/-- A key byte, 0 behind the end of the key. -/
def keyByte (key : Key) (index : Nat) : Nat :=
  if h : index < 32 then (key ⟨index, h⟩).toNat else 0

/-- `inner_pad` and `outer_pad`: the key, xored with `mask`, as text. -/
def keyPad (key : Key) (mask : Nat) : Text :=
  (List.range 64).map fun index => Char.ofNat (keyByte key index ^^^ mask)

/-- `nibble`. -/
def nibble (value : Char) : Nat :=
  if 'a' ≤ value then value.toNat - 'a'.toNat + 10 else value.toNat - '0'.toNat

/-- The bytes that pairs of hexadecimal digits spell. -/
def unhex : Text → Text
  | high :: low :: rest => Char.ofNat ((nibble high <<< 4 ||| nibble low) % 256) :: unhex rest
  | _ => []

/-- `hmac_sha256_hex`. -/
def hmacSha256Hex (key : Key) (data : Text) : Text :=
  sha256Hex (keyPad key 0x5c ++ unhex (sha256Hex (keyPad key 0x36 ++ data)))

/-! ## §4. The shape of a digest. -/

/-- A lowercase hexadecimal digit. -/
def isHex (c : Char) : Bool := ('0' ≤ c && c ≤ '9') || ('a' ≤ c && c ≤ 'f')

theorem isHex_hexDigit (n : Nat) : isHex (hexDigit n) = true := by
  have hdigits : ∀ m < 16, isHex ("0123456789abcdef".toList.getD m '0') = true := by decide
  unfold hexDigit
  by_cases h : n < 16
  · exact hdigits n h
  · rw [List.getD_eq_default _ _ (Nat.le_of_not_lt h)]
    decide

/-- **A digest has 64 digits.** -/
@[simp] theorem sha256Hex_length (text : Text) : (sha256Hex text).length = 64 := by
  unfold sha256Hex
  simp [List.length_flatMap]

/-- Every one of them is lowercase hexadecimal. -/
theorem sha256Hex_digits (text : Text) : ∀ c ∈ sha256Hex text, isHex c = true := by
  intro c hc
  unfold sha256Hex at hc
  simp only [List.mem_flatMap, List.mem_cons, List.not_mem_nil, or_false] at hc
  obtain ⟨i, -, rfl | rfl⟩ := hc
  · exact isHex_hexDigit _
  · exact isHex_hexDigit _

@[simp] theorem hmacSha256Hex_length (key : Key) (data : Text) :
    (hmacSha256Hex key data).length = 64 := sha256Hex_length _

theorem hmacSha256Hex_digits (key : Key) (data : Text) :
    ∀ c ∈ hmacSha256Hex key data, isHex c = true := sha256Hex_digits _

end OpenArm.Manifest
