/-
  OpenArm.Portal.Sha256 — the digest of `openarm_portal.cpp`.

  The portal checks its assets with a digest of its own.  It grows the message
  byte by byte, keeps the schedule and the working words in arrays, and prints
  the words through a stream.

  Main results:
    * `words_exact`   — the two loops over `words` are the message schedule.
    * `sha256_exact`  — `sha256` is the standard's digest.
    * `digests_exact` — so are `sha256_hex` and `hmac_sha256_hex` of the runtime.
-/
import OpenArm.Manifest.DigestExact
import Mathlib

namespace OpenArm.Portal

open OpenArm.Lib OpenArm.Lib.Sha256

/-! ## §1. The source. -/

/-- `rotate_right`. -/
def rotateRight (value : Word) (count : Nat) : Word := value >>> count ||| value <<< (32 - count)

/-- `constants`. -/
def constants : List Word := [
  0x428a2f98, 0x71374491, 0xb5c0fbcf, 0xe9b5dba5, 0x3956c25b, 0x59f111f1,
  0x923f82a4, 0xab1c5ed5, 0xd807aa98, 0x12835b01, 0x243185be, 0x550c7dc3,
  0x72be5d74, 0x80deb1fe, 0x9bdc06a7, 0xc19bf174, 0xe49b69c1, 0xefbe4786,
  0x0fc19dc6, 0x240ca1cc, 0x2de92c6f, 0x4a7484aa, 0x5cb0a9dc, 0x76f988da,
  0x983e5152, 0xa831c66d, 0xb00327c8, 0xbf597fc7, 0xc6e00bf3, 0xd5a79147,
  0x06ca6351, 0x14292967, 0x27b70a85, 0x2e1b2138, 0x4d2c6dfc, 0x53380d13,
  0x650a7354, 0x766a0abb, 0x81c2c92e, 0x92722c85, 0xa2bfe8a1, 0xa81a664b,
  0xc24b8b70, 0xc76c51a3, 0xd192e819, 0xd6990624, 0xf40e3585, 0x106aa070,
  0x19a4c116, 0x1e376c08, 0x2748774c, 0x34b0bcb5, 0x391c0cb3, 0x4ed8aa4a,
  0x5b9cca4f, 0x682e6ff3, 0x748f82ee, 0x78a5636f, 0x84c87814, 0x8cc70208,
  0x90befffa, 0xa4506ceb, 0xbef9a3f7, 0xc67178f2]

/-- The initial `state`. -/
def initialState : List Word :=
  [0x6a09e667, 0xbb67ae85, 0x3c6ef372, 0xa54ff53a, 0x510e527f, 0x9b05688c, 0x1f83d9ab, 0x5be0cd19]

/-- `while ((bytes.size() % 64U) != 56U) {bytes.push_back(0U);}`: fewer than 64
    turns reach it. -/
def fillTo56 : Nat → List UInt8 → List UInt8
  | 0, bytes => bytes
  | turns + 1, bytes =>
    if bytes.length % 64 ≠ 56 then fillTo56 turns (bytes ++ [0]) else bytes

/-- `bytes`, once it is padded. -/
def paddedBytes (input : List UInt8) : List UInt8 :=
  let bitLength := BitVec.ofNat 64 (input.length * 8)
  let bytes := fillTo56 64 (input ++ [0x80])
  (List.range 8).foldl
    (fun bytes i => bytes ++ [UInt8.ofBitVec ((bitLength >>> (56 - 8 * i) &&& 0xff).setWidth 8)])
    bytes

/-- An element of an array. -/
def element (words : List Word) (index : Nat) : Word := words.getD index 0

/-- Four bytes of `bytes` from `at` on. -/
def loadWord (bytes : List UInt8) (at_ : Nat) : Word :=
  let byte (index : Nat) : Word := (bytes.getD index 0).toBitVec.setWidth 32
  byte at_ <<< 24 ||| byte (at_ + 1) <<< 16 ||| byte (at_ + 2) <<< 8 ||| byte (at_ + 3)

/-- The first loop over `words`. -/
def loadWords (bytes : List UInt8) (offset : Nat) (words : List Word) : List Word :=
  (List.range 16).foldl (fun words index => words.set index (loadWord bytes (offset + index * 4)))
    words

/-- A turn of the second loop. -/
def extend (words : List Word) (index : Nat) : List Word :=
  let s0 := rotateRight (element words (index - 15)) 7 ^^^
    rotateRight (element words (index - 15)) 18 ^^^ element words (index - 15) >>> 3
  let s1 := rotateRight (element words (index - 2)) 17 ^^^
    rotateRight (element words (index - 2)) 19 ^^^ element words (index - 2) >>> 10
  words.set index (element words (index - 16) + s0 + element words (index - 7) + s1)

/-- `words` after both loops. -/
def wordsOf (bytes : List UInt8) (offset : Nat) : List Word :=
  (List.range' 16 48).foldl extend (loadWords bytes offset (List.replicate 64 0))

/-- `for (word = 7U; word > 0U; --word) {working[word] = working[word - 1U];}` -/
def shift (working : List Word) : List Word :=
  (List.range 7).foldl (fun working i => working.set (7 - i) (element working (6 - i))) working

/-- A turn of the loop over the words. -/
def turn (words working : List Word) (index : Nat) : List Word :=
  let sum1 := rotateRight (element working 4) 6 ^^^ rotateRight (element working 4) 11 ^^^
    rotateRight (element working 4) 25
  let choice := (element working 4 &&& element working 5) ^^^
    (~~~element working 4 &&& element working 6)
  let temporary1 := element working 7 + sum1 + choice + element constants index +
    element words index
  let sum0 := rotateRight (element working 0) 2 ^^^ rotateRight (element working 0) 13 ^^^
    rotateRight (element working 0) 22
  let majority := (element working 0 &&& element working 1) ^^^
    (element working 0 &&& element working 2) ^^^ (element working 1 &&& element working 2)
  let temporary2 := sum0 + majority
  let working := shift working
  let working := working.set 4 (element working 4 + temporary1)
  working.set 0 (temporary1 + temporary2)

/-- A turn of the loop over the blocks. -/
def absorbBlock (bytes : List UInt8) (state : List Word) (offset : Nat) : List Word :=
  let words := wordsOf bytes offset
  let working := (List.range 64).foldl (turn words) state
  (List.range 8).foldl
    (fun state index => state.set index (element state index + element working index)) state

/-- `output << std::setw(8) << word` in hexadecimal, filled with zeros. -/
def printWord (word : Word) : List Char :=
  let digits := Nat.toDigits 16 word.toNat
  List.replicate (8 - digits.length) '0' ++ digits

/-- `sha256`: the padded message is a number of whole blocks. -/
def sha256 (input : List UInt8) : List Char :=
  let bytes := paddedBytes input
  let state := (List.range (bytes.length / 64)).foldl
    (fun state i => absorbBlock bytes state (64 * i)) initialState
  state.flatMap printWord

/-! ## §2. The padding. -/

/-- The zeros that are pushed. -/
theorem fillTo56_eq (turns : Nat) : ∀ bytes : List UInt8,
    (56 + 64 - bytes.length % 64) % 64 ≤ turns →
    fillTo56 turns bytes = bytes ++ List.replicate ((56 + 64 - bytes.length % 64) % 64) 0 := by
  induction turns with
  | zero =>
    intro bytes h
    rw [Nat.le_zero.mp h, List.replicate_zero, List.append_nil]
    rfl
  | succ turns ih =>
    intro bytes h
    unfold fillTo56
    split
    · next hmore =>
      have hlength : (bytes ++ [0]).length = bytes.length + 1 := by simp
      have hcount : (56 + 64 - bytes.length % 64) % 64 =
          (56 + 64 - (bytes ++ [0]).length % 64) % 64 + 1 := by
        rw [hlength]
        omega
      rw [ih _ (by omega), hcount, List.append_assoc, List.replicate_succ]
      rfl
    · next hdone =>
      have hcount : (56 + 64 - bytes.length % 64) % 64 = 0 := by omega
      rw [hcount, List.replicate_zero, List.append_nil]

theorem foldl_push {α β : Type} (f : α → β) (l : List α) : ∀ start : List β,
    l.foldl (fun out i => out ++ [f i]) start = start ++ l.map f := by
  induction l with
  | nil => exact fun start => (List.append_nil start).symm
  | cons i l ih =>
    intro start
    rw [List.foldl_cons, ih, List.append_assoc]
    rfl

/-- **The message is padded as the standard says.** -/
theorem paddedBytes_exact (input : List UInt8) : paddedBytes input = padBytes input := by
  have hlength : (input ++ [0x80]).length = input.length + 1 := by simp
  have hzeros : (56 + 64 - (input ++ [0x80]).length % 64) % 64 = zeroBytes input.length := by
    rw [hlength]
    unfold zeroBytes
    omega
  have hmask : ∀ x : BitVec 64, (x &&& 0xff).setWidth 8 = x.setWidth 8 := by
    intro x
    refine BitVec.eq_of_getLsbD_eq fun i hi => ?_
    interval_cases i <;> simp
  unfold paddedBytes padBytes lengthBytes
  dsimp only
  rw [foldl_push, fillTo56_eq _ _ (by omega), hzeros, Nat.mul_comm, List.append_assoc input]
  simp only [hmask]
  rfl

/-! ## §3. A block. -/

theorem rotateRight_exact (x : Word) {count : Nat} (h : count < 32) :
    rotateRight x count = x.rotateRight count := by
  rw [BitVec.rotateRight_eq_rotateRightAux_of_lt h]
  rfl

theorem element_set (words : List Word) (index : Nat) (word : Word) (other : Nat)
    (h : index < words.length) :
    element (words.set index word) other = if other = index then word else element words other := by
  unfold element
  rw [List.getD_eq_getElem?_getD, List.getD_eq_getElem?_getD, List.getElem?_set]
  by_cases heq : index = other
  · rw [if_pos heq, if_pos heq.symm, if_pos h]
    rfl
  · rw [if_neg heq, if_neg (Ne.symm heq)]

/-- The first loop loads the words of the block. -/
theorem loadWords_exact (bytes : List UInt8) (offset : Nat) :
    (loadWords bytes offset (List.replicate 64 0)).length = 64 ∧ ∀ t < 16,
      element (loadWords bytes offset (List.replicate 64 0)) t = byteWord bytes (offset + 4 * t) := by
  have hloop : ∀ n ≤ 16,
      ((List.range n).foldl (fun words index => words.set index
        (loadWord bytes (offset + index * 4))) (List.replicate 64 0)).length = 64 ∧
      ∀ t < n, element ((List.range n).foldl (fun words index => words.set index
        (loadWord bytes (offset + index * 4))) (List.replicate 64 0)) t =
          byteWord bytes (offset + 4 * t) := by
    intro n
    induction n with
    | zero =>
      intro _
      exact ⟨rfl, fun t ht => absurd ht (Nat.not_lt_zero t)⟩
    | succ n ih =>
      intro hn
      obtain ⟨hlength, hwords⟩ := ih (by omega)
      rw [List.range_succ, List.foldl_append]
      refine ⟨by rw [List.foldl_cons, List.foldl_nil, List.length_set, hlength], ?_⟩
      intro t ht
      rw [List.foldl_cons, List.foldl_nil, element_set _ _ _ _ (by omega)]
      split
      · next heq =>
        rw [heq, Nat.mul_comm]
        rfl
      · next hne => exact hwords t (by omega)
  exact hloop 16 (le_refl 16)

/-- **The two loops over `words` are the message schedule.** -/
theorem words_exact (bytes : List UInt8) (offset : Nat) : ∀ t < 64,
    element (wordsOf bytes offset) t = schedule (fun t => byteWord bytes (offset + 4 * t)) t := by
  set block : Nat → Word := fun t => byteWord bytes (offset + 4 * t) with hblock
  obtain ⟨hlength, hfirst⟩ := loadWords_exact bytes offset
  have hloaded : ∀ t < 16, element (loadWords bytes offset (List.replicate 64 0)) t = block t :=
    hfirst
  unfold wordsOf
  generalize loadWords bytes offset (List.replicate 64 0) = loaded at hlength hloaded
  have hloop : ∀ n ≤ 48, ((List.range' 16 n).foldl extend loaded).length = 64 ∧
      ∀ t < 16 + n, element ((List.range' 16 n).foldl extend loaded) t = schedule block t := by
    intro n
    induction n with
    | zero =>
      intro _
      rw [List.range'_zero, List.foldl_nil]
      refine ⟨hlength, fun t ht => ?_⟩
      rw [schedule_of_lt ht]
      exact hloaded t ht
    | succ n ih =>
      intro hn
      obtain ⟨hlength, hwords⟩ := ih (by omega)
      rw [List.range'_concat, List.foldl_append, List.foldl_cons, List.foldl_nil, Nat.one_mul]
      generalize (List.range' 16 n).foldl extend loaded = words at hlength hwords
      refine ⟨by rw [extend, List.length_set, hlength], ?_⟩
      intro t ht
      unfold extend
      rw [element_set _ _ _ _ (by omega)]
      split
      · next heq =>
        rw [heq, hwords _ (by omega), hwords _ (by omega), hwords _ (by omega),
          hwords _ (by omega), show 16 + n = n + 16 by omega, schedule_add]
        simp only [rotateRight_exact _ (show 7 < 32 by decide),
          rotateRight_exact _ (show 18 < 32 by decide),
          rotateRight_exact _ (show 17 < 32 by decide),
          rotateRight_exact _ (show 19 < 32 by decide)]
        rw [show n + 16 - 16 = n by omega, show n + 16 - 15 = n + 1 by omega,
          show n + 16 - 7 = n + 9 by omega, show n + 16 - 2 = n + 14 by omega]
        unfold smallSigma0 smallSigma1
        ac_rfl
      · next hne => exact hwords t (by omega)
  exact (hloop 48 (le_refl 48)).2

/-- A turn of the loop is a round. -/
theorem turn_exact (words : List Word) (s : Work) (t : Nat) :
    turn words s.words t = (s.step (element constants t) (element words t)).words := by
  have hrotate : ∀ (x : Word) (count : Nat), count < 32 →
      x >>> count ||| x <<< (32 - count) = x.rotateRight count := fun x count h =>
    rotateRight_exact x h
  unfold turn rotateRight
  simp only [hrotate _ 6 (by decide), hrotate _ 11 (by decide), hrotate _ 25 (by decide),
    hrotate _ 2 (by decide), hrotate _ 13 (by decide), hrotate _ 22 (by decide)]
  rfl

/-- `constants` are those of the standard. -/
theorem constants_exact : ∀ t < 64, element constants t = roundConstant t := by
  have hwords : ∀ t < 64, (element constants t).toNat = Manifest.roundConstants.getD t 0 := by
    decide +kernel
  intro t ht
  refine BitVec.eq_of_toNat_eq ((hwords t ht).trans ?_)
  rw [Manifest.constants_exact, List.getD_eq_getElem _ _ (by simpa using ht), List.getElem_map,
    List.getElem_range]

theorem initialState_exact : initialState = Work.initial.words := by
  have hwords : initialState.map BitVec.toNat = Manifest.HashState.initial.words := by
    decide +kernel
  rw [Manifest.initial_exact] at hwords
  exact List.map_injective_iff.mpr (fun _ _ => BitVec.eq_of_toNat_eq) hwords

/-- The loop over the words, as far as it has come. -/
theorem turns_exact (words : List Word) (block : Nat → Word)
    (hwords : ∀ t < 64, element words t = schedule block t) (s : Work) : ∀ n ≤ 64,
    (List.range n).foldl (turn words) s.words =
      ((List.range n).foldl (fun s t => s.step (roundConstant t) (schedule block t)) s).words := by
  intro n
  induction n with
  | zero => exact fun _ => rfl
  | succ n ih =>
    intro hn
    rw [List.range_succ, List.foldl_append, List.foldl_append, ih (by omega), List.foldl_cons,
      List.foldl_nil, List.foldl_cons, List.foldl_nil, turn_exact, constants_exact n (by omega),
      hwords n (by omega)]

/-- The eight sums at the end of a block. -/
theorem sums_exact (s turned : Work) : (List.range 8).foldl (fun state index =>
    state.set index (element state index + element turned.words index)) s.words =
      (s.add turned).words := rfl

/-- **A block is compressed.** -/
theorem absorbBlock_exact (bytes : List UInt8) (s : Work) (offset : Nat) :
    absorbBlock bytes s.words offset =
      (compress s fun t => byteWord bytes (offset + 4 * t)).words := by
  have hturns := turns_exact (wordsOf bytes offset) _ (words_exact bytes offset) s 64 (le_refl 64)
  unfold absorbBlock compress Sha256.rounds
  dsimp only
  rw [hturns, sums_exact]

/-! ## §4. The text. -/

/-- Digits filled up with zeros. -/
def filled (width n : Nat) : List Char :=
  List.replicate (width - (Nat.toDigits 16 n).length) '0' ++ Nat.toDigits 16 n

theorem filled_one {n : Nat} (h : n < 16) : filled 1 n = [Nat.digitChar n] := by
  unfold filled
  rw [Nat.toDigits_of_lt_base h]
  rfl

/-- The last digit stands apart. -/
theorem filled_succ (width n : Nat) :
    filled (width + 2) n = filled (width + 1) (n / 16) ++ [Nat.digitChar (n % 16)] := by
  unfold filled
  by_cases h : n < 16
  · rw [Nat.toDigits_of_lt_base h, Nat.div_eq_of_lt h, Nat.mod_eq_of_lt h, Nat.toDigits_zero]
    show List.replicate (width + 1) '0' ++ _ = List.replicate width '0' ++ ['0'] ++ _
    rw [List.replicate_succ']
  · rw [Nat.toDigits_of_base_le (by decide) (not_lt.mp h), List.length_append,
      List.length_singleton, show width + 2 - ((Nat.toDigits 16 (n / 16)).length + 1) =
        width + 1 - (Nat.toDigits 16 (n / 16)).length by omega, List.append_assoc]

/-- **A word is printed as its four bytes.** -/
theorem printWord_exact (word : Word) : printWord word = hexText (wordBytes word) := by
  have hlt : word.toNat < 2 ^ 32 := word.isLt
  have hprint : printWord word = filled 8 word.toNat := rfl
  have hbyte : ∀ i, (UInt8.ofBitVec ((word >>> (24 - 8 * i)).setWidth 8)).toNat =
      word.toNat / 2 ^ (24 - 8 * i) % 256 := by
    intro i
    show ((word >>> (24 - 8 * i)).setWidth 8).toNat = _
    rw [BitVec.toNat_setWidth, BitVec.toNat_ushiftRight, Nat.shiftRight_eq_div_pow]
  have hbytes : hexText (wordBytes word) = [0, 1, 2, 3].flatMap fun i =>
      [Nat.digitChar (word.toNat / 2 ^ (24 - 8 * i) % 256 / 16),
        Nat.digitChar (word.toNat / 2 ^ (24 - 8 * i) % 256 % 16)] := by
    simp only [← hbyte]
    rfl
  rw [hprint, hbytes, filled_succ, filled_succ, filled_succ, filled_succ, filled_succ,
    filled_succ, filled_succ, filled_one (by omega)]
  simp only [List.flatMap_cons, List.flatMap_nil, List.cons_append, List.nil_append,
    List.append_nil, List.cons.injEq, and_true]
  refine ⟨?_, ?_, ?_, ?_, ?_, ?_, ?_, ?_⟩ <;> congr 1 <;> omega

/-- **`sha256` is the standard's digest.** -/
theorem sha256_exact (input : List UInt8) : sha256 input = hexText (digest input) := by
  have hblocks : ∀ (n : Nat) (s : Work), (List.range n).foldl (fun state i =>
      absorbBlock (padBytes input) state (64 * i)) s.words =
        (absorb n (padBytes input) s).words := by
    intro n s
    unfold absorb
    induction n with
    | zero => rfl
    | succ n ih =>
      rw [List.range_succ, List.foldl_append, List.foldl_append, ih, List.foldl_cons,
        List.foldl_nil, List.foldl_cons, List.foldl_nil, absorbBlock_exact]
  have hprint : ∀ words : List Word, words.flatMap printWord =
      hexText (words.flatMap wordBytes) := by
    intro words
    unfold hexText
    rw [List.flatMap_assoc]
    exact List.flatMap_congr fun word _ => printWord_exact word
  unfold sha256 digest
  dsimp only
  rw [paddedBytes_exact, initialState_exact, hblocks, hash_bitsOf, hprint]

/-- **Both digests are the standard's SHA-256, and the keyed digest is the
    standard one over it**, for every message and every key. -/
theorem digests_exact :
    (∀ text : Manifest.Text,
      Manifest.sha256Hex text = hexText (digest (Manifest.charBytes text)) ∧
        sha256 (Manifest.charBytes text) = Manifest.sha256Hex text) ∧
    (∀ input : List UInt8, sha256 input = hexText (digest input)) ∧
    ∀ (key : Manifest.Key) (data : Manifest.Text), Manifest.hmacSha256Hex key data =
      hexText (hmac digest 64 (List.ofFn key) (Manifest.charBytes data)) :=
  ⟨fun text => ⟨Manifest.sha256Hex_exact text,
      (sha256_exact _).trans (Manifest.sha256Hex_exact text).symm⟩,
    sha256_exact, Manifest.hmacSha256Hex_exact⟩

end OpenArm.Portal
