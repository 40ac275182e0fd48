/-
  OpenArm.Lib.Sha256 — the Secure Hash Standard's SHA-256, and keyed digests.

  A message is a string of bits.  It is padded to whole blocks of 512 bits,
  and each block is compressed into eight words of 32 bits.  The constants are
  computed from the roots they are the fractions of.  Messages of whole bytes
  are padded with whole bytes, and their words are read four bytes at a time.

  Main results:
    * `pad_bitsOf`      — the padding of a message of bytes.
    * `hash_bitsOf`     — its digest, block by block.
    * `rootFloor_spec`  — the roots the constants come from.
-/
import Mathlib

namespace OpenArm.Lib.Sha256

/-! ## §1. Functions and constants. -/

/-- A word. -/
abbrev Word := BitVec 32

def ch (x y z : Word) : Word := (x &&& y) ^^^ (~~~x &&& z)

def maj (x y z : Word) : Word := (x &&& y) ^^^ (x &&& z) ^^^ (y &&& z)

def bigSigma0 (x : Word) : Word := x.rotateRight 2 ^^^ x.rotateRight 13 ^^^ x.rotateRight 22

def bigSigma1 (x : Word) : Word := x.rotateRight 6 ^^^ x.rotateRight 11 ^^^ x.rotateRight 25

def smallSigma0 (x : Word) : Word := x.rotateRight 7 ^^^ x.rotateRight 18 ^^^ x >>> 3

def smallSigma1 (x : Word) : Word := x.rotateRight 17 ^^^ x.rotateRight 19 ^^^ x >>> 10

/-- The first sixty-four primes. -/
def firstPrimes : List Nat :=
  (List.range 312).filter fun n => 2 ≤ n && (List.range n).all fun d => d < 2 || n % d != 0

/-- A number below 18 * 18 without a proper divisor below 18 has none. -/
theorem properDivisors_iff {n : Nat} (hn : n < 18 * 18) :
    ((List.range n).all fun d => d < 2 || n % d != 0) =
      (List.range 18).all fun d => d < 2 || n ≤ d || n % d != 0 := by
  rw [Bool.eq_iff_iff]
  simp only [List.all_eq_true, List.mem_range, Bool.or_eq_true, decide_eq_true_eq, bne_iff_ne]
  constructor
  · intro h d _
    by_cases hsmall : n ≤ d
    · exact Or.inl (Or.inr hsmall)
    · rcases h d (by omega) with hd | hd
      · exact Or.inl (Or.inl hd)
      · exact Or.inr hd
  · intro h d hd
    by_contra hdivides
    obtain ⟨htwo, hmod⟩ : 2 ≤ d ∧ n % d = 0 := by omega
    -- the divisor or its partner is below 18
    obtain ⟨e, rfl⟩ := Nat.dvd_of_mod_eq_zero hmod
    have hpartner : 2 ≤ e := by
      by_contra hfew
      obtain rfl | rfl : e = 0 ∨ e = 1 := by omega
      · omega
      · omega
    by_cases hd18 : d < 18
    · rcases h d hd18 with (hlow | hlow) | hlow
      · omega
      · omega
      · exact hlow hmod
    · have he18 : e < 18 := Nat.lt_of_mul_lt_mul_left
        (Nat.lt_of_lt_of_le hn (Nat.mul_le_mul_right 18 (by omega)))
      rcases h e he18 with (hlow | hlow) | hlow
      · omega
      · have hless : 1 * e < d * e := Nat.mul_lt_mul_of_pos_right (by omega) (by omega)
        omega
      · exact hlow (Nat.mul_mod_left d e)

theorem firstPrimes_eq : firstPrimes = [
    2, 3, 5, 7, 11, 13, 17, 19, 23, 29, 31, 37, 41, 43, 47, 53, 59, 61, 67, 71, 73, 79, 83, 89, 97,
    101, 103, 107, 109, 113, 127, 131, 137, 139, 149, 151, 157, 163, 167, 173, 179, 181, 191, 193,
    197, 199, 211, 223, 227, 229, 233, 239, 241, 251, 257, 263, 269, 271, 277, 281, 283, 293, 307,
    311] := by
  have hsieve : firstPrimes = (List.range 312).filter fun n => 2 ≤ n &&
      (List.range 18).all fun d => d < 2 || n ≤ d || n % d != 0 := by
    refine List.filter_congr fun n hn => ?_
    have hn := List.mem_range.mp hn
    rw [properDivisors_iff (by omega)]
  rw [hsieve]
  decide +kernel

/-- The greatest number whose power does not exceed `x`, bit by bit from above. -/
def rootFloor (power x : Nat) : Nat → Nat → Nat
  | 0, found => found
  | bits + 1, found =>
    if (found + 2 ^ bits) ^ power ≤ x then rootFloor power x bits (found + 2 ^ bits)
    else rootFloor power x bits found

/-- The search ends at the root rounded down. -/
theorem rootFloor_spec {power x : Nat} (bits : Nat) : ∀ found, found ^ power ≤ x →
    x < (found + 2 ^ bits) ^ power →
    rootFloor power x bits found ^ power ≤ x ∧ x < (rootFloor power x bits found + 1) ^ power := by
  induction bits with
  | zero => exact fun found hlow hhigh => ⟨hlow, hhigh⟩
  | succ bits ih =>
    intro found hlow hhigh
    unfold rootFloor
    split
    · next hfits =>
      refine ih _ hfits ?_
      have hdouble : found + 2 ^ bits + 2 ^ bits = found + 2 ^ (bits + 1) := by omega
      rwa [hdouble]
    · next hlarge => exact ih _ hlow (not_le.mp hlarge)

/-- The first 32 bits of the fraction of the root of a number. -/
def rootFraction (power n : Nat) : Word :=
  BitVec.ofNat 32 (rootFloor power (n * 2 ^ (32 * power)) 40 0)

/-- A word is the fraction of a root as soon as some integral part in front of
    it makes it the root rounded down. -/
theorem rootFraction_eq {power n : Nat} {fraction : Word}
    (h : ∃ i < 64, (i * 2 ^ 32 + fraction.toNat) ^ power ≤ n * 2 ^ (32 * power) ∧
      n * 2 ^ (32 * power) < (i * 2 ^ 32 + fraction.toNat + 1) ^ power) :
    rootFraction power n = fraction := by
  obtain ⟨i, hi, hlow, hhigh⟩ := h
  have hword : fraction.toNat < 2 ^ 32 := fraction.isLt
  have hpower : power ≠ 0 := by
    intro hzero
    simp only [hzero, pow_zero, Nat.mul_zero, Nat.mul_one] at hlow hhigh
    omega
  have hbound : n * 2 ^ (32 * power) < (0 + 2 ^ 40) ^ power :=
    Nat.lt_of_lt_of_le hhigh (Nat.pow_le_pow_left (by omega) power)
  obtain ⟨hbelow, habove⟩ := rootFloor_spec 40 0 (by rw [zero_pow hpower]; omega) hbound
  have hroot : rootFloor power (n * 2 ^ (32 * power)) 40 0 = i * 2 ^ 32 + fraction.toNat := by
    have hle := lt_of_pow_lt_pow_left₀ power (Nat.zero_le _) (Nat.lt_of_le_of_lt hbelow hhigh)
    have hge := lt_of_pow_lt_pow_left₀ power (Nat.zero_le _) (Nat.lt_of_le_of_lt hlow habove)
    omega
  unfold rootFraction
  rw [hroot]
  apply BitVec.eq_of_toNat_eq
  rw [BitVec.toNat_ofNat]
  omega

/-- The constants: the fractions of the cube roots of the first primes. -/
def roundConstant (t : Nat) : Word := rootFraction 3 (firstPrimes.getD t 0)

/-- Eight words. -/
structure Work where
  a : Word
  b : Word
  c : Word
  d : Word
  e : Word
  f : Word
  g : Word
  h : Word

/-- The words in order. -/
def Work.words (s : Work) : List Word := [s.a, s.b, s.c, s.d, s.e, s.f, s.g, s.h]

/-- The initial hash value: the fractions of the square roots. -/
def Work.initial : Work :=
  ⟨rootFraction 2 2, rootFraction 2 3, rootFraction 2 5, rootFraction 2 7, rootFraction 2 11,
    rootFraction 2 13, rootFraction 2 17, rootFraction 2 19⟩

/-! ## §2. Compression. -/

/-- The message schedule of a block with the words `block`. -/
def schedule (block : Nat → Word) (t : Nat) : Word :=
  if t < 16 then block t
  else smallSigma1 (schedule block (t - 2)) + schedule block (t - 7) +
    smallSigma0 (schedule block (t - 15)) + schedule block (t - 16)
termination_by t

theorem schedule_of_lt {block : Nat → Word} {t : Nat} (h : t < 16) :
    schedule block t = block t := by
  rw [schedule, if_pos h]

theorem schedule_add (block : Nat → Word) (t : Nat) :
    schedule block (t + 16) = smallSigma1 (schedule block (t + 14)) + schedule block (t + 9) +
      smallSigma0 (schedule block (t + 1)) + schedule block t := by
  rw [schedule, if_neg (by omega)]
  rfl

/-- One round. -/
def Work.step (s : Work) (constant word : Word) : Work :=
  let t1 := s.h + bigSigma1 s.e + ch s.e s.f s.g + constant + word
  let t2 := bigSigma0 s.a + maj s.a s.b s.c
  ⟨t1 + t2, s.a, s.b, s.c, s.d + t1, s.e, s.f, s.g⟩

def Work.add (s t : Work) : Work :=
  ⟨s.a + t.a, s.b + t.b, s.c + t.c, s.d + t.d, s.e + t.e, s.f + t.f, s.g + t.g, s.h + t.h⟩

/-- The rounds of a block. -/
def rounds (block : Nat → Word) (s : Work) : Work :=
  (List.range 64).foldl (fun s t => s.step (roundConstant t) (schedule block t)) s

/-- One block is absorbed. -/
def compress (s : Work) (block : Nat → Word) : Work := s.add (rounds block s)

/-! ## §3. Messages. -/

/-- The bits of a word, the most significant one first. -/
def wordBits {n : Nat} (x : BitVec n) : List Bool := (List.range n).map x.getMsbD

/-- How many zeros follow the one that ends a message of this length. -/
def zeroCount (length : Nat) : Nat := (447 + 512 - length % 512) % 512

/-- It is the least number that leaves 64 bits of a block. -/
theorem zeroCount_spec (length : Nat) : (length + 1 + zeroCount length) % 512 = 448 ∧
    ∀ k, (length + 1 + k) % 512 = 448 → zeroCount length ≤ k := by
  unfold zeroCount
  constructor
  · omega
  · intro k hk
    omega

/-- The padded message ends with its length, for messages below 2^64 bits. -/
def pad (m : List Bool) : List Bool :=
  m ++ true :: List.replicate (zeroCount m.length) false ++ wordBits (BitVec.ofNat 64 m.length)

/-- Word `t` of block `i`. -/
def blockWord (m : List Bool) (i t : Nat) : Word :=
  BitVec.ofFnBE fun j : Fin 32 => m.getD (512 * i + 32 * t + j) false

/-- The hash value of a message. -/
def hash (m : List Bool) : Work :=
  (List.range ((pad m).length / 512)).foldl (fun s i => compress s (blockWord (pad m) i))
    Work.initial

/-! ## §4. Bytes. -/

/-- The bits of a byte, the most significant one first. -/
def byteBits (b : UInt8) : List Bool := wordBits b.toBitVec

/-- The bits of a string of bytes. -/
def bitsOf (m : List UInt8) : List Bool := m.flatMap byteBits

/-- The bytes of a word, the most significant one first. -/
def wordBytes (w : Word) : List UInt8 :=
  (List.range 4).map fun i => UInt8.ofBitVec ((w >>> (24 - 8 * i)).setWidth 8)

/-- The digest of a string of bytes: the eight words of its hash value. -/
def digest (m : List UInt8) : List UInt8 := (hash (bitsOf m)).words.flatMap wordBytes

@[simp] theorem byteBits_length (b : UInt8) : (byteBits b).length = 8 := by
  simp [byteBits, wordBits]

@[simp] theorem bitsOf_length (m : List UInt8) : (bitsOf m).length = 8 * m.length := by
  induction m with
  | nil => rfl
  | cons b m ih =>
    show (byteBits b ++ bitsOf m).length = _
    rw [List.length_append, byteBits_length, ih, List.length_cons]
    omega

theorem bitsOf_append (m n : List UInt8) : bitsOf (m ++ n) = bitsOf m ++ bitsOf n :=
  List.flatMap_append

/-- A bit of a string stands in one of its bytes. -/
theorem bitsOf_getD (m : List UInt8) : ∀ i j, j < 8 →
    (bitsOf m).getD (8 * i + j) false = (m.getD i 0).toBitVec.getMsbD j := by
  induction m with
  | nil =>
    intro i j _
    simp [bitsOf]
  | cons b m ih =>
    intro i j hj
    show (byteBits b ++ bitsOf m).getD (8 * i + j) false = _
    cases i with
    | zero =>
      rw [List.getD_append _ _ _ _ (by simp; omega)]
      simp [byteBits, wordBits, hj]
    | succ i =>
      rw [List.getD_append_right _ _ _ _ (by simp; omega), byteBits_length,
        show 8 * (i + 1) + j - 8 = 8 * i + j by omega, ih i j hj]
      rfl

/-- Four bytes from a place on, as a word. -/
def byteWord (m : List UInt8) (at_ : Nat) : Word :=
  (m.getD at_ 0).toBitVec.setWidth 32 <<< 24 |||
    (m.getD (at_ + 1) 0).toBitVec.setWidth 32 <<< 16 |||
    (m.getD (at_ + 2) 0).toBitVec.setWidth 32 <<< 8 ||| (m.getD (at_ + 3) 0).toBitVec.setWidth 32

/-- A byte put in place `c` of a word fills the bits of this place only. -/
theorem getMsbD_placed (b : UInt8) {c k j : Nat} (hc : c < 4) (hk : k < 4) (hj : j < 8) :
    (b.toBitVec.setWidth 32 <<< (24 - 8 * c)).getMsbD (8 * k + j) =
      (decide (c = k) && b.toBitVec.getMsbD j) := by
  have hindex : 32 - 1 - (8 * k + j) < 32 := by omega
  unfold BitVec.getMsbD
  rw [BitVec.getLsbD_shiftLeft, BitVec.getLsbD_setWidth, decide_eq_true hindex,
    decide_eq_true (show 8 * k + j < 32 by omega), decide_eq_true hj]
  rcases lt_trichotomy c k with hless | rfl | hmore
  · rw [decide_eq_true (show 32 - 1 - (8 * k + j) < 24 - 8 * c by omega),
      decide_eq_false (show ¬c = k by omega)]
    rfl
  · rw [decide_eq_false (show ¬32 - 1 - (8 * c + j) < 24 - 8 * c by omega),
      decide_eq_true (show 32 - 1 - (8 * c + j) - (24 - 8 * c) < 32 by omega),
      show 32 - 1 - (8 * c + j) - (24 - 8 * c) = 8 - 1 - j by omega, decide_eq_true rfl]
    rfl
  · rw [BitVec.getLsbD_of_ge _ _ (show 8 ≤ 32 - 1 - (8 * k + j) - (24 - 8 * c) by omega),
      decide_eq_false (show ¬c = k by omega), Bool.and_false, Bool.and_false, Bool.and_false,
      Bool.false_and]

/-- The bits of the word are those of its bytes. -/
theorem byteWord_getMsbD (m : List UInt8) (at_ : Nat) {k j : Nat} (hk : k < 4) (hj : j < 8) :
    (byteWord m at_).getMsbD (8 * k + j) = (m.getD (at_ + k) 0).toBitVec.getMsbD j := by
  have hplaces : byteWord m at_ =
      (m.getD (at_ + 0) 0).toBitVec.setWidth 32 <<< (24 - 8 * 0) |||
        (m.getD (at_ + 1) 0).toBitVec.setWidth 32 <<< (24 - 8 * 1) |||
        (m.getD (at_ + 2) 0).toBitVec.setWidth 32 <<< (24 - 8 * 2) |||
        (m.getD (at_ + 3) 0).toBitVec.setWidth 32 <<< (24 - 8 * 3) := by
    unfold byteWord
    rw [show 24 - 8 * 3 = 0 from rfl, BitVec.shiftLeft_zero]
    rfl
  rw [hplaces, BitVec.getMsbD_or, BitVec.getMsbD_or, BitVec.getMsbD_or,
    getMsbD_placed _ (by decide) hk hj, getMsbD_placed _ (by decide) hk hj,
    getMsbD_placed _ (by decide) hk hj, getMsbD_placed _ (by decide) hk hj]
  interval_cases k
  · simp
  · simp
  · simp
  · simp

/-- **The words of a block are read four bytes at a time.** -/
theorem blockWord_bitsOf (m : List UInt8) (i t : Nat) :
    blockWord (bitsOf m) i t = byteWord m (64 * i + 4 * t) := by
  refine BitVec.eq_of_getMsbD_eq fun n hn => ?_
  have hsplit : 8 * (n / 8) + n % 8 = n := Nat.div_add_mod n 8
  have hplace : 512 * i + 32 * t + n = 8 * (64 * i + 4 * t + n / 8) + n % 8 := by omega
  unfold blockWord
  rw [BitVec.getMsbD_ofFnBE, dif_pos hn]
  dsimp only
  rw [hplace, bitsOf_getD m _ _ (Nat.mod_lt n (by decide)),
    ← byteWord_getMsbD m (64 * i + 4 * t) (by omega) (Nat.mod_lt n (by decide)), hsplit]

/-- The zero bytes of the padding. -/
def zeroBytes (length : Nat) : Nat := (55 + 64 - length % 64) % 64

/-- The bytes of the length, the most significant one first. -/
def lengthBytes (x : BitVec 64) : List UInt8 :=
  (List.range 8).map fun i => UInt8.ofBitVec ((x >>> (56 - 8 * i)).setWidth 8)

/-- The padded message, byte by byte. -/
def padBytes (m : List UInt8) : List UInt8 :=
  m ++ 0x80 :: List.replicate (zeroBytes m.length) 0 ++
    lengthBytes (BitVec.ofNat 64 (8 * m.length))

/-- The bytes of zero bits. -/
theorem bitsOf_replicate (n : Nat) :
    bitsOf (List.replicate n 0) = List.replicate (8 * n) false := by
  induction n with
  | zero => rfl
  | succ n ih =>
    show byteBits 0 ++ bitsOf (List.replicate n 0) = _
    rw [ih, show 8 * (n + 1) = 8 + 8 * n by omega, List.replicate_add]
    rfl

/-- The bytes of the length are its bits. -/
theorem bitsOf_lengthBytes (x : BitVec 64) : bitsOf (lengthBytes x) = wordBits x := by
  unfold bitsOf lengthBytes byteBits wordBits
  simp [List.range_succ, BitVec.getMsbD]

/-- **A message of bytes is padded with bytes.** -/
theorem pad_bitsOf (m : List UInt8) : pad (bitsOf m) = bitsOf (padBytes m) := by
  have hzeros : zeroCount (8 * m.length) = 7 + 8 * zeroBytes m.length := by
    unfold zeroCount zeroBytes
    omega
  have hone : bitsOf (0x80 :: List.replicate (zeroBytes m.length) 0) =
      true :: List.replicate (7 + 8 * zeroBytes m.length) false := by
    show byteBits 0x80 ++ bitsOf (List.replicate (zeroBytes m.length) 0) = _
    rw [bitsOf_replicate, List.replicate_add]
    rfl
  unfold pad padBytes
  rw [bitsOf_length, hzeros, bitsOf_append, bitsOf_append, bitsOf_lengthBytes, hone]

/-- Only the first sixteen words of a block count. -/
theorem compress_congr {s : Work} {block block' : Nat → Word}
    (h : ∀ t < 16, block t = block' t) : compress s block = compress s block' := by
  have hschedule : ∀ t, schedule block t = schedule block' t := by
    intro t
    induction t using Nat.strong_induction_on with
    | _ t ih =>
      by_cases hlt : t < 16
      · rw [schedule_of_lt hlt, schedule_of_lt hlt, h t hlt]
      · obtain ⟨k, rfl⟩ := Nat.exists_eq_add_of_le' (not_lt.mp hlt)
        rw [schedule_add, schedule_add, ih (k + 14) (by omega), ih (k + 9) (by omega),
          ih (k + 1) (by omega), ih k (by omega)]
  unfold compress rounds
  simp only [hschedule]

/-! ## §5. Blocks in a row. -/

/-- `count` blocks of 64 bytes are absorbed. -/
def absorb (count : Nat) (m : List UInt8) (s : Work) : Work :=
  (List.range count).foldl (fun s i => compress s fun t => byteWord m (64 * i + 4 * t)) s

/-- **The hash value of a message of bytes**, block by block. -/
theorem hash_bitsOf (m : List UInt8) : hash (bitsOf m) =
    absorb ((padBytes m).length / 64) (padBytes m) Work.initial := by
  have hcount : 8 * (padBytes m).length / 512 = (padBytes m).length / 64 := by omega
  have hwords : ∀ i, blockWord (bitsOf (padBytes m)) i =
      fun t => byteWord (padBytes m) (64 * i + 4 * t) := by
    intro i
    funext t
    exact blockWord_bitsOf _ i t
  unfold hash absorb
  rw [pad_bitsOf, bitsOf_length, hcount]
  simp only [hwords]

theorem absorb_zero (m : List UInt8) (s : Work) : absorb 0 m s = s := rfl

theorem byteWord_drop (m : List UInt8) (n at_ : Nat) :
    byteWord (m.drop n) at_ = byteWord m (n + at_) := by
  have hget : ∀ k, (m.drop n).getD k 0 = m.getD (n + k) 0 := by
    intro k
    simp [List.getD_eq_getElem?_getD]
  unfold byteWord
  simp only [hget, Nat.add_assoc]

/-- The first block, and then the others. -/
theorem absorb_succ (count : Nat) (m : List UInt8) (s : Work) : absorb (count + 1) m s =
    absorb count (m.drop 64) (compress s fun t => byteWord m (4 * t)) := by
  have hnext : ∀ i t, byteWord m (64 * (i + 1) + 4 * t) =
      byteWord (m.drop 64) (64 * i + 4 * t) := by
    intro i t
    rw [byteWord_drop, show 64 + (64 * i + 4 * t) = 64 * (i + 1) + 4 * t by omega]
  unfold absorb
  rw [List.range_succ_eq_map, List.foldl_cons, List.foldl_map]
  simp only [Nat.succ_eq_add_one, hnext, Nat.mul_zero, Nat.zero_add]

theorem byteWord_append {m : List UInt8} (rest : List UInt8) {at_ : Nat}
    (h : at_ + 3 < m.length) : byteWord (m ++ rest) at_ = byteWord m at_ := by
  have hget : ∀ k < m.length, (m ++ rest).getD k 0 = m.getD k 0 := by
    intro k hk
    rw [List.getD_append _ _ _ _ hk]
  unfold byteWord
  rw [hget at_ (by omega), hget (at_ + 1) (by omega), hget (at_ + 2) (by omega), hget (at_ + 3) h]

/-- What follows the blocks does not matter. -/
theorem absorb_append (rest : List UInt8) (count : Nat) : ∀ (m : List UInt8) (s : Work),
    64 * count ≤ m.length → absorb count (m ++ rest) s = absorb count m s := by
  induction count with
  | zero =>
    intro m s _
    rw [absorb_zero, absorb_zero]
  | succ count ih =>
    intro m s h
    rw [absorb_succ, absorb_succ]
    have hblock : (compress s fun t => byteWord (m ++ rest) (4 * t)) =
        compress s fun t => byteWord m (4 * t) :=
      compress_congr fun t ht => byteWord_append rest (by omega)
    rw [hblock, List.drop_append_of_le_length (by omega)]
    exact ih _ _ (by rw [List.length_drop]; omega)

/-- Some blocks, and then the others. -/
theorem absorb_add (first second : Nat) : ∀ (m : List UInt8) (s : Work),
    absorb (first + second) m s = absorb second (m.drop (64 * first)) (absorb first m s) := by
  induction first with
  | zero =>
    intro m s
    rw [Nat.zero_add, absorb_zero, Nat.mul_zero, List.drop_zero]
  | succ first ih =>
    intro m s
    rw [show first + 1 + second = first + second + 1 by omega]
    rw [absorb_succ, absorb_succ, ih, List.drop_drop, show 64 + 64 * first = 64 * (first + 1) by omega]

/-! ## §6. Text and keys. -/

/-- A digest in lowercase hexadecimal digits. -/
def hexText (m : List UInt8) : List Char :=
  m.flatMap fun b => [Nat.digitChar (b.toNat / 16), Nat.digitChar (b.toNat % 16)]

/-- The keyed digest of a hash function with blocks of this size. -/
def hmac (function : List UInt8 → List UInt8) (blockSize : Nat) (key text : List UInt8) :
    List UInt8 :=
  let key := if blockSize < key.length then function key else key
  let padded := key ++ List.replicate (blockSize - key.length) 0
  function (padded.map (· ^^^ 0x5c) ++ function (padded.map (· ^^^ 0x36) ++ text))

end OpenArm.Lib.Sha256
