/-
  OpenArm.Manifest.DigestExact — the digests of `sha256.cpp` are the standard ones.

  The words of the source are natural numbers below 2^32: each operation on
  them is that of the words of the standard.  The source pads a tail of its
  own, and absorbs the whole blocks before it.

  Main results:
    * `block_exact`     — `block` compresses one block.
    * `sha256Hex_exact` — `sha256_hex` is the standard's digest.
    * `hmacSha256Hex_exact` — `hmac_sha256_hex` is the keyed digest.
-/
import OpenArm.Lib.Sha256
import OpenArm.Manifest.Sha256

namespace OpenArm.Manifest

open OpenArm.Lib OpenArm.Lib.Sha256

/-! ## §1. Words. -/

/-- The words of a state as natural numbers. -/
def HashState.ofWork (s : Work) : HashState :=
  ⟨s.a.toNat, s.b.toNat, s.c.toNat, s.d.toNat, s.e.toNat, s.f.toNat, s.g.toNat, s.h.toNat⟩

theorem rotate_exact (x : Word) {amount : Nat} (h : amount < 32) :
    rotate x.toNat amount = (x.rotateRight amount).toNat := by
  rw [BitVec.toNat_rotateRight, Nat.mod_eq_of_lt h]
  rfl

theorem complement_exact (x : Word) : x.toNat ^^^ 0xffffffff = (~~~x).toNat := by
  rw [← BitVec.xor_allOnes, BitVec.toNat_xor]
  rfl

/-- A turn of the second loop of `block` is a round. -/
theorem round_exact (s : Work) (constant word : Word) :
    (HashState.ofWork s).round ((constant.toNat + word.toNat) % 2 ^ 32) =
      .ofWork (s.step constant word) := by
  unfold HashState.round HashState.ofWork
  simp only [rotate_exact _ (show 6 < 32 by decide), rotate_exact _ (show 11 < 32 by decide),
    rotate_exact _ (show 25 < 32 by decide), rotate_exact _ (show 2 < 32 by decide),
    rotate_exact _ (show 13 < 32 by decide), rotate_exact _ (show 22 < 32 by decide),
    complement_exact, ← BitVec.toNat_xor, ← BitVec.toNat_and]
  unfold Work.step
  simp only [HashState.mk.injEq, BitVec.toNat_add, true_and, and_true]
  unfold bigSigma0 bigSigma1 ch maj
  constructor
  · omega
  · omega

/-- The next word of the schedule. -/
theorem nextWord_exact (block : Nat → Word) (t : Nat) :
    nextWord (Sha256.schedule block t).toNat (Sha256.schedule block (t + 1)).toNat
      (Sha256.schedule block (t + 9)).toNat (Sha256.schedule block (t + 14)).toNat =
      (Sha256.schedule block (t + 16)).toNat := by
  rw [schedule_add]
  unfold nextWord smallSigma0 smallSigma1
  simp only [rotate_exact _ (show 7 < 32 by decide), rotate_exact _ (show 18 < 32 by decide),
    rotate_exact _ (show 17 < 32 by decide), rotate_exact _ (show 19 < 32 by decide),
    ← BitVec.toNat_ushiftRight, ← BitVec.toNat_xor, BitVec.toNat_add]
  omega

/-! ## §2. One block. -/

/-- The first loop of `block`, from any place on. -/
theorem expand_exact (block : Nat → Word) (count : Nat) : ∀ t,
    expand count (Sha256.schedule block t).toNat (Sha256.schedule block (t + 1)).toNat
      (Sha256.schedule block (t + 2)).toNat (Sha256.schedule block (t + 3)).toNat
      (Sha256.schedule block (t + 4)).toNat (Sha256.schedule block (t + 5)).toNat
      (Sha256.schedule block (t + 6)).toNat (Sha256.schedule block (t + 7)).toNat
      (Sha256.schedule block (t + 8)).toNat (Sha256.schedule block (t + 9)).toNat
      (Sha256.schedule block (t + 10)).toNat (Sha256.schedule block (t + 11)).toNat
      (Sha256.schedule block (t + 12)).toNat (Sha256.schedule block (t + 13)).toNat
      (Sha256.schedule block (t + 14)).toNat (Sha256.schedule block (t + 15)).toNat =
      (List.range' t (count + 16)).map fun i => (Sha256.schedule block i).toNat := by
  induction count with
  | zero =>
    intro t
    unfold expand
    simp [List.range']
  | succ count ih =>
    intro t
    unfold expand
    rw [nextWord_exact, show count + 1 + 16 = (count + 16) + 1 by omega, List.range'_succ,
      List.map_cons, ← ih (t + 1)]

/-- `w` is the schedule of the block. -/
theorem schedule_exact (block : Nat → Word) :
    schedule ((List.range 16).map fun t => (block t).toNat) =
      (List.range 64).map fun t => (Sha256.schedule block t).toNat := by
  have hfirst : (List.range 16).map (fun t => (block t).toNat) =
      (List.range 16).map fun t => (Sha256.schedule block t).toNat := by
    refine List.map_congr_left fun t ht => ?_
    rw [schedule_of_lt (List.mem_range.mp ht)]
  rw [hfirst, List.range_eq_range' (n := 64)]
  exact expand_exact block 48 0

/-- The second loop of `block`, over any stretch. -/
theorem rounds_exact (constant word : Nat → Word) (l : List Nat) : ∀ s : Work,
    rounds (l.map fun t => (constant t).toNat) (l.map fun t => (word t).toNat) (.ofWork s) =
      .ofWork (l.foldl (fun s t => s.step (constant t) (word t)) s) := by
  induction l with
  | nil => exact fun s => rfl
  | cons t l ih =>
    intro s
    show rounds _ _ ((HashState.ofWork s).round _) = _
    rw [round_exact, ih]
    rfl

/-- `k` holds the constants of the standard. -/
theorem constants_exact :
    roundConstants = (List.range 64).map fun t => (roundConstant t).toNat := by
  have hroots : ∀ t < 64, roundConstant t = BitVec.ofNat 32 (roundConstants.getD t 0) := by
    intro t ht
    refine rootFraction_eq ?_
    rw [firstPrimes_eq]
    revert t
    decide +kernel
  have hlist : roundConstants =
      (List.range 64).map fun t => (BitVec.ofNat 32 (roundConstants.getD t 0)).toNat := by
    decide +kernel
  refine hlist.trans (List.map_congr_left fun t ht => ?_)
  rw [hroots t (List.mem_range.mp ht)]

/-- A word of four bytes. -/
theorem byteWord_cons (b0 b1 b2 b3 : UInt8) (m : List UInt8) :
    (byteWord (b0 :: b1 :: b2 :: b3 :: m) 0).toNat =
      ((b0.toNat <<< 24) ||| (b1.toNat <<< 16) ||| (b2.toNat <<< 8) ||| b3.toNat) := by
  have hshift : ∀ (b : UInt8) (n : Nat), n ≤ 24 →
      (b.toBitVec.setWidth 32 <<< n).toNat = b.toNat <<< n := by
    intro b n hn
    have hbyte : b.toNat < 2 ^ 8 := b.toBitVec.isLt
    have hsmall : b.toNat <<< n < 2 ^ 32 := by
      rw [Nat.shiftLeft_eq]
      calc b.toNat * 2 ^ n < 2 ^ 8 * 2 ^ n := Nat.mul_lt_mul_of_pos_right hbyte (by positivity)
        _ ≤ 2 ^ 8 * 2 ^ 24 := Nat.mul_le_mul_left _ (Nat.pow_le_pow_right (by decide) hn)
        _ = 2 ^ 32 := by norm_num
    have hwide : (b.toBitVec.setWidth 32).toNat = b.toNat := by
      rw [BitVec.toNat_setWidth]
      exact Nat.mod_eq_of_lt (Nat.lt_trans hbyte (by decide))
    rw [BitVec.toNat_shiftLeft, hwide, Nat.mod_eq_of_lt hsmall]
  have hlast : (b3.toBitVec.setWidth 32).toNat = b3.toNat := by
    have hbyte : b3.toNat < 2 ^ 8 := b3.toBitVec.isLt
    rw [BitVec.toNat_setWidth]
    exact Nat.mod_eq_of_lt (Nat.lt_trans hbyte (by decide))
  show (b0.toBitVec.setWidth 32 <<< 24 ||| b1.toBitVec.setWidth 32 <<< 16 |||
    b2.toBitVec.setWidth 32 <<< 8 ||| b3.toBitVec.setWidth 32).toNat = _
  rw [BitVec.toNat_or, BitVec.toNat_or, BitVec.toNat_or, hshift b0 24 (by decide),
    hshift b1 16 (by decide), hshift b2 8 (by decide), hlast]

/-- The words of the first places, from the bytes. -/
theorem wordsOf_exact (count : Nat) : ∀ m : List UInt8, 4 * count ≤ m.length →
    wordsOf ((m.map UInt8.toNat).take (4 * count)) =
      (List.range count).map fun t => (byteWord m (4 * t)).toNat := by
  induction count with
  | zero => exact fun m _ => rfl
  | succ count ih =>
    intro m hlength
    obtain ⟨b0, b1, b2, b3, rest, rfl⟩ : ∃ b0 b1 b2 b3 rest,
        m = b0 :: b1 :: b2 :: b3 :: rest := by
      obtain ⟨b0, m, rfl⟩ := List.exists_cons_of_length_pos (show 0 < m.length by omega)
      rw [List.length_cons] at hlength
      obtain ⟨b1, m, rfl⟩ := List.exists_cons_of_length_pos (show 0 < m.length by omega)
      rw [List.length_cons] at hlength
      obtain ⟨b2, m, rfl⟩ := List.exists_cons_of_length_pos (show 0 < m.length by omega)
      rw [List.length_cons] at hlength
      obtain ⟨b3, m, rfl⟩ := List.exists_cons_of_length_pos (show 0 < m.length by omega)
      exact ⟨b0, b1, b2, b3, m, rfl⟩
    have hrest : ∀ t, byteWord (b0 :: b1 :: b2 :: b3 :: rest) (4 * (t + 1)) =
        byteWord rest (4 * t) := by
      intro t
      have hdrop := byteWord_drop (b0 :: b1 :: b2 :: b3 :: rest) 4 (4 * t)
      rw [show 4 * (t + 1) = 4 + 4 * t by omega, ← hdrop]
      rfl
    have hwords := ih rest (by simp only [List.length_cons] at hlength; omega)
    have hfirst : wordsOf (((b0 :: b1 :: b2 :: b3 :: rest).map UInt8.toNat).take
        (4 * count + 4)) = ((b0.toNat <<< 24) ||| (b1.toNat <<< 16) ||| (b2.toNat <<< 8) |||
          b3.toNat) :: wordsOf ((rest.map UInt8.toNat).take (4 * count)) := rfl
    rw [show 4 * (count + 1) = 4 * count + 4 by omega, hfirst, hwords, ← byteWord_cons _ _ _ _ rest,
      List.range_succ_eq_map, List.map_cons, List.map_map]
    refine congrArg (List.cons _) (List.map_congr_left fun t _ => ?_)
    rw [← hrest]
    rfl

/-- The end of `block`, whatever its loops have left. -/
theorem block_eq {s turned : Work} {input : List Nat}
    (h : rounds roundConstants (schedule (wordsOf (input.take 64))) (.ofWork s) =
      .ofWork turned) : block (.ofWork s) input = .ofWork (s.add turned) := by
  unfold block
  rw [h]
  unfold HashState.ofWork Work.add
  simp only [BitVec.toNat_add]

/-- **`block` compresses one block.** -/
theorem block_exact (s : Work) (m : List UInt8) (h : 64 ≤ m.length) :
    block (.ofWork s) (m.map UInt8.toNat) =
      .ofWork (compress s fun t => byteWord m (4 * t)) := by
  have hwords : wordsOf ((m.map UInt8.toNat).take 64) =
      (List.range 16).map fun t => (byteWord m (4 * t)).toNat := wordsOf_exact 16 m h
  have hrounds : rounds roundConstants (schedule (wordsOf ((m.map UInt8.toNat).take 64)))
      (.ofWork s) = .ofWork (Sha256.rounds (fun t => byteWord m (4 * t)) s) := by
    have hloop := rounds_exact roundConstant
      (Sha256.schedule fun t => byteWord m (4 * t)) (List.range 64) s
    rw [← constants_exact, ← schedule_exact, ← hwords] at hloop
    exact hloop
  unfold compress
  exact block_eq hrounds

/-! ## §3. The padded tail. -/

/-- The whole blocks are absorbed. -/
theorem absorb_exact (count : Nat) : ∀ (m : List UInt8) (s : Work), 64 * count ≤ m.length →
    absorb count (m.map UInt8.toNat) (.ofWork s) = .ofWork (Sha256.absorb count m s) := by
  induction count with
  | zero =>
    intro m s _
    rw [absorb_zero]
    rfl
  | succ count ih =>
    intro m s h
    unfold absorb
    rw [block_exact s m (by omega), ← List.map_drop, absorb_succ]
    exact ih _ _ (by rw [List.length_drop]; omega)

/-- The eight bytes of the length. -/
theorem lengthBytes_exact (n : Nat) : (lengthBytes (BitVec.ofNat 64 n)).map UInt8.toNat =
    (List.range 8).map fun i => ((n % 2 ^ 64) >>> ((7 - i) * 8)) % 256 := by
  unfold lengthBytes
  rw [List.map_map]
  refine List.map_congr_left fun i hi => ?_
  have hplace : 56 - 8 * i = (7 - i) * 8 := by omega
  show ((BitVec.ofNat 64 n >>> (56 - 8 * i)).setWidth 8).toNat = _
  rw [BitVec.toNat_setWidth, BitVec.toNat_ushiftRight, BitVec.toNat_ofNat, hplace]

/-- What is left of the padded message behind the whole blocks. -/
def paddedTail (m : List UInt8) : List UInt8 := (padBytes m).drop (64 * (m.length / 64))

/-- **`tail` is the end of the padded message.** -/
theorem tailOf_exact (m : List UInt8) :
    tailOf ((m.map UInt8.toNat).drop (64 * (m.length / 64))) m.length =
      (paddedTail m).map UInt8.toNat := by
  have hrest : ((m.map UInt8.toNat).drop (64 * (m.length / 64))).length = m.length % 64 := by
    rw [List.length_drop, List.length_map]
    omega
  have hzeros : (if m.length % 64 < 56 then 64 else 128) - m.length % 64 - 9 =
      zeroBytes m.length := by
    unfold zeroBytes
    split
    · omega
    · omega
  have hsplit : paddedTail m = m.drop (64 * (m.length / 64)) ++
      0x80 :: List.replicate (zeroBytes m.length) 0 ++
        lengthBytes (BitVec.ofNat 64 (8 * m.length)) := by
    unfold paddedTail padBytes
    rw [List.append_assoc, List.drop_append_of_le_length (by omega), ← List.append_assoc]
  unfold tailOf
  dsimp only
  rw [hrest, hzeros, hsplit, List.map_append, List.map_append, List.map_cons,
    List.map_replicate, lengthBytes_exact, List.map_drop, Nat.mul_comm m.length 8]
  rfl

/-- It is one block, or two. -/
theorem paddedTail_length (m : List UInt8) :
    (paddedTail m).length = if m.length % 64 < 56 then 64 else 128 := by
  unfold paddedTail padBytes zeroBytes lengthBytes
  simp only [List.length_drop, List.length_append, List.length_cons, List.length_replicate,
    List.length_map, List.length_range]
  split
  · omega
  · omega

theorem initial_exact : HashState.initial = .ofWork .initial := by
  have hroot : ∀ {n : Nat} {fraction : Word},
      (∃ i < 64, (i * 2 ^ 32 + fraction.toNat) ^ 2 ≤ n * 2 ^ (32 * 2) ∧
        n * 2 ^ (32 * 2) < (i * 2 ^ 32 + fraction.toNat + 1) ^ 2) →
      rootFraction 2 n = fraction := fun h => rootFraction_eq h
  have h2 : rootFraction 2 2 = 0x6a09e667 := hroot (by decide +kernel)
  have h3 : rootFraction 2 3 = 0xbb67ae85 := hroot (by decide +kernel)
  have h5 : rootFraction 2 5 = 0x3c6ef372 := hroot (by decide +kernel)
  have h7 : rootFraction 2 7 = 0xa54ff53a := hroot (by decide +kernel)
  have h11 : rootFraction 2 11 = 0x510e527f := hroot (by decide +kernel)
  have h13 : rootFraction 2 13 = 0x9b05688c := hroot (by decide +kernel)
  have h17 : rootFraction 2 17 = 0x1f83d9ab := hroot (by decide +kernel)
  have h19 : rootFraction 2 19 = 0x5be0cd19 := hroot (by decide +kernel)
  unfold HashState.initial HashState.ofWork Work.initial
  rw [h2, h3, h5, h7, h11, h13, h17, h19]
  rfl

/-- **The state after all blocks is the hash value.** -/
theorem hashOf_exact (m : List UInt8) : hashOf (m.map UInt8.toNat) = .ofWork (hash (bitsOf m)) := by
  set count := m.length / 64 with hcount
  have hwhole : 64 * count ≤ m.length := by omega
  have hrest : ((m.map UInt8.toNat).drop (64 * count)).length = m.length % 64 := by
    rw [List.length_drop, List.length_map]
    omega
  -- the whole blocks do not see the padding
  have hfront : Sha256.absorb count (padBytes m) .initial = Sha256.absorb count m .initial := by
    unfold padBytes
    rw [List.append_assoc]
    exact absorb_append _ count m _ hwhole
  have htail := paddedTail_length m
  have htotal : (padBytes m).length = 64 * count + (paddedTail m).length := by
    unfold paddedTail
    rw [List.length_drop]
    unfold padBytes
    simp only [List.length_append]
    omega
  have hstate : block (absorb count (m.map UInt8.toNat) .initial) ((paddedTail m).map UInt8.toNat) =
      .ofWork (compress (Sha256.absorb count m .initial) fun t =>
        byteWord (paddedTail m) (4 * t)) := by
    rw [initial_exact, absorb_exact count m _ hwhole]
    refine block_exact _ _ ?_
    rw [htail]
    split
    · omega
    · omega
  unfold hashOf
  dsimp only
  rw [List.length_map, ← hcount, tailOf_exact, hrest, hstate, hash_bitsOf]
  split
  · next hshort =>
    rw [if_pos hshort] at htail
    have hblocks : (padBytes m).length / 64 = count + 1 := by omega
    rw [hblocks, absorb_add, hfront, absorb_succ, absorb_zero]
    rfl
  · next hlong =>
    rw [if_neg hlong] at htail
    have hblocks : (padBytes m).length / 64 = count + 2 := by omega
    rw [hblocks, absorb_add, hfront, absorb_succ, absorb_succ, absorb_zero, ← List.map_drop,
      block_exact _ _ (by rw [List.length_drop]; omega)]
    rfl

/-! ## §4. Digests as text. -/

/-- The bytes of a text. -/
def charBytes (text : Text) : List UInt8 := text.map fun c => UInt8.ofNat c.toNat

theorem bytesOf_exact (text : Text) : bytesOf text = (charBytes text).map UInt8.toNat := by
  unfold bytesOf charBytes
  rw [List.map_map]
  rfl

theorem charBytes_append (front back : Text) :
    charBytes (front ++ back) = charBytes front ++ charBytes back := List.map_append

theorem hexDigit_exact {n : Nat} (h : n < 16) : hexDigit n = Nat.digitChar n := by
  have hdigits : ∀ m < 16, hexDigit m = Nat.digitChar m := by decide
  exact hdigits n h

/-- The bytes of the digest, one by one. -/
theorem digestBytes_exact (s : Work) : (List.range 32).map (digestByte (.ofWork s)) =
    (s.words.flatMap wordBytes).map UInt8.toNat := rfl

/-- Bytes in hexadecimal digits, as the source writes them. -/
theorem hexText_eq (m : List UInt8) :
    (m.map UInt8.toNat).flatMap (fun byte => [hexDigit (byte / 16), hexDigit (byte % 16)]) =
      hexText m := by
  unfold hexText
  rw [List.flatMap_map]
  refine List.flatMap_congr fun b _ => ?_
  have hbyte : b.toNat < 2 ^ 8 := b.toBitVec.isLt
  rw [hexDigit_exact (by omega), hexDigit_exact (by omega)]

/-- **`sha256_hex` is the standard's digest** of the bytes of the text. -/
theorem sha256Hex_exact (text : Text) : sha256Hex text = hexText (digest (charBytes text)) := by
  have hbytes := digestBytes_exact (hash (bitsOf (charBytes text)))
  rw [← hashOf_exact, ← bytesOf_exact] at hbytes
  unfold digest
  rw [← hexText_eq, ← hbytes, List.flatMap_map]
  rfl

/-! ## §5. Keyed digests. -/

/-- A pad: the key filled up with zeros, xored with the mask. -/
theorem keyPad_exact (key : Key) (mask : UInt8) : charBytes (keyPad key mask.toNat) =
    (List.ofFn key ++ List.replicate 32 0).map (· ^^^ mask) := by
  have hmask : mask.toNat < 2 ^ 8 := mask.toBitVec.isLt
  have hbyte : ∀ b : UInt8, UInt8.ofNat (Char.ofNat (b.toNat ^^^ mask.toNat)).toNat =
      b ^^^ mask := by
    intro b
    have hsmall : b.toNat ^^^ mask.toNat < 2 ^ 8 :=
      Nat.xor_lt_two_pow b.toBitVec.isLt hmask
    rw [Char.toNat_ofNat, if_pos (by left; omega), ← UInt8.toNat_xor]
    exact UInt8.ofNat_toNat
  have hkey : (List.range 64).map (keyByte key) =
      (List.ofFn key ++ List.replicate 32 0).map UInt8.toNat := by
    rw [List.map_append, List.map_ofFn]
    rfl
  have hpad : charBytes (keyPad key mask.toNat) = ((List.range 64).map (keyByte key)).map fun n =>
      UInt8.ofNat (Char.ofNat (n ^^^ mask.toNat)).toNat := by
    unfold charBytes keyPad
    rw [List.map_map, List.map_map]
    rfl
  rw [hpad, hkey, List.map_map]
  exact List.map_congr_left fun b _ => hbyte b

theorem nibble_digitChar {n : Nat} (h : n < 16) : nibble (Nat.digitChar n) = n := by
  have hdigits : ∀ m < 16, nibble (Nat.digitChar m) = m := by decide
  exact hdigits n h

/-- The source reads the digits of a digest back. -/
theorem unhex_exact (m : List UInt8) : charBytes (unhex (hexText m)) = m := by
  induction m with
  | nil => rfl
  | cons b m ih =>
    have hbyte : b.toNat < 2 ^ 8 := b.toBitVec.isLt
    have hvalue : (nibble (Nat.digitChar (b.toNat / 16)) <<< 4 |||
        nibble (Nat.digitChar (b.toNat % 16))) % 256 = b.toNat := by
      rw [nibble_digitChar (by omega), nibble_digitChar (by omega),
        Nat.shiftLeft_eq, Nat.mul_comm, ← Nat.two_pow_add_eq_or_of_lt (i := 4) (by omega)]
      omega
    show UInt8.ofNat (Char.ofNat ((nibble (Nat.digitChar (b.toNat / 16)) <<< 4 |||
      nibble (Nat.digitChar (b.toNat % 16))) % 256)).toNat :: charBytes (unhex (hexText m)) = _
    rw [ih, hvalue, Char.toNat_ofNat, if_pos (by left; omega), UInt8.ofNat_toNat]

/-- **`hmac_sha256_hex` is the keyed digest** with the standard's SHA-256. -/
theorem hmacSha256Hex_exact (key : Key) (data : Text) :
    hmacSha256Hex key data = hexText (hmac digest 64 (List.ofFn key) (charBytes data)) := by
  have hlength : (List.ofFn key).length = 32 := List.length_ofFn
  have hinner := keyPad_exact key 0x36
  have houter := keyPad_exact key 0x5c
  unfold hmacSha256Hex
  rw [sha256Hex_exact, sha256Hex_exact, charBytes_append, charBytes_append, unhex_exact]
  unfold hmac
  dsimp only
  rw [if_neg (by omega), hlength, ← hinner, ← houter]
  rfl

end OpenArm.Manifest
