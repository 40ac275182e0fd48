/-
  OpenArm.Lib.Records — aligned records in a row, and the loop over them.

  A record says its own length.  Records stand at multiples of four; the last
  one may go without its padding.  `Aligned` is the grammar, `whileBelow` the
  loop that walks through an offset.

  Main results:
    * `whileBelow_error` — a loop whose offset grows ends, and fails only as its
      body does.
    * `advance_eq_some`  — where the next record begins.
-/
import Mathlib

namespace OpenArm.Lib

/-! ## §1. A loop over an offset. -/

/-- What one round of a loop does: it goes on at another offset, or returns. -/
inductive Turn (σ : Type) where
  | advanced (s : σ) (offset : Nat)
  | returned (s : σ)

section Loop

variable {σ ε : Type}

/-- `while (offset < length) body`, with as many rounds as the fuel allows. -/
def whileBelow (length : Nat) (body : Nat → σ → Except ε (Turn σ)) (endless : σ → ε) :
    Nat → Nat → σ → Except ε σ
  | 0, offset, s => if offset < length then .error (endless s) else .ok s
  | fuel + 1, offset, s =>
    if offset < length then
      match body offset s with
      | .error e => .error e
      | .ok (.returned s) => .ok s
      | .ok (.advanced s next) => whileBelow length body endless fuel next s
    else .ok s

variable {length : Nat} {body : Nat → σ → Except ε (Turn σ)} {endless : σ → ε}

theorem whileBelow_end {fuel offset : Nat} {s : σ} (h : length ≤ offset) :
    whileBelow length body endless fuel offset s = .ok s := by
  cases fuel <;>
  · unfold whileBelow
    rw [if_neg (by omega)]

theorem whileBelow_succ {fuel offset : Nat} {s : σ} (h : offset < length) :
    whileBelow length body endless (fuel + 1) offset s =
      match body offset s with
      | .error e => .error e
      | .ok (.returned s) => .ok s
      | .ok (.advanced s next) => whileBelow length body endless fuel next s := if_pos h

/-- **A loop whose offset grows ends**: it fails as its body does. -/
theorem whileBelow_error {P : ε → Prop}
    (hbody : ∀ offset s e, offset < length → body offset s = .error e → P e)
    (hgrows : ∀ offset s s' next, body offset s = .ok (.advanced s' next) → offset < next) :
    ∀ fuel offset s e, length ≤ offset + fuel →
      whileBelow length body endless fuel offset s = .error e → P e := by
  intro fuel
  induction fuel with
  | zero =>
    intro offset s e hfuel h
    rw [whileBelow_end (by omega)] at h
    cases h
  | succ fuel ih =>
    intro offset s e hfuel h
    by_cases hbelow : offset < length
    · rw [whileBelow_succ hbelow] at h
      split at h
      · next e' he =>
        cases h
        exact hbody offset s e hbelow he
      · cases h
      · next s' next hnext =>
        have hmore := hgrows offset s s' next hnext
        exact ih next s' e (by omega) h
    · rw [whileBelow_end (by omega)] at h
      cases h

end Loop

/-! ## §2. Alignment. -/

/-- The next multiple of four. -/
def alignFour (size : Nat) : Nat := (size + 3) / 4 * 4

/-- The padding behind a record. -/
def paddingSize (size : Nat) : Nat := alignFour size - size

theorem le_alignFour (size : Nat) : size ≤ alignFour size := by
  unfold alignFour
  omega

theorem size_add_paddingSize (size : Nat) : size + paddingSize size = alignFour size := by
  have hle := le_alignFour size
  unfold paddingSize
  omega

/-- The bytes a record takes of those that remain: with its padding, or all of
    them. -/
def advance (size remaining : Nat) : Option Nat :=
  if remaining < alignFour size then if size ≠ remaining then none else some size
  else some (alignFour size)

/-- **Where the next record begins.** -/
theorem advance_eq_some {size remaining n : Nat} : advance size remaining = some n ↔
    (alignFour size ≤ remaining ∧ n = alignFour size) ∨
      (remaining < alignFour size ∧ size = remaining ∧ n = size) := by
  unfold advance
  constructor
  · intro h
    split at h
    · next hshort =>
      split at h
      · cases h
      · next hall =>
        cases h
        exact Or.inr ⟨hshort, by omega, rfl⟩
    · cases h
      exact Or.inl ⟨by omega, rfl⟩
  · rintro (⟨hfits, rfl⟩ | ⟨hshort, rfl, rfl⟩)
    · rw [if_neg (by omega)]
    · rw [if_pos hshort, if_neg (by omega)]

/-- A record that is all that remains. -/
theorem advance_all (size : Nat) : advance size size = some size := by
  have hle := le_alignFour size
  by_cases hshort : size < alignFour size
  · exact advance_eq_some.mpr (Or.inr ⟨hshort, rfl, rfl⟩)
  · exact advance_eq_some.mpr (Or.inl ⟨by omega, by omega⟩)

theorem advance_pos {size remaining n : Nat} (hsize : 0 < size)
    (h : advance size remaining = some n) : 0 < n := by
  have hle := le_alignFour size
  obtain ⟨_, rfl⟩ | ⟨_, _, rfl⟩ := advance_eq_some.mp h <;> omega

/-! ## §3. Records in a row. -/

section Aligned

variable {ρ β : Type}

/-- Records one behind the other, each with its padding but perhaps the last,
    and what may follow them. -/
inductive Aligned (Encodes : ρ → List β → Prop) (Tail : List β → Prop) :
    List ρ → List β → Prop where
  | tail {text : List β} (h : Tail text) : Aligned Encodes Tail [] text
  | last {r : ρ} {record : List β} (h : Encodes r record) (htail : Tail []) :
      Aligned Encodes Tail [r] record
  | cons {r : ρ} {rs : List ρ} {record padding rest : List β} (h : Encodes r record)
      (hpadding : padding.length = paddingSize record.length)
      (hrest : Aligned Encodes Tail rs rest) :
      Aligned Encodes Tail (r :: rs) (record ++ (padding ++ rest))

end Aligned

/-! ## §4. Numbers in bytes. -/

/-- A 16-bit number, low byte first. -/
def word16 (bytes : List UInt8) (i : Nat) : Nat :=
  (bytes.getD i 0).toNat + 256 * (bytes.getD (i + 1) 0).toNat

/-- A 32-bit number, low byte first. -/
def word32 (bytes : List UInt8) (i : Nat) : Nat := word16 bytes i + 65536 * word16 bytes (i + 2)

theorem word16_take {bytes : List UInt8} {n i : Nat} (h : i + 2 ≤ n) :
    word16 (bytes.take n) i = word16 bytes i := by
  unfold word16
  rw [List.getD_eq_getElem?_getD, List.getD_eq_getElem?_getD, List.getD_eq_getElem?_getD,
    List.getD_eq_getElem?_getD, List.getElem?_take_of_lt (by omega),
    List.getElem?_take_of_lt (by omega)]

theorem word32_take {bytes : List UInt8} {n i : Nat} (h : i + 4 ≤ n) :
    word32 (bytes.take n) i = word32 bytes i := by
  unfold word32
  rw [word16_take (by omega), word16_take (by omega)]

theorem word16_append {a b : List UInt8} {i : Nat} (h : i + 2 ≤ a.length) :
    word16 (a ++ b) i = word16 a i := by
  have htake : word16 ((a ++ b).take a.length) i = word16 (a ++ b) i := word16_take h
  rw [← htake, List.take_left]

theorem word32_append {a b : List UInt8} {i : Nat} (h : i + 4 ≤ a.length) :
    word32 (a ++ b) i = word32 a i := by
  unfold word32
  rw [word16_append (by omega), word16_append (by omega)]

end OpenArm.Lib
