/-
  OpenArm.Lib.Binary32 — single-precision numbers as their bit patterns.

  A wire format carries the PATTERN of a number: two patterns of one value
  (the two zeros) are different messages.  `Binary32` is the pattern, and
  `toRat` the value of a finite one, so that a range check is a comparison
  of rationals.

  `Wire F` adds to the floating-point operations of `F` the two conversions
  a codec uses.
-/
import OpenArm.Lib.Floating
import Mathlib

namespace OpenArm.Lib

/-! ## §1. Patterns. -/

/-- A single-precision pattern: sign, eight exponent bits, 23 fraction bits. -/
structure Binary32 where
  bits : BitVec 32
  deriving DecidableEq

namespace Binary32

/-- The biased exponent. -/
def exponent (x : Binary32) : Nat := x.bits.toNat / 2 ^ 23 % 2 ^ 8

/-- The fraction bits. -/
def fraction (x : Binary32) : Nat := x.bits.toNat % 2 ^ 23

/-- Neither an infinity nor a NaN. -/
def isFinite (x : Binary32) : Bool := x.exponent != 255

/-- The absolute value of a finite pattern. -/
def magnitude (x : Binary32) : ℚ :=
  if x.exponent = 0 then x.fraction / 2 ^ 149
  else (2 ^ 23 + x.fraction) * 2 ^ x.exponent / 2 ^ 150

/-- The value of a finite pattern. -/
def toRat (x : Binary32) : ℚ := if x.bits.msb then -x.magnitude else x.magnitude

/-- `FLT_MAX`. -/
def maxFinite : ℚ := (2 ^ 24 - 1) * 2 ^ 104

/-! ## §2. Rounding. -/

/-- The nearest integer to a non-negative number, ties to even. -/
def roundEven (x : ℚ) : Nat :=
  let n := ⌊x⌋.toNat
  if x - n < 1 / 2 then n else if 1 / 2 < x - n then n + 1 else n + n % 2

/-- The pattern nearest to a number; too large a number gives an infinity.
    A carry out of the fraction runs into the exponent. -/
def ofRat (x : ℚ) : Binary32 :=
  let scale := max (Int.log 2 |x|) (-126)
  let word := if x = 0 then 0 else (scale + 126).toNat * 2 ^ 23 + roundEven (|x| * 2 ^ (23 - scale))
  ⟨BitVec.ofNat 32 ((if x < 0 then 2 ^ 31 else 0) + min word (255 * 2 ^ 23))⟩

end Binary32

/-! ## §3. The conversions of a codec. -/

/-- The operations of a floating-point type together with its conversions to
    what goes over a wire. -/
class Wire (F : Type) extends Floating F where
  /-- `(float)value`. -/
  toBinary32 : F → Binary32
  /-- Conversion of a non-negative value to an unsigned integer: the fraction
  is dropped. -/
  trunc : F → Nat

instance : Wire ℚ where
  toBinary32 := Binary32.ofRat
  trunc := fun x => ⌊x⌋.toNat

end OpenArm.Lib
