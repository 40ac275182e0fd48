/-
  OpenArm.Lib.Floating — the number operations a numeric program uses.

  `Floating F` lists OPERATIONS ONLY: no algebraic law is assumed, so a
  result stated over an arbitrary `Floating F` holds for binary64 with its
  roundings, infinities and NaNs as well as for exact numbers.  A result
  that needs arithmetic is stated over an instance that has it; `ℚ` is the
  computable one.

  Machine words are natural numbers with an explicit `wrap`.
-/
import Mathlib

namespace OpenArm.Lib

/-! ## §1. Sizes and machine words. -/

/-! The sizes of the fixed arrays, by name: their literals are then one term
    wherever they are written. -/

instance neZeroTwo : NeZero 2 := ⟨by decide⟩

instance neZeroThree : NeZero 3 := ⟨by decide⟩

instance neZeroSeven : NeZero 7 := ⟨by decide⟩

instance neZeroEight : NeZero 8 := ⟨by decide⟩

instance neZeroSixteen : NeZero 16 := ⟨by decide⟩

instance neZeroSixtyFour : NeZero 64 := ⟨by decide⟩

/-- The largest unsigned 64-bit value. -/
def maxU64 : Nat := 2 ^ 64 - 1

/-- Unsigned 64-bit wrap-around. -/
def wrap64 (n : Nat) : Nat := n % 2 ^ 64

/-- Unsigned 32-bit wrap-around. -/
def wrap32 (n : Nat) : Nat := n % 2 ^ 32

/-- Unsigned 64-bit subtraction. -/
def wrapSub64 (a b : Nat) : Nat := wrap64 (2 ^ 64 + a - b)

theorem wrap64_of_lt {n : Nat} (h : n < 2 ^ 64) : wrap64 n = n := Nat.mod_eq_of_lt h

/-- Absolute difference of two unsigned values. -/
def absDiff (a b : Nat) : Nat := if b < a then a - b else b - a

@[simp] theorem absDiff_self (a : Nat) : absDiff a a = 0 := by simp [absDiff]

/-! ## §2. Floating-point operations. -/

/-- The operations of a floating-point type. -/
class Floating (F : Type) extends Add F, Sub F, Mul F, Div F, Neg F, LT F, LE F where
  decLt : DecidableLT F
  decLe : DecidableLE F
  /-- The value a decimal literal denotes. -/
  lit : ℚ → F
  /-- Conversion of an unsigned integer. -/
  ofNat : Nat → F
  abs : F → F
  sqrt : F → F
  cbrt : F → F
  isFinite : F → Bool
  /-- Round to the nearest integer, halves away from zero. -/
  llround : F → Int
  /-- The least integer not below a non-negative number of seconds, in
  nanoseconds. -/
  ceilNanos : F → Nat
  quietNaN : F
  negInfinity : F

namespace Floating

variable {F : Type} [Floating F]

instance : DecidableLT F := Floating.decLt

instance : DecidableLE F := Floating.decLe

/-- `std::max`: the second argument only when it is strictly larger. -/
def max (a b : F) : F := if a < b then b else a

/-- `std::clamp`. -/
def clamp (v lo hi : F) : F := if v < lo then lo else if hi < v then hi else v

end Floating

/-- The operations of a floating-point type together with `std::ceil`. -/
class Rounding (F : Type) extends Floating F where
  /-- The least integer not below a non-negative value. -/
  ceil : F → Nat

/-! ## §3. The exact computable instance. -/

/-- Square root of a non-negative rational, truncated to nine decimals. -/
def ratSqrt (x : ℚ) : ℚ := (Nat.sqrt (⌊x * 10 ^ 18⌋.toNat) : ℚ) / 10 ^ 9

/-- The largest `r < 2 ^ bits` with `r ^ 3 ≤ n`, by bisection on the bits. -/
def cubeRootBelow (n : Nat) : Nat → Nat → Nat
  | 0, acc => acc
  | bits + 1, acc =>
    if (acc + 2 ^ bits) ^ 3 ≤ n then cubeRootBelow n bits (acc + 2 ^ bits)
    else cubeRootBelow n bits acc

/-- Cube root of a non-negative rational, truncated to six decimals. -/
def ratCbrt (x : ℚ) : ℚ := (cubeRootBelow ⌊x * 10 ^ 18⌋.toNat 40 0 : ℚ) / 10 ^ 6

/-- Nearest integer, halves away from zero. -/
def ratLlround (x : ℚ) : Int := if 0 ≤ x then ⌊x + 1 / 2⌋ else -⌊-x + 1 / 2⌋

instance : Floating ℚ where
  decLt := inferInstance
  decLe := inferInstance
  lit := id
  ofNat := fun n => n
  abs := fun x => |x|
  sqrt := ratSqrt
  cbrt := ratCbrt
  isFinite := fun _ => true
  llround := ratLlround
  ceilNanos := fun x => ⌈x * 10 ^ 9⌉.toNat
  -- `ℚ` has neither; no comparison of the models distinguishes them from 0.
  quietNaN := 0
  negInfinity := 0

instance : Rounding ℚ where
  ceil := fun x => ⌈x⌉.toNat

end OpenArm.Lib
