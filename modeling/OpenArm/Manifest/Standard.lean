/-
  OpenArm.Manifest.Standard — exact decimals, and the manifests made of them.

  A `Decimal` is a rational number that counts as finite when its decimal
  spelling reads back and is short, so that the decimal format is exact on
  the finite values.  Concrete runs in the other files use it.

  Main results:
    * `decimalFormat_exact` and `builtinSound_decimal` — what the theorems
      over an arbitrary number type assume of it holds here.
-/
import OpenArm.Manifest.Build

namespace OpenArm.Manifest

open OpenArm.Lib

/-! ## §1. Decimals. -/

/-- An exact number. -/
structure Decimal where
  value : ℚ
  deriving DecidableEq

/-- The fractional digits of `rest / 10 ^ places`, without trailing zeros. -/
def fractionDigits : Nat → Nat → Text
  | 0, _ => []
  | places + 1, rest =>
    if rest = 0 then []
    else Nat.digitChar (rest / 10 ^ places) :: fractionDigits places (rest % 10 ^ places)

/-- Eighteen decimal places, without trailing zeros. -/
def writeDecimal (x : Decimal) : Text :=
  let scaled := (|x.value| * 10 ^ 18).floor.toNat
  let rest := scaled % 10 ^ 18
  (if x.value < 0 then ['-'] else []) ++ writeNat (scaled / 10 ^ 18) ++
    (if rest = 0 then [] else '.' :: fractionDigits 18 rest)

/-- The value of an unsigned decimal. -/
def readMagnitude (text : Text) : Option ℚ :=
  match text.splitOn '.' with
  | [whole] => if whole ≠ [] ∧ whole.all Char.isDigit then some (Nat.ofDigitChars 10 whole 0)
    else none
  | [whole, fraction] =>
    if whole ≠ [] ∧ whole.all Char.isDigit ∧ fraction ≠ [] ∧ fraction.all Char.isDigit then
      some (Nat.ofDigitChars 10 whole 0 +
        (Nat.ofDigitChars 10 fraction 0 : ℚ) / 10 ^ fraction.length)
    else none
  | _ => none

/-- The value of a decimal. -/
def readDecimal (text : Text) : Option Decimal :=
  match text with
  | '-' :: magnitude => (readMagnitude magnitude).map fun value => ⟨-value⟩
  | _ => (readMagnitude text).map fun value => ⟨value⟩

/-- The decimal format.  It writes exact decimals, where `to_chars` writes all the
    digits of a double (-1.5707960000000001 for -1.570796), so that a digest over
    it is not that of the built-in manifest in a file. -/
def decimalFormat : NumberFormat Decimal where
  toChars := writeDecimal
  fromChars := readDecimal

/-- A value that has a short spelling. -/
def Decimal.spelled (x : Decimal) : Bool :=
  decide (readDecimal (writeDecimal x) = some x ∧ Plain (writeDecimal x) ∧
    (writeDecimal x).length ≤ 64)

instance : Floating Decimal where
  add x y := ⟨x.value + y.value⟩
  sub x y := ⟨x.value - y.value⟩
  mul x y := ⟨x.value * y.value⟩
  div x y := ⟨x.value / y.value⟩
  neg x := ⟨-x.value⟩
  lt x y := x.value < y.value
  le x y := x.value ≤ y.value
  decLt x y := inferInstanceAs (Decidable (x.value < y.value))
  decLe x y := inferInstanceAs (Decidable (x.value ≤ y.value))
  lit q := ⟨q⟩
  ofNat n := ⟨n⟩
  abs x := ⟨|x.value|⟩
  sqrt x := ⟨ratSqrt x.value⟩
  cbrt x := ⟨ratCbrt x.value⟩
  isFinite := Decimal.spelled
  llround x := ratLlround x.value
  ceilNanos x := ⌈x.value * 10 ^ 9⌉.toNat
  -- as in `ℚ`, neither is distinguished from 0
  quietNaN := ⟨0⟩
  negInfinity := ⟨0⟩

/-- **The decimal format is exact** on the finite decimals. -/
theorem decimalFormat_exact : decimalFormat.Exact := by
  intro x hx
  obtain ⟨hread, hplain, hshort⟩ := of_decide_eq_true (show Decimal.spelled x = true from hx)
  exact ⟨hread, hplain, hshort⟩

/-- **The built-in manifest passes its checks** in exact arithmetic. -/
theorem builtinSound_decimal : BuiltinSound Decimal where
  valid := by decide +kernel
  profile := by decide +kernel

end OpenArm.Manifest
