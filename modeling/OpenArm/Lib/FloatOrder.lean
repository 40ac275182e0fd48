/-
  OpenArm.Lib.FloatOrder — the laws of comparison a numeric program relies on.

  Main definitions:
    * `FloatOrder`    — comparison, with NaNs left out of it.
    * `InfinityOrder` — … and the two infinities at its ends.
    * `FloatMean`     — … and what is known of magnitudes and of means.
    * `FloatReach`    — … and of the sum of a value and a product.

  `FloatOrder F` says what is true of the comparisons of binary64, NaNs and
  infinities included: a value that is no NaN compares with itself, numbers
  are totally ordered, and subtracting a finite amount from both sides of a
  comparison keeps it, rounded or not; a difference of finite values is a
  number, and a literal is rounded monotonically.  `ℚ` satisfies them too.
-/
import OpenArm.Lib.Floating

namespace OpenArm.Lib

/-- Comparison and subtraction of floating-point values. -/
class FloatOrder (F : Type) [Floating F] : Prop where
  le_self_of_isFinite {a : F} : Floating.isFinite a = true → a ≤ a
  le_self_left {a b : F} : a ≤ b → a ≤ a
  le_self_right {a b : F} : a ≤ b → b ≤ b
  le_trans {a b c : F} : a ≤ b → b ≤ c → a ≤ c
  le_total {a b : F} : a ≤ a → b ≤ b → a ≤ b ∨ b ≤ a
  lt_iff {a b : F} : a < b ↔ a ≤ b ∧ ¬ b ≤ a
  sub_le_sub {a b c : F} : Floating.isFinite c = true → a ≤ b → a - c ≤ b - c
  sub_le_self {a c : F} : Floating.isFinite c = true → Floating.lit 0 ≤ c → a ≤ a → a - c ≤ a
  abs_sub_self {a b : F} : Floating.isFinite a = true → Floating.isFinite b = true →
    Floating.abs (a - b) ≤ Floating.abs (a - b)
  lit_le_lit {p q : ℚ} : p ≤ q → (Floating.lit p : F) ≤ Floating.lit q
  isFinite_lit {q : ℚ} : 0 ≤ q → q ≤ 1 → Floating.isFinite (Floating.lit q : F) = true

instance : FloatOrder ℚ where
  le_self_of_isFinite _ := le_refl (α := ℚ) _
  le_self_left _ := le_refl (α := ℚ) _
  le_self_right _ := le_refl (α := ℚ) _
  le_trans := le_trans (α := ℚ)
  le_total _ _ := le_total (α := ℚ) _ _
  lt_iff := lt_iff_le_not_ge (α := ℚ)
  sub_le_sub _ h := sub_le_sub_right (α := ℚ) h _
  sub_le_self _ h _ := sub_le_iff_le_add.mpr (le_add_of_nonneg_right h)
  abs_sub_self _ _ := le_refl (α := ℚ) _
  lit_le_lit h := h
  isFinite_lit _ _ := rfl

namespace Floating

variable {F : Type} [Floating F] [FloatOrder F] {a b c : F}

/-- `std::min`: the second argument only when it is strictly smaller. -/
def min (a b : F) : F := if b < a then b else a

theorem le_of_lt (h : a < b) : a ≤ b := (FloatOrder.lt_iff.mp h).1

theorem not_le_of_lt (h : a < b) : ¬ b ≤ a := (FloatOrder.lt_iff.mp h).2

/-- Numbers that are not smaller are at least as large. -/
theorem le_of_not_lt (ha : a ≤ a) (hb : b ≤ b) (h : ¬ a < b) : b ≤ a := by
  rcases FloatOrder.le_total ha hb with hab | hba
  · by_contra hnot
    exact h (FloatOrder.lt_iff.mpr ⟨hab, hnot⟩)
  · exact hba

theorem lt_of_not_le (ha : a ≤ a) (hb : b ≤ b) (h : ¬ b ≤ a) : a < b := by
  by_contra hnot
  exact h (le_of_not_lt ha hb hnot)

theorem min_le_left (ha : a ≤ a) : min a b ≤ a := by
  unfold min
  split
  · rename_i hlt
    exact le_of_lt hlt
  · exact ha

theorem min_le_right (ha : a ≤ a) (hb : b ≤ b) : min a b ≤ b := by
  unfold min
  split
  · exact hb
  · rename_i hnot
    exact le_of_not_lt hb ha hnot

omit [FloatOrder F] in
/-- The smaller of two numbers is one of them. -/
theorem min_cases (a b : F) : min a b = a ∨ min a b = b := by
  unfold min
  split
  · exact .inr rfl
  · exact .inl rfl

end Floating

/-! ## §2. NaNs and infinities. -/

namespace Floating

variable {F : Type} [Floating F]

/-- `isnan`: the value that does not compare with itself. -/
def isNan (a : F) : Bool := !decide (a ≤ a)

/-- `INFINITY`. -/
def infinity : F := -negInfinity

theorem isNan_eq_false {a : F} : isNan a = false ↔ a ≤ a := by
  simp [isNan]

end Floating

/-- The infinities lie at the ends of the order of the numbers. -/
class InfinityOrder (F : Type) [Floating F] : Prop extends FloatOrder F where
  negInfinity_le {a : F} : a ≤ a → Floating.negInfinity ≤ a
  le_infinity {a : F} : a ≤ a → a ≤ Floating.infinity
  negInfinity_lt {a : F} : Floating.isFinite a = true → Floating.negInfinity < a
  lt_infinity {a : F} : Floating.isFinite a = true → a < Floating.infinity
  eq_infinity {a : F} : Floating.infinity ≤ a → a = Floating.infinity

/-- A magnitude of a finite value is a number, a share of it is finite, and what is
    not negative has a negation that is not positive. -/
class FloatMean (F : Type) [Floating F] : Prop extends FloatOrder F where
  abs_self {a : F} : Floating.isFinite a = true → Floating.abs a ≤ Floating.abs a
  isFinite_div {a : F} {n : Nat} : Floating.isFinite a = true → 0 < n →
    Floating.isFinite (a / Floating.ofNat n) = true
  neg_le_zero {a : F} : Floating.lit 0 ≤ a → -a ≤ Floating.lit 0

instance : FloatMean ℚ where
  abs_self _ := le_refl (α := ℚ) _
  isFinite_div _ _ := rfl
  neg_le_zero h := neg_nonpos.mpr h

/-- A product of finite values is a number, and so is what a finite value gives
    with a number added. -/
class FloatReach (F : Type) [Floating F] : Prop extends FloatMean F where
  mul_self {a b : F} : Floating.isFinite a = true → Floating.isFinite b = true → a * b ≤ a * b
  add_self {a b : F} : Floating.isFinite a = true → b ≤ b → a + b ≤ a + b

instance : FloatReach ℚ where
  mul_self _ _ := le_refl (α := ℚ) _
  add_self _ _ := le_refl (α := ℚ) _

end OpenArm.Lib
