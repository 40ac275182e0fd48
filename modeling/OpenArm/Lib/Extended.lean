/-
  OpenArm.Lib.Extended — exact numbers with a NaN and two infinities.

  `Extended` computes with rationals as long as it can and otherwise follows
  the special cases of binary64, signed zeros apart.  It is the computable
  number type with everything `InfinityOrder` speaks about.
-/
import OpenArm.Lib.FloatOrder

namespace OpenArm.Lib

/-- A NaN, the infinities, and the rationals. -/
inductive Extended where
  | nan
  | negative
  | finite (q : ℚ)
  | positive
  deriving DecidableEq

namespace Extended

/-- Infinity with the sign of a number; nothing has no sign. -/
def signed (q : ℚ) : Extended := if 0 < q then positive else if q < 0 then negative else nan

def neg : Extended → Extended
  | nan => nan
  | negative => positive
  | finite q => finite (-q)
  | positive => negative

def add : Extended → Extended → Extended
  | finite a, finite b => finite (a + b)
  | negative, negative | negative, finite _ | finite _, negative => negative
  | positive, positive | positive, finite _ | finite _, positive => positive
  | _, _ => nan

def mul : Extended → Extended → Extended
  | finite a, finite b => finite (a * b)
  | positive, finite q | finite q, positive => signed q
  | negative, finite q | finite q, negative => signed (-q)
  | positive, positive | negative, negative => positive
  | positive, negative | negative, positive => negative
  | _, _ => nan

def div : Extended → Extended → Extended
  | finite a, finite b => if b = 0 then signed a else finite (a / b)
  | finite _, positive | finite _, negative => finite 0
  | positive, finite q => if 0 ≤ q then positive else negative
  | negative, finite q => if 0 ≤ q then negative else positive
  | _, _ => nan

def le : Extended → Extended → Prop
  | finite a, finite b => a ≤ b
  | negative, negative | negative, finite _ | negative, positive => True
  | finite _, positive | positive, positive => True
  | _, _ => False

def lt : Extended → Extended → Prop
  | finite a, finite b => a < b
  | negative, finite _ | negative, positive | finite _, positive => True
  | _, _ => False

instance : DecidableRel le := fun a b => by
  cases a <;> cases b <;> unfold le <;> infer_instance

instance : DecidableRel lt := fun a b => by
  cases a <;> cases b <;> unfold lt <;> infer_instance

/-- A function of non-negative numbers that grows without bound. -/
def lift (f : ℚ → ℚ) : Extended → Extended
  | finite q => if q < 0 then nan else finite (f q)
  | positive => positive
  | _ => nan

/-- A conversion of finite values. -/
def convert {β : Type} (otherwise : β) (f : ℚ → β) : Extended → β
  | finite q => f q
  | _ => otherwise

instance : Floating Extended where
  add := add
  sub a b := add a (neg b)
  mul := mul
  div := div
  neg := neg
  lt := lt
  le := le
  decLt := inferInstanceAs (DecidableRel lt)
  decLe := inferInstanceAs (DecidableRel le)
  lit := finite
  ofNat n := finite n
  abs
    | finite q => finite |q|
    | nan => nan
    | _ => positive
  sqrt := lift ratSqrt
  cbrt := lift ratCbrt
  isFinite := convert false fun _ => true
  llround := convert 0 ratLlround
  ceilNanos := convert 0 fun q => ⌈q * 10 ^ 9⌉.toNat
  quietNaN := nan
  negInfinity := negative

theorem le_def (a b : Extended) : a ≤ b ↔ le a b := Iff.rfl

theorem lt_def (a b : Extended) : a < b ↔ lt a b := Iff.rfl

theorem sub_def (a b : Extended) : a - b = add a (neg b) := rfl

/-- Only rationals are finite. -/
theorem finite_of_isFinite {a : Extended} (h : Floating.isFinite a = true) :
    ∃ q, a = finite q := by
  cases a with
  | finite q => exact ⟨q, rfl⟩
  | nan => cases h
  | negative => cases h
  | positive => cases h

instance : InfinityOrder Extended where
  le_self_of_isFinite h := by
    obtain ⟨q, rfl⟩ := finite_of_isFinite h
    exact le_refl q
  le_self_left {a b} h := by
    cases a <;> cases b <;> simp_all [le_def, le]
  le_self_right {a b} h := by
    cases a <;> cases b <;> simp_all [le_def, le]
  le_trans {a b c} hab hbc := by
    cases a <;> cases b <;> cases c <;> simp_all [le_def, le]
    linarith
  le_total {a b} ha hb := by
    cases a <;> cases b <;> simp_all [le_def, le]
    exact le_total _ _
  lt_iff {a b} := by
    cases a <;> cases b <;> simp [le_def, lt_def, le, lt]
    exact le_of_lt
  sub_le_sub {a b c} hc hab := by
    obtain ⟨q, rfl⟩ := finite_of_isFinite hc
    cases a <;> cases b <;> simp_all [le_def, sub_def, add, neg, le]
  sub_le_self {a c} hc h ha := by
    obtain ⟨q, rfl⟩ := finite_of_isFinite hc
    have hq : (0 : ℚ) ≤ q := h
    cases a <;> simp_all [le_def, sub_def, add, neg, le]
  abs_sub_self {a b} ha hb := by
    obtain ⟨p, rfl⟩ := finite_of_isFinite ha
    obtain ⟨q, rfl⟩ := finite_of_isFinite hb
    exact le_refl |p + -q|
  lit_le_lit h := h
  isFinite_lit _ _ := rfl
  negInfinity_le {a} h := by
    cases a <;> first | exact h.elim | trivial
  le_infinity {a} h := by
    cases a <;> first | exact h.elim | trivial
  negInfinity_lt h := by
    obtain ⟨q, rfl⟩ := finite_of_isFinite h
    trivial
  lt_infinity h := by
    obtain ⟨q, rfl⟩ := finite_of_isFinite h
    trivial
  eq_infinity {a} h := by
    cases a <;> first | exact h.elim | rfl

end Extended

end OpenArm.Lib
