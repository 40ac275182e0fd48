/-
  OpenArm.Lib.RealFloat — the real numbers as an exact `Floating`.

  The abstract counterpart of the computable `ℚ`: square and cube roots are the
  real ones, so a result about them needs no error term.  A program clamps a
  parameter to `[0, 1]` before it evaluates a polynomial; §3 says when the
  clamped function is differentiable at the two corners.

  Main results:
    * `hasDerivAt_comp_clamp` — a clamped function whose derivative vanishes
      at both ends is differentiable everywhere.
    * `cbrt_pow`, `le_pow_of_cbrt_le` — what the cube root says of its cube.
-/
import OpenArm.Lib.Floating

namespace OpenArm.Lib

/-! ## §1. The instance. -/

/-- The literal 2, by name: it is then one term wherever it is written. -/
instance atLeastTwoTwo : Nat.AtLeastTwo 2 := ⟨le_refl 2⟩

open Classical in
/-- Exact arithmetic.  `cbrt` takes the sign out of the root, as the library
    function does; there are no NaNs or infinities. -/
noncomputable instance : Floating ℝ where
  decLt := fun a b => propDecidable (a < b)
  decLe := fun a b => propDecidable (a ≤ b)
  lit := fun q => (q : ℝ)
  ofNat := fun n => (n : ℝ)
  abs := fun x => |x|
  sqrt := Real.sqrt
  cbrt := fun x => if 0 ≤ x then x ^ (1 / 3 : ℝ) else -(-x) ^ (1 / 3 : ℝ)
  isFinite := fun _ => true
  llround := fun x => if 0 ≤ x then ⌊x + 1 / 2⌋ else -⌊-x + 1 / 2⌋
  ceilNanos := fun x => ⌈x * 10 ^ 9⌉.toNat
  quietNaN := 0
  negInfinity := 0

namespace RealFloat

@[simp] theorem lit_eq (q : ℚ) : (Floating.lit q : ℝ) = (q : ℝ) := rfl

@[simp] theorem ofNat_eq (n : Nat) : (Floating.ofNat n : ℝ) = (n : ℝ) := rfl

@[simp] theorem abs_eq (x : ℝ) : Floating.abs x = |x| := rfl

@[simp] theorem sqrt_eq (x : ℝ) : Floating.sqrt x = Real.sqrt x := rfl

/-- `std::max` is the maximum. -/
theorem max_eq (a b : ℝ) : Floating.max a b = max a b := by
  unfold Floating.max
  split
  · next hlt => rw [max_eq_right (le_of_lt hlt)]
  · next hnot => rw [max_eq_left (not_lt.mp hnot)]

/-! ## §2. Roots and rounding. -/

/-- The cube root of a non-negative value is the number whose cube it is. -/
theorem cbrt_pow {x : ℝ} (hx : 0 ≤ x) : (Floating.cbrt x) ^ 3 = x := by
  show (if 0 ≤ x then x ^ (1 / 3 : ℝ) else -(-x) ^ (1 / 3 : ℝ)) ^ 3 = x
  rw [if_pos hx, ← Real.rpow_natCast, ← Real.rpow_mul hx]
  norm_num

/-- A number at or above the cube root has a cube at or above the radicand. -/
theorem le_pow_of_cbrt_le {x t : ℝ} (hx : 0 ≤ x) (h : Floating.cbrt x ≤ t) : x ≤ t ^ 3 := by
  calc x = (Floating.cbrt x) ^ 3 := (cbrt_pow hx).symm
    _ ≤ t ^ 3 := (Odd.strictMono_pow (by decide : Odd 3)).monotone h

/-- A number at or above the square root has a square at or above the
    radicand. -/
theorem le_sq_of_sqrt_le {x t : ℝ} (h : Real.sqrt x ≤ t) : x ≤ t ^ 2 :=
  (Real.sqrt_le_iff.mp h).2

/-- Rounding up to whole nanoseconds does not shorten a duration. -/
theorem le_ceilNanos {x : ℝ} : x ≤ (Floating.ceilNanos x : ℝ) * 1e-9 := by
  have hceil : x * 10 ^ 9 ≤ ((⌈x * 10 ^ 9⌉.toNat : ℕ) : ℝ) := by
    have hint : (⌈x * 10 ^ 9⌉ : ℝ) ≤ ((⌈x * 10 ^ 9⌉.toNat : ℤ) : ℝ) := by
      exact_mod_cast Int.self_le_toNat _
    exact le_trans (Int.le_ceil _) (by exact_mod_cast hint)
  show x ≤ ((⌈x * 10 ^ 9⌉.toNat : ℕ) : ℝ) * 1e-9
  calc x = x * 10 ^ 9 * 1e-9 := by ring
    _ ≤ ((⌈x * 10 ^ 9⌉.toNat : ℕ) : ℝ) * 1e-9 := by gcongr

/-! ## §3. A clamped parameter. -/

/-- The parameter a clamped function is evaluated at. -/
noncomputable def clamp01 (u : ℝ) : ℝ := Floating.clamp u (Floating.lit 0) (Floating.lit 1)

theorem clamp01_of_le {u : ℝ} (h : u ≤ 0) : clamp01 u = 0 := by
  simp only [clamp01, Floating.clamp, lit_eq, Rat.cast_zero, Rat.cast_one]
  split
  · rfl
  · rw [if_neg (by linarith)]
    linarith

theorem clamp01_of_ge {u : ℝ} (h : 1 ≤ u) : clamp01 u = 1 := by
  simp only [clamp01, Floating.clamp, lit_eq, Rat.cast_zero, Rat.cast_one]
  rw [if_neg (by linarith)]
  split
  · rfl
  · linarith

theorem clamp01_of_mem {u : ℝ} (h0 : 0 ≤ u) (h1 : u ≤ 1) : clamp01 u = u := by
  simp only [clamp01, Floating.clamp, lit_eq, Rat.cast_zero, Rat.cast_one]
  rw [if_neg (by linarith), if_neg (by linarith)]

theorem clamp01_nonneg (u : ℝ) : 0 ≤ clamp01 u := by
  by_cases h0 : u ≤ 0
  · rw [clamp01_of_le h0]
  · by_cases h1 : u ≤ 1
    · rw [clamp01_of_mem (by linarith) h1]
      linarith
    · rw [clamp01_of_ge (by linarith)]
      norm_num

theorem clamp01_le_one (u : ℝ) : clamp01 u ≤ 1 := by
  by_cases h0 : u ≤ 0
  · rw [clamp01_of_le h0]
    norm_num
  · by_cases h1 : u ≤ 1
    · rw [clamp01_of_mem (by linarith) h1]
      exact h1
    · rw [clamp01_of_ge (by linarith)]

/-- Left of the interval the clamped function is constant. -/
theorem hasDerivWithinAt_left (f : ℝ → ℝ) {u : ℝ} (h : u ≤ 0) :
    HasDerivWithinAt (fun v => f (clamp01 v)) 0 (Set.Iic 0) u := by
  refine (hasDerivWithinAt_const u (Set.Iic 0) (f 0)).congr ?_ ?_
  · intro v hv
    rw [clamp01_of_le hv]
  · rw [clamp01_of_le h]

/-- Right of the interval the clamped function is constant. -/
theorem hasDerivWithinAt_right (f : ℝ → ℝ) {u : ℝ} (h : 1 ≤ u) :
    HasDerivWithinAt (fun v => f (clamp01 v)) 0 (Set.Ici 1) u := by
  refine (hasDerivWithinAt_const u (Set.Ici 1) (f 1)).congr ?_ ?_
  · intro v hv
    rw [clamp01_of_ge hv]
  · rw [clamp01_of_ge h]

/-- On the interval the clamped function is the function. -/
theorem hasDerivWithinAt_middle {f f' : ℝ → ℝ} (hf : ∀ x, HasDerivAt f (f' x) x) {u : ℝ}
    (h0 : 0 ≤ u) (h1 : u ≤ 1) :
    HasDerivWithinAt (fun v => f (clamp01 v)) (f' u) (Set.Icc 0 1) u := by
  refine (hf u).hasDerivWithinAt.congr ?_ ?_
  · intro v hv
    rw [clamp01_of_mem hv.1 hv.2]
  · rw [clamp01_of_mem h0 h1]

/-- **A clamped function is smooth at its corners** when its derivative vanishes
    there: the one-sided derivatives agree. -/
theorem hasDerivAt_comp_clamp {f f' : ℝ → ℝ} (hf : ∀ x, HasDerivAt f (f' x) x)
    (h0 : f' 0 = 0) (h1 : f' 1 = 0) (u : ℝ) :
    HasDerivAt (fun v => f (clamp01 v)) (f' (clamp01 u)) u := by
  -- The line is the union of two half lines and the interval; at a corner
  -- the derivatives of the two adjacent pieces are both zero.
  by_cases hneg : u < 0
  · rw [clamp01_of_le hneg.le, h0]
    exact (hasDerivWithinAt_left f hneg.le).hasDerivAt (Iic_mem_nhds hneg)
  by_cases hzero : u = 0
  · subst hzero
    rw [clamp01_of_le le_rfl, h0]
    have hmid := hasDerivWithinAt_middle hf (le_refl (0 : ℝ)) zero_le_one
    rw [h0] at hmid
    have hunion := (hasDerivWithinAt_left f (le_refl (0 : ℝ))).union hmid
    rw [Set.Iic_union_Icc_eq_Iic zero_le_one] at hunion
    exact hunion.hasDerivAt (Iic_mem_nhds one_pos)
  by_cases hone : u = 1
  · subst hone
    rw [clamp01_of_ge le_rfl, h1]
    have hmid := hasDerivWithinAt_middle hf zero_le_one (le_refl (1 : ℝ))
    rw [h1] at hmid
    have hunion := hmid.union (hasDerivWithinAt_right f (le_refl (1 : ℝ)))
    rw [Set.Icc_union_Ici_eq_Ici zero_le_one] at hunion
    exact hunion.hasDerivAt (Ici_mem_nhds one_pos)
  by_cases hgt : 1 < u
  · rw [clamp01_of_ge hgt.le, h1]
    exact (hasDerivWithinAt_right f hgt.le).hasDerivAt (Ici_mem_nhds hgt)
  · have hpos : 0 < u := lt_of_le_of_ne (not_lt.mp hneg) (Ne.symm hzero)
    have hlt : u < 1 := lt_of_le_of_ne (not_lt.mp hgt) hone
    rw [clamp01_of_mem hpos.le hlt.le]
    exact (hasDerivWithinAt_middle hf hpos.le hlt.le).hasDerivAt (Icc_mem_nhds hpos hlt)

end RealFloat

end OpenArm.Lib
