/-
  OpenArm.Lib.Quantizer — a range cut into equal steps.

  A number of a range is sent as the number of whole steps from its lower
  end, and read back as the number that lies that many steps up.  Reading
  truncates or rounds on the way out, never on the way in: the codes of a
  range are its exact grid.

  Main results:
    * `Quantizer.code_le`, `Quantizer.value_code_le`, `Quantizer.lt_value_code`
      — the code of a number of the range, and what it stands for.
    * `Quantizer.code_value` — a grid point is coded by itself.
-/
import Mathlib

namespace OpenArm.Lib

/-- A range and the number of steps it is cut into. -/
structure Quantizer (K : Type*) [Field K] [LinearOrder K] where
  lower : K
  upper : K
  steps : Nat
  lower_lt_upper : lower < upper
  steps_pos : 0 < steps

namespace Quantizer

variable {K : Type*} [Field K] [LinearOrder K] [IsStrictOrderedRing K] [FloorRing K]

/-- The width of one step. -/
def step (r : Quantizer K) : K := (r.upper - r.lower) / r.steps

/-- The position of a number, in steps. -/
def position (r : Quantizer K) (v : K) : K := (v - r.lower) * r.steps / (r.upper - r.lower)

/-- The whole steps below a number. -/
def code (r : Quantizer K) (v : K) : Nat := ⌊r.position v⌋₊

/-- The grid point a code stands for. -/
def value (r : Quantizer K) (k : Nat) : K := (k : K) / r.steps * (r.upper - r.lower) + r.lower

variable (r : Quantizer K)

section

omit [FloorRing K]

theorem width_pos : 0 < r.upper - r.lower := sub_pos.mpr r.lower_lt_upper

theorem steps_cast_pos : (0 : K) < r.steps := by exact_mod_cast r.steps_pos

theorem position_nonneg {v : K} (h : r.lower ≤ v) : 0 ≤ r.position v := by
  have hw := r.width_pos
  have hs := r.steps_cast_pos
  have hv : 0 ≤ v - r.lower := sub_nonneg.mpr h
  unfold position
  positivity

theorem position_le {v : K} (h : v ≤ r.upper) : r.position v ≤ r.steps := by
  unfold position
  rw [div_le_iff₀ r.width_pos, mul_comm]
  have hs := r.steps_cast_pos
  gcongr

/-- A number lies at the grid point of its position. -/
theorem eq_position (v : K) : v = r.position v / r.steps * (r.upper - r.lower) + r.lower := by
  have hw := r.width_pos.ne'
  have hs := r.steps_cast_pos.ne'
  unfold position
  field_simp
  ring

/-- A grid point lies at its own number of steps. -/
theorem position_value (k : Nat) : r.position (r.value k) = k := by
  have hw := r.width_pos.ne'
  have hs := r.steps_cast_pos.ne'
  unfold position value
  rw [add_sub_cancel_right]
  field_simp

end

/-- The code of a number of the range is one of the range's codes. -/
theorem code_le {v : K} (h : v ≤ r.upper) : r.code v ≤ r.steps :=
  Nat.floor_le_of_le (r.position_le h)

/-- The grid point of a code is not above the number. -/
theorem value_code_le {v : K} (h : r.lower ≤ v) : r.value (r.code v) ≤ v := by
  have hfloor : (r.code v : K) ≤ r.position v := Nat.floor_le (r.position_nonneg h)
  have hw := r.width_pos
  have hs := r.steps_cast_pos
  calc r.value (r.code v) ≤ r.position v / r.steps * (r.upper - r.lower) + r.lower := by
        unfold value
        gcongr
    _ = v := (r.eq_position v).symm

/-- … and less than a step below it. -/
theorem lt_value_code (v : K) : v - r.step < r.value (r.code v) := by
  have hfloor : r.position v < r.code v + 1 := Nat.lt_floor_add_one _
  have hw := r.width_pos
  have hs := r.steps_cast_pos
  have hstep : r.value (r.code v) + r.step =
      ((r.code v : K) + 1) / r.steps * (r.upper - r.lower) + r.lower := by
    unfold value step
    ring
  have hlt : v < r.value (r.code v) + r.step := by
    rw [hstep]
    calc v = r.position v / r.steps * (r.upper - r.lower) + r.lower := r.eq_position v
      _ < ((r.code v : K) + 1) / r.steps * (r.upper - r.lower) + r.lower := by gcongr
  linarith

/-- **A grid point is coded by itself.** -/
theorem code_value (k : Nat) : r.code (r.value k) = k := by
  unfold code
  rw [r.position_value]
  exact Nat.floor_natCast k

omit [FloorRing K] in
/-- A code of the range stands for a number of the range. -/
theorem value_mem {k : Nat} (h : k ≤ r.steps) : r.lower ≤ r.value k ∧ r.value k ≤ r.upper := by
  have hw := r.width_pos
  have hs := r.steps_cast_pos
  have hk : (k : K) / r.steps ≤ 1 := by
    rw [div_le_one hs]
    exact_mod_cast h
  have hshare : (k : K) / r.steps * (r.upper - r.lower) ≤ 1 * (r.upper - r.lower) := by gcongr
  have hnonneg : 0 ≤ (k : K) / r.steps * (r.upper - r.lower) := by positivity
  unfold value
  constructor
  · linarith
  · linarith

end Quantizer

end OpenArm.Lib
