/-
  OpenArm.Lib.Rotation — rotations of space and how they turn.

  A rotation is a matrix of Mathlib's special orthogonal group.  It respects
  the cross product; Rodrigues' formula gives the rotation about a unit axis,
  and its derivative is the cross product with that axis.

  Main results:
    * `mulVec_cross`         — a rotation respects the cross product.
    * `rodrigues_mem`        — the formula gives a rotation.
    * `hasDerivAt_rodrigues` — and its derivative.
-/
import OpenArm.Lib.RealFloat

namespace OpenArm.Lib

open Matrix

/-! ## §1. Rotations and the cross product. -/

section Cross

variable {R : Matrix (Fin 3) (Fin 3) ℝ} (hR : R ∈ specialOrthogonalGroup (Fin 3) ℝ)

include hR

/-- The inverse of a rotation is its transpose. -/
theorem transpose_mul_rotation : Rᵀ * R = 1 :=
  (mem_orthogonalGroup_iff' (Fin 3) ℝ).mp (mem_specialOrthogonalGroup_iff.mp hR).1

/-- It is also its adjugate: every entry is its own cofactor. -/
theorem adjugate_rotation : adjugate R = Rᵀ := by
  have hdet : R.det = 1 := (mem_specialOrthogonalGroup_iff.mp hR).2
  have hinv : R * adjugate R = 1 := by
    rw [mul_adjugate, hdet, one_smul]
  calc adjugate R = (Rᵀ * R) * adjugate R := by rw [transpose_mul_rotation hR, one_mul]
    _ = Rᵀ * (R * adjugate R) := mul_assoc _ _ _
    _ = Rᵀ := by rw [hinv, mul_one]

/-- **A rotation respects the cross product.** -/
theorem mulVec_cross (a b : Fin 3 → ℝ) : R *ᵥ (a ⨯₃ b) = (R *ᵥ a) ⨯₃ (R *ᵥ b) := by
  have hcofactor : ∀ i j, R i j = (adjugate R) j i := fun i j => by
    rw [adjugate_rotation hR, transpose_apply]
  have hrow : R = (adjugate R)ᵀ := by
    rw [adjugate_rotation hR, transpose_transpose]
  conv_lhs => rw [hrow, adjugate_fin_three]
  ext i
  fin_cases i <;>
    simp [mulVec, dotProduct, Fin.sum_univ_three, cross_apply] <;>
    ring

end Cross

/-! ## §2. Rodrigues' formula. -/

/-- The rotation about an axis by an angle. -/
noncomputable def rodrigues (u : Fin 3 → ℝ) (angle : ℝ) : Matrix (Fin 3) (Fin 3) ℝ :=
  let c := Real.cos angle
  let s := Real.sin angle
  let d := 1 - c
  !![c + u 0 * u 0 * d, u 0 * u 1 * d - u 2 * s, u 0 * u 2 * d + u 1 * s;
    u 1 * u 0 * d + u 2 * s, c + u 1 * u 1 * d, u 1 * u 2 * d - u 0 * s;
    u 2 * u 0 * d - u 1 * s, u 2 * u 1 * d + u 0 * s, c + u 2 * u 2 * d]

/-- What it makes of a vector. -/
theorem rodrigues_mulVec (u y : Fin 3 → ℝ) (angle : ℝ) (i : Fin 3) :
    (rodrigues u angle *ᵥ y) i = Real.cos angle * y i +
      (1 - Real.cos angle) * (u ⬝ᵥ y) * u i + Real.sin angle * (u ⨯₃ y) i := by
  unfold rodrigues
  fin_cases i <;>
    simp [mulVec, dotProduct, Fin.sum_univ_three, cross_apply] <;>
    ring

section Rodrigues

variable {u : Fin 3 → ℝ} (hu : u 0 * u 0 + u 1 * u 1 + u 2 * u 2 = 1) (angle : ℝ)

include hu

/-- **It is a rotation.** -/
theorem rodrigues_mem : rodrigues u angle ∈ specialOrthogonalGroup (Fin 3) ℝ := by
  have hcircle := Real.sin_sq_add_cos_sq angle
  unfold rodrigues
  generalize Real.cos angle = c at hcircle ⊢
  generalize Real.sin angle = s at hcircle ⊢
  generalize u 0 = x at hu ⊢
  generalize u 1 = y at hu ⊢
  generalize u 2 = z at hu ⊢
  rw [mem_specialOrthogonalGroup_iff, mem_orthogonalGroup_iff]
  constructor
  · ext i j
    fin_cases i <;> fin_cases j <;>
      simp [mul_apply, Fin.sum_univ_three] <;>
      grind
  · rw [det_fin_three]
    simp
    grind

/-- **It turns about its axis.** -/
theorem hasDerivAt_rodrigues (y : Fin 3 → ℝ) (i : Fin 3) :
    HasDerivAt (fun angle => (rodrigues u angle *ᵥ y) i)
      ((u ⨯₃ (rodrigues u angle *ᵥ y)) i) angle := by
  have hunit : u ⬝ᵥ u = 1 := by
    simp [dotProduct, Fin.sum_univ_three, hu]
  have hturned : rodrigues u angle *ᵥ y = Real.cos angle • y +
      ((1 - Real.cos angle) * (u ⬝ᵥ y)) • u + Real.sin angle • (u ⨯₃ y) := by
    funext j
    exact rodrigues_mulVec u y angle j
  have hcross : (u ⨯₃ (rodrigues u angle *ᵥ y)) i = -Real.sin angle * y i +
      Real.sin angle * (u ⬝ᵥ y) * u i + Real.cos angle * (u ⨯₃ y) i := by
    rw [hturned]
    simp only [map_add, map_smul, cross_self, cross_cross_eq_smul_sub_smul', hunit]
    simp
    ring
  rw [hcross]
  simp only [rodrigues_mulVec]
  have hcos := (Real.hasDerivAt_cos angle).mul_const (y i)
  have hsin := (Real.hasDerivAt_sin angle).mul_const ((u ⨯₃ y) i)
  have hmiddle := (((Real.hasDerivAt_cos angle).const_sub 1).mul_const (u ⬝ᵥ y)).mul_const (u i)
  refine ((hcos.add hmiddle).add hsin).congr_deriv ?_
  ring

end Rodrigues

end OpenArm.Lib
