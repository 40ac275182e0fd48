/-
  OpenArm.Model.LeastSquares — the step of the inverse kinematics.

  `compute_step` solves a damped least-squares problem over the joints that
  are not locked, column by column through `solve3`, and adds a posture term
  projected by the same columns.

  Main results:
    * `solve3_eq_some`                — Gauss-Jordan elimination is exact.
    * `compute_step_normal_equations` — the task part solves the damped normal
                                        equations; without damping the posture
                                        part moves nothing.
-/
import OpenArm.Lib.FloatOrder
import OpenArm.Model.Kinematics

namespace OpenArm.Model

open OpenArm.Lib OpenArm.Control

section Source

variable {F : Type} [Kinematic F]

/-! ## §1. Three equations. -/

/-- A 3 × 3 matrix of the source. -/
abbrev Matrix3 (F : Type) := Fin 3 → Fin 3 → F

/-- `augmented`. -/
abbrev Augmented (F : Type) := Fin 3 → Fin 4 → F

/-- The matrix and the right-hand side. -/
def augment (input : Matrix3 F) (rhs : Vec3 F) : Augmented F := fun row column =>
  if h : column.val < 3 then input row ⟨column.val, h⟩ else rhs row

/-- The row with the largest entry of column `k`, at or below row `k`. -/
def selected (augmented : Augmented F) (k : Fin 3) : Fin 3 :=
  (List.finRange 3).foldl (fun selected row =>
    if k < row ∧ Floating.abs (augmented selected k.castSucc) <
      Floating.abs (augmented row k.castSucc) then row else selected) k

/-- The exchange of two rows, from column `k` on. -/
def swapRows (augmented : Augmented F) (k selected : Fin 3) : Augmented F := fun row column =>
  if column < k.castSucc then augmented row column
  else if row = k then augmented selected column
  else if row = selected then augmented k column
  else augmented row column

/-- The division of row `k` by its pivot. -/
def scaleRow (augmented : Augmented F) (k : Fin 3) : Augmented F := fun row column =>
  if row = k ∧ k.castSucc ≤ column then augmented row column / augmented k k.castSucc
  else augmented row column

/-- The subtraction of row `k` from the others. -/
def clearColumn (augmented : Augmented F) (k : Fin 3) : Augmented F := fun row column =>
  if row ≠ k ∧ k.castSucc ≤ column then
    augmented row column - augmented row k.castSucc * augmented k column
  else augmented row column

/-- One round of `solve3`; `none` where the pivot is too small. -/
def eliminate (augmented : Augmented F) (k : Fin 3) : Option (Augmented F) :=
  let selected := selected augmented k
  if Floating.abs (augmented selected k.castSucc) < Floating.lit 1e-15 then none
  else some (clearColumn (scaleRow (swapRows augmented k selected) k) k)

/-- `solve3`. -/
def solve3 (input : Matrix3 F) (rhs : Vec3 F) : Option (Vec3 F) := do
  let augmented ← eliminate (augment input rhs) 0
  let augmented ← eliminate augmented 1
  let augmented ← eliminate augmented 2
  let result : Vec3 F := fun row => augmented row 3
  if finiteAll result then some result else none

/-! ## §2. The smallest eigenvalue. -/

/-- `fmin`: a NaN loses against a number. -/
def fmin (a b : F) : F :=
  if Floating.isNan a then b else if Floating.isNan b then a else Floating.min a b

/-- One Jacobi rotation of rows and columns `p` and `q`. -/
def jacobiRotation (matrix : Matrix3 F) (p q : Fin 3) : Matrix3 F :=
  let two : F := Floating.lit 2.0
  let angle := Floating.lit 0.5 * Kinematic.atan2 (two * matrix p q) (matrix q q - matrix p p)
  let c := Kinematic.cos angle
  let s := Kinematic.sin angle
  let app := matrix p p
  let aqq := matrix q q
  let apq := matrix p q
  let kp (k : Fin 3) : F := c * matrix k p - s * matrix k q
  let kq (k : Fin 3) : F := s * matrix k p + c * matrix k q
  fun row column =>
    if row = p ∧ column = p then c * c * app - two * c * s * apq + s * s * aqq
    else if row = q ∧ column = q then s * s * app + two * c * s * apq + c * c * aqq
    else if row = p ∧ column = q ∨ row = q ∧ column = p then Floating.lit 0.0
    else if column = p then kp row
    else if row = p then kp column
    else if column = q then kq row
    else if row = q then kq column
    else matrix row column

/-- The iterations of `min_eigenvalue3`. -/
def jacobiIterations : Nat → Matrix3 F → Matrix3 F
  | 0, matrix => matrix
  | iterations + 1, matrix =>
    let first : Fin 3 × Fin 3 × F := (0, 1, Floating.abs (matrix 0 1))
    let second := if first.2.2 < Floating.abs (matrix 0 2) then
      (0, 2, Floating.abs (matrix 0 2)) else first
    let third := if second.2.2 < Floating.abs (matrix 1 2) then
      (1, 2, Floating.abs (matrix 1 2)) else second
    if third.2.2 < Floating.lit 1e-15 then matrix
    else jacobiIterations iterations (jacobiRotation matrix third.1 third.2.1)

/-- `min_eigenvalue3`. -/
def minEigenvalue3 (input : Matrix3 F) : F :=
  let matrix := jacobiIterations 24 input
  fmax (Floating.lit 0.0) (fmin (matrix 0 0) (fmin (matrix 1 1) (matrix 2 2)))

/-! ## §3. The step. -/

/-- The translational rows of a Jacobian. -/
abbrev Jacobian3 (F : Type) := Fin 3 → Joint → F

/-- `translational_matrix`. -/
def translationalMatrix (jacobian : Jacobian F) : Jacobian3 F :=
  fun row joint => jacobian (row.castAdd 3) joint

/-- `oa_ik_options`. -/
structure IkOptions (F : Type) where
  abiVersion : Nat
  structSize : Nat
  seed : JointVector F
  posture : JointVector F
  postureWeight : JointVector F
  positionToleranceM : F
  maxJointStepRad : F
  dampingMin : F
  dampingMax : F
  limitMarginRad : F
  maxIterations : Nat

/-- A sum over the joints that are not locked. -/
def sumFree (active : JointMask) (term : Joint → F) : F :=
  (List.finRange 7).foldl (fun sum joint => if hasJoint active joint then sum else sum + term joint)
    (Floating.lit 0.0)

/-- `gram`: the weighted square of the free columns. -/
def gram (jacobian : Jacobian3 F) (weights : JointVector F) (active : JointMask) : Matrix3 F :=
  fun row column => sumFree active fun joint =>
    jacobian row joint * jacobian column joint / weights joint

/-- `singular_value`. -/
def singularValue (jacobian : Jacobian3 F) (weights : JointVector F) (active : JointMask) : F :=
  Floating.sqrt (minEigenvalue3 (gram jacobian weights active))

/-- `norm_squared3`. -/
def normSquared3 (vector : Vec3 F) : F :=
  vector 0 * vector 0 + vector 1 * vector 1 + vector 2 * vector 2

section Step

variable (jacobian : Jacobian3 F) (error : Vec3 F) (q : JointVector F) (options : IkOptions F)
  (active : JointMask)

/-- `lambda`. -/
def damping (sigma : F) : F :=
  let threshold : F := Floating.lit 0.03
  let lambda :=
    if sigma < threshold then
      options.dampingMin + (options.dampingMax - options.dampingMin) * (threshold - sigma) /
        threshold
    else options.dampingMin
  if options.dampingMax < lambda then options.dampingMax else lambda

/-- `system`. -/
def stepSystem (lambda : F) : Matrix3 F := fun row column =>
  if row = column then gram jacobian options.postureWeight active row column + lambda * lambda
  else gram jacobian options.postureWeight active row column

/-- One row of `inverse`; a locked joint keeps its zeros. -/
def inverseRow (lambda : F) (joint : Joint) : Option (Vec3 F) :=
  if hasJoint active joint then some fun _ => Floating.lit 0.0
  else solve3 (stepSystem jacobian options active lambda) fun row =>
    jacobian row joint / options.postureWeight joint

/-- `task` of a joint. -/
def taskPart (inverse : Joint → Vec3 F) (joint : Joint) : F :=
  (List.finRange 3).foldl (fun task row => task + inverse joint row * error row)
    (Floating.lit 0.0)

/-- `posture_gain`. -/
def postureGain : F := Floating.lit 0.1 * Floating.sqrt (normSquared3 error)

/-- `secondary` of a joint. -/
def posturePart (inverse : Joint → Vec3 F) (joint : Joint) : F :=
  (List.finRange 7).foldl (fun secondary k =>
      if hasJoint active k then secondary
      else (List.finRange 3).foldl (fun secondary row => secondary -
        inverse joint row * jacobian row k * postureGain error * (options.posture k - q k))
        secondary)
    (postureGain error * (options.posture joint - q joint))

/-- `lambda` and `inverse` of a step. -/
def stepDamping : F := damping options (singularValue jacobian options.postureWeight active)

def stepInverse (joint : Joint) : Vec3 F :=
  (inverseRow jacobian options active (stepDamping jacobian options active) joint).getD
    fun _ => Floating.lit 0.0

/-- `compute_step`: `sigma`, and the step or a status. -/
def computeStep : F × Except ModelStatus (JointVector F) :=
  let lambda := stepDamping jacobian options active
  let inverse := stepInverse jacobian options active
  let step : JointVector F := fun joint =>
    if hasJoint active joint then Floating.lit 0.0
    else taskPart error inverse joint +
      posturePart jacobian error q options active inverse joint
  (singularValue jacobian options.postureWeight active,
    if (List.finRange 7).any fun joint =>
        (inverseRow jacobian options active lambda joint).isNone then .error .esingular
    else if finiteAll step then .ok step else .error .enonfinite)

end Step

end Source

/-! ## §4. Elimination is exact. -/

section Elimination

/-- A vector solves the equations. -/
def Solves (augmented : Augmented ℝ) (x : Vec3 ℝ) : Prop :=
  ∀ row, ∑ column : Fin 3, augmented row column.castSucc * x column = augmented row 3

/-- The columns before `k` are those of the identity. -/
def Reduced (augmented : Augmented ℝ) (k : Nat) : Prop :=
  ∀ row column : Fin 3, column.val < k →
    augmented row column.castSucc = if row = column then 1 else 0

variable {augmented : Augmented ℝ} {k : Fin 3} {x : Vec3 ℝ}

/-- The chosen row is not above the pivot. -/
theorem le_selected (augmented : Augmented ℝ) (k : Fin 3) : k ≤ selected augmented k := by
  have hfold : ∀ (rows : List (Fin 3)) (start : Fin 3), k ≤ start →
      k ≤ rows.foldl (fun selected row =>
        if k < row ∧ Floating.abs (augmented selected k.castSucc) <
          Floating.abs (augmented row k.castSucc) then row else selected) start := by
    intro rows
    induction rows with
    | nil => exact fun _ hstart => hstart
    | cons row rows ih =>
      intro start hstart
      refine ih _ ?_
      dsimp only
      split
      · next hrow => exact hrow.1.le
      · exact hstart
  exact hfold _ k le_rfl

/-- Before column `k` the rows from `k` on are zero. -/
theorem Reduced.zero (h : Reduced augmented k.val) {row column : Fin 3} (hrow : k ≤ row)
    (hcolumn : column < k) : augmented row column.castSucc = 0 := by
  rw [h row column hcolumn, if_neg (ne_of_gt (lt_of_lt_of_le hcolumn hrow))]

/-- The exchange of rows as a permutation. -/
theorem swapRows_eq (h : Reduced augmented k.val) {row' : Fin 3} (hle : k ≤ row') :
    swapRows augmented k row' = fun row column => augmented (Equiv.swap k row' row) column := by
  funext row column
  unfold swapRows
  by_cases hcolumn : column < k.castSucc
  · rw [if_pos hcolumn]
    have hlt : column.val < k.val := hcolumn
    have hzero : ∀ row, k ≤ row → augmented row column = 0 := fun row hrow =>
      h.zero hrow (show (⟨column.val, by omega⟩ : Fin 3) < k from hlt)
    by_cases hk : row = k
    · subst hk
      rw [Equiv.swap_apply_left, hzero _ le_rfl, hzero _ hle]
    · by_cases hrow : row = row'
      · subst hrow
        rw [Equiv.swap_apply_right, hzero _ hle, hzero _ le_rfl]
      · rw [Equiv.swap_apply_of_ne_of_ne hk hrow]
  · rw [if_neg hcolumn]
    by_cases hk : row = k
    · subst hk
      rw [if_pos rfl, Equiv.swap_apply_left]
    · rw [if_neg hk]
      by_cases hrow : row = row'
      · subst hrow
        rw [if_pos rfl, Equiv.swap_apply_right]
      · rw [if_neg hrow, Equiv.swap_apply_of_ne_of_ne hk hrow]

theorem Reduced.swap (h : Reduced augmented k.val) {row' : Fin 3} (hle : k ≤ row') :
    Reduced (swapRows augmented k row') k.val := by
  intro row column hcolumn
  rw [swapRows_eq h hle]
  dsimp only
  rw [h _ _ hcolumn]
  have hk : column ≠ k := Fin.ne_of_lt hcolumn
  have hrow' : column ≠ row' := Fin.ne_of_lt (lt_of_lt_of_le hcolumn hle)
  congr 1
  rw [eq_iff_iff, Equiv.swap_apply_eq_iff, Equiv.swap_apply_of_ne_of_ne hk hrow']

theorem solves_swap (h : Reduced augmented k.val) {row' : Fin 3} (hle : k ≤ row') :
    Solves (swapRows augmented k row') x ↔ Solves augmented x := by
  rw [swapRows_eq h hle]
  constructor
  · intro hsolves row
    have hrow := hsolves (Equiv.swap k row' row)
    dsimp only at hrow
    rwa [Equiv.swap_apply_self] at hrow
  · intro hsolves row
    exact hsolves _

/-- The division touches zeros only before column `k`. -/
theorem scaleRow_eq (h : Reduced augmented k.val) : scaleRow augmented k = fun row column =>
    if row = k then augmented k column / augmented k k.castSucc else augmented row column := by
  funext row column
  unfold scaleRow
  by_cases hrow : row = k
  · subst hrow
    by_cases hcolumn : row.castSucc ≤ column
    · rw [if_pos ⟨rfl, hcolumn⟩, if_pos rfl]
    · rw [if_neg fun hboth => hcolumn hboth.2, if_pos rfl]
      have hlt : column.val < row.val := not_le.mp hcolumn
      have hzero := h.zero (le_refl row) (show (⟨column.val, by omega⟩ : Fin 3) < row from hlt)
      rw [show column = (⟨column.val, by omega⟩ : Fin 3).castSucc from rfl, hzero, zero_div]
  · rw [if_neg fun hboth => hrow hboth.1, if_neg hrow]

theorem Reduced.scale (h : Reduced augmented k.val) : Reduced (scaleRow augmented k) k.val := by
  intro row column hcolumn
  rw [scaleRow_eq h]
  dsimp only
  split
  · next hrow =>
    rw [h.zero le_rfl hcolumn, zero_div, hrow, if_neg (Fin.ne_of_gt hcolumn)]
  · exact h row column hcolumn

theorem solves_scale (h : Reduced augmented k.val) (hpivot : augmented k k.castSucc ≠ 0) :
    Solves (scaleRow augmented k) x ↔ Solves augmented x := by
  rw [scaleRow_eq h]
  refine forall_congr' fun row => ?_
  by_cases hrow : row = k
  · subst hrow
    simp only [if_true]
    rw [show (∑ column : Fin 3, augmented row column.castSucc / augmented row row.castSucc *
        x column) = (∑ column : Fin 3, augmented row column.castSucc * x column) /
          augmented row row.castSucc by
      rw [Finset.sum_div]
      exact Finset.sum_congr rfl fun column _ => div_mul_eq_mul_div _ _ _]
    exact div_left_inj' hpivot
  · simp only [if_neg hrow]

/-- The subtraction touches nothing before column `k`. -/
theorem clearColumn_eq (h : Reduced augmented k.val) : clearColumn augmented k =
    fun row column => if row = k then augmented row column
      else augmented row column - augmented row k.castSucc * augmented k column := by
  funext row column
  unfold clearColumn
  by_cases hrow : row = k
  · rw [if_neg fun hboth => hboth.1 hrow, if_pos hrow]
  · rw [if_neg hrow]
    by_cases hcolumn : k.castSucc ≤ column
    · rw [if_pos ⟨hrow, hcolumn⟩]
    · rw [if_neg fun hboth => hcolumn hboth.2]
      have hlt : column.val < k.val := not_le.mp hcolumn
      have hzero := h.zero (le_refl k) (show (⟨column.val, by omega⟩ : Fin 3) < k from hlt)
      rw [show augmented k column = 0 from hzero, mul_zero, sub_zero]

theorem Reduced.clear (h : Reduced augmented k.val) (hpivot : augmented k k.castSucc = 1) :
    Reduced (clearColumn augmented k) (k.val + 1) := by
  intro row column hcolumn
  rw [clearColumn_eq h]
  dsimp only
  rcases Nat.lt_succ_iff_lt_or_eq.mp hcolumn with hlt | heq
  · split
    · exact h row column hlt
    · rw [h.zero (le_refl k) hlt, mul_zero, sub_zero]
      exact h row column hlt
  · obtain rfl : column = k := Fin.ext heq
    split
    · next hrow =>
      rw [hrow, hpivot]
    · next hrow =>
      rw [hpivot, mul_one, sub_self]

theorem solves_clear (h : Reduced augmented k.val) :
    Solves (clearColumn augmented k) x ↔ Solves augmented x := by
  rw [clearColumn_eq h]
  -- the equation of row `k` is the same on both sides
  have hother : ∀ row : Fin 3, (∑ column : Fin 3, augmented k column.castSucc * x column =
      augmented k 3) →
      ((∑ column : Fin 3, (augmented row column.castSucc -
          augmented row k.castSucc * augmented k column.castSucc) * x column =
        augmented row 3 - augmented row k.castSucc * augmented k 3) ↔
      ∑ column : Fin 3, augmented row column.castSucc * x column = augmented row 3) := by
    intro row hk
    have hsplit : (∑ column : Fin 3, (augmented row column.castSucc -
        augmented row k.castSucc * augmented k column.castSucc) * x column) =
        (∑ column : Fin 3, augmented row column.castSucc * x column) -
          augmented row k.castSucc * augmented k 3 := by
      rw [← hk, Finset.mul_sum, ← Finset.sum_sub_distrib]
      exact Finset.sum_congr rfl fun column _ => by ring
    rw [hsplit]
    exact sub_left_inj
  constructor
  · intro hsolves
    have hk : ∑ column : Fin 3, augmented k column.castSucc * x column = augmented k 3 := by
      simpa using hsolves k
    intro row
    by_cases hrow : row = k
    · rw [hrow]
      exact hk
    · have hrowSolves := hsolves row
      simp only [if_neg hrow] at hrowSolves
      exact (hother row hk).mp hrowSolves
  · intro hsolves row
    by_cases hrow : row = k
    · subst hrow
      simpa using hsolves row
    · simp only [if_neg hrow]
      exact (hother row (hsolves k)).mpr (hsolves row)

/-- **One round of elimination**: one column more of the identity, and the same
    solutions. -/
theorem eliminate_spec {augmented' : Augmented ℝ} (h : Reduced augmented k.val)
    (hround : eliminate augmented k = some augmented') :
    Reduced augmented' (k.val + 1) ∧ ∀ x, Solves augmented' x ↔ Solves augmented x := by
  unfold eliminate at hround
  dsimp only at hround
  split at hround
  · cases hround
  · next hpivot =>
    have hle := le_selected augmented k
    have hswapped := h.swap hle
    have hnonzero : swapRows augmented k (selected augmented k) k k.castSucc ≠ 0 := by
      rw [swapRows_eq h hle]
      dsimp only
      rw [Equiv.swap_apply_left]
      intro hzero
      refine hpivot ?_
      rw [hzero]
      simp only [RealFloat.abs_eq, abs_zero, RealFloat.lit_eq]
      norm_num
    have hscaled := hswapped.scale
    have hone : scaleRow (swapRows augmented k (selected augmented k)) k k k.castSucc = 1 := by
      rw [scaleRow_eq hswapped]
      dsimp only
      rw [if_pos rfl, div_self hnonzero]
    cases hround
    refine ⟨hscaled.clear hone, fun x => ?_⟩
    rw [solves_clear hscaled, solves_scale hswapped hnonzero, solves_swap h hle]

/-- **`solve3` is exact**: what it returns is the one solution. -/
theorem solve3_eq_some {input : Matrix3 ℝ} {rhs result : Vec3 ℝ}
    (h : solve3 input rhs = some result) (x : Vec3 ℝ) :
    (∀ row, ∑ column : Fin 3, input row column * x column = rhs row) ↔ x = result := by
  unfold solve3 at h
  obtain ⟨first, hfirst, h⟩ := Option.bind_eq_some_iff.mp h
  obtain ⟨second, hsecond, h⟩ := Option.bind_eq_some_iff.mp h
  obtain ⟨third, hthird, h⟩ := Option.bind_eq_some_iff.mp h
  have hresult : (fun row => third row 3) = result := by
    dsimp only at h
    split at h
    · exact Option.some.inj h
    · cases h
  have hstart : Reduced (augment input rhs) (0 : Fin 3).val :=
    fun _ column hcolumn => absurd hcolumn (Nat.not_lt_zero _)
  obtain ⟨hreduced₁, hsame₁⟩ := eliminate_spec hstart hfirst
  obtain ⟨hreduced₂, hsame₂⟩ := eliminate_spec (k := 1) hreduced₁ hsecond
  obtain ⟨hreduced₃, hsame₃⟩ := eliminate_spec (k := 2) hreduced₂ hthird
  have hgiven : Solves (augment input rhs) x ↔
      ∀ row, ∑ column : Fin 3, input row column * x column = rhs row := Iff.rfl
  rw [← hgiven, ← hsame₁, ← hsame₂, ← hsame₃, ← hresult]
  have hidentity : ∀ row, ∑ column : Fin 3, third row column.castSucc * x column = x row := by
    intro row
    have hterm : ∀ column : Fin 3, third row column.castSucc * x column =
        if row = column then x column else 0 := by
      intro column
      rw [hreduced₃ row column column.isLt]
      split
      · rw [one_mul]
      · rw [zero_mul]
    simp [hterm]
  constructor
  · intro hsolves
    funext row
    rw [← hidentity row]
    exact hsolves row
  · intro heq row
    rw [hidentity row, heq]

end Elimination

/-! ## §5. The damped normal equations. -/

/-- A fold that adds is a sum. -/
theorem foldl_adds {α : Type} (term : α → ℝ) {step : ℝ → α → ℝ}
    (h : ∀ sum a, step sum a = sum + term a) (l : List α) (start : ℝ) :
    l.foldl step start = start + (l.map term).sum := by
  induction l generalizing start with
  | nil => simp
  | cons a l ih =>
    rw [List.foldl_cons, ih, h, List.map_cons, List.sum_cons, add_assoc]

/-- A column, or nothing for a locked joint. -/
noncomputable def freeTerm (active : JointMask) (term : Joint → ℝ) (joint : Joint) : ℝ :=
  if hasJoint active joint then 0 else term joint

theorem sumFree_eq (active : JointMask) (term : Joint → ℝ) :
    sumFree active term = ∑ joint, freeTerm active term joint := by
  unfold sumFree
  rw [foldl_adds (freeTerm active term) (fun sum joint => ?_), lit_zero, zero_add,
    ← Fin.sum_univ_def]
  unfold freeTerm
  split
  · rw [add_zero]
  · rfl

section Normal

open Matrix

variable (jacobian : Jacobian3 ℝ) (error : Vec3 ℝ) (q : JointVector ℝ) (options : IkOptions ℝ)
  (active : JointMask)

theorem damping_mem (hdamping : options.dampingMin ≤ options.dampingMax) (sigma : ℝ) :
    options.dampingMin ≤ damping options sigma ∧
      damping options sigma ≤ options.dampingMax := by
  have hthreshold : (0 : ℝ) < Floating.lit 0.03 := by
    simp only [RealFloat.lit_eq]
    norm_num
  unfold damping
  dsimp only
  generalize hlambda : (if sigma < Floating.lit 0.03 then
    options.dampingMin + (options.dampingMax - options.dampingMin) *
      (Floating.lit 0.03 - sigma) / Floating.lit 0.03 else options.dampingMin) = lambda
  have hle : options.dampingMin ≤ lambda := by
    rw [← hlambda]
    split
    · next hlow =>
      have hpart : 0 ≤ (options.dampingMax - options.dampingMin) *
          (Floating.lit 0.03 - sigma) / Floating.lit 0.03 :=
        div_nonneg (mul_nonneg (by linarith) (by linarith)) hthreshold.le
      linarith
    · exact le_rfl
  split
  · exact ⟨hdamping, le_rfl⟩
  · next hnot => exact ⟨hle, not_lt.mp hnot⟩

theorem gram_symm (weights : JointVector ℝ) (row column : Fin 3) :
    gram jacobian weights active row column = gram jacobian weights active column row := by
  unfold gram
  congr 1
  funext joint
  rw [mul_comm (jacobian row joint)]

theorem taskPart_eq (inverse : Joint → Vec3 ℝ) (joint : Joint) :
    taskPart error inverse joint = ∑ row, inverse joint row * error row := by
  unfold taskPart
  rw [foldl_adds (fun row => inverse joint row * error row) (fun _ _ => rfl), lit_zero,
    zero_add, ← Fin.sum_univ_def]

theorem posturePart_eq (inverse : Joint → Vec3 ℝ) (joint : Joint) :
    posturePart jacobian error q options active inverse joint =
      postureGain error * (options.posture joint - q joint) -
        ∑ row, inverse joint row * ∑ k, freeTerm active
          (fun k => jacobian row k * (postureGain error * (options.posture k - q k))) k := by
  unfold posturePart
  rw [foldl_adds (freeTerm active fun k => -∑ row, inverse joint row * jacobian row k *
    postureGain error * (options.posture k - q k)) (fun sum k => ?_), ← Fin.sum_univ_def]
  · have hpart : (∑ k, freeTerm active (fun k => -∑ row, inverse joint row * jacobian row k *
        postureGain error * (options.posture k - q k)) k) =
        -∑ row, inverse joint row * ∑ k, freeTerm active
          (fun k => jacobian row k * (postureGain error * (options.posture k - q k))) k := by
      simp only [Finset.mul_sum, ← Finset.sum_neg_distrib]
      rw [Finset.sum_comm]
      refine Finset.sum_congr rfl fun k _ => ?_
      unfold freeTerm
      dsimp only
      split
      · simp
      · exact Finset.sum_congr rfl fun row _ => by ring
    rw [hpart, ← sub_eq_add_neg]
  · unfold freeTerm
    split
    · rw [add_zero]
    · rw [foldl_adds (fun row => -(inverse joint row * jacobian row k *
        postureGain error * (options.posture k - q k))) (fun _ _ => sub_eq_add_neg _ _),
        ← Fin.sum_univ_def, Finset.sum_neg_distrib]

variable {jacobian options active} {lambda : ℝ} {inverse : Joint → Vec3 ℝ}
  (hinverse : ∀ joint, hasJoint active joint = false →
    solve3 (stepSystem jacobian options active lambda)
      (fun row => jacobian row joint / options.postureWeight joint) = some (inverse joint))

include hinverse

/-- The columns of the pseudo-inverse solve the system. -/
theorem system_mulVec {joint : Joint} (hfree : hasJoint active joint = false) (row : Fin 3) :
    ∑ column, stepSystem jacobian options active lambda row column * inverse joint column =
      jacobian row joint / options.postureWeight joint :=
  (solve3_eq_some (hinverse joint hfree) (inverse joint)).mpr rfl row

/-- With a free joint the system has one solution only. -/
theorem isUnit_system {joint : Joint} (hfree : hasJoint active joint = false) :
    IsUnit (Matrix.of (stepSystem jacobian options active lambda)) := by
  rw [← Matrix.mulVec_injective_iff_isUnit]
  intro y z hyz
  have hshift : inverse joint + (y - z) = inverse joint := by
    refine (solve3_eq_some (hinverse joint hfree) _).mp fun row => ?_
    have hrow := congrFun hyz row
    simp only [mulVec, dotProduct, of_apply] at hrow
    simp only [Pi.add_apply, Pi.sub_apply, mul_add, mul_sub, Finset.sum_add_distrib,
      Finset.sum_sub_distrib, hrow, sub_self, add_zero]
    exact system_mulVec hinverse hfree row
  have hzero : y - z = 0 := by
    have := congrArg (fun w => w - inverse joint) hshift
    simpa using this
  exact sub_eq_zero.mp hzero

omit hinverse in
/-- What the free columns make of the pseudo-inverse. -/
noncomputable def reach (jacobian : Jacobian3 ℝ) (active : JointMask)
    (inverse : Joint → Vec3 ℝ) : Matrix (Fin 3) (Fin 3) ℝ :=
  Matrix.of fun row column => ∑ joint, freeTerm active
    (fun joint => jacobian row joint * inverse joint column) joint

/-- **All of the system but the damping.** -/
theorem reach_mul_system : reach jacobian active inverse *
    Matrix.of (stepSystem jacobian options active lambda) =
      Matrix.of (stepSystem jacobian options active lambda) - (lambda * lambda) • 1 := by
  ext row column
  have hsymm : ∀ k, stepSystem jacobian options active lambda k column =
      stepSystem jacobian options active lambda column k := by
    intro k
    unfold stepSystem
    by_cases hk : k = column
    · rw [if_pos hk, if_pos hk.symm, hk]
    · rw [if_neg hk, if_neg fun h => hk h.symm, gram_symm]
  have hgram : ∑ joint, freeTerm active (fun joint => jacobian row joint *
      (jacobian column joint / options.postureWeight joint)) joint =
      gram jacobian options.postureWeight active row column := by
    unfold gram
    rw [sumFree_eq]
    refine Finset.sum_congr rfl fun joint _ => ?_
    unfold freeTerm
    dsimp only
    rw [mul_div_assoc]
  have hproduct : ∑ k, (∑ joint, freeTerm active
      (fun joint => jacobian row joint * inverse joint k) joint) *
        stepSystem jacobian options active lambda k column =
      ∑ joint, freeTerm active (fun joint => jacobian row joint *
        (jacobian column joint / options.postureWeight joint)) joint := by
    simp only [Finset.sum_mul]
    rw [Finset.sum_comm]
    refine Finset.sum_congr rfl fun joint _ => ?_
    unfold freeTerm
    dsimp only
    split
    · simp
    · next hlocked =>
      rw [← system_mulVec hinverse (Bool.eq_false_of_not_eq_true hlocked) column,
        Finset.mul_sum]
      refine Finset.sum_congr rfl fun k _ => ?_
      rw [hsymm]
      ring
  rw [Matrix.mul_apply, Matrix.sub_apply, Matrix.smul_apply, Matrix.of_apply]
  simp only [reach, of_apply]
  rw [hproduct, hgram]
  unfold stepSystem
  by_cases hrow : row = column
  · rw [if_pos hrow, hrow]
    simp
  · rw [if_neg hrow]
    simp [one_apply_ne hrow]

/-- The damping on the other side. -/
theorem system_mul_defect {joint : Joint} (hfree : hasJoint active joint = false) :
    Matrix.of (stepSystem jacobian options active lambda) *
      (reach jacobian active inverse - 1) = -((lambda * lambda) • 1) := by
  have hunit := (Matrix.isUnit_iff_isUnit_det _).mp (isUnit_system hinverse hfree)
  have hleft : (reach jacobian active inverse - 1) *
      Matrix.of (stepSystem jacobian options active lambda) = -((lambda * lambda) • 1) := by
    rw [sub_mul, one_mul, reach_mul_system hinverse]
    abel
  have hdefect : reach jacobian active inverse - 1 =
      -((lambda * lambda) • (Matrix.of (stepSystem jacobian options active lambda))⁻¹) := by
    rw [← Matrix.mul_nonsing_inv_cancel_right _ (reach jacobian active inverse - 1) hunit, hleft,
      Matrix.neg_mul, Matrix.smul_mul, one_mul]
  rw [hdefect, Matrix.mul_neg, Matrix.mul_smul, Matrix.mul_nonsing_inv _ hunit]

/-- **The task part solves the damped normal equations.** -/
theorem task_normal (hweight : ∀ joint, 0 < options.postureWeight joint) {joint : Joint}
    (hfree : hasJoint active joint = false) :
    ∑ row, jacobian row joint * ((∑ k, freeTerm active
        (fun k => jacobian row k * taskPart error inverse k) k) - error row) +
      lambda * lambda * options.postureWeight joint * taskPart error inverse joint = 0 := by
  have hreach : ∀ row, (∑ k, freeTerm active
      (fun k => jacobian row k * taskPart error inverse k) k) - error row =
      ((reach jacobian active inverse - 1) *ᵥ error) row := by
    intro row
    rw [sub_mulVec, one_mulVec, Pi.sub_apply]
    congr 1
    simp only [mulVec, dotProduct, reach, of_apply, Finset.sum_mul]
    rw [Finset.sum_comm]
    refine Finset.sum_congr rfl fun k _ => ?_
    unfold freeTerm
    dsimp only
    split
    · simp
    · rw [taskPart_eq, Finset.mul_sum]
      exact Finset.sum_congr rfl fun column _ => by ring
  have hcolumn : ∀ row, jacobian row joint = options.postureWeight joint *
      ∑ column, stepSystem jacobian options active lambda row column * inverse joint column := by
    intro row
    rw [system_mulVec hinverse hfree, mul_div_cancel₀ _ (hweight joint).ne']
  have hsymm : ∀ row column, stepSystem jacobian options active lambda row column =
      stepSystem jacobian options active lambda column row := by
    intro row column
    unfold stepSystem
    by_cases hrow : row = column
    · rw [if_pos hrow, if_pos hrow.symm, hrow]
    · rw [if_neg hrow, if_neg fun h => hrow h.symm, gram_symm]
  -- the defect, seen through the system, is the damping
  have hdefect : ∀ column, ∑ row, stepSystem jacobian options active lambda row column *
      ((reach jacobian active inverse - 1) *ᵥ error) row = -(lambda * lambda * error column) := by
    intro column
    have hsystem := congrFun (congrArg (· *ᵥ error) (system_mul_defect hinverse hfree)) column
    simp only [← mulVec_mulVec, neg_mulVec, smul_mulVec, one_mulVec, Pi.neg_apply,
      Pi.smul_apply, smul_eq_mul] at hsystem
    rw [← hsystem]
    simp only [mulVec, dotProduct, of_apply]
    exact Finset.sum_congr rfl fun row _ => by rw [hsymm row column]
  have hall : ∑ row, jacobian row joint * ((reach jacobian active inverse - 1) *ᵥ error) row =
      -(lambda * lambda * options.postureWeight joint * taskPart error inverse joint) := by
    have hexpand : ∀ row, jacobian row joint *
        ((reach jacobian active inverse - 1) *ᵥ error) row =
        options.postureWeight joint * ∑ column, inverse joint column *
          (stepSystem jacobian options active lambda row column *
            ((reach jacobian active inverse - 1) *ᵥ error) row) := by
      intro row
      rw [hcolumn row, mul_assoc, Finset.sum_mul]
      congr 1
      exact Finset.sum_congr rfl fun column _ => by ring
    simp only [hexpand]
    rw [← Finset.mul_sum, Finset.sum_comm]
    simp only [← Finset.mul_sum, hdefect, taskPart_eq]
    rw [Finset.mul_sum, Finset.mul_sum, ← Finset.sum_neg_distrib]
    exact Finset.sum_congr rfl fun column _ => by ring
  simp only [hreach]
  rw [hall]
  ring

/-- Without damping the free columns invert. -/
theorem reach_eq_one (hzero : lambda = 0) {joint : Joint}
    (hfree : hasJoint active joint = false) : reach jacobian active inverse = 1 := by
  have hunit := (Matrix.isUnit_iff_isUnit_det _).mp (isUnit_system hinverse hfree)
  have hsystem := reach_mul_system hinverse
  rw [hzero, mul_zero, zero_smul, sub_zero] at hsystem
  rw [← Matrix.mul_nonsing_inv_cancel_right _ (reach jacobian active inverse) hunit, hzero,
    hsystem, Matrix.mul_nonsing_inv]
  rwa [hzero] at hunit

/-- … the task part reaches the error, and the posture part moves nothing. -/
theorem undamped (hzero : lambda = 0) {joint : Joint} (hfree : hasJoint active joint = false)
    (row : Fin 3) :
    (∑ k, freeTerm active (fun k => jacobian row k * taskPart error inverse k) k) = error row ∧
    (∑ k, freeTerm active (fun k => jacobian row k *
      posturePart jacobian error q options active inverse k) k) = 0 := by
  have hone := reach_eq_one hinverse hzero hfree
  -- the free columns reproduce whatever the pseudo-inverse is applied to
  have happly : ∀ y : Vec3 ℝ, (∑ k, freeTerm active
      (fun k => jacobian row k * ∑ r, inverse k r * y r) k) = y row := by
    intro y
    have hrow := congrFun (congrArg (· *ᵥ y) hone) row
    simp only [one_mulVec] at hrow
    rw [← hrow]
    simp only [mulVec, dotProduct, reach, of_apply, Finset.sum_mul]
    rw [Finset.sum_comm]
    refine Finset.sum_congr rfl fun k _ => ?_
    unfold freeTerm
    dsimp only
    split
    · simp
    · rw [Finset.mul_sum]
      exact Finset.sum_congr rfl fun column _ => by ring
  constructor
  · simp only [taskPart_eq]
    exact happly error
  · simp only [posturePart_eq]
    have hsplit : ∀ k, freeTerm active (fun k => jacobian row k *
        (postureGain error * (options.posture k - q k) -
          ∑ r, inverse k r * ∑ k, freeTerm active
            (fun k => jacobian r k * (postureGain error * (options.posture k - q k))) k)) k =
        freeTerm active (fun k => jacobian row k *
          (postureGain error * (options.posture k - q k))) k -
        freeTerm active (fun k => jacobian row k * ∑ r, inverse k r *
          ∑ k, freeTerm active
            (fun k => jacobian r k * (postureGain error * (options.posture k - q k))) k) k := by
      intro k
      unfold freeTerm
      dsimp only
      split
      · simp
      · ring
    rw [Finset.sum_congr rfl fun k _ => hsplit k, Finset.sum_sub_distrib, happly]
    exact sub_self _

end Normal

/-! ## §6. The step. -/

section Step

variable (jacobian : Jacobian3 ℝ) (error : Vec3 ℝ) (q : JointVector ℝ) (options : IkOptions ℝ)
  (active : JointMask) {sigma : ℝ} {step : JointVector ℝ}
  (h : computeStep jacobian error q options active = (sigma, .ok step))

include h

/-- What a successful step is made of. -/
theorem computeStep_ok :
    (∀ joint, hasJoint active joint = false →
      solve3 (stepSystem jacobian options active (stepDamping jacobian options active))
        (fun row => jacobian row joint / options.postureWeight joint) =
          some (stepInverse jacobian options active joint)) ∧
    step = fun joint => if hasJoint active joint then 0
      else taskPart error (stepInverse jacobian options active) joint +
        posturePart jacobian error q options active (stepInverse jacobian options active) joint := by
  have hresult := congrArg Prod.snd h
  unfold computeStep at hresult
  dsimp only at hresult
  split at hresult
  · cases hresult
  · next hsolved =>
    constructor
    · intro joint hfree
      have hsome : (inverseRow jacobian options active
          (stepDamping jacobian options active) joint).isNone = false := by
        by_contra hnone
        exact hsolved (List.any_eq_true.mpr ⟨joint, List.mem_finRange joint, by simpa using hnone⟩)
      obtain ⟨inverse, hinverse⟩ := Option.isSome_iff_exists.mp
        (Option.isNone_eq_false_iff.mp hsome)
      have hrow : stepInverse jacobian options active joint = inverse := by
        unfold stepInverse
        rw [hinverse]
        rfl
      rw [hrow, ← hinverse]
      unfold inverseRow
      rw [hfree]
      rfl
    · split at hresult
      · rw [← Except.ok.inj hresult]
        funext joint
        rw [lit_zero]
      · cases hresult

omit h in
/-- **The step is weighted damped least squares with a posture term.** -/
theorem compute_step_normal_equations
    (h : computeStep jacobian error q options active = (sigma, .ok step))
    (hweight : ∀ joint, 0 < options.postureWeight joint) :
    let lambda := stepDamping jacobian options active
    let task := taskPart error (stepInverse jacobian options active)
    let posture := posturePart jacobian error q options active
      (stepInverse jacobian options active)
    (∀ joint, hasJoint active joint = true → step joint = 0) ∧
    (∀ joint, hasJoint active joint = false → step joint = task joint + posture joint) ∧
    (options.dampingMin ≤ options.dampingMax →
      options.dampingMin ≤ lambda ∧ lambda ≤ options.dampingMax) ∧
    (∀ joint, hasJoint active joint = false →
      ∑ row, jacobian row joint * ((∑ k, freeTerm active (fun k => jacobian row k * task k) k) -
          error row) + lambda * lambda * options.postureWeight joint * task joint = 0) ∧
    (lambda = 0 → (∃ joint, hasJoint active joint = false) →
      (∀ row, ∑ k, freeTerm active (fun k => jacobian row k * posture k) k = 0) ∧
      ∀ row, ∑ k, jacobian row k * step k = error row) ∧
    ∀ (input : Matrix3 ℝ) (rhs result : Vec3 ℝ), solve3 input rhs = some result →
      ∀ row, ∑ column, input row column * result column = rhs row := by
  obtain ⟨hinverse, hstep⟩ := computeStep_ok jacobian error q options active h
  refine ⟨fun joint hlocked => ?_, fun joint hfree => ?_,
    fun hdamping => damping_mem options hdamping _,
    fun joint hfree => task_normal error hinverse hweight hfree, fun hzero hsome => ?_,
    fun input rhs result hsolved => (solve3_eq_some hsolved result).mpr rfl⟩
  · rw [hstep]
    exact if_pos hlocked
  · rw [hstep]
    exact if_neg (by simp [hfree])
  · obtain ⟨joint, hfree⟩ := hsome
    have hundamped := undamped error q hinverse hzero hfree
    refine ⟨fun row => (hundamped row).2, fun row => ?_⟩
    have hsplit : ∀ k, jacobian row k * step k =
        freeTerm active (fun k => jacobian row k *
          taskPart error (stepInverse jacobian options active) k) k +
        freeTerm active (fun k => jacobian row k *
          posturePart jacobian error q options active
            (stepInverse jacobian options active) k) k := by
      intro k
      rw [hstep]
      unfold freeTerm
      dsimp only
      split
      · simp
      · ring
    rw [Finset.sum_congr rfl fun k _ => hsplit k, Finset.sum_add_distrib, (hundamped row).1,
      (hundamped row).2, add_zero]

end Step

/-! ## §7. One free joint, and none. -/

/-- Unit weights, a posture at zero, and this damping. -/
noncomputable def plainOptions (damping : ℝ) : IkOptions ℝ where
  abiVersion := 2
  structSize := 224
  seed _ := 0
  posture _ := 0
  postureWeight _ := 1
  positionToleranceM := 1
  maxJointStepRad := 1
  dampingMin := damping
  dampingMax := damping
  limitMarginRad := 0
  maxIterations := 1

/-- The first joint moves along the first axis, the others do not move it. -/
noncomputable def firstAxis : Jacobian3 ℝ := fun row joint =>
  if row = 0 ∧ joint = 0 then 1 else 0

/-- The first three joints move along the axes, the others do not move anything. -/
noncomputable def threeAxes : Jacobian3 ℝ := fun row joint => if joint = row.castAdd 4 then 1 else 0

/-- The first four joints are free. -/
def fourFree : JointMask := 0x70

theorem stepDamping_plain (jacobian : Jacobian3 ℝ) (value : ℝ) (active : JointMask) :
    stepDamping jacobian (plainOptions value) active = value := by
  have hmem := damping_mem (plainOptions value) le_rfl
    (singularValue jacobian (plainOptions value).postureWeight active)
  exact le_antisymm hmem.2 hmem.1

theorem threeAxes_system (value : ℝ) : stepSystem threeAxes (plainOptions value) fourFree value =
    fun row column => if row = column then 1 + value * value else 0 := by
  have hgram : gram threeAxes (plainOptions value).postureWeight fourFree =
      fun row column => if row = column then 1 else 0 := by
    funext row column
    unfold gram
    rw [sumFree_eq, Finset.sum_eq_single (row.castAdd 4)]
    · have hfree : ∀ row : Fin 3, hasJoint fourFree (row.castAdd 4) = false := by decide
      simp only [freeTerm, hfree row, threeAxes, plainOptions]
      fin_cases row <;> fin_cases column <;> simp
    · intro joint _ hne
      simp [freeTerm, threeAxes, hne]
    · simp
  funext row column
  unfold stepSystem
  rw [hgram]
  split
  · next hsame =>
    dsimp only
    rw [if_pos hsame]
  · next hother => exact if_neg hother

/-- Nothing is exchanged above zeros. -/
theorem selected_eq {augmented : Augmented ℝ} {k : Fin 3}
    (h : ∀ row, k < row → augmented row k.castSucc = 0) : selected augmented k = k := by
  have hfold : ∀ rows : List (Fin 3), rows.foldl (fun selected row =>
      if k < row ∧ Floating.abs (augmented selected k.castSucc) <
        Floating.abs (augmented row k.castSucc) then row else selected) k = k := by
    intro rows
    induction rows with
    | nil => rfl
    | cons row rows ih =>
      rw [List.foldl_cons, if_neg]
      · exact ih
      · rintro ⟨hrow, hlarger⟩
        rw [h row hrow, RealFloat.abs_eq, RealFloat.abs_eq, abs_zero] at hlarger
        exact absurd hlarger (not_lt.mpr (abs_nonneg _))
  exact hfold _

/-- A round with the pivot in place. -/
theorem eliminate_in_place {augmented : Augmented ℝ} {k : Fin 3}
    (h : ∀ row, k < row → augmented row k.castSucc = 0)
    (hpivot : 1 ≤ augmented k k.castSucc) :
    eliminate augmented k = some (clearColumn (scaleRow (swapRows augmented k k) k) k) := by
  unfold eliminate
  dsimp only
  rw [selected_eq h, if_neg]
  rw [RealFloat.abs_eq, abs_of_pos (by linarith), RealFloat.lit_eq, not_lt]
  refine le_trans ?_ hpivot
  norm_num

theorem diagonal_solve {d : ℝ} (hd : 1 ≤ d) (rhs : Vec3 ℝ) :
    (solve3 (fun row column : Fin 3 => if row = column then d else 0) rhs).isSome = true := by
  unfold solve3
  rw [eliminate_in_place]
  · rw [Option.bind_eq_bind, Option.bind_some, eliminate_in_place]
    · rw [Option.bind_some, eliminate_in_place]
      · simp [finiteAll, Floating.isFinite]
      · intro row hrow
        exact absurd hrow (by omega)
      · simpa [clearColumn, scaleRow, swapRows, augment] using hd
    · intro row hrow
      have hlast : row = 2 := by omega
      subst hlast
      simp [clearColumn, scaleRow, swapRows, augment]
    · simpa [clearColumn, scaleRow, swapRows, augment] using hd
  · intro row hrow
    have hne : row ≠ 0 := by omega
    simp [augment, hne]
  · simpa [augment] using hd

theorem inverseRow_axes (value : ℝ) (joint : Joint) :
    (inverseRow threeAxes (plainOptions value) fourFree value joint).isSome = true := by
  unfold inverseRow
  rw [threeAxes_system]
  split
  · rfl
  · exact diagonal_solve (le_add_of_nonneg_right (mul_self_nonneg value)) _

/-- With four joints free a step is found. -/
theorem computeStep_axes (error : Vec3 ℝ) (q : JointVector ℝ) (value : ℝ) :
    ∃ step, computeStep threeAxes error q (plainOptions value) fourFree =
      (singularValue threeAxes (plainOptions value).postureWeight fourFree, .ok step) := by
  unfold computeStep
  dsimp only
  rw [stepDamping_plain, if_neg]
  · exact ⟨_, by rw [if_pos (finiteAll_real _)]⟩
  · intro hnone
    obtain ⟨joint, -, hjoint⟩ := List.any_eq_true.mp hnone
    have hsome := inverseRow_axes value joint
    rw [Option.isNone_iff_eq_none] at hjoint
    rw [hjoint] at hsome
    exact absurd hsome (by decide)

/-- With every joint locked the step is zero. -/
theorem computeStep_locked (error : Vec3 ℝ) (q : JointVector ℝ) (value : ℝ) :
    computeStep firstAxis error q (plainOptions value) kAllJoints =
      (singularValue firstAxis (plainOptions value).postureWeight kAllJoints,
        .ok fun _ => 0) := by
  have hlocked : ∀ joint, hasJoint kAllJoints joint = true := by decide
  unfold computeStep
  dsimp only
  rw [if_neg]
  · rw [if_pos (finiteAll_real _)]
    congr 2
    funext joint
    rw [if_pos (hlocked joint), lit_zero]
  · simp [inverseRow, hlocked]

/-- A damped step solves its normal equations, and one without damping reaches the
    error, whatever the fourth joint does for the posture. -/
theorem compute_step_normal_equations_axes : ∃ damped free : JointVector ℝ,
    (computeStep threeAxes (![1, 0, 0] : Vec3 ℝ) (fun _ => 1 / 2) (plainOptions 1) fourFree =
        (singularValue threeAxes (plainOptions 1).postureWeight fourFree, .ok damped) ∧
      (∀ joint, hasJoint fourFree joint = true → damped joint = 0) ∧
      ∀ joint, hasJoint fourFree joint = false →
        ∑ row, threeAxes row joint *
            ((∑ k, freeTerm fourFree (fun k => threeAxes row k *
              taskPart (![1, 0, 0] : Vec3 ℝ) (stepInverse threeAxes (plainOptions 1) fourFree) k)
                k) - (![1, 0, 0] : Vec3 ℝ) row) +
          1 * 1 * 1 * taskPart (![1, 0, 0] : Vec3 ℝ)
            (stepInverse threeAxes (plainOptions 1) fourFree) joint = 0) ∧
    computeStep threeAxes (![1, 0, 0] : Vec3 ℝ) (fun _ => 1 / 2) (plainOptions 0) fourFree =
        (singularValue threeAxes (plainOptions 0).postureWeight fourFree, .ok free) ∧
      ∀ row, ∑ k, threeAxes row k * free k = (![1, 0, 0] : Vec3 ℝ) row := by
  obtain ⟨damped, hdamped⟩ := computeStep_axes ![1, 0, 0] (fun _ => 1 / 2) 1
  obtain ⟨free, hfree⟩ := computeStep_axes ![1, 0, 0] (fun _ => 1 / 2) 0
  obtain ⟨hlocked, -, -, hnormal, -⟩ := compute_step_normal_equations threeAxes ![1, 0, 0]
    (fun _ => 1 / 2) (plainOptions 1) fourFree hdamped fun _ => one_pos
  obtain ⟨-, -, -, -, hundamped, -⟩ := compute_step_normal_equations threeAxes ![1, 0, 0]
    (fun _ => 1 / 2) (plainOptions 0) fourFree hfree fun _ => one_pos
  rw [stepDamping_plain] at hnormal
  exact ⟨damped, free, ⟨hdamped, hlocked, hnormal⟩, hfree,
    (hundamped (stepDamping_plain _ _ _) ⟨0, by decide⟩).2⟩

/-- Locked everywhere and without damping, the step does not reach the error. -/
theorem locked_misses :
    ∃ step, computeStep firstAxis (![1, 0, 0] : Vec3 ℝ) (fun _ => 0) (plainOptions 0) kAllJoints =
        (singularValue firstAxis (plainOptions 0).postureWeight kAllJoints, .ok step) ∧
      stepDamping firstAxis (plainOptions 0) kAllJoints = 0 ∧
      ¬ ∀ row, ∑ k, firstAxis row k * step k = (![1, 0, 0] : Vec3 ℝ) row := by
  refine ⟨_, computeStep_locked _ _ _, stepDamping_plain _ _ _, fun hreached => ?_⟩
  have hfirst := hreached 0
  simp at hfirst

end OpenArm.Model
