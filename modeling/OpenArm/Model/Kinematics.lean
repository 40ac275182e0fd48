/-
  OpenArm.Model.Kinematics — forward kinematics and the geometric Jacobian.

  Seven revolute joints in a chain of 4 × 4 transforms: a fixed origin and a
  rotation about a fixed axis for each joint, a base before and a tool behind.
  In exact arithmetic every transform of the chain is rigid as soon as the
  model's own are, and the Jacobian is the derivative of the tool.

  Main results:
    * `fk_jacobian` — rigid transforms, what a joint leaves alone, and the
      derivative of the tool's position and rotation.
-/
import OpenArm.Lib.Rotation
import OpenArm.Model.Collision

namespace OpenArm.Model

open OpenArm.Lib OpenArm.Control

/-- The size of a transform, by name, as the other sizes are. -/
instance neZeroFour : NeZero 4 := ⟨by decide⟩

/-- The size of a twist. -/
instance neZeroSix : NeZero 6 := ⟨by decide⟩

/-- The number operations of the kinematics. -/
class Kinematic (F : Type) extends Metric F where
  cos : F → F
  sin : F → F
  atan2 : F → F → F

/-! ## §1. Transforms. -/

section Source

variable {F : Type} [Kinematic F]

/-- `m[row * 4 + column]`. -/
def entry (transform : Transform F) (row column : Fin 4) : F :=
  transform ⟨row.val * 4 + column.val, by omega⟩

/-- A transform by its entries. -/
def ofEntries (value : Fin 4 → Fin 4 → F) : Transform F :=
  fun index => value ⟨index.val / 4, by omega⟩ ⟨index.val % 4, by omega⟩

omit [Kinematic F] in
@[simp] theorem entry_ofEntries (value : Fin 4 → Fin 4 → F) (row column : Fin 4) :
    entry (ofEntries value) row column = value row column := by
  unfold entry ofEntries
  congr 1
  · ext
    show (row.val * 4 + column.val) / 4 = row.val
    omega
  · ext
    show (row.val * 4 + column.val) % 4 = column.val
    omega

/-- `finite_n`. -/
def finiteAll {n : Nat} (values : Fin n → F) : Bool :=
  (List.finRange n).all fun i => Floating.isFinite (values i)

/-- `identity`. -/
def identity : Transform F :=
  ofEntries fun row column => if row = column then Floating.lit 1.0 else Floating.lit 0.0

/-- `multiply`. -/
def multiply (left right : Transform F) : Transform F :=
  ofEntries fun row column => (List.finRange 4).foldl
    (fun sum k => sum + entry left row k * entry right k column) (Floating.lit 0.0)

/-- `apply_direction`. -/
def applyDirection (transform : Transform F) (vector : Vec3 F) : Vec3 F :=
  fun row => entry transform row.castSucc 0 * vector 0 +
    entry transform row.castSucc 1 * vector 1 + entry transform row.castSucc 2 * vector 2

/-- `axis_rotation`. -/
def axisRotation (axis : Vec3 F) (angle : F) : Transform F :=
  let c := Kinematic.cos angle
  let s := Kinematic.sin angle
  let d := Floating.lit 1.0 - c
  let x := axis 0
  let y := axis 1
  let z := axis 2
  let zero : F := Floating.lit 0.0
  let one : F := Floating.lit 1.0
  ofEntries ![![c + x * x * d, x * y * d - z * s, x * z * d + y * s, zero],
    ![y * x * d + z * s, c + y * y * d, y * z * d - x * s, zero],
    ![z * x * d - y * s, z * y * d + x * s, c + z * z * d, zero],
    ![zero, zero, zero, one]]

/-- `position`. -/
def position (transform : Transform F) : Vec3 F := fun row => entry transform row.castSucc 3

/-! ## §2. The chain of a model. -/

/-- What the kinematics read of `oa_model`. -/
structure OaModel (F : Type) where
  baseInBody : Transform F
  origin : Joint → Transform F
  axis : Joint → Vec3 F
  lower : JointVector F
  upper : JointVector F
  tcpInLink7 : Transform F

/-- `oa_fk_result`. -/
structure FkResult (F : Type) where
  baseInBody : Transform F
  jointPre : Joint → Transform F
  linkPost : Joint → Transform F
  jointAxisBody : Joint → Vec3 F
  handTcp : Transform F

namespace OaModel

variable (model : OaModel F) (q : JointVector F)

/-- `current`, once these many joints have been passed. -/
def current : Nat → Transform F
  | 0 => model.baseInBody
  | passed + 1 =>
    if h : passed < 7 then
      multiply (multiply (current passed) (model.origin ⟨passed, h⟩))
        (axisRotation (model.axis ⟨passed, h⟩) (q ⟨passed, h⟩))
    else current passed

/-- `joint_pre`. -/
def jointPre (joint : Joint) : Transform F :=
  multiply (model.current q joint.val) (model.origin joint)

/-- What the loop of `oa_fk` writes. -/
def chain : FkResult F where
  baseInBody := model.baseInBody
  jointPre := model.jointPre q
  linkPost joint := model.current q (joint.val + 1)
  jointAxisBody joint := applyDirection (model.jointPre q joint) (model.axis joint)
  handTcp := multiply (model.current q 7) model.tcpInLink7

/-- `oa_fk`. -/
def fk : Except ModelStatus (FkResult F) :=
  if !finiteAll q then .error .enonfinite
  else if !finiteAll (model.chain q).handTcp then .error .enonfinite
  else .ok (model.chain q)

end OaModel

/-- `oa_jacobian`. -/
abbrev Jacobian (F : Type) := Fin 6 → Joint → F

/-- The columns `oa_geometric_jacobian` computes. -/
def jacobianOf (fk : FkResult F) : Jacobian F := fun row joint =>
  let delta := subtract3 (position fk.handTcp) (position (fk.jointPre joint))
  let axis := fk.jointAxisBody joint
  ![axis 1 * delta 2 - axis 2 * delta 1, axis 2 * delta 0 - axis 0 * delta 2,
    axis 0 * delta 1 - axis 1 * delta 0, axis 0, axis 1, axis 2] row

/-- `oa_geometric_jacobian`. -/
def OaModel.geometricJacobian (model : OaModel F) (q : JointVector F) :
    Except ModelStatus (Jacobian F) :=
  match model.fk q with
  | .error status => .error status
  | .ok fk =>
    let value := jacobianOf fk
    if (List.finRange 6).all fun row => finiteAll (value row) then .ok value
    else .error .enonfinite

end Source

/-! ## §3. Exact arithmetic. -/

noncomputable instance : Kinematic ℝ where
  cos := Real.cos
  sin := Real.sin
  atan2 y x := Complex.arg ⟨x, y⟩

theorem lit_zero : (Floating.lit 0.0 : ℝ) = 0 := by
  simp only [RealFloat.lit_eq]
  norm_num

theorem lit_one : (Floating.lit 1.0 : ℝ) = 1 := by
  simp only [RealFloat.lit_eq]
  norm_num

theorem multiply_entry (left right : Transform ℝ) (row column : Fin 4) :
    entry (multiply left right) row column =
      entry left row 0 * entry right 0 column + entry left row 1 * entry right 1 column +
        entry left row 2 * entry right 2 column + entry left row 3 * entry right 3 column := by
  unfold multiply
  rw [entry_ofEntries, lit_zero]
  simp [List.finRange_succ]

theorem transform_ext {left right : Transform ℝ}
    (h : ∀ row column, entry left row column = entry right row column) : left = right := by
  funext index
  have hentry := h ⟨index.val / 4, by omega⟩ ⟨index.val % 4, by omega⟩
  have hindex : (⟨index.val / 4 * 4 + index.val % 4, by omega⟩ : Fin 16) = index := by
    ext
    show index.val / 4 * 4 + index.val % 4 = index.val
    omega
  unfold entry at hentry
  dsimp only at hentry
  rwa [hindex] at hentry

theorem multiply_assoc (a b c : Transform ℝ) :
    multiply (multiply a b) c = multiply a (multiply b c) := by
  refine transform_ext fun row column => ?_
  simp only [multiply_entry]
  ring

theorem multiply_identity (transform : Transform ℝ) :
    multiply transform identity = transform := by
  refine transform_ext fun row column => ?_
  simp only [multiply_entry, identity, entry_ofEntries, lit_one, lit_zero]
  fin_cases column <;> simp

/-- Every real is finite. -/
@[simp] theorem finiteAll_real {n : Nat} (values : Fin n → ℝ) : finiteAll values = true :=
  List.all_eq_true.mpr fun _ _ => rfl

/-- Every value is finite, so nothing fails. -/
theorem fk_ok (model : OaModel ℝ) (q : JointVector ℝ) : model.fk q = .ok (model.chain q) := by
  simp [OaModel.fk, finiteAll, Floating.isFinite]

theorem geometricJacobian_ok (model : OaModel ℝ) (q : JointVector ℝ) :
    model.geometricJacobian q = .ok (jacobianOf (model.chain q)) := by
  simp [OaModel.geometricJacobian, fk_ok, finiteAll, Floating.isFinite]

/-- The rotation block of a transform. -/
def block (transform : Transform ℝ) : Matrix (Fin 3) (Fin 3) ℝ :=
  Matrix.of fun row column => entry transform row.castSucc column.castSucc

/-- The last row of a rigid transform. -/
def LastRow (transform : Transform ℝ) : Prop :=
  entry transform 3 0 = 0 ∧ entry transform 3 1 = 0 ∧ entry transform 3 2 = 0 ∧
    entry transform 3 3 = 1

/-- A rigid transform: a rotation and a shift. -/
structure Rigid (transform : Transform ℝ) : Prop where
  rotation : block transform ∈ Matrix.specialOrthogonalGroup (Fin 3) ℝ
  last : LastRow transform

open Matrix

/-- The blocks of a product. -/
theorem block_multiply {left right : Transform ℝ} (hright : LastRow right) :
    block (multiply left right) = block left * block right := by
  obtain ⟨h0, h1, h2, -⟩ := hright
  ext row column
  simp only [block, of_apply, multiply_entry, mul_apply, Fin.sum_univ_three]
  have hlast : entry right 3 column.castSucc = 0 := by
    fin_cases column <;> assumption
  rw [hlast, mul_zero, add_zero]
  rfl

theorem position_multiply {left right : Transform ℝ} (hright : LastRow right) :
    position (multiply left right) = block left *ᵥ position right + position left := by
  ext row
  simp only [position, multiply_entry, mulVec, dotProduct, Fin.sum_univ_three, block, of_apply,
    Pi.add_apply, hright.2.2.2, mul_one]
  rfl

theorem lastRow_multiply {left right : Transform ℝ} (hleft : LastRow left)
    (hright : LastRow right) : LastRow (multiply left right) := by
  obtain ⟨l0, l1, l2, l3⟩ := hleft
  obtain ⟨r0, r1, r2, r3⟩ := hright
  simp only [LastRow, multiply_entry, l0, l1, l2, l3, r0, r1, r2, r3]
  norm_num

/-- **A product of rigid transforms is rigid.** -/
theorem Rigid.multiply {left right : Transform ℝ} (hleft : Rigid left) (hright : Rigid right) :
    Rigid (multiply left right) where
  rotation := by
    rw [block_multiply hright.last]
    exact mul_mem hleft.rotation hright.rotation
  last := lastRow_multiply hleft.last hright.last

/-- The rotation of a joint is Rodrigues'. -/
theorem block_axisRotation (axis : Vec3 ℝ) (angle : ℝ) :
    block (axisRotation axis angle) = rodrigues axis angle := by
  ext row column
  unfold axisRotation rodrigues
  simp only [block, of_apply, entry_ofEntries, lit_one]
  fin_cases row <;> fin_cases column <;> rfl

theorem lastRow_axisRotation (axis : Vec3 ℝ) (angle : ℝ) : LastRow (axisRotation axis angle) := by
  unfold LastRow axisRotation
  simp only [entry_ofEntries]
  exact ⟨lit_zero, lit_zero, lit_zero, lit_one⟩

theorem position_axisRotation (axis : Vec3 ℝ) (angle : ℝ) :
    position (axisRotation axis angle) = 0 := by
  ext row
  unfold position axisRotation
  simp only [entry_ofEntries]
  fin_cases row <;> exact lit_zero

theorem rigid_axisRotation {axis : Vec3 ℝ}
    (haxis : axis 0 * axis 0 + axis 1 * axis 1 + axis 2 * axis 2 = 1) (angle : ℝ) :
    Rigid (axisRotation axis angle) where
  rotation := by
    rw [block_axisRotation]
    exact rodrigues_mem haxis angle
  last := lastRow_axisRotation axis angle

/-! ## §4. The chain. -/

/-- A model whose transforms are rigid and whose axes are unit vectors. -/
structure RigidModel (model : OaModel ℝ) : Prop where
  base : Rigid model.baseInBody
  origin : ∀ joint, Rigid (model.origin joint)
  axis : ∀ joint, model.axis joint 0 * model.axis joint 0 +
    model.axis joint 1 * model.axis joint 1 + model.axis joint 2 * model.axis joint 2 = 1
  tool : Rigid model.tcpInLink7

section Chain

variable {model : OaModel ℝ} (h : RigidModel model) (q : JointVector ℝ)

theorem current_succ (joint : Joint) : model.current q (joint.val + 1) =
    multiply (model.jointPre q joint) (axisRotation (model.axis joint) (q joint)) := by
  rw [OaModel.current, dif_pos joint.isLt]
  rfl

/-- A joint leaves what comes before it. -/
theorem current_update {joint : Joint} {passed : Nat} (hle : passed ≤ joint.val) (angle : ℝ) :
    model.current (Function.update q joint angle) passed = model.current q passed := by
  induction passed with
  | zero => rfl
  | succ passed ih =>
    have hlt : passed < 7 := by omega
    have hne : (⟨passed, hlt⟩ : Joint) ≠ joint := by
      intro heq
      rw [← heq] at hle
      exact absurd hle (by simp)
    rw [OaModel.current, OaModel.current, dif_pos hlt, dif_pos hlt, ih (by omega),
      Function.update_of_ne hne]

theorem jointPre_update {joint i : Joint} (hle : i ≤ joint) (angle : ℝ) :
    model.jointPre (Function.update q joint angle) i = model.jointPre q i := by
  unfold OaModel.jointPre
  rw [current_update q hle]

include h

/-- **Every transform of the chain is rigid.** -/
theorem rigid_current (passed : Nat) : Rigid (model.current q passed) := by
  induction passed with
  | zero => exact h.base
  | succ passed ih =>
    unfold OaModel.current
    split
    · next hlt =>
      exact (ih.multiply (h.origin _)).multiply (rigid_axisRotation (h.axis _) _)
    · exact ih

theorem rigid_jointPre (joint : Joint) : Rigid (model.jointPre q joint) :=
  (rigid_current h q joint.val).multiply (h.origin joint)

/-! ## §5. The derivative. -/

/-- What lies behind a joint does not turn with it. -/
theorem current_behind {joint : Joint} {passed : Nat} (hlt : joint.val + 1 ≤ passed)
    (hle : passed ≤ 7) : ∃ behind, LastRow behind ∧ ∀ angle,
      model.current (Function.update q joint angle) passed =
        multiply (multiply (model.jointPre q joint) (axisRotation (model.axis joint) angle))
          behind := by
  induction passed, hlt using Nat.le_induction with
  | base =>
    refine ⟨identity, ?_, fun angle => ?_⟩
    · unfold LastRow identity
      simp only [entry_ofEntries]
      exact ⟨lit_zero, lit_zero, lit_zero, lit_one⟩
    · rw [current_succ, jointPre_update q le_rfl, Function.update_self, multiply_identity]
  | succ passed hlt ih =>
    obtain ⟨behind, hlast, hbehind⟩ := ih (by omega)
    have hnext : passed < 7 := by omega
    have hne : (⟨passed, hnext⟩ : Joint) ≠ joint := by
      intro heq
      rw [← heq] at hlt
      exact absurd hlt (by simp)
    have horigin := (h.origin ⟨passed, hnext⟩).last
    refine ⟨multiply behind (multiply (model.origin ⟨passed, hnext⟩)
      (axisRotation (model.axis ⟨passed, hnext⟩) (q ⟨passed, hnext⟩))), ?_, fun angle => ?_⟩
    · exact lastRow_multiply hlast (lastRow_multiply horigin (lastRow_axisRotation _ _))
    · rw [OaModel.current, dif_pos hnext, hbehind angle, Function.update_of_ne hne]
      simp only [multiply_assoc]

/-- A direction, or a point of a frame behind a joint: `weight` is its last
    coordinate. -/
theorem hasDerivAt_behind (joint : Joint) (y : Vec3 ℝ) (weight : ℝ) (row : Fin 3) :
    HasDerivAt (fun angle => (block (multiply (model.jointPre q joint)
          (axisRotation (model.axis joint) angle)) *ᵥ y) row +
        weight * position (model.jointPre q joint) row)
      (((block (model.jointPre q joint) *ᵥ model.axis joint) ⨯₃
        (block (multiply (model.jointPre q joint)
          (axisRotation (model.axis joint) (q joint))) *ᵥ y)) row) (q joint) := by
  have hpre := rigid_jointPre h q joint
  -- the rotation turns about its axis, and the frame before it carries that along
  have hturn : ∀ k : Fin 3, HasDerivAt
      (fun angle => (rodrigues (model.axis joint) angle *ᵥ y) k)
      ((model.axis joint ⨯₃ (rodrigues (model.axis joint) (q joint) *ᵥ y)) k) (q joint) :=
    fun k => hasDerivAt_rodrigues (h.axis joint) (q joint) y k
  have hblock : ∀ angle, block (multiply (model.jointPre q joint)
      (axisRotation (model.axis joint) angle)) *ᵥ y =
      block (model.jointPre q joint) *ᵥ (rodrigues (model.axis joint) angle *ᵥ y) := by
    intro angle
    rw [block_multiply (lastRow_axisRotation _ _), block_axisRotation, mulVec_mulVec]
  simp only [hblock]
  rw [← mulVec_cross hpre.rotation]
  refine HasDerivAt.add_const _ ?_
  have hsum := ((hturn 0).const_mul (block (model.jointPre q joint) row 0)).add
    (((hturn 1).const_mul (block (model.jointPre q joint) row 1)).add
      ((hturn 2).const_mul (block (model.jointPre q joint) row 2)))
  refine (hsum.congr_deriv ?_).congr_of_eventuallyEq (Filter.Eventually.of_forall fun angle => ?_)
  · simp only [mulVec, dotProduct, Fin.sum_univ_three]
    ring
  · simp only [mulVec, dotProduct, Fin.sum_univ_three, Pi.add_apply]
    ring

omit h in
/-- The column of a transform behind a frame. -/
theorem column_multiply (left right : Transform ℝ) (row : Fin 3) (column : Fin 4) :
    entry (multiply left right) row.castSucc column =
      (block left *ᵥ fun k => entry right k.castSucc column) row +
        entry right 3 column * position left row := by
  rw [multiply_entry]
  simp only [mulVec, dotProduct, Fin.sum_univ_three, block, of_apply, position]
  rw [mul_comm (entry right 3 column)]
  rfl

/-- **The tool turns about the axis of a joint**: its columns are directions
    and, last, its position. -/
theorem hasDerivAt_handTcp (joint : Joint) (row : Fin 3) (column : Fin 4) :
    HasDerivAt
      (fun angle => entry (model.chain (Function.update q joint angle)).handTcp row.castSucc column)
      (((model.chain q).jointAxisBody joint ⨯₃ fun k =>
        entry (model.chain q).handTcp k.castSucc column -
          entry (model.chain q).handTcp 3 column * position (model.jointPre q joint) k) row)
      (q joint) := by
  obtain ⟨behind, hlast, hbehind⟩ := current_behind h q
    (show joint.val + 1 ≤ 7 by omega) le_rfl
  generalize htool : multiply behind model.tcpInLink7 = tool
  have htcp : ∀ angle, (model.chain (Function.update q joint angle)).handTcp =
      multiply (multiply (model.jointPre q joint) (axisRotation (model.axis joint) angle))
        tool := by
    intro angle
    show multiply (model.current (Function.update q joint angle) 7) model.tcpInLink7 = _
    rw [hbehind angle, multiply_assoc, htool]
  have hhere : (model.chain q).handTcp = multiply (multiply (model.jointPre q joint)
      (axisRotation (model.axis joint) (q joint))) tool := by
    have := htcp (q joint)
    rwa [Function.update_eq_self] at this
  have hstill : ∀ angle, position (multiply (model.jointPre q joint)
      (axisRotation (model.axis joint) angle)) = position (model.jointPre q joint) := by
    intro angle
    rw [position_multiply (lastRow_axisRotation _ _), position_axisRotation, mulVec_zero,
      zero_add]
  have hweight : entry (model.chain q).handTcp 3 column = entry tool 3 column := by
    have hframe := lastRow_multiply (rigid_jointPre h q joint).last
      (lastRow_axisRotation (model.axis joint) (q joint))
    rw [hhere, multiply_entry, hframe.1, hframe.2.1, hframe.2.2.1, hframe.2.2.2]
    ring
  have hturn := hasDerivAt_behind h q joint (fun k => entry tool k.castSucc column)
    (entry tool 3 column) row
  have haxis : (model.chain q).jointAxisBody joint =
      block (model.jointPre q joint) *ᵥ model.axis joint := by
    funext k
    simp only [OaModel.chain, applyDirection, mulVec, dotProduct, Fin.sum_univ_three, block,
      of_apply]
    rfl
  have harm : (fun k : Fin 3 => entry (model.chain q).handTcp k.castSucc column -
      entry (model.chain q).handTcp 3 column * position (model.jointPre q joint) k) =
      block (multiply (model.jointPre q joint)
        (axisRotation (model.axis joint) (q joint))) *ᵥ fun k => entry tool k.castSucc column := by
    funext k
    rw [hweight, hhere, column_multiply, hstill]
    ring
  rw [haxis, harm]
  refine hturn.congr_of_eventuallyEq (Filter.Eventually.of_forall fun angle => ?_)
  dsimp only
  rw [htcp angle, column_multiply, hstill]

/-- The linear and the angular rows of a column of the Jacobian. -/
def linear (jacobian : Jacobian ℝ) (joint : Joint) : Vec3 ℝ :=
  ![jacobian 0 joint, jacobian 1 joint, jacobian 2 joint]

def angular (jacobian : Jacobian ℝ) (joint : Joint) : Vec3 ℝ :=
  ![jacobian 3 joint, jacobian 4 joint, jacobian 5 joint]

/-- **Forward kinematics are rigid, and the Jacobian is their derivative.** -/
theorem fk_jacobian :
    (∀ q', model.fk q' = .ok (model.chain q')) ∧
    model.geometricJacobian q = .ok (jacobianOf (model.chain q)) ∧
    (Rigid (model.chain q).baseInBody ∧ (∀ joint, Rigid ((model.chain q).jointPre joint)) ∧
      (∀ joint, Rigid ((model.chain q).linkPost joint)) ∧ Rigid (model.chain q).handTcp) ∧
    (∀ joint angle,
      (∀ i ≤ joint, (model.chain (Function.update q joint angle)).jointPre i =
        (model.chain q).jointPre i) ∧
      ∀ i < joint, (model.chain (Function.update q joint angle)).linkPost i =
        (model.chain q).linkPost i) ∧
    (∀ joint row, HasDerivAt
      (fun angle => position (model.chain (Function.update q joint angle)).handTcp row)
      (linear (jacobianOf (model.chain q)) joint row) (q joint)) ∧
    ∀ joint row column, HasDerivAt
      (fun angle => block (model.chain (Function.update q joint angle)).handTcp row column)
      ((angular (jacobianOf (model.chain q)) joint ⨯₃ fun k =>
        block (model.chain q).handTcp k column) row) (q joint) := by
  have htcp := (rigid_current h q 7).multiply h.tool
  refine ⟨fk_ok model, geometricJacobian_ok model q, ⟨h.base, rigid_jointPre h q,
    fun joint => rigid_current h q _, htcp⟩, fun joint angle => ⟨fun i hle => ?_, fun i hlt => ?_⟩,
    fun joint row => ?_, fun joint row column => ?_⟩
  · exact jointPre_update q hle angle
  · exact current_update q (Nat.succ_le_of_lt hlt) angle
  · have hone : entry (model.chain q).handTcp 3 3 = 1 := htcp.last.2.2.2
    refine (hasDerivAt_handTcp h q joint row 3).congr_deriv ?_
    simp only [hone, one_mul]
    rw [cross_apply]
    fin_cases row <;> rfl
  · have hzero : entry (model.chain q).handTcp 3 column.castSucc = 0 := by
      obtain ⟨h0, h1, h2, -⟩ := htcp.last
      fin_cases column <;> assumption
    refine (hasDerivAt_handTcp h q joint row column.castSucc).congr_deriv ?_
    simp only [hzero, zero_mul, sub_zero]
    rfl

end Chain

/-- A shift without a rotation. -/
noncomputable def shift (offset : Vec3 ℝ) : Transform ℝ :=
  ofEntries fun row column =>
    if row = column then 1
    else if column = 3 then (if hrow : row.val < 3 then offset ⟨row.val, hrow⟩ else 0)
    else 0

theorem rigid_shift (offset : Vec3 ℝ) : Rigid (shift offset) where
  rotation := by
    have hone : block (shift offset) = 1 := by
      ext row column
      simp only [block, of_apply, shift, entry_ofEntries, one_apply, Fin.castSucc_inj]
      have hlast : column.castSucc ≠ 3 := (Fin.castSucc_lt_last column).ne
      rw [if_neg hlast]
    rw [hone]
    exact one_mem _
  last := by
    unfold LastRow shift
    simp only [entry_ofEntries]
    simp

/-- Seven joints 100 mm apart, about the three axes in turn, on a base beside the
    middle, with a tool at the end. -/
noncomputable def turningModel : OaModel ℝ where
  baseInBody := shift ![0, Floating.lit 0.031, Floating.lit 0.7]
  origin _ := shift ![0, 0, Floating.lit 0.1]
  axis joint := if joint.val % 3 = 0 then ![1, 0, 0] else if joint.val % 3 = 1 then ![0, 1, 0]
    else ![0, 0, 1]
  lower _ := -1
  upper _ := 1
  tcpInLink7 := shift ![0, Floating.lit 0.05, Floating.lit 0.2]

theorem turningModel_rigid : RigidModel turningModel where
  base := rigid_shift _
  origin _ := rigid_shift _
  axis joint := by
    have hlast : ∀ x y z : ℝ, (![x, y, z] : Vec3 ℝ) 2 = z := fun _ _ _ => rfl
    unfold turningModel
    fin_cases joint <;> norm_num [hlast]
  tool := rigid_shift _

/-- All joints turned. -/
noncomputable def turnedQ : JointVector ℝ := fun joint => Floating.lit 0.1 * (joint.val + 1)

/-- The turned tool moves as the Jacobian says. -/
theorem fk_jacobian_turning : RigidModel turningModel ∧
    turningModel.geometricJacobian turnedQ = .ok (jacobianOf (turningModel.chain turnedQ)) ∧
    Rigid (turningModel.chain turnedQ).handTcp ∧
    (∀ joint row, HasDerivAt
      (fun angle => position (turningModel.chain (Function.update turnedQ joint angle)).handTcp row)
      (linear (jacobianOf (turningModel.chain turnedQ)) joint row) (turnedQ joint)) ∧
    ∀ joint row column, HasDerivAt
      (fun angle =>
        block (turningModel.chain (Function.update turnedQ joint angle)).handTcp row column)
      ((angular (jacobianOf (turningModel.chain turnedQ)) joint ⨯₃ fun k =>
        block (turningModel.chain turnedQ).handTcp k column) row) (turnedQ joint) := by
  obtain ⟨-, hjacobian, ⟨-, -, -, htool⟩, -, hposition, hblock⟩ :=
    fk_jacobian turningModel_rigid turnedQ
  exact ⟨turningModel_rigid, hjacobian, htool, hposition, hblock⟩

end OpenArm.Model
