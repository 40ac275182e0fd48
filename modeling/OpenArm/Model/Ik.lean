/-
  OpenArm.Model.Ik — inverse kinematics of a tool position.

  `oa_ik_position_v2` walks from the clamped seed: a damped step of the joints
  that are not blocked at a limit, scaled to the largest allowed move and to
  the room that is left, and halved until the error decreases.  Every exit of
  its loops leads to one block that measures the error again and decides what
  is reported.  The forward kinematics and the Jacobian are any functions.

  Main results:
    * `ik_descends_within_limits` — the search stays within the limits,
      descends, terminates, and reports success exactly when it is one.
-/
import OpenArm.Model.LeastSquares

namespace OpenArm.Model

open OpenArm.Lib OpenArm.Control

section Source

variable {F : Type} [Kinematic F]

/-! ## §1. What the search works with. -/

/-- What the search asks a model for. -/
structure IkModel (F : Type) where
  lower : JointVector F
  upper : JointVector F
  handTcp : JointVector F → Transform F
  jacobian : JointVector F → Jacobian F

/-- The model of a chain of joints. -/
def OaModel.ikModel (model : OaModel F) : IkModel F where
  lower := model.lower
  upper := model.upper
  handTcp q := (model.chain q).handTcp
  jacobian q := jacobianOf (model.chain q)

/-- `oa_fk`, as far as the search reads it. -/
def IkModel.fk (model : IkModel F) (q : JointVector F) : Except ModelStatus (Transform F) :=
  if !finiteAll q then .error .enonfinite
  else if !finiteAll (model.handTcp q) then .error .enonfinite
  else .ok (model.handTcp q)

/-- `oa_geometric_jacobian`. -/
def IkModel.geometricJacobian (model : IkModel F) (q : JointVector F) :
    Except ModelStatus (Jacobian F) :=
  match model.fk q with
  | .error status => .error status
  | .ok _ =>
    if (List.finRange 6).all fun row => finiteAll (model.jacobian q row) then
      .ok (model.jacobian q)
    else .error .enonfinite

theorem OaModel.ikModel_fk (model : OaModel F) (q : JointVector F) :
    model.ikModel.fk q = (model.fk q).map FkResult.handTcp := by
  unfold IkModel.fk OaModel.fk OaModel.ikModel
  dsimp only
  split
  · rfl
  · split <;> rfl

theorem OaModel.ikModel_geometricJacobian (model : OaModel F) (q : JointVector F) :
    model.ikModel.geometricJacobian q = model.geometricJacobian q := by
  have hfk : model.fk q = .ok (model.chain q) ∨ ∃ status, model.fk q = .error status := by
    unfold OaModel.fk
    split
    · exact .inr ⟨_, rfl⟩
    · split
      · exact .inr ⟨_, rfl⟩
      · exact .inl rfl
  unfold IkModel.geometricJacobian OaModel.geometricJacobian
  rw [ikModel_fk]
  obtain hok | ⟨status, herror⟩ := hfk
  · rw [hok]
    rfl
  · rw [herror]
    rfl

/-- `oa_ik_diagnostics`. -/
structure OaIkDiagnostics (F : Type) where
  status : ModelStatus
  iterations : Nat
  activeLimitMask : JointMask
  q : JointVector F
  achievedPositionM : Vec3 F
  achievedHandTcp : Transform F
  positionErrorM : F
  minSingularValue : F

/-- `diagnostics_init`. -/
def diagnosticsInit (status : ModelStatus) : OaIkDiagnostics F where
  status := status
  iterations := 0
  activeLimitMask := 0
  q _ := Floating.lit 0.0
  achievedPositionM _ := Floating.lit 0.0
  achievedHandTcp := identity
  positionErrorM := Floating.lit 0.0
  minSingularValue := Floating.lit 0.0

/-! ## §2. One iteration. -/

variable (model : IkModel F) (target : Vec3 F) (options : IkOptions F)

/-- `lower` and `upper` of a joint, inside the margin. -/
def lowerOf (joint : Joint) : F := model.lower joint + options.limitMarginRad

def upperOf (joint : Joint) : F := model.upper joint - options.limitMarginRad

/-- A configuration moved into the limits. -/
def clampToLimits (q : JointVector F) : JointVector F := fun joint =>
  fmin (upperOf model options joint) (fmax (lowerOf model options joint) (q joint))

/-- `feasible`. -/
def feasible (q : JointVector F) : Bool :=
  (List.finRange 7).all fun joint => Floating.isFinite (q joint) &&
    !decide (q joint < lowerOf model options joint) &&
    !decide (upperOf model options joint < q joint)

/-- `error`. -/
def targetError (tcp : Transform F) : Vec3 F := fun row => target row - position tcp row

/-- The joints a step would press against a limit. -/
def blocked (q step : JointVector F) (joint : Joint) : Bool :=
  (decide (q joint ≤ lowerOf model options joint) && decide (step joint < Floating.lit 0.0)) ||
    (decide (upperOf model options joint ≤ q joint) && decide (Floating.lit 0.0 < step joint))

/-- `next_active`. -/
def nextActive (q step : JointVector F) (active : JointMask) : JointMask :=
  active ||| jointMask (blocked model options q step)

/-- The passes over the active set, with `sigma` and `step` as they stand. -/
def activePasses (jacobian : Jacobian3 F) (error : Vec3 F) (q : JointVector F) :
    Nat → JointMask → F → JointVector F → JointMask × F × Except ModelStatus (JointVector F)
  | 0, active, sigma, step => (active, sigma, .ok step)
  | passes + 1, active, _, _ =>
    match computeStep jacobian error q options active with
    | (sigma, .error status) => (active, sigma, .error status)
    | (sigma, .ok step) =>
      if nextActive model options q step active = active then (active, sigma, .ok step)
      else activePasses jacobian error q passes (nextActive model options q step active) sigma step

/-- `maximum_step`. -/
def maximumStep (step : JointVector F) : F :=
  (List.finRange 7).foldl (fun maximum joint => fmax maximum (Floating.abs (step joint)))
    (Floating.lit 0.0)

/-- The room one joint leaves. -/
def limitAlpha (q step : JointVector F) (alpha : F) (joint : Joint) : Except ModelStatus F :=
  let limited (available : F) : Except ModelStatus F :=
    if available < Floating.lit 0.0 then .error .ebounds
    else .ok (fmin alpha (available / Floating.abs (step joint)))
  if Floating.lit 0.0 < step joint then limited (upperOf model options joint - q joint)
  else if step joint < Floating.lit 0.0 then limited (q joint - lowerOf model options joint)
  else .ok alpha

/-- `alpha` before the search. -/
def initialAlpha (q step : JointVector F) : Except ModelStatus F :=
  (List.finRange 7).foldlM (limitAlpha model options q step)
    (fmin (Floating.lit 1.0) (options.maxJointStepRad / maximumStep step))

/-- `OA_ALPHA_MIN`. -/
def alphaMin : F := Floating.lit 1e-12

/-- `candidate`. -/
def candidate (q step : JointVector F) (alpha : F) : JointVector F :=
  clampToLimits model options fun joint => q joint + alpha * step joint

/-- The backtracking loop: an accepted candidate, or nothing left to try;
    `none` when these rounds did not suffice. -/
def backtrack (q step : JointVector F) (oldError : F) :
    Nat → F → Option (Except ModelStatus (Option (JointVector F)))
  | 0, _ => none
  | rounds + 1, alpha =>
    if alpha < alphaMin then some (.ok none)
    else
      match model.fk (candidate model options q step alpha) with
      | .error status => some (.error status)
      | .ok tcp =>
        let candidateError := normSquared3 (targetError target tcp)
        if Floating.isFinite candidateError && decide (candidateError < oldError) then
          some (.ok (some (candidate model options q step alpha)))
        else backtrack q step oldError rounds (alpha * Floating.lit 0.5)

/-- The variables that outlive an iteration. -/
structure IkState (F : Type) where
  q : JointVector F
  sigma : F
  active : JointMask

/-- What is reported when no move is left. -/
def stuckStatus (active : JointMask) : ModelStatus :=
  if active ≠ 0 then .estagnatedAtBounds else .enoconvergence

/-- The second half of an iteration: the length of a step. -/
def advance (rounds : Nat) (state : IkState F) (oldError : F) (step : JointVector F) :
    Option (IkState F × Option ModelStatus) :=
  if state.active = kAllJoints then some (state, some .estagnatedAtBounds)
  else if maximumStep step < Floating.lit 1e-15 then
    some (state, some (stuckStatus state.active))
  else
    match initialAlpha model options state.q step with
    | .error status => some (state, some status)
    | .ok alpha =>
      if alpha < alphaMin then some (state, some (stuckStatus state.active))
      else
        match backtrack model target options state.q step oldError rounds alpha with
        | none => none
        | some (.error status) => some (state, some status)
        | some (.ok none) => some (state, some (stuckStatus state.active))
        | some (.ok (some q)) => some ({ state with q }, none)

/-- One iteration: the state it leaves, and the status it breaks with. -/
def iteration (rounds : Nat) (state : IkState F) : Option (IkState F × Option ModelStatus) :=
  match model.fk state.q with
  | .error status => some (state, some status)
  | .ok tcp =>
    let error := targetError target tcp
    let oldError := normSquared3 error
    match model.geometricJacobian state.q with
    | .error status => some (state, some status)
    | .ok geometric =>
      let jacobian := translationalMatrix geometric
      let sigma := singularValue jacobian options.postureWeight 0
      if oldError ≤ options.positionToleranceM * options.positionToleranceM then
        some ({ state with sigma }, some .ok)
      else
        match activePasses model options jacobian error state.q 8 0 sigma
            (fun _ => Floating.lit 0.0) with
        | (active, sigma, .error status) => some ({ state with active, sigma }, some status)
        | (active, sigma, .ok step) =>
          advance model target options rounds { state with active, sigma } oldError step

/-- The iterations: how many moved, the last state, and the status of a break. -/
def iterations (rounds : Nat) : Nat → IkState F → Option (Nat × IkState F × Option ModelStatus)
  | 0, state => some (0, state, none)
  | budget + 1, state =>
    match iteration model target options rounds state with
    | none => none
    | some (state, some status) => some (0, state, some status)
    | some (state, none) =>
      (iterations rounds budget state).map fun (moved, rest) => (moved + 1, rest)

/-- The state after these many moves. -/
def stateAfter (rounds : Nat) (start : IkState F) : Nat → Option (IkState F)
  | 0 => some start
  | moved + 1 =>
    match iteration model target options rounds start with
    | some (next, none) => stateAfter rounds next moved
    | _ => none

/-! ## §3. The call. -/

/-- The checks of one joint. -/
def jointStatus (joint : Joint) : Option ModelStatus :=
  if Floating.lit 100.0 < Floating.abs (options.seed joint) ||
      Floating.lit 100.0 < Floating.abs (options.posture joint) ||
      options.postureWeight joint < Floating.lit 1e-9 ||
      Floating.lit 1e9 < options.postureWeight joint then some .einval
  else if upperOf model options joint < lowerOf model options joint then some .ebounds
  else none

/-- The checks of the arguments, up to the joints. -/
def optionStatus : Option ModelStatus :=
  if options.abiVersion ≠ 2 || options.structSize < 224 then some .einval
  else if !(finiteAll target && finiteAll options.seed && finiteAll options.posture &&
      finiteAll options.postureWeight && Floating.isFinite options.positionToleranceM &&
      Floating.isFinite options.maxJointStepRad && Floating.isFinite options.dampingMin &&
      Floating.isFinite options.dampingMax && Floating.isFinite options.limitMarginRad) then
    some .enonfinite
  else if (List.finRange 3).any fun row => Floating.lit 100.0 < Floating.abs (target row) then
    some .einval
  else if options.maxIterations = 0 || options.positionToleranceM < Floating.lit 1e-12 ||
      Floating.lit 1.0 < options.positionToleranceM ||
      options.maxJointStepRad < Floating.lit 1e-12 ||
      Floating.lit 3.141592653589793 < options.maxJointStepRad ||
      options.dampingMin < Floating.lit 0.0 || options.dampingMax < options.dampingMin ||
      Floating.lit 1.0 < options.dampingMax || options.limitMarginRad < Floating.lit 0.0 then
    some .einval
  else none

/-- The first check that fails. -/
def argumentStatus : Option ModelStatus :=
  (optionStatus target options).or
    ((List.finRange 7).findSome? (jointStatus model options))

/-- The reporting block. -/
def report (moved : Nat) (state : IkState F) (status : ModelStatus) : OaIkDiagnostics F :=
  let status := if moved = options.maxIterations then .ebudget else status
  let measured : OaIkDiagnostics F := match model.fk state.q with
    | .error _ => { diagnosticsInit .einval with status := .enonfinite }
    | .ok tcp => { diagnosticsInit .einval with
        status
        achievedHandTcp := tcp
        achievedPositionM := position tcp
        positionErrorM := Floating.sqrt (normSquared3 (targetError target tcp)) }
  { measured with
    q := state.q
    iterations := moved
    activeLimitMask := state.active
    minSingularValue := if Floating.isFinite state.sigma then state.sigma else Floating.lit 0.0
    status :=
      if measured.positionErrorM ≤ options.positionToleranceM &&
          feasible model options state.q then .ok
      else if measured.status = .ok then .ebounds
      else measured.status }

/-- `q`, `sigma` and `active` before the first iteration. -/
def seedState : IkState F where
  q := clampToLimits model options options.seed
  sigma := Floating.lit 0.0
  active := 0

/-- `oa_ik_position_v2`: what it writes and returns; `none` when these rounds
    did not suffice. -/
def oaIkPositionV2 (rounds outputVersion outputSize : Nat) :
    Option (ModelStatus × Option (OaIkDiagnostics F)) :=
  if outputVersion ≠ 2 || outputSize < 256 then some (.einval, none)
  else
    match argumentStatus model target options with
    | some status => some (status, some (diagnosticsInit status))
    | none =>
      (iterations model target options rounds options.maxIterations
        (seedState model options)).map fun (moved, state, status) =>
          let out := report model target options moved state (status.getD .enoconvergence)
          (out.status, some out)

end Source

/-! ## §4. Limits and lengths, exactly. -/

section Exact

variable (model : IkModel ℝ) (target : Vec3 ℝ) (options : IkOptions ℝ) {q step : JointVector ℝ}

theorem fmax_eq (a b : ℝ) : fmax a b = max a b := by
  unfold fmax
  rw [if_neg (by simp [Floating.isNan]), if_neg (by simp [Floating.isNan])]
  exact RealFloat.max_eq a b

theorem fmin_eq (a b : ℝ) : fmin a b = min a b := by
  unfold fmin Floating.min
  rw [if_neg (by simp [Floating.isNan]), if_neg (by simp [Floating.isNan])]
  split
  · next hlt => rw [min_eq_right (le_of_lt hlt)]
  · next hnot => rw [min_eq_left (not_lt.mp hnot)]

theorem fk_real (q : JointVector ℝ) : model.fk q = .ok (model.handTcp q) := by
  simp [IkModel.fk]

theorem geometricJacobian_real (q : JointVector ℝ) :
    model.geometricJacobian q = .ok (model.jacobian q) := by
  simp [IkModel.geometricJacobian, fk_real]

/-- The limits, with the margin kept. -/
def WithinLimits (q : JointVector ℝ) : Prop :=
  ∀ joint, lowerOf model options joint ≤ q joint ∧ q joint ≤ upperOf model options joint

/-- The margins leave room for every joint. -/
def Roomy : Prop := ∀ joint, lowerOf model options joint ≤ upperOf model options joint

/-- The distance of the tool from the target. -/
noncomputable def tcpError (q : JointVector ℝ) : ℝ :=
  Real.sqrt (normSquared3 (targetError target (model.handTcp q)))

theorem clampToLimits_eq (q : JointVector ℝ) (joint : Joint) :
    clampToLimits model options q joint =
      min (upperOf model options joint) (max (lowerOf model options joint) (q joint)) := by
  unfold clampToLimits
  rw [fmin_eq, fmax_eq]

theorem clampToLimits_within (hroom : Roomy model options) (q : JointVector ℝ) :
    WithinLimits model options (clampToLimits model options q) := by
  intro joint
  rw [clampToLimits_eq]
  exact ⟨le_min (hroom joint) (le_max_left _ _), min_le_left _ _⟩

theorem feasible_of_within (h : WithinLimits model options q) :
    feasible model options q = true := by
  unfold feasible
  rw [List.all_eq_true]
  intro joint _
  obtain ⟨hlow, hhigh⟩ := h joint
  simp [Floating.isFinite, not_lt.mpr hlow, not_lt.mpr hhigh]

/-- Clamping does not lengthen a move that starts within the limits. -/
theorem clamp_move_le {low high value move : ℝ} (hlow : low ≤ value) (hhigh : value ≤ high) :
    |min high (max low (value + move)) - value| ≤ |move| := by
  rw [abs_le]
  constructor
  · have hneg : -|move| ≤ move := neg_abs_le move
    have hmin : value - |move| ≤ min high (max low (value + move)) :=
      le_min (by linarith [abs_nonneg move]) (le_max_of_le_right (by linarith))
    linarith
  · have hpos : move ≤ |move| := le_abs_self move
    have hmax : max low (value + move) ≤ value + |move| :=
      max_le (by linarith [abs_nonneg move]) (by linarith)
    linarith [min_le_right high (max low (value + move))]

/-- The maximum is one over every joint. -/
theorem abs_le_maximumStep (step : JointVector ℝ) (joint : Joint) :
    |step joint| ≤ maximumStep step := by
  have hfold : ∀ (joints : List Joint) (maximum : ℝ),
      maximum ≤ joints.foldl (fun maximum joint => fmax maximum (Floating.abs (step joint)))
        maximum ∧
      ∀ joint ∈ joints, |step joint| ≤
        joints.foldl (fun maximum joint => fmax maximum (Floating.abs (step joint))) maximum := by
    intro joints
    induction joints with
    | nil => exact fun maximum => ⟨le_rfl, by simp⟩
    | cons first joints ih =>
      intro maximum
      rw [List.foldl_cons, fmax_eq, RealFloat.abs_eq]
      obtain ⟨hstart, hrest⟩ := ih (max maximum |step first|)
      refine ⟨le_trans (le_max_left _ _) hstart, fun joint hmem => ?_⟩
      obtain rfl | hmem := List.mem_cons.mp hmem
      · exact le_trans (le_max_right _ _) hstart
      · exact hrest joint hmem
  exact (hfold _ _).2 joint (List.mem_finRange joint)

/-- The room the limits leave only shortens a step. -/
theorem limitAlpha_le {alpha shorter : ℝ} {joint : Joint}
    (h : limitAlpha model options q step alpha joint = .ok shorter) : shorter ≤ alpha := by
  have hshorter : ∀ ratio : ℝ, fmin alpha ratio ≤ alpha := by
    intro ratio
    rw [fmin_eq]
    exact min_le_left _ _
  unfold limitAlpha at h
  dsimp only at h
  split at h
  · split at h
    · cases h
    · exact Except.ok.inj h ▸ hshorter _
  · split at h
    · split at h
      · cases h
      · exact Except.ok.inj h ▸ hshorter _
    · exact (Except.ok.inj h).ge

theorem initialAlpha_le {alpha : ℝ} (h : initialAlpha model options q step = .ok alpha) :
    alpha ≤ min 1 (options.maxJointStepRad / maximumStep step) := by
  have hfold : ∀ (joints : List Joint) (start : ℝ),
      joints.foldlM (limitAlpha model options q step) start = .ok alpha → alpha ≤ start := by
    intro joints
    induction joints with
    | nil =>
      intro start hstart
      exact (Except.ok.inj hstart).ge
    | cons joint joints ih =>
      intro start hstart
      rw [List.foldlM_cons] at hstart
      cases hshorter : limitAlpha model options q step start joint with
      | error status =>
        rw [hshorter] at hstart
        cases hstart
      | ok shorter =>
        rw [hshorter] at hstart
        exact le_trans (ih shorter hstart) (limitAlpha_le model options hshorter)
  have hstart := hfold _ _ h
  rw [fmin_eq, lit_one] at hstart
  exact hstart

/-! ## §5. The active set. -/

/-- The joints outside a set. -/
def outside (active : JointMask) : Finset Joint :=
  Finset.univ.filter fun joint => hasJoint active joint = false

theorem card_outside_le (active : JointMask) : (outside active).card ≤ 7 := by
  have hle := Finset.card_le_univ (outside active)
  simpa using hle

/-- A joint mask has no bit beyond the joints. -/
theorem lt_of_getLsbD_jointMask {p : Joint → Bool} {i : Nat}
    (h : (jointMask p).getLsbD i = true) : i < 7 := by
  have hfold : ∀ (joints : List Joint) (mask : JointMask),
      (∀ i, mask.getLsbD i = true → i < 7) →
      ∀ i, (joints.foldl (fun mask joint =>
        if p joint then mask ||| (1#32 <<< joint.val) else mask) mask).getLsbD i = true →
          i < 7 := by
    intro joints
    induction joints with
    | nil => exact fun _ hmask => hmask
    | cons joint joints ih =>
      intro mask hmask
      rw [List.foldl_cons]
      apply ih
      intro i hi
      split at hi
      · rw [BitVec.getLsbD_or, Bool.or_eq_true] at hi
        obtain hi | hi := hi
        · exact hmask i hi
        · simp only [BitVec.getLsbD_shiftLeft, BitVec.getLsbD_one, Bool.and_eq_true,
            decide_eq_true_eq] at hi
          omega
      · exact hmask i hi
  exact hfold _ 0 (fun i hi => by simp at hi) i h

/-- A set that gains no joint stays as it is. -/
theorem nextActive_eq {active : JointMask}
    (h : ∀ joint, blocked model options q step joint = true → hasJoint active joint = true) :
    nextActive model options q step active = active := by
  unfold nextActive
  refine BitVec.eq_of_getLsbD_eq fun i _ => ?_
  rw [BitVec.getLsbD_or, Bool.or_eq_left_iff_imp]
  intro hmask
  have hlt := lt_of_getLsbD_jointMask hmask
  have hblocked := hasJoint_jointMask (blocked model options q step) ⟨i, hlt⟩
  exact h ⟨i, hlt⟩ (hblocked ▸ hmask)

/-- **A pass that enlarges the set leaves fewer joints outside it.** -/
theorem outside_nextActive {active : JointMask}
    (h : nextActive model options q step active ≠ active) :
    (outside (nextActive model options q step active)).card < (outside active).card := by
  have hgain : ∃ joint, blocked model options q step joint = true ∧
      hasJoint active joint = false := by
    by_contra hnone
    refine h (nextActive_eq model options fun joint hblocked => ?_)
    by_contra hnew
    exact hnone ⟨joint, hblocked, by simpa using hnew⟩
  obtain ⟨joint, hblocked, hnew⟩ := hgain
  have hor : ∀ k, hasJoint (nextActive model options q step active) k =
      (hasJoint active k || blocked model options q step k) := by
    intro k
    rw [← hasJoint_jointMask (blocked model options q step) k]
    unfold nextActive hasJoint
    rw [BitVec.getLsbD_or]
  apply Finset.card_lt_card
  refine ⟨fun k hk => ?_, fun hsub => ?_⟩
  · have hk := (Finset.mem_filter.mp hk).2
    rw [hor, Bool.or_eq_false_iff] at hk
    exact Finset.mem_filter.mpr ⟨Finset.mem_univ k, hk.1⟩
  · have hstill := (Finset.mem_filter.mp (hsub (Finset.mem_filter.mpr
      ⟨Finset.mem_univ joint, hnew⟩))).2
    rw [hor, hblocked, Bool.or_true] at hstill
    cases hstill

/-- **The passes end with a set its own step does not enlarge.** -/
theorem activePasses_fixed (jacobian : Jacobian3 ℝ) (error : Vec3 ℝ) (q : JointVector ℝ) :
    ∀ (passes : Nat) (active : JointMask) (sigma : ℝ) (step : JointVector ℝ)
      {active' : JointMask} {sigma' : ℝ} {step' : JointVector ℝ},
      (outside active).card < passes →
      activePasses model options jacobian error q passes active sigma step =
        (active', sigma', .ok step') →
      computeStep jacobian error q options active' = (sigma', .ok step') ∧
        nextActive model options q step' active' = active' := by
  intro passes
  induction passes with
  | zero =>
    intro active sigma step active' sigma' step' hroom
    exact absurd hroom (Nat.not_lt_zero _)
  | succ passes ih =>
    intro active sigma step active' sigma' step' hroom hpasses
    unfold activePasses at hpasses
    split at hpasses
    · cases hpasses
    · next sigma'' step'' hstep =>
      split at hpasses
      · next hfixed =>
        cases hpasses
        exact ⟨hstep, hfixed⟩
      · next hlarger =>
        have hfewer := outside_nextActive model options hlarger
        exact ih _ _ _ (by omega) hpasses

/-! ## §6. The line search. -/

/-- The search has an answer as soon as its rounds halve `alpha` below the
    least one, and more rounds do not change it. -/
theorem backtrack_ends (q step : JointVector ℝ) (oldError : ℝ) :
    ∀ (halvings : Nat) (alpha : ℝ), alpha < alphaMin * 2 ^ halvings →
      ∃ answer, ∀ rounds, halvings < rounds →
        backtrack model target options q step oldError rounds alpha = some answer := by
  intro halvings
  induction halvings with
  | zero =>
    intro alpha hsmall
    refine ⟨.ok none, fun rounds hrounds => ?_⟩
    obtain ⟨rounds, rfl⟩ : ∃ left, rounds = left + 1 := ⟨rounds - 1, by omega⟩
    unfold backtrack
    rw [if_pos (by simpa using hsmall)]
  | succ halvings ih =>
    intro alpha hsmall
    have hhalf : alpha * Floating.lit 0.5 < alphaMin * 2 ^ halvings := by
      rw [RealFloat.lit_eq]
      rw [pow_succ] at hsmall
      push_cast
      linarith
    obtain ⟨answer, hanswer⟩ := ih _ hhalf
    by_cases hmin : alpha < alphaMin
    · refine ⟨.ok none, fun rounds hrounds => ?_⟩
      obtain ⟨rounds, rfl⟩ : ∃ left, rounds = left + 1 := ⟨rounds - 1, by omega⟩
      unfold backtrack
      rw [if_pos hmin]
    · by_cases haccept : normSquared3 (targetError target
          (model.handTcp (candidate model options q step alpha))) < oldError
      · refine ⟨.ok (some (candidate model options q step alpha)), fun rounds hrounds => ?_⟩
        obtain ⟨rounds, rfl⟩ : ∃ left, rounds = left + 1 := ⟨rounds - 1, by omega⟩
        unfold backtrack
        rw [if_neg hmin, fk_real]
        simp [haccept, Floating.isFinite]
      · refine ⟨answer, fun rounds hrounds => ?_⟩
        obtain ⟨rounds, rfl⟩ : ∃ left, rounds = left + 1 := ⟨rounds - 1, by omega⟩
        unfold backtrack
        rw [if_neg hmin, fk_real, ← hanswer rounds (by omega)]
        simp [haccept]

/-- **Forty halvings are enough from one.** -/
theorem backtrack_total (q step : JointVector ℝ) (oldError : ℝ) {alpha : ℝ} (h : alpha ≤ 1) :
    ∃ answer, ∀ rounds, 41 ≤ rounds →
      backtrack model target options q step oldError rounds alpha = some answer := by
  have hsmall : alpha < alphaMin * 2 ^ 40 := by
    refine lt_of_le_of_lt h ?_
    unfold alphaMin
    rw [RealFloat.lit_eq]
    norm_num
  exact backtrack_ends model target options q step oldError 40 alpha hsmall

/-- **An accepted candidate is a shorter step with a smaller error.** -/
theorem backtrack_accepts (q step : JointVector ℝ) (oldError : ℝ) :
    ∀ (rounds : Nat) (alpha : ℝ) {q' : JointVector ℝ},
      backtrack model target options q step oldError rounds alpha = some (.ok (some q')) →
      ∃ shorter, alphaMin ≤ shorter ∧ shorter ≤ alpha ∧
        q' = candidate model options q step shorter ∧
        normSquared3 (targetError target (model.handTcp q')) < oldError := by
  intro rounds
  induction rounds with
  | zero =>
    intro alpha q' h
    unfold backtrack at h
    cases h
  | succ rounds ih =>
    intro alpha q' h
    unfold backtrack at h
    split at h
    · cases h
    · next hmin =>
      rw [fk_real] at h
      dsimp only at h
      split at h
      · next haccept =>
        cases h
        rw [Bool.and_eq_true, decide_eq_true_eq] at haccept
        exact ⟨alpha, not_lt.mp hmin, le_rfl, rfl, haccept.2⟩
      · obtain ⟨shorter, hlow, hhigh, heq, herror⟩ := ih _ h
        have hpos : (0 : ℝ) < alphaMin := by
          unfold alphaMin
          rw [RealFloat.lit_eq]
          norm_num
        refine ⟨shorter, hlow, le_trans hhigh ?_, heq, herror⟩
        rw [RealFloat.lit_eq]
        push_cast
        linarith [not_lt.mp hmin]

/-! ## §7. Iterations. -/

/-- One move of the search. -/
structure Moved (q q' : JointVector ℝ) : Prop where
  within : WithinLimits model options q'
  descends : tcpError model target q' < tcpError model target q
  short : ∀ joint, |q' joint - q joint| ≤ options.maxJointStepRad

theorem normSquared3_nonneg (vector : Vec3 ℝ) : 0 ≤ normSquared3 vector := by
  unfold normSquared3
  nlinarith [mul_self_nonneg (vector 0), mul_self_nonneg (vector 1), mul_self_nonneg (vector 2)]

/-- **A candidate at a scaled step is a move.** -/
theorem moved_candidate {alpha shorter : ℝ} (hroom : Roomy model options)
    (hwithin : WithinLimits model options q) (hmax : 0 < maximumStep step)
    (halpha : alpha ≤ options.maxJointStepRad / maximumStep step)
    (hlow : alphaMin ≤ shorter) (hshorter : shorter ≤ alpha)
    (herror : normSquared3 (targetError target (model.handTcp
      (candidate model options q step shorter))) <
        normSquared3 (targetError target (model.handTcp q))) :
    Moved model target options q (candidate model options q step shorter) where
  within := clampToLimits_within model options hroom _
  descends := Real.sqrt_lt_sqrt (normSquared3_nonneg _) herror
  short := by
    intro joint
    have hpos : (0 : ℝ) < alphaMin := by
      unfold alphaMin
      rw [RealFloat.lit_eq]
      norm_num
    have hscaled : shorter * maximumStep step ≤ options.maxJointStepRad := by
      rw [← le_div_iff₀ hmax]
      exact le_trans hshorter halpha
    unfold candidate
    rw [clampToLimits_eq]
    calc |min (upperOf model options joint) (max (lowerOf model options joint)
          (q joint + shorter * step joint)) - q joint|
        ≤ |shorter * step joint| := clamp_move_le (hwithin joint).1 (hwithin joint).2
      _ = shorter * |step joint| := by
          rw [abs_mul, abs_of_pos (lt_of_lt_of_le hpos hlow)]
      _ ≤ shorter * maximumStep step :=
          mul_le_mul_of_nonneg_left (abs_le_maximumStep step joint)
            (le_of_lt (lt_of_lt_of_le hpos hlow))
      _ ≤ options.maxJointStepRad := hscaled

/-- What the second half of an iteration leaves. -/
theorem advance_spec {rounds : Nat} (state : IkState ℝ) {state' : IkState ℝ}
    {status : Option ModelStatus}
    (hroom : Roomy model options) (hwithin : WithinLimits model options state.q)
    (h : advance model target options rounds state
      (normSquared3 (targetError target (model.handTcp state.q))) step = some (state', status)) :
    (status = none → Moved model target options state.q state'.q) ∧
      (status ≠ none → state'.q = state.q) := by
  unfold advance at h
  split at h
  · cases h
    simp
  · split at h
    · cases h
      simp
    · next hmax =>
      have hpos : 0 < maximumStep step := by
        refine lt_of_lt_of_le ?_ (not_lt.mp hmax)
        rw [RealFloat.lit_eq]
        norm_num
      split at h
      · cases h
        simp
      · next alpha halpha =>
        split at h
        · cases h
          simp
        · split at h
          · cases h
          · cases h
            simp
          · cases h
            simp
          · next q' hbacktrack =>
            cases h
            obtain ⟨shorter, hlow, hshorter, heq, herror⟩ :=
              backtrack_accepts model target options _ _ _ _ _ hbacktrack
            have hscale := le_trans (initialAlpha_le model options halpha) (min_le_right _ _)
            rw [heq] at herror
            refine ⟨fun _ => ?_, fun hne => absurd rfl hne⟩
            rw [heq]
            exact moved_candidate model target options hroom hwithin hpos hscale hlow hshorter
              herror

/-- **One iteration moves, or breaks where it stands.** -/
theorem iteration_spec {rounds : Nat} {state state' : IkState ℝ} {status : Option ModelStatus}
    (hroom : Roomy model options) (hwithin : WithinLimits model options state.q)
    (h : iteration model target options rounds state = some (state', status)) :
    (status = none → Moved model target options state.q state'.q) ∧
      (status ≠ none → state'.q = state.q) := by
  unfold iteration at h
  rw [fk_real, geometricJacobian_real] at h
  dsimp only at h
  split at h
  · cases h
    simp
  · split at h
    · cases h
      simp
    · next active sigma step hpasses =>
      exact advance_spec model target options { state with active, sigma } hroom hwithin h

theorem advance_total (state : IkState ℝ) (oldError : ℝ) (step : JointVector ℝ) :
    ∃ answer, ∀ rounds, 41 ≤ rounds →
      advance model target options rounds state oldError step = some answer := by
  unfold advance
  split
  · exact ⟨_, fun _ _ => rfl⟩
  · split
    · exact ⟨_, fun _ _ => rfl⟩
    · split
      · exact ⟨_, fun _ _ => rfl⟩
      · next alpha halpha =>
        split
        · exact ⟨_, fun _ _ => rfl⟩
        · have hone := le_trans (initialAlpha_le model options halpha) (min_le_left _ _)
          obtain ⟨status | _ | q, hanswer⟩ :=
            backtrack_total model target options state.q step oldError hone
          · refine ⟨(state, some status), fun rounds hrounds => ?_⟩
            rw [hanswer rounds hrounds]
          · refine ⟨(state, some (stuckStatus state.active)), fun rounds hrounds => ?_⟩
            rw [hanswer rounds hrounds]
          · refine ⟨({ state with q }, none), fun rounds hrounds => ?_⟩
            rw [hanswer rounds hrounds]

/-- **Forty-one rounds of the line search are enough for an iteration.** -/
theorem iteration_total (state : IkState ℝ) :
    ∃ answer, ∀ rounds, 41 ≤ rounds →
      iteration model target options rounds state = some answer := by
  unfold iteration
  rw [fk_real, geometricJacobian_real]
  dsimp only
  split
  · exact ⟨_, fun _ _ => rfl⟩
  · split
    · exact ⟨_, fun _ _ => rfl⟩
    · exact advance_total model target options _ _ _

theorem iterations_total :
    ∀ (budget : Nat) (state : IkState ℝ), ∃ answer, ∀ rounds, 41 ≤ rounds →
      iterations model target options rounds budget state = some answer := by
  intro budget
  induction budget with
  | zero => exact fun state => ⟨(0, state, none), fun _ _ => rfl⟩
  | succ budget ih =>
    intro state
    obtain ⟨⟨next, status⟩, hiteration⟩ := iteration_total model target options state
    obtain _ | status := status
    · obtain ⟨⟨moved, rest⟩, hrest⟩ := ih next
      refine ⟨(moved + 1, rest), fun rounds hrounds => ?_⟩
      unfold iterations
      rw [hiteration rounds hrounds]
      dsimp only
      rw [hrest rounds hrounds]
      rfl
    · refine ⟨(0, next, some status), fun rounds hrounds => ?_⟩
      unfold iterations
      rw [hiteration rounds hrounds]

/-- **A run of iterations ends after the moves it counts.** -/
theorem iterations_spec {rounds : Nat} (hroom : Roomy model options) :
    ∀ (budget : Nat) (start : IkState ℝ) {moved : Nat} {last : IkState ℝ}
      {status : Option ModelStatus}, WithinLimits model options start.q →
      iterations model target options rounds budget start = some (moved, last, status) →
      ∃ state, stateAfter model target options rounds start moved = some state ∧
        state.q = last.q := by
  intro budget
  induction budget with
  | zero =>
    intro start moved last status _ h
    cases h
    exact ⟨start, rfl, rfl⟩
  | succ budget ih =>
    intro start moved last status hwithin h
    unfold iterations at h
    split at h
    · cases h
    · next state status hbreak =>
      cases h
      refine ⟨start, rfl, ?_⟩
      exact ((iteration_spec model target options hroom hwithin hbreak).2 (by simp)).symm
    · next second hmoved =>
      have hmove := (iteration_spec model target options hroom hwithin hmoved).1 rfl
      obtain ⟨⟨rest, last', status'⟩, hrest, heq⟩ := Option.map_eq_some_iff.mp h
      cases heq
      obtain ⟨state, hstate, hq⟩ := ih second hmove.within hrest
      refine ⟨state, ?_, hq⟩
      show stateAfter model target options rounds start (rest + 1) = some state
      unfold stateAfter
      rw [hmoved]
      exact hstate

/-- Moves do not lead away from the target. -/
theorem stateAfter_spec {rounds : Nat} (hroom : Roomy model options) :
    ∀ (k : Nat) (start state : IkState ℝ), WithinLimits model options start.q →
      stateAfter model target options rounds start k = some state →
      WithinLimits model options state.q ∧
        tcpError model target state.q ≤ tcpError model target start.q ∧
        ∀ next, stateAfter model target options rounds start (k + 1) = some next →
          Moved model target options state.q next.q := by
  intro k
  induction k with
  | zero =>
    intro start state hwithin hstate
    cases hstate
    refine ⟨hwithin, le_rfl, fun next hnext => ?_⟩
    unfold stateAfter at hnext
    split at hnext
    · next hmoved =>
      cases hnext
      exact (iteration_spec model target options hroom hwithin hmoved).1 rfl
    · cases hnext
  | succ k ih =>
    intro start state hwithin hstate
    unfold stateAfter at hstate
    split at hstate
    · next second hmoved =>
      have hmove := (iteration_spec model target options hroom hwithin hmoved).1 rfl
      obtain ⟨hlast, herror, hnext⟩ := ih second state hmove.within hstate
      refine ⟨hlast, le_trans herror (le_of_lt hmove.descends), fun next hafter => ?_⟩
      unfold stateAfter at hafter
      rw [hmoved] at hafter
      exact hnext next hafter
    · cases hstate

/-! ## §8. The call. -/

/-- What the arguments' checks leave of the limits. -/
theorem roomy_of_argumentStatus (h : argumentStatus model target options = none) :
    Roomy model options := by
  intro joint
  unfold argumentStatus at h
  have hjoints := (Option.or_eq_none_iff.mp h).2
  have hjoint := List.findSome?_eq_none_iff.mp hjoints joint (List.mem_finRange joint)
  unfold jointStatus at hjoint
  split at hjoint
  · cases hjoint
  · split at hjoint
    · cases hjoint
    · next hroom => exact not_lt.mp hroom

theorem report_positionErrorM (moved : Nat) (state : IkState ℝ) (status : ModelStatus) :
    (report model target options moved state status).positionErrorM =
      tcpError model target state.q := by
  unfold report
  rw [fk_real]
  rfl

/-- **The report says success exactly when the error is within tolerance.** -/
theorem report_status {state : IkState ℝ} (moved : Nat) (status : ModelStatus)
    (hwithin : WithinLimits model options state.q) :
    (report model target options moved state status).status = .ok ↔
      tcpError model target state.q ≤ options.positionToleranceM := by
  unfold report
  rw [fk_real]
  dsimp only
  rw [feasible_of_within model options hwithin, Bool.and_true, RealFloat.sqrt_eq]
  show (if decide (tcpError model target state.q ≤ options.positionToleranceM) = true then _
    else _) = ModelStatus.ok ↔ _
  by_cases htolerance : tcpError model target state.q ≤ options.positionToleranceM
  · simp [htolerance]
  · simp only [htolerance, decide_false, Bool.false_eq_true, if_false, iff_false]
    have hnever : ∀ other : ModelStatus,
        (if other = .ok then ModelStatus.ebounds else other) ≠ .ok := by
      intro other
      split
      · simp
      · next hother => exact hother
    exact hnever _

/-- **The search stays within the limits, descends and reports honestly.** -/
theorem ik_descends_within_limits {rounds outputSize : Nat} (hrounds : 41 ≤ rounds)
    (hsize : 256 ≤ outputSize) (h : argumentStatus model target options = none) :
    ∃ out : OaIkDiagnostics ℝ,
      -- the line search ends within its rounds, and more of them change nothing
      (∀ more, 41 ≤ more → oaIkPositionV2 model target options more 2 outputSize =
        some (out.status, some out)) ∧
      WithinLimits model options out.q ∧
      out.positionErrorM = tcpError model target out.q ∧
      tcpError model target out.q ≤
        tcpError model target (clampToLimits model options options.seed) ∧
      (out.status = .ok ↔ out.positionErrorM ≤ options.positionToleranceM) ∧
      (∃ state, stateAfter model target options rounds (seedState model options)
        out.iterations = some state ∧ state.q = out.q) ∧
      (∀ k state next,
        stateAfter model target options rounds (seedState model options) k = some state →
        stateAfter model target options rounds (seedState model options) (k + 1) = some next →
        Moved model target options state.q next.q) ∧
      ∀ (jacobian : Jacobian3 ℝ) (error : Vec3 ℝ) (q : JointVector ℝ) (sigma : ℝ)
        (step : JointVector ℝ) (active : JointMask) (sigma' : ℝ) (step' : JointVector ℝ),
        activePasses model options jacobian error q 8 0 sigma step =
          (active, sigma', .ok step') →
        computeStep jacobian error q options active = (sigma', .ok step') ∧
          nextActive model options q step' active = active := by
  have hroom := roomy_of_argumentStatus model target options h
  have hseed : WithinLimits model options (seedState model options).q :=
    clampToLimits_within model options hroom options.seed
  obtain ⟨⟨moved, last, status⟩, htotal⟩ :=
    iterations_total model target options options.maxIterations (seedState model options)
  obtain ⟨state, hstate, hq⟩ :=
    iterations_spec model target options hroom _ _ hseed (htotal rounds hrounds)
  obtain ⟨hwithin, herror, -⟩ := stateAfter_spec model target options hroom _ _ _ hseed hstate
  have hlast : WithinLimits model options last.q := hq ▸ hwithin
  refine ⟨report model target options moved last (status.getD .enoconvergence), ?_, hlast,
    report_positionErrorM .., ?_, ?_, ⟨state, hstate, hq⟩, ?_, ?_⟩
  · intro more hmore
    unfold oaIkPositionV2
    rw [if_neg (by simpa using hsize), h]
    dsimp only
    rw [htotal more hmore]
    rfl
  · show tcpError model target last.q ≤ _
    rw [← hq]
    exact herror
  · rw [report_positionErrorM]
    exact report_status model target options moved _ hlast
  · intro k before next hbefore hnext
    exact (stateAfter_spec model target options hroom _ _ _ hseed hbefore).2.2 next hnext
  · intro jacobian error q sigma step active sigma' step' hpasses
    refine activePasses_fixed model options jacobian error q 8 0 sigma step ?_ hpasses
    exact Nat.lt_succ_of_le (card_outside_le 0)

end Exact

/-- One joint slides the tool along the first axis. -/
noncomputable def slider : IkModel ℝ where
  lower _ := -1
  upper _ := 1
  handTcp q := ofEntries fun row column => if row = 0 ∧ column = 3 then q 0 else 0
  jacobian _ row joint := if row = 0 ∧ joint = 0 then 1 else 0

theorem slider_arguments : argumentStatus slider (fun _ => 2) (plainOptions 0) = none := by
  have hjoint : ∀ joint, jointStatus slider (plainOptions 0) joint = none := by
    intro joint
    unfold jointStatus
    simp only [lowerOf, upperOf, slider, plainOptions, RealFloat.abs_eq, RealFloat.lit_eq]
    norm_num
  unfold argumentStatus
  rw [List.findSome?_eq_none_iff.mpr fun joint _ => hjoint joint, Option.or_none]
  unfold optionStatus
  simp only [plainOptions, RealFloat.abs_eq, RealFloat.lit_eq]
  norm_num [Floating.isFinite]

/-- A target out of reach is reported as such. -/
theorem ik_descends_within_limits_slider :
    argumentStatus slider (fun _ => 2) (plainOptions 0) = none ∧
    ∃ out : OaIkDiagnostics ℝ,
      oaIkPositionV2 slider (fun _ => 2) (plainOptions 0) 64 2 256 =
        some (out.status, some out) ∧
      WithinLimits slider (plainOptions 0) out.q ∧
      (out.status = .ok ↔ out.positionErrorM ≤ (plainOptions 0).positionToleranceM) := by
  refine ⟨slider_arguments, ?_⟩
  obtain ⟨out, hout, hwithin, -, -, hstatus, -⟩ :=
    ik_descends_within_limits slider (fun _ => 2) (plainOptions 0)
      (show 41 ≤ 64 by decide) (le_refl 256) slider_arguments
  exact ⟨out, hout 64 (by decide), hwithin, hstatus⟩

end OpenArm.Model
