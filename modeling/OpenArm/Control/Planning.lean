/-
  OpenArm.Control.Planning — the planners of the controller.

  Every bimanual Cartesian planner is the same body, `planPairedCommon`,
  behind the same preconditions; the four public planners differ in the
  targets they resolve.  A planner returns the state it leaves (the
  preconditions may latch a fault or the E-stop) and its plan or status.
-/
import OpenArm.Control.Controller

namespace OpenArm.Control

open OpenArm.Lib

variable {F : Type} [Floating F]

/-! ## §1. Small checks. -/

/-- `valid_scale`. -/
def validScale (value : F) : Bool :=
  Floating.isFinite value && decide (Floating.lit 0 < value) && decide (value ≤ Floating.lit 1)

/-- `!finite(x) || x <= 0.0`. -/
def notPositive (value : F) : Bool :=
  !Floating.isFinite value || decide (value ≤ Floating.lit 0)

/-- `!finite(x) || x < 0.0`. -/
def negativeOrNonFinite (value : F) : Bool :=
  !Floating.isFinite value || decide (value < Floating.lit 0)

/-- `finite_point`. -/
def finitePoint (value : Vec3 F) : Bool :=
  Floating.isFinite (value 0) && Floating.isFinite (value 1) && Floating.isFinite (value 2)

/-- `difference`. -/
def difference (a b : Vec3 F) : Vec3 F := fun axis => a axis - b axis

/-- `magnitude`. -/
def magnitude (value : Vec3 F) : F :=
  Floating.sqrt (value 0 * value 0 + value 1 * value 1 + value 2 * value 2)

/-- The side a request names, when it names one. -/
def sideOf (side : Nat) : Option Side := if h : side < 2 then some ⟨side, h⟩ else none

/-- A joint position is outside the motor's limits or its encoder range. -/
def outsideMotor (motor : MotorConfig F) (q : F) : Bool :=
  decide (q < motor.lowerRad) || decide (motor.upperRad < q) ||
    decide (motor.pmaxRad < Floating.abs ((q - motor.qOffsetRad) / motor.qScale))

namespace Controller

/-! ## §2. Durations and keepout evaluation. -/

/-- The three lower bounds one joint puts on a segment's duration. -/
def jointDuration (motor : MotorConfig F) (velocityScale accelerationScale jerkScale : F)
    (durationS distance : F) : F :=
  Floating.max
    (Floating.max
      (Floating.max durationS
        (distance * Floating.lit 2.2 / (motor.maxVelocityRadS * velocityScale)))
      (Floating.sqrt
        (distance * Floating.lit 8 / (motor.maxAccelerationRadS2 * accelerationScale))))
    (Floating.cbrt (distance * Floating.lit 60 / (motor.maxJerkRadS3 * jerkScale)))

/-- `trajectory_duration`. -/
def trajectoryDuration (c : Controller F) (start target : Side → JointVector F)
    (velocityScale accelerationScale jerkScale : F) (armMask : Side → Bool) : Nat :=
  let initial := Floating.ofNat c.options.cycleNs * Floating.lit 10.0e-9
  let durationS := (List.finRange 2).foldl
    (fun d side =>
      if armMask side then
        (List.finRange 7).foldl
          (fun d joint =>
            jointDuration (c.manifest.motor side joint) velocityScale accelerationScale
              jerkScale d (Floating.abs (target side joint - start side joint))) d
      else d) initial
  min (Floating.ceilNanos durationS) maxU64

/-- A value-initialised keepout status. -/
def keepoutZero : KeepoutStatus F where
  clear := false
  violation := 0
  side := 0
  segmentA := 0
  segmentB := 0
  minimumClearanceM := Floating.lit 0
  terminalPairActive := false
  terminalPairClearanceM := Floating.lit 0
  tcpSeparationM := Floating.lit 0
  clawContactActive := false
  clawHandGapM := Floating.lit 0
  minimumOtherClawGapM := Floating.lit 0

/-- `keepout_clear`: the status it fills and its verdict. -/
def keepoutClear (L : ModelLibrary F) (q : Side → JointVector F) (policy : ContactPolicy) :
    KeepoutStatus F × Bool :=
  if (L.forward 0 (q 0)).isNone || (L.forward 1 (q 1)).isNone then
    ({ keepoutZero with minimumClearanceM := Floating.negInfinity }, false)
  else
    let answer := L.collision (q 0) (q 1) interventionClearanceM policy
    if answer.ok then (answer.report, answer.report.clear)
    else ({ answer.report with clear := false }, false)

/-- Measured joint positions of both arms. -/
def measuredPose (c : Controller F) : Side → JointVector F := fun side => (c.arm side).measuredQ

/-! ## §3. The joint planner. -/

/-- The request checks of `plan_joint` before the limit check. -/
def jointMoveInvalid (c : Controller F) (request : JointMove F) (side : Side) : Bool :=
  request.requiredFeedbackSeq != (c.arm side).feedbackSeq ||
    decide (request.expiryNs ≤ c.nowNs) || !Floating.isFinite request.targetRad ||
    !validScale request.velocityScale || !validScale request.accelerationScale ||
    !validScale request.jerkScale || notPositive request.positionTolRad ||
    notPositive request.velocityTolRadS

/-- The plan `plan_joint` builds for a checked request. -/
def jointPlan (c : Controller F) (request : JointMove F) (side : Side) (joint : Joint) :
    MotionPlan F :=
  let startQ := c.measuredPose
  let targetQ : Side → JointVector F :=
    Function.update startQ side (Function.update (startQ side) joint request.targetRad)
  let active : Side → Bool := fun s => decide (s = side)
  let duration := c.trajectoryDuration startQ targetQ request.velocityScale
    request.accelerationScale request.jerkScale active
  { kind := .joint
    activeArmMask := active
    manifestRevision := c.manifest.manifestRevision
    modelRevision := c.manifest.modelRevision
    collisionSceneRevision := c.options.collisionSceneRevision
    controllerInstance := c.instanceId
    verifyEpoch := c.verifyEpoch
    seedSeq := fun s => (c.arm s).feedbackSeq
    expiryNs := request.expiryNs
    durationNs := duration
    startQ := startQ
    targetQ := targetQ
    jointPositionTolerance :=
      Function.update (fun _ => Floating.lit 1.0e-4) side request.positionTolRad
    jointVelocityTolerance :=
      Function.update (fun _ => Floating.lit 1.0e-3) side request.velocityTolRadS
    tcpTolerance := fun _ => Floating.lit 0
    targetTcp := fun _ _ => Floating.lit 0
    achievedTcp := fun _ _ => Floating.lit 0
    tcpResidual := fun _ => Floating.lit 0
    collisionChecked := false
    contactMonitored := false
    contactGeometryPolicy := .none
    contactPersistenceCycles := 0
    contactThresholdNm := fun _ _ => Floating.lit 0
    waypointCount := 2
    waypointQ := fun s w => if w = 0 then startQ s else targetQ s
    waypointTimeNs := fun w => if w = 0 then 0 else duration
    two_le_count := by decide
    count_le_max := by decide }

/-- `plan_joint`. -/
def planJoint (c : Controller F) (request : JointMove F) :
    Controller F × Except ControlStatus (MotionPlan F) :=
  if c.lifecycle ≠ .armedIdle then (c, .error .estate)
  else if !c.fresh then (c, .error .estale)
  else if !c.healthy then
    let faulted := c.latchFault .efault false
    (faulted.1, .error faulted.2)
  else if !c.collisionAllowed then (c, .error .ecollision)
  else
    match sideOf request.side with
    | none => (c, .error .einval)
    | some side =>
      if hj : request.joint < 7 then
        if c.jointMoveInvalid request side then (c, .error .einval)
        else if outsideMotor (c.manifest.motor side ⟨request.joint, hj⟩) request.targetRad then
          (c, .error .elimit)
        else (c, .ok (c.jointPlan request side ⟨request.joint, hj⟩))
      else (c, .error .einval)

/-! ## §4. The shared Cartesian body. -/

/-- `plan_preconditions`; `latch` is what `oa_estop_asserted` returns. -/
def planPreconditions (c : Controller F) (latch : Bool) : Controller F × ControlStatus :=
  if latch then ({ c with estopLatched := true }, .eestop)
  else if c.lifecycle ≠ .armedIdle then (c, .estate)
  else if !c.fresh then (c, .estale)
  else if !c.healthy then c.latchFault .efault false
  else if !c.collisionAllowed then (c, .ecollision)
  else (c, .ok)

/-- `PairedPlanRequest`. -/
structure PairedPlanRequest (F : Type) extends TcpMove F where
  kind : PlanKind
  targetTcp : Side → Vec3 F
  contactGeometryPolicy : ContactPolicy

/-- The waypoint count of every Cartesian plan. -/
def cartesianWaypoints : Nat := 17

/-- What the waypoint loop leaves for one side. -/
structure SidePath (F : Type) where
  waypointQ : Nat → JointVector F
  targetQ : JointVector F
  achievedTcp : Vec3 F
  tcpResidual : F

/-- The inverse kinematics of one waypoint, with the checks on its answer. -/
def planWaypoint (c : Controller F) (L : ModelLibrary F) (request : PairedPlanRequest F)
    (side : Side) (startTcp : Vec3 F) (predecessor : JointVector F) (waypoint : Nat) :
    Except ControlStatus (IkResult F) :=
  let fraction : F :=
    Floating.ofNat waypoint / Floating.ofNat (cartesianWaypoints - 1)
  let waypointTcp : Vec3 F := fun axis =>
    startTcp axis + fraction * (request.targetTcp side axis - startTcp axis)
  match L.inverse side waypointTcp predecessor with
  | none => .error .eunreachable
  | some ik =>
    if decide (request.tcpTolM < ik.residual) ||
        decide (ik.minSingularValue < request.minSingularValue) then .error .eunreachable
    else if (List.finRange 7).any fun joint =>
        outsideMotor (c.manifest.motor side joint) (ik.q joint) ||
          decide (request.maxBranchStepRad < Floating.abs (ik.q joint - predecessor joint)) then
      .error .eunreachable
    else .ok ik

/-- The waypoint loop of one side, `remaining` waypoints before the end. -/
def planWaypoints (c : Controller F) (L : ModelLibrary F) (request : PairedPlanRequest F)
    (side : Side) (startTcp : Vec3 F) :
    Nat → JointVector F → SidePath F → Except ControlStatus (SidePath F)
  | 0, _, path => .ok path
  | remaining + 1, predecessor, path =>
    let waypoint := cartesianWaypoints - (remaining + 1)
    match c.planWaypoint L request side startTcp predecessor waypoint with
    | .error status => .error status
    | .ok ik =>
      c.planWaypoints L request side startTcp remaining ik.q
        { waypointQ := Function.update path.waypointQ waypoint ik.q
          targetQ := ik.q
          achievedTcp := ik.achieved
          tcpResidual := ik.residual }

/-- The side body of `plan_paired_common`. -/
def planSide (c : Controller F) (L : ModelLibrary F) (request : PairedPlanRequest F)
    (side : Side) : Except ControlStatus (SidePath F) :=
  if !finitePoint (request.targetTcp side) then .error .einval
  else
    let startQ := (c.arm side).measuredQ
    match L.forward side startQ with
    | none => .error .efault
    | some fk =>
      c.planWaypoints L request side fk.tcpXyz (cartesianWaypoints - 1) startQ
        { waypointQ := fun _ => startQ
          targetQ := startQ
          achievedTcp := fun _ => Floating.lit 0
          tcpResidual := Floating.lit 0 }

/-- The retreat loop: every waypoint keeps the scoped floor, the terminal
    clearance never decreases while the pair is active, and the pair does not
    become active again.  The answer says whether the path left the pair. -/
def retreatLoop (L : ModelLibrary F) (waypointQ : Side → Nat → JointVector F) :
    Nat → Bool → F → Except ControlStatus Bool
  | 0, cleared, _ => .ok cleared
  | remaining + 1, cleared, previous =>
    let waypoint := cartesianWaypoints - (remaining + 1)
    let evaluated := keepoutClear L (fun side => waypointQ side waypoint) .terminalCaps
    if !evaluated.2 then .error .ecollision
    else if evaluated.1.terminalPairActive then
      if cleared || decide (evaluated.1.terminalPairClearanceM < previous - Floating.lit 1.0e-6)
      then .error .ecollision
      else retreatLoop L waypointQ remaining cleared evaluated.1.terminalPairClearanceM
    else retreatLoop L waypointQ remaining true previous

/-- The contact policy of the plan: the requested one, or the scoped one for a
    proved retreat from a terminal contact. -/
def retreatPolicy (L : ModelLibrary F) (requested : ContactPolicy)
    (waypointQ : Side → Nat → JointVector F) : Except ControlStatus ContactPolicy :=
  if requested = .none then
    let strictStart := keepoutClear L (fun side => waypointQ side 0) .none
    let scopedStart := keepoutClear L (fun side => waypointQ side 0) .terminalCaps
    if !strictStart.2 && scopedStart.2 && scopedStart.1.terminalPairActive then
      match retreatLoop L waypointQ (cartesianWaypoints - 1) false
          scopedStart.1.terminalPairClearanceM with
      | .error status => .error status
      | .ok cleared => if cleared then .ok .terminalCaps else .error .ecollision
    else .ok requested
  else .ok requested

/-- The segment times of a Cartesian plan; a sum past the last unsigned value
    is refused. -/
def waypointTimes (c : Controller F) (request : PairedPlanRequest F)
    (waypointQ : Side → Nat → JointVector F) :
    Nat → (Nat → Nat) → Except ControlStatus (Nat → Nat)
  | 0, times => .ok times
  | remaining + 1, times =>
    let waypoint := cartesianWaypoints - (remaining + 1)
    let segment := c.trajectoryDuration (fun side => waypointQ side (waypoint - 1))
      (fun side => waypointQ side waypoint) request.velocityScale request.accelerationScale
      request.jerkScale (fun _ => true)
    if maxU64 - times (waypoint - 1) < segment then .error .eunreachable
    else
      c.waypointTimes request waypointQ remaining
        (Function.update times waypoint (times (waypoint - 1) + segment))

/-- The request checks of `plan_paired_common`. -/
def pairedRequestInvalid (c : Controller F) (request : PairedPlanRequest F) : Bool :=
  decide (request.expiryNs ≤ c.nowNs) ||
    request.requiredFeedbackSeq 0 != (c.arm 0).feedbackSeq ||
    request.requiredFeedbackSeq 1 != (c.arm 1).feedbackSeq ||
    !validScale request.velocityScale || !validScale request.accelerationScale ||
    !validScale request.jerkScale || notPositive request.tcpTolM ||
    notPositive request.maxBranchStepRad || negativeOrNonFinite request.minSingularValue ||
    request.collisionSceneRevision != c.options.collisionSceneRevision

/-- `plan_paired_common`. -/
def planPairedCommon (c : Controller F) (L : ModelLibrary F) (request : PairedPlanRequest F) :
    Except ControlStatus (MotionPlan F) := do
  if c.pairedRequestInvalid request then throw .einval
  let left ← c.planSide L request 0
  let right ← c.planSide L request 1
  let path : Side → SidePath F := fun side => if side = 0 then left else right
  let waypointQ : Side → Nat → JointVector F := fun side => (path side).waypointQ
  let policy ← retreatPolicy L request.contactGeometryPolicy waypointQ
  let times ← c.waypointTimes request waypointQ (cartesianWaypoints - 1) (fun _ => 0)
  return {
    kind := request.kind
    activeArmMask := fun _ => true
    manifestRevision := c.manifest.manifestRevision
    modelRevision := c.manifest.modelRevision
    collisionSceneRevision := request.collisionSceneRevision
    controllerInstance := c.instanceId
    verifyEpoch := c.verifyEpoch
    seedSeq := fun side => (c.arm side).feedbackSeq
    expiryNs := request.expiryNs
    durationNs := times (cartesianWaypoints - 1)
    startQ := c.measuredPose
    targetQ := fun side => (path side).targetQ
    jointPositionTolerance := fun _ => Floating.lit 5.0e-4
    jointVelocityTolerance := fun _ => Floating.lit 2.0e-2
    tcpTolerance := fun _ => request.tcpTolM
    targetTcp := request.targetTcp
    achievedTcp := fun side => (path side).achievedTcp
    tcpResidual := fun side => (path side).tcpResidual
    collisionChecked := false
    contactMonitored := false
    contactGeometryPolicy := policy
    contactPersistenceCycles := 0
    contactThresholdNm := fun _ _ => Floating.lit 0
    waypointCount := cartesianWaypoints
    waypointQ := waypointQ
    waypointTimeNs := times
    two_le_count := by decide
    count_le_max := by decide }

/-! ## §5. The four Cartesian planners. -/

/-- The frame of every Cartesian planner: the shared preconditions, then its
    own body on the state they leave. -/
def planCartesian (c : Controller F) (latch : Bool)
    (body : Except ControlStatus (MotionPlan F)) :
    Controller F × Except ControlStatus (MotionPlan F) :=
  let pre := c.planPreconditions latch
  if pre.2 = .ok then (pre.1, body) else (pre.1, .error pre.2)

/-- `plan_paired`. -/
def planPaired (c : Controller F) (L : ModelLibrary F) (latch : Bool)
    (request : PairedTcpMove F) : Controller F × Except ControlStatus (MotionPlan F) :=
  c.planCartesian latch <|
    c.planPairedCommon L
      { request.toTcpMove with
        kind := .pairedTcp
        targetTcp := fun side => if side = 0 then request.leftTcpM else request.rightTcpM
        contactGeometryPolicy := .none }

/-- The targets of `plan_centroid`: both measured TCPs moved by the vector that
    carries their midpoint to the target. -/
def centroidTargets (target : Vec3 F) (measuredTcp : Side → Vec3 F) :
    Except ControlStatus (Side → Vec3 F) :=
  let delta : Vec3 F := fun axis =>
    target axis - Floating.lit 0.5 * (measuredTcp 0 axis + measuredTcp 1 axis)
  let resolved : Side → Vec3 F := fun side axis => measuredTcp side axis + delta axis
  if (List.finRange 3).all fun axis =>
      Floating.isFinite (delta axis) && Floating.isFinite (resolved 0 axis) &&
        Floating.isFinite (resolved 1 axis) then .ok resolved
  else .error .einval

/-- `plan_centroid`. -/
def planCentroid (c : Controller F) (L : ModelLibrary F) (latch : Bool)
    (request : CentroidTcpMove F) : Controller F × Except ControlStatus (MotionPlan F) :=
  c.planCartesian latch <|
    if !finitePoint request.targetCentroidM then .error .einval
    else
      match L.forward 0 (c.arm 0).measuredQ, L.forward 1 (c.arm 1).measuredQ with
      | some left, some right => do
        let targets ← centroidTargets request.targetCentroidM
          (fun side => if side = 0 then left.tcpXyz else right.tcpXyz)
        c.planPairedCommon L
          { request.toTcpMove with
            kind := .centroidTcp, targetTcp := targets, contactGeometryPolicy := .none }
      | _, _ => .error .efault

/-- `plan_mirrored`: the sagittal mirror negates y only. -/
def planMirrored (c : Controller F) (L : ModelLibrary F) (latch : Bool)
    (request : MirroredTcpMove F) : Controller F × Except ControlStatus (MotionPlan F) :=
  c.planCartesian latch <|
    match sideOf request.leadSide with
    | none => .error .einval
    | some lead =>
      if !finitePoint request.leadTcpM then .error .einval
      else
        c.planPairedCommon L
          { request.toTcpMove with
            kind := .mirroredTcp
            targetTcp := fun side =>
              if side = lead then request.leadTcpM
              else ![request.leadTcpM 0, -request.leadTcpM 1, request.leadTcpM 2]
            contactGeometryPolicy := .none }

/-- The target of one arm of `plan_converge`: short of the convergence point
    along the arm's own approach ray. -/
def convergeTarget (request : ConvergeTcpMove F) (tcp : Vec3 F) :
    Except ControlStatus (Vec3 F) :=
  let ray := difference request.targetM tcp
  let distance := magnitude ray
  if !Floating.isFinite distance then .error .einval
  else
    let travel := distance - request.stopDistanceM
    if travel < request.minimumProgressM then .error .eunreachable
    else
      let scale := travel / distance
      let value : Vec3 F := fun axis => tcp axis + ray axis * scale
      if finitePoint value then .ok value else .error .einval

/-- The side body of `plan_converge` before the shared planner. -/
def convergeSide (c : Controller F) (L : ModelLibrary F) (request : ConvergeTcpMove F)
    (side : Side) : Except ControlStatus (Vec3 F) :=
  match L.forward side (c.arm side).measuredQ with
  | none => .error .efault
  | some fk => convergeTarget request fk.tcpXyz

/-- The threshold of one joint in `configure_contact_thresholds`. -/
def contactThreshold (c : Controller F) (request : ConvergeTcpMove F) (side : Side)
    (joint : Joint) : F :=
  let fraction :=
    if Floating.lit 0 < request.contactTorqueFraction then request.contactTorqueFraction
    else defaultContactTorqueFraction
  if notPositive (request.contactTorqueNm joint) then
    fraction * (c.manifest.motor side joint).tmaxNm
  else request.contactTorqueNm joint

/-- `configure_contact_thresholds`. -/
def configureContactThresholds (c : Controller F) (request : ConvergeTcpMove F)
    (plan : MotionPlan F) : Except ControlStatus (MotionPlan F) :=
  if (List.finRange 2).any fun side => (List.finRange 7).any fun joint =>
      notPositive (c.contactThreshold request side joint) then .error .einval
  else
    .ok
      { plan with
        contactMonitored := true
        contactPersistenceCycles :=
          if request.contactPersistenceCycles = 0 then defaultContactPersistenceCycles
          else request.contactPersistenceCycles
        contactThresholdNm := c.contactThreshold request }

/-- `plan_converge`. -/
def planConverge (c : Controller F) (L : ModelLibrary F) (latch : Bool)
    (request : ConvergeTcpMove F) : Controller F × Except ControlStatus (MotionPlan F) :=
  c.planCartesian latch <| do
    if !finitePoint request.targetM || negativeOrNonFinite request.stopDistanceM ||
        negativeOrNonFinite request.minimumProgressM ||
        !Floating.isFinite request.contactTorqueFraction then throw .einval
    let left ← c.convergeSide L request 0
    let right ← c.convergeSide L request 1
    let plan ← c.planPairedCommon L
      { request.toTcpMove with
        kind := .convergeTcp
        targetTcp := fun side => if side = 0 then left else right
        contactGeometryPolicy := .terminalCaps }
    c.configureContactThresholds request plan

end Controller

end OpenArm.Control
