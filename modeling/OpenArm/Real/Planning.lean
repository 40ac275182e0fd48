/-
  OpenArm.Real.Planning — how the physical session plans a command.

  `plan_command` and what it calls: the collision gate, the sampled joint
  edge, the contact path and the route request.  Planning reads the shared
  state once, when it starts, and takes no lock.
-/
import OpenArm.Control.Cycle
import OpenArm.Real.Types

namespace OpenArm.Real

open OpenArm.Lib OpenArm.Control OpenArm.Model

variable {F : Type} [Rounding F]

/-! ## §1. Poses. -/

/-- `finite_q`. -/
def finiteQ (q : PairQ F) : Bool :=
  (List.finRange 2).all fun side => (List.finRange 7).all fun joint =>
    Floating.isFinite (q side joint)

/-- `q_in_limits`. -/
def qInLimits (L : ArmModel F) (q : PairQ F) : Bool :=
  finiteQ q && (List.finRange 2).all fun side => (List.finRange 7).all fun joint =>
    match L.limits side joint with
    | none => false
    | some (lower, upper) =>
      !(decide (q side joint < lower - kEncoderLimitToleranceRad) ||
        decide (upper + kEncoderLimitToleranceRad < q side joint))

/-- `raw_from_model`. -/
def rawFromModel (c : DisplayCalibration F) (q : PairQ F) : PairQ F :=
  fun side joint => c.rawPosition side joint (q side joint)

/-- The largest of a quantity over the joints of both arms, from `least` on. -/
def maxOverJoints (least : F) (f : Side → Joint → F) : F :=
  (List.finRange 2).foldl (fun acc side =>
    (List.finRange 7).foldl (fun acc joint => Floating.max acc (f side joint)) acc) least

/-- `trajectory_duration_s`. -/
def trajectoryDurationS (start target : PairQ F) (scale : F) : F :=
  (List.finRange 2).foldl (fun acc side =>
    (List.finRange 7).foldl (fun duration joint =>
      let distance := Floating.abs (target side joint - start side joint)
      let duration := Floating.max duration
        (distance * Floating.lit 2.2 / (Floating.lit 1.0 * scale))
      let duration := Floating.max duration
        (Floating.sqrt (distance * Floating.lit 8.0 / (Floating.lit 2.0 * scale)))
      Floating.max duration
        (Floating.cbrt (distance * Floating.lit 60.0 / (Floating.lit 10.0 * scale)))) acc)
    (Floating.lit 0.1)

/-- `CollisionState`. -/
structure CollisionState (F : Type) where
  evaluated : Bool
  clear : Bool
  minimum : F
  terminalPair : Bool
  clawContact : Bool

/-- `collision_state`. -/
def collisionState (L : ArmModel F) (q : PairQ F) (threshold : F) (policy : ContactPolicy) :
    CollisionState F :=
  match L.forward 0 (q 0), L.forward 1 (q 1) with
  | some _, some _ =>
    let answer := L.collision q threshold policy
    { evaluated := answer.ok
      clear := answer.ok && answer.report.clear
      minimum := answer.report.minimumClearanceM
      terminalPair := answer.report.terminalPairActive
      clawContact := answer.report.clawContactActive }
  | _, _ =>
    { evaluated := false, clear := false, minimum := Floating.negInfinity
      terminalPair := false, clawContact := false }

/-- `solve_position`. -/
def solvePosition (L : ArmModel F) (side : Side) (target : Vec3 F) (seed : JointVector F) :
    Option (JointVector F) :=
  match L.inverse side target seed with
  | none => none
  | some diagnostics =>
    if diagnostics.positionErrorM ≤ Floating.lit 1.0e-5 then some diagnostics.q else none

/-! ## §2. The sampled joint edge. -/

/-- Where the sampling of a joint edge stands. -/
structure JointEdgeState (F : Type) where
  previousMinimum : F
  recovering : Bool

/-- One sample: the configuration at `fraction` of the edge. -/
def edgePoint (start target : PairQ F) (fraction : F) : PairQ F :=
  fun side joint =>
    start side joint + fraction * (target side joint - start side joint)

/-- The collision gate of one sample of a joint edge. -/
def gateJointSample (L : ArmModel F) (q : PairQ F) (e : JointEdgeState F) :
    Except String (JointEdgeState F) :=
  let checked := collisionState L q requiredClearanceM .none
  if e.recovering && checked.evaluated && !checked.clear then
    let live := collisionState L q interventionClearanceM .none
    if !live.clear || decide (live.minimum < e.previousMinimum - kClearanceWorseningEpsilon) then
      .error "joint_edge_failed_clearance_recovery"
    else .ok { previousMinimum := live.minimum, recovering := true }
  else if !checked.clear then .error "joint_edge_collision_gate"
  else .ok { previousMinimum := checked.minimum, recovering := false }

/-- The samples of a joint edge, in order. -/
def sampleJointEdge (L : ArmModel F) (start target : PairQ F) (samples : Nat) :
    List Nat → JointEdgeState F → Except String (JointEdgeState F)
  | [], e => .ok e
  | sample :: rest, e =>
    let fraction : F := Floating.ofNat sample / Floating.ofNat samples
    match gateJointSample L (edgePoint start target fraction) e with
    | .error reason => .error reason
    | .ok e' => sampleJointEdge L start target samples rest e'

/-- How a joint edge begins. -/
def beginJointEdge (L : ArmModel F) (start : PairQ F) : Except String (JointEdgeState F) :=
  let previous := collisionState L start requiredClearanceM .none
  if previous.evaluated && !previous.clear then
    let live := collisionState L start interventionClearanceM .none
    if !live.clear then .error "joint_edge_start_inside_live_intervention_envelope"
    else .ok { previousMinimum := live.minimum, recovering := true }
  else .ok { previousMinimum := previous.minimum, recovering := false }

/-- How many samples an edge of this length has. -/
def edgeSamples (maximumDelta : F) : Nat :=
  max 1 (Rounding.ceil (maximumDelta / kNeutralJointValidationStepRad))

/-- `append_validated_joint_edge`. -/
def appendValidatedJointEdge (L : ArmModel F) (start target : PairQ F)
    (waypoints : List (PairQ F)) : Except String (List (PairQ F)) :=
  let maximumDelta := maxOverJoints (Floating.lit 0) fun side joint =>
    Floating.abs (target side joint - start side joint)
  if maximumDelta ≤ Floating.lit 1.0e-12 then .ok waypoints
  else
    let samples := edgeSamples maximumDelta
    match beginJointEdge L start with
    | .error reason => .error reason
    | .ok first =>
      match sampleJointEdge L start target samples ((List.range samples).map (· + 1)) first with
      | .error reason => .error reason
      | .ok last =>
        if last.recovering then .error "joint_edge_did_not_recover_planning_clearance"
        else .ok (waypoints ++ [target])

/-! ## §3. Planned commands. -/

/-- `Active`. -/
structure Active (F : Type) where
  command : SessionCommand F
  waypoints : List (PairQ F)
  waypoint : Nat
  segmentStart : PairQ F
  segmentTarget : PairQ F
  endpointIntegralTau : PairQ F
  segmentStarted : Nat
  segmentDurationS : F
  commandId : Nat
  seedSeq : Side → Nat
  totalDurationNs : Nat
  settled : Nat
  contactStreak : Nat
  completedDurationS : F
  previousClearance : F
  contactPolicy : Bool
  gripperMotion : Bool
  gripperStartOpeningM : Side → F
  gripperTargetOpeningM : Side → F
  gripperSideMask : BitVec 32

def zeroQ : PairQ F := fun _ _ => Floating.lit 0

/-- The bit of a side in a gripper mask. -/
def gripperSide (mask : BitVec 32) (side : Side) : Bool := mask.getLsbD side.val

/-- A default-constructed `Active` with what `plan_command` sets first. -/
def Active.begin (command : SessionCommand F) (start : PairQ F) (commandId : Nat)
    (seedSeq : Side → Nat) : Active F where
  command := command
  waypoints := []
  waypoint := 0
  segmentStart := start
  segmentTarget := zeroQ
  endpointIntegralTau := zeroQ
  segmentStarted := 0
  segmentDurationS := Floating.lit 0.1
  commandId := commandId
  seedSeq := seedSeq
  totalDurationNs := 0
  settled := 0
  contactStreak := 0
  completedDurationS := Floating.lit 0
  previousClearance := Floating.negInfinity
  contactPolicy := command.kind = .convergeTcp
  gripperMotion := false
  gripperStartOpeningM := fun _ => Floating.lit 0
  gripperTargetOpeningM := fun _ => Floating.lit 0
  gripperSideMask := 0

/-- The range checks of a gripper command. -/
def gripperCommandOk (command : SessionCommand F) : Bool :=
  command.gripperSideMask != 0 && command.gripperSideMask &&& ~~~0x3 == 0 &&
    Floating.isFinite command.gripperOpeningM &&
    !decide (command.gripperOpeningM < Floating.lit 0) &&
    !decide (kMaximumOpeningM < command.gripperOpeningM) &&
    Floating.isFinite command.gripperSpeedMS &&
    !decide (command.gripperSpeedMS ≤ Floating.lit 0) &&
    !decide (kGripperMaximumSpeedMS < command.gripperSpeedMS) &&
    Floating.isFinite command.gripperTorqueLimitNm &&
    !decide (command.gripperTorqueLimitNm < kGripperMinimumTorqueNm) &&
    !decide (kGripperMaximumTorqueNm < command.gripperTorqueLimitNm)

/-- The gripper branch of `plan_command`. -/
def planGripper (gripper : Option (GripperCalibration F)) (measuredRawGripper : Side → F)
    (now : Nat) (active : Active F) : Except String (Active F) :=
  match gripper with
  | none => .error "gripper_closed_calibration_required"
  | some calibration =>
    let command := active.command
    if !gripperCommandOk command then .error "invalid_gripper_command"
    else
      let opening : Side → F := fun side => (calibration side).openingM (measuredRawGripper side)
      if (List.finRange 2).any fun side => !Floating.isFinite (opening side) then
        .error "invalid_gripper_encoder_mapping"
      else
        let maximumDelta := (List.finRange 2).foldl (fun acc side =>
          if gripperSide command.gripperSideMask side then
            Floating.max acc (Floating.abs (command.gripperOpeningM - opening side))
          else acc) (Floating.lit 0)
        let duration := Floating.max (Floating.lit 0.1)
          (Floating.lit 2.2 * maximumDelta / command.gripperSpeedMS)
        .ok { active with
          gripperMotion := true
          gripperSideMask := command.gripperSideMask
          gripperStartOpeningM := opening
          gripperTargetOpeningM := fun side =>
            if gripperSide command.gripperSideMask side then command.gripperOpeningM
            else opening side
          segmentDurationS := duration
          segmentStarted := now
          totalDurationNs := Rounding.ceil (duration * Floating.lit 1.0e9) }

/-- The tools of a pose, or the reason given when their kinematics fails. -/
def toolsOf (L : ArmModel F) (q : PairQ F) (reason : String) : Except String (RoutePose F) :=
  match tcpFromQ L q with
  | none => .error reason
  | some tcp => .ok tcp

/-- The waypoints of a route request, or the reason. -/
def planRoute (L : ArmModel F) (request : RouteRequest F) (reason : String) :
    Except String (List (PairQ F)) :=
  match oaRoutePlanPaired L request with
  | (.ok, some route) =>
    if route.waypoints.isEmpty then .error (reason ++ toString RouteStatus.ok.code)
    else .ok (route.waypoints.map RouteWaypoint.qRad)
  | (status, _) => .error (reason ++ toString status.code)

/-- The neutral branch of `plan_command`: the direct edge to the zero pose,
    else a route there followed by the exact joint edge. -/
def planNeutral (L : ArmModel F) (start : PairQ F) : Except String (List (PairQ F)) :=
  let target : PairQ F := zeroQ
  if !(collisionState L target requiredClearanceM .none).clear then
    .error "neutral_pose_collision_gate"
  else match appendValidatedJointEdge L start target [] with
    | .ok waypoints => .ok waypoints
    | .error directReason => do
      let tcp ← toolsOf L target "neutral_fk_failed"
      let route ← planRoute L
        { flags := allowClearanceRecovery, startQRad := start, targetTcpM := tcp
          maximumBranchStepRad := Floating.lit 0.35 }
        (directReason ++ "; neutral_collision_aware_route_failed:")
      appendValidatedJointEdge L (route.getLastD start) target route

/-- The joint branch of `plan_command`. -/
def planJointTarget (L : ArmModel F) (command : SessionCommand F) (start : PairQ F) :
    Except String (List (PairQ F)) :=
  if h : command.side < 2 ∧ command.joint < 7 ∧ Floating.isFinite command.targetRad = true then
    let target : PairQ F := Function.update start ⟨command.side, h.1⟩
      (Function.update (start ⟨command.side, h.1⟩) ⟨command.joint, h.2.1⟩ command.targetRad)
    if !qInLimits L target then .error "joint_target_out_of_limits"
    else appendValidatedJointEdge L start target []
  else .error "joint_target_out_of_limits"

/-- Where a converging tool stops short of the shared point. -/
def convergeTarget (L : ArmModel F) (command : SessionCommand F) (start : PairQ F)
    (side : Side) : Except String (Vec3 F) := do
  let tool ← match L.forward side (start side) with
    | none => .error "converge_fk_failed"
    | some tool => .ok tool
  let square := (List.finRange 3).foldl (fun acc axis =>
    let d := command.targetM axis - tool axis
    acc + d * d) (Floating.lit 0)
  let length := Floating.sqrt square
  if !decide (command.stopDistanceM + command.minimumProgressM < length) then
    .error "converge_progress_too_small"
  else
    let fraction := (length - command.stopDistanceM) / length
    .ok fun axis => tool axis + fraction * (command.targetM axis - tool axis)

/-- The targets of both tools, by the kind of the command. -/
def cartesianTarget (L : ArmModel F) (command : SessionCommand F) (start : PairQ F) :
    Except String (RoutePose F) :=
  match command.kind with
  | .centroidTcp => do
    let tcp ← toolsOf L start "centroid_fk_failed"
    let delta : Vec3 F := fun axis =>
      command.targetM axis - Floating.lit 0.5 * (tcp 0 axis + tcp 1 axis)
    .ok fun side axis => tcp side axis + delta axis
  | .mirroredTcp =>
    if h : command.side < 2 then
      let lead : Side := ⟨command.side, h⟩
      .ok fun side => if side = lead then command.leftTcpM
        else ![command.leftTcpM 0, -command.leftTcpM 1, command.leftTcpM 2]
    else .error "invalid_mirror_lead"
  | .convergeTcp => do
    let left ← convergeTarget L command start 0
    let right ← convergeTarget L command start 1
    .ok ![left, right]
  | _ => .ok ![command.leftTcpM, command.rightTcpM]

/-- A preserved arm keeps its measured tool as its target. -/
def preserveTarget (L : ArmModel F) (command : SessionCommand F) (start : PairQ F)
    (target : RoutePose F) : Except String (RoutePose F) :=
  if command.preservedSide < 0 then .ok target
  else if h : command.preservedSide.toNat < 2 then
    let held : Side := ⟨command.preservedSide.toNat, h⟩
    match L.forward held (start held) with
    | none => .error "invalid_preserved_side"
    | some tool => .ok (Function.update target held tool)
  else .error "invalid_preserved_side"

/-- The samples `1 .. 32` of a contact path, each solved from the one
    before; what is kept is the last configuration. -/
def sampleContactPath (L : ArmModel F) (startTcp target : RoutePose F) :
    List Nat → PairQ F → Except String (PairQ F)
  | [], q => .ok q
  | sample :: samples, q =>
    let fraction : F := Floating.ofNat sample / Floating.ofNat 32
    let solveSide (side : Side) :=
      solvePosition L side (interpolate (startTcp side) (target side) fraction) (q side)
    match solveSide 0, solveSide 1 with
    | some left, some right =>
      let next : PairQ F := ![left, right]
      if !(collisionState L next requiredClearanceM .terminalCaps).clear then
        .error "contact_path_collision_gate"
      else sampleContactPath L startTcp target samples next
    | _, _ => .error "contact_path_ik_failed"

/-- The flags of a Cartesian route request, by the preserved side. -/
def routeFlags (preserved : Int) : Except String (BitVec 32) :=
  if preserved = 0 then .ok (allowClearanceRecovery ||| preserveLeft)
  else if preserved = 1 then .ok (allowClearanceRecovery ||| preserveRight)
  else if preserved = -1 then .ok allowClearanceRecovery
  else .error "invalid_preserved_side"

/-- The Cartesian branches of `plan_command`. -/
def planCartesianCommand (L : ArmModel F) (command : SessionCommand F) (start : PairQ F) :
    Except String (List (PairQ F)) := do
  let target ← cartesianTarget L command start
  let target ← preserveTarget L command start target
  if command.kind = .convergeTcp then
    let startTcp ← toolsOf L start "contact_start_fk_failed"
    let last ← sampleContactPath L startTcp target ((List.range 32).map (· + 1)) start
    .ok [last]
  else
    let flags ← routeFlags command.preservedSide
    planRoute L
      { flags, startQRad := start, targetTcpM := target
        maximumBranchStepRad := Floating.lit 0.35 }
      "collision_aware_route_failed:"

/-- The waypoints of a command that moves the arms. -/
def planWaypoints (L : ArmModel F) (command : SessionCommand F) (start : PairQ F) :
    Except String (List (PairQ F)) :=
  match command.kind with
  | .neutral => planNeutral L start
  | .joint => planJointTarget L command start
  | _ => planCartesianCommand L command start

/-- The duration of a whole route, leg by leg. -/
def routeDurationNs (scale : F) : PairQ F → List (PairQ F) → Nat
  | _, [] => 0
  | start, waypoint :: rest =>
    Rounding.ceil (trajectoryDurationS start waypoint scale * Floating.lit 1.0e9) +
      routeDurationNs scale waypoint rest

/-- `plan_command`, from the fresh `Active` on. -/
def planCommand (L : ArmModel F) (gripper : Option (GripperCalibration F))
    (measuredRawGripper : Side → F) (now : Nat) (start : PairQ F) (active : Active F) :
    Except String (Active F) :=
  let command := active.command
  if command.kind = .gripper then planGripper gripper measuredRawGripper now active
  else match planWaypoints L command start with
    | .error reason => .error reason
    | .ok [] => .error "empty_route"
    | .ok (first :: rest) =>
      .ok { active with
        waypoints := first :: rest
        segmentTarget := first
        segmentDurationS := trajectoryDurationS start first
          (if command.kind = .joint then kLegacyMotionLimitScale else command.motionLimitScale)
        segmentStarted := now
        totalDurationNs := routeDurationNs command.motionLimitScale start (first :: rest)
        previousClearance := (collisionState L start interventionClearanceM
          (if active.contactPolicy then .terminalCaps else .none)).minimum }

end OpenArm.Real
