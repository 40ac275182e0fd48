/-
  OpenArm.Guard.Validate — `NominalPathGuard::validate`.

  A request is a straight line for one tool or for both.  The guard walks
  along it in sixteen steps from the measured joints, solves each sample from
  the one before and asks the collision evaluator about it.  Contact between
  the claws is a second pair of rules over the same samples: a convergence
  has to end in it and a retreat has to leave it.

  The forward and inverse kinematics and the claw meshes are arbitrary.
-/
import OpenArm.Model.Evaluators
import OpenArm.Model.Kinematics
import OpenArm.Model.Route

namespace OpenArm.Guard

open OpenArm.Lib OpenArm.Control OpenArm.Model

variable {F : Type} [Metric F]

/-! ## §1. Requests and results. -/

/-- `kSamples`. -/
def kSamples : Nat := 17

/-- `kMeasuredLimitTolerance`. -/
def kMeasuredLimitTolerance : F := Floating.lit 3.9e-4

/-- What the guard calls: the public model of both arms, and the library that
    prints numbers. -/
structure GuardModel (F : Type) where
  /-- `oa_model_limits`. -/
  limits : Side → Joint → Option (F × F)
  /-- `oa_fk`. -/
  forward : Side → JointVector F → Option (FkResult F)
  /-- `oa_ik_position_v2` with the options of `inverse`: target and seed. -/
  inverse : Side → Vec3 F → JointVector F → Option (IkDiagnostics F)
  meshes : ClawMeshes F
  /-- `json_number`. -/
  jsonNumber : F → String
  /-- `std::to_string`. -/
  toText : F → String
  /-- `std::hypot` of three arguments. -/
  hypot3 : F → F → F → F

/-- `MoveRequest`. -/
structure MoveRequest (F : Type) where
  side : Side
  target : Vec3 F
  motionLimitScale : F
  dual : Bool
  dualTarget : RoutePose F

/-- `GuardInput`, without the evidence that only the handoff reads. -/
structure GuardInput (F : Type) where
  measuredQ : PairQ F
  request : MoveRequest F
  contactPolicy : BitVec 32
  requireTerminalContact : Bool
  terminalRetreat : Bool
  preservedSide : Int

/-- `GuardResult`. -/
structure GuardResult (F : Type) where
  accepted : Bool
  targetProjected : Bool
  sampledKeepoutViolation : Bool
  limitedByKeepout : Bool
  reason : String
  limitingReason : String
  measuredTcp : RoutePose F
  commandedTcp : RoutePose F
  requestedTcp : Vec3 F
  achievedFraction : F
  minimumNominalClearanceM : F
  failurePathFraction : F
  keepoutBarrierDistanceM : F
  terminalPairActive : Bool
  terminalPairClearanceM : F
  terminalTcpSeparationM : F
  clawContactActive : Bool
  clawHandGapM : F
  minimumOtherClawGapM : F
  contactStopDistanceM : F

/-- A point at zero. -/
def zeroPoint : Vec3 F := fun _ => Floating.lit 0.0

/-- `GuardResult{}`. -/
def GuardResult.initial : GuardResult F where
  accepted := false
  targetProjected := false
  sampledKeepoutViolation := false
  limitedByKeepout := false
  reason := ""
  limitingReason := ""
  measuredTcp := fun _ => zeroPoint
  commandedTcp := fun _ => zeroPoint
  requestedTcp := zeroPoint
  achievedFraction := Floating.lit 0.0
  minimumNominalClearanceM := Floating.lit 0.0
  failurePathFraction := Floating.lit 1.0
  keepoutBarrierDistanceM := Floating.lit 0.0
  terminalPairActive := false
  terminalPairClearanceM := Floating.lit 0.0
  terminalTcpSeparationM := Floating.lit 0.0
  clawContactActive := false
  clawHandGapM := Floating.lit 0.0
  minimumOtherClawGapM := Floating.lit 0.0
  contactStopDistanceM := Floating.lit 0.0

/-! ## §2. The model the guard asks. -/

/-- `origin`. -/
def origin (transform : Transform F) : Vec3 F := ![transform 3, transform 7, transform 11]

/-- `oa_collision_scene_from_fk`. -/
def sceneFromFk (left right : FkResult F) : CollisionScene F where
  abiVersion := collisionAbiVersion
  structSize := sizeofCollisionScene
  point := fun side index =>
    let source := if side = 0 then left else right
    if h : index.val < 7 then origin (source.jointPre ⟨index.val, h⟩) else origin source.handTcp

namespace GuardModel

variable (A : GuardModel F)

/-- `oa_collision_evaluate_scoped_fk_with_threshold` at the required clearance. -/
def sceneAnswer (policy : BitVec 32) (left right : FkResult F) : ScopedAnswer F :=
  collisionEvaluateScopedImpl A.meshes (some (sceneFromFk left right)) requiredClearanceM policy
    (some left.handTcp) (some right.handTcp)

/-- `validate_q`; where it fails it always writes `boundsReason`. -/
def validateQ (side : Side) (q : JointVector F) (tolerance : F) : Bool :=
  (List.finRange 7).all fun joint =>
    Floating.isFinite (q joint) &&
      match A.limits side joint with
      | none => false
      | some (lower, upper) =>
        !(decide (q joint < lower - tolerance) || decide (upper + tolerance < q joint))

end GuardModel

def boundsReason : String := "measured or planned joint state is outside finite model bounds"

def forwardReason : String := "public FK rejected measured state"

def inverseReason : String := "public IK could not prove this nominal waypoint reachable"

def branchReason : String := "nominal IK branch continuity is not proven"

def sampleReason : String := "public FK rejected a nominal path sample"

def nonfiniteReason : String := "nominal scene contains a non-finite coordinate"

def retreatStartReason : String := "terminal retreat must start at the scoped terminal pair"

def retreatDeeperReason : String := "terminal retreat path moved deeper into contact"

def retreatEndReason : String :=
  "terminal retreat did not finish outside the scoped contact corridor"

def acceptedReason : String :=
  "accepted by sampled nominal virtual guard; not physical certification"

/-- `true` or `false`. -/
def boolText (b : Bool) : String := if b then "true" else "false"

/-- What `scene_clear` says of a scene that is not clear. -/
def keepoutReason (A : GuardModel F) (report : CollisionReport F) : String :=
  if report.violation = .armArm then "nominal arm-arm capsule clearance is not proven"
  else "nominal central pole keepout clearance is not proven for arm " ++ toString report.side ++
    " segment " ++ toString report.segmentA ++
      " (clearance " ++ A.toText report.minimumClearanceM ++
    " m)"

/-- What is said of a convergence that does not end in contact. -/
def contactReason (A : GuardModel F) (result : GuardResult F) : String :=
  "intentional contact target did not end at proved claw-hand tangency (terminal_pair_active=" ++
    boolText result.terminalPairActive ++ ", claw_contact_active=" ++
    boolText result.clawContactActive ++ ", hand_gap_m=" ++ A.jsonNumber result.clawHandGapM ++
    ", minimum_other_claw_gap_m=" ++ A.jsonNumber result.minimumOtherClawGapM ++ ")"

/-! ## §3. One sample. -/

/-- Where the loop over the samples stands. -/
structure Sweep (F : Type) where
  q : PairQ F
  result : GuardResult F
  retreatSawTerminal : Bool
  retreatCleared : Bool
  retreatPreviousClearance : F

/-- `u`. -/
def fraction (sample : Nat) : F := Floating.ofNat sample / Floating.ofNat (kSamples - 1)

section Source

variable (A : GuardModel F) (input : GuardInput F)

/-- `inverse`. -/
def inverse (side : Side) (target : Vec3 F) (seed : JointVector F) :
    Except String (JointVector F) :=
  match A.inverse side target seed with
  | none => .error inverseReason
  | some diagnostics =>
    if diagnostics.collisionChecked || !Floating.isFinite diagnostics.positionErrorM ||
        decide (Floating.lit 1.0e-5 < diagnostics.positionErrorM) then .error inverseReason
    else if A.validateQ side diagnostics.q (Floating.lit 0.0) then .ok diagnostics.q
    else .error boundsReason

/-- `side_waypoint`: the point of one arm at a fraction of its way. -/
def sideWaypoint (measuredTcp : RoutePose F) (u : F) (side : Side) : Vec3 F :=
  if input.request.dual then interpolate (measuredTcp side) (input.request.dualTarget side) u
  else if side = input.request.side then interpolate (measuredTcp side) input.request.target u
  else measuredTcp side

/-- The joints of one arm at the next sample. -/
def solveSide (measuredTcp : RoutePose F) (u : F) (side : Side) (seed : JointVector F) :
    Except String (JointVector F) :=
  match inverse A side (sideWaypoint input measuredTcp u side) seed with
  | .error reason => .error reason
  | .ok next =>
    if (List.finRange 7).any fun joint =>
        decide (Floating.lit 0.35 < Floating.abs (next joint - seed joint)) then .error branchReason
    else .ok next

/-- The joints of both arms at the next sample. -/
def solvePair (measuredTcp : RoutePose F) (u : F) (q : PairQ F) : Except String (PairQ F) :=
  match solveSide A input measuredTcp u 0 (q 0) with
  | .error reason => .error reason
  | .ok left =>
    match solveSide A input measuredTcp u 1 (q 1) with
    | .error reason => .error reason
    | .ok right => .ok ![left, right]

/-- The rules of a retreat for one sample. -/
def retreatRules (sample : Nat) (contact : ContactEvidence F) (s : Sweep F) :
    Except (GuardResult F) (Sweep F) :=
  if input.terminalRetreat then
    if sample = 0 ∧ contact.terminalPairActive = false then
      .error { s.result with reason := retreatStartReason }
    else if contact.terminalPairActive then
      if s.retreatCleared ∨ (s.retreatSawTerminal ∧
          contact.terminalPairClearanceM < s.retreatPreviousClearance - Floating.lit 1.0e-6) then
        .error { s.result with reason := retreatDeeperReason }
      else .ok { s with
        retreatSawTerminal := true
        retreatPreviousClearance := contact.terminalPairClearanceM }
    else if s.retreatSawTerminal then .ok { s with retreatCleared := true }
    else .ok s
  else .ok s

/-- What the last sample leaves in the result. -/
def noteContact (contact : ContactEvidence F) (result : GuardResult F) : GuardResult F :=
  { result with
    terminalPairActive := contact.terminalPairActive
    terminalPairClearanceM := contact.terminalPairClearanceM
    terminalTcpSeparationM := contact.tcpSeparationM
    clawContactActive := contact.clawContactActive
    clawHandGapM := contact.clawHandGapM
    minimumOtherClawGapM := contact.minimumOtherClawGapM }

/-- The minimum over the samples so far. -/
def noteClearance (clearance : F) (result : GuardResult F) : GuardResult F :=
  { result with
    minimumNominalClearanceM :=
      if clearance < result.minimumNominalClearanceM then clearance
      else result.minimumNominalClearanceM }

/-- The scene of a sample, and what follows from it. -/
def judgeSample (sample : Nat) (q : PairQ F) (s : Sweep F) : Except (GuardResult F) (Sweep F) :=
  match A.forward 0 (q 0), A.forward 1 (q 1) with
  | some left, some right =>
    let answer := A.sceneAnswer input.contactPolicy left right
    if answer.status ≠ .ok then
      .error { s.result with
        sampledKeepoutViolation := true
        failurePathFraction := fraction sample
        reason := nonfiniteReason }
    else if answer.report.clear = false then
      .error { s.result with
        sampledKeepoutViolation := true
        failurePathFraction := fraction sample
        reason := keepoutReason A answer.report }
    else
      let result := noteClearance answer.report.minimumClearanceM s.result
      match retreatRules input sample answer.evidence { s with q, result } with
      | .error failed => .error failed
      | .ok s =>
        if sample + 1 = kSamples then
          .ok { s with result := noteContact answer.evidence s.result }
        else .ok s
  | _, _ => .error { s.result with
      reason := sampleReason
      failurePathFraction := fraction sample }

/-- One turn of the loop over the samples. -/
def sweepSample (sample : Nat) (s : Sweep F) : Except (GuardResult F) (Sweep F) :=
  if sample = 0 then judgeSample A input sample s.q s
  else
    match solvePair A input s.result.measuredTcp (fraction sample) s.q with
    | .error reason => .error { s.result with reason, failurePathFraction := fraction sample }
    | .ok q => judgeSample A input sample q s

/-- The loop over the samples. -/
def sweepSamples : List Nat → Sweep F → Except (GuardResult F) (Sweep F)
  | [], s => .ok s
  | sample :: samples, s =>
    match sweepSample A input sample s with
    | .error failed => .error failed
    | .ok s => sweepSamples samples s

/-! ## §4. The guard. -/

/-- The measured pose of one arm, or the reason it is refused. -/
def measuredPose (side : Side) : Except String (FkResult F) :=
  if A.validateQ side (input.measuredQ side) kMeasuredLimitTolerance then
    match A.forward side (input.measuredQ side) with
    | some pose => .ok pose
    | none => .error forwardReason
  else .error boundsReason

/-- The result before anything is checked. -/
def beginResult : GuardResult F :=
  { GuardResult.initial with
    requestedTcp := input.request.target
    minimumNominalClearanceM := Floating.infinity }

/-- Both measured tools are also commanded, until a target replaces one. -/
def measureTcp : Except (GuardResult F) (GuardResult F) :=
  match measuredPose A input 0 with
  | .error reason => .error { beginResult input with reason }
  | .ok left =>
    let one : RoutePose F := ![origin left.handTcp, zeroPoint]
    match measuredPose A input 1 with
    | .error reason =>
      .error { beginResult input with reason, measuredTcp := one, commandedTcp := one }
    | .ok right =>
      let both : RoutePose F := ![origin left.handTcp, origin right.handTcp]
      .ok { beginResult input with measuredTcp := both, commandedTcp := both }

/-- The targets enter the result. -/
def commandTcp (result : GuardResult F) : Except (GuardResult F) (GuardResult F) :=
  if input.request.dual then
    if finite3 (input.request.dualTarget 0) && finite3 (input.request.dualTarget 1) then
      .ok { result with
        commandedTcp := input.request.dualTarget
        requestedTcp := input.request.dualTarget 0 }
    else .error { result with
      reason := "both target XYZ triples must contain only finite metres" }
  else if finite3 input.request.target then
    .ok { result with
      commandedTcp := Function.update result.commandedTcp input.request.side input.request.target }
  else .error { result with reason := "target XYZ must contain only finite metres" }

/-- The checks behind the loop. -/
def concludeSweep (s : Sweep F) : GuardResult F :=
  let result := s.result
  if input.requireTerminalContact ∧
      (result.terminalPairActive = false ∨ result.clawContactActive = false) then
    { result with reason := contactReason A result }
  else if input.terminalRetreat ∧
      (s.retreatSawTerminal = false ∨ s.retreatCleared = false ∨ result.terminalPairActive) then
    { result with reason := retreatEndReason }
  else { result with
    accepted := true
    achievedFraction := Floating.lit 1.0
    reason := acceptedReason }

/-- Where the loop begins. -/
def beginSweep (result : GuardResult F) : Sweep F where
  q := input.measuredQ
  result
  retreatSawTerminal := false
  retreatCleared := false
  retreatPreviousClearance := Floating.negInfinity

/-- `NominalPathGuard::validate`. -/
def validate : GuardResult F :=
  match measureTcp A input with
  | .error failed => failed
  | .ok measured =>
    match commandTcp input measured with
    | .error failed => failed
    | .ok commanded =>
      match sweepSamples A input (List.range kSamples) (beginSweep input commanded) with
      | .error failed => failed
      | .ok s => concludeSweep A input s

end Source

end OpenArm.Guard
