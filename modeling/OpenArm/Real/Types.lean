/-
  OpenArm.Real.Types — the records of the physical control session.

  Commands, results, calibrations, encoder samples and CAN traffic as
  `RealControlSession` handles them.  Frames are kept decoded: what a frame
  MEANS to the two decoders the session applies is what is recorded.

  A command's callbacks are function objects of the caller; a callback here
  is its identity, and what it answers is chosen by the surroundings.
-/
import OpenArm.Model.Route
import Mathlib

namespace OpenArm.Real

open OpenArm.Lib OpenArm.Control OpenArm.Model

/-! ## §1. Constants. -/

section Constants

variable {F : Type} [Floating F]

/-- `kCycle`, in nanoseconds like every duration here. -/
def kCycle : Nat := 20000000

/-- `kFeedbackDeadline`. -/
def kFeedbackDeadline : Nat := 18000000

/-- `kFeedbackWatchdog`. -/
def kFeedbackWatchdog : Nat := 100000000

/-- `kConnectSampleDeadline`. -/
def kConnectSampleDeadline : Nat := 50000000

/-- `kConnectRampDeadline`. -/
def kConnectRampDeadline : Nat := 20000000

/-- `kMaximumSettleDuration`. -/
def kMaximumSettleDuration : Nat := 8000000000

/-- `kDisableConfirmationWindow`. -/
def kDisableConfirmationWindow : Nat := 3000000000

/-- `kDisableConfirmationPoll`. -/
def kDisableConfirmationPoll : Nat := 20000000

/-- How long a register confirmation is awaited. -/
def kRegisterDeadline : Nat := 250000000

/-- `kMotorCanTimeoutTicks`. -/
def kMotorCanTimeoutTicks : Nat := 4000

/-- `kGripperControlModePositionForce`. -/
def kGripperControlModePositionForce : Nat := 4

/-- `kSettleCycles`. -/
def kSettleCycles : Nat := 8

/-- `kContactPersistenceCycles`. -/
def kContactPersistenceCycles : Nat := 5

/-- `kLegacyMotionLimitScale`. -/
def kLegacyMotionLimitScale : F := Floating.lit 0.5

/-- `kPhysicalMotionLimitScale`. -/
def kPhysicalMotionLimitScale : F := Floating.lit 0.5

/-- `kEncoderLimitToleranceRad`. -/
def kEncoderLimitToleranceRad : F := Floating.lit 0.002

/-- `kPositionToleranceRad`. -/
def kPositionToleranceRad : F := Floating.lit 0.015

/-- `kVelocityToleranceRadS`. -/
def kVelocityToleranceRadS : F := Floating.lit 0.08

/-- `kEndpointIntegralGainNmPerRadS`. -/
def kEndpointIntegralGainNmPerRadS : F := Floating.lit 20.0

/-- `kEndpointTorqueStepNm`. -/
def kEndpointTorqueStepNm : F := Floating.lit 0.02

/-- `kEndpointTorqueMaximumNm`. -/
def kEndpointTorqueMaximumNm : JointVector F := fun joint =>
  if joint.val < 2 then Floating.lit 6.0
  else if joint.val < 4 then Floating.lit 4.0 else Floating.lit 1.5

/-- `kDefaultContactTorqueFraction`. -/
def kDefaultContactTorqueFraction : F := Floating.lit 0.10

/-- `kClearanceWorseningEpsilon`. -/
def kClearanceWorseningEpsilon : F := Floating.lit 1.0e-6

/-- `kNeutralJointValidationStepRad`. -/
def kNeutralJointValidationStepRad : F := Floating.lit 0.02

/-- `kGripperHoldTorqueNm`. -/
def kGripperHoldTorqueNm : F := Floating.lit 0.25

/-- `kGripperDefaultSpeedMS`. -/
def kGripperDefaultSpeedMS : F := Floating.lit 0.0044

/-- `kGripperMaximumSpeedMS`. -/
def kGripperMaximumSpeedMS : F := Floating.lit 0.011

/-- `kGripperMinimumTorqueNm`. -/
def kGripperMinimumTorqueNm : F := Floating.lit 0.05

/-- `kGripperMaximumTorqueNm`. -/
def kGripperMaximumTorqueNm : F := Floating.lit 1.5

/-- `kGripperPositionToleranceM`. -/
def kGripperPositionToleranceM : F := Floating.lit 0.00075

/-- `kGripperVelocityToleranceMS`. -/
def kGripperVelocityToleranceMS : F := Floating.lit 0.002

/-- `GripperCalibration::kMaximumOpeningM`. -/
def kMaximumOpeningM : F := Floating.lit 0.044

/-- `GripperCalibration::kOfficialMotorTravelRad`. -/
def kOfficialMotorTravelRad : F := Floating.lit (-1.0472)

/-- The torque range of the motor profile, `profile_for(joint).tmax_nm`. -/
def profileTmaxNm (joint : Nat) : F :=
  if joint < 2 then Floating.lit 54.0
  else if joint < 4 then Floating.lit 28.0 else Floating.lit 10.0

/-- A duration in seconds. -/
def seconds (ns : Nat) : F := Floating.ofNat ns / Floating.lit 1.0e9

/-- `valid_motion_limit_scale`. -/
def validMotionLimitScale (value : F) : Bool :=
  Floating.isFinite value && decide (Floating.lit 0.5 ≤ value) &&
    decide (value ≤ Floating.lit 1.0)

end Constants

/-! ## §2. Motors, samples and CAN traffic. -/

/-- The eight motors of an arm: seven joints and the gripper, `J8`. -/
abbrev Motor := Fin 8

/-- The motor that drives a joint. -/
def jointMotor (joint : Joint) : Motor := joint.castSucc

/-- The gripper motor. -/
def gripperMotor : Motor := 7

/-- `OA_CAN_FEEDBACK_DISABLED`. -/
def feedbackDisabled : Nat := 0

/-- `OA_CAN_FEEDBACK_ENABLED`. -/
def feedbackEnabled : Nat := 1

/-- `MotorSample`. -/
structure MotorSample (F : Type) where
  valid : Bool
  rawQ : F
  rawDq : F
  rawTau : F
  status : Nat

/-- The registers the session writes. -/
inductive Register where
  | timeout | ctrlMode
  deriving DecidableEq, Repr

/-- What a frame the session writes asks of a motor. -/
inductive Frame (F : Type) where
  | enable (motor : Motor)
  | disable (motor : Motor)
  | refresh (motor : Motor)
  /-- The MIT command of a joint: position, gain scale and torque. -/
  | mit (joint : Joint) (positionRad gainScale torqueNm : F)
  /-- A gripper command, by opening or by raw position. -/
  | gripperOpening (openingM : F)
  | gripperRaw (positionRad : F)
  | writeRegister (motor : Motor) (register : Register) (value : Nat)

/-- A received frame, by what the two decoders make of it: the motor and the
    sample of a feedback frame, the motor, register and value of a write
    confirmation.  `answers` is the serial of the frame it answers, which
    no code reads. -/
structure Incoming (F : Type) where
  feedback : Option (Motor × MotorSample F)
  confirmation : Option (Motor × Register × Nat)
  answers : Nat

/-- Where opening a CAN socket fails, with the system's message. -/
inductive SocketFailure where
  | create (error : String)
  | unavailable
  | filters
  | bind (error : String)
  deriving DecidableEq, Repr

/-- The `detail` of a failed `open_sockets`. -/
def SocketFailure.message (interface : String) : SocketFailure → String
  | .create error => "cannot create SocketCAN socket: " ++ error
  | .unavailable => "CAN interface " ++ interface ++ " is unavailable"
  | .filters => "cannot install exact motor feedback filters on " ++ interface
  | .bind error => "cannot bind " ++ interface ++ ": " ++ error

/-! ## §3. Calibration. -/

/-- `JointDisplayCalibration`; loading accepts the directions 1 and -1. -/
structure JointCalibration (F : Type) where
  reversed : Bool
  referenceRad : F
  offsetRad : F

/-- `DisplayCalibration`. -/
abbrev DisplayCalibration (F : Type) := Side → Joint → JointCalibration F

/-- `oa_can_gripper_calibration`. -/
structure GripperSide (F : Type) where
  closedMotorPositionRad : F
  openMotorPositionRad : F
  maximumOpeningM : F

/-- `GripperCalibration` once it is ready. -/
abbrev GripperCalibration (F : Type) := Side → GripperSide F

section Calibration

variable {F : Type} [Floating F]

/-- `static_cast<double>(direction)`. -/
def JointCalibration.direction (c : JointCalibration F) : F :=
  if c.reversed then -Floating.lit 1 else Floating.lit 1

/-- `DisplayCalibration::position`. -/
def DisplayCalibration.position (c : DisplayCalibration F) (side : Side) (joint : Joint)
    (rawRad : F) : F :=
  if !Floating.isFinite rawRad then Floating.quietNaN
  else (c side joint).direction * (rawRad - (c side joint).referenceRad) +
    (c side joint).offsetRad

/-- `DisplayCalibration::raw_position`. -/
def DisplayCalibration.rawPosition (c : DisplayCalibration F) (side : Side) (joint : Joint)
    (modelRad : F) : F :=
  if !Floating.isFinite modelRad then Floating.quietNaN
  else (c side joint).referenceRad +
    (c side joint).direction * (modelRad - (c side joint).offsetRad)

/-- `DisplayCalibration::signed_value`. -/
def DisplayCalibration.signedValue (c : DisplayCalibration F) (side : Side) (joint : Joint)
    (rawValue : F) : F :=
  if !Floating.isFinite rawValue then Floating.quietNaN
  else (c side joint).direction * rawValue

/-- `GripperCalibration::opening_m`. -/
def GripperSide.openingM (g : GripperSide F) (rawMotorRad : F) : F :=
  if !Floating.isFinite rawMotorRad then Floating.quietNaN
  else
    let opening := g.maximumOpeningM * (rawMotorRad - g.closedMotorPositionRad) /
      (g.openMotorPositionRad - g.closedMotorPositionRad)
    if !Floating.isFinite opening then Floating.quietNaN
    else Floating.clamp opening (Floating.lit 0) g.maximumOpeningM

/-- `GripperCalibration::velocity_m_s`. -/
def GripperSide.velocityMS (g : GripperSide F) (rawMotorVelocityRadS : F) : F :=
  if !Floating.isFinite rawMotorVelocityRadS then Floating.quietNaN
  else rawMotorVelocityRadS * g.maximumOpeningM /
    (g.openMotorPositionRad - g.closedMotorPositionRad)

end Calibration

/-! ## §4. Commands and results. -/

/-- The identity of a function object the caller supplied. -/
abbrev Callback := Nat

/-- `SessionCommand::Kind`. -/
inductive CommandKind where
  | joint | pairedTcp | centroidTcp | mirroredTcp | convergeTcp | neutral | gripper
  deriving DecidableEq, Repr

/-- `SessionCommand`. -/
structure SessionCommand (F : Type) where
  kind : CommandKind
  owner : String
  side : Nat
  joint : Nat
  targetRad : F
  leftTcpM : Vec3 F
  rightTcpM : Vec3 F
  targetM : Vec3 F
  stopDistanceM : F
  contactTorqueFraction : F
  minimumProgressM : F
  motionLimitScale : F
  preservedSide : Int
  gripperSideMask : BitVec 32
  gripperOpeningM : F
  gripperSpeedMS : F
  gripperTorqueLimitNm : F
  gripperStopOnContact : Bool
  feedback : Option Callback
  terminal : Option Callback

/-- `CommandResult::Outcome`. -/
inductive Outcome where
  | completed | canceled | rejected | aborted
  deriving DecidableEq, Repr

/-- The members of `CommandResult` the session fills; `runtime_status` is
    `OA_RUNTIME_OK` exactly for a completed or canceled command. -/
structure CommandResult where
  outcome : Outcome
  runtimeOk : Bool
  commandId : Nat
  seedFeedbackSeq : Side → Nat
  terminalFeedbackSeq : Side → Nat
  lifecycle : Lifecycle
  event : EventKind
  cause : StopCause
  motionAuthorized : Bool
  reason : String

/-- `CommandFeedback`. -/
structure CommandFeedback (F : Type) where
  commandId : Nat
  feedbackSeq : Side → Nat
  measuredProgress : F

/-- `AdapterState`. -/
inductive AdapterState where
  | starting | idle | reserved | executing | stoppedRequiresRestart | fault
  deriving DecidableEq, Repr

/-- The members of `SessionHealth` the session writes, past the snapshot's
    measurements. -/
structure SessionHealth where
  adapterState : AdapterState
  lifecycle : Lifecycle
  commandId : Nat
  planSeedFeedbackSeq : Side → Nat
  planDurationNs : Nat
  terminalFeedbackSeq : Side → Nat
  owner : String
  reason : String

/-- `reason.find(text) != std::string::npos`. -/
def mentions (reason text : String) : Bool :=
  reason.toList.tails.any fun rest => text.toList.isPrefixOf rest

/-! ## §5. The fixed setting of a session. -/

/-- `active_side_mask`, of which the constructor requires one side. -/
structure ActiveSides where
  left : Bool
  right : Bool
  some_side : left || right

/-- `side_active`. -/
def ActiveSides.active (a : ActiveSides) (side : Side) : Bool :=
  if side = 0 then a.left else a.right

/-- `active_side_mask == 3U`. -/
def ActiveSides.both (a : ActiveSides) : Bool := a.left && a.right

/-- What the session never changes: the model library, the configuration,
    the display calibration read by the constructor, whether the CAN codec
    accepts a value, and `std::to_string`. -/
structure Setting (F : Type) where
  model : ArmModel F
  sides : ActiveSides
  interfaceForSide : Side → String
  calibrationLoaded : Bool
  calibrationDetail : String
  calibration : DisplayCalibration F
  /-- `oa_can_encode_mit_profile` of a position, gain scale and torque. -/
  mitEncodes : Joint → F → F → F → Bool
  /-- `oa_can_encode_gripper_move` of an opening, speed and torque limit. -/
  gripperMoveEncodes : GripperSide F → F → F → F → Bool
  /-- `oa_can_encode_pos_force` of the J8 hold position. -/
  posForceEncodes : F → Bool
  render : F → String

end OpenArm.Real
