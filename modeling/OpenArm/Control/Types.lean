/-
  OpenArm.Control.Types — the records of the control interface.

  Statuses, lifecycle states, event kinds and the request and report
  records of the control header.  `struct_size` and `abi_version` are
  checked by the C wrappers before the controller sees a record, so the
  records here start after them.

  A field the controller itself range-checks (a side, a stop kind) keeps a
  type that can hold the out-of-range value.
-/
import Mathlib
import OpenArm.Lib.Floating

namespace OpenArm.Control

open OpenArm.Lib

/-! ## §1. Codes. -/

/-- `oa_control_status`. -/
inductive ControlStatus where
  | ok | einval | eabi | estate | estale | etimeout | ecan | efault | eestop
  | elimit | eidentity | eunreachable | ecollision | ebusy | eio | enomem
  | eunsupported
  deriving DecidableEq, Repr

/-- `OA_LIFECYCLE_*`. -/
inductive Lifecycle where
  | closed | verifying | disarmed | arming | armedIdle | executing | stopping
  | fault | estop
  deriving DecidableEq, Repr

/-- `OA_EVENT_*`; a value-initialised slot of the event array holds kind 0. -/
inductive EventKind where
  | unset | verified | armed | started | completed | stopped | faulted
  | disarmed | queued | settling | aborted | estop
  deriving DecidableEq, Repr

/-- `OA_PLAN_*`. -/
inductive PlanKind where
  | joint | pairedTcp | centroidTcp | mirroredTcp | convergeTcp
  deriving DecidableEq, Repr

/-- `OA_STOP_*`; the field is a plain word, so any other value can arrive. -/
inductive StopKind where
  | disable | controlled
  | other (raw : Nat)
  deriving DecidableEq, Repr

/-- `OA_STOP_CAUSE_*`. -/
inductive StopCause where
  | none | contact | keepout | planComplete | estop
  deriving DecidableEq, Repr

/-- `OA_BACKEND_*`; the constructor refuses every other value. -/
inductive Backend where
  | virtual | physical
  deriving DecidableEq, Repr

/-- `OA_COLLISION_*`; the constructor refuses every other value. -/
inductive CollisionPolicy where
  | rejectAll | virtualUnchecked
  deriving DecidableEq, Repr

/-- `OA_COLLISION_CONTACT_*`. -/
inductive ContactPolicy where
  | none | terminalCaps
  deriving DecidableEq, Repr

/-! ## §2. Sides, joints and vectors. -/

/-- `OA_LEFT` is 0 and `OA_RIGHT` is 1. -/
abbrev Side := Fin 2

abbrev Joint := Fin 7

abbrev JointVector (F : Type) := Joint → F

abbrev Vec3 (F : Type) := Fin 3 → F

/-- A joint bit mask; `kAllJoints` has the seven joint bits set. -/
abbrev JointMask := BitVec 32

def kAllJoints : JointMask := 0x7f

/-- The mask with the bit of every joint that satisfies `p`. -/
def jointMask (p : Joint → Bool) : JointMask :=
  (List.finRange 7).foldl
    (fun mask joint => if p joint then mask ||| (1#32 <<< joint.val) else mask) 0

/-- `(mask & (1U << joint)) != 0U`. -/
def hasJoint (mask : JointMask) (joint : Joint) : Bool := mask.getLsbD joint

/-- `mask & ~kAllJoints` is zero: no bit beyond the seven joints. -/
def withinJoints (mask : JointMask) : Bool := (mask &&& ~~~kAllJoints) == 0

/-- A statement about all joint predicates is one about seven truth values. -/
private theorem forall_joint_bool {P : (Joint → Bool) → Prop}
    (h : ∀ b₀ b₁ b₂ b₃ b₄ b₅ b₆ : Bool, P ![b₀, b₁, b₂, b₃, b₄, b₅, b₆])
    (p : Joint → Bool) : P p := by
  have hp : p = ![p 0, p 1, p 2, p 3, p 4, p 5, p 6] := by
    funext joint
    match joint with
    | 0 | 1 | 2 | 3 | 4 | 5 | 6 => rfl
  rw [hp]
  exact h _ _ _ _ _ _ _

/-- The mask of a predicate has exactly the bits of the joints it selects. -/
theorem hasJoint_jointMask (p : Joint → Bool) : ∀ j, hasJoint (jointMask p) j = p j :=
  forall_joint_bool (P := fun p => ∀ j, hasJoint (jointMask p) j = p j) (by decide +kernel) p

theorem jointMask_eq_all (p : Joint → Bool) : jointMask p = kAllJoints ↔ ∀ j, p j = true :=
  forall_joint_bool (P := fun p => jointMask p = kAllJoints ↔ ∀ j, p j = true)
    (by decide +kernel) p

theorem jointMask_eq_zero (p : Joint → Bool) : jointMask p = 0 ↔ ∀ j, p j = false :=
  forall_joint_bool (P := fun p => jointMask p = 0 ↔ ∀ j, p j = false) (by decide +kernel) p

@[simp] theorem hasJoint_all (j : Joint) : hasJoint kAllJoints j = true := by
  revert j; decide

/-! ## §3. Configuration. -/

/-- The members of `oa_motor_config` that the controller reads. -/
structure MotorConfig (F : Type) where
  embeddedMotorId : Nat
  qScale : F
  qOffsetRad : F
  lowerRad : F
  upperRad : F
  maxVelocityRadS : F
  maxAccelerationRadS2 : F
  maxJerkRadS3 : F
  pmaxRad : F
  vmaxRadS : F
  tmaxNm : F

/-- `oa_manifest_config`: revisions and the motors of both arms. -/
structure ManifestConfig (F : Type) where
  manifestRevision : Nat
  modelRevision : Nat
  motor : Side → Joint → MotorConfig F

/-- `oa_controller_options`, with what the `Controller` constructor
    requires of them. -/
structure ControllerOptions where
  backend : Backend
  collisionPolicy : CollisionPolicy
  cycleNs : Nat
  feedbackTimeoutNs : Nat
  maxCrossBusSkewNs : Nat
  collisionSceneRevision : Nat
  cycle_ne : cycleNs ≠ 0
  cycle_le_timeout : cycleNs ≤ feedbackTimeoutNs
  skew_ne : maxCrossBusSkewNs ≠ 0
  cycle_le : cycleNs ≤ maxU64 / 3
  unchecked_virtual : backend = .physical → collisionPolicy ≠ .virtualUnchecked
  unchecked_scene : collisionPolicy = .virtualUnchecked → collisionSceneRevision ≠ 0

/-- Replacing the scene revision by a non-zero one keeps the options valid. -/
def ControllerOptions.withSceneRevision (o : ControllerOptions) (revision : Nat)
    (h : revision ≠ 0) : ControllerOptions :=
  { o with collisionSceneRevision := revision, unchecked_scene := fun _ => h }

/-! ## §4. Requests. -/

/-- `oa_joint_move`. -/
structure JointMove (F : Type) where
  expiryNs : Nat
  requiredFeedbackSeq : Nat
  side : Nat
  joint : Nat
  targetRad : F
  velocityScale : F
  accelerationScale : F
  jerkScale : F
  positionTolRad : F
  velocityTolRadS : F

/-- The members every bimanual Cartesian request shares. -/
structure TcpMove (F : Type) where
  expiryNs : Nat
  requiredFeedbackSeq : Side → Nat
  velocityScale : F
  accelerationScale : F
  jerkScale : F
  tcpTolM : F
  collisionSceneRevision : Nat
  maxBranchStepRad : F
  minSingularValue : F

/-- `oa_paired_tcp_move`. -/
structure PairedTcpMove (F : Type) extends TcpMove F where
  leftTcpM : Vec3 F
  rightTcpM : Vec3 F

/-- `oa_centroid_tcp_move`. -/
structure CentroidTcpMove (F : Type) extends TcpMove F where
  targetCentroidM : Vec3 F

/-- `oa_mirrored_tcp_move`. -/
structure MirroredTcpMove (F : Type) extends TcpMove F where
  leadSide : Nat
  leadTcpM : Vec3 F

/-- `oa_converge_tcp_move`. -/
structure ConvergeTcpMove (F : Type) extends TcpMove F where
  targetM : Vec3 F
  contactTorqueNm : JointVector F
  contactTorqueFraction : F
  contactPersistenceCycles : Nat
  stopDistanceM : F
  minimumProgressM : F

/-- `oa_execute_request`. -/
structure ExecuteRequest where
  startNs : Nat
  expiryNs : Nat
  producerDeadlineNs : Nat
  stopKind : StopKind
  deriving DecidableEq, Repr

/-- `oa_reset_request`. -/
structure ResetRequest where
  verifyEpoch : Nat
  nonce : Nat
  deriving DecidableEq, Repr

/-- `oa_sim_fault`. -/
structure SimFault where
  side : Nat
  freezeMask : JointMask
  dropMask : JointMask
  faultMask : JointMask
  faultStatus : Nat
  commandFailMask : JointMask
  feedbackDelayNs : Nat

/-- `oa_sim_contact`. -/
structure SimContact (F : Type) where
  side : Nat
  enabled : Bool
  centerM : Vec3 F
  radiusM : F
  reactionGainNmPerRad : F

/-- `oa_sim_state`. -/
structure SimState (F : Type) where
  side : Nat
  q : JointVector F
  dq : JointVector F

/-! ## §5. Reports. -/

/-- `oa_arm_challenge`. -/
structure ArmChallenge where
  verifyEpoch : Nat
  nonce : Nat
  expiryNs : Nat
  deriving DecidableEq, Repr

/-- `oa_verify_report`. -/
structure VerifyReport where
  verifyEpoch : Nat
  verifiedMask : Nat
  failureMask : Nat
  deriving DecidableEq, Repr

/-- `oa_event`. -/
structure Event where
  kind : EventKind
  lifecycle : Lifecycle
  tNs : Nat
  commandId : Nat
  feedbackSeq : Nat
  cause : ControlStatus
  deriving DecidableEq, Repr

/-- A value-initialised event. -/
def Event.zero : Event := ⟨.unset, .closed, 0, 0, 0, .ok⟩

/-- `oa_arm_snapshot`. -/
structure ArmSnapshot (F : Type) where
  feedbackSeq : Nat
  tNs : Nat
  expectedMask : JointMask
  freshMask : JointMask
  faultMask : JointMask
  q : JointVector F
  dq : JointVector F
  tau : JointVector F
  rawQ : JointVector F
  rawDq : JointVector F
  rawTau : JointVector F
  status : Joint → Nat
  mosC : Joint → Nat
  coilC : Joint → Nat

/-- `oa_snapshot`. -/
structure Snapshot (F : Type) where
  arm : Side → ArmSnapshot F
  manifestRevision : Nat
  modelRevision : Nat
  maxCrossBusSkewNs : Nat
  lifecycle : Lifecycle

/-- `oa_contact_report`. -/
structure ContactReport (F : Type) where
  cause : StopCause
  contactDetected : Bool
  contactSideMask : Side → Bool
  contactJointMask : Side → JointMask
  keepoutViolation : Nat
  keepoutSide : Nat
  keepoutSegmentA : Nat
  keepoutSegmentB : Nat
  stopFeedbackSeq : Side → Nat
  stopMonotonicNs : Nat
  contactTorqueNm : Side → JointVector F
  thresholdTorqueNm : Side → JointVector F
  stoppedQRad : Side → JointVector F
  stoppedTcpM : Side → Vec3 F
  minimumClearanceM : F

/-- A value-initialised contact report. -/
def ContactReport.zero {F : Type} [Floating F] : ContactReport F where
  cause := .none
  contactDetected := false
  contactSideMask := fun _ => false
  contactJointMask := fun _ => 0
  keepoutViolation := 0
  keepoutSide := 0
  keepoutSegmentA := 0
  keepoutSegmentB := 0
  stopFeedbackSeq := fun _ => 0
  stopMonotonicNs := 0
  contactTorqueNm := fun _ _ => Floating.lit 0
  thresholdTorqueNm := fun _ _ => Floating.lit 0
  stoppedQRad := fun _ _ => Floating.lit 0
  stoppedTcpM := fun _ _ => Floating.lit 0
  minimumClearanceM := Floating.lit 0

/-! ## §6. Kinematics and collision evaluation. -/

/-- `KinematicResult`. -/
structure KinematicResult (F : Type) where
  jointXyz : Joint → Vec3 F
  jointAxis : Joint → Vec3 F
  tcpTransform : Fin 16 → F
  tcpXyz : Vec3 F

/-- `IkResult`. -/
structure IkResult (F : Type) where
  q : JointVector F
  achieved : Vec3 F
  residual : F
  minSingularValue : F

/-- `KeepoutStatus`: the members of `oa_collision_report` and its contact
    evidence that the controller reads. -/
structure KeepoutStatus (F : Type) where
  clear : Bool
  violation : Nat
  side : Nat
  segmentA : Nat
  segmentB : Nat
  minimumClearanceM : F
  terminalPairActive : Bool
  terminalPairClearanceM : F
  tcpSeparationM : F
  clawContactActive : Bool
  clawHandGapM : F
  minimumOtherClawGapM : F

/-- The answer of `oa_collision_evaluate_scoped_fk_with_threshold`: the
    report it filled and whether it returned `OA_MODEL_OK`. -/
structure CollisionAnswer (F : Type) where
  ok : Bool
  report : KeepoutStatus F

/-- The model library the controller calls.  Every function is deterministic
    and keeps no state; nothing else is assumed of it. -/
structure ModelLibrary (F : Type) where
  /-- `oa_fk` through `forward`. -/
  forward : Side → JointVector F → Option (KinematicResult F)
  /-- `oa_ik_position_v2` through `inverse`: target and seed. -/
  inverse : Side → Vec3 F → JointVector F → Option (IkResult F)
  /-- `oa_collision_evaluate_scoped_fk_with_threshold` on two arm poses whose
  forward kinematics succeeded: left pose, right pose, required clearance,
  contact policy. -/
  collision : JointVector F → JointVector F → F → ContactPolicy → CollisionAnswer F

/-- `oa_collision_intervention_clearance_m`. -/
def interventionClearanceM {F : Type} [Floating F] : F := Floating.lit 0.010

/-- `oa_control_default_contact_torque_fraction`. -/
def defaultContactTorqueFraction {F : Type} [Floating F] : F := Floating.lit 0.25

/-- `oa_control_default_contact_persistence_cycles`. -/
def defaultContactPersistenceCycles : Nat := 3

end OpenArm.Control
