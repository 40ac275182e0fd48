/-
  OpenArm.Runtime.Types — the records of the runtime facade.

  Statuses and their translation from the layers below, the options and
  requests of the facade header, and the evidence records the runtime keeps.
  Only virtual runtimes are modelled: the other backends have no controller
  and no worker.
-/
import OpenArm.Control.Operations

namespace OpenArm.Runtime

open OpenArm.Lib OpenArm.Control

variable {F : Type}

/-! ## §1. Codes. -/

/-- `oa_runtime_status`. -/
inductive RuntimeStatus where
  | ok | einval | eabi | estate | estale | etimeout | ebusy | eio | eidentity | epermission
  | eunsupported | efault | enomem | ecorrupt | ecollision | eunreachable | edurability
  deriving DecidableEq, Repr

/-- `oa_commission_status`. -/
inductive CommissionStatus where
  | ok | einval | eabi | estate | estale | einterlock | elimit | eunstable | erepeatability
  | eunsupported | enomem | efault
  deriving DecidableEq, Repr

/-- `OA_RUNTIME_FACILITY_*`, those the facade reports. -/
inductive Facility where
  | runtime | model | commission | control
  deriving DecidableEq, Repr

/-- `map_control`. -/
def mapControl : ControlStatus → RuntimeStatus
  | .ok => .ok
  | .eabi => .eabi
  | .estate => .estate
  | .estale => .estale
  | .etimeout => .etimeout
  | .ebusy => .ebusy
  | .eidentity => .eidentity
  | .eio | .ecan => .eio
  | .enomem => .enomem
  | .eunsupported => .eunsupported
  | .ecollision => .ecollision
  | .eunreachable => .eunreachable
  | .efault | .eestop | .elimit => .efault
  | .einval => .einval

/-- `map_commission`. -/
def mapCommission : CommissionStatus → RuntimeStatus
  | .ok => .ok
  | .eabi => .eabi
  | .estate => .estate
  | .estale => .estale
  | .eunsupported => .eunsupported
  | .enomem => .enomem
  | .efault | .einterlock | .elimit | .eunstable | .erepeatability => .efault
  | .einval => .einval

/-- The translation keeps failures failures. -/
@[simp] theorem mapControl_eq_ok (status : ControlStatus) :
    mapControl status = .ok ↔ status = .ok := by
  cases status <;> simp [mapControl]

@[simp] theorem mapCommission_eq_ok (status : CommissionStatus) :
    mapCommission status = .ok ↔ status = .ok := by
  cases status <;> simp [mapCommission]

/-- The code of the layer below in an error detail. -/
inductive LowerCode where
  | none
  | control (status : ControlStatus)
  | commission (status : CommissionStatus)
  deriving DecidableEq, Repr

/-- `oa_runtime_error_detail`. -/
structure ErrorDetail where
  status : RuntimeStatus
  facility : Facility
  lower : LowerCode := .none
  deriving DecidableEq, Repr

/-- `RuntimeData.owner`: 0, 1 and 2. -/
inductive Owner where
  | free | motion | calibration
  deriving DecidableEq, Repr

/-- `OA_RUNTIME_CLOCK_MONOTONIC`. -/
def clockMonotonic : Nat := 0x4f41524d

/-- `OA_RUNTIME_UNITS_SI_V1`. -/
def unitsSiV1 : Nat := 1

/-- `OA_RUNTIME_FRAME_OPENARM_BODY_LINK0`. -/
def frameBodyLink0 : Nat := 1

/-- `OA_RUNTIME_ORIENTATION_FREE`. -/
def orientationFree : Nat := 1

/-- `OA_RUNTIME_COLLISION_REJECT_ALL` and `_VIRTUAL_UNCHECKED`. -/
def collisionPolicyCode : CollisionPolicy → Nat
  | .rejectAll => 1
  | .virtualUnchecked => 2

/-! ## §2. Options and manifest. -/

/-- `oa_runtime_options` of a virtual runtime, as `runtime_options_status`
    accepts them. -/
structure RuntimeOptions where
  allowUncheckedVirtualMotion : Bool
  cycleNs : Nat
  feedbackTimeoutNs : Nat
  maximumCrossBusSkewNs : Nat
  collisionSceneRevision : Nat
  cycle_ge : 1000000 ≤ cycleNs
  cycle_le : cycleNs ≤ 1000000000
  cycle_le_timeout : cycleNs ≤ feedbackTimeoutNs
  skew_pos : 0 < maximumCrossBusSkewNs

namespace RuntimeOptions

/-- `collision_policy_for`. -/
def collisionPolicy (o : RuntimeOptions) : CollisionPolicy :=
  if o.allowUncheckedVirtualMotion then .virtualUnchecked else .rejectAll

theorem unchecked_of_policy {o : RuntimeOptions} (h : o.collisionPolicy = .virtualUnchecked) :
    o.allowUncheckedVirtualMotion = true := by
  unfold collisionPolicy at h
  split at h
  · assumption
  · cases h

/-- The controller options of the runtime; the controller refuses unchecked
    motion without a scene revision. -/
def controllerOptions (o : RuntimeOptions) : Option ControllerOptions :=
  if h : o.allowUncheckedVirtualMotion = true → o.collisionSceneRevision ≠ 0 then
    some
      { backend := .virtual
        collisionPolicy := o.collisionPolicy
        cycleNs := o.cycleNs
        feedbackTimeoutNs := o.feedbackTimeoutNs
        maxCrossBusSkewNs := o.maximumCrossBusSkewNs
        collisionSceneRevision := o.collisionSceneRevision
        cycle_ne := by have := o.cycle_ge; omega
        cycle_le_timeout := o.cycle_le_timeout
        skew_ne := by have := o.skew_pos; omega
        cycle_le := o.cycle_le.trans (by decide)
        unchecked_virtual := fun hbackend => by cases hbackend
        unchecked_scene := fun hpolicy => h (unchecked_of_policy hpolicy) }
  else none

end RuntimeOptions

/-- The manifest a runtime is created from: the control configuration, the
    motor serials, and the coordinate identity the runtime derives from it. -/
structure RuntimeManifest (F : Type) where
  config : ManifestConfig F
  serial : Side → Joint → String
  coordinateIdentityDigest : String

/-! ## §3. Requests.

A request starts with the outcome of its pointer, size and version checks.
The expiry of a move is in the facade clock; every other member is handed to
the controller unchanged. -/

/-- `oa_runtime_joint_move`. -/
structure JointRequest (F : Type) extends JointMove F where
  recordValid : Bool
  outValid : Bool
  clockId : Nat
  unitsId : Nat
  requiredModelRevision : Nat
  requiredTcpRevision : Nat
  collisionSceneRevision : Nat
  requiredCollisionPolicy : Nat
  requiredCoordinateIdentity : String

/-- The facade members the two Cartesian requests share. -/
structure BodyBinding where
  recordValid : Bool
  outValid : Bool
  clockId : Nat
  unitsId : Nat
  frameId : Nat
  orientationPolicy : Nat
  requiredModelRevision : Nat
  requiredTcpRevision : Side → Nat
  requiredCollisionPolicy : Nat
  requiredCoordinateIdentity : String

/-- A call of one of the three planners. -/
inductive PlanRequest (F : Type) where
  /-- `oa_runtime_plan_joint`. -/
  | joint (request : JointRequest F)
  /-- `oa_runtime_plan_paired_tcp_body`. -/
  | paired (binding : BodyBinding) (move : PairedTcpMove F)
  /-- `oa_runtime_plan_converge_tcp_body`. -/
  | converge (binding : BodyBinding) (move : ConvergeTcpMove F)

/-- `oa_runtime_execute_request`. -/
structure FacadeExecute where
  recordValid : Bool
  outValid : Bool
  clockId : Nat
  startNs : Nat
  expiryNs : Nat
  producerDeadlineNs : Nat
  stopKind : StopKind

/-- What `begin` reads of `oa_commission_manual_options` and of
    `oa_commission_recipe`; a text without terminator is `none`. -/
structure CalibrationRequest where
  manual : Bool
  recordValid : Bool
  outValid : Bool
  side : Nat
  joint : Nat
  expectedRevision : Nat
  motorSerial : Option String

/-! ## §4. Evidence kept by the runtime. -/

/-- `RuntimeData::FeedbackClockEvidence`. -/
structure FeedbackClockEvidence where
  feedbackSeq : Nat
  controllerMonotonicNs : Nat
  runtimeMonotonicNs : Nat
  deriving DecidableEq, Repr

/-- `RuntimeData::EventEvidence`. -/
structure EventEvidence where
  source : Control.Event
  runtimeMonotonicNs : Nat
  deriving DecidableEq, Repr

/-- `translate_future_deadline`. -/
def translateFutureDeadline (facadeDeadline facadeNow controllerNow : Nat) : Option Nat :=
  if facadeDeadline ≤ facadeNow then none
  else
    let remaining := facadeDeadline - facadeNow
    if maxU64 - controllerNow < remaining then none else some (controllerNow + remaining)

theorem translateFutureDeadline_eq {deadline facadeNow controllerNow translated : Nat}
    (h : translateFutureDeadline deadline facadeNow controllerNow = some translated) :
    facadeNow < deadline ∧ translated = controllerNow + (deadline - facadeNow) := by
  unfold translateFutureDeadline at h
  split at h
  · cases h
  · dsimp only at h
    split at h
    · cases h
    · simp only [Option.some.injEq] at h
      omega

/-- The moment a lag of the controller clock maps to in the facade clock. -/
def translateLag (sourceNs controllerNow facadeNow : Nat) : Nat :=
  let lag := if sourceNs ≤ controllerNow then controllerNow - sourceNs else 0
  if lag ≤ facadeNow then facadeNow - lag else 1

end OpenArm.Runtime
