/-
  OpenArm.Control.Controller — the controller state and its shared bodies.

  `Controller` has the members of the C++ class under the same words.  Every
  public operation takes the state explicitly and returns the new state with
  its status; this file has the private bodies they share: `publish`,
  `materializeStop`, `latchFault`, the feedback predicates, and
  `setInterlock`, which is public and also the tail of the E-stop branch of
  `advance`.

  Main results:
    * `publish_of_room` / `publish_of_full` — a publish appends its event, or
      on a full ring fails closed.
-/
import OpenArm.Control.ArmRuntime

namespace OpenArm.Control

open OpenArm.Lib

variable {F : Type} [Floating F]

/-! ## §1. Plans. -/

/-- `MotionPlan::kMaxWaypoints`. -/
def kMaxWaypoints : Nat := 33

/-- `MotionPlan`.  A plan has at least its start and its target waypoint and
    at most `kMaxWaypoints`, so every index `advance` forms is in range. -/
structure MotionPlan (F : Type) where
  kind : PlanKind
  activeArmMask : Side → Bool
  manifestRevision : Nat
  modelRevision : Nat
  collisionSceneRevision : Nat
  controllerInstance : Nat
  verifyEpoch : Nat
  seedSeq : Side → Nat
  expiryNs : Nat
  durationNs : Nat
  startQ : Side → JointVector F
  targetQ : Side → JointVector F
  jointPositionTolerance : Side → F
  jointVelocityTolerance : Side → F
  tcpTolerance : Side → F
  targetTcp : Side → Vec3 F
  achievedTcp : Side → Vec3 F
  tcpResidual : Side → F
  collisionChecked : Bool
  contactMonitored : Bool
  contactGeometryPolicy : ContactPolicy
  contactPersistenceCycles : Nat
  contactThresholdNm : Side → JointVector F
  waypointCount : Nat
  waypointQ : Side → Nat → JointVector F
  waypointTimeNs : Nat → Nat
  two_le_count : 2 ≤ waypointCount
  count_le_max : waypointCount ≤ kMaxWaypoints

/-! ## §2. The controller. -/

/-- The size of the event array. -/
def kEventCapacity : Nat := 64

/-- `Controller`. -/
structure Controller (F : Type) where
  manifest : ManifestConfig F
  options : ControllerOptions
  arm : Side → ArmRuntime F
  lifecycle : Lifecycle
  nowNs : Nat
  verifyEpoch : Nat
  nonceCounter : Nat
  outstandingNonce : Nat
  outstandingChallengeExpiry : Nat
  nextCommandId : Nat
  commandId : Nat
  commandStartNs : Nat
  commandExpiryNs : Nat
  producerDeadlineNs : Nat
  settleStartNs : Nat
  settleFeedbackSeq : Side → Nat
  settleFeedbackIntervals : Nat
  activeStopKind : StopKind
  commandStarted : Bool
  settlingPublished : Bool
  deadmanActive : Bool
  instanceId : Nat
  contactReport : ContactReport F
  contactStreak : Nat
  lastClearanceM : F
  simContact : Side → SimContact F
  estopLatched : Bool
  executing : Option (MotionPlan F)
  events : Ring Event kEventCapacity

namespace Controller

/-- The constructor, for options it accepts. -/
def create (manifest : ManifestConfig F) (options : ControllerOptions) (instanceId : Nat) :
    Controller F where
  manifest := manifest
  options := options
  arm := fun side => .create (manifest.motor side)
  lifecycle := .closed
  nowNs := 0
  verifyEpoch := 0
  nonceCounter := 0x4f50454e41524d
  outstandingNonce := 0
  outstandingChallengeExpiry := 0
  nextCommandId := 1
  commandId := 0
  commandStartNs := 0
  commandExpiryNs := 0
  producerDeadlineNs := 0
  settleStartNs := 0
  settleFeedbackSeq := fun _ => 0
  settleFeedbackIntervals := 0
  activeStopKind := .disable
  commandStarted := false
  settlingPublished := false
  deadmanActive := true
  instanceId := instanceId
  contactReport := .zero
  contactStreak := 0
  lastClearanceM := Floating.lit 0
  simContact := fun _ =>
    { side := 0, enabled := false, centerM := fun _ => Floating.lit 0
      radiusM := Floating.lit 0, reactionGainNmPerRad := Floating.lit 0 }
  estopLatched := false
  executing := none
  events := Ring.empty Event.zero (by decide)

/-! ## §3. Feedback predicates. -/

def isVirtual (c : Controller F) : Bool := decide (c.options.backend = .virtual)

def feedbackIntegrity (c : Controller F) : ControlStatus :=
  if !(c.arm 0).completeFresh c.nowNs c.options.feedbackTimeoutNs ||
      !(c.arm 1).completeFresh c.nowNs c.options.feedbackTimeoutNs then .estale
  else if absDiff (c.arm 0).generationTimestamp (c.arm 1).generationTimestamp
      ≤ c.options.maxCrossBusSkewNs then .ok
  else .ecan

def fresh (c : Controller F) : Bool := decide (c.feedbackIntegrity = .ok)

def healthy (c : Controller F) : Bool :=
  (c.arm 0).faultFree c.nowNs c.options.feedbackTimeoutNs &&
    (c.arm 1).faultFree c.nowNs c.options.feedbackTimeoutNs

def disabled (c : Controller F) : Bool :=
  (c.arm 0).allDisabled c.nowNs c.options.feedbackTimeoutNs &&
    (c.arm 1).allDisabled c.nowNs c.options.feedbackTimeoutNs

/-- `start_pose_matches`, with `kStartDriftRad`. -/
def startPoseMatches (c : Controller F) (plan : MotionPlan F) : Bool :=
  (List.finRange 2).all fun side => (List.finRange 7).all fun joint =>
    !decide (Floating.lit 1.0e-3 <
      Floating.abs ((c.arm side).measuredQ joint - plan.startQ side joint))

def collisionAllowed (c : Controller F) : Bool :=
  c.isVirtual && decide (c.options.collisionPolicy = .virtualUnchecked)

/-! ## §4. Stopping, publishing and latching a fault. -/

/-- The loop body of `materialize_stop`. -/
def stopArm (c : Controller F) (enabledHold : Bool) (r : ArmRuntime F) : ArmRuntime F :=
  if c.isVirtual then
    if r.feedbackSeq ≠ 0 then r.materializeStop enabledHold c.nowNs
    -- without a measured pose there is nothing to hold
    else (r.setEnabled false).retirePendingFeedback
  else r.setEnabled false

def materializeStop (c : Controller F) (enabledHold : Bool) : Controller F :=
  { c with arm := fun side => c.stopArm enabledHold (c.arm side) }

/-- `executing_.reset()` and `command_id_ = 0U`. -/
def dropCommand (c : Controller F) : Controller F :=
  { c with executing := none, commandId := 0 }

/-- What `publish` does first on a full ring: forget the oldest event and
    fail closed. -/
def overflowStop (c : Controller F) : Controller F :=
  { ({ c with events := c.events.pop }.dropCommand.materializeStop false) with
    activeStopKind := .disable
    lifecycle := .fault }

/-- The event `publish` stores: on a full ring, that it overflowed. -/
def publishedEvent (c : Controller F) (kind : EventKind) (cause : ControlStatus)
    (commandId : Nat) : Event :=
  let overflow := c.events.isFull
  let c' := if overflow then c.overflowStop else c
  { kind := if overflow then .faulted else kind
    lifecycle := c'.lifecycle
    tNs := c'.nowNs
    commandId := commandId
    feedbackSeq := min (c'.arm 0).feedbackSeq (c'.arm 1).feedbackSeq
    cause := if overflow then .ebusy else cause }

/-- `publish`; the answer is `false` exactly on overflow. -/
def publish (c : Controller F) (kind : EventKind) (cause : ControlStatus) (commandId : Nat) :
    Controller F × Bool :=
  let overflow := c.events.isFull
  let c' := if overflow then c.overflowStop else c
  ({ c' with events := c'.events.push (c.publishedEvent kind cause commandId) }, !overflow)

/-- `return publish(...) ? status : OA_CONTROL_EBUSY`. -/
def publishReturning (c : Controller F) (kind : EventKind) (cause : ControlStatus)
    (commandId : Nat) (status : ControlStatus) : Controller F × ControlStatus :=
  let published := c.publish kind cause commandId
  (published.1, if published.2 then status else .ebusy)

/-- `outstanding_nonce_ = ++nonce_counter_`. -/
def renewNonce (c : Controller F) : Controller F :=
  { c with
    nonceCounter := wrap64 (c.nonceCounter + 1)
    outstandingNonce := wrap64 (c.nonceCounter + 1) }

/-- The condition under which `latch_fault` keeps an enabled hold. -/
def controlledStop (c : Controller F) (controlledStopAvailable : Bool) : Bool :=
  controlledStopAvailable && c.isVirtual && c.executing.isSome && c.fresh && c.healthy &&
    decide (c.activeStopKind = .controlled)

/-- `latch_fault`. -/
def latchFault (c : Controller F) (cause : ControlStatus)
    (controlledStopAvailable : Bool) : Controller F × ControlStatus :=
  let failedId := c.commandId
  let hold := c.controlledStop controlledStopAvailable
  let stopped := c.dropCommand.materializeStop hold
  ({ stopped with activeStopKind := .disable, lifecycle := .fault }.renewNonce).publishReturning
    .faulted cause failedId cause

/-- `set_interlock`. -/
def setInterlock (c : Controller F) (estopActive deadmanActive : Bool) :
    Controller F × ControlStatus :=
  let c := { c with deadmanActive := deadmanActive }
  if estopActive || !deadmanActive then
    let failedId := c.commandId
    let dropped := c.dropCommand
    let stopped :=
      if dropped.lifecycle = .closed ∨ dropped.lifecycle = .verifying then
        { dropped with
          arm := fun side => ((dropped.arm side).setEnabled false).retirePendingFeedback }
      else dropped.materializeStop false
    ({ stopped with lifecycle := .estop }.renewNonce).publishReturning .estop .eestop failedId
      .eestop
  else (c, .ok)

/-! ## §5. What a publish does. -/

theorem publish_of_room (c : Controller F) (kind : EventKind) (cause : ControlStatus)
    (id : Nat) (h : c.events.isFull = false) :
    ∃ event, c.publish kind cause id = ({ c with events := c.events.push event }, true) :=
  ⟨_, by simp only [publish, h]; rfl⟩

theorem publish_of_full (c : Controller F) (kind : EventKind) (cause : ControlStatus)
    (id : Nat) (h : c.events.isFull = true) :
    ∃ event, c.publish kind cause id
      = ({ c.overflowStop with events := c.overflowStop.events.push event }, false) :=
  ⟨_, by simp only [publish, h]; rfl⟩

/-- An event ring with room answers a publish with the intended status. -/
theorem publishReturning_of_room (c : Controller F) (kind : EventKind)
    (cause status : ControlStatus) (id : Nat) (h : c.events.count < kEventCapacity) :
    ∃ event, c.publishReturning kind cause id status =
      ({ c with events := c.events.push event }, status) := by
  have hroom : c.events.isFull = false := by
    rw [Bool.eq_false_iff, ne_eq, Ring.isFull_iff]
    omega
  exact ⟨_, by simp only [publishReturning, publish, hroom]; rfl⟩

end Controller

end OpenArm.Control
