/-
  OpenArm.Control.Operations — the public interface as a transition system.

  The remaining public operations of the controller, and `World`: one
  controller together with the process-wide E-stop latch.  Every operation
  runs under the controller's mutex and reads the latch at most once, so an
  operation is one step and the latch moves between operations.
-/
import OpenArm.Control.Cycle
import OpenArm.Lib.Transition

namespace OpenArm.Control

open OpenArm.Lib

variable {F : Type} [Floating F]

namespace Controller

/-! ## §1. Verification and arming. -/

/-- `open_and_verify`. -/
def openAndVerify (c : Controller F) : Controller F × ControlStatus × Option VerifyReport :=
  if c.lifecycle ≠ .closed then (c, .estate, none)
  else if c.options.backend = .physical then
    (c, .eunsupported, some ⟨0, 0, 3⟩)
  else
    let verifiedQ : Side → JointVector F := fun side =>
      if c.verifyEpoch = 0 then ArmRuntime.zeroVector else (c.arm side).measuredQ
    let verified :=
      { c with
        arm := fun side =>
          ((c.arm side).setEnabled false).forceState (verifiedQ side) ArmRuntime.zeroVector
            c.nowNs
        verifyEpoch := wrap64 (c.verifyEpoch + 1)
        lifecycle := .disarmed }
    let answer := verified.publishReturning .verified .ok 0 .ok
    (answer.1, answer.2, some ⟨verified.verifyEpoch, 3, 0⟩)

/-- `snapshot`. -/
def snapshot (c : Controller F) : ControlStatus × Option (Snapshot F) :=
  if c.lifecycle = .closed ∨ c.lifecycle = .verifying then (.estate, none)
  else
    let arm : Side → ArmSnapshot F := fun side =>
      (c.arm side).snapshot c.nowNs c.options.feedbackTimeoutNs
    (.ok,
      some
        { arm := arm
          manifestRevision := c.manifest.manifestRevision
          modelRevision := c.manifest.modelRevision
          maxCrossBusSkewNs := absDiff (arm 0).tNs (arm 1).tNs
          lifecycle := c.lifecycle })

/-- `kinematics`: the measured joints and their forward kinematics. -/
def kinematics (c : Controller F) (L : ModelLibrary F) (side requiredSeq : Nat) :
    ControlStatus × Option (JointVector F × KinematicResult F) :=
  match sideOf side with
  | none => (.einval, none)
  | some side =>
    if !c.fresh then (.estale, none)
    else if (c.arm side).feedbackSeq ≠ requiredSeq then (.estale, none)
    else
      match L.forward side (c.arm side).measuredQ with
      | none => (.efault, none)
      | some fk => (.ok, some ((c.arm side).measuredQ, fk))

/-- `challenge`. -/
def challenge (c : Controller F) : Controller F × ControlStatus × Option ArmChallenge :=
  let resetChallenge := decide (c.lifecycle = .fault) || decide (c.lifecycle = .estop)
  if c.lifecycle ≠ .disarmed ∧ resetChallenge = false then (c, .estate, none)
  else if !resetChallenge && (!c.fresh || !c.healthy || !c.disabled) then
    if !c.healthy then
      let faulted := c.latchFault .efault false
      (faulted.1, faulted.2, none)
    else (c, .estale, none)
  else
    let c' :=
      { c.renewNonce with outstandingChallengeExpiry := wrap64 (c.nowNs + 1000000000) }
    (c', .ok, some ⟨c'.verifyEpoch, c'.outstandingNonce, c'.outstandingChallengeExpiry⟩)

/-- The identity checks of `arm`. -/
def challengeMismatch (c : Controller F) (challenge : ArmChallenge) : Bool :=
  challenge.verifyEpoch != c.verifyEpoch || challenge.nonce != c.outstandingNonce ||
    c.outstandingNonce == 0 || challenge.expiryNs != c.outstandingChallengeExpiry ||
    decide (c.outstandingChallengeExpiry < c.nowNs)

/-- What an accepted `arm` writes before it publishes. -/
def energize (c : Controller F) : Controller F :=
  { c with
    arm := fun side =>
      let r := (c.arm side).setEnabled true
      r.forceState r.measuredQ ArmRuntime.zeroVector c.nowNs
    outstandingNonce := 0
    lifecycle := .armedIdle }

/-- `arm`. -/
def armWith (c : Controller F) (challenge : ArmChallenge) : Controller F × ControlStatus :=
  if c.lifecycle ≠ .disarmed then (c, .estate)
  else if c.challengeMismatch challenge then (c, .eidentity)
  else if !c.fresh then (c, .estale)
  else if !c.healthy || !c.disabled || !c.deadmanActive then
    c.latchFault (if !c.deadmanActive then .eestop else .efault) false
  else c.energize.publishReturning .armed .ok 0 .ok

/-! ## §2. Simulation inputs. -/

/-- `set_sim_fault`. -/
def setSimFault (c : Controller F) (fault : SimFault) : Controller F × ControlStatus :=
  if !c.isVirtual then (c, .eunsupported)
  else
    match sideOf fault.side with
    | none => (c, .einval)
    | some side =>
      if !withinJoints fault.freezeMask || !withinJoints fault.dropMask ||
          !withinJoints fault.faultMask || !withinJoints fault.commandFailMask ||
          (fault.faultMask != 0 && fault.faultStatus != 0 &&
            (decide (fault.faultStatus < 8) || decide (14 < fault.faultStatus))) then
        (c, .einval)
      else
        let status := if fault.faultStatus = 0 then 8 else fault.faultStatus % 256
        let injected := (c.arm side).setInjection fault.freezeMask fault.dropMask
          fault.faultMask status fault.commandFailMask fault.feedbackDelayNs
        let r :=
          if fault.faultMask != 0 then
            injected.forceState injected.measuredQ injected.measuredDq c.nowNs
          else injected
        ({ c with arm := Function.update c.arm side r }, .ok)

/-- `set_sim_state`. -/
def setSimState (c : Controller F) (state : SimState F) : Controller F × ControlStatus :=
  if !c.isVirtual then (c, .eunsupported)
  else
    match sideOf state.side with
    | none => (c, .einval)
    | some side =>
      let refused := (List.finRange 7).any fun joint =>
        let motor := c.manifest.motor side joint
        !Floating.isFinite (state.q joint) || !Floating.isFinite (state.dq joint) ||
          outsideMotor motor (state.q joint) ||
          decide (motor.maxVelocityRadS < Floating.abs (state.dq joint))
      if refused then (c, .elimit)
      else
        ({ c with
            arm := Function.update c.arm side
              ((c.arm side).forceState state.q state.dq c.nowNs) }, .ok)

/-- `set_sim_contact`. -/
def setSimContact (c : Controller F) (contact : SimContact F) : Controller F × ControlStatus :=
  if !c.isVirtual then (c, .eunsupported)
  else
    match sideOf contact.side with
    | none => (c, .einval)
    | some side =>
      if contact.enabled &&
          (!finitePoint contact.centerM || notPositive contact.radiusM ||
            negativeOrNonFinite contact.reactionGainNmPerRad) then (c, .einval)
      else
        let stored := { c with simContact := Function.update c.simContact side contact }
        if contact.enabled then (stored, .ok)
        else
          ({ stored with arm := Function.update stored.arm side (stored.arm side).clearContact },
            .ok)

/-! ## §3. Supervision. -/

/-- `heartbeat`. -/
def heartbeat (c : Controller F) (commandId producerDeadlineNs : Nat) :
    Controller F × ControlStatus :=
  if c.lifecycle ≠ .executing ∨ commandId = 0 ∨ commandId ≠ c.commandId then (c, .estate)
  else if producerDeadlineNs ≤ c.nowNs then c.latchFault .estale true
  else ({ c with producerDeadlineNs := producerDeadlineNs }, .ok)

/-- `set_collision_scene_revision`. -/
def setCollisionSceneRevision (c : Controller F) (revision : Nat) :
    Controller F × ControlStatus :=
  if h : revision = 0 then (c, .einval)
  else if !c.isVirtual then (c, .eunsupported)
  else if c.lifecycle = .executing then (c, .ebusy)
  else ({ c with options := c.options.withSceneRevision revision h }, .ok)

/-- The rest of `stop` once an executing command was reported aborted. -/
def finishStop (c : Controller F) (stopKind : StopKind) (stoppedId : Nat) :
    Controller F × ControlStatus :=
  let dropped := c.dropCommand
  let stopped :=
    if stopKind = .disable then { dropped.materializeStop false with lifecycle := .disarmed }
    else { dropped.materializeStop true with lifecycle := .armedIdle }
  { stopped with activeStopKind := .disable }.publishReturning .stopped .ok stoppedId .ok

/-- `stop`. -/
def stop (c : Controller F) (stopKind : StopKind) : Controller F × ControlStatus :=
  if stopKind ≠ .disable ∧ stopKind ≠ .controlled then (c, .einval)
  else if c.lifecycle ≠ .executing ∧ c.lifecycle ≠ .armedIdle then (c, .estate)
  else
    let stopping := { c with lifecycle := .stopping }
    let stoppedId := stopping.commandId
    if stopping.executing.isSome then
      let aborted := stopping.publish .aborted .ok stoppedId
      if aborted.2 then aborted.1.finishStop stopKind stoppedId else (aborted.1, .ebusy)
    else stopping.finishStop stopKind stoppedId

/-- `disarm`. -/
def disarm (c : Controller F) (deadlineNs : Nat) : Controller F × ControlStatus :=
  if deadlineNs < c.nowNs then (c, .etimeout)
  else if c.lifecycle ≠ .armedIdle ∧ c.lifecycle ≠ .executing ∧ c.lifecycle ≠ .disarmed then
    (c, .estate)
  else
    { c.dropCommand.materializeStop false with lifecycle := .disarmed }.publishReturning
      .disarmed .ok 0 .ok

/-- `reset`. -/
def reset (c : Controller F) (request : ResetRequest) : Controller F × ControlStatus :=
  if c.lifecycle ≠ .fault ∧ c.lifecycle ≠ .estop then (c, .estate)
  else if request.verifyEpoch ≠ c.verifyEpoch ∨ request.nonce ≠ c.outstandingNonce ∨
      request.nonce = 0 ∨ c.outstandingChallengeExpiry < c.nowNs then (c, .eidentity)
  else
    ({ c with
        arm := fun side =>
          (((c.arm side).setInjection 0 0 0 0 0 0).setEnabled false).retirePendingFeedback
        verifyEpoch := wrap64 (c.verifyEpoch + 1)
        outstandingNonce := 0
        lifecycle := .closed }, .ok)

/-- `poll_event`. -/
def pollEvent (c : Controller F) : Controller F × ControlStatus × Option Event :=
  if c.events.isEmpty then (c, .etimeout, none)
  else ({ c with events := c.events.pop }, .ok, some c.events.front)

end Controller

/-! ## §4. The transition system. -/

/-- One call of the public interface. -/
inductive Op (F : Type) where
  | openAndVerify
  | snapshot
  | kinematics (side requiredSeq : Nat)
  | challenge
  | arm (challenge : ArmChallenge)
  | planJoint (request : JointMove F)
  | planPaired (request : PairedTcpMove F)
  | planCentroid (request : CentroidTcpMove F)
  | planMirrored (request : MirroredTcpMove F)
  | planConverge (request : ConvergeTcpMove F)
  | contactReport
  | setSimContact (contact : SimContact F)
  | execute (plan : MotionPlan F) (request : ExecuteRequest)
  | advance (monotonicNs : Nat)
  | setSimFault (fault : SimFault)
  | setSimState (state : SimState F)
  | heartbeat (commandId producerDeadlineNs : Nat)
  | setInterlock (estopActive deadmanActive : Bool)
  | setCollisionSceneRevision (revision : Nat)
  | stop (stopKind : StopKind)
  | disarm (deadlineNs : Nat)
  | reset (request : ResetRequest)
  | pollEvent
  | estopAssert
  | estopClear

/-- What a call hands back besides its status. -/
inductive Output (F : Type) where
  | none
  | verified (report : VerifyReport)
  | snapshot (snapshot : Snapshot F)
  | kinematics (q : JointVector F) (result : KinematicResult F)
  | challenge (challenge : ArmChallenge)
  | plan (plan : MotionPlan F)
  | report (report : ContactReport F)
  | commandId (id : Nat)
  | event (event : Event)

/-- The status and the output of a call. -/
structure Response (F : Type) where
  status : ControlStatus
  output : Output F

/-- One controller and the process-wide E-stop latch. -/
structure World (F : Type) where
  latch : Bool
  controller : Controller F

/-- The answer of an operation without an out-parameter. -/
def plain (w : World F) (out : Controller F × ControlStatus) : World F × Response F :=
  ({ w with controller := out.1 }, ⟨out.2, .none⟩)

/-- The answer of an operation with an out-parameter. -/
def withOutput {β : Type} (w : World F) (out : Controller F × ControlStatus × Option β)
    (wrap : β → Output F) : World F × Response F :=
  ({ w with controller := out.1 }, ⟨out.2.1, (out.2.2.map wrap).getD .none⟩)

/-- The answer of a planner. -/
def planned (w : World F) (out : Controller F × Except ControlStatus (MotionPlan F)) :
    World F × Response F :=
  ({ w with controller := out.1 },
    match out.2 with
    | .ok plan => ⟨.ok, .plan plan⟩
    | .error status => ⟨status, .none⟩)

/-- The answer of `execute`: the id only on `OA_CONTROL_OK`. -/
def executed (w : World F) (out : Controller F × ControlStatus) : World F × Response F :=
  ({ w with controller := out.1 },
    ⟨out.2, if out.2 = .ok then .commandId out.1.commandId else .none⟩)

/-- One call. -/
def call (L : ModelLibrary F) (w : World F) : Op F → World F × Response F
  | .openAndVerify => withOutput w w.controller.openAndVerify .verified
  | .snapshot => (w, ⟨w.controller.snapshot.1, (w.controller.snapshot.2.map .snapshot).getD .none⟩)
  | .kinematics side seq =>
    let out := w.controller.kinematics L side seq
    (w, ⟨out.1, (out.2.map fun r => .kinematics r.1 r.2).getD .none⟩)
  | .challenge => withOutput w w.controller.challenge .challenge
  | .arm challenge => plain w (w.controller.armWith challenge)
  | .planJoint request => planned w (w.controller.planJoint request)
  | .planPaired request => planned w (w.controller.planPaired L w.latch request)
  | .planCentroid request => planned w (w.controller.planCentroid L w.latch request)
  | .planMirrored request => planned w (w.controller.planMirrored L w.latch request)
  | .planConverge request => planned w (w.controller.planConverge L w.latch request)
  | .contactReport => (w, ⟨.ok, .report w.controller.contactReport⟩)
  | .setSimContact contact => plain w (w.controller.setSimContact contact)
  | .execute plan request => executed w (w.controller.execute L plan request)
  | .advance monotonicNs => plain w (w.controller.advance L w.latch monotonicNs)
  | .setSimFault fault => plain w (w.controller.setSimFault fault)
  | .setSimState state => plain w (w.controller.setSimState state)
  | .heartbeat id deadline => plain w (w.controller.heartbeat id deadline)
  | .setInterlock estop deadman => plain w (w.controller.setInterlock estop deadman)
  | .setCollisionSceneRevision revision =>
    plain w (w.controller.setCollisionSceneRevision revision)
  | .stop kind => plain w (w.controller.stop kind)
  | .disarm deadline => plain w (w.controller.disarm deadline)
  | .reset request => plain w (w.controller.reset request)
  | .pollEvent => withOutput w w.controller.pollEvent .event
  | .estopAssert => ({ w with latch := true }, ⟨.ok, .none⟩)
  | .estopClear => ({ w with latch := false }, ⟨.ok, .none⟩)

/-- A call and its answer: the label of a step. -/
abbrev Label (F : Type) := Op F × Response F

/-- The initial worlds: a controller as constructed, the latch in any state. -/
def World.Initial (w : World F) : Prop :=
  ∃ manifest options instanceId, w.controller = Controller.create manifest options instanceId

/-- **The controller as a transition system.** -/
def system (L : ModelLibrary F) : Lts (World F) (Label F) where
  init := World.Initial
  step w e w' := call L w e.1 = (w', e.2)

/-- Every call is a step, labelled with its own answer. -/
theorem call_step (L : ModelLibrary F) (w : World F) (op : Op F) :
    (system L).step w (op, (call L w op).2) (call L w op).1 := rfl

/-- A step is the call its label names. -/
theorem step_eq {L : ModelLibrary F} {w w' : World F} {e : Label F}
    (h : (system L).step w e w') : w' = (call L w e.1).1 ∧ e.2 = (call L w e.1).2 := by
  have hcall : call L w e.1 = (w', e.2) := h
  rw [hcall]
  exact ⟨rfl, rfl⟩

end OpenArm.Control
