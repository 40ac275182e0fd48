/-
  OpenArm.Control.Cycle — executing a plan: `execute` and `advance`.

  `advance` is one control cycle.  Its stages are separate functions in the
  order of the source; a stage that ends the cycle early returns the state
  and the status the cycle returns with (`Except.error`), one that lets the
  cycle go on returns the state it leaves.
-/
import OpenArm.Control.Planning

namespace OpenArm.Control

open OpenArm.Lib

variable {F : Type} [Floating F]

/-- `smoothstep7`. -/
def smoothstep7 (u : F) : F :=
  let x := Floating.clamp u (Floating.lit 0) (Floating.lit 1)
  x * x * x * x *
    (Floating.lit 35 +
      x * (-Floating.lit 84 + x * (Floating.lit 70 - Floating.lit 20 * x)))

/-- `smoothstep7_derivative`. -/
def smoothstep7Derivative (u : F) : F :=
  let x := Floating.clamp u (Floating.lit 0) (Floating.lit 1)
  let oneMinus := Floating.lit 1 - x
  Floating.lit 140 * x * x * x * oneMinus * oneMinus * oneMinus

namespace Controller

/-- How a stage ends the cycle: the state and the status `advance` returns. -/
abbrev Exit (F : Type) := Controller F × ControlStatus

/-! ## §1. `execute`. -/

/-- `reset_contact_report`. -/
def resetContactReport (c : Controller F) (L : ModelLibrary F) (plan : MotionPlan F) :
    Controller F :=
  { c with
    contactReport := { ContactReport.zero with minimumClearanceM := Floating.quietNaN }
    contactStreak := 0
    lastClearanceM :=
      (keepoutClear L c.measuredPose plan.contactGeometryPolicy).1.minimumClearanceM }

/-- The freshness checks `execute` makes on a plan. -/
def planStale (c : Controller F) (plan : MotionPlan F) : Bool :=
  plan.manifestRevision != c.manifest.manifestRevision ||
    plan.modelRevision != c.manifest.modelRevision ||
    plan.collisionSceneRevision != c.options.collisionSceneRevision ||
    plan.seedSeq 0 != (c.arm 0).feedbackSeq || plan.seedSeq 1 != (c.arm 1).feedbackSeq ||
    !c.startPoseMatches plan

/-- The start time an execute request resolves to. -/
def startNs (c : Controller F) (request : ExecuteRequest) : Nat :=
  if request.startNs = 0 then c.nowNs else request.startNs

/-- The timing and stop-kind checks of `execute`. -/
def executeInvalid (c : Controller F) (plan : MotionPlan F) (request : ExecuteRequest) : Bool :=
  decide (c.startNs request < c.nowNs) || decide (request.expiryNs ≤ c.startNs request) ||
    decide (plan.expiryNs < request.expiryNs) ||
    decide (request.producerDeadlineNs ≤ c.nowNs) ||
    decide (request.stopKind ≠ .disable ∧ request.stopKind ≠ .controlled) ||
    decide (request.expiryNs - c.startNs request < plan.durationNs)

/-- What an accepted `execute` writes before it publishes. -/
def startCommand (c : Controller F) (L : ModelLibrary F) (plan : MotionPlan F)
    (request : ExecuteRequest) : Controller F :=
  { (c.resetContactReport L plan) with
    executing := some plan
    commandId := c.nextCommandId
    nextCommandId := wrap64 (c.nextCommandId + 1)
    commandStartNs := c.startNs request
    commandExpiryNs := request.expiryNs
    producerDeadlineNs := request.producerDeadlineNs
    settleStartNs := 0
    settleFeedbackSeq := fun _ => 0
    settleFeedbackIntervals := 0
    activeStopKind := request.stopKind
    commandStarted := decide (c.startNs request = c.nowNs)
    settlingPublished := false
    lifecycle := .executing }

/-- `execute`.  The command id is written through `command_id`, which the
    caller reads only on `OA_CONTROL_OK`. -/
def execute (c : Controller F) (L : ModelLibrary F) (plan : MotionPlan F)
    (request : ExecuteRequest) : Controller F × ControlStatus :=
  if c.lifecycle ≠ .armedIdle then (c, .estate)
  else if !c.fresh then (c, .estale)
  else if !c.healthy then c.latchFault .efault false
  else if plan.controllerInstance ≠ c.instanceId ∨ plan.verifyEpoch ≠ c.verifyEpoch then
    (c, .eidentity)
  else if c.planStale plan then (c, .estale)
  else if c.executeInvalid plan request then (c, .einval)
  else
    let started := c.startCommand L plan request
    started.publishReturning (if started.commandStarted then .started else .queued) .ok
      started.commandId .ok

/-! ## §2. The real-time monitors. -/

/-- The pose members both monitors write when they stop a command. -/
def reportStop (c : Controller F) (L : ModelLibrary F) (report : ContactReport F) :
    ContactReport F :=
  { report with
    stopMonotonicNs := c.nowNs
    stopFeedbackSeq := fun side => (c.arm side).feedbackSeq
    stoppedQRad := c.measuredPose
    stoppedTcpM := fun side =>
      match L.forward side ((c.arm side).measuredQ) with
      | some fk => fk.tcpXyz
      | none => report.stoppedTcpM side }

/-- `kClearanceWorseningEpsilon`. -/
def kClearanceWorseningEpsilon : F := Floating.lit 1.0e-6

/-- The contact policy `monitor_keepout` evaluates under. -/
def monitorPolicy (c : Controller F) : ContactPolicy :=
  match c.executing with
  | none => .none
  | some plan => plan.contactGeometryPolicy

/-- `monitor_keepout`; the answer is `false` when the cycle must stop. -/
def monitorKeepout (c : Controller F) (L : ModelLibrary F) : Controller F × Bool :=
  let previous := c.lastClearanceM
  let evaluated := keepoutClear L c.measuredPose c.monitorPolicy
  let status := evaluated.1
  let seen := { c with lastClearanceM := status.minimumClearanceM }
  let report := { c.contactReport with minimumClearanceM := status.minimumClearanceM }
  if evaluated.2 then
    let monitored := (c.executing.map (·.contactMonitored)).getD false
    if monitored && decide (c.monitorPolicy = .terminalCaps) && status.terminalPairActive &&
        status.clawContactActive then
      ({ seen with
          contactReport :=
            c.reportStop L { report with cause := .contact, contactDetected := true } }, false)
    else ({ seen with contactReport := report }, true)
  else if Floating.isFinite previous && Floating.isFinite status.minimumClearanceM &&
      decide (previous - kClearanceWorseningEpsilon ≤ status.minimumClearanceM) then
    ({ seen with contactReport := report }, true)
  else
    ({ seen with
        contactReport :=
          c.reportStop L
            { report with
              cause := .keepout
              keepoutViolation := status.violation
              keepoutSide := status.side
              keepoutSegmentA := status.segmentA
              keepoutSegmentB := status.segmentB } }, false)

/-- The joints of one side whose measured torque reached the threshold. -/
def contactJoints (c : Controller F) (plan : MotionPlan F) (side : Side) : Joint → Bool :=
  fun joint =>
    let threshold := plan.contactThresholdNm side joint
    decide (Floating.lit 0 < threshold) &&
      decide (threshold ≤ Floating.abs ((c.arm side).measuredTau joint))

/-- `monitor_contact`; the answer is `false` when the cycle must stop. -/
def monitorContact (c : Controller F) (L : ModelLibrary F) : Controller F × Bool :=
  match c.executing with
  | none => (c, true)
  | some plan =>
    if !plan.contactMonitored then (c, true)
    else
      let hit : Side → Bool := fun side => (List.finRange 7).any (c.contactJoints plan side)
      if !hit 0 && !hit 1 then ({ c with contactStreak := 0 }, true)
      else
        let streak := wrap32 (c.contactStreak + 1)
        if streak < plan.contactPersistenceCycles then ({ c with contactStreak := streak }, true)
        else
          ({ c with
              contactStreak := streak
              contactReport :=
                c.reportStop L
                  { c.contactReport with
                    cause := .contact
                    contactDetected := true
                    contactSideMask := hit
                    contactJointMask := fun side => jointMask (c.contactJoints plan side)
                    contactTorqueNm := fun side => (c.arm side).measuredTau
                    thresholdTorqueNm := plan.contactThresholdNm } }, false)

/-- `complete_on_contact`. -/
def completeOnContact (c : Controller F) : Exit F :=
  let completedId := c.commandId
  { (c.materializeStop true).dropCommand with
    settleStartNs := 0
    settleFeedbackSeq := fun _ => 0
    settleFeedbackIntervals := 0
    settlingPublished := false
    lifecycle := .armedIdle }.publishReturning .stopped .ok completedId .ok

/-- One side of `apply_sim_contact`. -/
def applySimContactSide (c : Controller F) (L : ModelLibrary F) (side : Side) : ArmRuntime F :=
  let contact := c.simContact side
  let r := c.arm side
  if !contact.enabled then r.clearContact
  else
    match L.forward side r.measuredQ with
    | none => r.clearContact
    | some fk =>
      let distance := magnitude (difference fk.tcpXyz contact.centerM)
      if !Floating.isFinite distance || !decide (distance < contact.radiusM) then r.clearContact
      else r.setBlocked true contact.reactionGainNmPerRad

/-- `apply_sim_contact`. -/
def applySimContact (c : Controller F) (L : ModelLibrary F) : Controller F :=
  { c with arm := fun side => c.applySimContactSide L side }

/-! ## §3. The stages of a cycle. -/

/-- `oa_estop_asserted` is 1: the branch `advance` takes before anything
    else. -/
def advanceEstop (c : Controller F) (monotonicNs : Nat) : Exit F :=
  let now := if c.nowNs ≤ monotonicNs then monotonicNs else c.nowNs
  if !c.estopLatched then
    { c with
      estopLatched := true
      contactReport := { c.contactReport with cause := .estop, stopMonotonicNs := now }
      nowNs := now }.setInterlock true c.deadmanActive
  else ({ c with nowNs := now }, .eestop)

/-- The lifecycle states whose cycle does any work. -/
def cycling (c : Controller F) : Bool :=
  decide (c.lifecycle = .armedIdle) || decide (c.lifecycle = .executing) ||
    decide (c.lifecycle = .disarmed)

/-- What a cycle returns in a state that does no work. -/
def idleStatus (c : Controller F) : ControlStatus :=
  if c.lifecycle = .fault then .efault else .estate

/-- The checks of an armed cycle: motor faults, feedback integrity, and the
    gap since the previous cycle. -/
def cycleWatchdogs (c : Controller F) (previousNs : Nat) : Except (Exit F) Unit :=
  if c.lifecycle = .armedIdle ∨ c.lifecycle = .executing then
    if !c.healthy then .error (c.latchFault .efault false)
    else if c.feedbackIntegrity ≠ .ok then
      .error (c.latchFault c.feedbackIntegrity false)
    else if c.options.cycleNs < c.nowNs - previousNs then
      .error (c.latchFault .etimeout true)
    else .ok ()
  else .ok ()

/-- The checks of an executing cycle: producer deadline, expiry, motor
    faults. -/
def commandWatchdogs (c : Controller F) : Except (Exit F) Unit :=
  if c.producerDeadlineNs < c.nowNs then .error (c.latchFault .estale true)
  else if c.commandExpiryNs < c.nowNs then .error (c.latchFault .etimeout true)
  else if !c.healthy then .error (c.latchFault .efault false)
  else .ok ()

/-- A queued command starts once its start time is reached. -/
def startQueued (c : Controller F) (plan : MotionPlan F) : Except (Exit F) (Controller F) :=
  if !c.commandStarted && decide (c.commandStartNs ≤ c.nowNs) then
    if !c.fresh || !c.startPoseMatches plan then .error (c.latchFault .estale false)
    else
      let published :=
        { c with commandStarted := true }.publish .started .ok c.commandId
      if published.2 then .ok published.1 else .error (published.1, .ebusy)
  else .ok c

/-- The `while` of `advance`: the segment the elapsed time falls in. -/
def findSegment (plan : MotionPlan F) (elapsed : Nat) : Nat → Nat → Nat
  | 0, segment => segment
  | fuel + 1, segment =>
    if segment + 1 < plan.waypointCount ∧ plan.waypointTimeNs segment < elapsed then
      findSegment plan elapsed fuel (segment + 1)
    else segment

/-- The references of both arms in one cycle. -/
structure Reference (F : Type) where
  q : Side → JointVector F
  dq : Side → JointVector F

/-- The reference of a cycle without a command: hold the measured pose. -/
def holdReference (c : Controller F) : Reference F where
  q := c.measuredPose
  dq := fun _ => ArmRuntime.zeroVector

/-- The reference of an executing cycle. -/
def planReference (c : Controller F) (plan : MotionPlan F) : Reference F :=
  let elapsed := if c.nowNs ≤ c.commandStartNs then 0 else c.nowNs - c.commandStartNs
  let segment := findSegment plan elapsed plan.waypointCount 1
  let segmentStart := plan.waypointTimeNs (segment - 1)
  let segmentDuration := wrapSub64 (plan.waypointTimeNs segment) segmentStart
  let segmentElapsed :=
    if elapsed ≤ segmentStart then 0 else min (elapsed - segmentStart) segmentDuration
  let u : F :=
    if segmentDuration = 0 then Floating.lit 1
    else Floating.ofNat segmentElapsed / Floating.ofNat segmentDuration
  let positionScale := smoothstep7 u
  let velocityScale :=
    if segmentDuration ≤ segmentElapsed then Floating.lit 0
    else smoothstep7Derivative u * Floating.lit 1.0e9 / Floating.ofNat segmentDuration
  let delta : Side → JointVector F := fun side joint =>
    plan.waypointQ side segment joint - plan.waypointQ side (segment - 1) joint
  { q := fun side joint =>
      plan.waypointQ side (segment - 1) joint + delta side joint * positionScale
    dq := fun side joint => delta side joint * velocityScale }

/-- The reference stage.  While `EXECUTING` there is a command, so the `none`
    branch of the match is not reached. -/
def commandReference (c : Controller F) : Except (Exit F) (Controller F × Reference F) :=
  if c.lifecycle = .executing then
    match c.commandWatchdogs with
    | .error exit => .error exit
    | .ok () =>
      match c.executing with
      | none => .ok (c, c.holdReference)
      | some plan =>
        match c.startQueued plan with
        | .error exit => .error exit
        | .ok started => .ok (started, started.planReference plan)
  else .ok (c, c.holdReference)

/-- Command one arm and take its feedback; a transport failure latches. -/
def stepArm (c : Controller F) (reference : Reference F) (dtS : F) (side : Side) :
    Except (Exit F) (Controller F) :=
  let stepped :=
    (c.arm side).commandAndStep (reference.q side) (reference.dq side) c.nowNs dtS
  let c' := { c with arm := Function.update c.arm side stepped.1 }
  if stepped.2 then .ok c' else .error (c'.latchFault .ecan false)

/-- The plant stage: simulated contact, then the left and the right arm. -/
def stepPlant (c : Controller F) (L : ModelLibrary F) (reference : Reference F)
    (previousNs : Nat) : Except (Exit F) (Controller F) :=
  let dtS := Floating.ofNat (c.nowNs - previousNs) * Floating.lit 1.0e-9
  match (c.applySimContact L).stepArm reference dtS 0 with
  | .error exit => .error exit
  | .ok left => left.stepArm reference dtS 1

/-- The feedback checks after the plant was stepped. -/
def feedbackWatchdogs (c : Controller F) : Except (Exit F) Unit :=
  let timeout := c.options.feedbackTimeoutNs
  if !(c.arm 0).completeFresh c.nowNs timeout || !(c.arm 1).completeFresh c.nowNs timeout then
    .error (c.latchFault .estale false)
  else if c.options.maxCrossBusSkewNs <
      absDiff (c.arm 0).generationTimestamp (c.arm 1).generationTimestamp then
    .error (c.latchFault .ecan false)
  else if ((c.arm 0).snapshot c.nowNs timeout).faultMask != 0 ||
      ((c.arm 1).snapshot c.nowNs timeout).faultMask != 0 then
    .error (c.latchFault .efault false)
  else .ok ()

/-- The monitor stage of an executing, started command. -/
def monitors (c : Controller F) (L : ModelLibrary F) : Except (Exit F) (Controller F) :=
  if c.lifecycle = .executing ∧ c.commandStarted = true then
    let contact := c.monitorContact L
    if !contact.2 then .error contact.1.completeOnContact
    else
      let keepout := contact.1.monitorKeepout L
      if !keepout.2 then .error keepout.1.completeOnContact
      else .ok keepout.1
  else .ok c

/-- `measured_at_goal`. -/
def measuredAtGoal (c : Controller F) (L : ModelLibrary F) : Bool :=
  match c.executing with
  | none => false
  | some plan =>
    (List.finRange 2).all fun side =>
      !plan.activeArmMask side ||
        (((List.finRange 7).all fun joint =>
            !(decide (plan.jointPositionTolerance side <
                Floating.abs ((c.arm side).measuredQ joint - plan.targetQ side joint)) ||
              decide (plan.jointVelocityTolerance side <
                Floating.abs ((c.arm side).measuredDq joint)))) &&
          (if plan.kind = .pairedTcp then
            match L.forward side (c.arm side).measuredQ with
            | none => false
            | some fk =>
              let error := difference fk.tcpXyz (plan.targetTcp side)
              !decide (plan.tcpTolerance side <
                Floating.sqrt (Floating.lit 0 + error 0 * error 0 + error 1 * error 1 +
                  error 2 * error 2))
          else true))

/-- `SETTLING` is published once per settling phase. -/
def publishSettling (c : Controller F) : Except (Exit F) (Controller F) :=
  if c.settlingPublished then .ok c
  else
    let published := c.publish .settling .ok c.commandId
    if published.2 then .ok { published.1 with settlingPublished := true }
    else .error (published.1, .ebusy)

/-- One observation within tolerance: start the dwell, or count a new
    feedback generation of both arms. -/
def countSettle (c : Controller F) : Controller F :=
  let current : Side → Nat := fun side => (c.arm side).feedbackSeq
  if c.settleStartNs = 0 then
    { c with
      settleStartNs := c.nowNs
      settleFeedbackSeq := current
      settleFeedbackIntervals := 0 }
  else if current 0 ≠ c.settleFeedbackSeq 0 ∧ current 1 ≠ c.settleFeedbackSeq 1 then
    { c with
      settleFeedbackSeq := current
      settleFeedbackIntervals := wrap32 (c.settleFeedbackIntervals + 1) }
  else c

/-- The dwell is over. -/
def settled (c : Controller F) : Bool :=
  decide (3 ≤ c.settleFeedbackIntervals) &&
    decide (c.options.cycleNs * 3 ≤ c.nowNs - c.settleStartNs)

/-- Complete the command: `COMPLETED` and back to armed idle. -/
def complete (c : Controller F) : Exit F :=
  let completedId := c.commandId
  { c.dropCommand with
    contactReport := { c.contactReport with cause := .planComplete }
    lifecycle := .armedIdle }.publishReturning .completed .ok completedId .ok

/-- The settle stage, the last of the cycle. -/
def settle (c : Controller F) (L : ModelLibrary F) : Exit F :=
  match c.executing with
  | none => (c, .ok)
  | some plan =>
    if c.lifecycle = .executing ∧ c.commandStartNs + plan.durationNs ≤ c.nowNs then
      match c.publishSettling with
      | .error exit => exit
      | .ok c' =>
        if c.measuredAtGoal L then
          let counted := c'.countSettle
          if counted.settled then counted.complete else (counted, .ok)
        else
          ({ c' with
              settleStartNs := 0
              settleFeedbackSeq := fun _ => 0
              settleFeedbackIntervals := 0 }, .ok)
    else (c, .ok)

/-! ## §4. `advance`. -/

/-- A cycle whose time has advanced, in a state that does work. -/
def runCycle (c : Controller F) (L : ModelLibrary F) (previousNs : Nat) : Exit F :=
  match c.cycleWatchdogs previousNs with
  | .error exit => exit
  | .ok () =>
    match c.commandReference with
    | .error exit => exit
    | .ok (referenced, reference) =>
      match referenced.stepPlant L reference previousNs with
      | .error exit => exit
      | .ok stepped =>
        match stepped.feedbackWatchdogs with
        | .error exit => exit
        | .ok () =>
          match stepped.monitors L with
          | .error exit => exit
          | .ok monitored => monitored.settle L

/-- `advance`; `latch` is what `oa_estop_asserted` returns. -/
def advance (c : Controller F) (L : ModelLibrary F) (latch : Bool) (monotonicNs : Nat) :
    Exit F :=
  if latch then c.advanceEstop monotonicNs
  else
    let c := { c with estopLatched := false }
    if monotonicNs < c.nowNs then (c, .einval)
    else if monotonicNs = c.nowNs then (c, if c.cycling then .ok else c.idleStatus)
    else
      let advanced := { c with nowNs := monotonicNs }
      if advanced.cycling then advanced.runCycle L c.nowNs else (advanced, advanced.idleStatus)

end Controller

end OpenArm.Control
