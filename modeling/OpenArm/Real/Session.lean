/-
  OpenArm.Real.Session — the state of the physical session and its blocks.

  `Session` holds the members of `RealControlSession::Impl` together with
  the motors and the two CAN sockets.  Every block that runs under
  `mutex_` is one function on it; the actions of the programs
  (`OpenArm.Real.Programs`) are these blocks and the single accesses to
  atomics, to `io_mutex_` and to the sockets.
-/
import OpenArm.Real.Planning

namespace OpenArm.Real

open OpenArm.Lib OpenArm.Control OpenArm.Model

variable {F : Type} [Rounding F]

/-! ## §1. State. -/

/-- One CAN bus: the frames written and not yet served, oldest first, each
    with its serial; the receive queue of the open socket; and which motors
    really are enabled. -/
structure Bus (F : Type) where
  outbound : List (Frame F × Nat)
  inbound : List (Incoming F)
  enabled : Motor → Bool

/-- `RealControlSession::Impl`, with its surroundings from `runtimeEstop` on:
    the process-wide emergency-stop latch, the clock, the buses and the
    serial of the next frame. -/
structure Session (F : Type) where
  closing : Bool
  socketOpen : Side → Bool
  connected : Bool
  armed : Bool
  estop : Bool
  cancelRequested : Bool
  /-- `io_mutex_` is held. -/
  ioLocked : Bool
  pending : Option (SessionCommand F)
  active : Option (Active F)
  owner : String
  health : SessionHealth
  measuredQ : PairQ F
  targetRaw : PairQ F
  feedforwardModelTau : PairQ F
  measuredRawGripper : Side → F
  gripperTargetRaw : Side → F
  gripperTargetOpeningM : Side → F
  gripperSpeedMS : Side → F
  gripperTorqueLimitNm : Side → F
  gripperExactRawHold : Side → Bool
  /-- `gripper_calibration_`, once it is loaded. -/
  gripperCalibration : Option (GripperCalibration F)
  lastSample : Side → Motor → MotorSample F
  lastFeedback : Side → Motor → Nat
  feedbackSequence : Side → Nat
  nextCommandId : Nat
  lastExchangeFailure : String
  /-- The worker thread has returned, which `join` waits for. -/
  workerFinished : Bool
  runtimeEstop : Bool
  now : Nat
  bus : Side → Bus F
  serial : Nat

/-- A motor sample that was never received. -/
def noSample : MotorSample F :=
  { valid := false, rawQ := Floating.lit 0, rawDq := Floating.lit 0, rawTau := Floating.lit 0
    status := 0 }

/-- The session after its constructor; `now` is not the epoch of the clock. -/
def Session.initial (S : Setting F) (gripper : Option (GripperCalibration F)) (now : Nat)
    (bus : Side → Bus F) : Session F where
  closing := false
  socketOpen := fun _ => false
  connected := false
  armed := false
  estop := false
  cancelRequested := false
  ioLocked := false
  pending := none
  active := none
  owner := ""
  health :=
    { adapterState := .starting
      lifecycle := .disarmed
      commandId := 0
      planSeedFeedbackSeq := fun _ => 0
      planDurationNs := 0
      terminalFeedbackSeq := fun _ => 0
      owner := ""
      reason := if S.calibrationLoaded then
          "physical controller passive; press Connect to enable"
        else "physical controller passive; neutral calibration is missing" }
  measuredQ := zeroQ
  targetRaw := zeroQ
  feedforwardModelTau := zeroQ
  measuredRawGripper := fun _ => Floating.lit 0
  gripperTargetRaw := fun _ => Floating.lit 0
  gripperTargetOpeningM := fun _ => Floating.lit 0
  gripperSpeedMS := fun _ => kGripperDefaultSpeedMS
  gripperTorqueLimitNm := fun _ => kGripperHoldTorqueNm
  gripperExactRawHold := fun _ => true
  gripperCalibration := gripper
  lastSample := fun _ _ => noSample
  lastFeedback := fun _ _ => 0
  feedbackSequence := fun _ => 0
  nextCommandId := 1
  lastExchangeFailure := ""
  workerFinished := false
  runtimeEstop := false
  now := now
  bus := bus
  serial := 0

namespace Session

/-! ## §2. Frames on the bus. -/

/-- Write frames on an open socket; the surroundings decide for each motor
    whether its write succeeds. -/
def transmit (s : Session F) (side : Side) (frames : List (Frame F)) : Session F :=
  { s with
    bus := Function.update s.bus side
      { s.bus side with
        outbound := (s.bus side).outbound ++
          frames.zip ((List.range frames.length).map (s.serial + ·)) }
    serial := s.serial + frames.length }

/-- A burst of one frame per motor that stops at the first failed write; the
    answer is whether all were written. -/
def burst (s : Session F) (side : Side) (ok : Motor → Bool) (frame : Motor → Frame F)
    (encodes : Motor → Bool) : Bool × Session F :=
  let reached := (List.finRange 8).takeWhile fun motor =>
    s.socketOpen side && encodes motor && ok motor
  (decide (reached.length = 8), s.transmit side (reached.map frame))

/-- One side of `disable_all_immediate`: every write is attempted. -/
def sendDisable (s : Session F) (side : Side) (ok : Motor → Bool) : Session F :=
  if s.socketOpen side then
    s.transmit side (((List.finRange 8).filter ok).map Frame.disable)
  else s

/-- One side of `send_refresh_all`. -/
def sendRefresh (s : Session F) (side : Side) (ok : Motor → Bool) : Bool × Session F :=
  s.burst side ok Frame.refresh fun _ => true

/-- One side of `send_enable_all`. -/
def sendEnable (s : Session F) (side : Side) (ok : Motor → Bool) : Bool × Session F :=
  s.burst side ok Frame.enable fun _ => true

/-- The torque `send_hold_commands` adds to a joint. -/
def holdTorque (S : Setting F) (s : Session F) (side : Side) (joint : Joint) : F :=
  S.calibration.signedValue side joint (s.feedforwardModelTau side joint)

/-- The frame `send_hold_commands` builds for a motor. -/
def holdFrame (S : Setting F) (s : Session F) (side : Side) (gainScale : F)
    (motor : Motor) : Frame F :=
  if h : motor.val < 7 then
    .mit ⟨motor.val, h⟩ (s.targetRaw side ⟨motor.val, h⟩) gainScale
      (s.holdTorque S side ⟨motor.val, h⟩)
  else if !s.gripperExactRawHold side && s.gripperCalibration.isSome then
    .gripperOpening (s.gripperTargetOpeningM side)
  else .gripperRaw (s.gripperTargetRaw side)

/-- The codec accepts that frame. -/
def holdEncodes (S : Setting F) (s : Session F) (side : Side) (gainScale : F)
    (motor : Motor) : Bool :=
  if h : motor.val < 7 then
    S.mitEncodes ⟨motor.val, h⟩ (s.targetRaw side ⟨motor.val, h⟩) gainScale
      (s.holdTorque S side ⟨motor.val, h⟩)
  else match s.gripperExactRawHold side, s.gripperCalibration with
    | false, some calibration =>
      S.gripperMoveEncodes (calibration side) (s.gripperTargetOpeningM side)
        (s.gripperSpeedMS side) (s.gripperTorqueLimitNm side)
    | _, _ => S.posForceEncodes (s.gripperTargetRaw side)

/-- One side of `send_hold_commands`. -/
def sendHold (S : Setting F) (s : Session F) (side : Side) (gainScale : F)
    (ok : Motor → Bool) : Bool × Session F :=
  s.burst side ok (s.holdFrame S side gainScale) (s.holdEncodes S side gainScale)

/-- The register write of `write_and_confirm_u32_register`. -/
def requestRegister (s : Session F) (side : Side) (motor : Motor) (register : Register)
    (value : Nat) (ok : Bool) : Bool × Session F :=
  if s.socketOpen side && ok then
    (true, s.transmit side [.writeRegister motor register value])
  else (false, s)

/-- The sockets `poll` reports readable. -/
def readable (s : Session F) (side : Side) : Bool :=
  s.socketOpen side && !(s.bus side).inbound.isEmpty

/-- Read the oldest frame of a socket; a short read loses it. -/
def readFrame (s : Session F) (side : Side) (ok : Bool) : Option (Incoming F) × Session F :=
  match (s.bus side).inbound with
  | [] => (none, s)
  | frame :: rest =>
    (if ok then some frame else none,
      { s with bus := Function.update s.bus side { s.bus side with inbound := rest } })

/-- One side of `open_sockets`: a fresh socket has received nothing. -/
def openSocket (s : Session F) (side : Side) (failure : Option SocketFailure) :
    Option SocketFailure × Session F :=
  match failure with
  | some failure => (some failure, s)
  | none => (none, { s with
      socketOpen := Function.update s.socketOpen side true
      bus := Function.update s.bus side { s.bus side with inbound := [] } })

/-- One slot of `close_sockets`. -/
def closeSocket (s : Session F) (side : Side) : Session F :=
  { s with
    socketOpen := Function.update s.socketOpen side false
    bus := Function.update s.bus side { s.bus side with inbound := [] } }

/-! ## §3. Feedback. -/

/-- The samples one `collect_feedback` received. -/
abbrev Collected (F : Type) := Side → Motor → Option (MotorSample F)

/-- Keep the sample of a received feedback frame. -/
def collectFrame (got : Collected F) (side : Side) (frame : Option (Incoming F)) :
    Collected F :=
  match frame.bind Incoming.feedback with
  | none => got
  | some (motor, sample) =>
    Function.update got side (Function.update (got side) motor (some sample))

/-- Every motor of an active side has answered. -/
def completeFeedback (S : Setting F) (got : Collected F) : Bool :=
  (List.finRange 2).all fun side =>
    !S.sides.active side || (List.finRange 8).all fun motor => (got side motor).isSome

/-- Every motor of an active side has answered that it is disabled. -/
def allDisabled (S : Setting F) (got : Collected F) : Bool :=
  (List.finRange 2).all fun side =>
    !S.sides.active side || (List.finRange 8).all fun motor =>
      (got side motor).any fun sample => sample.valid && sample.status == feedbackDisabled

/-- The newest sample of every motor, after a collection. -/
def storeSamples (S : Setting F) (s : Session F) (got : Collected F) : Session F :=
  { s with
    lastSample := fun side motor =>
      if S.sides.active side then (got side motor).getD (s.lastSample side motor)
      else s.lastSample side motor
    lastFeedback := fun side motor =>
      if S.sides.active side && (got side motor).isSome then s.now
      else s.lastFeedback side motor }

/-- The active motors, side by side. -/
def activeMotors (S : Setting F) : List (Side × Motor) :=
  (List.finRange 2).flatMap fun side =>
    if S.sides.active side then (List.finRange 8).map (side, ·) else []

/-- An encoder older than the watchdog limit. -/
def staleEncoder (s : Session F) (at_ : Side × Motor) : Bool :=
  s.lastFeedback at_.1 at_.2 == 0 ||
    decide (kFeedbackWatchdog < s.now - s.lastFeedback at_.1 at_.2)

/-- The name of a motor in messages. -/
def motorName (S : Setting F) (side : Side) (motor : Motor) (separator : String) : String :=
  S.interfaceForSide side ++ separator ++ toString (motor.val + 1)

/-- `exchange_frames` after the collection: store the samples, check their
    age and, after a command, that every motor is enabled, and map the
    encoders to the model. -/
def absorb (S : Setting F) (s : Session F) (command : Bool) (got : Collected F) :
    Option (PairQ F) × Session F :=
  let s := s.storeSamples S got
  let stale := (activeMotors S).filter s.staleEncoder
  if !stale.isEmpty then
    let failure := stale.foldl (fun text at_ => text ++ " " ++ motorName S at_.1 at_.2 ":")
      "stale encoder IDs"
    (none, { s with lastExchangeFailure := failure })
  else
    let disabled := (activeMotors S).find? fun at_ =>
      command && (s.lastSample at_.1 at_.2).status != feedbackEnabled
    match disabled with
    | some at_ =>
      let failure := "motor remained disabled or faulted: " ++ motorName S at_.1 at_.2 " ID " ++
        " status " ++ toString (s.lastSample at_.1 at_.2).status
      (none, { s with lastExchangeFailure := failure })
    | none =>
      let measured : PairQ F := fun side joint =>
        if S.sides.active side then
          S.calibration.position side joint (s.lastSample side (jointMotor joint)).rawQ
        else Floating.lit 0
      let s := { s with measuredRawGripper := fun side =>
        if S.sides.active side then (s.lastSample side gripperMotor).rawQ
        else s.measuredRawGripper side }
      if !finiteQ measured then
        (none, { s with lastExchangeFailure := "non-finite calibrated encoder position" })
      else (some measured, { s with lastExchangeFailure := "" })

/-- The unlocked assignments of `connect_and_enable` that seed the hold. -/
def seedHold (S : Setting F) (s : Session F) (measured : PairQ F) : Session F :=
  { s with
    measuredQ := measured
    targetRaw := rawFromModel S.calibration measured
    feedforwardModelTau := zeroQ
    gripperTargetRaw := s.measuredRawGripper
    gripperExactRawHold := fun _ => true
    gripperTargetOpeningM := fun side =>
      match s.gripperCalibration with
      | some calibration =>
        if S.sides.active side then (calibration side).openingM (s.measuredRawGripper side)
        else s.gripperTargetOpeningM side
      | none => s.gripperTargetOpeningM side }

/-! ## §4. The blocks of the public operations. -/

/-- `stop_motion`. -/
def stopMotion (s : Session F) : (Bool × String) × Session F :=
  if s.pending.isNone && s.active.isNone then
    ((true, "no physical motion is active"), s)
  else
    ((true, "physical motion stop requested; measured-pose hold remains active"),
      { s with cancelRequested := true })

/-- `reserve`. -/
def reserve (s : Session F) (owner : String) : (Bool × String) × Session F :=
  if s.closing then ((false, "closing"), s)
  else if s.estop then ((false, "estop_latched"), s)
  else if !s.connected || !s.armed then ((false, "physical_motors_not_connected"), s)
  else if s.owner != "" || s.pending.isSome || s.active.isSome then ((false, "busy"), s)
  else ((true, ""), { s with
    owner
    health := { s.health with owner, adapterState := .reserved, reason := "reserved" } })

/-- `command_allowed_for_active_sides`. -/
def allowedForActiveSides (S : Setting F) (command : SessionCommand F) : Bool :=
  S.sides.both ||
    let activeSide : Nat := if S.sides.left then 0 else 1
    let inactiveSide : Int := if S.sides.left then 1 else 0
    (command.kind == .joint && command.side == activeSide) ||
    (command.kind == .gripper && command.gripperSideMask == 1#32 <<< activeSide) ||
    (command.kind == .pairedTcp && command.preservedSide == inactiveSide)

/-- The movement limit `submit` leaves in a command. -/
def limitScale (command : SessionCommand F) : SessionCommand F :=
  if command.kind = .gripper then command
  else
    let scale := if command.kind = .joint then kLegacyMotionLimitScale
      else command.motionLimitScale
    -- `std::min` keeps its first argument unless the second is smaller
    { command with motionLimitScale :=
        if kPhysicalMotionLimitScale < scale then kPhysicalMotionLimitScale else scale }

/-- `submit`. -/
def submit (S : Setting F) (s : Session F) (command : SessionCommand F) :
    (Bool × String) × Session F :=
  if s.closing || s.owner != command.owner || s.pending.isSome || s.active.isSome then
    ((false, if s.closing then "closing" else "reservation_mismatch"), s)
  else if command.kind != .joint && command.kind != .gripper &&
      !validMotionLimitScale command.motionLimitScale then
    ((false, "invalid_motion_limit_scale"), s)
  else if !allowedForActiveSides S command then
    ((false, "command_involves_inactive_arm"), s)
  else ((true, ""), { s with cancelRequested := false, pending := some (limitScale command) })

/-- `cancel`. -/
def cancel (s : Session F) (owner : String) : Bool × Session F :=
  if s.owner != owner || (s.pending.isNone && s.active.isNone) then (false, s)
  else (true, { s with cancelRequested := true })

/-- `release`, with whether it released. -/
def release (s : Session F) (owner reason : String) : Bool × Session F :=
  if s.owner == owner && s.pending.isNone && s.active.isNone then
    (true, { s with
      owner := ""
      health := { s.health with
        owner := "", adapterState := if s.armed then .idle else .starting, reason } })
  else (false, s)

/-- The first block of `close`; the answer is whether it was closing. -/
def beginClose (s : Session F) : Bool × Session F :=
  if s.closing then (true, s)
  else (false, { s with closing := true, cancelRequested := true })

/-- The block of `set_health`. -/
def setHealth (s : Session F) (state : AdapterState) (reason : String) (lifecycle : Lifecycle) :
    Session F :=
  { s with health := { s.health with
      adapterState := state, reason, lifecycle
      commandId := if state = .executing then s.health.commandId else 0 } }

/-! ## §5. The blocks of the worker. -/

/-- The first block of `process_pending`. -/
def takePending (s : Session F) : Option (SessionCommand F × PairQ F) × Session F :=
  match s.pending with
  | none => (none, s)
  | some command => (some (command, s.measuredQ), { s with pending := none })

/-- `plan_command` on the members it reads; a planned or refused command
    uses up a command id. -/
def plan (S : Setting F) (s : Session F) (command : SessionCommand F) (start : PairQ F) :
    Except String (Active F) × Session F :=
  (planCommand S.model s.gripperCalibration s.measuredRawGripper s.now start
      (Active.begin command start s.nextCommandId s.feedbackSequence),
    { s with nextCommandId := s.nextCommandId + 1 })

/-- The grippers a mask selects get these values, the others keep theirs. -/
def onGrippers (mask : BitVec 32) {α : Type} (value old : Side → α) : Side → α :=
  fun side => if gripperSide mask side then value side else old side

/-- The second block of `process_pending`. -/
def publishActive (s : Session F) (planned : Active F) : Session F :=
  let s := { s with
    active := some planned
    health := { s.health with
      adapterState := .executing
      commandId := planned.commandId
      planSeedFeedbackSeq := planned.seedSeq
      planDurationNs := planned.totalDurationNs
      reason := "executing_collision_checked_physical_motion" } }
  if planned.gripperMotion then
    { s with
      gripperTargetOpeningM := onGrippers planned.gripperSideMask planned.gripperStartOpeningM
        s.gripperTargetOpeningM
      gripperSpeedMS := onGrippers planned.gripperSideMask
        (fun _ => planned.command.gripperSpeedMS) s.gripperSpeedMS
      gripperTorqueLimitNm := onGrippers planned.gripperSideMask
        (fun _ => planned.command.gripperTorqueLimitNm) s.gripperTorqueLimitNm
      gripperExactRawHold := onGrippers planned.gripperSideMask (fun _ => false)
        s.gripperExactRawHold }
  else s

/-- The endpoint torque of a joint after one more cycle. -/
def integrate (a : Active F) (u : F) (measured : PairQ F) (side : Side) (joint : Joint) : F :=
  let tau := a.endpointIntegralTau side joint
  let step := kEndpointTorqueStepNm
  if decide (Floating.lit 1.0 ≤ u) && !a.contactPolicy then
    let error := a.segmentTarget side joint - measured side joint
    let delta := Floating.clamp (kEndpointIntegralGainNmPerRadS * error * seconds kCycle)
      (-step) step
    Floating.clamp (tau + delta) (-(kEndpointTorqueMaximumNm joint))
      (kEndpointTorqueMaximumNm joint)
  else tau + Floating.clamp (-tau) (-step) step

/-- The model pose the reference interpolates to. -/
def referencePose (a : Active F) (positionScale : F) : PairQ F :=
  fun side joint => a.segmentStart side joint +
    (a.segmentTarget side joint - a.segmentStart side joint) * positionScale

/-- `update_reference`. -/
def updateReference (S : Setting F) (s : Session F) : Session F :=
  match s.active with
  | none => s
  | some a =>
    let elapsed : F := seconds (s.now - a.segmentStarted)
    let u := elapsed / a.segmentDurationS
    let positionScale := smoothstep7 u
    if a.gripperMotion then
      let opening : Side → F := fun side => a.gripperStartOpeningM side +
        (a.gripperTargetOpeningM side - a.gripperStartOpeningM side) * positionScale
      { s with
        gripperTargetOpeningM := onGrippers a.gripperSideMask opening s.gripperTargetOpeningM }
    else
      let tau : PairQ F := fun side joint => integrate a u s.measuredQ side joint
      { s with
        active := some { a with endpointIntegralTau := tau }
        feedforwardModelTau := tau
        targetRaw := rawFromModel S.calibration (referencePose a positionScale) }

/-- The block of `publish_measured`. -/
def publishLifecycle (s : Session F) (lifecycle : Lifecycle) : Session F :=
  { s with health := { s.health with lifecycle } }

/-- The block of `publish_command_feedback`. -/
def commandFeedback (s : Session F) : Option (Callback × CommandFeedback F) :=
  match s.active with
  | none => none
  | some a =>
    match a.command.feedback with
    | none => none
    | some callback =>
      let elapsed := Floating.clamp (seconds (s.now - a.segmentStarted)) (Floating.lit 0.0)
        a.segmentDurationS
      let total : F := Floating.ofNat a.totalDurationNs / Floating.lit 1.0e9
      some (callback,
        { commandId := a.commandId
          feedbackSeq := s.feedbackSequence
          measuredProgress :=
            if total ≤ Floating.lit 1.0e-12 then Floating.lit 1.0
            else Floating.clamp ((a.completedDurationS + elapsed) / total) (Floating.lit 0.0)
              (Floating.lit 1.0) })

/-- How `monitor_and_complete` ends a command. -/
structure Ending (F : Type) where
  outcome : Outcome
  event : EventKind
  reason : String
  /-- `terminal_fault`. -/
  fault : Bool := false
  /-- `endpoint_hold_q` and `endpoint_hold_tau`, when they are preserved. -/
  endpoint : Option (PairQ F × PairQ F) := none
  /-- The grippers of the command are told to hold their measured opening. -/
  holdGripper : Bool := false

/-- The segment and its settling window are over.  Comparing the integer
    with the truncated duration is comparing it with the duration. -/
def settlingExpired (s : Session F) (a : Active F) : Bool :=
  decide (a.segmentDurationS * Floating.lit 1.0e9 <
    Floating.ofNat (s.now - a.segmentStarted - kMaximumSettleDuration))

/-- The gripper branch of `monitor_and_complete`. -/
def judgeGripper (s : Session F) (a : Active F) : Active F ⊕ Ending F :=
  let elapsed : F := seconds (s.now - a.segmentStarted)
  let selected := (List.finRange 2).filter fun side => gripperSide a.gripperSideMask side
  let opening (side : Side) : F := match s.gripperCalibration with
    | some calibration => (calibration side).openingM (s.measuredRawGripper side)
    | none => Floating.quietNaN
  let velocity (side : Side) : F := match s.gripperCalibration with
    | some calibration => (calibration side).velocityMS (s.lastSample side gripperMotor).rawDq
    | none => Floating.quietNaN
  let allAtTarget := selected.all fun side =>
    Floating.isFinite (opening side) && Floating.isFinite (velocity side) &&
      decide (Floating.abs (opening side - a.gripperTargetOpeningM side) ≤
        kGripperPositionToleranceM) &&
      decide (Floating.abs (velocity side) ≤ kGripperVelocityToleranceMS)
  let torqueContact := selected.any fun side =>
    decide (Floating.lit 0.90 * a.command.gripperTorqueLimitNm ≤
      Floating.abs (s.lastSample side gripperMotor).rawTau)
  let a := { a with
    contactStreak :=
      if a.command.gripperStopOnContact && torqueContact then a.contactStreak + 1 else 0
    settled :=
      if decide (a.segmentDurationS ≤ elapsed) && allAtTarget then a.settled + 1 else 0 }
  if kContactPersistenceCycles ≤ a.contactStreak then
    .inr { outcome := .completed, event := .stopped
           reason := "gripper_grasp_holding_on_encoder_torque_contact" }
  else if kSettleCycles ≤ a.settled then
    .inr { outcome := .completed, event := .completed
           reason := "gripper_completed_measured_feedback" }
  else if s.settlingExpired a then
    .inr { outcome := .aborted, event := .aborted
           reason := "gripper_settle_timeout_holding_measured_position", holdGripper := true }
  else .inl a

/-- The segment part of the arm branch: settle, advance or time out. -/
def judgeSegment (S : Setting F) (s : Session F) (measured : PairQ F) (a : Active F) :
    Active F ⊕ Ending F :=
  let elapsed : F := seconds (s.now - a.segmentStarted)
  if a.segmentDurationS ≤ elapsed then
    let maximumError := maxOverJoints (Floating.lit 0.0) fun side joint =>
      Floating.abs (measured side joint - a.segmentTarget side joint)
    let maximumVelocity := maxOverJoints (Floating.lit 0.0) fun side joint =>
      Floating.abs (S.calibration.signedValue side joint
        (s.lastSample side (jointMotor joint)).rawDq)
    let settled :=
      if decide (maximumError ≤ kPositionToleranceRad) &&
          decide (maximumVelocity ≤ kVelocityToleranceRadS) then a.settled + 1 else 0
    if kSettleCycles ≤ settled then
      match a.waypoints[a.waypoint + 1]? with
      | none =>
        .inr { outcome := .completed, event := .completed, reason := "completed_measured_feedback"
               endpoint := some (a.segmentTarget, a.endpointIntegralTau) }
      | some target =>
        -- each route leg starts from the encoder pose actually reached
        .inl { a with
          waypoint := a.waypoint + 1
          segmentStart := measured
          completedDurationS := a.completedDurationS + a.segmentDurationS
          segmentTarget := target
          segmentDurationS := trajectoryDurationS measured target a.command.motionLimitScale
          segmentStarted := s.now
          settled := 0 }
    else if s.settlingExpired a then
      .inr { outcome := .aborted, event := .aborted
             reason := "segment_settle_timeout_holding_measured_pose;error=" ++
               S.render maximumError ++ ";velocity=" ++ S.render maximumVelocity }
    else .inl { a with settled }
  else .inl a

/-- Some joint of either arm reads at least this fraction of its range. -/
def torqueContact (s : Session F) (fraction : F) : Bool :=
  (List.finRange 2).any fun side => (List.finRange 7).any fun joint =>
    decide (profileTmaxNm joint.val * fraction ≤
      Floating.abs (s.lastSample side (jointMotor joint)).rawTau)

/-- The arm branch of `monitor_and_complete`. -/
def judgeArms (S : Setting F) (s : Session F) (measured : PairQ F) (a : Active F) :
    Active F ⊕ Ending F :=
  let collision := collisionState S.model measured interventionClearanceM
    (if a.contactPolicy then .terminalCaps else .none)
  if !collision.evaluated then
    .inr { outcome := .aborted, event := .faulted, reason := "live_collision_evaluation_failed"
           fault := true }
  else if a.contactPolicy && collision.terminalPair && collision.clawContact then
    .inr { outcome := .completed, event := .stopped, reason := "converge_halted_on_proved_contact" }
  else if !collision.clear && Floating.isFinite a.previousClearance &&
      decide (collision.minimum < a.previousClearance - kClearanceWorseningEpsilon) then
    .inr { outcome := .aborted, event := .stopped, reason := "live_measured_collision_intervention" }
  else
    let a := { a with previousClearance := collision.minimum }
    if a.contactPolicy then
      let fraction := if Floating.lit 0.0 < a.command.contactTorqueFraction then
          a.command.contactTorqueFraction else kDefaultContactTorqueFraction
      let a := { a with
        contactStreak := if s.torqueContact fraction then a.contactStreak + 1 else 0 }
      if kContactPersistenceCycles ≤ a.contactStreak then
        .inr { outcome := .completed, event := .stopped
               reason := "converge_halted_on_encoder_torque_resistance" }
      else judgeSegment S s measured a
    else judgeSegment S s measured a

/-- The verdict on an active command: a requested stop comes first. -/
def judge (S : Setting F) (s : Session F) (measured : PairQ F) (a : Active F) :
    Active F ⊕ Ending F :=
  if s.cancelRequested then
    .inr { outcome := .canceled, event := .stopped
           reason := "software_stop_holding_measured_pose", holdGripper := a.gripperMotion }
  else if a.gripperMotion then s.judgeGripper a
  else judgeArms S s measured a

/-- A command that `monitor_and_complete` ended. -/
structure Terminal (F : Type) where
  command : SessionCommand F
  commandId : Nat
  ending : Ending F

/-- What the session holds once a command has ended: the endpoint it
    reached, else the measured pose. -/
def holdAfter (S : Setting F) (s : Session F) (measured : PairQ F) (a : Active F)
    (ending : Ending F) : Session F :=
  let hold := ending.endpoint.getD (measured, zeroQ)
  let s := { s with
    active := none
    targetRaw := rawFromModel S.calibration hold.1
    feedforwardModelTau := hold.2
    health := { s.health with commandId := 0 } }
  if ending.holdGripper then
    { s with
      gripperTargetOpeningM := onGrippers a.gripperSideMask
        (fun side => match s.gripperCalibration with
          | some calibration => (calibration side).openingM (s.measuredRawGripper side)
          | none => Floating.quietNaN) s.gripperTargetOpeningM
      gripperTorqueLimitNm := onGrippers a.gripperSideMask (fun _ => kGripperHoldTorqueNm)
        s.gripperTorqueLimitNm
      gripperExactRawHold := onGrippers a.gripperSideMask (fun _ => false)
        s.gripperExactRawHold }
  else s

/-- The block of `monitor_and_complete`. -/
def monitor (S : Setting F) (s : Session F) (measured : PairQ F) :
    Option (Terminal F) × Session F :=
  match s.active with
  | none => (none, s)
  | some a =>
    match judge S s measured a with
    | .inl a' => (none, { s with active := some a' })
    | .inr ending =>
      (some { command := a.command, commandId := a.commandId, ending },
        s.holdAfter S measured a ending)

/-- The block of `terminal_command`, after the callback. -/
def clearOwner (s : Session F) (owner reason : String) : Session F :=
  { s with
    owner := if s.owner = owner then "" else s.owner
    health := { s.health with
      owner := ""
      commandId := 0
      terminalFeedbackSeq := s.feedbackSequence
      adapterState := if s.armed then .idle
        else if s.estop then .stoppedRequiresRestart else .starting
      reason } }

/-- The block of `finish_active`: the active command, else the pending one,
    with its command id. -/
def finishBlock (s : Session F) : Option (SessionCommand F × Nat) × Session F :=
  match s.active, s.pending with
  | some a, _ => (some (a.command, a.commandId), { s with active := none })
  | none, some command => (some (command, 0), { s with pending := none })
  | none, none => (none, s)

/-! ## §6. Gripper calibration. -/

/-- The fresh closed positions `capture_grippers_closed` reads. -/
def closedSamples (s : Session F) : Option (Side → F) :=
  if (List.finRange 2).all fun side =>
      (s.lastSample side gripperMotor).valid &&
        !decide (kFeedbackWatchdog < s.now - s.lastFeedback side gripperMotor) then
    some fun side => (s.lastSample side gripperMotor).rawQ
  else none

/-- `capture_closed`. -/
def capturedCalibration (closed : Side → F) : Option (GripperCalibration F) :=
  if (List.finRange 2).all fun side => Floating.isFinite (closed side) then
    some fun side =>
      { closedMotorPositionRad := closed side
        openMotorPositionRad := closed side + kOfficialMotorTravelRad
        maximumOpeningM := kMaximumOpeningM }
  else none

end Session

end OpenArm.Real
