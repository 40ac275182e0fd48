/-
  OpenArm.Real.Programs — the operations of the physical session as programs.

  One action per block under `mutex_`, per access to an atomic, per use of
  `io_mutex_` and per burst of frames; what lies between two actions is
  local to its thread.  The functions follow the source one to one; the
  three loops without a bound of their own are procedures.
-/
import OpenArm.Lib.Program
import OpenArm.Real.Session

namespace OpenArm.Real

open OpenArm.Lib OpenArm.Control OpenArm.Model

variable {F : Type} [Rounding F]

/-! ## §1. Actions. -/

/-- The atomic actions. -/
inductive Op (F : Type) where
  -- atomics
  | loadSocket (side : Side)
  | loadConnected
  | loadArmed
  | loadEstop
  | loadRuntimeEstop
  | loadCancel
  | loadSequence (side : Side)
  | storeConnected (value : Bool)
  | storeArmed (value : Bool)
  | storeEstop (value : Bool)
  | storeCancel (value : Bool)
  | assertRuntimeEstop
  | clearRuntimeEstop
  | bumpSequence (side : Side)
  -- `io_mutex_`, the clock and the sockets
  | lockIo
  | unlockIo
  | clock
  | openSocket (side : Side)
  | closeSocket (side : Side)
  | sendDisable (side : Side)
  | sendRefresh (side : Side)
  | sendEnable (side : Side)
  | sendHold (side : Side) (gainScale : F)
  | requestRegister (side : Side) (motor : Motor) (register : Register) (value : Nat)
  | poll
  | readFrame (side : Side)
  -- members used under `io_mutex_` or by the worker alone
  | noteFailure (reason : String)
  | exchangeFailure
  | absorb (command : Bool) (got : Session.Collected F)
  | seedHold (measured : PairQ F)
  | storeMeasured (measured : PairQ F)
  | readFeedforward
  | plan (command : SessionCommand F) (start : PairQ F)
  -- blocks under `mutex_`
  | awaitWork
  | takePending
  | publishActive (planned : Active F)
  | updateReference
  | isExecuting
  | publishLifecycle (lifecycle : Lifecycle)
  | commandFeedback
  | monitor (measured : PairQ F)
  | clearOwner (owner reason : String)
  | finishBlock
  | setHealth (state : AdapterState) (reason : String) (lifecycle : Lifecycle)
  | stopMotion
  | reserve (owner : String)
  | submit (command : SessionCommand F)
  | cancel (owner : String)
  | release (owner reason : String)
  | beginClose
  | readHealth
  | isIdle
  -- callbacks and the worker thread
  | feedbackCallback (callback : Callback) (feedback : CommandFeedback F)
  | terminalCallback (callback : Callback) (result : CommandResult)
  | join
  | exitWorker
  -- gripper calibration
  | closedSamples
  | saveGripper (calibration : GripperCalibration F)
  | storeGripper (calibration : GripperCalibration F)

/-- What each action answers. -/
abbrev Op.Reply : Op F → Type
  | .loadSocket _ | .loadConnected | .loadArmed | .loadEstop | .loadRuntimeEstop
  | .loadCancel | .clearRuntimeEstop | .sendRefresh _ | .sendEnable _
  | .sendHold _ _ | .requestRegister _ _ _ _ | .awaitWork | .isExecuting | .cancel _
  | .release _ _
  | .beginClose | .isIdle | .feedbackCallback _ _ | .terminalCallback _ _ => Bool
  | .openSocket _ => Option SocketFailure
  | .saveGripper _ => Option String
  | .loadSequence _ | .clock => Nat
  | .poll => Side → Bool
  | .readFrame _ => Option (Incoming F)
  | .exchangeFailure => String
  | .absorb _ _ => Option (PairQ F)
  | .readFeedforward => PairQ F
  | .plan _ _ => Except String (Active F)
  | .takePending => Option (SessionCommand F × PairQ F)
  | .commandFeedback => Option (Callback × CommandFeedback F)
  | .monitor _ => Option (Session.Terminal F)
  | .finishBlock => Option (SessionCommand F × Nat)
  | .stopMotion | .reserve _ | .submit _ => Bool × String
  | .readHealth => SessionHealth
  | .closedSamples => Option (Side → F)
  | .storeConnected _ | .storeArmed _ | .storeEstop _ | .storeCancel _ | .assertRuntimeEstop
  | .bumpSequence _ | .lockIo | .unlockIo | .closeSocket _ | .sendDisable _ | .noteFailure _
  | .seedHold _ | .storeMeasured _ | .publishActive _ | .updateReference
  | .publishLifecycle _ | .clearOwner _ _ | .setHealth _ _ _ | .join
  | .exitWorker | .storeGripper _ => Unit

/-- The loops: `collect_feedback`, the register confirmation, the rounds of
    `disable_until_confirmed` and the worker. -/
inductive Proc (F : Type) where
  | collect (until_ : Nat) (got : Session.Collected F)
  | confirmRegister (side : Side) (motor : Motor) (register : Register) (value until_ : Nat)
  | disableRound (until_ : Nat)
  | workerLoop

abbrev Proc.Result : Proc F → Type
  | .collect _ _ => Session.Collected F
  | .confirmRegister _ _ _ _ _ => Bool
  | .disableRound _ => Bool
  | .workerLoop => Unit

/-- The actions and loops of the session. -/
abbrev sessionSig (F : Type) : Signature where
  Op := Op F
  Reply := Op.Reply
  Proc := Proc F
  Result := Proc.Result

/-- A program of the session. -/
abbrev Program (F α : Type) := Prog (sessionSig F) α

/-- Perform one action. -/
def op (o : Op F) : Program F o.Reply := @Prog.op (sessionSig F) o

/-- Enter one loop. -/
def enter (p : Proc F) : Program F p.Result := @Prog.enter (sessionSig F) p

/-! ## §2. Frames and feedback. -/

/-- `if (!step()) return false` for each active side in turn. -/
def onActiveSides (S : Setting F) (step : Side → Program F Bool) : Program F Bool := do
  let left ← (if S.sides.active 0 then step 0 else pure true)
  if !left then pure false
  else if S.sides.active 1 then step 1 else pure true

/-- `disable_all_immediate`. -/
def disableAllImmediate : Program F Unit := do
  op (.sendDisable 0)
  op (.sendDisable 1)

/-- `send_refresh_all`. -/
def sendRefreshAll (S : Setting F) : Program F Bool :=
  onActiveSides S fun side => op (.sendRefresh side)

/-- `send_enable_all`. -/
def sendEnableAll (S : Setting F) : Program F Bool :=
  onActiveSides S fun side => op (.sendEnable side)

/-- `send_hold_commands`. -/
def sendHoldCommands (S : Setting F) (gainScale : F) : Program F Bool :=
  onActiveSides S fun side => op (.sendHold side gainScale)

/-- `close_sockets`. -/
def closeSockets : Program F Unit := do
  op (.closeSocket 0)
  op (.closeSocket 1)

/-- Nothing received yet. -/
def nothingCollected : Session.Collected F := fun _ _ => none

/-- Read one frame of a side that is active and readable. -/
def readSide (S : Setting F) (ready : Side → Bool) (side : Side)
    (got : Session.Collected F) : Program F (Session.Collected F) :=
  if S.sides.active side && ready side then do
    let frame ← op (.readFrame side)
    pure (Session.collectFrame got side frame)
  else pure got

/-- The loop of `collect_feedback`. -/
def collectBody (S : Setting F) (until_ : Nat) (got : Session.Collected F) :
    Program F (Session.Collected F) :=
  if Session.completeFeedback S got then pure got
  else do
    let now ← op .clock
    if until_ ≤ now then pure got
    else do
      let ready ← op .poll
      if !ready 0 && !ready 1 then pure got
      else do
        let got ← readSide S ready 0 got
        let got ← readSide S ready 1 got
        enter (.collect until_ got)

/-- `collect_feedback`. -/
def collectFeedback (deadline : Nat) : Program F (Session.Collected F) := do
  let now ← op .clock
  enter (.collect (now + deadline) nothingCollected)

/-- `exchange_frames`. -/
def exchangeFrames (S : Setting F) (command : Bool) (gain : F) (deadline : Nat) :
    Program F (Option (PairQ F)) := do
  let sent ← (if command then sendHoldCommands S gain else sendRefreshAll S)
  if !sent then do
    op (.noteFailure "CAN command transmission failed")
    pure none
  else do
    let got ← collectFeedback deadline
    op (.absorb command got)

/-- The rounds of `disable_until_confirmed`. -/
def disableRoundBody (S : Setting F) (until_ : Nat) : Program F Bool := do
  disableAllImmediate
  let refreshed ← sendRefreshAll S
  let confirmed ← (if refreshed then do
      let got ← collectFeedback kDisableConfirmationPoll
      pure (Session.allDisabled S got)
    else pure false)
  if confirmed then pure true
  else do
    let now ← op .clock
    if now < until_ then enter (.disableRound until_) else pure false

/-- `sockets_[0].load() >= 0 || sockets_[1].load() >= 0`. -/
def anySocketOpen : Program F Bool := do
  let left ← op (.loadSocket 0)
  if left then pure true else op (.loadSocket 1)

/-- `disable_until_confirmed`. -/
def disableUntilConfirmed : Program F Bool := do
  let open_ ← anySocketOpen
  if !open_ then pure true
  else do
    let now ← op .clock
    enter (.disableRound (now + kDisableConfirmationWindow))

/-- The wait of `write_and_confirm_u32_register`. -/
def confirmRegisterBody (side : Side) (motor : Motor) (register : Register)
    (value until_ : Nat) : Program F Bool := do
  let now ← op .clock
  if until_ ≤ now then pure false
  else do
    let ready ← op .poll
    if !ready side then pure false
    else do
      let frame ← op (.readFrame side)
      if frame.bind Incoming.confirmation = some (motor, register, value) then pure true
      else enter (.confirmRegister side motor register value until_)

/-- `write_and_confirm_u32_register`: `none` when the motor confirmed, else
    the reason. -/
def writeAndConfirmRegister (S : Setting F) (side : Side) (motor : Motor)
    (register : Register) (value : Nat) (label : String) : Program F (Option String) := do
  let written ← op (.requestRegister side motor register value)
  if !written then
    pure (some ("could not request " ++ label ++ " for " ++
      Session.motorName S side motor " ID "))
  else do
    let now ← op .clock
    let confirmed ← enter (.confirmRegister side motor register value (now + kRegisterDeadline))
    if confirmed then pure none
    else pure (some (Session.motorName S side motor " ID " ++ " did not confirm " ++ label))

/-- `configure_motor_timeout`. -/
def configureMotorTimeout (S : Setting F) (side : Side) (motor : Motor) :
    Program F (Option String) :=
  writeAndConfirmRegister S side motor .timeout kMotorCanTimeoutTicks
    "volatile 200 ms communications timeout"

/-- `configure_gripper_position_force`. -/
def configureGripperPositionForce (S : Setting F) (side : Side) : Program F (Option String) :=
  writeAndConfirmRegister S side gripperMotor .ctrlMode kGripperControlModePositionForce
    "J8 position-force mode"

/-- The first step that gives a reason ends the list. -/
def firstReason : List (Program F (Option String)) → Program F (Option String)
  | [] => pure none
  | step :: steps => do
    match ← step with
    | some reason => pure (some reason)
    | none => firstReason steps

/-- The register writes of `connect_and_enable`. -/
def configureMotors (S : Setting F) : Program F (Option String) :=
  firstReason ((List.finRange 2).flatMap fun side =>
    if S.sides.active side then
      (List.finRange 8).map (configureMotorTimeout S side) ++
        [configureGripperPositionForce S side]
    else [])

/-! ## §3. Ending a command. -/

/-- `disable_and_close_for_fault`. -/
def disableAndCloseForFault : Program F Bool := do
  op (.storeArmed false)
  disableAllImmediate
  op .lockIo
  let confirmed ← disableUntilConfirmed
  closeSockets
  op .unlockIo
  op (.storeConnected false)
  pure confirmed

/-- The ends of the messages about a disable. -/
def disableNote (confirmed : Bool) : String :=
  if confirmed then "; all 16 motors confirmed disabled and CAN sockets closed"
  else "; disable unconfirmed for one or more motors; use the hardware stop"

/-- Both feedback sequence numbers. -/
def loadSequences : Program F (Side → Nat) := do
  let left ← op (.loadSequence 0)
  let right ← op (.loadSequence 1)
  pure ![left, right]

/-- `result.cause`. -/
def causeOf (event : EventKind) (reason : String) : StopCause :=
  if event = .completed then .planComplete
  else if event = .estop then .estop
  else if mentions reason "contact" || mentions reason "resistance" then .contact
  else if mentions reason "collision" then .keepout
  else .none

/-- `if (command.terminal) {terminal_ok = command.terminal(result);}`. -/
def callTerminal (command : SessionCommand F) (result : CommandResult) : Program F Bool :=
  match command.terminal with
  | none => pure true
  | some callback => op (.terminalCallback callback result)

/-- `terminal_command`. -/
def terminalCommand (command : SessionCommand F) (outcome : Outcome)
    (event : EventKind) (reason : String) (commandId : Nat) (seeds : Side → Nat) :
    Program F Unit := do
  let sequences ← loadSequences
  let armed ← op .loadArmed
  let estop ← (if armed then pure false else op .loadEstop)
  let authorized ← op .loadArmed
  let result : CommandResult :=
    { outcome
      runtimeOk := outcome == .completed || outcome == .canceled
      commandId
      seedFeedbackSeq := seeds
      terminalFeedbackSeq := sequences
      lifecycle := if armed then .armedIdle else if estop then .estop else .disarmed
      event
      cause := causeOf event reason
      motionAuthorized := authorized
      reason }
  let accepted ← callTerminal command result
  op (.clearOwner command.owner reason)
  if accepted then pure ()
  else do
    let confirmed ← disableAndCloseForFault
    op (.setHealth .fault ("terminal_callback_failed" ++ disableNote confirmed) .fault)

/-- `finish_active`. -/
def finishActive (outcome : Outcome) (event : EventKind) (reason : String) :
    Program F Unit := do
  match ← op .finishBlock with
  | none => pure ()
  | some (command, commandId) => do
    let seeds ← loadSequences
    terminalCommand command outcome event reason commandId seeds

/-- `fault_and_disable`. -/
def faultAndDisable (reason : String) : Program F Unit := do
  let confirmed ← disableAndCloseForFault
  finishActive .aborted .faulted reason
  op (.setHealth .fault (reason ++ disableNote confirmed) .fault)

/-! ## §4. The public operations. -/

/-- `feedback_sequence_[side].fetch_add` of an active side. -/
def bumpActive (S : Setting F) (side : Side) : Program F Unit :=
  if S.sides.active side then op (.bumpSequence side) else pure ()

/-- `publish_measured`; the state callback's answer is ignored. -/
def publishMeasured (S : Setting F) (lifecycle : Lifecycle) : Program F Unit := do
  bumpActive S 0
  bumpActive S 1
  op (.publishLifecycle lifecycle)

/-- At most `attempts` exchanges, until one succeeds. -/
def exchangeAttempts (S : Setting F) (command : Bool) (gain : F) (deadline : Nat) :
    Nat → Program F (Option (PairQ F))
  | 0 => pure none
  | attempts + 1 => do
    match ← exchangeFrames S command gain deadline with
    | some measured => pure (some measured)
    | none => exchangeAttempts S command gain deadline attempts

/-- `estop_.load() || oa_runtime_estop_asserted() != 0U`. -/
def anyEstop : Program F Bool := do
  let own ← op .loadEstop
  if own then pure true else op .loadRuntimeEstop

/-- `fail_connect_closed`, with the lock of its caller still held. -/
def failConnectClosed (failure : String) : Program F (Bool × String) := do
  disableAllImmediate
  let confirmed ← disableUntilConfirmed
  closeSockets
  op (.storeConnected false)
  let failure := if confirmed then failure else
    failure ++ "; one or more disabled states were not confirmed; use the hardware stop"
  op (.setHealth .fault failure .fault)
  pure (false, failure)

/-- The gain ramp: `steps` of fifty are left. -/
def gainRamp (S : Setting F) : Nat → Program F (Option String)
  | 0 => pure none
  | steps + 1 => do
    if ← anyEstop then pure (some "E-stop asserted during gain ramp")
    else
      let gain : F := Floating.ofNat (50 - steps) / Floating.lit 50.0
      match ← exchangeAttempts S true gain kConnectRampDeadline 3 with
      | none => do
        let failure ← op .exchangeFailure
        pure (some ("measured-pose gain ramp failed: " ++ failure))
      | some updated => do
        op (.storeMeasured updated)
        publishMeasured S .armedIdle
        gainRamp S steps

/-- One side of `open_sockets`: `none`, or the reason. -/
def openSide (S : Setting F) (side : Side) : Program F (Option String) :=
  if S.sides.active side then do
    let failure ← op (.openSocket side)
    pure (failure.map (SocketFailure.message (S.interfaceForSide side)))
  else pure none

/-- `open_sockets`: `none` when every active side is open, else the reason. -/
def openSockets (S : Setting F) : Program F (Option String) := do
  match ← firstReason [openSide S 0, openSide S 1] with
  | none => pure none
  | some reason => do
    closeSockets
    pure (some reason)

/-- The scope of the messages about a connection. -/
def connectScope (S : Setting F) : String :=
  if S.sides.both then "all 16 motors"
  else if S.sides.left then "left IDs 1..8 only" else "right IDs 1..8 only"

/-- `connect_and_enable` once the sockets are open. -/
def connectOpened (S : Setting F) : Program F (Bool × String) := do
  match ← exchangeAttempts S false (Floating.lit 0.0) kConnectSampleDeadline 5 with
  | none => failConnectClosed "did not receive fresh feedback from every motor on each active arm"
  | some measured =>
    if !qInLimits S.model measured then
      failConnectClosed "fresh encoders do not map inside the commissioned URDF joint limits"
    else if !(collisionState S.model measured interventionClearanceM .none).evaluated then
      failConnectClosed "the measured neutral pose could not be evaluated by the collision model"
    else
      match ← configureMotors S with
      | some reason => failConnectClosed reason
      | none => do
        op (.seedHold measured)
        -- seed zero-gain references while disabled, then enable
        let seeded ← sendHoldCommands S (Floating.lit 0.0)
        let enabled ← (if seeded then sendEnableAll S else pure false)
        if !enabled then
          failConnectClosed "failed while seeding measured targets or enabling motors"
        else do
          op (.storeArmed true)
          match ← gainRamp S 50 with
          | some failure => do
            op (.storeArmed false)
            failConnectClosed failure
          | none => do
            op (.setHealth .idle ("connected; " ++ connectScope S ++
              " enabled at measured pose") .armedIdle)
            pure (true, "connected to " ++ connectScope S ++
              "; encoder-seeded hold is active")

/-- `connect_and_enable` when it is connected. -/
def alreadyConnected : Program F (Bool × String) := do
  let live ← op .loadArmed
  let armed ← op .loadArmed
  pure (armed, if live then "already connected and motor control is enabled"
    else "already connected")

/-- `connect_and_enable` when it is not connected. -/
def connectClosed (S : Setting F) : Program F (Bool × String) := do
  match ← openSockets S with
  | some reason => pure (false, reason)
  | none => do
    op (.storeConnected true)
    connectOpened S

/-- `connect_and_enable`. -/
def connectAndEnable (S : Setting F) : Program F (Bool × String) := do
  if ← anyEstop then pure (false, "E-stop is latched; release it before connecting")
  else if !S.calibrationLoaded then
    pure (false, "saved neutral calibration is required before physical control: " ++
      S.calibrationDetail)
  else do
    op .lockIo
    let connected ← op .loadConnected
    let answer ← (if connected then alreadyConnected else connectClosed S)
    op .unlockIo
    pure answer

/-- `disconnect_and_disable`. -/
def disconnectAndDisable : Program F (Bool × String) := do
  let hadSockets ← anySocketOpen
  op (.storeCancel true)
  op (.storeArmed false)
  disableAllImmediate
  op .lockIo
  let confirmed ← (if hadSockets then disableUntilConfirmed else pure false)
  closeSockets
  op .unlockIo
  op (.storeConnected false)
  finishActive .aborted .disarmed "operator_disconnect_disable"
  let result :=
    if !hadSockets then "controller was already passive with no open CAN sockets"
    else if confirmed then
      "disconnected; every active motor confirmed disabled and sockets closed"
    else "disconnected after repeated disable, but not all motors confirmed disabled; " ++
      "use the hardware stop"
  let passive := !hadSockets || confirmed
  op (.setHealth (if passive then .starting else .fault) result
    (if passive then .disarmed else .fault))
  pure (passive, result)

/-- `emergency_stop`. -/
def emergencyStop : Program F (Bool × String) := do
  let hadSockets ← anySocketOpen
  op (.storeEstop true)
  op .assertRuntimeEstop
  op (.storeCancel true)
  op (.storeArmed false)
  disableAllImmediate
  disableAllImmediate
  disableAllImmediate
  op .lockIo
  let confirmed ← (if hadSockets then disableUntilConfirmed else pure false)
  closeSockets
  op .unlockIo
  op (.storeConnected false)
  finishActive .aborted .estop "software_estop_disable"
  let result :=
    if !hadSockets then "E-stop latched; controller was already passive with no open CAN sockets"
    else if confirmed then
      "E-stop latched; all 16 motors confirmed disabled and sockets closed"
    else "E-stop latched, but not all motors confirmed disabled; use the hardware stop"
  op (.setHealth .stoppedRequiresRestart result .estop)
  pure (!hadSockets || confirmed, result)

/-- `clear_emergency_stop`. -/
def clearEmergencyStop : Program F (Bool × String) := do
  let connected ← op .loadConnected
  let live ← (if connected then pure true else op .loadArmed)
  if live then pure (false, "refusing to clear E-stop while connected")
  else do
    let cleared ← op .clearRuntimeEstop
    if !cleared then pure (false, "runtime E-stop latch could not be cleared")
    else do
      op (.storeEstop false)
      op (.storeCancel false)
      op (.setHealth .starting
        "E-stop released; motors remain disabled until Connect is pressed" .disarmed)
      pure (true, "E-stop released; motors remain disabled and require an explicit Connect")

/-- `close`. -/
def close : Program F Unit := do
  let already ← op .beginClose
  if already then pure ()
  else do
    op (.storeArmed false)
    disableAllImmediate
    op .join
    op .lockIo
    let _ ← disableUntilConfirmed
    closeSockets
    op (.storeConnected false)
    op .unlockIo

/-- `capture_grippers_closed`. -/
def captureGrippersClosed (S : Setting F) : Program F (Bool × String) := do
  if !S.sides.both then
    pure (false, "paired gripper calibration is unavailable in single-arm mode")
  else
    let idle ← op .isIdle
    if !idle then pure (false, "gripper calibration requires an idle controller")
    else
      let connected ← op .loadConnected
      let live ← (if connected then op .loadArmed else pure false)
      if !live then pure (false, "connect first so both J8 encoders are fresh")
      else
        op .lockIo
        let closed ← op .closedSamples
        op .unlockIo
        match closed with
        | none => pure (false, "both J8 encoders must be fresh before capturing closed")
        | some closed =>
          match Session.capturedCalibration closed with
          | none => pure (false, "")
          | some captured =>
            match ← op (.saveGripper captured) with
            | some error => pure (false, error)
            | none => do
              op (.storeGripper captured)
              pure (true, "captured both closed J8 positions; " ++
                "official -1.0472 rad travel maps to 44 mm open")

/-! ## §5. The worker. -/

/-- `process_pending`. -/
def processPending : Program F Unit := do
  match ← op .takePending with
  | none => pure ()
  | some (pending, start) =>
    if ← op .loadCancel then
      terminalCommand pending .canceled .stopped "canceled_before_motion" 0 fun _ => 0
    else
      match ← op (.plan pending start) with
      | .error reason => do
        let seeds ← loadSequences
        terminalCommand pending .rejected .aborted reason 0 seeds
      | .ok planned => do
        -- carry the idle gravity compensation into the new trajectory
        let tau ← op .readFeedforward
        op (.publishActive { planned with endpointIntegralTau := tau })

/-- `publish_command_feedback`. -/
def publishCommandFeedback : Program F Unit := do
  match ← op .commandFeedback with
  | none => pure ()
  | some (callback, feedback) =>
    if ← op (.feedbackCallback callback feedback) then pure ()
    else op (.storeCancel true)

/-- `monitor_and_complete`. -/
def monitorAndComplete (measured : PairQ F) : Program F Unit := do
  match ← op (.monitor measured) with
  | none => pure ()
  | some terminal => do
    let confirmed ← (if terminal.ending.fault then disableAndCloseForFault else pure true)
    let seeds ← loadSequences
    terminalCommand terminal.command terminal.ending.outcome terminal.ending.event
      terminal.ending.reason terminal.commandId seeds
    if terminal.ending.fault then
      op (.setHealth .fault (terminal.ending.reason ++ disableNote confirmed) .fault)
    else pure ()

/-- The exchange of one cycle, under `io_mutex_`. -/
def cycleExchange (S : Setting F) : Program F (Option (PairQ F)) := do
  op .lockIo
  let armed ← op .loadArmed
  let measured ← (if armed then exchangeFrames S true (Floating.lit 1.0) kFeedbackDeadline
    else pure none)
  op .unlockIo
  pure measured

/-- What a cycle does with its exchange. -/
def cycleEnd (S : Setting F) : Option (PairQ F) → Program F Unit
  | none => do
    let armed ← op .loadArmed
    let live ← (if armed then op .loadConnected else pure false)
    if live then do
      let failure ← op .exchangeFailure
      faultAndDisable ("encoder_feedback_watchdog_expired: " ++ failure)
    else pure ()
  | some measured => do
    op (.storeMeasured measured)
    let executing ← op .isExecuting
    publishMeasured S (if executing then .executing else .armedIdle)
    publishCommandFeedback
    monitorAndComplete measured

/-- One armed cycle. -/
def armedCycle (S : Setting F) : Program F Unit := do
  processPending
  op .updateReference
  let measured ← cycleExchange S
  cycleEnd S measured

/-- One iteration of the worker while the session is armed. -/
def armedIteration (S : Setting F) : Program F Unit := do
  let latched ← anyEstop
  if latched then do
    let _ ← emergencyStop
    pure ()
  else armedCycle S

/-- `worker_main`. -/
def workerBody (S : Setting F) : Program F Unit := do
  let closing ← op .awaitWork
  if closing then do
    op (.storeArmed false)
    disableAllImmediate
    op .exitWorker
  else do
    let armed ← op .loadArmed
    (if armed then armedIteration S else processPending)
    enter .workerLoop

/-- The bodies of the loops. -/
def loopBody (S : Setting F) : (p : Proc F) → Program F p.Result
  | .collect until_ got => collectBody S until_ got
  | .confirmRegister side motor register value until_ =>
    confirmRegisterBody side motor register value until_
  | .disableRound until_ => disableRoundBody S until_
  | .workerLoop => workerBody S

end OpenArm.Real
