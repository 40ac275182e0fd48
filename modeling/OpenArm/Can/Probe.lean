/-
  OpenArm.Can.Probe — `oa_can_probe_expected`.

  The probe asks every motor of a manifest for its status and judges what it
  then receives: each frame passes the filters in order and is counted once,
  and the verdict looks at the masks the frames left.
-/
import OpenArm.Can.Codec

namespace OpenArm.Can

open OpenArm.Lib

/-! ## §1. Manifests. -/

/-- `oa_can_joint_mapping`. -/
structure JointMapping (F : Type) where
  positionScale : F
  positionOffsetRad : F
  velocityScale : F
  torqueScale : F

/-- `oa_can_motor_manifest`. -/
structure MotorManifest (F : Type) where
  jointIndex : Nat
  expectedMotorId : Nat
  sendId : Nat
  receiveId : Nat
  decodeMotorType : Nat
  mapping : JointMapping F
  jointName : Fin 32 → BitVec 8
  commissionedSerial : Fin 32 → BitVec 8

/-- `OA_CAN_MAX_MOTORS`. -/
def maxMotors : Nat := 8

/-- A text that ends within its field. -/
def terminated (text : Fin 32 → BitVec 8) : Bool := (List.finRange 32).any fun i => text i == 0

variable {F : Type} [Wire F]

/-- The checks on one mapping factor: finite and not zero. -/
def validScale (scale : F) : Bool :=
  Floating.isFinite scale &&
    (decide (scale < Floating.lit 0) || decide (Floating.lit 0 < scale))

/-- The checks of `oa_can_validate_manifest` on one motor. -/
def validMotor (motor : MotorManifest F) : Bool :=
  decide (motor.jointIndex < maxMotors) && decide (motor.expectedMotorId ≤ 15) &&
    validStandardId motor.sendId && validStandardId motor.receiveId &&
    validType motor.decodeMotorType && validScale motor.mapping.positionScale &&
    Floating.isFinite motor.mapping.positionOffsetRad &&
    validScale motor.mapping.velocityScale && validScale motor.mapping.torqueScale &&
    motor.jointName 0 != 0 && terminated motor.jointName && terminated motor.commissionedSerial

/-- Two motors share no joint, id or embedded id. -/
def motorsDiffer (prior motor : MotorManifest F) : Bool :=
  prior.jointIndex != motor.jointIndex && prior.sendId != motor.sendId &&
    prior.receiveId != motor.receiveId && prior.expectedMotorId != motor.expectedMotorId

/-- The loop of `oa_can_validate_manifest`: each motor against the ones
    before it. -/
def validMotors : List (MotorManifest F) → List (MotorManifest F) → Bool
  | _, [] => true
  | prior, motor :: motors =>
    validMotor motor && prior.all (motorsDiffer · motor) && validMotors (prior ++ [motor]) motors

/-- `oa_can_validate_manifest`. -/
def validateManifest (motors : List (MotorManifest F)) : CanStatus :=
  if motors.length = 0 ∨ maxMotors < motors.length then .einval
  else if validMotors [] motors then .ok else .einval

/-! ## §2. Feedback. -/

/-- `OA_CAN_FEEDBACK_DISABLED`. -/
def feedbackDisabled : Nat := 0

/-- `OA_CAN_FEEDBACK_ENABLED`. -/
def feedbackEnabled : Nat := 1

/-- `oa_known_feedback_status`: also the faults from over-voltage to
    overload. -/
def knownFeedbackStatus (status : Nat) : Bool :=
  status == feedbackDisabled || status == feedbackEnabled ||
    (decide (8 ≤ status) && decide (status ≤ 14))

/-- `oa_can_feedback`. -/
structure Feedback (F : Type) where
  receiveId : Nat
  motorId : Nat
  statusNibble : Nat
  positionRad : F
  velocityRadS : F
  torqueNm : F
  mosTemperatureC : Nat
  rotorTemperatureC : Nat

/-- `oa_from_uint`. -/
def fromUint (value : Nat) (lower upper : F) (bits : Nat) : F :=
  Floating.ofNat value / Floating.ofNat (2 ^ bits - 1) * (upper - lower) + lower

/-- `oa_clean_standard_frame`, past the version words. -/
def cleanStandardFrame (frame : Frame) (expectedDlc : Nat) : Bool :=
  frame.canId &&& idFlags == 0 && decide (frame.canId ≤ sffMask) && frame.dlc == expectedDlc

/-- `oa_decode_feedback_ranges`: the status, and the record where it was
    filled. -/
def decodeFeedbackRanges (frame : Frame) (expectedReceiveId expectedMotorId : Nat)
    (pmax vmax tmax : F) : CanStatus × Option (Feedback F) :=
  let span (value : F) : Bool := Floating.isFinite value && decide (Floating.lit 0 < value)
  if !validStandardId expectedReceiveId || decide (15 < expectedMotorId) || !span pmax ||
      !span vmax || !span tmax then (.einval, none)
  else if !cleanStandardFrame frame 8 then (.eframe, none)
  else if frame.canId ≠ expectedReceiveId then (.eid, none)
  else
    let motorId := (frame.data 0).toNat % 16
    let statusNibble := (frame.data 0).toNat / 16
    if motorId ≠ expectedMotorId then (.eid, none)
    else if !knownFeedbackStatus statusNibble then (.eframe, none)
    else
      (if statusNibble = feedbackEnabled ∨ statusNibble = feedbackDisabled then .ok else .efault,
        some
          { receiveId := expectedReceiveId
            motorId := motorId
            statusNibble := statusNibble
            positionRad := fromUint
              ((frame.data 1).toNat * 256 + (frame.data 2).toNat) (-pmax) pmax 16
            velocityRadS := fromUint
              ((frame.data 3).toNat * 16 + (frame.data 4).toNat / 16) (-vmax) vmax 12
            torqueNm := fromUint
              ((frame.data 4).toNat % 16 * 256 + (frame.data 5).toNat) (-tmax) tmax 12
            mosTemperatureC := (frame.data 6).toNat
            rotorTemperatureC := (frame.data 7).toNat })

/-- `oa_can_decode_feedback`. -/
def decodeFeedback (frame : Frame) (expectedReceiveId expectedMotorId motorType : Nat) :
    CanStatus × Option (Feedback F) :=
  if !validType motorType then (.einval, none)
  else
    let limits : Limits F := limitsOf motorType
    decodeFeedbackRanges frame expectedReceiveId expectedMotorId limits.positionMaxRad
      limits.velocityMaxRadS limits.torqueMaxNm

/-- What decoding for a motor of the manifest answers. -/
def MotorManifest.decode (motor : MotorManifest F) (frame : Frame) :
    CanStatus × Option (Feedback F) :=
  decodeFeedback frame motor.receiveId motor.expectedMotorId motor.decodeMotorType

/-! ## §3. The probe. -/

/-- `oa_can_received_frame`, with the version words of its frame. -/
structure ReceivedFrame where
  structSize : Nat
  abiVersion : Nat
  receivedMonotonicNs : Nat
  frame : Frame

/-- `oa_valid_frame`. -/
def ReceivedFrame.valid (received : ReceivedFrame) : Bool :=
  decide (24 ≤ received.structSize) && received.abiVersion == 2

/-- `oa_can_transport`: what each call answers.  The calls of one function are
    numbered. -/
structure CanTransport where
  now : CanStatus × Nat
  send : Nat → Frame → CanStatus × Nat
  receive : Nat → Nat → Except CanStatus ReceivedFrame

/-- `oa_can_probe_options`. -/
structure ProbeOptions where
  timeoutNs : Nat
  maxReceiveFrames : Nat

/-- `oa_can_probe_report`. -/
structure ProbeReport where
  expectedMask : Nat
  freshMask : Nat
  faultMask : Nat
  duplicateMask : Nat
  enabledMask : Nat
  unexpectedFrames : Nat
  invalidFrames : Nat
  staleFrames : Nat
  receivedFrames : Nat
  refreshFramesSent : Nat
  receiveLimitReached : Bool
  deadlineMonotonicNs : Nat
  deriving DecidableEq

/-- `oa_clear_output` of a report. -/
def ProbeReport.zero : ProbeReport := ⟨0, 0, 0, 0, 0, 0, 0, 0, 0, 0, false, 0⟩

/-- The first motor that answers under an id. -/
def matchingMotor (motors : List (MotorManifest F)) (canId : Nat) :
    Option (Nat × MotorManifest F) :=
  match motors.findIdx? fun motor => motor.receiveId == canId with
  | none => none
  | some index => motors[index]?.map fun motor => (index, motor)

/-- What one received frame does to the report. -/
def probeFrame (motors : List (MotorManifest F)) (epochs : List Nat) (report : ProbeReport)
    (received : ReceivedFrame) : ProbeReport :=
  let report := { report with receivedFrames := report.receivedFrames + 1 }
  if !received.valid || decide (report.deadlineMonotonicNs < received.receivedMonotonicNs) then
    { report with invalidFrames := report.invalidFrames + 1 }
  else match matchingMotor motors received.frame.canId with
    | none => { report with unexpectedFrames := report.unexpectedFrames + 1 }
    | some (matching, motor) =>
      if received.receivedMonotonicNs ≤ epochs.getD matching 0 then
        { report with staleFrames := report.staleFrames + 1 }
      else match motor.decode received.frame with
        | (_, none) => { report with invalidFrames := report.invalidFrames + 1 }
        | (result, some feedback) =>
          if feedback.statusNibble = feedbackEnabled then
            { report with enabledMask := report.enabledMask ||| 1 <<< matching }
          else if result = .efault then
            { report with faultMask := report.faultMask ||| 1 <<< matching }
          else
            { report with
              duplicateMask :=
                if report.freshMask &&& 1 <<< matching ≠ 0 then
                  report.duplicateMask ||| 1 <<< matching
                else report.duplicateMask
              freshMask := report.freshMask ||| 1 <<< matching }

/-- The request loop: a refresh to every motor, and the epochs of the sends. -/
def sendRefreshes (t : CanTransport) : List (MotorManifest F) → List Nat → ProbeReport →
    Except (CanStatus × ProbeReport) (List Nat × ProbeReport)
  | [], epochs, report => .ok (epochs, report)
  | motor :: motors, epochs, report =>
    match makeRefreshStatus motor.sendId with
    | .error status => .error (status, report)
    | .ok refresh =>
      match t.send epochs.length refresh with
      | (.ok, epoch) =>
        sendRefreshes t motors (epochs ++ [epoch])
          { report with
            expectedMask := report.expectedMask ||| 1 <<< epochs.length
            refreshFramesSent := report.refreshFramesSent + 1 }
      | (status, _) => .error (status, report)

/-- The receive loop from call `index` on, at most `budget` frames: the error
    that ended it, or the report. -/
def receiveLoop (t : CanTransport) (motors : List (MotorManifest F)) (epochs : List Nat) :
    Nat → Nat → ProbeReport → Except (CanStatus × ProbeReport) ProbeReport
  | 0, _, report => .ok { report with receiveLimitReached := true }
  | budget + 1, index, report =>
    match t.receive report.deadlineMonotonicNs index with
    | .error .etimeout => .ok report
    | .error status => .error (status, report)
    | .ok received =>
      receiveLoop t motors epochs budget (index + 1) (probeFrame motors epochs report received)

/-- The verdict over a report. -/
def verdict (report : ProbeReport) : CanStatus :=
  if report.enabledMask ≠ 0 then .estate
  else if report.faultMask ≠ 0 ∨ report.duplicateMask ≠ 0 then .efault
  else if report.receiveLimitReached then .etimeout
  else if report.freshMask ≠ report.expectedMask ∨ report.staleFrames ≠ 0 then .etimeout
  else .ok

/-- `oa_can_probe_expected`. -/
def probeExpected (t : CanTransport) (motors : List (MotorManifest F)) (options : ProbeOptions) :
    CanStatus × ProbeReport :=
  if options.timeoutNs = 0 ∨ options.maxReceiveFrames = 0 then (.einval, .zero)
  else if validateManifest motors ≠ .ok then (validateManifest motors, .zero)
  else match sendRefreshes t motors [] .zero with
    | .error out => out
    | .ok (epochs, report) =>
      if t.now.1 ≠ .ok ∨ maxU64 - t.now.2 < options.timeoutNs then (.eio, report)
      else if epochs.any fun epoch => decide (t.now.2 < epoch) then (.eio, report)
      else
        match receiveLoop t motors epochs options.maxReceiveFrames 0
            { report with deadlineMonotonicNs := t.now.2 + options.timeoutNs } with
        | .error out => out
        | .ok report => (verdict report, report)

end OpenArm.Can
