/-
  OpenArm.Can.Codec — the frame builders of `openarm_can.c`.

  A service request goes either to the motor itself (seven bytes of ones and
  a command byte) or to the id all motors listen to, with the target, an
  opcode, a register number and a value in the payload.  A motion command
  goes to the motor's own id, or to that id moved by a mode offset, and has
  no opcode: its payload is packed numbers.

  Every builder answers the frame, or the status with which it refuses.
-/
import OpenArm.Can.Types

namespace OpenArm.Can

open OpenArm.Lib

/-! ## §1. Checks. -/

/-- `oa_valid_standard_id`. -/
def validStandardId (id : Nat) : Bool := decide (0 < id) && decide (id ≤ sffMask)

/-- `oa_valid_type`. -/
def validType (motorType : Nat) : Bool :=
  motorType == motorDm8009 || motorType == motorDm4340 || motorType == motorDm4310

/-- `oa_register_metadata`. -/
def registerMetadata (rid : Nat) : Option RegisterInfo :=
  if rid ≤ ridSubVer ∨ (ridUOff ≤ rid ∧ rid ≤ ridDirection) ∨
      (ridMotorPosition ≤ rid ∧ rid ≤ ridOutputPosition) then
    some
      { valueType :=
          if (ridMstId ≤ rid ∧ rid ≤ ridCtrlMode) ∨ (ridHwVer ≤ rid ∧ rid ≤ ridNpp) ∨
            rid = ridCanBr ∨ rid = ridSubVer then .u32 else .f32
        writable := decide (rid ≤ ridCtrlMode ∨ (ridPmax ≤ rid ∧ rid ≤ ridCanBr)) }
  else none

/-- `oa_validate_register_u32`. -/
def validateRegisterU32 (rid : Nat) (value : BitVec 32) : CanStatus :=
  if (rid = ridMstId ∨ rid = ridEscId) ∧ sffMask < value.toNat then .erange
  else if rid = ridCtrlMode ∧ (value.toNat < 1 ∨ 4 < value.toNat) then .erange
  else if rid = ridCanBr ∧ 9 < value.toNat then .erange
  else .ok

/-- `oa_validate_register_f32`. -/
def validateRegisterF32 (rid : Nat) (value : Binary32) : CanStatus :=
  let v := value.toRat
  if !value.isFinite then .einval
  else if (rid = ridUvValue ∧ v ≤ 10) ∨ (rid = ridKtValue ∧ v < 0) ∨
      (rid = ridOtValue ∧ (v < 80 ∨ 200 ≤ v)) ∨ (rid = ridOcValue ∧ (v ≤ 0 ∨ 1 ≤ v)) ∨
      (rid = ridAcc ∧ v ≤ 0) ∨ (rid = ridDec ∧ 0 ≤ v) ∨ (rid = ridMaxSpd ∧ v ≤ 0) ∨
      ((rid = ridPmax ∨ rid = ridVmax ∨ rid = ridTmax) ∧ v ≤ 0) ∨
      (rid = ridIBw ∧ (v < 100 ∨ 10000 < v)) ∨ ((ridKpAsr ≤ rid ∧ rid ≤ ridKiApr) ∧ v < 0) ∨
      (rid = ridGref ∧ (v ≤ 0 ∨ 1 < v)) ∨ (rid = ridDeta ∧ (v < 1 ∨ 30 < v)) ∨
      (rid = ridVBw ∧ (v ≤ 0 ∨ 500 ≤ v)) ∨ (rid = ridIqC1 ∧ (v < 100 ∨ 10000 < v)) ∨
      (rid = ridVlC1 ∧ (v ≤ 0 ∨ 10000 < v)) then .erange
  else .ok

/-! ## §2. Service frames. -/

/-- `oa_fill_frame` with a payload. -/
def fillFrame (id : Nat) (data : Bytes) : Frame where
  canId := id
  dlc := 8
  data := data

/-- `oa_make_special`. -/
def makeSpecial (sendId : Nat) (lastByte : BitVec 8) : Except CanStatus Frame :=
  if !validStandardId sendId then .error .einval
  else .ok (fillFrame sendId ![0xff, 0xff, 0xff, 0xff, 0xff, 0xff, 0xff, lastByte])

/-- `oa_can_make_enable`. -/
def makeEnable (sendId : Nat) : Except CanStatus Frame := makeSpecial sendId 0xfc

/-- `oa_can_make_disable`. -/
def makeDisable (sendId : Nat) : Except CanStatus Frame := makeSpecial sendId 0xfd

/-- `oa_can_make_set_zero`. -/
def makeSetZero (sendId : Nat) : Except CanStatus Frame := makeSpecial sendId 0xfe

/-- `oa_can_make_clear_error`. -/
def makeClearError (sendId : Nat) : Except CanStatus Frame := makeSpecial sendId 0xfb

/-- A request to the shared id. -/
def serviceFrame (sendId : Nat) (opcode rid : BitVec 8) (value : Nat) : Frame :=
  fillFrame serviceId ![byte sendId, byte (sendId / 256), opcode, rid,
    byte value, byte (value / 256), byte (value / 65536), byte (value / 16777216)]

/-- `oa_can_make_save_parameters`. -/
def makeSaveParameters (sendId : Nat) : Except CanStatus Frame :=
  if !validStandardId sendId then .error .einval else .ok (serviceFrame sendId 0xaa 0 0)

/-- `oa_can_make_refresh_status`. -/
def makeRefreshStatus (sendId : Nat) : Except CanStatus Frame :=
  if !validStandardId sendId then .error .einval else .ok (serviceFrame sendId 0xcc 0 0)

/-- `oa_can_make_register_query`: any register number. -/
def makeRegisterQuery (sendId : Nat) (rid : BitVec 8) : Except CanStatus Frame :=
  if !validStandardId sendId then .error .einval else .ok (serviceFrame sendId 0x33 rid 0)

/-- `oa_validate_register_request`. -/
def validateRegisterRequest (request : RegisterRequest) : CanStatus :=
  if !validStandardId request.sendId || !validStandardId request.receiveId then .einval
  else match registerMetadata request.registerId with
    | none => .einval
    | some info => if request.valueType ≠ info.valueType then .einval else .ok

/-- `oa_can_make_register_query_typed`. -/
def makeRegisterQueryTyped (request : RegisterRequest) : Except CanStatus Frame :=
  if validateRegisterRequest request ≠ .ok then .error .einval
  else .ok (serviceFrame request.sendId 0x33 (byte request.registerId) 0)

/-- `oa_can_make_register_write`.  The unused value must be zero, a float of
    either sign. -/
def makeRegisterWrite (write : RegisterWrite) : Except CanStatus Frame :=
  if !validStandardId write.sendId then .error .einval
  else match registerMetadata write.registerId with
    | none => .error .einval
    | some info =>
      if !info.writable || write.valueType ≠ info.valueType then .error .einval
      else
        let made (status : CanStatus) (raw : BitVec 32) : Except CanStatus Frame :=
          if status ≠ .ok then .error status
          else .ok (serviceFrame write.sendId 0x55 (byte write.registerId) raw.toNat)
        match info.valueType with
        | .u32 =>
          if write.valueF32.toRat ≠ 0 ∨ write.valueF32.isFinite = false then .error .einval
          else made (validateRegisterU32 write.registerId write.valueU32) write.valueU32
        | .f32 =>
          if write.valueU32 ≠ 0 then .error .einval
          else made (validateRegisterF32 write.registerId write.valueF32) write.valueF32.bits

/-! ## §3. Numbers on the wire. -/

variable {F : Type}

section Numbers

variable [Wire F]

/-- `oa_valid_profile`. -/
def validProfile (profile : MitProfile F) : Bool :=
  let span (value : F) : Bool :=
    Floating.isFinite value && decide (Floating.lit 0 < value) &&
      decide (value ≤ Floating.lit Binary32.maxFinite)
  validStandardId profile.targetSendId && validStandardId profile.receiveId &&
    profile.verifiedMask == 7 && span profile.pmaxRad && span profile.vmaxRadS &&
    span profile.tmaxNm

/-- `oa_double_to_f32_bits`. -/
def doubleToF32Bits (value : F) : Option (BitVec 32) :=
  if !Floating.isFinite value || decide (value < -(Floating.lit Binary32.maxFinite)) ||
      decide (Floating.lit Binary32.maxFinite < value) then none
  else
    let converted := Wire.toBinary32 value
    if !converted.isFinite then none else some converted.bits

/-- `oa_to_uint`. -/
def toUint (value lower upper : F) (bits : Nat) : Nat :=
  wrap32 (Wire.trunc ((value - lower) * Floating.ofNat (2 ^ bits - 1) / (upper - lower)))

/-- `oa_limit_value`: the value, and whether it was saturated. -/
def limitValue (input lower upper : F) (policy : RangePolicy) : Except CanStatus (F × Bool) :=
  if !Floating.isFinite input then .error .einval
  else if input < lower ∨ upper < input then
    if policy ≠ .saturate then .error .erange
    else .ok (if input < lower then lower else upper, true)
  else .ok (input, false)

/-- The upper limits of a motor type; the lower ones are their negatives. -/
def limitsOf (motorType : Nat) : Limits F where
  positionMaxRad := Floating.lit 12.5
  velocityMaxRadS :=
    if motorType = motorDm8009 then Floating.lit 45
    else if motorType = motorDm4340 then Floating.lit 10 else Floating.lit 30
  torqueMaxNm :=
    if motorType = motorDm8009 then Floating.lit 54
    else if motorType = motorDm4340 then Floating.lit 28 else Floating.lit 10

/-- `oa_can_motor_limits`. -/
def motorLimits (motorType : Nat) : Except CanStatus (Limits F) :=
  if !validType motorType then .error .einval else .ok (limitsOf motorType)

/-! ## §4. Motion frames. -/

/-- The five packed numbers of a MIT command. -/
structure MitCodes where
  position : Nat
  velocity : Nat
  kp : Nat
  kd : Nat
  torque : Nat

/-- The payload of a MIT command. -/
def mitData (codes : MitCodes) : Bytes :=
  ![byte (codes.position >>> 8), byte codes.position, byte (codes.velocity >>> 4),
    byte (codes.velocity <<< 4 ||| codes.kp >>> 8), byte codes.kp, byte (codes.kd >>> 4),
    byte (codes.kd <<< 4 ||| codes.torque >>> 8), byte codes.torque]

/-- The numbers of a MIT command, before and after the limits. -/
structure MitValues (F : Type) where
  position : F
  velocity : F
  kp : F
  kd : F
  torque : F

/-- The limits of the five numbers, in order; the flags are the saturated
    mask. -/
def limitMitValues (values : MitValues F) (pmax vmax tmax : F) (policy : RangePolicy) :
    Except CanStatus (MitValues F × List Bool) := do
  let position ← limitValue values.position (-pmax) pmax policy
  let velocity ← limitValue values.velocity (-vmax) vmax policy
  let kp ← limitValue values.kp (Floating.lit 0) (Floating.lit 500) policy
  let kd ← limitValue values.kd (Floating.lit 0) (Floating.lit 5) policy
  let torque ← limitValue values.torque (-tmax) tmax policy
  return (⟨position.1, velocity.1, kp.1, kd.1, torque.1⟩,
    [position.2, velocity.2, kp.2, kd.2, torque.2])

/-- The codes of limited numbers. -/
def mitCodes (values : MitValues F) (pmax vmax tmax : F) : MitCodes where
  position := toUint values.position (-pmax) pmax 16
  velocity := toUint values.velocity (-vmax) vmax 12
  kp := toUint values.kp (Floating.lit 0) (Floating.lit 500) 12
  kd := toUint values.kd (Floating.lit 0) (Floating.lit 5) 12
  torque := toUint values.torque (-tmax) tmax 12

/-- `oa_encode_mit_values`. -/
def encodeMitValues (sendId : Nat) (values : MitValues F) (pmax vmax tmax : F)
    (policy : RangePolicy) : Except CanStatus (Frame × List Bool) :=
  let span (value : F) : Bool := Floating.isFinite value && decide (Floating.lit 0 < value)
  if !validStandardId sendId || !span pmax || !span vmax || !span tmax then .error .einval
  else do
    let limited ← limitMitValues values pmax vmax tmax policy
    return (fillFrame sendId (mitData (mitCodes limited.1 pmax vmax tmax)), limited.2)

/-- `oa_can_encode_mit`. -/
def encodeMit (command : MitCommand F) (policy : RangePolicy) :
    Except CanStatus (Frame × List Bool) :=
  if !validType command.motorType then .error .einval
  else do
    let limits ← motorLimits command.motorType
    encodeMitValues command.sendId
      ⟨command.positionRad, command.velocityRadS, command.kp, command.kd, command.torqueNm⟩
      limits.positionMaxRad limits.velocityMaxRadS limits.torqueMaxNm policy

/-- `oa_can_encode_mit_profile`. -/
def encodeMitProfile (command : MitProfileCommand F) (profile : MitProfile F) :
    Except CanStatus Frame :=
  if !validProfile profile || command.sendId != profile.targetSendId then .error .einval
  else do
    let encoded ← encodeMitValues command.sendId
      ⟨command.positionRad, command.velocityRadS, command.kp, command.kd, command.torqueNm⟩
      profile.pmaxRad profile.vmaxRadS profile.tmaxNm .reject
    return encoded.1

/-- A payload of two little-endian words. -/
def wordsData (low high : Nat) : Bytes :=
  ![byte low, byte (low / 256), byte (low / 65536), byte (low / 16777216),
    byte high, byte (high / 256), byte (high / 65536), byte (high / 16777216)]

/-- `oa_can_encode_pos_vel`. -/
def encodePosVel (command : PosVelCommand F) (profile : MitProfile F) : Except CanStatus Frame :=
  if !validProfile profile || command.sendId != profile.targetSendId ||
      !validStandardId command.sendId || decide (0x6ff < command.sendId) then .error .einval
  else if !Floating.isFinite command.positionRad || !Floating.isFinite command.maxVelocityRadS then
    .error .einval
  else if command.positionRad < -profile.pmaxRad ∨ profile.pmaxRad < command.positionRad ∨
      command.maxVelocityRadS < Floating.lit 0 ∨ profile.vmaxRadS < command.maxVelocityRadS then
    .error .erange
  else match doubleToF32Bits command.positionRad, doubleToF32Bits command.maxVelocityRadS with
    | some position, some velocity =>
      .ok (fillFrame (command.sendId + 0x100) (wordsData position.toNat velocity.toNat))
    | _, _ => .error .einval

/-- `(uint16_t)(value * scale)`. -/
def scaled (value : F) (scale : ℚ) : Nat := Wire.trunc (value * Floating.lit scale) % 2 ^ 16

/-- `oa_can_encode_pos_force`. -/
def encodePosForce (command : PosForceCommand F) (profile : MitProfile F) :
    Except CanStatus Frame :=
  if !validProfile profile || command.sendId != profile.targetSendId ||
      !validStandardId command.sendId || decide (0x4ff < command.sendId) then .error .einval
  else if !Floating.isFinite command.positionRad || !Floating.isFinite command.maxVelocityRadS ||
      !Floating.isFinite command.currentLimitPerUnit then .error .einval
  else if command.positionRad < -profile.pmaxRad ∨ profile.pmaxRad < command.positionRad ∨
      command.maxVelocityRadS < Floating.lit 0 ∨ profile.vmaxRadS < command.maxVelocityRadS ∨
      Floating.lit 100 < command.maxVelocityRadS ∨
      command.currentLimitPerUnit < Floating.lit 0 ∨
      Floating.lit 1 < command.currentLimitPerUnit then .error .erange
  else match doubleToF32Bits command.positionRad with
    | none => .error .einval
    | some position =>
      .ok (fillFrame (command.sendId + 0x300)
        (wordsData position.toNat
          (scaled command.maxVelocityRadS 100 + 65536 * scaled command.currentLimitPerUnit 10000)))

/-! ## §5. Gripper frames. -/

/-- `oa_valid_gripper_calibration`. -/
def validGripperCalibration (calibration : GripperCalibration F) : Bool :=
  Floating.isFinite calibration.closedMotorPositionRad &&
    Floating.isFinite calibration.openMotorPositionRad &&
    Floating.isFinite calibration.maximumOpeningM &&
    decide (Floating.lit 0 < calibration.maximumOpeningM) &&
    -- `!=` of two finite numbers
    (decide (calibration.openMotorPositionRad < calibration.closedMotorPositionRad) ||
      decide (calibration.closedMotorPositionRad < calibration.openMotorPositionRad))

/-- `oa_can_gripper_motor_position`. -/
def gripperMotorPosition (calibration : GripperCalibration F) (openingM : F) :
    Except CanStatus F :=
  if !validGripperCalibration calibration || !Floating.isFinite openingM then .error .einval
  else if openingM < Floating.lit 0 ∨ calibration.maximumOpeningM < openingM then .error .erange
  else
    let motorPosition :=
      -- past the range check, `==` an end is not being inside of it
      if ¬ Floating.lit 0 < openingM then calibration.closedMotorPositionRad
      else if ¬ openingM < calibration.maximumOpeningM then calibration.openMotorPositionRad
      else
        calibration.closedMotorPositionRad + openingM / calibration.maximumOpeningM *
          (calibration.openMotorPositionRad - calibration.closedMotorPositionRad)
    if !Floating.isFinite motorPosition then .error .erange else .ok motorPosition

/-- The position-force command of a gripper move. -/
def gripperWire (command : GripperCommand F) (calibration : GripperCalibration F)
    (profile : MitProfile F) : Except CanStatus (PosForceCommand F) :=
  if !validGripperCalibration calibration || !validProfile profile ||
      command.sendId != profile.targetSendId || !Floating.isFinite command.targetOpeningM ||
      !Floating.isFinite command.maximumOpeningSpeedMS ||
      !Floating.isFinite command.maximumMotorTorqueNm then .error .einval
  else if command.maximumOpeningSpeedMS < Floating.lit 0 ∨
      command.maximumMotorTorqueNm ≤ Floating.lit 0 ∨
      profile.tmaxNm < command.maximumMotorTorqueNm then .error .erange
  else do
    let motorPosition ← gripperMotorPosition calibration command.targetOpeningM
    let motorSpan := Floating.abs
      (calibration.openMotorPositionRad - calibration.closedMotorPositionRad)
    let motorSpeed := command.maximumOpeningSpeedMS * motorSpan / calibration.maximumOpeningM
    if !Floating.isFinite motorSpeed || decide (profile.vmaxRadS < motorSpeed) ||
        decide (Floating.lit 100 < motorSpeed) then throw .erange
    return { sendId := command.sendId
             positionRad := motorPosition
             maxVelocityRadS := motorSpeed
             currentLimitPerUnit := command.maximumMotorTorqueNm / profile.tmaxNm }

/-- `oa_can_encode_gripper_move`. -/
def encodeGripperMove (command : GripperCommand F) (calibration : GripperCalibration F)
    (profile : MitProfile F) : Except CanStatus Frame := do
  let wire ← gripperWire command calibration profile
  encodePosForce wire profile

/-- `oa_can_encode_gripper_endpoint`. -/
def encodeGripperEndpoint (sendId : Nat) (maximumOpeningSpeedMS maximumMotorTorqueNm
    targetOpeningM : F) (calibration : GripperCalibration F) (profile : MitProfile F) :
    Except CanStatus Frame :=
  encodeGripperMove ⟨sendId, targetOpeningM, maximumOpeningSpeedMS, maximumMotorTorqueNm⟩
    calibration profile

/-- `oa_can_encode_gripper_open`. -/
def encodeGripperOpen (sendId : Nat) (maximumOpeningSpeedMS maximumMotorTorqueNm : F)
    (calibration : GripperCalibration F) (profile : MitProfile F) : Except CanStatus Frame :=
  encodeGripperEndpoint sendId maximumOpeningSpeedMS maximumMotorTorqueNm
    calibration.maximumOpeningM calibration profile

/-- `oa_can_encode_gripper_close`. -/
def encodeGripperClose (sendId : Nat) (maximumOpeningSpeedMS maximumMotorTorqueNm : F)
    (calibration : GripperCalibration F) (profile : MitProfile F) : Except CanStatus Frame :=
  encodeGripperEndpoint sendId maximumOpeningSpeedMS maximumMotorTorqueNm (Floating.lit 0)
    calibration profile

/-- `oa_can_encode_gripper_grasp`. -/
def encodeGripperGrasp (sendId : Nat) (maximumOpeningSpeedMS maximumMotorTorqueNm : F)
    (calibration : GripperCalibration F) (profile : MitProfile F) : Except CanStatus Frame :=
  encodeGripperClose sendId maximumOpeningSpeedMS maximumMotorTorqueNm calibration profile

end Numbers

end OpenArm.Can
