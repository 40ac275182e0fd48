/-
  OpenArm.Can.Types — frames, registers and commands of `openarm_can.h`.

  Records keep the members a function reads, past their size and version
  words; a frame that comes from a transport keeps the two words, which the
  probe checks.  Arbitration ids and register numbers are natural numbers,
  the bytes of a frame are bytes.
-/
import OpenArm.Lib.Binary32
import Mathlib

namespace OpenArm.Can

open OpenArm.Lib

/-! ## §1. Statuses and frames. -/

/-- `oa_can_status`. -/
inductive CanStatus where
  | ok | einval | erange | eframe | eid | efault | estate | etimeout | eio | enomem | eunsupported
  deriving DecidableEq, Repr

/-- The eight payload bytes. -/
abbrev Bytes := Fin 8 → BitVec 8

/-- `oa_can_frame`, past its size and version words. -/
structure Frame where
  canId : Nat
  dlc : Nat
  data : Bytes
  deriving DecidableEq

/-- `OA_CAN_SFF_MASK`. -/
def sffMask : Nat := 0x7ff

/-- The id every service request is sent to. -/
def serviceId : Nat := 0x7ff

/-- `OA_CAN_EFF_FLAG | OA_CAN_RTR_FLAG | OA_CAN_ERR_FLAG`. -/
def idFlags : Nat := 0xe0000000

/-- The low byte of a word. -/
def byte (n : Nat) : BitVec 8 := BitVec.ofNat 8 n

/-- The first two bytes as a number, low byte first. -/
def Frame.target (f : Frame) : Nat := (f.data 0).toNat + 256 * (f.data 1).toNat

/-- The last four bytes as a number, low byte first. -/
def Frame.value (f : Frame) : Nat :=
  (f.data 4).toNat + 256 * (f.data 5).toNat + 65536 * (f.data 6).toNat +
    16777216 * (f.data 7).toNat

/-- The payload written from its eight bytes. -/
theorem data_eq_iff {d : Bytes} {b₀ b₁ b₂ b₃ b₄ b₅ b₆ b₇ : BitVec 8} :
    d = ![b₀, b₁, b₂, b₃, b₄, b₅, b₆, b₇] ↔
      d 0 = b₀ ∧ d 1 = b₁ ∧ d 2 = b₂ ∧ d 3 = b₃ ∧ d 4 = b₄ ∧ d 5 = b₅ ∧ d 6 = b₆ ∧ d 7 = b₇ := by
  constructor
  · rintro rfl
    exact ⟨rfl, rfl, rfl, rfl, rfl, rfl, rfl, rfl⟩
  · rintro ⟨h₀, h₁, h₂, h₃, h₄, h₅, h₆, h₇⟩
    funext i
    fin_cases i
    · exact h₀
    · exact h₁
    · exact h₂
    · exact h₃
    · exact h₄
    · exact h₅
    · exact h₆
    · exact h₇

/-! ## §2. Motors and registers. -/

/-- `OA_CAN_MOTOR_DM8009`. -/
def motorDm8009 : Nat := 1

/-- `OA_CAN_MOTOR_DM4340`. -/
def motorDm4340 : Nat := 2

/-- `OA_CAN_MOTOR_DM4310`. -/
def motorDm4310 : Nat := 3

/-- `oa_can_register_value_type`. -/
inductive RegisterValueType where
  | u32 | f32
  deriving DecidableEq, Repr

/-- What is known of a register. -/
structure RegisterInfo where
  valueType : RegisterValueType
  writable : Bool
  deriving DecidableEq

/-! Register numbers, `OA_CAN_RID_*`. -/

def ridUvValue : Nat := 0
def ridKtValue : Nat := 1
def ridOtValue : Nat := 2
def ridOcValue : Nat := 3
def ridAcc : Nat := 4
def ridDec : Nat := 5
def ridMaxSpd : Nat := 6
def ridMstId : Nat := 7
def ridEscId : Nat := 8
def ridCtrlMode : Nat := 10
def ridHwVer : Nat := 13
def ridNpp : Nat := 16
def ridPmax : Nat := 21
def ridVmax : Nat := 22
def ridTmax : Nat := 23
def ridIBw : Nat := 24
def ridKpAsr : Nat := 25
def ridKiApr : Nat := 28
def ridGref : Nat := 30
def ridDeta : Nat := 31
def ridVBw : Nat := 32
def ridIqC1 : Nat := 33
def ridVlC1 : Nat := 34
def ridCanBr : Nat := 35
def ridSubVer : Nat := 36
def ridUOff : Nat := 50
def ridDirection : Nat := 55
def ridMotorPosition : Nat := 80
def ridOutputPosition : Nat := 81

/-- `oa_can_register_request`. -/
structure RegisterRequest where
  sendId : Nat
  receiveId : Nat
  registerId : Nat
  valueType : RegisterValueType

/-- `oa_can_register_write`. -/
structure RegisterWrite where
  sendId : Nat
  registerId : Nat
  valueType : RegisterValueType
  valueU32 : BitVec 32
  valueF32 : Binary32

/-- The write whose value is a raw word, the other value being zero. -/
def RegisterWrite.ofRaw (sendId registerId : Nat) (valueType : RegisterValueType)
    (raw : BitVec 32) : RegisterWrite where
  sendId := sendId
  registerId := registerId
  valueType := valueType
  valueU32 := if valueType = .u32 then raw else 0
  valueF32 := if valueType = .f32 then ⟨raw⟩ else ⟨0⟩

/-! ## §3. Motion commands. -/

/-- `oa_can_range_policy`. -/
inductive RangePolicy where
  | reject | saturate
  deriving DecidableEq, Repr

/-- The members of `oa_can_limits` an encoder or a decoder reads. -/
structure Limits (F : Type) where
  positionMaxRad : F
  velocityMaxRadS : F
  torqueMaxNm : F

/-- `oa_can_mit_command`. -/
structure MitCommand (F : Type) where
  sendId : Nat
  motorType : Nat
  positionRad : F
  velocityRadS : F
  kp : F
  kd : F
  torqueNm : F

/-- `oa_can_mit_profile`. -/
structure MitProfile (F : Type) where
  targetSendId : Nat
  receiveId : Nat
  pmaxRad : F
  vmaxRadS : F
  tmaxNm : F
  verifiedMask : Nat

/-- `oa_can_mit_profile_command`. -/
structure MitProfileCommand (F : Type) where
  sendId : Nat
  positionRad : F
  velocityRadS : F
  kp : F
  kd : F
  torqueNm : F

/-- `oa_can_pos_vel_command`. -/
structure PosVelCommand (F : Type) where
  sendId : Nat
  positionRad : F
  maxVelocityRadS : F

/-- `oa_can_pos_force_command`. -/
structure PosForceCommand (F : Type) where
  sendId : Nat
  positionRad : F
  maxVelocityRadS : F
  currentLimitPerUnit : F

/-- `oa_can_gripper_calibration`. -/
structure GripperCalibration (F : Type) where
  closedMotorPositionRad : F
  openMotorPositionRad : F
  maximumOpeningM : F

/-- `oa_can_gripper_command`. -/
structure GripperCommand (F : Type) where
  sendId : Nat
  targetOpeningM : F
  maximumOpeningSpeedMS : F
  maximumMotorTorqueNm : F

end OpenArm.Can
