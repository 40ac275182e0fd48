/-
  OpenArm.Can.Families — what tells a motion frame from a service frame.

  A service frame is recognised by its bytes: the id, the opcode and a value
  that its register accepts, or seven bytes of ones and a command byte.  A
  motion frame has numbers in the same places, and its id may be the shared
  one: then the numbers decide what the frame is.

  Main results:
    * `serviceFrame_iff`   — service frames by their bytes.
    * `motion_aliases_iff` — the motion commands whose frame is a service
      frame.
    * `full_scale_enables` — a full-scale command that is an enable frame.
-/
import OpenArm.Can.Codec

namespace OpenArm.Can

open OpenArm.Lib

/-! ## §1. Bytes. -/

@[simp] theorem toNat_byte (n : Nat) : (byte n).toNat = n % 256 := by
  unfold byte
  rw [BitVec.toNat_ofNat]

theorem byte_eq_iff {n : Nat} {b : BitVec 8} : byte n = b ↔ n % 256 = b.toNat := by
  rw [← toNat_byte, ← BitVec.toNat_inj]

theorem eq_byte_iff {n : Nat} {b : BitVec 8} : b = byte n ↔ b.toNat = n % 256 := by
  rw [← toNat_byte, ← BitVec.toNat_inj]

theorem validStandardId_iff {id : Nat} : validStandardId id = true ↔ 0 < id ∧ id ≤ 0x7ff := by
  unfold validStandardId sffMask
  rw [Bool.and_eq_true, decide_eq_true_eq, decide_eq_true_eq]

/-- A request to the shared id, by its parts. -/
theorem eq_serviceFrame_iff {f : Frame} {sendId value : Nat} {opcode rid : BitVec 8}
    (hid : sendId < 65536) (hvalue : value < 2 ^ 32) :
    f = serviceFrame sendId opcode rid value ↔
      f.canId = serviceId ∧ f.dlc = 8 ∧ f.target = sendId ∧ f.data 2 = opcode ∧
        f.data 3 = rid ∧ f.value = value := by
  obtain ⟨canId, dlc, data⟩ := f
  unfold serviceFrame fillFrame Frame.target Frame.value
  rw [Frame.mk.injEq, data_eq_iff]
  simp only [eq_byte_iff]
  have hbyte := fun i => (data i).isLt
  have h₀ := hbyte 0
  have h₁ := hbyte 1
  have h₄ := hbyte 4
  have h₅ := hbyte 5
  have h₆ := hbyte 6
  have h₇ := hbyte 7
  constructor
  · rintro ⟨hcan, hdlc, h0, h1, h2, h3, h4, h5, h6, h7⟩
    exact ⟨hcan, hdlc, by omega, h2, h3, by omega⟩
  · rintro ⟨hcan, hdlc, htarget, h2, h3, hval⟩
    exact ⟨hcan, hdlc, by omega, by omega, h2, h3, by omega, by omega, by omega, by omega⟩

/-! ## §2. Service frames. -/

/-- The frames of the service builders, for any accepted arguments. -/
inductive ServiceFrame (f : Frame) : Prop where
  | enable (sendId : Nat) (made : makeEnable sendId = .ok f)
  | disable (sendId : Nat) (made : makeDisable sendId = .ok f)
  | setZero (sendId : Nat) (made : makeSetZero sendId = .ok f)
  | clearError (sendId : Nat) (made : makeClearError sendId = .ok f)
  | saveParameters (sendId : Nat) (made : makeSaveParameters sendId = .ok f)
  | refreshStatus (sendId : Nat) (made : makeRefreshStatus sendId = .ok f)
  | registerQuery (sendId : Nat) (rid : BitVec 8) (made : makeRegisterQuery sendId rid = .ok f)
  | registerQueryTyped (request : RegisterRequest) (made : makeRegisterQueryTyped request = .ok f)
  | registerWrite (write : RegisterWrite) (made : makeRegisterWrite write = .ok f)

/-- The value is one a write of the register accepts. -/
def WritableValue (rid value : Nat) : Prop :=
  ∃ info, registerMetadata rid = some info ∧ info.writable = true ∧
    match info.valueType with
    | .u32 => validateRegisterU32 rid (BitVec.ofNat 32 value) = .ok
    | .f32 => validateRegisterF32 rid ⟨BitVec.ofNat 32 value⟩ = .ok

/-- What a payload at the shared id has to say. -/
def ServicePayload (target opcode rid value : Nat) : Prop :=
  validStandardId target = true ∧
    (((opcode = 0xcc ∨ opcode = 0xaa) ∧ rid = 0 ∧ value = 0) ∨ (opcode = 0x33 ∧ value = 0) ∨
      (opcode = 0x55 ∧ WritableValue rid value))

/-- Seven bytes of ones and a command byte, to the motor itself. -/
def Special (f : Frame) : Prop :=
  validStandardId f.canId = true ∧ f.dlc = 8 ∧
    ∃ last ∈ [(0xfb : BitVec 8), 0xfc, 0xfd, 0xfe],
      f.data = ![0xff, 0xff, 0xff, 0xff, 0xff, 0xff, 0xff, last]

theorem makeSpecial_ok_iff {sendId : Nat} {last : BitVec 8} {f : Frame} :
    makeSpecial sendId last = .ok f ↔
      validStandardId sendId = true ∧ f.canId = sendId ∧ f.dlc = 8 ∧
        f.data = ![0xff, 0xff, 0xff, 0xff, 0xff, 0xff, 0xff, last] := by
  obtain ⟨canId, dlc, data⟩ := f
  unfold makeSpecial fillFrame
  cases validStandardId sendId
  · simp
  · simp only [Bool.not_true, Bool.false_eq_true, if_false, Except.ok.injEq, Frame.mk.injEq,
      true_and]
    exact ⟨fun ⟨hcan, hdlc, hdata⟩ => ⟨hcan.symm, hdlc.symm, hdata.symm⟩,
      fun ⟨hcan, hdlc, hdata⟩ => ⟨hcan.symm, hdlc.symm, hdata.symm⟩⟩

theorem Special.of_make {sendId : Nat} {last : BitVec 8} {f : Frame}
    (h : makeSpecial sendId last = .ok f)
    (hlast : last ∈ [(0xfb : BitVec 8), 0xfc, 0xfd, 0xfe]) : Special f := by
  obtain ⟨hvalid, hcan, hdlc, hdata⟩ := makeSpecial_ok_iff.mp h
  exact ⟨hcan ▸ hvalid, hdlc, last, hlast, hdata⟩

/-- A special frame is built. -/
theorem Special.built {f : Frame} (h : Special f) : ServiceFrame f := by
  obtain ⟨hvalid, hdlc, last, hlast, hdata⟩ := h
  have hmade : ∀ byte, last = byte → makeSpecial f.canId byte = .ok f := by
    rintro byte rfl
    exact makeSpecial_ok_iff.mpr ⟨hvalid, rfl, hdlc, hdata⟩
  simp only [List.mem_cons, List.not_mem_nil, or_false] at hlast
  rcases hlast with h | h | h | h
  · exact .clearError f.canId (hmade _ h)
  · exact .enable f.canId (hmade _ h)
  · exact .disable f.canId (hmade _ h)
  · exact .setZero f.canId (hmade _ h)

/-- A builder that checks the id only. -/
theorem idChecked_ok_iff {sendId : Nat} {f g : Frame} :
    (if !validStandardId sendId then .error .einval else .ok g : Except CanStatus Frame) = .ok f ↔
      validStandardId sendId = true ∧ f = g := by
  cases validStandardId sendId
  · simp
  · simp [eq_comm]

theorem registerQueryTyped_ok {request : RegisterRequest} {f : Frame}
    (h : makeRegisterQueryTyped request = .ok f) :
    validStandardId request.sendId = true ∧
      f = serviceFrame request.sendId 0x33 (byte request.registerId) 0 := by
  unfold makeRegisterQueryTyped at h
  split at h
  · cases h
  rename_i hvalid
  refine ⟨?_, (Except.ok.inj h).symm⟩
  unfold validateRegisterRequest at hvalid
  split at hvalid
  · exact absurd (by decide) hvalid
  rename_i hids
  simp only [Bool.or_eq_true, Bool.not_eq_true', not_or, Bool.not_eq_false] at hids
  exact hids.1

theorem registerQueryTyped_known {request : RegisterRequest} {f : Frame}
    (h : makeRegisterQueryTyped request = .ok f) :
    ∃ info, registerMetadata request.registerId = some info := by
  unfold makeRegisterQueryTyped at h
  split at h
  · cases h
  rename_i hvalid
  cases hmeta : registerMetadata request.registerId with
  | some info => exact ⟨info, rfl⟩
  | none =>
    refine absurd ?_ hvalid
    unfold validateRegisterRequest
    rw [hmeta]
    split
    · exact fun heq => by cases heq
    · exact fun heq => by cases heq

/-- A value of a register, as its write puts it into the frame. -/
theorem makeRegisterWrite_ok_iff {write : RegisterWrite} {f : Frame} :
    makeRegisterWrite write = .ok f ↔
      validStandardId write.sendId = true ∧
        ∃ info, registerMetadata write.registerId = some info ∧ info.writable = true ∧
          write.valueType = info.valueType ∧
            match info.valueType with
            | .u32 => (write.valueF32.toRat = 0 ∧ write.valueF32.isFinite = true) ∧
                validateRegisterU32 write.registerId write.valueU32 = .ok ∧
                f = serviceFrame write.sendId 0x55 (byte write.registerId) write.valueU32.toNat
            | .f32 => write.valueU32 = 0 ∧
                validateRegisterF32 write.registerId write.valueF32 = .ok ∧
                f = serviceFrame write.sendId 0x55 (byte write.registerId)
                  write.valueF32.bits.toNat := by
  unfold makeRegisterWrite
  cases validStandardId write.sendId
  · simp
  simp only [Bool.not_true, Bool.false_eq_true, if_false, true_and]
  cases hmeta : registerMetadata write.registerId with
  | none => simp
  | some info =>
    obtain ⟨valueType, writable⟩ := info
    simp only [Option.some.injEq, exists_eq_left']
    cases writable
    · simp
    by_cases htype : write.valueType = valueType
    · subst htype
      cases htype : write.valueType with
      | u32 =>
        by_cases hzero : write.valueF32.toRat = 0
        · by_cases hfinite : write.valueF32.isFinite = true
          · by_cases hok : validateRegisterU32 write.registerId write.valueU32 = .ok
            · simp [hzero, hfinite, hok, eq_comm]
            · simp [hzero, hfinite, hok]
          · simp [hfinite]
        · simp [hzero]
      | f32 =>
        by_cases hzero : write.valueU32 = 0#32
        · by_cases hok : validateRegisterF32 write.registerId write.valueF32 = .ok
          · simp [hzero, hok, eq_comm]
          · simp [hzero, hok]
        · simp [hzero]
    · simp [htype]

/-- Registers have one-byte numbers. -/
theorem registerMetadata_lt {rid : Nat} {info : RegisterInfo}
    (h : registerMetadata rid = some info) : rid < 256 := by
  unfold registerMetadata ridSubVer ridUOff ridDirection ridMotorPosition ridOutputPosition at h
  split at h
  · omega
  · cases h

theorem zero_toRat : (⟨0⟩ : Binary32).toRat = 0 := by decide +kernel

theorem zero_isFinite : (⟨0⟩ : Binary32).isFinite = true := by decide +kernel

/-- The parts of a frame at the shared id. -/
def Frame.Says (f : Frame) (target opcode rid value : Nat) : Prop :=
  f.canId = serviceId ∧ f.dlc = 8 ∧ f.target = target ∧ (f.data 2).toNat = opcode ∧
    (f.data 3).toNat = rid ∧ f.value = value

theorem says_iff {f : Frame} {sendId value : Nat} {opcode rid : BitVec 8}
    (hid : sendId < 65536) (hvalue : value < 2 ^ 32) :
    f = serviceFrame sendId opcode rid value ↔ f.Says sendId opcode.toNat rid.toNat value := by
  rw [eq_serviceFrame_iff hid hvalue]
  unfold Frame.Says
  rw [BitVec.toNat_inj, BitVec.toNat_inj]

theorem Frame.value_lt (f : Frame) : f.value < 2 ^ 32 := by
  have h₄ := (f.data 4).isLt
  have h₅ := (f.data 5).isLt
  have h₆ := (f.data 6).isLt
  have h₇ := (f.data 7).isLt
  unfold Frame.value
  omega

/-- The write of a raw value is accepted, and its frame says it. -/
theorem makeRegisterWrite_ofRaw {f : Frame} {target rid value : Nat} {info : RegisterInfo}
    (hsaid : f.Says target 0x55 rid value) (hid : validStandardId target = true)
    (hmeta : registerMetadata rid = some info) (hwritable : info.writable = true)
    (hok : match info.valueType with
      | .u32 => validateRegisterU32 rid (BitVec.ofNat 32 value) = .ok
      | .f32 => validateRegisterF32 rid ⟨BitVec.ofNat 32 value⟩ = .ok) :
    makeRegisterWrite (.ofRaw target rid info.valueType (BitVec.ofNat 32 value)) = .ok f := by
  have hsend : target < 65536 := by
    have := (validStandardId_iff.mp hid).2
    omega
  have hrid : (byte rid).toNat = rid := by
    have := registerMetadata_lt hmeta
    rw [toNat_byte]
    omega
  have hlt : value < 2 ^ 32 := by
    have heq : f.value = value := hsaid.2.2.2.2.2
    rw [← heq]
    exact f.value_lt
  have hvalue : (BitVec.ofNat 32 value).toNat = value := by
    rw [BitVec.toNat_ofNat, Nat.mod_eq_of_lt hlt]
  have hf : f = serviceFrame target 0x55 (byte rid) (BitVec.ofNat 32 value).toNat := by
    rw [hvalue, says_iff hsend hlt, hrid]
    exact hsaid
  obtain ⟨valueType, writable⟩ := info
  cases valueType with
  | u32 =>
    exact makeRegisterWrite_ok_iff.mpr
      ⟨hid, _, hmeta, hwritable, rfl, ⟨zero_toRat, zero_isFinite⟩, hok, hf⟩
  | f32 => exact makeRegisterWrite_ok_iff.mpr ⟨hid, _, hmeta, hwritable, rfl, rfl, hok, hf⟩

/-- A write, by the parts of its frame. -/
theorem registerWrite_iff {f : Frame} :
    (∃ write, makeRegisterWrite write = .ok f) ↔
      ∃ target rid value, f.Says target 0x55 rid value ∧ validStandardId target = true ∧
        WritableValue rid value := by
  constructor
  · rintro ⟨write, hmade⟩
    obtain ⟨hid, info, hmeta, hwritable, -, hvalue⟩ := makeRegisterWrite_ok_iff.mp hmade
    have hsend : write.sendId < 65536 := by
      have := (validStandardId_iff.mp hid).2
      omega
    have hrid : (byte write.registerId).toNat = write.registerId := by
      have := registerMetadata_lt hmeta
      rw [toNat_byte]
      omega
    obtain ⟨valueType, writable⟩ := info
    cases valueType with
    | u32 =>
      obtain ⟨-, hok, hf⟩ := hvalue
      have hsaid := (says_iff hsend write.valueU32.isLt).mp hf
      rw [hrid] at hsaid
      refine ⟨_, _, _, hsaid, hid, _, hmeta, hwritable, ?_⟩
      simpa using hok
    | f32 =>
      obtain ⟨-, hok, hf⟩ := hvalue
      have hsaid := (says_iff hsend write.valueF32.bits.isLt).mp hf
      rw [hrid] at hsaid
      refine ⟨_, _, _, hsaid, hid, _, hmeta, hwritable, ?_⟩
      simpa using hok
  · rintro ⟨target, rid, value, hsaid, hid, info, hmeta, hwritable, hok⟩
    exact ⟨_, makeRegisterWrite_ofRaw hsaid hid hmeta hwritable hok⟩

/-- The target a write goes to. -/
theorem registerWrite_target {write : RegisterWrite} {f : Frame}
    (h : makeRegisterWrite write = .ok f) : f.target = write.sendId := by
  obtain ⟨hid, info, -, -, -, hvalue⟩ := makeRegisterWrite_ok_iff.mp h
  have hlt : write.sendId < 65536 := by
    have := (validStandardId_iff.mp hid).2
    omega
  obtain ⟨valueType, writable⟩ := info
  cases valueType with
  | u32 => exact ((says_iff hlt write.valueU32.isLt).mp hvalue.2.2).2.2.1
  | f32 => exact ((says_iff hlt write.valueF32.bits.isLt).mp hvalue.2.2).2.2.1

/-- **Service frames by their bytes.** -/
theorem serviceFrame_iff {f : Frame} :
    ServiceFrame f ↔
      Special f ∨ f.canId = serviceId ∧ f.dlc = 8 ∧
        ServicePayload f.target (f.data 2).toNat (f.data 3).toNat f.value := by
  -- a request that checks the id only, by the parts of its frame
  have hsaid : ∀ {sendId : Nat} {opcode rid : BitVec 8}, validStandardId sendId = true →
      f = serviceFrame sendId opcode rid 0 → f.Says sendId opcode.toNat rid.toNat 0 := by
    intro sendId opcode rid hid hf
    have hlt := (validStandardId_iff.mp hid).2
    exact (says_iff (by omega) (by decide)).mp hf
  constructor
  · intro h
    cases h with
    | enable sendId made => exact .inl (.of_make made (by decide))
    | disable sendId made => exact .inl (.of_make made (by decide))
    | setZero sendId made => exact .inl (.of_make made (by decide))
    | clearError sendId made => exact .inl (.of_make made (by decide))
    | saveParameters sendId made =>
      obtain ⟨hid, hf⟩ := idChecked_ok_iff.mp made
      obtain ⟨hcan, hdlc, rfl, hop, hrid, hval⟩ := hsaid hid hf
      exact .inr ⟨hcan, hdlc, hid, .inl ⟨.inr hop, hrid, hval⟩⟩
    | refreshStatus sendId made =>
      obtain ⟨hid, hf⟩ := idChecked_ok_iff.mp made
      obtain ⟨hcan, hdlc, rfl, hop, hrid, hval⟩ := hsaid hid hf
      exact .inr ⟨hcan, hdlc, hid, .inl ⟨.inl hop, hrid, hval⟩⟩
    | registerQuery sendId rid made =>
      obtain ⟨hid, hf⟩ := idChecked_ok_iff.mp made
      obtain ⟨hcan, hdlc, rfl, hop, -, hval⟩ := hsaid hid hf
      exact .inr ⟨hcan, hdlc, hid, .inr (.inl ⟨hop, hval⟩)⟩
    | registerQueryTyped request made =>
      obtain ⟨hid, hf⟩ := registerQueryTyped_ok made
      obtain ⟨hcan, hdlc, htarget, hop, -, hval⟩ := hsaid hid hf
      exact .inr ⟨hcan, hdlc, htarget ▸ hid, .inr (.inl ⟨hop, hval⟩)⟩
    | registerWrite write made =>
      obtain ⟨target, rid, value, ⟨hcan, hdlc, rfl, hop, rfl, rfl⟩, hid, hvalue⟩ :=
        registerWrite_iff.mp ⟨write, made⟩
      exact .inr ⟨hcan, hdlc, hid, .inr (.inr ⟨hop, hvalue⟩)⟩
  · rintro (h | ⟨hcan, hdlc, hid, hpayload⟩)
    · exact h.built
    have hlt := (validStandardId_iff.mp hid).2
    have hmade : ∀ {opcode rid : BitVec 8}, (f.data 2).toNat = opcode.toNat →
        (f.data 3).toNat = rid.toNat → f.value = 0 → f = serviceFrame f.target opcode rid 0 := by
      intro opcode rid hop hrid hval
      exact (says_iff (by omega) (by decide)).mpr ⟨hcan, hdlc, rfl, hop, hrid, hval⟩
    rcases hpayload with ⟨hop | hop, hrid, hval⟩ | ⟨hop, hval⟩ | ⟨hop, hvalue⟩
    · exact .refreshStatus f.target (idChecked_ok_iff.mpr ⟨hid, hmade hop hrid hval⟩)
    · exact .saveParameters f.target (idChecked_ok_iff.mpr ⟨hid, hmade hop hrid hval⟩)
    · exact .registerQuery f.target (f.data 3) (idChecked_ok_iff.mpr ⟨hid, hmade hop rfl hval⟩)
    · obtain ⟨write, hwrite⟩ := registerWrite_iff.mpr
        ⟨f.target, (f.data 3).toNat, f.value, ⟨hcan, hdlc, rfl, hop, rfl, rfl⟩, hid, hvalue⟩
      exact .registerWrite write hwrite

/-! ## §3. Motion frames. -/

variable {F : Type} [Wire F]

/-- The motion commands. -/
inductive MotionCall (F : Type) where
  | mit (command : MitCommand F) (policy : RangePolicy)
  | mitProfile (command : MitProfileCommand F) (profile : MitProfile F)
  | posVel (command : PosVelCommand F) (profile : MitProfile F)
  | posForce (command : PosForceCommand F) (profile : MitProfile F)
  | gripperMove (command : GripperCommand F) (calibration : GripperCalibration F)
      (profile : MitProfile F)
  | gripperOpen (sendId : Nat) (speed torque : F) (calibration : GripperCalibration F)
      (profile : MitProfile F)
  | gripperClose (sendId : Nat) (speed torque : F) (calibration : GripperCalibration F)
      (profile : MitProfile F)
  | gripperGrasp (sendId : Nat) (speed torque : F) (calibration : GripperCalibration F)
      (profile : MitProfile F)

/-- The frame of a motion command. -/
def MotionCall.encode : MotionCall F → Except CanStatus Frame
  | .mit command policy => (encodeMit command policy).map (·.1)
  | .mitProfile command profile => encodeMitProfile command profile
  | .posVel command profile => encodePosVel command profile
  | .posForce command profile => encodePosForce command profile
  | .gripperMove command calibration profile => encodeGripperMove command calibration profile
  | .gripperOpen sendId speed torque calibration profile =>
    encodeGripperOpen sendId speed torque calibration profile
  | .gripperClose sendId speed torque calibration profile =>
    encodeGripperClose sendId speed torque calibration profile
  | .gripperGrasp sendId speed torque calibration profile =>
    encodeGripperGrasp sendId speed torque calibration profile

/-- The five fields of a MIT payload.  The high bits of a code would spill
    into the field before it; a code that fits its field has none. -/
def MitCodes.fields (codes : MitCodes) : MitCodes where
  position := codes.position % 65536
  velocity := codes.velocity / 16 % 256 * 16 + (codes.velocity ||| codes.kp / 4096) % 16
  kp := codes.kp % 4096
  kd := codes.kd / 16 % 256 * 16 + (codes.kd ||| codes.torque / 4096) % 16
  torque := codes.torque % 4096

/-- The byte two fields share. -/
theorem shared_byte (a b : Nat) :
    (a <<< 4 ||| b >>> 8) % 256 = (a ||| b / 4096) % 16 * 16 + b / 256 % 16 := by
  have hhigh : (a <<< 4 ||| b >>> 8) / 16 = a ||| b / 4096 := by
    have hshift : (a <<< 4 ||| b >>> 8) >>> 4 = a ||| b >>> 12 := by
      rw [Nat.shiftRight_or_distrib, Nat.shiftLeft_shiftRight, ← Nat.shiftRight_add]
    simpa [Nat.shiftRight_eq_div_pow] using hshift
  have hlow : (a <<< 4 ||| b >>> 8) % 16 = b / 256 % 16 := by
    have hor : (a <<< 4 ||| b >>> 8) % 2 ^ 4 = a <<< 4 % 2 ^ 4 ||| b >>> 8 % 2 ^ 4 :=
      Nat.or_mod_two_pow
    have hzero : a <<< 4 % 2 ^ 4 = 0 := by
      rw [Nat.shiftLeft_eq, Nat.mul_mod_left]
    rw [hzero, Nat.zero_or] at hor
    simpa [Nat.shiftRight_eq_div_pow] using hor
  omega

/-- The bytes of a MIT payload, by its fields. -/
theorem toNat_mitData (codes : MitCodes) :
    (mitData codes 0).toNat = codes.fields.position / 256 ∧
      (mitData codes 1).toNat = codes.fields.position % 256 ∧
      (mitData codes 2).toNat = codes.fields.velocity / 16 ∧
      (mitData codes 3).toNat = codes.fields.velocity % 16 * 16 + codes.fields.kp / 256 ∧
      (mitData codes 4).toNat = codes.fields.kp % 256 ∧
      (mitData codes 5).toNat = codes.fields.kd / 16 ∧
      (mitData codes 6).toNat = codes.fields.kd % 16 * 16 + codes.fields.torque / 256 ∧
      (mitData codes 7).toNat = codes.fields.torque % 256 := by
  have hvelocity := shared_byte codes.velocity codes.kp
  have hkd := shared_byte codes.kd codes.torque
  refine ⟨?_, ?_, ?_, ?_, ?_, ?_, ?_, ?_⟩
  · show (byte (codes.position >>> 8)).toNat = codes.position % 65536 / 256
    rw [toNat_byte, Nat.shiftRight_eq_div_pow]
    omega
  · show (byte codes.position).toNat = codes.position % 65536 % 256
    rw [toNat_byte]
    omega
  · show (byte (codes.velocity >>> 4)).toNat = (_ * 16 + _ % 16) / 16
    rw [toNat_byte, Nat.shiftRight_eq_div_pow]
    omega
  · show (byte _).toNat = (_ * 16 + _ % 16) % 16 * 16 + codes.kp % 4096 / 256
    rw [toNat_byte, hvelocity]
    omega
  · show (byte codes.kp).toNat = codes.kp % 4096 % 256
    rw [toNat_byte]
    omega
  · show (byte (codes.kd >>> 4)).toNat = (_ * 16 + _ % 16) / 16
    rw [toNat_byte, Nat.shiftRight_eq_div_pow]
    omega
  · show (byte _).toNat = (_ * 16 + _ % 16) % 16 * 16 + codes.torque % 4096 / 256
    rw [toNat_byte, hkd]
    omega
  · show (byte codes.torque).toNat = codes.torque % 4096 % 256
    rw [toNat_byte]
    omega

/-- All five fields are at the top of the scale, the torque just below. -/
def FullScale (codes : MitCodes) : Prop :=
  codes.fields.position = 0xffff ∧ codes.fields.velocity = 0xfff ∧ codes.fields.kp = 0xfff ∧
    codes.fields.kd = 0xfff ∧ 0xffb ≤ codes.fields.torque ∧ codes.fields.torque ≤ 0xffe

/-- The fields say a service payload. -/
def MitServes (codes : MitCodes) : Prop :=
  let f := codes.fields
  ServicePayload (f.position / 256 + 256 * (f.position % 256)) (f.velocity / 16)
    (f.velocity % 16 * 16 + f.kp / 256)
    (f.kp % 256 + 256 * (f.kd / 16) + 65536 * (f.kd % 16 * 16 + f.torque / 256) +
      16777216 * (f.torque % 256))

/-- When the frame of a MIT command is a service frame. -/
def MitAliases (sendId : Nat) (codes : MitCodes) : Prop :=
  FullScale codes ∨ sendId = serviceId ∧ MitServes codes

theorem mit_serviceFrame_iff {sendId : Nat} (hid : validStandardId sendId = true)
    (codes : MitCodes) :
    ServiceFrame (fillFrame sendId (mitData codes)) ↔ MitAliases sendId codes := by
  obtain ⟨h₀, h₁, h₂, h₃, h₄, h₅, h₆, h₇⟩ := toNat_mitData codes
  have hspecial : Special (fillFrame sendId (mitData codes)) ↔ FullScale codes := by
    have hposition : codes.fields.position < 65536 := Nat.mod_lt _ (by decide)
    have hvelocity : codes.fields.velocity < 4096 := by
      unfold MitCodes.fields
      dsimp only
      omega
    have hkp : codes.fields.kp < 4096 := Nat.mod_lt _ (by decide)
    have hkd : codes.fields.kd < 4096 := by
      unfold MitCodes.fields
      dsimp only
      omega
    have htorque : codes.fields.torque < 4096 := Nat.mod_lt _ (by decide)
    unfold Special FullScale
    show (validStandardId sendId = true ∧ (8 : Nat) = 8 ∧ ∃ last ∈ _, mitData codes = _) ↔ _
    simp only [hid, true_and, data_eq_iff, ← BitVec.toNat_inj, h₀, h₁, h₂, h₃, h₄, h₅, h₆, h₇]
    constructor
    · rintro ⟨last, hlast, e₀, e₁, e₂, e₃, e₄, e₅, e₆, e₇⟩
      have hff : (0xff : BitVec 8).toNat = 255 := rfl
      rw [hff] at e₀ e₁ e₂ e₃ e₄ e₅ e₆
      have hrange : 251 ≤ last.toNat ∧ last.toNat ≤ 254 := by
        simp only [List.mem_cons, List.not_mem_nil, or_false] at hlast
        rcases hlast with rfl | rfl | rfl | rfl
        all_goals decide
      refine ⟨?_, ?_, ?_, ?_, ?_, ?_⟩ <;> omega
    · rintro ⟨e₀, e₁, e₂, e₃, e₄, e₅⟩
      have hff : (0xff : BitVec 8).toNat = 255 := rfl
      refine ⟨byte codes.fields.torque, ?_, ?_⟩
      · have hcases : codes.fields.torque = 0xffb ∨ codes.fields.torque = 0xffc ∨
            codes.fields.torque = 0xffd ∨ codes.fields.torque = 0xffe := by omega
        rcases hcases with h | h | h | h
        all_goals
          rw [h]
          decide
      · rw [hff, toNat_byte]
        omega
  rw [serviceFrame_iff, hspecial]
  unfold MitAliases MitServes Frame.target Frame.value
  show _ ∨ (sendId = serviceId ∧ (8 : Nat) = 8 ∧ ServicePayload
    ((mitData codes 0).toNat + 256 * (mitData codes 1).toNat) (mitData codes 2).toNat
    (mitData codes 3).toNat ((mitData codes 4).toNat + 256 * (mitData codes 5).toNat +
      65536 * (mitData codes 6).toNat + 16777216 * (mitData codes 7).toNat)) ↔ _
  rw [h₀, h₁, h₂, h₃, h₄, h₅, h₆, h₇]
  simp only [true_and]

/-- A payload of two words says a service payload. -/
def WordsServe (low high : Nat) : Prop :=
  ServicePayload (low % 65536) (low / 65536 % 256) (low / 16777216) high

/-- When a frame of two words is a service frame: a pattern of a finite
    number does not begin with four bytes of ones. -/
theorem words_serviceFrame_iff {id low high : Nat} (hlow : low < 2 ^ 32) (hhigh : high < 2 ^ 32)
    (hfinite : low ≠ 0xffffffff) :
    ServiceFrame (fillFrame id (wordsData low high)) ↔ id = serviceId ∧ WordsServe low high := by
  have hspecial : ¬ Special (fillFrame id (wordsData low high)) := by
    rintro ⟨-, -, last, -, hdata⟩
    have hdata : wordsData low high = _ := hdata
    unfold wordsData at hdata
    have h₀ := congrFun hdata 0
    have h₁ := congrFun hdata 1
    have h₂ := congrFun hdata 2
    have h₃ := congrFun hdata 3
    have h₀ : low % 256 = 255 := byte_eq_iff.mp h₀
    have h₁ : low / 256 % 256 = 255 := byte_eq_iff.mp h₁
    have h₂ : low / 65536 % 256 = 255 := byte_eq_iff.mp h₂
    have h₃ : low / 16777216 % 256 = 255 := byte_eq_iff.mp h₃
    omega
  rw [serviceFrame_iff]
  unfold WordsServe Frame.target Frame.value
  show _ ∨ (id = serviceId ∧ (8 : Nat) = 8 ∧ ServicePayload
    ((byte low).toNat + 256 * (byte (low / 256)).toNat) (byte (low / 65536)).toNat
    (byte (low / 16777216)).toNat ((byte high).toNat + 256 * (byte (high / 256)).toNat +
      65536 * (byte (high / 65536)).toNat + 16777216 * (byte (high / 16777216)).toNat)) ↔ _
  simp only [toNat_byte, hspecial, false_or, true_and]
  have htarget : low % 256 + 256 * (low / 256 % 256) = low % 65536 := by omega
  have hrid : low / 16777216 % 256 = low / 16777216 := by omega
  have hvalue : high % 256 + 256 * (high / 256 % 256) + 65536 * (high / 65536 % 256) +
      16777216 * (high / 16777216 % 256) = high := by omega
  rw [htarget, hrid, hvalue]

/-! ## §4. The frames of the encoders. -/

/-- A number held to its range. -/
def saturated (input lower upper : F) : F :=
  if input < lower then lower else if upper < input then upper else input

/-- The five numbers held to their ranges. -/
def MitValues.saturated (values : MitValues F) (pmax vmax tmax : F) : MitValues F where
  position := Can.saturated values.position (-pmax) pmax
  velocity := Can.saturated values.velocity (-vmax) vmax
  kp := Can.saturated values.kp (Floating.lit 0) (Floating.lit 500)
  kd := Can.saturated values.kd (Floating.lit 0) (Floating.lit 5)
  torque := Can.saturated values.torque (-tmax) tmax

theorem limitValue_ok {input lower upper : F} {policy : RangePolicy} {out : F × Bool}
    (h : limitValue input lower upper policy = .ok out) : out.1 = saturated input lower upper := by
  unfold limitValue at h
  unfold saturated
  split at h
  · cases h
  split at h
  · rename_i hout
    split at h
    · cases h
    · cases h
      dsimp only
      by_cases hlow : input < lower
      · rw [if_pos hlow, if_pos hlow]
      · rw [if_neg hlow, if_neg hlow, if_pos (hout.resolve_left hlow)]
  · rename_i hin
    cases h
    rw [if_neg fun hlow => hin (.inl hlow), if_neg fun hhigh => hin (.inr hhigh)]

theorem limitMitValues_ok {values : MitValues F} {pmax vmax tmax : F} {policy : RangePolicy}
    {out : MitValues F × List Bool} (h : limitMitValues values pmax vmax tmax policy = .ok out) :
    out.1 = values.saturated pmax vmax tmax := by
  unfold limitMitValues at h
  simp only [bind, Except.bind, pure, Except.pure] at h
  split at h
  · cases h
  rename_i position hposition
  split at h
  · cases h
  rename_i velocity hvelocity
  split at h
  · cases h
  rename_i kp hkp
  split at h
  · cases h
  rename_i kd hkd
  split at h
  · cases h
  rename_i torque htorque
  cases h
  unfold MitValues.saturated
  rw [← limitValue_ok hposition, ← limitValue_ok hvelocity, ← limitValue_ok hkp,
    ← limitValue_ok hkd, ← limitValue_ok htorque]

theorem encodeMitValues_ok {sendId : Nat} {values : MitValues F} {pmax vmax tmax : F}
    {policy : RangePolicy} {out : Frame × List Bool}
    (h : encodeMitValues sendId values pmax vmax tmax policy = .ok out) :
    validStandardId sendId = true ∧ out.1 = fillFrame sendId
      (mitData (mitCodes (values.saturated pmax vmax tmax) pmax vmax tmax)) := by
  unfold encodeMitValues at h
  dsimp only at h
  split at h
  · cases h
  rename_i hvalid
  simp only [bind, Except.bind, pure, Except.pure] at h
  split at h
  · cases h
  rename_i limited hlimited
  cases h
  refine ⟨?_, ?_⟩
  · simp only [Bool.or_eq_true, Bool.not_eq_true', not_or, Bool.not_eq_false] at hvalid
    exact hvalid.1.1.1
  · rw [limitMitValues_ok hlimited]

/-- The codes a MIT command sends. -/
def MitCommand.codes (command : MitCommand F) : MitCodes :=
  let limits : Limits F := limitsOf command.motorType
  let values : MitValues F :=
    ⟨command.positionRad, command.velocityRadS, command.kp, command.kd, command.torqueNm⟩
  mitCodes (values.saturated limits.positionMaxRad limits.velocityMaxRadS limits.torqueMaxNm)
    limits.positionMaxRad limits.velocityMaxRadS limits.torqueMaxNm

/-- The codes a profiled MIT command sends. -/
def MitProfileCommand.codes (command : MitProfileCommand F) (profile : MitProfile F) :
    MitCodes :=
  let values : MitValues F :=
    ⟨command.positionRad, command.velocityRadS, command.kp, command.kd, command.torqueNm⟩
  mitCodes (values.saturated profile.pmaxRad profile.vmaxRadS profile.tmaxNm)
    profile.pmaxRad profile.vmaxRadS profile.tmaxNm

/-- When a position-velocity command sends a service frame: the mode offset
    carries its id to the shared one, and its numbers say a payload. -/
def PosVelCommand.Aliases (command : PosVelCommand F) : Prop :=
  command.sendId = 0x6ff ∧
    WordsServe (Wire.toBinary32 command.positionRad).bits.toNat
      (Wire.toBinary32 command.maxVelocityRadS).bits.toNat

/-- The same of a position-force command. -/
def PosForceCommand.Aliases (command : PosForceCommand F) : Prop :=
  command.sendId = 0x4ff ∧
    WordsServe (Wire.toBinary32 command.positionRad).bits.toNat
      (scaled command.maxVelocityRadS 100 + 65536 * scaled command.currentLimitPerUnit 10000)

/-- When a gripper command sends a service frame. -/
def GripperCommand.Aliases (command : GripperCommand F) (calibration : GripperCalibration F)
    (profile : MitProfile F) : Prop :=
  ∃ wire, gripperWire command calibration profile = .ok wire ∧ wire.Aliases

/-- **When a motion command sends a service frame.** -/
def MotionCall.Aliases : MotionCall F → Prop
  | .mit command _ => MitAliases command.sendId command.codes
  | .mitProfile command profile => MitAliases command.sendId (command.codes profile)
  | .posVel command _ => command.Aliases
  | .posForce command _ => command.Aliases
  | .gripperMove command calibration profile => command.Aliases calibration profile
  | .gripperOpen sendId speed torque calibration profile =>
    GripperCommand.Aliases ⟨sendId, calibration.maximumOpeningM, speed, torque⟩ calibration profile
  | .gripperClose sendId speed torque calibration profile
  | .gripperGrasp sendId speed torque calibration profile =>
    GripperCommand.Aliases ⟨sendId, Floating.lit 0, speed, torque⟩ calibration profile

/-- The pattern of a number that converts. -/
theorem doubleToF32Bits_some {value : F} {bits : BitVec 32}
    (h : doubleToF32Bits value = some bits) :
    bits = (Wire.toBinary32 value).bits ∧ bits.toNat ≠ 0xffffffff := by
  unfold doubleToF32Bits at h
  dsimp only at h
  split at h
  · cases h
  split at h
  · cases h
  rename_i hfinite
  cases h
  refine ⟨rfl, fun hones => hfinite ?_⟩
  unfold Binary32.isFinite Binary32.exponent
  rw [hones]
  decide

theorem posVel_serviceFrame_iff {command : PosVelCommand F} {profile : MitProfile F}
    {frame : Frame} (h : encodePosVel command profile = .ok frame) :
    ServiceFrame frame ↔ command.Aliases := by
  unfold encodePosVel at h
  split at h
  · cases h
  split at h
  · cases h
  split at h
  · cases h
  split at h
  · rename_i position velocity hposition hvelocity
    obtain ⟨hlow, hfinite⟩ := doubleToF32Bits_some hposition
    obtain ⟨hhigh, -⟩ := doubleToF32Bits_some hvelocity
    cases h
    rw [words_serviceFrame_iff position.isLt velocity.isLt hfinite, hlow, hhigh]
    unfold PosVelCommand.Aliases serviceId
    refine and_congr_left fun _ => ?_
    omega
  · cases h

theorem scaled_lt (value : F) (scale : ℚ) : scaled value scale < 65536 := Nat.mod_lt _ (by decide)

theorem posForce_serviceFrame_iff {command : PosForceCommand F} {profile : MitProfile F}
    {frame : Frame} (h : encodePosForce command profile = .ok frame) :
    ServiceFrame frame ↔ command.Aliases := by
  unfold encodePosForce at h
  split at h
  · cases h
  split at h
  · cases h
  split at h
  · cases h
  split at h
  · cases h
  rename_i position hposition
  obtain ⟨hlow, hfinite⟩ := doubleToF32Bits_some hposition
  cases h
  have hvelocity := scaled_lt command.maxVelocityRadS 100
  have hcurrent := scaled_lt command.currentLimitPerUnit 10000
  rw [words_serviceFrame_iff position.isLt (by omega) hfinite, hlow]
  unfold PosForceCommand.Aliases serviceId
  refine and_congr_left fun _ => ?_
  omega

theorem gripper_serviceFrame_iff {command : GripperCommand F}
    {calibration : GripperCalibration F} {profile : MitProfile F} {frame : Frame}
    (h : encodeGripperMove command calibration profile = .ok frame) :
    ServiceFrame frame ↔ command.Aliases calibration profile := by
  unfold encodeGripperMove at h
  simp only [bind, Except.bind] at h
  split at h
  · cases h
  rename_i wire hwire
  rw [posForce_serviceFrame_iff h]
  unfold GripperCommand.Aliases
  rw [hwire]
  refine ⟨fun haliases => ⟨wire, rfl, haliases⟩, fun ⟨other, heq, haliases⟩ => ?_⟩
  rw [Except.ok.inj heq]
  exact haliases

theorem motion_serviceFrame_iff {call : MotionCall F} {frame : Frame}
    (h : call.encode = .ok frame) : ServiceFrame frame ↔ call.Aliases := by
  cases call with
  | mit command policy =>
    obtain ⟨out, hout, rfl⟩ : ∃ out, encodeMit command policy = .ok out ∧ out.1 = frame := by
      have h : (encodeMit command policy).map (·.1) = .ok frame := h
      cases hout : encodeMit command policy with
      | error status =>
        rw [hout] at h
        cases h
      | ok out =>
        rw [hout] at h
        exact ⟨out, rfl, Except.ok.inj h⟩
    unfold encodeMit motorLimits at hout
    split at hout
    · cases hout
    obtain ⟨hid, hframe⟩ := encodeMitValues_ok hout
    rw [hframe]
    exact mit_serviceFrame_iff hid _
  | mitProfile command profile =>
    have h : encodeMitProfile command profile = .ok frame := h
    unfold encodeMitProfile at h
    split at h
    · cases h
    simp only [bind, Except.bind, pure, Except.pure] at h
    split at h
    · cases h
    rename_i out hout
    obtain ⟨hid, hframe⟩ := encodeMitValues_ok hout
    cases h
    rw [hframe]
    exact mit_serviceFrame_iff hid _
  | posVel command profile => exact posVel_serviceFrame_iff h
  | posForce command profile => exact posForce_serviceFrame_iff h
  | gripperMove command calibration profile => exact gripper_serviceFrame_iff h
  | gripperOpen sendId speed torque calibration profile => exact gripper_serviceFrame_iff h
  | gripperClose sendId speed torque calibration profile => exact gripper_serviceFrame_iff h
  | gripperGrasp sendId speed torque calibration profile => exact gripper_serviceFrame_iff h

/-- Every number at its limit, the torque three codes below. -/
def fullScale : MitCommand ℚ where
  sendId := 1
  motorType := motorDm8009
  positionRad := 25 / 2
  velocityRadS := 45
  kp := 500
  kd := 5
  torqueNm := 4092 * 108 / 4095 - 54

/-- The frame of an enable request to motor 1. -/
def enableFrame : Frame := fillFrame 1 ![0xff, 0xff, 0xff, 0xff, 0xff, 0xff, 0xff, 0xfc]

/-- **A motion frame differs from every service frame, unless its command
    aliases.** -/
theorem motion_aliases_iff {call : MotionCall F} {frame : Frame} (h : call.encode = .ok frame) :
    (∀ service, ServiceFrame service → frame ≠ service) ↔ ¬ call.Aliases := by
  rw [← motion_serviceFrame_iff h]
  constructor
  · intro hdiffer hservice
    exact hdiffer frame hservice rfl
  · rintro hmotion service hservice rfl
    exact hmotion hservice

/-- The rule at the full-scale command. -/
theorem motion_aliases_full_scale :
    (∀ service, ServiceFrame service → enableFrame ≠ service) ↔
      ¬ (MotionCall.mit fullScale .reject).Aliases :=
  motion_aliases_iff (by decide +kernel)

/-- An accepted motion command whose frame enables the motor. -/
theorem full_scale_enables :
    (MotionCall.mit fullScale .reject).encode = .ok enableFrame ∧
      makeEnable 1 = .ok enableFrame := ⟨by decide +kernel, by decide +kernel⟩

end OpenArm.Can
