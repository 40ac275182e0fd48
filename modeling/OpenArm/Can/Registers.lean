/-
  OpenArm.Can.Registers — register values over the wire and back.

  The write side and the read side check a value each on its own: the range
  of the register, the value type, a zero in the member the type does not
  use.  The payload carries the pattern of the value, so both zeros of a
  float survive the trip and a pattern that is no number never starts it.

  Main results:
    * `decodeRegisterResponse_ok_iff` — accepted answers by their parts.
    * `register_round_trip`           — a write comes back as it was sent, and
      an answer for a writable register can be written as it came.
-/
import OpenArm.Can.Families
import OpenArm.Can.Probe

namespace OpenArm.Can

open OpenArm.Lib

/-! ## §1. Answers. -/

/-- `OA_CAN_REGISTER_QUERY`. -/
def registerQuery : Nat := 0x33

/-- `OA_CAN_REGISTER_WRITE`. -/
def registerWrite : Nat := 0x55

/-- `oa_can_register_value`. -/
structure RegisterValue where
  receiveId : Nat
  targetSendId : Nat
  registerId : Nat
  valueType : RegisterValueType
  operation : Nat
  rawValue : BitVec 32
  valueU32 : BitVec 32
  valueF32 : Binary32
  deriving DecidableEq

/-- What a raw value is checked against, for its type. -/
def validateRegisterRaw (rid : Nat) (valueType : RegisterValueType) (raw : BitVec 32) :
    CanStatus :=
  match valueType with
  | .u32 => validateRegisterU32 rid raw
  | .f32 => validateRegisterF32 rid ⟨raw⟩

/-- The record of an accepted answer. -/
def RegisterRequest.value (request : RegisterRequest) (operation : Nat) (raw : BitVec 32) :
    RegisterValue where
  receiveId := request.receiveId
  targetSendId := request.sendId
  registerId := request.registerId
  valueType := request.valueType
  operation := operation
  rawValue := raw
  valueU32 := if request.valueType = .u32 then raw else 0
  valueF32 := if request.valueType = .f32 then ⟨raw⟩ else ⟨0⟩

/-- `oa_can_decode_register_response`. -/
def decodeRegisterResponse (frame : Frame) (expected : RegisterRequest)
    (expectedOperation : Nat) : Except CanStatus RegisterValue :=
  if validateRegisterRequest expected ≠ .ok ∨
      (expectedOperation ≠ registerQuery ∧ expectedOperation ≠ registerWrite) then .error .einval
  else if !cleanStandardFrame frame 8 then .error .eframe
  else if frame.canId ≠ expected.receiveId then .error .eid
  else if frame.target ≠ expected.sendId then .error .eid
  else if (frame.data 2).toNat ≠ expectedOperation ∨
      (frame.data 3).toNat ≠ expected.registerId then .error .eframe
  else
    let raw := BitVec.ofNat 32 frame.value
    let status := validateRegisterRaw expected.registerId expected.valueType raw
    if status ≠ .ok then .error status else .ok (expected.value expectedOperation raw)

/-- The write of a value that was read. -/
def RegisterValue.write (value : RegisterValue) : RegisterWrite where
  sendId := value.targetSendId
  registerId := value.registerId
  valueType := value.valueType
  valueU32 := value.valueU32
  valueF32 := value.valueF32

/-- The pattern a write puts into its payload. -/
def RegisterWrite.raw (write : RegisterWrite) : BitVec 32 :=
  match write.valueType with
  | .u32 => write.valueU32
  | .f32 => write.valueF32.bits

/-- A request that names what a write names. -/
structure RegisterRequest.Matches (request : RegisterRequest) (write : RegisterWrite) : Prop where
  sendId : request.sendId = write.sendId
  registerId : request.registerId = write.registerId
  valueType : request.valueType = write.valueType
  receiveId : validStandardId request.receiveId = true

/-! ## §2. Accepted answers. -/

theorem validateRegisterRequest_ok_iff {request : RegisterRequest} :
    validateRegisterRequest request = .ok ↔
      validStandardId request.sendId = true ∧ validStandardId request.receiveId = true ∧
        ∃ info, registerMetadata request.registerId = some info ∧
          request.valueType = info.valueType := by
  unfold validateRegisterRequest
  by_cases hsend : validStandardId request.sendId = true
  · by_cases hreceive : validStandardId request.receiveId = true
    · rw [hsend, hreceive]
      simp only [Bool.not_true, Bool.or_self, Bool.false_eq_true, if_false, true_and]
      split
      · next hnone => simp [hnone]
      · next info hsome =>
        by_cases htype : request.valueType = info.valueType
        · simp [hsome, htype]
        · simp [hsome, htype]
    · simp [hreceive]
  · simp [hsend]

/-- The flags are above the bits of an id. -/
theorem and_idFlags {n : Nat} (h : n < 2 ^ 29) : n &&& idFlags = 0 := by
  apply Nat.eq_of_testBit_eq
  intro bit
  rw [Nat.testBit_and, Nat.zero_testBit, show idFlags = 2 ^ 29 * 7 from rfl,
    Nat.testBit_two_pow_mul]
  by_cases hlow : bit < 29
  · rw [decide_eq_false (by omega), Bool.false_and, Bool.and_false]
  · have hzero : n.testBit bit = false := Nat.testBit_lt_two_pow
      (Nat.lt_of_lt_of_le h (Nat.pow_le_pow_right (by decide) (by omega)))
    rw [hzero, Bool.false_and]

/-- A standard id has none of the flags. -/
theorem cleanStandardFrame_of_valid {frame : Frame} (hid : validStandardId frame.canId = true)
    (hdlc : frame.dlc = 8) : cleanStandardFrame frame 8 = true := by
  have hle : frame.canId < 2048 := by
    have h := (validStandardId_iff.mp hid).2
    omega
  have hzero : frame.canId &&& idFlags = 0 := and_idFlags (by omega)
  unfold cleanStandardFrame sffMask
  rw [hzero, hdlc]
  simp
  omega

/-- **Accepted answers**, by their parts. -/
theorem decodeRegisterResponse_ok_iff {frame : Frame} {request : RegisterRequest}
    {operation : Nat} {value : RegisterValue} :
    decodeRegisterResponse frame request operation = .ok value ↔
      validateRegisterRequest request = .ok ∧
        (operation = registerQuery ∨ operation = registerWrite) ∧
        cleanStandardFrame frame 8 = true ∧ frame.canId = request.receiveId ∧
        frame.target = request.sendId ∧ (frame.data 2).toNat = operation ∧
        (frame.data 3).toNat = request.registerId ∧
        validateRegisterRaw request.registerId request.valueType
          (BitVec.ofNat 32 frame.value) = .ok ∧
        value = request.value operation (BitVec.ofNat 32 frame.value) := by
  unfold decodeRegisterResponse
  dsimp only
  constructor
  · intro h
    split at h
    · cases h
    next hrequest =>
    split at h
    · cases h
    next hclean =>
    split at h
    · cases h
    next hid =>
    split at h
    · cases h
    next htarget =>
    split at h
    · cases h
    next hsaid =>
    split at h
    · cases h
    next hvalid =>
    have hvalue := (Except.ok.inj h).symm
    simp only [ne_eq, not_or, not_and_or, not_not] at hrequest hid htarget hsaid hvalid
    exact ⟨hrequest.1, hrequest.2, by simpa using hclean, hid, htarget, hsaid.1, hsaid.2, hvalid,
      hvalue⟩
  · rintro ⟨hrequest, hop, hclean, hid, htarget, hopcode, hrid, hvalid, rfl⟩
    have hno : ¬(validateRegisterRequest request ≠ .ok ∨
        (operation ≠ registerQuery ∧ operation ≠ registerWrite)) := by
      rw [not_or, not_not, not_and_or, not_not, not_not]
      exact ⟨hrequest, hop⟩
    rw [if_neg hno, hclean, if_neg (by simp), if_neg (by simpa using hid),
      if_neg (by simpa using htarget), if_neg (by simp [hopcode, hrid]),
      if_neg (by simpa using hvalid)]

/-! ## §3. The round trip. -/

/-- A write, by its raw value. -/
theorem makeRegisterWrite_raw {write : RegisterWrite} {frame : Frame}
    (h : makeRegisterWrite write = .ok frame) :
    validStandardId write.sendId = true ∧
      (∃ info, registerMetadata write.registerId = some info ∧
        write.valueType = info.valueType) ∧
      validateRegisterRaw write.registerId write.valueType write.raw = .ok ∧
      frame = serviceFrame write.sendId 0x55 (byte write.registerId) write.raw.toNat := by
  obtain ⟨hid, info, hmeta, -, htype, hvalue⟩ := makeRegisterWrite_ok_iff.mp h
  refine ⟨hid, ⟨info, hmeta, htype⟩, ?_⟩
  unfold validateRegisterRaw RegisterWrite.raw
  rw [htype]
  obtain ⟨valueType, writable⟩ := info
  cases valueType with
  | u32 => exact ⟨hvalue.2.1, hvalue.2.2⟩
  | f32 => exact ⟨hvalue.2.1, hvalue.2.2⟩

/-- The members a value carries, against those a write was made from: the one
    its type uses is the same pattern, the other one is zero. -/
theorem value_members {write : RegisterWrite} {frame : Frame}
    (h : makeRegisterWrite write = .ok frame) :
    (if write.valueType = .u32 then write.raw else 0) = write.valueU32 ∧
      (write.valueType = .f32 → (⟨write.raw⟩ : Binary32) = write.valueF32) := by
  obtain ⟨-, info, -, -, htype, hvalue⟩ := makeRegisterWrite_ok_iff.mp h
  unfold RegisterWrite.raw
  rw [htype]
  obtain ⟨valueType, writable⟩ := info
  cases valueType with
  | u32 => simp
  | f32 =>
    have hzero : write.valueU32 = 0 := hvalue.1
    simp [hzero]

/-- A frame that answers a write decodes to the value written. -/
theorem decode_answer {write : RegisterWrite} {frame : Frame} {request : RegisterRequest}
    (hmade : makeRegisterWrite write = .ok frame) (hmatch : request.Matches write) :
    decodeRegisterResponse { frame with canId := request.receiveId } request registerWrite =
      .ok (request.value registerWrite write.raw) := by
  obtain ⟨hid, ⟨info, hmeta, htype⟩, hvalid, hframe⟩ := makeRegisterWrite_raw hmade
  have hsend : write.sendId < 65536 := by
    have hle := (validStandardId_iff.mp hid).2
    omega
  have hrid : (byte write.registerId).toNat = write.registerId := by
    have hlt := registerMetadata_lt hmeta
    rw [toNat_byte]
    omega
  obtain ⟨-, hdlc, htarget, hop, hreg, hval⟩ :=
    (says_iff hsend write.raw.isLt).mp hframe
  have hraw : BitVec.ofNat 32 frame.value = write.raw := by
    rw [hval]
    simp
  refine decodeRegisterResponse_ok_iff.mpr ⟨?_, .inr rfl, ?_, rfl, ?_, hop, ?_, ?_, ?_⟩
  · refine validateRegisterRequest_ok_iff.mpr ⟨?_, hmatch.receiveId, info, ?_, ?_⟩
    · rw [hmatch.sendId]
      exact hid
    · rw [hmatch.registerId]
      exact hmeta
    · rw [hmatch.valueType]
      exact htype
  · exact cleanStandardFrame_of_valid hmatch.receiveId hdlc
  · rw [hmatch.sendId]
    exact htarget
  · rw [hmatch.registerId, ← hrid]
    exact hreg
  · rw [hmatch.registerId, hmatch.valueType]
    show validateRegisterRaw _ _ (BitVec.ofNat 32 frame.value) = .ok
    rw [hraw]
    exact hvalid
  · show _ = request.value registerWrite (BitVec.ofNat 32 frame.value)
    rw [hraw]

/-- The payload of an answer, with the opcode of a write, is the payload of the
    write of its value. -/
theorem write_of_answer {frame : Frame} {request : RegisterRequest} {operation : Nat}
    {value : RegisterValue} {info : RegisterInfo}
    (hdecoded : decodeRegisterResponse frame request operation = .ok value)
    (hmeta : registerMetadata request.registerId = some info) (hwritable : info.writable = true) :
    makeRegisterWrite value.write =
      .ok (fillFrame serviceId (Function.update frame.data 2 0x55)) := by
  obtain ⟨hrequest, -, -, -, htarget, -, hrid, hvalid, rfl⟩ :=
    decodeRegisterResponse_ok_iff.mp hdecoded
  obtain ⟨hsend, -, info', hmeta', htype⟩ := validateRegisterRequest_ok_iff.mp hrequest
  obtain rfl : info' = info := Option.some.inj (hmeta'.symm.trans hmeta)
  have hsaid : (fillFrame serviceId (Function.update frame.data 2 0x55)).Says request.sendId 0x55
      request.registerId frame.value :=
    ⟨rfl, rfl, htarget, rfl, hrid, rfl⟩
  have hwrite : (request.value operation (BitVec.ofNat 32 frame.value)).write =
      .ofRaw request.sendId request.registerId info'.valueType (BitVec.ofNat 32 frame.value) := by
    rw [← htype]
    rfl
  rw [hwrite]
  refine makeRegisterWrite_ofRaw hsaid hsend hmeta' hwritable ?_
  rw [htype] at hvalid
  obtain ⟨valueType, writable⟩ := info'
  cases valueType with
  | u32 => exact hvalid
  | f32 => exact hvalid

/-- **Register codec round trip.**  The frame of an accepted write, sent back
    from any receive id, is accepted by every matching request and carries the
    same register, type and value; and an accepted answer for a writable
    register can be written back, byte for byte. -/
theorem register_round_trip :
    (∀ (write : RegisterWrite) (frame : Frame) (request : RegisterRequest),
      makeRegisterWrite write = .ok frame → request.Matches write →
      ∃ value,
        decodeRegisterResponse { frame with canId := request.receiveId } request registerWrite =
            .ok value ∧
          value.operation = registerWrite ∧ value.registerId = write.registerId ∧
          value.valueType = write.valueType ∧ value.rawValue = write.raw ∧
          value.valueU32 = write.valueU32 ∧
          (write.valueType = .f32 → value.valueF32 = write.valueF32)) ∧
    (∀ (frame : Frame) (request : RegisterRequest) (operation : Nat) (value : RegisterValue)
        (info : RegisterInfo),
      decodeRegisterResponse frame request operation = .ok value →
      registerMetadata request.registerId = some info → info.writable = true →
      makeRegisterWrite value.write =
        .ok (fillFrame serviceId (Function.update frame.data 2 0x55))) := by
  constructor
  · intro write frame request hmade hmatch
    obtain ⟨hu32, hf32⟩ := value_members hmade
    refine ⟨_, decode_answer hmade hmatch, rfl, hmatch.registerId, hmatch.valueType, rfl, ?_, ?_⟩
    · show (if request.valueType = .u32 then write.raw else 0) = write.valueU32
      rw [hmatch.valueType]
      exact hu32
    · intro htype
      show (if request.valueType = .f32 then ⟨write.raw⟩ else ⟨0⟩ : Binary32) = write.valueF32
      rw [hmatch.valueType, if_pos htype]
      exact hf32 htype
  · intro frame request operation value info hdecoded hmeta hwritable
    exact write_of_answer hdecoded hmeta hwritable

/-- A torque constant of negative zero, written to a motor and read back. -/
def negativeZeroWrite : RegisterWrite := .ofRaw 1 ridKtValue .f32 0x80000000

/-- The answer to it, and its value written once more. -/
theorem register_round_trip_negative_zero :
    (∃ value,
      decodeRegisterResponse
          { serviceFrame 1 0x55 (byte ridKtValue) 0x80000000 with canId := 0x11 }
          ⟨1, 0x11, ridKtValue, .f32⟩ registerWrite = .ok value ∧
        value.operation = registerWrite ∧ value.registerId = ridKtValue ∧
        value.valueType = .f32 ∧ value.rawValue = 0x80000000 ∧ value.valueU32 = 0 ∧
        (RegisterValueType.f32 = .f32 → value.valueF32 = ⟨0x80000000⟩)) ∧
    makeRegisterWrite
        (RegisterRequest.value ⟨1, 0x11, ridKtValue, .f32⟩ registerQuery 0x80000000).write =
      .ok (fillFrame serviceId (Function.update ![1, 0, 0x33, 1, 0, 0, 0, 0x80] 2 0x55)) :=
  ⟨register_round_trip.1 negativeZeroWrite (serviceFrame 1 0x55 (byte ridKtValue) 0x80000000)
      ⟨1, 0x11, ridKtValue, .f32⟩ (by decide +kernel) ⟨rfl, rfl, rfl, by decide⟩,
    register_round_trip.2 ⟨0x11, 8, ![1, 0, 0x33, 1, 0, 0, 0, 0x80]⟩ ⟨1, 0x11, ridKtValue, .f32⟩
      registerQuery _ ⟨.f32, true⟩ (by decide +kernel) (by decide +kernel) rfl⟩

end OpenArm.Can
