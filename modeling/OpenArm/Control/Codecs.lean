/-
  OpenArm.Control.Codecs — the motion and feedback codecs, side by side.

  The CAN library truncates a number to its code, the simulator rounds it to
  the nearest; both read a code back as the same point of the range, the one
  with the span of the motor type, the other with the span of the manifest,
  which may differ from it by 1e-12.  Exact arithmetic stands for binary64.

  Main results:
    * `mitFields_mitData`  — five codes in eight bytes, and back.
    * `decode_frameAt`     — what the two decoders read from one frame.
    * `codecs_consistent`  — motion commands, codes and simulated frames.
    * `spans_within_tolerance` — two decoders that read different positions.
-/
import OpenArm.Lib.Quantizer
import OpenArm.Can.Registers
import OpenArm.Control.Generations

namespace OpenArm.Can

open OpenArm.Lib

/-! ## §1. Codes. -/

/-- The range of a field and its codes. -/
def fieldRange {lower upper : ℚ} (hlt : lower < upper) {bits : Nat} (hbits : 0 < bits) :
    Quantizer ℚ where
  lower := lower
  upper := upper
  steps := 2 ^ bits - 1
  lower_lt_upper := hlt
  steps_pos := by
    have hpow : 2 ^ 1 ≤ 2 ^ bits := Nat.pow_le_pow_right (by decide) hbits
    omega

theorem fromUint_eq {lower upper : ℚ} (hlt : lower < upper) {bits : Nat} (hbits : 0 < bits)
    (k : Nat) : fromUint k lower upper bits = (fieldRange hlt hbits).value k := rfl

/-- Below the word size, the conversion is the code. -/
theorem toUint_eq {lower upper v : ℚ} (hlt : lower < upper) {bits : Nat} (hbits : 0 < bits)
    (hword : bits ≤ 32) (hv : v ≤ upper) :
    toUint v lower upper bits = (fieldRange hlt hbits).code v := by
  have hle := (fieldRange hlt hbits).code_le hv
  have hpow : 2 ^ bits ≤ 2 ^ 32 := Nat.pow_le_pow_right (by decide) hword
  have hsteps : (fieldRange hlt hbits).steps = 2 ^ bits - 1 := rfl
  have hpos : 0 < 2 ^ bits := Nat.two_pow_pos bits
  show wrap32 (⌊(fieldRange hlt hbits).position v⌋.toNat) = _
  rw [Int.floor_toNat]
  exact Nat.mod_eq_of_lt (by
    show (fieldRange hlt hbits).code v < 2 ^ 32
    omega)

/-- A code stands for a number at most one step below the one it was made
    from. -/
structure Dequantises (v lower upper : ℚ) (bits code : Nat) : Prop where
  fits : code < 2 ^ bits
  le : fromUint code lower upper bits ≤ v
  within : v - (upper - lower) / (2 ^ bits - 1 : Nat) < fromUint code lower upper bits

theorem dequantises_toUint {lower upper v : ℚ} (hlt : lower < upper) {bits : Nat}
    (hbits : 0 < bits) (hword : bits ≤ 32) (hlow : lower ≤ v) (hhigh : v ≤ upper) :
    Dequantises v lower upper bits (toUint v lower upper bits) := by
  rw [toUint_eq hlt hbits hword hhigh]
  have hpos : 0 < 2 ^ bits := Nat.two_pow_pos bits
  have hle := (fieldRange hlt hbits).code_le hhigh
  have hsteps : (fieldRange hlt hbits).steps = 2 ^ bits - 1 := rfl
  exact ⟨by omega, (fieldRange hlt hbits).value_code_le hlow,
    (fieldRange hlt hbits).lt_value_code v⟩

/-- **A code survives being read and made again.** -/
theorem toUint_fromUint {lower upper : ℚ} (hlt : lower < upper) {bits k : Nat}
    (hbits : 0 < bits) (hword : bits ≤ 32) (hk : k < 2 ^ bits) :
    toUint (fromUint k lower upper bits) lower upper bits = k := by
  have hsteps : (fieldRange hlt hbits).steps = 2 ^ bits - 1 := rfl
  have hmem := (fieldRange hlt hbits).value_mem (k := k) (by omega)
  rw [fromUint_eq hlt hbits, toUint_eq hlt hbits hword hmem.2, Quantizer.code_value]

/-! ## §2. Eight bytes. -/

/-- The five numbers of a motion payload, high byte first. -/
def mitFields (data : Bytes) : MitCodes where
  position := (data 0).toNat * 256 + (data 1).toNat
  velocity := (data 2).toNat * 16 + (data 3).toNat / 16
  kp := (data 3).toNat % 16 * 256 + (data 4).toNat
  kd := (data 5).toNat * 16 + (data 6).toNat / 16
  torque := (data 6).toNat % 16 * 256 + (data 7).toNat

/-- The codes fit the fields of the payload. -/
structure MitCodes.Fits (codes : MitCodes) : Prop where
  position : codes.position < 2 ^ 16
  velocity : codes.velocity < 2 ^ 12
  kp : codes.kp < 2 ^ 12
  kd : codes.kd < 2 ^ 12
  torque : codes.torque < 2 ^ 12

/-- A code that fits has nothing to spill into the field before it. -/
theorem MitCodes.fields_of_fits {codes : MitCodes} (h : codes.Fits) : codes.fields = codes := by
  obtain ⟨hp, hv, hkp, hkd, ht⟩ := h
  unfold MitCodes.fields
  rw [Nat.div_eq_of_lt (show codes.kp < 4096 from hkp),
    Nat.div_eq_of_lt (show codes.torque < 4096 from ht), Nat.or_zero, Nat.or_zero]
  obtain ⟨p, v, kp, kd, t⟩ := codes
  simp only [MitCodes.mk.injEq] at *
  omega

/-- **Five codes in eight bytes, and back.** -/
theorem mitFields_mitData {codes : MitCodes} (h : codes.Fits) :
    mitFields (mitData codes) = codes := by
  obtain ⟨h0, h1, h2, h3, h4, h5, h6, h7⟩ := toNat_mitData codes
  rw [MitCodes.fields_of_fits h] at h0 h1 h2 h3 h4 h5 h6 h7
  obtain ⟨hp, hv, hkp, hkd, ht⟩ := h
  unfold mitFields
  rw [h0, h1, h2, h3, h4, h5, h6, h7]
  obtain ⟨p, v, kp, kd, t⟩ := codes
  simp only [MitCodes.mk.injEq] at *
  omega

/-! ## §3. Motion commands. -/

/-- The five numbers of a command within their ranges, and the codes sent for
    them. -/
structure MitConsistent (values : MitValues ℚ) (pmax vmax tmax : ℚ) (data : Bytes) : Prop where
  layout : mitFields data = mitCodes values pmax vmax tmax
  position : Dequantises values.position (-pmax) pmax 16 (mitFields data).position
  velocity : Dequantises values.velocity (-vmax) vmax 12 (mitFields data).velocity
  kp : Dequantises values.kp 0 500 12 (mitFields data).kp
  kd : Dequantises values.kd 0 5 12 (mitFields data).kd
  torque : Dequantises values.torque (-tmax) tmax 12 (mitFields data).torque

theorem saturated_mem {v lower upper : ℚ} (h : lower ≤ upper) :
    lower ≤ saturated v lower upper ∧ saturated v lower upper ≤ upper := by
  unfold saturated
  split
  · exact ⟨le_refl _, h⟩
  next hlow =>
  split
  · exact ⟨h, le_refl _⟩
  next hhigh => exact ⟨not_lt.mp hlow, not_lt.mp hhigh⟩

/-- What an accepted command is encoded into. -/
theorem encodeMitValues_consistent {sendId : Nat} {values : MitValues ℚ} {pmax vmax tmax : ℚ}
    {policy : RangePolicy} {out : Frame × List Bool}
    (h : encodeMitValues sendId values pmax vmax tmax policy = .ok out) :
    MitConsistent (values.saturated pmax vmax tmax) pmax vmax tmax out.1.data := by
  have hspans : 0 < pmax ∧ 0 < vmax ∧ 0 < tmax := by
    unfold encodeMitValues at h
    dsimp only at h
    split at h
    · cases h
    next hvalid =>
      simp only [Bool.or_eq_true, Bool.not_eq_true', Bool.and_eq_false_iff, not_or,
        Bool.not_eq_false, decide_eq_false_iff_not, not_not] at hvalid
      exact ⟨hvalid.1.1.2.2, hvalid.1.2.2, hvalid.2.2⟩
  obtain ⟨hp, hv, ht⟩ := hspans
  obtain ⟨-, hframe⟩ := encodeMitValues_ok h
  have hdata : out.1.data = mitData (mitCodes (values.saturated pmax vmax tmax) pmax vmax tmax) := by
    rw [hframe]
    rfl
  have hcode : ∀ v lower upper : ℚ, ∀ bits : Nat, lower < upper → 0 < bits → bits ≤ 32 →
      Dequantises (saturated v lower upper) lower upper bits
        (toUint (saturated v lower upper) lower upper bits) := by
    intro v lower upper bits hlt hbits hword
    have hmem := saturated_mem (v := v) hlt.le
    exact dequantises_toUint hlt hbits hword hmem.1 hmem.2
  have hposition := hcode values.position (-pmax) pmax 16 (by linarith) (by decide) (by decide)
  have hvelocity := hcode values.velocity (-vmax) vmax 12 (by linarith) (by decide) (by decide)
  have hkp := hcode values.kp 0 500 12 (by norm_num) (by decide) (by decide)
  have hkd := hcode values.kd 0 5 12 (by norm_num) (by decide) (by decide)
  have htorque := hcode values.torque (-tmax) tmax 12 (by linarith) (by decide) (by decide)
  have hlayout : mitFields out.1.data =
      mitCodes (values.saturated pmax vmax tmax) pmax vmax tmax := by
    rw [hdata]
    exact mitFields_mitData
      ⟨hposition.fits, hvelocity.fits, hkp.fits, hkd.fits, htorque.fits⟩
  exact ⟨hlayout, hlayout ▸ hposition, hlayout ▸ hvelocity, hlayout ▸ hkp, hlayout ▸ hkd,
    hlayout ▸ htorque⟩

/-- The five numbers of a MIT command, held to the limits of its motor type. -/
def MitCommand.limited (command : MitCommand ℚ) : MitValues ℚ :=
  let limits : Limits ℚ := limitsOf command.motorType
  MitValues.saturated
    ⟨command.positionRad, command.velocityRadS, command.kp, command.kd, command.torqueNm⟩
    limits.positionMaxRad limits.velocityMaxRadS limits.torqueMaxNm

/-- The five numbers of a profiled command, held to the limits of the
    profile. -/
def MitProfileCommand.limited (command : MitProfileCommand ℚ) (profile : MitProfile ℚ) :
    MitValues ℚ :=
  MitValues.saturated
    ⟨command.positionRad, command.velocityRadS, command.kp, command.kd, command.torqueNm⟩
    profile.pmaxRad profile.vmaxRadS profile.tmaxNm

theorem encodeMit_consistent {command : MitCommand ℚ} {policy : RangePolicy}
    {out : Frame × List Bool} (h : encodeMit command policy = .ok out) :
    MitConsistent command.limited (limitsOf command.motorType : Limits ℚ).positionMaxRad
      (limitsOf command.motorType : Limits ℚ).velocityMaxRadS
      (limitsOf command.motorType : Limits ℚ).torqueMaxNm out.1.data := by
  unfold encodeMit motorLimits at h
  split at h
  · cases h
  next hvalid =>
    simp only [bind, Except.bind] at h
    exact encodeMitValues_consistent h

theorem encodeMitProfile_consistent {command : MitProfileCommand ℚ} {profile : MitProfile ℚ}
    {frame : Frame} (h : encodeMitProfile command profile = .ok frame) :
    MitConsistent (command.limited profile) profile.pmaxRad profile.vmaxRadS profile.tmaxNm
      frame.data := by
  unfold encodeMitProfile at h
  split at h
  · cases h
  simp only [bind, Except.bind, pure, Except.pure] at h
  split at h
  · cases h
  next encoded hencoded =>
    obtain rfl := Except.ok.inj h
    exact encodeMitValues_consistent hencoded

/-! ## §4. Replies. -/

/-- The record of a decoded reply, by the numbers in its bytes. -/
structure DecodedReply (frame : Frame) (pmax vmax tmax : ℚ) (feedback : Feedback ℚ) : Prop where
  status : feedback.statusNibble = (frame.data 0).toNat / 16
  position : feedback.positionRad =
    fromUint ((frame.data 1).toNat * 256 + (frame.data 2).toNat) (-pmax) pmax 16
  velocity : feedback.velocityRadS =
    fromUint ((frame.data 3).toNat * 16 + (frame.data 4).toNat / 16) (-vmax) vmax 12
  torque : feedback.torqueNm =
    fromUint ((frame.data 4).toNat % 16 * 256 + (frame.data 5).toNat) (-tmax) tmax 12

/-- A reply of the expected motor with a known status is decoded. -/
theorem decodeFeedbackRanges_some {frame : Frame} {motorId : Nat} {pmax vmax tmax : ℚ}
    (hid : validStandardId frame.canId = true) (hdlc : frame.dlc = 8) (hmotor : motorId ≤ 15)
    (hp : 0 < pmax) (hv : 0 < vmax) (ht : 0 < tmax)
    (hnibble : (frame.data 0).toNat % 16 = motorId)
    (hknown : knownFeedbackStatus ((frame.data 0).toNat / 16) = true) :
    ∃ status feedback,
      decodeFeedbackRanges frame frame.canId motorId pmax vmax tmax = (status, some feedback) ∧
        DecodedReply frame pmax vmax tmax feedback := by
  have hclean := cleanStandardFrame_of_valid hid hdlc
  have hspan : ∀ s : ℚ, 0 < s → (Floating.isFinite s && decide (Floating.lit 0 < s)) = true := by
    intro s hs
    show (true && decide ((0 : ℚ) < s)) = true
    simp [hs]
  have hargs : ¬(!validStandardId frame.canId || decide (15 < motorId) ||
      !(Floating.isFinite pmax && decide (Floating.lit 0 < pmax)) ||
      !(Floating.isFinite vmax && decide (Floating.lit 0 < vmax)) ||
      !(Floating.isFinite tmax && decide (Floating.lit 0 < tmax))) = true := by
    rw [hid, hspan pmax hp, hspan vmax hv, hspan tmax ht]
    simp [hmotor]
  unfold decodeFeedbackRanges
  dsimp only
  rw [if_neg hargs, if_neg (by simp [hclean]), if_neg (by simp), if_neg (by simp [hnibble]),
    if_neg (by simp [hknown])]
  exact ⟨_, _, rfl, ⟨rfl, rfl, rfl, rfl⟩⟩

end OpenArm.Can

namespace OpenArm.Control

open OpenArm.Lib OpenArm.Can

/-! ## §5. Simulated motors. -/

/-- `codec_spans`: the spans of a motor type. -/
def codecSpans (motorType : Nat) : Option (Limits ℚ) :=
  if motorType = motorDm8009 then some ⟨12.5, 45, 54⟩
  else if motorType = motorDm4340 then some ⟨12.5, 10, 28⟩
  else if motorType = motorDm4310 then some ⟨12.5, 30, 10⟩
  else none

/-- The codec checks of `validate_config` on one motor. -/
def codecProfileValid (motorType : Nat) (motor : MotorConfig ℚ) : Bool :=
  match codecSpans motorType with
  | none => false
  | some spans =>
    decide (motor.embeddedMotorId ≤ 0x0f) &&
      !(decide (1.0e-12 < |motor.pmaxRad - spans.positionMaxRad|) ||
        decide (1.0e-12 < |motor.vmaxRadS - spans.velocityMaxRadS|) ||
        decide (1.0e-12 < |motor.tmaxNm - spans.torqueMaxNm|))

/-- A simulated motor after any operations.  The fault statuses are those
    `set_sim_fault` lets through. -/
inductive Simulated (config : MotorConfig ℚ) : DamiaoMotorSimulator ℚ → Prop where
  | create : Simulated config (.create config)
  | setEnabled {m} (enabled : Bool) : Simulated config m → Simulated config (m.setEnabled enabled)
  | setFault {m} (status : Nat) (known : status = 0 ∨ 8 ≤ status ∧ status ≤ 14) :
    Simulated config m → Simulated config (m.setFault status)
  | command {m} (q dq : ℚ) : Simulated config m → Simulated config (m.command q dq)
  | setBlocked {m} (blocked : Bool) (gain : ℚ) :
    Simulated config m → Simulated config (m.setBlocked blocked gain)
  | capture {m} (dtS : ℚ) (captureNs : Nat) (frozen : Bool) :
    Simulated config m → Simulated config (m.capture dtS captureNs frozen).1
  | publish {m} (frame : FeedbackFrame) : Simulated config m → Simulated config (m.publish frame)
  | forceState {m} (q dq : ℚ) (feedbackNs : Nat) :
    Simulated config m → Simulated config (m.forceState q dq feedbackNs)

/-- What every operation leaves of a motor: its configuration, and a fault
    status a decoder knows. -/
def KnownMotor (config : MotorConfig ℚ) (m : DamiaoMotorSimulator ℚ) : Prop :=
  m.config = config ∧ (m.faultStatus = 0 ∨ 8 ≤ m.faultStatus ∧ m.faultStatus ≤ 14)

/-- A capture moves the plant only. -/
theorem capture_fixed (m : DamiaoMotorSimulator ℚ) (dtS : ℚ) (captureNs : Nat) (frozen : Bool) :
    (m.capture dtS captureNs frozen).1.config = m.config ∧
      (m.capture dtS captureNs frozen).1.faultStatus = m.faultStatus := by
  unfold DamiaoMotorSimulator.capture
  dsimp only
  split
  · exact ⟨rfl, rfl⟩
  · exact ⟨rfl, rfl⟩

theorem Simulated.known {config : MotorConfig ℚ} {m : DamiaoMotorSimulator ℚ}
    (h : Simulated config m) : KnownMotor config m := by
  induction h with
  | create => exact ⟨rfl, .inl rfl⟩
  | setEnabled enabled _ ih => exact ih
  | setFault status known _ ih => exact ⟨ih.1, known⟩
  | command q dq _ ih => exact ih
  | setBlocked blocked gain _ ih => exact ih
  | @capture m dtS captureNs frozen _ ih =>
    obtain ⟨hconfig, hfault⟩ := capture_fixed m dtS captureNs frozen
    exact ⟨hconfig.trans ih.1, by rw [hfault]; exact ih.2⟩
  | publish frame _ ih => exact ih
  | forceState q dq feedbackNs _ ih => exact ih

/-- The status a known motor reports is one of the feedback statuses. -/
theorem KnownMotor.status {config : MotorConfig ℚ} {m : DamiaoMotorSimulator ℚ}
    (h : KnownMotor config m) :
    m.reportedStatus = 0 ∨ m.reportedStatus = 1 ∨
      8 ≤ m.reportedStatus ∧ m.reportedStatus ≤ 14 := by
  unfold DamiaoMotorSimulator.reportedStatus
  split
  · next hfault =>
    have hne : m.faultStatus ≠ 0 := by simpa using hfault
    exact .inr (.inr (h.2.resolve_left hne))
  · split
    · exact .inr (.inl rfl)
    · exact .inl rfl

/-! ## §6. One frame, two decoders. -/

/-- The eight bytes of a simulated reply on the bus. -/
def FeedbackFrame.onBus (frame : FeedbackFrame) (receiveId : Nat) : Can.Frame :=
  fillFrame receiveId fun i => byte (frame.data i)

/-- The codes of a reply. -/
@[ext]
structure ReplyCodes where
  position : Nat
  velocity : Nat
  torque : Nat

/-- The codes in the bytes of a reply. -/
def FeedbackFrame.codes (frame : FeedbackFrame) : ReplyCodes where
  position := frame.data 1 * 256 + frame.data 2
  velocity := frame.data 3 * 16 + frame.data 4 / 16
  torque := frame.data 4 % 16 * 256 + frame.data 5

/-- The codes a capture encodes. -/
def DamiaoMotorSimulator.codes (m : DamiaoMotorSimulator ℚ) : ReplyCodes where
  position := encodeField m.plantRawQ m.config.pmaxRad 65535
  velocity := encodeField m.plantRawDq m.config.vmaxRadS 4095
  torque := encodeField (m.contactTau * m.config.qScale) m.config.tmaxNm 4095

theorem shiftLeft_or {a b bits : Nat} (hb : b < 2 ^ bits) : a <<< bits ||| b = a * 2 ^ bits + b := by
  rw [← Nat.shiftLeft_add_eq_or_of_lt hb, Nat.shiftLeft_eq]

theorem and_low (n bits : Nat) : n &&& (2 ^ bits - 1) = n % 2 ^ bits :=
  Nat.and_two_pow_sub_one_eq_mod n bits

/-- The bytes of a packed reply. -/
theorem packFrame_bytes {status id : Nat} (q dq tau : Nat) (hstatus : status < 16)
    (hid : id ≤ 15) :
    packFrame status id q dq tau 0 = status * 16 + id ∧
      packFrame status id q dq tau 1 = q / 256 % 256 ∧
      packFrame status id q dq tau 2 = q % 256 ∧
      packFrame status id q dq tau 3 = dq / 16 % 256 ∧
      packFrame status id q dq tau 4 = dq % 16 * 16 + tau / 256 % 16 ∧
      packFrame status id q dq tau 5 = tau % 256 := by
  have hnibble : ∀ n : Nat, n &&& 0x0f = n % 16 := fun n => and_low n 4
  have hbyte : ∀ n : Nat, n &&& 0xff = n % 256 := fun n => and_low n 8
  refine ⟨?_, ?_, ?_, ?_, ?_, ?_⟩
  · show (status <<< 4 ||| (id &&& 0x0f)) % 256 = _
    rw [hnibble, shiftLeft_or (by omega)]
    omega
  · show q >>> 8 &&& 0xff = _
    rw [hbyte, Nat.shiftRight_eq_div_pow]
  · show q &&& 0xff = _
    rw [hbyte]
  · show dq >>> 4 &&& 0xff = _
    rw [hbyte, Nat.shiftRight_eq_div_pow]
  · show ((dq &&& 0x0f) <<< 4 ||| (tau >>> 8 &&& 0x0f)) % 256 = _
    rw [hnibble, hnibble, Nat.shiftRight_eq_div_pow, shiftLeft_or (by omega)]
    omega
  · show tau &&& 0xff = _
    rw [hbyte]

/-- What `publish` reads, by the codes of the frame. -/
theorem reading_eq (config : MotorConfig ℚ) {frame : FeedbackFrame}
    (h : ∀ i, frame.data i < 256) :
    (DamiaoMotorSimulator.reading config frame).rawQ =
        decodeField frame.codes.position config.pmaxRad 65535 ∧
      (DamiaoMotorSimulator.reading config frame).rawDq =
        decodeField frame.codes.velocity config.vmaxRadS 4095 ∧
      (DamiaoMotorSimulator.reading config frame).rawTau =
        decodeField frame.codes.torque config.tmaxNm 4095 ∧
      (DamiaoMotorSimulator.reading config frame).status = frame.data 0 / 16 := by
  have h4 := h 4
  have hnibble : frame.data 4 &&& 0x0f = frame.data 4 % 16 := and_low _ 4
  have hposition : frame.data 1 <<< 8 ||| frame.data 2 = frame.codes.position :=
    shiftLeft_or (h 2)
  have hvelocity : frame.data 3 <<< 4 ||| frame.data 4 >>> 4 = frame.codes.velocity := by
    rw [Nat.shiftRight_eq_div_pow, shiftLeft_or (by omega)]
    rfl
  have htorque : (frame.data 4 &&& 0x0f) <<< 8 ||| frame.data 5 = frame.codes.torque := by
    rw [hnibble, shiftLeft_or (h 5)]
    rfl
  refine ⟨?_, ?_, ?_, ?_⟩
  · show decodeField (frame.data 1 <<< 8 ||| frame.data 2) _ _ = _
    rw [hposition]
  · show decodeField (frame.data 3 <<< 4 ||| frame.data 4 >>> 4) _ _ = _
    rw [hvelocity]
  · show decodeField ((frame.data 4 &&& 0x0f) <<< 8 ||| frame.data 5) _ _ = _
    rw [htorque]
  · show frame.data 0 >>> 4 = _
    rw [Nat.shiftRight_eq_div_pow]

/-- The two readings of a code, with two spans: the ends of the ranges bound
    how far they are apart. -/
theorem decodeField_sub_fromUint {k bits maximum : Nat} (span s : ℚ) (hbits : 0 < bits)
    (hmaximum : maximum = 2 ^ bits - 1) (hk : k < 2 ^ bits) :
    |decodeField k span maximum - fromUint k (-s) s bits| ≤ |span - s| := by
  subst hmaximum
  have hpow : 2 ^ 1 ≤ 2 ^ bits := Nat.pow_le_pow_right (by decide) hbits
  have hmax : (0 : ℚ) < ((2 ^ bits - 1 : Nat) : ℚ) := by
    exact_mod_cast (by omega : 0 < 2 ^ bits - 1)
  have hkle : (k : ℚ) ≤ ((2 ^ bits - 1 : Nat) : ℚ) := by
    exact_mod_cast (by omega : k ≤ 2 ^ bits - 1)
  have hk0 : (0 : ℚ) ≤ k := by positivity
  have hform : decodeField k span (2 ^ bits - 1) - fromUint k (-s) s bits =
      (2 * ((k : ℚ) / ((2 ^ bits - 1 : Nat) : ℚ)) - 1) * (span - s) := by
    show (k : ℚ) / ((2 ^ bits - 1 : Nat) : ℚ) * (2 * span) - span -
      ((k : ℚ) / ((2 ^ bits - 1 : Nat) : ℚ) * (s - -s) + -s) = _
    ring
  have hshare0 : 0 ≤ (k : ℚ) / ((2 ^ bits - 1 : Nat) : ℚ) := by positivity
  have hshare1 : (k : ℚ) / ((2 ^ bits - 1 : Nat) : ℚ) ≤ 1 := by
    rw [div_le_one hmax]
    exact hkle
  have hfactor : |2 * ((k : ℚ) / ((2 ^ bits - 1 : Nat) : ℚ)) - 1| ≤ 1 := by
    rw [abs_le]
    constructor
    · linarith
    · linarith
  rw [hform, abs_mul]
  calc |2 * ((k : ℚ) / ((2 ^ bits - 1 : Nat) : ℚ)) - 1| * |span - s| ≤ 1 * |span - s| := by gcongr
    _ = |span - s| := one_mul _

/-- The simulator's codes fit their fields: the value is clamped before it is
    rounded. -/
theorem encodeField_le {value span : ℚ} (hspan : 0 < span) {maximum : Nat}
    (hmax : maximum < 2 ^ 32) : encodeField value span maximum ≤ maximum := by
  have hclamp : -span ≤ Floating.clamp value (-span) span ∧
      Floating.clamp value (-span) span ≤ span := by
    unfold Floating.clamp
    split
    · exact ⟨le_refl _, by linarith⟩
    next hlow =>
    split
    · exact ⟨by linarith, le_refl _⟩
    next hhigh => exact ⟨not_lt.mp hlow, not_lt.mp hhigh⟩
  set c := Floating.clamp value (-span) span with hc
  set x : ℚ := (c + span) / (2 * span) * maximum with hx
  have hshare0 : 0 ≤ (c + span) / (2 * span) := div_nonneg (by linarith) (by linarith)
  have hshare1 : (c + span) / (2 * span) ≤ 1 := by
    rw [div_le_one (by linarith)]
    linarith
  have hmax0 : (0 : ℚ) ≤ maximum := by positivity
  have hx0 : 0 ≤ x := mul_nonneg hshare0 hmax0
  have hx1 : x ≤ maximum := by
    calc x ≤ 1 * maximum := by
          rw [hx]
          gcongr
      _ = maximum := one_mul _
  have hround0 : 0 ≤ ⌊x + 1 / 2⌋ := Int.floor_nonneg.mpr (by linarith)
  have hround1 : ⌊x + 1 / 2⌋ ≤ (maximum : ℤ) := by
    have hlt : ⌊x + 1 / 2⌋ < (maximum : ℤ) + 1 := Int.floor_lt.mpr (by push_cast; linarith)
    omega
  show (ratLlround x % 2 ^ 32).toNat ≤ maximum
  unfold ratLlround
  rw [if_pos hx0, Int.emod_eq_of_lt hround0 (by omega)]
  omega

/-- The spans of a manifest lie at the spans of the motor type. -/
structure NearSpans (config : MotorConfig ℚ) (spans : Limits ℚ) : Prop where
  id_le : config.embeddedMotorId ≤ 15
  position : |config.pmaxRad - spans.positionMaxRad| ≤ 1.0e-12
  velocity : |config.vmaxRadS - spans.velocityMaxRadS| ≤ 1.0e-12
  torque : |config.tmaxNm - spans.torqueMaxNm| ≤ 1.0e-12

theorem nearSpans_of_valid {motorType : Nat} {config : MotorConfig ℚ}
    (h : codecProfileValid motorType config = true) :
    validType motorType = true ∧ NearSpans config (limitsOf motorType) := by
  unfold codecProfileValid at h
  split at h
  · cases h
  next spans hspans =>
  have hlimits : validType motorType = true ∧ spans = limitsOf motorType := by
    unfold codecSpans at hspans
    split at hspans
    · next htype =>
      subst htype
      exact ⟨rfl, (Option.some.inj hspans).symm⟩
    split at hspans
    · next htype =>
      subst htype
      exact ⟨rfl, (Option.some.inj hspans).symm⟩
    split at hspans
    · next htype =>
      subst htype
      exact ⟨rfl, (Option.some.inj hspans).symm⟩
    · cases hspans
  obtain ⟨hvalid, rfl⟩ := hlimits
  simp only [Bool.and_eq_true, Bool.not_eq_true', Bool.or_eq_false_iff, decide_eq_true_eq,
    decide_eq_false_iff_not, not_lt] at h
  exact ⟨hvalid, h.1, h.2.1.1, h.2.1.2, h.2.2⟩

theorem limitsOf_pos (motorType : Nat) :
    1 ≤ (limitsOf motorType : Limits ℚ).positionMaxRad ∧
      1 ≤ (limitsOf motorType : Limits ℚ).velocityMaxRadS ∧
      1 ≤ (limitsOf motorType : Limits ℚ).torqueMaxNm := by
  refine ⟨?_, ?_, ?_⟩
  · show (1 : ℚ) ≤ 12.5
    norm_num
  · show (1 : ℚ) ≤ if motorType = motorDm8009 then 45 else if motorType = motorDm4340 then 10
      else 30
    split
    · norm_num
    split
    · norm_num
    · norm_num
  · show (1 : ℚ) ≤ if motorType = motorDm8009 then 54 else if motorType = motorDm4340 then 28
      else 10
    split
    · norm_num
    split
    · norm_num
    · norm_num

/-- A span at a positive span is positive. -/
theorem pos_of_near {span s : ℚ} (hs : 1 ≤ s) (h : |span - s| ≤ 1.0e-12) : 0 < span := by
  have hle := (abs_le.mp h).1
  norm_num at hle
  linarith

/-- What two decoders read from one reply of a motor: the status it reported
    and the codes it encoded, each number the same up to the difference of the
    spans. -/
structure ReadAlike (captured : DamiaoMotorSimulator ℚ) (spans : Limits ℚ)
    (measured : MeasuredMotor ℚ) (feedback : Feedback ℚ) : Prop where
  status : feedback.statusNibble = captured.reportedStatus ∧
    measured.status = captured.reportedStatus
  codes : measured.rawQ = decodeField captured.codes.position captured.config.pmaxRad 65535 ∧
    measured.rawDq = decodeField captured.codes.velocity captured.config.vmaxRadS 4095 ∧
    measured.rawTau = decodeField captured.codes.torque captured.config.tmaxNm 4095
  position : |measured.rawQ - feedback.positionRad| ≤
    |captured.config.pmaxRad - spans.positionMaxRad|
  velocity : |measured.rawDq - feedback.velocityRadS| ≤
    |captured.config.vmaxRadS - spans.velocityMaxRadS|
  torque : |measured.rawTau - feedback.torqueNm| ≤ |captured.config.tmaxNm - spans.torqueMaxNm|

/-- The frame of a known motor, by its bytes. -/
theorem frameAt_bytes {config : MotorConfig ℚ} {m : DamiaoMotorSimulator ℚ}
    {spans : Limits ℚ} (hknown : KnownMotor config m) (hnear : NearSpans config spans)
    (hpos : 1 ≤ spans.positionMaxRad ∧ 1 ≤ spans.velocityMaxRadS ∧ 1 ≤ spans.torqueMaxNm)
    (captureNs : Nat) :
    (∀ i, (m.frameAt captureNs).data i < 256) ∧
      (m.frameAt captureNs).data 0 = m.reportedStatus * 16 + config.embeddedMotorId ∧
      (m.frameAt captureNs).codes = m.codes ∧ m.codes.position < 2 ^ 16 ∧
      m.codes.velocity < 2 ^ 12 ∧ m.codes.torque < 2 ^ 12 := by
  have hstatus : m.reportedStatus < 16 := by
    have h := hknown.status
    omega
  have hid : m.config.embeddedMotorId ≤ 15 := by
    rw [hknown.1]
    exact hnear.id_le
  have hq : m.codes.position ≤ 65535 := by
    refine encodeField_le ?_ (by decide)
    rw [hknown.1]
    exact pos_of_near hpos.1 hnear.position
  have hdq : m.codes.velocity ≤ 4095 := by
    refine encodeField_le ?_ (by decide)
    rw [hknown.1]
    exact pos_of_near hpos.2.1 hnear.velocity
  have htau : m.codes.torque ≤ 4095 := by
    refine encodeField_le ?_ (by decide)
    rw [hknown.1]
    exact pos_of_near hpos.2.2 hnear.torque
  have hdata : (m.frameAt captureNs).data = packFrame m.reportedStatus m.config.embeddedMotorId
      m.codes.position m.codes.velocity m.codes.torque := rfl
  obtain ⟨h0, h1, h2, h3, h4, h5⟩ := packFrame_bytes m.codes.position
    m.codes.velocity m.codes.torque hstatus hid
  refine ⟨?_, ?_, ?_, by omega, by omega, by omega⟩
  · intro i
    rw [hdata]
    fin_cases i
    · exact lt_of_eq_of_lt h0 (by omega)
    · exact lt_of_eq_of_lt h1 (by omega)
    · exact lt_of_eq_of_lt h2 (by omega)
    · exact lt_of_eq_of_lt h3 (by omega)
    · exact lt_of_eq_of_lt h4 (by omega)
    · exact lt_of_eq_of_lt h5 (by omega)
    · exact (by decide : 25 < 256)
    · exact (by decide : 25 < 256)
  · rw [hdata, h0, hknown.1]
  · have hparts : (m.frameAt captureNs).codes = ⟨m.codes.position / 256 % 256 * 256 +
        m.codes.position % 256, m.codes.velocity / 16 % 256 * 16 +
        (m.codes.velocity % 16 * 16 + m.codes.torque / 256 % 16) / 16,
        (m.codes.velocity % 16 * 16 + m.codes.torque / 256 % 16) % 16 * 256 +
        m.codes.torque % 256⟩ := by
      unfold FeedbackFrame.codes
      rw [hdata, h1, h2, h3, h4, h5]
    rw [hparts]
    ext
    · show m.codes.position / 256 % 256 * 256 + m.codes.position % 256 = m.codes.position
      omega
    · show m.codes.velocity / 16 % 256 * 16 +
        (m.codes.velocity % 16 * 16 + m.codes.torque / 256 % 16) / 16 = m.codes.velocity
      omega
    · show (m.codes.velocity % 16 * 16 + m.codes.torque / 256 % 16) % 16 * 256 +
        m.codes.torque % 256 = m.codes.torque
      omega

/-- **What the two decoders read from one frame.** -/
theorem decode_frameAt {motorType : Nat} {config : MotorConfig ℚ} {m : DamiaoMotorSimulator ℚ}
    (hvalid : codecProfileValid motorType config = true) (hknown : KnownMotor config m)
    (captureNs : Nat) {receiveId : Nat} (hid : validStandardId receiveId = true)
    {m' : DamiaoMotorSimulator ℚ} (hsame : m'.config = config) :
    ∃ status feedback,
      decodeFeedback ((m.frameAt captureNs).onBus receiveId) receiveId config.embeddedMotorId
        motorType = (status, some feedback) ∧
      ReadAlike m (limitsOf motorType) (m'.publish (m.frameAt captureNs)).measured feedback := by
  obtain ⟨htype, hnear⟩ := nearSpans_of_valid hvalid
  have hpos := limitsOf_pos motorType
  obtain ⟨hbytes, h0, hcodes, hq, hdq, htau⟩ := frameAt_bytes hknown hnear hpos captureNs
  obtain ⟨hrawQ, hrawDq, hrawTau, hstatus⟩ := reading_eq config hbytes
  set frame := m.frameAt captureNs with hframe
  have hmid := hnear.id_le
  have hconfig := hknown.1
  have hbyte : ∀ i, (byte (frame.data i)).toNat = frame.data i := by
    intro i
    rw [toNat_byte]
    exact Nat.mod_eq_of_lt (hbytes i)
  -- The id nibble is the motor's own; the status nibble is one a decoder knows.
  have hidNibble : ((frame.onBus receiveId).data 0).toNat % 16 = config.embeddedMotorId := by
    show (byte (frame.data 0)).toNat % 16 = _
    rw [hbyte, h0]
    omega
  have hstatusNibble : ((frame.onBus receiveId).data 0).toNat / 16 = m.reportedStatus := by
    show (byte (frame.data 0)).toNat / 16 = _
    rw [hbyte, h0]
    omega
  have hfeedback : knownFeedbackStatus m.reportedStatus = true := by
    unfold knownFeedbackStatus feedbackDisabled feedbackEnabled
    rcases hknown.status with hs | hs | ⟨hlow, hhigh⟩
    · simp [hs]
    · simp [hs]
    · simp [hlow, hhigh]
  have hbus : validStandardId (frame.onBus receiveId).canId = true := hid
  obtain ⟨status, feedback, hdecode, hread⟩ := decodeFeedbackRanges_some hbus rfl hmid
    (zero_lt_one.trans_le hpos.1) (zero_lt_one.trans_le hpos.2.1)
    (zero_lt_one.trans_le hpos.2.2) hidNibble (hstatusNibble ▸ hfeedback)
  refine ⟨status, feedback, ?_, ?_⟩
  · unfold decodeFeedback
    rw [htype]
    exact hdecode
  have hfs : feedback.statusNibble = m.reportedStatus := hread.status.trans hstatusNibble
  have hfp : feedback.positionRad = fromUint frame.codes.position
      (-(limitsOf motorType : Limits ℚ).positionMaxRad)
      (limitsOf motorType : Limits ℚ).positionMaxRad 16 := by
    rw [hread.position]
    show fromUint ((byte (frame.data 1)).toNat * 256 + (byte (frame.data 2)).toNat) _ _ _ = _
    rw [hbyte, hbyte]
    rfl
  have hfv : feedback.velocityRadS = fromUint frame.codes.velocity
      (-(limitsOf motorType : Limits ℚ).velocityMaxRadS)
      (limitsOf motorType : Limits ℚ).velocityMaxRadS 12 := by
    rw [hread.velocity]
    show fromUint ((byte (frame.data 3)).toNat * 16 + (byte (frame.data 4)).toNat / 16) _ _ _ = _
    rw [hbyte, hbyte]
    rfl
  have hft : feedback.torqueNm = fromUint frame.codes.torque
      (-(limitsOf motorType : Limits ℚ).torqueMaxNm)
      (limitsOf motorType : Limits ℚ).torqueMaxNm 12 := by
    rw [hread.torque]
    show fromUint ((byte (frame.data 4)).toNat % 16 * 256 + (byte (frame.data 5)).toNat) _ _ _ = _
    rw [hbyte, hbyte]
    rfl
  rw [DamiaoMotorSimulator.measured_publish, hsame]
  rw [hcodes] at hrawQ hrawDq hrawTau hfp hfv hft
  refine ⟨⟨hfs, ?_⟩, ?_, ?_, ?_, ?_⟩
  · rw [hstatus, h0]
    omega
  · rw [hconfig]
    exact ⟨hrawQ, hrawDq, hrawTau⟩
  · rw [hrawQ, hfp, hconfig]
    exact decodeField_sub_fromUint config.pmaxRad _ (by decide) (by decide) hq
  · rw [hrawDq, hfv, hconfig]
    exact decodeField_sub_fromUint config.vmaxRadS _ (by decide) (by decide) hdq
  · rw [hrawTau, hft, hconfig]
    exact decodeField_sub_fromUint config.tmaxNm _ (by decide) (by decide) htau

/-! ## §7. The codecs. -/

/-- **The codecs are consistent**, in exact arithmetic.  An accepted motion
    command fits its five fields, which its eight bytes give back, each
    standing for a number less than a step below the limited one; a code
    survives being read and made again; and both decoders of feedback recover
    the status and the codes of a simulated reply, and the same numbers up to
    the difference of the spans, which is nothing where the manifest has the
    spans of the motor type and never more than its tolerance. -/
theorem codecs_consistent :
    (∀ (command : MitCommand ℚ) (policy : RangePolicy) (out : Can.Frame × List Bool),
      encodeMit command policy = .ok out →
      MitConsistent command.limited (limitsOf command.motorType : Limits ℚ).positionMaxRad
        (limitsOf command.motorType : Limits ℚ).velocityMaxRadS
        (limitsOf command.motorType : Limits ℚ).torqueMaxNm out.1.data) ∧
    (∀ (command : MitProfileCommand ℚ) (profile : MitProfile ℚ) (frame : Can.Frame),
      encodeMitProfile command profile = .ok frame →
      MitConsistent (command.limited profile) profile.pmaxRad profile.vmaxRadS profile.tmaxNm
        frame.data) ∧
    (∀ (lower upper : ℚ) (bits k : Nat), lower < upper → 0 < bits → bits ≤ 32 → k < 2 ^ bits →
      toUint (fromUint k lower upper bits) lower upper bits = k) ∧
    (∀ (motorType : Nat) (config : MotorConfig ℚ) (m m' : DamiaoMotorSimulator ℚ) (dtS : ℚ)
        (captureNs : Nat) (frozen : Bool) (receiveId : Nat),
      codecProfileValid motorType config = true → Simulated config m → m'.config = config →
      validStandardId receiveId = true →
      NearSpans config (limitsOf motorType) ∧
      ∃ status feedback,
        decodeFeedback ((m.capture dtS captureNs frozen).2.onBus receiveId) receiveId
          config.embeddedMotorId motorType = (status, some feedback) ∧
        ReadAlike (m.capture dtS captureNs frozen).1 (limitsOf motorType)
          (m'.publish (m.capture dtS captureNs frozen).2).measured feedback) := by
  refine ⟨fun command policy out => encodeMit_consistent,
    fun command profile frame => encodeMitProfile_consistent,
    fun lower upper bits k hlt hbits hword hk => toUint_fromUint hlt hbits hword hk, ?_⟩
  intro motorType config m m' dtS captureNs frozen receiveId hvalid hm hsame hid
  have hknown := (Simulated.capture dtS captureNs frozen hm).known
  have hframe : (m.capture dtS captureNs frozen).2 =
      (m.capture dtS captureNs frozen).1.frameAt captureNs := rfl
  rw [hframe]
  exact ⟨(nearSpans_of_valid hvalid).2, decode_frameAt hvalid hknown captureNs hid hsame⟩

/-- A command that holds a motor at rest. -/
def holdCommand : MitCommand ℚ := ⟨1, motorDm8009, 0, 0, 0, 0, 0⟩

/-- The same with a profile. -/
def holdProfile : MitProfile ℚ := ⟨1, 0x11, 12.5, 45, 54, 7⟩

/-- The frame of both. -/
def holdFrame : Can.Frame := fillFrame 1 ![0x7f, 0xff, 0x7f, 0xf0, 0, 0, 0x07, 0xff]

/-- The first standard motor, at rest. -/
def restShoulder : DamiaoMotorSimulator ℚ := .create (standardMotor 0 0)

/-- The rule at a command, a profile, a code and the first standard motor. -/
theorem codecs_consistent_hold :
    MitConsistent holdCommand.limited (limitsOf holdCommand.motorType : Limits ℚ).positionMaxRad
        (limitsOf holdCommand.motorType : Limits ℚ).velocityMaxRadS
        (limitsOf holdCommand.motorType : Limits ℚ).torqueMaxNm holdFrame.data ∧
      MitConsistent (MitProfileCommand.limited ⟨1, 0, 0, 0, 0, 0⟩ holdProfile) holdProfile.pmaxRad
        holdProfile.vmaxRadS holdProfile.tmaxNm holdFrame.data ∧
      toUint (fromUint 4095 (-45) 45 12 : ℚ) (-45) 45 12 = 4095 ∧
      (NearSpans (standardMotor 0 0) (limitsOf motorDm8009) ∧
      ∃ status feedback,
        decodeFeedback ((restShoulder.capture 0 1 false).2.onBus 0x11) 0x11
          (standardMotor 0 0 : MotorConfig ℚ).embeddedMotorId motorDm8009 =
            (status, some feedback) ∧
        ReadAlike (restShoulder.capture 0 1 false).1 (limitsOf motorDm8009)
          (restShoulder.publish (restShoulder.capture 0 1 false).2).measured feedback) :=
  ⟨codecs_consistent.1 holdCommand .reject (holdFrame, [false, false, false, false, false])
      (by decide +kernel),
    codecs_consistent.2.1 ⟨1, 0, 0, 0, 0, 0⟩ holdProfile holdFrame (by decide +kernel),
    codecs_consistent.2.2.1 (-45) 45 12 4095 (by norm_num) (by decide) (by decide) (by decide),
    codecs_consistent.2.2.2 motorDm8009 (standardMotor 0 0) restShoulder restShoulder 0 1 false
      0x11 (by decide +kernel) .create rfl (by decide)⟩

/-- A shoulder whose position span lies 1e-13 above that of its motor type. -/
def wideShoulder : MotorConfig ℚ := { standardMotor 0 0 with pmaxRad := 12.5 + 1.0e-13 }

/-- Its first reply. -/
def wideReply : FeedbackFrame := ((DamiaoMotorSimulator.create wideShoulder).capture 0 1 false).2

/-- **Two decoders that read different positions**: the manifest check lets a
    span of the tolerance through, `publish` decodes with it, and the library
    with the span of the motor type. -/
theorem spans_within_tolerance :
    codecProfileValid motorDm8009 wideShoulder = true ∧
      ((decodeFeedback (wideReply.onBus 0x11) 0x11 1 motorDm8009).2.map
        fun feedback : Feedback ℚ => feedback.positionRad) ≠
        some ((DamiaoMotorSimulator.create wideShoulder).publish wideReply).measured.rawQ ∧
      ((decodeFeedback (wideReply.onBus 0x11) 0x11 1 motorDm8009).2.map
        fun feedback : Feedback ℚ => feedback.positionRad).isSome = true := by
  decide +kernel

end OpenArm.Control
