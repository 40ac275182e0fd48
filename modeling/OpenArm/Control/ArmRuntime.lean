/-
  OpenArm.Control.ArmRuntime — the simulated motors and one arm.

  `DamiaoMotorSimulator` is one motor with its plant and its eight-byte
  feedback codec; `ArmRuntime` is seven of them behind one feedback queue,
  which publishes only complete generations.

  Main results:
    * `ArmRuntime.motorEnabled_publishOne`, `ArmRuntime.motorEnabled_publishDueLoop`
      — publishing leaves the motor enables alone.
    * `ArmRuntime.completeFresh_forceState` / `status_forceState` — a forced
      state is published at once, complete and with the motors' own status.
-/
import OpenArm.Control.Types
import OpenArm.Lib.Ring

namespace OpenArm.Control

open OpenArm.Lib

variable {F : Type} [Floating F]

/-! ## §1. The feedback codec. -/

/-- `encode_field`. -/
def encodeField (value span : F) (maximum : Nat) : Nat :=
  let unit := (Floating.clamp value (-span) span + span) / (Floating.lit 2 * span)
  (Floating.llround (unit * Floating.ofNat maximum) % 2 ^ 32).toNat

/-- `decode_field`. -/
def decodeField (value : Nat) (span : F) (maximum : Nat) : F :=
  Floating.ofNat value / Floating.ofNat maximum * (Floating.lit 2 * span) - span

/-- `MeasuredMotor`. -/
structure MeasuredMotor (F : Type) where
  rawQ : F
  rawDq : F
  rawTau : F
  status : Nat
  mosC : Nat
  coilC : Nat
  tNs : Nat
  valid : Bool

/-- `FeedbackFrame`: eight bytes and the capture time. -/
structure FeedbackFrame where
  data : Fin 8 → Nat
  tNs : Nat

/-- A value-initialised frame. -/
def FeedbackFrame.zero : FeedbackFrame := ⟨fun _ => 0, 0⟩

/-- The eight bytes of a DaMiao reply. -/
def packFrame (status embeddedMotorId qField dqField tauField : Nat) : Fin 8 → Nat
  | 0 => ((status <<< 4) ||| (embeddedMotorId &&& 0x0f)) % 256
  | 1 => (qField >>> 8) &&& 0xff
  | 2 => qField &&& 0xff
  | 3 => (dqField >>> 4) &&& 0xff
  | 4 => (((dqField &&& 0x0f) <<< 4) ||| ((tauField >>> 8) &&& 0x0f)) % 256
  | 5 => tauField &&& 0xff
  | 6 => 25
  | 7 => 25

/-! ## §2. One motor. -/

/-- `DamiaoMotorSimulator`. -/
structure DamiaoMotorSimulator (F : Type) where
  config : MotorConfig F
  measured : MeasuredMotor F
  plantRawQ : F
  plantRawDq : F
  commandRawQ : F
  commandRawDq : F
  enabled : Bool
  blocked : Bool
  reactionGainNmPerRad : F
  faultStatus : Nat

namespace DamiaoMotorSimulator

/-- The constructor. -/
def create (config : MotorConfig F) : DamiaoMotorSimulator F :=
  let rest := -config.qOffsetRad / config.qScale
  { config := config
    measured :=
      { rawQ := Floating.lit 0, rawDq := Floating.lit 0, rawTau := Floating.lit 0
        status := 0, mosC := 25, coilC := 25, tNs := 0, valid := false }
    plantRawQ := rest
    plantRawDq := Floating.lit 0
    commandRawQ := rest
    commandRawDq := Floating.lit 0
    enabled := false
    blocked := false
    reactionGainNmPerRad := Floating.lit 0
    faultStatus := 0 }

def setEnabled (m : DamiaoMotorSimulator F) (enabled : Bool) : DamiaoMotorSimulator F :=
  { m with enabled := enabled }

def setFault (m : DamiaoMotorSimulator F) (status : Nat) : DamiaoMotorSimulator F :=
  { m with faultStatus := status }

def command (m : DamiaoMotorSimulator F) (qModel dqModel : F) : DamiaoMotorSimulator F :=
  { m with
    commandRawQ := (qModel - m.config.qOffsetRad) / m.config.qScale
    commandRawDq := dqModel / m.config.qScale }

def setBlocked (m : DamiaoMotorSimulator F) (blocked : Bool) (gain : F) :
    DamiaoMotorSimulator F :=
  let fallback := m.config.tmaxNm / Floating.lit 0.15
  { m with
    blocked := blocked
    reactionGainNmPerRad :=
      if Floating.isFinite gain && decide (Floating.lit 0 < gain) then gain else fallback }

/-- The plant part of `capture`: one step of the servo towards the command. -/
def stepPlant (m : DamiaoMotorSimulator F) (dtS : F) : DamiaoMotorSimulator F :=
  let maxVelocity := m.config.maxVelocityRadS
  let maxAcceleration := m.config.maxAccelerationRadS2
  let positionError := m.commandRawQ - m.plantRawQ
  let desiredVelocity :=
    Floating.clamp (m.commandRawDq + Floating.lit 8 * positionError) (-maxVelocity) maxVelocity
  let acceleration :=
    Floating.clamp ((desiredVelocity - m.plantRawDq) / Floating.lit 0.08)
      (-maxAcceleration) maxAcceleration
  let dq := Floating.clamp (m.plantRawDq + acceleration * dtS) (-maxVelocity) maxVelocity
  let q := m.plantRawQ + dq * dtS
  let remainingError := m.commandRawQ - q
  let still := decide (Floating.abs m.commandRawDq < Floating.lit 1.0e-9)
  -- The second test of the source reads the state the first one may have reset.
  let crossed := decide (positionError * remainingError < Floating.lit 0) && still
  let dq₁ := if crossed then Floating.lit 0 else dq
  let settled := decide (Floating.abs remainingError < Floating.lit 5.0e-5) && still &&
    decide (Floating.abs dq₁ < Floating.lit 1.0e-3)
  { m with
    plantRawQ := if crossed || settled then m.commandRawQ else q
    plantRawDq := if settled then Floating.lit 0 else dq₁ }

/-- The reported torque in model coordinates: zero in free motion, the servo
    effort spent against the obstacle while blocked. -/
def contactTau (m : DamiaoMotorSimulator F) : F :=
  if m.blocked then
    let errorModelRad := (m.commandRawQ - m.plantRawQ) * m.config.qScale
    let tau := m.reactionGainNmPerRad * errorModelRad
    if Floating.isFinite tau then tau else Floating.lit 0
  else Floating.lit 0

/-- The status nibble a capture reports. -/
def reportedStatus (m : DamiaoMotorSimulator F) : Nat :=
  if m.faultStatus != 0 then m.faultStatus else if m.enabled then 1 else 0

/-- The frame a capture builds from the plant state. -/
def frameAt (m : DamiaoMotorSimulator F) (captureNs : Nat) : FeedbackFrame :=
  { data := packFrame m.reportedStatus m.config.embeddedMotorId
      (encodeField m.plantRawQ m.config.pmaxRad 65535)
      (encodeField m.plantRawDq m.config.vmaxRadS 4095)
      (encodeField (m.contactTau * m.config.qScale) m.config.tmaxNm 4095)
    tNs := captureNs }

/-- `capture`: step the plant unless frozen or blocked, then encode it. -/
def capture (m : DamiaoMotorSimulator F) (dtS : F) (captureNs : Nat) (frozen : Bool) :
    DamiaoMotorSimulator F × FeedbackFrame :=
  let stepped := if !frozen && !m.blocked then m.stepPlant dtS else m
  (stepped, stepped.frameAt captureNs)

/-- `publish`: decode a frame into the measured record. -/
def publish (m : DamiaoMotorSimulator F) (frame : FeedbackFrame) : DamiaoMotorSimulator F :=
  let decodedQ := (frame.data 1 <<< 8) ||| frame.data 2
  let decodedDq := (frame.data 3 <<< 4) ||| (frame.data 4 >>> 4)
  let decodedTau := ((frame.data 4 &&& 0x0f) <<< 8) ||| frame.data 5
  { m with
    measured :=
      { rawQ := decodeField decodedQ m.config.pmaxRad 65535
        rawDq := decodeField decodedDq m.config.vmaxRadS 4095
        rawTau := decodeField decodedTau m.config.tmaxNm 4095
        status := frame.data 0 >>> 4
        mosC := frame.data 6
        coilC := frame.data 7
        tNs := frame.tNs
        valid := true } }

def forceState (m : DamiaoMotorSimulator F) (qModel dqModel : F) (feedbackNs : Nat) :
    DamiaoMotorSimulator F :=
  let q := (qModel - m.config.qOffsetRad) / m.config.qScale
  let dq := dqModel / m.config.qScale
  let forced := { m with plantRawQ := q, plantRawDq := dq, commandRawQ := q, commandRawDq := dq }
  let captured := forced.capture (Floating.lit 0) feedbackNs true
  captured.1.publish captured.2

def mappedQ (m : DamiaoMotorSimulator F) : F :=
  m.config.qScale * m.measured.rawQ + m.config.qOffsetRad

def mappedDq (m : DamiaoMotorSimulator F) : F := m.config.qScale * m.measured.rawDq

def mappedTau (m : DamiaoMotorSimulator F) : F := m.measured.rawTau / m.config.qScale

end DamiaoMotorSimulator

/-! ## §3. One arm. -/

/-- `FeedbackGeneration`: one frame of every joint, captured together. -/
structure FeedbackGeneration where
  frame : Joint → FeedbackFrame
  captureNs : Nat
  readyNs : Nat
  memberMask : JointMask

/-- A value-initialised generation. -/
def FeedbackGeneration.zero : FeedbackGeneration := ⟨fun _ => .zero, 0, 0, 0⟩

/-- `kFeedbackQueueCapacity`. -/
def kFeedbackQueueCapacity : Nat := 64

/-- `ArmRuntime`; `completeCycles` is the count its transport keeps. -/
structure ArmRuntime (F : Type) where
  motor : Joint → DamiaoMotorSimulator F
  feedbackQueue : Ring FeedbackGeneration kFeedbackQueueCapacity
  completeCycles : Nat
  feedbackSeq : Nat
  freezeMask : JointMask
  dropMask : JointMask
  faultMask : JointMask
  commandFailMask : JointMask
  feedbackDelayNs : Nat
  generationMask : JointMask
  generationTimestamp : Nat

namespace ArmRuntime

/-- The constructor. -/
def create (config : Joint → MotorConfig F) : ArmRuntime F where
  motor := fun joint => .create (config joint)
  feedbackQueue := Ring.empty .zero (by decide)
  completeCycles := 0
  feedbackSeq := 0
  freezeMask := 0
  dropMask := 0
  faultMask := 0
  commandFailMask := 0
  feedbackDelayNs := 0
  generationMask := 0
  generationTimestamp := 0

def setEnabled (r : ArmRuntime F) (enabled : Bool) : ArmRuntime F :=
  { r with motor := fun joint => (r.motor joint).setEnabled enabled }

def setFaultMask (r : ArmRuntime F) (mask : JointMask) (status : Nat) : ArmRuntime F :=
  { r with
    motor := fun joint => (r.motor joint).setFault (if hasJoint mask joint then status else 0) }

def setInjection (r : ArmRuntime F) (freezeMask dropMask faultMask : JointMask)
    (faultStatus : Nat) (commandFailMask : JointMask) (feedbackDelayNs : Nat) :
    ArmRuntime F :=
  let masked :=
    { r with
      freezeMask := freezeMask &&& kAllJoints
      dropMask := dropMask &&& kAllJoints
      faultMask := faultMask &&& kAllJoints
      commandFailMask := commandFailMask &&& kAllJoints
      feedbackDelayNs := feedbackDelayNs }
  masked.setFaultMask masked.faultMask (if masked.faultMask == 0 then 0 else faultStatus)

def clearQueue (r : ArmRuntime F) : ArmRuntime F :=
  { r with feedbackQueue := r.feedbackQueue.clear }

def retirePendingFeedback (r : ArmRuntime F) : ArmRuntime F := r.clearQueue

/-- The loop body of `publish_due` on a due generation: a complete one is
    published, an incomplete one only leaves its mask behind.  `none` is the
    refusal at the last sequence number. -/
def publishOne (r : ArmRuntime F) (generation : FeedbackGeneration) : Option (ArmRuntime F) :=
  if generation.memberMask == kAllJoints then
    if r.feedbackSeq = maxU64 then none
    else
      some
        { r with
          motor := fun joint => (r.motor joint).publish (generation.frame joint)
          generationMask := kAllJoints
          generationTimestamp := generation.captureNs
          feedbackSeq := r.feedbackSeq + 1
          feedbackQueue := r.feedbackQueue.pop }
  else
    some
      { r with
        generationMask := generation.memberMask
        feedbackQueue := r.feedbackQueue.pop }

/-- `publish_due`, with the queue length as the bound of its loop.  The
    answer is `false` exactly when the loop left through the refusal. -/
def publishDueLoop (nowNs : Nat) : Nat → ArmRuntime F → ArmRuntime F × Bool
  | 0, r => (r, true)
  | fuel + 1, r =>
    if r.feedbackQueue.isEmpty then (r, true)
    else
      let generation := r.feedbackQueue.front
      if nowNs < generation.readyNs then (r, true)
      else
        match r.publishOne generation with
        | none => (r, false)
        | some r' =>
          -- an incomplete generation ends the loop
          if generation.memberMask == kAllJoints then publishDueLoop nowNs fuel r'
          else (r', true)

def publishDue (r : ArmRuntime F) (nowNs : Nat) : ArmRuntime F × Bool :=
  publishDueLoop nowNs r.feedbackQueue.count r

/-- `command_and_step`. -/
def commandAndStep (r : ArmRuntime F) (qReference dqReference : JointVector F)
    (nowNs : Nat) (dtS : F) : ArmRuntime F × Bool :=
  if r.commandFailMask != 0 then ({ r with generationMask := 0 }, false)
  else if maxU64 - nowNs < r.feedbackDelayNs then (r, false)
  else
    let captured := fun joint =>
      ((r.motor joint).command (qReference joint) (dqReference joint)).capture dtS nowNs
        (hasJoint r.freezeMask joint)
    let generation : FeedbackGeneration :=
      { frame := fun joint => (captured joint).2
        captureNs := nowNs
        readyNs := nowNs + r.feedbackDelayNs
        memberMask := kAllJoints &&& ~~~r.dropMask }
    let stepped := { r with motor := fun joint => (captured joint).1 }
    if stepped.feedbackQueue.isFull then (stepped, false)
    else
      let queued := { stepped with feedbackQueue := stepped.feedbackQueue.push generation }
      match queued.publishDue nowNs with
      | (published, true) =>
        ({ published with completeCycles := wrap64 (published.completeCycles + 1) }, true)
      | (published, false) => (published, false)

def forceState (r : ArmRuntime F) (q dq : JointVector F) (nowNs : Nat) : ArmRuntime F :=
  let cleared := r.clearQueue
  { cleared with
    generationMask := kAllJoints
    generationTimestamp := nowNs
    motor := fun joint => (cleared.motor joint).forceState (q joint) (dq joint) nowNs
    feedbackSeq := wrap64 (cleared.feedbackSeq + 1) }

def measuredQ (r : ArmRuntime F) : JointVector F := fun joint => (r.motor joint).mappedQ

def measuredDq (r : ArmRuntime F) : JointVector F := fun joint => (r.motor joint).mappedDq

def measuredTau (r : ArmRuntime F) : JointVector F := fun joint => (r.motor joint).mappedTau

/-- `JointVector{}`. -/
def zeroVector : JointVector F := fun _ => Floating.lit 0

def materializeStop (r : ArmRuntime F) (enabledHold : Bool) (nowNs : Nat) : ArmRuntime F :=
  (r.setEnabled enabledHold).forceState r.measuredQ zeroVector nowNs

def setBlocked (r : ArmRuntime F) (blocked : Bool) (gain : F) : ArmRuntime F :=
  { r with motor := fun joint => (r.motor joint).setBlocked blocked gain }

def clearContact (r : ArmRuntime F) : ArmRuntime F := r.setBlocked false (Floating.lit 0)

/-- A joint is fresh when it belongs to the last generation, was measured,
    and its record is not older than the timeout. -/
def jointFresh (r : ArmRuntime F) (nowNs timeoutNs : Nat) (joint : Joint) : Bool :=
  let measured := (r.motor joint).measured
  hasJoint r.generationMask joint && measured.valid && decide (measured.tNs ≤ nowNs) &&
    decide (nowNs - measured.tNs ≤ timeoutNs)

/-- `snapshot`. -/
def snapshot (r : ArmRuntime F) (nowNs timeoutNs : Nat) : ArmSnapshot F where
  feedbackSeq := r.feedbackSeq
  tNs := (List.finRange 7).foldl
    (fun t joint =>
      if r.jointFresh nowNs timeoutNs joint then max t (r.motor joint).measured.tNs else t) 0
  expectedMask := kAllJoints
  freshMask := jointMask (r.jointFresh nowNs timeoutNs)
  faultMask := jointMask fun joint => decide (8 ≤ (r.motor joint).measured.status)
  q := r.measuredQ
  dq := r.measuredDq
  tau := r.measuredTau
  rawQ := fun joint => (r.motor joint).measured.rawQ
  rawDq := fun joint => (r.motor joint).measured.rawDq
  rawTau := fun joint => (r.motor joint).measured.rawTau
  status := fun joint => (r.motor joint).measured.status
  mosC := fun joint => (r.motor joint).measured.mosC
  coilC := fun joint => (r.motor joint).measured.coilC

def completeFresh (r : ArmRuntime F) (nowNs timeoutNs : Nat) : Bool :=
  let state := r.snapshot nowNs timeoutNs
  state.freshMask == state.expectedMask

def faultFree (r : ArmRuntime F) (nowNs timeoutNs : Nat) : Bool :=
  (r.snapshot nowNs timeoutNs).faultMask == 0

def allDisabled (r : ArmRuntime F) (nowNs timeoutNs : Nat) : Bool :=
  let state := r.snapshot nowNs timeoutNs
  if state.freshMask != kAllJoints || state.faultMask != 0 then false
  else (List.finRange 7).all fun joint => state.status joint == 0

/-! ## §4. Which operations touch the motor enables. -/

/-- The real enabled state of one motor of the arm. -/
def motorEnabled (r : ArmRuntime F) (joint : Joint) : Bool := (r.motor joint).enabled

/-- No motor of the arm is enabled. -/
def AllOff (r : ArmRuntime F) : Prop := ∀ joint, r.motorEnabled joint = false

@[simp] theorem motorEnabled_create (config : Joint → MotorConfig F) (joint : Joint) :
    (create config).motorEnabled joint = false := rfl

section

omit [Floating F]

@[simp] theorem motorEnabled_setEnabled (r : ArmRuntime F) (e : Bool) (joint : Joint) :
    (r.setEnabled e).motorEnabled joint = e := rfl

@[simp] theorem motorEnabled_retirePendingFeedback (r : ArmRuntime F) (joint : Joint) :
    r.retirePendingFeedback.motorEnabled joint = r.motorEnabled joint := rfl

@[simp] theorem motorEnabled_setInjection (r : ArmRuntime F) (freeze drop fault : JointMask)
    (status : Nat) (commandFail : JointMask) (delay : Nat) (joint : Joint) :
    (r.setInjection freeze drop fault status commandFail delay).motorEnabled joint
      = r.motorEnabled joint := rfl

end

@[simp] theorem motorEnabled_setBlocked (r : ArmRuntime F) (b : Bool) (gain : F)
    (joint : Joint) : (r.setBlocked b gain).motorEnabled joint = r.motorEnabled joint := rfl

@[simp] theorem motorEnabled_clearContact (r : ArmRuntime F) (joint : Joint) :
    r.clearContact.motorEnabled joint = r.motorEnabled joint := rfl

@[simp] theorem motorEnabled_forceState (r : ArmRuntime F) (q dq : JointVector F)
    (nowNs : Nat) (joint : Joint) :
    (r.forceState q dq nowNs).motorEnabled joint = r.motorEnabled joint := rfl

@[simp] theorem motorEnabled_materializeStop (r : ArmRuntime F) (hold : Bool) (nowNs : Nat)
    (joint : Joint) : (r.materializeStop hold nowNs).motorEnabled joint = hold := rfl

theorem enabled_capture (m : DamiaoMotorSimulator F) (dtS : F) (captureNs : Nat)
    (frozen : Bool) : (m.capture dtS captureNs frozen).1.enabled = m.enabled := by
  simp only [DamiaoMotorSimulator.capture]
  split <;> rfl

theorem motorEnabled_publishOne (r r' : ArmRuntime F) (generation : FeedbackGeneration)
    (joint : Joint) (h : r.publishOne generation = some r') :
    r'.motorEnabled joint = r.motorEnabled joint := by
  unfold publishOne at h
  split at h
  · split at h
    · cases h
    · cases h; rfl
  · cases h; rfl

theorem motorEnabled_publishDueLoop (nowNs fuel : Nat) (r : ArmRuntime F) (joint : Joint) :
    (publishDueLoop nowNs fuel r).1.motorEnabled joint = r.motorEnabled joint := by
  induction fuel generalizing r with
  | zero => rfl
  | succ fuel ih =>
    simp only [publishDueLoop]
    split
    · rfl
    split
    · rfl
    split
    · rfl
    · rename_i r' hr'
      split
      · rw [ih, motorEnabled_publishOne r r' _ joint hr']
      · exact motorEnabled_publishOne r r' _ joint hr'

/-- **A control cycle leaves the motor enables as they are**, on every one
    of its exits. -/
@[simp] theorem motorEnabled_commandAndStep (r : ArmRuntime F) (q dq : JointVector F)
    (nowNs : Nat) (dtS : F) (joint : Joint) :
    (r.commandAndStep q dq nowNs dtS).1.motorEnabled joint = r.motorEnabled joint := by
  unfold commandAndStep
  split
  · rfl
  split
  · rfl
  dsimp only
  have hcapture := enabled_capture ((r.motor joint).command (q joint) (dq joint)) dtS nowNs
    (hasJoint r.freezeMask joint)
  split
  · exact hcapture
  split <;> rename_i published heq <;>
    · have hpub : published = (publishDue _ nowNs).1 := (congrArg Prod.fst heq).symm
      subst hpub
      exact (motorEnabled_publishDueLoop _ _ _ _).trans hcapture

/-! ## §5. What a forced state publishes. -/

theorem completeFresh_iff (r : ArmRuntime F) (nowNs timeoutNs : Nat) :
    r.completeFresh nowNs timeoutNs = true ↔ ∀ j, r.jointFresh nowNs timeoutNs j = true := by
  simp only [completeFresh, snapshot, beq_iff_eq, jointMask_eq_all]

theorem faultFree_iff (r : ArmRuntime F) (nowNs timeoutNs : Nat) :
    r.faultFree nowNs timeoutNs = true ↔ ∀ j, (r.motor j).measured.status < 8 := by
  simp only [faultFree, snapshot, beq_iff_eq, jointMask_eq_zero, decide_eq_false_iff_not,
    Nat.not_le]

theorem allDisabled_iff (r : ArmRuntime F) (nowNs timeoutNs : Nat) :
    r.allDisabled nowNs timeoutNs = true ↔
      r.completeFresh nowNs timeoutNs = true ∧ ∀ j, (r.motor j).measured.status = 0 := by
  have hsnap : ∀ j, (r.snapshot nowNs timeoutNs).status j = (r.motor j).measured.status :=
    fun _ => rfl
  have hfault := r.faultFree_iff nowNs timeoutNs
  simp only [faultFree, beq_iff_eq] at hfault
  simp only [allDisabled, completeFresh, hsnap]
  constructor
  · intro h
    split at h
    · cases h
    · rename_i hgate
      simp only [Bool.or_eq_true, bne_iff_ne, ne_eq, not_or, not_not] at hgate
      refine ⟨by rw [beq_iff_eq]; exact hgate.1, fun j => ?_⟩
      simpa using List.all_eq_true.mp h j (List.mem_finRange j)
  · rintro ⟨hfresh, hzero⟩
    have hfree : (r.snapshot nowNs timeoutNs).faultMask = 0 :=
      hfault.mpr fun j => by rw [hzero j]; decide
    have hmask : (r.snapshot nowNs timeoutNs).freshMask = kAllJoints := beq_iff_eq.mp hfresh
    simp [hfree, hmask, hzero]

/-- A forced state is fresh at once, in every joint. -/
theorem completeFresh_forceState (r : ArmRuntime F) (q dq : JointVector F)
    (nowNs timeoutNs : Nat) :
    (r.forceState q dq nowNs).completeFresh nowNs timeoutNs = true := by
  rw [completeFresh_iff]
  intro j
  have hmask : (r.forceState q dq nowNs).generationMask = kAllJoints := rfl
  have hvalid : ((r.forceState q dq nowNs).motor j).measured.valid = true := rfl
  have hstamp : ((r.forceState q dq nowNs).motor j).measured.tNs = nowNs := rfl
  simp [jointFresh, hmask, hvalid, hstamp]

/-- The status nibble survives packing and unpacking. -/
theorem packFrame_status (status id q dq tau : Nat) (h : status < 16) :
    packFrame status id q dq tau 0 >>> 4 = status := by
  have hid : id &&& 15 < 2 ^ 4 := Nat.and_lt_two_pow _ (by decide)
  have hsum : (status <<< 4 ||| (id &&& 15)) = status <<< 4 + (id &&& 15) :=
    (Nat.shiftLeft_add_eq_or_of_lt hid status).symm
  show ((status <<< 4 ||| (id &&& 15)) % 256) >>> 4 = status
  rw [hsum, Nat.shiftLeft_eq, Nat.shiftRight_eq_div_pow]
  omega

theorem status_publish_frameAt (m m' : DamiaoMotorSimulator F) (captureNs : Nat)
    (h : m'.reportedStatus < 16) :
    (m.publish (m'.frameAt captureNs)).measured.status = m'.reportedStatus := by
  simp only [DamiaoMotorSimulator.publish, DamiaoMotorSimulator.frameAt,
    packFrame_status _ _ _ _ _ h]

theorem status_forceState (r : ArmRuntime F) (q dq : JointVector F) (nowNs : Nat) (j : Joint)
    (h : (r.motor j).reportedStatus < 16) :
    ((r.forceState q dq nowNs).motor j).measured.status = (r.motor j).reportedStatus :=
  status_publish_frameAt _
    { r.motor j with
      plantRawQ := (q j - (r.motor j).config.qOffsetRad) / (r.motor j).config.qScale
      plantRawDq := dq j / (r.motor j).config.qScale
      commandRawQ := (q j - (r.motor j).config.qOffsetRad) / (r.motor j).config.qScale
      commandRawDq := dq j / (r.motor j).config.qScale } nowNs h

/-- Forcing a state does not touch what the motors would report. -/
@[simp] theorem reportedStatus_forceState (r : ArmRuntime F) (q dq : JointVector F)
    (nowNs : Nat) (j : Joint) :
    ((r.forceState q dq nowNs).motor j).reportedStatus = (r.motor j).reportedStatus := rfl

end ArmRuntime

end OpenArm.Control
