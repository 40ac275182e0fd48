/-
  OpenArm.Control.Frozen — a command that runs on frozen motors.

  A simulated freeze fault keeps every plant where it stands.  Each cycle then
  delivers a generation that repeats the last measurement, passes every
  watchdog, and reaches its settle stage: a command whose goal is met by the
  pose it starts from completes, whatever its reference does.

  Main results:
    * `ArmRuntime.Frozen.cycle` — a cycle of a frozen arm.
    * `Cruising.cycle`          — a cycle of a command on frozen arms.
    * `frozen_completes`        — and the whole command.
-/
import OpenArm.Control.Settle
import OpenArm.Control.Standard

namespace OpenArm.Control

open OpenArm.Lib

variable {F : Type} [Floating F]

/-! ## §1. Frozen motors. -/

namespace ArmRuntime

/-- Every motor is frozen, and its plant was measured at `nowNs` as it
    stands. -/
structure Frozen (r : ArmRuntime F) (nowNs : Nat) : Prop where
  freeze : r.freezeMask = kAllJoints
  drop : r.dropMask = 0
  commandFail : r.commandFailMask = 0
  delay : r.feedbackDelayNs = 0
  empty : r.feedbackQueue.count = 0
  mask : r.generationMask = kAllJoints
  stamp : r.generationTimestamp = nowNs
  free : ∀ j, (r.motor j).blocked = false
  noFault : ∀ j, (r.motor j).faultStatus = 0
  measured : ∀ j, (r.motor j).measured =
    ((r.motor j).publish ((r.motor j).frameAt nowNs)).measured

omit [Floating F] in
theorem reportedStatus_le {m : DamiaoMotorSimulator F} (h : m.faultStatus = 0) :
    m.reportedStatus ≤ 1 := by
  rw [reportedStatus_of_noFault h]
  split <;> omega

/-- The plant of `m'` is that of `m`. -/
structure SamePlant (m m' : DamiaoMotorSimulator F) : Prop where
  config : m'.config = m.config
  q : m'.plantRawQ = m.plantRawQ
  dq : m'.plantRawDq = m.plantRawDq
  enabled : m'.enabled = m.enabled
  faultStatus : m'.faultStatus = m.faultStatus
  blocked : m'.blocked = m.blocked

/-- A plant that stands still is encoded the same again. -/
theorem SamePlant.frame {m m' : DamiaoMotorSimulator F} (h : SamePlant m m')
    (hfree : m.blocked = false) (nowNs nowNs' : Nat) :
    (m'.frameAt nowNs').data = (m.frameAt nowNs).data := by
  have htau : m'.contactTau = m.contactTau := by
    unfold DamiaoMotorSimulator.contactTau
    rw [h.blocked, hfree]
    rfl
  unfold DamiaoMotorSimulator.frameAt
  dsimp only
  have hstatus : m'.reportedStatus = m.reportedStatus := by
    unfold DamiaoMotorSimulator.reportedStatus
    rw [h.faultStatus, h.enabled]
  rw [hstatus, h.config, h.q, h.dq, htau]

/-- It is measured the same again. -/
theorem SamePlant.mapped {m m' : DamiaoMotorSimulator F} {nowNs : Nat} (h : SamePlant m m')
    (hfree : m.blocked = false) (hmeasured : m.measured = (m.publish (m.frameAt nowNs)).measured)
    (laterNs : Nat) :
    (m'.publish (m'.frameAt laterNs)).mappedQ = m.mappedQ ∧
      (m'.publish (m'.frameAt laterNs)).mappedDq = m.mappedDq := by
  have hdata := h.frame hfree nowNs laterNs
  unfold DamiaoMotorSimulator.mappedQ DamiaoMotorSimulator.mappedDq
  rw [hmeasured]
  unfold DamiaoMotorSimulator.publish
  dsimp only
  rw [hdata, h.config]
  exact ⟨rfl, rfl⟩

/-- `r` after a generation went straight through its empty queue. -/
def delivered (r : ArmRuntime F) (generation : FeedbackGeneration) : ArmRuntime F :=
  { r with
    motor := fun joint => (r.motor joint).publish (generation.frame joint)
    generationMask := kAllJoints
    generationTimestamp := generation.captureNs
    feedbackSeq := r.feedbackSeq + 1
    feedbackQueue := (r.feedbackQueue.push generation).pop }

/-- A complete generation that finds the queue empty is published at once. -/
theorem publishDue_single (r : ArmRuntime F) {generation : FeedbackGeneration} {nowNs : Nat}
    (hempty : r.feedbackQueue.count = 0) (hready : generation.readyNs ≤ nowNs)
    (hmask : generation.memberMask = kAllJoints) (hseq : r.feedbackSeq < maxU64) :
    ({ r with feedbackQueue := r.feedbackQueue.push generation } : ArmRuntime F).publishDue nowNs =
      (r.delivered generation, true) := by
  have hcount : (r.feedbackQueue.push generation).count = 1 := by
    rw [Ring.count_push _ _ (by rw [hempty]; decide), hempty]
  have hfront := r.feedbackQueue.front_push_of_empty generation hempty
  have hsome : (r.feedbackQueue.push generation).isEmpty = false := by
    simp [Ring.isEmpty, hcount]
  have hone : ({ r with feedbackQueue := r.feedbackQueue.push generation } :
      ArmRuntime F).publishOne generation = some (r.delivered generation) := by
    unfold publishOne
    rw [if_pos (by rw [hmask]; decide), if_neg (Nat.ne_of_lt hseq)]
    rfl
  unfold publishDue
  dsimp only
  rw [hcount]
  unfold publishDueLoop
  dsimp only
  rw [hsome, hfront, hone]
  dsimp only
  rw [if_neg (by decide), if_neg (Nat.not_lt.mpr hready), if_pos (by rw [hmask]; decide)]
  rfl

namespace Frozen

variable {r : ArmRuntime F} {nowNs : Nat}

/-- Its feedback is complete as long as it is not older than the timeout. -/
theorem completeFresh (h : r.Frozen nowNs) {laterNs timeoutNs : Nat} (hle : nowNs ≤ laterNs)
    (htimeout : laterNs - nowNs ≤ timeoutNs) : r.completeFresh laterNs timeoutNs = true := by
  rw [completeFresh_iff]
  intro j
  unfold jointFresh
  have hvalid : (r.motor j).measured.valid = true := by
    rw [h.measured j]
    rfl
  have htime : (r.motor j).measured.tNs = nowNs := by
    rw [h.measured j]
    rfl
  rw [h.mask]
  dsimp only
  rw [hvalid, htime]
  simp [hle, htimeout]

theorem status (h : r.Frozen nowNs) (j : Joint) : (r.motor j).measured.status < 8 := by
  have hle := reportedStatus_le (h.noFault j)
  rw [h.measured j, status_publish_frameAt _ _ _ (by omega)]
  omega

theorem faultFree (h : r.Frozen nowNs) (laterNs timeoutNs : Nat) :
    r.faultFree laterNs timeoutNs = true :=
  (r.faultFree_iff laterNs timeoutNs).mpr h.status

/-- An arm whose plants, masks and measurements are those of `r`. -/
theorem congr {r' : ArmRuntime F} (h : r.Frozen nowNs) (hfreeze : r'.freezeMask = r.freezeMask)
    (hdrop : r'.dropMask = r.dropMask) (hfail : r'.commandFailMask = r.commandFailMask)
    (hdelay : r'.feedbackDelayNs = r.feedbackDelayNs)
    (hqueue : r'.feedbackQueue = r.feedbackQueue) (hmask : r'.generationMask = r.generationMask)
    (hstamp : r'.generationTimestamp = r.generationTimestamp)
    (hplant : ∀ j, SamePlant (r.motor j) (r'.motor j))
    (hmeasured : ∀ j, (r'.motor j).measured = (r.motor j).measured) : r'.Frozen nowNs where
  freeze := hfreeze.trans h.freeze
  drop := hdrop.trans h.drop
  commandFail := hfail.trans h.commandFail
  delay := hdelay.trans h.delay
  empty := (congrArg Ring.count hqueue).trans h.empty
  mask := hmask.trans h.mask
  stamp := hstamp.trans h.stamp
  free := fun j => (hplant j).blocked.trans (h.free j)
  noFault := fun j => (hplant j).faultStatus.trans (h.noFault j)
  measured := by
    intro j
    have hdata := (hplant j).frame (h.free j) nowNs nowNs
    rw [hmeasured j, h.measured j]
    unfold DamiaoMotorSimulator.publish
    dsimp only
    rw [hdata, (hplant j).config]
    rfl

/-- Without an obstacle nothing changes. -/
theorem clearContact (h : r.Frozen nowNs) : r.clearContact.Frozen nowNs :=
  h.congr rfl rfl rfl rfl rfl rfl rfl
    (fun j => ⟨rfl, rfl, rfl, rfl, rfl, (h.free j).symm⟩) fun _ => rfl

/-- **A cycle of a frozen arm** delivers one generation that repeats the
    measurement. -/
theorem cycle (h : r.Frozen nowNs) (q dq : JointVector F) (laterNs : Nat) (dtS : F)
    (hseq : r.feedbackSeq < maxU64) :
    ∃ r', r.commandAndStep q dq laterNs dtS = (r', true) ∧ r'.Frozen laterNs ∧
      r'.feedbackSeq = r.feedbackSeq + 1 ∧ r'.measuredQ = r.measuredQ ∧
        r'.measuredDq = r.measuredDq := by
  -- what the capture leaves of each motor, and its frame
  have hcaptured : ∀ j, ((r.motor j).command (q j) (dq j)).capture dtS laterNs
      (hasJoint r.freezeMask j) = ((r.motor j).command (q j) (dq j),
        ((r.motor j).command (q j) (dq j)).frameAt laterNs) := by
    intro j
    unfold DamiaoMotorSimulator.capture
    rw [h.freeze, hasJoint_all]
    rfl
  have hroom : r.feedbackQueue.isFull = false := by
    rw [Bool.eq_false_iff, ne_eq, Ring.isFull_iff, h.empty]
    decide
  have hplant : ∀ j, SamePlant (r.motor j) ((r.motor j).command (q j) (dq j)) :=
    fun j => ⟨rfl, rfl, rfl, rfl, rfl, rfl⟩
  obtain ⟨generation, hgeneration⟩ : ∃ generation : FeedbackGeneration, generation =
      ⟨fun j => ((r.motor j).command (q j) (dq j)).frameAt laterNs, laterNs,
        laterNs + r.feedbackDelayNs, kAllJoints &&& ~~~r.dropMask⟩ := ⟨_, rfl⟩
  have hready : generation.readyNs ≤ laterNs := by
    rw [hgeneration]
    show laterNs + r.feedbackDelayNs ≤ laterNs
    rw [h.delay]
    omega
  have hmask : generation.memberMask = kAllJoints := by
    rw [hgeneration]
    show kAllJoints &&& ~~~r.dropMask = kAllJoints
    rw [h.drop]
    decide
  have hdue := publishDue_single { r with motor := fun j => (r.motor j).command (q j) (dq j) }
    h.empty hready hmask hseq
  have hcycle : r.commandAndStep q dq laterNs dtS =
      ({ ({ r with motor := fun j => (r.motor j).command (q j) (dq j) } : ArmRuntime F).delivered
          generation with completeCycles := wrap64 (r.completeCycles + 1) }, true) := by
    unfold commandAndStep
    rw [if_neg (by rw [h.commandFail]; decide), if_neg (by rw [h.delay]; omega)]
    dsimp only
    simp only [hcaptured]
    rw [if_neg (by rw [hroom]; decide)]
    rw [← hgeneration, hdue]
    rfl
  have hframe : ∀ j, generation.frame j = ((r.motor j).command (q j) (dq j)).frameAt laterNs := by
    intro j
    rw [hgeneration]
  have hcount : (r.feedbackQueue.push generation).pop.count = 0 := by
    rw [Ring.count_pop, Ring.count_push _ _ (by rw [h.empty]; decide), h.empty]
  refine ⟨_, hcycle, ?_, rfl, ?_, ?_⟩
  · refine ⟨h.freeze, h.drop, h.commandFail, h.delay, hcount, rfl, ?_, h.free, h.noFault, ?_⟩
    · show generation.captureNs = laterNs
      rw [hgeneration]
    · intro j
      show (((r.motor j).command (q j) (dq j)).publish (generation.frame j)).measured = _
      rw [hframe j]
      rfl
  · funext j
    show (((r.motor j).command (q j) (dq j)).publish (generation.frame j)).mappedQ = _
    rw [hframe j]
    exact ((hplant j).mapped (h.free j) (h.measured j) laterNs).1
  · funext j
    show (((r.motor j).command (q j) (dq j)).publish (generation.frame j)).mappedDq = _
    rw [hframe j]
    exact ((hplant j).mapped (h.free j) (h.measured j) laterNs).2

end Frozen

end ArmRuntime

/-! ## §2. One cycle. -/

namespace Controller

/-- A started command on frozen arms, with no obstacle and no contact
    monitor. -/
structure Cruising (c : Controller F) (plan : MotionPlan F) : Prop where
  lifecycle : c.lifecycle = .executing
  executing : c.executing = some plan
  started : c.commandStarted = true
  quiet : plan.contactMonitored = false
  free : ∀ side, (c.simContact side).enabled = false
  frozen : ∀ side, (c.arm side).Frozen c.nowNs

/-- What a cycle on frozen arms repeats. -/
structure Repeats (c c' : Controller F) : Prop where
  seq : ∀ side, (c'.arm side).feedbackSeq = (c.arm side).feedbackSeq + 1
  q : ∀ side, (c'.arm side).measuredQ = (c.arm side).measuredQ
  dq : ∀ side, (c'.arm side).measuredDq = (c.arm side).measuredDq

/-- The goal looks at the measurements. -/
theorem AtGoal.of_measured {c c' : Controller F} {L : ModelLibrary F} {plan : MotionPlan F}
    (hq : ∀ side, (c'.arm side).measuredQ = (c.arm side).measuredQ)
    (hdq : ∀ side, (c'.arm side).measuredDq = (c.arm side).measuredDq)
    (h : c.AtGoal L plan) : c'.AtGoal L plan := by
  unfold AtGoal JointsWithin TcpWithin at h ⊢
  simp only [hq, hdq]
  exact h

section Stages

variable {c : Controller F} {plan : MotionPlan F} {nowNs : Nat}

theorem healthy_frozen (h : ∀ side, (c.arm side).Frozen nowNs) : c.healthy = true := by
  unfold healthy
  rw [(h 0).faultFree, (h 1).faultFree]
  rfl

theorem feedbackIntegrity_frozen (h : ∀ side, (c.arm side).Frozen nowNs)
    (hle : nowNs ≤ c.nowNs) (htimeout : c.nowNs - nowNs ≤ c.options.feedbackTimeoutNs) :
    c.feedbackIntegrity = .ok := by
  unfold feedbackIntegrity
  rw [(h 0).completeFresh hle htimeout, (h 1).completeFresh hle htimeout, (h 0).stamp,
    (h 1).stamp, absDiff_self]
  simp

theorem cycleWatchdogs_frozen (h : ∀ side, (c.arm side).Frozen nowNs)
    (hle : nowNs ≤ c.nowNs) (hgap : c.nowNs - nowNs ≤ c.options.cycleNs) :
    c.cycleWatchdogs nowNs = .ok () := by
  have hintegrity := feedbackIntegrity_frozen h hle
    (hgap.trans c.options.cycle_le_timeout)
  unfold cycleWatchdogs
  rw [healthy_frozen h, hintegrity]
  simp only [Bool.not_true, Bool.false_eq_true, if_false, ne_eq, not_true_eq_false]
  rw [if_neg (Nat.not_lt.mpr hgap)]
  split <;> rfl

theorem commandReference_frozen (h : ∀ side, (c.arm side).Frozen nowNs)
    (hlife : c.lifecycle = .executing) (hplan : c.executing = some plan)
    (hstarted : c.commandStarted = true) (hproducer : c.nowNs ≤ c.producerDeadlineNs)
    (hexpiry : c.nowNs ≤ c.commandExpiryNs) :
    c.commandReference = .ok (c, c.planReference plan) := by
  have hwatch : c.commandWatchdogs = .ok () := by
    unfold commandWatchdogs
    rw [if_neg (Nat.not_lt.mpr hproducer), if_neg (Nat.not_lt.mpr hexpiry), healthy_frozen h]
    rfl
  have hqueued : c.startQueued plan = .ok c := by
    unfold startQueued
    rw [hstarted]
    rfl
  unfold commandReference
  rw [if_pos hlife, hwatch, hplan]
  dsimp only
  rw [hqueued]

theorem stepArm_frozen (reference : Reference F) (dtS : F) (side : Side)
    (h : (c.arm side).Frozen nowNs) (hseq : (c.arm side).feedbackSeq < maxU64) :
    ∃ r', c.stepArm reference dtS side = .ok { c with arm := Function.update c.arm side r' } ∧
      r'.Frozen c.nowNs ∧ r'.feedbackSeq = (c.arm side).feedbackSeq + 1 ∧
        r'.measuredQ = (c.arm side).measuredQ ∧ r'.measuredDq = (c.arm side).measuredDq := by
  obtain ⟨r', hstep, hfrozen, hrest⟩ :=
    h.cycle (reference.q side) (reference.dq side) c.nowNs dtS hseq
  refine ⟨r', ?_, hfrozen, hrest⟩
  unfold stepArm
  rw [hstep]
  rfl

/-- Both arms deliver one generation. -/
theorem stepPlant_frozen (L : ModelLibrary F) (reference : Reference F)
    (h : ∀ side, (c.arm side).Frozen nowNs) (hfree : ∀ side, (c.simContact side).enabled = false)
    (hseq : ∀ side, (c.arm side).feedbackSeq < maxU64) :
    ∃ arm, c.stepPlant L reference nowNs = .ok { c with arm := arm } ∧
      (∀ side, (arm side).Frozen c.nowNs) ∧ Repeats c { c with arm := arm } := by
  have hclear : ∀ side, (c.applySimContact L).arm side = (c.arm side).clearContact := by
    intro side
    show c.applySimContactSide L side = _
    unfold applySimContactSide
    dsimp only
    rw [hfree side]
    rfl
  obtain ⟨dtS, hdt⟩ : ∃ dtS : F, dtS = Floating.ofNat (c.nowNs - nowNs) * Floating.lit 1.0e-9 :=
    ⟨_, rfl⟩
  obtain ⟨left, hleft, hfl, hsl, hql, hdl⟩ := stepArm_frozen (c := c.applySimContact L) reference
    dtS 0 (by rw [hclear]; exact (h 0).clearContact) (by rw [hclear]; exact hseq 0)
  obtain ⟨d, hd⟩ : ∃ d : Controller F, d =
      { c.applySimContact L with arm := Function.update (c.applySimContact L).arm 0 left } :=
    ⟨_, rfl⟩
  have hdnow : d.nowNs = c.nowNs := by
    rw [hd]
    rfl
  have hdarm : d.arm = Function.update (c.applySimContact L).arm 0 left := by rw [hd]
  have hother : d.arm 1 = (c.arm 1).clearContact := by
    rw [hdarm, Function.update_of_ne (by decide), hclear]
  have hzero : d.arm 0 = left := by rw [hdarm, Function.update_self]
  obtain ⟨right, hright, hfr, hsr, hqr, hdr⟩ := stepArm_frozen (c := d) reference dtS 1
    (by rw [hother]; exact (h 1).clearContact) (by rw [hother]; exact hseq 1)
  rw [hclear] at hsl hql hdl
  rw [hother] at hsr hqr hdr
  have hboth : ∀ side, (Function.update d.arm 1 right side).Frozen c.nowNs ∧
      (Function.update d.arm 1 right side).feedbackSeq = (c.arm side).feedbackSeq + 1 ∧
        (Function.update d.arm 1 right side).measuredQ = (c.arm side).measuredQ ∧
          (Function.update d.arm 1 right side).measuredDq = (c.arm side).measuredDq := by
    intro side
    match side with
    | 0 =>
      rw [Function.update_of_ne (show (0 : Side) ≠ 1 by decide), hzero]
      exact ⟨hfl, hsl, hql, hdl⟩
    | 1 =>
      rw [Function.update_self, ← hdnow]
      exact ⟨hfr, hsr, hqr, hdr⟩
  refine ⟨Function.update d.arm 1 right, ?_, fun side => (hboth side).1,
    fun side => (hboth side).2.1, fun side => (hboth side).2.2.1, fun side => (hboth side).2.2.2⟩
  unfold stepPlant
  dsimp only
  rw [← hdt, hleft]
  dsimp only
  rw [← hd, hright, hd]
  rfl

theorem feedbackWatchdogs_frozen (h : ∀ side, (c.arm side).Frozen c.nowNs) :
    c.feedbackWatchdogs = .ok () := by
  have hfresh : ∀ side,
      (c.arm side).completeFresh c.nowNs c.options.feedbackTimeoutNs = true :=
    fun side => (h side).completeFresh (Nat.le_refl c.nowNs) (by omega)
  have hfault : ∀ side, ((c.arm side).snapshot c.nowNs c.options.feedbackTimeoutNs).faultMask = 0 :=
    fun side => beq_iff_eq.mp ((h side).faultFree c.nowNs c.options.feedbackTimeoutNs)
  unfold feedbackWatchdogs
  dsimp only
  rw [hfresh 0, hfresh 1, (h 0).stamp, (h 1).stamp, absDiff_self, hfault 0, hfault 1]
  simp

/-- The monitors only refresh the clearance. -/
theorem monitors_frozen {L : ModelLibrary F}
    (hclear : ∀ q policy, (keepoutClear L q policy).2 = true) (hplan : c.executing = some plan)
    (hquiet : plan.contactMonitored = false) :
    ∃ report clearance, c.monitors L =
      .ok { c with contactReport := report, lastClearanceM := clearance } := by
  unfold monitors
  split
  · have hcontact : c.monitorContact L = (c, true) := by
      unfold monitorContact
      rw [hplan]
      dsimp only
      rw [hquiet]
      rfl
    have hkeepout : ∃ report clearance, c.monitorKeepout L =
        ({ c with contactReport := report, lastClearanceM := clearance }, true) := by
      unfold monitorKeepout
      dsimp only
      rw [if_pos (hclear c.measuredPose c.monitorPolicy), hplan]
      simp only [Option.map_some, Option.getD_some, hquiet, Bool.false_and]
      exact ⟨_, _, rfl⟩
    obtain ⟨report, clearance, heq⟩ := hkeepout
    refine ⟨report, clearance, ?_⟩
    rw [hcontact]
    dsimp only
    rw [heq]
    rfl
  · exact ⟨c.contactReport, c.lastClearanceM, rfl⟩

end Stages

/-- **A cycle of a command on frozen arms** reaches its settle stage. -/
theorem Cruising.cycle {c : Controller F} {plan : MotionPlan F} {L : ModelLibrary F}
    (h : c.Cruising plan) (hclear : ∀ q policy, (keepoutClear L q policy).2 = true)
    {nowNs : Nat} (hlater : c.nowNs < nowNs) (hgap : nowNs - c.nowNs ≤ c.options.cycleNs)
    (hproducer : nowNs ≤ c.producerDeadlineNs) (hexpiry : nowNs ≤ c.commandExpiryNs)
    (hseq : ∀ side, (c.arm side).feedbackSeq < maxU64) :
    ∃ m : Controller F, c.advance L false nowNs = m.settle L ∧ m.Cruising plan ∧
      m.frame = { c.frame with estopLatched := false, nowNs := nowNs } ∧ m.dwell = c.dwell ∧
        m.events = c.events ∧ m.settlingPublished = c.settlingPublished ∧ Repeats c m := by
  obtain ⟨s, hs⟩ : ∃ s : Controller F, s = { c with estopLatched := false, nowNs := nowNs } :=
    ⟨_, rfl⟩
  have hfrozen : ∀ side, (s.arm side).Frozen c.nowNs := by
    rw [hs]
    exact h.frozen
  have hplan : s.executing = some plan := by
    rw [hs]
    exact h.executing
  have hlife : s.lifecycle = .executing := by
    rw [hs]
    exact h.lifecycle
  have hnow : s.nowNs = nowNs := by rw [hs]
  obtain ⟨arm, hplant, harm, hrepeats⟩ := stepPlant_frozen L (s.planReference plan) hfrozen
    (by rw [hs]; exact h.free) (by rw [hs]; exact hseq)
  obtain ⟨report, clearance, hmonitors⟩ := monitors_frozen
    (c := { s with arm := arm }) hclear hplan h.quiet
  refine ⟨{ s with arm := arm, contactReport := report, lastClearanceM := clearance }, ?_, ?_, ?_,
    ?_, ?_, ?_, ?_⟩
  · have hcycling : s.cycling = true := by
      unfold cycling
      simp [hlife]
    have hadvance : c.advance L false nowNs = s.runCycle L c.nowNs := by
      unfold advance
      rw [if_neg (by decide)]
      dsimp only
      rw [if_neg (Nat.not_lt.mpr (Nat.le_of_lt hlater)), if_neg (Nat.ne_of_gt hlater), ← hs,
        if_pos hcycling]
    rw [hadvance]
    unfold runCycle
    rw [cycleWatchdogs_frozen hfrozen (by omega) (by rw [hnow, hs]; exact hgap),
      commandReference_frozen hfrozen hlife hplan (by rw [hs]; exact h.started)
        (by rw [hnow, hs]; exact hproducer) (by rw [hnow, hs]; exact hexpiry)]
    dsimp only
    rw [hplant]
    dsimp only
    rw [feedbackWatchdogs_frozen (c := { s with arm := arm }) harm]
    dsimp only
    rw [hmonitors]
  · refine ⟨hlife, hplan, ?_, h.quiet, ?_, harm⟩
    · show s.commandStarted = true
      rw [hs]
      exact h.started
    · show ∀ side, (s.simContact side).enabled = false
      rw [hs]
      exact h.free
  · rw [hs]
    rfl
  · rw [hs]
    rfl
  · rw [hs]
  · rw [hs]
  · rw [hs] at hrepeats ⊢
    exact ⟨hrepeats.seq, hrepeats.q, hrepeats.dq⟩

/-! ## §3. The dwell of a command that meets its goal. -/

section Count

variable {m : Controller F} {plan : MotionPlan F} {L : ModelLibrary F}

/-- The settle stage of a cycle at the goal: SETTLING is published at most
    once, and the cycle counts. -/
theorem settle_counts (h : m.Cruising plan) (hdue : m.commandStartNs + plan.durationNs ≤ m.nowNs)
    (hgoal : m.AtGoal L plan) (hroom : m.events.count < kEventCapacity) :
    ∃ c' : Controller F, m.settle L = (if c'.settled then c'.complete else (c', .ok)) ∧
      c'.Cruising plan ∧ c'.arm = m.arm ∧ c'.frame = m.frame ∧
        c'.dwell = (m.dwell.count m.nowNs fun side => (m.arm side).feedbackSeq) ∧
          c'.events.count ≤ m.events.count + 1 ∧ c'.settlingPublished = true ∧
            (m.settlingPublished = true → c'.events.count = m.events.count) := by
  obtain ⟨events, hpublish, hcount, hsame⟩ : ∃ events,
      m.publishSettling = .ok { m with events := events, settlingPublished := true } ∧
        events.count ≤ m.events.count + 1 ∧
          (m.settlingPublished = true → events.count = m.events.count) := by
    unfold publishSettling
    by_cases hpublished : m.settlingPublished = true
    · refine ⟨m.events, ?_, Nat.le_succ _, fun _ => rfl⟩
      rw [if_pos hpublished, ← hpublished]
    · obtain ⟨event, heq⟩ := m.publish_of_room .settling .ok m.commandId (by
        rw [Bool.eq_false_iff, ne_eq, Ring.isFull_iff]
        omega)
      refine ⟨m.events.push event, ?_, ?_, fun hcontra => absurd hcontra hpublished⟩
      · rw [if_neg hpublished, heq]
        rfl
      · rw [Ring.count_push _ _ hroom]
  obtain ⟨c', hc'⟩ : ∃ c' : Controller F,
      c' = { m with events := events, settlingPublished := true } := ⟨_, rfl⟩
  have hcounted : ∃ start seq intervals, c'.countSettle =
      { c' with
        settleStartNs := start, settleFeedbackSeq := seq, settleFeedbackIntervals := intervals } := by
    unfold countSettle
    dsimp only
    split
    · exact ⟨_, _, _, rfl⟩
    split
    · exact ⟨_, _, _, rfl⟩
    · exact ⟨c'.settleStartNs, c'.settleFeedbackSeq, c'.settleFeedbackIntervals, rfl⟩
  refine ⟨c'.countSettle, ?_, ?_, ?_, ?_, ?_, ?_, ?_, ?_⟩
  · unfold settle
    rw [h.executing]
    dsimp only
    rw [if_pos ⟨h.lifecycle, hdue⟩, hpublish]
    dsimp only
    rw [if_pos ((measuredAtGoal_iff L h.executing).mpr hgoal), hc']
  · obtain ⟨start, seq, intervals, heq⟩ := hcounted
    rw [heq, hc']
    exact ⟨h.lifecycle, h.executing, h.started, h.quiet, h.free, h.frozen⟩
  · rw [arm_countSettle, hc']
  · rw [frame_countSettle, hc']
    rfl
  · rw [dwell_countSettle, hc']
    rfl
  · obtain ⟨start, seq, intervals, heq⟩ := hcounted
    rw [heq, hc']
    exact hcount
  · obtain ⟨start, seq, intervals, heq⟩ := hcounted
    rw [heq, hc']
  · obtain ⟨start, seq, intervals, heq⟩ := hcounted
    rw [heq, hc']
    exact hsame

/-- A dwell that is over ends the command with COMPLETED. -/
theorem complete_completes (hplan : m.executing = some plan)
    (hroom : m.events.count < kEventCapacity) :
    m.complete.2 = .ok ∧ Completes m m.complete.1 plan ∧ m.complete.1.arm = m.arm := by
  obtain ⟨d, hd, hevents, hdarm, hdnone⟩ : ∃ d : Controller F,
      m.complete = d.publishReturning .completed .ok m.commandId .ok ∧ d.events = m.events ∧
        d.arm = m.arm ∧ d.executing = none := ⟨_, rfl, rfl, rfl, rfl⟩
  have hfull : d.events.isFull = false := by
    rw [hevents, Bool.eq_false_iff, ne_eq, Ring.isFull_iff]
    omega
  obtain ⟨event, hpush, -, ⟨-, hkind, -⟩ | ⟨-, hcontra, -⟩⟩ :=
    d.publish_event .completed .ok m.commandId
  · obtain ⟨event', heq⟩ := d.publishReturning_of_room .completed .ok .ok m.commandId
      (Ring.count_lt_of_room hfull)
    have hnewest : (d.publishReturning .completed .ok m.commandId .ok).1.newestEvent =
        some event := by
      show (d.publish .completed .ok m.commandId).1.events.toList.getLast? = some event
      rw [hpush, Ring.toList_pushEvicting]
      exact List.getLast?_concat
    rw [hd]
    refine ⟨by rw [heq], ⟨hplan, ?_, event, hnewest, hkind⟩, ?_⟩
    · rw [heq]
      exact hdnone
    · rw [heq]
      exact hdarm
  · rw [hfull] at hcontra
    cases hcontra

end Count

/-! ## §4. The run. -/

/-- When the settle stage begins to look at the goal of `plan`. -/
def dueNs (c : Controller F) (plan : MotionPlan F) : Nat := c.commandStartNs + plan.durationNs

/-- The deadlines and the feedback sequences outlast the command. -/
structure Lasting (c : Controller F) (plan : MotionPlan F) : Prop where
  producer : c.dueNs plan + 5 * c.options.cycleNs ≤ c.producerDeadlineNs
  expiry : c.dueNs plan + 5 * c.options.cycleNs ≤ c.commandExpiryNs
  seq : ∀ side,
    (c.arm side).feedbackSeq + (c.dueNs plan + 5 * c.options.cycleNs - c.nowNs) ≤ maxU64

section

omit [Floating F]

theorem cycleNs_pos (c : Controller F) : 0 < c.options.cycleNs :=
  Nat.pos_of_ne_zero c.options.cycle_ne

theorem dueNs_of_frame {c m : Controller F} (plan : MotionPlan F) (h : c.frame = m.frame) :
    c.dueNs plan = m.dueNs plan := by
  unfold dueNs
  rw [show c.commandStartNs = m.commandStartNs from congrArg Frame.commandStartNs h]

theorem Lasting.of_frame {c m : Controller F} {plan : MotionPlan F} (h : m.Lasting plan)
    (hframe : c.frame = m.frame) (harm : c.arm = m.arm) : c.Lasting plan := by
  have hdue := dueNs_of_frame plan hframe
  have hoptions : c.options = m.options := congrArg Frame.options hframe
  have hnow : c.nowNs = m.nowNs := congrArg Frame.nowNs hframe
  have hproducer : c.producerDeadlineNs = m.producerDeadlineNs :=
    congrArg Frame.producerDeadlineNs hframe
  have hexpiry : c.commandExpiryNs = m.commandExpiryNs := congrArg Frame.commandExpiryNs hframe
  refine ⟨?_, ?_, fun side => ?_⟩
  · rw [hdue, hoptions, hproducer]
    exact h.producer
  · rw [hdue, hoptions, hexpiry]
    exact h.expiry
  · rw [hdue, hoptions, hnow, harm]
    exact h.seq side

end

section Runs

variable {L : ModelLibrary F} {plan : MotionPlan F}

/-- The next cycle of a lasting command. -/
theorem Cruising.next {c : Controller F} (h : c.Cruising plan) (hlasting : c.Lasting plan)
    (hclear : ∀ q policy, (keepoutClear L q policy).2 = true)
    (hin : c.nowNs + c.options.cycleNs ≤ c.dueNs plan + 5 * c.options.cycleNs) :
    ∃ m : Controller F, c.advance L false (c.nowNs + c.options.cycleNs) = m.settle L ∧
      m.Cruising plan ∧ m.Lasting plan ∧ m.nowNs = c.nowNs + c.options.cycleNs ∧
        m.options = c.options ∧ m.dueNs plan = c.dueNs plan ∧ m.dwell = c.dwell ∧
          m.events = c.events ∧ m.settlingPublished = c.settlingPublished ∧ Repeats c m := by
  have hpos := c.cycleNs_pos
  have hproducer := hlasting.producer
  have hexpiry := hlasting.expiry
  obtain ⟨m, hadvance, hcruising, hframe, hdwell, hevents, hpublished, hrepeats⟩ :=
    h.cycle (c := c) hclear (Nat.lt_add_of_pos_right hpos) (by omega) (by omega) (by omega)
      fun side => by
        have hseq := hlasting.seq side
        omega
  have hnow : m.nowNs = c.nowNs + c.options.cycleNs := congrArg Frame.nowNs hframe
  have hoptions : m.options = c.options := congrArg Frame.options hframe
  have hdue : m.dueNs plan = c.dueNs plan := by
    unfold dueNs
    rw [show m.commandStartNs = c.commandStartNs from congrArg Frame.commandStartNs hframe]
  refine ⟨m, hadvance, hcruising, ?_, hnow, hoptions, hdue, hdwell, hevents, hpublished, hrepeats⟩
  refine ⟨?_, ?_, fun side => ?_⟩
  · rw [hdue, hoptions, show m.producerDeadlineNs = c.producerDeadlineNs from
      congrArg Frame.producerDeadlineNs hframe]
    exact hproducer
  · rw [hdue, hoptions, show m.commandExpiryNs = c.commandExpiryNs from
      congrArg Frame.commandExpiryNs hframe]
    exact hexpiry
  · have hseq := hlasting.seq side
    rw [hdue, hoptions, hnow, hrepeats.seq side]
    omega

end Runs

end Controller

open Controller

section Runs

variable {L : ModelLibrary F} {plan : MotionPlan F} {q : Side → JointVector F}

/-- An `advance` under a clear latch, as a step. -/
theorem advance_step {w : World F} {nowNs : Nat} {c' : Controller F} {status : ControlStatus}
    (hlatch : w.latch = false) (h : w.controller.advance L false nowNs = (c', status)) :
    (system L).step w (.advance nowNs, ⟨status, .none⟩) { w with controller := c' } := by
  have hcall : w.controller.advance L w.latch nowNs = (c', status) := by rw [hlatch, h]
  show plain w (w.controller.advance L w.latch nowNs) = _
  rw [hcall]
  rfl

/-- A frozen command that meets its goal, its dwell not begun. -/
structure Waits (L : ModelLibrary F) (plan : MotionPlan F) (q : Side → JointVector F)
    (w : World F) : Prop where
  latch : w.latch = false
  cruising : w.controller.Cruising plan
  lasting : w.controller.Lasting plan
  goal : w.controller.AtGoal L plan
  pose : ∀ side, (w.controller.arm side).measuredQ = q side
  room : w.controller.events.count + 2 ≤ kEventCapacity
  fresh : w.controller.settleStartNs = 0
  before : w.controller.nowNs ≤ w.controller.dueNs plan

/-- The run reaches the last cycle that is not due. -/
theorem waits_run (hclear : ∀ q policy, (keepoutClear L q policy).2 = true) (gap : Nat)
    {w : World F} (h : Waits L plan q w)
    (hgap : w.controller.dueNs plan ≤ w.controller.nowNs + w.controller.options.cycleNs + gap) :
    ∃ es w', (system L).Run w es w' ∧ Waits L plan q w' ∧
      w'.controller.dueNs plan ≤ w'.controller.nowNs + w'.controller.options.cycleNs := by
  induction gap generalizing w with
  | zero => exact ⟨[], w, .nil w, h, hgap⟩
  | succ gap ih =>
    by_cases hdue : w.controller.dueNs plan ≤ w.controller.nowNs + w.controller.options.cycleNs
    · exact ⟨[], w, .nil w, h, hdue⟩
    obtain ⟨m, hadvance, hcruising, hlasting, hnow, hoptions, hsame, hdwell, hevents, -, hrepeats⟩ :=
      h.cruising.next h.lasting hclear (by omega)
    have hpos := w.controller.cycleNs_pos
    have hsettle : m.settle L = (m, .ok) := by
      unfold settle
      rw [hcruising.executing]
      dsimp only
      refine if_neg fun hcontra => ?_
      have hreached : m.dueNs plan ≤ m.nowNs := hcontra.2
      omega
    have hwaits : Waits L plan q { w with controller := m } := by
      refine ⟨h.latch, hcruising, hlasting, h.goal.of_measured hrepeats.q hrepeats.dq,
        fun side => (hrepeats.q side).trans (h.pose side), ?_, ?_, ?_⟩
      · show m.events.count + 2 ≤ kEventCapacity
        rw [hevents]
        exact h.room
      · exact (congrArg Dwell.settleStartNs hdwell).trans h.fresh
      · show m.nowNs ≤ m.dueNs plan
        omega
    obtain ⟨es, w', hrun, hw', hreached⟩ := ih hwaits (by
      show m.dueNs plan ≤ m.nowNs + m.options.cycleNs + gap
      rw [hsame, hnow, hoptions]
      omega)
    exact ⟨_, w', .cons (advance_step h.latch (hadvance.trans hsettle)) hrun, hw', hreached⟩

/-- The dwell of a frozen command after `k` counted generations. -/
structure Dwells (L : ModelLibrary F) (plan : MotionPlan F) (q : Side → JointVector F) (k : Nat)
    (w : World F) : Prop where
  latch : w.latch = false
  cruising : w.controller.Cruising plan
  lasting : w.controller.Lasting plan
  goal : w.controller.AtGoal L plan
  pose : ∀ side, (w.controller.arm side).measuredQ = q side
  room : w.controller.events.count + 1 ≤ kEventCapacity
  published : w.controller.settlingPublished = true
  due : w.controller.dueNs plan ≤ w.controller.nowNs
  early : w.controller.nowNs ≤
    w.controller.dueNs plan + (k + 1) * w.controller.options.cycleNs
  begun : w.controller.settleStartNs ≠ 0
  span : w.controller.nowNs =
    w.controller.settleStartNs + k * w.controller.options.cycleNs
  intervals : w.controller.settleFeedbackIntervals = k
  seq : ∀ side, w.controller.settleFeedbackSeq side = (w.controller.arm side).feedbackSeq

/-- The first cycle that is due begins the dwell. -/
theorem waits_dwells (hclear : ∀ q policy, (keepoutClear L q policy).2 = true) {w : World F}
    (h : Waits L plan q w)
    (hdue : w.controller.dueNs plan ≤ w.controller.nowNs + w.controller.options.cycleNs) :
    ∃ e w', (system L).step w e w' ∧ Dwells L plan q 0 w' := by
  obtain ⟨m, hadvance, hcruising, hlasting, hnow, hoptions, hsame, hdwell, hevents, -, hrepeats⟩ :=
    h.cruising.next h.lasting hclear (by have := h.before; omega)
  have hpos := w.controller.cycleNs_pos
  have hgoal : m.AtGoal L plan := h.goal.of_measured hrepeats.q hrepeats.dq
  have hroom := h.room
  have hbefore := h.before
  obtain ⟨c', hsettle, hcruising', harm, hframe, hcount, hevents', hpublished, -⟩ :=
    settle_counts hcruising (by
      show m.dueNs plan ≤ m.nowNs
      omega) hgoal (by rw [hevents]; omega)
  have hfresh : m.dwell.settleStartNs = 0 := (congrArg Dwell.settleStartNs hdwell).trans h.fresh
  unfold Dwell.count at hcount
  rw [if_pos hfresh] at hcount
  have hzero : c'.settleFeedbackIntervals = 0 := congrArg Dwell.settleFeedbackIntervals hcount
  have hstart : c'.settleStartNs = m.nowNs := congrArg Dwell.settleStartNs hcount
  have hnow' : c'.nowNs = m.nowNs := congrArg Frame.nowNs hframe
  have hoptions' : c'.options = m.options := congrArg Frame.options hframe
  have hdue' : c'.dueNs plan = m.dueNs plan := dueNs_of_frame plan hframe
  have hopen : c'.settled = false := by
    unfold settled
    rw [hzero]
    rfl
  rw [hopen] at hsettle
  refine ⟨_, _, advance_step h.latch (hadvance.trans hsettle), h.latch, hcruising',
    hlasting.of_frame hframe harm, hgoal.of_arm harm, fun side =>
      ?_, ?_, hpublished, ?_, ?_, ?_, ?_,
    hzero, fun side => ?_⟩
  · show (c'.arm side).measuredQ = q side
    rw [harm, hrepeats.q side, h.pose side]
  · show c'.events.count + 1 ≤ kEventCapacity
    rw [hevents] at hevents'
    omega
  · show c'.dueNs plan ≤ c'.nowNs
    omega
  · show c'.nowNs ≤ c'.dueNs plan + (0 + 1) * c'.options.cycleNs
    rw [hdue', hnow', hoptions', hoptions]
    omega
  · show c'.settleStartNs ≠ 0
    omega
  · show c'.nowNs = c'.settleStartNs + 0 * c'.options.cycleNs
    omega
  · have hseq := congrArg Dwell.settleFeedbackSeq hcount
    show c'.settleFeedbackSeq side = (c'.arm side).feedbackSeq
    rw [harm]
    exact congrFun hseq side

/-- One more counted generation: the dwell goes on, or it is over. -/
theorem dwells_next (hclear : ∀ q policy, (keepoutClear L q policy).2 = true) {k : Nat}
    {w : World F} (h : Dwells L plan q k w) (hk : k < 3) :
    ∃ e w', (system L).step w e w' ∧
      (k + 1 < 3 ∧ Dwells L plan q (k + 1) w' ∨
        k + 1 = 3 ∧ Completes w.controller w'.controller plan ∧
          ∀ side, (w'.controller.arm side).measuredQ = q side) := by
  have hearly := h.early
  have hin : w.controller.nowNs + w.controller.options.cycleNs ≤
      w.controller.dueNs plan + 5 * w.controller.options.cycleNs := by
    have hmul : (k + 1) * w.controller.options.cycleNs ≤ 4 * w.controller.options.cycleNs :=
      Nat.mul_le_mul_right _ (by omega)
    omega
  obtain ⟨m, hadvance, hcruising, hlasting, hnow, hoptions, hsame, hdwell, hevents, hpub, hrepeats⟩ :=
    h.cruising.next h.lasting hclear hin
  have hpos := w.controller.cycleNs_pos
  have hdue := h.due
  have hroom := h.room
  have hbegun := h.begun
  have hspan := h.span
  have hgoal : m.AtGoal L plan := h.goal.of_measured hrepeats.q hrepeats.dq
  obtain ⟨c', hsettle, hcruising', harm, hframe, hcount, -, hpublished, hevents'⟩ :=
    settle_counts hcruising (by
      show m.dueNs plan ≤ m.nowNs
      omega) hgoal (by rw [hevents]; omega)
  -- both sequences moved on, so the cycle counts
  have hnew : ∀ side, (m.arm side).feedbackSeq ≠ m.dwell.settleFeedbackSeq side := by
    intro side
    rw [hdwell, hrepeats.seq side]
    have hseq : w.controller.dwell.settleFeedbackSeq side = (w.controller.arm side).feedbackSeq :=
      h.seq side
    omega
  have hstarted : m.dwell.settleStartNs ≠ 0 := by
    rw [hdwell]
    exact hbegun
  unfold Dwell.count at hcount
  rw [if_neg hstarted, if_pos ⟨hnew 0, hnew 1⟩] at hcount
  have hintervals : c'.settleFeedbackIntervals = k + 1 := by
    have hwrap : c'.settleFeedbackIntervals = wrap32 (m.dwell.settleFeedbackIntervals + 1) :=
      congrArg Dwell.settleFeedbackIntervals hcount
    have hold : m.dwell.settleFeedbackIntervals = k := by
      rw [hdwell]
      exact h.intervals
    rw [hwrap, hold]
    unfold wrap32
    omega
  have hstart : c'.settleStartNs = w.controller.settleStartNs :=
    (congrArg Dwell.settleStartNs hcount).trans (congrArg Dwell.settleStartNs hdwell)
  have hnow' : c'.nowNs = m.nowNs := congrArg Frame.nowNs hframe
  have hoptions' : c'.options = w.controller.options :=
    (congrArg Frame.options hframe).trans hoptions
  have hdue' : c'.dueNs plan = m.dueNs plan := dueNs_of_frame plan hframe
  have hcount' : c'.events.count = w.controller.events.count := by
    rw [hevents' (hpub.trans h.published), hevents]
  have hmul : (k + 1) * w.controller.options.cycleNs =
      k * w.controller.options.cycleNs + w.controller.options.cycleNs := by
    rw [Nat.add_mul, Nat.one_mul]
  have hover : c'.settled = true ↔ k + 1 = 3 := by
    rw [settled_iff]
    unfold Dwell.Over
    show 3 ≤ c'.settleFeedbackIntervals ∧ c'.options.cycleNs * 3 ≤ c'.nowNs - c'.settleStartNs ↔ _
    rw [hintervals, hoptions', hnow', hstart, hnow]
    constructor
    · rintro ⟨hthree, -⟩
      omega
    · intro hthree
      obtain rfl : k = 2 := by omega
      omega
  by_cases hlast : k + 1 = 3
  · obtain ⟨hok, hcompletes, hcarm⟩ := complete_completes (m := c') hcruising'.executing (by omega)
    have hend : c'.complete = (c'.complete.1, .ok) := Prod.ext rfl hok
    rw [if_pos (hover.mpr hlast), hend] at hsettle
    refine ⟨_, _, advance_step h.latch (hadvance.trans hsettle), .inr
      ⟨hlast, ⟨h.cruising.executing, hcompletes.dropped, hcompletes.newest⟩, fun side => ?_⟩⟩
    show (c'.complete.1.arm side).measuredQ = q side
    rw [hcarm, harm, hrepeats.q side, h.pose side]
  · rw [if_neg fun hcontra => hlast (hover.mp hcontra)] at hsettle
    refine ⟨_, _, advance_step h.latch (hadvance.trans hsettle),
      .inl ⟨by omega, h.latch, hcruising',
      hlasting.of_frame hframe harm, hgoal.of_arm harm, fun side => ?_, ?_, hpublished, ?_, ?_, ?_,
      ?_, hintervals, fun side => ?_⟩⟩
    · show (c'.arm side).measuredQ = q side
      rw [harm, hrepeats.q side, h.pose side]
    · show c'.events.count + 1 ≤ kEventCapacity
      omega
    · show c'.dueNs plan ≤ c'.nowNs
      omega
    · show c'.nowNs ≤ c'.dueNs plan + (k + 1 + 1) * c'.options.cycleNs
      rw [hdue', hsame, hnow', hnow, hoptions', Nat.add_mul (k + 1) 1, Nat.one_mul]
      omega
    · show c'.settleStartNs ≠ 0
      omega
    · show c'.nowNs = c'.settleStartNs + (k + 1) * c'.options.cycleNs
      rw [hnow', hnow, hstart, hoptions', hmul]
      omega
    · have hseq := congrArg Dwell.settleFeedbackSeq hcount
      show c'.settleFeedbackSeq side = (c'.arm side).feedbackSeq
      rw [harm]
      exact congrFun hseq side

/-- **A frozen command that meets its goal completes.** -/
theorem frozen_completes (hclear : ∀ q policy, (keepoutClear L q policy).2 = true) {w : World F}
    (h : Waits L plan q w) :
    ∃ es w₁ e w₂, (system L).Run w es w₁ ∧ (system L).step w₁ e w₂ ∧
      Completes w₁.controller w₂.controller plan ∧
        ∀ side, (w₂.controller.arm side).measuredQ = q side := by
  obtain ⟨es, w₁, hrun, hwaits, hdue⟩ := waits_run hclear (w.controller.dueNs plan) h (by omega)
  obtain ⟨e₁, w₂, hstep₁, hfirst⟩ := waits_dwells hclear hwaits hdue
  obtain ⟨e₂, w₃, hstep₂, ⟨-, hsecond⟩ | ⟨hcontra, -⟩⟩ := dwells_next hclear hfirst (by omega)
  · obtain ⟨e₃, w₄, hstep₃, ⟨-, hthird⟩ | ⟨hcontra, -⟩⟩ := dwells_next hclear hsecond (by omega)
    · obtain ⟨e₄, w₅, hstep₄, ⟨hcontra, -⟩ | ⟨-, hcompletes⟩⟩ :=
        dwells_next hclear hthird (by omega)
      · omega
      · exact ⟨_, w₄, e₄, w₅, ((hrun.snoc hstep₁).snoc hstep₂).snoc hstep₃, hstep₄, hcompletes⟩
    · omega
  · omega

end Runs

end OpenArm.Control
