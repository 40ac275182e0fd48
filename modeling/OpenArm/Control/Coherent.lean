/-
  OpenArm.Control.Coherent — feedback that passes every integrity check.

  An arm is `Settled` at a time when its last generation is complete, was
  captured at that time and reports no motor fault; a controller is
  `Coherent` when both arms are.  Forcing a state settles an arm, so every
  stop leaves the controller coherent.

  Main results:
    * `Coherent.fresh` / `Coherent.healthy` — coherent feedback passes.
    * `Coherent.materializeStop` — a stop leaves the feedback coherent.
-/
import OpenArm.Control.Operations

namespace OpenArm.Control

open OpenArm.Lib

variable {F : Type} [Floating F]

namespace ArmRuntime

/-- Complete fault-free feedback captured at `nowNs`, and no fault injected. -/
structure Settled (r : ArmRuntime F) (nowNs timeoutNs : Nat) : Prop where
  complete : r.completeFresh nowNs timeoutNs = true
  stamp : r.generationTimestamp = nowNs
  status : ∀ j, (r.motor j).measured.status < 8
  noFault : ∀ j, (r.motor j).faultStatus = 0

omit [Floating F] in
theorem reportedStatus_of_noFault {m : DamiaoMotorSimulator F} (h : m.faultStatus = 0) :
    m.reportedStatus = if m.enabled then 1 else 0 := by
  simp [DamiaoMotorSimulator.reportedStatus, h]

theorem status_forceState_of_noFault (r : ArmRuntime F) (q dq : JointVector F) (nowNs : Nat)
    (j : Joint) (h : (r.motor j).faultStatus = 0) :
    ((r.forceState q dq nowNs).motor j).measured.status =
      if (r.motor j).enabled then 1 else 0 := by
  have hstatus := reportedStatus_of_noFault h
  have hsmall : (r.motor j).reportedStatus < 16 := by
    rw [hstatus]
    split <;> decide
  rw [status_forceState r q dq nowNs j hsmall, hstatus]

theorem settled_forceState (r : ArmRuntime F) (q dq : JointVector F) (nowNs timeoutNs : Nat)
    (h : ∀ j, (r.motor j).faultStatus = 0) :
    (r.forceState q dq nowNs).Settled nowNs timeoutNs where
  complete := r.completeFresh_forceState q dq nowNs timeoutNs
  stamp := rfl
  status := by
    intro j
    rw [r.status_forceState_of_noFault q dq nowNs j (h j)]
    split <;> decide
  noFault := h

/-- Enabling and retiring queued feedback publish nothing. -/
theorem Settled.disable {r : ArmRuntime F} {nowNs timeoutNs : Nat}
    (h : r.Settled nowNs timeoutNs) :
    (r.setEnabled false).retirePendingFeedback.Settled nowNs timeoutNs where
  complete := by
    rw [completeFresh_iff]
    exact (completeFresh_iff r nowNs timeoutNs).mp h.complete
  stamp := h.stamp
  status := h.status
  noFault := h.noFault

end ArmRuntime

namespace Controller

/-- Both arms are settled now. -/
def Coherent (c : Controller F) : Prop :=
  ∀ side, (c.arm side).Settled c.nowNs c.options.feedbackTimeoutNs

namespace Coherent

variable {c : Controller F}

theorem fresh (h : c.Coherent) : c.fresh = true := by
  have hskew : absDiff (c.arm 0).generationTimestamp (c.arm 1).generationTimestamp
      ≤ c.options.maxCrossBusSkewNs := by
    rw [(h 0).stamp, (h 1).stamp, absDiff_self]
    exact Nat.zero_le _
  simp [Controller.fresh, feedbackIntegrity, (h 0).complete, (h 1).complete, hskew]

theorem healthy (h : c.Coherent) : c.healthy = true := by
  have hside : ∀ side, (c.arm side).faultFree c.nowNs c.options.feedbackTimeoutNs = true :=
    fun side => ((c.arm side).faultFree_iff _ _).mpr (h side).status
  simp [Controller.healthy, hside]

/-- Coherent feedback of disabled motors reports them disabled. -/
theorem disabled (h : c.Coherent)
    (hzero : ∀ side j, ((c.arm side).motor j).measured.status = 0) : c.disabled = true := by
  have hside : ∀ side, (c.arm side).allDisabled c.nowNs c.options.feedbackTimeoutNs = true :=
    fun side => ((c.arm side).allDisabled_iff _ _).mpr ⟨(h side).complete, hzero side⟩
  simp [Controller.disabled, hside]

/-- The event ring is no part of the feedback. -/
theorem withEvents (h : c.Coherent) (events : Ring Event kEventCapacity) :
    ({ c with events := events } : Controller F).Coherent := h

/-- A stop keeps the feedback coherent, holding or not. -/
theorem materializeStop (h : c.Coherent) (hvirtual : c.isVirtual = true) (hold : Bool) :
    (c.materializeStop hold).Coherent := by
  intro side
  show (c.stopArm hold (c.arm side)).Settled c.nowNs c.options.feedbackTimeoutNs
  unfold stopArm
  rw [if_pos hvirtual]
  split
  · exact ArmRuntime.settled_forceState _ _ _ _ _ (h side).noFault
  · exact (h side).disable

end Coherent

/-! ## §2. Operations that succeed on coherent feedback. -/

/-- A disarmed, coherent and disabled controller answers a challenge. -/
theorem challenge_of_coherent (c : Controller F) (hlife : c.lifecycle = .disarmed)
    (h : c.Coherent) (hdisabled : c.disabled = true) :
    c.challenge =
      ({ c.renewNonce with outstandingChallengeExpiry := wrap64 (c.nowNs + 1000000000) }, .ok,
        some ⟨c.verifyEpoch, wrap64 (c.nonceCounter + 1), wrap64 (c.nowNs + 1000000000)⟩) := by
  simp [challenge, hlife, h.fresh, h.healthy, hdisabled]
  exact ⟨rfl, rfl⟩

/-- It arms on the challenge it handed out. -/
theorem armWith_of_coherent (c : Controller F) (challenge : ArmChallenge)
    (hlife : c.lifecycle = .disarmed) (h : c.Coherent) (hdisabled : c.disabled = true)
    (hdeadman : c.deadmanActive = true) (hmatch : c.challengeMismatch challenge = false)
    (hroom : c.events.count < kEventCapacity) :
    ∃ event, c.armWith challenge =
      ({ c.energize with events := c.events.push event }, .ok) := by
  simp only [armWith, hlife, hmatch, h.fresh, h.healthy, hdisabled, hdeadman, ne_eq,
    not_true_eq_false, if_false, Bool.not_true, Bool.false_eq_true, Bool.or_self]
  exact c.energize.publishReturning_of_room .armed .ok .ok 0 hroom

/-- Energised motors report status 1 and no fault. -/
theorem Coherent.energize {c : Controller F} (h : c.Coherent) : c.energize.Coherent :=
  fun side => ArmRuntime.settled_forceState _ _ _ _ _ (h side).noFault

/-- `stop` on an executing command: an ABORTED and a STOPPED event, and the
    motors stopped as asked. -/
theorem stop_of_executing (c : Controller F) (hlife : c.lifecycle = .executing)
    (hexec : c.executing.isSome = true) (hroom : c.events.count + 1 < kEventCapacity) :
    ∃ aborted stopped, c.stop .controlled =
      ({ (c.dropCommand.materializeStop true) with
          lifecycle := .armedIdle
          activeStopKind := .disable
          events := (c.events.push aborted).push stopped }, .ok) := by
  have hcount : c.events.count < kEventCapacity := by omega
  have hfull : c.events.isFull = false := by
    rw [Bool.eq_false_iff, ne_eq, Ring.isFull_iff]
    omega
  obtain ⟨aborted, hpub⟩ :=
    publish_of_room { c with lifecycle := .stopping } .aborted .ok c.commandId hfull
  have hpushed : (c.events.push aborted).count < kEventCapacity := by
    rw [Ring.count_push _ _ hcount]
    exact hroom
  obtain ⟨stopped, hstop⟩ := publishReturning_of_room
    { ({ c with lifecycle := .stopping, events := c.events.push aborted } : Controller
          F).dropCommand.materializeStop true with
      lifecycle := .armedIdle, activeStopKind := .disable } .stopped .ok .ok c.commandId hpushed
  refine ⟨aborted, stopped, ?_⟩
  simp only [stop, hlife, hexec, hpub, ne_eq, reduceCtorEq, not_true_eq_false, not_false_eq_true,
    and_false, false_and, if_true, if_false]
  exact hstop

end Controller

end OpenArm.Control
