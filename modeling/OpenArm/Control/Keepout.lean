/-
  OpenArm.Control.Keepout — how far clearance falls under `monitor_keepout`.

  Below the intervention floor the monitor lets a cycle pass whose clearance
  is not worse than that of the cycle before by more than
  `kClearanceWorseningEpsilon`, and then compares the next cycle with the
  lower value.  A command that keeps losing less than the epsilon is never
  stopped.

  Main results:
    * `keepout_bound`    — the bound, in runs that lose clearance below the
                           floor only from the start's level or above.
    * `closing_run`      — a run that loses half the epsilon in every cycle.
    * `call_watches`     — a call that keeps the command is a cycle of the
                           monitor, or leaves what the monitor remembers.
-/
import OpenArm.Control.Dwell
import OpenArm.Control.Standard
import OpenArm.Lib.Ratchet
import OpenArm.Lib.FloatOrder

namespace OpenArm.Control

open OpenArm.Lib

variable {F : Type} [Floating F]

namespace Controller

/-! ## §1. The monitor as a system. -/

/-- What `monitor_keepout` measures this cycle. -/
def clearance (c : Controller F) (L : ModelLibrary F) : F :=
  (keepoutClear L c.measuredPose c.monitorPolicy).1.minimumClearanceM

/-- The monitor from cycle to cycle.  A command starts with
    `reset_contact_report`; a cycle finds the arms in any pose, and the rest of
    the controller as the other stages left it. -/
def watch (L : ModelLibrary F) : Lts (Controller F) F where
  init c := ∃ (before : Controller F) (plan : MotionPlan F),
    c = { before.resetContactReport L plan with executing := some plan }
  step c sample c' := ∃ now : Controller F, now.lastClearanceM = c.lastClearanceM ∧
    now.executing = c.executing ∧ now.monitorKeepout L = (c', true) ∧ sample = now.clearance L

/-- The guard the monitor applies. -/
def keepoutGuard (F : Type) [Floating F] : Guard F where
  le a b := a ≤ b
  floor := interventionClearanceM
  slack previous := previous - kClearanceWorseningEpsilon

/-- A clear verdict means clearance at the intervention floor. -/
def GateHolds (L : ModelLibrary F) : Prop :=
  ∀ left right policy, (L.collision left right interventionClearanceM policy).ok = true →
    (L.collision left right interventionClearanceM policy).report.clear = true →
      interventionClearanceM ≤
        (L.collision left right interventionClearanceM policy).report.minimumClearanceM

/-- **The condition.**  Below the floor a cycle does not lose clearance, unless
    the one before it was at the start's level or above. -/
def LosesOnce (start previous sample : F) : Prop :=
  interventionClearanceM ≤ sample ∨ previous ≤ sample ∨
    Floating.min interventionClearanceM start ≤ previous

/-! ## §2. A cycle that goes on. -/

theorem keepoutClear_floor {L : ModelLibrary F} (hgate : GateHolds L)
    {q : Side → JointVector F} {policy : ContactPolicy} (h : (keepoutClear L q policy).2 = true) :
    interventionClearanceM ≤ (keepoutClear L q policy).1.minimumClearanceM := by
  unfold keepoutClear at h ⊢
  split at h
  · cases h
  · rename_i hfk
    rw [if_neg hfk]
    dsimp only at h ⊢
    split at h
    · rename_i hok
      rw [if_pos hok]
      exact hgate _ _ _ hok h
    · cases h

/-- What a cycle that goes on leaves, and why it went on. -/
theorem monitorKeepout_true {c c' : Controller F} {L : ModelLibrary F}
    (h : c.monitorKeepout L = (c', true)) :
    c'.lastClearanceM = c.clearance L ∧ c'.executing = c.executing ∧
      ((keepoutClear L c.measuredPose c.monitorPolicy).2 = true ∨
        c.lastClearanceM - kClearanceWorseningEpsilon ≤ c.clearance L) := by
  unfold monitorKeepout at h
  dsimp only at h
  split at h
  · rename_i hclear
    split at h
    · cases h
    · cases h
      exact ⟨rfl, rfl, .inl hclear⟩
  · split at h
    · rename_i hkept
      cases h
      simp only [Bool.and_eq_true, decide_eq_true_eq] at hkept
      exact ⟨rfl, rfl, .inr hkept.2⟩
    · cases h

/-- A cycle of a command that allows no terminal contact goes on when it has
    lost at most the epsilon. -/
theorem monitorKeepout_passes {c : Controller F} {L : ModelLibrary F}
    (hpolicy : c.monitorPolicy ≠ .terminalCaps)
    (hlast : Floating.isFinite c.lastClearanceM = true)
    (hsample : Floating.isFinite (c.clearance L) = true)
    (htolerated : c.lastClearanceM - kClearanceWorseningEpsilon ≤ c.clearance L) :
    (c.monitorKeepout L).2 = true := by
  unfold monitorKeepout
  dsimp only
  split
  · rw [if_neg (by simp [hpolicy])]
  · rw [if_pos]
    simp only [Bool.and_eq_true, decide_eq_true_eq]
    exact ⟨⟨hlast, hsample⟩, htolerated⟩

/-- **A cycle of the monitor is a step of its guard.** -/
theorem watch_guard {L : ModelLibrary F} (hgate : GateHolds L) {c c' : Controller F} {sample : F}
    (h : (watch L).step c sample c') :
    (keepoutGuard F).system.step c.lastClearanceM sample c'.lastClearanceM := by
  obtain ⟨now, hlast, -, hmonitor, rfl⟩ := h
  obtain ⟨hseen, -, hwhy⟩ := monitorKeepout_true hmonitor
  refine ⟨?_, hseen⟩
  rcases hwhy with hclear | htolerated
  · exact .inl (keepoutClear_floor hgate hclear)
  · rw [hlast] at htolerated
    exact .inr htolerated

/-- A run of the monitor under the condition is a steady run of its guard. -/
theorem watch_run_guard {L : ModelLibrary F} (hgate : GateHolds L) {c c' : Controller F} {start : F}
    {samples : List F}
    (hrun : ((watch L).restrict fun now sample _ => LosesOnce start now.lastClearanceM sample).Run
      c samples c') :
    ((keepoutGuard F).system.restrict fun previous sample _ =>
      (keepoutGuard F).Steady (Floating.min interventionClearanceM start) previous sample).Run
        c.lastClearanceM samples c'.lastClearanceM := by
  induction hrun with
  | nil => exact .nil _
  | snoc _ last ih => exact ih.snoc ⟨watch_guard hgate last.1, last.2⟩

section Order

variable [FloatOrder F]

theorem isFinite_epsilon : Floating.isFinite (kClearanceWorseningEpsilon : F) = true :=
  FloatOrder.isFinite_lit (by norm_num) (by norm_num)

theorem intervention_self : (interventionClearanceM : F) ≤ interventionClearanceM :=
  FloatOrder.lit_le_lit (le_refl _)

theorem keepoutGuard_lawful : (keepoutGuard F).Lawful where
  trans := FloatOrder.le_trans
  self := FloatOrder.le_self_left
  slack_mono h := FloatOrder.sub_le_sub isFinite_epsilon h
  slack_le h := FloatOrder.sub_le_self isFinite_epsilon
    (FloatOrder.lit_le_lit (by norm_num)) h

/-- **Clearance under the keepout monitor.**  In every run whose cycles all meet
    the condition, a clearance below the floor has lost at most the epsilon
    from the floor and from where the command started. -/
theorem keepout_bound {L : ModelLibrary F} (hgate : GateHolds L) {c c' : Controller F}
    {samples : List F} (_hinit : (watch L).init c)
    (hfinite : Floating.isFinite c.lastClearanceM = true)
    (hrun : ((watch L).restrict fun now sample _ =>
      LosesOnce c.lastClearanceM now.lastClearanceM sample).Run c samples c') :
    ∀ sample ∈ samples, sample < interventionClearanceM →
      Floating.min interventionClearanceM c.lastClearanceM - kClearanceWorseningEpsilon ≤
        sample := by
  have hself : c.lastClearanceM ≤ c.lastClearanceM := FloatOrder.le_self_of_isFinite hfinite
  obtain ⟨hall, -⟩ := Guard.run_steady keepoutGuard_lawful
    (Floating.min_le_left intervention_self)
    (Floating.min_le_right intervention_self hself) (watch_run_guard hgate hrun)
  intro sample hsample hbelow
  rcases hall sample hsample with hfloor | hbound
  · exact absurd hfloor (Floating.not_le_of_lt hbelow)
  · exact hbound

end Order

/-! ## §3. The monitor in a running controller. -/

/-- What the monitor remembers of the command. -/
structure Watched (F : Type) where
  executing : Option (MotionPlan F)
  lastClearanceM : F

def watched (c : Controller F) : Watched F := ⟨c.executing, c.lastClearanceM⟩

/-- From `c` to `c'` the command is dropped, the monitor's memory is kept, or
    the monitor let a cycle pass. -/
def Watches (L : ModelLibrary F) (c c' : Controller F) : Prop :=
  c'.executing = none ∨ c'.watched = c.watched ∨
    ∃ sample seen, (watch L).step c sample seen ∧ c'.watched = seen.watched

@[simp] theorem clearance_publish (c : Controller F) (kind : EventKind) (cause : ControlStatus)
    (id : Nat) : (c.publish kind cause id).1.lastClearanceM = c.lastClearanceM := by
  unfold publish
  dsimp only
  split <;> rfl

@[simp] theorem clearance_publishReturning (c : Controller F) (kind : EventKind)
    (cause status : ControlStatus) (id : Nat) :
    (c.publishReturning kind cause id status).1.lastClearanceM = c.lastClearanceM :=
  c.clearance_publish kind cause id

@[simp] theorem clearance_latchFault (c : Controller F) (cause : ControlStatus)
    (available : Bool) : (c.latchFault cause available).1.lastClearanceM = c.lastClearanceM :=
  clearance_publishReturning _ _ _ _ _

theorem clearance_setInterlock (c : Controller F) (estop deadman : Bool) :
    (c.setInterlock estop deadman).1.lastClearanceM = c.lastClearanceM := by
  unfold setInterlock
  dsimp only
  split
  · refine (clearance_publishReturning _ _ _ _ _).trans ?_
    show (if _ then _ else _ : Controller F).lastClearanceM = _
    split <;> rfl
  · rfl

theorem clearance_startQueued {c c' : Controller F} {plan : MotionPlan F}
    (h : c.startQueued plan = .ok c') : c'.lastClearanceM = c.lastClearanceM := by
  unfold startQueued at h
  split at h
  · split at h
    · cases h
    dsimp only at h
    split at h
    · cases h
      exact clearance_publish _ _ _ _
    · cases h
  · cases h
    rfl

theorem clearance_commandReference {c c' : Controller F} {reference : Reference F}
    (h : c.commandReference = .ok (c', reference)) : c'.lastClearanceM = c.lastClearanceM := by
  unfold commandReference at h
  split at h
  · split at h
    · cases h
    split at h
    · cases h
      rfl
    split at h
    · cases h
    · rename_i hqueued
      cases h
      exact clearance_startQueued hqueued
  · cases h
    rfl

theorem clearance_stepArm {c c' : Controller F} {reference : Reference F} {dtS : F} {side : Side}
    (h : c.stepArm reference dtS side = .ok c') : c'.lastClearanceM = c.lastClearanceM := by
  unfold stepArm at h
  dsimp only at h
  split at h
  · cases h
    rfl
  · cases h

theorem clearance_stepPlant {c c' : Controller F} {L : ModelLibrary F} {reference : Reference F}
    {previousNs : Nat} (h : c.stepPlant L reference previousNs = .ok c') :
    c'.lastClearanceM = c.lastClearanceM := by
  unfold stepPlant at h
  dsimp only at h
  split at h
  · cases h
  · rename_i hleft
    have hkept : _ = (c.applySimContact L).lastClearanceM := clearance_stepArm hleft
    exact (clearance_stepArm h).trans hkept

theorem clearance_monitorContact (c : Controller F) (L : ModelLibrary F) :
    (c.monitorContact L).1.lastClearanceM = c.lastClearanceM := by
  unfold monitorContact
  split
  · rfl
  split
  · rfl
  dsimp only
  split
  · rfl
  · split <;> rfl

theorem clearance_planCartesian (c : Controller F) (latch : Bool)
    (body : Except ControlStatus (MotionPlan F)) :
    (c.planCartesian latch body).1.lastClearanceM = c.lastClearanceM := by
  rw [planCartesian_state]
  unfold planPreconditions
  repeat' split
  all_goals first | rfl | exact c.clearance_latchFault _ _

theorem clearance_finishStop (c : Controller F) (kind : StopKind) (id : Nat) :
    (c.finishStop kind id).1.lastClearanceM = c.lastClearanceM := by
  unfold finishStop
  refine (clearance_publishReturning _ _ _ _ _).trans ?_
  dsimp only
  split <;> rfl

theorem clearance_stop (c : Controller F) (kind : StopKind) :
    (c.stop kind).1.lastClearanceM = c.lastClearanceM := by
  unfold stop
  dsimp only
  repeat' split
  all_goals simp [clearance_finishStop]

/-- The monitor stage runs the monitor once, or not at all. -/
theorem monitors_watches {c c' : Controller F} {L : ModelLibrary F}
    (h : c.monitors L = .ok c') : c' = c ∨
      ∃ sample, (watch L).step c sample c' := by
  unfold monitors at h
  split at h
  · dsimp only at h
    split at h
    · cases h
    split at h
    · cases h
    · rename_i hkeepout
      cases h
      refine .inr ⟨_, (c.monitorContact L).1, c.clearance_monitorContact L, ?_, ?_, rfl⟩
      · exact congrArg Dwell.executing (c.dwell_monitorContact L)
      · exact Prod.ext rfl (by simpa using hkeepout)
  · cases h
    exact .inl rfl

/-- A publish brings no command back. -/
theorem publish_dropped {c : Controller F} (kind : EventKind) (cause : ControlStatus) (id : Nat)
    (hnone : c.executing = none) : (c.publish kind cause id).1.executing = none := by
  obtain ⟨-, -, -, ⟨-, -, hkeeps⟩ | ⟨-, -, -, hdropped⟩⟩ := c.publish_event kind cause id
  · exact hkeeps.1.trans hnone
  · exact hdropped

/-- The settle stage keeps what the monitor remembers while the command runs. -/
theorem settle_watches (c : Controller F) (L : ModelLibrary F) :
    (c.settle L).1.executing = none ∨ (c.settle L).1.watched = c.watched := by
  have hsettling := c.publishSettling_rests
  unfold settle
  split
  · exact .inr rfl
  split
  · split
    · rename_i hexit
      rw [hexit] at hsettling
      exact .inl hsettling.executing
    · rename_i c' hok
      have hkept : c'.watched = c.watched := by
        rw [hok] at hsettling
        have hexecuting : c'.executing = c.executing := congrArg Dwell.executing hsettling
        refine congrArg₂ Watched.mk hexecuting ?_
        unfold publishSettling at hok
        split at hok
        · cases hok
          rfl
        · dsimp only at hok
          split at hok
          · cases hok
            exact clearance_publish c .settling .ok c.commandId
          · cases hok
      have hcounted : c'.countSettle.watched = c'.watched := by
        unfold countSettle
        dsimp only
        split
        · rfl
        · split <;> rfl
      split
      · dsimp only
        split
        · exact .inl (publish_dropped .completed .ok c'.countSettle.commandId rfl)
        · exact .inr (hcounted.trans hkept)
      · exact .inr hkept
  · exact .inr rfl

/-- **A cycle runs the monitor once**, or leaves what it remembers, or drops
    the command. -/
theorem runCycle_watches (c : Controller F) (L : ModelLibrary F) (previousNs : Nat) :
    Watches L c (c.runCycle L previousNs).1 := by
  have hrests := c.runCycle_rests L previousNs
  have hreference := c.commandReference_rests
  unfold runCycle
  split
  · rename_i hexit
    have hcut := c.cycleWatchdogs_rests previousNs
    rw [hexit] at hcut
    exact .inl hcut.executing
  split
  · rename_i hexit
    rw [hexit] at hreference
    exact .inl hreference.executing
  rename_i referenced reference hok
  rw [hok] at hreference
  have hreferenced : referenced.executing = c.executing := congrArg Dwell.executing hreference
  have hreferencedLast := clearance_commandReference hok
  have hplant := referenced.stepPlant_rests L reference previousNs
  split
  · rename_i hexit
    rw [hexit] at hplant
    exact .inl hplant.executing
  rename_i stepped hstepped
  rw [hstepped] at hplant
  have hkept : stepped.watched = c.watched :=
    congrArg₂ Watched.mk ((congrArg Dwell.executing hplant).trans hreferenced)
      ((clearance_stepPlant hstepped).trans hreferencedLast)
  have hfeedback := stepped.feedbackWatchdogs_rests
  split
  · rename_i hexit
    rw [hexit] at hfeedback
    exact .inl hfeedback.executing
  have hmonitors := stepped.monitors_rests L
  split
  · rename_i hexit
    rw [hexit] at hmonitors
    exact .inl hmonitors.executing
  rename_i monitored hmonitored
  rcases monitored.settle_watches L with hdropped | hsettled
  · exact .inl hdropped
  rcases monitors_watches hmonitored with rfl | ⟨sample, now, hlast, hexecuting, hpass⟩
  · exact .inr (.inl (hsettled.trans hkept))
  · refine .inr (.inr ⟨sample, monitored, ⟨now, ?_, ?_, hpass⟩, hsettled⟩)
    · exact hlast.trans (congrArg Watched.lastClearanceM hkept)
    · exact hexecuting.trans (congrArg Watched.executing hkept)

theorem advance_watches (c : Controller F) (L : ModelLibrary F) (latch : Bool) (now : Nat) :
    Watches L c (c.advance L latch now).1 := by
  unfold advance
  split
  · unfold advanceEstop
    dsimp only
    split
    · -- the latch is reported and the interlock asserted: the command is dropped
      let reported : Controller F :=
        { c with
          estopLatched := true
          contactReport :=
            { c.contactReport with
              cause := .estop
              stopMonotonicNs := if c.nowNs ≤ now then now else c.nowNs }
          nowNs := if c.nowNs ≤ now then now else c.nowNs }
      rcases reported.setInterlock_rests true c.deadmanActive with hkept | hcut
      · refine .inr (.inl (congrArg₂ Watched.mk (congrArg Dwell.executing hkept) ?_))
        exact reported.clearance_setInterlock true c.deadmanActive
      · exact .inl hcut.executing
    · exact .inr (.inl rfl)
  dsimp only
  split
  · exact .inr (.inl rfl)
  split
  · exact .inr (.inl rfl)
  split
  · exact runCycle_watches _ L c.nowNs
  · exact .inr (.inl rfl)

end Controller

section Calls

variable {w : World F}

/-- No call but `advance` writes the monitor's memory of a running command. -/
theorem call_clearance (L : ModelLibrary F) (op : Op F)
    (hexec : w.controller.lifecycle = .executing) (hadvance : ∀ now, op ≠ .advance now) :
    (call L w op).1.controller.lastClearanceM = w.controller.lastClearanceM := by
  cases op with
  | openAndVerify => simp [call, withOutput, Controller.openAndVerify, hexec]
  | snapshot => rfl
  | kinematics side seq => rfl
  | challenge => simp [call, withOutput, Controller.challenge, hexec]
  | arm challenge => simp [call, plain, Controller.armWith, hexec]
  | planJoint request =>
    simp only [call, planned, Controller.planJoint]
    repeat' split
    all_goals simp
  | planPaired request => exact w.controller.clearance_planCartesian _ _
  | planCentroid request => exact w.controller.clearance_planCartesian _ _
  | planMirrored request => exact w.controller.clearance_planCartesian _ _
  | planConverge request => exact w.controller.clearance_planCartesian _ _
  | contactReport => rfl
  | setSimContact contact =>
    simp only [call, plain, Controller.setSimContact]
    repeat' split
    all_goals rfl
  | execute plan request => simp [call, executed, Controller.execute, hexec]
  | advance now => exact absurd rfl (hadvance now)
  | setSimFault fault =>
    simp only [call, plain, Controller.setSimFault]
    repeat' split
    all_goals rfl
  | setSimState state =>
    simp only [call, plain, Controller.setSimState]
    repeat' split
    all_goals rfl
  | heartbeat id deadline =>
    simp only [call, plain, Controller.heartbeat]
    repeat' split
    all_goals simp
  | setInterlock estop deadman => exact w.controller.clearance_setInterlock estop deadman
  | setCollisionSceneRevision revision =>
    simp only [call, plain, Controller.setCollisionSceneRevision]
    repeat' split
    all_goals rfl
  | stop kind => exact w.controller.clearance_stop kind
  | disarm deadline =>
    simp only [call, plain, Controller.disarm]
    repeat' split
    all_goals simp [Controller.dropCommand, Controller.materializeStop]
  | reset request => simp [call, plain, Controller.reset, hexec]
  | pollEvent =>
    simp only [call, withOutput, Controller.pollEvent]
    split
    · rfl
    · rfl
  | estopAssert => rfl
  | estopClear => rfl

/-- **The monitor in a running controller.**  While a command executes, a call
    drops it, keeps what the monitor remembers, or is a cycle of the monitor. -/
theorem call_watches (L : ModelLibrary F) (op : Op F)
    (hexec : w.controller.lifecycle = .executing)
    (hsome : w.controller.executing.isSome = true) :
    Controller.Watches L w.controller (call L w op).1.controller := by
  by_cases hadvance : ∃ now, op = .advance now
  · obtain ⟨now, rfl⟩ := hadvance
    exact w.controller.advance_watches L w.latch now
  · have hother : ∀ now, op ≠ .advance now := fun now h => hadvance ⟨now, h⟩
    rcases call_rests L op hexec hsome hother with hkept | hcut
    · exact .inr (.inl (congrArg₂ Controller.Watched.mk (congrArg Controller.Dwell.executing hkept)
        (call_clearance L op hexec hother)))
    · exact .inl hcut.executing

end Calls

/-! ## §4. Cycles that pass. -/

/-- The left arm's first joint, read at an encoder position. -/
def posed (position : Nat) : Controller ℚ :=
  let c := (standardWorld ℚ).controller
  let motor := (c.arm 0).motor 0
  let read := decodeField position motor.config.pmaxRad 65535
  { c with
    arm := Function.update c.arm 0
      { c.arm 0 with
        motor := Function.update (c.arm 0).motor 0
          { motor with measured := { motor.measured with rawQ := read } } } }

/-- Two arms whose clearance is 10 mm where the first joint reads encoder
    position 32768, and falls by half a micrometre with every position from there. -/
def closingLibrary : ModelLibrary ℚ where
  forward := fun _ _ => some ⟨fun _ _ => 0, fun _ _ => 0, fun _ => 0, fun _ => 0⟩
  inverse := fun _ _ _ => none
  collision := fun left _ threshold _ =>
    let gap := 1 / 100 - (left 0 - (posed 32768).measuredPose 0 0) /
      ((posed 32769).measuredPose 0 0 - (posed 32768).measuredPose 0 0) / 2000000
    ⟨true, { (Controller.keepoutZero : KeepoutStatus ℚ) with
        clear := decide (threshold ≤ gap), minimumClearanceM := gap }⟩

theorem closingLibrary_gate : Controller.GateHolds closingLibrary := by
  intro left right policy _ hclear
  exact of_decide_eq_true hclear

/-- A request to move the left arm's first joint. -/
def firstJointMove : JointMove ℚ where
  expiryNs := 1000000000
  requiredFeedbackSeq := 0
  side := 0
  joint := 0
  targetRad := 1
  velocityScale := 1
  accelerationScale := 1
  jerkScale := 1
  positionTolRad := 1 / 1000
  velocityTolRadS := 1 / 1000

/-- The command, at its first pose. -/
def closingStart : Controller ℚ :=
  { (posed 32768).resetContactReport closingLibrary
      ((posed 32768).jointPlan firstJointMove 0 0) with
    executing := some ((posed 32768).jointPlan firstJointMove 0 0) }

/-- The cycle that reads `position` while `c` is what the last one left. -/
def closingCycle (c : Controller ℚ) (position : Nat) : Controller ℚ :=
  { c with arm := (posed position).arm }

theorem posed_reading (position : Nat) :
    (posed position).measuredPose 0 0 = position / 65535 * 25 - 99 / 8 := by
  have hread : (posed position).measuredPose 0 0 =
      (standardMotor 0 0 : MotorConfig ℚ).qScale *
        decodeField position (standardMotor 0 0 : MotorConfig ℚ).pmaxRad 65535 +
          (standardMotor 0 0 : MotorConfig ℚ).qOffsetRad := rfl
  rw [hread]
  simp only [standardMotor, decodeField, Floating.lit, Floating.ofNat]
  norm_num
  ring

/-- Under a plan that allows no contact the clearance is the distance read. -/
theorem closing_clearance (c : Controller ℚ) (position : Nat) :
    (closingCycle c position).clearance closingLibrary =
      1 / 100 - ((position : ℚ) - 32768) / 2000000 := by
  show (1 : ℚ) / 100 - ((posed position).measuredPose 0 0 - (posed 32768).measuredPose 0 0) /
    ((posed 32769).measuredPose 0 0 - (posed 32768).measuredPose 0 0) / 2000000 = _
  rw [posed_reading, posed_reading, posed_reading]
  push_cast
  ring

theorem closingStart_last : closingStart.lastClearanceM = 1 / 100 := by
  show (1 : ℚ) / 100 - ((posed 32768).measuredPose 0 0 - (posed 32768).measuredPose 0 0) /
    ((posed 32769).measuredPose 0 0 - (posed 32768).measuredPose 0 0) / 2000000 = _
  rw [posed_reading, posed_reading]
  norm_num

/-- **One position further is half a micrometre less**, and the cycle passes. -/
theorem closing_step {c : Controller ℚ} {n : Nat}
    (hplan : c.executing = closingStart.executing)
    (hlast : c.lastClearanceM = 1 / 100 - (n : ℚ) / 2000000) :
    ∃ c' : Controller ℚ, (Controller.watch closingLibrary).step c
        (1 / 100 - ((n + 1 : ℕ) : ℚ) / 2000000) c' ∧
      c'.executing = closingStart.executing ∧
        c'.lastClearanceM = 1 / 100 - ((n + 1 : ℕ) : ℚ) / 2000000 := by
  have hread := closing_clearance c (32768 + (n + 1))
  have hvalue : (1 : ℚ) / 100 - (((32768 + (n + 1) : ℕ) : ℚ) - 32768) / 2000000 =
      1 / 100 - ((n + 1 : ℕ) : ℚ) / 2000000 := by
    push_cast
    ring
  rw [hvalue] at hread
  have hpass : ((closingCycle c (32768 + (n + 1))).monitorKeepout closingLibrary).2 = true := by
    have hpolicy : (closingCycle c (32768 + (n + 1))).monitorPolicy = .none := by
      have hexecuting : (closingCycle c (32768 + (n + 1))).executing = closingStart.executing :=
        hplan
      unfold Controller.monitorPolicy
      rw [hexecuting]
      rfl
    have htolerated : (closingCycle c (32768 + (n + 1))).lastClearanceM -
        Controller.kClearanceWorseningEpsilon ≤
          (closingCycle c (32768 + (n + 1))).clearance closingLibrary := by
      rw [hread]
      show c.lastClearanceM - 1.0e-6 ≤ _
      rw [hlast]
      push_cast
      linarith
    refine Controller.monitorKeepout_passes ?_ rfl rfl htolerated
    rw [hpolicy]
    decide
  obtain ⟨c', hc'⟩ : ∃ c', (closingCycle c (32768 + (n + 1))).monitorKeepout closingLibrary =
      (c', true) := ⟨_, Prod.ext rfl hpass⟩
  obtain ⟨hseen, hkept, -⟩ := Controller.monitorKeepout_true hc'
  exact ⟨c', ⟨closingCycle c (32768 + (n + 1)), rfl, rfl, hc', hread.symm⟩,
    hkept.trans hplan, hseen.trans hread⟩

/-- One such cycle, which the bound allows. -/
theorem keepout_bound_once : ∃ (sample : ℚ) (c' : Controller ℚ),
    (Controller.watch closingLibrary).Run closingStart [sample] c' ∧
      sample < interventionClearanceM ∧
        Floating.min interventionClearanceM closingStart.lastClearanceM -
          Controller.kClearanceWorseningEpsilon ≤ sample := by
  obtain ⟨c', hstep, -, -⟩ := closing_step (c := closingStart) (n := 0) rfl
    (by rw [closingStart_last]; norm_num)
  have hstart : Controller.LosesOnce closingStart.lastClearanceM closingStart.lastClearanceM
      ((1 : ℚ) / 100 - ((0 + 1 : ℕ) : ℚ) / 2000000) := by
    refine .inr (.inr ?_)
    rw [closingStart_last]
    norm_num [interventionClearanceM, Floating.lit, Floating.min]
  have hbelow : (1 : ℚ) / 100 - ((0 + 1 : ℕ) : ℚ) / 2000000 < interventionClearanceM := by
    norm_num [interventionClearanceM, Floating.lit]
  exact ⟨_, c', .single hstep, hbelow,
    Controller.keepout_bound closingLibrary_gate ⟨_, _, rfl⟩ rfl
      (.single (T := (Controller.watch closingLibrary).restrict fun now sample _ =>
        Controller.LosesOnce closingStart.lastClearanceM now.lastClearanceM sample)
        ⟨hstep, hstart⟩) _ (List.mem_singleton_self _) hbelow⟩

/-- **The monitor ratchets**: for every number of cycles there is a run that
    loses half a micrometre in each. -/
theorem closing_run (n : Nat) : ∃ samples c, samples.length = n ∧
    (Controller.watch closingLibrary).Run closingStart samples c ∧
      c.lastClearanceM = 1 / 100 - (n : ℚ) / 2000000 ∧
      (∀ last ∈ samples.getLast?, last = c.lastClearanceM) ∧
      c.executing = closingStart.executing := by
  induction n with
  | zero =>
    refine ⟨[], closingStart, rfl, .nil _, ?_, ?_, rfl⟩
    · rw [closingStart_last]
      norm_num
    · intro last hmem
      exact absurd hmem (by simp)
  | succ n ih =>
    obtain ⟨samples, c, hlength, hrun, hlast, -, hplan⟩ := ih
    obtain ⟨c', hstep, hplan', hlast'⟩ := closing_step hplan hlast
    refine ⟨samples ++ [_], c', by simp [hlength], hrun.snoc hstep, hlast', ?_, hplan'⟩
    intro last hmem
    rw [List.getLast?_concat] at hmem
    rw [hlast', ← Option.some.inj hmem]

/-- Three cycles, and a clearance below the bound. -/
theorem keepout_ratchets :
    ¬ ∀ (L : ModelLibrary ℚ) (c c' : Controller ℚ) (samples : List ℚ),
      Controller.GateHolds L → (Controller.watch L).init c →
        Floating.isFinite c.lastClearanceM = true → (Controller.watch L).Run c samples c' →
          ∀ sample ∈ samples, sample < interventionClearanceM →
            Floating.min interventionClearanceM c.lastClearanceM -
              Controller.kClearanceWorseningEpsilon ≤ sample := by
  intro h
  obtain ⟨samples, c', hlength, hrun, hlast, hsample, -⟩ := closing_run 3
  have hmem : c'.lastClearanceM ∈ samples := by
    obtain ⟨first, rest, rfl⟩ := List.exists_cons_of_length_pos (by omega : 0 < samples.length)
    have hlastSample := hsample _ (List.getLast?_eq_getLast_of_ne_nil (List.cons_ne_nil _ _))
    rw [← hlastSample]
    exact List.getLast_mem _
  have hbound := h closingLibrary closingStart c' samples closingLibrary_gate ⟨_, _, rfl⟩ rfl hrun
    _ hmem
  rw [hlast, closingStart_last] at hbound
  norm_num [interventionClearanceM, Controller.kClearanceWorseningEpsilon, Floating.lit,
    Floating.min] at hbound

end OpenArm.Control
