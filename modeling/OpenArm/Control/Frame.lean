/-
  OpenArm.Control.Frame — the registers a control cycle never writes.

  `frame` collects them.  The private bodies and every stage of a cycle leave
  the frame as it was; each public operation is then described by the frame
  registers it does write.

  Main results:
    * `frame_runCycle` — a cycle past its clock check keeps the frame.
    * `estopLatched_call` — the E-stop edge detector is written by the
      Cartesian planners and by `advance` only.
    * `nextCommandId_call` — a command id is taken by an accepted execute only.
-/
import OpenArm.Control.Operations

namespace OpenArm.Control

open OpenArm.Lib

variable {F : Type} [Floating F]

/-- The registers no control cycle writes. -/
structure Frame (F : Type) where
  manifest : ManifestConfig F
  options : ControllerOptions
  instanceId : Nat
  nowNs : Nat
  verifyEpoch : Nat
  outstandingChallengeExpiry : Nat
  nextCommandId : Nat
  commandStartNs : Nat
  commandExpiryNs : Nat
  producerDeadlineNs : Nat
  deadmanActive : Bool
  estopLatched : Bool
  simContact : Side → SimContact F

namespace Controller

/-- The frame registers of a controller. -/
def frame (c : Controller F) : Frame F where
  manifest := c.manifest
  options := c.options
  instanceId := c.instanceId
  nowNs := c.nowNs
  verifyEpoch := c.verifyEpoch
  outstandingChallengeExpiry := c.outstandingChallengeExpiry
  nextCommandId := c.nextCommandId
  commandStartNs := c.commandStartNs
  commandExpiryNs := c.commandExpiryNs
  producerDeadlineNs := c.producerDeadlineNs
  deadmanActive := c.deadmanActive
  estopLatched := c.estopLatched
  simContact := c.simContact

/-! ## §1. The private bodies. -/

theorem frame_publish (c : Controller F) (kind : EventKind) (cause : ControlStatus) (id : Nat) :
    (c.publish kind cause id).1.frame = c.frame := by
  simp only [publish]
  split <;> rfl

theorem frame_publishReturning (c : Controller F) (kind : EventKind)
    (cause status : ControlStatus) (id : Nat) :
    (c.publishReturning kind cause id status).1.frame = c.frame :=
  c.frame_publish kind cause id

theorem frame_latchFault (c : Controller F) (cause : ControlStatus) (available : Bool) :
    (c.latchFault cause available).1.frame = c.frame :=
  frame_publishReturning _ _ _ _ _

theorem frame_setInterlock (c : Controller F) (estop deadman : Bool) :
    (c.setInterlock estop deadman).1.frame = { c.frame with deadmanActive := deadman } := by
  unfold setInterlock
  dsimp only
  split
  · refine (frame_publishReturning _ _ _ _ _).trans ?_
    split <;> rfl
  · rfl

/-! ## §2. The stages of a cycle. -/

/-- Every exit of a stage kept the frame. -/
def KeepsFrame {α : Type} (c : Controller F) (next : α → Controller F) :
    Except (Exit F) α → Prop
  | .error exit => exit.1.frame = c.frame
  | .ok x => (next x).frame = c.frame

theorem frame_cycleWatchdogs (c : Controller F) (previousNs : Nat) :
    KeepsFrame c (fun _ => c) (c.cycleWatchdogs previousNs) := by
  unfold cycleWatchdogs
  split
  · split
    · exact c.frame_latchFault _ _
    split
    · exact c.frame_latchFault _ _
    split
    · exact c.frame_latchFault _ _
    · rfl
  · rfl

theorem frame_commandWatchdogs (c : Controller F) :
    KeepsFrame c (fun _ => c) c.commandWatchdogs := by
  unfold commandWatchdogs
  split
  · exact c.frame_latchFault _ _
  split
  · exact c.frame_latchFault _ _
  split
  · exact c.frame_latchFault _ _
  · rfl

theorem frame_startQueued (c : Controller F) (plan : MotionPlan F) :
    KeepsFrame c id (c.startQueued plan) := by
  unfold startQueued
  split
  · split
    · exact c.frame_latchFault _ _
    · dsimp only
      split
      · exact frame_publish _ _ _ _
      · exact frame_publish _ _ _ _
  · rfl

theorem frame_commandReference (c : Controller F) :
    KeepsFrame c Prod.fst c.commandReference := by
  unfold commandReference
  split
  · have hwatch := c.frame_commandWatchdogs
    split
    · rename_i heq
      rw [heq] at hwatch
      exact hwatch
    · split
      · rfl
      · rename_i plan _
        have hqueued := c.frame_startQueued plan
        split
        · rename_i heq
          rw [heq] at hqueued
          exact hqueued
        · rename_i heq
          rw [heq] at hqueued
          exact hqueued
  · rfl

theorem frame_stepArm (c : Controller F) (reference : Reference F) (dtS : F) (side : Side) :
    KeepsFrame c id (c.stepArm reference dtS side) := by
  unfold stepArm
  dsimp only
  split
  · rfl
  · exact frame_latchFault _ _ _

theorem frame_stepPlant (c : Controller F) (L : ModelLibrary F) (reference : Reference F)
    (previousNs : Nat) : KeepsFrame c id (c.stepPlant L reference previousNs) := by
  unfold stepPlant
  dsimp only
  have hleft := (c.applySimContact L).frame_stepArm reference
    (Floating.ofNat (c.nowNs - previousNs) * Floating.lit 1.0e-9) 0
  split
  · rename_i heq
    rw [heq] at hleft
    exact hleft
  · rename_i left heq
    rw [heq] at hleft
    have hright := left.frame_stepArm reference
      (Floating.ofNat (c.nowNs - previousNs) * Floating.lit 1.0e-9) 1
    have hbase : left.frame = c.frame := hleft
    unfold KeepsFrame at hright ⊢
    rw [← hbase]
    exact hright

theorem frame_feedbackWatchdogs (c : Controller F) :
    KeepsFrame c (fun _ => c) c.feedbackWatchdogs := by
  unfold feedbackWatchdogs
  dsimp only
  split
  · exact c.frame_latchFault _ _
  split
  · exact c.frame_latchFault _ _
  split
  · exact c.frame_latchFault _ _
  · rfl

theorem frame_monitorKeepout (c : Controller F) (L : ModelLibrary F) :
    (c.monitorKeepout L).1.frame = c.frame := by
  unfold monitorKeepout
  dsimp only
  split
  · split <;> rfl
  · split <;> rfl

theorem frame_monitorContact (c : Controller F) (L : ModelLibrary F) :
    (c.monitorContact L).1.frame = c.frame := by
  unfold monitorContact
  split
  · rfl
  split
  · rfl
  dsimp only
  split
  · rfl
  · split <;> rfl

theorem frame_completeOnContact (c : Controller F) : c.completeOnContact.1.frame = c.frame :=
  frame_publishReturning _ _ _ _ _

theorem frame_monitors (c : Controller F) (L : ModelLibrary F) :
    KeepsFrame c id (c.monitors L) := by
  unfold monitors
  split
  · dsimp only
    split
    · exact (frame_completeOnContact _).trans (c.frame_monitorContact L)
    split
    · exact (frame_completeOnContact _).trans
        ((frame_monitorKeepout _ L).trans (c.frame_monitorContact L))
    · exact (frame_monitorKeepout _ L).trans (c.frame_monitorContact L)
  · rfl

theorem frame_publishSettling (c : Controller F) : KeepsFrame c id c.publishSettling := by
  unfold publishSettling
  split
  · rfl
  · dsimp only
    split
    · exact c.frame_publish .settling .ok c.commandId
    · exact c.frame_publish .settling .ok c.commandId

omit [Floating F] in
theorem frame_countSettle (c : Controller F) : c.countSettle.frame = c.frame := by
  unfold countSettle
  dsimp only
  split
  · rfl
  · split <;> rfl

theorem frame_settle (c : Controller F) (L : ModelLibrary F) :
    (c.settle L).1.frame = c.frame := by
  unfold settle
  split
  · rfl
  split
  · have hpub := c.frame_publishSettling
    split
    · rename_i heq
      rw [heq] at hpub
      exact hpub
    · rename_i c' heq
      rw [heq] at hpub
      have hbase : c'.frame = c.frame := hpub
      split
      · dsimp only
        split
        · exact (frame_publishReturning _ _ _ _ _).trans ((frame_countSettle c').trans hbase)
        · exact (frame_countSettle c').trans hbase
      · exact hbase
  · rfl

/-- **A cycle keeps the frame**, on every one of its exits. -/
theorem frame_runCycle (c : Controller F) (L : ModelLibrary F) (previousNs : Nat) :
    (c.runCycle L previousNs).1.frame = c.frame := by
  unfold runCycle
  have hwatch := c.frame_cycleWatchdogs previousNs
  split
  · rename_i heq
    rw [heq] at hwatch
    exact hwatch
  have href := c.frame_commandReference
  split
  · rename_i heq
    rw [heq] at href
    exact href
  rename_i referenced reference heq
  rw [heq] at href
  have hreferenced : referenced.frame = c.frame := href
  have hplant := referenced.frame_stepPlant L reference previousNs
  split
  · rename_i hexit
    rw [hexit] at hplant
    exact Eq.trans hplant hreferenced
  rename_i stepped hstep
  rw [hstep] at hplant
  have hstepped : stepped.frame = c.frame := Eq.trans hplant hreferenced
  have hfeedback := stepped.frame_feedbackWatchdogs
  split
  · rename_i hexit
    rw [hexit] at hfeedback
    exact Eq.trans hfeedback hstepped
  have hmonitor := stepped.frame_monitors L
  split
  · rename_i hexit
    rw [hexit] at hmonitor
    exact Eq.trans hmonitor hstepped
  · rename_i monitored hok
    rw [hok] at hmonitor
    exact (monitored.frame_settle L).trans (Eq.trans hmonitor hstepped)

/-! ## §3. The public operations. -/

theorem frame_advance (c : Controller F) (L : ModelLibrary F) (monotonicNs : Nat) :
    (c.advance L false monotonicNs).1.frame =
      { c.frame with
        estopLatched := false
        nowNs := max c.nowNs monotonicNs } := by
  simp only [advance, Bool.false_eq_true, if_false]
  split
  · rename_i hlt
    rw [Nat.max_eq_left (Nat.le_of_lt hlt)]
    rfl
  rename_i hge
  rw [Nat.max_eq_right (Nat.not_lt.mp hge)]
  split
  · rename_i heq
    rw [heq]
    rfl
  · split
    · exact frame_runCycle _ _ _
    · rfl

theorem frame_advanceEstop (c : Controller F) (monotonicNs : Nat) :
    (c.advanceEstop monotonicNs).1.frame =
      { c.frame with
        estopLatched := true
        nowNs := max c.nowNs monotonicNs } := by
  have hnow : (if c.nowNs ≤ monotonicNs then monotonicNs else c.nowNs)
      = max c.nowNs monotonicNs := by
    split <;> omega
  unfold advanceEstop
  rw [hnow]
  dsimp only
  cases hlatched : c.estopLatched with
  | false =>
    rw [Bool.not_false, if_pos rfl, frame_setInterlock]
    rfl
  | true => simp only [Bool.not_true, Bool.false_eq_true, if_false, frame, hlatched]

theorem frame_openAndVerify (c : Controller F) :
    ∃ epoch, c.openAndVerify.1.frame = { c.frame with verifyEpoch := epoch } := by
  unfold openAndVerify
  split
  · exact ⟨c.verifyEpoch, rfl⟩
  split
  · exact ⟨c.verifyEpoch, rfl⟩
  · exact ⟨_, frame_publishReturning _ .verified .ok .ok 0⟩

theorem frame_challenge (c : Controller F) :
    ∃ expiry, c.challenge.1.frame = { c.frame with outstandingChallengeExpiry := expiry } := by
  unfold challenge
  dsimp only
  split
  · exact ⟨c.outstandingChallengeExpiry, rfl⟩
  split
  · split
    · exact ⟨c.outstandingChallengeExpiry, c.frame_latchFault _ _⟩
    · exact ⟨c.outstandingChallengeExpiry, rfl⟩
  · exact ⟨_, rfl⟩

theorem frame_armWith (c : Controller F) (challenge : ArmChallenge) :
    (c.armWith challenge).1.frame = c.frame := by
  unfold armWith
  split
  · rfl
  split
  · rfl
  split
  · rfl
  split
  · exact c.frame_latchFault _ _
  · exact frame_publishReturning _ _ _ _ _

theorem frame_planJoint (c : Controller F) (request : JointMove F) :
    (c.planJoint request).1.frame = c.frame := by
  unfold planJoint
  split
  · rfl
  split
  · rfl
  split
  · exact c.frame_latchFault _ _
  split
  · rfl
  split
  · rfl
  split
  · split
    · rfl
    split <;> rfl
  · rfl

theorem planCartesian_state (c : Controller F) (latch : Bool)
    (body : Except ControlStatus (MotionPlan F)) :
    (c.planCartesian latch body).1 = (c.planPreconditions latch).1 := by
  unfold planCartesian
  dsimp only
  split <;> rfl

/-- The Cartesian planners set the edge detector under an asserted latch, and
    write no other frame register. -/
theorem frame_planCartesian (c : Controller F) (latch : Bool)
    (body : Except ControlStatus (MotionPlan F)) :
    (c.planCartesian latch body).1.frame =
      { c.frame with estopLatched := latch || c.estopLatched } := by
  rw [planCartesian_state]
  unfold planPreconditions
  cases latch with
  | true => rfl
  | false =>
    simp only [Bool.false_eq_true, if_false, Bool.false_or]
    split
    · rfl
    split
    · rfl
    split
    · exact c.frame_latchFault _ _
    split <;> rfl

/-- `execute` passes every one of its checks on this plan and request. -/
def acceptsExecute (c : Controller F) (plan : MotionPlan F) (request : ExecuteRequest) : Bool :=
  decide (c.lifecycle = .armedIdle) && c.fresh && c.healthy &&
    decide (plan.controllerInstance = c.instanceId) &&
    decide (plan.verifyEpoch = c.verifyEpoch) && !c.planStale plan &&
    !c.executeInvalid plan request

theorem acceptsExecute_armed {c : Controller F} {plan : MotionPlan F}
    {request : ExecuteRequest} (h : c.acceptsExecute plan request = true) :
    c.lifecycle = .armedIdle := by
  simp only [acceptsExecute, Bool.and_eq_true, decide_eq_true_eq] at h
  exact h.1.1.1.1.1.1

/-- An accepted execute starts its command. -/
theorem execute_of_accepts (c : Controller F) (L : ModelLibrary F) (plan : MotionPlan F)
    (request : ExecuteRequest) (h : c.acceptsExecute plan request = true) :
    c.execute L plan request =
      (c.startCommand L plan request).publishReturning
        (if (c.startCommand L plan request).commandStarted then .started else .queued) .ok
        c.nextCommandId .ok := by
  simp only [acceptsExecute, Bool.and_eq_true, decide_eq_true_eq, Bool.not_eq_true'] at h
  obtain ⟨⟨⟨⟨⟨⟨hlife, hfresh⟩, hhealthy⟩, hinstance⟩, hepoch⟩, hstale⟩, hvalid⟩ := h
  simp only [execute, hlife, hfresh, hhealthy, hinstance, hepoch, hstale, hvalid, ne_eq,
    not_true_eq_false, if_false, Bool.not_true, Bool.false_eq_true, or_self]
  rfl

theorem frame_execute_of_accepts (c : Controller F) (L : ModelLibrary F) (plan : MotionPlan F)
    (request : ExecuteRequest) (h : c.acceptsExecute plan request = true) :
    (c.execute L plan request).1.frame = (c.startCommand L plan request).frame := by
  rw [c.execute_of_accepts L plan request h]
  exact frame_publishReturning _ _ .ok .ok c.nextCommandId

/-- A refused execute changes nothing, or latches a motor fault. -/
theorem execute_of_refused (c : Controller F) (L : ModelLibrary F) (plan : MotionPlan F)
    (request : ExecuteRequest) (h : c.acceptsExecute plan request = false) :
    (c.execute L plan request).1 = c ∨
      (c.execute L plan request).1 = (c.latchFault .efault false).1 := by
  unfold execute
  split
  · exact .inl rfl
  split
  · exact .inl rfl
  split
  · exact .inr rfl
  split
  · exact .inl rfl
  split
  · exact .inl rfl
  split
  · exact .inl rfl
  · rename_i hlife hfresh hhealthy hidentity hstale hvalid
    push Not at hlife hidentity
    simp only [Bool.not_eq_true', Bool.not_eq_false] at hfresh hhealthy
    simp [acceptsExecute, hlife, hidentity, hstale, hvalid, hfresh, hhealthy] at h

/-- A refused execute writes no frame register. -/
theorem frame_execute_of_refused (c : Controller F) (L : ModelLibrary F) (plan : MotionPlan F)
    (request : ExecuteRequest) (h : c.acceptsExecute plan request = false) :
    (c.execute L plan request).1.frame = c.frame := by
  rcases c.execute_of_refused L plan request h with heq | heq
  · rw [heq]
  · rw [heq, frame_latchFault]

theorem frame_setSimFault (c : Controller F) (fault : SimFault) :
    (c.setSimFault fault).1.frame = c.frame := by
  unfold setSimFault
  split
  · rfl
  split
  · rfl
  split <;> rfl

theorem frame_setSimState (c : Controller F) (state : SimState F) :
    (c.setSimState state).1.frame = c.frame := by
  unfold setSimState
  split
  · rfl
  split
  · rfl
  dsimp only
  split <;> rfl

theorem frame_setSimContact (c : Controller F) (contact : SimContact F) :
    ∃ stored, (c.setSimContact contact).1.frame = { c.frame with simContact := stored } := by
  unfold setSimContact
  split
  · exact ⟨c.simContact, rfl⟩
  split
  · exact ⟨c.simContact, rfl⟩
  split
  · exact ⟨c.simContact, rfl⟩
  dsimp only
  split <;> exact ⟨_, rfl⟩

theorem frame_heartbeat (c : Controller F) (id deadline : Nat) :
    ∃ accepted, (c.heartbeat id deadline).1.frame =
      { c.frame with producerDeadlineNs := accepted } := by
  unfold heartbeat
  split
  · exact ⟨c.producerDeadlineNs, rfl⟩
  split
  · exact ⟨c.producerDeadlineNs, c.frame_latchFault _ _⟩
  · exact ⟨deadline, rfl⟩

omit [Floating F] in
theorem frame_setCollisionSceneRevision (c : Controller F) (revision : Nat) :
    ∃ options, (c.setCollisionSceneRevision revision).1.frame =
      { c.frame with options := options } := by
  unfold setCollisionSceneRevision
  split
  · exact ⟨c.options, rfl⟩
  split
  · exact ⟨c.options, rfl⟩
  split
  · exact ⟨c.options, rfl⟩
  · exact ⟨_, rfl⟩

theorem frame_finishStop (c : Controller F) (kind : StopKind) (id : Nat) :
    (c.finishStop kind id).1.frame = c.frame := by
  unfold finishStop
  dsimp only
  split
  · exact frame_publishReturning _ .stopped .ok .ok id
  · exact frame_publishReturning _ .stopped .ok .ok id

theorem frame_stop (c : Controller F) (kind : StopKind) : (c.stop kind).1.frame = c.frame := by
  unfold stop
  split
  · rfl
  split
  · rfl
  dsimp only
  have hpub := frame_publish ({ c with lifecycle := .stopping } : Controller F) .aborted .ok
    c.commandId
  split
  · split
    · exact (frame_finishStop _ _ _).trans hpub
    · exact hpub
  · exact frame_finishStop _ _ _

theorem frame_disarm (c : Controller F) (deadline : Nat) :
    (c.disarm deadline).1.frame = c.frame := by
  unfold disarm
  split
  · rfl
  split
  · rfl
  · exact frame_publishReturning _ .disarmed .ok .ok 0

omit [Floating F] in
theorem frame_reset (c : Controller F) (request : ResetRequest) :
    ∃ epoch, (c.reset request).1.frame = { c.frame with verifyEpoch := epoch } := by
  unfold reset
  split
  · exact ⟨c.verifyEpoch, rfl⟩
  split
  · exact ⟨c.verifyEpoch, rfl⟩
  · exact ⟨_, rfl⟩

omit [Floating F] in
theorem frame_pollEvent (c : Controller F) : c.pollEvent.1.frame = c.frame := by
  unfold pollEvent
  split <;> rfl

end Controller

/-! ## §4. Who writes the edge detector, and who takes a command id. -/

/-- The Cartesian planners: the planners that sample the E-stop latch. -/
def Op.cartesian : Op F → Bool
  | .planPaired _ | .planCentroid _ | .planMirrored _ | .planConverge _ => true
  | _ => false

/-- The call is an execute that passes its checks. -/
def Controller.starts (c : Controller F) : Op F → Bool
  | .execute plan request => c.acceptsExecute plan request
  | _ => false

/-- The registers that only a cycle, a planner or an execute writes, and the
    producer deadline, which a heartbeat writes too. -/
structure Frame.Quiet (op : Op F) (f g : Frame F) : Prop where
  estopLatched : f.estopLatched = g.estopLatched
  nextCommandId : f.nextCommandId = g.nextCommandId
  nowNs : f.nowNs = g.nowNs
  commandExpiryNs : f.commandExpiryNs = g.commandExpiryNs
  producerDeadlineNs : (∀ id deadline, op ≠ .heartbeat id deadline) →
    f.producerDeadlineNs = g.producerDeadlineNs

/-- A call that is neither a cycle nor a Cartesian planner nor an accepted
    execute is quiet. -/
theorem frame_call_quiet (L : ModelLibrary F) (w : World F) (op : Op F)
    (hstart : w.controller.starts op = false) (hcartesian : op.cartesian = false)
    (hadvance : ∀ t, op ≠ .advance t) :
    Frame.Quiet op (call L w op).1.controller.frame w.controller.frame := by
  -- each operation gives one equation between the frames before and after
  have hread : ∀ f g : Frame F, f = g → g.estopLatched = w.controller.estopLatched →
      g.nextCommandId = w.controller.nextCommandId → g.nowNs = w.controller.nowNs →
      g.commandExpiryNs = w.controller.commandExpiryNs →
      ((∀ id deadline, op ≠ .heartbeat id deadline) →
        g.producerDeadlineNs = w.controller.producerDeadlineNs) →
      Frame.Quiet op f w.controller.frame := by
    rintro f g rfl hlatched hid hnow hexpiry hproducer
    exact ⟨hlatched, hid, hnow, hexpiry, hproducer⟩
  cases op with
  | openAndVerify =>
    exact hread _ _ w.controller.frame_openAndVerify.choose_spec rfl rfl rfl rfl fun _ => rfl
  | snapshot => exact hread _ _ rfl rfl rfl rfl rfl fun _ => rfl
  | kinematics side seq => exact hread _ _ rfl rfl rfl rfl rfl fun _ => rfl
  | challenge =>
    exact hread _ _ w.controller.frame_challenge.choose_spec rfl rfl rfl rfl fun _ => rfl
  | arm challenge =>
    exact hread _ _ (w.controller.frame_armWith challenge) rfl rfl rfl rfl fun _ => rfl
  | planJoint request =>
    exact hread _ _ (w.controller.frame_planJoint request) rfl rfl rfl rfl fun _ => rfl
  | planPaired request => cases hcartesian
  | planCentroid request => cases hcartesian
  | planMirrored request => cases hcartesian
  | planConverge request => cases hcartesian
  | contactReport => exact hread _ _ rfl rfl rfl rfl rfl fun _ => rfl
  | setSimContact contact =>
    exact hread _ _ (w.controller.frame_setSimContact contact).choose_spec rfl rfl rfl rfl
      fun _ => rfl
  | execute plan request =>
    exact hread _ _ (w.controller.frame_execute_of_refused L plan request hstart) rfl rfl rfl rfl
      fun _ => rfl
  | advance t => exact absurd rfl (hadvance t)
  | setSimFault fault =>
    exact hread _ _ (w.controller.frame_setSimFault fault) rfl rfl rfl rfl fun _ => rfl
  | setSimState state =>
    exact hread _ _ (w.controller.frame_setSimState state) rfl rfl rfl rfl fun _ => rfl
  | heartbeat id deadline =>
    exact hread _ _ (w.controller.frame_heartbeat id deadline).choose_spec rfl rfl rfl rfl
      fun hno => absurd rfl (hno id deadline)
  | setInterlock estop deadman =>
    exact hread _ _ (w.controller.frame_setInterlock estop deadman) rfl rfl rfl rfl fun _ => rfl
  | setCollisionSceneRevision revision =>
    exact hread _ _ (w.controller.frame_setCollisionSceneRevision revision).choose_spec rfl rfl
      rfl rfl fun _ => rfl
  | stop kind => exact hread _ _ (w.controller.frame_stop kind) rfl rfl rfl rfl fun _ => rfl
  | disarm deadline =>
    exact hread _ _ (w.controller.frame_disarm deadline) rfl rfl rfl rfl fun _ => rfl
  | reset request =>
    exact hread _ _ (w.controller.frame_reset request).choose_spec rfl rfl rfl rfl fun _ => rfl
  | pollEvent => exact hread _ _ w.controller.frame_pollEvent rfl rfl rfl rfl fun _ => rfl
  | estopAssert => exact hread _ _ rfl rfl rfl rfl rfl fun _ => rfl
  | estopClear => exact hread _ _ rfl rfl rfl rfl rfl fun _ => rfl

/-- A Cartesian planner sets the edge detector under an asserted latch. -/
theorem frame_call_cartesian (L : ModelLibrary F) (w : World F) (op : Op F)
    (h : op.cartesian = true) :
    (call L w op).1.controller.frame =
      { w.controller.frame with estopLatched := w.latch || w.controller.estopLatched } := by
  cases op with
  | planPaired request => exact w.controller.frame_planCartesian _ _
  | planCentroid request => exact w.controller.frame_planCartesian _ _
  | planMirrored request => exact w.controller.frame_planCartesian _ _
  | planConverge request => exact w.controller.frame_planCartesian _ _
  | _ => cases h

/-- A cycle leaves the edge detector equal to the latch it sampled. -/
theorem frame_call_advance (L : ModelLibrary F) (w : World F) (monotonicNs : Nat) :
    (call L w (.advance monotonicNs)).1.controller.frame =
      { w.controller.frame with
        estopLatched := w.latch
        nowNs := max w.controller.nowNs monotonicNs } := by
  show (w.controller.advance L w.latch monotonicNs).1.frame = _
  cases w.latch with
  | true => exact w.controller.frame_advanceEstop monotonicNs
  | false => exact w.controller.frame_advance L monotonicNs

/-- **A command id is taken by an accepted execute only.** -/
theorem nextCommandId_call (L : ModelLibrary F) (w : World F) (op : Op F) :
    (call L w op).1.controller.nextCommandId =
      if w.controller.starts op then wrap64 (w.controller.nextCommandId + 1)
      else w.controller.nextCommandId := by
  cases hstart : w.controller.starts op with
  | true =>
    cases op with
    | execute plan request =>
      exact congrArg Frame.nextCommandId
        (w.controller.frame_execute_of_accepts L plan request hstart)
    | _ => cases hstart
  | false =>
    rw [if_neg Bool.false_ne_true]
    cases hcartesian : op.cartesian with
    | true => exact congrArg Frame.nextCommandId (frame_call_cartesian L w op hcartesian)
    | false =>
      by_cases hadvance : ∃ t, op = .advance t
      · obtain ⟨t, rfl⟩ := hadvance
        exact congrArg Frame.nextCommandId (frame_call_advance L w t)
      · exact (frame_call_quiet L w op hstart hcartesian fun t ht => hadvance ⟨t, ht⟩).nextCommandId

/-- **The edge detector is written by `advance` and by the Cartesian planners
    only.** -/
theorem estopLatched_call (L : ModelLibrary F) (w : World F) (op : Op F)
    (hcartesian : op.cartesian = false) (hadvance : ∀ t, op ≠ .advance t) :
    (call L w op).1.controller.estopLatched = w.controller.estopLatched := by
  cases hstart : w.controller.starts op with
  | true =>
    cases op with
    | execute plan request =>
      exact congrArg Frame.estopLatched
        (w.controller.frame_execute_of_accepts L plan request hstart)
    | _ => cases hstart
  | false => exact (frame_call_quiet L w op hstart hcartesian hadvance).estopLatched

/-- The clock never goes back. -/
theorem nowNs_call_le (L : ModelLibrary F) (w : World F) (op : Op F) :
    w.controller.nowNs ≤ (call L w op).1.controller.nowNs := by
  by_cases hadvance : ∃ t, op = .advance t
  · obtain ⟨t, rfl⟩ := hadvance
    have hnow := congrArg Frame.nowNs (frame_call_advance L w t)
    exact Nat.le_trans (Nat.le_max_left _ t) (Nat.le_of_eq hnow.symm)
  refine Nat.le_of_eq (Eq.symm ?_)
  cases hstart : w.controller.starts op with
  | true =>
    cases op with
    | execute plan request =>
      exact congrArg Frame.nowNs (w.controller.frame_execute_of_accepts L plan request hstart)
    | _ => cases hstart
  | false =>
    cases hcartesian : op.cartesian with
    | true => exact congrArg Frame.nowNs (frame_call_cartesian L w op hcartesian)
    | false => exact (frame_call_quiet L w op hstart hcartesian fun t ht => hadvance ⟨t, ht⟩).nowNs

end OpenArm.Control
