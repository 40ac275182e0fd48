/-
  OpenArm.Control.Refinement — every public operation is one move of
  authority.

  `call_refines` is the simulation: whatever authority a controller
  represents, a call leaves it representing an authority that one abstract
  move reaches, and the moves that give or keep power (`arm`, `start`,
  `watchdog`) carry the evidence of the call that made them.
-/
import OpenArm.Control.CycleEffect
import OpenArm.Control.Frame

namespace OpenArm.Control

open OpenArm.Lib

variable {F : Type} [Floating F]

/-! ## §1. Evidence. -/

/-- The state a cycle at `monotonicNs` samples its feedback in. -/
def Controller.sampledAt (c : Controller F) (monotonicNs : Nat) : Controller F :=
  { c with estopLatched := false, nowNs := monotonicNs }

/-- A watchdog fault on fresh, fault-free feedback: a cycle past one of its
    limits, or a heartbeat with a deadline already over. -/
def WatchdogFault (w : World F) : Op F → Prop
  | .advance monotonicNs =>
    w.latch = false ∧ w.controller.nowNs < monotonicNs ∧
      (w.controller.sampledAt monotonicNs).fresh = true ∧
      (w.controller.sampledAt monotonicNs).healthy = true ∧
      (w.controller.sampledAt monotonicNs).WatchdogExpired w.controller.nowNs
  | .heartbeat commandId producerDeadlineNs =>
    commandId = w.controller.commandId ∧ producerDeadlineNs ≤ w.controller.nowNs ∧
      w.controller.fresh = true ∧ w.controller.healthy = true
  | _ => False

/-- What a call shows for the move of authority it made. -/
def Evidence (w : World F) (e : Label F) : Cause → Authority → Prop
  | .arm, _ => (∃ challenge, e.1 = .arm challenge) ∧ e.2.status = .ok
  | .start, a' => ∃ plan request, e.1 = .execute plan request ∧ e.2.status = .ok ∧
      w.controller.acceptsExecute plan request = true ∧
      a' = .moving w.controller.nextCommandId request.stopKind
  | .watchdog, _ => WatchdogFault w e.1
  | _, _ => True

/-- The call `e` moved authority from `a` to one the controller `c'`
    represents. -/
def Moves (w : World F) (e : Label F) (a : Authority) (c' : Controller F) : Prop :=
  ∃ cause a', Authority.Step a cause a' ∧ Represents c'.core a' ∧ Evidence w e cause a'

namespace Moves

variable {w : World F} {e : Label F} {a : Authority} {c' : Controller F}

theorem quiet (h : Represents w.controller.core a) (hcore : c'.core = w.controller.core) :
    Moves w e a c' :=
  ⟨.quiet, a, .quiet a, by rw [hcore]; exact h, trivial⟩

theorem released (h : c'.Released) : Moves w e a c' := by
  obtain ⟨r, hr⟩ := h
  exact ⟨.release, .off r, .release a r, hr, trivial⟩

/-- A command that ended goes back to armed idle. -/
theorem finished (h : Represents w.controller.core a)
    (hexec : w.controller.lifecycle = .executing) (hidle : Represents c'.core .idle) :
    Moves w e a c' := by
  obtain rfl := h.eq_moving hexec
  exact ⟨.finish, .idle, .finish _ _, hidle, trivial⟩

/-- A controlled stop after a watchdog fault holds. -/
theorem held (h : Represents w.controller.core a)
    (hstop : w.controller.executing.isSome = true ∧ w.controller.activeStopKind = .controlled)
    (hfault : WatchdogFault w e.1) (hhold : Represents c'.core .holding) :
    Moves w e a c' := by
  obtain rfl := h.eq_moving_of_isSome hstop.1
  refine ⟨.watchdog, .holding, ?_, hhold, hfault⟩
  have hkind : w.controller.core.activeStopKind = .controlled := hstop.2
  rw [hkind]
  exact .watchdog _

/-- A latched fault of the current state. -/
theorem fault (cause : ControlStatus) : Moves w e a (w.controller.latchFault cause false).1 :=
  released (w.controller.latchFault_released cause)

/-- A publish after a release. -/
theorem publish_released {c : Controller F} (kind : EventKind) (cause status : ControlStatus)
    (id : Nat) {r : Rest} (h : Represents c.core (.off r)) :
    Moves w e a (c.publishReturning kind cause id status).1 :=
  released (c.publishReturning_released kind cause status id h)

end Moves

/-! ## §2. Verification, arming and planning. -/

namespace Controller

variable (w : World F) (e : Label F) {a : Authority}

theorem openAndVerify_moves (h : Represents w.controller.core a) :
    Moves w e a w.controller.openAndVerify.1 := by
  unfold openAndVerify
  split
  · exact .quiet h rfl
  rename_i hclosed
  split
  · exact .quiet h rfl
  refine .publish_released .verified .ok .ok 0 (r := .disarmed) ?_
  have hrest : w.controller.core.executing = none ∧ w.controller.core.commandId = 0 :=
    h.no_command (by simpa [core] using fun hx => hclosed (by simp [hx]))
  exact .off .disarmed rfl hrest.1 hrest.2 fun _ _ => rfl

theorem challenge_moves (h : Represents w.controller.core a) :
    Moves w e a w.controller.challenge.1 := by
  unfold challenge
  dsimp only
  split
  · exact .quiet h rfl
  split
  · split
    · exact .fault _
    · exact .quiet h rfl
  · exact .quiet h rfl

theorem planJoint_moves (h : Represents w.controller.core a) (request : JointMove F) :
    Moves w e a (w.controller.planJoint request).1 := by
  unfold planJoint
  split
  · exact .quiet h rfl
  split
  · exact .quiet h rfl
  split
  · exact .fault _
  split
  · exact .quiet h rfl
  split
  · exact .quiet h rfl
  split
  · split
    · exact .quiet h rfl
    split
    · exact .quiet h rfl
    · exact .quiet h rfl
  · exact .quiet h rfl

theorem planPreconditions_moves (h : Represents w.controller.core a) (latch : Bool) :
    Moves w e a (w.controller.planPreconditions latch).1 := by
  unfold planPreconditions
  split
  · exact .quiet h rfl
  split
  · exact .quiet h rfl
  split
  · exact .quiet h rfl
  split
  · exact .fault _
  split
  · exact .quiet h rfl
  · exact .quiet h rfl

theorem planCartesian_moves (h : Represents w.controller.core a) (latch : Bool)
    (body : Except ControlStatus (MotionPlan F)) :
    Moves w e a (w.controller.planCartesian latch body).1 := by
  rw [planCartesian_state]
  exact planPreconditions_moves w e h latch

/-! ## §3. Simulation inputs and supervision. -/

theorem setSimFault_moves (h : Represents w.controller.core a) (fault : SimFault) :
    Moves w e a (w.controller.setSimFault fault).1 := by
  unfold setSimFault
  split
  · exact .quiet h rfl
  split
  · exact .quiet h rfl
  rename_i side _
  split
  · exact .quiet h rfl
  dsimp only
  refine .quiet h (core_updateArm w.controller side _ fun joint => ?_)
  split <;> rfl

theorem setSimState_moves (h : Represents w.controller.core a) (state : SimState F) :
    Moves w e a (w.controller.setSimState state).1 := by
  unfold setSimState
  split
  · exact .quiet h rfl
  split
  · exact .quiet h rfl
  rename_i side _
  dsimp only
  split
  · exact .quiet h rfl
  · exact .quiet h (core_updateArm w.controller side _ fun _ => rfl)

theorem setSimContact_moves (h : Represents w.controller.core a) (contact : SimContact F) :
    Moves w e a (w.controller.setSimContact contact).1 := by
  unfold setSimContact
  split
  · exact .quiet h rfl
  split
  · exact .quiet h rfl
  rename_i side _
  split
  · exact .quiet h rfl
  dsimp only
  split
  · exact .quiet h rfl
  · exact .quiet h (core_updateArm _ side _ fun _ => rfl)

theorem setCollisionSceneRevision_moves (h : Represents w.controller.core a) (revision : Nat) :
    Moves w e a (w.controller.setCollisionSceneRevision revision).1 := by
  unfold setCollisionSceneRevision
  split
  · exact .quiet h rfl
  split
  · exact .quiet h rfl
  split
  · exact .quiet h rfl
  · exact .quiet h rfl

theorem setInterlock_moves (h : Represents w.controller.core a) (estop deadman : Bool) :
    Moves w e a (w.controller.setInterlock estop deadman).1 := by
  cases estop with
  | true => exact .released (w.controller.setInterlock_represents true deadman (.inl rfl))
  | false =>
    cases deadman with
    | true => exact .quiet h rfl
    | false => exact .released (w.controller.setInterlock_represents false false (.inr rfl))

/-- `stop` past its publishes: disarmed, or armed idle and holding. -/
theorem finishStop_represents (c : Controller F) (kind : StopKind) (id : Nat) :
    Represents (c.finishStop kind id).1.core .idle ∨ (c.finishStop kind id).1.Released := by
  unfold finishStop
  dsimp only
  split
  · exact .inr (publishReturning_released _ _ _ _ _
      (.off .disarmed rfl rfl rfl (allOff_materializeStop c.dropCommand)))
  · have hidle : Represents
        ({ ({ c.dropCommand.materializeStop true with lifecycle := .armedIdle }
              : Controller F) with activeStopKind := .disable } : Controller F).core .idle :=
      .idle rfl rfl rfl
    rcases publishReturning_represents _ .stopped .ok .ok id hidle with ⟨_, hrep⟩ | ⟨_, hrep⟩
    · exact .inl hrep
    · exact .inr ⟨_, hrep⟩

theorem stop_moves (h : Represents w.controller.core a) (kind : StopKind) :
    Moves w e a (w.controller.stop kind).1 := by
  unfold stop
  split
  · exact .quiet h rfl
  split
  · exact .quiet h rfl
  rename_i hactive
  -- both lifecycle states the stop accepts lead to `idle` or `off`
  have hdone : ∀ c' : Controller F, Represents c'.core .idle ∨ c'.Released →
      Moves w e a c' := by
    rintro c' (hidle | hoff)
    · by_cases hexec : w.controller.lifecycle = .executing
      · exact .finished h hexec hidle
      · have harmed : w.controller.core.lifecycle = .armedIdle := by
          by_contra hne
          exact hactive ⟨hexec, hne⟩
        obtain rfl := h.eq_idle harmed
        exact ⟨.quiet, .idle, .quiet _, hidle, trivial⟩
    · exact .released hoff
  dsimp only
  split
  · split
    · exact hdone _ (finishStop_represents _ _ _)
    · rename_i hfull
      rcases publish_core ({ w.controller with lifecycle := .stopping } : Controller F) .aborted
        .ok w.controller.commandId with ⟨hok, _⟩ | ⟨_, hrep⟩
      · exact absurd hok hfull
      · exact .released ⟨_, hrep⟩
  · exact hdone _ (finishStop_represents _ _ _)

theorem disarm_moves (h : Represents w.controller.core a) (deadline : Nat) :
    Moves w e a (w.controller.disarm deadline).1 := by
  unfold disarm
  split
  · exact .quiet h rfl
  split
  · exact .quiet h rfl
  · exact .publish_released .disarmed .ok .ok 0
      (.off .disarmed rfl rfl rfl (allOff_materializeStop w.controller.dropCommand))

theorem reset_moves (h : Represents w.controller.core a) (request : ResetRequest) :
    Moves w e a (w.controller.reset request).1 := by
  unfold reset
  split
  · exact .quiet h rfl
  rename_i hfault
  split
  · exact .quiet h rfl
  have hrest : w.controller.core.executing = none ∧ w.controller.core.commandId = 0 :=
    h.no_command fun hx => hfault ⟨by rw [show w.controller.lifecycle = _ from hx]; simp,
      by rw [show w.controller.lifecycle = _ from hx]; simp⟩
  exact .released ⟨.closed, .off .closed rfl hrest.1 hrest.2 fun _ _ => rfl⟩

theorem pollEvent_moves (h : Represents w.controller.core a) :
    Moves w e a w.controller.pollEvent.1 := by
  unfold pollEvent
  split
  · exact .quiet h rfl
  · exact .quiet h rfl

end Controller

/-! ## §4. Arming, executing, heartbeats and cycles. -/

section Power

variable (L : ModelLibrary F) (w : World F) {a : Authority}

theorem arm_moves (h : Represents w.controller.core a) (challenge : ArmChallenge) :
    Moves w (.arm challenge, ⟨(w.controller.armWith challenge).2, .none⟩) a
      (w.controller.armWith challenge).1 := by
  unfold Controller.armWith
  split
  · exact .quiet h rfl
  rename_i hdisarmed
  split
  · exact .quiet h rfl
  split
  · exact .quiet h rfl
  split
  · exact .fault _
  · have hlife : w.controller.core.lifecycle = .disarmed := not_not.mp hdisarmed
    obtain ⟨hexec, hid⟩ := h.no_command (by rw [hlife]; decide)
    obtain rfl := h.eq_disarmed hlife
    have hidle : Represents w.controller.energize.core .idle := .idle rfl hexec hid
    rcases Controller.publishReturning_represents _ .armed .ok .ok 0 hidle
      with ⟨hok, hrep⟩ | ⟨_, hrep⟩
    · exact ⟨.arm, .idle, .arm, hrep, ⟨challenge, rfl⟩, hok⟩
    · exact .released ⟨_, hrep⟩

theorem execute_moves (h : Represents w.controller.core a) (plan : MotionPlan F)
    (request : ExecuteRequest) (output : Output F) :
    Moves w (.execute plan request, ⟨(w.controller.execute L plan request).2, output⟩) a
      (w.controller.execute L plan request).1 := by
  cases haccept : w.controller.acceptsExecute plan request with
  | false =>
    rcases w.controller.execute_of_refused L plan request haccept with heq | heq
    · rw [heq]
      exact .quiet h rfl
    · rw [heq]
      exact .fault _
  | true =>
    obtain rfl := h.eq_idle (Controller.acceptsExecute_armed haccept)
    have hmoving : Represents (w.controller.startCommand L plan request).core
        (.moving w.controller.nextCommandId request.stopKind) := .moving _ _ rfl rfl rfl rfl
    rw [w.controller.execute_of_accepts L plan request haccept]
    rcases Controller.publishReturning_represents _
        (if (w.controller.startCommand L plan request).commandStarted then .started else .queued)
        .ok .ok w.controller.nextCommandId hmoving
      with ⟨hok, hrep⟩ | ⟨_, hrep⟩
    · exact ⟨.start, _, .start _ _, hrep, plan, request, rfl, hok, haccept, rfl⟩
    · exact .released ⟨_, hrep⟩

theorem heartbeat_moves (h : Represents w.controller.core a) (id deadline : Nat)
    (response : Response F) :
    Moves w (.heartbeat id deadline, response) a (w.controller.heartbeat id deadline).1 := by
  unfold Controller.heartbeat
  split
  · exact .quiet h rfl
  rename_i hlive
  split
  · rename_i hlate
    rcases w.controller.latchFault_represents .estale true with hoff | ⟨_, hstop, hhold⟩
    · exact .released hoff
    · obtain ⟨_, hsome, hfresh, hhealthy, hkind⟩ := w.controller.controlledStop_iff.mp hstop
      refine .held h ⟨hsome, hkind⟩ ⟨?_, hlate, hfresh, hhealthy⟩ hhold
      by_contra hne
      exact hlive (.inr (.inr hne))
  · exact .quiet h rfl

/-- A cycle that samples the asserted latch releases the motors, unless the
    edge detector is already set: then it changes no register. -/
theorem advanceEstop_effect (c : Controller F) (monotonicNs : Nat) :
    (c.estopLatched = false ∧ (c.advanceEstop monotonicNs).1.Released) ∨
      (c.estopLatched = true ∧ (c.advanceEstop monotonicNs).1.core = c.core) := by
  unfold Controller.advanceEstop
  cases hlatched : c.estopLatched with
  | false => exact .inl ⟨rfl, Controller.setInterlock_represents _ _ _ (.inl rfl)⟩
  | true => exact .inr ⟨rfl, rfl⟩

theorem advance_moves (h : Represents w.controller.core a) (monotonicNs : Nat)
    (response : Response F) :
    Moves w (.advance monotonicNs, response) a
      (w.controller.advance L w.latch monotonicNs).1 := by
  unfold Controller.advance
  split
  · rcases advanceEstop_effect w.controller monotonicNs with ⟨_, hoff⟩ | ⟨_, hcore⟩
    · exact .released hoff
    · exact .quiet h hcore
  rename_i hclear
  dsimp only
  split
  · exact .quiet h rfl
  rename_i hle
  split
  · exact .quiet h rfl
  rename_i hne
  split
  · have hsampled : (w.controller.sampledAt monotonicNs).core = w.controller.core := rfl
    rcases (w.controller.sampledAt monotonicNs).runCycle_effect L w.controller.nowNs with
      (hcore | hoff | ⟨hexec, hidle⟩) | (hoff | ⟨hstop, hexpired, hhold⟩)
    · exact .quiet h hcore
    · exact .released hoff
    · exact .finished h hexec hidle
    · exact .released hoff
    · obtain ⟨_, hsome, hfresh, hhealthy, hkind⟩ := Controller.controlledStop_iff _ |>.mp hstop
      have hlater : w.controller.nowNs < monotonicNs := by omega
      exact .held h ⟨hsome, hkind⟩
        ⟨Bool.eq_false_iff.mpr hclear, hlater, hfresh, hhealthy, hexpired⟩ hhold
  · exact .quiet h rfl

end Power

/-! ## §5. The simulation. -/

/-- **Every call is one move of authority.** -/
theorem call_refines (L : ModelLibrary F) (w : World F) (op : Op F) {a : Authority}
    (h : Represents w.controller.core a) :
    Moves w (op, (call L w op).2) a (call L w op).1.controller := by
  cases op with
  | openAndVerify => exact Controller.openAndVerify_moves w _ h
  | snapshot => exact .quiet h rfl
  | kinematics side seq => exact .quiet h rfl
  | challenge => exact Controller.challenge_moves w _ h
  | arm challenge => exact arm_moves w h challenge
  | planJoint request => exact Controller.planJoint_moves w _ h request
  | planPaired request => exact Controller.planCartesian_moves w _ h _ _
  | planCentroid request => exact Controller.planCartesian_moves w _ h _ _
  | planMirrored request => exact Controller.planCartesian_moves w _ h _ _
  | planConverge request => exact Controller.planCartesian_moves w _ h _ _
  | contactReport => exact .quiet h rfl
  | setSimContact contact => exact Controller.setSimContact_moves w _ h contact
  | execute plan request => exact execute_moves L w h plan request _
  | advance monotonicNs => exact advance_moves L w h monotonicNs _
  | setSimFault fault => exact Controller.setSimFault_moves w _ h fault
  | setSimState state => exact Controller.setSimState_moves w _ h state
  | heartbeat id deadline => exact heartbeat_moves w h id deadline _
  | setInterlock estop deadman => exact Controller.setInterlock_moves w _ h estop deadman
  | setCollisionSceneRevision revision =>
    exact Controller.setCollisionSceneRevision_moves w _ h revision
  | stop kind => exact Controller.stop_moves w _ h kind
  | disarm deadline => exact Controller.disarm_moves w _ h deadline
  | reset request => exact Controller.reset_moves w _ h request
  | pollEvent => exact Controller.pollEvent_moves w _ h
  | estopAssert => exact .quiet h rfl
  | estopClear => exact .quiet h rfl

/-- The simulation, on a step of the transition system. -/
theorem step_refines (L : ModelLibrary F) {w w' : World F} {e : Label F} {a : Authority}
    (hstep : (system L).step w e w') (h : Represents w.controller.core a) :
    Moves w e a w'.controller := by
  have hcall : call L w e.1 = (w', e.2) := hstep
  have hmoves := call_refines L w e.1 h
  rw [hcall] at hmoves
  exact hmoves

end OpenArm.Control
