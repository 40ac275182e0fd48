/-
  OpenArm.Control.Lifecycle — the representation invariant of the controller.

  Over every run of the public interface, the four registers `lifecycle`,
  `executing`, `commandId` and the motor enables agree.  The step lemma is
  the simulation of `Refinement`; the run lemma carries, next to the
  authority, where the running command came from, so that a motor enabled in
  FAULT can be traced back to the controlled stop it asked for.

  Main results:
    * `lifecycle_invariant` — the invariant, for every run.
    * `commandId_zero_while_executing` — command ids are 64 bits wide: the
      command after 2⁶⁴ − 1 others executes with id 0.
-/
import OpenArm.Control.Refinement
import OpenArm.Control.Standard

namespace OpenArm.Control

open OpenArm.Lib

variable {F : Type} [Floating F]

/-! ## §1. Counting started commands. -/

/-- How many executes of a run passed their checks. -/
def startedCount (L : ModelLibrary F) : World F → List (Label F) → Nat
  | _, [] => 0
  | w, e :: es =>
    (if w.controller.starts e.1 then 1 else 0) + startedCount L (call L w e.1).1 es

theorem startedCount_append (L : ModelLibrary F) {w w' : World F} {es : List (Label F)}
    (h : (system L).Run w es w') (fs : List (Label F)) :
    startedCount L w (es ++ fs) = startedCount L w es + startedCount L w' fs := by
  induction h generalizing fs with
  | nil => simp [startedCount]
  | snoc front last ih =>
    rename_i m w' es e
    have hcall : (call L m e.1).1 = w' := (step_eq last).1.symm
    rw [List.append_assoc, ih, ih [e]]
    simp only [List.cons_append, List.nil_append, startedCount, hcall]
    omega

/-- The last label of a run counts when its execute passed its checks. -/
theorem startedCount_snoc (L : ModelLibrary F) {w m : World F} {es : List (Label F)}
    (h : (system L).Run w es m) (e : Label F) :
    startedCount L w (es ++ [e]) =
      startedCount L w es + if m.controller.starts e.1 then 1 else 0 := by
  rw [startedCount_append L h]
  simp [startedCount]

/-- The id counter is one ahead of the started commands, modulo 2⁶⁴. -/
theorem nextCommandId_run (L : ModelLibrary F) {w₀ w : World F} {es : List (Label F)}
    (hinit : w₀.Initial) (h : (system L).Run w₀ es w) :
    w.controller.nextCommandId = wrap64 (startedCount L w₀ es + 1) := by
  induction h with
  | nil =>
    obtain ⟨manifest, options, instanceId, hcreate⟩ := hinit
    rw [hcreate]
    rfl
  | snoc front last ih =>
    rename_i m w' es e
    have hcall : (call L m e.1).1 = w' := (step_eq last).1.symm
    rw [startedCount_snoc L front, ← hcall, nextCommandId_call, ih]
    cases m.controller.starts e.1 with
    | true => simp only [if_true, wrap64]; omega
    | false => simp

/-! ## §2. Where the running command came from. -/

/-- The run started its current command by an execute that asked for `stop`,
    and has been in EXECUTING ever since. -/
def StartedWith (L : ModelLibrary F) (w₀ : World F) (es : List (Label F)) (w : World F)
    (stop : StopKind) : Prop :=
  ∃ pre plan request output mid w₁ w₂,
    es = pre ++ (.execute plan request, ⟨.ok, output⟩) :: mid ∧
      (system L).Run w₀ pre w₁ ∧
      (system L).step w₁ (.execute plan request, ⟨.ok, output⟩) w₂ ∧
      ((system L).within (·.controller.lifecycle = .executing)).Run w₂ mid w ∧
      w₂.controller.lifecycle = .executing ∧ request.stopKind = stop

/-- The run entered FAULT from EXECUTING by a watchdog fault on fresh,
    fault-free feedback, its command had asked for a controlled stop, and it
    has been in FAULT ever since. -/
def HeldByWatchdog (L : ModelLibrary F) (w₀ : World F) (es : List (Label F)) (w : World F) :
    Prop :=
  ∃ pre e post w₁ w₂,
    es = pre ++ e :: post ∧ (system L).Run w₀ pre w₁ ∧
      StartedWith L w₀ pre w₁ .controlled ∧ w₁.controller.lifecycle = .executing ∧
      WatchdogFault w₁ e.1 ∧ (system L).step w₁ e w₂ ∧ w₂.controller.lifecycle = .fault ∧
      ((system L).within (·.controller.lifecycle = .fault)).Run w₂ post w

/-- What a run shows for the authority it ends in. -/
def Provenance (L : ModelLibrary F) (w₀ : World F) (es : List (Label F)) (w : World F) :
    Authority → Prop
  | .off _ => True
  | .idle => True
  | .moving id stop => id = wrap64 (startedCount L w₀ es) ∧ StartedWith L w₀ es w stop
  | .holding => HeldByWatchdog L w₀ es w

/-- The authority of a run together with its provenance. -/
def Traced (L : ModelLibrary F) (w₀ : World F) (es : List (Label F)) (w : World F) : Prop :=
  ∃ a, Represents w.controller.core a ∧ Provenance L w₀ es w a

theorem traced_initial (L : ModelLibrary F) {w₀ : World F} (h : w₀.Initial) :
    Traced L w₀ [] w₀ := by
  obtain ⟨manifest, options, instanceId, hcreate⟩ := h
  refine ⟨.off .closed, ?_, trivial⟩
  rw [hcreate]
  exact .off .closed rfl rfl rfl fun _ _ => rfl

/-- A step out of EXECUTING does not start a command. -/
theorem starts_of_executing {w : World F} (op : Op F) (h : w.controller.lifecycle = .executing) :
    w.controller.starts op = false := by
  cases op with
  | execute plan request =>
    by_contra hstart
    have harmed := Controller.acceptsExecute_armed (Bool.not_eq_false _ ▸ hstart)
    rw [h] at harmed
    cases harmed
  | _ => rfl

/-- **Step lemma**: a step keeps the authority and its provenance. -/
theorem traced_step (L : ModelLibrary F) {w₀ w w' : World F} {es : List (Label F)}
    {e : Label F} (hinit : w₀.Initial) (hrun : (system L).Run w₀ es w)
    (hstep : (system L).step w e w') (h : Traced L w₀ es w) : Traced L w₀ (es ++ [e]) w' := by
  obtain ⟨a, hrep, hprov⟩ := h
  obtain ⟨cause, a', hmove, hrep', hevidence⟩ := step_refines L hstep hrep
  refine ⟨a', hrep', ?_⟩
  cases hmove with
  | quiet =>
    cases hrep with
    | off r _ _ _ _ => trivial
    | idle _ _ _ => trivial
    | moving id stop hlife _ _ _ =>
      -- the command goes on: its run in EXECUTING grows by this step
      obtain ⟨hid, pre, plan, request, output, mid, w₁, w₂, hes, hpre, hexec, hmid, hw₂, hstop⟩ :=
        hprov
      have hlife' : w'.controller.lifecycle = .executing := by
        cases hrep' with
        | moving _ _ hl _ _ _ => exact hl
      refine ⟨?_, pre, plan, request, output, mid ++ [e], w₁, w₂, ?_, hpre, hexec,
        hmid.snoc ⟨hstep, hlife, hlife'⟩, hw₂, hstop⟩
      · rw [startedCount_snoc L hrun, starts_of_executing e.1 hlife]
        exact hid
      · rw [hes]
        simp
    | holding hlife _ _ =>
      obtain ⟨pre, f, post, w₁, w₂, hes, hpre, hstarted, hw₁, hfault, hf, hw₂, hpost⟩ := hprov
      have hlife' : w'.controller.lifecycle = .fault := by
        cases hrep' with
        | holding hl _ _ => exact hl
      refine ⟨pre, f, post ++ [e], w₁, w₂, ?_, hpre, hstarted, hw₁, hfault, hf, hw₂,
        hpost.snoc ⟨hstep, hlife, hlife'⟩⟩
      rw [hes]
      simp
  | release => trivial
  | arm => trivial
  | start id stop =>
    obtain ⟨plan, request, hop, hok, haccept, hmoving⟩ := hevidence
    have he : e = (.execute plan request, ⟨.ok, e.2.output⟩) := by
      rw [← hop, ← hok]
    obtain ⟨rfl, rfl⟩ : id = w.controller.nextCommandId ∧ stop = request.stopKind := by
      simpa using hmoving
    have hlife' : w'.controller.lifecycle = .executing := by
      cases hrep' with
      | moving _ _ hl _ _ _ => exact hl
    have hstarts : w.controller.starts e.1 = true := by
      rw [hop]
      exact haccept
    refine ⟨?_, es, plan, request, e.2.output, [], w, w', by rw [← he], hrun, ?_, .nil w', hlife',
      rfl⟩
    · rw [startedCount_snoc L hrun, hstarts, nextCommandId_run L hinit hrun]
      rfl
    · rw [← he]
      exact hstep
  | finish => trivial
  | watchdog id =>
    cases hrep with
    | moving _ _ hlife _ _ _ =>
      have hlife' : w'.controller.lifecycle = .fault := by
        cases hrep' with
        | holding hl _ _ => exact hl
      exact ⟨es, e, [], w, w', rfl, hrun, hprov.2, hlife, hevidence, hstep, hlife', .nil w'⟩

/-- **Run lemma**: every run ends in a traced authority. -/
theorem traced_run (L : ModelLibrary F) {w₀ w : World F} {es : List (Label F)}
    (hinit : w₀.Initial) (h : (system L).Run w₀ es w) : Traced L w₀ es w := by
  induction h with
  | nil => exact traced_initial L hinit
  | snoc front last ih => exact traced_step L hinit front last ih

/-! ## §3. The representation invariant. -/

/-- How the four registers agree after a run from `w₀` over `es`. -/
structure LifecycleInvariant (L : ModelLibrary F) (w₀ : World F) (es : List (Label F))
    (w : World F) : Prop where
  /-- The three transient states are never seen between calls. -/
  settled : w.controller.lifecycle ≠ .verifying ∧ w.controller.lifecycle ≠ .arming ∧
    w.controller.lifecycle ≠ .stopping
  executing_iff : w.controller.executing.isSome = true ↔ w.controller.lifecycle = .executing
  /-- Ids are given out in order, 64 bits wide, and cleared outside EXECUTING. -/
  commandId_eq : w.controller.commandId =
    if w.controller.lifecycle = .executing then wrap64 (startedCount L w₀ es) else 0
  /-- A motor is enabled only under authority: armed, executing, or holding
  after a watchdog fault of a command that asked for a controlled stop. -/
  enabled : ∀ side joint, (w.controller.arm side).motorEnabled joint = true →
    w.controller.lifecycle = .armedIdle ∨ w.controller.lifecycle = .executing ∨
      (w.controller.lifecycle = .fault ∧ HeldByWatchdog L w₀ es w)

/-- **The representation invariant holds after every run.** -/
theorem lifecycle_invariant (L : ModelLibrary F) {w₀ w : World F} {es : List (Label F)}
    (hinit : w₀.Initial) (h : (system L).Run w₀ es w) : LifecycleInvariant L w₀ es w := by
  obtain ⟨a, hrep, hprov⟩ := traced_run L hinit h
  cases hrep with
  | off r hlife hexec hid hoff =>
    have hlife : w.controller.lifecycle = r.lifecycle := hlife
    have hexec : w.controller.executing = none := hexec
    have hid : w.controller.commandId = 0 := hid
    refine ⟨?_, ?_, ?_, fun side joint hon => ?_⟩
    · rw [hlife]
      cases r <;> decide
    · rw [hlife, hexec]
      cases r <;> simp [Rest.lifecycle]
    · rw [hlife, hid]
      cases r <;> simp [Rest.lifecycle]
    · exact absurd hon (by simpa [Controller.core] using hoff side joint)
  | idle hlife hexec hid =>
    have hlife : w.controller.lifecycle = .armedIdle := hlife
    have hexec : w.controller.executing = none := hexec
    have hid : w.controller.commandId = 0 := hid
    refine ⟨?_, ?_, ?_, fun _ _ _ => .inl hlife⟩
    · rw [hlife]
      decide
    · simp [hlife, hexec]
    · simp [hlife, hid]
  | moving id stop hlife hexec hid _ =>
    have hlife : w.controller.lifecycle = .executing := hlife
    have hexec : w.controller.executing.isSome = true := hexec
    have hid : w.controller.commandId = id := hid
    refine ⟨?_, ?_, ?_, fun _ _ _ => .inr (.inl hlife)⟩
    · rw [hlife]
      decide
    · simp [hlife, hexec]
    · rw [if_pos hlife, hid]
      exact hprov.1
  | holding hlife hexec hid =>
    have hlife : w.controller.lifecycle = .fault := hlife
    have hexec : w.controller.executing = none := hexec
    have hid : w.controller.commandId = 0 := hid
    refine ⟨?_, ?_, ?_, fun _ _ _ => .inr (.inr ⟨hlife, hprov⟩)⟩
    · rw [hlife]
      decide
    · simp [hlife, hexec]
    · simp [hlife, hid]

/-! ## §4. Command ids wrap. -/

/-- An armed standard controller at time 0 that can plan and execute, its
    event ring empty. -/
structure Ready (c : Controller ℚ) : Prop where
  lifecycle : c.lifecycle = .armedIdle
  coherent : c.Coherent
  manifest : c.manifest = standardConfig
  options : c.options = standardOptions
  now : c.nowNs = 0
  events : c.events.count = 0

/-- Move the fourth joint of the left arm to 0.1 rad at full scale. -/
def loopMove (c : Controller ℚ) : JointMove ℚ where
  expiryNs := maxU64
  requiredFeedbackSeq := (c.arm 0).feedbackSeq
  side := 0
  joint := 3
  targetRad := 0.1
  velocityScale := 1
  accelerationScale := 1
  jerkScale := 1
  positionTolRad := 0.001
  velocityTolRadS := 0.001

/-- Start now, expire and stop feeding as late as possible. -/
def loopRequest : ExecuteRequest where
  startNs := 0
  expiryNs := maxU64
  producerDeadlineNs := maxU64
  stopKind := .controlled

/-- The plan of a ready controller for `loopMove`. -/
def loopPlan (c : Controller ℚ) : MotionPlan ℚ := c.jointPlan (loopMove c) 0 3

theorem Ready.planJoint {c : Controller ℚ} (h : Ready c) :
    c.planJoint (loopMove c) = (c, .ok (loopPlan c)) := by
  have hallowed : c.collisionAllowed = true := by
    simp [Controller.collisionAllowed, Controller.isVirtual, h.options, standardOptions]
  have hvalid : c.jointMoveInvalid (loopMove c) 0 = false := by
    simp only [Controller.jointMoveInvalid, loopMove, h.now]
    simp [validScale, notPositive, Floating.isFinite, Floating.lit, maxU64]
    norm_num
  have hinside : outsideMotor (c.manifest.motor 0 3) (loopMove c).targetRad = false := by
    rw [h.manifest]
    show outsideMotor (standardMotor 0 3 : MotorConfig ℚ) 0.1 = false
    decide +kernel
  have hside : sideOf (loopMove c).side = some 0 := rfl
  have hjoint : (loopMove c).joint < 7 := by
    show 3 < 7
    decide
  simp only [Controller.planJoint, h.lifecycle, h.coherent.fresh, h.coherent.healthy, hallowed,
    hside, hjoint, hvalid, ne_eq, not_true_eq_false, if_false, Bool.not_true,
    Bool.false_eq_true, dif_pos]
  exact if_neg (by rw [show (⟨(loopMove c).joint, hjoint⟩ : Joint) = 3 from rfl, hinside]; simp)

theorem Ready.acceptsExecute {c : Controller ℚ} (h : Ready c) :
    c.acceptsExecute (loopPlan c) loopRequest = true := by
  have hpose : c.startPoseMatches (loopPlan c) = true := by
    simp only [Controller.startPoseMatches, List.all_eq_true]
    intro side _ joint _
    have hstart : (loopPlan c).startQ side joint = (c.arm side).measuredQ joint := rfl
    rw [hstart, sub_self]
    decide +kernel
  have hstale : c.planStale (loopPlan c) = false := by
    rw [Controller.planStale, hpose]
    simp [loopPlan, Controller.jointPlan]
  have hduration : (loopPlan c).durationNs ≤ maxU64 := Nat.min_le_right _ _
  have hvalid : c.executeInvalid (loopPlan c) loopRequest = false := by
    have hstart : c.startNs loopRequest = 0 := by
      simp [Controller.startNs, loopRequest, h.now]
    have hexpiry : (loopPlan c).expiryNs = maxU64 := rfl
    have hrequest : loopRequest.expiryNs = maxU64 ∧ loopRequest.producerDeadlineNs = maxU64 ∧
        loopRequest.stopKind = .controlled := ⟨rfl, rfl, rfl⟩
    have hpositive : 0 < maxU64 := by decide
    simp only [Controller.executeInvalid, hstart, hexpiry, h.now, hrequest]
    simp
    omega
  have hinstance : (loopPlan c).controllerInstance = c.instanceId := rfl
  have hepoch : (loopPlan c).verifyEpoch = c.verifyEpoch := rfl
  simp [Controller.acceptsExecute, h.lifecycle, h.coherent.fresh, h.coherent.healthy, hstale,
    hvalid, hinstance, hepoch]

section Wrap

variable (L : ModelLibrary ℚ)

/-- The same world with another event ring. -/
def World.withEvents (w : World ℚ) (events : Ring Event kEventCapacity) : World ℚ :=
  { w with controller := { w.controller with events := events } }

/-- Polling empties the event ring and changes nothing else. -/
theorem poll_all (w : World ℚ) : ∃ es events,
    (system L).Run w es (w.withEvents events) ∧ events.count = 0 := by
  induction hn : w.controller.events.count generalizing w with
  | zero => exact ⟨[], w.controller.events, .nil w, hn⟩
  | succ n ih =>
    have hsome : w.controller.events.isEmpty = false := by simp [Ring.isEmpty, hn]
    have hstate : (call L w .pollEvent).1 = w.withEvents w.controller.events.pop := by
      simp only [call, withOutput, Controller.pollEvent, hsome]
      rfl
    have hcount : (w.withEvents w.controller.events.pop).controller.events.count = n :=
      (w.controller.events.count_pop).trans (by omega)
    obtain ⟨es, events, hrun, hempty⟩ := ih _ hcount
    have hpoll : (system L).step w (.pollEvent, (call L w .pollEvent).2)
        (w.withEvents w.controller.events.pop) := Prod.ext hstate rfl
    exact ⟨_, events, .cons hpoll hrun, hempty⟩

/-- A ready controller plans and executes: the command takes the next id. -/
theorem ready_start {w : World ℚ} (h : Ready w.controller) :
    ∃ es w' event, (system L).Run w es w' ∧ w'.latch = w.latch ∧
      w'.controller =
        { w.controller.startCommand L (loopPlan w.controller) loopRequest with
          events := w.controller.events.push event } := by
  have hplan : (system L).step w (.planJoint (loopMove w.controller),
      ⟨.ok, .plan (loopPlan w.controller)⟩) w := by
    show planned w (w.controller.planJoint (loopMove w.controller)) = _
    rw [h.planJoint]
    rfl
  have hroom : (w.controller.startCommand L (loopPlan w.controller) loopRequest).events.count
      < kEventCapacity := by
    show w.controller.events.count < kEventCapacity
    rw [h.events]
    decide
  obtain ⟨event, hpub⟩ := Controller.publishReturning_of_room _
    (if (w.controller.startCommand L (loopPlan w.controller) loopRequest).commandStarted
      then .started else .queued) .ok .ok w.controller.nextCommandId hroom
  have hexec := w.controller.execute_of_accepts L (loopPlan w.controller) loopRequest
    h.acceptsExecute
  refine ⟨_, _, event, .cons hplan (.single (call_step L w
    (.execute (loopPlan w.controller) loopRequest))), rfl, ?_⟩
  show (w.controller.execute L (loopPlan w.controller) loopRequest).1 = _
  rw [hexec, hpub]
  rfl

/-- One command, stopped with a hold, leads back to a ready controller. -/
theorem ready_loop {w : World ℚ} (h : Ready w.controller) :
    ∃ es w', (system L).Run w es w' ∧ Ready w'.controller ∧
      w'.controller.nextCommandId = wrap64 (w.controller.nextCommandId + 1) := by
  obtain ⟨es, w₁, event, hrun, _, hw₁⟩ := ready_start L h
  have hcount : w₁.controller.events.count = 1 := by
    rw [hw₁]
    have hroom : w.controller.events.count < kEventCapacity := by rw [h.events]; decide
    show (w.controller.events.push event).count = 1
    rw [Ring.count_push _ _ hroom, h.events]
  have hcoherent : w₁.controller.Coherent := by
    rw [hw₁]
    exact h.coherent
  have hvirtual : w₁.controller.isVirtual = true := by
    rw [hw₁]
    show w.controller.isVirtual = true
    simp [Controller.isVirtual, h.options, standardOptions]
  obtain ⟨aborted, stopped, hstop⟩ := w₁.controller.stop_of_executing (by rw [hw₁]; rfl)
    (by rw [hw₁]; rfl) (by rw [hcount]; decide)
  obtain ⟨fs, events', hpolls, hempty⟩ := poll_all L (call L w₁ (.stop .controlled)).1
  have hstate : (call L w₁ (.stop .controlled)).1.controller = _ := congrArg Prod.fst hstop
  refine ⟨_, _, hrun.append (.cons (call_step L w₁ (.stop .controlled)) hpolls), ?_, ?_⟩
  · have hhold := hcoherent.materializeStop hvirtual true
    simp only [World.withEvents, hstate]
    refine ⟨rfl, hhold, ?_, ?_, ?_, hempty⟩
    · rw [hw₁]; exact h.manifest
    · rw [hw₁]; exact h.options
    · rw [hw₁]; exact h.now
  · simp only [World.withEvents, hstate, hw₁]
    rfl

/-- After any number of commands there is a ready controller. -/
theorem ready_after (k : Nat) : ∃ es w, (system L).Run (standardWorld ℚ) es w ∧
    Ready w.controller ∧ w.controller.nextCommandId = wrap64 (k + 1) := by
  induction k with
  | zero =>
    obtain ⟨es, events', hpolls, hempty⟩ := poll_all L (armedWorld L)
    obtain ⟨event, harmed⟩ := armedWorld_eq L
    refine ⟨_, _, (armedWorld_run L).append hpolls, ?_, ?_⟩
    · have hcoherent := armedWorld_coherent L
      simp only [World.withEvents]
      refine ⟨?_, hcoherent.withEvents events', ?_, ?_, ?_, hempty⟩
      · rw [harmed]; rfl
      · rw [harmed]; rfl
      · rw [harmed]; rfl
      · rw [harmed]; rfl
    · simp only [World.withEvents, harmed]
      rfl
  | succ k ih =>
    obtain ⟨es, w, hrun, hready, hnext⟩ := ih
    obtain ⟨fs, w', hloop, hready', hnext'⟩ := ready_loop L hready
    refine ⟨_, _, hrun.append hloop, hready', ?_⟩
    rw [hnext', hnext]
    simp only [wrap64]
    omega

/-- A command that executes with id 0, after 2⁶⁴ − 1 others. -/
theorem wrapped_command : ∃ es w, (system L).Run (standardWorld ℚ) es w ∧
    w.controller.lifecycle = .executing ∧ w.controller.commandId = 0 := by
  obtain ⟨es, w, hrun, hready, hnext⟩ := ready_after L (2 ^ 64 - 1)
  obtain ⟨fs, w', event, hstart, _, hw'⟩ := ready_start L hready
  refine ⟨_, w', hrun.append hstart, by rw [hw']; rfl, ?_⟩
  rw [hw']
  show w.controller.nextCommandId = 0
  rw [hnext]
  decide

end Wrap

/-- **The command after 2⁶⁴ − 1 others executes with id 0**: the run plans,
    executes and stops the same joint move over and over. -/
theorem commandId_zero_while_executing : ∃ es w,
    (system silentLibrary).Run (standardWorld ℚ) es w ∧ w.controller.lifecycle = .executing ∧
      w.controller.commandId = 0 :=
  wrapped_command silentLibrary

/-- The invariant at work on a run that verifies, arms, plans and executes. -/
theorem lifecycle_invariant_executing : ∃ es w,
    LifecycleInvariant silentLibrary (standardWorld ℚ) es w ∧
      w.controller.lifecycle = .executing := by
  obtain ⟨es, w, hrun, hready, _⟩ := ready_after silentLibrary 0
  obtain ⟨fs, w', event, hstart, _, hw'⟩ := ready_start silentLibrary hready
  exact ⟨_, w', lifecycle_invariant silentLibrary standardWorld_initial (hrun.append hstart),
    by rw [hw']; rfl⟩

end OpenArm.Control
