/-
  OpenArm.Control.Completion — what COMPLETED says of the measured arms.

  A command completes after a dwell of at least three cycle periods and three
  generations of both arms, all of them at the goal of its plan.  For a plan of
  `plan_paired` the goal includes the forward kinematics of the measured
  joints.  The three other Cartesian planners share its body and its tolerance,
  but `measured_at_goal` asks for the kind PAIRED_TCP, so that their commands
  complete on the joints alone.

  Main results:
    * `completion_dwell`      — the dwell of any Cartesian command.
    * `measured_completion`   — the TCPs of a paired one.
    * `centroid_off_target`   — a centroid command that completes off target.
-/
import OpenArm.Control.Frozen

namespace OpenArm.Control

open OpenArm.Lib

variable {F : Type} [Floating F]

/-! ## §1. The plans of the Cartesian planners. -/

namespace Controller

/-- What the shared body writes into a plan from its request. -/
structure PairedPlan (c : Controller F) (request : PairedPlanRequest F) (plan : MotionPlan F) :
    Prop where
  kind : plan.kind = request.kind
  active : plan.activeArmMask = fun _ => true
  manifestRevision : plan.manifestRevision = c.manifest.manifestRevision
  modelRevision : plan.modelRevision = c.manifest.modelRevision
  scene : plan.collisionSceneRevision = c.options.collisionSceneRevision
  instanceId : plan.controllerInstance = c.instanceId
  epoch : plan.verifyEpoch = c.verifyEpoch
  seed : plan.seedSeq = fun side => (c.arm side).feedbackSeq
  expiry : plan.expiryNs = request.expiryNs
  start : plan.startQ = c.measuredPose
  tolerance : plan.tcpTolerance = fun _ => request.tcpTolM
  target : plan.targetTcp = request.targetTcp
  quiet : plan.contactMonitored = false

theorem planPairedCommon_ok {c : Controller F} {L : ModelLibrary F}
    {request : PairedPlanRequest F} {plan : MotionPlan F}
    (h : c.planPairedCommon L request = .ok plan) : c.PairedPlan request plan := by
  unfold planPairedCommon at h
  simp only [bind, Except.bind, pure, Except.pure] at h
  split at h
  · cases h
  rename_i hvalid
  have hscene : request.collisionSceneRevision = c.options.collisionSceneRevision := by
    by_contra hne
    refine hvalid ?_
    unfold pairedRequestInvalid
    rw [Bool.or_eq_true]
    exact .inr (bne_iff_ne.mpr hne)
  split at h
  · cases h
  split at h
  · cases h
  split at h
  · cases h
  split at h
  · cases h
  cases h
  exact ⟨rfl, rfl, rfl, rfl, hscene, rfl, rfl, rfl, rfl, rfl, rfl, rfl, rfl⟩

/-- A planner that answers with a plan leaves the controller alone. -/
theorem planCartesian_ok {c : Controller F} {latch : Bool}
    {body : Except ControlStatus (MotionPlan F)} {plan : MotionPlan F}
    (h : (c.planCartesian latch body).2 = .ok plan) :
    (c.planCartesian latch body).1 = c ∧ body = .ok plan := by
  unfold planCartesian at h ⊢
  dsimp only at h ⊢
  split at h
  · rename_i hok
    rw [if_pos hok]
    refine ⟨?_, h⟩
    show (c.planPreconditions latch).1 = c
    unfold planPreconditions at hok ⊢
    split at hok
    · cases hok
    rename_i hclear
    rw [if_neg hclear]
    split at hok
    · cases hok
    rename_i hlife
    rw [if_neg hlife]
    split at hok
    · cases hok
    rename_i hfresh
    rw [if_neg hfresh]
    split at hok
    · exact absurd hok (latchFault_status c false (by decide))
    rename_i hhealthy
    rw [if_neg hhealthy]
    split
    · rfl
    · rfl
  · cases h

end Controller

open Controller

/-- The Cartesian planners: the call, the members its request shares with the
    others, and the kind of its plans. -/
inductive Cartesian : Op F → TcpMove F → PlanKind → Prop where
  | paired (request : PairedTcpMove F) :
      Cartesian (.planPaired request) request.toTcpMove .pairedTcp
  | centroid (request : CentroidTcpMove F) :
      Cartesian (.planCentroid request) request.toTcpMove .centroidTcp
  | mirrored (request : MirroredTcpMove F) :
      Cartesian (.planMirrored request) request.toTcpMove .mirroredTcp
  | converge (request : ConvergeTcpMove F) :
      Cartesian (.planConverge request) request.toTcpMove .convergeTcp

/-- The members of a plan that say when its command is complete. -/
structure Plans (plan : MotionPlan F) (kind : PlanKind) (tol : F) : Prop where
  kind : plan.kind = kind
  active : plan.activeArmMask = fun _ => true
  tolerance : plan.tcpTolerance = fun _ => tol

theorem Controller.PairedPlan.plans {c : Controller F} {request : PairedPlanRequest F}
    {plan : MotionPlan F} (h : c.PairedPlan request plan) :
    Plans plan request.kind request.tcpTolM :=
  ⟨h.kind, h.active, h.tolerance⟩

omit [Floating F] in
/-- The plan a planner answered. -/
theorem planned_ok {w w' : World F} {out : Controller F × Except ControlStatus (MotionPlan F)}
    {plan : MotionPlan F} (h : planned w out = (w', ⟨.ok, .plan plan⟩)) : out.2 = .ok plan := by
  obtain ⟨c, answer⟩ := out
  have hanswer := congrArg (fun r => r.2.output) h
  cases answer with
  | error status => cases hanswer
  | ok made =>
    have hmade : Output.plan made = Output.plan plan := hanswer
    exact congrArg Except.ok (Output.plan.inj hmade)

/-- **All four planners write the tolerance of their request.** -/
theorem cartesian_plans {L : ModelLibrary F} {w w' : World F} {op : Op F} {move : TcpMove F}
    {kind : PlanKind} {plan : MotionPlan F} (hop : Cartesian op move kind)
    (hstep : (system L).step w (op, ⟨.ok, .plan plan⟩) w') : Plans plan kind move.tcpTolM := by
  cases hop with
  | paired request =>
    obtain ⟨-, hbody⟩ := planCartesian_ok (planned_ok hstep)
    exact (planPairedCommon_ok hbody).plans
  | centroid request =>
    obtain ⟨-, hbody⟩ := planCartesian_ok (planned_ok hstep)
    split at hbody
    · cases hbody
    split at hbody
    · simp only [bind, Except.bind] at hbody
      split at hbody
      · cases hbody
      · exact (planPairedCommon_ok hbody).plans
    · cases hbody
  | mirrored request =>
    obtain ⟨-, hbody⟩ := planCartesian_ok (planned_ok hstep)
    split at hbody
    · cases hbody
    split at hbody
    · cases hbody
    · exact (planPairedCommon_ok hbody).plans
  | converge request =>
    obtain ⟨-, hbody⟩ := planCartesian_ok (planned_ok hstep)
    simp only [bind, Except.bind] at hbody
    split at hbody
    · cases hbody
    split at hbody
    · cases hbody
    split at hbody
    · cases hbody
    split at hbody
    · cases hbody
    rename_i made hmade
    have hplans := (planPairedCommon_ok hmade).plans
    unfold configureContactThresholds at hbody
    split at hbody
    · cases hbody
    · cases hbody
      exact ⟨hplans.kind, hplans.active, hplans.tolerance⟩

/-! ## §2. The dwell of a Cartesian command. -/

/-- A dwell that ends at `last`: it began at `startNs`, every cycle of it found
    the joints of both arms within tolerance, it spans three cycle periods, and
    both arms delivered three generations after its first. -/
structure DwellAtJoints (plan : MotionPlan F) (startNs : Nat) (last : Controller F)
    (dwell : List (Controller F)) : Prop where
  ends : dwell.getLast? = some last
  joints : ∀ c ∈ dwell, ∀ side, c.JointsWithin plan side
  spans : ∃ first, dwell.head? = some first ∧ first.nowNs = startNs ∧
    3 * last.options.cycleNs ≤ last.nowNs - first.nowNs
  generations : ∃ marks : List (Controller F),
    marks.Sublist dwell ∧ 4 ≤ marks.length ∧ marks.IsChain Renewed

/-- Every cycle of the dwell found the TCPs of both arms within `tol`. -/
def DwellAtTcp (L : ModelLibrary F) (plan : MotionPlan F) (tol : F)
    (dwell : List (Controller F)) : Prop :=
  ∀ c ∈ dwell, ∀ side, c.TcpWithin L (plan.targetTcp side) tol side

/-- **The dwell of a completed Cartesian command.**  The newest cycles of the
    record are its dwell; where the plan is PAIRED_TCP, the TCPs were within the
    tolerance of the request too. -/
theorem completion_dwell (L : ModelLibrary F) {p q r : World F × List (Controller F)}
    {es : List (Label F)} {e : Label F} {op : Op F} {move : TcpMove F} {kind : PlanKind}
    {plan : MotionPlan F} (hinit : (observed L).init p) (hrun : (observed L).Run p es q)
    (hstep : (observed L).step q e r) (hop : Cartesian op move kind)
    (hplanned : (op, ⟨.ok, .plan plan⟩) ∈ es)
    (hcompletes : Completes q.1.controller r.1.controller plan) :
    ∃ before dwell, r.2 = before ++ dwell ∧
      DwellAtJoints plan q.1.controller.settleStartNs r.1.controller dwell ∧
        (kind = .pairedTcp → DwellAtTcp L plan move.tcpTolM dwell) := by
  obtain ⟨a, b, hmade⟩ := hrun.of_history.step_of_mem hplanned
  have hplans := cartesian_plans hop hmade
  obtain ⟨before, dwell, d, hsplit, hcounted, hover, hstart, hcycle⟩ :=
    completes_dwelt L hinit hrun hstep hcompletes
  have hactive : ∀ side, plan.activeArmMask side = true := by
    intro side
    rw [hplans.active]
  refine ⟨before, dwell ++ [r.1.controller], by rw [hsplit, List.append_assoc], ⟨?_, ?_, ?_, ?_⟩,
    fun hkind c hc side => ?_⟩
  · exact List.getLast?_concat
  · intro c hc side
    exact (hcounted.goal c hc side (hactive side)).1
  · obtain ⟨first, hhead, hbegan⟩ := hcounted.begins
    refine ⟨first, hhead, hbegan.trans hstart, ?_⟩
    have hspan := hover.2
    rw [hcycle, ← hbegan] at hspan
    omega
  · obtain ⟨marks, last, hsub, hchain, hcount, -⟩ := hcounted.marks
    refine ⟨marks ++ [last], hsub, ?_, hchain⟩
    have hthree := hover.1
    rw [List.length_append, List.length_singleton]
    omega
  · have htcp := (hcounted.goal c hc side (hactive side)).2 (hplans.kind.trans hkind)
    rw [hplans.tolerance] at htcp
    exact htcp

/-- **Measured Cartesian completion.**  In every run, a command of `plan_paired`
    that ends with COMPLETED dwelt at its goal: joints and TCPs of both arms. -/
theorem measured_completion (L : ModelLibrary F) {p q r : World F × List (Controller F)}
    {es : List (Label F)} {e : Label F} {op : Op F} {move : TcpMove F} {kind : PlanKind}
    {plan : MotionPlan F} (hinit : (observed L).init p) (hrun : (observed L).Run p es q)
    (hstep : (observed L).step q e r) (hop : Cartesian op move kind)
    (hplanned : (op, ⟨.ok, .plan plan⟩) ∈ es)
    (hcompletes : Completes q.1.controller r.1.controller plan)
    (hpaired : ∃ request, op = .planPaired request) :
    ∃ before dwell, r.2 = before ++ dwell ∧
      DwellAtJoints plan q.1.controller.settleStartNs r.1.controller dwell ∧
        DwellAtTcp L plan move.tcpTolM dwell := by
  obtain ⟨before, dwell, hsplit, hjoints, htcp⟩ :=
    completion_dwell L hinit hrun hstep hop hplanned hcompletes
  refine ⟨before, dwell, hsplit, hjoints, htcp ?_⟩
  obtain ⟨request, rfl⟩ := hpaired
  cases hop
  rfl

/-! ## §3. A frozen controller. -/

/-- What every joint of the standard controller measures at rest: the encoder
    position nearest to zero. -/
def restQ : ℚ := 811000 / 65535 - 12375 / 1000

/-- A model library of two arms that move along x with their first joint. -/
def leverLibrary : ModelLibrary ℚ where
  forward := fun _ q => some ⟨fun _ _ => 0, fun _ _ => 0, fun _ => 0, ![q 0, 0, 0]⟩
  inverse := fun _ target _ => some ⟨fun j => if j = 0 then target 0 else restQ, target, 0, 1⟩
  collision := fun _ _ _ _ =>
    ⟨true, { (keepoutZero : KeepoutStatus ℚ) with clear := true, minimumClearanceM := 1 }⟩

theorem leverLibrary_clear (q : Side → JointVector ℚ) (policy : ContactPolicy) :
    (keepoutClear leverLibrary q policy).2 = true := rfl

/-- The simulated fault that freezes every motor of one arm. -/
def freezeFault (side : Side) : SimFault where
  side := side.val
  freezeMask := kAllJoints
  dropMask := 0
  faultMask := 0
  faultStatus := 0
  commandFailMask := 0
  feedbackDelayNs := 0

/-- An arm whose motors are frozen. -/
def ArmRuntime.freeze (r : ArmRuntime F) : ArmRuntime F := r.setInjection kAllJoints 0 0 8 0 0

/-- The world with one arm frozen. -/
def World.freeze (w : World F) (side : Side) : World F :=
  { w with
    controller :=
      { w.controller with
        arm := Function.update w.controller.arm side (w.controller.arm side).freeze } }

omit [Floating F] in
theorem freeze_both (w : World F) : (w.freeze 0).freeze 1 =
    { w with
      controller :=
        { w.controller with arm := fun side => (w.controller.arm side).freeze } } := by
  have harm : ((w.freeze 0).freeze 1).controller.arm =
      fun side => (w.controller.arm side).freeze := by
    funext side
    match side with
    | 0 => rfl
    | 1 => rfl
  show ({ w with
    controller := { w.controller with arm := ((w.freeze 0).freeze 1).controller.arm } } :
      World F) = _
  rw [harm]

theorem freeze_call (L : ModelLibrary F) {w : World F} (hvirtual : w.controller.isVirtual = true)
    (side : Side) : (call L w (.setSimFault (freezeFault side))).1 = w.freeze side := by
  have hside : sideOf (freezeFault side).side = some side := by
    unfold sideOf freezeFault
    rw [dif_pos side.isLt]
  have hall : withinJoints kAllJoints = true := by decide
  show (plain w (w.controller.setSimFault (freezeFault side))).1 = _
  unfold setSimFault
  rw [hvirtual]
  simp only [Bool.not_true, Bool.false_eq_true, if_false, hside]
  simp [freezeFault, hall]
  rfl

/-- A forced and frozen arm repeats what was forced. -/
theorem ArmRuntime.frozen_forceState (r : ArmRuntime F) (q dq : JointVector F) (nowNs : Nat)
    (hfree : ∀ j, (r.motor j).blocked = false) (hnoFault : ∀ j, (r.motor j).faultStatus = 0) :
    (r.forceState q dq nowNs).freeze.Frozen nowNs := by
  have hnone : ∀ j, hasJoint (0 &&& kAllJoints) j = false := by decide
  have hclean : ∀ j, ((r.forceState q dq nowNs).freeze.motor j).faultStatus = 0 := by
    intro j
    show (if hasJoint (0 &&& kAllJoints) j then _ else 0) = 0
    rw [hnone j]
    rfl
  refine ⟨rfl, rfl, rfl, rfl, rfl, rfl, rfl, hfree, hclean, fun j => ?_⟩
  have hplant : SamePlant ((r.forceState q dq nowNs).motor j)
      ((r.forceState q dq nowNs).freeze.motor j) :=
    ⟨rfl, rfl, rfl, rfl, (hclean j).trans (hnoFault j).symm, rfl⟩
  have hdata := hplant.frame (hfree j) nowNs nowNs
  have hforced : ((r.forceState q dq nowNs).motor j).measured =
      (((r.forceState q dq nowNs).motor j).publish
        (((r.forceState q dq nowNs).motor j).frameAt nowNs)).measured := rfl
  show ((r.forceState q dq nowNs).motor j).measured = _
  rw [hforced]
  unfold DamiaoMotorSimulator.publish
  dsimp only
  rw [hdata]
  rfl

/-- The armed standard controller with both arms frozen. -/
def frozenWorld : World ℚ :=
  (call leverLibrary (call leverLibrary (armedWorld leverLibrary) (.setSimFault (freezeFault 0))).1
    (.setSimFault (freezeFault 1))).1

theorem armedWorld_virtual (L : ModelLibrary F) : (armedWorld L).controller.isVirtual = true := by
  obtain ⟨event, heq⟩ := armedWorld_eq L
  rw [heq]
  rfl

theorem frozenWorld_eq : frozenWorld =
    { armedWorld leverLibrary with
      controller :=
        { (armedWorld leverLibrary).controller with
          arm := fun side => ((armedWorld leverLibrary).controller.arm side).freeze } } := by
  have hvirtual := armedWorld_virtual leverLibrary
  unfold frozenWorld
  have hnext : ((armedWorld leverLibrary).freeze 0).controller.isVirtual = true := hvirtual
  rw [freeze_call leverLibrary hvirtual 0, freeze_call leverLibrary hnext 1, freeze_both]

/-- The frozen world is reached from the first controller of a process. -/
theorem frozenWorld_run : ∃ es, (system leverLibrary).Run (standardWorld ℚ) es frozenWorld :=
  ⟨_, ((armedWorld_run leverLibrary).snoc (call_step leverLibrary _ (.setSimFault (freezeFault 0)))).snoc
    (call_step leverLibrary _ (.setSimFault (freezeFault 1)))⟩

theorem frozenWorld_frozen (side : Side) : (frozenWorld.controller.arm side).Frozen 0 := by
  obtain ⟨event, heq⟩ := armedWorld_eq leverLibrary
  rw [frozenWorld_eq]
  show ((armedWorld leverLibrary).controller.arm side).freeze.Frozen 0
  rw [heq]
  exact ArmRuntime.frozen_forceState _ _ _ 0 (fun _ => rfl) fun _ => rfl

/-- An armed idle controller at time 0 with both arms frozen. -/
structure FrozenIdle (w : World ℚ) : Prop where
  latch : w.latch = false
  lifecycle : w.controller.lifecycle = .armedIdle
  now : w.controller.nowNs = 0
  options : w.controller.options = standardOptions
  events : w.controller.events.count = 2
  contact : ∀ side, (w.controller.simContact side).enabled = false
  seq : ∀ side, (w.controller.arm side).feedbackSeq = 2
  frozen : ∀ side, (w.controller.arm side).Frozen 0

theorem frozenWorld_idle : FrozenIdle frozenWorld := by
  obtain ⟨event, heq⟩ := armedWorld_eq leverLibrary
  have hfrozen := frozenWorld_frozen
  rw [frozenWorld_eq] at hfrozen ⊢
  refine ⟨rfl, ?_, ?_, ?_, ?_, ?_, ?_, hfrozen⟩
  · show (armedWorld leverLibrary).controller.lifecycle = _
    rw [heq]
    rfl
  · show (armedWorld leverLibrary).controller.nowNs = _
    rw [heq]
    rfl
  · show (armedWorld leverLibrary).controller.options = _
    rw [heq]
    rfl
  · show (armedWorld leverLibrary).controller.events.count = _
    rw [heq]
    have hone : (verifiedWorld leverLibrary).controller.events.count = 1 := rfl
    show ((verifiedWorld leverLibrary).controller.events.push event).count = 2
    rw [Ring.count_push _ _ (by rw [hone]; decide), hone]
  · show ∀ side, ((armedWorld leverLibrary).controller.simContact side).enabled = false
    rw [heq]
    exact fun _ => rfl
  · show ∀ side, ((armedWorld leverLibrary).controller.arm side).feedbackSeq = 2
    rw [heq]
    exact fun _ => rfl

/-- Start now, and feed the command for ten seconds. -/
def tenSeconds : ExecuteRequest where
  startNs := 0
  expiryNs := 10000000000
  producerDeadlineNs := 10000000000
  stopKind := .controlled

namespace FrozenIdle

variable {w : World ℚ} {request : PairedPlanRequest ℚ} {plan : MotionPlan ℚ}

theorem startNs (h : FrozenIdle w) : w.controller.startNs tenSeconds = 0 := by
  have hzero : tenSeconds.startNs = 0 := rfl
  unfold Controller.startNs
  rw [if_pos hzero]
  exact h.now

/-- It takes a plan it just made. -/
theorem accepts (hw : FrozenIdle w) (h : w.controller.PairedPlan request plan)
    (hexpiry : request.expiryNs = 10000000000) (hduration : plan.durationNs ≤ 2000000000) :
    w.controller.acceptsExecute plan tenSeconds = true := by
  have hnow := hw.now
  have hfresh : w.controller.fresh = true := by
    unfold Controller.fresh
    rw [feedbackIntegrity_frozen hw.frozen (by omega) (by omega)]
    rfl
  have hhealthy := healthy_frozen hw.frozen
  have hpose : w.controller.startPoseMatches plan = true := by
    unfold startPoseMatches
    rw [h.start]
    simp only [List.all_eq_true]
    intro side _ joint _
    have hsame : w.controller.measuredPose side joint =
        (w.controller.arm side).measuredQ joint := rfl
    rw [hsame, sub_self]
    decide +kernel
  have hstale : w.controller.planStale plan = false := by
    unfold planStale
    rw [hpose, h.manifestRevision, h.modelRevision, h.scene, h.seed]
    simp
  have hvalid : w.controller.executeInvalid plan tenSeconds = false := by
    have hplanExpiry : plan.expiryNs = 10000000000 := h.expiry.trans hexpiry
    have hrequest : tenSeconds.expiryNs = 10000000000 ∧
        tenSeconds.producerDeadlineNs = 10000000000 ∧ tenSeconds.stopKind = .controlled :=
      ⟨rfl, rfl, rfl⟩
    unfold executeInvalid
    simp only [hw.startNs, hnow, hplanExpiry, hrequest]
    simp
    omega
  unfold acceptsExecute
  rw [hw.lifecycle, hfresh, hhealthy, hstale, hvalid, h.instanceId, h.epoch]
  simp

/-- **It completes**, provided the pose it is frozen in meets the goal. -/
theorem completes {L : ModelLibrary ℚ} (hw : FrozenIdle w)
    (hclear : ∀ q policy, (keepoutClear L q policy).2 = true)
    (h : w.controller.PairedPlan request plan)
    (hexpiry : request.expiryNs = 10000000000) (hduration : plan.durationNs ≤ 2000000000)
    (hgoal : w.controller.AtGoal L plan) :
    ∃ es w₁ e w₂, (system L).Run w es w₁ ∧
      (system L).step w₁ e w₂ ∧ Completes w₁.controller w₂.controller plan ∧
        ∀ side, (w₂.controller.arm side).measuredQ =
          (w.controller.arm side).measuredQ := by
  have hnow := hw.now
  obtain ⟨started, hstarted⟩ : ∃ c : Controller ℚ,
      c = w.controller.startCommand L plan tenSeconds := ⟨_, rfl⟩
  have hroom : started.events.count < kEventCapacity := by
    rw [hstarted]
    show w.controller.events.count < kEventCapacity
    rw [hw.events]
    decide
  -- the call is accepted and its event fits the ring
  obtain ⟨event, hpublish⟩ := started.publishReturning_of_room
    (if started.commandStarted then .started else .queued) .ok .ok
    w.controller.nextCommandId hroom
  have hexec : w.controller.execute L plan tenSeconds =
      ({ started with events := started.events.push event }, .ok) := by
    rw [w.controller.execute_of_accepts L plan tenSeconds
      (hw.accepts h hexpiry hduration), ← hstarted]
    exact hpublish
  obtain ⟨response, hcall⟩ : ∃ response,
      (system L).step w (.execute plan tenSeconds, response)
        { w with
          controller := { started with events := started.events.push event } } := by
    refine ⟨(executed w
      (w.controller.execute L plan tenSeconds)).2, Prod.ext ?_ rfl⟩
    show ({ w with controller :=
      (w.controller.execute L plan tenSeconds).1 } : World ℚ) = _
    rw [hexec]
  -- what the cycles after it start from
  have hdue : started.dueNs plan = plan.durationNs := by
    unfold dueNs
    rw [hstarted]
    show w.controller.startNs tenSeconds + plan.durationNs = _
    rw [hw.startNs, Nat.zero_add]
  have hcycle : started.options.cycleNs = 10000000 := by
    rw [hstarted]
    show w.controller.options.cycleNs = _
    rw [hw.options]
    rfl
  have hsnow : started.nowNs = 0 := by
    rw [hstarted]
    exact hnow
  have harm : started.arm = w.controller.arm := by
    rw [hstarted]
    rfl
  -- from here on the frozen arms wait for the end of the plan
  have hwaits : Waits L plan (fun side => (w.controller.arm side).measuredQ)
      { w with
        controller := { started with events := started.events.push event } } := by
    refine ⟨hw.latch, ⟨?_, ?_, ?_, h.quiet, ?_, ?_⟩, ⟨?_, ?_, fun side => ?_⟩,
      hgoal.of_arm harm, fun side => congrArg ArmRuntime.measuredQ (congrFun harm side), ?_, ?_, ?_⟩
    · show started.lifecycle = .executing
      rw [hstarted]
      rfl
    · show started.executing = some plan
      rw [hstarted]
      rfl
    · show started.commandStarted = true
      rw [hstarted]
      show decide (w.controller.startNs tenSeconds = w.controller.nowNs) = true
      rw [hw.startNs, hnow]
      rfl
    · show ∀ side, (started.simContact side).enabled = false
      rw [hstarted]
      exact hw.contact
    · show ∀ side, (started.arm side).Frozen started.nowNs
      rw [harm, hsnow]
      exact hw.frozen
    · show started.dueNs plan + 5 * started.options.cycleNs ≤ started.producerDeadlineNs
      have hdeadline : started.producerDeadlineNs = 10000000000 := by
        rw [hstarted]
        rfl
      omega
    · show started.dueNs plan + 5 * started.options.cycleNs ≤ started.commandExpiryNs
      have hdeadline : started.commandExpiryNs = 10000000000 := by
        rw [hstarted]
        rfl
      omega
    · show (started.arm side).feedbackSeq +
        (started.dueNs plan + 5 * started.options.cycleNs - started.nowNs) ≤ maxU64
      rw [harm, hw.seq side, hdue, hcycle, hsnow]
      unfold maxU64
      omega
    · show (started.events.push event).count + 2 ≤ kEventCapacity
      have hone : started.events.count = 2 := by
        rw [hstarted]
        exact hw.events
      rw [Ring.count_push _ _ hroom, hone]
      decide
    · show started.settleStartNs = 0
      rw [hstarted]
      rfl
    · show started.nowNs ≤ started.dueNs plan
      omega
  obtain ⟨es, w₁, e, w₂, hrun, hstep, hcompletes, hpose⟩ :=
    frozen_completes hclear hwaits
  exact ⟨_, w₁, e, w₂, .cons hcall hrun, hstep, hcompletes, hpose⟩

end FrozenIdle

/-! ## §4. A paired and a centroid command. -/

/-- Keep both TCPs where they are, to a tenth of a millimetre. -/
def standStill : TcpMove ℚ where
  expiryNs := 10000000000
  requiredFeedbackSeq := fun _ => 2
  velocityScale := 1
  accelerationScale := 1
  jerkScale := 1
  tcpTolM := 1 / 10000
  collisionSceneRevision := 1
  maxBranchStepRad := 1
  minSingularValue := 0

/-- The TCPs of the frozen arms as the target. -/
def pairedStandStill : PairedTcpMove ℚ where
  toTcpMove := standStill
  leftTcpM := ![(frozenWorld.controller.arm 0).measuredQ 0, 0, 0]
  rightTcpM := ![(frozenWorld.controller.arm 1).measuredQ 0, 0, 0]

/-- Their midpoint, four tenths of a millimetre away. -/
def centroidNudge : CentroidTcpMove ℚ where
  toTcpMove := standStill
  targetCentroidM := ![4 / 10000, 0, 0]

/-- The plan takes two seconds at most, and the pose of `c` meets its goal. -/
def fits (c : Controller ℚ) (plan : MotionPlan ℚ) : Bool :=
  decide (plan.durationNs ≤ 2000000000) &&
    ({ c with executing := some plan } : Controller ℚ).measuredAtGoal leverLibrary

theorem fits_goal {c : Controller ℚ} {plan : MotionPlan ℚ} (h : fits c plan = true) :
    plan.durationNs ≤ 2000000000 ∧ c.AtGoal leverLibrary plan := by
  unfold fits at h
  rw [Bool.and_eq_true, decide_eq_true_eq] at h
  have hgoal := (measuredAtGoal_iff (c := { c with executing := some plan }) leverLibrary rfl).mp
    h.2
  exact ⟨h.1, hgoal.of_arm rfl⟩

theorem pairedStandStill_fits :
    (match (frozenWorld.controller.planPaired leverLibrary false pairedStandStill).2 with
      | .ok plan => fits frozenWorld.controller plan
      | .error _ => false) = true := by
  decide +kernel

theorem centroidNudge_fits :
    (match (frozenWorld.controller.planCentroid leverLibrary false centroidNudge).2 with
      | .ok plan => fits frozenWorld.controller plan && decide (standStill.tcpTolM <
          tcpDistance ![(frozenWorld.controller.arm 0).measuredQ 0, 0, 0] (plan.targetTcp 0))
      | .error _ => false) = true := by
  decide +kernel

/-- The plan a call of a planner made, as a step. -/
theorem planned_step {L : ModelLibrary ℚ} {w : World ℚ} {op : Op ℚ} {latch : Bool}
    {body : Except ControlStatus (MotionPlan ℚ)} {plan : MotionPlan ℚ}
    (hcall : call L w op = planned w (w.controller.planCartesian latch body))
    (hplan : (w.controller.planCartesian latch body).2 = .ok plan) :
    (system L).step w (op, ⟨.ok, .plan plan⟩) w ∧ body = .ok plan := by
  obtain ⟨hstate, hbody⟩ := planCartesian_ok hplan
  refine ⟨?_, hbody⟩
  show call L w op = (w, _)
  rw [hcall]
  unfold planned
  rw [hstate, hplan]

/-- A command of the frozen controller, from the first controller of the process
    to its COMPLETED. -/
structure Episode (op : Op ℚ) (plan : MotionPlan ℚ) (p q r : World ℚ × List (Controller ℚ))
    (es : List (Label ℚ)) (e : Label ℚ) : Prop where
  init : (observed leverLibrary).init p
  run : (observed leverLibrary).Run p es q
  step : (observed leverLibrary).step q e r
  planned : (op, ⟨.ok, .plan plan⟩) ∈ es
  completes : Completes q.1.controller r.1.controller plan
  pose : ∀ side, (r.1.controller.arm side).measuredQ = (frozenWorld.controller.arm side).measuredQ

/-- Every plan that fits the frozen pose has one. -/
theorem frozenWorld_episode {op : Op ℚ} {latch : Bool} {request : PairedPlanRequest ℚ}
    {body : Except ControlStatus (MotionPlan ℚ)} {plan : MotionPlan ℚ}
    (hcall : call leverLibrary frozenWorld op =
      planned frozenWorld (frozenWorld.controller.planCartesian latch body))
    (hplan : (frozenWorld.controller.planCartesian latch body).2 = .ok plan)
    (hpaired : frozenWorld.controller.PairedPlan request plan)
    (hexpiry : request.expiryNs = 10000000000)
    (hfits : fits frozenWorld.controller plan = true) :
    ∃ p q r es e, Episode op plan p q r es e := by
  obtain ⟨hduration, hgoal⟩ := fits_goal hfits
  obtain ⟨es, hbefore⟩ := frozenWorld_run
  obtain ⟨hmade, -⟩ := planned_step hcall hplan
  obtain ⟨es', w, e, w', hafter, hstep, hcompletes, hpose⟩ :=
    frozenWorld_idle.completes leverLibrary_clear hpaired hexpiry hduration hgoal
  obtain ⟨past, hrun⟩ : ∃ past, (observed leverLibrary).Run (standardWorld ℚ, []) _ (w, past) :=
    ((hbefore.snoc hmade).append hafter).with_history []
  refine ⟨(standardWorld ℚ, []), (w, past), (w', recordCycle past w e w'), _, e,
    ⟨standardWorld_initial, rfl⟩, hrun, ⟨hstep, rfl⟩, ?_, hcompletes, hpose⟩
  exact List.mem_append_left _ (List.mem_append_right _ (List.mem_singleton.mpr rfl))

/-- The paired command completes with both TCPs on target. -/
theorem measured_completion_stand_still :
    ∃ p q r es e plan before dwell, Episode (.planPaired pairedStandStill) plan p q r es e ∧
      r.2 = before ++ dwell ∧
        DwellAtJoints plan q.1.controller.settleStartNs r.1.controller dwell ∧
          DwellAtTcp leverLibrary plan standStill.tcpTolM dwell := by
  have hfits := pairedStandStill_fits
  split at hfits
  · rename_i plan hplan
    obtain ⟨-, hbody⟩ := planCartesian_ok hplan
    have hcall : call leverLibrary frozenWorld (.planPaired pairedStandStill) =
        planned frozenWorld
          (frozenWorld.controller.planPaired leverLibrary false pairedStandStill) := by
      rw [← frozenWorld_idle.latch]
      rfl
    obtain ⟨p, q, r, es, e, h⟩ :=
      frozenWorld_episode hcall hplan (planPairedCommon_ok hbody) rfl hfits
    obtain ⟨before, dwell, hdwell⟩ := measured_completion leverLibrary h.init h.run h.step
      (.paired pairedStandStill) h.planned h.completes ⟨pairedStandStill, rfl⟩
    exact ⟨p, q, r, es, e, plan, before, dwell, h, hdwell⟩
  · cases hfits

/-- A centroid command completes although the TCP it ends with is out of the
    tolerance of its request. -/
theorem centroid_off_target :
    ∃ p q r es e plan, Episode (.planCentroid centroidNudge) plan p q r es e ∧
      ¬ r.1.controller.TcpWithin leverLibrary (plan.targetTcp 0) standStill.tcpTolM 0 ∧
        ¬ ∃ before dwell, r.2 = before ++ dwell ∧
          DwellAtJoints plan q.1.controller.settleStartNs r.1.controller dwell ∧
            DwellAtTcp leverLibrary plan standStill.tcpTolM dwell := by
  have hfits := centroidNudge_fits
  split at hfits
  · rename_i plan hplan
    rw [Bool.and_eq_true, decide_eq_true_eq] at hfits
    obtain ⟨-, hbody⟩ := planCartesian_ok hplan
    have hpaired : ∃ request, frozenWorld.controller.PairedPlan request plan ∧
        request.expiryNs = 10000000000 := by
      split at hbody
      · cases hbody
      split at hbody
      · simp only [bind, Except.bind] at hbody
        split at hbody
        · cases hbody
        · exact ⟨_, planPairedCommon_ok hbody, rfl⟩
      · cases hbody
    obtain ⟨request, hmade, hexpiry⟩ := hpaired
    have hcall : call leverLibrary frozenWorld (.planCentroid centroidNudge) =
        planned frozenWorld
          (frozenWorld.controller.planCentroid leverLibrary false centroidNudge) := by
      rw [← frozenWorld_idle.latch]
      rfl
    obtain ⟨p, q, r, es, e, h⟩ := frozenWorld_episode hcall hplan hmade hexpiry hfits.1
    have hoff : ¬ r.1.controller.TcpWithin leverLibrary (plan.targetTcp 0) standStill.tcpTolM 0 := by
      rintro ⟨fk, hforward, hwithin⟩
      refine hwithin ?_
      rw [← Option.some.inj hforward, h.pose 0]
      exact hfits.2
    refine ⟨p, q, r, es, e, plan, h, hoff, ?_⟩
    rintro ⟨before, dwell, -, hjoints, htcp⟩
    -- The dwell ends with the cycle that completed the command.
    exact hoff (htcp _ (List.mem_of_getLast? hjoints.ends) 0)
  · cases hfits

end OpenArm.Control
