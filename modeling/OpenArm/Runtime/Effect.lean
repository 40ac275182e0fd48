/-
  OpenArm.Runtime.Effect — what one step of the runtime can do.

  Main results:
    * `world_step` — a step makes at most one call of the controller, which
      its event shows.
    * `world_run` — hence a run of the runtime is a run of the controller.
    * `initial_run` — a created runtime is one too.
    * `motionStep_ground`, `calibrationStep_ground`, `startCall_ground` — the
      callers leave the latch, the clocks and the options alone.
-/
import OpenArm.Runtime.System
import OpenArm.Control.Estop

namespace OpenArm.Runtime

open OpenArm.Lib OpenArm.Control

variable {F : Type} [Floating F]

/-! ## §1. Calls of the controller. -/

/-- The controller call an event shows. -/
def Event.call? : Event F → Option (Control.Label F)
  | .called label => some label
  | _ => none

/-- The event shows exactly what happened to the controller and the latch. -/
def Calls (L : ModelLibrary F) (w : World F) (event : Event F) (w' : World F) : Prop :=
  match event.call? with
  | some label => (Control.system L).step w label w'
  | none => w' = w

omit [Floating F] in
theorem world_acquireAuthority (s : RuntimeData F) (id expiryNs : Nat) :
    (s.acquireAuthority id expiryNs).1.world = s.world := by
  unfold RuntimeData.acquireAuthority
  split <;> rfl

omit [Floating F] in
theorem world_destructPlan (s : RuntimeData F) (id : Nat) :
    (s.destructPlan id).world = s.world := by
  unfold RuntimeData.destructPlan
  split
  · rfl
  · split <;> rfl

theorem world_captureFeedbackClock (s : RuntimeData F) (controllerNow facadeNow : Nat) :
    (s.captureFeedbackClock controllerNow facadeNow).world = s.world := by
  unfold RuntimeData.captureFeedbackClock
  split <;> rfl

section Families

variable (L : ModelLibrary F) {s s' : RuntimeData F} {t : Nat} {around : Surroundings}
  {event : Event F}

theorem workerStep_world {pc pc' : WorkerPc} (h : workerStep L s pc = some (s', pc', event)) :
    Calls L s.world event s'.world := by
  -- a branch of the worker is a call, or leaves the controller alone
  cases pc <;> simp only [workerStep, expirePlan] at h <;> (repeat' split at h) <;> cases h <;>
    first
      | rfl
      | exact call_step L s.world _
      | exact world_captureFeedbackClock s _ _

theorem motionStep_world {pc : MotionPc F} {next : Next (MotionPc F)}
    (h : motionStep L s t around pc = some (s', next, event)) :
    Calls L s.world event s'.world := by
  cases pc <;> simp only [motionStep, failWith] at h <;> (repeat' split at h) <;> cases h <;>
    first
      | rfl
      | exact call_step L s.world _
      | exact world_acquireAuthority s _ _
      | exact world_destructPlan s _

theorem calibrationStep_world {pc : CalibrationPc} {next : Next CalibrationPc}
    (h : calibrationStep s t around pc = some (s', next, event)) :
    Calls L s.world event s'.world := by
  cases pc <;> simp only [calibrationStep, failSession, afterCommission] at h <;>
    (repeat' split at h) <;> cases h <;> rfl

theorem startCall_world {c : Call F} {pc : Pc F}
    (h : startCall s around c = some (s', pc, event)) : Calls L s.world event s'.world := by
  cases c <;>
    simp only [startCall, startPlan, startBegin, startPlanDestroy, startSessionDestroy,
      requireRuntime, reject, refuse, proceed] at h <;>
    (repeat' split at h) <;> cases h <;> rfl

omit [Floating F] in
/-- The first step of a call shows nothing. -/
theorem startCall_silent {c : Call F} {pc : Pc F}
    (h : startCall s around c = some (s', pc, event)) : event = .silent := by
  cases c <;>
    simp only [startCall, startPlan, startBegin, startPlanDestroy, startSessionDestroy,
      requireRuntime, reject, refuse, proceed] at h <;>
    (repeat' split at h) <;> cases h <;> rfl

theorem threadStep_world {pc pc' : Pc F} (h : threadStep L s t around pc = some (s', pc', event)) :
    Calls L s.world event s'.world := by
  cases pc with
  | idle => cases h
  | motion pc =>
    simp only [threadStep, Option.map_eq_some_iff] at h
    obtain ⟨⟨s₁, next, shown⟩, hstep, hout⟩ := h
    cases hout
    exact motionStep_world L hstep
  | calibration pc =>
    simp only [threadStep, Option.map_eq_some_iff] at h
    obtain ⟨⟨s₁, next, shown⟩, hstep, hout⟩ := h
    cases hout
    exact calibrationStep_world L hstep
  | erase => cases h; rfl
  | returning status => cases h; rfl

end Families

/-! ## §2. What the callers never write. -/

/-- The latch, the options and the clocks. -/
structure Ground where
  latch : Bool
  hostNs : Nat
  options : RuntimeOptions
  controllerTimelineNs : Nat

def RuntimeData.ground (s : RuntimeData F) : Ground :=
  ⟨s.latch, s.hostNs, s.options, s.controllerTimelineNs⟩

omit [Floating F] in
theorem ground_acquireAuthority (s : RuntimeData F) (id expiryNs : Nat) :
    (s.acquireAuthority id expiryNs).1.ground = s.ground := by
  unfold RuntimeData.acquireAuthority
  split <;> rfl

omit [Floating F] in
theorem ground_destructPlan (s : RuntimeData F) (id : Nat) :
    (s.destructPlan id).ground = s.ground := by
  unfold RuntimeData.destructPlan
  split
  · rfl
  · split <;> rfl

theorem ground_control_plan (L : ModelLibrary F) (s : RuntimeData F) (request : PlanRequest F)
    (controllerExpiry : Nat) : (s.control L (request.op controllerExpiry)).1.ground = s.ground := by
  cases request <;> rfl

section Ground

variable (L : ModelLibrary F) {s s' : RuntimeData F} {t : Nat} {around : Surroundings}
  {event : Event F}

theorem motionStep_ground {pc : MotionPc F} {next : Next (MotionPc F)}
    (h : motionStep L s t around pc = some (s', next, event)) : s'.ground = s.ground := by
  cases pc <;> simp only [motionStep, failWith] at h <;> (repeat' split at h) <;> cases h <;>
    first
      | rfl
      | exact ground_acquireAuthority s _ _
      | exact ground_destructPlan s _
      | exact ground_control_plan L s _ _

theorem calibrationStep_ground {pc : CalibrationPc} {next : Next CalibrationPc}
    (h : calibrationStep s t around pc = some (s', next, event)) : s'.ground = s.ground := by
  cases pc <;> simp only [calibrationStep, failSession, afterCommission] at h <;>
    (repeat' split at h) <;> cases h <;> rfl

omit [Floating F] in
theorem startCall_ground {c : Call F} {pc : Pc F}
    (h : startCall s around c = some (s', pc, event)) : s'.ground = s.ground := by
  cases c <;>
    simp only [startCall, startPlan, startBegin, startPlanDestroy, startSessionDestroy,
      requireRuntime, reject, refuse, proceed] at h <;>
    (repeat' split at h) <;> cases h <;> rfl

theorem threadStep_ground {pc pc' : Pc F}
    (h : threadStep L s t around pc = some (s', pc', event)) : s'.ground = s.ground := by
  cases pc with
  | idle => cases h
  | motion pc =>
    simp only [threadStep, Option.map_eq_some_iff] at h
    obtain ⟨⟨s₁, next, shown⟩, hstep, hout⟩ := h
    cases hout
    exact motionStep_ground L hstep
  | calibration pc =>
    simp only [threadStep, Option.map_eq_some_iff] at h
    obtain ⟨⟨s₁, next, shown⟩, hstep, hout⟩ := h
    cases hout
    exact calibrationStep_ground hstep
  | erase => cases h; rfl
  | returning status => cases h; rfl

end Ground

/-! ## §3. The steps of the machine. -/

/-- What a step is, by who takes it. -/
inductive Taken (L : ModelLibrary F) (r : Machine F) : Action F → Event F → Machine F → Prop where
  | worker {data : RuntimeData F} {pc : WorkerPc} {event : Event F}
      (h : workerStep L r.data r.worker = some (data, pc, event)) :
      Taken L r .worker event { r with data := data, worker := pc }
  | start {t : Nat} {c : Call F} {around : Surroundings} {data : RuntimeData F} {pc : Pc F}
      {event : Event F} (hidle : r.threads t = .idle)
      (h : startCall r.data around c = some (data, pc, event)) :
      Taken L r (.start t c around) event
        { r with data := data, threads := Function.update r.threads t pc }
  | resume {t : Nat} {around : Surroundings} {data : RuntimeData F} {pc : Pc F} {event : Event F}
      (h : threadStep L r.data t around (r.threads t) = some (data, pc, event)) :
      Taken L r (.resume t around) event
        { r with data := data, threads := Function.update r.threads t pc }
  | tick (elapsedNs : Nat) :
      Taken L r (.tick elapsedNs) .silent
        { r with data := { r.data with hostNs := r.data.hostNs + elapsedNs } }
  | estopAssert :
      Taken L r .estopAssert (.called (.estopAssert, ⟨.ok, .none⟩))
        { r with data := { r.data with latch := true } }
  | estopClear :
      Taken L r .estopClear (.called (.estopClear, ⟨.ok, .none⟩))
        { r with data := { r.data with latch := false } }

/-- Every step is one of these. -/
theorem step_taken {L : ModelLibrary F} {r r' : Machine F} {e : Label F}
    (h : (system L).step r e r') : Taken L r e.1 e.2 r' := by
  obtain ⟨action, event⟩ := e
  have h : r.step L action = some (r', event) := h
  cases action with
  | worker =>
    simp only [Machine.step, Option.map_eq_some_iff] at h
    obtain ⟨⟨data, pc, shown⟩, hstep, hout⟩ := h
    cases hout
    exact .worker hstep
  | start t c around =>
    simp only [Machine.step] at h
    split at h
    · rename_i hidle
      simp only [Option.map_eq_some_iff] at h
      obtain ⟨⟨data, pc, shown⟩, hstep, hout⟩ := h
      cases hout
      exact .start hidle hstep
    · cases h
  | resume t around =>
    simp only [Machine.step, Option.map_eq_some_iff] at h
    obtain ⟨⟨data, pc, shown⟩, hstep, hout⟩ := h
    cases hout
    exact .resume hstep
  | tick elapsedNs => cases h; exact .tick elapsedNs
  | estopAssert => cases h; exact .estopAssert
  | estopClear => cases h; exact .estopClear

/-- **A step makes at most one call of the controller**, and its event shows
    which. -/
theorem world_step {L : ModelLibrary F} {r r' : Machine F} {e : Label F}
    (h : (system L).step r e r') : Calls L r.world e.2 r'.world := by
  obtain ⟨action, event⟩ := e
  cases step_taken h with
  | worker hstep => exact workerStep_world L hstep
  | start _ hstep => exact startCall_world L hstep
  | resume hstep => exact threadStep_world L hstep
  | tick => rfl
  | estopAssert => rfl
  | estopClear => rfl

/-- The controller calls of a run. -/
def controllerCalls (es : List (Label F)) : List (Control.Label F) :=
  es.filterMap fun e => e.2.call?

/-- **A run of the runtime is a run of its controller.** -/
theorem world_run {L : ModelLibrary F} {r r' : Machine F} {es : List (Label F)}
    (h : (system L).Run r es r') :
    (Control.system L).Run r.world (controllerCalls es) r'.world := by
  induction h with
  | nil => exact .nil _
  | snoc _ last ih =>
    have hcall := world_step last
    rw [controllerCalls, List.filterMap_append]
    unfold Calls at hcall
    split at hcall
    · rename_i label hlabel
      simpa [controllerCalls, hlabel] using ih.append (.single hcall)
    · rename_i hsilent
      rw [hcall]
      simpa [controllerCalls, hsilent] using ih

/-! ## §4. Creation. -/

/-- Draining the events of a new controller polls it. -/
theorem drainEvents_run (L : ModelLibrary F) (facadeNow : Nat) (fuel : Nat) (s : RuntimeData F) :
    ∃ es, (unmasked L).Run s.world es (RuntimeData.drainEvents facadeNow fuel s).world ∧
      ∀ e ∈ es, ¬ e.Executes := by
  induction fuel generalizing s with
  | zero => exact ⟨[], .nil _, fun _ he => absurd he List.not_mem_nil⟩
  | succ fuel ih =>
    unfold RuntimeData.drainEvents
    split
    · rename_i controller status event hpoll
      obtain ⟨es, hrest, hexec⟩ := ih (({ s with controller := controller }).storeEvent event facadeNow)
      have hcall : (call L s.world .pollEvent).1 = ⟨s.latch, controller⟩ := by
        show (⟨s.latch, s.controller.pollEvent.1⟩ : World F) = _
        rw [hpoll]
      have hunmasked : ¬ Masks s.world (.pollEvent, (call L s.world .pollEvent).2) := by
        rintro (⟨h, _⟩ | ⟨⟨⟨_, h⟩, _⟩, _⟩) <;> cases h
      have hstep : (unmasked L).step s.world (.pollEvent, (call L s.world .pollEvent).2)
          ⟨s.latch, controller⟩ := ⟨hcall ▸ call_step L s.world .pollEvent, hunmasked⟩
      refine ⟨_, .cons hstep hrest, fun e he => ?_⟩
      rcases List.mem_cons.mp he with rfl | he
      · rintro ⟨⟨_, _, h⟩, _⟩
        cases h
      · exact hexec e he
    · exact ⟨[], .nil _, fun _ he => absurd he List.not_mem_nil⟩

/-- **A created runtime holds a controller that ran without masking a stop and
    without a command.** -/
theorem initial_run {L : ModelLibrary F} {r : Machine F} (h : Machine.Initial L r) :
    ∃ w₀ es, w₀.Initial ∧ (unmasked L).Run w₀ es r.world ∧ ∀ e ∈ es, ¬ e.Executes := by
  obtain ⟨_, _, options, manifest, latch, instanceId, hostNs, facadeNow, hcreate⟩ := h
  unfold RuntimeData.create at hcreate
  split at hcreate
  · cases hcreate
  rename_i controllerOptions _
  let s : RuntimeData F := .fresh options manifest
    (.create manifest.config controllerOptions instanceId) latch hostNs
  have hquiet : ∀ (w : World F) (op : Op F), (op = .openAndVerify ∨ op = .advance hostNs) →
      (unmasked L).step w (op, (call L w op).2) (call L w op).1 := by
    intro w op hop
    refine ⟨call_step L w op, ?_⟩
    rintro (⟨hcartesian, _⟩ | ⟨⟨⟨challenge, harm⟩, _⟩, _⟩)
    · rcases hop with rfl | rfl <;> cases hcartesian
    · have harm : op = .arm challenge := harm
      rcases hop with rfl | rfl <;> cases harm
  dsimp only at hcreate
  split at hcreate
  · cases hcreate
  split at hcreate
  · cases hcreate
  split at hcreate
  · cases hcreate
  injection hcreate with hdata
  let advanced := ((s.control L .openAndVerify).1.control L (.advance hostNs)).1
  obtain ⟨es, hdrain, hexec⟩ := drainEvents_run L facadeNow kEventCapacity
    ({ advanced with hostNs := facadeNow }.captureFeedbackClock hostNs facadeNow)
  have hworld : r.world = (RuntimeData.drainEvents facadeNow kEventCapacity
      ({ advanced with hostNs := facadeNow }.captureFeedbackClock hostNs facadeNow)).world := by
    show r.data.world = _
    rw [← hdata]
  rw [world_captureFeedbackClock] at hdrain
  have hrun := Lts.Run.cons (hquiet s.world .openAndVerify (.inl rfl))
    (Lts.Run.cons (hquiet (s.control L .openAndVerify).1.world (.advance hostNs) (.inr rfl)) hdrain)
  refine ⟨s.world, _, ⟨_, _, _, rfl⟩, hworld ▸ hrun, fun e he => ?_⟩
  rcases List.mem_cons.mp he with rfl | he
  · rintro ⟨⟨_, _, h⟩, _⟩
    cases h
  rcases List.mem_cons.mp he with rfl | he
  · rintro ⟨⟨_, _, h⟩, _⟩
    cases h
  · exact hexec e he

end OpenArm.Runtime
