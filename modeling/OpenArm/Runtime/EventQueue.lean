/-
  OpenArm.Runtime.EventQueue — the events between the controller and a client.

  The worker drains the ring of the controller into the queue of the facade,
  and the callers of `oa_runtime_poll_event` take from there.  The queue has a
  rule of its own: a full queue loses its oldest event, and the runtime goes
  on.

  Main results:
    * `step_events`     — what a step does to the queue.
    * `facade_queue`    — every run: what became of the drained events.
    * `event_lost`      — a drained event that no poll returns.
-/
import OpenArm.Runtime.Standard
import OpenArm.Control.EventRing

namespace OpenArm.Runtime

open OpenArm.Lib OpenArm.Control

variable {F : Type} [Floating F]

/-! ## §1. Drained and delivered. -/

/-- The controller event a step drained. -/
def drainedEvent (event : Event F) : Option Control.Event := event.call?.bind returnedEvent

/-- The event a step handed to a client. -/
def deliveredEvent : Event F → Option EventEvidence
  | .delivered evidence => some evidence
  | _ => none

/-- The event the worker holds between the two queues. -/
def WorkerPc.inFlight : WorkerPc → Option Control.Event
  | .storeEvent _ _ event => some event
  | _ => none

/-- The step of a caller left the queue alone, or took its oldest event. -/
def Takes (s s' : RuntimeData F) (event : Event F) : Prop :=
  s'.events = s.events ∧ deliveredEvent event = none ∧ drainedEvent event = none ∨
    s.events.isEmpty = false ∧ s'.events = s.events.pop ∧ event = .delivered s.events.front

omit [Floating F] in
theorem events_acquireAuthority (s : RuntimeData F) (id expiryNs : Nat) :
    (s.acquireAuthority id expiryNs).1.events = s.events := by
  unfold RuntimeData.acquireAuthority
  split <;> rfl

omit [Floating F] in
theorem events_destructPlan (s : RuntimeData F) (id : Nat) :
    (s.destructPlan id).events = s.events := by
  unfold RuntimeData.destructPlan
  split
  · rfl
  · split <;> rfl

theorem events_captureFeedbackClock (s : RuntimeData F) (controllerNow facadeNow : Nat) :
    (s.captureFeedbackClock controllerNow facadeNow).events = s.events := by
  unfold RuntimeData.captureFeedbackClock
  split <;> rfl

omit [Floating F] in
/-- No planner drains. -/
theorem drained_plan (request : PlanRequest F) (controllerExpiry : Nat)
    (response : Control.Response F) :
    drainedEvent (.called (request.op controllerExpiry, response)) = none := by
  cases request <;> rfl

section Families

variable (L : ModelLibrary F) {s s' : RuntimeData F} {t : Nat} {around : Surroundings}
  {event : Event F}

theorem motionStep_events {pc : MotionPc F} {next : Next (MotionPc F)}
    (h : motionStep L s t around pc = some (s', next, event)) : Takes s s' event := by
  -- only `pollWait` takes an event
  cases pc <;> simp only [motionStep, failWith] at h <;> (repeat' split at h) <;> cases h <;>
    first
      | exact .inl ⟨rfl, rfl, rfl⟩
      | exact .inl ⟨events_acquireAuthority s _ _, rfl, rfl⟩
      | exact .inl ⟨events_destructPlan s _, rfl, rfl⟩
      | exact .inl ⟨rfl, rfl, drained_plan _ _ _⟩
      | exact .inr ⟨‹_›, rfl, rfl⟩

theorem calibrationStep_events {pc : CalibrationPc} {next : Next CalibrationPc}
    (h : calibrationStep s t around pc = some (s', next, event)) : Takes s s' event := by
  cases pc <;> simp only [calibrationStep, failSession, afterCommission] at h <;>
    (repeat' split at h) <;> cases h <;> exact .inl ⟨rfl, rfl, rfl⟩

omit [Floating F] in
theorem startCall_events {c : Call F} {pc : Pc F}
    (h : startCall s around c = some (s', pc, event)) : Takes s s' event := by
  cases c <;>
    simp only [startCall, startPlan, startBegin, startPlanDestroy, startSessionDestroy,
      requireRuntime, reject, refuse, proceed] at h <;>
    (repeat' split at h) <;> cases h <;> exact .inl ⟨rfl, rfl, rfl⟩

theorem threadStep_events {pc pc' : Pc F}
    (h : threadStep L s t around pc = some (s', pc', event)) : Takes s s' event := by
  cases pc with
  | idle => cases h
  | motion pc =>
    simp only [threadStep, Option.map_eq_some_iff] at h
    obtain ⟨⟨s₁, next, shown⟩, hstep, hout⟩ := h
    cases hout
    exact motionStep_events L hstep
  | calibration pc =>
    simp only [threadStep, Option.map_eq_some_iff] at h
    obtain ⟨⟨s₁, next, shown⟩, hstep, hout⟩ := h
    cases hout
    exact calibrationStep_events hstep
  | erase => cases h; exact .inl ⟨rfl, rfl, rfl⟩
  | returning status => cases h; exact .inl ⟨rfl, rfl, rfl⟩

end Families

/-! ## §2. The queue. -/

/-- Over the events `drained` the queue went through `log`. -/
structure Queued (L : ModelLibrary F) (r : Machine F) (event : Event F)
    (log : List (Ring.Entry EventEvidence)) (r' : Machine F) : Prop where
  history : Ring.History r.data.events log r'.data.events
  delivered : log.filterMap Ring.Entry.returned = (deliveredEvent event).toList
  drained : (log.filterMap Ring.Entry.added).map EventEvidence.source ++
      r'.worker.inFlight.toList = r.worker.inFlight.toList ++ (drainedEvent event).toList

omit [Floating F] in
theorem inFlight_workerCheck (s : RuntimeData F) : (workerCheck s).inFlight = none := by
  unfold workerCheck
  split
  · rfl
  · split <;> rfl

/-- A step of the worker. -/
theorem workerStep_events (L : ModelLibrary F) {r : Machine F} {data : RuntimeData F}
    {pc : WorkerPc} {event : Event F}
    (h : workerStep L r.data r.worker = some (data, pc, event)) :
    ∃ log, Queued L r event log { r with data := data, worker := pc } := by
  -- a step that neither drains nor stores leaves the queue and the worker empty-handed
  have hquiet : data.events = r.data.events → deliveredEvent event = none →
      pc.inFlight.toList = r.worker.inFlight.toList ++ (drainedEvent event).toList →
      ∃ log, Queued L r event log { r with data := data, worker := pc } := by
    intro hsame hnone hflight
    refine ⟨[], ?_, by rw [hnone]; rfl, hflight⟩
    show Ring.History r.data.events [] data.events
    rw [hsame]
    exact .start
  cases hpc : r.worker with
  | storeEvent hostNow status source =>
    rw [hpc] at h
    simp only [workerStep] at h
    split at h
    · cases h
    · cases h
      obtain ⟨log, hhistory, hreturned, hadded⟩ := Ring.History.pushEvicting r.data.events
        ⟨source, translateLag source.tNs r.data.controllerTimelineNs hostNow⟩
      refine ⟨log, hhistory, hreturned, ?_⟩
      rw [hadded, hpc]
      rfl
  | drain hostNow status =>
    rw [hpc] at h
    simp only [workerStep] at h
    split at h
    · rename_i source hsource
      cases h
      refine hquiet rfl rfl ?_
      rw [hpc]
      unfold drainedEvent
      simp only [Event.call?, Option.bind_some, returnedEvent, hsource]
      rfl
    · rename_i hnone
      cases h
      refine hquiet rfl rfl ?_
      rw [hpc]
      unfold drainedEvent
      simp only [Event.call?, Option.bind_some, returnedEvent]
      split
      · rename_i hsource
        exact absurd hsource (hnone _)
      · rfl
  | _ =>
    rw [hpc] at h
    simp only [workerStep, expirePlan] at h
    (repeat' split at h) <;> cases h <;>
      first
        | exact hquiet rfl rfl (by rw [hpc]; rfl)
        | exact hquiet (events_captureFeedbackClock _ _ _) rfl (by rw [hpc]; rfl)
        | exact hquiet rfl rfl (by rw [hpc, inFlight_workerCheck]; rfl)

omit [Floating F] in
/-- A step of a caller. -/
theorem Takes.queued (L : ModelLibrary F) {r : Machine F} {data : RuntimeData F}
    {event : Event F} (h : Takes r.data data event) (threads : Nat → Pc F) :
    ∃ log, Queued L r event log { r with data := data, threads := threads } := by
  obtain ⟨hsame, hdelivered, hdrained⟩ | ⟨hsome, hpop, rfl⟩ := h
  · refine ⟨[], ?_, by rw [hdelivered]; rfl, by rw [hdrained]; exact (List.append_nil _).symm⟩
    show Ring.History r.data.events [] data.events
    rw [hsame]
    exact .start
  · refine ⟨[.taken r.data.events.front], ?_, rfl, (List.append_nil _).symm⟩
    show Ring.History r.data.events _ data.events
    rw [hpop]
    exact Ring.History.start.pop hsome

/-- **Step lemma.** -/
theorem step_events {L : ModelLibrary F} {r r' : Machine F} {e : Label F}
    (h : (system L).step r e r') : ∃ log, Queued L r e.2 log r' := by
  obtain ⟨action, event⟩ := e
  -- the actions of the surroundings touch neither queue
  have hquiet : ∀ data : RuntimeData F, data.events = r.data.events →
      deliveredEvent event = none → drainedEvent event = none →
      ∃ log, Queued L r event log { r with data := data } :=
    fun data hsame hdelivered hdrained =>
      Takes.queued L (.inl ⟨hsame, hdelivered, hdrained⟩) r.threads
  cases step_taken h with
  | worker hstep => exact workerStep_events L hstep
  | start _ hstep => exact (startCall_events hstep).queued L _
  | resume hstep => exact (threadStep_events L hstep).queued L _
  | tick elapsedNs => exact hquiet _ rfl rfl rfl
  | estopAssert => exact hquiet _ rfl rfl rfl
  | estopClear => exact hquiet _ rfl rfl rfl

/-- The events drained over a run, and the events delivered. -/
def drainedEvents (es : List (Label F)) : List Control.Event :=
  es.filterMap fun e => drainedEvent e.2

def deliveredEvents (es : List (Label F)) : List EventEvidence :=
  es.filterMap fun e => deliveredEvent e.2

/-- **Run lemma.** -/
theorem run_events {L : ModelLibrary F} {r r' : Machine F} {es : List (Label F)}
    (h : (system L).Run r es r') :
    ∃ log, Ring.History r.data.events log r'.data.events ∧
      log.filterMap Ring.Entry.returned = deliveredEvents es ∧
      (log.filterMap Ring.Entry.added).map EventEvidence.source ++ r'.worker.inFlight.toList =
        r.worker.inFlight.toList ++ drainedEvents es := by
  induction h with
  | nil => exact ⟨[], .start, rfl, (List.append_nil _).symm⟩
  | snoc front last ih =>
    rename_i m r' es e
    obtain ⟨log, hhistory, hreturned, hdrained⟩ := ih
    obtain ⟨log', hstep⟩ := step_events last
    refine ⟨log ++ log', hhistory.trans hstep.history, ?_, ?_⟩
    · rw [List.filterMap_append, hreturned, hstep.delivered]
      unfold deliveredEvents
      rw [List.filterMap_append]
      congr 1
    · have hlast := hstep.drained
      have htail : drainedEvents (es ++ [e]) = drainedEvents es ++ (drainedEvent e.2).toList := by
        unfold drainedEvents
        rw [List.filterMap_append]
        congr 1
      rw [List.filterMap_append, List.map_append, List.append_assoc, hlast, htail,
        ← List.append_assoc, hdrained, List.append_assoc]

/-! ## §3. Creation. -/

/-- Draining a new controller stores what it polls. -/
theorem drainEvents_queue (L : ModelLibrary F) (facadeNow : Nat) (fuel : Nat)
    (s : RuntimeData F) :
    ∃ es log, (Control.system L).Run s.world es (RuntimeData.drainEvents facadeNow fuel s).world ∧
      Ring.History s.events log (RuntimeData.drainEvents facadeNow fuel s).events ∧
      log.filterMap Ring.Entry.returned = [] ∧
      (log.filterMap Ring.Entry.added).map EventEvidence.source = es.filterMap returnedEvent := by
  induction fuel generalizing s with
  | zero => exact ⟨[], [], .nil _, .start, rfl, rfl⟩
  | succ fuel ih =>
    unfold RuntimeData.drainEvents
    split
    · rename_i controller status event hpoll
      obtain ⟨es, log, hrest, hhistory, hreturned, hadded⟩ :=
        ih (({ s with controller := controller }).storeEvent event facadeNow)
      obtain ⟨first, hfirst, hnone, hstored⟩ := Ring.History.pushEvicting s.events
        ⟨event, translateLag event.tNs s.controllerTimelineNs facadeNow⟩
      have hcall : call L s.world .pollEvent = (⟨s.latch, controller⟩, ⟨status, .event event⟩) := by
        show withOutput s.world s.controller.pollEvent .event = _
        rw [hpoll]
        rfl
      have hstep : (Control.system L).step s.world (.pollEvent, ⟨status, .event event⟩)
          ⟨s.latch, controller⟩ := hcall
      refine ⟨_, first ++ log, .cons hstep hrest, hfirst.trans hhistory, ?_, ?_⟩
      · rw [List.filterMap_append, hnone, hreturned]
        rfl
      · rw [List.filterMap_append, List.map_append, hstored, hadded]
        rfl
    · exact ⟨[], [], .nil _, .start, rfl, rfl⟩

/-- The queue of a new facade. -/
def emptyQueue : Ring EventEvidence kFacadeEvents :=
    .empty ⟨Control.Event.zero, 0⟩ kFacadeEvents_pos

/-- What a created runtime polled from its controller is in its queue. -/
theorem initial_events {L : ModelLibrary F} {r : Machine F} (h : Machine.Initial L r) :
    ∃ w₀ es log, w₀.Initial ∧ (Control.system L).Run w₀ es r.world ∧
      Ring.History emptyQueue log r.data.events ∧ log.filterMap Ring.Entry.returned = [] ∧
      (log.filterMap Ring.Entry.added).map EventEvidence.source = es.filterMap returnedEvent := by
  obtain ⟨-, -, options, manifest, latch, instanceId, hostNs, facadeNow, hcreate⟩ := h
  unfold RuntimeData.create at hcreate
  split at hcreate
  · cases hcreate
  rename_i controllerOptions _
  dsimp only at hcreate
  split at hcreate
  · cases hcreate
  split at hcreate
  · cases hcreate
  split at hcreate
  · cases hcreate
  injection hcreate with hdata
  let s : RuntimeData F := .fresh options manifest
    (.create manifest.config controllerOptions instanceId) latch hostNs
  let advanced := ((s.control L .openAndVerify).1.control L (.advance hostNs)).1
  obtain ⟨es, log, hdrain, hhistory, hreturned, hadded⟩ := drainEvents_queue L facadeNow
    kEventCapacity ({ advanced with hostNs := facadeNow }.captureFeedbackClock hostNs facadeNow)
  rw [world_captureFeedbackClock] at hdrain
  rw [events_captureFeedbackClock] at hhistory
  have hworld : r.world = (RuntimeData.drainEvents facadeNow kEventCapacity
      ({ advanced with hostNs := facadeNow }.captureFeedbackClock hostNs facadeNow)).world := by
    show r.data.world = _
    rw [← hdata]
  have hrun := Lts.Run.cons (call_step L s.world .openAndVerify)
    (Lts.Run.cons (call_step L (s.control L .openAndVerify).1.world (.advance hostNs)) hdrain)
  refine ⟨s.world, _, log, ⟨_, _, _, rfl⟩, hworld ▸ hrun, ?_, hreturned, ?_⟩
  · rw [← hdata]
    exact hhistory
  · exact hadded

/-! ## §4. The two queues together. -/

/-- **The events of a runtime.**  What the controller published, as long as
    its own ring dropped nothing, is what went into the queue of the facade, in
    order, then the event the worker is about to store, then what the
    controller still holds.  The queue of the facade is a FIFO whose reader is
    `oa_runtime_poll_event`: an event leaves it by one poll, or as the oldest
    of a full queue, when it is older than 64 others. -/
theorem facade_queue (L : ModelLibrary F) {r₀ r : Machine F} {es : List (Label F)}
    (hinit : Machine.Initial L r₀) (hrun : (system L).Run r₀ es r) :
    ∃ w₀ creation logs log, w₀.Initial ∧ (eventSystem L).Run w₀ logs r.world ∧
      logs.map Prod.fst = creation ++ controllerCalls es ∧
      Ring.History emptyQueue log r.data.events ∧
      log.filterMap Ring.Entry.returned = deliveredEvents es ∧
      ((entries logs).any Ring.Entry.isEviction = false →
        (entries logs).filterMap Ring.Entry.added =
          (log.filterMap Ring.Entry.added).map EventEvidence.source ++
            r.worker.inFlight.toList ++ r.data.controller.events.toList) ∧
      log.filterMap Ring.Entry.added =
        log.filterMap Ring.Entry.removed ++ r.data.events.toList ∧
      ∀ before evidence after, log = before ++ .stored evidence :: after →
        (after.filterMap Ring.Entry.added).length < kFacadeEvents →
        (∃ old, r.data.events.toList = old ++ evidence :: after.filterMap Ring.Entry.added) ∨
          .taken evidence ∈ after := by
  obtain ⟨w₀, creation, front, hw₀, hcreation, hfront, hnone, hstored⟩ := initial_events hinit
  obtain ⟨log, hhistory, hreturned, hdrained⟩ := run_events hrun
  have hcontroller := hcreation.append (world_run hrun)
  obtain ⟨logs, hlogs, hlabels, hpublished, hpolled⟩ := fifo_run hw₀ hcontroller
  have hqueue := hfront.trans hhistory
  have hworker : r₀.worker.inFlight = none := by
    obtain ⟨htop, -⟩ := hinit
    rw [htop]
    rfl
  rw [hworker] at hdrained
  refine ⟨w₀, creation, logs, front ++ log, hw₀, hlogs, hlabels, hqueue, ?_, fun hkept => ?_, ?_,
    fun before evidence after hlog hfew => hqueue.kept hlog hfew⟩
  · rw [List.filterMap_append, hnone, hreturned]
    rfl
  · have hcalls : (controllerCalls es).filterMap returnedEvent = drainedEvents es := by
      unfold controllerCalls drainedEvents drainedEvent
      rw [List.filterMap_filterMap]
    rw [hpublished, Ring.Entry.removed_eq_returned hkept, hpolled, List.filterMap_append,
      List.filterMap_append, List.map_append, hstored, hcalls,
      List.append_assoc _ _ r.worker.inFlight.toList, hdrained]
    rfl
  · exact hqueue.fifo

/-! ## §5. A drained event that no poll returns. -/

theorem setInterlock_room {c : Controller F} (h : c.events.count < Control.kEventCapacity) :
    (c.setInterlock true true).2 = .eestop ∧ (c.setInterlock true true).1.lifecycle = .estop ∧
      (c.setInterlock true true).1.events.count = c.events.count + 1 := by
  obtain ⟨stopped, hevents, hlife, hcall⟩ : ∃ stopped : Controller F,
      stopped.events = c.events ∧ stopped.lifecycle = .estop ∧
        c.setInterlock true true = stopped.publishReturning .estop .eestop c.commandId .eestop := by
    unfold Controller.setInterlock
    dsimp only
    refine ⟨_, ?_, ?_, if_pos rfl⟩
    · show Controller.events (if _ then _ else _) = _
      split <;> rfl
    · rfl
  obtain ⟨event, hroom⟩ := stopped.publishReturning_of_room .estop .eestop .eestop c.commandId
    (by rw [hevents]; exact h)
  rw [hcall, hroom]
  refine ⟨rfl, hlife, ?_⟩
  show (stopped.events.push event).count = _
  rw [hevents, Ring.count_push _ _ h]

/-- Without the latch a cycle in ESTOP publishes nothing. -/
theorem advance_estop (c : Controller F) (L : ModelLibrary F) (monotonicNs : Nat)
    (h : c.lifecycle = .estop) : (c.advance L false monotonicNs).1.events = c.events := by
  unfold Controller.advance
  rw [if_neg Bool.false_ne_true]
  dsimp only
  split
  · rfl
  split
  · rfl
  rw [if_neg (by simp [Controller.cycling, h])]

/-- Nothing goes on in the runtime, and its controller holds `count` events. -/
structure Resting (count : Nat) (r : Machine F) : Prop where
  worker : r.worker = .top
  thread : r.threads 0 = .idle
  registered : r.data.registered = true
  mutex : r.data.mutex = none
  controllerMutex : r.data.controllerMutex = none
  closing : r.data.closing = false
  planPending : r.data.planPending = false
  latch : r.data.latch = false
  events : r.data.controller.events.count = count

/-- The runs in which the ring of the controller holds at most one event. -/
def roomy (L : ModelLibrary F) : Lts (Machine F) (Label F) :=
  (system L).within fun r => r.data.controller.events.count ≤ 1

/-- Thread 0 is at `pc`. -/
def Machine.calling (r : Machine F) (data : RuntimeData F) (pc : Pc F) : Machine F :=
  { r with data := data, threads := Function.update r.threads 0 pc }

/-- The worker is at `pc`. -/
def Machine.working (r : Machine F) (data : RuntimeData F) (pc : WorkerPc) : Machine F :=
  { r with data := data, worker := pc }

theorem calling_step {L : ModelLibrary F} (r : Machine F) {data data' : RuntimeData F}
    {pc pc' : Pc F} {event : Event F} (hr : data.controller.events.count ≤ 1)
    (hr' : data'.controller.events.count ≤ 1)
    (h : threadStep L data 0 favourable pc = some (data', pc', event)) :
    (roomy L).step (r.calling data pc) (.resume 0 favourable, event) (r.calling data' pc') := by
  refine ⟨?_, hr, hr'⟩
  show (threadStep L data 0 favourable (Function.update r.threads 0 pc 0)).map _ = _
  rw [Function.update_self, h]
  show some (Machine.mk data' r.worker (Function.update (Function.update r.threads 0 pc) 0 pc'),
    event) = _
  rw [Function.update_idem]
  rfl

theorem working_step {L : ModelLibrary F} (r : Machine F) {data data' : RuntimeData F}
    {pc pc' : WorkerPc} {event : Event F} (hr : data.controller.events.count ≤ 1)
    (hr' : data'.controller.events.count ≤ 1)
    (h : workerStep L data pc = some (data', pc', event)) :
    (roomy L).step (r.working data pc) (.worker, event) (r.working data' pc') := by
  refine ⟨?_, hr, hr'⟩
  show (workerStep L data pc).map _ = _
  rw [h]
  rfl

/-- An E-stop through the facade leaves one event in the controller. -/
theorem interlock_event (L : ModelLibrary F) {r : Machine F} (h : Resting 0 r) :
    ∃ es r', (roomy L).Run r es r' ∧ drainedEvents es = [] ∧ deliveredEvents es = [] ∧
      Resting 1 r' ∧ r'.data.controller.lifecycle = .estop := by
  obtain ⟨hstatus, hlife, hcount⟩ := setInterlock_room (c := r.data.controller)
    (by rw [h.events]; decide)
  have hzero : r.data.controller.events.count ≤ 1 := by rw [h.events]; decide
  have hone : (r.data.controller.setInterlock true true).1.events.count ≤ 1 := by
    rw [hcount, h.events]
  let flagged : RuntimeData F := { r.data with estopActive := true, deadmanActive := true }
  let locked := (flagged.control L (.setInterlock true true)).1
  let told := locked.setError (controlError .eestop)
  have hstart : (roomy L).step r (.start 0 (.setInterlock 1 1) favourable, .silent)
      (r.calling r.data (.motion (.interlockFlags true true))) := by
    refine ⟨?_, hzero, hzero⟩
    show Machine.step L r (.start 0 (.setInterlock 1 1) favourable) = some (_, _)
    simp [Machine.step, h.thread, startCall, requireRuntime, proceed, h.registered, h.mutex,
      h.closing, Machine.withThread, Machine.calling]
  have hflags : (roomy L).step (r.calling r.data (.motion (.interlockFlags true true)))
      (.resume 0 favourable, .silent)
      (r.calling flagged (.motion (.interlockCall true true))) :=
    calling_step r hzero hzero
      (by simp [threadStep, motionStep, h.mutex, Next.motion, flagged])
  have hlocked : (roomy L).step (r.calling flagged (.motion (.interlockCall true true)))
      (.resume 0 favourable, .called (.setInterlock true true, ⟨.eestop, .none⟩))
      (r.calling locked (.motion (.recordError (controlError .eestop) .nothing))) := by
    refine calling_step r hzero hone ?_
    have hresponse : (flagged.control L (.setInterlock true true)).2 = ⟨.eestop, .none⟩ :=
      congrArg (Response.mk · .none) hstatus
    simp [threadStep, motionStep, failWith, hresponse, Next.motion, locked]
  have htold : (roomy L).step
      (r.calling locked (.motion (.recordError (controlError .eestop) .nothing)))
      (.resume 0 favourable, .silent) (r.calling told (.returning .efault)) := by
    refine calling_step r hone hone ?_
    have hmutex : locked.mutex = none := h.mutex
    simp [threadStep, motionStep, hmutex, Next.motion, told, controlError, mapControl]
  have hreturned : (roomy L).step (r.calling told (.returning .efault))
      (.resume 0 favourable, .returned .efault) (r.calling told .idle) :=
    calling_step r hone hone rfl
  refine ⟨_, _, .cons hstart (.cons hflags (.cons hlocked (.cons htold (.single hreturned)))),
    rfl, rfl, ?_, hlife⟩
  exact ⟨h.worker, by simp [Machine.calling], h.registered, h.mutex, h.controllerMutex, h.closing,
    h.planPending, h.latch, hcount.trans (by rw [h.events])⟩

/-- What the worker waits for, and the latch. -/
structure Open (s : RuntimeData F) : Prop where
  registered : s.registered = true
  mutex : s.mutex = none
  closing : s.closing = false
  planPending : s.planPending = false
  latch : s.latch = false

theorem open_capture {s : RuntimeData F} (h : Open s) (controllerNow facadeNow : Nat) :
    Open (s.captureFeedbackClock controllerNow facadeNow) := by
  unfold RuntimeData.captureFeedbackClock
  split
  · exact h
  · exact ⟨h.registered, h.mutex, h.closing, h.planPending, h.latch⟩

theorem controller_capture (s : RuntimeData F) (controllerNow facadeNow : Nat) :
    (s.captureFeedbackClock controllerNow facadeNow).controller = s.controller :=
  congrArg World.controller (world_captureFeedbackClock s controllerNow facadeNow)

/-- A cycle of the worker in ESTOP, up to the drain. -/
theorem cycle_quiet (L : ModelLibrary F) {r : Machine F} (h : Resting 1 r)
    (hestop : r.data.controller.lifecycle = .estop) :
    ∃ es data hostNow status, (roomy L).Run r es (r.working data (.drain hostNow status)) ∧
      drainedEvents es = [] ∧ deliveredEvents es = [] ∧ Open data ∧
      data.controller.events.count = 1 := by
  let ticked : RuntimeData F := { r.data with hostNs := r.data.hostNs + r.data.options.cycleNs }
  let next := nextTimeline ticked.controllerTimelineNs ticked.options.cycleNs
  obtain ⟨advanced, status, hcall, hopen, hevents⟩ : ∃ advanced status,
      { ticked with controllerMutex := some .worker }.control L (.advance next) =
        (advanced, ⟨status, .none⟩) ∧ Open advanced ∧
        advanced.controller.events = r.data.controller.events := by
    refine ⟨_, _, rfl, ⟨h.registered, h.mutex, h.closing, h.planPending, h.latch⟩, ?_⟩
    show (r.data.controller.advance L r.data.latch next).1.events = _
    rw [h.latch]
    exact advance_estop _ L next hestop
  have hone : r.data.controller.events.count ≤ 1 := Nat.le_of_eq h.events
  have hadvanced : advanced.controller.events.count ≤ 1 := by
    rw [hevents]
    exact hone
  have htop : (roomy L).step r (.worker, .silent)
      (r.working r.data (.waiting r.data.hostNs)) := by
    refine ⟨?_, hone, hone⟩
    show (workerStep L r.data r.worker).map _ = _
    rw [h.worker]
    simp [workerStep, h.mutex, h.closing, Machine.working]
  have htick : (roomy L).step (r.working r.data (.waiting r.data.hostNs))
      (.tick r.data.options.cycleNs, .silent) (r.working ticked (.waiting r.data.hostNs)) :=
    ⟨rfl, hone, hone⟩
  have hwaited : (roomy L).step (r.working ticked (.waiting r.data.hostNs)) (.worker, .silent)
      (r.working ticked .readTimeline) := by
    refine working_step r hone hone ?_
    simp [workerStep, workerCheck, ticked, h.mutex, h.closing, h.planPending]
  have hread : (roomy L).step (r.working ticked .readTimeline) (.worker, .silent)
      (r.working ticked (.readHost next)) := working_step r hone hone rfl
  have hhost : (roomy L).step (r.working ticked (.readHost next)) (.worker, .silent)
      (r.working ticked (.advance next ticked.hostNs)) := working_step r hone hone rfl
  have hcycle : (roomy L).step (r.working ticked (.advance next ticked.hostNs))
      (.worker, .called (.advance next, ⟨status, .none⟩))
      (r.working advanced (.store next ticked.hostNs status)) := by
    refine working_step r hone hadvanced ?_
    have hfree : ticked.controllerMutex = none := h.controllerMutex
    simp only [workerStep, hfree, Option.isSome_none, Bool.false_eq_true, if_false, hcall]
  have hstore : (roomy L).step (r.working advanced (.store next ticked.hostNs status))
      (.worker, .silent) (r.working { advanced with controllerTimelineNs := next }
        (.capture next ticked.hostNs status)) := working_step r hadvanced hadvanced rfl
  have hcaptured := controller_capture { advanced with controllerTimelineNs := next } next
    ticked.hostNs
  have hcapture : (roomy L).step (r.working { advanced with controllerTimelineNs := next }
        (.capture next ticked.hostNs status)) (.worker, .silent)
      (r.working ({ advanced with controllerTimelineNs := next }.captureFeedbackClock next
        ticked.hostNs) (.drain ticked.hostNs status)) := by
    refine working_step r hadvanced ?_ rfl
    rw [hcaptured]
    exact hadvanced
  refine ⟨_, _, _, _, .cons htop (.cons htick (.cons hwaited (.cons hread (.cons hhost
    (.cons hcycle (.cons hstore (.single hcapture))))))), rfl, rfl, open_capture ?_ _ _, ?_⟩
  · exact ⟨hopen.registered, hopen.mutex, hopen.closing, hopen.planPending, hopen.latch⟩
  · rw [hcaptured]
    show advanced.controller.events.count = 1
    rw [hevents, h.events]

/-- The drain of one event, and the end of the cycle. -/
theorem drain_event (L : ModelLibrary F) (r : Machine F) {data : RuntimeData F}
    (hostNow : Nat) (status : ControlStatus) (h : Open data)
    (hevents : data.controller.events.count = 1) :
    ∃ es data', (roomy L).Run (r.working data (.drain hostNow status)) es (r.working data' .top) ∧
      (drainedEvents es).length = 1 ∧ deliveredEvents es = [] ∧ Open data' ∧
      data'.controllerMutex = none ∧ data'.controller.events.count = 0 := by
  let event := data.controller.events.front
  let polled : RuntimeData F :=
    { data with
      controller := { data.controller with events := data.controller.events.pop } }
  let stored := polled.storeEvent event hostNow
  let published : RuntimeData F :=
    { stored with
      controllerMutex := none
      timelineNs := max stored.timelineNs hostNow }
  -- the first poll takes the event, the second finds the ring empty
  have hpoll : data.control L .pollEvent = (polled, ⟨.ok, .event event⟩) := by
    have hcall : data.controller.pollEvent =
        ({ data.controller with events := data.controller.events.pop }, .ok, some event) := by
      unfold Controller.pollEvent
      rw [if_neg (by simp [Ring.isEmpty, hevents])]
    unfold RuntimeData.control
    simp only [call, RuntimeData.world, hcall, withOutput]
    rfl
  have hpolled : polled.controller.events.count = 0 := by
    show data.controller.events.pop.count = 0
    rw [Ring.count_pop, hevents]
  have hempty : stored.control L .pollEvent = (stored, ⟨.etimeout, .none⟩) := by
    have hcall : stored.controller.pollEvent = (stored.controller, .etimeout, none) := by
      unfold Controller.pollEvent
      rw [if_pos (by show (polled.controller.events.count == 0) = true; rw [hpolled]; rfl)]
    unfold RuntimeData.control
    simp only [call, RuntimeData.world, hcall, withOutput]
    rfl
  have hone : data.controller.events.count ≤ 1 := Nat.le_of_eq hevents
  have hzero : polled.controller.events.count ≤ 1 := by
    rw [hpolled]
    exact Nat.zero_le 1
  have hfree : polled.mutex = none := h.mutex
  -- the four steps of the worker, and then a fifth that may keep an error
  have hdrain : (roomy L).step (r.working data (.drain hostNow status))
      (.worker, .called (.pollEvent, ⟨.ok, .event event⟩))
      (r.working polled (.storeEvent hostNow status event)) := by
    refine working_step r hone hzero ?_
    simp only [workerStep, hpoll]
  have hqueued : (roomy L).step (r.working polled (.storeEvent hostNow status event))
      (.worker, .silent) (r.working stored (.drain hostNow status)) := by
    refine working_step r hzero hzero ?_
    simp [workerStep, hfree, stored]
  have hdone : (roomy L).step (r.working stored (.drain hostNow status))
      (.worker, .called (.pollEvent, ⟨.etimeout, .none⟩))
      (r.working { stored with controllerMutex := none } (.publishTimeline hostNow status)) := by
    refine working_step r hzero hzero ?_
    simp only [workerStep, hempty]
  have hpublished : (roomy L).step
      (r.working { stored with controllerMutex := none } (.publishTimeline hostNow status))
      (.worker, .silent) (r.working published (.recordError status)) :=
    working_step r hzero hzero rfl
  have hopen : Open published := ⟨h.registered, h.mutex, h.closing, h.planPending, h.latch⟩
  by_cases hquiet : quietCycle status = true
  · have hrecorded : (roomy L).step (r.working published (.recordError status))
        (.worker, .silent) (r.working published .top) := by
      refine working_step r hzero hzero ?_
      simp [workerStep, hopen.mutex, hquiet]
    exact ⟨_, published, .cons hdrain (.cons hqueued (.cons hdone (.cons hpublished
      (.single hrecorded)))), rfl, rfl, hopen, rfl, hpolled⟩
  · have hrecorded : (roomy L).step (r.working published (.recordError status)) (.worker, .silent)
        (r.working (published.setError ⟨mapControl status, .control, .control status⟩) .top) := by
      refine working_step r hzero hzero ?_
      simp [workerStep, hopen.mutex, hquiet]
    exact ⟨_, _, .cons hdrain (.cons hqueued (.cons hdone (.cons hpublished
      (.single hrecorded)))), rfl, rfl,
      ⟨hopen.registered, hopen.mutex, hopen.closing, hopen.planPending, hopen.latch⟩, rfl, hpolled⟩

/-- The runtime drains one event after the other, and nobody polls. -/
theorem drain_events (n : Nat) : ∃ es r, (roomy silentLibrary).Run standardMachine es r ∧
    (drainedEvents es).length = n ∧ deliveredEvents es = [] ∧ Resting 0 r := by
  induction n with
  | zero =>
    refine ⟨[], standardMachine, .nil _, rfl, rfl, rfl, rfl, ?_, ?_, ?_, ?_, ?_, ?_, ?_⟩
    all_goals decide +kernel
  | succ n ih =>
    obtain ⟨es, r, hrun, hcount, hnone, hrest⟩ := ih
    obtain ⟨fs, m, hlock, hfs, hfs', hm, hestop⟩ := interlock_event silentLibrary hrest
    obtain ⟨gs, data, hostNow, status, hcycle, hgs, hgs', hopen, hone⟩ :=
      cycle_quiet silentLibrary hm hestop
    obtain ⟨ks, data', hdrain, hks, hks', hopen', hfree, hzero⟩ :=
      drain_event silentLibrary m hostNow status hopen hone
    refine ⟨es ++ fs ++ gs ++ ks, _, ((hrun.append hlock).append hcycle).append hdrain, ?_, ?_, ?_⟩
    · unfold drainedEvents at hcount hfs hgs hks ⊢
      simp only [List.filterMap_append, List.length_append, hfs, hgs, List.length_nil]
      omega
    · unfold deliveredEvents at hnone hfs' hgs' hks' ⊢
      simp only [List.filterMap_append, hnone, hfs', hgs', hks', List.append_nil]
    · exact ⟨rfl, hm.thread, hopen'.registered, hopen'.mutex, hfree, hopen'.closing,
        hopen'.planPending, hopen'.latch, hzero⟩

/-- **An event is lost.**  Sixty-five events are drained, the ring of the
    controller never holds more than one, no poll takes any, and the queue of
    the facade has sixty-four slots. -/
theorem event_lost : ∃ r₀ es r, Machine.Initial silentLibrary r₀ ∧
    (roomy (F := ℚ) silentLibrary).Run r₀ es r ∧ r.worker.inFlight = none ∧
    r.data.events.toList.length + (deliveredEvents es).length < (drainedEvents es).length := by
  obtain ⟨es, r, hrun, hcount, hnone, hrest⟩ := drain_events 65
  refine ⟨standardMachine, es, r, standardMachine_initial, hrun, by rw [hrest.worker]; rfl, ?_⟩
  have hle : r.data.events.count ≤ 64 := r.data.events.count_le
  rw [Ring.length_toList, hnone, hcount, List.length_nil]
  omega

/-! ## §6. A polled event. -/

/-- The created runtime hands out the event of its verification. -/
theorem facade_queue_polled : ∃ es r, (system silentLibrary).Run standardMachine es r ∧
    es.map Prod.fst = uninterrupted 0 (.pollEvent true 0) 2 ∧ r.data.events.count = 0 ∧
    ∃ w₀ creation logs log, w₀.Initial ∧ (eventSystem silentLibrary).Run w₀ logs r.world ∧
      logs.map Prod.fst = creation ++ controllerCalls es ∧
      Ring.History emptyQueue log r.data.events ∧
      log.filterMap Ring.Entry.returned = deliveredEvents es ∧
      ((entries logs).any Ring.Entry.isEviction = false →
        (entries logs).filterMap Ring.Entry.added =
          (log.filterMap Ring.Entry.added).map EventEvidence.source ++
            r.worker.inFlight.toList ++ r.data.controller.events.toList) ∧
      log.filterMap Ring.Entry.added =
        log.filterMap Ring.Entry.removed ++ r.data.events.toList ∧
      ∀ before evidence after, log = before ++ .stored evidence :: after →
        (after.filterMap Ring.Entry.added).length < kFacadeEvents →
        (∃ old, r.data.events.toList = old ++ evidence :: after.filterMap Ring.Entry.added) ∨
          .taken evidence ∈ after := by
  have hexec : (exec silentLibrary standardMachine (uninterrupted 0 (.pollEvent true 0) 2)).any
      (fun out => decide (out.1.data.events.count = 0)) = true := by decide +kernel
  obtain ⟨es, r, hrun, hactions, hcheck⟩ :=
    @exec_reaches _ _ _ _ _ (fun r => decide (r.data.events.count = 0)) hexec
  exact ⟨es, r, hrun, hactions, of_decide_eq_true hcheck,
    facade_queue silentLibrary standardMachine_initial hrun⟩

end OpenArm.Runtime
