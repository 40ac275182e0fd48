/-
  OpenArm.Runtime.Deadlines — when a deadline of the host clock ends a
  command.

  `execute` and `heartbeat` translate a deadline once, from the host clock
  they read to the controller timeline they load.  The controller compares it
  with its timeline, which moves by one cycle in an iteration however long the
  iteration takes, and not at all in one that waits for a plan.

  Main results:
    * `deadline_up_to_lag` — an iteration that starts later than a deadline by
      more than the lag of the controller timeline does not step the command.
    * `stepped_past_deadline` — an iteration that starts more than a cycle
      later steps it.
-/
import OpenArm.Runtime.EstopLatency
import OpenArm.Control.Deadline

namespace OpenArm.Runtime

open OpenArm.Lib OpenArm.Control

variable {F : Type} [Floating F]

/-! ## §1. The deadlines a run has accepted. -/

/-- A deadline, and the two clocks it was translated between. -/
structure Acceptance where
  deadlineNs : Nat
  hostNs : Nat
  timelineNs : Nat

namespace Acceptance

/-- The translated deadline. -/
def translated (a : Acceptance) : Nat := a.timelineNs + (a.deadlineNs - a.hostNs)

/-- How much less than the host clock at `hostNs` the controller timeline at
    `timelineNs` has moved since. -/
def lag (a : Acceptance) (hostNs timelineNs : Nat) : Nat :=
  (hostNs - a.hostNs) - (timelineNs - a.timelineNs)

/-- The controller works with this deadline. -/
def At (a : Acceptance) (controllerDeadline : Nat) : Prop :=
  a.hostNs < a.deadlineNs ∧ controllerDeadline = a.translated

/-- Within the translated deadline the host clock is within the deadline and
    the lag. -/
theorem At.within {a : Acceptance} {controllerDeadline timelineNs : Nat}
    (h : a.At controllerDeadline) (hin : timelineNs ≤ controllerDeadline) (hostNs : Nat) :
    hostNs ≤ a.deadlineNs + a.lag hostNs timelineNs := by
  obtain ⟨hlater, htranslated⟩ := h
  unfold translated at htranslated
  unfold lag
  omega

end Acceptance

/-- The deadlines of the current command, and the start of the current
    iteration. -/
structure Watch where
  expiry : Acceptance
  producer : Acceptance
  startedNs : Nat

namespace Watch

def start : Watch := ⟨⟨0, 0, 0⟩, ⟨0, 0, 0⟩, 0⟩

/-- The deadlines after a call at `pc` that was answered with `status`. -/
def accept (w : Watch) (pc : Pc F) (status : ControlStatus) : Watch :=
  if status ≠ .ok then w
  else
    match pc with
    | .motion (.executeCall _ request facadeNow controllerNow _) =>
      { w with
        expiry := ⟨request.expiryNs, facadeNow, controllerNow⟩
        producer := ⟨request.producerDeadlineNs, facadeNow, controllerNow⟩ }
    | .motion (.heartbeatCall _ deadlineNs facadeNow controllerNow _) =>
      { w with producer := ⟨deadlineNs, facadeNow, controllerNow⟩ }
    | _ => w

/-- What a step adds. -/
def record (w : Watch) (r : Machine F) (e : Label F) (_ : Machine F) : Watch :=
  match e.1, e.2.call? with
  | .worker, _ => if r.worker = .top then { w with startedNs := r.data.hostNs } else w
  | .resume t _, some label => w.accept (r.threads t) label.2.status
  | _, _ => w

end Watch

/-- The runs that never mask the stop, with the deadlines they accept. -/
def watched (L : ModelLibrary F) : Lts (Machine F × Watch) (Label F) :=
  (unmaskedRuntime L).withHistory .start Watch.record

/-! ## §2. Calls that carry a translated deadline. -/

/-- What a call knows about its translated deadlines. -/
def Pc.Translated : Pc F → Prop
  | .motion (.executeCall _ request facadeNow controllerNow lower) =>
    Acceptance.At ⟨request.expiryNs, facadeNow, controllerNow⟩ lower.expiryNs ∧
      Acceptance.At ⟨request.producerDeadlineNs, facadeNow, controllerNow⟩
        lower.producerDeadlineNs
  | .motion (.heartbeatCall _ deadlineNs facadeNow controllerNow controllerDeadline) =>
    Acceptance.At ⟨deadlineNs, facadeNow, controllerNow⟩ controllerDeadline
  | _ => True

theorem translate_at {request : FacadeExecute} {facadeNow controllerNow : Nat}
    {lower : ExecuteRequest} (h : request.translate facadeNow controllerNow = some lower) :
    Acceptance.At ⟨request.expiryNs, facadeNow, controllerNow⟩ lower.expiryNs ∧
      Acceptance.At ⟨request.producerDeadlineNs, facadeNow, controllerNow⟩
        lower.producerDeadlineNs := by
  unfold FacadeExecute.translate at h
  simp only [Option.bind_eq_bind, Option.pure_def] at h
  split at h <;>
    simp only [Option.bind_some, Option.bind_eq_some_iff, Option.some.injEq] at h
  · obtain ⟨expiry, hexpiry, producer, hproducer, rfl⟩ := h
    exact ⟨translateFutureDeadline_eq hexpiry, translateFutureDeadline_eq hproducer⟩
  · obtain ⟨start, _, expiry, hexpiry, producer, hproducer, rfl⟩ := h
    exact ⟨translateFutureDeadline_eq hexpiry, translateFutureDeadline_eq hproducer⟩

section Calls

variable {L : ModelLibrary F} {s s' : RuntimeData F} {t : Nat} {around : Surroundings}
  {event : Event F}

theorem motionStep_translated {pc : MotionPc F} {next : Next (MotionPc F)}
    (h : motionStep L s t around pc = some (s', next, event)) : next.motion.Translated := by
  cases pc with
  | heartbeatTranslate commandId deadlineNs facadeNow =>
    simp only [motionStep, failWith] at h
    split at h
    · cases h
      trivial
    · rename_i htranslate
      cases h
      exact translateFutureDeadline_eq htranslate
  | executeTranslate id request facadeNow =>
    simp only [motionStep, failWith] at h
    split at h
    · cases h
      trivial
    · rename_i htranslate
      cases h
      exact translate_at htranslate
  | _ =>
    simp only [motionStep, failWith] at h
    (repeat' split at h) <;> cases h <;> trivial

theorem threadStep_translated {pc pc' : Pc F}
    (h : threadStep L s t around pc = some (s', pc', event)) : pc'.Translated := by
  cases pc with
  | idle => cases h
  | motion pc =>
    simp only [threadStep, Option.map_eq_some_iff] at h
    obtain ⟨⟨s₁, next, shown⟩, hstep, hout⟩ := h
    cases hout
    exact motionStep_translated hstep
  | calibration pc =>
    simp only [threadStep, Option.map_eq_some_iff] at h
    obtain ⟨⟨s₁, next, shown⟩, hstep, hout⟩ := h
    cases hout
    cases next <;> trivial
  | erase => cases h; trivial
  | returning status => cases h; trivial

omit [Floating F] in
theorem startCall_translated {c : Call F} {pc : Pc F}
    (h : startCall s around c = some (s', pc, event)) : pc.Translated := by
  cases c <;>
    simp only [startCall, startPlan, startBegin, startPlanDestroy, startSessionDestroy,
      requireRuntime, reject, refuse, proceed] at h <;>
    (repeat' split at h) <;> cases h <;> trivial

/-- The operations that carry a translated deadline. -/
def carriesDeadline : Op F → Bool
  | .execute _ _ | .heartbeat _ _ => true
  | _ => false

/-- Where a call hands a translated deadline to the controller. -/
inductive Carries : Pc F → Op F → Prop where
  | execute (id : Nat) (request : FacadeExecute) (facadeNow controllerNow : Nat)
      (plan : MotionPlan F) (lower : ExecuteRequest) :
      Carries (.motion (.executeCall id request facadeNow controllerNow lower))
        (.execute plan lower)
  | heartbeat (id deadlineNs facadeNow controllerNow deadline : Nat) :
      Carries (.motion (.heartbeatCall id deadlineNs facadeNow controllerNow deadline))
        (.heartbeat id deadline)
  | other {pc : Pc F} {op : Op F} (hpc : ∀ w status, Watch.accept w pc status = w)
      (hop : carriesDeadline op = false) : Carries pc op

omit [Floating F] in
theorem accept_other {pc : Pc F} (w : Watch) (status : ControlStatus)
    (hexecute : ∀ id request facadeNow controllerNow lower,
      pc ≠ .motion (.executeCall id request facadeNow controllerNow lower))
    (hheartbeat : ∀ id deadlineNs facadeNow controllerNow deadline,
      pc ≠ .motion (.heartbeatCall id deadlineNs facadeNow controllerNow deadline)) :
    w.accept pc status = w := by
  unfold Watch.accept
  split
  · rfl
  split
  · exact absurd rfl (hexecute _ _ _ _ _)
  · exact absurd rfl (hheartbeat _ _ _ _ _)
  · rfl

omit [Floating F] in
theorem carriesDeadline_plan (request : PlanRequest F) (controllerExpiry : Nat) :
    carriesDeadline (request.op controllerExpiry) = false := by
  cases request <;> rfl

theorem motionStep_carries {pc : MotionPc F} {next : Next (MotionPc F)} {label : Control.Label F}
    (h : motionStep L s t around pc = some (s', next, .called label)) :
    Carries (.motion pc) label.1 := by
  cases pc with
  | executeCall id request facadeNow controllerNow lower =>
    simp only [motionStep, failWith] at h
    (repeat' split at h) <;> cases h <;> exact .execute _ _ _ _ _ _
  | heartbeatCall commandId deadlineNs facadeNow controllerNow controllerDeadline =>
    simp only [motionStep, failWith] at h
    (repeat' split at h) <;> cases h <;> exact .heartbeat _ _ _ _ _
  | _ =>
    refine .other (fun w status => accept_other w status (by rintro _ _ _ _ _ ⟨⟩)
      (by rintro _ _ _ _ _ ⟨⟩)) ?_
    simp only [motionStep, failWith] at h
    (repeat' split at h) <;> cases h <;>
      first
        | rfl
        | exact carriesDeadline_plan _ _

theorem calibrationStep_calls {pc : CalibrationPc} {next : Next CalibrationPc}
    (h : calibrationStep s t around pc = some (s', next, event)) : event.call? = none := by
  cases pc <;> simp only [calibrationStep, failSession, afterCommission] at h <;>
    (repeat' split at h) <;> cases h <;> rfl

theorem threadStep_carries {pc pc' : Pc F} {label : Control.Label F}
    (h : threadStep L s t around pc = some (s', pc', .called label)) : Carries pc label.1 := by
  cases pc with
  | motion pc =>
    simp only [threadStep, Option.map_eq_some_iff] at h
    obtain ⟨⟨s₁, next, shown⟩, hstep, hout⟩ := h
    cases hout
    exact motionStep_carries hstep
  | calibration pc =>
    simp only [threadStep, Option.map_eq_some_iff] at h
    obtain ⟨⟨s₁, next, shown⟩, hstep, hout⟩ := h
    cases hout
    cases calibrationStep_calls hstep
  | idle => cases h
  | erase => cases h
  | returning status => cases h

theorem workerStep_carries {pc pc' : WorkerPc} {label : Control.Label F}
    (h : workerStep L s pc = some (s', pc', .called label)) :
    carriesDeadline label.1 = false := by
  cases pc <;> simp only [workerStep] at h <;> (repeat' split at h) <;> cases h <;> rfl

end Calls

/-! ## §3. The invariant. -/

/-- The controller works with the deadlines of the watch. -/
def Watch.Matches (w : Watch) (c : Controller F) : Prop :=
  w.expiry.At c.commandExpiryNs ∧ w.producer.At c.producerDeadlineNs

/-- **The invariant** of the runs that never mask the stop. -/
structure Watched (p : Machine F × Watch) : Prop where
  represents : ∃ a, Represents p.1.world.controller.core a
  detector : DetectorSafe p.1.world
  punctual : Punctual p.1.world.controller
  deadlines : p.1.world.controller.executing ≠ none → p.2.Matches p.1.world.controller
  threads : ∀ t, (p.1.threads t).Translated

section Steps

variable {L : ModelLibrary F} {w w' : World F} {label : Control.Label F} {x : Watch}

omit [Floating F] in
/-- A call made where no deadline is carried. -/
theorem matches_other {status : ControlStatus} {c : Controller F} {op : Op F}
    (hmove : DeadlineMove w op status c) (hop : carriesDeadline op = false)
    (hold : w.controller.executing ≠ none → x.Matches w.controller) :
    c.executing ≠ none → x.Matches c := by
  intro hsome
  cases hmove with
  | stopped hnone => exact absurd hnone hsome
  | started => cases hop
  | renewed => cases hop
  | kept hbefore _ hexpiry hproducer =>
    unfold Watch.Matches
    rw [hexpiry, hproducer]
    exact hold hbefore

omit [Floating F] in
/-- A call of the facade: the watch follows the registers. -/
theorem matches_call {pc : Pc F} {status : ControlStatus} {c : Controller F} {op : Op F}
    (hmove : DeadlineMove w op status c) (hcarries : Carries pc op) (hpc : pc.Translated)
    (hold : w.controller.executing ≠ none → x.Matches w.controller) :
    c.executing ≠ none → (x.accept pc status).Matches c := by
  cases hcarries with
  | other hsame hop =>
    rw [hsame]
    exact matches_other hmove hop hold
  | execute id request facadeNow controllerNow plan lower =>
    intro hsome
    cases hmove with
    | stopped hnone => exact absurd hnone hsome
    | started hexpiry hproducer =>
      unfold Watch.Matches
      rw [hexpiry, hproducer]
      exact hpc
    | kept hbefore _ hexpiry hproducer hnot =>
      have hrefused : x.accept (F := F) (.motion (.executeCall id request facadeNow controllerNow
          lower)) status = x := if_pos (hnot plan lower rfl)
      rw [hrefused]
      unfold Watch.Matches
      rw [hexpiry, hproducer]
      exact hold hbefore
  | heartbeat id deadlineNs facadeNow controllerNow deadline =>
    intro hsome
    cases hmove with
    | stopped hnone => exact absurd hnone hsome
    | renewed hbefore _ hexpiry hproducer =>
      refine ⟨?_, ?_⟩
      · rw [hexpiry]
        exact (hold hbefore).1
      · rw [hproducer]
        exact hpc
    | kept hbefore _ hexpiry hproducer _ hnot =>
      have hrefused : x.accept (F := F) (.motion (.heartbeatCall id deadlineNs facadeNow
          controllerNow deadline)) status = x := if_pos (hnot id deadline rfl)
      rw [hrefused]
      unfold Watch.Matches
      rw [hexpiry, hproducer]
      exact hold hbefore

/-- What a call of the controller keeps, whoever makes it. -/
theorem controller_call {p q : Machine F × Watch} (h : Watched p)
    (hstep : (Control.system L).step p.1.world label q.1.world) (hmask : ¬ Masks p.1.world label)
    (hmatches : DeadlineMove p.1.world label.1 label.2.status q.1.world.controller →
      q.1.world.controller.executing ≠ none → q.2.Matches q.1.world.controller)
    (hthreads : ∀ t, (q.1.threads t).Translated) : Watched q := by
  obtain ⟨a, hrep⟩ := h.represents
  obtain ⟨hworld, hanswer⟩ := step_eq hstep
  have hmove : DeadlineMove p.1.world label.1 label.2.status q.1.world.controller := by
    rw [hworld, hanswer]
    exact deadline_call L hrep h.detector label.1
  obtain ⟨_, a', _, hrep', _⟩ := step_refines L hstep hrep
  exact
    { represents := ⟨a', hrep'⟩
      detector := detectorSafe_step L hstep hmask h.represents h.detector
      punctual := punctual_call h.punctual hmove
      deadlines := hmatches hmove
      threads := hthreads }

omit [Floating F] in
/-- A step that calls nobody keeps what the controller keeps. -/
theorem controller_silent {p q : Machine F × Watch} (h : Watched p)
    (hworld : q.1.world = p.1.world) (hexpiry : q.2.expiry = p.2.expiry)
    (hproducer : q.2.producer = p.2.producer) (hthreads : ∀ t, (q.1.threads t).Translated) :
    Watched q where
  represents := hworld ▸ h.represents
  detector := hworld ▸ h.detector
  punctual := hworld ▸ h.punctual
  deadlines := by
    unfold Watch.Matches
    rw [hworld, hexpiry, hproducer]
    exact h.deadlines
  threads := hthreads

omit [Floating F] in
/-- The other threads keep their place. -/
theorem translated_update {threads : Nat → Pc F} (h : ∀ t, (threads t).Translated) {t : Nat}
    {pc : Pc F} (hpc : pc.Translated) (t' : Nat) :
    (Function.update threads t pc t').Translated := by
  by_cases hsame : t' = t
  · rw [hsame, Function.update_self]
    exact hpc
  · rw [Function.update_of_ne hsame]
    exact h t'

end Steps

/-- **Step lemma.** -/
theorem watched_step {L : ModelLibrary F} {p q : Machine F × Watch} {e : Label F}
    (hstep : (watched L).step p e q) (h : Watched p) : Watched q := by
  obtain ⟨r, x⟩ := p
  obtain ⟨r', x'⟩ := q
  obtain ⟨action, event⟩ := e
  obtain ⟨⟨hstep, hmask⟩, hrecord⟩ := hstep
  have hrecord : x' = x.record r (action, event) r' := hrecord
  subst hrecord
  have hcall : Calls L r.world event r'.world := world_step hstep
  cases htaken : event.call? with
  | none =>
    have hworld : r'.world = r.world := by
      unfold Calls at hcall
      rw [htaken] at hcall
      exact hcall
    have hsame : (x.record r (action, event) r').expiry = x.expiry ∧
        (x.record r (action, event) r').producer = x.producer := by
      unfold Watch.record
      rw [htaken]
      cases action <;> dsimp only <;> first | exact ⟨rfl, rfl⟩ | (split <;> exact ⟨rfl, rfl⟩)
    refine controller_silent h hworld hsame.1 hsame.2 ?_
    cases step_taken hstep with
    | worker _ => exact h.threads
    | start _ hstart => exact translated_update h.threads (startCall_translated hstart)
    | resume hresume => exact translated_update h.threads (threadStep_translated hresume)
    | tick => exact h.threads
    | estopAssert => exact h.threads
    | estopClear => exact h.threads
  | some label =>
    have hcontrol : (Control.system L).step r.world label r'.world := by
      unfold Calls at hcall
      rw [htaken] at hcall
      exact hcall
    have hunmasked : ¬ Masks r.world label := fun hm => hmask ⟨label, htaken, hm⟩
    obtain rfl : event = .called label := by
      cases event <;> cases htaken
      rfl
    cases step_taken hstep with
    | worker hworker =>
      refine controller_call h hcontrol hunmasked (fun hmove hsome => ?_) h.threads
      have hmatches := matches_other hmove (workerStep_carries hworker) h.deadlines hsome
      show Watch.Matches (if _ then _ else _) _
      split <;> exact hmatches
    | start _ hstart =>
      have hsilent := startCall_silent hstart
      cases hsilent
    | @resume t _ _ _ _ hresume =>
      refine controller_call h hcontrol hunmasked (fun hmove hsome => ?_)
        (translated_update h.threads (threadStep_translated hresume))
      exact matches_call hmove (threadStep_carries hresume) (h.threads t) h.deadlines hsome
    | estopAssert =>
      exact controller_call h hcontrol hunmasked
        (fun hmove hsome => matches_other hmove rfl h.deadlines hsome) h.threads
    | estopClear =>
      exact controller_call h hcontrol hunmasked
        (fun hmove hsome => matches_other hmove rfl h.deadlines hsome) h.threads

theorem watched_initial {L : ModelLibrary F} {p : Machine F × Watch} (h : (watched L).init p) :
    Watched p := by
  obtain ⟨w₀, es, hinit, hrun, hexec⟩ := initial_run h.1
  have hclosed : ∃ a, Represents w₀.controller.core a ∧ ∀ id stop, a ≠ .moving id stop := by
    obtain ⟨manifest, options, instanceId, hcreate⟩ := hinit
    refine ⟨.off .closed, ?_, fun _ _ h => by cases h⟩
    rw [hcreate]
    exact .off .closed rfl rfl rfl fun _ _ => rfl
  obtain ⟨a, hrep, hne⟩ := no_command_run L hclosed hrun.of_restrict hexec
  have hnone : p.1.world.controller.executing = none := hrep.executing_none hne
  exact
    { represents := ⟨a, hrep⟩
      detector := detectorSafe_run L hinit hrun
      punctual := fun hsome => absurd hnone hsome
      deadlines := fun hsome => absurd hnone hsome
      threads := fun t => by
        rw [h.1.2.1 t]
        trivial }

/-- **Run lemma.** -/
theorem watched_run {L : ModelLibrary F} {p q : Machine F × Watch} {es : List (Label F)}
    (hinit : (watched L).init p) (hrun : (watched L).Run p es q) : Watched q :=
  Lts.Run.invariant (I := Watched) hrun (watched_initial hinit) fun _ _ _ hstep h =>
    watched_step hstep h

/-! ## §4. The deadlines. -/

/-- **A deadline holds up to the lag.**  In a run that never masks the stop,
    let an iteration of the worker run its cycle.  When it started later than
    the expiry of the command, or later than the last producer deadline
    accepted for it, by more than the lag of the controller timeline since the
    deadline was translated, the command is over after the cycle. -/
theorem deadline_up_to_lag (L : ModelLibrary F) {p q q' : Machine F × Watch}
    {es : List (Label F)} {next hostNow : Nat} {event : Event F} (hinit : (watched L).init p)
    (hrun : (watched L).Run p es q) (hpc : q.1.worker = .advance next hostNow)
    (hstep : (watched L).step q (.worker, event) q')
    (hlate : q.2.expiry.deadlineNs + q.2.expiry.lag q.2.startedNs next < q.2.startedNs ∨
      q.2.producer.deadlineNs + q.2.producer.lag q.2.startedNs next < q.2.startedNs) :
    q'.1.data.controller.executing = none := by
  by_contra hsome
  have hafter : Watched q' := watched_step hstep (watched_run hinit hrun)
  obtain ⟨hexpiry, hproducer⟩ := hafter.deadlines hsome
  obtain ⟨hin, hin'⟩ := hafter.punctual hsome
  obtain ⟨r, x⟩ := q
  obtain ⟨r', x'⟩ := q'
  have hpc : r.worker = .advance next hostNow := hpc
  have hsame : x' = x := by
    refine hstep.2.trans ?_
    unfold Watch.record
    dsimp only
    rw [if_neg (by rw [hpc]; exact nofun)]
  subst hsame
  have hnow : next ≤ r'.world.controller.nowNs := by
    cases step_taken hstep.1.1 with
    | worker hworker =>
      have hworker : workerStep L r.data r.worker = some (_, _, event) := hworker
      rw [hpc] at hworker
      simp only [workerStep] at hworker
      split at hworker
      · cases hworker
      · cases hworker
        have hframe := frame_call_advance L
          ({ r.data with controllerMutex := some .worker } : RuntimeData F).world next
        have hmax : (call L ({ r.data with controllerMutex := some .worker } :
            RuntimeData F).world (.advance next)).1.controller.nowNs = _ :=
          congrArg Frame.nowNs hframe
        show next ≤ (call L ({ r.data with controllerMutex := some .worker } :
            RuntimeData F).world (.advance next)).1.controller.nowNs
        rw [hmax]
        exact Nat.le_max_right _ _
  rcases hlate with hlate | hlate
  · exact absurd (hexpiry.within (hnow.trans hin) x'.startedNs) (Nat.not_le.mpr hlate)
  · exact absurd (hproducer.within (hnow.trans hin') x'.startedNs) (Nat.not_le.mpr hlate)

/-! ## §5. Late iterations. -/

/-- Stay where it is, with this producer deadline and 100 ms to expiry. -/
def stayExecute (producerDeadlineNs : Nat) : FacadeExecute where
  recordValid := true
  outValid := true
  clockId := clockMonotonic
  startNs := 0
  expiryNs := 1100000000
  producerDeadlineNs := producerDeadlineNs
  stopKind := .disable

/-- The command executes; one iteration takes `firstNs`, and the next one has
    come to its cycle. -/
def secondIteration (producerDeadlineNs firstNs : Nat) : List (Action ℚ) :=
  planningActions ++ uninterrupted 0 (.execute 0 (stayExecute producerDeadlineNs)) 10 ++
    [.worker, .tick firstNs] ++ List.replicate 13 .worker ++
      [.worker, .tick 10000000, .worker, .worker, .worker]

/-- A harmless step never masks the stop. -/
theorem watched_step_of_harmless {L : ModelLibrary F} {p q : Machine F × Watch} {e : Label F}
    (h : (((system L).restrict fun r e _ => harmless r e = true).withHistory Watch.start
      Watch.record).step p e q) : (watched L).step p e q := by
  obtain ⟨hstep, hrecord⟩ := h
  have hsingle : (attentive L).Run p.1 ([] ++ [e]) q.1 :=
    attentive_of_harmless (Lts.Run.single hstep)
  obtain ⟨m, hnil, hlast⟩ := hsingle.snoc_inv
  rw [hnil.nil_inv] at hlast
  exact ⟨hlast.1, hrecord⟩

/-- The answer of the worker's harmless step from here satisfies the test. -/
def workerStepIs (test : Machine ℚ → Event ℚ → Bool) (p : Machine ℚ × Watch) : Bool :=
  (p.1.step silentLibrary .worker).any fun out =>
    harmless p.1 (.worker, out.2) && test out.1 out.2

theorem workerStepIs_reaches {test : Machine ℚ → Event ℚ → Bool} {p : Machine ℚ × Watch}
    (h : workerStepIs test p = true) : ∃ event q,
      (watched silentLibrary).step p (.worker, event) q ∧ test q.1 event = true := by
  obtain ⟨⟨r', event⟩, hstep, hcheck⟩ := (Option.any_eq_true _ _).mp h
  obtain ⟨hharmless, htest⟩ := Bool.and_eq_true_iff.mp hcheck
  exact ⟨event, (r', _), watched_step_of_harmless ⟨⟨hstep, hharmless⟩, rfl⟩, htest⟩

/-- Executing, and about to run the cycle of an iteration that started more
    than the lag after the producer deadline. -/
def lateByLag (p : Machine ℚ × Watch) : Bool :=
  match p.1.worker with
  | .advance next _ =>
    decide (p.2.producer.deadlineNs + p.2.producer.lag p.2.startedNs next < p.2.startedNs) &&
      p.1.data.controller.executing.isSome && workerStepIs (fun _ _ => true) p
  | _ => false

/-- A producer deadline of 15 ms ends the command in the iteration that starts
    16 ms later. -/
theorem deadline_up_to_lag_late : ∃ p es q event q', (watched silentLibrary).init p ∧
    (watched silentLibrary).Run p es q ∧ es.map Prod.fst = secondIteration 1015000000 16000000 ∧
      q.1.data.controller.executing ≠ none ∧ (watched silentLibrary).step q (.worker, event) q' ∧
      q'.1.data.controller.executing = none := by
  have hexec : (execRecorded silentLibrary harmless Watch.record (standardMachine, Watch.start)
      (secondIteration 1015000000 16000000)).any lateByLag = true := by
    decide +kernel
  obtain ⟨es, q, hrun, hactions, hcheck⟩ := execRecorded_reaches Watch.start hexec
  have hrun := hrun.mono fun _ _ _ => watched_step_of_harmless
  have hinit : (watched silentLibrary).init (standardMachine, Watch.start) :=
    ⟨standardMachine_initial, rfl⟩
  unfold lateByLag at hcheck
  split at hcheck
  · rename_i next hostNow hpc
    simp only [Bool.and_eq_true, decide_eq_true_eq] at hcheck
    obtain ⟨⟨hlate, hexecuting⟩, hworker⟩ := hcheck
    obtain ⟨event, q', hstep, _⟩ := workerStepIs_reaches hworker
    have hover := deadline_up_to_lag silentLibrary hinit hrun hpc hstep (.inr hlate)
    exact ⟨_, es, q, event, q', hinit, hrun, hactions, Option.isSome_iff_ne_none.mp hexecuting,
      hstep, hover⟩
  · cases hcheck

/-- The cycle ran and left a command executing. -/
def stepsCommand (r : Machine ℚ) (event : Event ℚ) : Bool :=
  event.call?.isSome && r.data.controller.executing.isSome

/-- Past both deadlines by more than a cycle, and about to step the command. -/
def stepsLate (p : Machine ℚ × Watch) : Bool :=
  decide (p.2.expiry.deadlineNs + standardRuntimeOptions.cycleNs < p.2.startedNs) &&
    decide (p.2.producer.deadlineNs + standardRuntimeOptions.cycleNs < p.2.startedNs) &&
      workerStepIs stepsCommand p

/-- **A command stepped past its deadlines**: the first iteration after
    `execute` takes a second, and the next one, which starts 900 ms after the
    expiry and the producer deadline, steps the command. -/
theorem stepped_past_deadline : ∃ p es q event q', (watched silentLibrary).init p ∧
    (watched silentLibrary).Run p es q ∧
      es.map Prod.fst = secondIteration 1100000000 1000000000 ∧
      q.2.expiry.deadlineNs + standardRuntimeOptions.cycleNs < q.2.startedNs ∧
      q.2.producer.deadlineNs + standardRuntimeOptions.cycleNs < q.2.startedNs ∧
      (watched silentLibrary).step q (.worker, event) q' ∧ event.call? ≠ none ∧
      q'.1.data.controller.executing ≠ none := by
  have hexec : (execRecorded silentLibrary harmless Watch.record (standardMachine, Watch.start)
      (secondIteration 1100000000 1000000000)).any stepsLate = true := by
    decide +kernel
  obtain ⟨es, q, hrun, hactions, hcheck⟩ := execRecorded_reaches Watch.start hexec
  have hrun := hrun.mono fun _ _ _ => watched_step_of_harmless
  simp only [stepsLate, Bool.and_eq_true, decide_eq_true_eq] at hcheck
  obtain ⟨⟨hexpiry, hproducer⟩, hworker⟩ := hcheck
  obtain ⟨event, q', hstep, htest⟩ := workerStepIs_reaches hworker
  obtain ⟨hcycle, hexecuting⟩ := Bool.and_eq_true_iff.mp htest
  have hinit : (watched silentLibrary).init (standardMachine, Watch.start) :=
    ⟨standardMachine_initial, rfl⟩
  exact ⟨_, es, q, event, q', hinit, hrun, hactions, hexpiry, hproducer, hstep,
    Option.isSome_iff_ne_none.mp hcycle, Option.isSome_iff_ne_none.mp hexecuting⟩

end OpenArm.Runtime
