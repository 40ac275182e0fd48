/-
  OpenArm.Runtime.EstopLatency — when the worker honours the emergency stop.

  The latch is sampled inside the controller cycle only.  An iteration that
  finds a plan pending waits for the plan instead and runs no cycle, and an
  iteration after a masked stop runs one that changes nothing.

  Main results:
    * `estop_reaches_controller` — an iteration that finds no pending plan, in
      a run that never masks the stop, ends with every motor off.
    * `pending_iteration_runs_no_cycle` — an iteration that finds one leaves
      the controller alone.
    * `estop_skipped_while_plan_pending` — a run where that keeps the motors
      on.
-/
import OpenArm.Runtime.Standard

namespace OpenArm.Runtime

open OpenArm.Lib OpenArm.Control

variable {F : Type} [Floating F]

/-! ## §1. Steps that lose the stop. -/

/-- The step calls the controller in a way that masks the stop. -/
def MasksStop (r : Machine F) (e : Label F) : Prop :=
  ∃ label, e.2.call? = some label ∧ Masks r.world label

/-- The worker's check finds a plan pending while the latch is asserted. -/
def SkipsCycle (r : Machine F) (e : Label F) : Prop :=
  e.1 = .worker ∧ (∃ sinceNs, r.worker = .waiting sinceNs) ∧ r.data.latch = true ∧
    r.data.planPending = true

/-- The runs that never mask the stop. -/
def unmaskedRuntime (L : ModelLibrary F) : Lts (Machine F) (Label F) :=
  (system L).restrict fun r e _ => ¬ MasksStop r e

/-- The runs that neither mask the stop nor skip a cycle under it. -/
def attentive (L : ModelLibrary F) : Lts (Machine F) (Label F) :=
  (unmaskedRuntime L).restrict fun r e _ => ¬ SkipsCycle r e

/-- The controller of such a run never masks the stop. -/
theorem unmasked_world_run {L : ModelLibrary F} {r r' : Machine F} {es : List (Label F)}
    (h : (unmaskedRuntime L).Run r es r') :
    (unmasked L).Run r.world (controllerCalls es) r'.world := by
  induction h with
  | nil => exact .nil _
  | snoc _ last ih =>
    obtain ⟨hstep, hmask⟩ := last
    have hcall := world_step hstep
    rw [controllerCalls, List.filterMap_append]
    unfold Calls at hcall
    split at hcall
    · rename_i label hlabel
      have hunmasked : ¬ Masks _ label := fun hm => hmask ⟨label, hlabel, hm⟩
      simpa [controllerCalls, hlabel] using ih.append (.single ⟨hcall, hunmasked⟩)
    · rename_i hsilent
      rw [hcall]
      simpa [controllerCalls, hsilent] using ih

/-! ## §2. The latch and the edge detector in between. -/

theorem workerStep_latch (L : ModelLibrary F) {s s' : RuntimeData F} {pc pc' : WorkerPc}
    {event : Event F} (h : workerStep L s pc = some (s', pc', event)) : s'.latch = s.latch := by
  cases pc <;> simp only [workerStep, expirePlan, RuntimeData.captureFeedbackClock] at h <;>
    (repeat' split at h) <;> cases h <;> rfl

/-- Only a clear takes the latch back. -/
theorem latch_step {L : ModelLibrary F} {r r' : Machine F} {e : Label F}
    (hstep : (system L).step r e r') (hclear : e.1 ≠ .estopClear) (h : r.data.latch = true) :
    r'.data.latch = true := by
  obtain ⟨action, event⟩ := e
  cases step_taken hstep with
  | worker hworker => exact (workerStep_latch L hworker).trans h
  | start _ hstart => exact (congrArg Ground.latch (startCall_ground hstart)).trans h
  | resume hresume => exact (congrArg Ground.latch (threadStep_ground L hresume)).trans h
  | tick => exact h
  | estopAssert => rfl
  | estopClear => exact absurd rfl hclear

/-- Under an asserted latch a set edge detector stays set. -/
theorem detected_call (L : ModelLibrary F) (w : World F) (op : Op F) (hlatch : w.latch = true)
    (h : w.controller.estopLatched = true) :
    (call L w op).1.controller.estopLatched = true := by
  cases hcartesian : op.cartesian with
  | true =>
    have hframe : (call L w op).1.controller.estopLatched =
        (w.latch || w.controller.estopLatched) :=
      congrArg Frame.estopLatched (frame_call_cartesian L w op hcartesian)
    rw [hframe, hlatch, Bool.true_or]
  | false =>
    by_cases hadvance : ∃ t, op = .advance t
    · obtain ⟨t, rfl⟩ := hadvance
      have hframe : (call L w (.advance t)).1.controller.estopLatched = w.latch :=
        congrArg Frame.estopLatched (frame_call_advance L w t)
      rw [hframe, hlatch]
    · rw [estopLatched_call L w op hcartesian fun t ht => hadvance ⟨t, ht⟩]
      exact h

theorem detected_step {L : ModelLibrary F} {r r' : Machine F} {e : Label F}
    (hstep : (system L).step r e r') (hlatch : r.data.latch = true)
    (h : r.data.controller.estopLatched = true) : r'.data.controller.estopLatched = true := by
  have hcall := world_step hstep
  unfold Calls at hcall
  split at hcall
  · rename_i label _
    obtain ⟨hworld, _⟩ := step_eq hcall
    have hstays := detected_call L r.world label.1 hlatch h
    rw [← hworld] at hstays
    exact hstays
  · have hsame : r'.data.controller = r.data.controller := congrArg World.controller hcall
    rw [hsame]
    exact h

/-! ## §3. One iteration under the asserted latch. -/

/-- Between the head of the loop and its controller cycle. -/
def WorkerPc.BeforeCycle : WorkerPc → Prop
  | .waiting _ | .readTimeline | .readHost _ | .advance _ _ | .exited => True
  | _ => False

/-- The controller ran a cycle among these steps. -/
def Sampled (es : List (Label F)) : Prop :=
  ∃ next answer, (.advance next, answer) ∈ controllerCalls es

omit [Floating F] in
theorem Sampled.append {es fs : List (Label F)} (h : Sampled es) : Sampled (es ++ fs) := by
  obtain ⟨next, answer, hmem⟩ := h
  refine ⟨next, answer, ?_⟩
  rw [controllerCalls, List.filterMap_append]
  exact List.mem_append_left _ hmem

/-- How far an iteration has come: not begun, before its cycle, or past it
    with the latch detected. -/
inductive Progress (es : List (Label F)) (r : Machine F) : Prop where
  | idle (hidle : ∀ e ∈ es, e.1 ≠ .worker) (htop : r.worker = .top)
  | before (hbefore : r.worker.BeforeCycle)
  | detected (hsampled : Sampled es) (hdetected : r.data.controller.estopLatched = true)

/-- A worker step before the cycle stays before it, or runs it. -/
theorem beforeCycle_step (L : ModelLibrary F) {s s' : RuntimeData F} {pc pc' : WorkerPc}
    {event : Event F} (h : workerStep L s pc = some (s', pc', event)) (hlatch : s.latch = true)
    (hpc : pc = .top ∨ pc.BeforeCycle)
    (hpending : ∀ sinceNs, pc = .waiting sinceNs → s.planPending = false) :
    pc'.BeforeCycle ∨
      (s'.controller.estopLatched = true ∧
        ∃ next answer, event = .called (.advance next, answer)) := by
  cases pc with
  | top =>
    simp only [workerStep] at h
    split at h
    · cases h
    · cases h
      left
      split <;> trivial
  | waiting sinceNs =>
    simp only [workerStep] at h
    split at h
    · cases h
    split at h
    · cases h
      left
      rw [workerCheck, hpending sinceNs rfl]
      split <;> trivial
    · cases h
  | readTimeline => cases h; exact .inl trivial
  | readHost next => cases h; exact .inl trivial
  | advance next hostNow =>
    simp only [workerStep] at h
    split at h
    · cases h
    · cases h
      refine .inr ⟨?_, next, _, rfl⟩
      have hframe := congrArg Frame.estopLatched
        (frame_call_advance L { s with controllerMutex := some .worker }.world next)
      exact hframe.trans hlatch
  | exited => cases h
  | planWait | store | capture | drain | storeEvent | publishTimeline | recordError =>
    rcases hpc with hpc | hpc <;> cases hpc

/-- A worker step of an iteration that has not run its cycle. -/
theorem worker_progress {L : ModelLibrary F} {r r' : Machine F} {e : Label F}
    {es : List (Label F)} (hstep : (system L).step r e r') (hskip : ¬ SkipsCycle r e)
    (hlatch : r.data.latch = true) (haction : e.1 = .worker)
    (hpc : r.worker = .top ∨ r.worker.BeforeCycle) : Progress (es ++ [e]) r' := by
  obtain ⟨action, event⟩ := e
  obtain rfl : action = .worker := haction
  cases step_taken hstep with
  | worker hw =>
    have hpending : ∀ sinceNs, r.worker = .waiting sinceNs → r.data.planPending = false := by
      intro sinceNs hwaiting
      by_contra hpending
      exact hskip ⟨rfl, ⟨sinceNs, hwaiting⟩, hlatch, by simpa using hpending⟩
    rcases beforeCycle_step L hw hlatch hpc hpending with hbefore | ⟨hdetected, next, answer, hev⟩
    · exact .before hbefore
    · refine .detected ⟨next, answer, ?_⟩ hdetected
      have hcall : event.call? = some (.advance next, answer) := congrArg Event.call? hev
      rw [controllerCalls, List.filterMap_append]
      exact List.mem_append_right _ (by simp [hcall])

/-- The other actions leave the worker where it is. -/
theorem worker_unmoved {L : ModelLibrary F} {r r' : Machine F} {e : Label F}
    (hstep : (system L).step r e r') (h : e.1 ≠ .worker) : r'.worker = r.worker := by
  obtain ⟨action, event⟩ := e
  cases step_taken hstep with
  | worker => exact absurd rfl h
  | start => rfl
  | resume => rfl
  | tick => rfl
  | estopAssert => rfl
  | estopClear => rfl

/-- **Step lemma**: under the asserted latch an attentive step keeps the
    progress. -/
theorem progress_step {L : ModelLibrary F} {r r' : Machine F} {e : Label F}
    {es : List (Label F)} (hstep : (system L).step r e r') (hskip : ¬ SkipsCycle r e)
    (hlatch : r.data.latch = true) (h : Progress es r) : Progress (es ++ [e]) r' := by
  cases h with
  | detected hsampled hdetected =>
    exact .detected hsampled.append (detected_step hstep hlatch hdetected)
  | idle hidle htop =>
    by_cases haction : e.1 = .worker
    · exact worker_progress hstep hskip hlatch haction (.inl htop)
    · refine .idle (fun e' he' => ?_) ((worker_unmoved hstep haction).trans htop)
      rcases List.mem_append.mp he' with he' | he'
      · exact hidle e' he'
      · rw [List.mem_singleton.mp he']
        exact haction
  | before hbefore =>
    by_cases haction : e.1 = .worker
    · exact worker_progress hstep hskip hlatch haction (.inr hbefore)
    · have hpc := worker_unmoved hstep haction
      exact .before (by rw [hpc]; exact hbefore)

/-- **Run lemma**: an attentive run under the asserted latch. -/
theorem progress_run {L : ModelLibrary F} {r r' : Machine F} {es : List (Label F)}
    (h : (attentive L).Run r es r') (hclear : ∀ e ∈ es, e.1 ≠ .estopClear)
    (hlatch : r.data.latch = true) (htop : r.worker = .top) :
    r'.data.latch = true ∧ Progress es r' := by
  induction h with
  | nil => exact ⟨hlatch, .idle (fun _ he => by cases he) htop⟩
  | snoc _ last ih =>
    obtain ⟨hmid, hprogress⟩ := ih fun e he => hclear e (List.mem_append_left _ he)
    have hlast := hclear _ (List.mem_append_right _ (List.mem_singleton.mpr rfl))
    exact ⟨latch_step last.1.1 hlast hmid, progress_step last.1.1 last.2 hmid hprogress⟩

/-- **The stop reaches the controller.**  Take a run that never masks the
    stop, up to a loop head of the worker with the latch asserted, and from
    there any number of full iterations without a clear whose checks find no
    pending plan: they sample the latch and leave every motor off. -/
theorem estop_reaches_controller (L : ModelLibrary F) {r₀ r₁ r₂ : Machine F}
    {es fs : List (Label F)} (hinit : Machine.Initial L r₀)
    (hrun : (unmaskedRuntime L).Run r₀ es r₁) (hlatch : r₁.data.latch = true)
    (hstart : r₁.worker = .top) (hiterations : (attentive L).Run r₁ fs r₂)
    (hclear : ∀ e ∈ fs, e.1 ≠ .estopClear) (hworked : ∃ e ∈ fs, e.1 = .worker)
    (hend : r₂.worker = .top) :
    Sampled fs ∧ ∀ side joint, (r₂.data.controller.arm side).motorEnabled joint = false := by
  obtain ⟨_, hprogress⟩ := progress_run hiterations hclear hlatch hstart
  have hdetected : Sampled fs ∧ r₂.data.controller.estopLatched = true := by
    cases hprogress with
    | idle hidle _ =>
      obtain ⟨e, he, hworker⟩ := hworked
      exact absurd hworker (hidle e he)
    | before hbefore =>
      rw [hend] at hbefore
      cases hbefore
    | detected hsampled hdetected => exact ⟨hsampled, hdetected⟩
  obtain ⟨w₀, creation, hw₀, hcreation, _⟩ := initial_run hinit
  have hwhole := (hcreation.append (unmasked_world_run hrun)).append
    (unmasked_world_run hiterations.of_restrict)
  have hreleased := detectorSafe_run L hw₀ hwhole hdetected.2
  exact ⟨hdetected.1, hreleased.atRest.allOff⟩

/-- The step can neither mask the stop nor skip a cycle, as far as its label
    and the latch tell. -/
def harmless (r : Machine F) (e : Label F) : Bool :=
  (match e.2.call? with
    | some label =>
      !label.1.cartesian &&
        !(r.data.controller.estopLatched && match label.1 with | .arm _ => true | _ => false)
    | none => true) &&
    !(r.data.latch && r.data.planPending)

theorem attentive_of_harmless {L : ModelLibrary F} {r r' : Machine F} {es : List (Label F)}
    (h : ((system L).restrict fun r e _ => harmless r e = true).Run r es r') :
    (attentive L).Run r es r' := by
  refine h.mono fun a e b ⟨hstep, hguard⟩ => ?_
  simp only [harmless, Bool.and_eq_true, Bool.not_eq_true'] at hguard
  obtain ⟨hcall, hpending⟩ := hguard
  refine ⟨⟨hstep, ?_⟩, ?_⟩
  · rintro ⟨label, hlabel, hmask⟩
    simp only [hlabel, Bool.and_eq_true, Bool.not_eq_true'] at hcall
    rcases hmask with ⟨hcartesian, _⟩ | ⟨⟨⟨challenge, harm⟩, _⟩, hdetector⟩
    · rw [hcall.1] at hcartesian
      cases hcartesian
    · have hdetector : a.data.controller.estopLatched = true := hdetector
      rw [harm, hdetector] at hcall
      exact absurd hcall.2 (by simp)
  · rintro ⟨_, _, hlatch, hplan⟩
    rw [hlatch, hplan] at hpending
    cases hpending

/-- One full iteration that runs a cycle and drains two events, the arming's
    and the stop's. -/
def cycledIteration : List (Action ℚ) :=
  [.worker, .tick 10000000] ++ List.replicate 13 .worker

/-- At the loop head. -/
def Machine.atTop (r : Machine ℚ) : Bool := decide (r.worker = .top)

/-- At the loop head under the asserted latch, before an iteration that runs
    its cycle. -/
def Machine.cycles (r : Machine ℚ) : Bool :=
  r.data.latch && r.atTop &&
    (execWhere silentLibrary harmless r cycledIteration).any fun last => last.1.atTop

/-- The stop asserted on the armed standard runtime, and one iteration. -/
theorem estop_reaches_armed_controller : ∃ es r₁ fs r₂,
    (system silentLibrary).Run standardMachine es r₁ ∧ r₁.data.latch = true ∧
      (system silentLibrary).Run r₁ fs r₂ ∧ fs.map Prod.fst = cycledIteration ∧ Sampled fs ∧
      ∀ side joint, (r₂.data.controller.arm side).motorEnabled joint = false := by
  have hrun : (execWhere silentLibrary harmless standardMachine
      (armingActions ++ [.estopAssert])).any (fun out => out.1.cycles) = true := by
    decide +kernel
  obtain ⟨es, r₁, hfirst, _, hcheck⟩ := execWhere_reaches hrun
  simp only [Machine.cycles, Bool.and_eq_true] at hcheck
  obtain ⟨⟨hlatch, htop⟩, hrest⟩ := hcheck
  have htop : r₁.worker = .top := decide_eq_true_eq.mp htop
  obtain ⟨fs, r₂, hsecond, hactions, hend⟩ := execWhere_reaches hrest
  have hend : r₂.worker = .top := decide_eq_true_eq.mp hend
  have hmem : ∀ e ∈ fs, e.1 ∈ cycledIteration := fun e he =>
    hactions ▸ List.mem_map_of_mem he
  have hworked : ∃ e ∈ fs, e.1 = .worker := by
    have hworker : Action.worker ∈ fs.map Prod.fst := by
      rw [hactions]
      exact List.mem_cons_self
    obtain ⟨e, he, hact⟩ := List.mem_map.mp hworker
    exact ⟨e, he, hact⟩
  have hclear : ∀ e ∈ fs, e.1 ≠ .estopClear := by
    intro e he heq
    have hin := hmem e he
    rw [heq] at hin
    simp [cycledIteration] at hin
  have hreach := estop_reaches_controller silentLibrary standardMachine_initial
    (attentive_of_harmless hfirst).of_restrict hlatch htop (attentive_of_harmless hsecond) hclear
    hworked hend
  exact ⟨es, r₁, fs, r₂, hfirst.of_restrict, hlatch, hsecond.of_restrict, hactions, hreach⟩

/-! ## §4. An iteration that finds a pending plan. -/

/-- The worker's steps from such a check to the loop head leave the controller
    alone. -/
theorem pending_iteration_runs_no_cycle (L : ModelLibrary F) {s s' : RuntimeData F}
    {pc pc' : WorkerPc} {event : Event F} (h : workerStep L s pc = some (s', pc', event))
    (hpc : (∃ sinceNs, pc = .waiting sinceNs ∧ s.closing = false ∧ s.planPending = true) ∨
      ∃ sinceNs, pc = .planWait sinceNs) :
    s'.controller = s.controller ∧ ((∃ sinceNs, pc' = .planWait sinceNs) ∨ pc' = .top) := by
  rcases hpc with ⟨sinceNs, rfl, hclosing, hpending⟩ | ⟨sinceNs, rfl⟩
  · simp only [workerStep] at h
    split at h
    · cases h
    split at h
    · cases h
      refine ⟨rfl, .inl ⟨s.hostNs, ?_⟩⟩
      rw [workerCheck, hclosing, hpending]
      rfl
    · cases h
  · simp only [workerStep, expirePlan] at h
    split at h
    · cases h
    split at h
    · cases h
      refine ⟨?_, .inr rfl⟩
      split <;> rfl
    · cases h

/-! ## §5. A run that keeps the motors on. -/

/-- One full iteration that finds the plan still pending. -/
def skippedIteration : List (Action ℚ) :=
  [.worker, .tick 10000000, .worker, .tick 10000000, .worker]

/-- Every motor of both arms is enabled. -/
def Machine.allOn (r : Machine ℚ) : Bool :=
  (List.finRange 2).all fun side => (List.finRange 7).all fun joint =>
    (r.data.controller.arm side).motorEnabled joint

/-- At the loop head with every motor enabled. -/
def Machine.skipped (r : Machine ℚ) : Bool := r.atTop && r.allOn

/-- At the loop head under the asserted latch, before an iteration that
    skips. -/
def Machine.skips (r : Machine ℚ) : Bool :=
  r.data.latch && r.atTop &&
    (exec silentLibrary r skippedIteration).any fun last => last.1.skipped

/-- **The stop skipped while a plan is pending**: the standard runtime armed
    with a plan pending, the stop asserted, one full iteration of the worker,
    and every motor is still enabled. -/
theorem estop_skipped_while_plan_pending : ∃ es r₁ fs r₂,
    Machine.Initial silentLibrary standardMachine ∧
      (system silentLibrary).Run standardMachine es r₁ ∧
      r₁.data.latch = true ∧ r₁.worker = .top ∧
      (system silentLibrary).Run r₁ fs r₂ ∧ r₂.worker = .top ∧
      fs.map Prod.fst = skippedIteration ∧
      ∀ side joint, (r₂.data.controller.arm side).motorEnabled joint = true := by
  have hrun : (exec silentLibrary standardMachine (planningActions ++ [.estopAssert])).any
      (fun out => out.1.skips) = true := by
    decide +kernel
  obtain ⟨es, r₁, hfirst, _, hcheck⟩ := exec_reaches hrun
  simp only [Machine.skips, Bool.and_eq_true] at hcheck
  obtain ⟨⟨hlatch, htop⟩, hrest⟩ := hcheck
  obtain ⟨fs, r₂, hsecond, hactions, hend⟩ := exec_reaches hrest
  simp only [Machine.skipped, Machine.allOn, Bool.and_eq_true, List.all_eq_true] at hend
  have htop : r₁.worker = .top := decide_eq_true_eq.mp htop
  have hend₁ : r₂.worker = .top := decide_eq_true_eq.mp hend.1
  exact ⟨es, r₁, fs, r₂, standardMachine_initial, hfirst, hlatch, htop, hsecond, hend₁, hactions,
    fun side joint => hend.2 side (List.mem_finRange side) joint (List.mem_finRange joint)⟩

end OpenArm.Runtime
