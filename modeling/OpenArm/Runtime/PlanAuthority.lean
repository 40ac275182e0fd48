/-
  OpenArm.Runtime.PlanAuthority — the pending authority of a plan through the
  facade.

  A planner takes the authority before it plans, and the execute, the expiry
  or the destructor of its plan gives it back.  An execute checks the
  authority under the lock, and calls the controller after it has let the
  lock go.

  Main results:
    * `threadStep_book`, `startCall_book` — the calls follow the rules of
      `PlanBook.Step` and `PlanBook.Starts`.
    * `plan_authority` — in a run whose acquisitions never overlap, the pause
      has one holder, a superseded plan is harmless, and a plan is executed
      at most once.
    * `superseded_plan_executed` — a run that executes a superseded plan.
-/
import OpenArm.Runtime.PlanBook
import OpenArm.Runtime.Standard

namespace OpenArm.Runtime

open OpenArm.Lib OpenArm.Control

variable {F : Type} [Floating F]

/-! ## §1. The book of a runtime. -/

/-- What a failing call still has in hand of a plan. -/
def Cleanup.planStage : Cleanup → PlanStage
  | .nothing => .away
  | .dropPlan id => .refers id
  | .unlockPlan id => .locked id

/-- What a call on motion has in hand of a plan. -/
def MotionPc.planStage : MotionPc F → PlanStage
  | .planAcquire _ id => .acquiring id
  | .planRead _ id | .planTranslate _ id _ | .planSnapshot _ id _ | .planStale id
  | .planBuild _ id _ | .planInsert id => .refers id
  | .executeLock id _ => .refers id
  | .executeCheck id _ | .executeExpired id | .unlockPlan id _ => .locked id
  | .executeRead id _ | .executeTranslate id _ _ | .executeCall id _ _ _ _ => .cleared id
  | .executeRelease id => .succeeded id
  | .dropPlan id _ | .destructPlan id _ => .refers id
  | .recordError _ cleanup => cleanup.planStage
  | _ => .away

/-- What a thread has in hand of a plan. -/
def Pc.planStage : Pc F → PlanStage
  | .motion pc => pc.planStage
  | _ => .away

/-- The book of the shared state, with calls at these stages. -/
def RuntimeData.book (s : RuntimeData F) (stage : Nat → PlanStage) : PlanBook F :=
  ⟨s.planPending, s.planExpiryNs, s.planAuthorityId, s.nextPlanAuthorityId, s.plans, s.nextObject,
    stage⟩

def Machine.book (r : Machine F) : PlanBook F := r.data.book fun t => (r.threads t).planStage

/-- What a step from `pc` that showed `event` did to a plan: the authority
    block of a planner acquired it, or `execute` answered OK. -/
def RuntimeData.planEvent (s : RuntimeData F) (pc : Pc F) (event : Event F) : PlanEvent :=
  match pc, event with
  | .motion (.planAcquire _ id), _ =>
    if s.owner = .motion ∧ s.planPending = false then .acquired id else .quiet
  | .motion (.executeCall id _ _ _ _), .called (_, response) =>
    if response.status = .ok then .executed id else .quiet
  | _, _ => .quiet

/-! ## §2. The calls follow the rules. -/

section Rules

variable {L : ModelLibrary F} {s s' : RuntimeData F} {t : Nat} {around : Surroundings}
  {event : Event F} {stage : Nat → PlanStage}

section

omit [Floating F]

/-- A step that leaves the book alone passes from stage to stage. -/
theorem book_passes {before after : PlanStage} (hstage : stage t = before)
    (h : before.Passes after) (hsame : ∀ stage, s'.book stage = s.book stage) :
    (s.book stage).Step t .quiet (s'.book (Function.update stage t after)) := by
  rw [hsame]
  exact .pass (by subst hstage; exact h)

/-- A step that rewrites a plan. -/
theorem book_edits {before after : PlanStage} {id : Nat} {plan plan' : PlanData F}
    (hstage : stage t = before) (h : before.Passes after) (hplan : s.plans id = some plan)
    (hedits : plan.Edits plan' (before = .refers id))
    (hsame : ∀ stage, s'.book stage = (s.setPlan id plan').book stage) :
    (s.book stage).Step t .quiet (s'.book (Function.update stage t after)) := by
  rw [hsame]
  subst hstage
  exact .edit h hplan hedits

/-- A conditional clearing of the pending authority. -/
theorem book_clearing (s : RuntimeData F) (p : Prop) [Decidable p] (stage : Nat → PlanStage) :
    (if p then s.clearPending else s).book stage = (s.book stage).clear (decide p) := by
  by_cases h : p
  · rw [if_pos h, decide_eq_true h]
    rfl
  · rw [if_neg h, decide_eq_false h]
    rfl

end

/-- The pcs that refer to no plan before and after their step. -/
def MotionPc.planless : MotionPc F → Bool
  | .planAcquire .. | .planRead .. | .planTranslate .. | .planSnapshot .. | .planStale _
  | .planBuild .. | .planInsert _ | .executePin .. | .executeLock .. | .executeCheck ..
  | .executeRead .. | .executeExpired _ | .executeTranslate .. | .executeCall ..
  | .executeRelease _ | .unlockPlan .. | .dropPlan .. | .destructPlan .. | .recordError .. => false
  | _ => true

theorem motionStep_planless {pc : MotionPc F} {next : Next (MotionPc F)}
    (h : motionStep L s t around pc = some (s', next, event)) (hplanless : pc.planless = true) :
    next.motion.planStage = .away ∧ ∀ stage, s'.book stage = s.book stage := by
  cases pc with
  | planAcquire | planRead | planTranslate | planSnapshot | planStale | planBuild | planInsert
  | executePin | executeLock | executeCheck | executeRead | executeExpired | executeTranslate
  | executeCall | executeRelease | unlockPlan | dropPlan | destructPlan | recordError =>
    cases hplanless
  | _ =>
    simp only [motionStep, failWith] at h
    (repeat' split at h) <;> cases h <;> exact ⟨rfl, fun _ => rfl⟩

theorem motionStep_book {pc : MotionPc F} {next : Next (MotionPc F)}
    (h : motionStep L s t around pc = some (s', next, event)) (hstage : stage t = pc.planStage)
    (hnew : ∀ id, pc.planStage = .acquiring id → ∃ plan, s.plans id = some plan) :
    (s.book stage).Step t (s.planEvent (.motion pc) event)
      (s'.book (Function.update stage t next.motion.planStage)) := by
  cases pc with
  | planAcquire request id =>
    obtain ⟨plan, hplan⟩ := hnew id rfl
    simp only [motionStep, RuntimeData.acquireAuthority] at h
    split at h
    · cases h
    -- the authority is taken under the mutex, or the call is refused there
    by_cases hfree : s.owner = .motion ∧ s.planPending = false
    · have hrefused : ¬ (s.owner ≠ .motion ∨ s.planPending = true) := by
        rintro (howner | hpending)
        · exact howner hfree.1
        · rw [hfree.2] at hpending
          cases hpending
      have hevent : s.planEvent (.motion (.planAcquire request id)) event = .acquired id :=
        if_pos hfree
      rw [if_neg hrefused] at h
      cases h
      rw [hevent, hplan]
      exact .acquire request.expiryNs hstage hfree.2 hplan
    · have hrefused : s.owner ≠ .motion ∨ s.planPending = true := by
        by_contra hno
        push Not at hno
        exact hfree ⟨hno.1, by simpa using hno.2⟩
      have hevent : s.planEvent (.motion (.planAcquire request id)) event = .quiet :=
        if_neg hfree
      rw [if_pos hrefused] at h
      cases h
      rw [hevent]
      exact book_passes hstage (.refused id) fun _ => rfl
  | planRead request id =>
    simp only [motionStep] at h
    cases h
    exact book_passes hstage (.refers id) fun _ => rfl
  | planTranslate request id facadeNow =>
    simp only [motionStep, failWith] at h
    split at h
    · cases h
    rename_i plan hplan
    split at h <;> cases h
    · exact book_passes hstage (.refers id) fun _ => rfl
    · refine book_edits hstage (.refers id) hplan ?_ fun _ => rfl
      exact ⟨rfl, rfl, rfl, .inl⟩
  -- what a planner does between the mutexes leaves the book as it is
  | planSnapshot request id controllerExpiry =>
    simp only [motionStep, failWith] at h
    split at h
    · cases h
    split at h
    · split at h <;> cases h <;> exact book_passes hstage (.refers id) fun _ => rfl
    · cases h
      exact book_passes hstage (.refers id) fun _ => rfl
  | planStale id =>
    simp only [motionStep] at h
    split at h <;> cases h
    exact book_passes hstage (.refers id) fun _ => rfl
  | planBuild request id controllerExpiry =>
    simp only [motionStep, failWith] at h
    split at h
    · cases h
    rename_i plan hplan
    split at h <;> cases h
    · refine book_edits hstage (.refers id) hplan ?_ fun _ => rfl
      exact ⟨rfl, rfl, rfl, .inl⟩
    · exact book_passes hstage (.refers id) fun _ => rfl
  | planInsert id =>
    simp only [motionStep, failWith] at h
    split at h
    · cases h
    rename_i plan hplan
    split at h <;> cases h
    · refine book_edits hstage (.refers id) hplan ?_ fun _ => rfl
      -- from here on the handle is registered
      exact ⟨rfl, rfl, rfl, fun _ => .inr rfl⟩
    · exact book_passes hstage (.refers id) fun _ => rfl
  | executePin id request =>
    simp only [motionStep, failWith] at h
    split at h
    · cases h
      exact book_passes hstage .away fun _ => rfl
    rename_i plan hplan
    split at h
    · rename_i hregistered
      cases h
      exact .pin hstage hplan hregistered
    · cases h
      exact book_passes hstage .away fun _ => rfl
  | executeLock id request =>
    simp only [motionStep] at h
    split at h
    · cases h
    rename_i plan hplan
    split at h
    · cases h
    · rename_i hfree
      cases h
      exact .lock hstage hplan (by simpa using hfree)
  | executeCheck id request =>
    simp only [motionStep] at h
    split at h
    · cases h
    rename_i plan hplan
    split at h
    · cases h
    split at h
    · rename_i hholds
      cases h
      simp only [PlanData.holds, Bool.and_eq_true, beq_iff_eq] at hholds
      obtain ⟨⟨hauthority, hpending⟩, hid⟩ := hholds
      exact .check hstage hplan hauthority (by
        show (s.planPending && s.planAuthorityId == plan.authorityId) = true
        rw [hpending, hid]
        simp)
    · cases h
      exact book_passes hstage (.locked id) fun _ => rfl
  | executeRead id request =>
    simp only [motionStep, failWith] at h
    split at h
    · cases h
    split at h
    · cases h
      exact book_passes hstage (.failed id) fun _ => rfl
    split at h <;> cases h
    · exact book_passes hstage (.failed id) fun _ => rfl
    · exact book_passes hstage (.cleared id) fun _ => rfl
  | executeExpired id =>
    simp only [motionStep] at h
    split at h
    · cases h
    rename_i plan hplan
    split at h
    · cases h
    cases h
    -- an expired plan gives up its authority, and the runtime's if it is this one
    have hclear := book_clearing (s.setPlan id { plan with holdsAuthority := false })
      ((s.planPending && s.planAuthorityId == plan.authorityId) = true)
      (Function.update stage t (.locked id))
    rw [Bool.decide_eq_true] at hclear
    exact hclear ▸ PlanBook.Step.expire hstage hplan
  | executeTranslate id request facadeNow =>
    simp only [motionStep, failWith] at h
    split at h <;> cases h
    · exact book_passes hstage (.failed id) fun _ => rfl
    · exact book_passes hstage (.cleared id) fun _ => rfl
  | executeCall id request facadeNow controllerNow lower =>
    simp only [motionStep, failWith] at h
    split at h
    · cases h
    -- only a call the controller answered OK has executed the plan
    rename_i motion hmotion
    obtain ⟨plan, hplan, _⟩ := Option.bind_eq_some_iff.mp hmotion
    split at h
    · rename_i hok
      cases h
      have hevent : s.planEvent (.motion (.executeCall id request facadeNow controllerNow lower))
          (.called (.execute motion lower, (s.control L (.execute motion lower)).2)) =
            .executed id := if_pos hok
      rw [hevent]
      exact .execute hstage hplan
    · rename_i hfailed
      cases h
      have hevent : s.planEvent (.motion (.executeCall id request facadeNow controllerNow lower))
          (.called (.execute motion lower, (s.control L (.execute motion lower)).2)) =
            .quiet := if_neg hfailed
      rw [hevent]
      exact book_passes hstage (.failed id) fun _ => rfl
  | executeRelease id =>
    simp only [motionStep] at h
    split at h
    · cases h
    rename_i plan hplan
    split at h
    · cases h
    cases h
    have hclear := book_clearing (s.setPlan id { plan with holdsAuthority := false })
      (s.planAuthorityId = plan.authorityId) (Function.update stage t (.locked id))
    exact hclear ▸ PlanBook.Step.release hstage hplan
  | unlockPlan id status =>
    simp only [motionStep] at h
    split at h
    · cases h
    rename_i plan hplan
    cases h
    exact .unlock hstage hplan
  | dropPlan id status =>
    simp only [motionStep] at h
    split at h
    · cases h
    rename_i plan hplan
    cases h
    split
    · refine book_edits hstage (.refers id) hplan ?_ fun _ => rfl
      exact ⟨rfl, rfl, rfl, .inl⟩
    · refine book_edits hstage (.leave id) hplan ?_ fun _ => rfl
      exact ⟨rfl, rfl, rfl, .inl⟩
  | destructPlan id status =>
    simp only [motionStep] at h
    split at h
    · cases h
    cases h
    unfold RuntimeData.destructPlan
    cases hplan : s.plans id with
    | none =>
      refine book_passes hstage (.leave id) fun stage => ?_
      -- a plan that is gone leaves nothing to clear
      have hgone : Function.update s.plans id none = s.plans := by
        rw [← hplan]
        exact Function.update_eq_self id s.plans
      show RuntimeData.book { s with plans := Function.update s.plans id none } stage = _
      rw [hgone]
    | some plan =>
      have hclear := book_clearing { s with plans := Function.update s.plans id none }
        ((plan.holdsAuthority && s.planPending && s.planAuthorityId == plan.authorityId) = true)
        (Function.update stage t .away)
      rw [Bool.decide_eq_true, Bool.and_assoc] at hclear
      dsimp only
      rw [Bool.and_assoc]
      exact hclear ▸ PlanBook.Step.destruct hstage hplan
  | recordError error cleanup =>
    simp only [motionStep] at h
    split at h
    · cases h
    · cases h
      cases cleanup with
      | nothing => exact book_passes hstage .away fun _ => rfl
      | dropPlan id => exact book_passes hstage (.refers id) fun _ => rfl
      | unlockPlan id => exact book_passes hstage (.locked id) fun _ => rfl
  | _ =>
    obtain ⟨hafter, hsame⟩ := motionStep_planless h rfl
    rw [hafter]
    exact book_passes hstage .away hsame

omit [Floating F] in
theorem book_away (s : RuntimeData F) {before : PlanStage} (hstage : stage t = before)
    (haway : before = .away) :
    (s.book stage).Step t .quiet (s.book (Function.update stage t .away)) := by
  subst haway
  exact book_passes hstage .away fun _ => rfl

/-- Calls on calibration refer to no plan. -/
theorem calibrationStep_book {pc : CalibrationPc} {next : Next CalibrationPc}
    (h : calibrationStep s t around pc = some (s', next, event)) (stage : Nat → PlanStage) :
    s'.book stage = s.book stage := by
  cases pc <;> simp only [calibrationStep, failSession, afterCommission] at h <;>
    (repeat' split at h) <;> cases h <;> rfl

theorem threadStep_book {pc pc' : Pc F}
    (h : threadStep L s t around pc = some (s', pc', event)) (hstage : stage t = pc.planStage)
    (hnew : ∀ id, pc.planStage = .acquiring id → ∃ plan, s.plans id = some plan) :
    (s.book stage).Step t (s.planEvent pc event)
      (s'.book (Function.update stage t pc'.planStage)) := by
  cases pc with
  | idle => cases h
  | motion pc =>
    simp only [threadStep, Option.map_eq_some_iff] at h
    obtain ⟨⟨s₁, next, shown⟩, hstep, hout⟩ := h
    cases hout
    exact motionStep_book hstep hstage hnew
  | calibration pc =>
    simp only [threadStep, Option.map_eq_some_iff] at h
    obtain ⟨⟨s₁, next, shown⟩, hstep, hout⟩ := h
    cases hout
    have haway : (next.calibration : Pc F).planStage = .away := by cases next <;> rfl
    rw [haway, calibrationStep_book hstep]
    exact book_away s hstage rfl
  | erase =>
    cases h
    exact book_away s hstage rfl
  | returning status =>
    cases h
    exact book_away s hstage rfl

omit [Floating F] in
/-- The first step of a call that makes and erases no plan. -/
theorem book_starts (hsame : ∀ stage, s'.book stage = s.book stage) :
    (s.book stage).Starts t (s'.book (Function.update stage t .away)) := by
  rw [hsame]
  exact .call le_rfl

omit [Floating F] in
theorem startCall_book {c : Call F} {pc : Pc F} (t : Nat) (stage : Nat → PlanStage)
    (h : startCall s around c = some (s', pc, event)) :
    (s.book stage).Starts t (s'.book (Function.update stage t pc.planStage)) := by
  cases c with
  | plan request =>
    simp only [startCall, startPlan, requireRuntime, reject, refuse, proceed] at h
    (repeat' split at h) <;> cases h
    case h_2.isTrue.refl => exact .plans _ rfl rfl
    all_goals exact book_starts fun _ => rfl
  | planDestroy id =>
    simp only [startCall, startPlanDestroy, refuse, proceed] at h
    split at h
    · cases h
      exact book_starts fun _ => rfl
    rename_i plan hplan
    split at h
    · rename_i hregistered
      cases h
      exact .erase hplan hregistered
    · cases h
      exact book_starts fun _ => rfl
  | calibrationBegin request =>
    simp only [startCall, startBegin, reject, refuse, proceed] at h
    (repeat' split at h) <;> cases h
    case h_2.isTrue.refl => exact .call (Nat.le_succ _)
    all_goals exact book_starts fun _ => rfl
  | _ =>
    simp only [startCall, startSessionDestroy, requireRuntime, reject, refuse, proceed] at h
    (repeat' split at h) <;> cases h <;> exact book_starts fun _ => rfl

/-- The worker only lets an expired authority lapse. -/
theorem workerStep_book {pc pc' : WorkerPc} (h : workerStep L s pc = some (s', pc', event)) :
    ∃ release, ∀ stage, s'.book stage = (s.book stage).clear release := by
  cases pc with
  | planWait sinceNs =>
    simp only [workerStep, expirePlan] at h
    split at h
    · cases h
    split at h
    · cases h
      exact ⟨_, book_clearing s _⟩
    · cases h
  | _ =>
    refine ⟨false, fun stage => ?_⟩
    simp only [workerStep, RuntimeData.captureFeedbackClock] at h
    (repeat' split at h) <;> cases h <;> rfl

end Rules

/-! ## §3. Counting executions. -/

/-- How often each plan was executed, after a step. -/
def countExecutions (n : Nat → Nat) (r : Machine F) (e : Label F) (_ : Machine F) : Nat → Nat :=
  match e.1 with
  | .resume t _ => (r.data.planEvent (r.threads t) e.2).count n
  | _ => n

/-- The runtime with the number of times each plan was executed with OK. -/
def counted (L : ModelLibrary F) : Lts (Machine F × (Nat → Nat)) (Label F) :=
  (system L).withHistory (fun _ => 0) countExecutions

/-- The step takes the authority while an execute is between its check and its
    call of the controller, or while a live plan still holds the id the step
    hands out. -/
def OverlappingAcquisition (r : Machine F) (e : Label F) : Prop :=
  ∃ t around request id, e.1 = .resume t around ∧
    r.threads t = .motion (.planAcquire request id) ∧ r.data.owner = .motion ∧
      r.data.planPending = false ∧ r.book.Overlaps

section

omit [Floating F]

theorem book_update (r : Machine F) (data : RuntimeData F) (t : Nat) (pc : Pc F) :
    ({ r with data := data, threads := Function.update r.threads t pc } : Machine F).book =
      data.book (Function.update (fun t => (r.threads t).planStage) t pc.planStage) := by
  unfold Machine.book
  congr 1
  funext t'
  by_cases hsame : t' = t
  · subst hsame
    simp
  · simp [hsame]

/-- An acquisition that the book shows is the authority block of a planner. -/
theorem acquired_acquisition {s : RuntimeData F} {pc : Pc F} {event : Event F} {id : Nat}
    (h : s.planEvent pc event = .acquired id) : ∃ request,
      pc = .motion (.planAcquire request id) ∧ s.owner = .motion ∧ s.planPending = false := by
  unfold RuntimeData.planEvent at h
  split at h
  · split at h
    · rename_i hfree
      cases h
      exact ⟨_, rfl, hfree⟩
    · cases h
  · split at h <;> cases h
  · cases h

/-- A planner before its authority block has a live plan. -/
theorem acquiring_plan {r : Machine F} {n : Nat → Nat} (hc : Authorities r.book n) {t id : Nat}
    (hstage : (r.threads t).planStage = .acquiring id) : ∃ plan, r.data.plans id = some plan := by
  have hok := hc.threads t
  unfold PlanBook.ThreadOk at hok
  have hstage : r.book.stage t = .acquiring id := hstage
  rw [hstage] at hok
  obtain ⟨plan, hplan, _⟩ := hok.plan
  exact ⟨plan, hplan⟩

end

/-- **Step lemma**: a step whose acquisition does not overlap keeps the
    authorities. -/
theorem counted_step {L : ModelLibrary F} {p q : Machine F × (Nat → Nat)} {e : Label F}
    (hstep : (counted L).step p e q) (hover : ¬ OverlappingAcquisition p.1 e)
    (hc : Authorities p.1.book p.2) : Authorities q.1.book q.2 := by
  obtain ⟨r, n⟩ := p
  obtain ⟨r', n'⟩ := q
  obtain ⟨action, event⟩ := e
  obtain ⟨hstep, hcount⟩ := hstep
  have hcount : n' = countExecutions n r (action, event) r' := hcount
  subst hcount
  cases step_taken hstep with
  | worker h =>
    obtain ⟨release, hbook⟩ := workerStep_book h
    show Authorities (RuntimeData.book _ _) n
    rw [hbook]
    exact authority_lapse hc release
  | start hidle h =>
    rw [book_update]
    exact authority_start hc (congrArg Pc.planStage hidle) (startCall_book _ _ h)
  | @resume t around data pc _ h =>
    rw [book_update]
    refine authority_step hc (threadStep_book h rfl fun _ => acquiring_plan hc)
      fun id hacquired hoverlaps => hover ?_
    obtain ⟨request, hpc, howner, hpending⟩ := acquired_acquisition hacquired
    exact ⟨t, around, request, id, rfl, hpc, howner, hpending, hoverlaps⟩
  | tick => exact hc
  | estopAssert => exact hc
  | estopClear => exact hc

/-! ## §4. Created runtimes. -/

omit [Floating F] in
theorem book_drainEvents (facadeNow : Nat) (fuel : Nat) (s : RuntimeData F)
    (stage : Nat → PlanStage) :
    (RuntimeData.drainEvents facadeNow fuel s).book stage = s.book stage := by
  induction fuel generalizing s with
  | zero => rfl
  | succ fuel ih =>
    unfold RuntimeData.drainEvents
    split
    · rw [ih]
      rfl
    · rfl

theorem book_captureFeedbackClock (s : RuntimeData F) (controllerNow facadeNow : Nat)
    (stage : Nat → PlanStage) :
    (s.captureFeedbackClock controllerNow facadeNow).book stage = s.book stage := by
  unfold RuntimeData.captureFeedbackClock
  split <;> rfl

/-- A created runtime has no plans. -/
theorem create_book {L : ModelLibrary F} {options : RuntimeOptions}
    {manifest : RuntimeManifest F} {latch : Bool} {instanceId hostNs facadeNow : Nat}
    {s : RuntimeData F} (stage : Nat → PlanStage)
    (h : RuntimeData.create L options manifest latch instanceId hostNs facadeNow = .ok s) :
    s.book stage = ⟨false, 0, 0, 1, fun _ => none, 0, stage⟩ := by
  unfold RuntimeData.create at h
  split at h
  · cases h
  dsimp only at h
  (repeat' split at h) <;> cases h
  rw [book_drainEvents, book_captureFeedbackClock]
  rfl

theorem initial_book {L : ModelLibrary F} {r : Machine F} (h : Machine.Initial L r) :
    r.book = ⟨false, 0, 0, 1, fun _ => none, 0, fun _ => .away⟩ := by
  obtain ⟨_, hidle, options, manifest, latch, instanceId, hostNs, facadeNow, hcreate⟩ := h
  unfold Machine.book
  rw [create_book _ hcreate]
  congr 1
  funext t
  rw [hidle t]
  rfl

theorem initial_authorities {L : ModelLibrary F} {p : Machine F × (Nat → Nat)}
    (h : (counted L).init p) : Authorities p.1.book p.2 := by
  obtain ⟨hinit, hstart⟩ := h
  rw [initial_book hinit, hstart]
  exact
    { distinct := fun _ _ _ h _ => by
        obtain ⟨_, hplan, _⟩ := h
        cases hplan
      held := fun h => by cases h
      once := fun _ => Nat.zero_le 1
      spent := fun _ _ _ => .inl rfl
      fresh := fun _ _ => ⟨rfl, rfl, fun _ h => by cases h⟩
      threads := fun _ => trivial }

/-! ## §5. The protocol. -/

/-- The runs whose acquisitions never overlap. -/
def orderly (L : ModelLibrary F) : Lts (Machine F × (Nat → Nat)) (Label F) :=
  (counted L).restrict fun p e _ => ¬ OverlappingAcquisition p.1 e

/-- **Run lemma.** -/
theorem orderly_run {L : ModelLibrary F} {p q : Machine F × (Nat → Nat)} {es : List (Label F)}
    (hinit : (counted L).init p) (hrun : (orderly L).Run p es q) : Authorities q.1.book q.2 :=
  hrun.invariant_under (initial_authorities hinit) fun _ _ _ hstep hover hc =>
    counted_step hstep hover hc

/-- **The plan authority protocol**, in a run whose acquisitions never
    overlap.  While a plan is pending exactly one live plan holds its
    authority; no plan is executed twice; and a call on a plan whose authority
    was superseded neither executes it nor changes the authority words. -/
theorem plan_authority (L : ModelLibrary F) {p q : Machine F × (Nat → Nat)}
    {es : List (Label F)} (hinit : (counted L).init p) (hrun : (orderly L).Run p es q) :
    (q.1.data.planPending = true → ∃! id, q.1.book.Holds q.1.data.planAuthorityId id) ∧
      (∀ id, q.2 id ≤ 1) ∧
      ∀ t around event q' id plan, (counted L).step q (.resume t around, event) q' →
        (q.1.threads t).planStage.plan = some id →
        (q.1.threads t).planStage ≠ .acquiring id → q.1.data.plans id = some plan →
        plan.authorityId ≠ q.1.data.planAuthorityId →
          q'.2 id = q.2 id ∧ q'.1.data.planPending = q.1.data.planPending ∧
            q'.1.data.planExpiryNs = q.1.data.planExpiryNs ∧
            q'.1.data.planAuthorityId = q.1.data.planAuthorityId := by
  have hc := orderly_run hinit hrun
  refine ⟨fun hpending => ?_, hc.once, ?_⟩
  · obtain ⟨id, hholds⟩ := hc.held hpending
    exact ⟨id, hholds, fun id' hholds' => hc.distinct _ _ _ hholds' hholds⟩
  · rintro t around event ⟨r', n'⟩ id plan ⟨hstep, hcount⟩ hplan hnew hsome hsuperseded
    have hcount : n' = (q.1.data.planEvent (q.1.threads t) event).count q.2 := hcount
    subst hcount
    cases step_taken hstep with
    | resume h =>
      have hbook : q.1.book.Step t _ _ := threadStep_book h rfl fun _ => acquiring_plan hc
      obtain ⟨hnot, hpending, hexpiry, hid⟩ :=
        superseded_step hc hbook hplan hnew hsome hsuperseded
      refine ⟨?_, hpending, hexpiry, hid⟩
      cases hevent : q.1.data.planEvent (q.1.threads t) event with
      | quiet => rfl
      | acquired id' => rfl
      | executed id' =>
        have hne : id ≠ id' := by
          rintro rfl
          exact hnot hevent
        exact Function.update_of_ne hne _ _

/-! ## §6. The first acquisition. -/

/-- The step does not run the authority block of a planner. -/
def acquiresNothing (r : Machine F) (e : Label F) : Bool :=
  match e.1 with
  | .resume t _ =>
    match r.threads t with
    | .motion (.planAcquire _ _) => false
    | _ => true
  | _ => true

omit [Floating F] in
theorem acquiresNothing_orderly {r : Machine F} {e : Label F} (h : acquiresNothing r e = true) :
    ¬ OverlappingAcquisition r e := by
  rintro ⟨t, around, request, id, haction, hpc, _⟩
  simp only [acquiresNothing, haction, hpc] at h
  cases h

/-- Before the first authority block nothing is claimed. -/
theorem unclaimed_run {L : ModelLibrary F} {p q : Machine F × (Nat → Nat)} {es : List (Label F)}
    (hinit : (counted L).init p)
    (hrun : (((system L).restrict fun r e _ => acquiresNothing r e = true).withHistory
      (fun _ => 0) countExecutions).Run p es q) :
    (orderly L).Run p es q ∧ q.1.book.Unclaimed := by
  induction hrun with
  | nil =>
    rw [initial_book hinit.1]
    refine ⟨.nil p, fun _ _ hholds => ?_, fun _ _ hcleared => ?_⟩
    · obtain ⟨_, hplan, _⟩ := hholds
      cases hplan
    · cases hcleared
  | @snoc m q es e _ last ih =>
    obtain ⟨horderly, hunclaimed⟩ := ih
    obtain ⟨⟨hstep, hnothing⟩, hcount⟩ := last
    have hc := orderly_run hinit horderly
    refine ⟨horderly.snoc ⟨⟨hstep, hcount⟩, acquiresNothing_orderly hnothing⟩, ?_⟩
    obtain ⟨r, n⟩ := m
    obtain ⟨r', n'⟩ := q
    obtain ⟨action, event⟩ := e
    cases step_taken hstep with
    | worker h =>
      obtain ⟨release, hbook⟩ := workerStep_book h
      show PlanBook.Unclaimed (RuntimeData.book _ _)
      rw [hbook]
      exact hunclaimed
    | start hidle h =>
      rw [book_update]
      exact unclaimed_start hc (startCall_book _ _ h) hunclaimed
    | @resume t around data pc _ h =>
      rw [book_update]
      refine unclaimed_step (threadStep_book h rfl fun _ => acquiring_plan hc) ?_ hunclaimed
      intro id hacquired
      obtain ⟨request, hpc, _⟩ := acquired_acquisition hacquired
      have hpc : r.threads t = .motion (.planAcquire request id) := hpc
      have hacquires : acquiresNothing r (.resume t around, event) = false := by
        simp only [acquiresNothing, hpc]
      exact absurd hnothing (by rw [hacquires]; exact nofun)
    | tick => exact hunclaimed
    | estopAssert => exact hunclaimed
    | estopClear => exact hunclaimed

/-- Armed, and a planner at its authority block. -/
def beforeAcquiring : List (Action ℚ) :=
  armingActions ++ uninterrupted 0 (.plan (.joint stayRequest)) 0

/-- The next step of thread 0 makes a plan pending. -/
def becomesPending (p : Machine ℚ × (Nat → Nat)) : Bool :=
  (p.1.step silentLibrary (.resume 0 favourable)).any fun out => out.1.data.planPending

/-- The first plan of the standard runtime is pending, and has one holder. -/
theorem plan_authority_first : ∃ p es q, (counted (F := ℚ) silentLibrary).init p ∧
    (orderly silentLibrary).Run p es q ∧ q.1.data.planPending = true ∧
      ∃! id, q.1.book.Holds q.1.data.planAuthorityId id := by
  have hexec : (execRecorded silentLibrary acquiresNothing countExecutions
      (standardMachine, fun _ => 0) beforeAcquiring).any becomesPending = true := by
    decide +kernel
  obtain ⟨es, m, hrun, _, hcheck⟩ := execRecorded_reaches (fun _ => 0) hexec
  have hinit : (counted silentLibrary).init (standardMachine, fun _ => 0) :=
    ⟨standardMachine_initial, rfl⟩
  obtain ⟨horderly, hunclaimed⟩ := unclaimed_run hinit hrun
  obtain ⟨⟨r', event⟩, hstep, hpending⟩ := (Option.any_eq_true _ _).mp hcheck
  have hlast : (orderly silentLibrary).step m (.resume 0 favourable, event)
      (r', countExecutions m.2 m.1 (.resume 0 favourable, event) r') := by
    refine ⟨⟨hstep, rfl⟩, ?_⟩
    rintro ⟨_, _, _, _, _, _, _, _, hoverlaps⟩
    exact hunclaimed.not_overlaps hoverlaps
  have hwhole := horderly.snoc hlast
  exact ⟨_, _, _, hinit, hwhole, hpending, (plan_authority silentLibrary hinit hwhole).1 hpending⟩

/-! ## §7. A superseded plan that is executed. -/

/-- Execute until the plan expires. -/
def lateExecute : FacadeExecute where
  recordValid := true
  outValid := true
  clockId := clockMonotonic
  startNs := 0
  expiryNs := 11000000000
  producerDeadlineNs := 11000000000
  stopKind := .disable

/-- Thread 1 executes the pending plan, and has read the host clock. -/
def checkedExecute : List (Action ℚ) :=
  planningActions ++ uninterrupted 1 (.execute 0 lateExecute) 4

/-- The plan expires, and the worker gives its authority up. -/
def lapse : List (Action ℚ) := [.worker, .tick 10000000000, .worker, .tick 10000000, .worker]

/-- Thread 2 takes the authority for the next plan. -/
def successor : List (Action ℚ) :=
  uninterrupted 2 (.plan (.joint { stayRequest with expiryNs := 30000000000 })) 1

/-- Thread 1 goes on to its call of the controller. -/
def superseding : List (Action ℚ) :=
  checkedExecute ++ lapse ++ successor ++ [.resume 1 favourable]

/-- The plan 0 is superseded, and the next step of thread 1 executes it. -/
def executesSuperseded (p : Machine ℚ × (Nat → Nat)) : Bool :=
  p.1.data.planPending && (p.1.data.plans 0).any (fun plan =>
    plan.authorityId != p.1.data.planAuthorityId) && (p.2 0 == 0) &&
      (p.1.step silentLibrary (.resume 1 favourable)).any fun out =>
        countExecutions p.2 p.1 (.resume 1 favourable, out.2) out.1 0 == 1

/-- **A superseded plan is executed**: the worker lets the authority of the
    plan lapse between the check of its execute and the call of the
    controller, another plan takes the authority, and the execute answers
    OK. -/
theorem superseded_plan_executed : ∃ p es q event q' plan,
    (counted (F := ℚ) silentLibrary).init p ∧ (counted silentLibrary).Run p es q ∧
      q.1.data.planPending = true ∧ q.1.data.plans 0 = some plan ∧
      plan.authorityId ≠ q.1.data.planAuthorityId ∧
      (counted silentLibrary).step q (.resume 1 favourable, event) q' ∧
      q.2 0 = 0 ∧ q'.2 0 = 1 := by
  have hexec : (execRecorded silentLibrary (fun _ _ => true) countExecutions
      (standardMachine, fun _ => 0) superseding).any executesSuperseded = true := by
    decide +kernel
  obtain ⟨es, q, hrun, _, hcheck⟩ := execRecorded_reaches (fun _ => 0) hexec
  have hrun : (counted silentLibrary).Run (standardMachine, fun _ => 0) es q :=
    hrun.mono fun _ _ _ ⟨⟨hstep, _⟩, hcount⟩ => ⟨hstep, hcount⟩
  simp only [executesSuperseded, Bool.and_eq_true, beq_iff_eq] at hcheck
  obtain ⟨⟨⟨hpending, hplan⟩, hzero⟩, hnext⟩ := hcheck
  obtain ⟨plan, hsome, hsuperseded⟩ := (Option.any_eq_true _ _).mp hplan
  obtain ⟨⟨r', event⟩, hstep, hone⟩ := (Option.any_eq_true _ _).mp hnext
  have hinit : (counted silentLibrary).init (standardMachine, fun _ => 0) :=
    ⟨standardMachine_initial, rfl⟩
  exact ⟨_, es, q, event, (r', _), plan, hinit, hrun, hpending, hsome, bne_iff_ne.mp hsuperseded,
    ⟨hstep, rfl⟩, hzero, beq_iff_eq.mp hone⟩

end OpenArm.Runtime
