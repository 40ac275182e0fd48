/-
  OpenArm.Runtime.Ownership — calibration and motion never own a runtime
  together, unless a destructor gives away what is not its own.

  The destructor of every session object frees the owner word when it says
  calibration, also the temporary object of a begin that was refused and the
  object of a session that has long finished.

  Main results:
    * `threadStep_custody`, `startCall_custody` — the calls follow the rules
      of `Registry.Step` and `Registry.Starts`.
    * `ownership_exclusive` — in a run without such a destructor the owner is
      what the calls so far make it.
    * `refused_begin_frees_owner` — a run with one arms the runtime under an
      unfinished session.
-/
import OpenArm.Runtime.Custody
import OpenArm.Runtime.Standard

namespace OpenArm.Runtime

open OpenArm.Lib OpenArm.Control

variable {F : Type} [Floating F]

/-! ## §1. The registry of a runtime. -/

/-- What a call on calibration has in hand. -/
def CalibrationPc.stage : CalibrationPc → Stage
  | .pin _ _ => .calling
  | .beginClaim id => .claiming id
  | .beginCreate id | .beginUnclaim id _ | .beginInsert id => .beginning id
  | .lock id _ => .pinned id
  | .check id _ | .recordLocked id _ => .locked id
  | .sampleOwner id _ | .sampleCapture id _ | .commission id _ | .publish id _
  | .finishAbort id => .live id
  | .unlock id status => if status = .ok then .settled id else .locked id
  | .drop id status => .leaving id (decide (status = .ok))
  | .recordError id error => .leaving id (decide (error.status = .ok))
  | .destruct id status => .destructing id (decide (status = .ok))

/-- What a call on motion has in hand. -/
def MotionPc.stage : MotionPc F → Stage
  | .armChallenge | .armCall _ | .armDone _ => .arming
  | _ => .calling

/-- What a thread has in hand. -/
def Pc.stage : Pc F → Stage
  | .idle => .rest
  | .motion pc => pc.stage
  | .calibration pc => pc.stage
  | .erase => .calling
  | .returning status => if status = .ok then .rest else .calling

/-- What an event says about the owner. -/
def Event.owner : Event F → OwnerEvent
  | .claimed id => .claimed id
  | .unclaimed id => .unclaimed id
  | .began id => .began id
  | .finished id => .finished id
  | .destructed id => .destructed id
  | .armed => .armed
  | .disarmed => .disarmed
  | .silent | .called _ | .delivered _ | .returned _ => .quiet

/-- The registry of the shared state, with calls at these stages. -/
def RuntimeData.registry (s : RuntimeData F) (stage : Nat → Stage) : Registry :=
  ⟨s.owner, s.mutex, s.sessions, s.nextObject, stage⟩

def Machine.registry (r : Machine F) : Registry := r.data.registry fun t => (r.threads t).stage

/-! ## §2. The calls follow the rules. -/

section Rules

variable {L : ModelLibrary F} {s s' : RuntimeData F} {t : Nat} {around : Surroundings}
  {event : Event F} {stage : Nat → Stage}

omit [Floating F] in
theorem returning_stage (status : RuntimeStatus) :
    (Pc.returning status : Pc F).stage = .rest ∨ (Pc.returning status : Pc F).stage = .calling := by
  by_cases hok : status = .ok
  · exact .inl (if_pos hok)
  · exact .inr (if_neg hok)

omit [Floating F] in
/-- A step that leaves the registry alone passes from stage to stage. -/
theorem passes {before after : Stage} (hstage : stage t = before) (h : before.Passes after) :
    (s.registry stage).Step t .quiet (s.registry (Function.update stage t after)) :=
  .pass (by subst hstage; exact h)

/-- The stages at which a call on a session gives its answer. -/
theorem unlock_stage (id : Nat) (status : RuntimeStatus) :
    (CalibrationPc.unlock id status).stage = .settled id ∧ status = .ok ∨
      (CalibrationPc.unlock id status).stage = .locked id ∧ status ≠ .ok := by
  unfold CalibrationPc.stage
  by_cases hok : status = .ok
  · exact .inl ⟨if_pos hok, hok⟩
  · exact .inr ⟨if_neg hok, hok⟩

omit [Floating F] in
theorem unlock_passes {id : Nat} {before : Stage} (status : RuntimeStatus)
    (hstage : stage t = before) (h : before = .live id ∨ before = .locked id) :
    (s.registry stage).Step t .quiet
      (s.registry (Function.update stage t (CalibrationPc.unlock id status).stage)) := by
  refine passes hstage ?_
  rcases unlock_stage id status with ⟨hunlock, _⟩ | ⟨hunlock, _⟩ <;> rw [hunlock] <;>
    rcases h with rfl | rfl
  · exact .succeeded id
  · exact .answered id
  · exact .failed id
  · exact .locked id

theorem isSome_false {α : Type} {a : Option α} (h : ¬ a.isSome = true) : a = none := by
  simpa using h

theorem calibrationStep_custody {pc : CalibrationPc} {next : Next CalibrationPc}
    (h : calibrationStep s t around pc = some (s', next, event)) (hstage : stage t = pc.stage) :
    (s.registry stage).Step t event.owner
      (s'.registry (Function.update stage t (next.calibration : Pc F).stage)) := by
  cases pc with
  -- the owner is written under the mutex of the runtime only
  | beginClaim id =>
    simp only [calibrationStep] at h
    split at h
    · cases h
    rename_i hmutex
    split at h
    · cases h
      exact passes (s := s) hstage (.refused id _)
    split at h
    · cases h
      exact passes (s := s) hstage (.refused id _)
    · rename_i howner
      cases h
      -- free, so the begin takes it
      exact .claim hstage (isSome_false hmutex) (not_not.mp howner)
  | beginCreate id =>
    simp only [calibrationStep] at h
    split at h <;> cases h <;> exact passes hstage (.beginning id)
  | beginUnclaim id lower =>
    simp only [calibrationStep] at h
    split at h
    · cases h
    · rename_i hmutex
      cases h
      exact .unclaim hstage (isSome_false hmutex)
  | beginInsert id =>
    simp only [calibrationStep] at h
    split at h
    · cases h
    rename_i session hsession
    split at h
    · cases h
      exact .register hstage hsession
    · cases h
      exact passes hstage (.unregistered id _)
  | pin id op =>
    simp only [calibrationStep] at h
    split at h
    · cases h
      exact passes hstage .calling
    rename_i session hsession
    split at h
    · cases h
      exact passes hstage .calling
    · rename_i hregistered
      cases h
      -- a registered session is pinned, whichever operation comes next
      refine .pin hstage hsession (by simpa using hregistered) ?_
      dsimp only [Next.calibration, Pc.stage]
      split
      · exact .inr rfl
      split
      · exact .inr rfl
      · exact .inl rfl
  | lock id op =>
    simp only [calibrationStep] at h
    split at h
    · cases h
    rename_i session hsession
    split at h
    · cases h
    · rename_i hfree
      cases h
      exact .lock hstage hsession (isSome_false hfree)
  | check id op =>
    simp only [calibrationStep, failSession] at h
    split at h
    · cases h
    rename_i session hsession
    split at h
    · cases h
      exact passes hstage (.locked id)
    · rename_i hlive
      split at h
      · cases h
        exact .check hstage hsession (by simpa using hlive)
      · cases h
        exact .check hstage hsession (by simpa using hlive)
      · cases h
        exact passes hstage (.locked id)
      · cases h
        exact .check hstage hsession (by simpa using hlive)
  | sampleOwner id op =>
    simp only [calibrationStep, failSession] at h
    split at h
    · cases h
    split at h <;> cases h
    · exact passes hstage (.failed id)
    · exact passes hstage (.live id)
  -- a sample is the one step that writes into the session's samples
  | sampleCapture id op =>
    simp only [calibrationStep, failSession] at h
    split at h
    · cases h
    rename_i session hsession
    split at h
    · cases h
    split at h
    · split at h <;> cases h
      · exact passes (s := s) hstage (.failed id)
      · rename_i sampled hsample
        unfold CalibrationData.sample at hsample
        dsimp only at hsample
        split at hsample
        · cases hsample
        · cases hsample
          exact .sample _ _ hstage hsession
    · cases h
      exact passes hstage (.failed id)
  | commission id op =>
    simp only [calibrationStep, afterCommission, failSession] at h
    split at h
    · cases h
      exact passes hstage (.failed id)
    · cases op with
      | manualSample | manualReview | recipeStep =>
        cases h
        exact unlock_passes .ok hstage (.inl rfl)
      | manualCommit revision evidenceValid outValid | recipeCommit revision outValid =>
        dsimp only at h
        split at h <;> cases h
        · exact passes hstage (.live id)
        · exact unlock_passes .eabi hstage (.inl rfl)
      | abort =>
        cases h
        exact passes hstage (.live id)
  -- a validated commit ends the session and gives the owner back
  | publish id revision =>
    simp only [calibrationStep] at h
    split at h
    · cases h
    rename_i session hsession
    split at h
    · cases h
      exact unlock_passes around.validation hstage (.inl rfl)
    split at h
    · cases h
      exact unlock_passes .enomem hstage (.inl rfl)
    split at h
    · cases h
    · rename_i hmutex
      cases h
      exact .finish hstage hsession (isSome_false hmutex)
  | finishAbort id =>
    simp only [calibrationStep] at h
    split at h
    · cases h
    rename_i session hsession
    split at h
    · cases h
    · rename_i hmutex
      cases h
      exact .finish hstage hsession (isSome_false hmutex)
  | unlock id status =>
    simp only [calibrationStep] at h
    split at h
    · cases h
    rename_i session hsession
    cases h
    refine .unlock ?_ hsession
    rcases unlock_stage id status with ⟨hunlock, hok⟩ | ⟨hunlock, hok⟩
    · exact .inr ⟨hstage.trans hunlock, decide_eq_true hok⟩
    · exact .inl ⟨hstage.trans hunlock, decide_eq_false hok⟩
  | drop id status =>
    simp only [calibrationStep] at h
    split at h
    · cases h
    rename_i session hsession
    cases h
    refine .drop hstage hsession ?_
    -- the last reference also destroys the session
    by_cases hlast : session.references ≤ 1
    · rw [if_pos hlast, if_pos hlast]
      rfl
    · rw [if_neg hlast, if_neg hlast]
      simp [Next.calibration, Pc.stage]
  | destruct id status =>
    simp only [calibrationStep] at h
    split at h
    · cases h
    · rename_i hmutex
      cases h
      have hreturn : ((Next.ret status : Next CalibrationPc).calibration : Pc F).stage =
          if decide (status = .ok) then .rest else .calling := by
        simp [Next.calibration, Pc.stage]
      rw [hreturn]
      exact .destruct hstage (isSome_false hmutex)
  | recordLocked id error =>
    simp only [calibrationStep] at h
    split at h
    · cases h
    · cases h
      exact unlock_passes (s := s) error.status hstage (.inr rfl)
  | recordError id error =>
    simp only [calibrationStep] at h
    split at h
    · cases h
    · cases h
      exact passes (s := s) hstage (.leaving id _)

section

omit [Floating F]

theorem registry_acquireAuthority (s : RuntimeData F) (id expiryNs : Nat) (stage : Nat → Stage) :
    (s.acquireAuthority id expiryNs).1.registry stage = s.registry stage := by
  unfold RuntimeData.acquireAuthority
  split <;> rfl

theorem registry_destructPlan (s : RuntimeData F) (id : Nat) (stage : Nat → Stage) :
    (s.destructPlan id).registry stage = s.registry stage := by
  unfold RuntimeData.destructPlan
  split
  · rfl
  · split <;> rfl

/-- A step of a call on motion that leaves the registry alone. -/
theorem calls_on {after : Stage} (hstage : stage t = .calling)
    (hafter : after = .rest ∨ after = .calling)
    (hsame : ∀ stage, s'.registry stage = s.registry stage) :
    (s.registry stage).Step t .quiet (s'.registry (Function.update stage t after)) := by
  rw [hsame]
  rcases hafter with rfl | rfl
  · exact passes hstage .settle
  · exact passes hstage .calling

end

/-- The steps of a call on motion outside of arming and disarming. -/
def MotionPc.quiet : MotionPc F → Bool
  | .armOwner | .armChallenge | .armCall _ | .armDone _ | .disarmOwner => false
  | _ => true

theorem motionStep_quiet {pc : MotionPc F} {next : Next (MotionPc F)}
    (h : motionStep L s t around pc = some (s', next, event)) (hquiet : pc.quiet = true) :
    event.owner = .quiet ∧ (next.motion.stage = .rest ∨ next.motion.stage = .calling) ∧
      ∀ stage, s'.registry stage = s.registry stage := by
  cases pc with
  | armOwner | armChallenge | armCall | armDone | disarmOwner => cases hquiet
  | _ =>
    simp only [motionStep, failWith] at h
    (repeat' split at h) <;> cases h <;>
      refine ⟨rfl, ?_, fun stage => ?_⟩ <;>
      first
        | rfl
        | exact .inr rfl
        | exact returning_stage _
        | exact registry_acquireAuthority s _ _ stage
        | exact registry_destructPlan s _ stage

theorem motionStep_custody {pc : MotionPc F} {next : Next (MotionPc F)}
    (h : motionStep L s t around pc = some (s', next, event)) (hstage : stage t = pc.stage) :
    (s.registry stage).Step t event.owner
      (s'.registry (Function.update stage t next.motion.stage)) := by
  cases pc with
  | armOwner =>
    simp only [motionStep] at h
    split at h
    · cases h
    rename_i hmutex
    split at h
    · cases h
      exact calls_on hstage (returning_stage _) fun _ => rfl
    rename_i howner
    split at h
    · cases h
      exact calls_on hstage (returning_stage _) fun _ => rfl
    · cases h
      exact .enter hstage (isSome_false hmutex) (not_not.mp howner)
  | armChallenge =>
    simp only [motionStep] at h
    split at h <;> cases h <;>
      exact passes (s := (s.control L .challenge).1) hstage .arming
  | armCall challenge =>
    simp only [motionStep] at h
    cases h
    exact passes (s := (s.control L (.arm challenge)).1) hstage .arming
  | armDone lower =>
    simp only [motionStep] at h
    split at h <;> cases h
    · exact .arm hstage
    · exact .refuseArm hstage (returning_stage _)
  | disarmOwner =>
    simp only [motionStep] at h
    split at h
    · cases h
    · rename_i hmutex
      cases h
      exact .disarm hstage (isSome_false hmutex)
  | _ =>
    obtain ⟨hevent, hafter, hsame⟩ := motionStep_quiet h rfl
    rw [hevent]
    exact calls_on hstage hafter hsame

theorem threadStep_custody {pc pc' : Pc F}
    (h : threadStep L s t around pc = some (s', pc', event)) (hstage : stage t = pc.stage) :
    (s.registry stage).Step t event.owner
      (s'.registry (Function.update stage t pc'.stage)) := by
  cases pc with
  | idle => cases h
  | motion pc =>
    simp only [threadStep, Option.map_eq_some_iff] at h
    obtain ⟨⟨s₁, next, shown⟩, hstep, hout⟩ := h
    cases hout
    exact motionStep_custody hstep hstage
  | calibration pc =>
    simp only [threadStep, Option.map_eq_some_iff] at h
    obtain ⟨⟨s₁, next, shown⟩, hstep, hout⟩ := h
    cases hout
    exact calibrationStep_custody hstep hstage
  | erase =>
    cases h
    exact calls_on (s := s) hstage (returning_stage .ok) fun _ => rfl
  | returning status =>
    cases h
    rcases returning_stage (F := F) status with hrest | hcalling
    · exact passes (hstage.trans hrest) .rest
    · exact passes (hstage.trans hcalling) .settle

omit [Floating F] in
/-- The first step of a call that creates and erases no session. -/
theorem starts_call {after : Stage} (hafter : after = .rest ∨ after = .calling)
    (hsame : ∀ stage, s'.registry stage = s.registry stage) :
    (s.registry stage).Starts t (s'.registry (Function.update stage t after)) := by
  rw [hsame]
  exact .call hafter le_rfl

omit [Floating F] in
theorem startCall_custody {c : Call F} {pc : Pc F} (t : Nat) (stage : Nat → Stage)
    (h : startCall s around c = some (s', pc, event)) :
    (s.registry stage).Starts t (s'.registry (Function.update stage t pc.stage)) := by
  cases c with
  | calibrationDestroy id =>
    simp only [startCall, startSessionDestroy, refuse] at h
    split at h
    · cases h
      exact starts_call (returning_stage .ok) fun _ => rfl
    rename_i session hsession
    split at h
    · rename_i hregistered
      cases h
      exact .erase hsession hregistered
    · cases h
      exact starts_call (returning_stage .ok) fun _ => rfl
  | calibrationBegin request =>
    simp only [startCall, startBegin, reject, refuse, proceed] at h
    (repeat' split at h) <;> cases h
    case h_2.isTrue.refl => exact .begins _ rfl rfl rfl
    all_goals exact starts_call (.inr rfl) fun _ => rfl
  | plan request =>
    simp only [startCall, startPlan, requireRuntime, reject, refuse, proceed] at h
    (repeat' split at h) <;> cases h
    case h_2.isTrue.refl => exact .call (.inr rfl) (Nat.le_succ _)
    all_goals exact starts_call (.inr rfl) fun _ => rfl
  | _ =>
    simp only [startCall, startPlanDestroy, requireRuntime, reject, refuse, proceed] at h
    (repeat' split at h) <;> cases h <;> refine starts_call ?_ fun _ => rfl <;>
      first
        | exact .inr rfl
        | exact returning_stage _

end Rules

/-! ## §3. The ledger of a runtime. -/

/-- The ledger after a step. -/
def Ledger.after (g : Ledger) (r : Machine F) (e : Label F) (r' : Machine F) : Ledger :=
  match e.1 with
  | .start t _ _ => g.restart t
  | .resume t _ => g.record t r.data.owner r'.data.owner e.2.owner
  | .worker | .tick _ | .estopAssert | .estopClear => g

/-- The runtime with its ledger. -/
def ledgered (L : ModelLibrary F) : Lts (Machine F × Ledger) (Label F) :=
  (system L).withHistory .start Ledger.after

/-- The step is a destructor that gives away what is not its own, or what a
    failing call still referred to. -/
def GivesAway (p : Machine F × Ledger) (e : Label F) : Prop :=
  ∃ t around, e.1 = .resume t around ∧ Misreleases p.1.registry p.2 t

omit [Floating F] in
theorem registry_update (r : Machine F) (data : RuntimeData F) (t : Nat) (pc : Pc F) :
    ({ r with data := data, threads := Function.update r.threads t pc } : Machine F).registry =
      data.registry (Function.update (fun t => (r.threads t).stage) t pc.stage) := by
  unfold Machine.registry
  congr 1
  funext t'
  by_cases hsame : t' = t
  · subst hsame
    simp
  · simp [hsame]

/-- The worker touches no registry. -/
theorem workerStep_registry {L : ModelLibrary F} {s s' : RuntimeData F} {pc pc' : WorkerPc}
    {event : Event F} (h : workerStep L s pc = some (s', pc', event)) :
    event.owner = .quiet ∧ ∀ stage, s'.registry stage = s.registry stage := by
  cases pc <;>
    simp only [workerStep, expirePlan, RuntimeData.captureFeedbackClock] at h <;>
    (repeat' split at h) <;> cases h <;> exact ⟨rfl, fun _ => rfl⟩

/-- **Step lemma**: a step that gives nothing away keeps the custody. -/
theorem ledgered_custody {L : ModelLibrary F} {p q : Machine F × Ledger} {e : Label F}
    (hstep : (ledgered L).step p e q) (hgives : ¬ GivesAway p e)
    (hc : Custody p.1.registry p.2) : Custody q.1.registry q.2 := by
  obtain ⟨r, g⟩ := p
  obtain ⟨r', g'⟩ := q
  obtain ⟨action, event⟩ := e
  obtain ⟨hstep, hafter⟩ := hstep
  have hafter : g' = g.after r (action, event) r' := hafter
  subst hafter
  cases step_taken hstep with
  | worker h =>
    show Custody (RuntimeData.registry _ _) g
    rw [(workerStep_registry h).2]
    exact hc
  | start hidle h =>
    rw [registry_update]
    exact custody_start hc (startCall_custody _ _ h) (congrArg Pc.stage hidle)
  | @resume t around data pc _ h =>
    rw [registry_update]
    refine custody_step hc (threadStep_custody h rfl) fun hmis => hgives ?_
    exact ⟨t, around, rfl, hmis⟩
  | tick => exact hc
  | estopAssert => exact hc
  | estopClear => exact hc

/-! ## §4. Created runtimes. -/

omit [Floating F] in
theorem registry_drainEvents (facadeNow : Nat) (fuel : Nat) (s : RuntimeData F)
    (stage : Nat → Stage) :
    (RuntimeData.drainEvents facadeNow fuel s).registry stage = s.registry stage := by
  induction fuel generalizing s with
  | zero => rfl
  | succ fuel ih =>
    unfold RuntimeData.drainEvents
    split
    · rw [ih]
      rfl
    · rfl

theorem registry_captureFeedbackClock (s : RuntimeData F) (controllerNow facadeNow : Nat)
    (stage : Nat → Stage) :
    (s.captureFeedbackClock controllerNow facadeNow).registry stage = s.registry stage := by
  unfold RuntimeData.captureFeedbackClock
  split <;> rfl

/-- Nobody owns a created runtime. -/
theorem create_registry {L : ModelLibrary F} {options : RuntimeOptions}
    {manifest : RuntimeManifest F} {latch : Bool} {instanceId hostNs facadeNow : Nat}
    {s : RuntimeData F} (stage : Nat → Stage)
    (h : RuntimeData.create L options manifest latch instanceId hostNs facadeNow = .ok s) :
    s.registry stage = ⟨.free, none, fun _ => none, 0, stage⟩ := by
  unfold RuntimeData.create at h
  split at h
  · cases h
  dsimp only at h
  (repeat' split at h) <;> cases h
  rw [registry_drainEvents, registry_captureFeedbackClock]
  rfl

theorem initial_custody {L : ModelLibrary F} {p : Machine F × Ledger} (h : (ledgered L).init p) :
    Custody p.1.registry p.2 := by
  obtain ⟨⟨_, hidle, options, manifest, latch, instanceId, hostNs, facadeNow, hcreate⟩, hstart⟩ := h
  have hregistry : p.1.registry = ⟨.free, none, fun _ => none, 0, fun _ => .rest⟩ := by
    unfold Machine.registry
    rw [create_registry _ hcreate]
    congr 1
    funext t
    rw [hidle t]
    rfl
  rw [hregistry, hstart]
  have hnone : ∀ id, ¬ Owns ⟨.free, none, fun _ => none, 0, fun _ => .rest⟩ .start id := by
    rintro id (hin | ⟨hin, _⟩) <;> exact hin
  exact
    { toHeld := .of_none hnone (by decide)
      armed := by decide
      registered := fun id session hsession _ => by cases hsession
      unbegun := fun id hin => absurd hin (Set.notMem_empty id)
      underWay := fun id hin => absurd hin (Set.notMem_empty id)
      fresh := fun id _ => ⟨rfl, Set.notMem_empty id, Set.notMem_empty id, nofun⟩
      threads := fun t => trivial }

/-! ## §5. Ownership. -/

/-- **Run lemma**: a run that gives nothing away keeps the custody. -/
theorem custody_run {L : ModelLibrary F} {p q : Machine F × Ledger} {es : List (Label F)}
    (hinit : (ledgered L).init p)
    (hrun : ((ledgered L).restrict fun p e _ => ¬ GivesAway p e).Run p es q) :
    Custody q.1.registry q.2 :=
  hrun.invariant_under (initial_custody hinit) fun _ _ _ hstep hgives hc =>
    ledgered_custody hstep hgives hc

/-- An arming and a begin find nobody owning the runtime. -/
theorem taken_free {L : ModelLibrary F} {p q : Machine F × Ledger} {e : Label F}
    (hc : Custody p.1.registry p.2) (hstep : (ledgered L).step p e q)
    (htakes : e.2 = .armed ∨ ∃ id, e.2 = .claimed id) : p.1.data.owner = .free := by
  obtain ⟨action, event⟩ := e
  have howner : event.owner = .armed ∨ ∃ id, event.owner = .claimed id := by
    rcases htakes with htakes | ⟨id, htakes⟩
    · exact .inl (congrArg Event.owner htakes)
    · exact .inr ⟨id, congrArg Event.owner htakes⟩
  have hquiet : event.owner ≠ .quiet := by
    intro hquiet
    rw [hquiet] at howner
    rcases howner with h | ⟨_, h⟩ <;> cases h
  obtain ⟨r, g⟩ := p
  obtain ⟨r', g'⟩ := q
  cases step_taken hstep.1 with
  | worker h => exact absurd (workerStep_registry h).1 hquiet
  | start _ h =>
    have hsilent : event = .silent := startCall_silent h
    exact absurd (congrArg Event.owner hsilent) hquiet
  | resume h => exact takes_free hc (threadStep_custody h rfl) howner
  | tick => exact absurd rfl hquiet
  | estopAssert => exact absurd rfl hquiet
  | estopClear => exact absurd rfl hquiet

/-- No call refers to a session. -/
def Machine.Quiet (r : Machine F) : Prop := ∀ t, (r.threads t).stage.holds = none

/-- **Ownership is exclusive**, in a run whose destructors give nothing away.
    The owner is calibration exactly while one session owns the runtime (one
    unfinished session, when no call on a session is under way), it is motion
    exactly while the last arming has not been followed by a disarming, a
    failing call leaves it as it was, and no arming and no begin takes it from
    a session. -/
theorem ownership_exclusive (L : ModelLibrary F) {p q : Machine F × Ledger}
    {es : List (Label F)} (hinit : (ledgered L).init p)
    (hrun : ((ledgered L).restrict fun p e _ => ¬ GivesAway p e).Run p es q) :
    (q.1.data.owner = .calibration ↔ ∃! id, Owns q.1.registry q.2 id) ∧
      (q.1.Quiet →
        (q.1.data.owner = .calibration ↔ ∃! id, Unfinished q.1.registry q.2 id)) ∧
      (q.1.data.owner = .motion ↔ q.2.armed = true) ∧
      (∀ t status, q.1.threads t = .returning status → status ≠ .ok → Balanced q.2 t) ∧
      ∀ e q', (ledgered L).step q e q' → (e.2 = .armed ∨ ∃ id, e.2 = .claimed id) →
        ∀ id, ¬ Owns q.1.registry q.2 id := by
  have hc := custody_run hinit hrun
  have hone : q.1.data.owner = .calibration ↔ ∃! id, Owns q.1.registry q.2 id := by
    constructor
    · intro howner
      obtain ⟨id, howns⟩ := hc.owned howner
      exact ⟨id, howns, fun id' hid' => hc.unique id' id hid' howns⟩
    · rintro ⟨id, howns, _⟩
      exact hc.held id howns
  refine ⟨hone, fun hquiet => ?_, hc.armed, fun t status hreturn hfail => ?_, ?_⟩
  · have hnone : ∀ id, id ∉ q.2.beginning := by
      intro id hin
      obtain ⟨t, hholds⟩ := hc.underWay id hin
      have hrest : (q.1.registry.stage t).holds = none := hquiet t
      rw [hrest] at hholds
      cases hholds
    have hsame : Owns q.1.registry q.2 = Unfinished q.1.registry q.2 :=
      funext fun id => propext (or_iff_right (hnone id))
    rw [← hsame]
    exact hone
  · have hok := hc.threads t
    have hstage : q.1.registry.stage t = .calling := by
      show (q.1.threads t).stage = .calling
      rw [hreturn]
      exact if_neg hfail
    unfold ThreadOk at hok
    rw [hstage] at hok
    exact hok
  · intro e q' hstep htakes id
    have hfree := taken_free hc hstep htakes
    exact hc.toHeld.none (by show q.1.data.owner ≠ _; rw [hfree]; decide) id

/-! ## §6. A run that gives nothing away. -/

/-- The fourth left joint, calibrated by hand. -/
def beginRequest : CalibrationRequest where
  manual := true
  recordValid := true
  outValid := true
  side := 0
  joint := 3
  expectedRevision := 41
  motorSerial := some "left-3"

/-- The deadman held, and a calibration begun. -/
def beginActions : List (Action ℚ) :=
  uninterrupted 0 (.setInterlock 0 1) 3 ++ uninterrupted 0 (.calibrationBegin beginRequest) 5

/-- The step runs no destructor while calibration is the owner. -/
def keepsAll (r : Machine F) (e : Label F) : Bool :=
  match e.1 with
  | .resume t _ =>
    match r.threads t with
    | .calibration (.destruct _ _) => decide (r.data.owner ≠ .calibration)
    | _ => true
  | _ => true

omit [Floating F] in
theorem givesAway_keepsAll {p : Machine F × Ledger} {e : Label F} (h : keepsAll p.1 e = true) :
    ¬ GivesAway p e := by
  rintro ⟨t, around, haction, id, ok, hstage, howner, _⟩
  have hstage : (p.1.threads t).stage = .destructing id ok := hstage
  have howner : p.1.data.owner = .calibration := howner
  unfold keepsAll at h
  rw [haction] at h
  dsimp only at h
  split at h
  · rw [howner] at h
    cases h
  · rename_i hnot
    cases hpc : p.1.threads t with
    | calibration pc =>
      rw [hpc] at hstage hnot
      cases pc with
      | destruct id' status => exact hnot id' status rfl
      | unlock id' status =>
        rcases unlock_stage id' status with ⟨hunlock, _⟩ | ⟨hunlock, _⟩ <;>
          rw [show (Pc.calibration (.unlock id' status) : Pc F).stage = _ from hunlock] at hstage <;>
          cases hstage
      | _ => cases hstage
    | motion pc =>
      rw [hpc] at hstage
      cases pc <;> cases hstage
    | returning status =>
      rw [hpc] at hstage
      rcases returning_stage (F := F) status with hreturn | hreturn <;>
        rw [hreturn] at hstage <;> cases hstage
    | idle | erase =>
      rw [hpc] at hstage
      cases hstage

/-- Begun, aborted, destroyed, and then armed. -/
def takingTurns : List (Action ℚ) :=
  beginActions ++ uninterrupted 0 (.calibration 0 .abort) 8 ++
    uninterrupted 0 (.calibrationDestroy 0) 3 ++ uninterrupted 0 .armVirtual 5

/-- The owner is motion. -/
def Machine.inMotion (r : Machine ℚ) : Bool := decide (r.data.owner = .motion)

/-- Calibration and motion own the standard runtime in turn. -/
theorem ownership_exclusive_in_turn : ∃ p es q,
    (ledgered silentLibrary).init p ∧
      ((ledgered silentLibrary).restrict fun p e _ => ¬ GivesAway p e).Run p es q ∧
      es.map Prod.fst = takingTurns ∧ q.1.data.owner = .motion ∧ q.2.armed = true ∧
      ¬ ∃! id, Owns q.1.registry q.2 id := by
  have hrun : (execWhere silentLibrary keepsAll standardMachine takingTurns).any
      (fun out => out.1.inMotion) = true := by
    decide +kernel
  obtain ⟨es, r, hguarded, hactions, hmotion⟩ := execWhere_reaches hrun
  have hmotion : r.data.owner = .motion := decide_eq_true_eq.mp hmotion
  obtain ⟨g, hhistory⟩ : ∃ g, (((system silentLibrary).restrict fun r e _ =>
      keepsAll r e = true).withHistory Ledger.start Ledger.after).Run
        (standardMachine, Ledger.start) es (r, g) := hguarded.with_history Ledger.start
  have hquiet : ((ledgered silentLibrary).restrict fun p e _ => ¬ GivesAway p e).Run
      (standardMachine, .start) es (r, g) :=
    hhistory.mono fun p e q hstep => ⟨⟨hstep.1.1, hstep.2⟩, givesAway_keepsAll hstep.1.2⟩
  have hinit : (ledgered silentLibrary).init (standardMachine, .start) :=
    ⟨standardMachine_initial, rfl⟩
  obtain ⟨hone, _, harmed, _⟩ := ownership_exclusive silentLibrary hinit hquiet
  refine ⟨_, es, (r, g), hinit, hquiet, hactions, hmotion, harmed.mp hmotion, fun hexists => ?_⟩
  have hcal : r.data.owner = .calibration := hone.mpr hexists
  rw [hmotion] at hcal
  cases hcal

/-! ## §7. A run that gives the ownership away. -/

/-- In any run, a registered session has begun. -/
theorem registered_run {L : ModelLibrary F} {p q : Machine F × Ledger} {es : List (Label F)}
    (hinit : (ledgered L).init p) (hrun : (ledgered L).Run p es q) :
    Registered q.1.registry q.2 := by
  have hstart : Registered p.1.registry p.2 := (initial_custody hinit).registered
  refine Lts.Run.invariant (I := fun p => Registered p.1.registry p.2) hrun hstart ?_
  rintro ⟨r, g⟩ ⟨action, event⟩ ⟨r', g'⟩ ⟨hstep, hafter⟩ hall
  have hafter : g' = g.after r (action, event) r' := hafter
  subst hafter
  cases step_taken hstep with
  | worker h =>
    show Registered (RuntimeData.registry _ _) g
    rw [(workerStep_registry h).2]
    exact hall
  | start hidle h =>
    rw [registry_update]
    exact registered_start hall (startCall_custody _ _ h)
  | resume h =>
    rw [registry_update]
    exact registered_step hall (threadStep_custody h rfl)
  | tick => exact hall
  | estopAssert => exact hall
  | estopClear => exact hall

/-- The session is registered and not finished. -/
def Machine.inSession (r : Machine ℚ) (id : Nat) : Bool :=
  match r.data.sessions id with
  | some session => session.registered && !session.finished
  | none => false

/-- `oa_runtime_arm_virtual` returns OK beside the unfinished session. -/
def Machine.armedInSession (r : Machine ℚ) : Bool :=
  r.inSession 0 && r.inMotion && match r.threads 0 with
    | .returning .ok => true
    | _ => false

/-- The session is unfinished, and arming now returns OK beside it. -/
def Machine.armsInSession (r : Machine ℚ) : Bool :=
  r.inSession 0 &&
    (exec silentLibrary r (uninterrupted 0 .armVirtual 4)).any fun out => out.1.armedInSession

theorem inSession_unfinished {p q : Machine ℚ × Ledger} {es : List (Label ℚ)}
    (hinit : (ledgered silentLibrary).init p) (hrun : (ledgered silentLibrary).Run p es q)
    {id : Nat} (h : q.1.inSession id = true) : Unfinished q.1.registry q.2 id := by
  unfold Machine.inSession at h
  split at h
  · rename_i session hsession
    simp only [Bool.and_eq_true, Bool.not_eq_true'] at h
    exact ⟨registered_run hinit hrun id session hsession h.1, session, hsession, h.2⟩
  · cases h

/-- **A refused begin frees the owner**: on the standard runtime a begin
    returns OK, a second one is refused, and arming returns OK while the first
    session is neither committed nor aborted. -/
theorem refused_begin_frees_owner : ∃ p es q fs q',
    (ledgered silentLibrary).init p ∧ (ledgered silentLibrary).Run p es q ∧
      es.map Prod.fst = beginActions ++ uninterrupted 0 (.calibrationBegin beginRequest) 4 ∧
      Unfinished q.1.registry q.2 0 ∧ (ledgered silentLibrary).Run q fs q' ∧
      fs.map Prod.fst = uninterrupted 0 .armVirtual 4 ∧ q'.1.threads 0 = .returning .ok ∧
      q'.1.data.owner = .motion ∧ Unfinished q'.1.registry q'.2 0 := by
  have hrun : (exec silentLibrary standardMachine
      (beginActions ++ uninterrupted 0 (.calibrationBegin beginRequest) 4)).any
      (fun out => out.1.armsInSession) = true := by
    decide +kernel
  obtain ⟨es, r, hbegins, hactions, hcheck⟩ := exec_reaches hrun
  simp only [Machine.armsInSession, Bool.and_eq_true] at hcheck
  obtain ⟨hsession, harms⟩ := hcheck
  obtain ⟨fs, r', harming, harmings, hcheck'⟩ := exec_reaches harms
  simp only [Machine.armedInSession, Bool.and_eq_true] at hcheck'
  obtain ⟨⟨hsession', hmotion⟩, hreturn⟩ := hcheck'
  obtain ⟨g, hfirst⟩ : ∃ g, (ledgered silentLibrary).Run (standardMachine, Ledger.start) es (r, g) :=
    hbegins.with_history Ledger.start
  obtain ⟨g', hsecond⟩ : ∃ g', (ledgered silentLibrary).Run (r, g) fs (r', g') :=
    harming.with_history g
  have hinit : (ledgered silentLibrary).init (standardMachine, .start) :=
    ⟨standardMachine_initial, rfl⟩
  have hreturning : r'.threads 0 = .returning .ok := by
    split at hreturn
    · assumption
    · cases hreturn
  exact ⟨_, es, (r, g), fs, (r', g'), hinit, hfirst, hactions,
    inSession_unfinished hinit hfirst hsession, hsecond, harmings, hreturning,
    decide_eq_true_eq.mp hmotion, inSession_unfinished hinit (hfirst.append hsecond) hsession'⟩

end OpenArm.Runtime
