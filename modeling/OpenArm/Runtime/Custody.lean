/-
  OpenArm.Runtime.Custody — who may own a runtime: the protocol of `owner`.

  The abstract model of ownership.  A call is reduced to what it has in hand
  (`Stage`), the runtime to its owner, its mutex and its sessions, and every
  step to one of the rules of `Registry.Step`.  The ledger remembers what a
  reader of the calls would: which begins succeeded, whether the last arming
  was disarmed, and what each call has done to `owner`.

  Main results:
    * `custody_step` — a step that releases no foreign ownership keeps the
      invariant `Custody`.
    * `custody_start` — so does the start of a call by a thread at rest.
-/
import OpenArm.Runtime.Data

namespace OpenArm.Runtime

open OpenArm.Lib OpenArm.Control

/-! ## §1. Registries. -/

/-- What a call has in hand. -/
inductive Stage where
  /-- No call, or a call that returns OK. -/
  | rest
  | calling
  /-- Inside `oa_runtime_arm_virtual`, with `RuntimeData::mutex` held. -/
  | arming
  /-- A begin before and after it has written `owner`. -/
  | claiming (id : Nat)
  | beginning (id : Nat)
  /-- A reference to a registered session, then its mutex, then the knowledge
      that it is not finished, then a result. -/
  | pinned (id : Nat)
  | locked (id : Nat)
  | live (id : Nat)
  | settled (id : Nat)
  /-- About to drop the reference, and past the last reference. -/
  | leaving (id : Nat) (ok : Bool)
  | destructing (id : Nat) (ok : Bool)

/-- The session the call refers to. -/
def Stage.holds : Stage → Option Nat
  | .rest | .calling | .arming => none
  | .claiming id | .beginning id | .pinned id | .locked id | .live id | .settled id
  | .leaving id _ | .destructing id _ => some id

/-- The owner, the mutex, the sessions and the calls of a runtime. -/
structure Registry where
  owner : Owner
  mutex : Option Nat
  sessions : Nat → Option CalibrationData
  nextObject : Nat
  stage : Nat → Stage

/-- What a step does to the ownership. -/
inductive OwnerEvent where
  | quiet
  | claimed (id : Nat)
  | unclaimed (id : Nat)
  | began (id : Nat)
  | finished (id : Nat)
  | destructed (id : Nat)
  | armed
  | disarmed

/-- Stages a call passes without touching the registry. -/
inductive Stage.Passes : Stage → Stage → Prop where
  | rest : Passes .rest .rest
  | calling : Passes .calling .calling
  | settle : Passes .calling .rest
  | arming : Passes .arming .arming
  | refused (id : Nat) (ok : Bool) : Passes (.claiming id) (.leaving id ok)
  | beginning (id : Nat) : Passes (.beginning id) (.beginning id)
  | unregistered (id : Nat) (ok : Bool) : Passes (.beginning id) (.leaving id ok)
  | locked (id : Nat) : Passes (.locked id) (.locked id)
  | answered (id : Nat) : Passes (.locked id) (.settled id)
  | live (id : Nat) : Passes (.live id) (.live id)
  | failed (id : Nat) : Passes (.live id) (.locked id)
  | succeeded (id : Nat) : Passes (.live id) (.settled id)
  | leaving (id : Nat) (ok : Bool) : Passes (.leaving id ok) (.leaving id ok)

namespace Registry

/-- Thread `t` is at `stage` now. -/
def moved (c : Registry) (t : Nat) (stage : Stage) : Registry :=
  { c with stage := Function.update c.stage t stage }

/-- Replace a session. -/
def put (c : Registry) (id : Nat) (session : Option CalibrationData) : Registry :=
  { c with sessions := Function.update c.sessions id session }

/-- Give up the ownership of a calibration, whoever holds it. -/
def release (c : Registry) : Registry :=
  { c with owner := if c.owner = .calibration then .free else c.owner }

section Projections

variable (c : Registry) (t t' id id' : Nat) (stage : Stage) (session : Option CalibrationData)

@[simp, grind =] theorem moved_stage :
    (c.moved t stage).stage t' = if t' = t then stage else c.stage t' :=
  Function.update_apply ..
@[simp, grind =] theorem moved_owner : (c.moved t stage).owner = c.owner := rfl
@[simp, grind =] theorem moved_mutex : (c.moved t stage).mutex = c.mutex := rfl
@[simp, grind =] theorem moved_sessions : (c.moved t stage).sessions id = c.sessions id := rfl
@[simp, grind =] theorem moved_nextObject : (c.moved t stage).nextObject = c.nextObject := rfl

@[simp, grind =] theorem put_sessions :
    (c.put id session).sessions id' = if id' = id then session else c.sessions id' :=
  Function.update_apply ..
@[simp, grind =] theorem put_owner : (c.put id session).owner = c.owner := rfl
@[simp, grind =] theorem put_mutex : (c.put id session).mutex = c.mutex := rfl
@[simp, grind =] theorem put_stage : (c.put id session).stage t = c.stage t := rfl
@[simp, grind =] theorem put_nextObject : (c.put id session).nextObject = c.nextObject := rfl

@[simp, grind =] theorem release_owner :
    c.release.owner = if c.owner = .calibration then .free else c.owner := rfl
@[simp, grind =] theorem release_mutex : c.release.mutex = c.mutex := rfl
@[simp, grind =] theorem release_sessions : c.release.sessions id = c.sessions id := rfl
@[simp, grind =] theorem release_stage : c.release.stage t = c.stage t := rfl
@[simp, grind =] theorem release_nextObject : c.release.nextObject = c.nextObject := rfl

end Projections

/-- One step of the call of thread `t`. -/
inductive Step (c : Registry) (t : Nat) : OwnerEvent → Registry → Prop where
  | pass {stage : Stage} (h : (c.stage t).Passes stage) : Step c t .quiet (c.moved t stage)
  -- arming and disarming
  | enter (h : c.stage t = .calling) (hmutex : c.mutex = none) (howner : c.owner = .free) :
      Step c t .quiet { c.moved t .arming with mutex := some t }
  | arm (h : c.stage t = .arming) :
      Step c t .armed { c.moved t .rest with mutex := none, owner := .motion }
  | refuseArm {stage : Stage} (h : c.stage t = .arming)
      (hstage : stage = .rest ∨ stage = .calling) :
      Step c t .quiet { c.moved t stage with mutex := none }
  | disarm (h : c.stage t = .calling) (hmutex : c.mutex = none) :
      Step c t .disarmed
        { c.moved t .rest with owner := if c.owner = .motion then .free else c.owner }
  -- a begin
  | claim {id : Nat} (h : c.stage t = .claiming id) (hmutex : c.mutex = none)
      (howner : c.owner = .free) :
      Step c t (.claimed id) { c.moved t (.beginning id) with owner := .calibration }
  | unclaim {id : Nat} {ok : Bool} (h : c.stage t = .beginning id) (hmutex : c.mutex = none) :
      Step c t (.unclaimed id) { c.moved t (.leaving id ok) with owner := .free }
  | register {id : Nat} {session : CalibrationData} (h : c.stage t = .beginning id)
      (hsession : c.sessions id = some session) :
      Step c t (.began id)
        ((c.moved t (.leaving id true)).put id
          (some { session with registered := true, references := session.references + 1 }))
  -- a call on a session
  | pin {id : Nat} {session : CalibrationData} {stage : Stage} (h : c.stage t = .calling)
      (hsession : c.sessions id = some session) (hregistered : session.registered = true)
      (hstage : stage = .pinned id ∨ stage = .leaving id false) :
      Step c t .quiet
        ((c.moved t stage).put id (some { session with references := session.references + 1 }))
  | lock {id : Nat} {session : CalibrationData} (h : c.stage t = .pinned id)
      (hsession : c.sessions id = some session) (hfree : session.lockedBy = none) :
      Step c t .quiet
        ((c.moved t (.locked id)).put id (some { session with lockedBy := some t }))
  | check {id : Nat} {session : CalibrationData} (h : c.stage t = .locked id)
      (hsession : c.sessions id = some session) (hlive : session.finished = false) :
      Step c t .quiet (c.moved t (.live id))
  | sample {id : Nat} {session : CalibrationData} (feedbackSeq timeNs : Nat)
      (h : c.stage t = .live id) (hsession : c.sessions id = some session) :
      Step c t .quiet
        ((c.moved t (.live id)).put id
          (some { session with lastSampleFeedbackSeq := feedbackSeq, lastSampleTimeNs := timeNs }))
  | finish {id : Nat} {session : CalibrationData} (h : c.stage t = .live id)
      (hsession : c.sessions id = some session) (hmutex : c.mutex = none) :
      Step c t (.finished id)
        ((c.release.moved t (.settled id)).put id (some { session with finished := true }))
  | unlock {id : Nat} {session : CalibrationData} {ok : Bool}
      (h : c.stage t = .locked id ∧ ok = false ∨ c.stage t = .settled id ∧ ok = true)
      (hsession : c.sessions id = some session) :
      Step c t .quiet
        ((c.moved t (.leaving id ok)).put id (some { session with lockedBy := none }))
  -- the end of a reference
  | drop {id : Nat} {session : CalibrationData} {ok : Bool} {stage : Stage}
      (h : c.stage t = .leaving id ok) (hsession : c.sessions id = some session)
      (hstage : if session.references ≤ 1 then stage = .destructing id ok
        else stage = if ok then .rest else .calling) :
      Step c t .quiet
        ((c.moved t stage).put id (some { session with references := session.references - 1 }))
  | destruct {id : Nat} {ok : Bool} (h : c.stage t = .destructing id ok)
      (hmutex : c.mutex = none) :
      Step c t (.destructed id) ((c.release.moved t (if ok then .rest else .calling)).put id none)

/-- The first step of a call of thread `t`. -/
inductive Starts (c : Registry) (t : Nat) : Registry → Prop where
  | call {stage : Stage} {next : Nat} (h : stage = .rest ∨ stage = .calling)
      (hnext : c.nextObject ≤ next) : Starts c t { c.moved t stage with nextObject := next }
  | begins (session : CalibrationData) (hnew : session.references = 1)
      (hlive : session.finished = false) (hregistered : session.registered = false) :
      Starts c t
        { (c.moved t (.claiming c.nextObject)).put c.nextObject (some session) with
          nextObject := c.nextObject + 1 }
  | erase {id : Nat} {session : CalibrationData} (hsession : c.sessions id = some session)
      (hregistered : session.registered = true) :
      Starts c t
        ((c.moved t (.leaving id true)).put id (some { session with registered := false }))

end Registry

/-! ## §2. The ledger. -/

/-- What the calls so far have done to the ownership. -/
structure Ledger where
  /-- Sessions whose begin has written `owner` and not finished. -/
  beginning : Set Nat
  /-- Sessions whose begin succeeded. -/
  began : Set Nat
  /-- The last arming has not been followed by a disarming. -/
  armed : Bool
  /-- How the current or last call of a thread has changed `owner`, if it
      did. -/
  wrote : Nat → Option (Owner × Owner)

namespace Ledger

def start : Ledger := ⟨∅, ∅, false, fun _ => none⟩

/-- Thread `t` has taken `owner` from `before` to `after`. -/
def wroteBy (g : Ledger) (t : Nat) (before after : Owner) : Nat → Option (Owner × Owner) :=
  if before = after then g.wrote
  else Function.update g.wrote t (some (((g.wrote t).map Prod.fst).getD before, after))

/-- The ledger after a step of thread `t`. -/
def record (g : Ledger) (t : Nat) (before after : Owner) (event : OwnerEvent) : Ledger :=
  let noted := { g with wrote := g.wroteBy t before after }
  match event with
  | .quiet | .finished _ => noted
  | .claimed id => { noted with beginning := insert id g.beginning }
  | .unclaimed id | .destructed id => { noted with beginning := g.beginning \ {id} }
  | .began id => { noted with beginning := g.beginning \ {id}, began := insert id g.began }
  | .armed => { noted with armed := true }
  | .disarmed => { noted with armed := false }

/-- The ledger after thread `t` has started a call. -/
def restart (g : Ledger) (t : Nat) : Ledger :=
  { g with wrote := Function.update g.wrote t none }

end Ledger

/-! ## §3. The invariant. -/

section Invariant

variable (c : Registry) (g : Ledger)

/-- A session begun with OK that is alive and neither committed nor
    aborted. -/
def Unfinished (id : Nat) : Prop :=
  id ∈ g.began ∧ ∃ session, c.sessions id = some session ∧ session.finished = false

/-- The session owns the runtime: it is unfinished, or its begin is under
    way. -/
def Owns (id : Nat) : Prop := id ∈ g.beginning ∨ Unfinished c g id

/-- The call has not changed `owner`, or has changed it back. -/
def Balanced (t : Nat) : Prop :=
  g.wrote t = none ∨ ∃ owner, g.wrote t = some (owner, owner)

/-- Only thread `t` refers to the session. -/
def Sole (t id : Nat) : Prop := ∀ t', (c.stage t').holds = some id → t' = t

/-- The session exists only in the begin of thread `t`. -/
structure Private (t id : Nat) : Prop where
  sole : Sole c t id
  unbegun : id ∉ g.began
  single : ∀ session, c.sessions id = some session →
    session.references = 1 ∧ session.finished = false

/-- The session mutex is held by thread `t`. -/
def Locked (t id : Nat) : Prop :=
  ∀ session, c.sessions id = some session → session.lockedBy = some t

/-- The session is not finished. -/
def Live (id : Nat) : Prop := ∀ session, c.sessions id = some session → session.finished = false

/-- What a thread may rely on at its stage. -/
def ThreadOk (t : Nat) : Prop :=
  match c.stage t with
  | .rest => True
  | .calling => Balanced g t
  | .arming => c.mutex = some t ∧ c.owner = .free ∧ Balanced g t
  | .claiming id => Private c g t id ∧ id ∉ g.beginning ∧ g.wrote t = none
  | .beginning id =>
    Private c g t id ∧ id ∈ g.beginning ∧ g.wrote t = some (.free, .calibration)
  | .pinned id => id ∈ g.began ∧ Balanced g t
  | .locked id => id ∈ g.began ∧ Locked c t id ∧ Balanced g t
  | .live id => id ∈ g.began ∧ Locked c t id ∧ Live c id ∧ Balanced g t
  | .settled id => id ∈ g.began ∧ Locked c t id
  | .leaving id ok =>
    (id ∈ g.beginning → Private c g t id ∧ g.wrote t = some (.free, .calibration)) ∧
      (id ∉ g.beginning → ok = false → Balanced g t)
  | .destructing id ok =>
    (id ∈ g.beginning → Sole c t id ∧ g.wrote t = some (.free, .calibration)) ∧
      (id ∉ g.beginning → ok = false → Balanced g t)

/-- A registered session has begun. -/
def Registered : Prop :=
  ∀ id session, c.sessions id = some session → session.registered = true → id ∈ g.began

/-- Calibration is the owner exactly while one session owns the runtime. -/
structure Held (owner : Owner) (owns : Nat → Prop) : Prop where
  held : ∀ id, owns id → owner = .calibration
  unique : ∀ id id', owns id → owns id' → id = id'
  owned : owner = .calibration → ∃ id, owns id

/-- **The invariant**: the owner is what the ledger says, and every thread
    can rely on its stage. -/
structure Custody : Prop extends Held c.owner (Owns c g) where
  armed : c.owner = .motion ↔ g.armed = true
  registered : Registered c g
  unbegun : ∀ id, id ∈ g.beginning → id ∉ g.began ∧ Live c id
  underWay : ∀ id, id ∈ g.beginning → ∃ t, (c.stage t).holds = some id
  fresh : ∀ id, c.nextObject ≤ id → c.sessions id = none ∧ id ∉ g.began ∧ id ∉ g.beginning ∧
    ∀ t, (c.stage t).holds ≠ some id
  threads : ∀ t, ThreadOk c g t

end Invariant

/-- The destructor of a session releases an ownership that is not its own, or
    a failing call is the last to refer to an unfinished session. -/
def Misreleases (c : Registry) (g : Ledger) (t : Nat) : Prop :=
  ∃ id ok, c.stage t = .destructing id ok ∧ c.owner = .calibration ∧
    ¬ (id ∈ g.beginning ∨ Unfinished c g id ∧ ok = true)

/-! ## §4. The other threads. -/

/-- Thread `t` finds what its stage relies on unchanged. -/
structure Undisturbed (c : Registry) (g : Ledger) (c' : Registry) (g' : Ledger) (t : Nat) :
    Prop where
  stage : c'.stage t = c.stage t
  wrote : g'.wrote t = g.wrote t
  arming : c.stage t = .arming → c'.mutex = c.mutex ∧ c'.owner = c.owner
  began : ∀ id, id ∈ g.began → id ∈ g'.began
  beginning : ∀ id, (c.stage t).holds = some id → (id ∈ g'.beginning ↔ id ∈ g.beginning)
  sole : ∀ id, (c.stage t).holds = some id → Sole c t id → id ∉ g.began → Sole c' t id
  own : ∀ id, (c.stage t).holds = some id → Private c g t id →
    id ∉ g'.began ∧ c'.sessions id = c.sessions id
  session : ∀ id session', (c.stage t).holds = some id → c'.sessions id = some session' →
    ∃ session, c.sessions id = some session ∧
      (session.lockedBy = some t → session'.lockedBy = some t ∧
        session'.finished = session.finished)

namespace Undisturbed

variable {c c' : Registry} {g g' : Ledger} {t : Nat}

theorem «private» (h : Undisturbed c g c' g' t) {id : Nat}
    (hholds : (c.stage t).holds = some id) (hp : Private c g t id) : Private c' g' t id := by
  obtain ⟨hbegan, hsame⟩ := h.own id hholds hp
  exact ⟨h.sole id hholds hp.sole hp.unbegun, hbegan, hsame ▸ hp.single⟩

theorem locked (h : Undisturbed c g c' g' t) {id : Nat}
    (hholds : (c.stage t).holds = some id) (hl : Locked c t id) : Locked c' t id := by
  intro session' hsession'
  obtain ⟨session, hsession, hsame⟩ := h.session id session' hholds hsession'
  exact (hsame (hl session hsession)).1

theorem live (h : Undisturbed c g c' g' t) {id : Nat} (hholds : (c.stage t).holds = some id)
    (hl : Locked c t id) (hlive : Live c id) : Live c' id := by
  intro session' hsession'
  obtain ⟨session, hsession, hsame⟩ := h.session id session' hholds hsession'
  rw [(hsame (hl session hsession)).2]
  exact hlive session hsession

/-- What a thread relies on survives the steps of the others. -/
theorem threadOk (h : Undisturbed c g c' g' t) (hunbegun : ∀ id, id ∈ g.beginning → id ∉ g.began)
    (hok : ThreadOk c g t) : ThreadOk c' g' t := by
  have hbalanced : Balanced g t → Balanced g' t := by
    intro hb
    unfold Balanced
    rw [h.wrote]
    exact hb
  unfold ThreadOk at hok ⊢
  rw [h.stage]
  cases hstage : c.stage t with
  | rest => trivial
  | calling =>
    rw [hstage] at hok
    exact hbalanced hok
  | arming =>
    rw [hstage] at hok
    obtain ⟨hmutex, howner⟩ := h.arming hstage
    exact ⟨hmutex.trans hok.1, howner.trans hok.2.1, hbalanced hok.2.2⟩
  | claiming id =>
    rw [hstage] at hok
    have hholds : (c.stage t).holds = some id := by rw [hstage]; rfl
    refine ⟨h.private hholds hok.1, ?_, h.wrote.trans hok.2.2⟩
    rw [h.beginning id hholds]
    exact hok.2.1
  | beginning id =>
    rw [hstage] at hok
    have hholds : (c.stage t).holds = some id := by rw [hstage]; rfl
    exact ⟨h.private hholds hok.1, (h.beginning id hholds).mpr hok.2.1, h.wrote.trans hok.2.2⟩
  | pinned id =>
    rw [hstage] at hok
    exact ⟨h.began id hok.1, hbalanced hok.2⟩
  | locked id =>
    rw [hstage] at hok
    have hholds : (c.stage t).holds = some id := by rw [hstage]; rfl
    exact ⟨h.began id hok.1, h.locked hholds hok.2.1, hbalanced hok.2.2⟩
  | live id =>
    rw [hstage] at hok
    have hholds : (c.stage t).holds = some id := by rw [hstage]; rfl
    obtain ⟨hbegan, hlocked, hlive, hb⟩ := hok
    exact ⟨h.began id hbegan, h.locked hholds hlocked, h.live hholds hlocked hlive, hbalanced hb⟩
  | settled id =>
    rw [hstage] at hok
    have hholds : (c.stage t).holds = some id := by rw [hstage]; rfl
    exact ⟨h.began id hok.1, h.locked hholds hok.2⟩
  | leaving id ok =>
    rw [hstage] at hok
    have hholds : (c.stage t).holds = some id := by rw [hstage]; rfl
    refine ⟨fun hb => ?_, fun hb => ?_⟩
    · obtain ⟨hp, hw⟩ := hok.1 ((h.beginning id hholds).mp hb)
      exact ⟨h.private hholds hp, h.wrote.trans hw⟩
    · rw [h.beginning id hholds] at hb
      exact fun hfail => hbalanced (hok.2 hb hfail)
  | destructing id ok =>
    rw [hstage] at hok
    have hholds : (c.stage t).holds = some id := by rw [hstage]; rfl
    refine ⟨fun hb => ?_, fun hb => ?_⟩
    · have hb := (h.beginning id hholds).mp hb
      obtain ⟨hs, hw⟩ := hok.1 hb
      exact ⟨h.sole id hholds hs (hunbegun id hb), h.wrote.trans hw⟩
    · rw [h.beginning id hholds] at hb
      exact fun hfail => hbalanced (hok.2 hb hfail)

end Undisturbed

section Steps

variable {c c' : Registry} {g : Ledger} {t t' : Nat} {event : OwnerEvent}

theorem stage_other (hstep : c.Step t event c') (hother : t' ≠ t) :
    c'.stage t' = c.stage t' := by
  cases hstep <;> simp [hother]

theorem wrote_other (g : Ledger) (before after : Owner) (event : OwnerEvent) (hother : t' ≠ t) :
    (g.record t before after event).wrote t' = g.wrote t' := by
  have hby : g.wroteBy t before after t' = g.wrote t' := by
    unfold Ledger.wroteBy
    split
    · rfl
    · exact Function.update_of_ne hother _ _
  cases event <;> exact hby

theorem arming_other (hc : Custody c g) (hstep : c.Step t event c') (hother : t' ≠ t)
    (harming : c.stage t' = .arming) : c'.mutex = c.mutex ∧ c'.owner = c.owner := by
  have hok := hc.threads t'
  have hmine := hc.threads t
  unfold ThreadOk at hok hmine
  rw [harming] at hok
  cases hstep <;> grind

theorem began_mono (g : Ledger) (t : Nat) (before after : Owner) (event : OwnerEvent) (id : Nat)
    (h : id ∈ g.began) : id ∈ (g.record t before after event).began := by
  cases event <;> grind [Ledger.record]

theorem beginning_other (hc : Custody c g) (hstep : c.Step t event c') (hother : t' ≠ t)
    (before after : Owner) {id : Nat} (hholds : (c.stage t').holds = some id) :
    id ∈ (g.record t before after event).beginning ↔ id ∈ g.beginning := by
  have hmine := hc.threads t
  unfold ThreadOk at hmine
  cases hstep <;> grind [Ledger.record, Private, Sole]

theorem Stage.Passes.holds {stage stage' : Stage} (h : stage.Passes stage') {id : Nat}
    (hholds : stage'.holds = some id) : stage.holds = some id := by
  cases h <;> exact hholds

/-- A call refers to a session it has referred to before, or to a registered
    one. -/
theorem holds_step (hstep : c.Step t event c') {id : Nat}
    (hholds : (c'.stage t).holds = some id) :
    (c.stage t).holds = some id ∨
      ∃ session, c.sessions id = some session ∧ session.registered = true := by
  cases hstep with
  | pass h => exact .inl (h.holds (by simpa using hholds))
  | pin => right; grind [Stage.holds]
  | refuseArm h hstage => rcases hstage with rfl | rfl <;> simp [Stage.holds] at hholds
  | unlock | drop | destruct => left; grind [Stage.holds]
  | enter h | arm h | disarm h | claim h | unclaim h | register h | lock h | check h | sample _ _ h
  | finish h =>
    left
    grind [Stage.holds]

theorem sole_other (hc : Custody c g) (hstep : c.Step t event c') (hother : t' ≠ t) {id : Nat}
    (hsole : Sole c t' id) (hunbegun : id ∉ g.began) : Sole c' t' id := by
  intro t₁ hholds
  by_cases ht : t₁ = t
  · subst ht
    rcases holds_step hstep hholds with hbefore | ⟨session, hsession, hregistered⟩
    · exact hsole t₁ hbefore
    · exact absurd (hc.registered id session hsession hregistered) hunbegun
  · rw [stage_other hstep ht] at hholds
    exact hsole t₁ hholds

theorem own_other (hc : Custody c g) (hstep : c.Step t event c') (hother : t' ≠ t)
    (before after : Owner) {id : Nat} (hp : Private c g t' id) :
    id ∉ (g.record t before after event).began ∧ c'.sessions id = c.sessions id := by
  obtain ⟨hsole, hunbegun, _⟩ := hp
  have hregistered := hc.registered id
  have hnot := hsole t
  cases hstep <;>
    grind [Stage.holds, Ledger.record]

theorem put_cases {id id' : Nat} {session : Option CalibrationData} {session' : CalibrationData}
    (h : (c.put id session).sessions id' = some session') :
    (id' = id ∧ session = some session') ∨ c.sessions id' = some session' := by
  rw [Registry.put_sessions] at h
  split at h
  · exact .inl ⟨‹_›, h⟩
  · exact .inr h

/-- A lock is taken when it is free and given up by its holder, and a session
    is finished under its lock. -/
theorem session_other (hc : Custody c g) (hstep : c.Step t event c') (hother : t' ≠ t) {id : Nat}
    {session' : CalibrationData} (hsession' : c'.sessions id = some session') :
    ∃ session, c.sessions id = some session ∧
      (session.lockedBy = some t' → session'.lockedBy = some t' ∧
        session'.finished = session.finished) := by
  have hmine := hc.threads t
  unfold ThreadOk at hmine
  have hnot : ∀ session : CalibrationData, session.lockedBy = some t →
      session.lockedBy ≠ some t' := by
    intro session hlocked htheirs
    rw [hlocked] at htheirs
    exact hother (Option.some.inj htheirs).symm
  cases hstep with
  | pass | enter | arm | refuseArm | disarm | claim | unclaim | check =>
    exact ⟨session', hsession', fun hl => ⟨hl, rfl⟩⟩
  | register h hsession | pin h hsession | sample _ _ h hsession | drop h hsession =>
    rcases put_cases hsession' with ⟨rfl, heq⟩ | hsame
    · cases heq
      exact ⟨_, hsession, fun hl => ⟨hl, rfl⟩⟩
    · exact ⟨session', hsame, fun hl => ⟨hl, rfl⟩⟩
  | lock h hsession hfree =>
    rcases put_cases hsession' with ⟨rfl, heq⟩ | hsame
    · refine ⟨_, hsession, fun hl => ?_⟩
      rw [hfree] at hl
      cases hl
    · exact ⟨session', hsame, fun hl => ⟨hl, rfl⟩⟩
  | finish h hsession =>
    rw [h] at hmine
    rcases put_cases hsession' with ⟨rfl, heq⟩ | hsame
    · exact ⟨_, hsession, fun hl => absurd hl (hnot _ (hmine.2.1 _ hsession))⟩
    · exact ⟨session', hsame, fun hl => ⟨hl, rfl⟩⟩
  | unlock h hsession =>
    rcases put_cases hsession' with ⟨rfl, heq⟩ | hsame
    · refine ⟨_, hsession, fun hl => absurd hl (hnot _ ?_)⟩
      rcases h with ⟨h, _⟩ | ⟨h, _⟩ <;> rw [h] at hmine
      · exact hmine.2.1 _ hsession
      · exact hmine.2 _ hsession
    · exact ⟨session', hsame, fun hl => ⟨hl, rfl⟩⟩
  | destruct h =>
    rcases put_cases hsession' with ⟨rfl, heq⟩ | hsame
    · cases heq
    · exact ⟨session', hsame, fun hl => ⟨hl, rfl⟩⟩

/-- A step of thread `t` does not disturb the others. -/
theorem undisturbed_step (hc : Custody c g) (hstep : c.Step t event c') (hother : t' ≠ t)
    (before after : Owner) : Undisturbed c g c' (g.record t before after event) t' where
  stage := stage_other hstep hother
  wrote := wrote_other g before after event hother
  arming := arming_other hc hstep hother
  began := began_mono g t before after event
  beginning := fun _ hholds => beginning_other hc hstep hother before after hholds
  sole := fun _ _ hsole hunbegun => sole_other hc hstep hother hsole hunbegun
  own := fun _ _ hp => own_other hc hstep hother before after hp
  session := fun _ _ _ hsession' => session_other hc hstep hother hsession'

/-! ## §5. The thread that steps. -/

theorem record_wrote (g : Ledger) (t : Nat) (before after : Owner) (event : OwnerEvent) :
    (g.record t before after event).wrote = g.wroteBy t before after := by
  cases event <;> rfl

@[simp] theorem wroteBy_same (g : Ledger) (t : Nat) (owner : Owner) :
    g.wroteBy t owner owner = g.wrote :=
  if_pos rfl

/-- The first change of a call. -/
theorem wroteBy_first {before after : Owner} (hnone : g.wrote t = none) (hne : before ≠ after) :
    g.wroteBy t before after t = some (before, after) := by
  unfold Ledger.wroteBy
  rw [if_neg hne, hnone]
  exact Function.update_self ..

/-- A later change of a call. -/
theorem wroteBy_again {first before after : Owner} (hsome : g.wrote t = some (first, before))
    (hne : before ≠ after) : g.wroteBy t before after t = some (first, after) := by
  unfold Ledger.wroteBy
  rw [if_neg hne, hsome]
  exact Function.update_self ..

/-- A call that has not changed `owner` balances. -/
theorem balanced_quiet {before after : Owner} (event : OwnerEvent) (hsame : before = after)
    (h : Balanced g t) : Balanced (g.record t before after event) t := by
  subst hsame
  unfold Balanced
  rw [record_wrote, wroteBy_same]
  exact h

theorem sole_self (hstep : c.Step t event c') {id : Nat} (h : Sole c t id) : Sole c' t id := by
  intro t₁ hholds
  by_contra hne
  rw [stage_other hstep hne] at hholds
  exact hne (h t₁ hholds)

/-- A stage is passed without touching what it relies on. -/
theorem threadOk_pass (hc : Custody c g) {stage : Stage} (h : (c.stage t).Passes stage) :
    ThreadOk (c.moved t stage) (g.record t c.owner (c.moved t stage).owner .quiet) t := by
  have hok := hc.threads t
  have hb : Balanced g t → Balanced (g.record t c.owner (c.moved t stage).owner .quiet) t :=
    balanced_quiet .quiet rfl
  have hsole : ∀ id, Sole c t id → Sole (c.moved t stage) t id := fun _ => sole_self (.pass h)
  have hprivate : ∀ id, Private c g t id →
      Private (c.moved t stage) (g.record t c.owner (c.moved t stage).owner .quiet) t id :=
    fun id hp => ⟨hsole id hp.sole, hp.unbegun, hp.single⟩
  have hwrote : (g.record t c.owner (c.moved t stage).owner .quiet).wrote = g.wrote := by
    rw [record_wrote]
    exact wroteBy_same g t c.owner
  unfold ThreadOk at hok ⊢
  rw [Registry.moved_stage, if_pos rfl]
  generalize c.stage t = before at h hok
  cases h with
  | rest => trivial
  | settle => trivial
  | calling => exact hb hok
  | arming => exact ⟨hok.1, hok.2.1, hb hok.2.2⟩
  | refused id ok =>
    obtain ⟨_, hnot, hnone⟩ := hok
    exact ⟨fun hbeginning => absurd hbeginning hnot, fun _ _ => hb (.inl hnone)⟩
  | beginning id =>
    obtain ⟨hp, hbeginning, hw⟩ := hok
    exact ⟨hprivate id hp, hbeginning, hwrote ▸ hw⟩
  | unregistered id ok =>
    obtain ⟨hp, hbeginning, hw⟩ := hok
    exact ⟨fun _ => ⟨hprivate id hp, hwrote ▸ hw⟩, fun hnot => absurd hbeginning hnot⟩
  | locked id => exact ⟨hok.1, hok.2.1, hb hok.2.2⟩
  | answered id => exact ⟨hok.1, hok.2.1⟩
  | live id => exact ⟨hok.1, hok.2.1, hok.2.2.1, hb hok.2.2.2⟩
  | failed id => exact ⟨hok.1, hok.2.1, hb hok.2.2.2⟩
  | succeeded id => exact ⟨hok.1, hok.2.1⟩
  | leaving id ok =>
    refine ⟨fun hbeginning => ?_, fun hnot hfail => hb (hok.2 hnot hfail)⟩
    obtain ⟨hp, hw⟩ := hok.1 hbeginning
    exact ⟨hprivate id hp, hwrote ▸ hw⟩

/-- What the stepping thread relies on afterwards. -/
theorem threadOk_step (hc : Custody c g) (hstep : c.Step t event c')
    (hrelease : ¬ Misreleases c g t) :
    ThreadOk c' (g.record t c.owner c'.owner event) t := by
  have hok := hc.threads t
  have hself : ∀ id, Sole c t id → Sole c' t id := fun _ => sole_self hstep
  unfold ThreadOk at hok ⊢
  cases hstep with
  | pass h => exact threadOk_pass hc h
  | enter h hmutex howner =>
    rw [h] at hok
    simp only [Registry.moved_stage, if_true]
    exact ⟨trivial, howner, balanced_quiet .quiet rfl hok⟩
  | arm h =>
    simp only [Registry.moved_stage, if_true]
  | refuseArm h hstage =>
    rw [h] at hok
    rcases hstage with rfl | rfl <;> simp only [Registry.moved_stage, if_true]
    exact balanced_quiet .quiet rfl hok.2.2
  | disarm h hmutex => simp only [Registry.moved_stage, if_true]
  | claim h hmutex howner =>
    rw [h] at hok
    -- the first write of this call: it takes the free owner
    obtain ⟨hp, _, hnone⟩ := hok
    simp only [Registry.moved_stage, if_true]
    refine ⟨⟨hself _ hp.sole, hp.unbegun, hp.single⟩, Set.mem_insert .., ?_⟩
    rw [record_wrote, howner]
    exact wroteBy_first hnone (by decide)
  | unclaim h hmutex =>
    rw [h] at hok
    obtain ⟨_, hbeginning, hw⟩ := hok
    -- the begin failed, so the owner it took is given back
    have howner := hc.held _ (.inl hbeginning)
    simp only [Registry.moved_stage, if_true]
    refine ⟨fun hin => absurd rfl hin.2, fun _ _ => .inr ⟨.free, ?_⟩⟩
    rw [record_wrote, howner]
    exact wroteBy_again hw (by decide)
  | register h hsession =>
    simp only [Registry.put_stage, Registry.moved_stage, if_true]
    exact ⟨fun hin => absurd rfl hin.2, fun _ hfail => by cases hfail⟩
  | pin h hsession hregistered hstage =>
    rw [h] at hok
    have hbegan := hc.registered _ _ hsession hregistered
    rcases hstage with rfl | rfl <;>
      simp only [Registry.put_stage, Registry.moved_stage, if_true]
    · exact ⟨hbegan, balanced_quiet .quiet rfl hok⟩
    · -- a session that was begun is no beginning any more
      exact ⟨fun hin => absurd hbegan (hc.unbegun _ hin).1, fun _ _ =>
        balanced_quiet .quiet rfl hok⟩
  | lock h hsession hfree =>
    rw [h] at hok
    simp only [Registry.put_stage, Registry.moved_stage, if_true]
    refine ⟨hok.1, fun session' hsession' => ?_, balanced_quiet .quiet rfl hok.2⟩
    rw [Registry.put_sessions, if_pos rfl] at hsession'
    cases hsession'
    rfl
  | @check id session h hsession hlive =>
    rw [h] at hok
    simp only [Registry.moved_stage, if_true]
    refine ⟨hok.1, hok.2.1, fun session' hsession' => ?_, balanced_quiet .quiet rfl hok.2.2⟩
    have hsession' : c.sessions id = some session' := hsession'
    rw [hsession] at hsession'
    cases hsession'
    exact hlive
  | @sample id session _ _ h hsession =>
    rw [h] at hok
    obtain ⟨hbegan, hlocked, hlive, hb⟩ := hok
    have hmine : session.lockedBy = some t := hlocked session hsession
    have hunfinished : session.finished = false := hlive session hsession
    simp only [Registry.put_stage, Registry.moved_stage, if_true]
    refine ⟨hbegan, fun session' hsession' => ?_, fun session' hsession' => ?_,
      balanced_quiet .quiet rfl hb⟩ <;> rw [Registry.put_sessions, if_pos rfl] at hsession' <;>
      cases hsession'
    · exact hmine
    · exact hunfinished
  | @finish id session h hsession hmutex =>
    rw [h] at hok
    have hmine : session.lockedBy = some t := hok.2.1 session hsession
    simp only [Registry.put_stage, Registry.moved_stage, if_true]
    refine ⟨hok.1, fun session' hsession' => ?_⟩
    rw [Registry.put_sessions, if_pos rfl] at hsession'
    cases hsession'
    exact hmine
  | @unlock id session ok h hsession =>
    simp only [Registry.put_stage, Registry.moved_stage, if_true]
    have hbegan : id ∈ g.began := by
      rcases h with ⟨h, _⟩ | ⟨h, _⟩ <;> rw [h] at hok <;> exact hok.1
    refine ⟨fun hin => absurd hbegan (hc.unbegun _ hin).1, fun _ hfail => ?_⟩
    rcases h with ⟨h, _⟩ | ⟨_, hok'⟩
    · rw [h] at hok
      exact balanced_quiet .quiet rfl hok.2.2
    · rw [hfail] at hok'
      cases hok'
  | @drop id session ok stage h hsession hstage =>
    rw [h] at hok
    simp only [Registry.put_stage, Registry.moved_stage, if_true]
    -- a beginning has one reference, so it cannot be left to others
    split at hstage
    · subst hstage
      refine ⟨fun hin => ?_, fun hnot hfail => balanced_quiet .quiet rfl (hok.2 hnot hfail)⟩
      obtain ⟨hp, hw⟩ := hok.1 hin
      refine ⟨hself _ hp.sole, ?_⟩
      rw [record_wrote]
      exact (congrFun (wroteBy_same g t c.owner) t).trans hw
    · rename_i hmany
      have hnot : id ∉ g.beginning := by
        intro hin
        have hone := ((hok.1 hin).1.single session hsession).1
        omega
      cases ok with
      | true =>
        rw [hstage]
        trivial
      | false =>
        rw [hstage]
        exact balanced_quiet .quiet rfl (hok.2 hnot rfl)
  | @destruct id ok h hmutex =>
    rw [h] at hok
    simp only [Registry.put_stage, Registry.moved_stage, if_true]
    cases ok with
    | true => trivial
    | false =>
      -- the destructor frees an owner that is CALIBRATION, whoever took it;
      -- `hrelease` says that this call may
      by_cases howner : c.owner = .calibration
      · have hin : id ∈ g.beginning := by
          by_contra hnot
          refine hrelease ⟨id, false, h, howner, ?_⟩
          rintro (hin | ⟨_, hfalse⟩)
          · exact hnot hin
          · cases hfalse
        have hw := (hok.1 hin).2
        refine .inr ⟨.free, ?_⟩
        rw [record_wrote]
        simp only [Registry.put_owner, Registry.moved_owner, Registry.release_owner, howner, if_true]
        exact wroteBy_again hw (by decide)
      · have hnot : id ∉ g.beginning := fun hin => howner (hc.held id (.inl hin))
        refine balanced_quiet _ ?_ (hok.2 hnot rfl)
        simp [howner]

/-! ## §6. The owner. -/

theorem unfinished_put {id id' : Nat} {session session' : CalibrationData}
    (hsession : c.sessions id = some session) (hsame : session'.finished = session.finished) :
    Unfinished (c.put id (some session')) g id' ↔ Unfinished c g id' := by
  unfold Unfinished
  rw [Registry.put_sessions]
  split
  · rename_i heq
    subst heq
    simp [hsession, hsame]
  · rfl

theorem unfinished_put_ne {id id' : Nat} {session : Option CalibrationData} (hne : id ≠ id') :
    Unfinished (c.put id' session) g id ↔ Unfinished c g id := by
  unfold Unfinished
  rw [Registry.put_sessions, if_neg hne]

/-- What a step does to the set of the sessions that own the runtime. -/
def OwnsAfter (event : OwnerEvent) (owns : Nat → Prop) (id : Nat) : Prop :=
  match event with
  | .quiet | .began _ | .armed | .disarmed => owns id
  | .claimed id' => id = id' ∨ owns id
  | .unclaimed id' | .finished id' | .destructed id' => id ≠ id' ∧ owns id

/-- A begin that registers its session hands the ownership on to it. -/
theorem owns_register (hc : Custody c g) {id' : Nat} {session : CalibrationData}
    (h : c.stage t = .beginning id') (hsession : c.sessions id' = some session) (id : Nat) :
    id ∈ g.beginning \ {id'} ∨ (id ∈ insert id' g.began ∧ ∃ session₁,
      (c.put id' (some { session with registered := true, references := session.references + 1 })
        ).sessions id = some session₁ ∧ session₁.finished = false) ↔ Owns c g id := by
  have hok := hc.threads t
  unfold ThreadOk at hok
  rw [h] at hok
  obtain ⟨hp, hbeginning, _⟩ := hok
  have hlive : session.finished = false := (hc.unbegun id' hbeginning).2 session hsession
  rw [Registry.put_sessions]
  by_cases hid : id = id'
  · subst hid
    refine iff_of_true (.inr ⟨Set.mem_insert .., ?_⟩) (.inl hbeginning)
    rw [if_pos rfl]
    exact ⟨_, rfl, hlive⟩
  · rw [if_neg hid]
    refine or_congr ⟨fun hin => hin.1, fun hin => ⟨hin, hid⟩⟩ (and_congr_left fun _ => ?_)
    exact ⟨fun hin => hin.resolve_left hid, Set.mem_insert_of_mem id'⟩

theorem owns_step (hc : Custody c g) (hstep : c.Step t event c') (id : Nat) :
    Owns c' (g.record t c.owner c'.owner event) id ↔ OwnsAfter event (Owns c g) id := by
  have hok := hc.threads t
  unfold ThreadOk at hok
  cases hstep with
  | pass | enter | arm | refuseArm | disarm | check => exact Iff.rfl
  | pin h hsession | lock h hsession | sample _ _ h hsession | unlock h hsession
  | drop h hsession => exact or_congr Iff.rfl (unfinished_put hsession rfl)
  | claim => exact or_assoc
  | register h hsession => exact owns_register hc h hsession id
  | @unclaim id' ok h =>
    rw [h] at hok
    constructor
    · rintro (⟨hin, hne⟩ | hu)
      · exact ⟨hne, .inl hin⟩
      · refine ⟨?_, .inr hu⟩
        rintro rfl
        exact hok.1.unbegun hu.1
    · rintro ⟨hne, hin | hu⟩
      · exact .inl ⟨hin, hne⟩
      · exact .inr hu
  | @finish id' session h hsession =>
    rw [h] at hok
    by_cases hid : id = id'
    · subst hid
      refine iff_of_false ?_ fun hand => hand.1 rfl
      rintro (hin | ⟨_, session', hsession', hlive⟩)
      · exact (hc.unbegun id hin).1 hok.1
      · rw [Registry.put_sessions, if_pos rfl] at hsession'
        cases hsession'
        cases hlive
    · exact (or_congr Iff.rfl (unfinished_put_ne hid)).trans (and_iff_right hid).symm
  | @destruct id' ok h =>
    by_cases hid : id = id'
    · subst hid
      refine iff_of_false ?_ fun hand => hand.1 rfl
      rintro (hin | ⟨_, session', hsession', _⟩)
      · exact hin.2 rfl
      · rw [Registry.put_sessions, if_pos rfl] at hsession'
        cases hsession'
    · refine (or_congr ?_ (unfinished_put_ne hid)).trans (and_iff_right hid).symm
      exact ⟨fun hin => hin.1, fun hin => ⟨hin, hid⟩⟩

/-- What a step does to the owner. -/
def OwnerAfter (event : OwnerEvent) (owns : Nat → Prop) (before after : Owner) : Prop :=
  match event with
  | .quiet | .began _ => after = before
  | .claimed _ => before = .free ∧ after = .calibration
  | .unclaimed id => before = .calibration ∧ owns id ∧ after = .free
  | .finished id | .destructed id =>
    before = .calibration ∧ owns id ∧ after = .free ∨ before ≠ .calibration ∧ after = before
  | .armed => before = .free ∧ after = .motion
  | .disarmed => after = if before = .motion then .free else before

theorem owner_step (hc : Custody c g) (hstep : c.Step t event c')
    (hrelease : ¬ Misreleases c g t) : OwnerAfter event (Owns c g) c.owner c'.owner := by
  have hok := hc.threads t
  unfold ThreadOk at hok
  cases hstep with
  | pass | enter | refuseArm | check | register | pin | lock | sample | unlock | drop => exact rfl
  | disarm => exact rfl
  | arm h =>
    rw [h] at hok
    exact ⟨hok.2.1, rfl⟩
  | claim h hmutex howner => exact ⟨howner, rfl⟩
  | unclaim h =>
    rw [h] at hok
    exact ⟨hc.held _ (.inl hok.2.1), .inl hok.2.1, rfl⟩
  | @finish id session h hsession =>
    rw [h] at hok
    have howns : Owns c g id := .inr ⟨hok.1, session, hsession, hok.2.2.1 session hsession⟩
    exact .inl ⟨hc.held id howns, howns, if_pos (hc.held id howns)⟩
  | @destruct id ok h =>
    by_cases howner : c.owner = .calibration
    · refine .inl ⟨howner, ?_, if_pos howner⟩
      by_contra hnot
      refine hrelease ⟨id, ok, h, howner, ?_⟩
      rintro (hin | ⟨hu, _⟩)
      · exact hnot (.inl hin)
      · exact hnot (.inr hu)
    · exact .inr ⟨howner, if_neg howner⟩

/-- The one owner gives the runtime back. -/
theorem Held.lose {owns : Nat → Prop} {owner : Owner} (h : Held owner owns) {id : Nat}
    (howns : owns id) : Held .free fun id' => id' ≠ id ∧ owns id' := by
  have hnone : ∀ id', ¬ (id' ≠ id ∧ owns id') :=
    fun id' ⟨hne, hid'⟩ => hne (h.unique id' id hid' howns)
  exact ⟨fun id' hid' => absurd hid' (hnone id'), fun id' _ hid' => absurd hid' (hnone id'),
    fun hfree => by cases hfree⟩

/-- Nobody owns a runtime whose owner is not calibration. -/
theorem Held.of_none {owns : Nat → Prop} {owner : Owner} (hnone : ∀ id, ¬ owns id)
    (howner : owner ≠ .calibration) : Held owner owns :=
  ⟨fun id hid => absurd hid (hnone id), fun id _ hid => absurd hid (hnone id),
    fun hcal => absurd hcal howner⟩

theorem Held.none {owns : Nat → Prop} {owner : Owner} (h : Held owner owns)
    (howner : owner ≠ .calibration) (id : Nat) : ¬ owns id :=
  fun hid => howner (h.held id hid)

theorem held_step {owns : Nat → Prop} {before after : Owner} (h : Held before owns)
    (howner : OwnerAfter event owns before after) : Held after (OwnsAfter event owns) := by
  cases event with
  | quiet => exact howner ▸ h
  | began id => exact howner ▸ h
  | claimed id =>
    obtain ⟨rfl, rfl⟩ := howner
    have hnone := h.none (by decide)
    refine ⟨fun _ _ => rfl, ?_, fun _ => ⟨id, .inl rfl⟩⟩
    rintro id₁ id₂ (rfl | h₁) (rfl | h₂)
    · rfl
    · exact absurd h₂ (hnone id₂)
    · exact absurd h₁ (hnone id₁)
    · exact absurd h₁ (hnone id₁)
  | unclaimed id =>
    obtain ⟨_, howns, rfl⟩ := howner
    exact h.lose howns
  | finished id | destructed id =>
    rcases howner with ⟨_, howns, rfl⟩ | ⟨hne, rfl⟩
    · exact h.lose howns
    · exact .of_none (fun id' hid' => h.none hne id' hid'.2) hne
  | armed =>
    obtain ⟨rfl, rfl⟩ := howner
    exact .of_none (h.none (by decide)) (by decide)
  | disarmed =>
    have howner : after = if before = .motion then .free else before := howner
    split at howner
    · rename_i hmotion
      subst howner hmotion
      exact .of_none (h.none (by decide)) (by decide)
    · exact howner ▸ h

/-- The arming flag of the ledger. -/
theorem armed_step {owns : Nat → Prop} {before after : Owner}
    (h : before = .motion ↔ g.armed = true) (howner : OwnerAfter event owns before after) :
    after = .motion ↔ (g.record t before after event).armed = true := by
  have hnot : before ≠ .motion → g.armed ≠ true := fun hne harmed => hne (h.mpr harmed)
  cases event with
  | quiet => exact howner ▸ h
  | began id => exact howner ▸ h
  | claimed id =>
    obtain ⟨rfl, rfl⟩ := howner
    exact iff_of_false (by decide) (hnot (by decide))
  | unclaimed id =>
    obtain ⟨rfl, _, rfl⟩ := howner
    exact iff_of_false (by decide) (hnot (by decide))
  | finished id | destructed id =>
    rcases howner with ⟨rfl, _, rfl⟩ | ⟨_, rfl⟩
    · exact iff_of_false (by decide) (hnot (by decide))
    · exact h
  | armed =>
    obtain ⟨_, rfl⟩ := howner
    exact iff_of_true rfl rfl
  | disarmed =>
    have howner : after = if before = .motion then .free else before := howner
    refine iff_of_false ?_ Bool.false_ne_true
    rw [howner]
    split
    · decide
    · assumption

/-! ## §7. The sessions. -/

theorem registered_step (hall : Registered c g) (hstep : c.Step t event c') :
    Registered c' (g.record t c.owner c'.owner event) := by
  intro id session' hsession' hregistered
  have hold := hall id
  cases hstep with
  | pass | enter | arm | refuseArm | disarm | claim | unclaim | check =>
    exact hold session' hsession' hregistered
  | register h hsession =>
    rcases put_cases hsession' with ⟨rfl, heq⟩ | hsame
    · exact Set.mem_insert ..
    · exact Set.mem_insert_of_mem _ (hold session' hsame hregistered)
  | pin h hsession | sample _ _ h hsession | drop h hsession | lock h hsession | finish h hsession
  | unlock h hsession =>
    rcases put_cases hsession' with ⟨rfl, heq⟩ | hsame
    · cases heq
      exact hold _ hsession hregistered
    · exact hold session' hsame hregistered
  | destruct h =>
    rcases put_cases hsession' with ⟨rfl, heq⟩ | hsame
    · cases heq
    · exact hold session' hsame hregistered

/-- A session is finished after its begin. -/
theorem live_put {id id' : Nat} {session session' : CalibrationData}
    (hsession : c.sessions id' = some session) (hsame : session'.finished = session.finished)
    (hlive : Live c id) : Live (c.put id' (some session')) id := by
  intro session₁ hsession₁
  rcases put_cases hsession₁ with ⟨rfl, heq⟩ | hold
  · cases heq
    exact hsame.trans (hlive session hsession)
  · exact hlive session₁ hold

theorem unbegun_step (hc : Custody c g) (hstep : c.Step t event c') {id : Nat}
    (hin : id ∈ (g.record t c.owner c'.owner event).beginning) :
    id ∉ (g.record t c.owner c'.owner event).began ∧ Live c' id := by
  have hok := hc.threads t
  unfold ThreadOk at hok
  have hold := hc.unbegun id
  cases hstep with
  | pass | enter | arm | refuseArm | disarm | check => exact hold hin
  | unclaim => exact hold hin.1
  | claim h =>
    rw [h] at hok
    rcases hin with rfl | hin
    · exact ⟨hok.1.unbegun, fun session hsession => (hok.1.single session hsession).2⟩
    · exact hold hin
  | register h hsession =>
    obtain ⟨hnot, hlive⟩ := hold hin.1
    refine ⟨fun hbegan => ?_, live_put hsession rfl hlive⟩
    rcases hbegan with rfl | hbegan
    · exact hin.2 rfl
    · exact hnot hbegan
  | pin h hsession | sample _ _ h hsession | drop h hsession | lock h hsession
  | unlock h hsession => exact ⟨(hold hin).1, live_put hsession rfl (hold hin).2⟩
  | finish h hsession =>
    rw [h] at hok
    obtain ⟨hnot, hlive⟩ := hold hin
    refine ⟨hnot, fun session₁ hsession₁ => ?_⟩
    rcases put_cases hsession₁ with ⟨rfl, _⟩ | hsame
    · exact absurd hok.1 hnot
    · exact hlive session₁ hsame
  | destruct h =>
    obtain ⟨hnot, hlive⟩ := hold hin.1
    refine ⟨hnot, fun session₁ hsession₁ => ?_⟩
    rcases put_cases hsession₁ with ⟨_, heq⟩ | hsame
    · cases heq
    · exact hlive session₁ hsame

/-- A call keeps its reference until it drops it. -/
theorem keeps_step (hstep : c.Step t event c') {id : Nat} (hholds : (c.stage t).holds = some id) :
    (c'.stage t).holds = some id ∨
      (∃ ok session, c.stage t = .leaving id ok ∧ c.sessions id = some session ∧
        1 < session.references) ∨ event = .destructed id := by
  cases hstep with
  | pass h =>
    left
    rw [Registry.moved_stage, if_pos rfl]
    generalize c.stage t = before at h hholds
    cases h <;> exact hholds
  | drop h hsession hstage =>
    rw [h] at hholds
    cases hholds
    split at hstage
    · left
      simp [hstage, Stage.holds]
    · rename_i hmany
      exact .inr (.inl ⟨_, _, h, hsession, Nat.lt_of_not_le hmany⟩)
  | destruct h =>
    rw [h] at hholds
    cases hholds
    exact .inr (.inr rfl)
  | enter h | arm h | refuseArm h | disarm h | pin h =>
    rw [h] at hholds
    cases hholds
  | unlock h =>
    left
    rcases h with ⟨h, _⟩ | ⟨h, _⟩ <;> rw [h] at hholds <;> simpa [Stage.holds] using hholds
  | claim h | unclaim h | register h | lock h | check h | sample _ _ h | finish h =>
    left
    rw [h] at hholds
    simpa [Stage.holds] using hholds

/-- A begin that has written `owner` is a call still under way. -/
theorem underWay_step (hc : Custody c g) (hstep : c.Step t event c') {id : Nat}
    (hin : id ∈ (g.record t c.owner c'.owner event).beginning) :
    ∃ t', (c'.stage t').holds = some id := by
  by_cases hclaimed : event = .claimed id
  · subst hclaimed
    cases hstep
    exact ⟨t, by simp [Stage.holds]⟩
  have hold : id ∈ g.beginning ∧ event ≠ .destructed id := by
    cases event with
    | claimed id' =>
      refine ⟨hin.resolve_left ?_, nofun⟩
      rintro rfl
      exact hclaimed rfl
    | destructed id' =>
      refine ⟨hin.1, ?_⟩
      rintro heq
      cases heq
      exact hin.2 rfl
    | unclaimed | began => exact ⟨hin.1, nofun⟩
    | quiet | finished | armed | disarmed => exact ⟨hin, nofun⟩
  obtain ⟨t', hholds⟩ := hc.underWay id hold.1
  refine ⟨t', ?_⟩
  by_cases hsame : t' = t
  · subst hsame
    rcases keeps_step hstep hholds with hkeeps | ⟨ok, session, hleaving, hsession, hmany⟩ | hevent
    · exact hkeeps
    · -- the reference a begin drops is the last one
      have hok := hc.threads t'
      unfold ThreadOk at hok
      rw [hleaving] at hok
      have hone := ((hok.1 hold.1).1.single session hsession).1
      omega
    · exact absurd hevent hold.2
  · rw [stage_other hstep hsame]
    exact hholds

/-- The next object is new to the sessions, the ledger and the calls. -/
theorem fresh_step (hc : Custody c g) (hstep : c.Step t event c') {id : Nat}
    (hid : c'.nextObject ≤ id) :
    c'.sessions id = none ∧ id ∉ (g.record t c.owner c'.owner event).began ∧
      id ∉ (g.record t c.owner c'.owner event).beginning ∧
      ∀ t', (c'.stage t').holds ≠ some id := by
  have hnext : c'.nextObject = c.nextObject := by cases hstep <;> rfl
  obtain ⟨hnone, hbegan, hbeginning, hholds⟩ := hc.fresh id (hnext ▸ hid)
  have hholds' : ∀ t', (c'.stage t').holds ≠ some id := by
    intro t' ht'
    by_cases hsame : t' = t
    · subst hsame
      rcases holds_step hstep ht' with hbefore | ⟨session, hsession, _⟩
      · exact hholds t' hbefore
      · rw [hnone] at hsession
        cases hsession
    · rw [stage_other hstep hsame] at ht'
      exact hholds t' ht'
  have hnot : ∀ {id'}, (c.stage t).holds = some id' → id ≠ id' := by
    rintro id' hid' rfl
    exact hholds t hid'
  have hput : ∀ {id' session session'}, c.sessions id' = some session →
      (c.put id' session').sessions id = none := by
    intro id' session session' hsession
    rw [Registry.put_sessions, if_neg]
    · exact hnone
    · rintro rfl
      rw [hnone] at hsession
      cases hsession
  refine ⟨?_, ?_, ?_, hholds'⟩
  · cases hstep with
    | pass | enter | arm | refuseArm | disarm | check | claim | unclaim => exact hnone
    | register h hsession | pin h hsession | sample _ _ h hsession | drop h hsession
    | lock h hsession | unlock h hsession | finish h hsession => exact hput hsession
    | destruct h =>
      rw [Registry.put_sessions]
      split
      · rfl
      · exact hnone
  · cases hstep with
    | register h =>
      rintro (rfl | hin)
      · exact hnot (congrArg Stage.holds h) rfl
      · exact hbegan hin
    | _ => exact hbegan
  · cases hstep with
    | claim h =>
      rintro (rfl | hin)
      · exact hnot (congrArg Stage.holds h) rfl
      · exact hbeginning hin
    | unclaim | register | destruct => exact fun hin => hbeginning hin.1
    | _ => exact hbeginning

/-- **Step lemma**: a step that releases no foreign ownership keeps the
    custody. -/
theorem custody_step (hc : Custody c g) (hstep : c.Step t event c')
    (hrelease : ¬ Misreleases c g t) : Custody c' (g.record t c.owner c'.owner event) := by
  have howner := owner_step hc hstep hrelease
  have howns : OwnsAfter event (Owns c g) = Owns c' (g.record t c.owner c'.owner event) :=
    funext fun id => propext (owns_step hc hstep id).symm
  exact
    { toHeld := howns ▸ held_step hc.toHeld howner
      armed := armed_step hc.armed howner
      registered := registered_step hc.registered hstep
      unbegun := fun id hin => unbegun_step hc hstep hin
      underWay := fun id hin => underWay_step hc hstep hin
      fresh := fun id hid => fresh_step hc hstep hid
      threads := fun t' => by
        by_cases hsame : t' = t
        · subst hsame
          exact threadOk_step hc hstep hrelease
        · exact (undisturbed_step hc hstep hsame _ _).threadOk (fun id hin => (hc.unbegun id hin).1)
            (hc.threads t') }

/-! ## §8. The first step of a call. -/

theorem undisturbed_start (hc : Custody c g) (hstart : c.Starts t c') (hother : t' ≠ t) :
    Undisturbed c g c' (g.restart t) t' := by
  have hstage : c'.stage t' = c.stage t' := by cases hstart <;> simp [hother]
  have hold : ∀ {id : Nat}, (c.stage t').holds = some id → id ≠ c.nextObject := by
    rintro id hid rfl
    exact (hc.fresh _ le_rfl).2.2.2 t' hid
  constructor
  case stage => exact hstage
  case wrote => exact Function.update_of_ne hother _ _
  case arming => cases hstart <;> exact fun _ => ⟨rfl, rfl⟩
  case began => exact fun _ hin => hin
  case beginning => exact fun _ _ => Iff.rfl
  case sole =>
    intro id hid hsole hunbegun t₁ hholds
    by_cases hsame : t₁ = t
    · subst hsame
      cases hstart with
      | call hcall => rcases hcall with rfl | rfl <;> simp [Stage.holds] at hholds
      | begins =>
        simp only [Registry.put_stage, Registry.moved_stage, if_true, Stage.holds] at hholds
        exact absurd (Option.some.inj hholds).symm (hold hid)
      | erase hsession hregistered =>
        simp only [Registry.put_stage, Registry.moved_stage, if_true, Stage.holds] at hholds
        cases hholds
        exact absurd (hc.registered _ _ hsession hregistered) hunbegun
    · have hsame : c'.stage t₁ = c.stage t₁ := by cases hstart <;> simp [hsame]
      rw [hsame] at hholds
      exact hsole t₁ hholds
  case own =>
    intro id hid hp
    refine ⟨hp.unbegun, ?_⟩
    cases hstart with
    | call => rfl
    | begins => exact (Registry.put_sessions ..).trans (if_neg (hold hid))
    | erase hsession hregistered =>
      refine (Registry.put_sessions ..).trans (if_neg ?_)
      rintro rfl
      exact hp.unbegun (hc.registered _ _ hsession hregistered)
  case session =>
    intro id session' hid hsession'
    cases hstart with
    | call => exact ⟨session', hsession', fun hl => ⟨hl, rfl⟩⟩
    | begins =>
      rcases put_cases hsession' with ⟨heq, _⟩ | hsame
      · exact absurd heq (hold hid)
      · exact ⟨session', hsame, fun hl => ⟨hl, rfl⟩⟩
    | erase hsession =>
      rcases put_cases hsession' with ⟨rfl, heq⟩ | hsame
      · cases heq
        exact ⟨_, hsession, fun hl => ⟨hl, rfl⟩⟩
      · exact ⟨session', hsame, fun hl => ⟨hl, rfl⟩⟩

theorem threadOk_start (hc : Custody c g) (hstart : c.Starts t c') :
    ThreadOk c' (g.restart t) t := by
  have hnone : (g.restart t).wrote t = none := Function.update_self ..
  unfold ThreadOk
  cases hstart with
  | call hcall =>
    rcases hcall with rfl | rfl <;> simp only [Registry.moved_stage, if_true]
    exact .inl hnone
  | begins session hnew hlive =>
    obtain ⟨_, hbegan, hbeginning, hholds⟩ := hc.fresh c.nextObject le_rfl
    simp only [Registry.put_stage, Registry.moved_stage, if_true]
    refine ⟨⟨fun t₁ ht₁ => ?_, hbegan, fun session' hsession' => ?_⟩, hbeginning, hnone⟩
    · by_contra hne
      refine hholds t₁ ?_
      simpa [hne] using ht₁
    · rw [Registry.put_sessions, if_pos rfl] at hsession'
      cases hsession'
      exact ⟨hnew, hlive⟩
  | erase hsession hregistered =>
    simp only [Registry.put_stage, Registry.moved_stage, if_true]
    have hbegan := hc.registered _ _ hsession hregistered
    exact ⟨fun hin => absurd hbegan (hc.unbegun _ hin).1, fun _ hfail => by cases hfail⟩

theorem owns_start (hc : Custody c g) (hstart : c.Starts t c') (id : Nat) :
    Owns c' (g.restart t) id ↔ Owns c g id := by
  cases hstart with
  | call => exact Iff.rfl
  | begins =>
    by_cases hid : id = c.nextObject
    · have hbegan := (hc.fresh id hid.ge).2.1
      exact or_congr Iff.rfl (iff_of_false (fun hu => hbegan hu.1) fun hu => hbegan hu.1)
    · exact or_congr Iff.rfl (unfinished_put_ne hid)
  | erase hsession => exact or_congr Iff.rfl (unfinished_put hsession rfl)

theorem registered_start (hall : Registered c g) (hstart : c.Starts t c') :
    Registered c' (g.restart t) := by
  intro id session' hsession' hregistered
  have hold := hall id
  cases hstart with
  | call => exact hold session' hsession' hregistered
  | begins session hnew hlive hunregistered =>
    rcases put_cases hsession' with ⟨rfl, heq⟩ | hsame
    · cases heq
      rw [hunregistered] at hregistered
      cases hregistered
    · exact hold session' hsame hregistered
  | erase hsession =>
    rcases put_cases hsession' with ⟨rfl, heq⟩ | hsame
    · cases heq
      cases hregistered
    · exact hold session' hsame hregistered

theorem live_start (hstart : c.Starts t c') {id : Nat} (hlive : Live c id) : Live c' id := by
  cases hstart with
  | call => exact hlive
  | begins session hnew hfresh =>
    intro session' hsession'
    rcases put_cases hsession' with ⟨_, heq⟩ | hsame
    · cases heq
      exact hfresh
    · exact hlive session' hsame
  | erase hsession => exact live_put hsession rfl hlive

theorem fresh_start (hc : Custody c g) (hstart : c.Starts t c') {id : Nat}
    (hid : c'.nextObject ≤ id) :
    c'.sessions id = none ∧ id ∉ g.began ∧ id ∉ g.beginning ∧
      ∀ t', (c'.stage t').holds ≠ some id := by
  have hle : c.nextObject ≤ c'.nextObject := by
    cases hstart with
    | call _ hnext => exact hnext
    | begins => exact Nat.le_succ _
    | erase => exact le_rfl
  obtain ⟨hnone, hbegan, hbeginning, hholds⟩ := hc.fresh id (hle.trans hid)
  refine ⟨?_, hbegan, hbeginning, fun t' ht' => ?_⟩
  · cases hstart with
    | call => exact hnone
    | begins => exact (Registry.put_sessions ..).trans ((if_neg (Nat.ne_of_gt hid)).trans hnone)
    | erase hsession =>
      refine (Registry.put_sessions ..).trans ((if_neg ?_).trans hnone)
      rintro rfl
      rw [hnone] at hsession
      cases hsession
  · by_cases hsame : t' = t
    · subst hsame
      cases hstart with
      | call hcall => rcases hcall with rfl | rfl <;> simp [Stage.holds] at ht'
      | begins =>
        simp only [Registry.put_stage, Registry.moved_stage, if_true, Stage.holds] at ht'
        exact absurd (Option.some.inj ht').symm (Nat.ne_of_gt hid)
      | erase hsession =>
        simp only [Registry.put_stage, Registry.moved_stage, if_true, Stage.holds] at ht'
        cases ht'
        rw [hnone] at hsession
        cases hsession
    · have hsame : c'.stage t' = c.stage t' := by cases hstart <;> simp [hsame]
      rw [hsame] at ht'
      exact hholds t' ht'

/-- The first step of a call keeps the custody. -/
theorem custody_start (hc : Custody c g) (hstart : c.Starts t c') (hidle : c.stage t = .rest) :
    Custody c' (g.restart t) := by
  have howner : c'.owner = c.owner := by cases hstart <;> rfl
  have howns : Owns c g = Owns c' (g.restart t) :=
    funext fun id => propext (owns_start hc hstart id).symm
  exact
    { toHeld := by
        rw [howner, ← howns]
        exact hc.toHeld
      armed := howner ▸ hc.armed
      registered := registered_start hc.registered hstart
      unbegun := fun id hin => ⟨(hc.unbegun id hin).1, live_start hstart (hc.unbegun id hin).2⟩
      underWay := fun id hin => by
        obtain ⟨t', hholds⟩ := hc.underWay id hin
        have hother : t' ≠ t := by
          rintro rfl
          rw [hidle] at hholds
          cases hholds
        exact ⟨t', (undisturbed_start hc hstart hother).stage ▸ hholds⟩
      fresh := fun id hid => fresh_start hc hstart hid
      threads := fun t' => by
        by_cases hsame : t' = t
        · subst hsame
          exact threadOk_start hc hstart
        · exact (undisturbed_start hc hstart hsame).threadOk (fun id hin => (hc.unbegun id hin).1)
            (hc.threads t') }

/-- An arming and a begin take a free runtime. -/
theorem takes_free (hc : Custody c g) (hstep : c.Step t event c')
    (htakes : event = .armed ∨ ∃ id, event = .claimed id) : c.owner = .free := by
  have hok := hc.threads t
  unfold ThreadOk at hok
  rcases htakes with rfl | ⟨id, rfl⟩ <;> cases hstep
  · rename_i h
    rw [h] at hok
    exact hok.2.1
  · assumption

end Steps

end OpenArm.Runtime
