/-
  OpenArm.Runtime.PlanBook — which plan holds the pending authority: the
  protocol of `plan_pending`.

  The abstract model of the authority of plans.  A call is reduced to the plan
  it refers to (`PlanStage`), the runtime to its authority words and its plan
  objects, and every step to one of the rules of `PlanBook.Step`.

  Main results:
    * `authority_step`, `authority_start`, `authority_lapse` — the steps keep
      the invariant `Authorities`, unless an acquisition overlaps.
    * `superseded_step` — a call on a superseded plan neither executes it nor
      touches the authority words.
-/
import OpenArm.Runtime.Data

namespace OpenArm.Runtime

open OpenArm.Lib OpenArm.Control

/-! ## §1. The book of plans. -/

/-- What a call has in hand of a plan. -/
inductive PlanStage where
  | away
  /-- A planner before its authority block. -/
  | acquiring (id : Nat)
  /-- A reference, and no more. -/
  | refers (id : Nat)
  /-- `PlanData::mutex`. -/
  | locked (id : Nat)
  /-- The mutex, from the authority check to the call of the controller. -/
  | cleared (id : Nat)
  /-- The mutex, from a successful call of the controller to the release. -/
  | succeeded (id : Nat)
  deriving DecidableEq

/-- The plan the call refers to. -/
def PlanStage.plan : PlanStage → Option Nat
  | .away => none
  | .acquiring id | .refers id | .locked id | .cleared id | .succeeded id => some id

/-- The authority words, the plan objects and the calls of a runtime. -/
structure PlanBook (F : Type) where
  pending : Bool
  expiryNs : Nat
  authorityId : Nat
  nextAuthorityId : Nat
  plans : Nat → Option (PlanData F)
  nextObject : Nat
  stage : Nat → PlanStage

/-- What a step does to a plan. -/
inductive PlanEvent where
  | quiet
  | acquired (id : Nat)
  | executed (id : Nat)

/-- Stages a call passes without touching the authority words. -/
inductive PlanStage.Passes : PlanStage → PlanStage → Prop where
  | away : Passes .away .away
  | refused (id : Nat) : Passes (.acquiring id) (.refers id)
  | refers (id : Nat) : Passes (.refers id) (.refers id)
  | leave (id : Nat) : Passes (.refers id) .away
  | locked (id : Nat) : Passes (.locked id) (.locked id)
  | cleared (id : Nat) : Passes (.cleared id) (.cleared id)
  | failed (id : Nat) : Passes (.cleared id) (.locked id)

variable {F : Type}

/-- A rewrite of a plan that leaves its authority and its mutex alone, and
    registers it only once it has been through the authority block. -/
structure PlanData.Edits (plan plan' : PlanData F) (may : Prop) : Prop where
  authorityId : plan'.authorityId = plan.authorityId
  holdsAuthority : plan'.holdsAuthority = plan.holdsAuthority
  lockedBy : plan'.lockedBy = plan.lockedBy
  registered : plan'.registered = true → plan.registered = true ∨ may

namespace PlanBook

/-- Thread `t` is at `stage` now. -/
def moved (c : PlanBook F) (t : Nat) (stage : PlanStage) : PlanBook F :=
  { c with stage := Function.update c.stage t stage }

/-- Replace a plan. -/
def put (c : PlanBook F) (id : Nat) (plan : Option (PlanData F)) : PlanBook F :=
  { c with plans := Function.update c.plans id plan }

/-- Clear the pending authority when `release` says so. -/
def clear (c : PlanBook F) (release : Bool) : PlanBook F :=
  { c with
    pending := if release then false else c.pending
    expiryNs := if release then 0 else c.expiryNs }

/-- The authority words of an acquisition. -/
def grant (c : PlanBook F) (expiryNs : Nat) : PlanBook F :=
  { c with
    pending := true
    expiryNs := expiryNs
    authorityId := c.nextAuthorityId
    nextAuthorityId :=
      if wrap64 (c.nextAuthorityId + 1) = 0 then 1 else wrap64 (c.nextAuthorityId + 1) }

section Projections

variable (c : PlanBook F) (t t' id id' : Nat) (stage : PlanStage) (plan : Option (PlanData F))
  (release : Bool) (expiryNs : Nat)

@[simp, grind =] theorem moved_stage :
    (c.moved t stage).stage t' = if t' = t then stage else c.stage t' :=
  Function.update_apply ..
@[simp, grind =] theorem moved_plans : (c.moved t stage).plans id = c.plans id := rfl
@[simp, grind =] theorem moved_pending : (c.moved t stage).pending = c.pending := rfl
@[simp, grind =] theorem moved_authorityId : (c.moved t stage).authorityId = c.authorityId := rfl
@[simp, grind =] theorem moved_nextObject : (c.moved t stage).nextObject = c.nextObject := rfl
@[simp, grind =] theorem moved_expiryNs : (c.moved t stage).expiryNs = c.expiryNs := rfl

@[simp, grind =] theorem put_plans :
    (c.put id plan).plans id' = if id' = id then plan else c.plans id' :=
  Function.update_apply ..
@[simp, grind =] theorem put_stage : (c.put id plan).stage t = c.stage t := rfl
@[simp, grind =] theorem put_pending : (c.put id plan).pending = c.pending := rfl
@[simp, grind =] theorem put_authorityId : (c.put id plan).authorityId = c.authorityId := rfl
@[simp, grind =] theorem put_nextObject : (c.put id plan).nextObject = c.nextObject := rfl
@[simp, grind =] theorem put_expiryNs : (c.put id plan).expiryNs = c.expiryNs := rfl

@[simp, grind =] theorem clear_plans : (c.clear release).plans id = c.plans id := rfl
@[simp, grind =] theorem clear_stage : (c.clear release).stage t = c.stage t := rfl
@[simp, grind =] theorem clear_pending :
    (c.clear release).pending = if release then false else c.pending := rfl
@[simp, grind =] theorem clear_expiryNs :
    (c.clear release).expiryNs = if release then 0 else c.expiryNs := rfl
@[simp, grind =] theorem clear_authorityId : (c.clear release).authorityId = c.authorityId := rfl
@[simp, grind =] theorem clear_nextObject : (c.clear release).nextObject = c.nextObject := rfl

@[simp, grind =] theorem grant_plans : (c.grant expiryNs).plans id = c.plans id := rfl
@[simp, grind =] theorem grant_stage : (c.grant expiryNs).stage t = c.stage t := rfl
@[simp, grind =] theorem grant_pending : (c.grant expiryNs).pending = true := rfl
@[simp, grind =] theorem grant_authorityId :
    (c.grant expiryNs).authorityId = c.nextAuthorityId := rfl
@[simp, grind =] theorem grant_nextObject : (c.grant expiryNs).nextObject = c.nextObject := rfl

end Projections

/-- The plan holds the pending authority. -/
def isCurrent (c : PlanBook F) (plan : PlanData F) : Bool :=
  c.pending && c.authorityId == plan.authorityId

/-- One step of the call of thread `t`. -/
inductive Step (c : PlanBook F) (t : Nat) : PlanEvent → PlanBook F → Prop where
  | pass {stage : PlanStage} (h : (c.stage t).Passes stage) : Step c t .quiet (c.moved t stage)
  | edit {id : Nat} {plan plan' : PlanData F} {stage : PlanStage} (h : (c.stage t).Passes stage)
      (hplan : c.plans id = some plan)
      (hedits : plan.Edits plan' (c.stage t = .refers id)) :
      Step c t .quiet ((c.moved t stage).put id (some plan'))
  -- a planner
  | acquire {id : Nat} {plan : PlanData F} (expiryNs : Nat) (h : c.stage t = .acquiring id)
      (hfree : c.pending = false) (hplan : c.plans id = some plan) :
      Step c t (.acquired id)
        (((c.grant expiryNs).moved t (.refers id)).put id
          (some { plan with authorityId := c.nextAuthorityId, holdsAuthority := true }))
  -- an execute
  | pin {id : Nat} {plan : PlanData F} (h : c.stage t = .away) (hplan : c.plans id = some plan)
      (hregistered : plan.registered = true) :
      Step c t .quiet
        ((c.moved t (.refers id)).put id (some { plan with references := plan.references + 1 }))
  | lock {id : Nat} {plan : PlanData F} (h : c.stage t = .refers id)
      (hplan : c.plans id = some plan) (hfree : plan.lockedBy = none) :
      Step c t .quiet ((c.moved t (.locked id)).put id (some { plan with lockedBy := some t }))
  | check {id : Nat} {plan : PlanData F} (h : c.stage t = .locked id)
      (hplan : c.plans id = some plan) (hholds : plan.holdsAuthority = true)
      (hcurrent : c.isCurrent plan = true) : Step c t .quiet (c.moved t (.cleared id))
  | expire {id : Nat} {plan : PlanData F} (h : c.stage t = .locked id)
      (hplan : c.plans id = some plan) :
      Step c t .quiet
        (((c.clear (c.isCurrent plan)).moved t (.locked id)).put id
          (some { plan with holdsAuthority := false }))
  | execute {id : Nat} {plan : PlanData F} (h : c.stage t = .cleared id)
      (hplan : c.plans id = some plan) : Step c t (.executed id) (c.moved t (.succeeded id))
  | release {id : Nat} {plan : PlanData F} (h : c.stage t = .succeeded id)
      (hplan : c.plans id = some plan) :
      Step c t .quiet
        (((c.clear (c.authorityId == plan.authorityId)).moved t (.locked id)).put id
          (some { plan with holdsAuthority := false }))
  | unlock {id : Nat} {plan : PlanData F} (h : c.stage t = .locked id)
      (hplan : c.plans id = some plan) :
      Step c t .quiet ((c.moved t (.refers id)).put id (some { plan with lockedBy := none }))
  -- the end of a plan
  | destruct {id : Nat} {plan : PlanData F} (h : c.stage t = .refers id)
      (hplan : c.plans id = some plan) :
      Step c t .quiet
        (((c.clear (plan.holdsAuthority && c.isCurrent plan)).moved t .away).put id none)

/-- The first step of a call of thread `t`. -/
inductive Starts (c : PlanBook F) (t : Nat) : PlanBook F → Prop where
  | call {next : Nat} (hnext : c.nextObject ≤ next) :
      Starts c t { c.moved t .away with nextObject := next }
  | plans (plan : PlanData F) (hholds : plan.holdsAuthority = false)
      (hregistered : plan.registered = false) :
      Starts c t
        { (c.moved t (.acquiring c.nextObject)).put c.nextObject (some plan) with
          nextObject := c.nextObject + 1 }
  | erase {id : Nat} {plan : PlanData F} (hplan : c.plans id = some plan)
      (hregistered : plan.registered = true) :
      Starts c t
        ((c.moved t (.refers id)).put id (some { plan with registered := false }))

end PlanBook

/-! ## §2. The invariant. -/

/-- How often each plan was executed, after a step. -/
def PlanEvent.count (n : Nat → Nat) : PlanEvent → Nat → Nat
  | .executed id => Function.update n id (n id + 1)
  | .quiet | .acquired _ => n

@[simp, grind =] theorem PlanEvent.count_quiet (n : Nat → Nat) (id : Nat) :
    PlanEvent.quiet.count n id = n id := rfl
@[simp, grind =] theorem PlanEvent.count_acquired (n : Nat → Nat) (id id' : Nat) :
    (PlanEvent.acquired id').count n id = n id := rfl
@[simp, grind =] theorem PlanEvent.count_executed (n : Nat → Nat) (id id' : Nat) :
    (PlanEvent.executed id').count n id = if id = id' then n id' + 1 else n id :=
  Function.update_apply ..

section Invariant

variable (c : PlanBook F) (n : Nat → Nat)

/-- The plan object holds the authority of this id. -/
def PlanBook.Holds (authorityId id : Nat) : Prop :=
  ∃ plan, c.plans id = some plan ∧ plan.holdsAuthority = true ∧ plan.authorityId = authorityId

/-- Thread `t` holds the mutex of the plan. -/
def PlanBook.Locks (t id : Nat) : Prop :=
  ∀ plan, c.plans id = some plan → plan.lockedBy = some t

/-- The plan is new: only thread `t` refers to it. -/
structure PlanBook.New (t id : Nat) : Prop where
  sole : ∀ t', (c.stage t').plan = some id → t' = t
  plan : ∃ plan, c.plans id = some plan ∧ plan.holdsAuthority = false ∧ plan.registered = false
  unexecuted : n id = 0

/-- What a thread may rely on at its stage. -/
def PlanBook.ThreadOk (t : Nat) : Prop :=
  match c.stage t with
  | .away | .refers _ => True
  | .acquiring id => c.New n t id
  | .locked id | .succeeded id => c.Locks t id
  | .cleared id =>
    c.Locks t id ∧ n id = 0 ∧ ∀ plan, c.plans id = some plan → plan.authorityId = c.authorityId

/-- **The invariant**: while an authority is pending one plan holds it, and a
    plan that was executed has given up its authority or is about to. -/
structure Authorities : Prop where
  distinct : ∀ authorityId id id', c.Holds authorityId id → c.Holds authorityId id' → id = id'
  held : c.pending = true → ∃ id, c.Holds c.authorityId id
  once : ∀ id, n id ≤ 1
  spent : ∀ authorityId id, c.Holds authorityId id → n id = 0 ∨ ∃ t, c.stage t = .succeeded id
  fresh : ∀ id, c.nextObject ≤ id →
    c.plans id = none ∧ n id = 0 ∧ ∀ t, (c.stage t).plan ≠ some id
  threads : ∀ t, c.ThreadOk n t

/-- An acquisition now overlaps: an execute is between its check and its call
    of the controller, or a live plan still holds the id that comes next. -/
def PlanBook.Overlaps : Prop :=
  (∃ t id, c.stage t = .cleared id) ∨ ∃ id, c.Holds c.nextAuthorityId id

end Invariant

/-! ## §3. One step. -/

section Steps

variable {c c' : PlanBook F} {n : Nat → Nat} {t t' : Nat} {event : PlanEvent}

theorem planStage_other (hstep : c.Step t event c') (hother : t' ≠ t) :
    c'.stage t' = c.stage t' := by
  cases hstep <;> simp [hother]

theorem PlanStage.Passes.plan {stage stage' : PlanStage} (h : stage.Passes stage') {id : Nat}
    (hplan : stage'.plan = some id) : stage.plan = some id := by
  cases h <;> first | exact hplan | cases hplan

theorem distinct_step (hc : Authorities c n) (hstep : c.Step t event c')
    (hover : ∀ id, event = .acquired id → ¬ c.Overlaps) (authorityId id id' : Nat)
    (h : c'.Holds authorityId id) (h' : c'.Holds authorityId id') : id = id' := by
  have hd := hc.distinct authorityId id id'
  cases hstep <;> grind [PlanBook.Holds, PlanData.Edits, PlanBook.Overlaps]

/-- The holder of the pending authority keeps it, unless the step gives it up
    and the pause with it. -/
theorem holds_kept (hstep : c.Step t event c') (hpending : c'.pending = true)
    (hquiet : ∀ id, event ≠ .acquired id) : c.pending = true ∧ c'.authorityId = c.authorityId ∧
      ∀ id, c.Holds c.authorityId id → c'.Holds c.authorityId id := by
  refine ⟨?_, ?_, fun id hholds => ?_⟩
  · cases hstep <;> grind
  · cases hstep <;> grind
  · cases hstep <;> grind [PlanBook.Holds, PlanData.Edits, PlanBook.isCurrent]

theorem pending_step (hc : Authorities c n) (hstep : c.Step t event c')
    (hpending : c'.pending = true) : ∃ id, c'.Holds c'.authorityId id := by
  by_cases hacquired : ∃ id, event = .acquired id
  · obtain ⟨id, rfl⟩ := hacquired
    refine ⟨id, ?_⟩
    cases hstep
    grind [PlanBook.Holds]
  · obtain ⟨hbefore, hsame, hkept⟩ :=
      holds_kept hstep hpending fun id heq => hacquired ⟨id, heq⟩
    obtain ⟨id, hholds⟩ := hc.held hbefore
    rw [hsame]
    exact ⟨id, hkept id hholds⟩

/-- Only an acquisition hands out an authority. -/
theorem holds_before (hstep : c.Step t event c') {authorityId id : Nat}
    (h : c'.Holds authorityId id) : c.Holds authorityId id ∨ event = .acquired id := by
  cases hstep <;> grind [PlanBook.Holds, PlanData.Edits]

/-- An execute that succeeded goes on to the release of its plan. -/
theorem succeeded_kept (hstep : c.Step t event c') {authorityId id : Nat}
    (h : c.stage t' = .succeeded id) (hholds : c'.Holds authorityId id) :
    c'.stage t' = .succeeded id := by
  cases hstep <;> grind [PlanBook.Holds, PlanStage.Passes]

/-- A plan that was executed and still holds its authority is in the hands of
    an execute that will release it. -/
theorem spent_step (hc : Authorities c n) (hstep : c.Step t event c') (authorityId id : Nat)
    (hholds : c'.Holds authorityId id) :
    event.count n id = 0 ∨ ∃ t, c'.stage t = .succeeded id := by
  by_cases hexecuted : event = .executed id
  · subst hexecuted
    cases hstep
    exact .inr ⟨t, by simp⟩
  have hcount : event.count n id = n id := by
    cases event <;> grind
  rw [hcount]
  rcases holds_before hstep hholds with hbefore | rfl
  · rcases hc.spent authorityId id hbefore with hzero | ⟨t₁, hstage⟩
    · exact .inl hzero
    · exact .inr ⟨t₁, succeeded_kept hstep hstage hholds⟩
  · have hok := hc.threads t
    unfold PlanBook.ThreadOk at hok
    cases hstep with
    | acquire expiryNs h =>
      rw [h] at hok
      exact .inl hok.unexecuted

theorem unused_step (hc : Authorities c n) (hstep : c.Step t event c') (id : Nat)
    (hfresh : c'.nextObject ≤ id) :
    c'.plans id = none ∧ event.count n id = 0 ∧ ∀ t, (c'.stage t).plan ≠ some id := by
  have hold := hc.fresh id
  refine ⟨?_, ?_, fun t' => ?_⟩
  · cases hstep <;> grind
  · cases hstep <;> grind
  · cases hstep <;> grind [PlanStage.plan, PlanStage.Passes]

/-! ## §4. The threads. -/

/-- A call refers to a plan it has referred to before, or to a registered
    one. -/
theorem plan_step (hstep : c.Step t event c') {id : Nat} (h : (c'.stage t).plan = some id) :
    (c.stage t).plan = some id ∨ ∃ plan, c.plans id = some plan ∧ plan.registered = true := by
  cases hstep with
  | pass hpass => exact .inl (hpass.plan (by simpa using h))
  | edit hpass => exact .inl (hpass.plan (by simpa using h))
  | pin _ hplan hregistered =>
    simp only [PlanBook.put_stage, PlanBook.moved_stage, if_true, PlanStage.plan,
      Option.some.injEq] at h
    subst h
    exact .inr ⟨_, hplan, hregistered⟩
  | _ =>
    left
    grind [PlanStage.plan]

/-- Nobody touches the new plan of another thread. -/
theorem new_other (hstep : c.Step t event c') (hother : t' ≠ t) {id : Nat}
    (hnew : c.New n t' id) : c'.New (event.count n) t' id := by
  obtain ⟨hsole, ⟨plan, hplan, hholds, hregistered⟩, hzero⟩ := hnew
  have hnot : (c.stage t).plan ≠ some id := fun h => hother (hsole t h).symm
  refine ⟨fun t₁ h => ?_, ?_, ?_⟩
  · by_cases ht : t₁ = t
    · subst ht
      rcases plan_step hstep h with hbefore | ⟨plan₁, hplan₁, hregistered₁⟩
      · exact hsole t₁ hbefore
      · rw [hplan] at hplan₁
        cases hplan₁
        rw [hregistered] at hregistered₁
        cases hregistered₁
    · rw [planStage_other hstep ht] at h
      exact hsole t₁ h
  · cases hstep <;> grind [PlanStage.plan, PlanData.Edits]
  · cases hstep <;> grind [PlanStage.plan]

/-- A mutex is taken when it is free and given up by its holder. -/
theorem locks_other (hc : Authorities c n) (hstep : c.Step t event c') (hother : t' ≠ t) {id : Nat}
    (hlocks : c.Locks t' id) : c'.Locks t' id := by
  have hmine := hc.threads t
  unfold PlanBook.ThreadOk at hmine
  cases hstep <;> grind [PlanBook.Locks, PlanData.Edits]

/-- What another thread relies on survives the step. -/
theorem planOk_other (hc : Authorities c n) (hstep : c.Step t event c') (hother : t' ≠ t)
    (hover : ∀ id, event = .acquired id → ¬ c.Overlaps) : c'.ThreadOk (event.count n) t' := by
  have hok := hc.threads t'
  have hmine := hc.threads t
  unfold PlanBook.ThreadOk at hok hmine ⊢
  rw [planStage_other hstep hother]
  cases hstage : c.stage t' with
  | away => trivial
  | refers id => trivial
  | acquiring id =>
    rw [hstage] at hok
    exact new_other hstep hother hok
  | locked id =>
    rw [hstage] at hok
    exact locks_other hc hstep hother hok
  | succeeded id =>
    rw [hstage] at hok
    exact locks_other hc hstep hother hok
  | cleared id =>
    rw [hstage] at hok
    obtain ⟨hlocks, hzero, hsame⟩ := hok
    have hcleared : ∀ id', event ≠ .acquired id' :=
      fun id' heq => hover id' heq (.inl ⟨t', id, hstage⟩)
    refine ⟨locks_other hc hstep hother hlocks, ?_, ?_⟩
    · cases hstep <;> grind [PlanBook.Locks]
    · cases hstep <;> grind [PlanData.Edits]

/-- A passed stage relies on no more than the one before. -/
theorem planOk_pass {stage : PlanStage} (hok : c.ThreadOk n t)
    (h : (c.stage t).Passes stage) (hsame : c'.stage t = stage)
    (hauthority : c'.authorityId = c.authorityId)
    (hplans : ∀ id plan', c'.plans id = some plan' → ∃ plan, c.plans id = some plan ∧
      plan'.lockedBy = plan.lockedBy ∧ plan'.authorityId = plan.authorityId) :
    c'.ThreadOk n t := by
  have hlocks : ∀ id, c.Locks t id → c'.Locks t id := by
    intro id hlocks plan' hplan'
    obtain ⟨plan, hplan, hlocked, _⟩ := hplans id plan' hplan'
    exact hlocked.trans (hlocks plan hplan)
  unfold PlanBook.ThreadOk at hok ⊢
  rw [hsame]
  generalize c.stage t = before at h hok
  cases h with
  | away | refused | refers | leave => trivial
  | locked id => exact hlocks id hok
  | failed id => exact hlocks id hok.1
  | cleared id =>
    obtain ⟨hmine, hzero, hcurrent⟩ := hok
    refine ⟨hlocks id hmine, hzero, fun plan' hplan' => ?_⟩
    obtain ⟨plan, hplan, _, hid⟩ := hplans id plan' hplan'
    rw [hid, hauthority]
    exact hcurrent plan hplan

/-- What the stepping thread relies on afterwards. -/
theorem planOk_self (hc : Authorities c n) (hstep : c.Step t event c') :
    c'.ThreadOk (event.count n) t := by
  have hok := hc.threads t
  cases hstep with
  | pass h =>
    exact planOk_pass hok h (by simp) rfl fun id plan' hplan' => ⟨plan', hplan', rfl, rfl⟩
  | edit h hplan hedits =>
    refine planOk_pass hok h (by simp) rfl fun id plan' hplan' => ?_
    grind [PlanData.Edits]
  | acquire | pin | unlock | destruct =>
    unfold PlanBook.ThreadOk
    simp only [PlanBook.put_stage, PlanBook.moved_stage, if_true]
  | lock h hplan hfree =>
    unfold PlanBook.ThreadOk
    simp only [PlanBook.put_stage, PlanBook.moved_stage, if_true]
    intro plan hput
    grind
  | @check id plan h hplan hholds hcurrent =>
    unfold PlanBook.ThreadOk at hok ⊢
    rw [h] at hok
    simp only [PlanBook.moved_stage, if_true]
    have hsame : plan.authorityId = c.authorityId := by
      simp only [PlanBook.isCurrent, Bool.and_eq_true, beq_iff_eq] at hcurrent
      exact hcurrent.2.symm
    refine ⟨hok, ?_, fun plan₁ hplan₁ => ?_⟩
    · rcases hc.spent c.authorityId id ⟨plan, hplan, hholds, hsame⟩ with hzero | ⟨t₁, hstage⟩
      · exact hzero
      · -- the execute that will release the plan holds its mutex, which is ours
        have htheirs := hc.threads t₁
        unfold PlanBook.ThreadOk at htheirs
        rw [hstage] at htheirs
        have heq : t₁ = t := Option.some.inj ((htheirs plan hplan).symm.trans (hok plan hplan))
        rw [heq, h] at hstage
        cases hstage
    · have hplan₁ : c.plans id = some plan₁ := hplan₁
      rw [hplan] at hplan₁
      cases hplan₁
      exact hsame
  | expire h hplan =>
    unfold PlanBook.ThreadOk at hok ⊢
    rw [h] at hok
    simp only [PlanBook.put_stage, PlanBook.moved_stage, if_true]
    grind [PlanBook.Locks]
  | execute h hplan =>
    unfold PlanBook.ThreadOk at hok ⊢
    rw [h] at hok
    simp only [PlanBook.moved_stage, if_true]
    exact hok.1
  | release h hplan =>
    unfold PlanBook.ThreadOk at hok ⊢
    rw [h] at hok
    simp only [PlanBook.put_stage, PlanBook.moved_stage, if_true]
    grind [PlanBook.Locks]

theorem once_step (hc : Authorities c n) (hstep : c.Step t event c') (id : Nat) :
    event.count n id ≤ 1 := by
  have hold := hc.once id
  have hok := hc.threads t
  unfold PlanBook.ThreadOk at hok
  cases hstep <;> grind

/-- **A step keeps the authorities**, unless it is an acquisition that
    overlaps. -/
theorem authority_step (hc : Authorities c n) (hstep : c.Step t event c')
    (hover : ∀ id, event = .acquired id → ¬ c.Overlaps) : Authorities c' (event.count n) where
  distinct := distinct_step hc hstep hover
  held := pending_step hc hstep
  once := once_step hc hstep
  spent := spent_step hc hstep
  fresh := unused_step hc hstep
  threads := fun t' => by
    by_cases hsame : t' = t
    · subst hsame
      exact planOk_self hc hstep
    · exact planOk_other hc hstep hsame hover

/-- **A superseded plan is harmless**: a call on it neither executes it nor
    touches the authority words. -/
theorem superseded_step (hc : Authorities c n) (hstep : c.Step t event c') {id : Nat}
    {plan : PlanData F} (hstage : (c.stage t).plan = some id) (hnew : c.stage t ≠ .acquiring id)
    (hplan : c.plans id = some plan) (hsuperseded : plan.authorityId ≠ c.authorityId) :
    event ≠ .executed id ∧ c'.pending = c.pending ∧ c'.expiryNs = c.expiryNs ∧
      c'.authorityId = c.authorityId := by
  have hok := hc.threads t
  unfold PlanBook.ThreadOk at hok
  cases hstep <;> grind [PlanStage.plan, PlanBook.isCurrent]

/-! ## §5. New calls and the worker. -/

theorem holds_start (hstart : c.Starts t c') (hc : Authorities c n) {authorityId id : Nat} :
    c'.Holds authorityId id ↔ c.Holds authorityId id := by
  have hfresh := hc.fresh id
  cases hstart <;> grind [PlanBook.Holds]

theorem stage_start (hstart : c.Starts t c') (hother : t' ≠ t) : c'.stage t' = c.stage t' := by
  cases hstart <;> simp [hother]

/-- A new call refers to a fresh plan, or to a registered one. -/
theorem plan_start (hstart : c.Starts t c') {id : Nat} (h : (c'.stage t).plan = some id) :
    id = c.nextObject ∨ ∃ plan, c.plans id = some plan ∧ plan.registered = true := by
  cases hstart <;> grind [PlanStage.plan]

/-- Nobody touches the new plan of another thread. -/
theorem new_start (hc : Authorities c n) (hstart : c.Starts t c') (hother : t' ≠ t) {id : Nat}
    (hstage : c.stage t' = .acquiring id) (hnew : c.New n t' id) : c'.New n t' id := by
  obtain ⟨hsole, ⟨plan, hplan, hholds, hregistered⟩, hzero⟩ := hnew
  have hfresh := hc.fresh id
  have hne : id ≠ c.nextObject := by
    rintro rfl
    exact (hfresh le_rfl).2.2 t' (by rw [hstage]; rfl)
  refine ⟨fun t₁ h => ?_, ?_, hzero⟩
  · by_cases ht : t₁ = t
    · subst ht
      rcases plan_start hstart h with heq | ⟨plan₁, hplan₁, hregistered₁⟩
      · exact absurd heq hne
      · rw [hplan] at hplan₁
        cases hplan₁
        rw [hregistered] at hregistered₁
        cases hregistered₁
    · rw [stage_start hstart ht] at h
      exact hsole t₁ h
  · cases hstart <;> grind

/-- A thread goes on relying on plans whose mutex and authority are kept. -/
theorem planOk_kept (hok : c.ThreadOk n t) (hstage : c'.stage t = c.stage t)
    (hauthority : c'.authorityId = c.authorityId)
    (hplans : ∀ id plan', (c.stage t).plan = some id → c'.plans id = some plan' →
      ∃ plan, c.plans id = some plan ∧ plan'.lockedBy = plan.lockedBy ∧
        plan'.authorityId = plan.authorityId)
    (hnew : ∀ id, c.stage t = .acquiring id → c.New n t id → c'.New n t id) :
    c'.ThreadOk n t := by
  unfold PlanBook.ThreadOk at hok ⊢
  rw [hstage]
  have hlocks : ∀ id, (c.stage t).plan = some id → c.Locks t id → c'.Locks t id := by
    intro id hid hlocks plan' hplan'
    obtain ⟨plan, hplan, hlocked, _⟩ := hplans id plan' hid hplan'
    exact hlocked.trans (hlocks plan hplan)
  cases hbefore : c.stage t with
  | away | refers => trivial
  | acquiring id =>
    rw [hbefore] at hok
    exact hnew id hbefore hok
  | locked id | succeeded id =>
    rw [hbefore] at hok
    exact hlocks id (by rw [hbefore]; rfl) hok
  | cleared id =>
    rw [hbefore] at hok
    have hid : (c.stage t).plan = some id := by
      rw [hbefore]
      rfl
    obtain ⟨hmine, hzero, hcurrent⟩ := hok
    refine ⟨hlocks id hid hmine, hzero, fun plan' hplan' => ?_⟩
    obtain ⟨plan, hplan, _, hsame⟩ := hplans id plan' hid hplan'
    rw [hsame, hauthority]
    exact hcurrent plan hplan

/-- A new call keeps the authorities. -/
theorem authority_start (hc : Authorities c n) (hidle : c.stage t = .away)
    (hstart : c.Starts t c') : Authorities c' n where
  distinct := fun authorityId id id' h h' =>
    hc.distinct authorityId id id' ((holds_start hstart hc).mp h) ((holds_start hstart hc).mp h')
  held := fun hpending => by
    have hsame : c'.pending = c.pending ∧ c'.authorityId = c.authorityId := by
      cases hstart <;> exact ⟨rfl, rfl⟩
    obtain ⟨id, hholds⟩ := hc.held (hsame.1 ▸ hpending)
    exact ⟨id, (holds_start hstart hc).mpr (hsame.2 ▸ hholds)⟩
  once := hc.once
  spent := fun authorityId id hholds => by
    rcases hc.spent authorityId id ((holds_start hstart hc).mp hholds) with hzero | ⟨t₁, hstage⟩
    · exact .inl hzero
    · refine .inr ⟨t₁, ?_⟩
      have hother : t₁ ≠ t := by
        rintro rfl
        rw [hidle] at hstage
        cases hstage
      rw [stage_start hstart hother]
      exact hstage
  fresh := fun id hfresh => by
    have hold := hc.fresh id
    refine ⟨?_, ?_, fun t₁ => ?_⟩
    · cases hstart <;> grind
    · cases hstart <;> grind
    · cases hstart <;> grind [PlanStage.plan]
  threads := fun t' => by
    have hok := hc.threads t'
    have hfresh := hc.fresh c.nextObject le_rfl
    by_cases hsame : t' = t
    · subst hsame
      unfold PlanBook.ThreadOk
      cases hstart with
      | call | erase =>
        simp
      | plans plan hholds hregistered =>
        simp only [PlanBook.put_stage, PlanBook.moved_stage, if_true]
        refine ⟨fun t₁ h => ?_, ⟨plan, by grind, hholds, hregistered⟩, hfresh.2.1⟩
        by_contra hne
        exact hfresh.2.2 t₁ (by simpa [hne] using h)
    · refine planOk_kept hok (stage_start hstart hsame) ?_ (fun id plan' hid hplan' => ?_)
        fun id hstage hnew => new_start hc hstart hsame hstage hnew
      · cases hstart <;> rfl
      · have hold := hc.fresh id
        cases hstart <;> grind

/-- The worker's expiry keeps the authorities: the plan goes on holding an
    authority that is no longer pending. -/
theorem authority_lapse (hc : Authorities c n) (release : Bool) :
    Authorities (c.clear release) n where
  distinct := hc.distinct
  held := fun hpending => hc.held (by grind)
  once := hc.once
  spent := hc.spent
  fresh := hc.fresh
  threads := fun t => planOk_kept (hc.threads t) rfl rfl
    (fun _ plan' _ hplan' => ⟨plan', hplan', rfl, rfl⟩)
    fun _ _ hnew => ⟨hnew.sole, hnew.plan, hnew.unexecuted⟩

/-! ## §6. Before the first acquisition. -/

/-- No authority has been handed out, and no execute is past its check. -/
def PlanBook.Unclaimed (c : PlanBook F) : Prop :=
  (∀ authorityId id, ¬ c.Holds authorityId id) ∧ ∀ t id, c.stage t ≠ .cleared id

theorem PlanBook.Unclaimed.not_overlaps (h : c.Unclaimed) : ¬ c.Overlaps := by
  rintro (⟨t, id, hcleared⟩ | ⟨id, hholds⟩)
  · exact h.2 t id hcleared
  · exact h.1 _ id hholds

/-- Without an acquisition nothing is claimed. -/
theorem unclaimed_step (hstep : c.Step t event c') (hquiet : ∀ id, event ≠ .acquired id)
    (h : c.Unclaimed) : c'.Unclaimed := by
  obtain ⟨hnone, hnot⟩ := h
  refine ⟨fun authorityId id hholds => ?_, fun t' id => ?_⟩
  · rcases holds_before hstep hholds with hbefore | hacquired
    · exact hnone authorityId id hbefore
    · exact hquiet id hacquired
  · have hnever := hnot t' id
    cases hstep with
    | @check id plan _ hplan hholds =>
      exact absurd ⟨plan, hplan, hholds, rfl⟩ (hnone plan.authorityId id)
    | _ => grind [PlanStage.Passes]

theorem unclaimed_start (hc : Authorities c n) (hstart : c.Starts t c') (h : c.Unclaimed) :
    c'.Unclaimed := by
  refine ⟨fun authorityId id hholds => ?_, fun t' id => ?_⟩
  · exact h.1 authorityId id ((holds_start hstart hc).mp hholds)
  · have hnever := h.2 t' id
    cases hstart <;> grind

end Steps

end OpenArm.Runtime
