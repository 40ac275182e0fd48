/-
  OpenArm.Real.Clearance — how far the live clearance of a physical command
  falls.

  A cycle is stopped when its clearance is worse than that of the cycle
  before by more than `kClearanceWorseningEpsilon`; otherwise its clearance
  becomes what the next cycle is compared with, across the waypoints of a
  route as well.  Nothing remembers the start pose.

  Main results:
    * `live_clearance_bound` — the bound, in runs that lose clearance below
                               the floor only from the start's level or above.
    * `drift_run`            — a run that loses half the epsilon in every cycle.
    * `perform_watches`      — the actions of the session as cycles of the
                               monitor.
-/
import OpenArm.Real.Standard
import OpenArm.Control.Keepout

namespace OpenArm.Real

open OpenArm.Lib OpenArm.Control OpenArm.Model

variable {F : Type} [Rounding F]

/-! ## §1. The monitor as a system. -/

/-- The clearance `monitor_and_complete` measures of a non-contact command, and
    `plan_command` of its start pose. -/
def Setting.clearance (S : Setting F) (measured : PairQ F) : F :=
  (collisionState S.model measured interventionClearanceM .none).minimum

/-- Between two cycles a command keeps what its monitor compares with. -/
structure Tracks (a a' : Active F) : Prop where
  previousClearance : a'.previousClearance = a.previousClearance
  contactPolicy : a'.contactPolicy = a.contactPolicy
  gripperMotion : a'.gripperMotion = a.gripperMotion

omit [Rounding F] in
theorem Tracks.refl (a : Active F) : Tracks a a := ⟨rfl, rfl, rfl⟩

/-- The live monitor of a command that moves the arms without contact, from
    cycle to cycle; a cycle may measure any pose of finite clearance. -/
def watch (S : Setting F) : Lts (Active F) F where
  init a := a.contactPolicy = false ∧ a.gripperMotion = false
  step a sample a' := ∃ (s : Session F) (measured : PairQ F) (now : Active F),
    Tracks a now ∧ s.judge S measured now = .inl a' ∧ sample = S.clearance measured ∧
      Floating.isFinite sample = true

/-- A clear verdict means clearance at the intervention floor. -/
def GateHolds (L : ArmModel F) : Prop :=
  ∀ q, (L.collision q interventionClearanceM .none).ok = true →
    (L.collision q interventionClearanceM .none).report.clear = true →
      interventionClearanceM ≤ (L.collision q interventionClearanceM .none).report.minimumClearanceM

/-! ## §2. A cycle that goes on. -/

theorem collisionState_floor {L : ArmModel F} (hgate : GateHolds L) {q : PairQ F}
    (h : (collisionState L q interventionClearanceM .none).clear = true) :
    interventionClearanceM ≤ (collisionState L q interventionClearanceM .none).minimum := by
  unfold collisionState at h ⊢
  split at h
  · simp only [Bool.and_eq_true] at h
    exact hgate q h.1 h.2
  · cases h

/-- The segment part leaves what the monitor compares with. -/
theorem judgeSegment_tracks {S : Setting F} {s : Session F} {measured : PairQ F}
    {a a' : Active F} (h : s.judgeSegment S measured a = .inl a') : Tracks a a' := by
  unfold Session.judgeSegment at h
  dsimp only at h
  split at h
  · -- settled at the last waypoint, at an earlier one, timed out, or still settling
    repeat' split at h
    all_goals first | (cases h; exact ⟨rfl, rfl, rfl⟩) | cases h
  · cases h
    exact .refl a

/-- What a cycle that goes on leaves, and why it went on. -/
theorem judge_inl {S : Setting F} {s : Session F} {measured : PairQ F} {a a' : Active F}
    (hcontact : a.contactPolicy = false) (hgripper : a.gripperMotion = false)
    (h : s.judge S measured a = .inl a') :
    a'.previousClearance = S.clearance measured ∧ a'.contactPolicy = false ∧
      a'.gripperMotion = false ∧
      ((collisionState S.model measured interventionClearanceM .none).clear = true ∨
        Floating.isFinite a.previousClearance = false ∨
          ¬ S.clearance measured < a.previousClearance - kClearanceWorseningEpsilon) := by
  unfold Session.judge at h
  rw [hgripper] at h
  split at h
  · cases h
  unfold Session.judgeArms at h
  simp only [hcontact, Bool.false_eq_true, if_false, Bool.false_and] at h
  split at h
  · cases h
  split at h
  · cases h
  rename_i hkept
  have htracks := judgeSegment_tracks h
  refine ⟨htracks.previousClearance, htracks.contactPolicy,
    htracks.gripperMotion.trans hgripper, ?_⟩
  simp only [Bool.and_eq_true, Bool.not_eq_true', decide_eq_true_eq, not_and] at hkept
  by_cases hclear : (collisionState S.model measured interventionClearanceM .none).clear = true
  · exact .inl hclear
  by_cases hfinite : Floating.isFinite a.previousClearance = true
  · exact .inr (.inr (hkept ⟨by simpa using hclear, hfinite⟩))
  · exact .inr (.inl (by simpa using hfinite))

/-- A cycle in the middle of a segment goes on when its clearance is not worse
    by more than the epsilon, or is clear. -/
theorem judge_goes_on {S : Setting F} {s : Session F} {measured : PairQ F} {a : Active F}
    (hcancel : s.cancelRequested = false)
    (hcontact : a.contactPolicy = false) (hgripper : a.gripperMotion = false)
    (hevaluated :
      (collisionState S.model measured interventionClearanceM .none).evaluated = true)
    (hkept : (collisionState S.model measured interventionClearanceM .none).clear = true ∨
      ¬ S.clearance measured < a.previousClearance - kClearanceWorseningEpsilon)
    (hrunning : ¬ a.segmentDurationS ≤ seconds (s.now - a.segmentStarted)) :
    s.judge S measured a = .inl { a with previousClearance := S.clearance measured } := by
  have hstay : ¬ ((!(collisionState S.model measured interventionClearanceM .none).clear &&
      Floating.isFinite a.previousClearance &&
        decide ((collisionState S.model measured interventionClearanceM .none).minimum <
          a.previousClearance - kClearanceWorseningEpsilon)) = true) := by
    intro hstop
    simp only [Bool.and_eq_true, Bool.not_eq_true', decide_eq_true_eq] at hstop
    rcases hkept with hclear | hworse
    · rw [hclear] at hstop
      exact Bool.noConfusion hstop.1.1
    · exact hworse hstop.2
  unfold Session.judge
  rw [if_neg (by rw [hcancel]; decide), if_neg (by rw [hgripper]; decide)]
  unfold Session.judgeArms
  simp only [hcontact, Bool.false_eq_true, if_false, Bool.false_and]
  rw [hevaluated, if_neg (by decide), if_neg hstay]
  unfold Session.judgeSegment
  rw [if_neg hrunning, ← hcontact]
  rfl

/-- What a planned command is compared with at first: its start pose. -/
theorem planned_start {S : Setting F} {s s' : Session F} {command : SessionCommand F}
    {start : PairQ F} {planned : Active F} (h : s.plan S command start = (.ok planned, s'))
    (hkind : command.kind ≠ .gripper) (hcontact : command.kind ≠ .convergeTcp) :
    planned.previousClearance = S.clearance start ∧ planned.contactPolicy = false ∧
      planned.gripperMotion = false := by
  have hplanned := congrArg Prod.fst h
  have hpolicy : decide (command.kind = .convergeTcp) = false := decide_eq_false hcontact
  unfold Session.plan planCommand Active.begin at hplanned
  simp only [hpolicy, hkind, if_false, Bool.false_eq_true] at hplanned
  split at hplanned
  · cases hplanned
  · cases hplanned
  · cases hplanned
    exact ⟨rfl, rfl, rfl⟩

/-- The monitor keeps a non-contact command a non-contact one. -/
theorem watch_flags {S : Setting F} {a a' : Active F} {samples : List F} (hinit : (watch S).init a)
    (hrun : (watch S).Run a samples a') : a'.contactPolicy = false ∧ a'.gripperMotion = false := by
  refine hrun.invariant (I := (watch S).init) hinit ?_
  rintro a sample a' ⟨s, measured, now, htracks, hjudge, -⟩ hflags
  obtain ⟨-, hcontact, hgripper, -⟩ := judge_inl (htracks.contactPolicy.trans hflags.1)
    (htracks.gripperMotion.trans hflags.2) hjudge
  exact ⟨hcontact, hgripper⟩

section Order

variable [FloatOrder F]

/-- **A cycle of the monitor is a step of the guard**, the one the virtual
    controller applies. -/
theorem watch_guard {S : Setting F} (hgate : GateHolds S.model) {a a' : Active F} {sample : F}
    (hflags : a.contactPolicy = false ∧ a.gripperMotion = false)
    (hfinite : Floating.isFinite a.previousClearance = true) (h : (watch S).step a sample a') :
    (Controller.keepoutGuard F).system.step a.previousClearance sample a'.previousClearance := by
  obtain ⟨s, measured, now, htracks, hjudge, rfl, hsample⟩ := h
  obtain ⟨hseen, -, -, hwhy⟩ := judge_inl (htracks.contactPolicy.trans hflags.1)
    (htracks.gripperMotion.trans hflags.2) hjudge
  rw [htracks.previousClearance] at hwhy
  refine ⟨?_, hseen⟩
  rcases hwhy with hclear | hprevious | hkept
  · exact .inl (collisionState_floor hgate hclear)
  · rw [hfinite] at hprevious
    cases hprevious
  · have hself : a.previousClearance ≤ a.previousClearance :=
      FloatOrder.le_self_of_isFinite hfinite
    have hslack : a.previousClearance - kClearanceWorseningEpsilon ≤
        a.previousClearance - kClearanceWorseningEpsilon :=
      FloatOrder.sub_le_sub Controller.isFinite_epsilon hself
    exact .inr (Floating.le_of_not_lt (FloatOrder.le_self_of_isFinite hsample) hslack hkept)

/-- A run of the monitor under the condition is a steady run of the guard. -/
theorem watch_run_guard {S : Setting F} (hgate : GateHolds S.model) {a a' : Active F} {start : F}
    {samples : List F} (hinit : (watch S).init a)
    (hfinite : Floating.isFinite a.previousClearance = true)
    (hrun : ((watch S).restrict fun now sample _ =>
      Controller.LosesOnce start now.previousClearance sample).Run a samples a') :
    ((Controller.keepoutGuard F).system.restrict fun previous sample _ =>
      (Controller.keepoutGuard F).Steady (Floating.min interventionClearanceM start)
        previous sample).Run a.previousClearance samples a'.previousClearance ∧
      Floating.isFinite a'.previousClearance = true := by
  induction hrun with
  | nil => exact ⟨.nil _, hfinite⟩
  | snoc front last ih =>
    obtain ⟨hguard, hnow⟩ := ih
    have hflags := watch_flags hinit front.of_restrict
    have hstep := watch_guard hgate hflags hnow last.1
    refine ⟨hguard.snoc ⟨hstep, last.2⟩, ?_⟩
    obtain ⟨s, measured, now, -, -, -, hsample⟩ := last.1
    rw [hstep.2]
    exact hsample

/-- **Live physical clearance.**  In every run whose cycles all meet the
    condition, a clearance below the floor has lost at most the epsilon from
    the floor and from the start pose, whatever waypoints it passed. -/
theorem live_clearance_bound {S : Setting F} (hgate : GateHolds S.model) {s s' : Session F}
    {command : SessionCommand F} {start : PairQ F} {planned a a' : Active F} {samples : List F}
    (hplan : s.plan S command start = (.ok planned, s')) (hkind : command.kind ≠ .gripper)
    (hcontact : command.kind ≠ .convergeTcp) (hpublished : Tracks planned a)
    (hfinite : Floating.isFinite (S.clearance start) = true)
    (hrun : ((watch S).restrict fun now sample _ =>
      Controller.LosesOnce (S.clearance start) now.previousClearance sample).Run a samples a') :
    ∀ sample ∈ samples, sample < interventionClearanceM →
      Floating.min interventionClearanceM (S.clearance start) - kClearanceWorseningEpsilon ≤
        sample := by
  have hstart := planned_start hplan hkind hcontact
  have hself : S.clearance start ≤ S.clearance start := FloatOrder.le_self_of_isFinite hfinite
  have hprevious : a.previousClearance = S.clearance start :=
    hpublished.previousClearance.trans hstart.1
  obtain ⟨hguard, -⟩ := watch_run_guard hgate
    ⟨hpublished.contactPolicy.trans hstart.2.1, hpublished.gripperMotion.trans hstart.2.2⟩
    (by rw [hprevious]; exact hfinite) hrun
  rw [hprevious] at hguard
  obtain ⟨hall, -⟩ := Guard.run_steady Controller.keepoutGuard_lawful
    (Floating.min_le_left Controller.intervention_self)
    (Floating.min_le_right Controller.intervention_self hself) hguard
  intro sample hsample hbelow
  rcases hall sample hsample with hfloor | hbound
  · exact absurd hfloor (Floating.not_le_of_lt hbelow)
  · exact hbound

end Order

/-! ## §3. The monitor in a running session. -/

/-- What the monitor compares with, of the active command. -/
def Session.tracked (s : Session F) : Option (F × Bool × Bool) :=
  s.active.map fun a => (a.previousClearance, a.contactPolicy, a.gripperMotion)

omit [Rounding F] in
theorem tracks_of_tracked {s s' : Session F} {a : Active F} (ha : s.active = some a)
    (h : s'.tracked = s.tracked) : ∃ a', s'.active = some a' ∧ Tracks a a' := by
  unfold Session.tracked at h
  rw [ha] at h
  obtain ⟨a', ha', heq⟩ := Option.map_eq_some_iff.mp h
  simp only [Prod.mk.injEq] at heq
  exact ⟨a', ha', heq.1, heq.2.1, heq.2.2⟩

/-- The actions that publish, judge or drop the active command. -/
def Op.judges : Op F → Bool
  | .publishActive _ | .monitor _ | .finishBlock => true
  | _ => false

namespace Session

variable (S : Setting F) (s : Session F)

section

omit [Rounding F]

@[simp] theorem sendDisable_tracked (side : Side) (ok : Motor → Bool) :
    (s.sendDisable side ok).tracked = s.tracked := by
  unfold sendDisable
  split <;> rfl

@[simp] theorem requestRegister_tracked (side : Side) (motor : Motor) (register : Register)
    (value : Nat) (ok : Bool) :
    (s.requestRegister side motor register value ok).2.tracked = s.tracked := by
  unfold requestRegister
  split <;> rfl

@[simp] theorem readFrame_tracked (side : Side) (ok : Bool) :
    (s.readFrame side ok).2.tracked = s.tracked := by
  unfold readFrame
  split <;> rfl

@[simp] theorem openSocket_tracked (side : Side) (failure : Option SocketFailure) :
    (s.openSocket side failure).2.tracked = s.tracked := by
  unfold openSocket
  split <;> rfl

end

@[simp] theorem absorb_tracked (command : Bool) (got : Collected F) :
    (s.absorb S command got).2.tracked = s.tracked := by
  unfold absorb
  simp only
  split
  · rfl
  · split
    · rfl
    · split <;> rfl

section

omit [Rounding F]

@[simp] theorem takePending_tracked : s.takePending.2.tracked = s.tracked := by
  unfold takePending
  split <;> rfl

@[simp] theorem stopMotion_tracked : s.stopMotion.2.tracked = s.tracked := by
  unfold stopMotion
  split <;> rfl

@[simp] theorem reserve_tracked (owner : String) : (s.reserve owner).2.tracked = s.tracked := by
  unfold reserve
  repeat' split
  all_goals rfl

end

@[simp] theorem submit_tracked (command : SessionCommand F) :
    (s.submit S command).2.tracked = s.tracked := by
  unfold submit
  repeat' split
  all_goals rfl

section

omit [Rounding F]

@[simp] theorem cancel_tracked (owner : String) : (s.cancel owner).2.tracked = s.tracked := by
  unfold cancel
  split <;> rfl

@[simp] theorem release_tracked (owner reason : String) :
    (s.release owner reason).2.tracked = s.tracked := by
  unfold release
  split <;> rfl

@[simp] theorem beginClose_tracked : s.beginClose.2.tracked = s.tracked := by
  unfold beginClose
  split <;> rfl

end

/-- The reference of a command moves, what the monitor compares with stays. -/
@[simp] theorem updateReference_tracked : (s.updateReference S).tracked = s.tracked := by
  unfold updateReference
  split
  · rfl
  · rename_i a hactive
    simp only
    split
    · rfl
    · simp only [tracked, hactive, Option.map_some]

end Session

theorem perform_tracked {S : Setting F} {s : Session F} {o : Op F} {choice : Choice}
    {answer : o.Reply × Session F} (h : s.perform S o choice = some answer)
    (ho : o.judges = false) : answer.2.tracked = s.tracked := by
  cases o
  all_goals first
    | (cases ho; done)
    | (cases h; first | rfl | simp)
    -- a choice of the surroundings
    | (obtain ⟨ok, -, heq⟩ := Option.map_eq_some_iff.mp h
       cases heq
       first | rfl | (split <;> rfl) | simp)
    -- a lock, or the join
    | (simp only [Session.perform] at h
       split at h <;> cases h <;> rfl)

/-- **The monitor in a running session.**  An action leaves what the monitor
    compares with, is the monitor's verdict, or drops the command. -/
theorem perform_watches {S : Setting F} {s : Session F} {o : Op F} {choice : Choice}
    {answer : o.Reply × Session F} {a : Active F} (h : s.perform S o choice = some answer)
    (ha : s.active = some a) (hpublish : ∀ planned, o ≠ .publishActive planned) :
    answer.2.active = none ∨ ∃ a', answer.2.active = some a' ∧
      (Tracks a a' ∨ ∃ measured, o = .monitor measured ∧ s.judge S measured a = .inl a') := by
  by_cases ho : o.judges = false
  · obtain ⟨a', ha', htracks⟩ := tracks_of_tracked ha (perform_tracked h ho)
    exact .inr ⟨a', ha', .inl htracks⟩
  · cases o with
    | publishActive planned => exact absurd rfl (hpublish planned)
    | monitor measured =>
      cases h
      show (s.monitor S measured).2.active = none ∨ _
      unfold Session.monitor
      rw [ha]
      dsimp only
      split
      · rename_i a' hjudge
        exact .inr ⟨a', rfl, .inr ⟨measured, rfl, hjudge⟩⟩
      · left
        unfold Session.holdAfter
        dsimp only
        split <;> rfl
    | finishBlock =>
      cases h
      left
      show s.finishBlock.2.active = none
      unfold Session.finishBlock
      rw [ha]
    | _ => exact absurd rfl ho

/-! ## §4. A drift that passes. -/

/-- Two arms that are 30 mm apart, and a metre less for every radian of the left
    arm's second joint. -/
def closingModel : ArmModel ℚ :=
  { freeModel with
    collision := fun q threshold _ =>
      { ok := true
        report :=
          { (Controller.keepoutZero : KeepoutStatus ℚ) with
            clear := decide (threshold ≤ 3 / 100 - q 0 1)
            minimumClearanceM := 3 / 100 - q 0 1 } } }

def closingArm : Setting ℚ := { leftArm with model := closingModel }

theorem closingModel_gate : GateHolds closingModel := by
  intro q _ hclear
  exact of_decide_eq_true hclear

/-- The session that plans, and what it plans: the left arm's first joint to
    0.1 rad. -/
def closingSession : Session ℚ :=
  .initial closingArm none 1 fun _ => { outbound := [], inbound := [], enabled := fun _ => false }

def closingCommand : SessionCommand ℚ := jointCommand "portal" (1 / 10)

/-- The measured pose whose clearance is `n` half micrometres under the floor. -/
def driftPose (n : Nat) : PairQ ℚ :=
  Function.update zeroQ 0 (Function.update (zeroQ 0) 1 (2 / 100 + (n : ℚ) / 2000000))

theorem drift_clearance (n : Nat) :
    closingArm.clearance (driftPose n) = 1 / 100 - (n : ℚ) / 2000000 := by
  show (3 : ℚ) / 100 - (2 / 100 + (n : ℚ) / 2000000) = _
  ring

/-- A planned command whose first segment has just started. -/
structure Fresh (a : Active ℚ) : Prop where
  flags : a.contactPolicy = false ∧ a.gripperMotion = false
  started : a.segmentStarted = closingSession.now
  duration : 0 < a.segmentDurationS

/-- The plan succeeds. -/
theorem closing_plan : ∃ planned s',
    closingSession.plan closingArm closingCommand zeroQ = (.ok planned, s') ∧ Fresh planned ∧
      planned.previousClearance = 3 / 100 := by
  have hcheck : (match (closingSession.plan closingArm closingCommand zeroQ).1 with
      | .ok a => decide (a.contactPolicy = false ∧ a.gripperMotion = false ∧
          a.segmentStarted = closingSession.now ∧ 0 < a.segmentDurationS ∧
            a.previousClearance = 3 / 100)
      | .error _ => false) = true := by decide +kernel
  generalize hplan : closingSession.plan closingArm closingCommand zeroQ = out at hcheck
  obtain ⟨planned | planned, s'⟩ := out
  · cases hcheck
  · obtain ⟨hcontact, hgripper, hstarted, hduration, hprevious⟩ := of_decide_eq_true hcheck
    exact ⟨planned, s', rfl, ⟨⟨hcontact, hgripper⟩, hstarted, hduration⟩, hprevious⟩

/-- A cycle that measures the `n`-th pose passes after one that lost at most the
    epsilon less, or when the pose is at the floor. -/
theorem drift_step {a : Active ℚ} {n : Nat} (h : Fresh a)
    (hpass : n = 0 ∨ a.previousClearance ≤ 1 / 100 - (n : ℚ) / 2000000 + 1 / 1000000) :
    ∃ a', (watch closingArm).step a (1 / 100 - (n : ℚ) / 2000000) a' ∧ Fresh a' ∧
      a'.previousClearance = 1 / 100 - (n : ℚ) / 2000000 := by
  have hread := drift_clearance n
  have hkept : (collisionState closingModel (driftPose n) interventionClearanceM .none).clear =
      true ∨ ¬ closingArm.clearance (driftPose n) <
        a.previousClearance - kClearanceWorseningEpsilon := by
    rcases hpass with rfl | hkept
    · left
      decide +kernel
    · right
      rw [hread]
      norm_num [kClearanceWorseningEpsilon, Floating.lit]
      linarith
  have hrunning : ¬ a.segmentDurationS ≤ seconds (closingSession.now - a.segmentStarted) := by
    rw [h.started, Nat.sub_self]
    have hzero : (seconds 0 : ℚ) = 0 := by decide +kernel
    rw [hzero]
    exact not_le.mpr h.duration
  have hjudge := judge_goes_on (S := closingArm) (s := closingSession) rfl h.flags.1 h.flags.2 rfl
    hkept hrunning
  refine ⟨_, ⟨closingSession, driftPose n, a, .refl a, hjudge, hread.symm, rfl⟩,
    ⟨h.flags, h.started, h.duration⟩, hread⟩

/-- **The live monitor ratchets**: from the floor on, for every number of cycles
    there is a run that loses half a micrometre in each. -/
theorem drift_run {a : Active ℚ} (h : Fresh a) (n : Nat) : ∃ samples a',
    (watch closingArm).Run a samples a' ∧ Fresh a' ∧
      a'.previousClearance = 1 / 100 - (n : ℚ) / 2000000 ∧ a'.previousClearance ∈ samples := by
  induction n with
  | zero =>
    obtain ⟨a', hstep, hfresh, hlast⟩ := drift_step (n := 0) h (.inl rfl)
    refine ⟨[_], a', .single hstep, hfresh, hlast, ?_⟩
    rw [hlast]
    exact List.mem_singleton_self _
  | succ n ih =>
    obtain ⟨samples, a', hrun, hfresh, hlast, -⟩ := ih
    obtain ⟨a'', hstep, hfresh', hlast'⟩ := drift_step (n := n + 1) hfresh
      (.inr (by rw [hlast]; push_cast; linarith))
    refine ⟨samples ++ [_], a'', hrun.snoc hstep, hfresh', hlast', ?_⟩
    rw [hlast']
    exact List.mem_append_right _ (List.mem_singleton_self _)

/-- Four cycles, and a clearance below the bound. -/
theorem live_clearance_ratchets :
    ¬ ∀ (S : Setting ℚ) (s s' : Session ℚ) (command : SessionCommand ℚ) (start : PairQ ℚ)
        (planned a a' : Active ℚ) (samples : List ℚ), GateHolds S.model →
      s.plan S command start = (.ok planned, s') → command.kind ≠ .gripper →
        command.kind ≠ .convergeTcp → Tracks planned a →
          Floating.isFinite (S.clearance start) = true → (watch S).Run a samples a' →
            ∀ sample ∈ samples, sample < interventionClearanceM →
              Floating.min interventionClearanceM (S.clearance start) -
                kClearanceWorseningEpsilon ≤ sample := by
  intro h
  obtain ⟨planned, s', hplan, hfresh, -⟩ := closing_plan
  obtain ⟨samples, a', hrun, -, hlast, hmem⟩ := drift_run hfresh 3
  have hstart : closingArm.clearance zeroQ = 3 / 100 := by decide +kernel
  have hbound := h closingArm closingSession s' closingCommand zeroQ planned planned a' samples
    closingModel_gate hplan (by decide) (by decide) (.refl planned) rfl hrun _ hmem
  rw [hlast, hstart] at hbound
  norm_num [interventionClearanceM, kClearanceWorseningEpsilon, Floating.lit,
    Floating.min] at hbound

/-- Two cycles of it, which the bound allows. -/
theorem live_clearance_bound_once : ∃ (planned a' : Active ℚ) (s' : Session ℚ) (sample : ℚ),
    closingSession.plan closingArm closingCommand zeroQ = (.ok planned, s') ∧
      (watch closingArm).Run planned [1 / 100 - ((0 : ℕ) : ℚ) / 2000000, sample] a' ∧
        sample < interventionClearanceM ∧
          Floating.min interventionClearanceM (closingArm.clearance zeroQ) -
            kClearanceWorseningEpsilon ≤ sample := by
  obtain ⟨planned, s', hplan, hfresh, -⟩ := closing_plan
  obtain ⟨a, hfirst, hfresh', hlast⟩ := drift_step (n := 0) hfresh (.inl rfl)
  obtain ⟨a', hsecond, -, -⟩ := drift_step (n := 1) hfresh'
    (.inr (by rw [hlast]; push_cast; linarith))
  have hstart : closingArm.clearance zeroQ = 3 / 100 := by decide +kernel
  have hfloor : Controller.LosesOnce (closingArm.clearance zeroQ) planned.previousClearance
      (1 / 100 - ((0 : ℕ) : ℚ) / 2000000) := by
    refine .inl ?_
    norm_num [interventionClearanceM, Floating.lit]
  have honce : Controller.LosesOnce (closingArm.clearance zeroQ) a.previousClearance
      (1 / 100 - ((1 : ℕ) : ℚ) / 2000000) := by
    refine .inr (.inr ?_)
    rw [hlast, hstart]
    norm_num [interventionClearanceM, Floating.lit, Floating.min]
  have hbelow : (1 : ℚ) / 100 - ((1 : ℕ) : ℚ) / 2000000 < interventionClearanceM := by
    norm_num [interventionClearanceM, Floating.lit]
  exact ⟨planned, a', s', _, hplan, (Lts.Run.single hfirst).snoc hsecond, hbelow,
    live_clearance_bound closingModel_gate hplan (by decide) (by decide) (.refl planned) rfl
      ((Lts.Run.single (T := (watch closingArm).restrict fun now sample _ =>
        Controller.LosesOnce (closingArm.clearance zeroQ) now.previousClearance sample)
          ⟨hfirst, hfloor⟩).snoc ⟨hsecond, honce⟩) _
      (List.mem_append_right _ (List.mem_singleton_self _)) hbelow⟩

end OpenArm.Real
