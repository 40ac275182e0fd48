/-
  OpenArm.Real.Terminals — every accepted command ends once.

  The session refines the protocol of `OpenArm.Real.Custody`: each action
  that a thread performs with what it holds is a step of that protocol.
  Two actions are not, unless the state is right for them: a plan published
  over an active command, and the worker leaving its loop with a command
  still pending or active.

  Main results:
    * `custody_step` — the refinement, one action at a time.
    * `terminal_exactly_once` — in a run without those two actions, once a
      final `close` has returned every accepted command has had its
      terminal callback exactly once and no owner is left.
    * `terminal_lost_by_close` — a command accepted just before `close` never has
      its terminal callback.
-/
import OpenArm.Real.Custody
import OpenArm.Real.Standard

namespace OpenArm.Real

open OpenArm.Lib OpenArm.Control OpenArm.Model

variable {F : Type} [Rounding F] {C : Type} [DecidableEq C] [Fintype C]

/-! ## §1. The blocks and the custody. -/

namespace Session

variable (S : Setting F) (s : Session F)

omit [Rounding F] in
@[simp] theorem transmit_custody (side : Side) (frames : List (Frame F)) :
    (s.transmit side frames).custody = s.custody := rfl

omit [Rounding F] in
@[simp] theorem closeSocket_custody (side : Side) :
    (s.closeSocket side).custody = s.custody := rfl

@[simp] theorem seedHold_custody (measured : PairQ F) :
    (s.seedHold S measured).custody = s.custody := rfl

section

omit [Rounding F]

@[simp] theorem setHealth_custody (state : AdapterState) (reason : String)
    (lifecycle : Lifecycle) : (s.setHealth state reason lifecycle).custody = s.custody := rfl

@[simp] theorem publishLifecycle_custody (lifecycle : Lifecycle) :
    (s.publishLifecycle lifecycle).custody = s.custody := rfl

@[simp] theorem burst_custody (side : Side) (ok : Motor → Bool) (frame : Motor → Frame F)
    (encodes : Motor → Bool) : (s.burst side ok frame encodes).2.custody = s.custody := rfl

@[simp] theorem sendRefresh_custody (side : Side) (ok : Motor → Bool) :
    (s.sendRefresh side ok).2.custody = s.custody := rfl

@[simp] theorem sendEnable_custody (side : Side) (ok : Motor → Bool) :
    (s.sendEnable side ok).2.custody = s.custody := rfl

end

@[simp] theorem sendHold_custody (side : Side) (gainScale : F) (ok : Motor → Bool) :
    (s.sendHold S side gainScale ok).2.custody = s.custody := rfl

@[simp] theorem plan_custody (command : SessionCommand F) (start : PairQ F) :
    (s.plan S command start).2.custody = s.custody := rfl

section

omit [Rounding F]

@[simp] theorem sendDisable_custody (side : Side) (ok : Motor → Bool) :
    (s.sendDisable side ok).custody = s.custody := by
  unfold sendDisable
  split <;> rfl

@[simp] theorem requestRegister_custody (side : Side) (motor : Motor) (register : Register)
    (value : Nat) (ok : Bool) :
    (s.requestRegister side motor register value ok).2.custody = s.custody := by
  unfold requestRegister
  split <;> rfl

@[simp] theorem readFrame_custody (side : Side) (ok : Bool) :
    (s.readFrame side ok).2.custody = s.custody := by
  unfold readFrame
  split <;> rfl

@[simp] theorem openSocket_custody (side : Side) (failure : Option SocketFailure) :
    (s.openSocket side failure).2.custody = s.custody := by
  unfold openSocket
  split <;> rfl

end

@[simp] theorem absorb_custody (command : Bool) (got : Collected F) :
    (s.absorb S command got).2.custody = s.custody := by
  unfold absorb
  simp only
  split
  · rfl
  · split
    · rfl
    · split <;> rfl

omit [Rounding F] in
@[simp] theorem stopMotion_custody : s.stopMotion.2.custody = s.custody := by
  unfold stopMotion
  split <;> rfl

omit [Rounding F] in
@[simp] theorem cancel_custody (owner : String) : (s.cancel owner).2.custody = s.custody := by
  unfold cancel
  split <;> rfl

@[simp] theorem limitScale_terminal (command : SessionCommand F) :
    (limitScale command).terminal = command.terminal := by
  unfold limitScale
  split <;> rfl

@[simp] theorem limitScale_owner (command : SessionCommand F) :
    (limitScale command).owner = command.owner := by
  unfold limitScale
  split <;> rfl

/-- The reference of a command moves, the command stays. -/
@[simp] theorem updateReference_custody : (s.updateReference S).custody = s.custody := by
  unfold updateReference
  split
  · rfl
  · rename_i a hactive
    simp only
    split
    · rfl
    · simp only [custody, hactive, Option.map_some]

omit [Rounding F] in
@[simp] theorem publishActive_custody (planned : Active F) :
    (s.publishActive planned).custody = { s.custody with active := some planned.command } := by
  unfold publishActive
  simp only
  split <;> rfl

omit [Rounding F] in
@[simp] theorem clearOwner_custody (owner reason : String) :
    (s.clearOwner owner reason).custody =
      { s.custody with owner := if s.owner = owner then "" else s.owner } := rfl

@[simp] theorem holdAfter_custody (measured : PairQ F) (a : Active F) (ending : Ending F) :
    (s.holdAfter S measured a ending).custody = { s.custody with active := none } := by
  unfold holdAfter
  simp only
  split <;> rfl

/-- A segment that goes on is a segment of the same command. -/
theorem judgeSegment_command {measured : PairQ F} {a a' : Active F}
    (h : judgeSegment S s measured a = .inl a') : a'.command = a.command := by
  unfold judgeSegment at h
  extract_lets elapsed maximumError maximumVelocity settled at h
  split at h
  · split at h
    · split at h
      · cases h
      · cases h
        rfl
    · split at h
      · cases h
      · cases h
        rfl
  · cases h
    rfl

theorem judgeGripper_command {a a' : Active F} (h : s.judgeGripper a = .inl a') :
    a'.command = a.command := by
  unfold judgeGripper at h
  extract_lets elapsed selected opening velocity allAtTarget torqueContact judged at h
  split at h
  · cases h
  · split at h
    · cases h
    · split at h
      · cases h
      · rw [← Sum.inl.inj h]

theorem judgeArms_command {measured : PairQ F} {a a' : Active F}
    (h : judgeArms S s measured a = .inl a') : a'.command = a.command := by
  unfold judgeArms at h
  extract_lets collision watched fraction pressed at h
  split at h
  · cases h
  · split at h
    · cases h
    · split at h
      · cases h
      · split at h
        · split at h
          · cases h
          · exact (judgeSegment_command S s h).trans rfl
        · exact (judgeSegment_command S s h).trans rfl

/-- **A command that goes on stays the same command.** -/
theorem judge_command {S : Setting F} {s : Session F} {measured : PairQ F} {a a' : Active F}
    (h : judge S s measured a = .inl a') : a'.command = a.command := by
  unfold judge at h
  split at h
  · cases h
  · split at h
    · exact judgeGripper_command s h
    · exact judgeArms_command S s h

end Session

/-- A plan is a plan of the command it was made for. -/
theorem planCommand_command (L : ArmModel F) (gripper : Option (GripperCalibration F))
    (raw : Side → F) (now : Nat) (start : PairQ F) (active planned : Active F)
    (h : planCommand L gripper raw now start active = .ok planned) :
    planned.command = active.command := by
  unfold planCommand at h
  simp only at h
  split at h
  · unfold planGripper at h
    split at h
    · cases h
    · simp only at h
      split at h
      · cases h
      · split at h
        · cases h
        · cases h
          rfl
  · split at h
    · cases h
    · cases h
    · cases h
      rfl

/-! ## §2. Actions that move no command. -/

/-- The actions that move a command, its owner or the end of the session, or
    that call a terminal callback. -/
def Op.custodial : Op F → Bool
  | .takePending | .publishActive _ | .monitor _ | .clearOwner _ _ | .finishBlock
  | .reserve _ | .submit _ | .release _ _ | .beginClose | .exitWorker
  | .terminalCallback _ _ => true
  | _ => false

/-- Every other action leaves the custody alone. -/
theorem perform_custody {S : Setting F} {s : Session F} {o : Op F} {choice : Choice}
    {answer : o.Reply × Session F} (h : s.perform S o choice = some answer)
    (ho : o.custodial = false) : answer.2.custody = s.custody := by
  cases o
  all_goals first
    | (cases ho; done)
    | (cases h; first | rfl | simp)
    -- a choice of the surroundings
    | (obtain ⟨ok, -, heq⟩ := Option.map_eq_some_iff.mp h
       cases heq
       first | rfl | (split <;> rfl) | simp)
    -- a lock, or the join
    | (simp only [Session.perform] at h
       split at h <;> cases h <;> rfl)

omit [Rounding F] [DecidableEq C] [Fintype C] in
/-- … and its label says nothing about a command. -/
theorem mute_act (t : Thread C) {o : Op F} (r : o.Reply) (ho : o.custodial = false) :
    Mute (.act t o r : SessionLabel F C) := by
  cases o <;> first | exact ⟨fun _ => rfl, fun _ => rfl, fun _ _ => rfl⟩ | cases ho

/-! ## §3. The session refines the protocol. -/

section Refinement

variable {S : Setting F} {s : Session F} {t : Thread C} {v : View F}

omit [DecidableEq C] [Fintype C] in
/-- An action that leaves custody and view alone. -/
theorem does_nothing {o : Op F} {choice : Choice} {answer : o.Reply × Session F}
    (hperform : s.perform S o choice = some answer) (ho : o.custodial = false)
    (hview : v.after o answer.1 = v) :
    Does (.act t o answer.1 : SessionLabel F C) s.custody v answer.2.custody
      (v.after o answer.1) := by
  rw [perform_custody hperform ho, hview]
  exact .nothing (mute_act t answer.1 ho)

section

omit [Rounding F] [DecidableEq C] [Fintype C]

/-- The worker reads the stop flag for the command it has taken. -/
theorem does_loadCancel (cancel : Bool) (hv : v.allows .loadCancel) :
    Does (.act t .loadCancel cancel : SessionLabel F C) s.custody v s.custody
      (v.after .loadCancel cancel) := by
  obtain ⟨-, command, hcarried⟩ := hv
  refine .decided (mute_act t (o := .loadCancel) cancel rfl) ?_ ?_ ?_ ?_
  · simp only [View.after, hcarried]
    split <;> rfl
  · simp only [View.after, hcarried]
    split <;> rfl
  · simp only [View.after, hcarried]
  · simp only [View.after, hcarried]

/-- A plan is refused, or the command stays in hand. -/
theorem does_plan (command : SessionCommand F) (start : PairQ F)
    (reply : Except String (Active F)) (hv : v.allows (.plan command start)) :
    Does (.act t (.plan command start) reply : SessionLabel F C) s.custody v s.custody
      (v.after (.plan command start) reply) := by
  cases reply with
  | error reason =>
    refine .decided (mute_act t (o := .plan command start) (.error reason) rfl) ?_ ?_ rfl rfl
    · rw [hv.2]
      rfl
    · rw [hv.2]
      rfl
  | ok planned => exact .nothing (mute_act t (o := .plan command start) (.ok planned) rfl)

/-- The worker leaves its loop with nothing to do. -/
theorem does_awaitWork (hv : v.allows .awaitWork)
    (hleave : s.closing = true → s.pending = none ∧ s.active = none) :
    Does (.act t .awaitWork s.closing : SessionLabel F C) s.custody v s.custody
      (v.after .awaitWork s.closing) := by
  have hmute := mute_act (C := C) t (o := (.awaitWork : Op F)) s.closing rfl
  cases hclosing : s.closing with
  | false =>
    rw [hclosing] at hmute
    exact .nothing hmute
  | true =>
    rw [hclosing] at hmute
    obtain ⟨hpending, hactive⟩ := hleave hclosing
    have hnone : s.custody.active = none := by
      show s.active.map Active.command = none
      rw [hactive]
      rfl
    exact .left hmute hv.1 hclosing hv.2.1 ⟨hpending, hnone⟩ rfl

theorem does_takePending (hv : v.allows .takePending) :
    Does (.act t .takePending s.takePending.1 : SessionLabel F C) s.custody v
      s.takePending.2.custody (v.after .takePending s.takePending.1) := by
  unfold Session.takePending
  split
  · exact .nothing ⟨fun _ => rfl, fun _ => rfl, fun _ _ => rfl⟩
  · rename_i command hpending
    exact .took command ⟨fun _ => rfl, fun _ => rfl, fun _ _ => rfl⟩ hpending hv.1 hv.2.1
      hv.2.2 rfl

end

omit [DecidableEq C] [Fintype C] in
theorem does_monitor (measured : PairQ F) (hv : v.allows (.monitor measured)) :
    Does (.act t (.monitor measured) (s.monitor S measured).1 : SessionLabel F C) s.custody v
      (s.monitor S measured).2.custody (v.after (.monitor measured) (s.monitor S measured).1) := by
  unfold Session.monitor
  split
  · exact .nothing ⟨fun _ => rfl, fun _ => rfl, fun _ _ => rfl⟩
  · rename_i a hactive
    split
    · rename_i a' hjudge
      have hsame : ({ s with active := some a' } : Session F).custody = s.custody := by
        simp only [Session.custody, hactive, Option.map_some, Session.judge_command hjudge]
      rw [hsame]
      exact .nothing ⟨fun _ => rfl, fun _ => rfl, fun _ _ => rfl⟩
    · rename_i ending hjudge
      rw [Session.holdAfter_custody]
      refine .ended a.command ending.outcome ⟨fun _ => rfl, fun _ => rfl, fun _ _ => rfl⟩ ?_
        hv.2.1 rfl
      simp only [Session.custody, hactive, Option.map_some]

omit [Rounding F] [DecidableEq C] [Fintype C] in
theorem does_finishBlock (hv : v.allows .finishBlock) :
    Does (.act t .finishBlock s.finishBlock.1 : SessionLabel F C) s.custody v
      s.finishBlock.2.custody (v.after .finishBlock s.finishBlock.1) := by
  have hmute : ∀ r, Mute (.act t .finishBlock r : SessionLabel F C) := fun _ =>
    ⟨fun _ => rfl, fun _ => rfl, fun _ _ => rfl⟩
  unfold Session.finishBlock
  split
  · rename_i a hactive
    refine .ended a.command .aborted (hmute _) ?_ hv.1 rfl
    simp only [Session.custody, hactive, Option.map_some]
  · rename_i command hactive hpending
    exact .withdrew command .aborted (hmute _) hpending hv.1 rfl
  · exact .nothing (hmute _)

omit [Rounding F] [DecidableEq C] [Fintype C] in
theorem does_reserve (owner : String) :
    Does (.act t (.reserve owner) (s.reserve owner).1 : SessionLabel F C) s.custody v
      (s.reserve owner).2.custody v := by
  have hmute : ∀ reason, Mute (.act t (.reserve owner) (false, reason) : SessionLabel F C) :=
    fun _ => ⟨fun _ => rfl, fun _ => rfl, fun _ _ => rfl⟩
  unfold Session.reserve
  split
  · exact .nothing (hmute _)
  · rename_i hclosing
    split
    · exact .nothing (hmute _)
    · split
      · exact .nothing (hmute _)
      · split
        · exact .nothing (hmute _)
        · exact .reserved owner ⟨t, "", rfl⟩ (Bool.eq_false_iff.mpr hclosing)

omit [DecidableEq C] [Fintype C] in
theorem does_submit (command : SessionCommand F) :
    Does (.act t (.submit command) (s.submit S command).1 : SessionLabel F C) s.custody v
      (s.submit S command).2.custody v := by
  have hmute : ∀ reason, Mute (.act t (.submit command) (false, reason) : SessionLabel F C) :=
    fun _ => ⟨fun _ => rfl, fun _ => rfl, fun _ _ => rfl⟩
  unfold Session.submit
  split
  · exact .nothing (hmute _)
  · rename_i hfree
    simp only [Bool.or_eq_true, not_or, Bool.not_eq_true, bne_eq_false_iff_eq,
      Option.isSome_eq_false_iff, Option.isNone_iff_eq_none] at hfree
    obtain ⟨⟨⟨hclosing, howner⟩, hpending⟩, -⟩ := hfree
    split
    · exact .nothing (hmute _)
    · split
      · exact .nothing (hmute _)
      · exact .submitted command (Session.limitScale command) ⟨t, "", rfl⟩ hclosing howner
          hpending (Session.limitScale_terminal command) (Session.limitScale_owner command)

section

omit [Rounding F] [DecidableEq C] [Fintype C]

theorem does_release (owner reason : String) :
    Does (.act t (.release owner reason) (s.release owner reason).1 : SessionLabel F C) s.custody v
      (s.release owner reason).2.custody v := by
  unfold Session.release
  split
  · rename_i hfree
    simp only [Bool.and_eq_true, beq_iff_eq] at hfree
    exact .released owner ⟨t, reason, rfl⟩ hfree.1.1
  · exact .nothing ⟨fun _ => rfl, fun _ => rfl, fun _ _ => rfl⟩

theorem does_beginClose (hv : v.allows .beginClose) :
    Does (.act t .beginClose s.beginClose.1 : SessionLabel F C) s.custody v
      s.beginClose.2.custody (v.after .beginClose s.beginClose.1) := by
  have hmute : ∀ r, Mute (.act t .beginClose r : SessionLabel F C) := fun _ =>
    ⟨fun _ => rfl, fun _ => rfl, fun _ _ => rfl⟩
  unfold Session.beginClose
  split
  · rename_i hclosing
    exact .refused (hmute _) hclosing hv.1 rfl
  · rename_i hclosing
    exact .closed (hmute _) ⟨t, rfl⟩ hv.1 (Bool.eq_false_iff.mpr hclosing) rfl

theorem does_clearOwner (owner reason : String) (hv : v.allows (.clearOwner owner reason)) :
    Does (.act t (.clearOwner owner reason) () : SessionLabel F C) s.custody v
      (s.clearOwner owner reason).custody v.free := by
  have hmute : Mute (.act t (.clearOwner owner reason) () : SessionLabel F C) :=
    ⟨fun _ => rfl, fun _ => rfl, fun _ _ => rfl⟩
  rcases hv with hcarried | ⟨command, outcome, hcarried, hnone, rfl⟩
  · refine .cleared owner hmute ?_ ?_
    · rw [hcarried]
      rfl
    · rw [hcarried]
      rfl
  · refine .cleared command.owner hmute ?_ ?_
    · rw [hcarried]
      rfl
    · rw [hcarried]
      exact hnone

theorem does_terminalCallback (callback : Callback) (result : CommandResult) (verdict : Bool)
    (hv : v.allows (.terminalCallback callback result)) :
    Does (.act t (.terminalCallback callback result) verdict : SessionLabel F C) s.custody v
      s.custody (v.after (.terminalCallback callback result) verdict) := by
  obtain ⟨command, hcarried, hterminal⟩ := hv
  refine .answered command result.outcome callback result verdict ⟨t, rfl⟩ hcarried hterminal ?_
  simp only [View.after, hcarried]

end

omit [DecidableEq C] [Fintype C] in
/-- **Refinement**: an action that a hand allows is a step of the protocol,
    unless a plan is published over an active command or the worker leaves
    with something to do. -/
theorem custody_step {o : Op F} {choice : Choice} {answer : o.Reply × Session F}
    (hperform : s.perform S o choice = some answer) (hv : v.allows o)
    (hvacant : ∀ planned, o = .publishActive planned → s.active = none)
    (hleave : o = .awaitWork → s.closing = true → s.pending = none ∧ s.active = none) :
    Does (.act t o answer.1 : SessionLabel F C) s.custody v answer.2.custody
      (v.after o answer.1) := by
  cases o with
  | loadCancel =>
    cases hperform
    exact does_loadCancel _ hv
  | plan command start =>
    cases hperform
    exact does_plan command start _ hv
  | awaitWork =>
    cases hperform
    exact does_awaitWork hv (hleave rfl)
  | takePending =>
    cases hperform
    exact does_takePending hv
  | publishActive planned =>
    cases hperform
    rw [Session.publishActive_custody]
    refine .published planned.command ⟨fun _ => rfl, fun _ => rfl, fun _ _ => rfl⟩ hv.2.1 hv.1
      hv.2.2 ?_
    show s.active.map Active.command = none
    rw [hvacant planned rfl]
    rfl
  | monitor measured =>
    cases hperform
    exact does_monitor measured hv
  | clearOwner owner reason =>
    cases hperform
    exact does_clearOwner owner reason hv
  | finishBlock =>
    cases hperform
    exact does_finishBlock hv
  | reserve owner =>
    cases hperform
    exact does_reserve owner
  | submit command =>
    cases hperform
    exact does_submit command
  | release owner reason =>
    cases hperform
    exact does_release owner reason
  | beginClose =>
    cases hperform
    exact does_beginClose hv
  | terminalCallback callback result =>
    obtain ⟨ok, -, heq⟩ := Option.map_eq_some_iff.mp hperform
    cases heq
    exact does_terminalCallback callback result ok hv
  | join =>
    simp only [Session.perform] at hperform
    split at hperform
    · rename_i hfinished
      cases hperform
      exact .joined ⟨fun _ => rfl, fun _ => rfl, fun _ _ => rfl⟩ hfinished hv.2 hv.1 rfl
    · cases hperform
  | exitWorker =>
    cases hperform
    exact .exited ⟨fun _ => rfl, fun _ => rfl, fun _ _ => rfl⟩ hv.1 hv.2.2
  | _ => exact does_nothing hperform rfl rfl

end Refinement

/-! ## §4. Runs. -/

/-- A `close` is final: it closes when no other call is under way, and no
    call comes after it. -/
def finalClose (m : Sessions F C) : SessionLabel F C → Bool
  | .act t .beginClose _ =>
    decide (∀ c, Thread.caller c ≠ t → (m.thread (.caller c)).isNone = true)
  | .start _ _ => !m.shared.closing
  | _ => true

/-- … no plan is published over an active command, and the worker leaves its
    loop with no command pending or active. -/
def orderly (m : Sessions F C) : SessionLabel F C → Bool
  | .act _ (.publishActive _) _ => m.shared.active.isNone
  | .act _ .awaitWork true => m.shared.pending.isNone && m.shared.active.isNone
  | l => finalClose m l

/-- The step is orderly. -/
abbrev Orderly (m : Sessions F C) (l : SessionLabel F C) (_ : Sessions F C) : Prop :=
  orderly m l = true

/-- Nobody holds anything. -/
def standing (t : Thread C) : View F :=
  { worker := t = .worker, carried := .empty, stage := .none }

/-- How the threads end: the worker from its exit, a call as `handEnd` says. -/
def threadEnd : Thread C → Answer → View F → Prop
  | .worker, answer, v => answer = .exited ∧ v.stage = .leaving
  | .caller c, answer, v => handEnd (standing (.caller c)) answer v

/-- The views after a run. -/
abbrev held (es : List (SessionLabel F C)) : Thread C → View F :=
  (hands F).views standing es

/-- A `close` has returned. -/
def Closed (es : List (SessionLabel F C)) : Prop := ∃ t, .finish t .closed ∈ es

/-- What holds of every orderly run. -/
structure Kept (es : List (SessionLabel F C)) (m : Sessions F C) : Prop where
  accounted : Accounted m.shared.custody (held es) es
  idle : ∀ c, m.thread (.caller c) = none → (held es (.caller c)).carried = .empty
  present : m.thread .worker = none → (held es .worker).stage = .leaving
  /-- The one `close` is the last call. -/
  closer : m.shared.closing = true → ∃ c₀,
    ((held es (.caller c₀)).stage = .closing ∨ (held es (.caller c₀)).stage = .joined) ∧
      ∀ c, c ≠ c₀ → m.thread (.caller c) = none
  notTurned : ∀ t, (held es t).stage ≠ .turnedAway
  closed : Closed es → (∃ t, (held es t).stage = .joined) ∧ ∀ c, m.thread (.caller c) = none

omit [Rounding F] [DecidableEq C] [Fintype C] in
/-- A close has returned only if its label says so. -/
theorem closed_snoc {es : List (SessionLabel F C)} {l : SessionLabel F C}
    (h : Closed (es ++ [l])) : Closed es ∨ ∃ t, l = .finish t .closed := by
  obtain ⟨t, hmem⟩ := h
  rcases List.mem_append.mp hmem with hmem | hmem
  · exact .inl ⟨t, hmem⟩
  · exact .inr ⟨t, (List.mem_singleton.mp hmem).symm⟩

omit [Rounding F] in
/-- What can change the stage of a thread. -/
theorem stage_after (v : View F) (o : Op F) (r : o.Reply) :
    (v.after o r).stage = v.stage ∨ o = .awaitWork ∨ o = .beginClose ∨ o = .join := by
  cases o with
  | awaitWork => exact .inr (.inl rfl)
  | beginClose => exact .inr (.inr (.inl rfl))
  | join => exact .inr (.inr (.inr rfl))
  | takePending => left; cases r <;> rfl
  | loadCancel => left; simp only [View.after]; split <;> rfl
  | plan command start => left; cases r <;> rfl
  | monitor measured => left; cases r <;> rfl
  | finishBlock => left; cases r <;> rfl
  | terminalCallback callback result => left; simp only [View.after]; split <;> rfl
  | _ => exact .inl rfl

omit [Rounding F] in
/-- Once it is closing, a thread goes on closing. -/
theorem closing_after {v : View F} {o : Op F} (r : o.Reply) (hv : v.allows o)
    (h : v.stage = .closing ∨ v.stage = .joined) :
    (v.after o r).stage = .joined ∨ (v.after o r).stage = v.stage := by
  have hnot : v.stage ≠ .none := by
    intro hnone
    rw [hnone] at h
    rcases h with h | h <;> cases h
  rcases stage_after v o r with hsame | rfl | rfl | rfl
  · exact .inr hsame
  · exact absurd hv.2.2 hnot
  · exact absurd hv.2 hnot
  · exact .inl rfl

section Steps

variable {S : Setting F} {es : List (SessionLabel F C)} {m m' : Sessions F C}

section

omit [Rounding F]

/-- A call starts. -/
theorem Kept.start (hK : Kept es m) {t : Thread C} {request : Request F}
    {p : Program F Answer} (idle : m.thread t = none) (hopen : m.shared.closing = false) :
    Kept (es ++ [.start t request])
      { m with thread := Function.update m.thread t (some p) } := by
  -- the worker has not left while the session is open
  have hcaller : t ≠ .worker := by
    rintro rfl
    have hclosing := (hK.accounted.leaving (hK.present idle)).1
    rw [show m.shared.custody.closing = m.shared.closing from rfl, hopen] at hclosing
    cases hclosing
  have hworker : (held es t).worker = false := by
    rw [Bool.eq_false_iff]
    exact fun h => hcaller ((hK.accounted.worker t).mp h)
  have hmute : Mute (.start t request : SessionLabel F C) :=
    ⟨fun _ => rfl, fun _ => rfl, fun _ _ => rfl⟩
  have hview : held (es ++ [.start t request]) =
      Function.update (held es) t { held es t with stage := .none } := by
    rw [held, Discipline.views_snoc]
    rfl
  refine ⟨?_, ?_, ?_, ?_, ?_, ?_⟩
  · rw [hview]
    exact hK.accounted.step (.begun hmute hworker rfl)
  · intro c hc
    dsimp only at hc
    rw [hview]
    by_cases hct : Thread.caller c = t
    · rw [hct, Function.update_self] at hc
      cases hc
    · rw [Function.update_of_ne hct] at hc ⊢
      exact hK.idle c hc
  · intro hnone
    dsimp only at hnone
    rw [Function.update_of_ne (Ne.symm hcaller)] at hnone
    rw [hview, Function.update_of_ne (Ne.symm hcaller)]
    exact hK.present hnone
  · intro hclosing
    rw [hopen] at hclosing
    cases hclosing
  · intro u
    rw [hview]
    by_cases hu : u = t
    · subst hu
      rw [Function.update_self]
      nofun
    · rw [Function.update_of_ne hu]
      exact hK.notTurned u
  · intro hclosed
    rcases closed_snoc hclosed with hclosed | ⟨u, hfinish⟩
    · obtain ⟨u, hjoined⟩ := (hK.closed hclosed).1
      have hleaving := hK.accounted.finished (hK.accounted.joined u hjoined)
      have hclosing := (hK.accounted.leaving hleaving).1
      rw [show m.shared.custody.closing = m.shared.closing from rfl, hopen] at hclosing
      cases hclosing
    · cases hfinish

/-- A step that changes no view and no custody, and leaves a call under way. -/
theorem Kept.quiet (hK : Kept es m) {l : SessionLabel F C} (hmute : Mute l)
    (hview : (hands F).seen (held es) l = held es)
    (hcustody : m'.shared.custody = m.shared.custody)
    (hthread : ∀ t, m'.thread t = none ↔ m.thread t = none)
    (hfinish : ∀ t, l ≠ .finish t .closed) : Kept (es ++ [l]) m' := by
  have hheld : held (es ++ [l]) = held es := by rw [held, Discipline.views_snoc, hview]
  have hclosing : m'.shared.closing = m.shared.closing :=
    congrArg Custody.closing hcustody
  refine ⟨?_, ?_, ?_, ?_, ?_, ?_⟩
  · rw [hheld, hcustody]
    have hdoes : Does l m.shared.custody (held es .worker) m.shared.custody (held es .worker) :=
      .nothing hmute
    have h := hK.accounted.step hdoes
    rwa [Function.update_eq_self] at h
  · intro c hc
    rw [hheld]
    exact hK.idle c ((hthread _).mp hc)
  · intro hnone
    rw [hheld]
    exact hK.present ((hthread _).mp hnone)
  · intro hclose
    rw [hclosing] at hclose
    obtain ⟨c₀, hstage, hothers⟩ := hK.closer hclose
    rw [hheld]
    exact ⟨c₀, hstage, fun c hc => (hthread _).mpr (hothers c hc)⟩
  · rw [hheld]
    exact hK.notTurned
  · intro hclosed
    rcases closed_snoc hclosed with hclosed | ⟨u, hl⟩
    · rw [hheld]
      obtain ⟨hjoined, hidle⟩ := hK.closed hclosed
      exact ⟨hjoined, fun c => (hthread _).mpr (hidle c)⟩
    · exact absurd hl (hfinish u)

/-- A call, or the worker, ends. -/
theorem Kept.finish (hK : Kept es m) {t : Thread C} {a : Answer}
    (next : m.thread t = some (.ret a)) (hend : threadEnd t a (held es t)) :
    Kept (es ++ [.finish t a]) { m with thread := Function.update m.thread t none } := by
  have hmute : Mute (.finish t a : SessionLabel F C) :=
    ⟨fun _ => rfl, fun _ => rfl, fun _ _ => rfl⟩
  have hheld : held (es ++ [.finish t a]) = held es := by
    rw [held, Discipline.views_snoc]
    rfl
  have hgone : ∀ u, m.thread u = none → Function.update m.thread t none u = none := by
    intro u hu
    by_cases hut : u = t
    · rw [hut, Function.update_self]
    · rw [Function.update_of_ne hut, hu]
  refine ⟨?_, ?_, ?_, ?_, ?_, ?_⟩
  · rw [hheld]
    have hdoes : Does (.finish t a) m.shared.custody (held es t) m.shared.custody (held es t) :=
      .nothing hmute
    have h := hK.accounted.step hdoes
    rwa [Function.update_eq_self] at h
  · intro c hc
    dsimp only at hc
    rw [hheld]
    by_cases hct : Thread.caller c = t
    · subst hct
      exact hend.2.1
    · rw [Function.update_of_ne hct] at hc
      exact hK.idle c hc
  · intro hnone
    dsimp only at hnone
    rw [hheld]
    by_cases hwt : Thread.worker = t
    · subst hwt
      exact hend.2
    · rw [Function.update_of_ne hwt] at hnone
      exact hK.present hnone
  · intro hclosing
    obtain ⟨c₀, hstage, hothers⟩ := hK.closer hclosing
    rw [hheld]
    exact ⟨c₀, hstage, fun c hc => hgone _ (hothers c hc)⟩
  · rw [hheld]
    exact hK.notTurned
  · intro hclosed
    rw [hheld]
    rcases closed_snoc hclosed with hclosed | ⟨u, hl⟩
    · obtain ⟨hjoined, hidle⟩ := hK.closed hclosed
      exact ⟨hjoined, fun c => hgone _ (hidle c)⟩
    · cases hl
      cases t with
      | worker => cases hend.1
      | caller c =>
        have hjoined : (held es (.caller c)).stage = .joined :=
          (hend.2.2.2 rfl).resolve_right (hK.notTurned _)
        refine ⟨⟨_, hjoined⟩, fun c' => ?_⟩
        have hleaving := hK.accounted.finished (hK.accounted.joined _ hjoined)
        obtain ⟨c₀, -, hothers⟩ := hK.closer (hK.accounted.leaving hleaving).1
        -- the closing call is this one
        have hsame : c = c₀ := by
          by_contra hne
          rw [hothers c hne] at next
          cases next
        by_cases hc' : c' = c
        · rw [hc']
          exact Function.update_self ..
        · exact hgone _ (hothers c' (hsame ▸ hc'))

end

/-- An action. -/
theorem Kept.act (hK : Kept es m) {t : Thread C} {o : Op F} {choice : Choice} {r : o.Reply}
    {s' : Session F} {p : Program F Answer} (next : m.thread t ≠ none)
    (performed : m.shared.perform S o choice = some (r, s')) (hv : (held es t).allows o)
    (hG : Orderly m (.act t o r) { m with shared := s' }) :
    Kept (es ++ [.act t o r])
      { shared := s', thread := Function.update m.thread t (some p) } := by
  -- the action is a step of the custody protocol
  have hdoes : Does (.act t o r : SessionLabel F C) m.shared.custody (held es t) s'.custody
      ((held es t).after o r) := by
    refine custody_step performed hv ?_ ?_
    · rintro planned rfl
      exact Option.isNone_iff_eq_none.mp hG
    · rintro rfl hclosing
      cases performed
      simpa [Orderly, orderly, hclosing] using hG
  have hview : held (es ++ [.act t o r]) =
      Function.update (held es) t ((held es t).after o r) := by
    rw [held, Discipline.views_snoc]
    rfl
  -- the thread runs before and after, so no other becomes idle
  have hne : ∀ u, m.thread u = none → u ≠ t := by
    rintro u hu rfl
    exact next hu
  have hnone : ∀ u, Function.update m.thread t (some p) u = none → u ≠ t ∧ m.thread u = none := by
    intro u hu
    by_cases hut : u = t
    · rw [hut, Function.update_self] at hu
      cases hu
    · rw [Function.update_of_ne hut] at hu
      exact ⟨hut, hu⟩
  have hstill : ∀ u, m.thread u = none → Function.update m.thread t (some p) u = none := by
    intro u hu
    rw [Function.update_of_ne (hne u hu)]
    exact hu
  refine ⟨?_, ?_, ?_, ?_, ?_, ?_⟩
  · rw [hview]
    exact hK.accounted.step hdoes
  · intro c hc
    obtain ⟨hct, hc⟩ := hnone _ hc
    rw [hview, Function.update_of_ne hct]
    exact hK.idle c hc
  · intro hw
    obtain ⟨hwt, hw⟩ := hnone _ hw
    rw [hview, Function.update_of_ne hwt]
    exact hK.present hw
  · intro hclosing
    -- closing already: the closer is the same call, at most one step further
    rcases hdoes.closing with hsame | ⟨u, hl⟩
    · obtain ⟨c₀, hstage, hothers⟩ := hK.closer (hsame.symm.trans hclosing)
      refine ⟨c₀, ?_, fun c hc => hstill _ (hothers c hc)⟩
      rw [hview]
      by_cases hct : Thread.caller c₀ = t
      · subst hct
        rw [Function.update_self]
        rcases closing_after r hv hstage with hjoined | hkept
        · exact .inr hjoined
        · rw [hkept]
          exact hstage
      · rw [Function.update_of_ne hct]
        exact hstage
    · -- this action is the close
      cases hl
      obtain ⟨hcaller, -⟩ := hv
      cases t with
      | worker =>
        rw [(hK.accounted.worker .worker).mpr rfl] at hcaller
        cases hcaller
      | caller c₀ =>
        have hothers := of_decide_eq_true hG
        refine ⟨c₀, .inl ?_, fun c hc => hstill _ (Option.isNone_iff_eq_none.mp
          (hothers c fun h => hc (Thread.caller.inj h)))⟩
        rw [hview, Function.update_self]
        rfl
  · intro u
    rw [hview]
    by_cases hut : u = t
    · subst hut
      rw [Function.update_self]
      intro hturned
      rcases stage_after (held es u) o r with hsame | rfl | rfl | rfl
      · exact hK.notTurned u (hsame.symm.trans hturned)
      · cases r with
        | false => exact hK.notTurned u hturned
        | true => cases hturned
      · -- a second close would be the call that is closing
        cases r with
        | false => cases hturned
        | true =>
          have hclosing : m.shared.closing = true := by
            have hreply : m.shared.beginClose.1 = true :=
              congrArg Prod.fst (Option.some.inj performed)
            unfold Session.beginClose at hreply
            split at hreply
            · assumption
            · cases hreply
          obtain ⟨c₀, hstage, hothers⟩ := hK.closer hclosing
          cases u with
          | worker =>
            have hcaller := hv.1
            rw [(hK.accounted.worker .worker).mpr rfl] at hcaller
            cases hcaller
          | caller c =>
            by_cases hc : c = c₀
            · subst hc
              rw [hv.2] at hstage
              rcases hstage with h | h <;> cases h
            · exact next (hothers c hc)
      · cases hturned
    · rw [Function.update_of_ne hut]
      exact hK.notTurned u
  · intro hclosed
    rcases closed_snoc hclosed with hclosed | ⟨u, hl⟩
    · obtain ⟨⟨u, hjoined⟩, hidle⟩ := hK.closed hclosed
      refine ⟨⟨u, ?_⟩, fun c => hstill _ (hidle c)⟩
      rw [hview]
      by_cases hut : u = t
      · subst hut
        rw [Function.update_self]
        rcases closing_after r hv (.inr hjoined) with h | h
        · exact h
        · exact h.trans hjoined
      · rw [Function.update_of_ne hut]
        exact hjoined
    · cases hl

omit [Rounding F] in
/-- What happens on its own moves no command. -/
theorem occurs_custody {s s' : Session F} {e : Event F} (h : s.occurs e = some s') :
    s'.custody = s.custody := by
  cases e with
  | serve side received reply =>
    simp only [Session.occurs, Session.serve] at h
    split at h
    · cases h
    · cases h
      rfl
  | _ => cases h; rfl

/-- **Every orderly step keeps the account of the session.** -/
theorem Kept.step (hK : Kept es m) {l : SessionLabel F C}
    (hstep : (sessionMachine C S).Step m l m') (hG : Orderly m l m')
    (hobeys : Obeys (hands F) threadEnd (held es) m.thread)
    (hallowed : ∀ t o r, l = .act t o r → (held es t).allows o) : Kept (es ++ [l]) m' := by
  cases hstep with
  | start t request idle => exact hK.start idle (Bool.not_eq_true' _ ▸ hG)
  | act choice next performed =>
    exact hK.act (by rw [next]; nofun) performed (hallowed _ _ _ rfl) hG
  | enter next =>
    refine hK.quiet ⟨fun _ => rfl, fun _ => rfl, fun _ _ => rfl⟩ rfl rfl ?_ (by nofun)
    rename_i t p rest
    intro u
    by_cases hut : u = t
    · subst hut
      simp [next]
    · simp [Function.update_of_ne hut]
  | finish next => exact hK.finish next (hobeys _ _ next)
  | event e occurred =>
    exact hK.quiet ⟨fun _ => rfl, fun _ => rfl, fun _ _ => rfl⟩ rfl (occurs_custody occurred)
      (fun _ => Iff.rfl) (by nofun)

end Steps

/-- The session before its first call. -/
theorem Kept.init {S : Setting F} {m : Sessions F C} (h : (sessionSystem C S).init m) :
    Kept [] m := by
  obtain ⟨⟨gripper, now, bus, hs⟩, hworker, hcallers⟩ := h
  have hcustody : m.shared.custody =
      { pending := none, active := none, owner := "", closing := false
        workerFinished := false } := by
    rw [hs]
    rfl
  refine ⟨⟨?_, ?_, ?_, ?_, ?_, ?_⟩, fun _ _ => rfl, ?_, ?_, fun _ => nofun, ?_⟩
  · intro t
    show decide (t = .worker) = true ↔ t = .worker
    rw [decide_eq_true_iff]
  · intro k
    have hnone : inHands k (held ([] : List (SessionLabel F C))) = 0 :=
      Finset.sum_eq_zero fun _ _ => rfl
    rw [hcustody, hnone]
    rfl
  · intro howner
    rw [hcustody] at howner
    exact absurd rfl howner
  · nofun
  · intro hfinished
    rw [hcustody] at hfinished
    cases hfinished
  · intro t
    nofun
  · intro hnone
    rw [hworker] at hnone
    cases hnone
  · intro hclosing
    rw [show m.shared.closing = m.shared.custody.closing from rfl, hcustody] at hclosing
    cases hclosing
  · rintro ⟨t, hmem⟩
    cases hmem

/-- **Every orderly run keeps the account of the session.** -/
theorem kept_run (S : Setting F) {m m' : Sessions F C} {es : List (SessionLabel F C)}
    (hinit : (sessionSystem C S).init m)
    (hrun : ((sessionSystem C S).restrict Orderly).Run m es m') : Kept es m' := by
  have hobeys : Obeys (hands F) threadEnd standing m.thread := by
    intro t p hp
    cases t with
    | worker =>
      rw [hinit.2.1, Option.some.injEq] at hp
      subst hp
      refine conforms_bind.mpr ⟨⟨rfl, rfl, rfl⟩, ?_⟩
      rintro _ v rfl
      exact ⟨rfl, rfl⟩
    | caller c =>
      rw [hinit.2.2 c] at hp
      cases hp
  refine (Machine.run_conforms (I := Kept) (conforms_loopBody S) ?_ ?_ (Kept.init hinit)
    hobeys hrun).1
  · intro es m t request m' hK hG idle
    have hopen : m.shared.closing = false := by simpa [Orderly, orderly, finalClose] using hG
    cases t with
    | worker =>
      have hclosing := (hK.accounted.leaving (hK.present idle)).1
      rw [show m.shared.custody.closing = m.shared.closing from rfl, hopen] at hclosing
      cases hclosing
    | caller c =>
      have hworker : (held es (.caller c)).worker = false := by
        rw [Bool.eq_false_iff]
        intro h
        cases (hK.accounted.worker (.caller c)).mp h
      have h := conforms_handler S request { held es (.caller c) with stage := .none } hworker
        (hK.idle c idle) rfl
      exact h.mono fun a v hv => ⟨hv.1.trans hworker, hv.2⟩
  · intro es m l m' hstep hG hK hobeys hallowed
    refine ⟨?_, hK.step hstep hG hobeys hallowed⟩
    rintro t o r rfl
    cases hstep with
    | act choice next performed =>
      cases o with
      | plan command start =>
        intro planned hplanned
        subst hplanned
        have hplan := congrArg Prod.fst (Option.some.inj performed)
        exact planCommand_command _ _ _ _ _ _ _ hplan
      | _ => trivial

/-- **Exactly one terminal result.**  In an orderly run, once the final
    `close` has returned and every reservation was used or released, every
    terminal callback has been called as often as a command with it was
    accepted, and no owner is left. -/
theorem terminal_exactly_once (S : Setting F) {m m' : Sessions F C}
    {es : List (SessionLabel F C)} (hinit : (sessionSystem C S).init m)
    (hrun : ((sessionSystem C S).restrict Orderly).Run m es m')
    (hclosed : ∃ t, .finish t .closed ∈ es)
    (hused : ∀ owner, unusedReservation owner es = false) :
    (∀ callback, invoked callback es = accepted callback es) ∧ m'.shared.owner = "" := by
  have hK := kept_run S hinit hrun
  obtain ⟨⟨t, hjoined⟩, hidle⟩ := hK.closed hclosed
  obtain ⟨hcount, howner⟩ := hK.accounted.settled hjoined fun c => hK.idle c (hidle c)
  refine ⟨fun callback => (hcount callback).symm, ?_⟩
  by_contra hne
  have hstands := howner hne
  rw [hused] at hstands
  cases hstands

/-! ## §5. A command that ends, and one that does not. -/

/-- This thread's `close` returns. -/
def closes (t : Thread C) : SessionLabel F C → Bool
  | .finish u .closed => decide (u = t)
  | _ => false

/-- No other owner is reserved. -/
def reservesOnly (owner : String) : SessionLabel F C → Bool
  | .act _ (.reserve name) _ => name == owner
  | _ => true

omit [Rounding F] [DecidableEq C] [Fintype C] in
/-- An owner that was never reserved leaves no reservation. -/
theorem unusedReservation_of_reservesOnly {es : List (SessionLabel F C)} {owner name : String}
    (h : es.all (reservesOnly name) = true) (hne : owner ≠ name) :
    unusedReservation owner es = false := by
  induction es using List.reverseRecOn with
  | nil => rfl
  | append_singleton es l ih =>
    simp only [List.all_append, List.all_cons, List.all_nil, Bool.and_true,
      Bool.and_eq_true] at h
    rw [unusedReservation_snoc, ih h.1]
    have hl := h.2
    unfold reservation
    split
    · rename_i reserved reason
      have hsame : reserved = name := by simpa [reservesOnly] using hl
      have hother : reserved ≠ owner := by
        intro h
        exact hne (h.symm.trans hsame)
      rw [if_neg hother]
    · split <;> rfl
    · split <;> rfl
    · rfl

omit [Rounding F] [Fintype C] in
theorem closed_of_closes {es : List (SessionLabel F C)} {t : Thread C}
    (h : es.any (closes t) = true) : ∃ u, Label.finish u Answer.closed ∈ es := by
  obtain ⟨l, hmem, hl⟩ := List.any_eq_true.mp h
  unfold closes at hl
  split at hl
  · exact ⟨_, hmem⟩
  · cases hl

/-- An operator submits a command while the first call is still connecting. -/
def submitting : List SessionMove :=
  connecting 0 ++ call 1 (.reserve "operator") 2 ++
    call 1 (.submit (jointCommand "operator" (1 / 10))) 2

/-- The gain ramp of that first call fails, and so does the confirmation that
    the motors are disabled. -/
def connectFails : List SessionMove :=
  [.go (.caller 0) 9 mute, go (.caller 0) 13, .event (.tick 3000000000), go (.caller 0) 7]

/-- `close`, whose `join` waits for these steps of the worker. -/
def closing (worker : Nat) : List SessionMove :=
  [.start (.caller 0) .close, go (.caller 0) 4, go .worker worker, go (.caller 0) 9]

/-- The operator stops the command and the worker ends it before the close. -/
def stoppedRun : List SessionMove :=
  submitting ++ call 1 .stopMotion 2 ++ [go .worker 13] ++ connectFails ++ closing 12

theorem terminal_exactly_once_stopped :
    ∃ es m', ((sessionSystem (Fin 2) leftArm).restrict Orderly).Run passive es m' ∧
      accepted 7 es = 1 ∧ (∀ callback, invoked callback es = accepted callback es) ∧
      m'.shared.owner = "" := by
  have hrun : ((sessionMachine (Fin 2) leftArm).schedule passive stoppedRun).any (fun q =>
      q.1.countP (accepts 7) == 1 && q.1.any (closes (.caller 0)) &&
        q.1.all (reservesOnly "operator") && !unusedReservation "operator" q.1) = true := by
    decide +kernel
  have hpasses : (sessionMachine (Fin 2) leftArm).schedulePasses orderly passive stoppedRun =
      true := by decide +kernel
  obtain ⟨⟨es, m'⟩, hschedule, hfacts⟩ := (Option.any_eq_true _ _).mp hrun
  simp only [Bool.and_eq_true, beq_iff_eq, Bool.not_eq_true'] at hfacts
  obtain ⟨⟨⟨haccepted, hcloses⟩, honly⟩, hunused⟩ := hfacts
  have hpassing := Machine.schedule_passing hschedule hpasses
  have hall := terminal_exactly_once leftArm passive_init hpassing (closed_of_closes hcloses)
    fun owner => by
      by_cases howner : owner = "operator"
      · rw [howner, hunused]
      · exact unusedReservation_of_reservesOnly honly howner
  exact ⟨es, m', hpassing, haccepted, hall⟩

/-- The worker first runs when the session is closing. -/
def abandonedRun : List SessionMove := submitting ++ connectFails ++ closing 7

/-- **A lost terminal result**: a command is accepted, the final `close`
    returns, and neither was its terminal callback called nor its owner
    cleared. -/
theorem terminal_lost_by_close :
    ∃ es m', ((sessionSystem (Fin 2) leftArm).restrict
        fun m l _ => finalClose m l = true).Run passive es m' ∧
      (∃ t, .finish t .closed ∈ es) ∧ (∀ owner, unusedReservation owner es = false) ∧
      accepted 7 es = 1 ∧ invoked 7 es = 0 ∧ m'.shared.owner = "operator" := by
  have hrun : ((sessionMachine (Fin 2) leftArm).schedule passive abandonedRun).any (fun q =>
      q.1.countP (accepts 7) == 1 && q.1.countP (invokes 7) == 0 &&
        q.2.shared.owner == "operator" && q.1.any (closes (.caller 0)) &&
        q.1.all (reservesOnly "operator") && !unusedReservation "operator" q.1) = true := by
    decide +kernel
  have hpasses : (sessionMachine (Fin 2) leftArm).schedulePasses finalClose passive
      abandonedRun = true := by decide +kernel
  obtain ⟨⟨es, m'⟩, hschedule, hfacts⟩ := (Option.any_eq_true _ _).mp hrun
  simp only [Bool.and_eq_true, beq_iff_eq, Bool.not_eq_true'] at hfacts
  obtain ⟨⟨⟨⟨⟨haccepted, hinvoked⟩, howner⟩, hcloses⟩, honly⟩, hunused⟩ := hfacts
  refine ⟨es, m', Machine.schedule_passing hschedule hpasses, closed_of_closes hcloses, ?_,
    haccepted, hinvoked, howner⟩
  intro owner
  by_cases hne : owner = "operator"
  · rw [hne, hunused]
  · exact unusedReservation_of_reservesOnly honly hne

end OpenArm.Real
