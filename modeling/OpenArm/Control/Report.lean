/-
  OpenArm.Control.Report — how the end of a command is reported.

  A client waits for the terminal event of its command id.  Many bodies drop
  the command, and each remembers the id for its event on its own, so the
  bodies are related by `Reports`: the command is kept, or an event with its
  id and a terminal kind goes to the ring.

  Main results:
    * `call_reports` — every call but `disarm` reports the end of a command.
    * `ended_command_reported` — over runs: the call that ends a command
      reports the id its `execute` answered, unless the call is `disarm`.
    * `disarm_drops_silently` — a run whose `disarm` does not.
-/
import OpenArm.Control.Lifecycle
import OpenArm.Control.Deadline

namespace OpenArm.Control

open OpenArm.Lib

variable {F : Type} [Floating F]

/-! ## §1. Reporting an end. -/

/-- The kinds of event that end a command. -/
def EventKind.terminal : EventKind → Bool
  | .completed | .stopped | .aborted | .faulted | .estop => true
  | _ => false

namespace Controller

/-- The command and its id are those of `c`. -/
def KeepsCommand (c c' : Controller F) : Prop :=
  c'.executing = c.executing ∧ c'.commandId = c.commandId

/-- From `c` to `c'` the ring receives at most `n` events, and the command is
    kept, or dropped with a terminal event that carries its id. -/
def Reports (n : Nat) (c c' : Controller F) : Prop :=
  ∃ es : List Event, es.length ≤ n ∧ c'.events = c.events.pushAll es ∧
    (c.KeepsCommand c' ∨
      c'.executing = none ∧ ∃ e ∈ es, e.commandId = c.commandId ∧ e.kind.terminal = true)

namespace Reports

variable {c m c' : Controller F} {n k : Nat}

section

omit [Floating F]

/-- Nothing published, the command kept. -/
theorem quiet (n : Nat) (hevents : c'.events = c.events) (hkeeps : c.KeepsCommand c') :
    Reports n c c' :=
  ⟨[], Nat.zero_le _, hevents, .inl hkeeps⟩

theorem mono (h : Reports n c c') (hle : n ≤ k) : Reports k c c' := by
  obtain ⟨es, hlength, hrest⟩ := h
  exact ⟨es, hlength.trans hle, hrest⟩

theorem trans (hfirst : Reports n c m) (hsecond : Reports k m c') : Reports (n + k) c c' := by
  obtain ⟨es, hes, hevents, hcommand⟩ := hfirst
  obtain ⟨fs, hfs, hevents', hcommand'⟩ := hsecond
  refine ⟨es ++ fs, ?_, ?_, ?_⟩
  · rw [List.length_append]
    omega
  · rw [hevents', hevents, Ring.pushAll_append]
  rcases hcommand with ⟨hexec, hid⟩ | ⟨hnone, e, he, hreport⟩
  · rcases hcommand' with ⟨hexec', hid'⟩ | ⟨hnone', e, he, hreport, hkind⟩
    · exact .inl ⟨hexec'.trans hexec, hid'.trans hid⟩
    · exact .inr ⟨hnone', e, List.mem_append_right _ he, hreport.trans hid, hkind⟩
  · -- dropped in the first part, and nothing brings a command back
    refine .inr ⟨?_, e, List.mem_append_left _ he, hreport⟩
    rcases hcommand' with ⟨hexec', _⟩ | ⟨hnone', _⟩
    · exact hexec'.trans hnone
    · exact hnone'

/-- A quiet part before. -/
theorem after_quiet (h : Reports n m c') (hevents : m.events = c.events)
    (hkeeps : c.KeepsCommand m) : Reports n c c' :=
  Nat.zero_add n ▸ (quiet 0 hevents hkeeps).trans h

end

end Reports

/-- The event of a publish: on overflow a `FAULTED` event under the same id,
    and no command is left. -/
theorem publish_event (c : Controller F) (kind : EventKind) (cause : ControlStatus) (id : Nat) :
    ∃ e : Event, (c.publish kind cause id).1.events = c.events.pushEvicting e ∧
      e.commandId = id ∧
      (((c.publish kind cause id).2 = true ∧ e.kind = kind ∧
          c.KeepsCommand (c.publish kind cause id).1) ∨
        ((c.publish kind cause id).2 = false ∧ c.events.isFull = true ∧ e.kind = .faulted ∧
          (c.publish kind cause id).1.executing = none)) := by
  cases h : c.events.isFull with
  | false =>
    have hkind : (c.publishedEvent kind cause id).kind = kind := by simp [publishedEvent, h]
    simp only [publish, Ring.pushEvicting, h]
    exact ⟨_, rfl, rfl, .inl ⟨rfl, hkind, rfl, rfl⟩⟩
  | true =>
    have hkind : (c.publishedEvent kind cause id).kind = .faulted := by simp [publishedEvent, h]
    simp only [publish, Ring.pushEvicting, h]
    exact ⟨_, rfl, rfl, .inr ⟨rfl, trivial, hkind, rfl⟩⟩

/-- A publish under the current id. -/
theorem publish_reports (c : Controller F) (kind : EventKind) (cause : ControlStatus) :
    Reports 1 c (c.publish kind cause c.commandId).1 := by
  obtain ⟨e, hevents, hid, ⟨_, _, hkeeps⟩ | ⟨_, _, hkind, hnone⟩⟩ :=
    c.publish_event kind cause c.commandId
  · exact ⟨[e], Nat.le_refl _, hevents, .inl hkeeps⟩
  · exact ⟨[e], Nat.le_refl _, hevents, .inr ⟨hnone, e, List.mem_singleton_self e, hid,
      by rw [hkind]; rfl⟩⟩

/-- A command dropped first and reported then, under the id saved before. -/
theorem dropped_reports {c dropped : Controller F} (kind : EventKind)
    (cause status : ControlStatus) (hevents : dropped.events = c.events)
    (hnone : dropped.executing = none) (hkind : kind.terminal = true) :
    Reports 1 c (dropped.publishReturning kind cause c.commandId status).1 := by
  obtain ⟨e, hpush, hid, hcases⟩ := dropped.publish_event kind cause c.commandId
  refine ⟨[e], Nat.le_refl _, ?_, .inr ?_⟩
  · exact hpush.trans (by rw [hevents]; rfl)
  rcases hcases with ⟨_, hsame, hkeeps⟩ | ⟨_, _, hfault, hnone'⟩
  · exact ⟨hkeeps.1.trans hnone, e, List.mem_singleton_self e, hid, by rw [hsame]; exact hkind⟩
  · exact ⟨hnone', e, List.mem_singleton_self e, hid, by rw [hfault]; rfl⟩

theorem latchFault_reports (c : Controller F) (cause : ControlStatus) (available : Bool) :
    Reports 1 c (c.latchFault cause available).1 :=
  dropped_reports .faulted cause cause rfl rfl rfl

theorem setInterlock_reports (c : Controller F) (estop deadman : Bool) :
    Reports 1 c (c.setInterlock estop deadman).1 := by
  unfold setInterlock
  dsimp only
  split
  · refine dropped_reports (c := c) .estop .eestop .eestop ?_ ?_ rfl
    · split <;> rfl
    · split <;> rfl
  · exact .quiet 1 rfl ⟨rfl, rfl⟩

theorem completeOnContact_reports (c : Controller F) : Reports 1 c c.completeOnContact.1 :=
  dropped_reports .stopped .ok .ok rfl rfl rfl

theorem complete_reports (c : Controller F) : Reports 1 c c.complete.1 :=
  dropped_reports .completed .ok .ok rfl rfl rfl

theorem finishStop_reports (c : Controller F) (kind : StopKind) :
    Reports 1 c (c.finishStop kind c.commandId).1 := by
  unfold finishStop
  refine dropped_reports .stopped .ok .ok ?_ ?_ rfl
  · dsimp only
    split <;> rfl
  · dsimp only
    split <;> rfl

/-! ## §2. The stages of a cycle. -/

/-- Every exit of a stage reports the end of the command in at most `n`
    events, and so does what it hands on. -/
def StageReports {α : Type} (n : Nat) (c : Controller F) (next : α → Controller F) :
    Except (Exit F) α → Prop
  | .error exit => Reports n c exit.1
  | .ok a => Reports n c (next a)

theorem cycleWatchdogs_reports (c : Controller F) (previousNs : Nat) :
    StageReports 1 c (fun _ => c) (c.cycleWatchdogs previousNs) := by
  unfold cycleWatchdogs
  split
  · split
    · exact c.latchFault_reports _ _
    split
    · exact c.latchFault_reports _ _
    split
    · exact c.latchFault_reports _ _
    · exact .quiet 1 rfl ⟨rfl, rfl⟩
  · exact .quiet 1 rfl ⟨rfl, rfl⟩

theorem commandWatchdogs_reports (c : Controller F) :
    StageReports 1 c (fun _ => c) c.commandWatchdogs := by
  unfold commandWatchdogs
  split
  · exact c.latchFault_reports _ _
  split
  · exact c.latchFault_reports _ _
  split
  · exact c.latchFault_reports _ _
  · exact .quiet 1 rfl ⟨rfl, rfl⟩

theorem startQueued_reports (c : Controller F) (plan : MotionPlan F) :
    StageReports 1 c id (c.startQueued plan) := by
  unfold startQueued
  split
  · split
    · exact c.latchFault_reports _ _
    · have hpub := publish_reports { c with commandStarted := true } .started .ok
      dsimp only
      split
      · exact hpub.after_quiet rfl ⟨rfl, rfl⟩
      · exact hpub.after_quiet rfl ⟨rfl, rfl⟩
  · exact .quiet 1 rfl ⟨rfl, rfl⟩

theorem commandReference_reports (c : Controller F) :
    StageReports 1 c (fun out => out.1) c.commandReference := by
  unfold commandReference
  split
  · split
    · rename_i hwatch
      have hexit := c.commandWatchdogs_reports
      rw [hwatch] at hexit
      exact hexit
    · split
      · exact .quiet 1 rfl ⟨rfl, rfl⟩
      · rename_i plan _
        have hstart := c.startQueued_reports plan
        split
        · rename_i hqueued
          rw [hqueued] at hstart
          exact hstart
        · rename_i hqueued
          rw [hqueued] at hstart
          exact hstart
  · exact .quiet 1 rfl ⟨rfl, rfl⟩

theorem stepArm_reports (c : Controller F) (reference : Reference F) (dtS : F) (side : Side) :
    StageReports 1 c id (c.stepArm reference dtS side) := by
  unfold stepArm
  dsimp only
  split
  · exact .quiet 1 rfl ⟨rfl, rfl⟩
  · exact (latchFault_reports _ _ _).after_quiet rfl ⟨rfl, rfl⟩

theorem stepPlant_reports (c : Controller F) (L : ModelLibrary F) (reference : Reference F)
    (previousNs : Nat) : StageReports 2 c id (c.stepPlant L reference previousNs) := by
  unfold stepPlant
  dsimp only
  have hleft := (c.applySimContact L).stepArm_reports reference
    (Floating.ofNat (c.nowNs - previousNs) * Floating.lit 1.0e-9) 0
  split
  · rename_i hexit
    rw [hexit] at hleft
    exact (hleft.after_quiet rfl ⟨rfl, rfl⟩).mono (by omega)
  · rename_i left hok
    rw [hok] at hleft
    have hleft : Reports 1 c left := hleft.after_quiet rfl ⟨rfl, rfl⟩
    have hright := left.stepArm_reports reference
      (Floating.ofNat (c.nowNs - previousNs) * Floating.lit 1.0e-9) 1
    cases hstep : left.stepArm reference
        (Floating.ofNat (c.nowNs - previousNs) * Floating.lit 1.0e-9) 1 with
    | error exit =>
      rw [hstep] at hright
      exact hleft.trans hright
    | ok both =>
      rw [hstep] at hright
      exact hleft.trans hright

theorem feedbackWatchdogs_reports (c : Controller F) :
    StageReports 1 c (fun _ => c) c.feedbackWatchdogs := by
  unfold feedbackWatchdogs
  dsimp only
  split
  · exact c.latchFault_reports _ _
  split
  · exact c.latchFault_reports _ _
  split
  · exact c.latchFault_reports _ _
  · exact .quiet 1 rfl ⟨rfl, rfl⟩

theorem monitorContact_reports (c : Controller F) (L : ModelLibrary F) :
    Reports 0 c (c.monitorContact L).1 := by
  unfold monitorContact
  split
  · exact .quiet 0 rfl ⟨rfl, rfl⟩
  split
  · exact .quiet 0 rfl ⟨rfl, rfl⟩
  dsimp only
  split
  · exact .quiet 0 rfl ⟨rfl, rfl⟩
  split
  · exact .quiet 0 rfl ⟨rfl, rfl⟩
  · exact .quiet 0 rfl ⟨rfl, rfl⟩

theorem monitorKeepout_reports (c : Controller F) (L : ModelLibrary F) :
    Reports 0 c (c.monitorKeepout L).1 := by
  unfold monitorKeepout
  dsimp only
  split
  · split
    · exact .quiet 0 rfl ⟨rfl, rfl⟩
    · exact .quiet 0 rfl ⟨rfl, rfl⟩
  · split
    · exact .quiet 0 rfl ⟨rfl, rfl⟩
    · exact .quiet 0 rfl ⟨rfl, rfl⟩

theorem monitors_reports (c : Controller F) (L : ModelLibrary F) :
    StageReports 1 c id (c.monitors L) := by
  have hcontact := c.monitorContact_reports L
  have hkeepout := (c.monitorContact L).1.monitorKeepout_reports L
  unfold monitors
  split
  · dsimp only
    split
    · exact hcontact.trans (completeOnContact_reports _)
    split
    · exact (hcontact.trans hkeepout).trans (completeOnContact_reports _)
    · exact (hcontact.trans hkeepout).mono (Nat.zero_le 1)
  · exact .quiet 1 rfl ⟨rfl, rfl⟩

theorem publishSettling_reports (c : Controller F) : StageReports 1 c id c.publishSettling := by
  unfold publishSettling
  split
  · exact .quiet 1 rfl ⟨rfl, rfl⟩
  · have hpub := c.publish_reports .settling .ok
    dsimp only
    split
    · exact hpub.trans (.quiet 0 rfl ⟨rfl, rfl⟩)
    · exact hpub

omit [Floating F] in
theorem countSettle_reports (c : Controller F) : Reports 0 c c.countSettle := by
  unfold countSettle
  dsimp only
  split
  · exact .quiet 0 rfl ⟨rfl, rfl⟩
  split
  · exact .quiet 0 rfl ⟨rfl, rfl⟩
  · exact .quiet 0 rfl ⟨rfl, rfl⟩

theorem settle_reports (c : Controller F) (L : ModelLibrary F) :
    Reports 2 c (c.settle L).1 := by
  have hpub := c.publishSettling_reports
  unfold settle
  split
  · exact .quiet 2 rfl ⟨rfl, rfl⟩
  split
  · split
    · rename_i hfull
      rw [hfull] at hpub
      exact Reports.mono hpub (by omega)
    · rename_i published hok
      rw [hok] at hpub
      have hpub : Reports 1 c published := hpub
      split
      · dsimp only
        have hcounted := hpub.trans published.countSettle_reports
        split
        · exact hcounted.trans (complete_reports _)
        · exact hcounted.mono (by omega)
      · exact hpub.trans (.quiet 1 rfl ⟨rfl, rfl⟩)
  · exact .quiet 2 rfl ⟨rfl, rfl⟩

/-- **A cycle reports the end of its command.** -/
theorem runCycle_reports (c : Controller F) (L : ModelLibrary F) (previousNs : Nat) :
    Reports 8 c (c.runCycle L previousNs).1 := by
  have hwatch := c.cycleWatchdogs_reports previousNs
  have hreference := c.commandReference_reports
  unfold runCycle
  split
  · rename_i hexit
    rw [hexit] at hwatch
    exact Reports.mono hwatch (by omega)
  split
  · rename_i hexit
    rw [hexit] at hreference
    exact Reports.mono hreference (by omega)
  rename_i referenced reference hok
  rw [hok] at hreference
  have hreference : Reports 1 c referenced := hreference
  have hplant := referenced.stepPlant_reports L reference previousNs
  split
  · rename_i hexit
    rw [hexit] at hplant
    exact (hreference.trans hplant).mono (by omega)
  rename_i stepped hstepped
  rw [hstepped] at hplant
  have hstepped : Reports 3 c stepped := hreference.trans hplant
  have hfeedback := stepped.feedbackWatchdogs_reports
  split
  · rename_i hexit
    rw [hexit] at hfeedback
    exact (hstepped.trans hfeedback).mono (by omega)
  have hmonitors := stepped.monitors_reports L
  split
  · rename_i hexit
    rw [hexit] at hmonitors
    exact (hstepped.trans hmonitors).mono (by omega)
  · rename_i monitored hmonitored
    rw [hmonitored] at hmonitors
    exact ((hstepped.trans hmonitors).trans (monitored.settle_reports L)).mono (by omega)

theorem advanceEstop_reports (c : Controller F) (monotonicNs : Nat) :
    Reports 1 c (c.advanceEstop monotonicNs).1 := by
  unfold advanceEstop
  generalize (if c.nowNs ≤ monotonicNs then monotonicNs else c.nowNs) = now
  dsimp only
  split
  · have hquiet : Reports 0 c
        { c with
          estopLatched := true
          contactReport := { c.contactReport with cause := .estop, stopMonotonicNs := now }
          nowNs := now } := .quiet 0 rfl ⟨rfl, rfl⟩
    exact hquiet.trans (setInterlock_reports _ true c.deadmanActive)
  · exact .quiet 1 rfl ⟨rfl, rfl⟩

theorem advance_reports (c : Controller F) (L : ModelLibrary F) (latch : Bool)
    (monotonicNs : Nat) : Reports 8 c (c.advance L latch monotonicNs).1 := by
  unfold advance
  split
  · exact (c.advanceEstop_reports monotonicNs).mono (by omega)
  dsimp only
  split
  · exact .quiet 8 rfl ⟨rfl, rfl⟩
  split
  · exact .quiet 8 rfl ⟨rfl, rfl⟩
  split
  · exact ((c.sampledAt monotonicNs).runCycle_reports L c.nowNs).after_quiet rfl ⟨rfl, rfl⟩
  · exact .quiet 8 rfl ⟨rfl, rfl⟩

/-! ## §3. Calls while a command executes. -/

theorem planJoint_reports (c : Controller F) (request : JointMove F) :
    Reports 1 c (c.planJoint request).1 := by
  unfold planJoint
  split
  · exact .quiet 1 rfl ⟨rfl, rfl⟩
  split
  · exact .quiet 1 rfl ⟨rfl, rfl⟩
  split
  · exact c.latchFault_reports _ _
  split
  · exact .quiet 1 rfl ⟨rfl, rfl⟩
  split
  · exact .quiet 1 rfl ⟨rfl, rfl⟩
  split
  · split
    · exact .quiet 1 rfl ⟨rfl, rfl⟩
    split
    · exact .quiet 1 rfl ⟨rfl, rfl⟩
    · exact .quiet 1 rfl ⟨rfl, rfl⟩
  · exact .quiet 1 rfl ⟨rfl, rfl⟩

theorem planCartesian_reports (c : Controller F) (latch : Bool)
    (body : Except ControlStatus (MotionPlan F)) :
    Reports 1 c (c.planCartesian latch body).1 := by
  rw [planCartesian_state]
  unfold planPreconditions
  split
  · exact .quiet 1 rfl ⟨rfl, rfl⟩
  split
  · exact .quiet 1 rfl ⟨rfl, rfl⟩
  split
  · exact .quiet 1 rfl ⟨rfl, rfl⟩
  split
  · exact c.latchFault_reports _ _
  split
  · exact .quiet 1 rfl ⟨rfl, rfl⟩
  · exact .quiet 1 rfl ⟨rfl, rfl⟩

theorem heartbeat_reports (c : Controller F) (id deadline : Nat) :
    Reports 1 c (c.heartbeat id deadline).1 := by
  unfold heartbeat
  split
  · exact .quiet 1 rfl ⟨rfl, rfl⟩
  split
  · exact c.latchFault_reports _ _
  · exact .quiet 1 rfl ⟨rfl, rfl⟩

theorem stop_reports (c : Controller F) (kind : StopKind)
    (hsome : c.executing.isSome = true) : Reports 2 c (c.stop kind).1 := by
  unfold stop
  split
  · exact .quiet 2 rfl ⟨rfl, rfl⟩
  split
  · exact .quiet 2 rfl ⟨rfl, rfl⟩
  dsimp only
  rw [if_pos hsome]
  have hstopping : Reports 0 c { c with lifecycle := .stopping } := .quiet 0 rfl ⟨rfl, rfl⟩
  have haborted := hstopping.trans (publish_reports { c with lifecycle := .stopping } .aborted .ok)
  split
  · rename_i hok
    obtain ⟨_, _, _, ⟨_, _, hkeeps⟩ | ⟨hfull, _⟩⟩ :=
      publish_event { c with lifecycle := .stopping } .aborted .ok c.commandId
    · have hstopped := finishStop_reports
        (publish { c with lifecycle := .stopping } .aborted .ok c.commandId).1 kind
      rw [hkeeps.2] at hstopped
      exact haborted.trans hstopped
    · rw [hok] at hfull
      cases hfull
  · exact haborted.mono (by omega)

/-- A `disarm` accepted while a command executes drops it. -/
theorem disarm_drops (c : Controller F) (deadline : Nat) (htime : c.nowNs ≤ deadline)
    (hexec : c.lifecycle = .executing) : (c.disarm deadline).1.executing = none := by
  unfold disarm
  rw [if_neg (Nat.not_lt.mpr htime), if_neg (by simp [hexec])]
  obtain ⟨_, _, _, ⟨_, _, hexecuting, _⟩ | ⟨_, _, _, hnone⟩⟩ :=
    publish_event { c.dropCommand.materializeStop false with lifecycle := .disarmed } .disarmed
      .ok 0
  · exact hexecuting
  · exact hnone

/-- A `disarm` that drops a command publishes one event, under id 0. -/
theorem disarm_event (c : Controller F) (deadline : Nat) (hsome : c.executing ≠ none)
    (hnone : (c.disarm deadline).1.executing = none) : ∃ e : Event,
      (c.disarm deadline).1.events = c.events.pushEvicting e ∧ e.commandId = 0 ∧
        (e.kind.terminal = true ↔ c.events.isFull = true) := by
  unfold disarm at hnone ⊢
  split
  · rename_i hlate
    rw [if_pos hlate] at hnone
    exact absurd hnone hsome
  rename_i hlate
  rw [if_neg hlate] at hnone
  split
  · rename_i hstate
    rw [if_pos hstate] at hnone
    exact absurd hnone hsome
  obtain ⟨e, hevents, hid, ⟨hok, hkind, _⟩ | ⟨_, hfull, hkind, _⟩⟩ :=
    publish_event { c.dropCommand.materializeStop false with lifecycle := .disarmed } .disarmed
      .ok 0
  · refine ⟨e, hevents, hid, ?_⟩
    have hroom : c.events.isFull = false := by
      have hroom : (!c.events.isFull) = true := hok
      simpa using hroom
    rw [hkind, hroom]
    decide
  · refine ⟨e, hevents, hid, ?_⟩
    have hfull : c.events.isFull = true := hfull
    rw [hkind, hfull]
    decide

end Controller

section Calls

variable (L : ModelLibrary F) {w : World F}

/-- **Every call but `disarm` reports the end of a command**; a poll takes an
    event out of the ring and keeps the command. -/
theorem call_reports (op : Op F) (hexec : w.controller.lifecycle = .executing)
    (hsome : w.controller.executing.isSome = true) (hdisarm : ∀ deadline, op ≠ .disarm deadline)
    (hpoll : op ≠ .pollEvent) :
    Controller.Reports 8 w.controller (call L w op).1.controller := by
  have hsame : ∀ {c' : Controller F}, c' = w.controller →
      Controller.Reports 8 w.controller c' := by
    rintro _ rfl
    exact .quiet 8 rfl ⟨rfl, rfl⟩
  cases op with
  | openAndVerify => exact hsame (by simp [call, withOutput, Controller.openAndVerify, hexec])
  | snapshot => exact hsame rfl
  | kinematics side seq => exact hsame rfl
  | challenge => exact hsame (by simp [call, withOutput, Controller.challenge, hexec])
  | arm challenge => exact hsame (by simp [call, plain, Controller.armWith, hexec])
  | planJoint request => exact (w.controller.planJoint_reports request).mono (by omega)
  | planPaired request => exact (w.controller.planCartesian_reports _ _).mono (by omega)
  | planCentroid request => exact (w.controller.planCartesian_reports _ _).mono (by omega)
  | planMirrored request => exact (w.controller.planCartesian_reports _ _).mono (by omega)
  | planConverge request => exact (w.controller.planCartesian_reports _ _).mono (by omega)
  | contactReport => exact hsame rfl
  | setSimContact contact =>
    simp only [call, plain, Controller.setSimContact]
    repeat' split
    all_goals exact .quiet 8 rfl ⟨rfl, rfl⟩
  | execute plan request => exact hsame (by simp [call, executed, Controller.execute, hexec])
  | advance monotonicNs => exact w.controller.advance_reports L w.latch monotonicNs
  | setSimFault fault =>
    simp only [call, plain, Controller.setSimFault]
    repeat' split
    all_goals exact .quiet 8 rfl ⟨rfl, rfl⟩
  | setSimState state =>
    simp only [call, plain, Controller.setSimState]
    repeat' split
    all_goals exact .quiet 8 rfl ⟨rfl, rfl⟩
  | heartbeat id deadline => exact (w.controller.heartbeat_reports id deadline).mono (by omega)
  | setInterlock estop deadman =>
    exact (w.controller.setInterlock_reports estop deadman).mono (by omega)
  | setCollisionSceneRevision revision =>
    simp only [call, plain, Controller.setCollisionSceneRevision]
    repeat' split
    all_goals exact .quiet 8 rfl ⟨rfl, rfl⟩
  | stop kind => exact (w.controller.stop_reports kind hsome).mono (by omega)
  | disarm deadline => exact absurd rfl (hdisarm deadline)
  | reset request => exact hsame (by simp [call, plain, Controller.reset, hexec])
  | pollEvent => exact absurd rfl hpoll
  | estopAssert => exact hsame rfl
  | estopClear => exact hsame rfl

end Calls

/-! ## §4. Runs. -/

/-- The id of the last `execute` that answered OK. -/
def recordId (past : Option Nat) (_ : World F) (e : Label F) (_ : World F) : Option Nat :=
  match e.1, e.2.status, e.2.output with
  | .execute _ _, .ok, .commandId id => some id
  | _, _, _ => past

/-- The controller with the last command id it handed out. -/
def commanded (L : ModelLibrary F) : Lts (World F × Option Nat) (Label F) :=
  (system L).withHistory none recordId

/-- The executing command is the one the last `execute` answered. -/
structure Current (p : World F × Option Nat) : Prop where
  represents : ∃ a, Represents p.1.controller.core a
  id : p.1.controller.executing ≠ none → p.2 = some p.1.controller.commandId

omit [Floating F] in
theorem Current.lifecycle {p : World F × Option Nat} (h : Current p)
    (hsome : p.1.controller.executing ≠ none) : p.1.controller.lifecycle = .executing := by
  obtain ⟨a, hrep⟩ := h.represents
  by_contra hlife
  exact hsome (hrep.no_command hlife).1

omit [Floating F] in
/-- Any other call leaves the last id alone. -/
theorem recordId_of_not_execute {past : Option Nat} {w w' : World F} {e : Label F}
    (h : ∀ plan request, e.1 ≠ .execute plan request) : recordId past w e w' = past := by
  unfold recordId
  split
  · rename_i hop _ _
    exact absurd hop (h _ _)
  · rfl

theorem Authority.Step.same_command {id id' : Nat} {stop stop' : StopKind} {cause : Cause}
    (h : Authority.Step (.moving id stop) cause (.moving id' stop')) : id' = id := by
  cases h
  rfl

/-- A command that survives a call keeps its id. -/
theorem commandId_kept (L : ModelLibrary F) {w : World F} {a : Authority}
    (h : Represents w.controller.core a) {op : Op F} (hbefore : w.controller.executing ≠ none)
    (hafter : (call L w op).1.controller.executing ≠ none) :
    (call L w op).1.controller.commandId = w.controller.commandId := by
  obtain ⟨cause, a', hmove, hrep, _⟩ := call_refines L w op h
  have hmoving := h.eq_moving_of_isSome (Option.isSome_iff_ne_none.mpr hbefore)
  have hmoving' := hrep.eq_moving_of_isSome (Option.isSome_iff_ne_none.mpr hafter)
  subst hmoving hmoving'
  exact hmove.same_command

/-- An `execute` after which a command executes: its id was handed out, or the
    call was refused and changed nothing. -/
theorem execute_current (L : ModelLibrary F) (w : World F) (plan : MotionPlan F)
    (request : ExecuteRequest)
    (hsome : (call L w (.execute plan request)).1.controller.executing ≠ none) :
    (call L w (.execute plan request)).2 =
        ⟨.ok, .commandId (call L w (.execute plan request)).1.controller.commandId⟩ ∨
      (call L w (.execute plan request)).1.controller = w.controller ∧
        (call L w (.execute plan request)).2.status ≠ .ok := by
  have hsome : (w.controller.execute L plan request).1.executing ≠ none := hsome
  cases haccept : w.controller.acceptsExecute plan request with
  | true =>
    left
    have hok : (w.controller.execute L plan request).2 = .ok := by
      rw [w.controller.execute_of_accepts L plan request haccept] at hsome ⊢
      obtain ⟨_, _, _, ⟨hok, _⟩ | ⟨_, _, _, hnone⟩⟩ :=
        (w.controller.startCommand L plan request).publish_event
          (if (w.controller.startCommand L plan request).commandStarted then .started else .queued)
          .ok w.controller.nextCommandId
      · simp only [Controller.publishReturning, hok, if_true]
      · exact absurd hnone hsome
    simp only [call, executed, hok, if_true]
  | false =>
    right
    refine ⟨?_, execute_refused_status L w.controller plan request haccept⟩
    rcases w.controller.execute_of_refused L plan request haccept with hsame | hfault
    · exact hsame
    · rw [hfault] at hsome
      exact absurd (latchFault_no_command _ _ _) hsome

/-- **Step lemma.** -/
theorem current_step {L : ModelLibrary F} {p q : World F × Option Nat} {e : Label F}
    (hstep : (commanded L).step p e q) (h : Current p) : Current q := by
  obtain ⟨w, past⟩ := p
  obtain ⟨w', past'⟩ := q
  obtain ⟨op, response⟩ := e
  obtain ⟨hstep, hrecord⟩ := hstep
  have hrecord : past' = recordId past w (op, response) w' := hrecord
  obtain ⟨a, hrep⟩ := h.represents
  obtain ⟨_, a', _, hrep', _⟩ := step_refines L hstep hrep
  refine ⟨⟨a', hrep'⟩, fun hsome => ?_⟩
  obtain ⟨hworld, hanswer⟩ := step_eq hstep
  have hworld : w' = (call L w op).1 := hworld
  have hanswer : response = (call L w op).2 := hanswer
  show past' = some w'.controller.commandId
  rw [hrecord]
  subst hworld hanswer
  by_cases hexecute : ∃ plan request, op = .execute plan request
  · obtain ⟨plan, request, rfl⟩ := hexecute
    rcases execute_current L w plan request hsome with hanswer | ⟨hsame, hrefused⟩
    · rw [hanswer]
      rfl
    · have hkept : recordId past w (.execute plan request, (call L w (.execute plan request)).2)
          (call L w (.execute plan request)).1 = past := by
        unfold recordId
        split
        · rename_i hok _
          exact absurd hok hrefused
        · rfl
      rw [hkept, hsame]
      rw [hsame] at hsome
      exact h.id hsome
  · have hnot : ∀ plan request, op ≠ .execute plan request :=
      fun plan request heq => hexecute ⟨plan, request, heq⟩
    rw [recordId_of_not_execute hnot]
    have hbefore : w.controller.executing ≠ none := executing_call L hrep hnot hsome
    have hkept := commandId_kept L hrep hbefore hsome
    rw [hkept]
    exact h.id hbefore

theorem current_initial {L : ModelLibrary F} {p : World F × Option Nat}
    (h : (commanded L).init p) : Current p := by
  obtain ⟨⟨manifest, options, instanceId, hcreate⟩, _⟩ := h
  refine ⟨⟨.off .closed, ?_⟩, fun hsome => ?_⟩
  · rw [hcreate]
    exact .off .closed rfl rfl rfl fun _ _ => rfl
  · rw [hcreate] at hsome
    exact absurd rfl hsome

/-- **Run lemma.** -/
theorem current_run {L : ModelLibrary F} {p q : World F × Option Nat} {es : List (Label F)}
    (hinit : (commanded L).init p) (hrun : (commanded L).Run p es q) : Current q :=
  Lts.Run.invariant (I := Current) hrun (current_initial hinit) fun _ _ _ hstep h =>
    current_step hstep h

/-- The ring received a terminal event of this command. -/
def ReportsEnd (id : Nat) (before after : Controller F) : Prop :=
  ∃ e ∈ before.events.received after.events, e.commandId = id ∧ e.kind.terminal = true

omit [Floating F] in
theorem Controller.Reports.reportsEnd {c c' : Controller F} (h : Controller.Reports 8 c c')
    (hsome : c.executing ≠ none) (hnone : c'.executing = none) : ReportsEnd c.commandId c c' := by
  obtain ⟨es, hlength, hevents, ⟨hexec, _⟩ | ⟨_, hreport⟩⟩ := h
  · exact absurd (hexec.symm.trans hnone) hsome
  · unfold ReportsEnd
    rw [hevents, Ring.received_pushAll]
    · exact hreport
    · exact Nat.lt_of_le_of_lt hlength (by decide)

/-- **Which calls report the end of a command.**  In every run, the call that
    ends a command puts a terminal event with its id into the ring if and only
    if it is no `disarm`, or is one that finds the ring full while the id is
    the wrapped 0. -/
theorem ended_command_reported (L : ModelLibrary F) {p q r : World F × Option Nat}
    {es : List (Label F)} {e : Label F} (hinit : (commanded L).init p)
    (hrun : (commanded L).Run p es q) (hstep : (commanded L).step q e r)
    (hsome : q.1.controller.executing ≠ none) (hnone : r.1.controller.executing = none) :
    ∃ id, q.2 = some id ∧
      (ReportsEnd id q.1.controller r.1.controller ↔
        (∀ deadline, e.1 ≠ .disarm deadline) ∨
          id = 0 ∧ q.1.controller.events.isFull = true) := by
  have hcurrent := current_run hinit hrun
  refine ⟨q.1.controller.commandId, hcurrent.id hsome, ?_⟩
  obtain ⟨hworld, _⟩ := step_eq hstep.1
  rw [hworld] at hnone ⊢
  by_cases hdisarm : ∃ deadline, e.1 = .disarm deadline
  · obtain ⟨deadline, hop⟩ := hdisarm
    rw [hop] at hnone ⊢
    obtain ⟨event, hevents, hid, hterminal⟩ :=
      q.1.controller.disarm_event deadline hsome hnone
    have hreceived : q.1.controller.events.received
        (call L q.1 (.disarm deadline)).1.controller.events = [event] := by
      have hpush : (call L q.1 (.disarm deadline)).1.controller.events =
          q.1.controller.events.pushAll [event] := hevents
      rw [hpush, Ring.received_pushAll]
      show 1 < kEventCapacity
      decide
    unfold ReportsEnd
    rw [hreceived]
    constructor
    · rintro ⟨e', he', hreport, hkind⟩
      obtain rfl := List.mem_singleton.mp he'
      exact .inr ⟨hreport.symm.trans hid, hterminal.mp hkind⟩
    · rintro (hnot | ⟨hzero, hfull⟩)
      · exact absurd rfl (hnot deadline)
      · exact ⟨event, List.mem_singleton_self event, hid.trans hzero.symm, hterminal.mpr hfull⟩
  · have hdisarm : ∀ deadline, e.1 ≠ .disarm deadline :=
      fun deadline heq => hdisarm ⟨deadline, heq⟩
    have hpoll : e.1 ≠ .pollEvent := by
      intro heq
      rw [heq] at hnone
      have hkept : (call L q.1 .pollEvent).1.controller.executing = q.1.controller.executing := by
        simp only [call, withOutput, Controller.pollEvent]
        split <;> rfl
      exact hsome (hkept.symm.trans hnone)
    have hreports := call_reports L e.1 (hcurrent.lifecycle hsome)
      (Option.isSome_iff_ne_none.mpr hsome) hdisarm hpoll
    exact ⟨fun _ => .inl hdisarm, fun _ => hreports.reportsEnd hsome hnone⟩

/-! ## §5. Two ways to end the first command. -/

section Ends

variable (L : ModelLibrary ℚ)

/-- The standard world verifies, arms, plans and executes its first command. -/
theorem first_command : ∃ p es q, (commanded L).init p ∧ (commanded L).Run p es q ∧
    q.1.controller.executing ≠ none ∧ q.1.controller.lifecycle = .executing ∧
      q.1.controller.commandId = 1 ∧ q.1.controller.nowNs = 0 ∧
      q.1.controller.events.count = 1 := by
  obtain ⟨es, w, hrun, hready, hnext⟩ := ready_after L 0
  obtain ⟨fs, w', event, hstart, _, hw'⟩ := ready_start L hready
  obtain ⟨past, hhistory⟩ : ∃ past,
      (commanded L).Run (standardWorld ℚ, none) (es ++ fs) (w', past) :=
    (hrun.append hstart).with_history none
  refine ⟨(standardWorld ℚ, none), _, (w', past), ⟨standardWorld_initial, rfl⟩, hhistory, ?_⟩
  have hroom : w.controller.events.count < kEventCapacity := by
    rw [hready.events]
    decide
  simp only [hw']
  refine ⟨nofun, rfl, hnext, hready.now, ?_⟩
  show (w.controller.events.push event).count = 1
  rw [Ring.count_push _ _ hroom, hready.events]

end Ends

/-- A `stop` reports the end of the first command. -/
theorem ended_command_reported_stop : ∃ q e r, (commanded (F := ℚ) silentLibrary).step q e r ∧
    e.1 = .stop .controlled ∧ r.1.controller.executing = none ∧
      ∃ id, q.2 = some id ∧
        (ReportsEnd id q.1.controller r.1.controller ↔
          (∀ deadline, e.1 ≠ .disarm deadline) ∨
            id = 0 ∧ q.1.controller.events.isFull = true) := by
  obtain ⟨p, es, q, hinit, hrun, hsome, hexec, _, _, hcount⟩ := first_command silentLibrary
  have hstep : (commanded silentLibrary).step q
      (.stop .controlled, (call silentLibrary q.1 (.stop .controlled)).2)
      ((call silentLibrary q.1 (.stop .controlled)).1, _) := ⟨rfl, rfl⟩
  obtain ⟨aborted, stopped, hstop⟩ := q.1.controller.stop_of_executing hexec
    (Option.isSome_iff_ne_none.mpr hsome) (by rw [hcount]; decide)
  have hnone : (call silentLibrary q.1 (.stop .controlled)).1.controller.executing = none := by
    show (q.1.controller.stop .controlled).1.executing = none
    rw [hstop]
    rfl
  exact ⟨q, _, _, hstep, rfl, hnone,
    ended_command_reported silentLibrary hinit hrun hstep hsome hnone⟩

/-- **A `disarm` drops the first command without a word**: no event the ring
    receives carries its id. -/
theorem disarm_drops_silently : ∃ p es q e r id, (commanded (F := ℚ) silentLibrary).init p ∧
    (commanded silentLibrary).Run p es q ∧ (commanded silentLibrary).step q e r ∧
      q.1.controller.executing ≠ none ∧ q.2 = some id ∧ r.1.controller.executing = none ∧
      ¬ ReportsEnd id q.1.controller r.1.controller := by
  obtain ⟨p, es, q, hinit, hrun, hsome, hexec, hid, hnow, _⟩ := first_command silentLibrary
  have hstep : (commanded silentLibrary).step q
      (.disarm 0, (call silentLibrary q.1 (.disarm 0)).2)
      ((call silentLibrary q.1 (.disarm 0)).1, _) := ⟨rfl, rfl⟩
  have hnone : (call silentLibrary q.1 (.disarm 0)).1.controller.executing = none :=
    q.1.controller.disarm_drops 0 (Nat.le_of_eq hnow) hexec
  refine ⟨p, es, q, _, _, 1, hinit, hrun, hstep, hsome, ?_, hnone, ?_⟩
  · rw [(current_run hinit hrun).id hsome, hid]
  obtain ⟨event, hevents, hzero, _⟩ := q.1.controller.disarm_event 0 hsome hnone
  have hpush : (call silentLibrary q.1 (.disarm 0)).1.controller.events =
      q.1.controller.events.pushAll [event] := hevents
  rintro ⟨e', he', hreport, _⟩
  rw [hpush, Ring.received_pushAll _ _ (by show 1 < kEventCapacity; decide)] at he'
  rw [List.mem_singleton.mp he', hzero] at hreport
  cases hreport

end OpenArm.Control
