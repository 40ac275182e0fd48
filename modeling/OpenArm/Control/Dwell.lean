/-
  OpenArm.Control.Dwell — who writes the dwell counters of a command.

  `advance` completes a command on three registers: when the dwell began, the
  feedback sequences of its last counted generation, and how many generations
  it counted.  While the command is kept only the settle stage writes them, and
  every other path that drops the command publishes another event than
  COMPLETED.

  Main results:
    * `runCycle_rests` — a cycle reaches its settle stage, or cuts the command.
    * `call_rests`     — so does any call but `advance`.
-/
import OpenArm.Control.Report

namespace OpenArm.Control

open OpenArm.Lib

variable {F : Type} [Floating F]

namespace Controller

/-! ## §1. The registers of a dwell. -/

/-- The command with the registers its completion is decided on. -/
structure Dwell (F : Type) where
  executing : Option (MotionPlan F)
  commandStartNs : Nat
  settleStartNs : Nat
  settleFeedbackSeq : Side → Nat
  settleFeedbackIntervals : Nat
  cycleNs : Nat

/-- The dwell registers of a controller. -/
def dwell (c : Controller F) : Dwell F where
  executing := c.executing
  commandStartNs := c.commandStartNs
  settleStartNs := c.settleStartNs
  settleFeedbackSeq := c.settleFeedbackSeq
  settleFeedbackIntervals := c.settleFeedbackIntervals
  cycleNs := c.options.cycleNs

/-- The newest event of the ring. -/
def newestEvent (c : Controller F) : Option Event := c.events.toList.getLast?

/-- No command is left, and the last thing said is not COMPLETED. -/
structure Cut (c : Controller F) : Prop where
  executing : c.executing = none
  newest : ∀ event, c.newestEvent = some event → event.kind ≠ .completed

/-- From `c` to `c'` the dwell is kept, or the command is cut. -/
def Rests (c c' : Controller F) : Prop := c'.dwell = c.dwell ∨ c'.Cut

/-- **The command of `plan` ends with COMPLETED.** -/
structure Completes (c c' : Controller F) (plan : MotionPlan F) : Prop where
  executing : c.executing = some plan
  dropped : c'.executing = none
  newest : ∃ event, c'.newestEvent = some event ∧ event.kind = .completed

section

omit [Floating F]

theorem Cut.not_completes {c c' : Controller F} {plan : MotionPlan F} (h : c'.Cut) :
    ¬ Completes c c' plan := by
  intro hcompletes
  obtain ⟨event, hnewest, hkind⟩ := hcompletes.newest
  exact h.newest event hnewest hkind

theorem Rests.of_eq {c c' : Controller F} (h : c' = c) : Rests c c' := .inl (by rw [h])

/-- What follows a part that kept the dwell. -/
theorem Rests.after {c m c' : Controller F} (h : m.dwell = c.dwell) (h' : Rests m c') :
    Rests c c' := by
  rcases h' with hkept | hcut
  · exact .inl (hkept.trans h)
  · exact .inr hcut

end

/-- The event of a publish is the newest one: of its kind, or FAULTED. -/
theorem newest_publish (c : Controller F) {kind : EventKind} (cause : ControlStatus) (id : Nat)
    (hkind : kind ≠ .completed) :
    ∀ event, (c.publish kind cause id).1.newestEvent = some event → event.kind ≠ .completed := by
  obtain ⟨newest, hpush, -, hcases⟩ := c.publish_event kind cause id
  intro event hevent
  unfold newestEvent at hevent
  rw [hpush, Ring.toList_pushEvicting, List.getLast?_concat] at hevent
  obtain rfl : newest = event := Option.some.inj hevent
  rcases hcases with ⟨-, h, -⟩ | ⟨-, -, h, -⟩
  · rw [h]
    exact hkind
  · rw [h]
    decide

/-- A publish of another kind after the command was dropped. -/
theorem publish_cut {c : Controller F} {kind : EventKind} (cause : ControlStatus) (id : Nat)
    (hnone : c.executing = none) (hkind : kind ≠ .completed) :
    (c.publish kind cause id).1.Cut := by
  refine ⟨?_, c.newest_publish cause id hkind⟩
  obtain ⟨-, -, -, ⟨-, -, hkeeps⟩ | ⟨-, -, -, hdropped⟩⟩ := c.publish_event kind cause id
  · exact hkeeps.1.trans hnone
  · exact hdropped

/-- A publish while the command goes on: a full ring cuts it. -/
theorem publish_stage (c : Controller F) (kind : EventKind) (cause : ControlStatus) (id : Nat)
    (hkind : kind ≠ .completed) :
    ((c.publish kind cause id).2 = true ∧ (c.publish kind cause id).1.dwell = c.dwell) ∨
      ((c.publish kind cause id).2 = false ∧ (c.publish kind cause id).1.Cut) := by
  by_cases hfull : c.events.isFull = true
  · obtain ⟨event, heq⟩ := c.publish_of_full kind cause id hfull
    refine .inr ⟨by rw [heq], ?_, c.newest_publish cause id hkind⟩
    rw [heq]
    rfl
  · obtain ⟨event, heq⟩ := c.publish_of_room kind cause id (by simpa using hfull)
    refine .inl ⟨by rw [heq], ?_⟩
    rw [heq]
    rfl

theorem latchFault_cut (c : Controller F) (cause : ControlStatus) (available : Bool) :
    (c.latchFault cause available).1.Cut :=
  publish_cut cause c.commandId rfl (by decide)

theorem setInterlock_rests (c : Controller F) (estop deadman : Bool) :
    Rests c (c.setInterlock estop deadman).1 := by
  unfold setInterlock
  dsimp only
  split
  · refine .inr (publish_cut .eestop c.commandId ?_ (by decide))
    split <;> rfl
  · exact .inl rfl

theorem completeOnContact_cut (c : Controller F) : c.completeOnContact.1.Cut :=
  publish_cut .ok c.commandId rfl (by decide)

/-! ## §2. The stages of a cycle. -/

/-- Every exit of a stage cuts the command, and what it hands on has the dwell
    as it was. -/
def StageRests {α : Type} (c : Controller F) (next : α → Controller F) :
    Except (Exit F) α → Prop
  | .error exit => exit.1.Cut
  | .ok a => (next a).dwell = c.dwell

theorem cycleWatchdogs_rests (c : Controller F) (previousNs : Nat) :
    StageRests c (fun _ => c) (c.cycleWatchdogs previousNs) := by
  unfold cycleWatchdogs
  split
  · split
    · exact c.latchFault_cut _ _
    split
    · exact c.latchFault_cut _ _
    split
    · exact c.latchFault_cut _ _
    · rfl
  · rfl

theorem commandWatchdogs_rests (c : Controller F) :
    StageRests c (fun _ => c) c.commandWatchdogs := by
  unfold commandWatchdogs
  split
  · exact c.latchFault_cut _ _
  split
  · exact c.latchFault_cut _ _
  split
  · exact c.latchFault_cut _ _
  · rfl

theorem startQueued_rests (c : Controller F) (plan : MotionPlan F) :
    StageRests c id (c.startQueued plan) := by
  unfold startQueued
  split
  · split
    · exact c.latchFault_cut _ _
    dsimp only
    rcases publish_stage { c with commandStarted := true } .started .ok c.commandId
        (by decide) with ⟨hok, hkept⟩ | ⟨hfull, hcut⟩
    · rw [if_pos hok]
      exact hkept
    · rw [if_neg (by rw [hfull]; decide)]
      exact hcut
  · rfl

theorem commandReference_rests (c : Controller F) :
    StageRests c (fun out => out.1) c.commandReference := by
  unfold commandReference
  split
  · split
    · rename_i hwatch
      have hexit := c.commandWatchdogs_rests
      rw [hwatch] at hexit
      exact hexit
    split
    · rfl
    rename_i plan _
    have hstart := c.startQueued_rests plan
    split
    · rename_i hqueued
      rw [hqueued] at hstart
      exact hstart
    · rename_i hqueued
      rw [hqueued] at hstart
      exact hstart
  · rfl

theorem stepArm_rests (c : Controller F) (reference : Reference F) (dtS : F) (side : Side) :
    StageRests c id (c.stepArm reference dtS side) := by
  unfold stepArm
  dsimp only
  split
  · rfl
  · exact latchFault_cut _ _ _

theorem stepPlant_rests (c : Controller F) (L : ModelLibrary F) (reference : Reference F)
    (previousNs : Nat) : StageRests c id (c.stepPlant L reference previousNs) := by
  unfold stepPlant
  dsimp only
  have hleft := (c.applySimContact L).stepArm_rests reference
    (Floating.ofNat (c.nowNs - previousNs) * Floating.lit 1.0e-9) 0
  split
  · rename_i hexit
    rw [hexit] at hleft
    exact hleft
  rename_i left hok
  rw [hok] at hleft
  have hleft : left.dwell = c.dwell := hleft
  have hright := left.stepArm_rests reference
    (Floating.ofNat (c.nowNs - previousNs) * Floating.lit 1.0e-9) 1
  unfold StageRests at hright ⊢
  rw [← hleft]
  exact hright

theorem feedbackWatchdogs_rests (c : Controller F) :
    StageRests c (fun _ => c) c.feedbackWatchdogs := by
  unfold feedbackWatchdogs
  dsimp only
  split
  · exact c.latchFault_cut _ _
  split
  · exact c.latchFault_cut _ _
  split
  · exact c.latchFault_cut _ _
  · rfl

theorem dwell_monitorContact (c : Controller F) (L : ModelLibrary F) :
    (c.monitorContact L).1.dwell = c.dwell := by
  unfold monitorContact
  split
  · rfl
  split
  · rfl
  dsimp only
  split
  · rfl
  · split <;> rfl

theorem dwell_monitorKeepout (c : Controller F) (L : ModelLibrary F) :
    (c.monitorKeepout L).1.dwell = c.dwell := by
  unfold monitorKeepout
  dsimp only
  split
  · split <;> rfl
  · split <;> rfl

theorem monitors_rests (c : Controller F) (L : ModelLibrary F) :
    StageRests c id (c.monitors L) := by
  unfold monitors
  split
  · dsimp only
    split
    · exact completeOnContact_cut _
    split
    · exact completeOnContact_cut _
    · exact (dwell_monitorKeepout _ L).trans (c.dwell_monitorContact L)
  · rfl

theorem publishSettling_rests (c : Controller F) : StageRests c id c.publishSettling := by
  unfold publishSettling
  split
  · rfl
  dsimp only
  rcases c.publish_stage .settling .ok c.commandId (by decide) with
    ⟨hok, hkept⟩ | ⟨hfull, hcut⟩
  · rw [if_pos hok]
    exact hkept
  · rw [if_neg (by rw [hfull]; decide)]
    exact hcut

/-- A settling event leaves the arms and the clock. -/
theorem publishSettling_ok {c c' : Controller F} (h : c.publishSettling = .ok c') :
    c'.arm = c.arm ∧ c'.nowNs = c.nowNs := by
  unfold publishSettling at h
  split at h
  · cases h
    exact ⟨rfl, rfl⟩
  · dsimp only at h
    split at h
    · rename_i hok
      obtain ⟨event, heq⟩ := c.publish_of_room .settling .ok c.commandId
        (by simpa [publish] using hok)
      cases h
      rw [heq]
      exact ⟨rfl, rfl⟩
    · cases h

/-- **A cycle reaches its settle stage with the dwell as it was**, or it cuts
    the command. -/
theorem runCycle_rests (c : Controller F) (L : ModelLibrary F) (previousNs : Nat) :
    (c.runCycle L previousNs).1.Cut ∨
      ∃ m : Controller F, m.dwell = c.dwell ∧ m.frame = c.frame ∧ m.core = c.core ∧
        c.runCycle L previousNs = m.settle L := by
  have hwatch := c.cycleWatchdogs_rests previousNs
  have hreference := c.commandReference_rests
  have hframe := c.frame_commandReference
  unfold runCycle
  split
  · rename_i hexit
    rw [hexit] at hwatch
    exact .inl hwatch
  split
  · rename_i hexit
    rw [hexit] at hreference
    exact .inl hreference
  rename_i referenced reference hok
  rw [hok] at hreference hframe
  have hreferenced : referenced.dwell = c.dwell := hreference
  have hcore : referenced.core = c.core := c.commandReference_core _ hok
  have hplant := referenced.stepPlant_rests L reference previousNs
  have hplantFrame := referenced.frame_stepPlant L reference previousNs
  split
  · rename_i hexit
    rw [hexit] at hplant
    exact .inl hplant
  rename_i stepped hstepped
  rw [hstepped] at hplant hplantFrame
  have hfeedback := stepped.feedbackWatchdogs_rests
  split
  · rename_i hexit
    rw [hexit] at hfeedback
    exact .inl hfeedback
  have hmonitors := stepped.monitors_rests L
  have hmonitorFrame := stepped.frame_monitors L
  split
  · rename_i hexit
    rw [hexit] at hmonitors
    exact .inl hmonitors
  rename_i monitored hmonitored
  rw [hmonitored] at hmonitors hmonitorFrame
  refine .inr ⟨monitored, ?_, ?_, ?_, rfl⟩
  · exact Eq.trans hmonitors (Eq.trans hplant hreferenced)
  · exact Eq.trans hmonitorFrame (Eq.trans hplantFrame hframe)
  · exact (stepped.monitors_core monitored L hmonitored).trans
      ((stepPlant_core _ _ _ _ _ hstepped).trans hcore)

/-! ## §3. The other calls. -/

theorem planJoint_rests (c : Controller F) (request : JointMove F) :
    Rests c (c.planJoint request).1 := by
  unfold planJoint
  split
  · exact .inl rfl
  split
  · exact .inl rfl
  split
  · exact .inr (c.latchFault_cut _ _)
  split
  · exact .inl rfl
  split
  · exact .inl rfl
  split
  · split
    · exact .inl rfl
    split
    · exact .inl rfl
    · exact .inl rfl
  · exact .inl rfl

theorem planCartesian_rests (c : Controller F) (latch : Bool)
    (body : Except ControlStatus (MotionPlan F)) : Rests c (c.planCartesian latch body).1 := by
  rw [planCartesian_state]
  unfold planPreconditions
  split
  · exact .inl rfl
  split
  · exact .inl rfl
  split
  · exact .inl rfl
  split
  · exact .inr (c.latchFault_cut _ _)
  split
  · exact .inl rfl
  · exact .inl rfl

theorem heartbeat_rests (c : Controller F) (id deadline : Nat) :
    Rests c (c.heartbeat id deadline).1 := by
  unfold heartbeat
  split
  · exact .inl rfl
  split
  · exact .inr (c.latchFault_cut _ _)
  · exact .inl rfl

theorem finishStop_cut (c : Controller F) (kind : StopKind) (id : Nat) :
    (c.finishStop kind id).1.Cut := by
  unfold finishStop
  refine publish_cut .ok id ?_ (by decide)
  dsimp only
  split <;> rfl

theorem stop_rests (c : Controller F) (kind : StopKind) (hsome : c.executing.isSome = true) :
    Rests c (c.stop kind).1 := by
  unfold stop
  split
  · exact .inl rfl
  split
  · exact .inl rfl
  dsimp only
  rw [if_pos hsome]
  right
  rcases publish_stage { c with lifecycle := .stopping } .aborted .ok c.commandId
      (by decide) with ⟨hok, -⟩ | ⟨hfull, hcut⟩
  · rw [if_pos hok]
    exact finishStop_cut _ _ _
  · rw [if_neg (by rw [hfull]; decide)]
    exact hcut

theorem disarm_rests (c : Controller F) (deadline : Nat) : Rests c (c.disarm deadline).1 := by
  unfold disarm
  split
  · exact .inl rfl
  split
  · exact .inl rfl
  · exact .inr (publish_cut .ok 0 rfl (by decide))

end Controller

section Calls

variable {w : World F}

/-- **Any call but `advance`**, while a command executes. -/
theorem call_rests (L : ModelLibrary F) (op : Op F) (hexec : w.controller.lifecycle = .executing)
    (hsome : w.controller.executing.isSome = true) (hadvance : ∀ now, op ≠ .advance now) :
    Controller.Rests w.controller (call L w op).1.controller := by
  cases op with
  | openAndVerify =>
    exact .of_eq (by simp [call, withOutput, Controller.openAndVerify, hexec])
  | snapshot => exact .inl rfl
  | kinematics side seq => exact .inl rfl
  | challenge => exact .of_eq (by simp [call, withOutput, Controller.challenge, hexec])
  | arm challenge => exact .of_eq (by simp [call, plain, Controller.armWith, hexec])
  | planJoint request => exact w.controller.planJoint_rests request
  | planPaired request => exact w.controller.planCartesian_rests _ _
  | planCentroid request => exact w.controller.planCartesian_rests _ _
  | planMirrored request => exact w.controller.planCartesian_rests _ _
  | planConverge request => exact w.controller.planCartesian_rests _ _
  | contactReport => exact .inl rfl
  | setSimContact contact =>
    simp only [call, plain, Controller.setSimContact]
    repeat' split
    all_goals exact .inl rfl
  | execute plan request =>
    exact .of_eq (by simp [call, executed, Controller.execute, hexec])
  | advance now => exact absurd rfl (hadvance now)
  | setSimFault fault =>
    simp only [call, plain, Controller.setSimFault]
    repeat' split
    all_goals exact .inl rfl
  | setSimState state =>
    simp only [call, plain, Controller.setSimState]
    repeat' split
    all_goals exact .inl rfl
  | heartbeat id deadline => exact w.controller.heartbeat_rests id deadline
  | setInterlock estop deadman => exact w.controller.setInterlock_rests estop deadman
  | setCollisionSceneRevision revision =>
    simp only [call, plain, Controller.setCollisionSceneRevision]
    repeat' split
    all_goals exact .inl rfl
  | stop kind => exact w.controller.stop_rests kind hsome
  | disarm deadline => exact w.controller.disarm_rests deadline
  | reset request => exact .of_eq (by simp [call, plain, Controller.reset, hexec])
  | pollEvent =>
    simp only [call, withOutput, Controller.pollEvent]
    split
    · exact .inl rfl
    · exact .inl rfl
  | estopAssert => exact .inl rfl
  | estopClear => exact .inl rfl

end Calls

end OpenArm.Control
