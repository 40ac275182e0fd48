/-
  OpenArm.Control.CycleEffect — what one control cycle does to authority.

  Each stage of `advance` is stated once: the exits that end the cycle
  release the motors, finish the command or hold it, and a stage that lets
  the cycle go on leaves the registers alone.  `runCycle_effect` assembles
  them.
-/
import OpenArm.Control.Authority

namespace OpenArm.Control

open OpenArm.Lib

variable {F : Type} [Floating F]

namespace Controller

/-! ## §1. Watchdog stages. -/

/-- A watchdog limit of a cycle at `c.nowNs` was exceeded. -/
def WatchdogExpired (c : Controller F) (previousNs : Nat) : Prop :=
  c.options.cycleNs < c.nowNs - previousNs ∨ c.producerDeadlineNs < c.nowNs ∨
    c.commandExpiryNs < c.nowNs

/-- The exit of a watchdog fault: the motors are released, or held after a
    controlled stop. -/
def FaultExit (c : Controller F) (previousNs : Nat) (c' : Controller F) : Prop :=
  c'.Released ∨
    (c.controlledStop true = true ∧ c.WatchdogExpired previousNs ∧ Represents c'.core .holding)

theorem cycleWatchdogs_error (c : Controller F) (previousNs : Nat) (exit : Exit F)
    (h : c.cycleWatchdogs previousNs = .error exit) : c.FaultExit previousNs exit.1 := by
  unfold cycleWatchdogs at h
  split at h
  · split at h
    · cases h; exact .inl (c.latchFault_released _)
    split at h
    · cases h; exact .inl (c.latchFault_released _)
    split at h
    · rename_i hgap
      cases h
      rcases c.latchFault_represents .etimeout true with hr | ⟨_, hstop, hhold⟩
      · exact .inl hr
      · exact .inr ⟨hstop, .inl hgap, hhold⟩
    · cases h
  · cases h

theorem commandWatchdogs_error (c : Controller F) (previousNs : Nat) (exit : Exit F)
    (h : c.commandWatchdogs = .error exit) : c.FaultExit previousNs exit.1 := by
  unfold commandWatchdogs at h
  split at h
  · rename_i hproducer
    cases h
    rcases c.latchFault_represents .estale true with hr | ⟨_, hstop, hhold⟩
    · exact .inl hr
    · exact .inr ⟨hstop, .inr (.inl hproducer), hhold⟩
  split at h
  · rename_i hexpiry
    cases h
    rcases c.latchFault_represents .etimeout true with hr | ⟨_, hstop, hhold⟩
    · exact .inl hr
    · exact .inr ⟨hstop, .inr (.inr hexpiry), hhold⟩
  split at h
  · cases h; exact .inl (c.latchFault_released _)
  · cases h

/-! ## §2. The reference stage. -/

theorem startQueued_error (c : Controller F) (plan : MotionPlan F) (exit : Exit F)
    (h : c.startQueued plan = .error exit) : exit.1.Released := by
  unfold startQueued at h
  split at h
  · split at h
    · cases h; exact c.latchFault_released _
    · dsimp only at h
      split at h
      · cases h
      · rename_i hfull
        cases h
        rcases publish_core { c with commandStarted := true } .started .ok c.commandId
          with ⟨hok, _⟩ | ⟨_, hrep⟩
        · exact absurd hok hfull
        · exact ⟨_, hrep⟩
  · cases h

theorem startQueued_core (c c' : Controller F) (plan : MotionPlan F)
    (h : c.startQueued plan = .ok c') : c'.core = c.core := by
  unfold startQueued at h
  split at h
  · split at h
    · cases h
    · dsimp only at h
      split at h
      · rename_i hok
        cases h
        rcases publish_core { c with commandStarted := true } .started .ok c.commandId
          with ⟨_, hcore⟩ | ⟨hfull, _⟩
        · exact hcore
        · rw [hok] at hfull; cases hfull
      · cases h
  · cases h; rfl

theorem commandReference_error (c : Controller F) (previousNs : Nat) (exit : Exit F)
    (h : c.commandReference = .error exit) : c.FaultExit previousNs exit.1 := by
  unfold commandReference at h
  split at h
  · split at h
    · rename_i hwatch
      cases h
      exact c.commandWatchdogs_error previousNs _ hwatch
    · split at h
      · cases h
      · split at h
        · rename_i hqueued
          cases h
          exact .inl (c.startQueued_error _ _ hqueued)
        · cases h
  · cases h

theorem commandReference_core (c : Controller F) (out : Controller F × Reference F)
    (h : c.commandReference = .ok out) : out.1.core = c.core := by
  unfold commandReference at h
  split at h
  · split at h
    · cases h
    · split at h
      · cases h; rfl
      · split at h
        · cases h
        · rename_i hqueued
          cases h
          exact c.startQueued_core _ _ hqueued
  · cases h; rfl

/-! ## §3. The plant and feedback stages. -/

omit [Floating F] in
theorem core_updateArm (c : Controller F) (side : Side) (r : ArmRuntime F)
    (h : ∀ joint, r.motorEnabled joint = (c.arm side).motorEnabled joint) :
    ({ c with arm := Function.update c.arm side r } : Controller F).core = c.core := by
  simp only [core, Core.mk.injEq, true_and]
  funext s joint
  by_cases hs : s = side
  · subst hs
    rw [Function.update_self, h joint]
  · rw [Function.update_of_ne hs]

theorem stepArm_error (c : Controller F) (reference : Reference F) (dtS : F) (side : Side)
    (exit : Exit F) (h : c.stepArm reference dtS side = .error exit) : exit.1.Released := by
  unfold stepArm at h
  dsimp only at h
  split at h
  · cases h
  · cases h; exact latchFault_released _ _

theorem stepArm_core (c c' : Controller F) (reference : Reference F) (dtS : F) (side : Side)
    (h : c.stepArm reference dtS side = .ok c') : c'.core = c.core := by
  unfold stepArm at h
  dsimp only at h
  split at h
  · cases h
    exact c.core_updateArm side _ fun joint => ArmRuntime.motorEnabled_commandAndStep ..
  · cases h

theorem core_applySimContact (c : Controller F) (L : ModelLibrary F) :
    (c.applySimContact L).core = c.core := by
  have hside : ∀ side joint,
      (c.applySimContactSide L side).motorEnabled joint = (c.arm side).motorEnabled joint := by
    intro side joint
    unfold applySimContactSide
    dsimp only
    split
    · rfl
    split
    · rfl
    · split <;> rfl
  simp only [applySimContact, core, Core.mk.injEq, true_and]
  funext side joint
  exact hside side joint

theorem stepPlant_error (c : Controller F) (L : ModelLibrary F) (reference : Reference F)
    (previousNs : Nat) (exit : Exit F) (h : c.stepPlant L reference previousNs = .error exit) :
    exit.1.Released := by
  unfold stepPlant at h
  dsimp only at h
  split at h
  · rename_i hleft
    cases h
    exact stepArm_error _ _ _ _ _ hleft
  · exact stepArm_error _ _ _ _ _ h

theorem stepPlant_core (c c' : Controller F) (L : ModelLibrary F) (reference : Reference F)
    (previousNs : Nat) (h : c.stepPlant L reference previousNs = .ok c') :
    c'.core = c.core := by
  unfold stepPlant at h
  dsimp only at h
  split at h
  · cases h
  · rename_i left hleft
    calc c'.core = left.core := stepArm_core _ _ _ _ _ h
      _ = (c.applySimContact L).core := stepArm_core _ _ _ _ _ hleft
      _ = c.core := c.core_applySimContact L

theorem feedbackWatchdogs_error (c : Controller F) (exit : Exit F)
    (h : c.feedbackWatchdogs = .error exit) : exit.1.Released := by
  unfold feedbackWatchdogs at h
  dsimp only at h
  split at h
  · cases h; exact c.latchFault_released _
  split at h
  · cases h; exact c.latchFault_released _
  split at h
  · cases h; exact c.latchFault_released _
  · cases h

/-! ## §4. The monitor and settle stages. -/

theorem core_monitorKeepout (c : Controller F) (L : ModelLibrary F) :
    (c.monitorKeepout L).1.core = c.core := by
  unfold monitorKeepout
  dsimp only
  split
  · split <;> rfl
  · split <;> rfl

theorem core_monitorContact (c : Controller F) (L : ModelLibrary F) :
    (c.monitorContact L).1.core = c.core := by
  unfold monitorContact
  split
  · rfl
  split
  · rfl
  dsimp only
  split
  · rfl
  · split <;> rfl

/-- A contact or keepout stop leaves the arms armed and idle, or released on
    overflow. -/
theorem completeOnContact_represents (c : Controller F) :
    Represents c.completeOnContact.1.core .idle ∨ c.completeOnContact.1.Released := by
  have hidle : Represents
      ({ (c.materializeStop true).dropCommand with
          settleStartNs := 0
          settleFeedbackSeq := fun _ => 0
          settleFeedbackIntervals := 0
          settlingPublished := false
          lifecycle := .armedIdle } : Controller F).core .idle := .idle rfl rfl rfl
  rcases publishReturning_represents _ .stopped .ok .ok c.commandId hidle
    with ⟨_, hrep⟩ | ⟨_, hrep⟩
  · exact .inl hrep
  · exact .inr ⟨_, hrep⟩

/-- The monitors end a cycle only while a command executes. -/
theorem monitors_error (c : Controller F) (L : ModelLibrary F) (exit : Exit F)
    (h : c.monitors L = .error exit) :
    c.lifecycle = .executing ∧ (Represents exit.1.core .idle ∨ exit.1.Released) := by
  unfold monitors at h
  split at h
  · rename_i hexec
    dsimp only at h
    split at h
    · cases h; exact ⟨hexec.1, completeOnContact_represents _⟩
    split at h
    · cases h; exact ⟨hexec.1, completeOnContact_represents _⟩
    · cases h
  · cases h

theorem monitors_core (c c' : Controller F) (L : ModelLibrary F)
    (h : c.monitors L = .ok c') : c'.core = c.core := by
  unfold monitors at h
  split at h
  · dsimp only at h
    split at h
    · cases h
    split at h
    · cases h
    · cases h
      rw [core_monitorKeepout, core_monitorContact]
  · cases h; rfl

theorem publishSettling_error (c : Controller F) (exit : Exit F)
    (h : c.publishSettling = .error exit) : exit.1.Released := by
  unfold publishSettling at h
  split at h
  · cases h
  · dsimp only at h
    split at h
    · cases h
    · rename_i hfull
      cases h
      rcases c.publish_core .settling .ok c.commandId with ⟨hok, _⟩ | ⟨_, hrep⟩
      · exact absurd hok hfull
      · exact ⟨_, hrep⟩

theorem publishSettling_core (c c' : Controller F) (h : c.publishSettling = .ok c') :
    c'.core = c.core := by
  unfold publishSettling at h
  split at h
  · cases h; rfl
  · dsimp only at h
    split at h
    · rename_i hok
      cases h
      rcases c.publish_core .settling .ok c.commandId with ⟨_, hcore⟩ | ⟨hfull, _⟩
      · exact hcore
      · rw [hok] at hfull; cases hfull
    · cases h

omit [Floating F] in
theorem core_countSettle (c : Controller F) : c.countSettle.core = c.core := by
  unfold countSettle
  dsimp only
  split
  · rfl
  · split <;> rfl

theorem complete_represents (c : Controller F) :
    Represents c.complete.1.core .idle ∨ c.complete.1.Released := by
  have hidle : Represents
      ({ c.dropCommand with
          contactReport := { c.contactReport with cause := .planComplete }
          lifecycle := .armedIdle } : Controller F).core .idle := .idle rfl rfl rfl
  rcases publishReturning_represents _ .completed .ok .ok c.commandId hidle
    with ⟨_, hrep⟩ | ⟨_, hrep⟩
  · exact .inl hrep
  · exact .inr ⟨_, hrep⟩

/-- How a cycle that passed its watchdogs ends: the registers as they were,
    the motors released, or the command finished. -/
def CycleExit (c c' : Controller F) : Prop :=
  c'.core = c.core ∨ c'.Released ∨ (c.lifecycle = .executing ∧ Represents c'.core .idle)

theorem settle_effect (c : Controller F) (L : ModelLibrary F) :
    c.CycleExit (c.settle L).1 := by
  unfold settle
  split
  · exact .inl rfl
  split
  · rename_i hdue
    split
    · rename_i hfull
      exact .inr (.inl (c.publishSettling_error _ hfull))
    · rename_i c' hpub
      have hcore : c'.core = c.core := c.publishSettling_core c' hpub
      split
      · dsimp only
        split
        · rcases c'.countSettle.complete_represents with h | h
          · exact .inr (.inr ⟨hdue.1, h⟩)
          · exact .inr (.inl h)
        · exact .inl ((core_countSettle c').trans hcore)
      · exact .inl hcore
  · exact .inl rfl

/-! ## §5. The cycle. -/

omit [Floating F] in
theorem CycleExit.of_core {c m c' : Controller F} (hm : m.core = c.core)
    (h : m.CycleExit c') : c.CycleExit c' := by
  have hlife : m.lifecycle = c.lifecycle := congrArg Core.lifecycle hm
  rcases h with h | h | ⟨hexec, h⟩
  · exact .inl (h.trans hm)
  · exact .inr (.inl h)
  · exact .inr (.inr ⟨hlife ▸ hexec, h⟩)

/-- **What one control cycle does to authority**: nothing, a release, a
    finished command, or a hold after a watchdog fault. -/
theorem runCycle_effect (c : Controller F) (L : ModelLibrary F) (previousNs : Nat) :
    c.CycleExit (c.runCycle L previousNs).1 ∨
      c.FaultExit previousNs (c.runCycle L previousNs).1 := by
  unfold runCycle
  split
  · rename_i hwatch
    exact .inr (c.cycleWatchdogs_error previousNs _ hwatch)
  split
  · rename_i href
    exact .inr (c.commandReference_error previousNs _ href)
  rename_i referenced reference href
  have hreferenced : referenced.core = c.core := c.commandReference_core _ href
  split
  · rename_i hplant
    exact .inl (.inr (.inl (stepPlant_error _ _ _ _ _ hplant)))
  rename_i stepped hplant
  have hstepped : stepped.core = c.core :=
    (stepPlant_core _ _ _ _ _ hplant).trans hreferenced
  split
  · rename_i hfeedback
    exact .inl (.inr (.inl (stepped.feedbackWatchdogs_error _ hfeedback)))
  left
  refine CycleExit.of_core hstepped ?_
  split
  · rename_i hmonitor
    obtain ⟨hexec, hidle | hoff⟩ := stepped.monitors_error L _ hmonitor
    · exact .inr (.inr ⟨hexec, hidle⟩)
    · exact .inr (.inl hoff)
  · rename_i monitored hmonitor
    exact CycleExit.of_core (stepped.monitors_core monitored L hmonitor)
      (monitored.settle_effect L)

end Controller

end OpenArm.Control
