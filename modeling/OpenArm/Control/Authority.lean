/-
  OpenArm.Control.Authority — what the controller may do with the motors.

  The abstract machine: authority over the motors is OFF (in one of four
  resting states), IDLE (armed, no command), MOVING one command, or HOLDING
  after a watchdog fault.  `Represents` reads a controller's registers as an
  authority; this file proves, for the private bodies every operation is made
  of, which authority they leave.

  Main results:
    * `publishReturning_represents` — a publish keeps the authority, or on
      overflow releases it to FAULT.
    * `latchFault_represents` — a latched fault releases the motors, unless it
      is a controlled stop, which holds.
    * `setInterlock_represents` — an active interlock releases them.
-/
import OpenArm.Control.Operations

namespace OpenArm.Control

open OpenArm.Lib

variable {F : Type} [Floating F]

/-! ## §1. The abstract machine. -/

/-- The lifecycle states that hold no authority over the motors. -/
inductive Rest where
  | closed | disarmed | fault | estop
  deriving DecidableEq, Repr

/-- The lifecycle register of a resting state. -/
def Rest.lifecycle : Rest → Lifecycle
  | .closed => .closed
  | .disarmed => .disarmed
  | .fault => .fault
  | .estop => .estop

/-- Authority over the motors of both arms. -/
inductive Authority where
  | off (rest : Rest)
  | idle
  | moving (id : Nat) (stop : StopKind)
  | holding

/-- Why authority moved. -/
inductive Cause where
  | quiet | release | arm | start | finish | watchdog
  deriving DecidableEq, Repr

/-- The moves of authority.  Nothing but a verified arming leads from `off`
    to `idle`, nothing but an execute leads to `moving`, and only a command
    that asked for a controlled stop can end `holding`. -/
inductive Authority.Step : Authority → Cause → Authority → Prop where
  | quiet (a : Authority) : Step a .quiet a
  | release (a : Authority) (r : Rest) : Step a .release (.off r)
  | arm : Step (.off .disarmed) .arm .idle
  | start (id : Nat) (stop : StopKind) : Step .idle .start (.moving id stop)
  | finish (id : Nat) (stop : StopKind) : Step (.moving id stop) .finish .idle
  | watchdog (id : Nat) : Step (.moving id .controlled) .watchdog .holding

/-- The registers authority is read from. -/
structure Core (F : Type) where
  lifecycle : Lifecycle
  executing : Option (MotionPlan F)
  commandId : Nat
  activeStopKind : StopKind
  enabled : Side → Joint → Bool

/-- No motor of either arm is enabled. -/
def Core.AllOff (k : Core F) : Prop := ∀ side joint, k.enabled side joint = false

/-- The authority the registers stand for. -/
inductive Represents (k : Core F) : Authority → Prop where
  | off (r : Rest) (lifecycle : k.lifecycle = r.lifecycle) (executing : k.executing = none)
      (commandId : k.commandId = 0) (allOff : k.AllOff) : Represents k (.off r)
  | idle (lifecycle : k.lifecycle = .armedIdle) (executing : k.executing = none)
      (commandId : k.commandId = 0) : Represents k .idle
  | moving (id : Nat) (stop : StopKind) (lifecycle : k.lifecycle = .executing)
      (executing : k.executing.isSome = true) (commandId : k.commandId = id)
      (stopKind : k.activeStopKind = stop) : Represents k (.moving id stop)
  | holding (lifecycle : k.lifecycle = .fault) (executing : k.executing = none)
      (commandId : k.commandId = 0) : Represents k .holding

namespace Represents

variable {k : Core F} {a : Authority}

section

omit [Floating F]

/-- The lifecycle register determines the authority: a command executes. -/
theorem eq_moving (h : Represents k a) (hexec : k.lifecycle = .executing) :
    a = .moving k.commandId k.activeStopKind := by
  cases h with
  | off r hlife _ _ _ => rw [hexec] at hlife; cases r <;> cases hlife
  | idle hlife _ _ => rw [hexec] at hlife; cases hlife
  | moving id stop _ _ hid hstop => rw [hid, hstop]
  | holding hlife _ _ => rw [hexec] at hlife; cases hlife

theorem eq_moving_of_isSome (h : Represents k a) (hsome : k.executing.isSome = true) :
    a = .moving k.commandId k.activeStopKind := by
  cases h with
  | off r _ hnone _ _ => rw [hnone] at hsome; cases hsome
  | idle _ hnone _ => rw [hnone] at hsome; cases hsome
  | moving id stop _ _ hid hstop => rw [hid, hstop]
  | holding _ hnone _ => rw [hnone] at hsome; cases hsome

theorem eq_idle (h : Represents k a) (harmed : k.lifecycle = .armedIdle) : a = .idle := by
  cases h with
  | off r hlife _ _ _ => rw [harmed] at hlife; cases r <;> cases hlife
  | idle _ _ _ => rfl
  | moving id stop hlife _ _ _ => rw [harmed] at hlife; cases hlife
  | holding hlife _ _ => rw [harmed] at hlife; cases hlife

theorem eq_disarmed (h : Represents k a) (hlife : k.lifecycle = .disarmed) :
    a = .off .disarmed := by
  cases h with
  | off r hr _ _ _ => rw [hlife] at hr; cases r <;> cases hr; rfl
  | idle hr _ _ => rw [hlife] at hr; cases hr
  | moving id stop hr _ _ _ => rw [hlife] at hr; cases hr
  | holding hr _ _ => rw [hlife] at hr; cases hr

/-- Outside `EXECUTING` there is no command. -/
theorem no_command (h : Represents k a) (hlife : k.lifecycle ≠ .executing) :
    k.executing = none ∧ k.commandId = 0 := by
  cases h with
  | off r _ hnone hid _ => exact ⟨hnone, hid⟩
  | idle _ hnone hid => exact ⟨hnone, hid⟩
  | moving id stop hr _ _ _ => exact absurd hr hlife
  | holding _ hnone hid => exact ⟨hnone, hid⟩

/-- Authority that moves nothing has no command. -/
theorem executing_none (h : Represents k a) (hne : ∀ id stop, a ≠ .moving id stop) :
    k.executing = none := by
  cases h with
  | off _ _ hnone _ _ => exact hnone
  | idle _ hnone _ => exact hnone
  | moving id stop _ _ _ _ => exact absurd rfl (hne id stop)
  | holding _ hnone _ => exact hnone

end

end Represents

namespace Controller

/-- The registers of a controller. -/
def core (c : Controller F) : Core F where
  lifecycle := c.lifecycle
  executing := c.executing
  commandId := c.commandId
  activeStopKind := c.activeStopKind
  enabled := fun side joint => (c.arm side).motorEnabled joint

/-- No motor of either arm is enabled. -/
def AllOff (c : Controller F) : Prop := c.core.AllOff

/-- The controller holds no authority over the motors. -/
def Released (c : Controller F) : Prop := ∃ r, Represents c.core (.off r)

/-! ## §2. Stopping. -/

@[simp] theorem motorEnabled_stopArm_false (c : Controller F) (r : ArmRuntime F)
    (joint : Joint) : (c.stopArm false r).motorEnabled joint = false := by
  unfold stopArm
  split
  · split <;> rfl
  · rfl

theorem allOff_materializeStop (c : Controller F) : (c.materializeStop false).AllOff :=
  fun side joint => c.motorEnabled_stopArm_false (c.arm side) joint

/-- A full ring releases the motors to FAULT. -/
theorem represents_overflowStop (c : Controller F) :
    Represents c.overflowStop.core (.off .fault) :=
  .off .fault rfl rfl rfl (allOff_materializeStop _)

/-! ## §3. Publishing. -/

/-- **A publish either only appends its event, or releases the motors.** -/
theorem publish_core (c : Controller F) (kind : EventKind) (cause : ControlStatus) (id : Nat) :
    ((c.publish kind cause id).2 = true ∧ (c.publish kind cause id).1.core = c.core) ∨
      ((c.publish kind cause id).2 = false ∧
        Represents (c.publish kind cause id).1.core (.off .fault)) := by
  cases h : c.events.isFull with
  | false =>
    obtain ⟨event, hpub⟩ := c.publish_of_room kind cause id h
    exact .inl (by rw [hpub]; exact ⟨rfl, rfl⟩)
  | true =>
    obtain ⟨event, hpub⟩ := c.publish_of_full kind cause id h
    exact .inr (by rw [hpub]; exact ⟨rfl, c.represents_overflowStop⟩)

/-- The same for `return publish(...) ? status : OA_CONTROL_EBUSY`. -/
theorem publishReturning_represents (c : Controller F) (kind : EventKind)
    (cause status : ControlStatus) (id : Nat) {a : Authority} (h : Represents c.core a) :
    let out := c.publishReturning kind cause id status
    (out.2 = status ∧ Represents out.1.core a) ∨
      (out.2 = .ebusy ∧ Represents out.1.core (.off .fault)) := by
  simp only [publishReturning]
  rcases c.publish_core kind cause id with ⟨hok, hcore⟩ | ⟨hfull, hrep⟩
  · exact .inl ⟨by rw [hok]; rfl, by rw [hcore]; exact h⟩
  · exact .inr ⟨by rw [hfull]; rfl, hrep⟩

/-- A publish after a release is a release. -/
theorem publishReturning_released (c : Controller F) (kind : EventKind)
    (cause status : ControlStatus) (id : Nat) {r : Rest} (h : Represents c.core (.off r)) :
    (c.publishReturning kind cause id status).1.Released := by
  rcases c.publishReturning_represents kind cause status id h with ⟨_, hrep⟩ | ⟨_, hrep⟩
  · exact ⟨r, hrep⟩
  · exact ⟨.fault, hrep⟩

/-! ## §4. Faults and the interlock. -/

theorem controlledStop_false (c : Controller F) : c.controlledStop false = false := rfl

/-- What a controlled stop requires. -/
theorem controlledStop_iff (c : Controller F) :
    c.controlledStop true = true ↔
      c.isVirtual = true ∧ c.executing.isSome = true ∧ c.fresh = true ∧ c.healthy = true ∧
        c.activeStopKind = .controlled := by
  simp [controlledStop, and_assoc]

/-- **A latched fault releases the motors, or holds after a controlled
    stop.** -/
theorem latchFault_represents (c : Controller F) (cause : ControlStatus) (available : Bool) :
    let out := c.latchFault cause available
    out.1.Released ∨
      (available = true ∧ c.controlledStop true = true ∧ Represents out.1.core .holding) := by
  simp only [latchFault]
  cases hstop : c.controlledStop available with
  | false =>
    exact .inl (publishReturning_released _ _ _ _ _
      (.off .fault rfl rfl rfl (allOff_materializeStop c.dropCommand)))
  | true =>
    cases available with
    | false => rw [controlledStop_false] at hstop; cases hstop
    | true =>
      have hhold : Represents
          ({ c.dropCommand.materializeStop true with
              activeStopKind := .disable, lifecycle := .fault }.renewNonce).core .holding :=
        .holding rfl rfl rfl
      rcases publishReturning_represents _ .faulted cause cause c.commandId hhold
        with ⟨_, hrep⟩ | ⟨_, hrep⟩
      · exact .inr ⟨rfl, hstop, hrep⟩
      · exact .inl ⟨.fault, hrep⟩

/-- A fault that no controlled stop may soften releases the motors. -/
theorem latchFault_released (c : Controller F) (cause : ControlStatus) :
    (c.latchFault cause false).1.Released := by
  rcases c.latchFault_represents cause false with h | ⟨h, _⟩
  · exact h
  · cases h

/-- **An active interlock releases the motors**, from every state. -/
theorem setInterlock_represents (c : Controller F) (estopActive deadmanActive : Bool)
    (h : estopActive = true ∨ deadmanActive = false) :
    (c.setInterlock estopActive deadmanActive).1.Released := by
  have hactive : (estopActive || !deadmanActive) = true := by
    rcases h with rfl | rfl <;> simp
  simp only [setInterlock, hactive, if_true]
  refine publishReturning_released _ _ _ _ _ (.off .estop rfl ?_ ?_ ?_)
  · -- the command is gone in both ways of stopping
    split <;> rfl
  · split <;> rfl
  · split
    · exact fun _ _ => rfl
    · exact allOff_materializeStop _

end Controller

end OpenArm.Control
