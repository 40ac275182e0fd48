/-
  OpenArm.Control.Deadline — the two deadlines of a command.

  A command carries an expiry and a producer deadline; `execute` writes both,
  `heartbeat` renews the second, and a cycle past one of them ends the
  command.

  Main results:
    * `deadline_call` — what a call does to the deadlines of a command that
      survives it.
    * `punctual_call` — hence the clock of a controller with a command stays
      within both deadlines.
-/
import OpenArm.Control.Estop

namespace OpenArm.Control

open OpenArm.Lib

variable {F : Type} [Floating F]

/-! ## §1. A cycle past a deadline. -/

namespace Controller

theorem FaultExit.no_command {c c' : Controller F} {previousNs : Nat}
    (h : c.FaultExit previousNs c') : c'.executing = none := by
  rcases h with hoff | ⟨_, _, hhold⟩
  · exact hoff.atRest.executing
  · cases hhold with
    | holding _ hnone _ => exact hnone

/-- The clock is within both deadlines. -/
def InTime (c : Controller F) : Prop :=
  c.nowNs ≤ c.commandExpiryNs ∧ c.nowNs ≤ c.producerDeadlineNs

omit [Floating F] in
theorem InTime.of_frame {c c' : Controller F} (h : c.InTime) (hframe : c'.frame = c.frame) :
    c'.InTime := by
  have hnow : c'.nowNs = c.nowNs := congrArg Frame.nowNs hframe
  have hexpiry : c'.commandExpiryNs = c.commandExpiryNs := congrArg Frame.commandExpiryNs hframe
  have hproducer : c'.producerDeadlineNs = c.producerDeadlineNs :=
    congrArg Frame.producerDeadlineNs hframe
  unfold InTime
  rw [hnow, hexpiry, hproducer]
  exact h

/-- A cycle of an executing controller past a deadline ends the command. -/
theorem runCycle_inTime (c : Controller F) (L : ModelLibrary F) (previousNs : Nat)
    (hexec : c.lifecycle = .executing) :
    (c.runCycle L previousNs).1.executing = none ∨ c.InTime := by
  unfold runCycle
  split
  · rename_i hwatch
    exact .inl (c.cycleWatchdogs_error previousNs _ hwatch).no_command
  split
  · rename_i href
    exact .inl (c.commandReference_error previousNs _ href).no_command
  rename_i referenced reference href
  right
  -- the reference stage has passed the command's watchdogs
  unfold commandReference at href
  rw [if_pos hexec] at href
  unfold commandWatchdogs at href
  split at href
  · rename_i hexit
    cases href
  rename_i hok
  split at hok
  · cases hok
  rename_i hproducer
  split at hok
  · cases hok
  rename_i hexpiry
  exact ⟨Nat.not_lt.mp hexpiry, Nat.not_lt.mp hproducer⟩

/-- A cycle under a clear latch that keeps the command leaves the clock alone,
    or is within both deadlines. -/
theorem advance_inTime (c : Controller F) (L : ModelLibrary F) (monotonicNs : Nat)
    (hexec : c.lifecycle = .executing)
    (hsome : (c.advance L false monotonicNs).1.executing ≠ none) :
    (c.advance L false monotonicNs).1.nowNs = c.nowNs ∨
      (c.advance L false monotonicNs).1.InTime := by
  have hframe := c.frame_advance L monotonicNs
  by_cases hlt : c.nowNs < monotonicNs
  · right
    have hcycle : (c.advance L false monotonicNs).1 =
        ((c.sampledAt monotonicNs).runCycle L c.nowNs).1 := by
      have hnot : ¬ monotonicNs < c.nowNs := Nat.not_lt.mpr (Nat.le_of_lt hlt)
      simp [advance, cycling, sampledAt, hexec, hnot, Nat.ne_of_gt hlt]
    have hkept := (c.sampledAt monotonicNs).frame_runCycle L c.nowNs
    rw [hcycle] at hsome ⊢
    rcases (c.sampledAt monotonicNs).runCycle_inTime L c.nowNs hexec with hnone | htime
    · exact absurd hnone hsome
    · exact htime.of_frame hkept
  · left
    exact (congrArg Frame.nowNs hframe).trans (Nat.max_eq_left (Nat.not_lt.mp hlt))

end Controller

/-! ## §2. One call. -/

/-- What a call does to a command and its deadlines. -/
inductive DeadlineMove (w : World F) : Op F → ControlStatus → Controller F → Prop where
  | stopped {op : Op F} {status : ControlStatus} {c : Controller F} (h : c.executing = none) :
      DeadlineMove w op status c
  | started {plan : MotionPlan F} {request : ExecuteRequest} {c : Controller F}
      (expiry : c.commandExpiryNs = request.expiryNs)
      (producer : c.producerDeadlineNs = request.producerDeadlineNs) (inTime : c.InTime) :
      DeadlineMove w (.execute plan request) .ok c
  | renewed {id deadline : Nat} {c : Controller F} (executing : w.controller.executing ≠ none)
      (now : c.nowNs = w.controller.nowNs)
      (expiry : c.commandExpiryNs = w.controller.commandExpiryNs)
      (producer : c.producerDeadlineNs = deadline) (later : c.nowNs < deadline) :
      DeadlineMove w (.heartbeat id deadline) .ok c
  | kept {op : Op F} {status : ControlStatus} {c : Controller F}
      (executing : w.controller.executing ≠ none)
      (now : c.nowNs = w.controller.nowNs ∨ c.InTime)
      (expiry : c.commandExpiryNs = w.controller.commandExpiryNs)
      (producer : c.producerDeadlineNs = w.controller.producerDeadlineNs)
      (notExecute : ∀ plan request, op = .execute plan request → status ≠ .ok)
      (notHeartbeat : ∀ id deadline, op = .heartbeat id deadline → status ≠ .ok) :
      DeadlineMove w op status c

section Calls

variable {w : World F} {a : Authority}

/-- A call that is no execute keeps no command that was not there. -/
theorem executing_call (L : ModelLibrary F) (h : Represents w.controller.core a) {op : Op F}
    (hop : ∀ plan request, op ≠ .execute plan request)
    (hsome : (call L w op).1.controller.executing ≠ none) : w.controller.executing ≠ none := by
  obtain ⟨cause, a', hmove, hrep, hevidence⟩ := call_refines L w op h
  have hsome : (call L w op).1.controller.core.executing.isSome = true :=
    Option.isSome_iff_ne_none.mpr hsome
  have hmoving := hrep.eq_moving_of_isSome hsome
  subst hmoving
  cases hmove with
  | quiet =>
    cases h with
    | moving _ _ _ hexec _ _ => exact Option.isSome_iff_ne_none.mp hexec
  | start =>
    obtain ⟨plan, request, heq, _⟩ := hevidence
    exact absurd heq (hop plan request)

/-- A latched fault never answers OK. -/
theorem latchFault_status (c : Controller F) {cause : ControlStatus} (available : Bool)
    (hcause : cause ≠ .ok) : (c.latchFault cause available).2 ≠ .ok := by
  simp only [Controller.latchFault, Controller.publishReturning]
  split
  · exact hcause
  · decide

theorem latchFault_no_command (c : Controller F) (cause : ControlStatus) (available : Bool) :
    (c.latchFault cause available).1.executing = none := by
  rcases c.latchFault_represents cause available with hoff | ⟨_, _, hhold⟩
  · exact hoff.atRest.executing
  · cases hhold with
    | holding _ hnone _ => exact hnone

/-- A refused execute never answers OK. -/
theorem execute_refused_status (L : ModelLibrary F) (c : Controller F) (plan : MotionPlan F)
    (request : ExecuteRequest) (h : c.acceptsExecute plan request = false) :
    (c.execute L plan request).2 ≠ .ok := by
  unfold Controller.execute
  split
  · exact nofun
  split
  · exact nofun
  split
  · exact latchFault_status c false (by decide)
  split
  · exact nofun
  split
  · exact nofun
  split
  · exact nofun
  · rename_i hlife hfresh hhealthy hidentity hstale hvalid
    push Not at hlife hidentity
    simp only [Bool.not_eq_true', Bool.not_eq_false] at hfresh hhealthy
    simp [Controller.acceptsExecute, hlife, hidentity, hstale, hvalid, hfresh, hhealthy] at h

/-- An accepted execute writes deadlines that are still to come. -/
theorem startCommand_inTime (L : ModelLibrary F) {c : Controller F} {plan : MotionPlan F}
    {request : ExecuteRequest} (h : c.acceptsExecute plan request = true) :
    (c.startCommand L plan request).InTime := by
  simp only [Controller.acceptsExecute, Bool.and_eq_true, Bool.not_eq_true'] at h
  have hvalid := h.2
  simp only [Controller.executeInvalid, Bool.or_eq_false_iff, decide_eq_false_iff_not,
    not_lt, not_le] at hvalid
  obtain ⟨⟨⟨⟨⟨hstart, hexpiry⟩, _⟩, hproducer⟩, _⟩, _⟩ := hvalid
  exact ⟨Nat.le_of_lt (Nat.lt_of_le_of_lt hstart hexpiry), Nat.le_of_lt hproducer⟩

theorem execute_deadline (L : ModelLibrary F) (w : World F) (plan : MotionPlan F)
    (request : ExecuteRequest) :
    DeadlineMove w (.execute plan request) (w.controller.execute L plan request).2
      (w.controller.execute L plan request).1 := by
  cases haccept : w.controller.acceptsExecute plan request with
  | true =>
    have hframe := w.controller.frame_execute_of_accepts L plan request haccept
    have hmoving : Represents (w.controller.startCommand L plan request).core
        (.moving w.controller.nextCommandId request.stopKind) := .moving _ _ rfl rfl rfl rfl
    rw [w.controller.execute_of_accepts L plan request haccept] at hframe ⊢
    rcases Controller.publishReturning_represents _
        (if (w.controller.startCommand L plan request).commandStarted then .started else .queued)
        .ok .ok w.controller.nextCommandId hmoving with ⟨hok, _⟩ | ⟨_, hoff⟩
    · rw [hok]
      exact .started (congrArg Frame.commandExpiryNs hframe)
        (congrArg Frame.producerDeadlineNs hframe) ((startCommand_inTime L haccept).of_frame hframe)
    · exact .stopped (Controller.Released.atRest ⟨_, hoff⟩).executing
  | false =>
    have hstatus := execute_refused_status L w.controller plan request haccept
    rcases w.controller.execute_of_refused L plan request haccept with hsame | hfault
    · by_cases hnone : w.controller.executing = none
      · exact .stopped (by rw [hsame]; exact hnone)
      · rw [hsame]
        exact .kept hnone (.inl rfl) rfl rfl (fun _ _ _ => hstatus) (fun _ _ h => by cases h)
    · rw [hfault]
      exact .stopped (latchFault_no_command _ _ _)

theorem heartbeat_deadline (h : Represents w.controller.core a) (id deadline : Nat) :
    DeadlineMove w (.heartbeat id deadline) (w.controller.heartbeat id deadline).2
      (w.controller.heartbeat id deadline).1 := by
  unfold Controller.heartbeat
  split
  · by_cases hnone : w.controller.executing = none
    · exact .stopped hnone
    · exact .kept hnone (.inl rfl) rfl rfl (fun _ _ h => by cases h) (fun _ _ _ => nofun)
  rename_i hlive
  split
  · exact .stopped (latchFault_no_command _ _ _)
  · rename_i hlater
    have hexec : w.controller.lifecycle = .executing := by
      by_contra hne
      exact hlive (.inl hne)
    have hmoving := h.eq_moving hexec
    subst hmoving
    cases h with
    | moving _ _ _ hsome _ _ =>
      exact .renewed (Option.isSome_iff_ne_none.mp hsome) rfl rfl rfl (Nat.not_le.mp hlater)

theorem advance_deadline (L : ModelLibrary F) (h : Represents w.controller.core a)
    (hdetector : DetectorSafe w) (monotonicNs : Nat) (status : ControlStatus) :
    DeadlineMove w (.advance monotonicNs) status
      (call L w (.advance monotonicNs)).1.controller := by
  by_cases hnone : (call L w (.advance monotonicNs)).1.controller.executing = none
  · exact .stopped hnone
  have hbefore := executing_call L h (fun _ _ heq => by cases heq) hnone
  have hframe := frame_call_advance L w monotonicNs
  refine .kept hbefore ?_ (congrArg Frame.commandExpiryNs hframe)
    (congrArg Frame.producerDeadlineNs hframe) (fun _ _ h => by cases h) (fun _ _ h => by cases h)
  cases hlatch : w.latch with
  | true => exact absurd (advance_released L hdetector hlatch monotonicNs).atRest.executing hnone
  | false =>
    have hmoving := h.eq_moving_of_isSome (Option.isSome_iff_ne_none.mpr hbefore)
    subst hmoving
    cases h with
    | moving _ _ hexec _ _ _ =>
      have hstep : (call L w (.advance monotonicNs)).1.controller =
          (w.controller.advance L false monotonicNs).1 := by
        show (w.controller.advance L w.latch monotonicNs).1 = _
        rw [hlatch]
      rw [hstep] at hnone ⊢
      exact w.controller.advance_inTime L monotonicNs hexec hnone

/-- **What a call does to the deadlines of a command that survives it.** -/
theorem deadline_call (L : ModelLibrary F) (h : Represents w.controller.core a)
    (hdetector : DetectorSafe w) (op : Op F) :
    DeadlineMove w op (call L w op).2.status (call L w op).1.controller := by
  by_cases hexecute : ∃ plan request, op = .execute plan request
  · obtain ⟨plan, request, rfl⟩ := hexecute
    exact execute_deadline L w plan request
  by_cases hheartbeat : ∃ id deadline, op = .heartbeat id deadline
  · obtain ⟨id, deadline, rfl⟩ := hheartbeat
    exact heartbeat_deadline h id deadline
  by_cases hadvance : ∃ t, op = .advance t
  · obtain ⟨t, rfl⟩ := hadvance
    exact advance_deadline L h hdetector t _
  by_cases hnone : (call L w op).1.controller.executing = none
  · exact .stopped hnone
  have hnot : ∀ plan request, op ≠ .execute plan request :=
    fun plan request heq => hexecute ⟨plan, request, heq⟩
  have hbefore := executing_call L h hnot hnone
  have hkept : (call L w op).1.controller.nowNs = w.controller.nowNs ∧
      (call L w op).1.controller.commandExpiryNs = w.controller.commandExpiryNs ∧
      (call L w op).1.controller.producerDeadlineNs = w.controller.producerDeadlineNs := by
    cases hcartesian : op.cartesian with
    | true =>
      have hframe := frame_call_cartesian L w op hcartesian
      exact ⟨congrArg Frame.nowNs hframe, congrArg Frame.commandExpiryNs hframe,
        congrArg Frame.producerDeadlineNs hframe⟩
    | false =>
      have hstart : w.controller.starts op = false := by
        unfold Controller.starts
        split
        · exact absurd rfl (hnot _ _)
        · rfl
      have hquiet := frame_call_quiet L w op hstart hcartesian fun t ht => hadvance ⟨t, ht⟩
      exact ⟨hquiet.nowNs, hquiet.commandExpiryNs,
        hquiet.producerDeadlineNs fun id deadline heq => hheartbeat ⟨id, deadline, heq⟩⟩
  exact .kept hbefore (.inl hkept.1) hkept.2.1 hkept.2.2
    (fun plan request heq => absurd heq (hnot plan request))
    (fun id deadline heq => absurd ⟨id, deadline, heq⟩ hheartbeat)

end Calls

/-! ## §3. Runs. -/

/-- The clock of a controller with a command is within both deadlines. -/
def Punctual (c : Controller F) : Prop := c.executing ≠ none → c.InTime

omit [Floating F] in
/-- **Step lemma.** -/
theorem punctual_call {w : World F} {op : Op F} {status : ControlStatus} {c : Controller F}
    (h : Punctual w.controller) (hmove : DeadlineMove w op status c) : Punctual c := by
  intro hsome
  cases hmove with
  | stopped hnone => exact absurd hnone hsome
  | started _ _ htime => exact htime
  | renewed hbefore hnow hexpiry hproducer hlater =>
    obtain ⟨hold, _⟩ := h hbefore
    exact ⟨by rw [hnow, hexpiry]; exact hold, by rw [hproducer]; exact Nat.le_of_lt hlater⟩
  | kept hbefore hnow hexpiry hproducer =>
    rcases hnow with hnow | htime
    · obtain ⟨hold, hold'⟩ := h hbefore
      exact ⟨by rw [hnow, hexpiry]; exact hold, by rw [hnow, hproducer]; exact hold'⟩
    · exact htime

end OpenArm.Control
