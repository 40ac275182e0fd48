/-
  OpenArm.Control.EventRing — the event ring is a FIFO and fails closed.

  A publish appends its event, or on a full ring drops the oldest one and
  fails closed.  The ring sees publishes and polls in some order.  A log of
  what it saw is read against the list of the events it holds: nothing is lost
  but the oldest event at a publish on a full ring, and the call such a publish
  happens in fails closed.

  Main results:
    * `publish_stores`             — what a publish does.
    * `Logged.history`             — publishes and polls are operations of a FIFO.
    * `fifo_run`                   — every run has such a log.
    * `event_ring_fails_closed`    — the two together.
-/
import OpenArm.Control.Walk
import OpenArm.Control.Standard

namespace OpenArm.Control

open OpenArm.Lib

variable {F : Type} [Floating F]

/-! ## §1. Publishes and polls. -/

namespace Controller

theorem events_publish_of_room {c : Controller F} (kind : EventKind) (cause : ControlStatus)
    (id : Nat) (h : c.events.isFull = false) :
    (c.publish kind cause id).1.events = c.events.push (c.publishedEvent kind cause id) := by
  simp only [publish, publishedEvent, h]
  rfl

theorem events_publish_of_full {c : Controller F} (kind : EventKind) (cause : ControlStatus)
    (id : Nat) (h : c.events.isFull = true) :
    (c.publish kind cause id).1.events =
      c.events.pop.push (c.publishedEvent kind cause id) := by
  simp only [publish, publishedEvent, h]
  rfl

/-- From `c` the controller came to a state by publishes and polls, and steps
    that leave the ring alone.  The log has what each of them did to it. -/
inductive Logged (c : Controller F) : List (Ring.Entry Event) → Controller F → Prop where
  | start : Logged c [] c
  | silent {log : List (Ring.Entry Event)} {m m' : Controller F} (front : Logged c log m)
      (same : m'.events = m.events) : Logged c log m'
  | publish {log : List (Ring.Entry Event)} {m : Controller F} (front : Logged c log m)
      (kind : EventKind) (cause : ControlStatus) (id : Nat) (room : m.events.isFull = false) :
      Logged c (log ++ [.stored (m.publishedEvent kind cause id)]) (m.publish kind cause id).1
  | overflow {log : List (Ring.Entry Event)} {m : Controller F} (front : Logged c log m)
      (kind : EventKind) (cause : ControlStatus) (id : Nat) (full : m.events.isFull = true) :
      Logged c (log ++ [.evicted m.events.front, .stored (m.publishedEvent kind cause id)])
        (m.publish kind cause id).1
  | poll {log : List (Ring.Entry Event)} {m : Controller F} (front : Logged c log m)
      (some : m.events.isEmpty = false) :
      Logged c (log ++ [.taken m.events.front]) m.pollEvent.1

omit [Floating F] in
theorem events_pollEvent {c : Controller F} (h : c.events.isEmpty = false) :
    c.pollEvent.1.events = c.events.pop := by
  unfold pollEvent
  rw [if_neg (by simp [h])]

/-- The ring of the controller went through that history. -/
theorem Logged.history {c c' : Controller F} {log : List (Ring.Entry Event)}
    (h : Logged c log c') : Ring.History c.events log c'.events := by
  induction h with
  | start => exact .start
  | silent front same ih => rwa [same]
  | publish front kind cause id room ih =>
    rw [events_publish_of_room kind cause id room]
    exact ih.push _ room
  | overflow front kind cause id full ih =>
    rw [events_publish_of_full kind cause id full]
    exact ih.evict _ full
  | poll front some ih =>
    rw [events_pollEvent some]
    exact ih.pop some

/-! ## §2. The log of a call. -/

/-- The state an overflow leaves: FAULT with nothing executing and every motor
    disabled, and the newest event says so. -/
structure FailsClosed (c : Controller F) : Prop where
  lifecycle : c.lifecycle = .fault
  executing : c.executing = none
  allOff : c.AllOff
  newest : ∃ event, c.events.toList.getLast? = some event ∧ event.kind = .faulted ∧
    event.cause = .ebusy

theorem failsClosed_publish {c : Controller F} (kind : EventKind) (cause : ControlStatus)
    (id : Nat) (h : c.events.isFull = true) : (c.publish kind cause id).1.FailsClosed := by
  obtain ⟨event, heq⟩ := c.publish_of_full kind cause id h
  have hpop : c.events.pop.count < kEventCapacity := by
    rw [Ring.count_pop, (Ring.isFull_iff _).mp h]
    decide
  have hnewest := events_publish_of_full kind cause id h
  refine ⟨?_, ?_, ?_, c.publishedEvent kind cause id, ?_, ?_, ?_⟩
  · rw [heq]
    rfl
  · rw [heq]
    rfl
  · rw [heq]
    exact allOff_materializeStop _
  · rw [hnewest, Ring.toList_push _ _ hpop]
    exact List.getLast?_concat
  · simp [publishedEvent, h]
  · simp [publishedEvent, h]

/-- **What a publish does**: with room the events stay and the new one follows
    them; on a full ring the oldest goes, and it alone, the new event is
    FAULTED with cause EBUSY, the state fails closed and the answer is that
    the ring overflowed. -/
structure Stores (c : Controller F) (kind : EventKind) (cause : ControlStatus) (id : Nat) :
    Prop where
  room : c.events.isFull = false →
    (c.publish kind cause id).1.events.toList =
        c.events.toList ++ [c.publishedEvent kind cause id] ∧
      (c.publishedEvent kind cause id).kind = kind ∧
        (c.publishedEvent kind cause id).cause = cause ∧ (c.publish kind cause id).2 = true
  full : c.events.isFull = true → ∃ oldest rest, c.events.toList = oldest :: rest ∧
    (c.publish kind cause id).1.events.toList = rest ++ [c.publishedEvent kind cause id] ∧
      (c.publishedEvent kind cause id).kind = .faulted ∧
        (c.publishedEvent kind cause id).cause = .ebusy ∧
          (c.publish kind cause id).1.FailsClosed ∧ (c.publish kind cause id).2 = false

theorem publish_stores (c : Controller F) (kind : EventKind) (cause : ControlStatus) (id : Nat) :
    c.Stores kind cause id where
  room := fun hroom => by
    refine ⟨?_, ?_, ?_, ?_⟩
    · rw [events_publish_of_room kind cause id hroom]
      exact Ring.toList_push _ _ (Ring.count_lt_of_room hroom)
    · simp [publishedEvent, hroom]
    · simp [publishedEvent, hroom]
    · simp [publish, hroom]
  full := fun hfull => by
    obtain ⟨rest, hold, hnew⟩ := Ring.toList_evict (c.publishedEvent kind cause id) hfull
    refine ⟨c.events.front, rest, hold, ?_, ?_, ?_, failsClosed_publish kind cause id hfull, ?_⟩
    · rw [events_publish_of_full kind cause id hfull]
      exact hnew
    · simp [publishedEvent, hfull]
    · simp [publishedEvent, hfull]
    · simp [publish, hfull]

/-- The log of a call that polls nothing: an eviction in it means that the call
    failed closed. -/
def CallLogged (c c' : Controller F) (status : ControlStatus) : Prop :=
  ∃ log, Logged c log c' ∧ log.filterMap Ring.Entry.returned = [] ∧
    (log.any Ring.Entry.isEviction = true → c'.FailsClosed ∧ status ≠ .ok)

theorem Walk.logged {n : Nat} {c c' : Controller F} (h : Walk n c c') :
    ∃ log, Logged c log c' ∧ log.filterMap Ring.Entry.returned = [] ∧
      log.any Ring.Entry.isEviction = false := by
  obtain ⟨k, -, hchain⟩ := h
  induction hchain with
  | refl => exact ⟨[], .start, rfl, rfl⟩
  | snoc front last ih =>
    obtain ⟨log, hlog, hreturned, hkept⟩ := ih
    cases last with
    | write _ _ events => exact ⟨log, hlog.silent events, hreturned, hkept⟩
    | feed => exact ⟨log, hlog.silent rfl, hreturned, hkept⟩
    | halt _ _ _ events => exact ⟨log, hlog.silent events, hreturned, hkept⟩
    | publish kind cause id room =>
      refine ⟨_, hlog.publish kind cause id room, ?_, ?_⟩
      · rw [List.filterMap_append, hreturned]
        rfl
      · rw [List.any_append, hkept]
        rfl

/-- A publish at the end of a call. -/
theorem Logged.closing {c m : Controller F} {log : List (Ring.Entry Event)}
    (hlog : Logged c log m) (hreturned : log.filterMap Ring.Entry.returned = [])
    (hkept : log.any Ring.Entry.isEviction = false) (kind : EventKind) (cause : ControlStatus)
    (id : Nat) {status : ControlStatus}
    (hfailed : m.events.isFull = true → status ≠ .ok) :
    CallLogged c (m.publish kind cause id).1 status := by
  by_cases hroom : m.events.isFull = false
  · refine ⟨_, hlog.publish kind cause id hroom, ?_, fun hevicted => ?_⟩
    · rw [List.filterMap_append, hreturned]
      rfl
    · rw [List.any_append, hkept] at hevicted
      cases hevicted
  · have hfull : m.events.isFull = true := by simpa using hroom
    refine ⟨_, hlog.overflow kind cause id hfull, ?_,
      fun _ => ⟨failsClosed_publish kind cause id hfull, hfailed hfull⟩⟩
    rw [List.filterMap_append, hreturned]
    rfl

theorem Ends.logged {n : Nat} {c c' : Controller F} {status : ControlStatus}
    (h : Ends n c c' status) : CallLogged c c' status := by
  cases h with
  | walk walk =>
    obtain ⟨log, hlog, hreturned, hkept⟩ := walk.logged
    exact ⟨log, hlog, hreturned, fun hevicted => by rw [hkept] at hevicted; cases hevicted⟩
  | overflow kind cause id _ walk full failed =>
    obtain ⟨log, hlog, hreturned, hkept⟩ := walk.logged
    exact hlog.closing hreturned hkept kind cause id fun _ => failed
  | latch kind cause id walk latch failed =>
    obtain ⟨log, hlog, hreturned, hkept⟩ := walk.logged
    exact (hlog.silent latch.events).closing hreturned hkept kind cause id failed

theorem Closes.logged {c m c' : Controller F} {status : ControlStatus}
    (hsame : m.events = c.events) (h : Closes m c' status) : CallLogged c c' status := by
  have hlog : Logged c [] m := Logged.start.silent hsame
  cases h with
  | refl => exact ⟨[], hlog, rfl, fun hevicted => by cases hevicted⟩
  | publish kind cause id failed => exact hlog.closing rfl rfl kind cause id failed

theorem Special.events {op : Op F} {c m : Controller F} (h : Special op c m)
    (hpoll : op ≠ .pollEvent) : m.events = c.events := by
  cases h with
  | pollEvent => exact absurd rfl hpoll
  | _ => rfl

/-- Logs in a row. -/
theorem Logged.trans {c m c' : Controller F} {log log' : List (Ring.Entry Event)}
    (h : Logged c log m) (h' : Logged m log' c') : Logged c (log ++ log') c' := by
  induction h' with
  | start => rwa [List.append_nil]
  | silent front same ih => exact ih.silent same
  | publish front kind cause id room ih =>
    rw [← List.append_assoc]
    exact ih.publish kind cause id room
  | overflow front kind cause id full ih =>
    rw [← List.append_assoc]
    exact ih.overflow kind cause id full
  | poll front some ih =>
    rw [← List.append_assoc]
    exact ih.poll some

end Controller

/-! ## §3. The log of a run. -/

open Controller

/-- The event a call returned. -/
def returnedEvent (e : Label F) : Option Event :=
  match e.1, e.2.output with
  | .pollEvent, .event event => some event
  | _, _ => none

/-- The log of the call `e`. -/
structure CallLog (L : ModelLibrary F) (w : World F) (e : Label F) (log : List (Ring.Entry Event))
    (w' : World F) : Prop where
  call : (system L).step w e w'
  logged : Logged w.controller log w'.controller
  returned : log.filterMap Ring.Entry.returned = (returnedEvent e).toList
  closed : log.any Ring.Entry.isEviction = true → w'.controller.FailsClosed ∧ e.2.status ≠ .ok

/-- The controller with the log of every call. -/
def eventSystem (L : ModelLibrary F) : Lts (World F) (Label F × List (Ring.Entry Event)) where
  init := World.Initial
  step w e w' := CallLog L w e.1 e.2 w'

/-- **Every call has a log.** -/
theorem callLog_exists (L : ModelLibrary F) {w w' : World F} {e : Label F}
    (hstep : (system L).step w e w') : ∃ log, CallLog L w e log w' := by
  obtain ⟨op, response⟩ := e
  obtain ⟨rfl, hresponse⟩ := step_eq hstep
  change response = (call L w op).2 at hresponse
  subst hresponse
  have hquiet : CallLogged w.controller (call L w op).1.controller (call L w op).2.status →
      returnedEvent (op, (call L w op).2) = none →
      ∃ log, CallLog L w (op, (call L w op).2) log (call L w op).1 := by
    intro hlogged hnone
    obtain ⟨log, hlog, hreturned, hclosed⟩ := hlogged
    exact ⟨log, hstep, hlog, by rw [hreturned, hnone]; rfl, hclosed⟩
  by_cases hpoll : op = .pollEvent
  · subst hpoll
    by_cases hempty : w.controller.events.isEmpty = true
    · have hcall : w.controller.pollEvent = (w.controller, .etimeout, none) := by
        unfold pollEvent
        rw [if_pos hempty]
      refine hquiet ⟨[], ?_, rfl, fun hevicted => by cases hevicted⟩ ?_
      · show Logged w.controller [] w.controller.pollEvent.1
        rw [hcall]
        exact .start
      · show returnedEvent (.pollEvent, (withOutput w w.controller.pollEvent .event).2) = none
        rw [hcall]
        rfl
    · have hsome : w.controller.events.isEmpty = false := by simpa using hempty
      refine ⟨[.taken w.controller.events.front], hstep, Logged.start.poll hsome, ?_,
        fun hevicted => by cases hevicted⟩
      have hcall : w.controller.pollEvent =
          ({ w.controller with events := w.controller.events.pop }, .ok,
            some w.controller.events.front) := by
        unfold pollEvent
        rw [if_neg hempty]
      show _ = (returnedEvent (.pollEvent, (withOutput w w.controller.pollEvent .event).2)).toList
      rw [hcall]
      rfl
  · have hnone : returnedEvent (op, (call L w op).2) = none := by
      unfold returnedEvent
      cases op <;> first | rfl | exact absurd rfl hpoll
    refine hquiet ?_ hnone
    obtain hends | ⟨m, hspecial, hcloses⟩ := call_ends L w op
    · exact hends.logged
    · exact hcloses.logged (hspecial.events hpoll)

/-- The entries of a run. -/
def entries (logs : List (Label F × List (Ring.Entry Event))) : List (Ring.Entry Event) :=
  logs.flatMap Prod.snd

omit [Floating F] in
theorem entries_snoc (logs : List (Label F × List (Ring.Entry Event)))
    (x : Label F × List (Ring.Entry Event)) :
    entries (logs ++ [x]) = entries logs ++ x.2 := by
  unfold entries
  rw [List.flatMap_append, List.flatMap_singleton]

theorem logged_run {L : ModelLibrary F} {w w' : World F}
    {logs : List (Label F × List (Ring.Entry Event))} (h : (eventSystem L).Run w logs w') :
    Logged w.controller (entries logs) w'.controller := by
  induction h with
  | nil => exact .start
  | snoc front last ih =>
    rw [entries_snoc]
    exact ih.trans last.logged

/-- The events handed out are those the polls of the run returned. -/
theorem returned_run {L : ModelLibrary F} {w w' : World F}
    {logs : List (Label F × List (Ring.Entry Event))} (h : (eventSystem L).Run w logs w') :
    (entries logs).filterMap Ring.Entry.returned = (logs.map Prod.fst).filterMap returnedEvent := by
  induction h with
  | nil => rfl
  | snoc front last ih =>
    rw [entries_snoc, List.filterMap_append, ih, last.returned, List.map_append,
      List.filterMap_append]
    congr 1

/-- Every run has a log. -/
theorem eventSystem_run {L : ModelLibrary F} {w w' : World F} {es : List (Label F)}
    (h : (system L).Run w es w') :
    ∃ logs, (eventSystem L).Run w logs w' ∧ logs.map Prod.fst = es := by
  induction h with
  | nil => exact ⟨[], .nil _, rfl⟩
  | snoc front last ih =>
    rename_i m w' es e
    obtain ⟨logs, hlogs, hlabels⟩ := ih
    obtain ⟨log, hlog⟩ := callLog_exists L last
    refine ⟨logs ++ [(e, log)], hlogs.snoc hlog, ?_⟩
    rw [List.map_append, hlabels]
    rfl

/-- **Every run of a new controller is a FIFO's**: it has a log in which each
    call did to the ring what its publishes and its poll do and failed closed
    if it dropped an event.  The events stored over the run are those removed,
    in order, and then those still in the ring; and the events handed out are
    those the polls returned. -/
theorem fifo_run {L : ModelLibrary F} {w₀ w : World F} {es : List (Label F)}
    (hinit : w₀.Initial) (hrun : (system L).Run w₀ es w) :
    ∃ logs, (eventSystem L).Run w₀ logs w ∧ logs.map Prod.fst = es ∧
      (entries logs).filterMap Ring.Entry.added =
        (entries logs).filterMap Ring.Entry.removed ++ w.controller.events.toList ∧
      (entries logs).filterMap Ring.Entry.returned = es.filterMap returnedEvent := by
  obtain ⟨logs, hlogs, hlabels⟩ := eventSystem_run hrun
  refine ⟨logs, hlogs, hlabels, ?_, ?_⟩
  · have hempty : w₀.controller.events.toList = [] := by
      obtain ⟨manifest, options, instanceId, hcreate⟩ := hinit
      rw [hcreate]
      rfl
    have hfifo := (logged_run hlogs).history.fifo
    rw [hempty, List.nil_append] at hfifo
    exact hfifo
  · rw [← hlabels]
    exact returned_run hlogs

/-- **The event ring is a FIFO and fails closed.**  A publish stores its event
    and, on a full ring, drops the oldest one and fails closed; and every run
    has a log of such publishes and of its polls, in which a call that dropped
    an event failed closed and did not answer OK, the events stored are those
    removed and then those still in the ring, and the events handed out are
    those the polls returned. -/
theorem event_ring_fails_closed (L : ModelLibrary F) {w₀ w : World F} {es : List (Label F)}
    (hinit : w₀.Initial) (hrun : (system L).Run w₀ es w) :
    (∀ (c : Controller F) kind cause id, c.Stores kind cause id) ∧
    ∃ logs, (eventSystem L).Run w₀ logs w ∧ logs.map Prod.fst = es ∧
      (entries logs).filterMap Ring.Entry.added =
        (entries logs).filterMap Ring.Entry.removed ++ w.controller.events.toList ∧
      (entries logs).filterMap Ring.Entry.returned = es.filterMap returnedEvent :=
  ⟨publish_stores, fifo_run hinit hrun⟩

/-- Verified, armed and polled once, the ring handed out the oldest of its two
    events and holds the other. -/
theorem event_ring_polled :
    let polled := call silentLibrary (armedWorld (F := ℚ) silentLibrary) .pollEvent
    let labels := armingLabels ℚ ++ [(.pollEvent, polled.2)]
    polled.1.controller.events.toList.length = 1 ∧
      (∀ (c : Controller ℚ) kind cause id, c.Stores kind cause id) ∧
      ∃ logs, (eventSystem silentLibrary).Run (standardWorld ℚ) logs polled.1 ∧
        logs.map Prod.fst = labels ∧
        (entries logs).filterMap Ring.Entry.added =
          (entries logs).filterMap Ring.Entry.removed ++ polled.1.controller.events.toList ∧
        (entries logs).filterMap Ring.Entry.returned = labels.filterMap returnedEvent := by
  refine ⟨by decide +kernel, ?_⟩
  exact event_ring_fails_closed silentLibrary standardWorld_initial
    ((armedWorld_run silentLibrary).snoc (call_step silentLibrary _ .pollEvent))

end OpenArm.Control
