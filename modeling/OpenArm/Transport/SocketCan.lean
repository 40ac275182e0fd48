/-
  OpenArm.Transport.SocketCan — the link events of a SocketCAN backend.

  The kernel changes the link at any time: it queues a netlink message, and a
  link that goes down leaves an error on the CAN socket too.  `receive` runs in
  steps between which the kernel may act.  `link_up_` and the queued events are
  those of `SocketCanBackend`.

  Main results:
    * `parse_linkMessage`    — a message of the kernel is one transition.
    * `link_events_faithful` — the events alternate and end with the state of
      the link, in runs that read no stale error.
    * `flap_misreported`     — one that does.
-/
import OpenArm.Lib.Records
import OpenArm.Lib.Transition
import OpenArm.Transport.Classifier

namespace OpenArm.Transport

open OpenArm.Lib

/-! ## §1. Datagrams. -/

/-- `sizeof(struct nlmsghdr)`. -/
def linkHeaderSize : Nat := 16

/-- The header and `struct ifinfomsg`. -/
def linkMessageSize : Nat := 32

/-- `batch.states.size()`. -/
def batchSize : Nat := 64

/-- The state a message reports: up and running, and not deleted. -/
def messageUp (message : List UInt8) : Bool :=
  decide (word16 message 4 = 16 ∧ word32 message 24 &&& 0x1 ≠ 0 ∧ word32 message 24 &&& 0x40 ≠ 0)

/-- `RTM_NEWLINK` or `RTM_DELLINK` of this interface. -/
def AboutLink (message : List UInt8) (ifindex : Nat) : Prop :=
  (word16 message 4 = 16 ∨ word16 message 4 = 17) ∧ linkMessageSize ≤ word32 message 0 ∧
    0 < word32 message 20 ∧ word32 message 20 < 2 ^ 31 ∧ word32 message 20 = ifindex

instance (message : List UInt8) (ifindex : Nat) : Decidable (AboutLink message ifindex) := by
  unfold AboutLink
  infer_instance

/-- One round of the loop of `parseLinkDatagram`; the offset is kept for the
    check behind the loop. -/
def linkTurn (data : List UInt8) (ifindex offset : Nat) (s : Nat × List Bool) :
    Except Status (Turn (Nat × List Bool)) :=
  let message := data.drop offset
  let messageLength := word32 message 0
  if messageLength < linkHeaderSize ∨ data.length - offset < messageLength then .error .eframe
  -- NLMSG_ERROR and NLMSG_OVERRUN
  else if word16 message 4 = 2 ∨ word16 message 4 = 4 then .error .eio
  else if AboutLink message ifindex ∧ s.2.length = batchSize then .error .eio
  else
    let states := if AboutLink message ifindex then s.2 ++ [messageUp message] else s.2
    match advance messageLength (data.length - offset) with
    | none => .error .eframe
    | some n => .ok (.advanced (offset + n, states) (offset + n))

/-- `parseLinkDatagram`: the loop runs while a header fits. -/
def parseLinkDatagram (data : List UInt8) (ifindex : Nat) : Except Status (List Bool) :=
  if data.length < linkHeaderSize ∨ ifindex = 0 then .error .eframe
  else
    match whileBelow (data.length - (linkHeaderSize - 1)) (linkTurn data ifindex)
        (fun _ => Status.eio) data.length 0 (0, []) with
    | .error e => .error e
    | .ok (offset, states) => if offset ≠ data.length then .error .eframe else .ok states

/-- `sizeof(buffer)` of `drainLinkEvents`. -/
def drainBufferSize : Nat := 8192

/-- The message the kernel sends when the link changes to this state. -/
structure LinkMessage (ifindex : Nat) (up : Bool) (message : List UInt8) : Prop where
  length : word32 message 0 = message.length
  size : linkMessageSize ≤ message.length ∧ message.length ≤ drainBufferSize
  type : word16 message 4 = 16 ∨ word16 message 4 = 17
  index : 0 < ifindex ∧ ifindex < 2 ^ 31 ∧ word32 message 20 = ifindex
  state : messageUp message = up

/-- **A message of the kernel is one transition.** -/
theorem parse_linkMessage {ifindex : Nat} {up : Bool} {message : List UInt8}
    (h : LinkMessage ifindex up message) : parseLinkDatagram message ifindex = .ok [up] := by
  obtain ⟨hsize, _⟩ := h.size
  obtain ⟨hpositive, hsigned, hindex⟩ := h.index
  have habout : AboutLink message ifindex := by
    refine ⟨h.type, ?_, ?_, ?_, hindex⟩
    · rw [h.length]
      exact hsize
    · omega
    · omega
  unfold linkMessageSize at hsize
  have hnoError : ¬ (word16 message 4 = 2 ∨ word16 message 4 = 4) := by
    have htype := h.type
    omega
  have hturn : linkTurn message ifindex 0 (0, []) =
      .ok (.advanced (message.length, [up]) message.length) := by
    unfold linkTurn linkHeaderSize
    rw [List.drop_zero]
    dsimp only
    rw [h.length, if_neg (by omega), if_neg hnoError, if_neg (by simp [batchSize]), if_pos habout,
      Nat.sub_zero, advance_all, h.state]
    simp
  obtain ⟨fuel, hfuel⟩ := Nat.exists_eq_succ_of_ne_zero (show message.length ≠ 0 by omega)
  have hloop : whileBelow (message.length - (linkHeaderSize - 1)) (linkTurn message ifindex)
      (fun _ => Status.eio) message.length 0 (0, []) = .ok (message.length, [up]) := by
    have hbelow : 0 < message.length - (linkHeaderSize - 1) := by
      unfold linkHeaderSize
      omega
    rw [show message.length = fuel + 1 from hfuel] at hbelow hturn ⊢
    rw [whileBelow_succ hbelow, hturn]
    exact whileBelow_end (by omega)
  unfold parseLinkDatagram
  rw [if_neg (by unfold linkHeaderSize; omega), hloop]
  simp

/-! ## §2. The backend and the kernel. -/

/-- Where a call of `receive` stands. -/
inductive Phase where
  /-- No call is running. -/
  | idle
  /-- Before `wait`. -/
  | waiting
  /-- In `drainLinkEvents`. -/
  | draining
  /-- In `receiveCan`. -/
  | reading
  deriving DecidableEq

/-- The members `receive` works with, and what the kernel holds for it. -/
structure SocketState where
  phase : Phase
  /-- `link_up_`. -/
  linkUp : Bool
  /-- `link_events_`, from head to tail. -/
  linkEvents : List Bool
  /-- The state of the link. -/
  up : Bool
  /-- The datagrams on the netlink socket. -/
  netlink : List (List UInt8)
  /-- The pending ENETDOWN errors of the CAN socket. -/
  errors : Nat
  /-- The frames on the CAN socket. -/
  frames : Nat
  deriving DecidableEq

/-- What a call of `receive` returns. -/
inductive Output where
  | link (up : Bool)
  | frame (linkUp : Bool)
  | timeout
  | failed
  deriving DecidableEq

/-- `link_events_.size()`. -/
def linkEventsSize : Nat := 64

/-- `enqueueLink`. -/
def enqueueLink (linkEvents : List Bool) (up : Bool) : Option (List Bool) :=
  if linkEvents.length = linkEventsSize then none else some (linkEvents ++ [up])

/-- The loop of `drainLinkEvents` over the states of a batch; the flag says
    whether every transition found a place. -/
def noteStates (linkUp : Bool) (linkEvents : List Bool) : List Bool → Bool × List Bool × Bool
  | [] => (linkUp, linkEvents, true)
  | state :: states =>
    if state ≠ linkUp then
      match enqueueLink linkEvents state with
      | none => (state, linkEvents, false)
      | some linkEvents => noteStates state linkEvents states
    else noteStates linkUp linkEvents states

namespace SocketState

variable (s : SocketState) (ifindex : Nat)

/-- `dequeueLink`, at the end of a call. -/
def dequeueLink : SocketState × Option Output :=
  match s.linkEvents with
  | [] => ({ s with phase := .idle }, some .failed)
  | up :: linkEvents => ({ s with phase := .idle, linkEvents }, some (.link up))

/-- A call begins: queued events come first. -/
def start : SocketState × Option Output :=
  if s.linkEvents ≠ [] then s.dequeueLink else ({ s with phase := .waiting }, none)

/-- `wait` finds a descriptor ready; netlink is looked at first. -/
def wait : Option (SocketState × Option Output) :=
  if s.netlink ≠ [] then some ({ s with phase := .draining }, none)
  else if s.errors ≠ 0 ∨ s.frames ≠ 0 then some ({ s with phase := .reading }, none)
  else none

/-- One round of `drainLinkEvents`, and what `receive` does behind the last. -/
def drain : SocketState × Option Output :=
  match s.netlink with
  | [] => if s.linkEvents ≠ [] then s.dequeueLink else ({ s with phase := .waiting }, none)
  | datagram :: netlink =>
    if drainBufferSize < datagram.length then ({ s with phase := .idle, netlink }, some .failed)
    else
      match parseLinkDatagram datagram ifindex with
      | .error _ => ({ s with phase := .idle, netlink }, some .failed)
      | .ok states =>
        match noteStates s.linkUp s.linkEvents states with
        | (linkUp, linkEvents, true) => ({ s with linkUp, linkEvents, netlink }, none)
        | (linkUp, linkEvents, false) =>
          ({ s with phase := .idle, linkUp, linkEvents, netlink }, some .failed)

/-- `receiveCan`: the error of the socket comes before its frames. -/
def receiveCan : SocketState × Option Output :=
  if s.errors ≠ 0 then
    ({ s with phase := .idle, linkUp := false, errors := s.errors - 1 }, some (.link false))
  else if s.frames ≠ 0 then
    ({ s with phase := .idle, frames := s.frames - 1 }, some (.frame s.linkUp))
  else ({ s with phase := .waiting }, none)

end SocketState

/-- What may happen next: the kernel acts, or a call of `receive` goes on. -/
inductive Move where
  /-- The link changes, and the kernel sends this message. -/
  | transition (message : List UInt8)
  | frameArrives
  /-- `receive` is called. -/
  | start
  /-- A descriptor is ready. -/
  | wait
  /-- A round of the loop in `drainLinkEvents`. -/
  | drain
  | receiveCan
  /-- The deadline has passed. -/
  | expire
  deriving DecidableEq

/-- What a move does, if it is possible. -/
def SocketState.perform (ifindex : Nat) (s : SocketState) : Move →
    Option (SocketState × Option Output)
  | .transition message =>
    some ({ s with
      up := !s.up
      netlink := s.netlink ++ [message]
      errors := if s.up then s.errors + 1 else s.errors }, none)
  | .frameArrives => some ({ s with frames := s.frames + 1 }, none)
  | .start => if s.phase = .idle then some s.start else none
  | .wait => if s.phase = .waiting then s.wait else none
  | .drain => if s.phase = .draining then some (s.drain ifindex) else none
  | .receiveCan => if s.phase = .reading then some s.receiveCan else none
  | .expire =>
    if s.phase = .idle ∨ s.phase = .waiting then some ({ s with phase := .idle }, some .timeout)
    else none

/-- The messages of the kernel are well formed. -/
def Move.Genuine (ifindex : Nat) (s : SocketState) : Move → Prop
  | .transition message => LinkMessage ifindex (!s.up) message
  | _ => True

/-- A backend that has just been made: the first event is the initial state. -/
def SocketState.initial (up : Bool) : SocketState := ⟨.idle, up, [up], up, [], 0, 0⟩

/-- Calls of `receive` and transitions of the link, in any order. -/
def socketSystem (ifindex : Nat) : Lts SocketState (Move × Option Output) where
  init s := s = .initial s.up
  step s e s' := e.1.Genuine ifindex s ∧ s.perform ifindex e.1 = some (s', e.2)

/-- The LINK events a run has returned. -/
def linkEventsOf (es : List (Move × Option Output)) : List Bool :=
  es.filterMap fun e =>
    match e.2 with
    | some (.link up) => some up
    | _ => none

/-- Events that alternate, beginning with this one. -/
def Alternates (initial : Bool) (events : List Bool) : Prop :=
  (∀ up ∈ events.head?, up = initial) ∧ events.IsChain (· ≠ ·)

/-- The error that is read is not stale: the backend still believes the link to
    be up, and the message of a transition is on its way. -/
def Move.Timely (s : SocketState) : Move → Prop
  | .receiveCan => s.errors ≠ 0 → s.linkUp = true ∧ s.netlink ≠ []
  | _ => True

/-! ## §3. The invariant. -/

/-- What holds between steps: the events returned and queued alternate and end
    with `link_up_`, and the messages on their way lead to the link's state. -/
structure Tracked (ifindex : Nat) (initial : Bool) (es : List (Move × Option Output))
    (s : SocketState) : Prop where
  alternates : Alternates initial (linkEventsOf es ++ s.linkEvents)
  last : (linkEventsOf es ++ s.linkEvents).getLast? = some s.linkUp
  messages : ∃ states : List Bool, List.Forall₂ (LinkMessage ifindex) states s.netlink ∧
    states.getLastD s.linkUp = s.up
  empty : s.phase = .waiting ∨ s.phase = .reading → s.linkEvents = []

theorem linkEventsOf_snoc (es : List (Move × Option Output)) (e : Move × Option Output) :
    linkEventsOf (es ++ [e]) = linkEventsOf es ++ linkEventsOf [e] := List.filterMap_append

/-- One more event that is not the last one again. -/
theorem Alternates.snoc {initial up : Bool} {events : List Bool} (h : Alternates initial events)
    (hlast : events.getLast? = some (!up)) : Alternates initial (events ++ [up]) := by
  obtain ⟨hfirst, hchain⟩ := h
  have hne : events ≠ [] := by
    rintro rfl
    cases hlast
  refine ⟨fun x hx => hfirst x ?_, ?_⟩
  · rwa [List.head?_append_of_ne_nil _ hne] at hx
  · rw [List.isChain_append]
    refine ⟨hchain, List.isChain_singleton _, fun x hx y hy => ?_⟩
    rw [hlast] at hx
    cases hx
    cases hy
    simp

section Steps

variable {ifindex : Nat} {initial : Bool} {es : List (Move × Option Output)} {s s' : SocketState}
  {m : Move} {out : Option Output}

/-- A step that neither returns an event nor touches the events. -/
theorem Tracked.quiet (h : Tracked ifindex initial es s) (hnone : linkEventsOf [(m, out)] = [])
    (hevents : s'.linkEvents = s.linkEvents) (hup : s'.linkUp = s.linkUp)
    (hmessages : ∃ states : List Bool, List.Forall₂ (LinkMessage ifindex) states s'.netlink ∧
      states.getLastD s'.linkUp = s'.up)
    (hempty : s'.phase = .waiting ∨ s'.phase = .reading → s.linkEvents = []) :
    Tracked ifindex initial (es ++ [(m, out)]) s' where
  alternates := by
    rw [linkEventsOf_snoc, hnone, List.append_nil, hevents]
    exact h.alternates
  last := by
    rw [linkEventsOf_snoc, hnone, List.append_nil, hevents, hup]
    exact h.last
  messages := hmessages
  empty := by
    rw [hevents]
    exact hempty

/-- **The head of the queue is returned.** -/
theorem Tracked.dequeue (h : Tracked ifindex initial es s)
    (hdequeue : s.dequeueLink = (s', out)) (hok : out ≠ some .failed) :
    Tracked ifindex initial (es ++ [(m, out)]) s' := by
  unfold SocketState.dequeueLink at hdequeue
  split at hdequeue
  · cases hdequeue
    exact absurd rfl hok
  · next up linkEvents hqueue =>
    cases hdequeue
    have hmoved : linkEventsOf (es ++ [(m, some (.link up))]) ++ linkEvents =
        linkEventsOf es ++ s.linkEvents := by
      rw [linkEventsOf_snoc, hqueue, List.append_assoc]
      rfl
    refine ⟨?_, ?_, h.messages, fun hphase => ?_⟩
    · show Alternates initial (_ ++ linkEvents)
      rw [hmoved]
      exact h.alternates
    · show (_ ++ linkEvents).getLast? = _
      rw [hmoved]
      exact h.last
    · obtain hphase | hphase := hphase <;> cases hphase

/-- **The kernel changes the link.** -/
theorem Tracked.transition (h : Tracked ifindex initial es s) {message : List UInt8}
    (hgenuine : LinkMessage ifindex (!s.up) message)
    (hstep : s.perform ifindex (.transition message) = some (s', out)) :
    Tracked ifindex initial (es ++ [(.transition message, out)]) s' := by
  cases hstep
  obtain ⟨states, hall, _⟩ := h.messages
  refine h.quiet rfl rfl rfl ⟨states ++ [!s.up], ?_, ?_⟩ h.empty
  · exact List.rel_append hall (.cons hgenuine .nil)
  · simp

/-- **A message is taken from the netlink socket.** -/
theorem Tracked.drain (h : Tracked ifindex initial es s) (hphase : s.phase = .draining)
    (hstep : s.drain ifindex = (s', out)) (hok : out ≠ some .failed) :
    Tracked ifindex initial (es ++ [(m, out)]) s' := by
  unfold SocketState.drain at hstep
  split at hstep
  · split at hstep
    · exact h.dequeue hstep hok
    · next hqueue =>
      cases hstep
      exact h.quiet rfl rfl rfl h.messages fun _ => not_not.mp hqueue
  · next datagram netlink hnetlink =>
    obtain ⟨states, hall, hlast⟩ := h.messages
    rw [hnetlink] at hall
    obtain ⟨up, states, hmessage, hrest, rfl⟩ := List.forall₂_cons_right_iff.mp hall
    rw [if_neg (Nat.not_lt.mpr hmessage.size.2), parse_linkMessage hmessage] at hstep
    dsimp only at hstep
    have hdraining : s'.phase = .draining → ¬ (s'.phase = .waiting ∨ s'.phase = .reading) := by
      intro heq
      rw [heq]
      simp
    by_cases hsame : up = s.linkUp
    · -- the state is known already
      have hnote : noteStates s.linkUp s.linkEvents [up] = (s.linkUp, s.linkEvents, true) := by
        unfold noteStates
        rw [if_neg (not_not.mpr hsame)]
        rfl
      rw [hnote] at hstep
      cases hstep
      refine h.quiet rfl rfl rfl ⟨states, hrest, ?_⟩ fun hwait => absurd hwait (hdraining hphase)
      rw [List.getLastD_cons, hsame] at hlast
      exact hlast
    · have hother : s.linkUp = !up := by
        cases hup : s.linkUp <;> cases hu : up <;> simp [hup, hu] at hsame ⊢
      have hnote : noteStates s.linkUp s.linkEvents [up] =
          if s.linkEvents.length = linkEventsSize then (up, s.linkEvents, false)
          else (up, s.linkEvents ++ [up], true) := by
        unfold noteStates enqueueLink
        rw [if_pos hsame]
        by_cases hfull : s.linkEvents.length = linkEventsSize
        · rw [if_pos hfull, if_pos hfull]
        · rw [if_neg hfull, if_neg hfull]
          rfl
      rw [hnote] at hstep
      by_cases hfull : s.linkEvents.length = linkEventsSize
      · rw [if_pos hfull] at hstep
        cases hstep
        exact absurd rfl hok
      · rw [if_neg hfull] at hstep
        cases hstep
        have hgrown : linkEventsOf (es ++ [(m, none)]) ++ (s.linkEvents ++ [up]) =
            linkEventsOf es ++ s.linkEvents ++ [up] := by
          rw [linkEventsOf_snoc, List.append_assoc, List.append_assoc]
          rfl
        refine ⟨?_, ?_, ⟨states, hrest, ?_⟩, fun hwait => absurd hwait (hdraining hphase)⟩
        · show Alternates initial (_ ++ (s.linkEvents ++ [up]))
          rw [hgrown]
          exact h.alternates.snoc (by rw [h.last, hother])
        · show (_ ++ (s.linkEvents ++ [up])).getLast? = _
          rw [hgrown, List.getLast?_concat]
        · rw [List.getLastD_cons] at hlast
          exact hlast

/-- **An error is read from the CAN socket**, before its message. -/
theorem Tracked.receiveCan (h : Tracked ifindex initial es s) (hphase : s.phase = .reading)
    (htimely : s.errors ≠ 0 → s.linkUp = true ∧ s.netlink ≠ [])
    (hstep : s.receiveCan = (s', out)) : Tracked ifindex initial (es ++ [(m, out)]) s' := by
  have hqueue := h.empty (Or.inr hphase)
  unfold SocketState.receiveCan at hstep
  split at hstep
  · next herrors =>
    obtain ⟨hup, hnetlink⟩ := htimely herrors
    cases hstep
    have hgrown : linkEventsOf (es ++ [(m, some (.link false))]) ++ s.linkEvents =
        linkEventsOf es ++ s.linkEvents ++ [false] := by
      rw [linkEventsOf_snoc, hqueue, List.append_nil, List.append_nil]
      rfl
    refine ⟨?_, ?_, ?_, fun hwait => ?_⟩
    · show Alternates initial (_ ++ s.linkEvents)
      rw [hgrown]
      exact h.alternates.snoc (by rw [h.last, hup]; rfl)
    · show (_ ++ s.linkEvents).getLast? = _
      rw [hgrown, List.getLast?_concat]
    · -- the messages on their way do not depend on what the backend believed
      obtain ⟨states, hall, hlast⟩ := h.messages
      have hne : states ≠ [] := by
        rintro rfl
        exact hnetlink (List.forall₂_nil_left_iff.mp hall)
      refine ⟨states, hall, ?_⟩
      obtain ⟨up, rest, rfl⟩ := List.exists_cons_of_ne_nil hne
      rw [List.getLastD_cons] at hlast ⊢
      exact hlast
    · obtain hwait | hwait := hwait <;> cases hwait
  · split at hstep
    · cases hstep
      exact h.quiet rfl rfl rfl h.messages fun _ => hqueue
    · cases hstep
      exact h.quiet rfl rfl rfl h.messages fun _ => hqueue

/-- **What one step keeps.** -/
theorem Tracked.perform (h : Tracked ifindex initial es s) (hgenuine : m.Genuine ifindex s)
    (hstep : s.perform ifindex m = some (s', out)) (hok : out ≠ some .failed)
    (htimely : m.Timely s) : Tracked ifindex initial (es ++ [(m, out)]) s' := by
  cases m with
  | transition message => exact h.transition hgenuine hstep
  | frameArrives =>
    cases hstep
    exact h.quiet rfl rfl rfl h.messages h.empty
  | start =>
    change (if s.phase = .idle then some s.start else none) = some (s', out) at hstep
    split at hstep
    · have hstart := Option.some.inj hstep
      unfold SocketState.start at hstart
      split at hstart
      · exact h.dequeue hstart hok
      · next hqueue =>
        cases hstart
        exact h.quiet rfl rfl rfl h.messages fun _ => not_not.mp hqueue
    · cases hstep
  | wait =>
    change (if s.phase = .waiting then s.wait else none) = some (s', out) at hstep
    split at hstep
    · next hphase =>
      have hqueue := h.empty (Or.inl hphase)
      unfold SocketState.wait at hstep
      split at hstep
      · cases hstep
        exact h.quiet rfl rfl rfl h.messages fun _ => hqueue
      · split at hstep
        · cases hstep
          exact h.quiet rfl rfl rfl h.messages fun _ => hqueue
        · cases hstep
    · cases hstep
  | drain =>
    change (if s.phase = .draining then some (s.drain ifindex) else none) = some (s', out) at hstep
    split at hstep
    · next hphase => exact h.drain hphase (Option.some.inj hstep) hok
    · cases hstep
  | receiveCan =>
    change (if s.phase = .reading then some s.receiveCan else none) = some (s', out) at hstep
    split at hstep
    · next hphase => exact h.receiveCan hphase htimely (Option.some.inj hstep)
    · cases hstep
  | expire =>
    change (if s.phase = .idle ∨ s.phase = .waiting then
      some ({ s with phase := .idle }, some .timeout) else none) = some (s', out) at hstep
    split at hstep
    · cases hstep
      refine h.quiet rfl rfl rfl h.messages fun hwait => ?_
      obtain hwait | hwait := hwait <;> cases hwait
    · cases hstep

end Steps

/-! ## §4. Whole runs. -/

/-- The runs in which no call fails and no error that is read is stale. -/
def timelySystem (ifindex : Nat) : Lts SocketState (Move × Option Output) :=
  (socketSystem ifindex).restrict fun s e _ => e.2 ≠ some .failed ∧ e.1.Timely s

theorem Tracked.initial (ifindex : Nat) (up : Bool) :
    Tracked ifindex up [] (SocketState.initial up) where
  alternates := by
    refine ⟨?_, List.isChain_singleton _⟩
    intro first hfirst
    cases hfirst
    rfl
  last := rfl
  messages := ⟨[], .nil, rfl⟩
  empty := by
    intro hphase
    obtain hphase | hphase := hphase <;> cases hphase

/-- The invariant holds along a run. -/
theorem tracked_run {ifindex : Nat} {s₀ s : SocketState} {es : List (Move × Option Output)}
    (hinit : (socketSystem ifindex).init s₀) (hrun : (timelySystem ifindex).Run s₀ es s) :
    Tracked ifindex s₀.up es s := by
  induction hrun with
  | nil =>
    have hstart := Tracked.initial ifindex s₀.up
    rw [← show s₀ = SocketState.initial s₀.up from hinit] at hstart
    exact hstart
  | snoc _ last ih =>
    obtain ⟨⟨hgenuine, hstep⟩, hok, htimely⟩ := last
    exact ih.perform hgenuine hstep hok htimely

/-- What was returned alternates whatever is still queued. -/
theorem Alternates.of_append {initial : Bool} {front back : List Bool}
    (h : Alternates initial (front ++ back)) : Alternates initial front := by
  refine ⟨fun up hup => h.1 up ?_, (List.isChain_append.mp h.2).1⟩
  have hne : front ≠ [] := by
    rintro rfl
    cases hup
  rwa [List.head?_append_of_ne_nil _ hne]

/-- **The LINK events alternate strictly from the initial one, and end with the
    state of the link once everything is read**, where each error is read before
    the message of its transition. -/
theorem link_events_faithful {ifindex : Nat} {s₀ s : SocketState}
    {es : List (Move × Option Output)} (hinit : (socketSystem ifindex).init s₀)
    (hrun : (timelySystem ifindex).Run s₀ es s) :
    Alternates s₀.up (linkEventsOf es) ∧
      (s.netlink = [] → s.errors = 0 → s.linkUp = s.up ∧
        (s.linkEvents = [] → (linkEventsOf es).getLast? = some s.up)) := by
  have h := tracked_run hinit hrun
  refine ⟨h.alternates.of_append, fun hnetlink _ => ?_⟩
  have hup : s.linkUp = s.up := by
    obtain ⟨states, hall, hlast⟩ := h.messages
    rw [hnetlink] at hall
    obtain rfl := List.forall₂_nil_right_iff.mp hall
    exact hlast
  refine ⟨hup, fun hqueue => ?_⟩
  have hlast := h.last
  rw [hqueue, List.append_nil, hup] at hlast
  exact hlast

instance (ifindex : Nat) (up : Bool) (message : List UInt8) :
    Decidable (LinkMessage ifindex up message) :=
  decidable_of_iff (word32 message 0 = message.length ∧
      (linkMessageSize ≤ message.length ∧ message.length ≤ drainBufferSize) ∧
      (word16 message 4 = 16 ∨ word16 message 4 = 17) ∧
      (0 < ifindex ∧ ifindex < 2 ^ 31 ∧ word32 message 20 = ifindex) ∧ messageUp message = up)
    ⟨fun h => ⟨h.1, h.2.1, h.2.2.1, h.2.2.2.1, h.2.2.2.2⟩,
      fun h => ⟨h.length, h.size, h.type, h.index, h.state⟩⟩

instance (ifindex : Nat) (s : SocketState) : (m : Move) → Decidable (m.Genuine ifindex s)
  | .transition message => inferInstanceAs (Decidable (LinkMessage ifindex (!s.up) message))
  | .frameArrives => .isTrue trivial
  | .start => .isTrue trivial
  | .wait => .isTrue trivial
  | .drain => .isTrue trivial
  | .receiveCan => .isTrue trivial
  | .expire => .isTrue trivial

instance (s : SocketState) : (m : Move) → Decidable (m.Timely s)
  | .receiveCan => inferInstanceAs (Decidable (s.errors ≠ 0 → s.linkUp = true ∧ s.netlink ≠ []))
  | .transition _ => .isTrue trivial
  | .frameArrives => .isTrue trivial
  | .start => .isTrue trivial
  | .wait => .isTrue trivial
  | .drain => .isTrue trivial
  | .expire => .isTrue trivial

instance (initial : Bool) (events : List Bool) : Decidable (Alternates initial events) := by
  unfold Alternates
  infer_instance

/-- The moves one after the other, as long as each is allowed. -/
def SocketState.performAll (ifindex : Nat) (allowed : SocketState → Move → Bool)
    (s : SocketState) : List Move → Option (List (Move × Option Output) × SocketState)
  | [] => some ([], s)
  | m :: ms =>
    match s.perform ifindex m with
    | none => none
    | some (s', out) =>
      if m.Genuine ifindex s ∧ out ≠ some .failed ∧ allowed s m = true then
        (s'.performAll ifindex allowed ms).map fun (es, last) => ((m, out) :: es, last)
      else none

/-- Moves that are performed are a run. -/
theorem performAll_run {ifindex : Nat} {allowed : SocketState → Move → Bool}
    {ms : List Move} : ∀ {s s' : SocketState} {es : List (Move × Option Output)},
    s.performAll ifindex allowed ms = some (es, s') →
      ((socketSystem ifindex).restrict fun s e _ =>
        e.2 ≠ some .failed ∧ allowed s e.1 = true).Run s es s' := by
  induction ms with
  | nil =>
    intro s s' es h
    cases h
    exact .nil s
  | cons m ms ih =>
    intro s s' es h
    unfold SocketState.performAll at h
    split at h
    · cases h
    · next next out hperform =>
      split at h
      · next hallowed =>
        obtain ⟨⟨rest, last⟩, hrest, heq⟩ := Option.map_eq_some_iff.mp h
        cases heq
        exact Lts.Run.cons ⟨⟨hallowed.1, hperform⟩, hallowed.2⟩ (ih hrest)
      · cases h

/-- The message for interface 5, with these flags. -/
def exampleMessage (flags : UInt8) : List UInt8 :=
  [32, 0, 0, 0, 16, 0, 0, 0] ++ List.replicate 12 0 ++ [5, 0, 0, 0, flags, 0, 0, 0] ++
    List.replicate 4 0

/-- The link goes down while `receive` reads the CAN socket. -/
def racingMoves : List Move :=
  [.start, .frameArrives, .start, .wait, .transition (exampleMessage 1), .receiveCan,
    .start, .wait, .drain, .drain, .expire]

theorem link_events_racing :
    ∃ es s, (timelySystem 5).Run (.initial true) es s ∧ s.netlink = [] ∧ s.errors = 0 ∧
      s.linkEvents = [] ∧ linkEventsOf es = [true, false] ∧
      Alternates true (linkEventsOf es) ∧ s.linkUp = s.up ∧
      (linkEventsOf es).getLast? = some s.up := by
  have hinit : (socketSystem 5).init (.initial true) := rfl
  obtain ⟨⟨es, s⟩, hmoves⟩ := Option.isSome_iff_exists.mp
    (show ((SocketState.initial true).performAll 5 (fun s m => decide (m.Timely s))
      racingMoves).isSome = true by decide +kernel)
  have hrun : (timelySystem 5).Run (.initial true) es s :=
    (performAll_run hmoves).mono fun _ _ _ hstep =>
      ⟨hstep.1, hstep.2.1, of_decide_eq_true hstep.2.2⟩
  have hend : (((SocketState.initial true).performAll 5 (fun s m => decide (m.Timely s))
      racingMoves).all fun r => decide (r.2.netlink = [] ∧ r.2.errors = 0 ∧
        r.2.linkEvents = [] ∧ linkEventsOf r.1 = [true, false])) = true := by
    decide +kernel
  rw [hmoves, Option.all_some] at hend
  obtain ⟨hnetlink, herrors, hqueue, hlog⟩ := of_decide_eq_true hend
  obtain ⟨halternates, hdrained⟩ := link_events_faithful hinit hrun
  obtain ⟨hup, hlast⟩ := hdrained hnetlink herrors
  exact ⟨es, s, hrun, hnetlink, herrors, hqueue, hlog, halternates, hup, hlast hqueue⟩

/-- The link goes down twice; each time its message is read before the error. -/
def staleMoves : List Move :=
  [.start, .transition (exampleMessage 1), .start, .wait, .drain, .drain, .start, .wait,
    .receiveCan, .transition (exampleMessage 65), .start, .wait, .drain, .drain,
    .transition (exampleMessage 1), .start, .wait, .drain, .drain,
    .transition (exampleMessage 65), .start, .wait, .drain, .drain, .start, .wait, .receiveCan]

/-- **An error read late is a second event for one transition**, and with the
    link up again it leaves the backend wrong. -/
theorem flap_misreported :
    ∃ es s, (socketSystem 5).init (.initial true) ∧ (socketSystem 5).Run (.initial true) es s ∧
      (∀ e ∈ es, e.2 ≠ some .failed) ∧ s.netlink = [] ∧ s.errors = 0 ∧ s.linkEvents = [] ∧
      ¬ Alternates true (linkEventsOf es) ∧ s.up = true ∧ s.linkUp = false ∧
      (linkEventsOf es).getLast? = some false := by
  obtain ⟨⟨es, s⟩, hmoves⟩ := Option.isSome_iff_exists.mp
    (show ((SocketState.initial true).performAll 5 (fun _ _ => true) staleMoves).isSome = true by
      decide +kernel)
  have hend : (((SocketState.initial true).performAll 5 (fun _ _ => true) staleMoves).all fun r =>
      decide ((∀ e ∈ r.1, e.2 ≠ some .failed) ∧ r.2.netlink = [] ∧ r.2.errors = 0 ∧
        r.2.linkEvents = [] ∧ ¬ Alternates true (linkEventsOf r.1) ∧ r.2.up = true ∧
        r.2.linkUp = false ∧ (linkEventsOf r.1).getLast? = some false)) = true := by
    decide +kernel
  rw [hmoves, Option.all_some] at hend
  exact ⟨es, s, rfl, (performAll_run hmoves).of_restrict, of_decide_eq_true hend⟩

end OpenArm.Transport
