/-
  OpenArm.Control.Walk — the moves a call of the controller is made of.

  A public operation makes one write of its own and publishes it, or it is a
  short walk over the bodies it shares with the others: a write of registers,
  a cycle of the arms, a stop, a publish.  A latch into FAULT or ESTOP and a
  publish on a full ring always end the call, and a call that overflowed the
  ring does not return OK.

  Main results:
    * `call_ends`        — the walk of every call.
    * `ArmRuntime.Feeds` — nothing is measured without a generation.
-/
import OpenArm.Control.CycleEffect
import OpenArm.Control.Frame

namespace OpenArm.Control

open OpenArm.Lib

variable {F : Type} [Floating F]

/-! ## §1. Feedback of one arm. -/

namespace ArmRuntime

/-- From `r` to `r'` the arm published at most `n` generations, and without
    one it measured nothing. -/
def Feeds (n : Nat) (r r' : ArmRuntime F) : Prop :=
  (r.feedbackSeq ≤ maxU64 → r'.feedbackSeq ≤ maxU64) ∧
    ∃ k ≤ n, wrap64 r'.feedbackSeq = wrap64 (r.feedbackSeq + k) ∧
      (k = 0 → r'.feedbackSeq = r.feedbackSeq ∧
        ∀ j, (r'.motor j).measured = (r.motor j).measured)

theorem wrap64_add_congr {a b : Nat} (k : Nat) (h : wrap64 a = wrap64 b) :
    wrap64 (a + k) = wrap64 (b + k) := by
  unfold wrap64 at h ⊢
  omega

namespace Feeds

variable {n k : Nat} {r m r' : ArmRuntime F}

section

omit [Floating F]

theorem quiet (n : Nat) (hseq : r'.feedbackSeq = r.feedbackSeq)
    (hmeasured : ∀ j, (r'.motor j).measured = (r.motor j).measured) : Feeds n r r' :=
  ⟨fun h => hseq ▸ h, 0, Nat.zero_le n, by rw [hseq, Nat.add_zero], fun _ => ⟨hseq, hmeasured⟩⟩

theorem mono (h : Feeds n r r') (hle : n ≤ k) : Feeds k r r' := by
  obtain ⟨hbound, i, hi, hrest⟩ := h
  exact ⟨hbound, i, hi.trans hle, hrest⟩

theorem trans (h : Feeds n r m) (h' : Feeds k m r') : Feeds (n + k) r r' := by
  obtain ⟨hbound, i, hi, hseq, hnone⟩ := h
  obtain ⟨hbound', j, hj, hseq', hnone'⟩ := h'
  refine ⟨fun h => hbound' (hbound h), i + j, by omega, ?_, fun hzero => ?_⟩
  · rw [hseq', wrap64_add_congr j hseq, Nat.add_assoc]
  · obtain ⟨hs, hm⟩ := hnone (by omega)
    obtain ⟨hs', hm'⟩ := hnone' (by omega)
    exact ⟨hs'.trans hs, fun joint => (hm' joint).trans (hm joint)⟩

end

end Feeds

/-- A forced state is one generation. -/
theorem seq_forceState (r : ArmRuntime F) (q dq : JointVector F) (nowNs : Nat) :
    wrap64 (r.forceState q dq nowNs).feedbackSeq = wrap64 (r.feedbackSeq + 1) := by
  show wrap64 (wrap64 (r.feedbackSeq + 1)) = wrap64 (r.feedbackSeq + 1)
  unfold wrap64
  omega

theorem feeds_forceState (r : ArmRuntime F) (q dq : JointVector F) (nowNs : Nat) :
    Feeds 1 r (r.forceState q dq nowNs) := by
  refine ⟨fun _ => ?_, 1, Nat.le_refl 1, r.seq_forceState q dq nowNs,
    fun h => absurd h Nat.one_ne_zero⟩
  show wrap64 (r.feedbackSeq + 1) ≤ maxU64
  unfold wrap64 maxU64
  omega

theorem feeds_publishOne {r r' : ArmRuntime F} {generation : FeedbackGeneration}
    (h : r.publishOne generation = some r') : Feeds 1 r r' := by
  unfold publishOne at h
  split at h
  · split at h
    · exact absurd h (by simp)
    · rename_i hlast
      cases h
      refine ⟨fun hle => ?_, 1, Nat.le_refl 1, rfl, fun h => absurd h Nat.one_ne_zero⟩
      show r.feedbackSeq + 1 ≤ maxU64
      omega
  · cases h
    exact .quiet 1 rfl fun _ => rfl

theorem feeds_publishDueLoop (nowNs fuel : Nat) (r : ArmRuntime F) :
    Feeds fuel r (publishDueLoop nowNs fuel r).1 := by
  induction fuel generalizing r with
  | zero => exact .quiet 0 rfl fun _ => rfl
  | succ fuel ih =>
    unfold publishDueLoop
    split
    · exact .quiet _ rfl fun _ => rfl
    dsimp only
    split
    · exact .quiet _ rfl fun _ => rfl
    split
    · exact .quiet _ rfl fun _ => rfl
    · rename_i r' hr'
      have hone := feeds_publishOne hr'
      split
      · exact (hone.trans (ih r')).mono (by omega)
      · exact hone.mono (by omega)

theorem measured_capture (m : DamiaoMotorSimulator F) (dtS : F) (captureNs : Nat)
    (frozen : Bool) : (m.capture dtS captureNs frozen).1.measured = m.measured := by
  unfold DamiaoMotorSimulator.capture
  dsimp only
  split <;> rfl

theorem feeds_publishDue {r queued : ArmRuntime F} (nowNs : Nat)
    (hseq : queued.feedbackSeq = r.feedbackSeq)
    (hmeasured : ∀ j, (queued.motor j).measured = (r.motor j).measured) :
    Feeds 64 r (queued.publishDue nowNs).1 := by
  have hdue : Feeds 64 queued (queued.publishDue nowNs).1 :=
    (feeds_publishDueLoop nowNs _ _).mono queued.feedbackQueue.count_le
  exact Nat.zero_add 64 ▸ (Feeds.quiet 0 hseq hmeasured).trans hdue

/-- **A control cycle of one arm** publishes what is due in its queue. -/
theorem feeds_commandAndStep (r : ArmRuntime F) (q dq : JointVector F) (nowNs : Nat) (dtS : F) :
    Feeds 64 r (r.commandAndStep q dq nowNs dtS).1 := by
  unfold commandAndStep
  split
  · exact .quiet 64 rfl fun _ => rfl
  split
  · exact .quiet 64 rfl fun _ => rfl
  dsimp only
  have hcapture := fun joint =>
    measured_capture ((r.motor joint).command (q joint) (dq joint)) dtS nowNs
      (hasJoint r.freezeMask joint)
  split
  · exact .quiet 64 rfl hcapture
  split <;> rename_i published heq <;>
    · have hpub : published = (publishDue _ nowNs).1 := (congrArg Prod.fst heq).symm
      subst hpub
      exact feeds_publishDue nowNs rfl hcapture

end ArmRuntime

/-! ## §2. Moves. -/

namespace Controller

/-- A command is under way and its dwell has not seen a generation of `side`
    since that of the current sequence number. -/
structure Waiting (c : Controller F) (side : Side) : Prop where
  active : c.lifecycle = .executing ∨ c.lifecycle = .stopping
  isVirtual : c.isVirtual = true
  fed : (c.arm side).feedbackSeq ≠ 0
  intervals : c.settleFeedbackIntervals = 0
  same : c.settleStartNs ≠ 0 → c.settleFeedbackSeq side = (c.arm side).feedbackSeq

omit [Floating F] in
theorem not_waiting {c : Controller F} {side : Side} (hexec : c.lifecycle ≠ .executing)
    (hstop : c.lifecycle ≠ .stopping) : ¬ c.Waiting side :=
  fun h => h.active.elim hexec hstop

/-- Neither FAULT nor ESTOP. -/
def Calm (c : Controller F) : Prop := c.lifecycle ≠ .fault ∧ c.lifecycle ≠ .estop

/-- The registers of the challenge. -/
structure Nonces where
  counter : Nat
  outstanding : Nat
  expiryNs : Nat

/-- The challenge registers of a controller. -/
def nonces (c : Controller F) : Nonces :=
  ⟨c.nonceCounter, c.outstandingNonce, c.outstandingChallengeExpiry⟩

/-- `outstanding_nonce_ = ++nonce_counter_` on the registers. -/
def Nonces.rotate (n : Nonces) : Nonces :=
  ⟨wrap64 (n.counter + 1), wrap64 (n.counter + 1), n.expiryNs⟩

/-- Armed, or about to leave it. -/
def Armed (c : Controller F) : Prop :=
  c.lifecycle = .armedIdle ∨ c.lifecycle = .executing ∨ c.lifecycle = .stopping

omit [Floating F] in
theorem Armed.calm {c : Controller F} (h : c.Armed) : c.Calm := by
  unfold Calm
  rcases h with h | h | h <;> simp [h]

/-- One body that several operations share. -/
inductive Move : Controller F → Controller F → Prop where
  /-- Registers other than the arms, the events and the challenge. -/
  | write {c c' : Controller F} (backend : c'.isVirtual = c.isVirtual) (arm : c'.arm = c.arm)
      (events : c'.events = c.events) (nonces : c'.nonces = c.nonces)
      (life : c'.lifecycle = c.lifecycle ∨ c.Armed ∧ c'.Calm)
      (waits : ∀ side, c.Waiting side → c'.Waiting side) : Move c c'
  /-- A cycle, an injection or a forced state of the arms. -/
  | feed {c : Controller F} {arm : Side → ArmRuntime F}
      (feeds : ∀ side, (c.arm side).Feeds 64 (arm side)) : Move c { c with arm := arm }
  /-- A stop that ends the command. -/
  | halt {c c' : Controller F} (hold : Bool) (backend : c'.isVirtual = c.isVirtual)
      (arm : c'.arm = (c.materializeStop hold).arm) (events : c'.events = c.events)
      (nonces : c'.nonces = c.nonces) (armed : c.Armed) (calm : c'.Calm) : Move c c'
  /-- A publish on a ring with room. -/
  | publish (c : Controller F) (kind : EventKind) (cause : ControlStatus) (id : Nat)
      (room : c.events.isFull = false) : Move c (c.publish kind cause id).1

/-- A stop into FAULT or ESTOP, which renews the nonce.  An interlock in a
    state where nothing was verified has no pose to stop at. -/
structure Latch (c c' : Controller F) : Prop where
  backend : c'.isVirtual = c.isVirtual
  arm : (∃ hold, c'.arm = (c.materializeStop hold).arm) ∨
    (c.lifecycle = .closed ∨ c.lifecycle = .verifying) ∧
      c'.arm = fun side => ((c.arm side).setEnabled false).retirePendingFeedback
  events : c'.events = c.events
  nonces : c'.nonces = c.nonces.rotate
  latched : ¬ c'.Calm

/-- `n` moves. -/
inductive Chain : Nat → Controller F → Controller F → Prop where
  | refl (c : Controller F) : Chain 0 c c
  | snoc {n : Nat} {c m c' : Controller F} (front : Chain n c m) (last : Move m c') :
      Chain (n + 1) c c'

/-- At most `n` moves. -/
def Walk (n : Nat) (c c' : Controller F) : Prop := ∃ k ≤ n, Chain k c c'

namespace Walk

variable {n k : Nat} {c m c' : Controller F}

theorem refl (n : Nat) (c : Controller F) : Walk n c c := ⟨0, Nat.zero_le n, .refl c⟩

theorem single (h : Move c c') : Walk 1 c c' := ⟨1, Nat.le_refl 1, .snoc (.refl c) h⟩

theorem mono (h : Walk n c c') (hle : n ≤ k) : Walk k c c' := by
  obtain ⟨i, hi, hchain⟩ := h
  exact ⟨i, hi.trans hle, hchain⟩

theorem trans (h : Walk n c m) (h' : Walk k m c') : Walk (n + k) c c' := by
  obtain ⟨i, hi, hfront⟩ := h
  obtain ⟨j, hj, hback⟩ := h'
  refine ⟨i + j, by omega, ?_⟩
  clear hi hj
  induction hback with
  | refl => exact hfront
  | snoc _ last ih => exact (ih hfront).snoc last

end Walk

theorem Move.armed {c c' : Controller F} (h : Move c c') (harmed : c'.Armed) : c.Armed := by
  cases h with
  | write _ _ _ _ life =>
    obtain hsame | ⟨hc, -⟩ := life
    · unfold Armed at harmed
      rwa [hsame] at harmed
    · exact hc
  | feed => exact harmed
  | halt _ _ _ _ _ armed => exact armed
  | publish kind cause id room =>
    obtain ⟨event, heq⟩ := c.publish_of_room kind cause id room
    rw [heq] at harmed
    exact harmed

/-- No walk arms. -/
theorem Walk.armed {n : Nat} {c c' : Controller F} (h : Walk n c c') (harmed : c'.Armed) :
    c.Armed := by
  obtain ⟨k, -, hchain⟩ := h
  induction hchain with
  | refl => exact harmed
  | snoc _ last ih => exact ih (last.armed harmed)

/-- How a call ends that returns `status`, after a walk of at most `n` moves. -/
inductive Ends (n : Nat) (c : Controller F) : Controller F → ControlStatus → Prop where
  | walk {c' : Controller F} {status : ControlStatus} (walk : Walk n c c') : Ends n c c' status
  /-- A publish on a full ring. -/
  | overflow {m : Controller F} {status : ControlStatus} (kind : EventKind)
      (cause : ControlStatus) (id : Nat) (armed : c.Armed) (walk : Walk n c m)
      (full : m.events.isFull = true) (failed : status ≠ .ok) :
      Ends n c (m.publish kind cause id).1 status
  /-- A latch, with its publish. -/
  | latch {m stopped : Controller F} {status : ControlStatus} (kind : EventKind)
      (cause : ControlStatus) (id : Nat) (walk : Walk n c m) (latch : Latch m stopped)
      (failed : stopped.events.isFull = true → status ≠ .ok) :
      Ends n c (stopped.publish kind cause id).1 status

namespace Ends

variable {n k : Nat} {c m c' : Controller F} {status : ControlStatus}

theorem mono (h : Ends n c c' status) (hle : n ≤ k) : Ends k c c' status := by
  cases h with
  | walk walk => exact .walk (walk.mono hle)
  | overflow kind cause id armed walk full failed =>
    exact .overflow kind cause id armed (walk.mono hle) full failed
  | latch kind cause id walk latch failed =>
    exact .latch kind cause id (walk.mono hle) latch failed

theorem after (hwalk : Walk n c m) (h : Ends k m c' status) : Ends (n + k) c c' status := by
  cases h with
  | walk walk => exact .walk (hwalk.trans walk)
  | overflow kind cause id armed walk full failed =>
    exact .overflow kind cause id (hwalk.armed armed) (hwalk.trans walk) full failed
  | latch kind cause id walk latch failed =>
    exact .latch kind cause id (hwalk.trans walk) latch failed

end Ends

/-- A stage of a cycle: it ends the call, or it lets it go on. -/
def StageWalks {α : Type} (n : Nat) (c : Controller F) (next : α → Controller F) :
    Except (Exit F) α → Prop
  | .error exit => Ends n c exit.1 exit.2
  | .ok a => Walk n c (next a)

/-! ## §3. The shared bodies. -/

theorem ebusy_ne_ok : ControlStatus.ebusy ≠ .ok := by decide

theorem publish_ok_iff (c : Controller F) (kind : EventKind) (cause : ControlStatus) (id : Nat) :
    (c.publish kind cause id).2 = true ↔ c.events.isFull = false := by
  show (!c.events.isFull) = true ↔ _
  rw [Bool.not_eq_true']

theorem publishReturning_ok (c : Controller F) (kind : EventKind) (cause : ControlStatus)
    (id : Nat) (status : ControlStatus) (hfull : c.events.isFull = true) :
    (c.publishReturning kind cause id status).2 ≠ .ok := by
  show (if (!c.events.isFull) = true then status else .ebusy) ≠ .ok
  rw [hfull]
  exact ebusy_ne_ok

/-- A publish goes on where the ring has room, and ends the call otherwise. -/
theorem publish_ends {n : Nat} {c m : Controller F} (kind : EventKind) (cause : ControlStatus)
    (id : Nat) {status : ControlStatus} (harmed : c.Armed) (hwalk : Walk n c m)
    (hstatus : m.events.isFull = true → status ≠ .ok) :
    Ends (n + 1) c (m.publish kind cause id).1 status := by
  cases hfull : m.events.isFull with
  | false => exact .walk (hwalk.trans (.single (.publish m kind cause id hfull)))
  | true =>
    exact .overflow kind cause id harmed (hwalk.mono (Nat.le_succ n)) hfull (hstatus hfull)

theorem publishReturning_ends {n : Nat} {c m : Controller F} (kind : EventKind)
    (cause : ControlStatus) (id : Nat) (status : ControlStatus) (harmed : c.Armed)
    (hwalk : Walk n c m) :
    Ends (n + 1) c (m.publishReturning kind cause id status).1
      (m.publishReturning kind cause id status).2 :=
  publish_ends kind cause id harmed hwalk (m.publishReturning_ok kind cause id status)

theorem latchFault_ends (c : Controller F) (cause : ControlStatus) (available : Bool) :
    Ends 2 c (c.latchFault cause available).1 (c.latchFault cause available).2 :=
  .latch .faulted cause c.commandId (.refl 2 c)
    ⟨rfl, .inl ⟨c.controlledStop available, rfl⟩, rfl, rfl, fun hcalm => hcalm.1 rfl⟩
    (publishReturning_ok _ .faulted cause c.commandId cause)

theorem setInterlock_ends (c : Controller F) (estop deadman : Bool) :
    Ends 2 c (c.setInterlock estop deadman).1 (c.setInterlock estop deadman).2 := by
  unfold setInterlock
  dsimp only
  split
  · refine .latch .estop .eestop c.commandId (.refl 2 c) ?_
      (publishReturning_ok _ .estop .eestop c.commandId .eestop)
    split
    · rename_i hclosed
      exact ⟨rfl, .inr ⟨hclosed, rfl⟩, rfl, rfl, fun hcalm => hcalm.2 rfl⟩
    · exact ⟨rfl, .inl ⟨false, rfl⟩, rfl, rfl, fun hcalm => hcalm.2 rfl⟩
  · refine .walk (.mono (n := 1) (.single ?_) (Nat.le_succ 1))
    exact .write rfl rfl rfl rfl (.inl rfl) fun _ h => ⟨h.1, h.2, h.3, h.4, h.5⟩

theorem completeOnContact_ends {c : Controller F} (hexec : c.lifecycle = .executing) :
    Ends 2 c c.completeOnContact.1 c.completeOnContact.2 :=
  publishReturning_ends .stopped .ok c.commandId .ok (.inr (.inl hexec))
    (.single (.halt true rfl rfl rfl rfl (.inr (.inl hexec)) ⟨by simp, by simp⟩))

omit [Floating F] in
/-- A dwell that is over has counted generations of both arms. -/
theorem not_waiting_of_settled {c : Controller F} (h : c.settled = true) (side : Side) :
    ¬ c.Waiting side := by
  intro hwaiting
  unfold settled at h
  rw [hwaiting.intervals] at h
  simp at h

theorem complete_ends {c : Controller F} (hexec : c.lifecycle = .executing)
    (h : c.settled = true) : Ends 2 c c.complete.1 c.complete.2 :=
  publishReturning_ends .completed .ok c.commandId .ok (.inr (.inl hexec))
    (.single (.write rfl rfl rfl rfl (.inr ⟨.inr (.inl hexec), ⟨by simp, by simp⟩⟩)
      fun side hwaiting => absurd hwaiting (not_waiting_of_settled h side)))

/-! ## §4. The stages of a cycle. -/

theorem cycleWatchdogs_walks (c : Controller F) (previousNs : Nat) :
    StageWalks 2 c (fun _ => c) (c.cycleWatchdogs previousNs) := by
  unfold cycleWatchdogs
  split
  · split
    · exact c.latchFault_ends _ _
    split
    · exact c.latchFault_ends _ _
    split
    · exact c.latchFault_ends _ _
    · exact .refl 2 c
  · exact .refl 2 c

theorem commandWatchdogs_walks (c : Controller F) :
    StageWalks 2 c (fun _ => c) c.commandWatchdogs := by
  unfold commandWatchdogs
  split
  · exact c.latchFault_ends _ _
  split
  · exact c.latchFault_ends _ _
  split
  · exact c.latchFault_ends _ _
  · exact .refl 2 c

theorem startQueued_walks {c : Controller F} (plan : MotionPlan F)
    (hexec : c.lifecycle = .executing) : StageWalks 2 c id (c.startQueued plan) := by
  unfold startQueued
  split
  · split
    · exact c.latchFault_ends _ _
    · have hwrite : Walk 1 c { c with commandStarted := true } :=
        .single (.write rfl rfl rfl rfl (.inl rfl) fun _ h => ⟨h.1, h.2, h.3, h.4, h.5⟩)
      dsimp only
      split
      · rename_i hroom
        exact hwrite.trans (.single (.publish _ _ _ _ ((publish_ok_iff _ _ _ _).mp hroom)))
      · exact publish_ends .started .ok c.commandId (.inr (.inl hexec)) hwrite
          fun _ => ebusy_ne_ok
  · exact .refl 2 c

theorem commandReference_walks (c : Controller F) :
    StageWalks 2 c (fun out => out.1) c.commandReference := by
  unfold commandReference
  split
  · rename_i hexec
    have hwatch := c.commandWatchdogs_walks
    split
    · rename_i hexit
      rw [hexit] at hwatch
      exact hwatch
    · split
      · exact .refl 2 c
      · rename_i plan _
        have hqueued := startQueued_walks plan hexec
        split
        · rename_i hexit
          rw [hexit] at hqueued
          exact hqueued
        · rename_i hstarted
          rw [hstarted] at hqueued
          exact hqueued
  · exact .refl 2 c

omit [Floating F] in
theorem feeds_update {c : Controller F} (side : Side) {r : ArmRuntime F}
    (h : (c.arm side).Feeds 64 r) (s : Side) :
    (c.arm s).Feeds 64 (Function.update c.arm side r s) := by
  by_cases hs : s = side
  · subst hs
    rw [Function.update_self]
    exact h
  · rw [Function.update_of_ne hs]
    exact .quiet 64 rfl fun _ => rfl

theorem stepArm_walks (c : Controller F) (reference : Reference F) (dtS : F) (side : Side) :
    StageWalks 3 c id (c.stepArm reference dtS side) := by
  have hfeed : Walk 1 c { c with
      arm := Function.update c.arm side
        ((c.arm side).commandAndStep (reference.q side) (reference.dq side) c.nowNs dtS).1 } :=
    .single (.feed (feeds_update side (ArmRuntime.feeds_commandAndStep _ _ _ _ _)))
  unfold stepArm
  dsimp only
  split
  · exact hfeed.mono (by omega)
  · exact .after hfeed (latchFault_ends _ _ _)

theorem applySimContact_walk (c : Controller F) (L : ModelLibrary F) :
    Walk 1 c (c.applySimContact L) := by
  refine .single (.feed fun side => ?_)
  unfold applySimContactSide
  dsimp only
  split
  · exact .quiet 64 rfl fun _ => rfl
  split
  · exact .quiet 64 rfl fun _ => rfl
  split
  · exact .quiet 64 rfl fun _ => rfl
  · exact .quiet 64 rfl fun _ => rfl

theorem stepPlant_walks (c : Controller F) (L : ModelLibrary F) (reference : Reference F)
    (previousNs : Nat) : StageWalks 7 c id (c.stepPlant L reference previousNs) := by
  have hcontact := c.applySimContact_walk L
  unfold stepPlant
  dsimp only
  have hleft := (c.applySimContact L).stepArm_walks reference
    (Floating.ofNat (c.nowNs - previousNs) * Floating.lit 1.0e-9) 0
  split
  · rename_i hexit
    rw [hexit] at hleft
    exact (Ends.after hcontact hleft).mono (by omega)
  · rename_i left hok
    rw [hok] at hleft
    have hboth := hcontact.trans hleft
    have hright := left.stepArm_walks reference
      (Floating.ofNat (c.nowNs - previousNs) * Floating.lit 1.0e-9) 1
    cases hstep : left.stepArm reference
        (Floating.ofNat (c.nowNs - previousNs) * Floating.lit 1.0e-9) 1 with
    | error exit =>
      rw [hstep] at hright
      exact Ends.after hboth hright
    | ok both =>
      rw [hstep] at hright
      exact hboth.trans hright

theorem feedbackWatchdogs_walks (c : Controller F) :
    StageWalks 2 c (fun _ => c) c.feedbackWatchdogs := by
  unfold feedbackWatchdogs
  dsimp only
  split
  · exact c.latchFault_ends _ _
  split
  · exact c.latchFault_ends _ _
  split
  · exact c.latchFault_ends _ _
  · exact .refl 2 c

theorem monitorContact_walk (c : Controller F) (L : ModelLibrary F) :
    Walk 1 c (c.monitorContact L).1 := by
  unfold monitorContact
  split
  · exact .refl 1 c
  split
  · exact .refl 1 c
  dsimp only
  split
  · exact .single (.write rfl rfl rfl rfl (.inl rfl) fun _ h => ⟨h.1, h.2, h.3, h.4, h.5⟩)
  split
  · exact .single (.write rfl rfl rfl rfl (.inl rfl) fun _ h => ⟨h.1, h.2, h.3, h.4, h.5⟩)
  · exact .single (.write rfl rfl rfl rfl (.inl rfl) fun _ h => ⟨h.1, h.2, h.3, h.4, h.5⟩)

theorem monitorKeepout_walk (c : Controller F) (L : ModelLibrary F) :
    Walk 1 c (c.monitorKeepout L).1 := by
  unfold monitorKeepout
  dsimp only
  split
  · split
    · exact .single (.write rfl rfl rfl rfl (.inl rfl) fun _ h => ⟨h.1, h.2, h.3, h.4, h.5⟩)
    · exact .single (.write rfl rfl rfl rfl (.inl rfl) fun _ h => ⟨h.1, h.2, h.3, h.4, h.5⟩)
  split
  · exact .single (.write rfl rfl rfl rfl (.inl rfl) fun _ h => ⟨h.1, h.2, h.3, h.4, h.5⟩)
  · exact .single (.write rfl rfl rfl rfl (.inl rfl) fun _ h => ⟨h.1, h.2, h.3, h.4, h.5⟩)

theorem monitors_walks (c : Controller F) (L : ModelLibrary F) :
    StageWalks 4 c id (c.monitors L) := by
  unfold monitors
  split
  · rename_i hexec
    have hcontact := c.monitorContact_walk L
    have hkeepout := (c.monitorContact L).1.monitorKeepout_walk L
    have hcore := c.core_monitorContact L
    have hmonitored : (c.monitorContact L).1.lifecycle = .executing :=
      (congrArg Core.lifecycle hcore).trans hexec.1
    have hkept : ((c.monitorContact L).1.monitorKeepout L).1.lifecycle = .executing :=
      (congrArg Core.lifecycle (core_monitorKeepout _ L)).trans hmonitored
    dsimp only
    split
    · exact (Ends.after hcontact (completeOnContact_ends hmonitored)).mono (by omega)
    split
    · exact Ends.after (hcontact.trans hkeepout) (completeOnContact_ends hkept)
    · exact (hcontact.trans hkeepout).mono (by omega)
  · exact .refl 4 c

theorem publishSettling_walks {c : Controller F} (hexec : c.lifecycle = .executing) :
    StageWalks 2 c id c.publishSettling := by
  unfold publishSettling
  split
  · exact .refl 2 c
  dsimp only
  split
  · rename_i hroom
    have hpublish : Walk 1 c (c.publish .settling .ok c.commandId).1 :=
      .single (.publish c _ _ _ ((publish_ok_iff _ _ _ _).mp hroom))
    refine hpublish.trans (k := 1) (.single ?_)
    exact .write rfl rfl rfl rfl (.inl rfl) fun _ h => ⟨h.1, h.2, h.3, h.4, h.5⟩
  · exact (publish_ends .settling .ok c.commandId (.inr (.inl hexec)) (.refl 0 c)
      fun _ => ebusy_ne_ok).mono (Nat.le_succ 1)

/-- Counting an observation: without a new generation of `side` nothing is
    counted. -/
theorem countSettle_walk (c : Controller F) : Walk 1 c c.countSettle := by
  unfold countSettle
  dsimp only
  split
  · exact .single (.write rfl rfl rfl rfl (.inl rfl) fun _ h =>
      ⟨h.1, h.2, h.3, rfl, fun _ => rfl⟩)
  rename_i hstarted
  split
  · rename_i hnew
    refine .single (.write rfl rfl rfl rfl (.inl rfl) fun side h => ?_)
    -- a waiting dwell saw the current sequence number of one arm already
    have hsame := h.same hstarted
    match side with
    | 0 => exact absurd hsame.symm hnew.1
    | 1 => exact absurd hsame.symm hnew.2
  · exact .refl 1 c

theorem settle_ends (c : Controller F) (L : ModelLibrary F) :
    Ends 5 c (c.settle L).1 (c.settle L).2 := by
  unfold settle
  split
  · exact .walk (.refl 5 c)
  split
  · rename_i hdue
    have hpublish := publishSettling_walks hdue.1
    split
    · rename_i hexit
      rw [hexit] at hpublish
      exact hpublish.mono (by omega)
    · rename_i c' hok
      have hcore : c'.countSettle.core = c.core :=
        (core_countSettle c').trans (c.publishSettling_core c' hok)
      rw [hok] at hpublish
      split
      · dsimp only
        have hcount := hpublish.trans c'.countSettle_walk
        split
        · rename_i hsettled
          exact Ends.after hcount
            (complete_ends ((congrArg Core.lifecycle hcore).trans hdue.1) hsettled)
        · exact .walk (hcount.mono (by omega))
      · refine .walk ((hpublish.trans (k := 1) (.single ?_)).mono (by omega))
        exact .write rfl rfl rfl rfl (.inl rfl) fun _ h =>
          ⟨h.1, h.2, h.3, rfl, fun hne => absurd rfl hne⟩
  · exact .walk (.refl 5 c)

/-- **The walk of a cycle.** -/
theorem runCycle_ends (c : Controller F) (L : ModelLibrary F) (previousNs : Nat) :
    Ends 18 c (c.runCycle L previousNs).1 (c.runCycle L previousNs).2 := by
  have hwatch := c.cycleWatchdogs_walks previousNs
  have hreference := c.commandReference_walks
  unfold runCycle
  split
  · rename_i hexit
    rw [hexit] at hwatch
    exact hwatch.mono (by omega)
  split
  · rename_i hexit
    rw [hexit] at hreference
    exact hreference.mono (by omega)
  rename_i referenced reference hok
  rw [hok] at hreference
  have hplant := referenced.stepPlant_walks L reference previousNs
  split
  · rename_i hexit
    rw [hexit] at hplant
    exact (Ends.after hreference hplant).mono (by omega)
  rename_i stepped hok
  rw [hok] at hplant
  have hstepped := Walk.trans hreference hplant
  have hfeedback := stepped.feedbackWatchdogs_walks
  split
  · rename_i hexit
    rw [hexit] at hfeedback
    exact (Ends.after hstepped hfeedback).mono (by omega)
  have hmonitors := stepped.monitors_walks L
  split
  · rename_i hexit
    rw [hexit] at hmonitors
    exact (Ends.after hstepped hmonitors).mono (by omega)
  · rename_i monitored hok
    rw [hok] at hmonitors
    exact Ends.after (hstepped.trans hmonitors) (monitored.settle_ends L)

/-! ## §5. The public operations. -/

theorem advanceEstop_ends (c : Controller F) (monotonicNs : Nat) :
    Ends 3 c (c.advanceEstop monotonicNs).1 (c.advanceEstop monotonicNs).2 := by
  unfold advanceEstop
  dsimp only
  split
  · refine Ends.after (n := 1) (.single ?_) (setInterlock_ends _ true c.deadmanActive)
    exact .write rfl rfl rfl rfl (.inl rfl) fun _ h => ⟨h.1, h.2, h.3, h.4, h.5⟩
  · refine .walk (.mono (n := 1) (.single ?_) (by omega))
    exact .write rfl rfl rfl rfl (.inl rfl) fun _ h => ⟨h.1, h.2, h.3, h.4, h.5⟩

theorem advance_ends (c : Controller F) (L : ModelLibrary F) (latch : Bool) (monotonicNs : Nat) :
    Ends 19 c (c.advance L latch monotonicNs).1 (c.advance L latch monotonicNs).2 := by
  have hclock : ∀ now, Walk 1 c { c with estopLatched := false, nowNs := now } := fun now =>
    .single (.write rfl rfl rfl rfl (.inl rfl) fun _ h => ⟨h.1, h.2, h.3, h.4, h.5⟩)
  unfold advance
  split
  · exact (c.advanceEstop_ends monotonicNs).mono (by omega)
  dsimp only
  split
  · exact .walk ((hclock c.nowNs).mono (by omega))
  split
  · exact .walk ((hclock c.nowNs).mono (by omega))
  split
  · exact Ends.after (hclock monotonicNs) (runCycle_ends _ L c.nowNs)
  · exact .walk ((hclock monotonicNs).mono (by omega))

/-- The status a planner answers with. -/
def planStatus (out : Except ControlStatus (MotionPlan F)) : ControlStatus :=
  match out with
  | .ok _ => .ok
  | .error status => status

theorem planJoint_ends (c : Controller F) (request : JointMove F) :
    Ends 2 c (c.planJoint request).1 (planStatus (c.planJoint request).2) := by
  have hstay : ∀ status, Ends 2 c c status := fun status => .walk (.refl 2 c)
  unfold planJoint
  split
  · exact hstay _
  split
  · exact hstay _
  split
  · exact c.latchFault_ends _ _
  split
  · exact hstay _
  split
  · exact hstay _
  split
  · split
    · exact hstay _
    split <;> exact hstay _
  · exact hstay _

theorem planPreconditions_ends (c : Controller F) (latch : Bool) :
    Ends 2 c (c.planPreconditions latch).1 (c.planPreconditions latch).2 := by
  unfold planPreconditions
  split
  · refine .walk (.mono (n := 1) (.single ?_) (Nat.le_succ 1))
    exact .write rfl rfl rfl rfl (.inl rfl) fun _ h => ⟨h.1, h.2, h.3, h.4, h.5⟩
  split
  · exact .walk (.refl 2 c)
  split
  · exact .walk (.refl 2 c)
  split
  · exact c.latchFault_ends _ _
  split
  · exact .walk (.refl 2 c)
  · exact .walk (.refl 2 c)

theorem planCartesian_ends (c : Controller F) (latch : Bool)
    (body : Except ControlStatus (MotionPlan F)) :
    Ends 2 c (c.planCartesian latch body).1 (planStatus (c.planCartesian latch body).2) := by
  have hpre := c.planPreconditions_ends latch
  unfold planCartesian
  generalize c.planPreconditions latch = pre at hpre ⊢
  obtain ⟨m, status⟩ := pre
  dsimp only
  split
  · rename_i hok
    cases hpre with
    | walk hwalk => exact .walk hwalk
    | overflow _ _ _ _ _ _ failed => exact absurd hok failed
    | latch kind cause id walk latch failed =>
      exact .latch kind cause id walk latch fun hfull => absurd hok (failed hfull)
  · exact hpre

/-- The answer of a planner ends as the planner does. -/
theorem planned_ends (w : World F) {out : Controller F × Except ControlStatus (MotionPlan F)}
    (h : Ends 2 w.controller out.1 (planStatus out.2)) :
    Ends 19 w.controller (planned w out).1.controller (planned w out).2.status := by
  obtain ⟨c, answer⟩ := out
  cases answer with
  | ok plan => exact h.mono (by omega)
  | error status => exact h.mono (by omega)

/-- The writes of an accepted `execute`. -/
theorem startCommand_walk (c : Controller F) (L : ModelLibrary F) (plan : MotionPlan F)
    (request : ExecuteRequest) (hlife : c.lifecycle = .armedIdle) :
    Walk 1 c (c.startCommand L plan request) := by
  refine .single (.write rfl rfl rfl rfl (.inr
    ⟨.inl hlife, ⟨by simp [startCommand], by simp [startCommand]⟩⟩) ?_)
  intro side hwaiting
  exact absurd hwaiting (not_waiting (by simp [hlife]) (by simp [hlife]))

theorem execute_ends (c : Controller F) (L : ModelLibrary F) (plan : MotionPlan F)
    (request : ExecuteRequest) :
    Ends 2 c (c.execute L plan request).1 (c.execute L plan request).2 := by
  have hstay : ∀ status, Ends 2 c c status := fun status => .walk (.refl 2 c)
  unfold execute
  split
  · exact hstay _
  rename_i hlife
  split
  · exact hstay _
  split
  · exact c.latchFault_ends _ _
  split
  · exact hstay _
  split
  · exact hstay _
  split
  · exact hstay _
  · exact publishReturning_ends _ _ _ _ (.inl (not_not.mp hlife))
      (c.startCommand_walk L plan request (not_not.mp hlife))

theorem feed_ends {c : Controller F} (side : Side) {r : ArmRuntime F} (status : ControlStatus)
    (h : (c.arm side).Feeds 1 r) :
    Ends 1 c { c with arm := Function.update c.arm side r } status :=
  .walk (.single (.feed (feeds_update side (h.mono (by omega)))))

theorem setSimFault_ends (c : Controller F) (fault : SimFault) :
    Ends 1 c (c.setSimFault fault).1 (c.setSimFault fault).2 := by
  unfold setSimFault
  split
  · exact .walk (.refl 1 c)
  split
  · exact .walk (.refl 1 c)
  rename_i side _
  split
  · exact .walk (.refl 1 c)
  refine feed_ends side .ok ?_
  have hinjected : ∀ status, (c.arm side).Feeds 0 ((c.arm side).setInjection fault.freezeMask
      fault.dropMask fault.faultMask status fault.commandFailMask fault.feedbackDelayNs) :=
    fun status => .quiet 0 rfl fun _ => rfl
  split
  · exact Nat.zero_add 1 ▸ (hinjected _).trans (ArmRuntime.feeds_forceState _ _ _ _)
  · exact (hinjected _).mono (Nat.zero_le 1)

theorem setSimState_ends (c : Controller F) (state : SimState F) :
    Ends 1 c (c.setSimState state).1 (c.setSimState state).2 := by
  unfold setSimState
  split
  · exact .walk (.refl 1 c)
  split
  · exact .walk (.refl 1 c)
  dsimp only
  split
  · exact .walk (.refl 1 c)
  · exact feed_ends _ _ (ArmRuntime.feeds_forceState _ _ _ _)

theorem setSimContact_ends (c : Controller F) (contact : SimContact F) :
    Ends 2 c (c.setSimContact contact).1 (c.setSimContact contact).2 := by
  unfold setSimContact
  split
  · exact .walk (.refl 2 c)
  split
  · exact .walk (.refl 2 c)
  split
  · exact .walk (.refl 2 c)
  dsimp only
  have hstored : ∀ contacts, Walk 1 c { c with simContact := contacts } := fun contacts =>
    .single (.write rfl rfl rfl rfl (.inl rfl) fun _ h => ⟨h.1, h.2, h.3, h.4, h.5⟩)
  split
  · exact .walk ((hstored _).mono (Nat.le_succ 1))
  · rename_i side _ _ _
    have hcleared : (c.arm side).Feeds 1 (c.arm side).clearContact := .quiet 1 rfl fun _ => rfl
    exact Ends.after (hstored (Function.update c.simContact side contact))
      (feed_ends side .ok hcleared)

theorem heartbeat_ends (c : Controller F) (id deadline : Nat) :
    Ends 2 c (c.heartbeat id deadline).1 (c.heartbeat id deadline).2 := by
  unfold heartbeat
  split
  · exact .walk (.refl 2 c)
  split
  · exact c.latchFault_ends _ _
  · refine .walk (.mono (n := 1) (.single ?_) (Nat.le_succ 1))
    exact .write rfl rfl rfl rfl (.inl rfl) fun _ h => ⟨h.1, h.2, h.3, h.4, h.5⟩

theorem setCollisionSceneRevision_ends (c : Controller F) (revision : Nat) :
    Ends 1 c (c.setCollisionSceneRevision revision).1
      (c.setCollisionSceneRevision revision).2 := by
  unfold setCollisionSceneRevision
  split
  · exact .walk (.refl 1 c)
  split
  · exact .walk (.refl 1 c)
  split
  · exact .walk (.refl 1 c)
  · exact .walk (.single (.write rfl rfl rfl rfl (.inl rfl) fun _ h => ⟨h.1, h.2, h.3, h.4, h.5⟩))

theorem finishStop_ends {c : Controller F} (kind : StopKind) (id : Nat)
    (hstopping : c.lifecycle = .stopping) :
    Ends 2 c (c.finishStop kind id).1 (c.finishStop kind id).2 := by
  have harmed : c.Armed := .inr (.inr hstopping)
  unfold finishStop
  dsimp only
  split
  · exact publishReturning_ends _ _ _ _ harmed
      (.single (.halt false rfl rfl rfl rfl harmed ⟨by simp, by simp⟩))
  · exact publishReturning_ends _ _ _ _ harmed
      (.single (.halt true rfl rfl rfl rfl harmed ⟨by simp, by simp⟩))

theorem stop_ends (c : Controller F) (kind : StopKind) :
    Ends 4 c (c.stop kind).1 (c.stop kind).2 := by
  unfold stop
  split
  · exact .walk (.refl 4 c)
  split
  · exact .walk (.refl 4 c)
  rename_i hlife
  have harmed : c.Armed := by
    unfold Armed
    tauto
  have hstopping : Walk 1 c { c with lifecycle := .stopping } :=
    .single (.write rfl rfl rfl rfl (.inr ⟨harmed, ⟨by simp, by simp⟩⟩) fun _ h =>
      ⟨.inr rfl, h.2, h.3, h.4, h.5⟩)
  dsimp only
  split
  · split
    · rename_i hroom
      have hisroom := (publish_ok_iff _ _ _ _).mp hroom
      obtain ⟨event, hpublished⟩ := publish_of_room { c with lifecycle := .stopping } .aborted .ok
        c.commandId hisroom
      have hpublish := Walk.single (.publish _ .aborted .ok c.commandId hisroom)
      refine Ends.after (hstopping.trans hpublish) (finishStop_ends kind c.commandId ?_)
      rw [hpublished]
    · exact (publish_ends .aborted .ok c.commandId harmed hstopping fun _ => ebusy_ne_ok).mono
        (by omega)
  · exact (Ends.after hstopping (finishStop_ends kind c.commandId rfl)).mono (by omega)

/-! ## §6. The writes of single operations. -/

/-- What an accepted `open_and_verify` writes before it publishes. -/
def opened (c : Controller F) : Controller F :=
  { c with
    arm := fun side =>
      ((c.arm side).setEnabled false).forceState
        (if c.verifyEpoch = 0 then ArmRuntime.zeroVector else (c.arm side).measuredQ)
        ArmRuntime.zeroVector c.nowNs
    verifyEpoch := wrap64 (c.verifyEpoch + 1)
    lifecycle := .disarmed }

/-- What an accepted `challenge` writes. -/
def challenged (c : Controller F) : Controller F :=
  { c.renewNonce with outstandingChallengeExpiry := wrap64 (c.nowNs + 1000000000) }

/-- What an accepted `reset` writes. -/
def closed (c : Controller F) : Controller F :=
  { c with
    arm := fun side =>
      (((c.arm side).setInjection 0 0 0 0 0 0).setEnabled false).retirePendingFeedback
    verifyEpoch := wrap64 (c.verifyEpoch + 1)
    outstandingNonce := 0
    lifecycle := .closed }

/-- What an accepted `disarm` writes before it publishes. -/
def released (c : Controller F) : Controller F :=
  { c.dropCommand.materializeStop false with lifecycle := .disarmed }

/-- The checks of `reset` behind its state check. -/
def acceptsReset (c : Controller F) (request : ResetRequest) : Prop :=
  request.verifyEpoch = c.verifyEpoch ∧ request.nonce = c.outstandingNonce ∧
    request.nonce ≠ 0 ∧ c.nowNs ≤ c.outstandingChallengeExpiry

/-- The write an operation makes on its own, in front of the shared bodies. -/
inductive Special : Op F → Controller F → Controller F → Prop where
  | openAndVerify (c : Controller F) (life : c.lifecycle = .closed) :
      Special .openAndVerify c c.opened
  | challenge (c : Controller F) (life : c.lifecycle = .disarmed ∨ ¬ c.Calm) :
      Special .challenge c c.challenged
  | arm (c : Controller F) (challenge : ArmChallenge) (life : c.lifecycle = .disarmed)
      (matched : c.challengeMismatch challenge = false) : Special (.arm challenge) c c.energize
  | reset (c : Controller F) (request : ResetRequest) (latched : ¬ c.Calm)
      (accepted : c.acceptsReset request) : Special (.reset request) c c.closed
  | pollEvent (c : Controller F) (some : c.events.isEmpty = false) :
      Special .pollEvent c { c with events := c.events.pop }
  | disarm (c : Controller F) (deadline : Nat) (due : c.nowNs ≤ deadline)
      (life : c.Armed ∨ c.lifecycle = .disarmed) : Special (.disarm deadline) c c.released

/-- The call ends there, or with one publish. -/
inductive Closes (m : Controller F) : Controller F → ControlStatus → Prop where
  | refl (status : ControlStatus) : Closes m m status
  | publish {status : ControlStatus} (kind : EventKind) (cause : ControlStatus) (id : Nat)
      (failed : m.events.isFull = true → status ≠ .ok) :
      Closes m (m.publish kind cause id).1 status

theorem publishReturning_closes (m : Controller F) (kind : EventKind) (cause : ControlStatus)
    (id : Nat) (status : ControlStatus) :
    Closes m (m.publishReturning kind cause id status).1
      (m.publishReturning kind cause id status).2 :=
  .publish kind cause id (m.publishReturning_ok kind cause id status)

/-- **The walk of every call**, behind the write of its own if it makes one. -/
theorem call_ends (L : ModelLibrary F) (w : World F) (op : Op F) :
    Ends 19 w.controller (call L w op).1.controller (call L w op).2.status ∨
      ∃ m, Special op w.controller m ∧
        Closes m (call L w op).1.controller (call L w op).2.status := by
  have hstay : ∀ status, Ends 19 w.controller w.controller status := fun status =>
    .walk (.refl 19 _)
  cases op with
  -- calls with an effect of their own, each a case of `Special`
  | openAndVerify =>
    show Ends 19 _ w.controller.openAndVerify.1 w.controller.openAndVerify.2.1 ∨
      ∃ m, _ ∧ Closes m w.controller.openAndVerify.1 w.controller.openAndVerify.2.1
    unfold openAndVerify
    split
    · exact .inl (hstay _)
    rename_i hlife
    split
    · exact .inl (hstay _)
    · exact .inr ⟨_, .openAndVerify _ (not_not.mp hlife),
        w.controller.opened.publishReturning_closes .verified .ok 0 .ok⟩
  | challenge =>
    show Ends 19 _ w.controller.challenge.1 w.controller.challenge.2.1 ∨
      ∃ m, _ ∧ Closes m w.controller.challenge.1 w.controller.challenge.2.1
    unfold challenge
    dsimp only
    split
    · exact .inl (hstay _)
    rename_i hlife
    split
    · split
      · exact .inl ((w.controller.latchFault_ends _ _).mono (by omega))
      · exact .inl (hstay _)
    · refine .inr ⟨_, .challenge _ ?_, .refl .ok⟩
      by_cases hdisarmed : w.controller.lifecycle = .disarmed
      · exact .inl hdisarmed
      · refine .inr fun hcalm => hlife ⟨hdisarmed, ?_⟩
        simp [hcalm.1, hcalm.2]
  | arm challenge =>
    show Ends 19 _ (w.controller.armWith challenge).1 (w.controller.armWith challenge).2 ∨
      ∃ m, _ ∧ Closes m (w.controller.armWith challenge).1 (w.controller.armWith challenge).2
    unfold armWith
    split
    · exact .inl (hstay _)
    rename_i hlife
    split
    · exact .inl (hstay _)
    rename_i hmatch
    split
    · exact .inl (hstay _)
    split
    · exact .inl ((w.controller.latchFault_ends _ _).mono (by omega))
    · exact .inr ⟨_, .arm _ challenge (not_not.mp hlife) (by simpa using hmatch),
        w.controller.energize.publishReturning_closes .armed .ok 0 .ok⟩
  | reset request =>
    show Ends 19 _ (w.controller.reset request).1 (w.controller.reset request).2 ∨
      ∃ m, _ ∧ Closes m (w.controller.reset request).1 (w.controller.reset request).2
    unfold reset
    split
    · exact .inl (hstay _)
    rename_i hlife
    split
    · exact .inl (hstay _)
    · rename_i haccept
      push Not at haccept
      obtain ⟨hepoch, hnonce, hzero, hexpiry⟩ := haccept
      exact .inr ⟨_, .reset _ request (fun hcalm => hlife ⟨hcalm.1, hcalm.2⟩)
        ⟨hepoch, hnonce, hzero, hexpiry⟩, .refl .ok⟩
  | pollEvent =>
    show Ends 19 _ w.controller.pollEvent.1 w.controller.pollEvent.2.1 ∨
      ∃ m, _ ∧ Closes m w.controller.pollEvent.1 w.controller.pollEvent.2.1
    unfold pollEvent
    split
    · exact .inl (hstay _)
    · rename_i hsome
      exact .inr ⟨_, .pollEvent _ (by simpa using hsome), .refl .ok⟩
  -- calls that only read
  | snapshot => exact .inl (hstay _)
  | kinematics side seq => exact .inl (hstay _)
  | contactReport => exact .inl (hstay _)
  | estopAssert => exact .inl (hstay _)
  | estopClear => exact .inl (hstay _)
  -- calls whose own lemma says how they end
  | planJoint request => exact .inl (planned_ends w (w.controller.planJoint_ends request))
  | planPaired request => exact .inl (planned_ends w (w.controller.planCartesian_ends w.latch _))
  | planCentroid request => exact .inl (planned_ends w (w.controller.planCartesian_ends w.latch _))
  | planMirrored request => exact .inl (planned_ends w (w.controller.planCartesian_ends w.latch _))
  | planConverge request => exact .inl (planned_ends w (w.controller.planCartesian_ends w.latch _))
  | setSimContact contact => exact .inl ((w.controller.setSimContact_ends contact).mono (by omega))
  | execute plan request =>
    exact .inl ((w.controller.execute_ends L plan request).mono (by omega))
  | advance monotonicNs => exact .inl (w.controller.advance_ends L w.latch monotonicNs)
  | setSimFault fault => exact .inl ((w.controller.setSimFault_ends fault).mono (by omega))
  | setSimState state => exact .inl ((w.controller.setSimState_ends state).mono (by omega))
  | heartbeat id deadline => exact .inl ((w.controller.heartbeat_ends id deadline).mono (by omega))
  | setInterlock estop deadman =>
    exact .inl ((w.controller.setInterlock_ends estop deadman).mono (by omega))
  | setCollisionSceneRevision revision =>
    exact .inl ((w.controller.setCollisionSceneRevision_ends revision).mono (by omega))
  | stop kind => exact .inl ((w.controller.stop_ends kind).mono (by omega))
  | disarm deadline =>
    show Ends 19 _ (w.controller.disarm deadline).1 (w.controller.disarm deadline).2 ∨
      ∃ m, _ ∧ Closes m (w.controller.disarm deadline).1 (w.controller.disarm deadline).2
    unfold disarm
    split
    · exact .inl (hstay _)
    rename_i hdue
    split
    · exact .inl (hstay _)
    · rename_i hlife
      refine .inr ⟨_, .disarm _ deadline (Nat.not_lt.mp hdue) ?_,
        w.controller.released.publishReturning_closes .disarmed .ok 0 .ok⟩
      unfold Armed
      tauto

end Controller

end OpenArm.Control
