/-
  OpenArm.Real.Hands — which thread holds which command.

  Between the two places a command can rest in, `pending_` and `active_`,
  it travels as a local value of one thread.  `View` is that local value,
  with how far a `close` has come; `hands` says which actions a thread may
  perform with what in hand, and this file checks every program of the
  session against it:

    * a command leaves a hand only into `active_`, or through its terminal
      callback and the block that clears the owner;
    * a thread takes a command only with an empty hand, and returns with
      one.
-/
import OpenArm.Real.Uses

namespace OpenArm.Real

open OpenArm.Lib OpenArm.Control OpenArm.Model

variable {F : Type} [Rounding F]

/-! ## §1. Views. -/

/-- What a thread holds. -/
inductive Carried (F : Type) where
  | empty
  /-- Taken out of `pending_`; the stop flag has not been read. -/
  | taken (command : SessionCommand F)
  /-- The stop flag was clear when it was read. -/
  | planning (command : SessionCommand F)
  /-- Decided, with its terminal callback still to come. -/
  | ending (command : SessionCommand F) (outcome : Outcome)
  /-- Its terminal callback has answered; the owner is still to be cleared. -/
  | answered (owner : String)

/-- How far a thread has come with closing the session. -/
inductive Stage where
  | none
  /-- A `close` of this thread has set `closing_`. -/
  | closing
  /-- … and has joined the worker. -/
  | joined
  /-- A `close` of this thread found the session closing. -/
  | turnedAway
  /-- The worker has left its loop. -/
  | leaving
  deriving DecidableEq

/-- What a proof knows about the position of a thread. -/
structure View (F : Type) where
  worker : Bool
  carried : Carried F
  stage : Stage

/-- The thread holds nothing. -/
def View.free (v : View F) : View F := { v with carried := .empty }

/-- The actions that neither move a command nor close the session. -/
def Op.bystander : Op F → Bool
  | .takePending | .loadCancel | .plan _ _ | .publishActive _ | .monitor _ | .finishBlock
  | .terminalCallback _ _ | .clearOwner _ _ | .awaitWork | .exitWorker | .beginClose
  | .join => false
  | _ => true

/-- The loops other than the worker's. -/
def Proc.bystander : Proc F → Bool
  | .workerLoop => false
  | _ => true

/-! ## §2. The discipline. -/

/-- What a view allows. -/
def View.allows (v : View F) : Op F → Prop
  | .takePending | .awaitWork | .monitor _ =>
    v.worker = true ∧ v.carried = .empty ∧ v.stage = .none
  | .loadCancel => v.worker = true ∧ ∃ command, v.carried = .taken command
  | .plan command _ => v.worker = true ∧ v.carried = .planning command
  | .publishActive planned =>
    v.worker = true ∧ v.carried = .planning planned.command ∧ v.stage = .none
  | .finishBlock => v.carried = .empty ∧ v.stage ≠ .leaving
  | .terminalCallback callback result =>
    ∃ command, v.carried = .ending command result.outcome ∧ command.terminal = some callback
  | .clearOwner owner _ => v.carried = .answered owner ∨
    ∃ command outcome, v.carried = .ending command outcome ∧ command.terminal = none ∧
      command.owner = owner
  | .exitWorker => v.worker = true ∧ v.carried = .empty ∧ v.stage = .leaving
  | .beginClose => v.worker = false ∧ v.stage = .none
  | .join => v.worker = false ∧ v.stage = .closing
  | _ => True

/-- The view after an action. -/
def View.after (v : View F) : (o : Op F) → o.Reply → View F
  | .takePending, some (command, _) => { v with carried := .taken command }
  | .loadCancel, cancel =>
    match v.carried with
    | .taken command =>
      { v with carried := if cancel then .ending command .canceled else .planning command }
    | _ => v
  | .plan command _, .error _ => { v with carried := .ending command .rejected }
  | .publishActive _, _ => v.free
  | .monitor _, some terminal =>
    { v with carried := .ending terminal.command terminal.ending.outcome }
  | .finishBlock, some (command, _) => { v with carried := .ending command .aborted }
  | .terminalCallback _ _, _ =>
    match v.carried with
    | .ending command _ => { v with carried := .answered command.owner }
    | _ => v
  | .clearOwner _ _, _ => v.free
  | .awaitWork, true => { v with stage := .leaving }
  | .beginClose, false => { v with stage := .closing }
  | .beginClose, true => { v with stage := .turnedAway }
  | .join, _ => { v with stage := .joined }
  | _, _ => v

/-- The answers a view can meet: a plan is a plan of the command it was
    made for. -/
def View.meets (_ : View F) : (o : Op F) → o.Reply → Prop
  | .plan command _, reply => ∀ planned, reply = .ok planned → planned.command = command
  | _, _ => True

/-- The worker between two cycles. -/
def View.atLoop (v : View F) : Prop :=
  v.worker = true ∧ v.carried = .empty ∧ v.stage = .none

/-- What each loop expects. -/
def View.expects (v : View F) : Proc F → Prop
  | .workerLoop => v.atLoop
  | _ => True

/-- What each loop leaves. -/
def View.left (v : View F) : (p : Proc F) → p.Result → View F → Prop
  | .workerLoop, _, v' => v' = { v with stage := .leaving }
  | _, _, v' => v' = v

/-- Which thread may do what with a command in hand. -/
def hands (F : Type) : Discipline (sessionSig F) (View F) where
  begins v := { v with stage := .none }
  allowed := View.allows
  possible := View.meets
  next := View.after
  expects p v := v.expects p
  leaves p v := v.left p

/-- How a call ends: with an empty hand, and a `close` with the worker joined
    or turned away. -/
def handEnd (v₀ : View F) (answer : Answer) (v : View F) : Prop :=
  v.worker = v₀.worker ∧ v.carried = .empty ∧ v.stage ≠ .leaving ∧
    (answer = .closed → v.stage = .joined ∨ v.stage = .turnedAway)

/-! ## §3. Bystanders. -/

omit [Rounding F] in
theorem bystander_op (o : Op F) (v : View F) (h : o.bystander = true) :
    (hands F).allowed v o ∧ ∀ r, (hands F).next v o r = v := by
  cases o <;> first | exact ⟨trivial, fun _ => rfl⟩ | cases h

omit [Rounding F] in
theorem bystander_loop (p : Proc F) (v : View F) (h : p.bystander = true) :
    (hands F).expects p v ∧ ∀ a v', (hands F).leaves p v a v' → v' = v := by
  cases p <;> first | exact ⟨trivial, fun _ _ h => h⟩ | cases h

/-- A program of bystanders only. -/
abbrev Standby {α : Type} (p : Program F α) : Prop :=
  Uses (fun o : Op F => o.bystander = true) (fun q : Proc F => q.bystander = true) p

section

omit [Rounding F]

/-- A bystander alone. -/
theorem aside {o : Op F} (h : o.bystander = true) : Standby (op o) := use h

/-- A program of bystanders leaves the view alone. -/
theorem conforms_standby {α : Type} {p : Program F α} (h : Standby p) (v : View F) :
    Conforms (hands F) p v fun _ v' => v' = v :=
  h.conforms bystander_op bystander_loop v

/-- … and may stand in front of any program. -/
theorem standby_then {α β : Type} {p : Program F α} {f : α → Program F β} {v : View F}
    {Q : β → View F → Prop} (h : Standby p) (hf : ∀ a, Conforms (hands F) (f a) v Q) :
    Conforms (hands F) (p >>= f) v Q := by
  refine Conforms.seq (conforms_standby h v) fun a v' hv => ?_
  rw [hv]
  exact hf a

theorem standby_connects :
    Connects (fun o : Op F => o.bystander = true) (fun p : Proc F => p.bystander = true) where
  loadSocket _ := rfl
  clock := rfl
  closeSocket _ := rfl
  sendDisable _ := rfl
  sendRefresh _ := rfl
  poll := rfl
  readFrame _ := rfl
  collect _ _ := rfl
  disableRound _ := rfl
  sendHold _ _ := rfl
  noteFailure _ := rfl
  absorb _ _ := rfl
  disarm := rfl
  disconnect := rfl
  lockIo := rfl
  unlockIo := rfl
  setHealth _ _ _ := rfl
  loadEstop := rfl
  loadRuntimeEstop := rfl
  loadConnected := rfl
  loadArmed := rfl
  arm := rfl
  connect := rfl
  openSocket _ := rfl
  sendEnable _ := rfl
  requestRegister _ _ _ _ := rfl
  seedHold _ := rfl
  storeMeasured _ := rfl
  exchangeFailure := rfl
  bumpSequence _ := rfl
  publishLifecycle _ := rfl
  confirmRegister _ _ _ _ _ := rfl

end

/-! ## §4. Ending a command. -/

section

omit [Rounding F]

/-- One action, then the rest from the view it leaves. -/
theorem act_then {β : Type} {o : Op F} {f : o.Reply → Program F β} {v : View F}
    {Q : β → View F → Prop} (hallowed : v.allows o)
    (hf : ∀ r, v.meets o r → Conforms (hands F) (f r) (v.after o r) Q) :
    Conforms (hands F) (op o >>= f) v Q :=
  conforms_bind.mpr ⟨hallowed, hf⟩

theorem standby_loadSequences : Standby (loadSequences : Program F _) :=
  (aside rfl).bind fun _ => (aside rfl).bind fun _ => uses_pure

/-- The terminal callback of a command, if it has one. -/
theorem conforms_callTerminal (v : View F) {command : SessionCommand F} {outcome : Outcome}
    (result : CommandResult) (hv : v.carried = .ending command outcome)
    (hresult : result.outcome = outcome) :
    Conforms (hands F) (callTerminal command result) v fun _ w => w.free = v.free ∧
      (w.carried = .answered command.owner ∨
        w.carried = .ending command outcome ∧ command.terminal = none) := by
  unfold callTerminal
  split
  · rename_i hnone
    exact ⟨rfl, .inr ⟨hv, hnone⟩⟩
  · rename_i callback hsome
    refine ⟨⟨command, by rw [hresult]; exact hv, hsome⟩, fun accepted _ => ?_⟩
    have hafter : v.after (.terminalCallback callback result) accepted =
        { v with carried := .answered command.owner } := by
      simp only [View.after, hv]
    show View.free (v.after (.terminalCallback callback result) accepted) = _ ∧ _
    rw [hafter]
    exact ⟨rfl, .inl (congrArg View.carried hafter)⟩

/-- **A terminal call empties the hand**: through the callback, if the
    command has one, and the block that clears its owner. -/
theorem conforms_terminalCommand (v : View F) {command : SessionCommand F} {outcome : Outcome}
    (event : EventKind) (reason : String) (commandId : Nat) (seeds : Side → Nat)
    (hv : v.carried = .ending command outcome) :
    Conforms (hands F) (terminalCommand command outcome event reason commandId seeds) v
      fun _ v' => v' = v.free := by
  have htail : ∀ (accepted : Bool) (w : View F), w.free = v.free →
      (w.carried = .answered command.owner ∨
        w.carried = .ending command outcome ∧ command.terminal = none) →
      Conforms (hands F) (do
        op (.clearOwner command.owner reason)
        if accepted then pure ()
        else do
          let confirmed ← disableAndCloseForFault
          op (.setHealth .fault ("terminal_callback_failed" ++ disableNote confirmed) .fault)) w
        fun _ v' => v' = v.free := by
    intro accepted w hfree hw
    refine act_then ?_ fun _ _ => ?_
    · rcases hw with hw | ⟨hw, hnone⟩
      · exact .inl hw
      · exact .inr ⟨command, outcome, hw, hnone, rfl⟩
    · show Conforms _ _ w.free _
      split
      · exact hfree
      · refine standby_then standby_connects.toShuts.disableAndCloseForFault fun _ => ?_
        exact ⟨trivial, fun _ _ => hfree⟩
  refine standby_then standby_loadSequences fun sequences => standby_then (aside rfl) fun armed =>
    standby_then ?_ fun estop => standby_then (aside rfl) fun authorized => ?_
  · split
    · exact uses_pure
    · exact aside rfl
  · refine Conforms.seq (conforms_callTerminal v _ hv rfl) fun accepted w hw => ?_
    exact htail accepted w hw.1 hw.2

/-- `finish_active` takes a command and ends it. -/
theorem conforms_finishActive (v : View F) (event : EventKind) (reason : String)
    (hempty : v.carried = .empty) (hstage : v.stage ≠ .leaving) :
    Conforms (hands F) (finishActive .aborted event reason) v fun _ v' => v' = v := by
  have hfree : v.free = v := by simp only [View.free, ← hempty]
  refine act_then ⟨hempty, hstage⟩ fun found _ => ?_
  match found with
  | none => exact rfl
  | some (command, commandId) =>
    refine standby_then standby_loadSequences fun seeds => ?_
    have h := conforms_terminalCommand (v.after .finishBlock (some (command, commandId)))
      event reason commandId seeds rfl
    exact h.mono fun _ v' hv' => hv'.trans hfree

end

/-! ## §5. The public operations. -/

section Operations

variable {v : View F} (hempty : v.carried = .empty) (hstage : v.stage ≠ .leaving)

include hempty hstage

section

omit [Rounding F]

theorem conforms_faultAndDisable (reason : String) :
    Conforms (hands F) (faultAndDisable reason) v fun _ v' => v' = v := by
  refine standby_then standby_connects.toShuts.disableAndCloseForFault fun confirmed => ?_
  refine Conforms.seq (conforms_finishActive v _ _ hempty hstage) fun _ v' hv => ?_
  rw [hv]
  exact ⟨trivial, fun _ _ => rfl⟩

theorem conforms_disconnectAndDisable :
    Conforms (hands F) disconnectAndDisable v fun _ v' => v' = v := by
  have hshut := (standby_connects (F := F)).toShuts
  refine standby_then hshut.anySocketOpen fun hadSockets => standby_then (aside rfl) fun _ =>
    standby_then (aside rfl) fun _ => standby_then hshut.disableAllImmediate fun _ =>
    standby_then (aside rfl) fun _ => standby_then ?_ fun confirmed =>
    standby_then hshut.closeSockets fun _ => standby_then (aside rfl) fun _ =>
    standby_then (aside rfl) fun _ => ?_
  · split
    · exact hshut.disableUntilConfirmed
    · exact uses_pure
  · refine Conforms.seq (conforms_finishActive v _ _ hempty hstage) fun _ v' hv => ?_
    rw [hv]
    exact standby_then (aside rfl) fun _ => rfl

theorem conforms_emergencyStop :
    Conforms (hands F) emergencyStop v fun _ v' => v' = v := by
  have hshut := (standby_connects (F := F)).toShuts
  refine standby_then hshut.anySocketOpen fun hadSockets => standby_then (aside rfl) fun _ =>
    standby_then (aside rfl) fun _ => standby_then (aside rfl) fun _ =>
      standby_then (aside rfl) fun _ =>
    standby_then hshut.disableAllImmediate fun _ => standby_then hshut.disableAllImmediate fun _ =>
    standby_then hshut.disableAllImmediate fun _ =>
    standby_then (aside rfl) fun _ => standby_then ?_ fun confirmed =>
    standby_then hshut.closeSockets fun _ => standby_then (aside rfl) fun _ =>
    standby_then (aside rfl) fun _ => ?_
  · split
    · exact hshut.disableUntilConfirmed
    · exact uses_pure
  · refine Conforms.seq (conforms_finishActive v _ _ hempty hstage) fun _ v' hv => ?_
    rw [hv]
    exact standby_then (aside rfl) fun _ => rfl

end

end Operations

omit [Rounding F] in
theorem standby_clearEmergencyStop : Standby (clearEmergencyStop : Program F _) := by
  refine (aside rfl).bind fun connected => .bind ?_ fun live => ?_
  · split
    · exact uses_pure
    · exact aside rfl
  · split
    · exact uses_pure
    · refine (aside rfl).bind fun cleared => ?_
      split
      · exact uses_pure
      · exact (aside rfl).bind fun _ => (aside rfl).bind fun _ => (aside rfl).bind fun _ => uses_pure

theorem standby_captureGrippersClosed (S : Setting F) : Standby (captureGrippersClosed S) := by
  unfold captureGrippersClosed
  split
  · exact uses_pure
  · refine (aside rfl).bind fun idle => ?_
    split
    · exact uses_pure
    · refine (aside rfl).bind fun connected => .bind ?_ fun live => ?_
      · split
        · exact aside rfl
        · exact uses_pure
      · split
        · exact uses_pure
        · refine (aside rfl).bind fun _ => (aside rfl).bind fun closed => (aside rfl).bind fun _ => ?_
          split
          · exact uses_pure
          · split
            · exact uses_pure
            · refine (aside rfl).bind fun error => ?_
              split
              · exact uses_pure
              · exact (aside rfl).bind fun _ => uses_pure

omit [Rounding F] in
/-- A `close` ends with the worker joined, or found the session closing. -/
theorem conforms_close (v : View F) (hworker : v.worker = false) (hempty : v.carried = .empty)
    (hstage : v.stage = .none) :
    Conforms (hands F) close v fun _ v' =>
      v'.worker = v.worker ∧ v'.carried = .empty ∧
        (v'.stage = .joined ∨ v'.stage = .turnedAway) := by
  have hshut := (standby_connects (F := F)).toShuts
  refine act_then ⟨hworker, hstage⟩ fun already _ => ?_
  cases already with
  | true => exact ⟨rfl, hempty, .inr rfl⟩
  | false =>
    refine standby_then (aside rfl) fun _ => standby_then hshut.disableAllImmediate fun _ => ?_
    refine act_then ⟨hworker, rfl⟩ fun _ _ => ?_
    exact standby_then (aside rfl) fun _ => standby_then hshut.disableUntilConfirmed fun _ =>
      standby_then hshut.closeSockets fun _ => standby_then (aside rfl) fun _ =>
        Conforms.mono (conforms_standby (aside rfl) _) fun _ v' hv => by
          rw [hv]
          exact ⟨rfl, hempty, .inl rfl⟩

/-- **Every call conforms**: it starts and ends with an empty hand. -/
theorem conforms_handler (S : Setting F) (request : Request F) (v : View F)
    (hworker : v.worker = false) (hempty : v.carried = .empty) (hnone : v.stage = .none) :
    Conforms (hands F) (handler S request) v fun a v' => handEnd v a v' := by
  have hstage : v.stage ≠ .leaving := by
    rw [hnone]
    nofun
  have hkeep : ∀ (answer : Answer), answer ≠ .closed → ∀ v', v' = v → handEnd v answer v' := by
    rintro answer hopen v' rfl
    exact ⟨rfl, hempty, hstage, fun h => absurd h hopen⟩
  have hstandby : ∀ {α : Type} {p : Program F α} {f : α → Answer}, Standby p →
      (∀ a, f a ≠ .closed) → Conforms (hands F) (p >>= fun a => pure (f a)) v
        fun a v' => handEnd v a v' :=
    fun hp hf => standby_then hp fun a => hkeep _ (hf a) v rfl
  cases request with
  | connectAndEnable =>
    exact hstandby (standby_connects.connectAndEnable S) fun _ => nofun
  | disconnectAndDisable =>
    exact Conforms.seq (conforms_disconnectAndDisable hempty hstage) fun result v' hv =>
      hkeep (.verdict result) nofun v' hv
  | stopMotion => exact hstandby (aside rfl) fun _ => nofun
  | emergencyStop =>
    exact Conforms.seq (conforms_emergencyStop hempty hstage) fun result v' hv =>
      hkeep (.verdict result) nofun v' hv
  | clearEmergencyStop => exact hstandby standby_clearEmergencyStop fun _ => nofun
  | captureGrippersClosed => exact hstandby (standby_captureGrippersClosed S) fun _ => nofun
  | reserve owner => exact hstandby (aside rfl) fun _ => nofun
  | submit command => exact hstandby (aside rfl) fun _ => nofun
  | cancel owner => exact hstandby (aside rfl) fun _ => nofun
  | release owner reason =>
    exact standby_then (aside rfl) fun _ => hkeep .released nofun v rfl
  | health => exact hstandby (aside rfl) fun _ => nofun
  | close =>
    refine Conforms.seq (conforms_close v hworker hempty hnone) fun _ v' hv =>
      ⟨hv.1, hv.2.1, ?_, fun _ => hv.2.2⟩
    rcases hv.2.2 with h | h <;> rw [h] <;> nofun

/-! ## §6. The worker. -/

omit [Rounding F] in
/-- `process_pending` starts and ends with an empty hand. -/
theorem conforms_processPending (v : View F) (hv : v.atLoop) :
    Conforms (hands F) processPending v fun _ v' => v' = v := by
  obtain ⟨hworker, hempty, hstage⟩ := hv
  have hfree : v.free = v := by simp only [View.free, ← hempty]
  refine act_then ⟨hworker, hempty, hstage⟩ fun found _ => ?_
  match found with
  | none => exact rfl
  | some (pending, start) =>
    refine act_then ⟨hworker, pending, rfl⟩ fun cancel _ => ?_
    cases cancel with
    | true =>
      exact (conforms_terminalCommand { v with carried := .ending pending .canceled }
        _ _ _ _ rfl).mono fun _ v' hv' => hv'.trans hfree
    | false =>
      refine act_then ⟨hworker, rfl⟩ fun plan hplan => ?_
      match plan, hplan with
      | .error reason, _ =>
        refine standby_then standby_loadSequences fun seeds => ?_
        exact (conforms_terminalCommand { v with carried := .ending pending .rejected }
          _ _ _ _ rfl).mono fun _ v' hv' => hv'.trans hfree
      | .ok planned, hplan =>
        have hcommand : planned.command = pending := hplan planned rfl
        refine standby_then (aside rfl) fun tau => ?_
        refine conforms_op.mpr ⟨⟨hworker, ?_, hstage⟩, fun _ _ => hfree⟩
        show Carried.planning pending = Carried.planning planned.command
        rw [hcommand]

omit [Rounding F] in
/-- `monitor_and_complete` starts and ends with an empty hand. -/
theorem conforms_monitorAndComplete (v : View F) (measured : PairQ F) (hv : v.atLoop) :
    Conforms (hands F) (monitorAndComplete measured) v fun _ v' => v' = v := by
  have hfree : v.free = v := by simp only [View.free, ← hv.2.1]
  refine act_then hv fun found _ => ?_
  match found with
  | none => exact rfl
  | some terminal =>
    refine standby_then ?_ fun confirmed => standby_then standby_loadSequences fun seeds => ?_
    · split
      · exact standby_connects.toShuts.disableAndCloseForFault
      · exact uses_pure
    · refine Conforms.seq (conforms_terminalCommand _ _ _ _ _ rfl) fun _ v' hv' => ?_
      rw [hv']
      show Conforms _ _ v.free _
      rw [hfree]
      split
      · exact conforms_standby (aside rfl) v
      · exact rfl

/-- One armed cycle starts and ends with an empty hand. -/
theorem conforms_armedCycle (S : Setting F) (v : View F) (hv : v.atLoop) :
    Conforms (hands F) (armedCycle S) v fun _ v' => v' = v := by
  have hstage : v.stage ≠ .leaving := by rw [hv.2.2]; nofun
  refine Conforms.seq (conforms_processPending v hv) fun _ v' hv' => ?_
  rw [hv']
  refine standby_then (aside rfl) fun _ => standby_then ?_ fun measured => ?_
  · refine (aside rfl).bind fun _ => (aside rfl).bind fun armed => .bind ?_ fun measured =>
      (aside rfl).bind fun _ => uses_pure
    split
    · exact standby_connects.exchangeFrames S true _ _
    · exact uses_pure
  · match measured with
    | none =>
      refine standby_then (aside rfl) fun armed => standby_then ?_ fun live => ?_
      · split
        · exact aside rfl
        · exact uses_pure
      · split
        · exact standby_then (aside rfl) fun failure => conforms_faultAndDisable hv.2.1 hstage _
        · exact rfl
    | some measured =>
      refine standby_then (aside rfl) fun _ => standby_then (aside rfl) fun executing =>
        standby_then (standby_connects.publishMeasured S _) fun _ =>
        standby_then ?_ fun _ => conforms_monitorAndComplete v measured hv
      refine (aside rfl).bind fun found => ?_
      split
      · exact uses_pure
      · refine (aside rfl).bind fun accepted => ?_
        split
        · exact uses_pure
        · exact aside rfl

/-- **Every loop keeps to its specification.** -/
theorem conforms_loopBody (S : Setting F) (p : Proc F) (v : View F)
    (h : (hands F).expects p v) :
    Conforms (hands F) (loopBody S p) v ((hands F).leaves p v) := by
  cases p with
  | collect until_ got =>
    exact conforms_standby (standby_connects.collectBody S until_ got) v
  | confirmRegister side motor register value until_ =>
    exact conforms_standby (standby_connects.confirmRegisterBody side motor register value until_) v
  | disableRound until_ =>
    exact conforms_standby (standby_connects.disableRoundBody S until_) v
  | workerLoop =>
    have hv : v.atLoop := h
    have hstage : v.stage ≠ .leaving := by rw [hv.2.2]; nofun
    refine act_then hv fun closing _ => ?_
    cases closing with
    | true =>
      refine standby_then (aside rfl) fun _ =>
        standby_then standby_connects.disableAllImmediate fun _ => ?_
      exact ⟨⟨hv.1, hv.2.1, rfl⟩, fun _ _ => rfl⟩
    | false =>
      refine standby_then (aside rfl) fun armed => ?_
      refine Conforms.seq (R := fun _ v' => v' = v) ?_ fun _ v' hv' => ?_
      · split
        · refine standby_then standby_connects.anyEstop fun latched => ?_
          split
          · exact Conforms.seq (conforms_emergencyStop hv.2.1 hstage) fun _ v' hv' => hv'
          · exact conforms_armedCycle S v hv
        · exact conforms_processPending v hv
      · rw [hv']
        exact ⟨hv, fun _ v'' hleft => hleft⟩

end OpenArm.Real
