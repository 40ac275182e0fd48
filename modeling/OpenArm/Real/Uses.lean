/-
  OpenArm.Real.Uses — which actions each part of the session performs.

  A property of the commands, of the stop flag or of the motors concerns a
  few actions only.  Each theorem here says, for ANY set of actions that
  contains the ones a program is written with, that the program stays
  inside the set; the frame rule `Uses.conforms` then carries any such
  property across the program.

  The sets grow with the programs: `Silences` (disable, refresh, collect
  and close), `Exchanges` (and hold), `Shuts` (and disarm and disconnect),
  `Connects` (everything `connect_and_enable` does).
-/
import OpenArm.Real.System

namespace OpenArm.Real

open OpenArm.Lib OpenArm.Control OpenArm.Model

variable {F : Type} [Rounding F] {A : Op F → Prop} {B : Proc F → Prop}

/-! ## §1. Sets of actions. -/

/-- The set contains what disabling and listening is written with. -/
structure Silences (A : Op F → Prop) (B : Proc F → Prop) : Prop where
  loadSocket : ∀ side, A (.loadSocket side)
  clock : A .clock
  closeSocket : ∀ side, A (.closeSocket side)
  sendDisable : ∀ side, A (.sendDisable side)
  sendRefresh : ∀ side, A (.sendRefresh side)
  poll : A .poll
  readFrame : ∀ side, A (.readFrame side)
  collect : ∀ until_ got, B (.collect until_ got)
  disableRound : ∀ until_, B (.disableRound until_)

/-- … and what one exchange of frames is written with. -/
structure Exchanges (A : Op F → Prop) (B : Proc F → Prop) : Prop extends Silences A B where
  sendHold : ∀ side gain, A (.sendHold side gain)
  noteFailure : ∀ reason, A (.noteFailure reason)
  absorb : ∀ command got, A (.absorb command got)

/-- … and what a shutdown after a fault is written with. -/
structure Shuts (A : Op F → Prop) (B : Proc F → Prop) : Prop extends Silences A B where
  disarm : A (.storeArmed false)
  disconnect : A (.storeConnected false)
  lockIo : A .lockIo
  unlockIo : A .unlockIo
  setHealth : ∀ state reason lifecycle, A (.setHealth state reason lifecycle)

/-- … and what `connect_and_enable` is written with. -/
structure Connects (A : Op F → Prop) (B : Proc F → Prop) : Prop
    extends Exchanges A B, Shuts A B where
  loadEstop : A .loadEstop
  loadRuntimeEstop : A .loadRuntimeEstop
  loadConnected : A .loadConnected
  loadArmed : A .loadArmed
  arm : A (.storeArmed true)
  connect : A (.storeConnected true)
  openSocket : ∀ side, A (.openSocket side)
  sendEnable : ∀ side, A (.sendEnable side)
  requestRegister : ∀ side motor register value, A (.requestRegister side motor register value)
  seedHold : ∀ measured, A (.seedHold measured)
  storeMeasured : ∀ measured, A (.storeMeasured measured)
  exchangeFailure : A .exchangeFailure
  bumpSequence : ∀ side, A (.bumpSequence side)
  publishLifecycle : ∀ lifecycle, A (.publishLifecycle lifecycle)
  confirmRegister : ∀ side motor register value until_,
    B (.confirmRegister side motor register value until_)

/-! ## §2. Disabling and listening. -/

section

omit [Rounding F]

/-- A use of one action. -/
theorem use {o : Op F} (h : A o) : Uses A B (op o) := uses_op.mpr h

/-- A use of one loop. -/
theorem useLoop {p : Proc F} (h : B p) : Uses A B (enter p) := uses_enter.mpr h

theorem uses_onActiveSides {S : Setting F} {step : Side → Program F Bool}
    (h : ∀ side, Uses A B (step side)) : Uses A B (onActiveSides S step) := by
  refine .bind ?_ fun left => ?_
  · split
    · exact h 0
    · exact uses_pure
  · split
    · exact uses_pure
    · split
      · exact h 1
      · exact uses_pure

end

namespace Silences

variable (h : Silences A B)

include h

section

omit [Rounding F]

theorem disableAllImmediate : Uses A B (disableAllImmediate : Program F Unit) :=
  (use (h.sendDisable 0)).bind fun _ => use (h.sendDisable 1)

theorem sendRefreshAll (S : Setting F) : Uses A B (sendRefreshAll S) :=
  uses_onActiveSides fun side => use (h.sendRefresh side)

theorem closeSockets : Uses A B (closeSockets : Program F Unit) :=
  (use (h.closeSocket 0)).bind fun _ => use (h.closeSocket 1)

theorem readSide (S : Setting F) (ready : Side → Bool) (side : Side)
    (got : Session.Collected F) : Uses A B (readSide S ready side got) := by
  unfold OpenArm.Real.readSide
  split
  · exact (use (h.readFrame side)).bind fun _ => uses_pure
  · exact uses_pure

theorem collectBody (S : Setting F) (until_ : Nat) (got : Session.Collected F) :
    Uses A B (collectBody S until_ got) := by
  unfold OpenArm.Real.collectBody
  split
  · exact uses_pure
  · refine (use h.clock).bind fun now => ?_
    split
    · exact uses_pure
    · refine (use h.poll).bind fun ready => ?_
      split
      · exact uses_pure
      · exact (h.readSide S ready 0 got).bind fun got =>
          (h.readSide S ready 1 got).bind fun got => useLoop (h.collect until_ got)

theorem collectFeedback (deadline : Nat) :
    Uses A B (collectFeedback deadline : Program F _) :=
  (use h.clock).bind fun _ => useLoop (h.collect _ _)

theorem disableRoundBody (S : Setting F) (until_ : Nat) :
    Uses A B (disableRoundBody S until_) := by
  refine h.disableAllImmediate.bind fun _ => (h.sendRefreshAll S).bind fun refreshed =>
    .bind ?_ fun confirmed => ?_
  · split
    · exact (h.collectFeedback _).bind fun _ => uses_pure
    · exact uses_pure
  · split
    · exact uses_pure
    · refine (use h.clock).bind fun now => ?_
      split
      · exact useLoop (h.disableRound until_)
      · exact uses_pure

theorem anySocketOpen : Uses A B (anySocketOpen : Program F Bool) := by
  refine (use (h.loadSocket 0)).bind fun left => ?_
  split
  · exact uses_pure
  · exact use (h.loadSocket 1)

theorem disableUntilConfirmed : Uses A B (disableUntilConfirmed : Program F Bool) := by
  refine h.anySocketOpen.bind fun isOpen => ?_
  split
  · exact uses_pure
  · exact (use h.clock).bind fun _ => useLoop (h.disableRound _)

end

end Silences

/-! ## §3. Exchanging and shutting down. -/

section

omit [Rounding F]

theorem Exchanges.sendHoldCommands (h : Exchanges A B) (S : Setting F) (gain : F) :
    Uses A B (sendHoldCommands S gain) :=
  uses_onActiveSides fun side => use (h.sendHold side gain)

theorem Exchanges.exchangeFrames (h : Exchanges A B) (S : Setting F) (command : Bool)
    (gain : F) (deadline : Nat) : Uses A B (exchangeFrames S command gain deadline) := by
  refine .bind ?_ fun sent => ?_
  · split
    · exact h.sendHoldCommands S gain
    · exact h.sendRefreshAll S
  · split
    · exact (use (h.noteFailure _)).bind fun _ => uses_pure
    · exact (h.collectFeedback deadline).bind fun got => use (h.absorb command got)

theorem Exchanges.exchangeAttempts (h : Exchanges A B) (S : Setting F) (command : Bool)
    (gain : F) (deadline attempts : Nat) :
    Uses A B (exchangeAttempts S command gain deadline attempts) := by
  induction attempts with
  | zero => exact uses_pure
  | succ attempts ih =>
    refine (h.exchangeFrames S command gain deadline).bind fun measured => ?_
    cases measured with
    | none => exact ih
    | some measured => exact uses_pure

theorem Shuts.disableAndCloseForFault (h : Shuts A B) :
    Uses A B (disableAndCloseForFault : Program F Bool) :=
  (use h.disarm).bind fun _ => h.disableAllImmediate.bind fun _ =>
    (use h.lockIo).bind fun _ => h.disableUntilConfirmed.bind fun _ =>
      h.closeSockets.bind fun _ => (use h.unlockIo).bind fun _ =>
        (use h.disconnect).bind fun _ => uses_pure

theorem Shuts.failConnectClosed (h : Shuts A B) (failure : String) :
    Uses A B (failConnectClosed failure : Program F _) :=
  h.disableAllImmediate.bind fun _ => h.disableUntilConfirmed.bind fun _ =>
    h.closeSockets.bind fun _ => (use h.disconnect).bind fun _ =>
      (use (h.setHealth _ _ _)).bind fun _ => uses_pure

end

/-! ## §4. Connecting. -/

omit [Rounding F] in
theorem uses_firstReason {steps : List (Program F (Option String))}
    (h : ∀ step ∈ steps, Uses A B step) : Uses A B (firstReason steps) := by
  induction steps with
  | nil => exact uses_pure
  | cons step steps ih =>
    refine (h step List.mem_cons_self).bind fun reason => ?_
    cases reason with
    | some reason => exact uses_pure
    | none => exact ih fun s hs => h s (List.mem_cons_of_mem _ hs)

namespace Connects

variable (h : Connects A B)

include h

section

omit [Rounding F]

theorem confirmRegisterBody (side : Side) (motor : Motor) (register : Register)
    (value until_ : Nat) : Uses A B (confirmRegisterBody side motor register value until_ :
      Program F Bool) := by
  refine (use h.clock).bind fun now => ?_
  split
  · exact uses_pure
  · refine (use h.poll).bind fun ready => ?_
    split
    · exact uses_pure
    · refine (use (h.readFrame side)).bind fun frame => ?_
      split
      · exact uses_pure
      · exact useLoop (h.confirmRegister _ _ _ _ _)

theorem writeAndConfirmRegister (S : Setting F) (side : Side) (motor : Motor)
    (register : Register) (value : Nat) (label : String) :
    Uses A B (writeAndConfirmRegister S side motor register value label) := by
  refine (use (h.requestRegister _ _ _ _)).bind fun written => ?_
  split
  · exact uses_pure
  · refine (use h.clock).bind fun _ => (useLoop (h.confirmRegister _ _ _ _ _)).bind fun _ => ?_
    split
    · exact uses_pure
    · exact uses_pure

theorem configureMotors (S : Setting F) : Uses A B (configureMotors S) := by
  refine uses_firstReason fun step hstep => ?_
  obtain ⟨side, -, hside⟩ := List.mem_flatMap.mp hstep
  split at hside
  · rcases List.mem_append.mp hside with hmotor | hgripper
    · obtain ⟨motor, -, rfl⟩ := List.mem_map.mp hmotor
      exact h.writeAndConfirmRegister S _ _ _ _ _
    · obtain rfl := List.mem_singleton.mp hgripper
      exact h.writeAndConfirmRegister S _ _ _ _ _
  · cases hside

theorem anyEstop : Uses A B (anyEstop : Program F Bool) := by
  refine (use h.loadEstop).bind fun own => ?_
  split
  · exact uses_pure
  · exact use h.loadRuntimeEstop

theorem publishMeasured (S : Setting F) (lifecycle : Lifecycle) :
    Uses A B (publishMeasured S lifecycle) := by
  have hbump : ∀ side, Uses A B (bumpActive S side) := by
    intro side
    unfold bumpActive
    split
    · exact use (h.bumpSequence side)
    · exact uses_pure
  exact (hbump 0).bind fun _ => (hbump 1).bind fun _ => use (h.publishLifecycle lifecycle)

end

theorem gainRamp (S : Setting F) (steps : Nat) : Uses A B (gainRamp S steps) := by
  induction steps with
  | zero => exact uses_pure
  | succ steps ih =>
    refine h.anyEstop.bind fun latched => ?_
    split
    · exact uses_pure
    · refine (h.exchangeAttempts S true _ _ 3).bind fun updated => ?_
      cases updated with
      | none => exact (use h.exchangeFailure).bind fun _ => uses_pure
      | some updated =>
        exact (use (h.storeMeasured updated)).bind fun _ =>
          (h.publishMeasured S _).bind fun _ => ih

omit [Rounding F] in
theorem openSide (S : Setting F) (side : Side) : Uses A B (openSide S side) := by
  unfold OpenArm.Real.openSide
  split
  · exact (use (h.openSocket side)).bind fun _ => uses_pure
  · exact uses_pure

omit [Rounding F] in
theorem openSockets (S : Setting F) : Uses A B (openSockets S) := by
  refine Uses.bind (uses_firstReason fun step hstep => ?_) fun reason => ?_
  · rcases List.mem_cons.mp hstep with rfl | hright
    · exact h.openSide S 0
    · obtain rfl := List.mem_singleton.mp hright
      exact h.openSide S 1
  · cases reason with
    | none => exact uses_pure
    | some reason => exact h.closeSockets.bind fun _ => uses_pure

theorem connectOpened (S : Setting F) : Uses A B (connectOpened S) := by
  refine (h.exchangeAttempts S false _ _ 5).bind fun measured => ?_
  cases measured with
  | none => exact h.failConnectClosed _
  | some measured =>
    dsimp only
    split
    · exact h.failConnectClosed _
    · split
      · exact h.failConnectClosed _
      · refine (h.configureMotors S).bind fun reason => ?_
        cases reason with
        | some reason => exact h.failConnectClosed _
        | none =>
          refine (use (h.seedHold measured)).bind fun _ =>
            (h.sendHoldCommands S _).bind fun seeded => .bind ?_ fun enabled => ?_
          · split
            · exact uses_onActiveSides fun side => use (h.sendEnable side)
            · exact uses_pure
          · split
            · exact h.failConnectClosed _
            · refine (use h.arm).bind fun _ => (h.gainRamp S 50).bind fun failure => ?_
              cases failure with
              | some failure => exact (use h.disarm).bind fun _ => h.failConnectClosed _
              | none => exact (use (h.setHealth _ _ _)).bind fun _ => uses_pure

theorem connectClosed (S : Setting F) : Uses A B (connectClosed S) := by
  refine (h.openSockets S).bind fun reason => ?_
  cases reason with
  | some reason => exact uses_pure
  | none => exact (use h.connect).bind fun _ => h.connectOpened S

theorem connectAndEnable (S : Setting F) : Uses A B (connectAndEnable S) := by
  refine h.anyEstop.bind fun latched => ?_
  split
  · exact uses_pure
  · split
    · exact uses_pure
    · refine (use h.lockIo).bind fun _ => (use h.loadConnected).bind fun connected =>
        .bind ?_ fun answer => (use h.unlockIo).bind fun _ => uses_pure
      split
      · exact (use h.loadArmed).bind fun _ => (use h.loadArmed).bind fun _ => uses_pure
      · exact h.connectClosed S

end Connects

/-! ## §5. Whole requests. -/

/-- The actions the callers' operations are written with: the others are the
    worker's own. -/
def Op.ofCaller : Op F → Bool
  | .awaitWork | .takePending | .loadCancel | .plan _ _ | .readFeedforward | .publishActive _
  | .updateReference | .isExecuting | .commandFeedback | .feedbackCallback _ _ | .monitor _
  | .exitWorker => false
  | _ => true

/-- The loops other than the worker's. -/
def Proc.ofCaller : Proc F → Bool
  | .workerLoop => false
  | _ => true

/-- A program of the callers' actions and loops. -/
abbrev CallerOnly {α : Type} (p : Program F α) : Prop :=
  Uses (fun o : Op F => o.ofCaller = true) (fun q : Proc F => q.ofCaller = true) p

section

omit [Rounding F]

theorem caller_connects :
    Connects (fun o : Op F => o.ofCaller = true) (fun p : Proc F => p.ofCaller = true) where
  loadSocket _ := rfl
  clock := rfl
  closeSocket _ := rfl
  sendDisable _ := rfl
  sendRefresh _ := rfl
  poll := rfl
  readFrame _ := rfl
  collect _ _ := rfl
  disableRound _ := rfl
  sendHold _ _ := rfl
  noteFailure _ := rfl
  absorb _ _ := rfl
  disarm := rfl
  disconnect := rfl
  lockIo := rfl
  unlockIo := rfl
  setHealth _ _ _ := rfl
  loadEstop := rfl
  loadRuntimeEstop := rfl
  loadConnected := rfl
  loadArmed := rfl
  arm := rfl
  connect := rfl
  openSocket _ := rfl
  sendEnable _ := rfl
  requestRegister _ _ _ _ := rfl
  seedHold _ := rfl
  storeMeasured _ := rfl
  exchangeFailure := rfl
  bumpSequence _ := rfl
  publishLifecycle _ := rfl
  confirmRegister _ _ _ _ _ := rfl

/-- A caller's action alone. -/
theorem callerOp {o : Op F} (h : o.ofCaller = true) : CallerOnly (op o) := use h

theorem caller_loadSequences : CallerOnly (loadSequences : Program F _) :=
  (callerOp rfl).bind fun _ => (callerOp rfl).bind fun _ => uses_pure

theorem caller_terminalCommand (command : SessionCommand F) (outcome : Outcome)
    (event : EventKind) (reason : String) (commandId : Nat) (seeds : Side → Nat) :
    CallerOnly (terminalCommand command outcome event reason commandId seeds) := by
  refine caller_loadSequences.bind fun sequences => (callerOp rfl).bind fun armed =>
    .bind ?_ fun estop => (callerOp rfl).bind fun authorized => .bind ?_ fun accepted =>
    (callerOp rfl).bind fun _ => ?_
  · split
    · exact uses_pure
    · exact callerOp rfl
  · unfold callTerminal
    split
    · exact uses_pure
    · exact callerOp rfl
  · split
    · exact uses_pure
    · exact caller_connects.toShuts.disableAndCloseForFault.bind fun _ => callerOp rfl

theorem caller_finishActive (outcome : Outcome) (event : EventKind) (reason : String) :
    CallerOnly (finishActive outcome event reason : Program F Unit) := by
  refine (callerOp rfl).bind fun found => ?_
  match found with
  | none => exact uses_pure
  | some (command, commandId) =>
    exact caller_loadSequences.bind fun seeds => caller_terminalCommand _ _ _ _ _ _

theorem caller_faultAndDisable (reason : String) :
    CallerOnly (faultAndDisable reason : Program F Unit) :=
  caller_connects.toShuts.disableAndCloseForFault.bind fun _ =>
    (caller_finishActive _ _ _).bind fun _ => callerOp rfl

theorem caller_disconnectAndDisable : CallerOnly (disconnectAndDisable : Program F _) := by
  have hshut := (caller_connects (F := F)).toShuts
  refine hshut.anySocketOpen.bind fun hadSockets => (callerOp rfl).bind fun _ =>
    (callerOp rfl).bind fun _ => hshut.disableAllImmediate.bind fun _ =>
    (callerOp rfl).bind fun _ => .bind ?_ fun confirmed => hshut.closeSockets.bind fun _ =>
    (callerOp rfl).bind fun _ => (callerOp rfl).bind fun _ =>
    (caller_finishActive _ _ _).bind fun _ => (callerOp rfl).bind fun _ => uses_pure
  split
  · exact hshut.disableUntilConfirmed
  · exact uses_pure

theorem caller_emergencyStop : CallerOnly (emergencyStop : Program F _) := by
  have hshut := (caller_connects (F := F)).toShuts
  refine hshut.anySocketOpen.bind fun hadSockets => (callerOp rfl).bind fun _ =>
    (callerOp rfl).bind fun _ => (callerOp rfl).bind fun _ => (callerOp rfl).bind fun _ =>
    hshut.disableAllImmediate.bind fun _ => hshut.disableAllImmediate.bind fun _ =>
    hshut.disableAllImmediate.bind fun _ => (callerOp rfl).bind fun _ => .bind ?_ fun confirmed =>
    hshut.closeSockets.bind fun _ => (callerOp rfl).bind fun _ => (callerOp rfl).bind fun _ =>
    (caller_finishActive _ _ _).bind fun _ => (callerOp rfl).bind fun _ => uses_pure
  split
  · exact hshut.disableUntilConfirmed
  · exact uses_pure

theorem caller_clearEmergencyStop : CallerOnly (clearEmergencyStop : Program F _) := by
  refine (callerOp rfl).bind fun connected => .bind ?_ fun live => ?_
  · split
    · exact uses_pure
    · exact callerOp rfl
  · split
    · exact uses_pure
    · refine (callerOp rfl).bind fun cleared => ?_
      split
      · exact uses_pure
      · exact (callerOp rfl).bind fun _ => (callerOp rfl).bind fun _ =>
          (callerOp rfl).bind fun _ => uses_pure

end

theorem caller_captureGrippersClosed (S : Setting F) :
    CallerOnly (captureGrippersClosed S) := by
  unfold captureGrippersClosed
  split
  · exact uses_pure
  · refine (callerOp rfl).bind fun idle => ?_
    split
    · exact uses_pure
    · refine (callerOp rfl).bind fun connected => .bind ?_ fun live => ?_
      · split
        · exact callerOp rfl
        · exact uses_pure
      · split
        · exact uses_pure
        · refine (callerOp rfl).bind fun _ => (callerOp rfl).bind fun closed =>
            (callerOp rfl).bind fun _ => ?_
          split
          · exact uses_pure
          · split
            · exact uses_pure
            · refine (callerOp rfl).bind fun error => ?_
              split
              · exact uses_pure
              · exact (callerOp rfl).bind fun _ => uses_pure

omit [Rounding F] in
theorem caller_close : CallerOnly (close : Program F Unit) := by
  have hshut := (caller_connects (F := F)).toShuts
  refine (callerOp rfl).bind fun already => ?_
  split
  · exact uses_pure
  · exact (callerOp rfl).bind fun _ => hshut.disableAllImmediate.bind fun _ =>
      (callerOp rfl).bind fun _ => (callerOp rfl).bind fun _ =>
      hshut.disableUntilConfirmed.bind fun _ => hshut.closeSockets.bind fun _ =>
      (callerOp rfl).bind fun _ => callerOp rfl

/-- **Every request is a program of the callers' actions.** -/
theorem caller_handler (S : Setting F) (request : Request F) : CallerOnly (handler S request) := by
  cases request with
  | connectAndEnable => exact (caller_connects.connectAndEnable S).bind fun _ => uses_pure
  | disconnectAndDisable => exact caller_disconnectAndDisable.bind fun _ => uses_pure
  | emergencyStop => exact caller_emergencyStop.bind fun _ => uses_pure
  | clearEmergencyStop => exact caller_clearEmergencyStop.bind fun _ => uses_pure
  | captureGrippersClosed =>
    exact (caller_captureGrippersClosed S).bind fun _ => uses_pure
  | close => exact caller_close.bind fun _ => uses_pure
  | _ => exact (callerOp rfl).bind fun _ => uses_pure

end OpenArm.Real
