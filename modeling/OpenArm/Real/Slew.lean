/-
  OpenArm.Real.Slew — how fast the feed-forward torque moves.

  `endpoint_integral_tau` of the active command and `feedforward_model_tau_`
  of the session are one torque in two places: handed over when a command is
  accepted, stepped by `update_reference`, sent by `send_hold_commands`.  The
  step is limited to `kEndpointTorqueStepNm`, but the end of a command other
  than a plain completion, and the seed of a connection, put it to zero at
  once; the end of a gripper command does so for the arms as well.

  Torques are of any floating-point type, and a step is the sum the code
  computes.

  Main results:
    * `integrate_steps`     — one cycle moves a torque by at most the step.
    * `feedforward_slewed`  — the hold commands of a run without such drops.
    * `Slewed.exact`        — by how much exact torques move.
-/
import OpenArm.Lib.RateLimit
import OpenArm.Real.Standard
import OpenArm.Real.Uses

namespace OpenArm.Real

open OpenArm.Lib OpenArm.Control OpenArm.Model

variable {F : Type} [Rounding F] {C : Type}

/-! ## §1. What a run sends. -/

/-- The frames an action appended to a bus. -/
def appended (s s' : Session F) (side : Side) : List (Frame F) :=
  ((s'.bus side).outbound.drop (s.bus side).outbound.length).map Prod.fst

/-- The frame is the hold command of a joint. -/
def Frame.commandsJoint (joint : Joint) : Frame F → Bool
  | .mit j _ _ _ => decide (j = joint)
  | _ => false

/-- A gripper command from its acceptance to its terminal result, with what
    both arms held when it was accepted. -/
structure Underway (F : Type) where
  commandId : Nat
  terminal : Option Callback
  targetRaw : PairQ F
  feedforward : PairQ F

/-- What a run has sent: the model torques of the hold commands written to each
    joint while armed, newest first, and the gripper command under way. -/
structure HoldLog (F : Type) where
  torques : Side → Joint → List F
  gripper : Option (Underway F)

namespace HoldLog

def empty : HoldLog F := { torques := fun _ _ => [], gripper := none }

/-- A gripper command is under way until its terminal callback has been called;
    one without a callback, until its owner is cleared. -/
def gripperAfter (log : HoldLog F) (s : Session F) : SessionLabel F C → Option (Underway F)
  | .act _ (.publishActive planned) _ =>
    if planned.gripperMotion then
      some { commandId := planned.commandId, terminal := planned.command.terminal
             targetRaw := s.targetRaw, feedforward := s.feedforwardModelTau }
    else none
  | .act _ (.terminalCallback _ result) _ =>
    log.gripper.filter fun u => result.commandId != u.commandId
  | .act _ (.clearOwner _ _) _ =>
    log.gripper.filter fun u => u.terminal.isSome || s.active.isSome
  | _ => log.gripper

/-- The log after a step. -/
def record (log : HoldLog F) (m : Sessions F C) (l : SessionLabel F C) (m' : Sessions F C) :
    HoldLog F where
  torques side joint :=
    if m.shared.armed && (appended m.shared m'.shared side).any (Frame.commandsJoint joint) then
      m.shared.feedforwardModelTau side joint :: log.torques side joint
    else log.torques side joint
  gripper := log.gripperAfter m.shared l

end HoldLog

/-- The session with its log. -/
abbrev loggedSessions (C : Type) [DecidableEq C] (S : Setting F) :
    Lts (Sessions F C × HoldLog F) (SessionLabel F C) :=
  (sessionSystem C S).withHistory HoldLog.empty HoldLog.record

/-- No torque is dropped: a command that ends other than by its plain completion
    ends without torque, and a gripper command with both arms where they are
    held; a connection is made without torque, neither held nor last sent, and
    with no gripper command under way; and a failed exchange of an armed session
    finds it connected. -/
def Gentle (S : Setting F) (p : Sessions F C × HoldLog F) (l : SessionLabel F C)
    (_ : Sessions F C × HoldLog F) : Prop :=
  match l with
  | .act _ (.monitor measured) _ =>
    ∀ a ending, p.1.shared.active = some a → p.1.shared.judge S measured a = .inr ending →
      (ending.endpoint = none → p.1.shared.feedforwardModelTau = zeroQ) ∧
        (a.gripperMotion = true → rawFromModel S.calibration measured = p.1.shared.targetRaw)
  | .act _ (.seedHold _) _ =>
    p.1.shared.feedforwardModelTau = zeroQ ∧ p.2.gripper = none
  | .act _ (.storeArmed true) _ =>
    p.1.shared.feedforwardModelTau = zeroQ ∧
      ∀ side joint, ∀ last ∈ (p.2.torques side joint).head?, last = Floating.lit 0
  | .act .worker .loadConnected reply => reply = true
  | _ => True

/-- **What the hold commands of a run look like**: from one to the next the
    torque of a joint stays, or the code adds to it a step of at most
    `kEndpointTorqueStepNm`, and it stays in its range. -/
structure Slewed (S : Setting F) (p : Sessions F C × HoldLog F) : Prop where
  slews : ∀ side joint, S.sides.active side = true →
    Slews kEndpointTorqueStepNm (kEndpointTorqueMaximumNm joint) (p.2.torques side joint)
  bounded : ∀ side joint, ∀ tau ∈ p.2.torques side joint,
    Within (kEndpointTorqueMaximumNm joint) tau
  /-- A gripper command leaves what both arms hold. -/
  undisturbed : ∀ u ∈ p.2.gripper, p.1.shared.targetRaw = u.targetRaw ∧
    p.1.shared.feedforwardModelTau = u.feedforward

/-! ## §2. One cycle. -/

section Integrate

variable [FloatSum F]

theorem maximum_nonneg (joint : Joint) :
    (Floating.lit 0 : F) ≤ kEndpointTorqueMaximumNm joint := by
  unfold kEndpointTorqueMaximumNm
  split
  · exact FloatOrder.lit_le_lit (by norm_num)
  split
  · exact FloatOrder.lit_le_lit (by norm_num)
  · exact FloatOrder.lit_le_lit (by norm_num)

theorem step_nonneg : (Floating.lit 0 : F) ≤ kEndpointTorqueStepNm :=
  FloatOrder.lit_le_lit (by norm_num)

theorem step_finite : Floating.isFinite (kEndpointTorqueStepNm : F) = true :=
  FloatOrder.isFinite_lit (by norm_num) (by norm_num)

variable (a : Active F) (u : F) (measured : PairQ F) (side : Side) (joint : Joint)

/-- **One cycle moves a torque by at most the step** … -/
theorem integrate_steps : Steps kEndpointTorqueStepNm (kEndpointTorqueMaximumNm joint)
    (a.endpointIntegralTau side joint) (Session.integrate a u measured side joint) := by
  unfold Session.integrate
  dsimp only
  split
  · exact .clamped _ (clamp_within step_nonneg _) rfl
  · exact .add _ (clamp_within step_nonneg _) rfl

/-- … and keeps it in its range. -/
theorem integrate_within
    (h : Within (kEndpointTorqueMaximumNm joint) (a.endpointIntegralTau side joint)) :
    Within (kEndpointTorqueMaximumNm joint) (Session.integrate a u measured side joint) := by
  unfold Session.integrate
  dsimp only
  split
  · exact clamp_within (maximum_nonneg joint) _
  · exact decay_within step_nonneg step_finite (maximum_nonneg joint) h

end Integrate

/-- A cycle that goes on leaves the torque and the kind of a command. -/
theorem judge_torque {S : Setting F} {s : Session F} {measured : PairQ F} {a a' : Active F}
    (h : s.judge S measured a = .inl a') :
    a'.endpointIntegralTau = a.endpointIntegralTau ∧ a'.gripperMotion = a.gripperMotion := by
  have hsegment : ∀ b : Active F, s.judgeSegment S measured b = .inl a' →
      a'.endpointIntegralTau = b.endpointIntegralTau ∧ a'.gripperMotion = b.gripperMotion := by
    intro b hb
    unfold Session.judgeSegment at hb
    dsimp only at hb
    repeat' split at hb
    all_goals first | (cases hb; exact ⟨rfl, rfl⟩) | cases hb
  unfold Session.judge at h
  split at h
  · cases h
  split at h
  · unfold Session.judgeGripper at h
    dsimp only at h
    repeat' split at h
    all_goals first | (cases h; exact ⟨rfl, rfl⟩) | cases h
  · unfold Session.judgeArms at h
    dsimp only at h
    repeat' split at h
    all_goals first | cases h | exact (hsegment _ h :)

/-- A plain completion hands the torque of its command back. -/
theorem judge_endpoint {S : Setting F} {s : Session F} {measured : PairQ F} {a : Active F}
    {ending : Session.Ending F} (h : s.judge S measured a = .inr ending) {hold : PairQ F × PairQ F}
    (hendpoint : ending.endpoint = some hold) :
    hold.2 = a.endpointIntegralTau ∧ a.gripperMotion = false := by
  have hsegment : ∀ b : Active F, s.judgeSegment S measured b = .inr ending →
      hold.2 = b.endpointIntegralTau := by
    intro b hb
    unfold Session.judgeSegment at hb
    dsimp only at hb
    repeat' split at hb
    all_goals first
      | (cases hb; done)
      | (cases hb; cases hendpoint; done)
      | (cases hb; cases hendpoint; rfl)
  unfold Session.judge at h
  split at h
  · cases h
    cases hendpoint
  split at h
  · unfold Session.judgeGripper at h
    dsimp only at h
    repeat' split at h
    all_goals first | (cases h; done) | (cases h; cases hendpoint)
  · rename_i hgripper
    refine ⟨?_, by simpa using hgripper⟩
    unfold Session.judgeArms at h
    dsimp only at h
    repeat' split at h
    all_goals first | (cases h; cases hendpoint) | exact (hsegment _ h :)

/-! ## §3. Where the worker stands. -/

/-- What a proof knows about the worker between two hold commands. -/
structure Pace (F : Type) where
  worker : Bool
  /-- The torque read for the command that is being planned. -/
  read : Option (PairQ F)
  /-- The reference of a side has been stepped, its hold command is to come. -/
  unsent : Side → Bool

namespace Pace

/-- Every stepped reference has been sent. -/
def sent : Side → Bool := fun _ => false

/-- What a view allows. -/
def allows (v : Pace F) : Op F → Prop
  | .readFeedforward => v.worker = true
  | .updateReference => v.worker = true ∧ v.unsent = sent
  | .publishActive planned => v.worker = true ∧ v.read = some planned.endpointIntegralTau
  | _ => True

/-- The view after an action. -/
def after (S : Setting F) (v : Pace F) : (o : Op F) → o.Reply → Pace F
  | .readFeedforward, tau => { v with read := some tau }
  | .publishActive _, _ => { v with read := none }
  | .updateReference, _ => { v with read := none, unsent := S.sides.active }
  | .sendHold side _, true => { v with unsent := Function.update v.unsent side false }
  | .loadArmed, false => { v with unsent := sent }
  | .storeArmed false, _ => { v with unsent := sent }
  | _, _ => v

/-- The answers a view can meet. -/
def meets (v : Pace F) : (o : Op F) → o.Reply → Prop
  | .loadConnected, connected => v.worker = true → connected = true
  | _, _ => True

/-- The worker between two cycles. -/
def atRest (v : Pace F) : Prop := v.worker = true ∧ v.unsent = sent

/-- What each loop expects. -/
def expects (v : Pace F) : Proc F → Prop
  | .workerLoop => v.atRest
  | _ => True

/-- What each loop leaves. -/
def left (v : Pace F) : (p : Proc F) → Pace F → Prop
  | .workerLoop, v' => v'.atRest
  | _, v' => v' = v

end Pace

/-- A reference is stepped once, and sent, in every cycle. -/
def pacing (S : Setting F) : Discipline (sessionSig F) (Pace F) where
  begins v := v
  allowed := Pace.allows
  possible := Pace.meets
  next v o r := v.after S o r
  expects p v := v.expects p
  leaves p v _ v' := v.left p v'

/-- The actions that leave every view alone. -/
def Op.paceless : Op F → Bool
  | .readFeedforward | .publishActive _ | .updateReference | .sendHold _ _ | .loadArmed
  | .storeArmed _ => false
  | _ => true

section

omit [Rounding F]

theorem paceless_op (S : Setting F) (o : Op F) (v : Pace F) (h : o.paceless = true) :
    (pacing S).allowed v o ∧ ∀ r, (pacing S).next v o r = v := by
  cases o <;> first | exact ⟨trivial, fun _ => rfl⟩ | cases h

theorem paceless_silences :
    Silences (fun o : Op F => o.paceless = true) (fun p : Proc F => p.ofCaller = true) where
  loadSocket _ := rfl
  clock := rfl
  closeSocket _ := rfl
  sendDisable _ := rfl
  sendRefresh _ := rfl
  poll := rfl
  readFrame _ := rfl
  collect _ _ := rfl
  disableRound _ := rfl

theorem pacing_loop (S : Setting F) (p : Proc F) (v : Pace F) (h : p.ofCaller = true) :
    (pacing S).expects p v ∧ ∀ a v', (pacing S).leaves p v a v' → v' = v := by
  cases p <;> first | exact ⟨trivial, fun _ _ h => h⟩ | cases h

end

section Programs

variable (S : Setting F)

section

omit [Rounding F]

/-- A program of actions that leave every view alone. -/
theorem conforms_paceless {α : Type} {p : Program F α}
    (h : Uses (fun o : Op F => o.paceless = true) (fun q : Proc F => q.ofCaller = true) p)
    (v : Pace F) : Conforms (pacing S) p v fun _ v' => v' = v :=
  h.conforms (paceless_op S) (pacing_loop S) v

/-- The callers' actions are allowed in every view … -/
theorem conforms_caller {α : Type} {p : Program F α} (h : CallerOnly p) (v : Pace F) :
    Conforms (pacing S) p v fun _ _ => True := by
  refine h.conforms_inv (P := fun _ => True) ?_ ?_ trivial
  · intro o w ho _
    cases o <;> first | (cases ho; done) | exact ⟨trivial, fun _ _ => trivial⟩
  · intro q w hq _
    exact ⟨(pacing_loop S q w hq).1, fun _ _ _ => trivial⟩

/-- … and keep the worker at rest. -/
theorem conforms_atRest {α : Type} {p : Program F α} (h : CallerOnly p) {v : Pace F}
    (hv : v.atRest) : Conforms (pacing S) p v fun _ v' => v'.atRest := by
  refine h.conforms_inv (P := Pace.atRest) ?_ ?_ hv
  · intro o w ho hw
    cases o <;> first | (cases ho; done) | refine ⟨trivial, fun r hr => ?_⟩
    case loadArmed => cases r <;> first | exact hw | exact ⟨hw.1, rfl⟩
    case storeArmed armed => cases armed <;> first | exact hw | exact ⟨hw.1, rfl⟩
    case sendHold side gain =>
      cases r with
      | false => exact hw
      | true =>
        refine ⟨hw.1, ?_⟩
        show Function.update w.unsent side false = Pace.sent
        rw [hw.2]
        exact Function.update_eq_self side Pace.sent
    all_goals exact hw
  · intro q w hq hw
    exact ⟨(pacing_loop S q w hq).1, fun a w' ha => by
      rw [(pacing_loop S q w hq).2 a w' ha]
      exact hw⟩

/-- One action, then the rest from the view it leaves. -/
theorem pace_then {β : Type} {o : Op F} {f : o.Reply → Program F β} {v : Pace F}
    {Q : β → Pace F → Prop} (hallowed : v.allows o)
    (hf : ∀ r, v.meets o r → Conforms (pacing S) (f r) (v.after S o r) Q) :
    Conforms (pacing S) (op o >>= f) v Q :=
  conforms_bind.mpr ⟨hallowed, hf⟩

end

variable {S} {v : Pace F}

section

omit [Rounding F]

/-- The torque that is read is the torque that is handed over. -/
theorem pace_processPending (hv : v.atRest) :
    Conforms (pacing S) processPending v fun _ v' => v'.atRest := by
  refine pace_then S trivial fun found _ => ?_
  cases found with
  | none => exact hv
  | some found =>
    obtain ⟨pending, start⟩ := found
    refine pace_then S trivial fun cancel _ => ?_
    split
    · exact conforms_atRest S (caller_terminalCommand _ _ _ _ _ _) hv
    · refine pace_then S trivial fun planned _ => ?_
      cases planned with
      | error reason =>
        exact conforms_atRest S (caller_loadSequences.bind fun _ =>
          caller_terminalCommand _ _ _ _ _ _) hv
      | ok planned =>
        refine pace_then S hv.1 fun tau _ => ?_
        exact ⟨⟨hv.1, rfl⟩, fun _ _ => ⟨hv.1, hv.2⟩⟩

/-- A hold command that is written to every active side leaves nothing unsent. -/
theorem pace_sendHoldCommands (gain : F) (hworker : v.worker = true)
    (hunsent : v.unsent = S.sides.active) :
    Conforms (pacing S) (sendHoldCommands S gain) v fun sent v' =>
      v'.worker = true ∧ (sent = true → v'.unsent = Pace.sent) := by
  -- The right side, from a view in which the left one is done.
  have hright : ∀ w : Pace F, w.worker = true → w.unsent 0 = false →
      w.unsent 1 = S.sides.active 1 →
      Conforms (pacing S) (if S.sides.active 1 then op (.sendHold 1 gain) else pure true) w
        fun sent v' => v'.worker = true ∧ (sent = true → v'.unsent = Pace.sent) := by
    intro w hw hzero hone
    have hboth : ∀ unsent : Side → Bool, unsent 0 = false → unsent 1 = false →
        unsent = Pace.sent := by
      intro unsent h0 h1
      funext side
      fin_cases side
      · exact h0
      · exact h1
    split
    · refine ⟨trivial, fun r _ => ?_⟩
      cases r with
      | false => exact ⟨hw, fun h => by cases h⟩
      | true =>
        refine ⟨hw, fun _ => hboth _ ?_ ?_⟩
        · show Function.update w.unsent 1 false 0 = false
          simpa using hzero
        · show Function.update w.unsent 1 false 1 = false
          simp
    · rename_i hactive
      exact ⟨hw, fun _ => hboth _ hzero (hone.trans (by simpa using hactive))⟩
  unfold sendHoldCommands onActiveSides
  refine conforms_bind.mpr ?_
  split
  · refine ⟨trivial, fun r _ => ?_⟩
    cases r with
    | false => exact ⟨hworker, fun h => by cases h⟩
    | true =>
      refine hright _ hworker ?_ ?_
      · show Function.update v.unsent 0 false 0 = false
        simp
      · show Function.update v.unsent 0 false 1 = _
        simp [hunsent]
  · rename_i hactive
    refine hright v hworker ?_ ?_
    · rw [hunsent]
      simpa using hactive
    · rw [hunsent]

theorem pace_exchangeFrames (gain : F) (deadline : Nat) (hworker : v.worker = true)
    (hunsent : v.unsent = S.sides.active) :
    Conforms (pacing S) (exchangeFrames S true gain deadline) v fun measured v' =>
      v'.worker = true ∧ (measured.isSome = true → v'.unsent = Pace.sent) := by
  unfold exchangeFrames
  refine Conforms.seq (pace_sendHoldCommands gain hworker hunsent) fun sent w hw => ?_
  cases sent with
  | false => exact ⟨trivial, fun _ _ => ⟨hw.1, fun h => by cases h⟩⟩
  | true =>
    refine Conforms.seq (conforms_paceless S (paceless_silences.collectFeedback deadline) w)
      fun got w' hw' => ?_
    rw [hw']
    exact ⟨trivial, fun measured _ => ⟨hw.1, fun _ => hw.2 rfl⟩⟩

end

/-- After the exchange of an armed cycle nothing is unsent, unless it failed. -/
theorem pace_cycleExchange (hworker : v.worker = true) (hunsent : v.unsent = S.sides.active) :
    Conforms (pacing S) (cycleExchange S) v fun measured v' =>
      v'.worker = true ∧ (measured.isSome = true → v'.unsent = Pace.sent) := by
  refine pace_then S trivial fun _ _ => pace_then S trivial fun armed _ => ?_
  refine Conforms.seq (R := fun measured v' =>
    v'.worker = true ∧ (measured.isSome = true → v'.unsent = Pace.sent)) ?_ fun measured w hw => ?_
  · cases armed with
    | false => exact ⟨hworker, fun h => by cases h⟩
    | true => exact pace_exchangeFrames _ _ hworker hunsent
  · exact ⟨trivial, fun _ _ => hw⟩

omit [Rounding F] in
/-- A failed exchange disarms the session, or finds it disarmed. -/
theorem pace_cycleEnd {measured : Option (PairQ F)} (hworker : v.worker = true)
    (hsent : measured.isSome = true → v.unsent = Pace.sent) :
    Conforms (pacing S) (cycleEnd S measured) v fun _ v' => v'.atRest := by
  cases measured with
  | none =>
    refine pace_then S trivial fun armed _ => ?_
    cases armed with
    | false => exact ⟨hworker, rfl⟩
    | true =>
      refine pace_then S trivial fun connected hconnected => ?_
      obtain rfl : connected = true := hconnected hworker
      refine pace_then S trivial fun failure _ => ?_
      -- its first action disarms the session
      have hrest := caller_faultAndDisable (F := F)
        ("encoder_feedback_watchdog_expired: " ++ failure)
      exact ⟨trivial, fun r _ => conforms_atRest S (hrest.2 r) ⟨hworker, rfl⟩⟩
  | some measured =>
    have hv : v.atRest := ⟨hworker, hsent rfl⟩
    refine pace_then S trivial fun _ _ => pace_then S trivial fun executing _ => ?_
    refine Conforms.seq (conforms_atRest S (caller_connects.publishMeasured S _) hv)
      fun _ w hw => ?_
    refine Conforms.seq (R := fun _ v' => v'.atRest) ?_ fun _ w' hw' => ?_
    · refine pace_then S trivial fun feedback _ => ?_
      cases feedback with
      | none => exact hw
      | some feedback =>
        obtain ⟨callback, feedback⟩ := feedback
        refine pace_then S trivial fun accepted _ => ?_
        split
        · exact hw
        · exact ⟨trivial, fun _ _ => hw⟩
    · refine pace_then S trivial fun terminal _ => ?_
      cases terminal with
      | none => exact hw'
      | some terminal =>
        refine conforms_atRest S ?_ hw'
        refine Uses.bind ?_ fun confirmed => caller_loadSequences.bind fun seeds =>
          (caller_terminalCommand _ _ _ _ _ _).bind fun _ => ?_
        · split
          · exact caller_connects.toShuts.disableAndCloseForFault
          · exact uses_pure
        · split
          · exact callerOp rfl
          · exact uses_pure

/-- **The worker steps a reference only when the one before has been sent**, or
    the session was disarmed in between. -/
theorem pace_workerBody (hv : v.atRest) :
    Conforms (pacing S) (workerBody S) v fun _ v' => v'.atRest := by
  refine pace_then S trivial fun closing _ => ?_
  cases closing with
  | true =>
    refine pace_then S trivial fun _ _ => ?_
    refine Conforms.seq (conforms_paceless S paceless_silences.disableAllImmediate _)
      fun _ w hw => ?_
    rw [hw]
    exact ⟨trivial, fun _ _ => ⟨hv.1, rfl⟩⟩
  | false =>
    refine pace_then S trivial fun armed _ => ?_
    refine Conforms.seq (R := fun _ v' => v'.atRest) ?_ fun _ w hw => ⟨hw, fun _ w' h => h⟩
    cases armed with
    | false => exact pace_processPending ⟨hv.1, rfl⟩
    | true =>
      refine Conforms.seq (conforms_atRest S caller_connects.anyEstop hv) fun latched w hw => ?_
      cases latched with
      | true => exact conforms_atRest S (caller_emergencyStop.bind fun _ => uses_pure) hw
      | false =>
        refine Conforms.seq (pace_processPending hw) fun _ w' hw' => ?_
        refine pace_then S hw' fun _ _ => ?_
        exact Conforms.seq (pace_cycleExchange hw'.1 rfl) fun measured u hu =>
          pace_cycleEnd hu.1 hu.2

omit [Rounding F] in
theorem paceless_confirm (side : Side) (motor : Motor) (register : Register)
    (value until_ : Nat) :
    Uses (fun o : Op F => o.paceless = true) (fun p : Proc F => p.ofCaller = true)
      (confirmRegisterBody side motor register value until_) := by
  refine Uses.bind (use paceless_silences.clock) fun now => ?_
  split
  · exact uses_pure
  · refine Uses.bind (use paceless_silences.poll) fun ready => ?_
    split
    · exact uses_pure
    · refine Uses.bind (use (paceless_silences.readFrame side)) fun frame => ?_
      split
      · exact uses_pure
      · exact useLoop rfl

/-- Every loop meets its specification. -/
theorem pace_body (p : Proc F) (v : Pace F) (h : v.expects p) :
    Conforms (pacing S) (loopBody S p) v fun _ v' => v.left p v' := by
  cases p with
  | collect until_ got => exact conforms_paceless S (paceless_silences.collectBody S until_ got) v
  | confirmRegister side motor register value until_ =>
    exact conforms_paceless S (paceless_confirm side motor register value until_) v
  | disableRound until_ => exact conforms_paceless S (paceless_silences.disableRoundBody S until_) v
  | workerLoop => exact pace_workerBody h

end Programs

/-! ## §4. What the actions write. -/

section Appended

variable (s : Session F) (side : Side)

section

omit [Rounding F]

theorem appended_eq_nil {s' : Session F}
    (h : (s'.bus side).outbound.length ≤ (s.bus side).outbound.length ∨
      (s'.bus side).outbound = (s.bus side).outbound) : appended s s' side = [] := by
  unfold appended
  rcases h with hlength | hsame
  · rw [List.drop_of_length_le hlength, List.map_nil]
  · rw [hsame, List.drop_length, List.map_nil]

/-- A transmission appends its frames, on its own bus. -/
theorem appended_transmit (at_ : Side) (frames : List (Frame F)) :
    appended s (s.transmit at_ frames) side = if side = at_ then frames else [] := by
  split
  · next heq =>
    subst heq
    unfold appended Session.transmit
    simp only [Function.update_self, List.drop_left]
    rw [List.map_fst_zip]
    simp
  · next hne =>
    refine appended_eq_nil s side (.inr ?_)
    show (Function.update s.bus at_ _ side).outbound = _
    rw [Function.update_of_ne hne]

theorem not_hold_of_map {α : Type} (frame : α → Frame F) (motors : List α) (joint : Joint)
    (h : ∀ motor, (frame motor).commandsJoint joint = false) :
    (motors.map frame).any (Frame.commandsJoint joint) = false := by
  simp [h]

theorem not_hold_transmit (at_ : Side) {frames : List (Frame F)} (joint : Joint)
    (h : frames.any (Frame.commandsJoint joint) = false) :
    (appended s (s.transmit at_ frames) side).any (Frame.commandsJoint joint) = false := by
  rw [appended_transmit]
  split
  · exact h
  · rfl

end

/-- A burst whose frames are all written has a hold command for every joint. -/
theorem sendHold_full {S : Setting F} {gain : F} {ok : Motor → Bool}
    (h : (s.sendHold S side gain ok).1 = true) (joint : Joint) :
    (appended s (s.sendHold S side gain ok).2 side).any (Frame.commandsJoint joint) = true := by
  have hall : (List.finRange 8).takeWhile (fun motor => s.socketOpen side &&
      s.holdEncodes S side gain motor && ok motor) = List.finRange 8 := by
    have hlength := of_decide_eq_true h
    refine (List.takeWhile_prefix _).eq_of_length ?_
    rw [hlength, List.length_finRange]
  show (appended s (s.transmit side _) side).any _ = true
  rw [appended_transmit, if_pos rfl, hall, List.any_eq_true]
  refine ⟨s.holdFrame S side gain (jointMotor joint),
    List.mem_map_of_mem (List.mem_finRange _), ?_⟩
  have hjoint : (jointMotor joint).val < 7 := joint.isLt
  unfold Session.holdFrame
  rw [dif_pos hjoint]
  exact decide_eq_true rfl

end Appended

/-- Only `send_hold_commands` writes hold commands. -/
theorem perform_appended {S : Setting F} {s : Session F} {o : Op F} {choice : Choice}
    {answer : o.Reply × Session F} (h : s.perform S o choice = some answer)
    (ho : ∀ side gain, o ≠ .sendHold side gain) (side : Side) (joint : Joint) :
    (appended s answer.2 side).any (Frame.commandsJoint joint) = false := by
  have hnone : ∀ {s' : Session F}, s'.bus = s.bus →
      (appended s s' side).any (Frame.commandsJoint joint) = false := by
    intro s' hbus
    rw [appended_eq_nil s side (.inr (by rw [hbus])), List.any_nil]
  cases o
  -- these operations send frames, none of which commands a joint
  case sendHold at_ gain => exact absurd rfl (ho at_ gain)
  case sendDisable at_ =>
    obtain ⟨ok, -, heq⟩ := Option.map_eq_some_iff.mp h
    cases heq
    show (appended s (s.sendDisable at_ ok) side).any _ = false
    unfold Session.sendDisable
    split
    · exact not_hold_transmit s side at_ joint (not_hold_of_map _ _ joint fun _ => rfl)
    · exact hnone rfl
  case sendRefresh at_ =>
    obtain ⟨ok, -, heq⟩ := Option.map_eq_some_iff.mp h
    cases heq
    exact not_hold_transmit s side at_ joint (not_hold_of_map _ _ joint fun _ => rfl)
  case sendEnable at_ =>
    obtain ⟨ok, -, heq⟩ := Option.map_eq_some_iff.mp h
    cases heq
    exact not_hold_transmit s side at_ joint (not_hold_of_map _ _ joint fun _ => rfl)
  case requestRegister at_ motor register value =>
    obtain ⟨ok, -, heq⟩ := Option.map_eq_some_iff.mp h
    cases heq
    show (appended s (s.requestRegister at_ motor register value ok).2 side).any _ = false
    unfold Session.requestRegister
    split
    · exact not_hold_transmit s side at_ joint rfl
    · exact hnone rfl
  -- these replace a bus and leave what it has sent
  case openSocket at_ =>
    obtain ⟨failure, -, heq⟩ := Option.map_eq_some_iff.mp h
    cases heq
    rw [appended_eq_nil s side (.inr ?_), List.any_nil]
    show ((s.openSocket at_ failure).2.bus side).outbound = _
    unfold Session.openSocket
    split
    · rfl
    · by_cases hside : side = at_
      · subst hside
        simp
      · simp [hside]
  case closeSocket at_ =>
    cases h
    rw [appended_eq_nil s side (.inr ?_), List.any_nil]
    show ((s.closeSocket at_).bus side).outbound = _
    unfold Session.closeSocket
    by_cases hside : side = at_
    · subst hside
      simp
    · simp [hside]
  case readFrame at_ =>
    obtain ⟨ok, -, heq⟩ := Option.map_eq_some_iff.mp h
    cases heq
    rw [appended_eq_nil s side (.inr ?_), List.any_nil]
    show ((s.readFrame at_ ok).2.bus side).outbound = _
    unfold Session.readFrame
    split
    · rfl
    · by_cases hside : side = at_
      · subst hside
        simp
      · simp [hside]
  -- the others do not touch the buses
  all_goals refine hnone ?_
  all_goals first
    | (cases h; rfl)
    | (obtain ⟨ok, -, heq⟩ := Option.map_eq_some_iff.mp h
       cases heq
       first | rfl | (split <;> rfl))
    | (simp only [Session.perform] at h
       split at h <;> cases h <;> rfl)
    | (cases h
       simp only [Session.absorb, Session.takePending, Session.publishActive,
         Session.updateReference, Session.monitor, Session.holdAfter, Session.finishBlock,
         Session.stopMotion, Session.reserve, Session.submit, Session.cancel, Session.release,
         Session.beginClose]
       repeat' split
       all_goals rfl)

/-- What the arms hold, and what of the active command moves it. -/
structure Steering (F : Type) where
  targetRaw : PairQ F
  feedforward : PairQ F
  active : Option (PairQ F × Bool)
  armed : Bool

def Session.steering (s : Session F) : Steering F where
  targetRaw := s.targetRaw
  feedforward := s.feedforwardModelTau
  active := s.active.map fun a => (a.endpointIntegralTau, a.gripperMotion)
  armed := s.armed

/-- The actions that move what the arms hold. -/
def Op.steers : Op F → Bool
  | .publishActive _ | .updateReference | .monitor _ | .finishBlock | .seedHold _
  | .storeArmed _ => true
  | _ => false

theorem perform_steering {S : Setting F} {s : Session F} {o : Op F} {choice : Choice}
    {answer : o.Reply × Session F} (h : s.perform S o choice = some answer)
    (ho : o.steers = false) : answer.2.steering = s.steering := by
  cases o
  all_goals first
    | (cases ho; done)
    | (cases h; rfl)
    | (obtain ⟨ok, -, heq⟩ := Option.map_eq_some_iff.mp h
       cases heq
       first
         | rfl
         | (split <;> rfl)
         | (simp only [Session.sendDisable, Session.requestRegister, Session.openSocket,
              Session.readFrame]
            split <;> rfl))
    | (simp only [Session.perform] at h
       split at h <;> cases h <;> rfl)
    | (cases h
       simp only [Session.absorb, Session.takePending, Session.stopMotion, Session.reserve,
         Session.submit, Session.cancel, Session.release, Session.beginClose]
       repeat' split
       all_goals rfl)

/-- The reference of a gripper command moves no arm … -/
theorem updateReference_gripper {S : Setting F} {s : Session F} {a : Active F}
    (hactive : s.active = some a) (hgripper : a.gripperMotion = true) :
    (s.updateReference S).steering = s.steering := by
  unfold Session.updateReference
  rw [hactive]
  simp only [hgripper, if_true]
  unfold Session.steering
  rw [hactive]

/-- … and that of an arm command steps the torque in both places. -/
theorem updateReference_arm {S : Setting F} {s : Session F} {a : Active F}
    (hactive : s.active = some a) (harms : a.gripperMotion = false) :
    let u : F := seconds (s.now - a.segmentStarted) / a.segmentDurationS
    let tau : PairQ F := fun side joint => Session.integrate a u s.measuredQ side joint
    (s.updateReference S).steering =
      { targetRaw := rawFromModel S.calibration (Session.referencePose a (smoothstep7 u))
        feedforward := tau
        active := some (tau, false)
        armed := s.armed } := by
  unfold Session.updateReference
  rw [hactive]
  simp only [harms]
  unfold Session.steering
  simp

/-! ## §5. The invariant. -/

/-- **The torque is one value in two places**, within a step of what was last
    sent. -/
structure Paced (S : Setting F) (v : Pace F) (h : Steering F) (log : HoldLog F) : Prop where
  inStep : ∀ a ∈ h.active, a.1 = h.feedforward
  limit : ∀ side joint, Within (kEndpointTorqueMaximumNm joint) (h.feedforward side joint)
  slews : ∀ side joint, S.sides.active side = true →
    Slews kEndpointTorqueStepNm (kEndpointTorqueMaximumNm joint) (log.torques side joint)
  bounded : ∀ side joint, ∀ tau ∈ log.torques side joint,
    Within (kEndpointTorqueMaximumNm joint) tau
  near : h.armed = true → ∀ side joint, S.sides.active side = true →
    ∀ last ∈ (log.torques side joint).head?,
      Steps kEndpointTorqueStepNm (kEndpointTorqueMaximumNm joint) last
          (h.feedforward side joint) ∧
        (v.unsent side = false → h.feedforward side joint = last)
  read : ∀ tau ∈ v.read, tau = h.feedforward
  gripper : ∀ u ∈ log.gripper, h.targetRaw = u.targetRaw ∧ h.feedforward = u.feedforward ∧
    ∀ a ∈ h.active, a.2 = true

section Steps

variable {S : Setting F} {v v' : Pace F} {h h' : Steering F} {log log' : HoldLog F}

/-- A step that moves no torque and sends none. -/
theorem Paced.quiet (hI : Paced S v h log) (hread : ∀ tau ∈ v'.read, tau = h.feedforward)
    (hunsent : h.armed = true → ∀ side, v'.unsent side = false → v.unsent side = false)
    (htorques : log'.torques = log.torques) (hgripper : ∀ u ∈ log'.gripper, u ∈ log.gripper) :
    Paced S v' h log' where
  inStep := hI.inStep
  limit := hI.limit
  slews := by
    rw [htorques]
    exact hI.slews
  bounded := by
    rw [htorques]
    exact hI.bounded
  near := by
    rw [htorques]
    intro harmed side joint hside last hlast
    obtain ⟨hnear, hsame⟩ := hI.near harmed side joint hside last hlast
    exact ⟨hnear, fun hv => hsame (hunsent harmed side hv)⟩
  read := hread
  gripper u hu := hI.gripper u (hgripper u hu)

/-- A step that leaves the torque, whatever else of a command it replaces. -/
theorem Paced.keep (hI : Paced S v h log) (hfeedforward : h'.feedforward = h.feedforward)
    (hactive : ∀ a ∈ h'.active, a.1 = h.feedforward) (harmed : h'.armed = h.armed)
    (hread : ∀ tau ∈ v'.read, tau = h.feedforward) (hunsent : v'.unsent = v.unsent)
    (htorques : log'.torques = log.torques)
    (hgripper : ∀ u ∈ log'.gripper, h'.targetRaw = u.targetRaw ∧
      h.feedforward = u.feedforward ∧ ∀ a ∈ h'.active, a.2 = true) :
    Paced S v' h' log' where
  inStep a ha := by rw [hfeedforward, hactive a ha]
  limit := by
    rw [hfeedforward]
    exact hI.limit
  slews := by
    rw [htorques]
    exact hI.slews
  bounded := by
    rw [htorques]
    exact hI.bounded
  near := by
    rw [htorques, hfeedforward, harmed, hunsent]
    exact hI.near
  read := by
    rw [hfeedforward]
    exact hread
  gripper := by
    rw [hfeedforward]
    exact hgripper

/-- **Sending** the hold command of a side. -/
theorem Paced.send (hI : Paced S v h log) (wrote : Side → Joint → Bool)
    (htorques : ∀ side joint, log'.torques side joint =
      if h.armed && wrote side joint then h.feedforward side joint :: log.torques side joint
      else log.torques side joint)
    (hunsent : ∀ side, v'.unsent side = false →
      v.unsent side = false ∨ ∀ joint, wrote side joint = true)
    (hread : v'.read = v.read) (hgripper : log'.gripper = log.gripper) :
    Paced S v' h log' where
  inStep := hI.inStep
  limit := hI.limit
  slews side joint hside := by
    rw [htorques]
    split
    · next hwrote =>
      rw [Bool.and_eq_true] at hwrote
      exact (hI.slews side joint hside).cons fun last hlast =>
        (hI.near hwrote.1 side joint hside last hlast).1
    · exact hI.slews side joint hside
  bounded side joint tau htau := by
    rw [htorques] at htau
    split at htau
    · rcases List.mem_cons.mp htau with rfl | hold
      · exact hI.limit side joint
      · exact hI.bounded side joint tau hold
    · exact hI.bounded side joint tau htau
  near harmed side joint hside last hlast := by
    rw [htorques, harmed, Bool.true_and] at hlast
    by_cases hwrote : wrote side joint = true
    · rw [if_pos hwrote] at hlast
      obtain rfl : h.feedforward side joint = last := by simpa using hlast
      exact ⟨.stay rfl, fun _ => rfl⟩
    · rw [if_neg hwrote] at hlast
      obtain ⟨hnear, hsame⟩ := hI.near harmed side joint hside last hlast
      refine ⟨hnear, fun hv => ?_⟩
      rcases hunsent side hv with hbefore | hall
      · exact hsame hbefore
      · exact absurd (hall joint) hwrote
  read := by
    rw [hread]
    exact hI.read
  gripper := by
    rw [hgripper]
    exact hI.gripper

variable [FloatSum F]

/-- **Stepping the reference** of an arm command, when the last one was sent. -/
theorem Paced.step (hI : Paced S v h log) (a : Active F) (u : F) (measured : PairQ F)
    (hactive : h.active = some (a.endpointIntegralTau, false))
    (hsent : v.unsent = Pace.sent) (hunsent : v'.unsent = S.sides.active) (hread : v'.read = none)
    (hfeedforward : h'.feedforward = fun side joint =>
      Session.integrate a u measured side joint)
    (hactive' : h'.active = some (h'.feedforward, false)) (harmed : h'.armed = h.armed) :
    Paced S v' h' log := by
  have htau : a.endpointIntegralTau = h.feedforward := hI.inStep _ hactive
  have hlimit : ∀ side joint, Within (kEndpointTorqueMaximumNm joint)
      (a.endpointIntegralTau side joint) := by
    rw [htau]
    exact hI.limit
  refine ⟨fun b hb => ?_, fun side joint => ?_, hI.slews, hI.bounded, ?_, ?_, fun u hu => ?_⟩
  · rw [hactive'] at hb
    obtain rfl := Option.some.inj hb
    rfl
  · rw [hfeedforward]
    exact integrate_within a u measured side joint (hlimit side joint)
  · intro harm side joint hside last hlast
    obtain ⟨-, hsame⟩ := hI.near (harmed ▸ harm) side joint hside last hlast
    have hlast' : a.endpointIntegralTau side joint = last := by
      rw [htau]
      exact hsame (by rw [hsent]; rfl)
    constructor
    · rw [hfeedforward, ← hlast']
      exact integrate_steps a u measured side joint
    · intro hv
      rw [hunsent, hside] at hv
      cases hv
  · rw [hread]
    intro tau htau'
    cases htau'
  · -- a gripper command is under way only while no arm command is active
    have hkind := (hI.gripper u hu).2.2 _ hactive
    cases hkind

omit [FloatSum F] in
/-- **Arming** without torque. -/
theorem Paced.arm (hI : Paced S v h log) (hzero : h.feedforward = zeroQ)
    (hlast : ∀ side joint, ∀ last ∈ (log.torques side joint).head?, last = Floating.lit 0)
    (hsame : h' = { h with armed := true }) : Paced S v h' log := by
  subst hsame
  refine ⟨hI.inStep, hI.limit, hI.slews, hI.bounded, ?_, hI.read, hI.gripper⟩
  intro _ side joint _ last hmem
  have hvalue : h.feedforward side joint = last := by
    rw [hzero, hlast side joint last hmem]
    rfl
  exact ⟨.stay hvalue, fun _ => hvalue⟩

omit [FloatSum F] in
/-- **Disarming.** -/
theorem Paced.disarm (hI : Paced S v h log) (hread : v'.read = v.read)
    (hsame : h' = { h with armed := false }) : Paced S v' h' log := by
  subst hsame
  refine ⟨hI.inStep, hI.limit, hI.slews, hI.bounded, fun harm => (by cases harm), ?_, hI.gripper⟩
  rw [hread]
  exact hI.read

end Steps

/-! ## §6. Runs. -/

section Runs

variable [FloatSum F] [DecidableEq C] {S : Setting F}

/-- The views of the threads at first. -/
def paceStart : Thread C → Pace F := fun t =>
  { worker := decide (t = .worker), read := none, unsent := Pace.sent }

/-- The views after these labels. -/
abbrev paces (S : Setting F) (es : List (SessionLabel F C)) : Thread C → Pace F :=
  (pacing S).views paceStart es

/-- The invariant of a run. -/
structure Steady (S : Setting F) (es : List (SessionLabel F C))
    (p : Sessions F C × HoldLog F) : Prop where
  worker : ∀ t, (paces S es t).worker = decide (t = .worker)
  paced : Paced S (paces S es .worker) p.1.shared.steering p.2

section

omit [Rounding F] [FloatSum F]

theorem paces_snoc (es : List (SessionLabel F C)) (l : SessionLabel F C) :
    paces S (es ++ [l]) = (pacing S).seen (paces S es) l :=
  Discipline.views_snoc _ _ _

/-- A label that is no action leaves the views. -/
theorem paces_other (es : List (SessionLabel F C)) {l : SessionLabel F C}
    (h : ∀ t o r, l ≠ .act t o r) : paces S (es ++ [l]) = paces S es := by
  rw [paces_snoc]
  cases l with
  | act t o r => exact absurd rfl (h t o r)
  | start t request => exact Function.update_eq_self t _
  | enter t p => rfl
  | finish t a => rfl
  | event e => rfl

/-- The view of the worker after an action. -/
theorem paces_worker (es : List (SessionLabel F C)) (t : Thread C) (o : Op F) (r : o.Reply) :
    paces S (es ++ [.act t o r]) .worker =
      if t = .worker then (paces S es .worker).after S o r else paces S es .worker := by
  rw [paces_snoc]
  show Function.update (paces S es) t _ .worker = _
  by_cases ht : t = .worker
  · subst ht
    rw [Function.update_self, if_pos rfl]
    rfl
  · rw [Function.update_of_ne (Ne.symm ht), if_neg ht]

theorem after_worker (v : Pace F) (o : Op F) (r : o.Reply) :
    (v.after S o r).worker = v.worker := by
  cases o <;> first | rfl | (cases r <;> rfl) | skip
  case storeArmed armed => cases armed <;> rfl

end

omit [FloatSum F] in
theorem Steady.flags {es : List (SessionLabel F C)} {p : Sessions F C × HoldLog F}
    (hI : Steady S es p) (l : SessionLabel F C) (t : Thread C) :
    (paces S (es ++ [l]) t).worker = decide (t = .worker) := by
  rw [paces_snoc]
  cases l with
  | act u o r =>
    show (Function.update (paces S es) u _ t).worker = _
    by_cases ht : t = u
    · subst ht
      rw [Function.update_self]
      exact (after_worker _ o r).trans (hI.worker t)
    · rw [Function.update_of_ne ht]
      exact hI.worker t
  | start u request =>
    show (Function.update (paces S es) u (paces S es u) t).worker = _
    rw [Function.update_eq_self]
    exact hI.worker t
  | enter u p => exact hI.worker t
  | finish u a => exact hI.worker t
  | event e => exact hI.worker t

section

omit [Rounding F] [FloatSum F] [DecidableEq C]

/-- A step that sends no hold command leaves the torques of the log. -/
theorem record_torques {m m' : Sessions F C} {log : HoldLog F} {l : SessionLabel F C}
    (h : ∀ side joint,
      (appended m.shared m'.shared side).any (Frame.commandsJoint joint) = false) :
    (log.record m l m').torques = log.torques := by
  funext side joint
  show (if m.shared.armed && _ then _ else _) = _
  rw [h side joint, Bool.and_false]
  rfl

/-- A step that sends no hold command and starts and ends no gripper command
    leaves the log. -/
theorem record_eq {m m' : Sessions F C} {log : HoldLog F} {l : SessionLabel F C}
    (h : ∀ side joint,
      (appended m.shared m'.shared side).any (Frame.commandsJoint joint) = false)
    (hgripper : log.gripperAfter m.shared l = log.gripper) : log.record m l m' = log := by
  have htorques : (log.record m l m').torques = log.torques := record_torques h
  show HoldLog.mk (log.record m l m').torques (log.gripperAfter m.shared l) = log
  rw [htorques, hgripper]

/-- A command under way that a step leaves under way. -/
theorem gripperAfter_keeps {log : HoldLog F} {s : Session F} {t : Thread C} {o : Op F}
    {r : o.Reply} (ho : ∀ planned, o ≠ .publishActive planned) {u : Underway F}
    (hu : u ∈ log.gripperAfter s (.act t o r)) : u ∈ log.gripper := by
  cases o
  case publishActive planned => exact absurd rfl (ho planned)
  case terminalCallback callback result =>
    obtain ⟨hmem, -⟩ := Option.mem_filter_iff.mp hu
    exact hmem
  case clearOwner owner reason =>
    obtain ⟨hmem, -⟩ := Option.mem_filter_iff.mp hu
    exact hmem
  all_goals exact hu

end

section Action

variable {es : List (SessionLabel F C)} {m : Sessions F C} {log : HoldLog F} {t : Thread C}
  {o : Op F} {choice : Choice} {r : o.Reply} {s' : Session F} {m' : Sessions F C}

section

omit [FloatSum F]

/-- **An action that steers nothing.** -/
theorem Steady.paced_idle (hI : Steady S es (m, log)) (hs : m'.shared = s')
    (hperform : m.shared.perform S o choice = some (r, s')) (ho : o.steers = false)
    (hsend : ∀ side gain, o ≠ .sendHold side gain) :
    Paced S (paces S (es ++ [.act t o r]) .worker) m'.shared.steering
      (log.record m (.act t o r) m') := by
  subst hs
  have hsteering : m'.shared.steering = m.shared.steering := perform_steering hperform ho
  have htorques : (log.record m (.act t o r) m').torques = log.torques :=
    record_torques fun side joint => perform_appended hperform hsend side joint
  have hgripper : ∀ u ∈ (log.record m (.act t o r) m').gripper, u ∈ log.gripper := by
    intro u hu
    refine gripperAfter_keeps (fun planned hpublish => ?_) hu
    rw [hpublish] at ho
    cases ho
  rw [hsteering, paces_worker]
  refine hI.paced.quiet ?_ ?_ htorques hgripper
  · -- only `readFeedforward` reads a torque, and it reads the one that is held
    intro tau htau
    split at htau
    · cases o
      case readFeedforward =>
        have hr : m.shared.feedforwardModelTau = r := congrArg Prod.fst (Option.some.inj hperform)
        exact (Option.some.inj htau).symm.trans hr.symm
      case sendHold side gain => exact absurd rfl (hsend side gain)
      case loadArmed => cases r <;> exact hI.paced.read tau htau
      all_goals first | (cases ho; done) | exact hI.paced.read tau htau
    · exact hI.paced.read tau htau
  · -- only a session that is found disarmed forgets what is unsent
    intro harmed side hunsent
    split at hunsent
    · cases o
      case sendHold at_ gain => exact absurd rfl (hsend at_ gain)
      case loadArmed =>
        have hr : m.shared.armed = r := congrArg Prod.fst (Option.some.inj hperform)
        rw [← hr, show m.shared.armed = true from harmed] at hunsent
        exact hunsent
      all_goals first | (cases ho; done) | exact hunsent
    · exact hunsent

/-- **A hold command.** -/
theorem Steady.paced_send (hI : Steady S es (m, log)) {side : Side} {gain : F}
    {ok : Motor → Bool} (hs : m'.shared = (m.shared.sendHold S side gain ok).2) :
    Paced S
      (paces S (es ++ [.act t (.sendHold side gain) (m.shared.sendHold S side gain ok).1]) .worker)
      m'.shared.steering
      (log.record m (.act t (.sendHold side gain) (m.shared.sendHold S side gain ok).1) m') := by
  have hsteering : m'.shared.steering = m.shared.steering := by
    rw [hs]
    rfl
  rw [hsteering, paces_worker]
  refine hI.paced.send (fun at_ joint =>
    (appended m.shared m'.shared at_).any (Frame.commandsJoint joint)) (fun _ _ => rfl) ?_ ?_ rfl
  · intro at_ hunsent
    split at hunsent
    · by_cases hall : (m.shared.sendHold S side gain ok).1 = true
      · rw [hall] at hunsent
        by_cases hside : at_ = side
        · refine .inr fun joint => ?_
          rw [hside, hs]
          exact sendHold_full m.shared side hall joint
        · refine .inl ?_
          have hother : Function.update (paces S es .worker).unsent side false at_ = false :=
            hunsent
          rwa [Function.update_of_ne hside] at hother
      · rw [Bool.not_eq_true] at hall
        rw [hall] at hunsent
        exact .inl hunsent
    · exact .inl hunsent
  · split
    · cases (m.shared.sendHold S side gain ok).1 <;> rfl
    · rfl

/-- **An accepted command**, gripper or arm: its torque is the one that is held. -/
theorem Steady.paced_publish (hI : Steady S es (m, log)) {planned : Active F}
    (hs : m'.shared = m.shared.publishActive planned)
    (hallowed : (paces S es t).allows (.publishActive planned)) :
    Paced S (paces S (es ++ [.act t (.publishActive planned) ()]) .worker) m'.shared.steering
      (log.record m (.act t (.publishActive planned) ()) m') := by
  obtain ⟨hworker, hread⟩ := hallowed
  obtain rfl : t = .worker := of_decide_eq_true ((hI.worker t).symm.trans hworker)
  have htau : planned.endpointIntegralTau = m.shared.feedforwardModelTau :=
    hI.paced.read _ hread
  have hperform : m.shared.perform S (.publishActive planned) .quiet =
      some ((), m.shared.publishActive planned) := rfl
  have htorques : (log.record m (.act .worker (.publishActive planned) ()) m').torques =
      log.torques := by
    refine record_torques fun side joint => ?_
    rw [hs]
    exact perform_appended hperform (fun _ _ h => by cases h) side joint
  have hsteering : m'.shared.steering =
      { m.shared.steering with
        active := some (planned.endpointIntegralTau, planned.gripperMotion) } := by
    rw [hs]
    unfold Session.publishActive
    dsimp only
    split <;> rfl
  rw [hsteering, paces_worker, if_pos rfl]
  refine hI.paced.keep rfl ?_ rfl ?_ rfl htorques ?_
  · intro a ha
    obtain rfl := Option.some.inj ha
    exact htau
  · intro tau htau'
    cases htau'
  · intro u hu
    have hlog : (log.record m (.act .worker (.publishActive planned) ()) m').gripper =
        if planned.gripperMotion then
          some { commandId := planned.commandId, terminal := planned.command.terminal
                 targetRaw := m.shared.targetRaw, feedforward := m.shared.feedforwardModelTau }
        else none := rfl
    rw [hlog] at hu
    split at hu
    · next hgripper =>
      obtain rfl := Option.some.inj hu
      refine ⟨rfl, rfl, fun a ha => ?_⟩
      obtain rfl := Option.some.inj ha
      exact hgripper
    · cases hu

end

/-- **The reference of a cycle.** -/
theorem Steady.paced_reference (hI : Steady S es (m, log))
    (hs : m'.shared = m.shared.updateReference S)
    (hallowed : (paces S es t).allows .updateReference) :
    Paced S (paces S (es ++ [.act t .updateReference ()]) .worker) m'.shared.steering
      (log.record m (.act t .updateReference ()) m') := by
  obtain ⟨hworker, hsent⟩ := hallowed
  obtain rfl : t = .worker := of_decide_eq_true ((hI.worker t).symm.trans hworker)
  have hperform : m.shared.perform S .updateReference .quiet =
      some ((), m.shared.updateReference S) := rfl
  have hlog : log.record m (.act .worker .updateReference ()) m' = log := by
    refine record_eq (fun side joint => ?_) rfl
    rw [hs]
    exact perform_appended hperform (fun _ _ h => by cases h) side joint
  rw [hlog, paces_worker, if_pos rfl]
  -- without an arm command only the opening of a gripper moves
  have hquiet : m'.shared.steering = m.shared.steering →
      Paced S ((paces S es .worker).after S .updateReference ()) m'.shared.steering log := by
    intro hsame
    rw [hsame]
    refine hI.paced.quiet (fun tau htau => by cases htau) (fun _ side _ => ?_) rfl fun _ h => h
    rw [hsent]
    rfl
  cases hactive : m.shared.active with
  | none =>
    refine hquiet ?_
    rw [hs]
    unfold Session.updateReference
    rw [hactive]
  | some a =>
    by_cases hgripper : a.gripperMotion = true
    · refine hquiet ?_
      rw [hs]
      exact updateReference_gripper hactive hgripper
    · have hkind : a.gripperMotion = false := by simpa using hgripper
      have hsteering := hs ▸ updateReference_arm hactive hkind
      refine hI.paced.step a
        (seconds (m.shared.now - a.segmentStarted) / a.segmentDurationS)
        m.shared.measuredQ ?_ hsent rfl rfl ?_ ?_ ?_
      · show m.shared.active.map _ = _
        rw [hactive, ← hkind]
        rfl
      · rw [hsteering]
      · rw [hsteering]
      · rw [hsteering]
        rfl

omit [FloatSum F] in
/-- **The verdict of a cycle.** -/
theorem Steady.paced_monitor (hI : Steady S es (m, log)) {measured : PairQ F}
    (hs : m'.shared = (m.shared.monitor S measured).2)
    (hG : ∀ a ending, m.shared.active = some a → m.shared.judge S measured a = .inr ending →
      (ending.endpoint = none → m.shared.feedforwardModelTau = zeroQ) ∧
        (a.gripperMotion = true → rawFromModel S.calibration measured = m.shared.targetRaw)) :
    Paced S (paces S (es ++ [.act t (.monitor measured) (m.shared.monitor S measured).1]) .worker)
      m'.shared.steering
      (log.record m (.act t (.monitor measured) (m.shared.monitor S measured).1) m') := by
  have hperform : m.shared.perform S (.monitor measured) .quiet =
      some (m.shared.monitor S measured) := rfl
  have hlog : log.record m (.act t (.monitor measured) (m.shared.monitor S measured).1) m' =
      log := by
    refine record_eq (fun side joint => ?_) rfl
    rw [hs]
    exact perform_appended hperform (fun _ _ h => by cases h) side joint
  have hview : paces S (es ++ [.act t (.monitor measured) (m.shared.monitor S measured).1])
      .worker = paces S es .worker := by
    rw [paces_worker]
    split <;> rfl
  rw [hlog, hview]
  have hgripper := hI.paced.gripper
  cases hactive : m.shared.active with
  | none =>
    have hsame : m'.shared = m.shared := by
      rw [hs]
      unfold Session.monitor
      rw [hactive]
    rw [hsame]
    exact hI.paced
  | some a =>
    have hkind : m.shared.steering.active = some (a.endpointIntegralTau, a.gripperMotion) := by
      show m.shared.active.map _ = _
      rw [hactive]
      rfl
    have htau : a.endpointIntegralTau = m.shared.feedforwardModelTau :=
      hI.paced.inStep _ hkind
    cases hjudge : m.shared.judge S measured a with
    | inl a' =>
      obtain ⟨htorque, hmotion⟩ := judge_torque hjudge
      have hsteering : m'.shared.steering = m.shared.steering := by
        rw [hs]
        unfold Session.monitor
        rw [hactive]
        dsimp only
        rw [hjudge]
        show Steering.mk _ _ (some (a'.endpointIntegralTau, a'.gripperMotion)) _ = _
        rw [htorque, hmotion, ← hkind]
        rfl
      rw [hsteering]
      exact hI.paced
    | inr ending =>
      obtain ⟨hzero, hheld⟩ := hG a ending hactive hjudge
      have hends : m'.shared.steering =
          { targetRaw := rawFromModel S.calibration (ending.endpoint.getD (measured, zeroQ)).1
            feedforward := (ending.endpoint.getD (measured, zeroQ)).2
            active := none
            armed := m.shared.armed } := by
        rw [hs]
        unfold Session.monitor
        rw [hactive]
        dsimp only
        rw [hjudge]
        unfold Session.holdAfter
        dsimp only
        split <;> rfl
      rw [hends]
      cases hendpoint : ending.endpoint with
      | none =>
        have hsame := hzero hendpoint
        refine hI.paced.keep hsame.symm (fun a ha => by cases ha) rfl hI.paced.read rfl rfl
          fun u hu => ?_
        obtain ⟨htarget, hforward, hmotion⟩ := hgripper u hu
        refine ⟨?_, hforward, fun a ha => by cases ha⟩
        rw [← htarget]
        exact hheld (hmotion _ hkind)
      | some hold =>
        obtain ⟨hhold, harms⟩ := judge_endpoint hjudge hendpoint
        refine hI.paced.keep (hhold.trans htau) (fun a ha => by cases ha) rfl hI.paced.read rfl rfl
          fun u hu => ?_
        -- an arm command was active, so no gripper command is under way
        have hmotion := (hgripper u hu).2.2 _ hkind
        rw [harms] at hmotion
        cases hmotion

omit [FloatSum F] in
/-- **An action that steers and starts no command.** -/
theorem Steady.paced_other (hI : Steady S es (m, log)) (hs : m'.shared = s')
    (hperform : m.shared.perform S o choice = some (r, s')) (hother : o = .finishBlock ∨
      (∃ measured, o = .seedHold measured ∧ m.shared.feedforwardModelTau = zeroQ ∧
        log.gripper = none) ∨
      (o = .storeArmed true ∧ m.shared.feedforwardModelTau = zeroQ ∧
        ∀ side joint, ∀ last ∈ (log.torques side joint).head?, last = Floating.lit 0) ∨
      o = .storeArmed false) :
    Paced S (paces S (es ++ [.act t o r]) .worker) m'.shared.steering
      (log.record m (.act t o r) m') := by
  -- none of these operations sends a hold command
  have hlog : log.record m (.act t o r) m' = log := by
    refine record_eq (fun side joint => ?_) ?_
    · subst hs
      refine perform_appended hperform (fun _ _ h => ?_) side joint
      rcases hother with rfl | ⟨_, rfl, -⟩ | ⟨rfl, -⟩ | rfl <;> cases h
    · rcases hother with rfl | ⟨_, rfl, -⟩ | ⟨rfl, -⟩ | rfl <;> rfl
  rw [hlog, paces_worker]
  subst hs
  have hpaced := hI.paced
  rcases hother with rfl | ⟨measured, rfl, hzero, hnone⟩ | ⟨rfl, hzero, hlast⟩ | rfl
  · -- the active command ends where it stands
    have hafter : (m.shared.finishBlock).2 = m'.shared :=
      congrArg Prod.snd (Option.some.inj hperform)
    have hview : ∀ w : Pace F, w.after S .finishBlock r = w := fun _ => rfl
    rw [hview, ite_self, ← hafter]
    unfold Session.finishBlock
    have hidle : ∀ s : Session F, s.targetRaw = m.shared.targetRaw →
        s.feedforwardModelTau = m.shared.feedforwardModelTau → s.active = none →
        s.armed = m.shared.armed → Paced S (paces S es .worker) s.steering log := by
      intro s htargets hforwards hnone harmed
      have hempty : s.steering.active = none := by
        show s.active.map _ = none
        rw [hnone]
        rfl
      refine hpaced.keep hforwards (fun a ha => ?_) harmed hpaced.read rfl rfl fun u hu => ?_
      · rw [hempty] at ha
        cases ha
      · obtain ⟨htarget, hforward, -⟩ := hpaced.gripper u hu
        refine ⟨htargets.trans htarget, hforward, fun a ha => ?_⟩
        rw [hempty] at ha
        cases ha
    split
    · exact hidle _ rfl rfl rfl rfl
    · next command hactive _ => exact hidle _ rfl rfl hactive rfl
    · exact hpaced
  · -- a new seed finds the torque at zero already
    have hafter : m.shared.seedHold S measured = m'.shared :=
      congrArg Prod.snd (Option.some.inj hperform)
    have hview : ∀ w : Pace F, w.after S (.seedHold measured) r = w := fun _ => rfl
    rw [hview, ite_self, ← hafter]
    show Paced S _ (m.shared.seedHold S measured).steering _
    refine hpaced.keep hzero.symm
      (fun a ha => hpaced.inStep a ha) rfl hpaced.read rfl rfl fun u hu => ?_
    rw [hnone] at hu
    cases hu
  · -- arming asks for zero torque, which is what the last hold commands carried
    have hafter : { m.shared with armed := true } = m'.shared :=
      congrArg Prod.snd (Option.some.inj hperform)
    have hview : ∀ w : Pace F, w.after S (.storeArmed true) r = w := fun _ => rfl
    rw [hview, ite_self, ← hafter]
    exact hpaced.arm hzero hlast rfl
  · have hafter : { m.shared with armed := false } = m'.shared :=
      congrArg Prod.snd (Option.some.inj hperform)
    rw [← hafter]
    refine hpaced.disarm ?_ rfl
    split <;> rfl

end Action

/-- **Every gentle action keeps the invariant.** -/
theorem Steady.act {es : List (SessionLabel F C)} {m : Sessions F C} (m' : Sessions F C)
    {log : HoldLog F} {t : Thread C} {o : Op F} {r : o.Reply} {choice : Choice}
    (hI : Steady S es (m, log))
    (hperform : m.shared.perform S o choice = some (r, m'.shared))
    (hallowed : (paces S es t).allows o)
    (hG : Gentle S (m, log) (.act t o r) (m', log.record m (.act t o r) m')) :
    Paced S (paces S (es ++ [.act t o r]) .worker) m'.shared.steering
      (log.record m (.act t o r) m') := by
  cases o
  case sendHold side gain =>
    obtain ⟨ok, -, heq⟩ := Option.map_eq_some_iff.mp hperform
    obtain rfl : (m.shared.sendHold S side gain ok).1 = r := congrArg Prod.fst heq
    exact hI.paced_send (congrArg Prod.snd heq).symm
  case publishActive planned =>
    exact hI.paced_publish (congrArg Prod.snd (Option.some.inj hperform)).symm hallowed
  case updateReference =>
    exact hI.paced_reference (congrArg Prod.snd (Option.some.inj hperform)).symm hallowed
  case monitor measured =>
    obtain rfl : (m.shared.monitor S measured).1 = r :=
      congrArg Prod.fst (Option.some.inj hperform)
    exact hI.paced_monitor (congrArg Prod.snd (Option.some.inj hperform)).symm hG
  case finishBlock => exact hI.paced_other rfl hperform (.inl rfl)
  case seedHold measured =>
    exact hI.paced_other rfl hperform (.inr (.inl ⟨measured, rfl, hG⟩))
  case storeArmed armed =>
    cases armed with
    | true => exact hI.paced_other rfl hperform (.inr (.inr (.inl ⟨rfl, hG⟩)))
    | false => exact hI.paced_other rfl hperform (.inr (.inr (.inr rfl)))
  all_goals exact hI.paced_idle rfl hperform rfl fun _ _ h => by cases h

omit [Rounding F] [FloatSum F] in
/-- What happens on its own steers nothing. -/
theorem occurs_steering {s s' : Session F} {e : Event F} (h : s.occurs e = some s') :
    s'.steering = s.steering := by
  cases e with
  | serve side received reply =>
    simp only [Session.occurs, Session.serve] at h
    split at h
    · cases h
    · cases h
      rfl
  | _ => cases h; rfl

omit [FloatSum F] in
omit [Rounding F] in
/-- … and sends nothing. -/
theorem occurs_appended {s s' : Session F} {e : Event F} (h : s.occurs e = some s')
    (side : Side) : appended s s' side = [] := by
  cases e with
  | tick ns =>
    cases h
    exact appended_eq_nil s side (.inr rfl)
  | runtimeEstop asserted =>
    cases h
    exact appended_eq_nil s side (.inr rfl)
  | dropOut at_ motor =>
    cases h
    refine appended_eq_nil s side (.inr ?_)
    show (Function.update s.bus at_ _ side).outbound = _
    by_cases hside : side = at_
    · subst hside
      rw [Function.update_self]
    · rw [Function.update_of_ne hside]
  | serve at_ received reply =>
    simp only [Session.occurs, Session.serve] at h
    split at h
    · cases h
    · rename_i frame serial rest hout
      cases h
      refine appended_eq_nil s side (.inl ?_)
      show (Function.update s.bus at_ _ side).outbound.length ≤ _
      by_cases hside : side = at_
      · subst hside
        rw [Function.update_self, hout, List.length_cons]
        show rest.length ≤ _
        omega
      · rw [Function.update_of_ne hside]

/-- **Every gentle step keeps the invariant.** -/
theorem Steady.step {es : List (SessionLabel F C)} {l : SessionLabel F C}
    {p q : Sessions F C × HoldLog F} (hI : Steady S es p)
    (hstep : (sessionMachine C S).Step p.1 l q.1) (hlog : q.2 = p.2.record p.1 l q.1)
    (hG : Gentle S p l q)
    (hallowed : ∀ t o r, l = .act t o r → (paces S es t).allows o) : Steady S (es ++ [l]) q := by
  obtain ⟨m, log⟩ := p
  obtain ⟨m', log'⟩ := q
  dsimp only at hstep hlog
  subst hlog
  refine ⟨hI.flags l, ?_⟩
  -- a label that is no action leaves the session, the log and the views
  have hidle : (∀ t o r, l ≠ .act t o r) → log.gripperAfter m.shared l = log.gripper →
      (∀ side, appended m.shared m'.shared side = []) →
      m'.shared.steering = m.shared.steering →
      Paced S (paces S (es ++ [l]) .worker) m'.shared.steering (log.record m l m') := by
    intro hnone hgripper hsent hsteering
    have hsame : log.record m l m' = log := record_eq (fun side joint => by
      rw [hsent side, List.any_nil]) hgripper
    rw [paces_other es hnone, hsteering, hsame]
    exact hI.paced
  have hself : ∀ side, appended m.shared m.shared side = [] :=
    fun side => appended_eq_nil m.shared side (.inr rfl)
  cases hstep with
  | start t request idle => exact hidle (fun _ _ _ h => by cases h) rfl hself rfl
  | act choice next performed =>
    exact hI.act ⟨_, _⟩ performed (hallowed _ _ _ rfl) hG
  | enter next => exact hidle (fun _ _ _ h => by cases h) rfl hself rfl
  | finish next => exact hidle (fun _ _ _ h => by cases h) rfl hself rfl
  | event e occurred =>
    exact hidle (fun _ _ _ h => by cases h) rfl (occurs_appended occurred)
      (occurs_steering occurred)

/-- The session before its first command. -/
theorem Steady.init {p : Sessions F C × HoldLog F} (hinit : (loggedSessions C S).init p) :
    Steady S [] p := by
  obtain ⟨⟨⟨gripper, now, bus, hs⟩, -, -⟩, hlog⟩ := hinit
  have hsteering : p.1.shared.steering =
      { targetRaw := zeroQ, feedforward := zeroQ, active := none, armed := false } := by
    rw [hs]
    rfl
  refine ⟨fun t => rfl, ?_⟩
  rw [hsteering, hlog]
  refine ⟨fun a ha => (by cases ha), fun side joint => ?_, fun _ _ _ => slews_nil _ _,
    fun _ _ tau htau => (by cases htau), fun harmed => (by cases harmed),
    fun tau htau => (by cases htau), fun u hu => (by cases hu)⟩
  exact within_of_between ⟨FloatSum.neg_le_zero (maximum_nonneg joint), maximum_nonneg joint⟩

/-- **Feed-forward torque is bounded and slewed, and grippers leave the arms
    alone**, in every gentle run, whatever the torques are computed in. -/
theorem feedforward_slewed (S : Setting F) {p q : Sessions F C × HoldLog F}
    {es : List (SessionLabel F C)} (hinit : (loggedSessions C S).init p)
    (hrun : ((loggedSessions C S).restrict (Gentle S)).Run p es q) : Slewed S q := by
  have hobeys : Obeys (pacing S) (fun _ _ _ => True) paceStart p.1.thread := by
    intro t program hprogram
    cases t with
    | worker =>
      rw [hinit.1.2.1, Option.some.injEq] at hprogram
      subst hprogram
      exact ⟨⟨rfl, rfl⟩, fun _ _ _ => trivial⟩
    | caller c =>
      rw [hinit.1.2.2 c] at hprogram
      cases hprogram
  have hmeets : ∀ es (p q : Sessions F C × HoldLog F) l, Steady S es p → Gentle S p l q →
      ∀ t o r, l = .act t o r → (paces S es t).meets o r := by
    rintro es p q l hI hG t o r rfl
    cases o
    case loadConnected =>
      intro hworker
      obtain rfl : t = .worker := of_decide_eq_true ((hI.worker t).symm.trans hworker)
      exact hG
    all_goals trivial
  obtain ⟨hI, -⟩ := Machine.run_conforms_history (D := pacing S) (I := Steady S)
    (fun p v hv => pace_body p v hv)
    (fun es p t request q _ _ _ => conforms_caller S (caller_handler S request) _)
    (fun es p l q hstep hlog hG hI _ hallowed =>
      ⟨hmeets es p q l hI hG, hI.step hstep hlog hG hallowed⟩)
    (Steady.init hinit) hobeys hrun
  exact ⟨hI.paced.slews, hI.paced.bounded, fun u hu => ⟨(hI.paced.gripper u hu).1,
    (hI.paced.gripper u hu).2.1⟩⟩

end Runs

/-- **Exact torques** move by at most 0.02 Nm. -/
theorem Slewed.exact {S : Setting ℚ} {p : Sessions ℚ C × HoldLog ℚ} (h : Slewed S p) (side : Side)
    (joint : Joint) (hside : S.sides.active side = true) :
    (p.2.torques side joint).IsChain fun later earlier => |later - earlier| ≤ 0.02 := by
  refine (h.slews side joint hside).near (by decide +kernel) fun tau htau => ?_
  exact within_iff.mp (h.bounded side joint tau htau)

/-! ## §7. A stop, and a command that keeps its torque. -/

/-- An operator moves the first joint of a connected arm, and the motors are
    held up: one cycle at the start, two at the end of the trajectory. -/
def heldUp : List SessionMove :=
  connected ++ call 1 (.reserve "operator") 2 ++
    call 1 (.submit (jointCommand "operator" (1 / 10))) 2 ++
    [go .worker 27, .event (.tick 1100000000)] ++ served 8 ++ [go .worker 52, go .worker 22]

/-- The test of a step for `Gentle`, of commands that do not end. -/
def gentle (S : Setting ℚ) (p : Sessions ℚ (Fin 2) × HoldLog ℚ) :
    SessionLabel ℚ (Fin 2) → Bool
  | .act _ (.monitor measured) _ =>
    p.1.shared.active.all fun a => (p.1.shared.judge S measured a).isLeft
  | .act _ (.seedHold _) _ =>
    decide (p.1.shared.feedforwardModelTau = zeroQ) && p.2.gripper.isNone
  | .act _ (.storeArmed true) _ =>
    decide (p.1.shared.feedforwardModelTau = zeroQ) &&
      decide (∀ side joint, ∀ last ∈ (p.2.torques side joint).head?, last = Floating.lit 0)
  | .act .worker .loadConnected reply => reply
  | _ => true

theorem gentle_of {S : Setting ℚ} {p q : Sessions ℚ (Fin 2) × HoldLog ℚ}
    {l : SessionLabel ℚ (Fin 2)} (h : gentle S p l = true) : Gentle S p l q := by
  unfold Gentle
  split
  · intro a ending hactive hjudge
    have hall : p.1.shared.active.all _ = true := h
    rw [hactive] at hall
    rw [Option.all_some, hjudge] at hall
    cases hall
  · have hboth := Bool.and_eq_true_iff.mp h
    exact ⟨of_decide_eq_true hboth.1, Option.isNone_iff_eq_none.mp hboth.2⟩
  · have hboth := Bool.and_eq_true_iff.mp h
    exact ⟨of_decide_eq_true hboth.1, of_decide_eq_true hboth.2⟩
  · exact h
  · trivial

theorem feedforward_slewed_heldUp :
    ∃ q, (q.2.torques 0 0).head? = some (1 / 25 : ℚ) ∧ Slewed leftArm q ∧
      ∃ es, ((loggedSessions (Fin 2) leftArm).restrict (Gentle leftArm)).Run
        (passive, HoldLog.empty) es q := by
  have hrun : ((sessionMachine (Fin 2) leftArm).scheduleLogged HoldLog.record (gentle leftArm)
      (passive, HoldLog.empty) heldUp).any (fun q =>
        (q.2.torques 0 0).head? == some (1 / 25 : ℚ)) = true := by decide +kernel
  obtain ⟨q, hschedule, hhead⟩ := (Option.any_eq_true _ _).mp hrun
  obtain ⟨es, hes⟩ : Machine.LoggedRun (sessionMachine (Fin 2) leftArm) HoldLog.empty
      HoldLog.record (gentle leftArm) (passive, HoldLog.empty) q :=
    Machine.scheduleLogged_run hschedule
  have hgentle : ((loggedSessions (Fin 2) leftArm).restrict (Gentle leftArm)).Run
      (passive, HoldLog.empty) es q := hes.mono fun _ _ _ h => ⟨h.1, gentle_of h.2⟩
  exact ⟨q, by simpa using hhead,
    feedforward_slewed leftArm ⟨passive_init, rfl⟩ hgentle, es, hgentle⟩

/-- … and the operator stops the command: two more cycles. -/
def heldUpAndStopped : List SessionMove :=
  heldUp ++ call 1 .stopMotion 2 ++ [go .worker 39]

/-- **A stop drops the torque** of a joint by 0.06 Nm from one hold command to
    the next. -/
theorem stop_drops_torque :
    ∃ es q, (loggedSessions (Fin 2) leftArm).init (passive, HoldLog.empty) ∧
      (loggedSessions (Fin 2) leftArm).Run (passive, HoldLog.empty) es q ∧
      ¬ Slewed leftArm q := by
  have hrun : ((sessionMachine (Fin 2) leftArm).scheduleLogged HoldLog.record (fun _ _ => true)
      (passive, HoldLog.empty) heldUpAndStopped).any (fun q =>
        (q.2.torques 0 0).take 2 == [(0 : ℚ), 3 / 50]) = true := by decide +kernel
  obtain ⟨q, hschedule, htake⟩ := (Option.any_eq_true _ _).mp hrun
  obtain ⟨es, hes⟩ : Machine.LoggedRun (sessionMachine (Fin 2) leftArm) HoldLog.empty
      HoldLog.record (fun _ _ => true) (passive, HoldLog.empty) q :=
    Machine.scheduleLogged_run hschedule
  refine ⟨es, q, ⟨passive_init, rfl⟩, hes.of_restrict, fun hslewed => ?_⟩
  have hslews := hslewed.exact 0 0 rfl
  have hlast : q.2.torques 0 0 = [0, 3 / 50] ++ (q.2.torques 0 0).drop 2 := by
    rw [← eq_of_beq htake, List.take_append_drop]
  rw [hlast] at hslews
  have hstep := hslews.rel
  revert hstep
  decide +kernel

end OpenArm.Real
