/-
  OpenArm.Real.System — the physical session under any interleaving.

  The worker and any number of callers run the programs of
  `OpenArm.Real.Programs`; `perform` is what one action does to the
  session.  The surroundings choose what the source cannot: the answers of
  callbacks, which writes succeed, when a motor serves a frame and what it
  replies, and how time passes.
-/
import OpenArm.Real.Programs
import Mathlib

namespace OpenArm.Real

open OpenArm.Lib OpenArm.Control OpenArm.Model

variable {F : Type} [Rounding F] {C : Type}

/-! ## §1. Threads, requests and the surroundings. -/

/-- The worker thread and the threads that call the session. -/
inductive Thread (C : Type) where
  | worker
  | caller (c : C)
  deriving DecidableEq

instance [Fintype C] : Fintype (Thread C) :=
  Fintype.ofEquiv (Option C)
    { toFun := fun o => o.elim .worker .caller
      invFun := fun t => match t with
        | .worker => none
        | .caller c => some c
      left_inv := fun o => by cases o <;> rfl
      right_inv := fun t => by cases t <;> rfl }

/-- A call of the public interface. -/
inductive Request (F : Type) where
  | connectAndEnable
  | disconnectAndDisable
  | stopMotion
  | emergencyStop
  | clearEmergencyStop
  | captureGrippersClosed
  | reserve (owner : String)
  | submit (command : SessionCommand F)
  | cancel (owner : String)
  | release (owner reason : String)
  | health
  | close

/-- What a call returns. -/
inductive Answer where
  | verdict (result : Bool × String)
  | flag (result : Bool)
  | health (health : SessionHealth)
  | released
  | closed
  /-- The worker thread has ended. -/
  | exited

/-- What the surroundings choose at an action. -/
inductive Choice where
  | quiet
  /-- A callback's answer, or whether a call of the system succeeds. -/
  | flag (ok : Bool)
  /-- The motors whose writes succeed. -/
  | written (ok : Motor → Bool)
  | socket (failure : Option SocketFailure)
  | saved (error : Option String)

/-- What a motor measures when it replies; `fault` replaces the enabled or
    disabled status. -/
structure Reading (F : Type) where
  rawQ : F
  rawDq : F
  rawTau : F
  fault : Option Nat

/-- What happens on its own. -/
inductive Event (F : Type) where
  | tick (ns : Nat)
  /-- The oldest frame of a bus reaches its motor, or is lost; a motor that
  receives it may reply. -/
  | serve (side : Side) (received : Bool) (reply : Option (Reading F))
  /-- A motor leaves its enabled state: a fault, lost power, its own timeout. -/
  | dropOut (side : Side) (motor : Motor)
  /-- Another user of the process-wide latch. -/
  | runtimeEstop (asserted : Bool)

/-- The programs of the requests. -/
def handler (S : Setting F) : Request F → Program F Answer
  | .connectAndEnable => do return .verdict (← connectAndEnable S)
  | .disconnectAndDisable => do return .verdict (← disconnectAndDisable)
  | .stopMotion => do return .verdict (← op .stopMotion)
  | .emergencyStop => do return .verdict (← emergencyStop)
  | .clearEmergencyStop => do return .verdict (← clearEmergencyStop)
  | .captureGrippersClosed => do return .verdict (← captureGrippersClosed S)
  | .reserve owner => do return .verdict (← op (.reserve owner))
  | .submit command => do return .verdict (← op (.submit command))
  | .cancel owner => do return .flag (← op (.cancel owner))
  | .release owner reason => do
    let _ ← op (.release owner reason)
    return .released
  | .health => do return .health (← op .readHealth)
  | .close => do
    close
    return .closed

/-! ## §2. Motors. -/

/-- The motor a frame is for. -/
def Frame.motor : Frame F → Motor
  | .enable motor | .disable motor | .refresh motor => motor
  | .mit joint _ _ _ => jointMotor joint
  | .gripperOpening _ | .gripperRaw _ => gripperMotor
  | .writeRegister motor _ _ => motor

/-- Which motors are enabled once a frame has reached its motor. -/
def Frame.applied (frame : Frame F) (enabled : Motor → Bool) : Motor → Bool :=
  match frame with
  | .enable motor => Function.update enabled motor true
  | .disable motor => Function.update enabled motor false
  | _ => enabled

/-- The reply to a frame.  A write confirmation carries the motor's number in
    its first byte and so also decodes as the feedback of a disabled motor. -/
def Reading.reply (reading : Reading F) (frame : Frame F) (serial : Nat) (enabled : Bool) :
    Incoming F :=
  let sample (status : Nat) : MotorSample F :=
    { valid := true, rawQ := reading.rawQ, rawDq := reading.rawDq, rawTau := reading.rawTau
      status }
  match frame with
  | .writeRegister motor register value =>
    { feedback := some (motor, sample feedbackDisabled)
      confirmation := some (motor, register, value), answers := serial }
  | _ =>
    let status := if enabled then feedbackEnabled else feedbackDisabled
    { feedback := some (frame.motor, sample (reading.fault.getD status))
      confirmation := none, answers := serial }

namespace Session

/-- The oldest frame of a bus leaves it. -/
def serve (s : Session F) (side : Side) (received : Bool) (reply : Option (Reading F)) :
    Option (Session F) :=
  match (s.bus side).outbound with
  | [] => none
  | (frame, serial) :: rest =>
    let enabled := if received then frame.applied (s.bus side).enabled else (s.bus side).enabled
    let answer : List (Incoming F) :=
      if received && s.socketOpen side then
        (reply.map fun reading => reading.reply frame serial (enabled frame.motor)).toList
      else []
    let bus : Bus F := { outbound := rest, inbound := (s.bus side).inbound ++ answer, enabled }
    some { s with bus := Function.update s.bus side bus }

/-- A motor is no longer enabled. -/
def dropOut (s : Session F) (side : Side) (motor : Motor) : Session F :=
  let bus := { s.bus side with enabled := Function.update (s.bus side).enabled motor false }
  { s with bus := Function.update s.bus side bus }

/-- What happens on its own. -/
def occurs (s : Session F) : Event F → Option (Session F)
  | .tick ns => some { s with now := s.now + ns }
  | .serve side received reply => s.serve side received reply
  | .dropOut side motor => some (s.dropOut side motor)
  | .runtimeEstop asserted => some { s with runtimeEstop := asserted }

end Session

/-! ## §3. Actions. -/

/-- The answer chosen for a callback or a system call. -/
def Choice.flag? : Choice → Option Bool
  | .flag ok => some ok
  | _ => none

/-- The writes chosen to succeed. -/
def Choice.written? : Choice → Option (Motor → Bool)
  | .written ok => some ok
  | _ => none

/-- The outcome chosen for a socket. -/
def Choice.socket? : Choice → Option (Option SocketFailure)
  | .socket failure => some failure
  | _ => none

/-- The outcome chosen for a save. -/
def Choice.saved? : Choice → Option (Option String)
  | .saved error => some error
  | _ => none

/-- What one action does. -/
def Session.perform (S : Setting F) (s : Session F) (o : Op F) (c : Choice) :
    Option (o.Reply × Session F) :=
  match o with
  | .loadSocket side => some (s.socketOpen side, s)
  | .loadConnected => some (s.connected, s)
  | .loadArmed => some (s.armed, s)
  | .loadEstop => some (s.estop, s)
  | .loadRuntimeEstop => some (s.runtimeEstop, s)
  | .loadCancel => some (s.cancelRequested, s)
  | .loadSequence side => some (s.feedbackSequence side, s)
  | .storeConnected value => some ((), { s with connected := value })
  | .storeArmed value => some ((), { s with armed := value })
  | .storeEstop value => some ((), { s with estop := value })
  | .storeCancel value => some ((), { s with cancelRequested := value })
  | .assertRuntimeEstop => some ((), { s with runtimeEstop := true })
  | .clearRuntimeEstop => c.flag?.map fun ok =>
      (ok, if ok then { s with runtimeEstop := false } else s)
  | .bumpSequence side => some ((), { s with
      feedbackSequence := Function.update s.feedbackSequence side (s.feedbackSequence side + 1) })
  | .lockIo => if s.ioLocked then none else some ((), { s with ioLocked := true })
  | .unlockIo => some ((), { s with ioLocked := false })
  | .clock => some (s.now, s)
  | .openSocket side => c.socket?.map fun failure => s.openSocket side failure
  | .closeSocket side => some ((), s.closeSocket side)
  | .sendDisable side => c.written?.map fun ok => ((), s.sendDisable side ok)
  | .sendRefresh side => c.written?.map fun ok => s.sendRefresh side ok
  | .sendEnable side => c.written?.map fun ok => s.sendEnable side ok
  | .sendHold side gainScale => c.written?.map fun ok => s.sendHold S side gainScale ok
  | .requestRegister side motor register value => c.flag?.map fun ok =>
      s.requestRegister side motor register value ok
  | .poll => some (s.readable, s)
  | .readFrame side => c.flag?.map fun ok => s.readFrame side ok
  | .noteFailure reason => some ((), { s with lastExchangeFailure := reason })
  | .exchangeFailure => some (s.lastExchangeFailure, s)
  | .absorb command got => some (s.absorb S command got)
  | .seedHold measured => some ((), s.seedHold S measured)
  | .storeMeasured measured => some ((), { s with measuredQ := measured })
  | .readFeedforward => some (s.feedforwardModelTau, s)
  | .plan command start => some (s.plan S command start)
  | .awaitWork => some (s.closing, s)
  | .takePending => some s.takePending
  | .publishActive planned => some ((), s.publishActive planned)
  | .updateReference => some ((), s.updateReference S)
  | .isExecuting => some (s.active.isSome, s)
  | .publishLifecycle lifecycle => some ((), s.publishLifecycle lifecycle)
  | .commandFeedback => some (s.commandFeedback, s)
  | .monitor measured => some (s.monitor S measured)
  | .clearOwner owner reason => some ((), s.clearOwner owner reason)
  | .finishBlock => some s.finishBlock
  | .setHealth state reason lifecycle => some ((), s.setHealth state reason lifecycle)
  | .stopMotion => some s.stopMotion
  | .reserve owner => some (s.reserve owner)
  | .submit command => some (s.submit S command)
  | .cancel owner => some (s.cancel owner)
  | .release owner reason => some (s.release owner reason)
  | .beginClose => some s.beginClose
  | .readHealth => some (s.health, s)
  | .isIdle => some (!s.closing && s.pending.isNone && s.active.isNone && s.owner == "", s)
  | .feedbackCallback _ _ => c.flag?.map fun ok => (ok, s)
  | .terminalCallback _ _ => c.flag?.map fun ok => (ok, s)
  | .join => if s.workerFinished then some ((), s) else none
  | .exitWorker => some ((), { s with workerFinished := true })
  | .closedSamples => some (s.closedSamples, s)
  | .saveGripper _ => c.saved?.map fun error => (error, s)
  -- both mutexes are taken together
  | .storeGripper calibration =>
    if s.ioLocked then none else some ((), { s with gripperCalibration := some calibration })

/-! ## §4. The system. -/

/-- The program of the worker thread. -/
def workerMain : Program F Answer := do
  enter .workerLoop
  return .exited

/-- The physical session: its constructor has started the worker. -/
def sessionMachine (C : Type) (S : Setting F) :
    Machine (sessionSig F) (Session F) (Thread C) Choice (Request F) Answer (Event F) where
  initial s thread :=
    (∃ gripper now bus, s = Session.initial S gripper now bus) ∧
      thread .worker = some workerMain ∧ ∀ c, thread (.caller c) = none
  body := loopBody S
  handler := handler S
  perform s _ o c := s.perform S o c
  occurs := Session.occurs

/-- A state of the session: its members and what every thread has to do. -/
abbrev Sessions (F C : Type) := Running (sessionSig F) (Session F) (Thread C) Answer

/-- What a step of the session does. -/
abbrev SessionLabel (F C : Type) :=
  Label (sessionSig F) (Thread C) (Request F) Answer (Event F)

/-- The interleavings of the session. -/
abbrev sessionSystem (C : Type) [DecidableEq C] (S : Setting F) :
    Lts (Sessions F C) (SessionLabel F C) :=
  (sessionMachine C S).system

end OpenArm.Real
