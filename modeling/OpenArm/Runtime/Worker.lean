/-
  OpenArm.Runtime.Worker — the worker thread of a virtual runtime.

  One iteration waits a cycle, then either waits for a pending plan or runs
  one controller cycle.  Every atomic access and every mutex-protected block
  is one step; `controller_mutex` stays held from the cycle to the last
  drained event.
-/
import OpenArm.Runtime.Data

namespace OpenArm.Runtime

open OpenArm.Lib OpenArm.Control

variable {F : Type} [Floating F]

/-- What a step shows the outside. -/
inductive Event (F : Type) where
  | silent
  /-- A call of the controller and its answer. -/
  | called (label : Control.Label F)
  /-- `owner` written by a begin, and taken back by the failed begin. -/
  | claimed (session : Nat)
  | unclaimed (session : Nat)
  /-- A begin registered its session. -/
  | began (session : Nat)
  /-- A session committed or aborted, and its destructor. -/
  | finished (session : Nat)
  | destructed (session : Nat)
  /-- `owner` written by an arming and by a disarming. -/
  | armed
  | disarmed
  /-- An event handed to the caller of `oa_runtime_poll_event`. -/
  | delivered (evidence : EventEvidence)
  /-- A call returns. -/
  | returned (status : RuntimeStatus)

/-- Where the worker is. -/
inductive WorkerPc where
  /-- The head of the loop. -/
  | top
  /-- In the first wait, entered at `sinceNs`. -/
  | waiting (sinceNs : Nat)
  /-- In the wait for the pending plan, entered at `sinceNs`. -/
  | planWait (sinceNs : Nat)
  | readTimeline
  | readHost (next : Nat)
  | advance (next hostNow : Nat)
  /-- `controller_mutex` is held from here … -/
  | store (next hostNow : Nat) (status : ControlStatus)
  | capture (next hostNow : Nat) (status : ControlStatus)
  | drain (hostNow : Nat) (status : ControlStatus)
  /-- … to here, where the queue has been found empty. -/
  | storeEvent (hostNow : Nat) (status : ControlStatus) (event : Control.Event)
  | publishTimeline (hostNow : Nat) (status : ControlStatus)
  | recordError (status : ControlStatus)
  | exited
  deriving DecidableEq, Repr

/-- The statuses of a cycle that are not errors of the runtime. -/
def quietCycle (status : ControlStatus) : Bool :=
  decide (status = .ok) || decide (status = .estate) || decide (status = .estale) ||
    decide (status = .efault) || decide (status = .eestop)

/-- The next value of the controller timeline, saturating. -/
def nextTimeline (current cycleNs : Nat) : Nat :=
  if maxU64 - cycleNs < current then maxU64 else current + cycleNs

/-- The check after the first wait. -/
def workerCheck (s : RuntimeData F) : WorkerPc :=
  if s.closing then .exited
  else if s.planPending then .planWait s.hostNs
  else .readTimeline

/-- The end of the wait for a pending plan: an expired plan loses its
    authority. -/
def expirePlan (s : RuntimeData F) : RuntimeData F :=
  if s.planPending = true ∧ s.planExpiryNs ≠ 0 ∧ s.planExpiryNs ≤ s.hostNs then s.clearPending
  else s

/-- One step of the worker; `none` while it is blocked. -/
def workerStep (L : ModelLibrary F) (s : RuntimeData F) :
    WorkerPc → Option (RuntimeData F × WorkerPc × Event F)
  | .top =>
    if s.mutex.isSome then none
    else some (s, if s.closing then .exited else .waiting s.hostNs, .silent)
  | .waiting sinceNs =>
    if s.mutex.isSome then none
    else if s.closing = true ∨ sinceNs + s.options.cycleNs ≤ s.hostNs then
      some (s, workerCheck s, .silent)
    else none
  | .planWait sinceNs =>
    if s.mutex.isSome then none
    else if s.closing = true ∨ s.planPending = false ∨
        sinceNs + s.options.cycleNs ≤ s.hostNs then
      some (expirePlan s, .top, .silent)
    else none
  | .readTimeline =>
    some (s, .readHost (nextTimeline s.controllerTimelineNs s.options.cycleNs), .silent)
  | .readHost next => some (s, .advance next s.hostNs, .silent)
  | .advance next hostNow =>
    if s.controllerMutex.isSome then none
    else
      let (s', response) := { s with controllerMutex := some .worker }.control L (.advance next)
      some (s', .store next hostNow response.status, .called (.advance next, response))
  | .store next hostNow status =>
    some ({ s with controllerTimelineNs := next }, .capture next hostNow status, .silent)
  | .capture next hostNow status =>
    some (s.captureFeedbackClock next hostNow, .drain hostNow status, .silent)
  | .drain hostNow status =>
    let (s', response) := s.control L .pollEvent
    match response.output with
    | .event event =>
      some (s', .storeEvent hostNow status event, .called (.pollEvent, response))
    | _ =>
      some ({ s' with controllerMutex := none }, .publishTimeline hostNow status,
        .called (.pollEvent, response))
  | .storeEvent hostNow status event =>
    if s.mutex.isSome then none
    else some (s.storeEvent event hostNow, .drain hostNow status, .silent)
  | .publishTimeline hostNow status =>
    some ({ s with timelineNs := max s.timelineNs hostNow }, .recordError status, .silent)
  | .recordError status =>
    if s.mutex.isSome then none
    else
      some (if quietCycle status then s else s.setError
        ⟨mapControl status, .control, .control status⟩,
        .top, .silent)
  | .exited => none

end OpenArm.Runtime
