/-
  OpenArm.Runtime.System — a virtual runtime, its worker and its callers.

  Any number of threads call the facade while the worker runs, the host clock
  moves and the process-wide latch is asserted or cleared.

  Main definitions:
    * `step` — what a step of a thread, of the worker or of the clock does.
    * `system` — the steps in any order, as a transition system.
-/
import OpenArm.Runtime.Calibration

namespace OpenArm.Runtime

open OpenArm.Lib OpenArm.Control

variable {F : Type} [Floating F]

/-! ## §1. Calls. -/

/-- A call of the facade that writes the state of the runtime. -/
inductive Call (F : Type) where
  /-- `oa_runtime_destroy`. -/
  | destroy
  | setInterlock (estopActive deadmanActive : Nat)
  | armVirtual
  | disarm (clockId deadlineNs : Nat)
  /-- `oa_runtime_plan_joint`, `_plan_paired_tcp_body` and
  `_plan_converge_tcp_body`. -/
  | plan (request : PlanRequest F)
  | planDestroy (id : Nat)
  | execute (id : Nat) (request : FacadeExecute)
  | heartbeat (commandId clockId deadlineNs : Nat)
  | stop (stopKind : StopKind)
  | simSetContact (recordValid : Bool) (contact : SimContact F)
  | pollEvent (recordValid : Bool) (waitNs : Nat)
  /-- `oa_runtime_calibration_manual_begin` and `_recipe_begin`. -/
  | calibrationBegin (request : CalibrationRequest)
  | calibration (id : Nat) (op : SessionOp)
  | calibrationDestroy (id : Nat)

/-- Where a thread is. -/
inductive Pc (F : Type) where
  | idle
  | motion (pc : MotionPc F)
  | calibration (pc : CalibrationPc)
  /-- The second half of `oa_runtime_destroy`. -/
  | erase
  | returning (status : RuntimeStatus)

/-- A step of a thread. -/
abbrev ThreadStep (F : Type) := RuntimeData F × Pc F × Event F

namespace Next

/-- The thread after a step of a call on motion. -/
def motion : Next (MotionPc F) → Pc F
  | .goto pc => .motion pc
  | .ret status => .returning status

/-- The thread after a step of a call on calibration. -/
def calibration : Next CalibrationPc → Pc F
  | .goto pc => .calibration pc
  | .ret status => .returning status

end Next

/-- The call goes on at `pc`. -/
def proceed (s : RuntimeData F) (pc : MotionPc F) : Option (ThreadStep F) :=
  some (s, .motion pc, .silent)

/-- The call has returned without an effect. -/
def refuse (s : RuntimeData F) (status : RuntimeStatus) : Option (ThreadStep F) :=
  some (s, .returning status, .silent)

/-- `require_runtime`, and then `body`. -/
def requireRuntime (s : RuntimeData F) (body : Option (ThreadStep F)) : Option (ThreadStep F) :=
  if s.registered = false then refuse s .einval
  else if s.mutex.isSome then none
  else if s.closing then refuse s .estate
  else body

/-- `return record_error(...)` of the facade before the call holds anything. -/
def reject (s : RuntimeData F) (error : ErrorDetail) : Option (ThreadStep F) :=
  proceed s (.recordError error .nothing)

/-- `std::numeric_limits<std::int64_t>::max()`. -/
def maxI64 : Nat := 2 ^ 63 - 1

/-- A new plan object, held by the call that made it. -/
def RuntimeData.newPlan (s : RuntimeData F) : RuntimeData F :=
  { s with
    plans := Function.update s.plans s.nextObject (some ⟨none, 0, 0, false, false, 1, none⟩)
    nextObject := s.nextObject + 1 }

/-- A new session object, held by the begin that made it. -/
def RuntimeData.newSession (s : RuntimeData F) (manual : Bool) (side : Side) : RuntimeData F :=
  { s with
    sessions := Function.update s.sessions s.nextObject
      (some ⟨manual, side, 0, 0, false, false, 1, none⟩)
    nextObject := s.nextObject + 1 }

/-- The entry of a planner. -/
def startPlan (s : RuntimeData F) (around : Surroundings) (request : PlanRequest F) :
    Option (ThreadStep F) :=
  if request.recordValid = false then refuse s .eabi
  else
    requireRuntime s <|
      if request.outValid = false then reject s (facadeError .einval)
      else
        match request.bindingError s with
        | some error => reject s error
        | none =>
          if around.allocates then
            proceed s.newPlan (.planAcquire request s.nextObject)
          else reject s (facadeError .enomem)

/-- The entry of a begin; it does not ask `require_runtime`. -/
def startBegin (s : RuntimeData F) (around : Surroundings) (request : CalibrationRequest) :
    Option (ThreadStep F) :=
  if request.recordValid = false then refuse s .eabi
  else if s.registered = false then refuse s .einval
  else
    match request.check s with
    | .error error => reject s error
    | .ok side =>
      if around.allocates then
        some (s.newSession request.manual side, .calibration (.beginClaim s.nextObject), .silent)
      else reject s (facadeError .enomem)

/-- `oa_runtime_plan_destroy`. -/
def startPlanDestroy (s : RuntimeData F) (id : Nat) : Option (ThreadStep F) :=
  match s.plans id with
  | none => refuse s .ok
  | some plan =>
    if plan.registered then
      proceed (s.setPlan id { plan with registered := false }) (.dropPlan id .ok)
    else refuse s .ok

/-- `oa_runtime_calibration_destroy`. -/
def startSessionDestroy (s : RuntimeData F) (id : Nat) : Option (ThreadStep F) :=
  match s.sessions id with
  | none => refuse s .ok
  | some session =>
    if session.registered then
      some (s.setSession id { session with registered := false }, .calibration (.drop id .ok),
        .silent)
    else refuse s .ok

/-- The first step of a call. -/
def startCall (s : RuntimeData F) (around : Surroundings) : Call F → Option (ThreadStep F)
  | .destroy =>
    if s.mutex.isSome then none
    else some ({ s with closing := true }, .erase, .silent)
  | .setInterlock estopActive deadmanActive =>
    requireRuntime s <|
      if 1 < estopActive ∨ 1 < deadmanActive then reject s (facadeError .einval)
      else proceed s (.interlockFlags (estopActive != 0) (deadmanActive != 0))
  | .armVirtual => requireRuntime s (proceed s .armOwner)
  | .disarm clockId deadlineNs =>
    requireRuntime s <|
      if clockId ≠ clockMonotonic then reject s (facadeError .einval)
      else proceed s (.disarmRead deadlineNs)
  | .plan request => startPlan s around request
  | .planDestroy id => startPlanDestroy s id
  | .execute id request =>
    if request.recordValid = false then refuse s .eabi
    else
      requireRuntime s <|
        if request.outValid = false ∨ request.clockId ≠ clockMonotonic then
          reject s (facadeError .einval)
        else proceed s (.executePin id request)
  | .heartbeat commandId clockId deadlineNs =>
    requireRuntime s <|
      if clockId ≠ clockMonotonic then reject s (facadeError .einval)
      else proceed s (.heartbeatRead commandId deadlineNs)
  | .stop stopKind => requireRuntime s (proceed s (.stopCall stopKind))
  | .simSetContact recordValid contact =>
    if recordValid = false then refuse s .eabi
    else requireRuntime s (proceed s (.contactCall contact))
  | .pollEvent recordValid waitNs =>
    if recordValid = false then refuse s .eabi
    else
      requireRuntime s <|
        if maxI64 < waitNs then reject s (facadeError .einval)
        else proceed s (.pollWait (s.hostNs + waitNs))
  | .calibrationBegin request => startBegin s around request
  | .calibration id op => some (s, .calibration (.pin id op), .silent)
  | .calibrationDestroy id => startSessionDestroy s id

/-! ## §2. The system. -/

/-- A virtual runtime: the shared state, the worker and the callers. -/
structure Machine (F : Type) where
  data : RuntimeData F
  worker : WorkerPc
  threads : Nat → Pc F

/-- Who takes the next step. -/
inductive Action (F : Type) where
  | worker
  /-- An idle thread makes a call. -/
  | start (thread : Nat) (call : Call F) (around : Surroundings)
  /-- A thread goes on. -/
  | resume (thread : Nat) (around : Surroundings)
  /-- Host time passes. -/
  | tick (elapsedNs : Nat)
  | estopAssert
  | estopClear

/-- One step of thread `t` at `pc`. -/
def threadStep (L : ModelLibrary F) (s : RuntimeData F) (t : Nat) (around : Surroundings) :
    Pc F → Option (ThreadStep F)
  | .idle => none
  | .motion pc => (motionStep L s t around pc).map fun out => (out.1, out.2.1.motion, out.2.2)
  | .calibration pc =>
    (calibrationStep s t around pc).map fun out => (out.1, out.2.1.calibration, out.2.2)
  | .erase => some ({ s with registered := false }, .returning .ok, .silent)
  | .returning status => some (s, .idle, .returned status)

namespace Machine

/-- Thread `t` has taken a step. -/
def withThread (r : Machine F) (t : Nat) (out : ThreadStep F) : Machine F × Event F :=
  ({ r with data := out.1, threads := Function.update r.threads t out.2.1 }, out.2.2)

/-- The process-wide latch is written by `oa_estop_assert` or
    `oa_estop_clear`. -/
def signal (r : Machine F) (L : ModelLibrary F) (op : Op F) : Machine F × Event F :=
  ({ r with data := (r.data.control L op).1 }, .called (op, (r.data.control L op).2))

/-- One step; `none` when the action is not enabled. -/
def step (L : ModelLibrary F) (r : Machine F) : Action F → Option (Machine F × Event F)
  | .worker =>
    (workerStep L r.data r.worker).map fun out =>
      ({ r with data := out.1, worker := out.2.1 }, out.2.2)
  | .start t call around =>
    match r.threads t with
    | .idle => (startCall r.data around call).map (r.withThread t)
    | _ => none
  | .resume t around => (threadStep L r.data t around (r.threads t)).map (r.withThread t)
  | .tick elapsedNs =>
    some ({ r with data := { r.data with hostNs := r.data.hostNs + elapsedNs } }, .silent)
  | .estopAssert => some (r.signal L .estopAssert)
  | .estopClear => some (r.signal L .estopClear)

/-- A runtime as `oa_runtime_create` hands it out. -/
def Initial (L : ModelLibrary F) (r : Machine F) : Prop :=
  r.worker = .top ∧ (∀ t, r.threads t = .idle) ∧
    ∃ options manifest latch instanceId hostNs facadeNow,
      RuntimeData.create L options manifest latch instanceId hostNs facadeNow = .ok r.data

/-- The controller and the latch of a runtime. -/
def world (r : Machine F) : World F := r.data.world

end Machine

/-- An action and what it showed: the label of a step. -/
abbrev Label (F : Type) := Action F × Event F

/-- **A virtual runtime as a transition system.** -/
def system (L : ModelLibrary F) : Lts (Machine F) (Label F) where
  init := Machine.Initial L
  step r e r' := r.step L e.1 = some (r', e.2)

end OpenArm.Runtime
