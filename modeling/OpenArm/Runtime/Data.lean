/-
  OpenArm.Runtime.Data — the state of one virtual runtime and its
  mutex-protected blocks.

  `RuntimeData` is everything the worker and the callers share, with the
  process-wide E-stop latch and the host clock beside it.  A plan or a
  calibration session is an object with a reference count; its destructor is
  a block of its own.
-/
import OpenArm.Runtime.Types

namespace OpenArm.Runtime

open OpenArm.Lib OpenArm.Control

variable {F : Type} [Floating F]

/-! ## §1. Shared objects. -/

/-- `PlanData`, its registry entry and its references. -/
structure PlanData (F : Type) where
  plan : Option (MotionPlan F)
  facadeExpiryNs : Nat
  authorityId : Nat
  holdsAuthority : Bool
  /-- The handle table still maps the handle to this plan. -/
  registered : Bool
  /-- Live shared pointers to this plan. -/
  references : Nat
  /-- The caller that holds `PlanData::mutex`. -/
  lockedBy : Option Nat

/-- `CalibrationData`, its registry entry and its references. -/
structure CalibrationData where
  /-- A manual session; a recipe session otherwise. -/
  manual : Bool
  side : Side
  lastSampleFeedbackSeq : Nat
  lastSampleTimeNs : Nat
  finished : Bool
  registered : Bool
  references : Nat
  lockedBy : Option Nat
  deriving DecidableEq, Repr

/-- Who holds `RuntimeData::controller_mutex`. -/
inductive Holder where
  | worker
  | caller (thread : Nat)
  deriving DecidableEq, Repr

/-- The capacity of the facade event queue. -/
def kFacadeEvents : Nat := 64

theorem kFacadeEvents_pos : 0 < kFacadeEvents := by decide

/-- `RuntimeData`, the latch and the host clock, and the live objects. -/
structure RuntimeData (F : Type) where
  latch : Bool
  hostNs : Nat
  options : RuntimeOptions
  manifest : RuntimeManifest F
  controller : Controller F
  timelineNs : Nat
  controllerTimelineNs : Nat
  feedbackClock : Side → FeedbackClockEvidence
  events : Ring EventEvidence kFacadeEvents
  closing : Bool
  /-- The handle table still maps the runtime handle. -/
  registered : Bool
  estopActive : Bool
  deadmanActive : Bool
  owner : Owner
  planPending : Bool
  planExpiryNs : Nat
  planAuthorityId : Nat
  nextPlanAuthorityId : Nat
  lastError : ErrorDetail
  calibrationRevision : Nat
  /-- The caller that keeps `RuntimeData::mutex` over several steps. -/
  mutex : Option Nat
  controllerMutex : Option Holder
  plans : Nat → Option (PlanData F)
  sessions : Nat → Option CalibrationData
  /-- The next fresh object. -/
  nextObject : Nat

namespace RuntimeData

/-! ## §2. Calls of the controller. -/

/-- The controller and the latch. -/
def world (s : RuntimeData F) : World F := ⟨s.latch, s.controller⟩

/-- One call of the controller. -/
def control (s : RuntimeData F) (L : ModelLibrary F) (op : Op F) :
    RuntimeData F × Control.Response F :=
  let out := call L s.world op
  ({ s with latch := out.1.latch, controller := out.1.controller }, out.2)

@[simp] theorem world_control (s : RuntimeData F) (L : ModelLibrary F) (op : Op F) :
    (s.control L op).1.world = (call L s.world op).1 := rfl

/-! ## §3. Blocks under `RuntimeData::mutex`. -/

/-- `last_error` set from `status`, `facility` and `lower`. -/
def setError (s : RuntimeData F) (error : ErrorDetail) : RuntimeData F :=
  { s with lastError := error }

/-- The authority block of the planners; `false` when the runtime is not
    armed or a plan is pending. -/
def acquireAuthority (s : RuntimeData F) (id expiryNs : Nat) : RuntimeData F × Bool :=
  if s.owner ≠ .motion ∨ s.planPending = true then
    (s.setError ⟨.ebusy, .runtime, .none⟩, false)
  else
    let authority := s.nextPlanAuthorityId
    let next := wrap64 (s.nextPlanAuthorityId + 1)
    ({ s with
        planPending := true
        planExpiryNs := expiryNs
        planAuthorityId := authority
        nextPlanAuthorityId := if next = 0 then 1 else next
        plans := Function.update s.plans id
          ((s.plans id).map fun plan =>
            { plan with authorityId := authority, holdsAuthority := true }) }, true)

/-- `plan_pending` and `plan_expiry_ns` cleared. -/
def clearPending (s : RuntimeData F) : RuntimeData F :=
  { s with planPending := false, planExpiryNs := 0 }

/-- Replace a plan object. -/
def setPlan (s : RuntimeData F) (id : Nat) (plan : PlanData F) : RuntimeData F :=
  { s with plans := Function.update s.plans id (some plan) }

/-- Replace a session object. -/
def setSession (s : RuntimeData F) (id : Nat) (session : CalibrationData) : RuntimeData F :=
  { s with sessions := Function.update s.sessions id (some session) }

/-- `PlanData::~PlanData`. -/
def destructPlan (s : RuntimeData F) (id : Nat) : RuntimeData F :=
  let gone := { s with plans := Function.update s.plans id none }
  match s.plans id with
  | none => gone
  | some plan =>
    if plan.holdsAuthority && s.planPending && s.planAuthorityId == plan.authorityId then
      gone.clearPending
    else gone

/-- `if (runtime->owner == 2U) runtime->owner = 0U`. -/
def releaseCalibration (s : RuntimeData F) : RuntimeData F :=
  { s with owner := if s.owner = .calibration then .free else s.owner }

/-- `CalibrationData::~CalibrationData`. -/
def destructSession (s : RuntimeData F) (id : Nat) : RuntimeData F :=
  { s.releaseCalibration with sessions := Function.update s.sessions id none }

/-- The block of `publish_manifest`, and `finished`, which only the holder of
    the session mutex reads. -/
def finishCommit (s : RuntimeData F) (id revision : Nat) (session : CalibrationData) :
    RuntimeData F :=
  { s.releaseCalibration.setSession id { session with finished := true } with
    calibrationRevision := revision }

/-- The block of `oa_runtime_calibration_abort`. -/
def finishAbort (s : RuntimeData F) (id : Nat) (session : CalibrationData) : RuntimeData F :=
  s.releaseCalibration.setSession id { session with finished := true }

/-! ## §4. Feedback and events in the facade clock. -/

/-- `capture_feedback_clock` for one side. -/
def captureFeedback (evidence : FeedbackClockEvidence) (arm : ArmSnapshot F)
    (controllerNow facadeNow : Nat) : FeedbackClockEvidence :=
  if arm.feedbackSeq = 0 ∨ arm.feedbackSeq = evidence.feedbackSeq then evidence
  else
    let translated := translateLag arm.tNs controllerNow facadeNow
    { feedbackSeq := arm.feedbackSeq
      controllerMonotonicNs := arm.tNs
      runtimeMonotonicNs :=
        if translated ≤ evidence.runtimeMonotonicNs then
          min maxU64 (evidence.runtimeMonotonicNs + 1)
        else translated }

/-- The snapshot of a cycle or of the creation, captured when it succeeds. -/
def captureFeedbackClock (s : RuntimeData F) (controllerNow facadeNow : Nat) : RuntimeData F :=
  match s.controller.snapshot.2 with
  | none => s
  | some snapshot =>
    { s with
      feedbackClock := fun side =>
        captureFeedback (s.feedbackClock side) (snapshot.arm side) controllerNow facadeNow }

/-- One event written to the facade queue; a full queue loses its oldest. -/
def storeEvent (s : RuntimeData F) (source : Control.Event) (facadeNow : Nat) :
    RuntimeData F :=
  { s with
    events := s.events.pushEvicting
      ⟨source, translateLag source.tNs s.controllerTimelineNs facadeNow⟩ }

/-- `drain_controller_events` without an interleaving, as at creation. -/
def drainEvents (facadeNow : Nat) : Nat → RuntimeData F → RuntimeData F
  | 0, s => s
  | fuel + 1, s =>
    match s.controller.pollEvent with
    | (controller, _, some event) =>
      drainEvents facadeNow fuel ({ s with controller := controller }.storeEvent event facadeNow)
    | (_, _, none) => s

/-! ## §5. Creation. -/

/-- The members of a new runtime before its controller has run. -/
def fresh (options : RuntimeOptions) (manifest : RuntimeManifest F) (controller : Controller F)
    (latch : Bool) (hostNs : Nat) : RuntimeData F where
  latch := latch
  hostNs := hostNs
  options := options
  manifest := manifest
  controller := controller
  timelineNs := hostNs
  controllerTimelineNs := hostNs
  feedbackClock := fun _ => ⟨0, 0, 0⟩
  events := .empty ⟨Control.Event.zero, 0⟩ kFacadeEvents_pos
  closing := false
  registered := true
  estopActive := false
  deadmanActive := false
  owner := .free
  planPending := false
  planExpiryNs := 0
  planAuthorityId := 0
  nextPlanAuthorityId := 1
  lastError := ⟨.ok, .runtime, .none⟩
  calibrationRevision := 0
  mutex := none
  controllerMutex := none
  plans := fun _ => none
  sessions := fun _ => none
  nextObject := 0

/-- `oa_runtime_create` on a virtual backend with an armable manifest: the
    clock is read at `hostNs` and again at `facadeNow`. -/
def create (L : ModelLibrary F) (options : RuntimeOptions) (manifest : RuntimeManifest F)
    (latch : Bool) (instanceId hostNs facadeNow : Nat) : Except RuntimeStatus (RuntimeData F) :=
  match options.controllerOptions with
  | none => .error .einval
  | some controllerOptions =>
    let s := fresh options manifest (.create manifest.config controllerOptions instanceId) latch
      hostNs
    let (verified, response) := s.control L .openAndVerify
    if response.status ≠ .ok then .error (mapControl response.status)
    else
      let (advanced, response) := verified.control L (.advance hostNs)
      if response.status ≠ .ok then .error (mapControl response.status)
      else if advanced.controller.snapshot.1 ≠ .ok then
        .error (mapControl advanced.controller.snapshot.1)
      else
        .ok (drainEvents facadeNow kEventCapacity
          ({ advanced with hostNs := facadeNow }.captureFeedbackClock hostNs facadeNow))

end RuntimeData

end OpenArm.Runtime
