/-
  OpenArm.Runtime.Motion — arming, planning and executing through the facade.

  A call is a sequence of steps: each mutex-protected block, each call of the
  controller, each read of the host clock and each access to the controller
  timeline is one.  `MotionPc` is where a call is; the three planners share
  one body.
-/
import OpenArm.Runtime.Worker

namespace OpenArm.Runtime

open OpenArm.Lib OpenArm.Control

variable {F : Type} [Floating F]

/-! ## §1. What the steps need. -/

/-- What the surroundings decide in a step: whether memory and the handle
    table suffice, what the commissioning library answers, and how a
    replacement manifest validates. -/
structure Surroundings where
  allocates : Bool
  commission : CommissionStatus
  validation : RuntimeStatus
  deriving DecidableEq, Repr

/-- How a call goes on after a step. -/
inductive Next (P : Type) where
  | goto (pc : P)
  | ret (status : RuntimeStatus)

/-- What a failing call still has to release. -/
inductive Cleanup where
  | nothing
  | dropPlan (id : Nat)
  | unlockPlan (id : Nat)
  deriving DecidableEq, Repr

/-- Where a call on arming, planning or executing is. -/
inductive MotionPc (F : Type) where
  | armOwner
  /-- `RuntimeData::mutex` is held from here … -/
  | armChallenge
  | armCall (challenge : ArmChallenge)
  /-- … to here. -/
  | armDone (lower : ControlStatus)
  | disarmRead (deadlineNs : Nat)
  | disarmTranslate (deadlineNs facadeNow : Nat)
  | disarmCall (controllerDeadline : Nat)
  | disarmOwner
  | interlockFlags (estopActive deadmanActive : Bool)
  | interlockCall (estopActive deadmanActive : Bool)
  | heartbeatRead (commandId deadlineNs : Nat)
  | heartbeatTranslate (commandId deadlineNs facadeNow : Nat)
  | heartbeatCall (commandId deadlineNs facadeNow controllerNow controllerDeadline : Nat)
  | stopCall (stopKind : StopKind)
  | contactCall (contact : SimContact F)
  | planAcquire (request : PlanRequest F) (id : Nat)
  | planRead (request : PlanRequest F) (id : Nat)
  | planTranslate (request : PlanRequest F) (id facadeNow : Nat)
  | planSnapshot (request : PlanRequest F) (id controllerExpiry : Nat)
  /-- `controller_mutex` is held at the two next ones. -/
  | planStale (id : Nat)
  | planBuild (request : PlanRequest F) (id controllerExpiry : Nat)
  | planInsert (id : Nat)
  | executePin (id : Nat) (request : FacadeExecute)
  | executeLock (id : Nat) (request : FacadeExecute)
  | executeCheck (id : Nat) (request : FacadeExecute)
  | executeRead (id : Nat) (request : FacadeExecute)
  | executeExpired (id : Nat)
  | executeTranslate (id : Nat) (request : FacadeExecute) (facadeNow : Nat)
  | executeCall (id : Nat) (request : FacadeExecute) (facadeNow controllerNow : Nat)
      (lower : ExecuteRequest)
  | executeRelease (id : Nat)
  | unlockPlan (id : Nat) (status : RuntimeStatus)
  | dropPlan (id : Nat) (status : RuntimeStatus)
  | destructPlan (id : Nat) (status : RuntimeStatus)
  | pollWait (untilNs : Nat)
  | recordError (error : ErrorDetail) (cleanup : Cleanup)

/-- One step of a call. -/
abbrev Step (F P : Type) := RuntimeData F × Next P × Event F

/-- `return record_error(...)`, with what the scope releases after it. -/
def failWith (s : RuntimeData F) (error : ErrorDetail) (cleanup : Cleanup) (event : Event F) :
    Step F (MotionPc F) :=
  (s, .goto (.recordError error cleanup), event)

/-- An error of the facade itself. -/
def facadeError (status : RuntimeStatus) : ErrorDetail := ⟨status, .runtime, .none⟩

/-- An error of the controller. -/
def controlError (lower : ControlStatus) : ErrorDetail :=
  ⟨mapControl lower, .control, .control lower⟩

/-! ## §2. The three planners. -/

namespace PlanRequest

def recordValid : PlanRequest F → Bool
  | .joint request => request.recordValid
  | .paired binding _ => binding.recordValid
  | .converge binding _ => binding.recordValid

def outValid : PlanRequest F → Bool
  | .joint request => request.outValid
  | .paired binding _ => binding.outValid
  | .converge binding _ => binding.outValid

/-- `expiry_runtime_monotonic_ns`. -/
def expiryNs : PlanRequest F → Nat
  | .joint request => request.expiryNs
  | .paired _ move => move.expiryNs
  | .converge _ move => move.expiryNs

/-- The clock, frame and identity checks of the Cartesian planners. -/
def bodyError (s : RuntimeData F) (b : BodyBinding) : Option ErrorDetail :=
  if b.clockId ≠ clockMonotonic ∨ b.unitsId ≠ unitsSiV1 ∨ b.frameId ≠ frameBodyLink0 ∨
      b.orientationPolicy ≠ orientationFree ∨
      b.requiredCollisionPolicy ≠ collisionPolicyCode s.options.collisionPolicy then
    some (facadeError .einval)
  else if b.requiredModelRevision ≠ s.manifest.config.modelRevision ∨
      b.requiredTcpRevision 0 ≠ s.manifest.config.modelRevision ∨
      b.requiredTcpRevision 1 ≠ s.manifest.config.modelRevision then
    some ⟨.eidentity, .model, .none⟩
  else if b.requiredCoordinateIdentity ≠ s.manifest.coordinateIdentityDigest then
    some ⟨.eidentity, .model, .none⟩
  else none

/-- The clock, range and identity checks of the joint planner. -/
def jointError (s : RuntimeData F) (r : JointRequest F) : Option ErrorDetail :=
  if r.clockId ≠ clockMonotonic ∨ r.unitsId ≠ unitsSiV1 ∨ 2 ≤ r.side ∨ 7 ≤ r.joint ∨
      r.requiredCollisionPolicy ≠ collisionPolicyCode s.options.collisionPolicy then
    some (facadeError .einval)
  else if r.requiredModelRevision ≠ s.manifest.config.modelRevision ∨
      r.requiredTcpRevision ≠ s.manifest.config.modelRevision ∨
      r.collisionSceneRevision ≠ s.options.collisionSceneRevision ∨
      r.requiredCoordinateIdentity ≠ s.manifest.coordinateIdentityDigest then
    some ⟨.eidentity, .model, .none⟩
  else none

def bindingError (s : RuntimeData F) : PlanRequest F → Option ErrorDetail
  | .joint request => jointError s request
  | .paired binding _ => bodyError s binding
  | .converge binding _ => bodyError s binding

/-- The sequence check against the current snapshot. -/
def stale (snapshot : Snapshot F) : PlanRequest F → Bool
  | .joint request =>
    match sideOf request.side with
    | some side => request.requiredFeedbackSeq != (snapshot.arm side).feedbackSeq
    | none => false
  | .paired _ move =>
    move.requiredFeedbackSeq 0 != (snapshot.arm 0).feedbackSeq ||
      move.requiredFeedbackSeq 1 != (snapshot.arm 1).feedbackSeq
  | .converge _ move =>
    move.requiredFeedbackSeq 0 != (snapshot.arm 0).feedbackSeq ||
      move.requiredFeedbackSeq 1 != (snapshot.arm 1).feedbackSeq

/-- The call of the controller, with the translated expiry. -/
def op (controllerExpiry : Nat) : PlanRequest F → Op F
  | .joint request => .planJoint { request.toJointMove with expiryNs := controllerExpiry }
  | .paired _ move => .planPaired { move with expiryNs := controllerExpiry }
  | .converge _ move => .planConverge { move with expiryNs := controllerExpiry }

end PlanRequest

/-! ## §3. `execute`. -/

namespace FacadeExecute

/-- The timing checks of `oa_runtime_execute`. -/
def invalid (request : FacadeExecute) (plan : PlanData F) (facadeNow : Nat) : Bool :=
  let effectiveStart := if request.startNs = 0 then facadeNow else request.startNs
  decide (effectiveStart < facadeNow) || decide (request.expiryNs ≤ effectiveStart) ||
    decide (plan.facadeExpiryNs < request.expiryNs) ||
    decide (request.producerDeadlineNs ≤ facadeNow)

/-- The request of the controller: every deadline translated. -/
def translate (request : FacadeExecute) (facadeNow controllerNow : Nat) :
    Option ExecuteRequest := do
  let start ←
    if request.startNs = 0 then some 0
    else translateFutureDeadline request.startNs facadeNow controllerNow
  let expiry ← translateFutureDeadline request.expiryNs facadeNow controllerNow
  let producerDeadline ←
    translateFutureDeadline request.producerDeadlineNs facadeNow controllerNow
  return ⟨start, expiry, producerDeadline, request.stopKind⟩

end FacadeExecute

/-- The plan still holds the pending authority. -/
def PlanData.holds (plan : PlanData F) (s : RuntimeData F) : Bool :=
  plan.holdsAuthority && s.planPending && s.planAuthorityId == plan.authorityId

/-! ## §4. Steps. -/

/-- One step of a call of thread `t` at `pc`; `none` while it is blocked. -/
def motionStep (L : ModelLibrary F) (s : RuntimeData F) (t : Nat) (around : Surroundings) :
    MotionPc F → Option (Step F (MotionPc F))
  -- `oa_runtime_arm_virtual`
  | .armOwner =>
    if s.mutex.isSome then none
    else if s.owner ≠ .free then
      some (s.setError (facadeError .ebusy), .ret .ebusy, .silent)
    else if s.estopActive = true ∨ s.deadmanActive = false then
      some (s.setError (facadeError .efault), .ret .efault, .silent)
    else some ({ s with mutex := some t }, .goto .armChallenge, .silent)
  | .armChallenge =>
    let (s', response) := s.control L .challenge
    match response.output with
    | .challenge challenge =>
      some (s', .goto (.armCall challenge), .called (.challenge, response))
    | _ => some (s', .goto (.armDone response.status), .called (.challenge, response))
  | .armCall challenge =>
    let (s', response) := s.control L (.arm challenge)
    some (s', .goto (.armDone response.status), .called (.arm challenge, response))
  | .armDone lower =>
    if lower = .ok then
      some ({ s with owner := .motion, mutex := none }, .ret .ok, .armed)
    else
      some ({ s.setError (controlError lower) with mutex := none }, .ret (mapControl lower),
        .silent)
  -- `oa_runtime_disarm`
  | .disarmRead deadlineNs => some (s, .goto (.disarmTranslate deadlineNs s.hostNs), .silent)
  | .disarmTranslate deadlineNs facadeNow =>
    match translateFutureDeadline deadlineNs facadeNow s.controllerTimelineNs with
    | none => some (failWith s (facadeError .einval) .nothing .silent)
    | some controllerDeadline => some (s, .goto (.disarmCall controllerDeadline), .silent)
  | .disarmCall controllerDeadline =>
    let (s', response) := s.control L (.disarm controllerDeadline)
    let event := .called (.disarm controllerDeadline, response)
    if response.status = .ok then some (s', .goto .disarmOwner, event)
    else some (failWith s' (controlError response.status) .nothing event)
  | .disarmOwner =>
    if s.mutex.isSome then none
    else
      some ({ s with owner := if s.owner = .motion then .free else s.owner }, .ret .ok, .disarmed)
  -- `oa_runtime_set_interlock`
  | .interlockFlags estopActive deadmanActive =>
    if s.mutex.isSome then none
    else
      some ({ s with estopActive := estopActive, deadmanActive := deadmanActive },
        .goto (.interlockCall estopActive deadmanActive), .silent)
  | .interlockCall estopActive deadmanActive =>
    let (s', response) := s.control L (.setInterlock estopActive deadmanActive)
    let event := .called (.setInterlock estopActive deadmanActive, response)
    if response.status = .ok then some (s', .ret .ok, event)
    else some (failWith s' (controlError response.status) .nothing event)
  -- `oa_runtime_heartbeat`
  | .heartbeatRead commandId deadlineNs =>
    some (s, .goto (.heartbeatTranslate commandId deadlineNs s.hostNs), .silent)
  | .heartbeatTranslate commandId deadlineNs facadeNow =>
    match translateFutureDeadline deadlineNs facadeNow s.controllerTimelineNs with
    | none => some (failWith s (facadeError .einval) .nothing .silent)
    | some controllerDeadline =>
      some (s, .goto (.heartbeatCall commandId deadlineNs facadeNow s.controllerTimelineNs
        controllerDeadline), .silent)
  | .heartbeatCall commandId _ _ _ controllerDeadline =>
    let (s', response) := s.control L (.heartbeat commandId controllerDeadline)
    let event := .called (.heartbeat commandId controllerDeadline, response)
    if response.status = .ok then some (s', .ret .ok, event)
    else some (failWith s' (controlError response.status) .nothing event)
  -- `oa_runtime_stop`
  | .stopCall stopKind =>
    let (s', response) := s.control L (.stop stopKind)
    let event := .called (.stop stopKind, response)
    if response.status = .ok then some (s', .ret .ok, event)
    else some (failWith s' (controlError response.status) .nothing event)
  -- `oa_runtime_sim_set_contact`
  | .contactCall contact =>
    if s.controllerMutex.isSome then none
    else
      let (s', response) := s.control L (.setSimContact contact)
      let event := .called (.setSimContact contact, response)
      if response.status = .ok then some (s', .ret .ok, event)
      else some (failWith s' (controlError response.status) .nothing event)
  -- the planners
  | .planAcquire request id =>
    if s.mutex.isSome then none
    else
      let (s', acquired) := s.acquireAuthority id request.expiryNs
      if acquired then some (s', .goto (.planRead request id), .silent)
      else some (s', .goto (.dropPlan id .ebusy), .silent)
  | .planRead request id => some (s, .goto (.planTranslate request id s.hostNs), .silent)
  | .planTranslate request id facadeNow =>
    match s.plans id with
    | none => none
    | some plan =>
      match translateFutureDeadline request.expiryNs facadeNow s.controllerTimelineNs with
      | none => some (failWith s (facadeError .etimeout) (.dropPlan id) .silent)
      | some controllerExpiry =>
        some (s.setPlan id { plan with facadeExpiryNs := request.expiryNs },
          .goto (.planSnapshot request id controllerExpiry), .silent)
  | .planSnapshot request id controllerExpiry =>
    if s.controllerMutex.isSome then none
    else
      match s.controller.snapshot with
      | (.ok, some snapshot) =>
        let s' := { s with controllerMutex := some (.caller t) }
        if request.stale snapshot then some (s', .goto (.planStale id), .silent)
        else some (s', .goto (.planBuild request id controllerExpiry), .silent)
      | (lower, _) => some (failWith s (controlError lower) (.dropPlan id) .silent)
  | .planStale id =>
    if s.mutex.isSome then none
    else
      some ({ s.setError (facadeError .estale) with controllerMutex := none },
        .goto (.dropPlan id .estale), .silent)
  | .planBuild request id controllerExpiry =>
    match s.plans id with
    | none => none
    | some plan =>
      let (s', response) := s.control L (request.op controllerExpiry)
      let unlocked := { s' with controllerMutex := none }
      let event := .called (request.op controllerExpiry, response)
      match response.output with
      | .plan built =>
        some (unlocked.setPlan id { plan with plan := some built }, .goto (.planInsert id), event)
      | _ => some (failWith unlocked (controlError response.status) (.dropPlan id) event)
  | .planInsert id =>
    match s.plans id with
    | none => none
    | some plan =>
      if around.allocates then
        some (s.setPlan id { plan with registered := true, references := plan.references + 1 },
          .goto (.dropPlan id .ok), .silent)
      else some (failWith s (facadeError .enomem) (.dropPlan id) .silent)
  -- `oa_runtime_execute`
  | .executePin id request =>
    match s.plans id with
    | none => some (failWith s (facadeError .einval) .nothing .silent)
    | some plan =>
      if plan.registered then
        some (s.setPlan id { plan with references := plan.references + 1 },
          .goto (.executeLock id request), .silent)
      else some (failWith s (facadeError .einval) .nothing .silent)
  | .executeLock id request =>
    match s.plans id with
    | none => none
    | some plan =>
      if plan.lockedBy.isSome then none
      else
        some (s.setPlan id { plan with lockedBy := some t }, .goto (.executeCheck id request),
          .silent)
  | .executeCheck id request =>
    match s.plans id with
    | none => none
    | some plan =>
      if s.mutex.isSome then none
      else if plan.holds s then some (s, .goto (.executeRead id request), .silent)
      else
        some (s.setError (facadeError .estale), .goto (.unlockPlan id .estale), .silent)
  | .executeRead id request =>
    match s.plans id with
    | none => none
    | some plan =>
      if plan.facadeExpiryNs ≤ s.hostNs then some (s, .goto (.executeExpired id), .silent)
      else if request.invalid plan s.hostNs then
        some (failWith s (facadeError .einval) (.unlockPlan id) .silent)
      else some (s, .goto (.executeTranslate id request s.hostNs), .silent)
  | .executeExpired id =>
    match s.plans id with
    | none => none
    | some plan =>
      if s.mutex.isSome then none
      else
        let released := s.setPlan id { plan with holdsAuthority := false }
        let cleared :=
          if s.planPending && s.planAuthorityId == plan.authorityId then released.clearPending
          else released
        some (cleared.setError (facadeError .etimeout), .goto (.unlockPlan id .etimeout), .silent)
  | .executeTranslate id request facadeNow =>
    match request.translate facadeNow s.controllerTimelineNs with
    | none => some (failWith s (facadeError .einval) (.unlockPlan id) .silent)
    | some lower =>
      some (s, .goto (.executeCall id request facadeNow s.controllerTimelineNs lower), .silent)
  | .executeCall id _ _ _ lower =>
    match (s.plans id).bind PlanData.plan with
    | none => none
    | some plan =>
      let (s', response) := s.control L (.execute plan lower)
      let event := .called (.execute plan lower, response)
      if response.status = .ok then some (s', .goto (.executeRelease id), event)
      else some (failWith s' (controlError response.status) (.unlockPlan id) event)
  | .executeRelease id =>
    match s.plans id with
    | none => none
    | some plan =>
      if s.mutex.isSome then none
      else
        let released := s.setPlan id { plan with holdsAuthority := false }
        some (if s.planAuthorityId = plan.authorityId then released.clearPending else released,
          .goto (.unlockPlan id .ok), .silent)
  -- the end of a plan reference
  | .unlockPlan id status =>
    match s.plans id with
    | none => none
    | some plan =>
      some (s.setPlan id { plan with lockedBy := none }, .goto (.dropPlan id status), .silent)
  | .dropPlan id status =>
    match s.plans id with
    | none => none
    | some plan =>
      some (s.setPlan id { plan with references := plan.references - 1 },
        if plan.references ≤ 1 then .goto (.destructPlan id status) else .ret status, .silent)
  | .destructPlan id status =>
    if s.mutex.isSome then none else some (s.destructPlan id, .ret status, .silent)
  -- `oa_runtime_poll_event`
  | .pollWait untilNs =>
    if s.mutex.isSome then none
    else if s.events.isEmpty = false then
      some ({ s with events := s.events.pop }, .ret .ok, .delivered s.events.front)
    else if s.closing = true ∨ untilNs ≤ s.hostNs then
      some (failWith s ⟨.etimeout, .control, .control .etimeout⟩ .nothing .silent)
    else none
  -- `record_error`
  | .recordError error cleanup =>
    if s.mutex.isSome then none
    else
      some (s.setError error,
        match cleanup with
        | .nothing => .ret error.status
        | .dropPlan id => .goto (.dropPlan id error.status)
        | .unlockPlan id => .goto (.unlockPlan id error.status), .silent)

end OpenArm.Runtime
