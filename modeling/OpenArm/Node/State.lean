/-
  OpenArm.Node.State — `PortalNode`: what its mutex guards, and every block
  that holds the mutex.

  A block runs without interruption; between two blocks of one thread any
  block of another may run.  What a thread carries from block to block is its
  `Activity`.  The texts shown to the operator, the HTTP server and the relay
  to the physical controller are left out.
-/
import OpenArm.Guard.Contact
import OpenArm.Guard.Route

namespace OpenArm.Node

open OpenArm.Lib OpenArm.Control OpenArm.Model OpenArm.Guard

variable {F : Type} [Metric F]

/-! ## §1. The reservation gate. -/

/-- `CommandReservationGate`. -/
structure CommandReservationGate where
  generation : Nat
  activeToken : Nat
  deriving DecidableEq, Repr

namespace CommandReservationGate

/-- `begin`. -/
def reserve (gate : CommandReservationGate) : Option (Nat × CommandReservationGate) :=
  if gate.activeToken ≠ 0 ∨ gate.generation = maxU64 then none
  else some (gate.generation + 1, ⟨gate.generation + 1, gate.generation + 1⟩)

def valid (gate : CommandReservationGate) (token : Nat) : Bool :=
  token != 0 && token == gate.activeToken

/-- `consume`, which is also `release`. -/
def consume (gate : CommandReservationGate) (token : Nat) : CommandReservationGate :=
  if gate.valid token then { gate with activeToken := 0 } else gate

def cancel (gate : CommandReservationGate) : CommandReservationGate :=
  { gate with activeToken := 0 }

def active (gate : CommandReservationGate) : Bool := gate.activeToken != 0

end CommandReservationGate

/-! ## §2. The node. -/

/-- `kStateFreshness`. -/
def kStateFreshnessNs : Int := 500000000

/-- `kDiagnosticFreshness`. -/
def kDiagnosticFreshnessNs : Int := 1500000000

/-- `kRouteResumeTimeout`. -/
def kRouteResumeTimeoutNs : Int := 2000000000

def kMaximumDynamicRouteLegs : Nat := 64

/-- The clocks and `stop_requested`, at the moment they are read. -/
structure Moment where
  timeNs : Int
  steadyNs : Int
  stop : Bool

/-- What `mutex_` guards.  The resume timer is there for the leg it resumes as
    long as it is not canceled. -/
structure PortalNode (F : Type) where
  evidence : GuardHandoffEvidence F
  goalActive : Bool
  stopping : Bool
  cancelPending : Bool
  commandGate : CommandReservationGate
  activeGoal : Option Nat
  activeContactGoal : Option Nat
  routeWaypoints : List (RoutePose F)
  routeIndex : Nat
  routeMotionLimitScale : F
  routeTerminalRetreat : Bool
  routePreservedSide : Int
  routeReplanCount : Nat
  routeResumeTimer : Option Nat
  routeResumeDeadlineSteadyNs : Int

/-- What `submit_route_leg` reads in its first block. -/
structure Leg (F : Type) where
  index : Nat
  endpoint : RoutePose F
  finalTarget : RoutePose F
  guarded : GuardHandoffEvidence F
  motionLimitScale : F
  terminalRetreat : Bool
  preservedSide : Int

/-- What the last check before a goal saw. -/
structure Handoff (F : Type) where
  evidence : GuardHandoffEvidence F
  moment : Moment

/-- Between the blocks of `submit_route_leg`. -/
inductive Stage (F : Type) where
  | entering (index : Nat)
  | read (leg : Leg F)
  | replanned (leg : Leg F) (waypoints : List (RoutePose F))
  | proved (leg : Leg F) (endpoint : RoutePose F)
  | sending (leg : Leg F) (endpoint : RoutePose F) (seen : Handoff F)
  /-- Before the block that gives the route up. -/
  | failing
  /-- Before the block of the `catch`. -/
  | thrown

/-- A request for motion. -/
structure Job (F : Type) where
  request : MoveRequest F
  intentionalContact : Bool
  terminalRetreat : Bool

/-- A request the guard has accepted. -/
structure Guarded (F : Type) where
  request : MoveRequest F
  input : GuardInput F
  evidence : GuardHandoffEvidence F
  guard : GuardResult F
  routeWaypoints : List (RoutePose F)

/-- What a thread carries from one block to the next. -/
inductive Activity (F : Type) where
  | idle
  | admitted (job : Job F)
  | reserved (token : Nat) (job : Job F)
  | judged (token : Nat) (guarded : Guarded F)
  | releasing (token : Nat)
  | submitting (token : Option Nat) (stage : Stage F)
  | scheduling (index : Nat)
  | arming (index : Nat)
  | ticking (index : Nat)

namespace PortalNode

variable (n : PortalNode F)

/-! ## §3. Encoders and diagnostics. -/

/-- `update_state`, of a message that maps to canonical joints.  The counter is
    64 bits wide in the source; that it wraps is left out. -/
def updateState (moment : Moment) (producerTimeNs : Int) (q : PairQ F) : PortalNode F :=
  let freshness : FreshnessEvidence := ⟨producerTimeNs, moment.steadyNs⟩
  if freshAtUse freshness moment.timeNs freshness.receiptSteadyNs kStateFreshnessNs = false then n
  else { n with evidence := { n.evidence with
    measuredQ := q
    stateFreshness := freshness
    haveState := true
    stateSequence := n.evidence.stateSequence + 1 } }

/-- `diagnostic_msgs::DiagnosticStatus`; `WARN` is level 1. -/
structure DiagnosticStatus where
  level : Nat
  name : String
  values : List (String × String)

/-- The value of a key, or nothing. -/
def DiagnosticStatus.value (status : DiagnosticStatus) (key : String) : String :=
  (status.values.lookup key).getD ""

def expectedName (realMode : Bool) : String :=
  if realMode then "openarm_ik_ros/physical_control" else "openarm_ik_ros/virtual_control"

/-- `masks`. -/
def masksHealthy (status : DiagnosticStatus) : Bool :=
  status.value "left_expected_mask" == "127" && status.value "right_expected_mask" == "127" &&
    status.value "left_expected_mask" == status.value "left_fresh_mask" &&
    status.value "right_expected_mask" == status.value "right_fresh_mask" &&
    status.value "left_fault_mask" == "0" && status.value "right_fault_mask" == "0"

/-- `authority_valid`. -/
def authorityValid (realMode : Bool) (status : DiagnosticStatus) : Bool :=
  if realMode then
    status.value "backend" == "physical" && status.value "physical_motion_authorized" == "true" &&
      status.value "collision_checked" == "true"
  else
    status.value "backend" == "virtual" && status.value "physical_motion_authorized" == "false" &&
      status.value "collision_checked" == "false"

/-- What makes a status healthy, its age apart. -/
def healthyStatus (realMode : Bool) (status : DiagnosticStatus) : Bool :=
  authorityValid realMode status && status.level == 1 && status.value "adapter_state" == "idle" &&
    status.value "lifecycle" == "4" && status.value "executing" == "false" && masksHealthy status

/-- `update_diagnostics`: only the first status of the expected name counts. -/
def updateDiagnostics (realMode : Bool) (moment : Moment) (producerTimeNs : Int)
    (statuses : List DiagnosticStatus) : PortalNode F :=
  let freshness : FreshnessEvidence := ⟨producerTimeNs, moment.steadyNs⟩
  let producerFresh :=
    freshAtUse freshness moment.timeNs freshness.receiptSteadyNs kDiagnosticFreshnessNs
  match statuses.find? fun status => status.name == expectedName realMode with
  | none => n
  | some status => { n with evidence := { n.evidence with
      diagnosticValid := producerFresh && healthyStatus realMode status
      diagnosticFreshness := freshness
      diagnosticSequence := n.evidence.diagnosticSequence + 1 } }

def stateFresh (moment : Moment) : Bool :=
  n.evidence.haveState &&
    freshAtUse n.evidence.stateFreshness moment.timeNs moment.steadyNs kStateFreshnessNs

def diagnosticFresh (moment : Moment) : Bool :=
  n.evidence.diagnosticValid &&
    freshAtUse n.evidence.diagnosticFreshness moment.timeNs moment.steadyNs kDiagnosticFreshnessNs

/-- `state`: where both tools are, while the evidence is fresh. -/
def state (A : GuardModel F) (realMode : Bool) (moment : Moment) : Option (RoutePose F) :=
  if n.stateFresh moment = false ∨ (realMode = false ∧ n.diagnosticFresh moment = false) then none
  else (A.forward 0 (n.evidence.measuredQ 0)).bind fun left =>
    (A.forward 1 (n.evidence.measuredQ 1)).map fun right =>
      ![origin left.handTcp, origin right.handTcp]

/-! ## §4. Requests. -/

/-- `begin_guard`: the token and the node, or none. -/
def beginGuard (stop : Bool) : Option (Nat × PortalNode F) :=
  if n.stopping ∨ stop then none
  else if n.goalActive ∨ n.commandGate.active then none
  else n.commandGate.reserve.map fun reserved => (reserved.1, { n with commandGate := reserved.2 })

/-- `release_guard`. -/
def releaseGuard (token : Nat) : PortalNode F :=
  { n with commandGate := n.commandGate.consume token }

/-- The input `serve_api` hands the guard. -/
def guardInput (job : Job F) : GuardInput F where
  measuredQ := n.evidence.measuredQ
  request := job.request
  contactPolicy :=
    if job.intentionalContact || job.terminalRetreat then contactTerminalCaps else contactNone
  requireTerminalContact := job.intentionalContact
  terminalRetreat := job.terminalRetreat
  preservedSide := -1

/-- The guard's answer to a request, where it accepts. -/
def judge (A : GuardModel F) (R : ArmModel F) (job : Job F) (tcp : RoutePose F) :
    Option (Guarded F) :=
  if job.intentionalContact then
    let answer := validateConvergenceContact A (n.guardInput job) tcp (Floating.lit 0.001)
      (Floating.lit 0.045)
    if answer.1.accepted then
      some ⟨answer.2.request, answer.2, n.evidence, answer.1, []⟩
    else none
  else if job.terminalRetreat then
    let guard := validateOrProject A (n.guardInput job)
    if guard.accepted then
      some ⟨job.request, n.guardInput job, n.evidence, guard, [guard.commandedTcp]⟩
    else none
  else
    let route := routeOrProject A R (n.guardInput job)
    if route.final.accepted then
      some ⟨job.request, n.guardInput job, n.evidence, route.final, route.waypointTcp⟩
    else none

/-- `guard_handoff_valid` against what the node knows now. -/
def handoffValid (A : GuardModel F) (guarded : GuardHandoffEvidence F) (moment : Moment) : Bool :=
  (guardHandoffFailure A guarded n.evidence moment.timeNs moment.steadyNs kStateFreshnessNs
    kDiagnosticFreshnessNs).isNone

/-- The node after the command of `move` is entered. -/
def entered (token : Nat) (guarded : Guarded F) : PortalNode F :=
  let n : PortalNode F := { n with
    commandGate := n.commandGate.consume token
    goalActive := true
    cancelPending := false }
  if guarded.input.requireTerminalContact then n
  else { n with
    routeWaypoints := guarded.routeWaypoints
    routeIndex := 0
    routeMotionLimitScale := guarded.request.motionLimitScale
    routeTerminalRetreat := guarded.input.terminalRetreat
    routePreservedSide :=
      if guarded.request.dual then -1 else if guarded.request.side = 0 then 1 else 0
    routeReplanCount := 0 }

/-- How the first block of `move` ends. -/
inductive Entry where
  /-- Nothing was entered. -/
  | refused
  /-- Entered and given up in the same block. -/
  | dropped
  /-- The contact goal was sent. -/
  | contact
  /-- The first leg is next. -/
  | route
  deriving DecidableEq, Repr

/-- The block of `move`; `sends` tells whether `async_send_goal` throws. -/
def move (A : GuardModel F) (token : Nat) (guarded : Guarded F) (first second : Moment)
    (available sends : Bool) : Entry × PortalNode F :=
  let contact := guarded.input.requireTerminalContact
  if (contact = false ∧ guarded.routeWaypoints = []) ∨ available = false then (.refused, n)
  else if n.commandGate.valid token = false then (.refused, n)
  else if n.stopping ∨ first.stop ∨ n.handoffValid A guarded.evidence first = false then
    (.refused, n)
  else if n.goalActive then (.refused, n)
  else
    let m := n.entered token guarded
    if m.stopping ∨ second.stop ∨ m.handoffValid A guarded.evidence second = false then
      (.dropped, { m with
        goalActive := false
        routeWaypoints := if contact then m.routeWaypoints else [] })
    else if contact then
      if sends then (.contact, m)
      else (.dropped, { m with goalActive := false, cancelPending := false,
                               activeContactGoal := none })
    else (.route, m)

/-! ## §5. Legs. -/

/-- What every block of a leg begins with. -/
def legBlocked (stop : Bool) : Bool := !n.goalActive || n.cancelPending || n.stopping || stop

/-- A route that is given up. -/
def dropRoute : PortalNode F :=
  { n with goalActive := false, activeGoal := none, routeWaypoints := [] }

/-- How a block of `submit_route_leg` ends. -/
inductive Progress (F : Type) where
  | next (stage : Stage F)
  | returned
  | sent (leg : Leg F) (endpoint : RoutePose F) (seen : Handoff F)

/-- The proof of one leg, from the joints that were read. -/
def reprove (A : GuardModel F) (R : ArmModel F) (leg : Leg F) (endpoint : RoutePose F) :
    Stage F :=
  if (revalidateDirectLeg A R leg.guarded.measuredQ endpoint leg.terminalRetreat
      leg.preservedSide).accepted then .proved leg endpoint
  else .failing

/-- The blocks of `submit_route_leg`, and what lies between them. -/
def submitRouteLeg (A : GuardModel F) (R : ArmModel F) (moment : Moment) (sends : Bool) :
    Stage F → PortalNode F × Progress F
  | .entering index =>
    if h : n.legBlocked moment.stop = false ∧ index < n.routeWaypoints.length ∧
        index < kMaximumDynamicRouteLegs then
      have hindex := h.2.1
      ({ n with routeIndex := index }, .next (.read {
        index
        endpoint := n.routeWaypoints[index]
        finalTarget := n.routeWaypoints.getLast (List.ne_nil_of_length_pos (by omega))
        guarded := n.evidence
        motionLimitScale := n.routeMotionLimitScale
        terminalRetreat := n.routeTerminalRetreat
        preservedSide := n.routePreservedSide }))
    else (n.dropRoute, .returned)
  | .read leg =>
    if freshAtUse leg.guarded.stateFreshness moment.timeNs moment.steadyNs kStateFreshnessNs =
        false then (n, .next .failing)
    else if leg.terminalRetreat then (n, .next (reprove A R leg leg.endpoint))
    else
      let route := routeOrProject A R
        (replanInput leg.guarded.measuredQ leg.finalTarget leg.preservedSide)
      if route.accepted = false ∨ route.waypointTcp = [] then (n, .next .failing)
      else (n, .next (.replanned leg route.waypointTcp))
  | .replanned leg waypoints =>
    if n.legBlocked moment.stop ∨ leg.index ≠ n.routeIndex ∨
        n.routeWaypoints.length ≤ leg.index ∨ n.routeTerminalRetreat then (n.dropRoute, .returned)
    else
      -- the entry at the index is now the first of the new waypoints
      ({ n with
        routeWaypoints := n.routeWaypoints.take leg.index ++ waypoints
        routeReplanCount := n.routeReplanCount + 1 },
        .next (reprove A R leg (waypoints.headD leg.endpoint)))
  | .proved leg endpoint =>
    if n.legBlocked moment.stop ∨ leg.index ≠ n.routeIndex ∨
        n.handoffValid A leg.guarded moment = false then (n.dropRoute, .returned)
    else (n, .next (.sending leg endpoint ⟨n.evidence, moment⟩))
  | .sending leg endpoint seen =>
    if sends then (n, .sent leg endpoint seen) else (n, .next .thrown)
  | .failing => (n.dropRoute, .returned)
  | .thrown => ({ n.dropRoute with cancelPending := false }, .returned)

/-- The first block of `schedule_route_leg`; false where it gives up. -/
def scheduleRouteLeg (moment : Moment) (index : Nat) : Bool × PortalNode F :=
  if n.legBlocked moment.stop ∨ n.routeWaypoints.length ≤ index then
    (false, { n with goalActive := false, routeWaypoints := [] })
  else (true, { n with
    routeResumeTimer := none
    routeResumeDeadlineSteadyNs := moment.steadyNs + kRouteResumeTimeoutNs })

/-- Its second block keeps the timer only while the route goes on. -/
def keepTimer (moment : Moment) (index : Nat) : PortalNode F :=
  if n.legBlocked moment.stop ∨ n.routeWaypoints.length ≤ index ∨ index ≠ n.routeIndex then n
  else { n with routeResumeTimer := some index }

/-- The block of the resume timer; true where the next leg may be submitted. -/
def resume (moment : Moment) (index : Nat) : Bool × PortalNode F :=
  if n.legBlocked moment.stop ∨ n.routeWaypoints.length ≤ index ∨ index ≠ n.routeIndex then
    (false, { n with routeResumeTimer := none })
  else if n.stateFresh moment ∧ n.diagnosticFresh moment then
    (true, { n with routeResumeTimer := none })
  else if n.routeResumeDeadlineSteadyNs ≤ moment.steadyNs then
    (false, { n.dropRoute with routeResumeTimer := none })
  else (false, n)

/-! ## §6. Answers of the controller. -/

/-- The goal response of a leg; the flag asks for its cancellation. -/
def legResponse (goal : Nat) (accepted : Bool) : Bool × PortalNode F :=
  if accepted = false then
    (false, { n with activeGoal := none, goalActive := false, cancelPending := false,
                     routeWaypoints := [] })
  else (n.cancelPending || n.routeWaypoints.isEmpty, { n with activeGoal := some goal })

/-- The goal response of a contact goal. -/
def contactResponse (goal : Nat) (accepted : Bool) : Bool × PortalNode F :=
  if accepted = false then
    (false, { n with activeContactGoal := none, goalActive := false, cancelPending := false })
  else (n.cancelPending, { n with activeContactGoal := some goal })

/-- How the result of a leg is taken. -/
inductive Verdict where
  | stopped
  | continued
  | completed
  deriving DecidableEq, Repr

/-- The result of a leg. -/
def legResult (index : Nat) (completed : Bool) : Verdict × PortalNode F :=
  let n : PortalNode F := { n with activeGoal := none }
  let ended : PortalNode F :=
    { n with goalActive := false, cancelPending := false, routeWaypoints := [] }
  if completed = false ∨ n.cancelPending ∨ n.stopping ∨ n.routeWaypoints = [] ∨
      index ≠ n.routeIndex then (.stopped, ended)
  else if index + 1 < n.routeWaypoints.length then
    (.continued, { n with routeIndex := index + 1 })
  else (.completed, ended)

/-- The result of a contact goal. -/
def contactResult : PortalNode F :=
  { n with activeContactGoal := none, goalActive := false, cancelPending := false }

/-- `cancel`, and the goals whose cancellation it asks for. -/
def cancel : List Nat × PortalNode F :=
  (n.activeGoal.toList ++ n.activeContactGoal.toList, { n with
    commandGate := n.commandGate.cancel
    cancelPending := n.goalActive
    routeResumeTimer := none
    routeWaypoints := [] })

/-- The first block of `begin_shutdown`, before its `cancel`. -/
def beginShutdown : PortalNode F := { n with stopping := true }

end PortalNode

end OpenArm.Node
