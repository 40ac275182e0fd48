/-
  OpenArm.Guard.Route — `NominalPathGuard::route_or_project`, and the proofs
  that are repeated before every leg.

  An ordinary request is planned by the route library; only where that finds
  no route the straight line is tried.  Each leg is proved again from the
  newest joints, and once more the joints are compared at the handoff.

  Main results:
    * `replan_agrees`  — the guard, the replan and the second proof agree.
    * `leg_proved`     — a leg that is proved again is one proved edge, or a
                         retreat that leaves the contact.
    * `handoff_proved` — what the last comparison before a goal establishes.
    * `replanned_last` — a replanned route still ends at the target it was
                         given, for the arms that move.
-/
import OpenArm.Guard.Projection
import OpenArm.Model.RouteSound

namespace OpenArm.Guard

open OpenArm.Lib OpenArm.Control OpenArm.Model

variable {F : Type} [Metric F]

/-! ## §1. Freshness and the handoff. -/

/-- `FreshnessEvidence`. -/
structure FreshnessEvidence where
  producerTimeNs : Int
  receiptSteadyNs : Int
  deriving DecidableEq, Repr

/-- `fresh_at_use`. -/
def freshAtUse (evidence : FreshnessEvidence) (nowTimeNs nowSteadyNs maximumAgeNs : Int) : Bool :=
  if evidence.producerTimeNs ≤ 0 ∨ evidence.receiptSteadyNs ≤ 0 ∨
      nowTimeNs < evidence.producerTimeNs ∨ nowSteadyNs < evidence.receiptSteadyNs ∨
      maximumAgeNs ≤ 0 then false
  else decide (nowTimeNs - evidence.producerTimeNs ≤ maximumAgeNs ∧
    nowSteadyNs - evidence.receiptSteadyNs ≤ maximumAgeNs)

/-- `GuardHandoffEvidence`; of what a leg was guarded with only the first five
    are kept.  The two counters are 64 bits wide in the source; that they wrap is
    left out. -/
structure GuardHandoffEvidence (F : Type) where
  measuredQ : PairQ F
  stateSequence : Nat
  diagnosticSequence : Nat
  stateFreshness : FreshnessEvidence
  diagnosticFreshness : FreshnessEvidence
  haveState : Bool
  diagnosticValid : Bool

/-- `monotonic_generation`: the same publication, or a later one in every way. -/
def monotonicGeneration (guardedSequence : Nat) (guarded : FreshnessEvidence)
    (currentSequence : Nat) (current : FreshnessEvidence) : Bool :=
  if guardedSequence = 0 ∨ currentSequence < guardedSequence then false
  else if currentSequence = guardedSequence then
    decide (current.producerTimeNs = guarded.producerTimeNs ∧
      current.receiptSteadyNs = guarded.receiptSteadyNs)
  else
    decide (guarded.producerTimeNs < current.producerTimeNs ∧
      guarded.receiptSteadyNs < current.receiptSteadyNs)

/-- `kGuardJointEquivalenceTolerance`. -/
def kGuardJointEquivalenceTolerance : F := kMeasuredLimitTolerance

/-- The joints of the handoff, in turn: the first reason against one. -/
def jointHandoff (A : GuardModel F) (guarded current : PairQ F) (side : Side) (joint : Joint) :
    Option String :=
  match A.limits side joint with
  | none => some "encoder state or model joint limits are non-finite"
  | some (lower, upper) =>
    if Floating.isFinite (guarded side joint) = false ∨
        Floating.isFinite (current side joint) = false then
      some "encoder state or model joint limits are non-finite"
    else if current side joint < lower - kMeasuredLimitTolerance ∨
        upper + kMeasuredLimitTolerance < current side joint then
      some "newest encoder state is outside the pinned model joint limits"
    else if kGuardJointEquivalenceTolerance <
        Floating.abs (current side joint - guarded side joint) then
      some "an encoder joint changed while the nominal path was being guarded"
    else none

/-- `guard_handoff_valid`: the reason it fails for, or none. -/
def guardHandoffFailure (A : GuardModel F) (guarded current : GuardHandoffEvidence F)
    (nowTimeNs nowSteadyNs stateMaximumAgeNs diagnosticMaximumAgeNs : Int) : Option String :=
  if current.haveState = false then some "encoder state is unavailable"
  else if current.diagnosticValid = false then some "controller diagnostics are not healthy"
  else if freshAtUse current.stateFreshness nowTimeNs nowSteadyNs stateMaximumAgeNs = false then
    some "encoder state is stale at action handoff"
  else if freshAtUse current.diagnosticFreshness nowTimeNs nowSteadyNs diagnosticMaximumAgeNs =
      false then
    some "controller diagnostics are stale at action handoff"
  else if monotonicGeneration guarded.stateSequence guarded.stateFreshness
      current.stateSequence current.stateFreshness = false then
    some "encoder generation was replayed or reordered"
  else if monotonicGeneration guarded.diagnosticSequence guarded.diagnosticFreshness
      current.diagnosticSequence current.diagnosticFreshness = false then
    some "diagnostic generation was replayed or reordered"
  else
    (List.finRange 2).findSome? fun side => (List.finRange 7).findSome? fun joint =>
      jointHandoff A guarded.measuredQ current.measuredQ side joint

/-! ## §2. Routes. -/

/-- `GuardedRoute`. -/
structure GuardedRoute (F : Type) where
  accepted : Bool
  routed : Bool
  usedClearanceRecovery : Bool
  reason : String
  final : GuardResult F
  waypointTcp : List (RoutePose F)

/-- `GuardedRoute{}`. -/
def GuardedRoute.initial : GuardedRoute F where
  accepted := false
  routed := false
  usedClearanceRecovery := false
  reason := ""
  final := GuardResult.initial
  waypointTcp := []

/-- The flags of a route request, unless the preserved side is none. -/
def routeFlags (preservedSide : Int) : Option (BitVec 32) :=
  if preservedSide = 0 then some (allowClearanceRecovery ||| preserveLeft)
  else if preservedSide = 1 then some (allowClearanceRecovery ||| preserveRight)
  else if preservedSide ≠ -1 then none
  else some allowClearanceRecovery

/-- The request the route library is asked. -/
def routeRequest (flags : BitVec 32) (measuredQ : PairQ F) (target : RoutePose F) :
    RouteRequest F where
  flags
  startQRad := measuredQ
  targetTcpM := target
  maximumBranchStepRad := Floating.lit 0.35

def preservedReason : String := "invalid preserved side"

section Source

variable (A : GuardModel F) (R : ArmModel F)

/-- The input of a leg that leaves a contact. -/
def retreatInput (measuredQ : PairQ F) (endpoint : RoutePose F) : GuardInput F where
  measuredQ
  request := {
    side := 0
    target := zeroPoint
    motionLimitScale := Floating.lit 0.5
    dual := true
    dualTarget := endpoint }
  contactPolicy := contactTerminalCaps
  requireTerminalContact := false
  terminalRetreat := true
  preservedSide := -1

/-- `NominalPathGuard::revalidate_direct_leg`. -/
def revalidateDirectLeg (measuredQ : PairQ F) (endpoint : RoutePose F) (terminalRetreat : Bool)
    (preservedSide : Int) : GuardResult F :=
  if terminalRetreat then validate A (retreatInput measuredQ endpoint)
  else
    match routeFlags preservedSide with
    | none => { GuardResult.initial with reason := preservedReason }
    | some flags =>
      match oaRoutePlanPaired R (routeRequest flags measuredQ endpoint) with
      | (.ok, some planned) =>
        if planned.waypoints.length ≠ 1 then
          { GuardResult.initial with
            reason := "fresh measured feedback requires a different guarded route" }
        else
          { GuardResult.initial with
            accepted := true
            achievedFraction := Floating.lit 1.0
            commandedTcp := endpoint
            minimumNominalClearanceM := planned.minimumClearanceM
            reason := "direct edge re-proved from fresh measured feedback" }
      | (status, _) =>
        { GuardResult.initial with
          reason := "native-C direct-edge proof failed with status " ++ toString status.code }

variable (input : GuardInput F)

/-- The measured tools of `route_or_project`, or the reason against them. -/
def measuredTools : Except String (RoutePose F) :=
  match measuredPose A input 0 with
  | .error reason => .error reason
  | .ok left =>
    match measuredPose A input 1 with
    | .error reason => .error reason
    | .ok right => .ok ![origin left.handTcp, origin right.handTcp]

/-- The side that is kept: of a single request always the other one. -/
def preservedOf : Int :=
  if input.request.dual then input.preservedSide else 1 - (input.request.side.val : Int)

/-- The target of both tools. -/
def pairTarget (measuredTcp : RoutePose F) : RoutePose F :=
  if input.request.dual then input.request.dualTarget
  else Function.update measuredTcp input.request.side input.request.target

/-- What an accepted route says. -/
def routeReason (planned : RouteResult F) : String :=
  "accepted exact target through " ++ toString planned.waypoints.length ++
    " native-C nominal-keepout-screened Cartesian leg" ++
    (if planned.waypoints.length = 1 then "" else "s") ++
    (if planned.usedClearanceRecovery then
      "; first leg monotonically restores the 25 mm planning clearance" else "")

/-- The answer where the library found a route. -/
def plannedRoute (measuredTcp : RoutePose F) (planned : RouteResult F) : GuardedRoute F where
  accepted := true
  routed := decide (1 < planned.waypoints.length)
  usedClearanceRecovery := planned.usedClearanceRecovery
  reason := routeReason planned
  final := { GuardResult.initial with
    accepted := true
    measuredTcp
    commandedTcp := pairTarget input measuredTcp
    requestedTcp :=
      if input.request.dual then pairTarget input measuredTcp 0 else input.request.target
    achievedFraction := Floating.lit 1.0
    minimumNominalClearanceM := planned.minimumClearanceM
    reason := routeReason planned }
  waypointTcp := planned.waypoints.map RouteWaypoint.tcpM

/-- The straight line, with what the library said against a route. -/
def straightRoute (said : String) : GuardedRoute F :=
  let final := validateOrProject A input
  if final.accepted = true then
    { accepted := true
      routed := false
      usedClearanceRecovery := false
      reason := final.reason
      final
      waypointTcp := [final.commandedTcp] }
  else
    { accepted := false
      routed := false
      usedClearanceRecovery := false
      reason := said ++ final.reason
      final := { final with reason := said ++ final.reason }
      waypointTcp := [] }

/-- What the library said, before the reason of the straight line. -/
def plannerSaid : RouteStatus → String
  | .ok => ""
  | .enopath => "native-C route graph found no exact path; "
  | status => "native-C route planner rejected the request with status " ++
      toString status.code ++ "; "

/-- `NominalPathGuard::route_or_project`. -/
def routeOrProject : GuardedRoute F :=
  if input.contactPolicy ≠ contactNone ∨ input.requireTerminalContact = true ∨
      input.terminalRetreat = true then straightRoute A input ""
  else
    match measuredTools A input with
    | .error reason =>
      { GuardedRoute.initial with reason, final := { GuardResult.initial with reason } }
    | .ok measuredTcp =>
      match routeFlags (preservedOf input) with
      | none =>
        { GuardedRoute.initial with
          reason := preservedReason
          final := { GuardResult.initial with reason := preservedReason } }
      | some flags =>
        match oaRoutePlanPaired R (routeRequest flags input.measuredQ
          (pairTarget input measuredTcp)) with
        | (.ok, some planned) =>
          if 0 < planned.waypoints.length ∧ planned.waypoints.length ≤ 24 then
            plannedRoute input measuredTcp planned
          else straightRoute A input ""
        | (status, _) => straightRoute A input (plannerSaid status)

end Source

/-! ## §3. Planned routes. -/

/-- A target with the tool of the preserved arm where it was measured. -/
def kept (flags : BitVec 32) (target startTcp : RoutePose F) : RoutePose F :=
  (preservedSide flags).elim target fun side => Function.update target side (startTcp side)

/-- The way of an accepted route request through the search. -/
structure Way (R : ArmModel F) (request : RouteRequest F) (result : RouteResult F)
    (startTcp : RoutePose F) (path : List (Nat × RouteNode F)) (node : RouteNode F) : Prop where
  tools : tcpFromQ R request.startQRad = some startTcp
  arguments : routeArgumentsOk request = true
  finite : routeFinite request = true
  held : ∀ side, preservedSide request.flags = some side →
    tcpDiffers (request.targetTcpM side) (startTcp side) = false
  found : ∃ found, search R request (routeCandidates request startTcp) 23
    { nodes := [], queue := [none] } = some found ∧ path = routePath found 25 (some 0)
  linked : Linked (Reached R request (routeCandidates request startTcp)) none path
  last : path.getLast? = some (0, node)
  waypoints : result.waypoints.map RouteWaypoint.tcpM =
    path.map fun entry => (routeCandidates request startTcp).getD entry.1 request.targetTcpM

section Planned

variable {R : ArmModel F} {request : RouteRequest F} {result : RouteResult F}

/-- The candidates are the target and the anchors, with the preserved tool where
    it is. -/
theorem routeCandidates_eq (startTcp : RoutePose F) :
    routeCandidates request startTcp =
      (request.targetTcpM :: routeAnchors).map fun pose => kept request.flags pose startTcp := by
  unfold routeCandidates kept
  cases preservedSide request.flags with
  | none => rfl
  | some side => rfl

/-- The first candidate is the target. -/
theorem routeCandidates_zero (startTcp : RoutePose F) :
    (routeCandidates request startTcp)[0]? =
      some (kept request.flags request.targetTcpM startTcp) := by
  rw [routeCandidates_eq]
  rfl

/-- The checks of a request that the search does not repeat. -/
theorem oaRoutePlanPaired_within (h : oaRoutePlanPaired R request = (.ok, some result)) :
    (∀ side, qInBounds R side (request.startQRad side) routeEncoderLimitTolerance = true) ∧
      result.waypoints.length ≤ 24 := by
  unfold oaRoutePlanPaired at h
  split at h
  · cases h
  split at h
  · cases h
  split at h
  · cases h
  next hbounds =>
  have hbounds' : ∀ side,
      qInBounds R side (request.startQRad side) routeEncoderLimitTolerance = true := by
    intro side
    simp only [Bool.not_eq_true, Bool.not_eq_false', List.all_eq_true] at hbounds
    exact hbounds side (List.mem_finRange side)
  split at h
  · cases h
  extract_lets moved candidates at h
  split at h
  · cases h
  split at h
  · cases h
  extract_lets path at h
  split at h
  · cases h
  · next hcapacity =>
    cases h
    refine ⟨hbounds', ?_⟩
    rw [List.length_map]
    omega

/-- A request that passes the checks is answered with what its search finds. -/
theorem oaRoutePlanPaired_of (request : RouteRequest F) {startTcp : RoutePose F}
    {found : RouteSearch F}
    (harguments : routeArgumentsOk request = true) (hfinite : routeFinite request = true)
    (hbounds : ∀ side,
      qInBounds R side (request.startQRad side) routeEncoderLimitTolerance = true)
    (htools : tcpFromQ R request.startQRad = some startTcp)
    (hheld : ∀ side, preservedSide request.flags = some side →
      tcpDiffers (request.targetTcpM side) (startTcp side) = false)
    (hsearch : search R request (routeCandidates request startTcp) 23
      { nodes := [], queue := [none] } = some found)
    (hcapacity : (routePath found 25 (some 0)).length ≤ 24) :
    ∃ result, oaRoutePlanPaired R request = (.ok, some result) ∧
      result.waypoints = (routePath found 25 (some 0)).map fun entry =>
        { tcpM := (routeCandidates request startTcp).getD entry.1 request.targetTcpM
          qRad := entry.2.q } := by
  have hall : ((List.finRange 2).all fun side =>
      qInBounds R side (request.startQRad side) routeEncoderLimitTolerance) = true :=
    List.all_eq_true.mpr fun side _ => hbounds side
  have hrounds : (routeCandidates request startTcp).length + 1 = 23 :=
    congrArg (· + 1) (length_routeCandidates request startTcp)
  unfold oaRoutePlanPaired
  rw [if_neg (by simp [harguments]), if_neg (by simp [hfinite]), if_neg (by simp [hall]), htools]
  dsimp only
  rw [if_neg, hrounds, hsearch]
  · dsimp only
    rw [if_neg (by omega)]
    exact ⟨_, rfl, rfl⟩
  · intro hmoved
    split at hmoved
    · cases hmoved
    · next side hside =>
      rw [hheld side hside] at hmoved
      cases hmoved

theorem planned_way (h : oaRoutePlanPaired R request = (.ok, some result)) :
    ∃ startTcp path node, Way R request result startTcp path node := by
  obtain ⟨startTcp, found, htools, harguments, hfinite, hheld, hsearch, rfl⟩ :=
    oaRoutePlanPaired_ok h
  have hempty : Tree R request (routeCandidates request startTcp) [] := .nil
  obtain ⟨htree, htarget⟩ := search_grown hempty hsearch
  obtain ⟨node, hnode⟩ := Option.isSome_iff_exists.mp htarget
  have hlength := htree.length_le
  rw [length_routeCandidates] at hlength
  have hsteps : found.nodes.length ≤ 25 := by omega
  have hfind : ∀ j node, found.nodes.lookup j = some node → found.node j = some node :=
    fun _ _ hj => hj
  obtain ⟨hlinked, hlast, -, -⟩ := htree.path hfind hnode hsteps
  rw [← routePath_eq] at hlinked hlast
  refine ⟨startTcp, _, node, htools, harguments, hfinite, hheld, ⟨found, hsearch, rfl⟩, hlinked,
    hlast, ?_⟩
  show List.map RouteWaypoint.tcpM (List.map _ _) = _
  rw [List.map_map]
  rfl

/-- The last waypoint is the target. -/
theorem Way.ends {startTcp : RoutePose F} {path : List (Nat × RouteNode F)} {node : RouteNode F}
    (h : Way R request result startTcp path node) :
    (result.waypoints.map RouteWaypoint.tcpM).getLast? =
      some (kept request.flags request.targetTcpM startTcp) := by
  rw [h.waypoints, List.getLast?_map, h.last]
  show some ((routeCandidates request startTcp).getD 0 request.targetTcpM) = _
  rw [List.getD_eq_getElem?_getD, routeCandidates_zero]
  rfl

variable [FloatOrder F]

/-- The branch step of the guard's requests is a number. -/
theorem finite_step : Floating.isFinite (Floating.lit 0.35 : F) = true :=
  FloatOrder.isFinite_lit (by norm_num) (by norm_num)

/-- **A leg that is proved again** is one edge from the joints it was proved for. -/
theorem revalidated_edge {A : GuardModel F} {measuredQ : PairQ F} {endpoint : RoutePose F}
    {preserved : Int}
    (h : (revalidateDirectLeg A R measuredQ endpoint false preserved).accepted = true) :
    ∃ flags startTcp edge poses clearances inside, routeFlags preserved = some flags ∧
      EdgeProof R (routeRequest flags measuredQ endpoint) measuredQ
        (kept flags endpoint startTcp) edge startTcp poses clearances inside := by
  unfold revalidateDirectLeg at h
  rw [if_neg (by simp)] at h
  split at h
  · cases h
  · next flags hflags =>
    split at h
    · next planned hplanned =>
      split at h
      · cases h
      · next hone =>
        obtain ⟨startTcp, path, node, hway⟩ := planned_way hplanned
        have hlength : path.length = 1 := by
          have hmap := congrArg List.length hway.waypoints
          rw [List.length_map, List.length_map] at hmap
          omega
        obtain ⟨entry, rfl⟩ := List.length_eq_one_iff.mp hlength
        obtain rfl : entry = (0, node) := Option.some.inj hway.last
        obtain ⟨pose, edge, hpose, hedge, -⟩ := hway.linked.1
        rw [routeCandidates_zero] at hpose
        obtain rfl := Option.some.inj hpose
        have hstart := routeFinite_start hway.finite
        obtain ⟨tools, poses, clearances, inside, hproof⟩ :=
          validateEdge_proved hstart finite_step hedge
        obtain rfl := Option.some.inj (hway.tools.symm.trans hproof.tools)
        exact ⟨flags, startTcp, edge, poses, clearances, inside, hflags, hproof⟩
    · cases h

end Planned

/-! ## §4. The same route again. -/

/-- What is known of the arms of a route request: a number is where it is, the
    anchors are numbers, and `oa_fk` answers with numbers. -/
structure RouteLaws (R : ArmModel F) : Prop where
  still : ∀ a : F, Floating.isFinite a = true →
    ¬ routeTcpEquivalenceToleranceM < Floating.abs (a - a)
  anchors : ∀ pose ∈ (routeAnchors : List (RoutePose F)), ∀ side axis,
    Floating.isFinite (pose side axis) = true
  tools : ∀ side q point, R.forward side q = some point → ∀ axis,
    Floating.isFinite (point axis) = true

/-- The request for another target. -/
def redirected (request : RouteRequest F) (target : RoutePose F) : RouteRequest F :=
  { request with targetTcpM := target }

section Again

variable {R : ArmModel F} {request : RouteRequest F}

/-- An edge leads to a candidate; the target is only one of them. -/
theorem sampleEdge_redirected (target : RoutePose F) (startQ : PairQ F)
    (startTcp pose : RoutePose F) (samples : List Nat) (e : EdgeState F) :
    sampleEdge R (redirected request target) startQ startTcp pose samples e =
      sampleEdge R request startQ startTcp pose samples e := by
  induction samples generalizing e with
  | nil => rfl
  | cons sample samples ih =>
    have hsolve : solveSample R (redirected request target) startQ startTcp pose
        (Floating.ofNat sample / Floating.ofNat 16) e.q =
      solveSample R request startQ startTcp pose
        (Floating.ofNat sample / Floating.ofNat 16) e.q := rfl
    unfold sampleEdge
    dsimp only
    rw [hsolve]
    split
    · rfl
    · split
      · rfl
      · exact ih _

theorem validateEdge_redirected (target : RoutePose F) (startQ : PairQ F) (pose : RoutePose F) :
    validateEdge R (redirected request target) startQ pose = validateEdge R request startQ pose := by
  have hbegin : beginEdge R (redirected request target) startQ = beginEdge R request startQ := rfl
  unfold validateEdge
  simp only [sampleEdge_redirected, hbegin]
  rfl

theorem expand_redirected (target : RoutePose F) (current : Option Nat) (currentQ : PairQ F)
    (recovery : Bool) (candidates : List (Nat × RoutePose F)) (s : RouteSearch F) :
    expand R (redirected request target) current currentQ recovery candidates s =
      expand R request current currentQ recovery candidates s := by
  induction candidates generalizing s with
  | nil => rfl
  | cons candidate candidates ih =>
    unfold expand
    simp only [validateEdge_redirected, ih]

theorem search_redirected (target : RoutePose F) (candidates : List (RoutePose F)) (rounds : Nat)
    (s : RouteSearch F) :
    search R (redirected request target) candidates rounds s =
      search R request candidates rounds s := by
  induction rounds generalizing s with
  | zero => rfl
  | succ rounds ih =>
    unfold search
    simp only [expand_redirected, ih]
    rfl

omit [Metric F] in
/-- Once is enough. -/
theorem kept_kept (flags : BitVec 32) (pose startTcp : RoutePose F) :
    kept flags (kept flags pose startTcp) startTcp = kept flags pose startTcp := by
  unfold kept
  cases preservedSide flags with
  | none => rfl
  | some side => exact Function.update_idem _ _ _

theorem kept_candidate {startTcp pose : RoutePose F}
    (h : pose ∈ routeCandidates request startTcp) :
    kept request.flags pose startTcp = pose := by
  rw [routeCandidates_eq] at h
  obtain ⟨free, -, rfl⟩ := List.mem_map.mp h
  exact kept_kept request.flags free startTcp

variable (laws : RouteLaws R)

include laws in
/-- The measured tools are numbers. -/
theorem tools_finite {q : PairQ F} {startTcp : RoutePose F} (h : tcpFromQ R q = some startTcp)
    (side : Side) (axis : Fin 3) : Floating.isFinite (startTcp side axis) = true := by
  unfold tcpFromQ at h
  split at h
  · next left right hleft hright =>
    obtain rfl := Option.some.inj h
    revert side
    rw [Fin.forall_fin_two]
    exact ⟨laws.tools 0 _ _ hleft axis, laws.tools 1 _ _ hright axis⟩
  · cases h

include laws in
/-- So is every candidate. -/
theorem candidate_finite {startTcp pose : RoutePose F}
    (htools : tcpFromQ R request.startQRad = some startTcp) (hfinite : routeFinite request = true)
    (h : pose ∈ routeCandidates request startTcp) (side : Side) (axis : Fin 3) :
    Floating.isFinite (pose side axis) = true := by
  rw [routeCandidates_eq] at h
  obtain ⟨free, hfree, rfl⟩ := List.mem_map.mp h
  have hbefore : Floating.isFinite (free side axis) = true := by
    rcases List.mem_cons.mp hfree with rfl | hanchor
    · have hside := List.all_eq_true.mp hfinite side (List.mem_finRange side)
      rw [Bool.and_eq_true] at hside
      exact List.all_eq_true.mp hside.2 axis (List.mem_finRange axis)
    · exact laws.anchors free hanchor side axis
  unfold kept
  cases preservedSide request.flags with
  | none => exact hbefore
  | some held =>
    show Floating.isFinite (Function.update free held (startTcp held) side axis) = true
    by_cases hside : side = held
    · rw [hside, Function.update_self]
      exact tools_finite laws htools held axis
    · rw [Function.update_of_ne hside]
      exact hbefore

include laws in
/-- A request for a candidate passes the checks that the first request passed. -/
theorem redirected_checks {startTcp pose : RoutePose F}
    (htools : tcpFromQ R request.startQRad = some startTcp) (hfinite : routeFinite request = true)
    (h : pose ∈ routeCandidates request startTcp) :
    routeFinite (redirected request pose) = true ∧
      ∀ side, preservedSide request.flags = some side →
        tcpDiffers (pose side) (startTcp side) = false := by
  constructor
  · refine List.all_eq_true.mpr fun side _ => ?_
    have hstart := List.all_eq_true.mp hfinite side (List.mem_finRange side)
    rw [Bool.and_eq_true] at hstart ⊢
    exact ⟨hstart.1, List.all_eq_true.mpr fun axis _ =>
      candidate_finite laws htools hfinite h side axis⟩
  · intro side hside
    have hsame : pose side = startTcp side := by
      rw [← kept_candidate h]
      unfold kept
      rw [hside]
      exact Function.update_self _ _ _
    unfold tcpDiffers
    rw [List.any_eq_false]
    intro axis _
    rw [hsame, decide_eq_true_eq]
    exact laws.still _ (tools_finite laws htools side axis)

/-- A search whose first candidate is one edge away finds it at once. -/
theorem search_at_once (request : RouteRequest F) {startTcp pose : RoutePose F} {edge : Edge F}
    (hfirst : (routeCandidates request startTcp)[0]? = some pose)
    (hedge : validateEdge R request request.startQRad pose = some edge) :
    ∃ found node, search R request (routeCandidates request startTcp) 23
        { nodes := [], queue := [none] } = some found ∧
      routePath found 25 (some 0) = [(0, node)] := by
  obtain ⟨rest, hrest⟩ : ∃ rest, routeCandidates request startTcp = pose :: rest := by
    cases hall : routeCandidates request startTcp with
    | nil =>
      rw [hall] at hfirst
      cases hfirst
    | cons head rest =>
      rw [hall] at hfirst
      exact ⟨rest, congrArg (· :: rest) (Option.some.inj hfirst)⟩
  have hzip : ∃ others, (List.range (pose :: rest).length).zip (pose :: rest) =
      (0, pose) :: others := by
    rw [List.length_cons, List.range_succ_eq_map]
    exact ⟨_, rfl⟩
  obtain ⟨others, hothers⟩ := hzip
  have hexpand : expand R request none request.startQRad false ((0, pose) :: others)
      { nodes := [], queue := [] } =
    ({ nodes := [(0, { predecessor := none, usedRecovery := edge.usedRecovery || false
                       edgeMinimumClearanceM := edge.minimumClearanceM, q := edge.q })]
       queue := [] }, true) := by
    unfold expand
    rw [if_neg (show ¬ (RouteSearch.node { nodes := [], queue := [] } 0).isSome = true by
      exact Bool.false_ne_true), hedge]
    rfl
  have hfound : search R request (routeCandidates request startTcp) 23
      { nodes := [], queue := [none] } =
    some { nodes := [(0, { predecessor := none, usedRecovery := edge.usedRecovery || false
                           edgeMinimumClearanceM := edge.minimumClearanceM, q := edge.q })]
           queue := [] } := by
    rw [hrest]
    unfold search
    dsimp only
    rw [hothers, hexpand]
  exact ⟨_, _, hfound, rfl⟩

include laws in
/-- **The next leg, planned by itself**, is one leg. -/
theorem first_again [FloatOrder F] {result : RouteResult F}
    (h : oaRoutePlanPaired R request = (.ok, some result)) {first : RouteWaypoint F}
    (hfirst : result.waypoints.head? = some first) :
    ∃ alone, oaRoutePlanPaired R (redirected request first.tcpM) = (.ok, some alone) ∧
      alone.waypoints.length = 1 := by
  obtain ⟨startTcp, path, node, hway⟩ := planned_way h
  obtain ⟨hbounds, -⟩ := oaRoutePlanPaired_within h
  have hmapped := congrArg List.head? hway.waypoints
  rw [List.head?_map, List.head?_map, hfirst] at hmapped
  cases hpath : path with
  | nil =>
    have hlast := hway.last
    rw [hpath] at hlast
    cases hlast
  | cons entry rest =>
  rw [hpath] at hmapped
  have hlinked := hway.linked
  rw [hpath] at hlinked
  obtain ⟨pose, edge, hpose, hedge, -⟩ := hlinked.1
  have hpoint : first.tcpM = pose := by
    rw [Option.some.inj hmapped]
    show (routeCandidates request startTcp).getD entry.1 request.targetTcpM = pose
    rw [List.getD_eq_getElem?_getD, hpose]
    rfl
  have hmem : first.tcpM ∈ routeCandidates request startTcp := by
    rw [hpoint]
    exact List.mem_of_getElem? hpose
  obtain ⟨hfinite, hheld⟩ := redirected_checks laws hway.tools hway.finite hmem
  have hzero : (routeCandidates (redirected request first.tcpM) startTcp)[0]? =
      some first.tcpM := by
    have hkept : kept request.flags first.tcpM startTcp = first.tcpM := kept_candidate hmem
    rw [routeCandidates_zero]
    exact congrArg some hkept
  obtain ⟨found, last, hsearch, halone⟩ := search_at_once (redirected request first.tcpM)
    hzero ((validateEdge_redirected _ _ _).trans (hpoint ▸ hedge))
  obtain ⟨alone, hok, hwaypoints⟩ := oaRoutePlanPaired_of (redirected request first.tcpM)
    hway.arguments hfinite hbounds hway.tools hheld hsearch
      (by rw [halone]; exact (by decide : 1 ≤ 24))
  refine ⟨alone, hok, ?_⟩
  rw [hwaypoints, halone]
  rfl

include laws in
/-- **A route, planned again** for where it ends, is the same route. -/
theorem route_again [FloatOrder F] {result : RouteResult F}
    (h : oaRoutePlanPaired R request = (.ok, some result)) {last : RouteWaypoint F}
    (hlast : result.waypoints.getLast? = some last) :
    ∃ again, oaRoutePlanPaired R (redirected request last.tcpM) = (.ok, some again) ∧
      again.waypoints.map RouteWaypoint.tcpM = result.waypoints.map RouteWaypoint.tcpM := by
  obtain ⟨startTcp, path, node, hway⟩ := planned_way h
  obtain ⟨hbounds, hcapacity⟩ := oaRoutePlanPaired_within h
  obtain ⟨found, hsearch, hpath⟩ := hway.found
  have hends := hway.ends
  rw [List.getLast?_map, hlast] at hends
  have hpoint : last.tcpM = kept request.flags request.targetTcpM startTcp :=
    Option.some.inj hends
  have hmem : last.tcpM ∈ routeCandidates request startTcp := by
    rw [hpoint, routeCandidates_eq]
    exact List.mem_map_of_mem List.mem_cons_self
  obtain ⟨hfinite, hheld⟩ := redirected_checks laws hway.tools hway.finite hmem
  have hsame : routeCandidates (redirected request last.tcpM) startTcp =
      routeCandidates request startTcp := by
    rw [routeCandidates_eq, routeCandidates_eq, List.map_cons, List.map_cons]
    show kept request.flags last.tcpM startTcp :: _ = _
    rw [hpoint, kept_kept]
    rfl
  have hcount := congrArg List.length hway.waypoints
  rw [List.length_map, List.length_map] at hcount
  obtain ⟨again, hok, hwaypoints⟩ := oaRoutePlanPaired_of (redirected request last.tcpM)
    hway.arguments hfinite hbounds hway.tools hheld
    (by rw [hsame, search_redirected]; exact hsearch) (by rw [← hpath]; omega)
  refine ⟨again, hok, ?_⟩
  rw [hwaypoints, hsame, ← hpath, List.map_map, hway.waypoints]
  refine List.map_congr_left fun entry hentry => ?_
  obtain ⟨parent, pose, edge, hpose, -⟩ := hway.linked.mem hentry
  show (routeCandidates request startTcp).getD entry.1 last.tcpM =
    (routeCandidates request startTcp).getD entry.1 request.targetTcpM
  rw [List.getD_eq_getElem?_getD, List.getD_eq_getElem?_getD, hpose]
  rfl

end Again

/-! ## §5. Replans. -/

/-- What `submit_route_leg` asks for before every leg: both arms, from the
    newest joints to the last waypoint. -/
def replanInput (measuredQ : PairQ F) (finalTarget : RoutePose F) (preserved : Int) :
    GuardInput F where
  measuredQ
  request := {
    side := 0
    target := zeroPoint
    motionLimitScale := Floating.lit 0.5
    dual := true
    dualTarget := finalTarget }
  contactPolicy := contactNone
  requireTerminalContact := false
  terminalRetreat := false
  preservedSide := preserved

/-- The library found a route for an ordinary request. -/
structure Planned (A : GuardModel F) (R : ArmModel F) (input : GuardInput F)
    (measuredTcp : RoutePose F) (planned : RouteResult F) : Prop where
  ordinary : ¬ (input.contactPolicy ≠ contactNone ∨ input.requireTerminalContact = true ∨
    input.terminalRetreat = true)
  tools : measuredTools A input = .ok measuredTcp
  found : ∃ flags, routeFlags (preservedOf input) = some flags ∧
    oaRoutePlanPaired R (routeRequest flags input.measuredQ (pairTarget input measuredTcp)) =
      (.ok, some planned)

section Replan

variable {A : GuardModel F} {R : ArmModel F} {input : GuardInput F}
  {measuredTcp : RoutePose F} {planned : RouteResult F}

theorem Way.length_pos {request : RouteRequest F} {startTcp : RoutePose F}
    {path : List (Nat × RouteNode F)} {node : RouteNode F}
    (h : Way R request planned startTcp path node) : 0 < planned.waypoints.length := by
  have hcount := congrArg List.length h.waypoints
  rw [List.length_map, List.length_map] at hcount
  rw [hcount]
  exact List.length_pos_iff.mpr fun hnil => by
    have hlast := h.last
    rw [hnil] at hlast
    cases hlast

variable [FloatOrder F]

section

omit [FloatOrder F]

theorem Planned.answer (h : Planned A R input measuredTcp planned) :
    routeOrProject A R input = plannedRoute input measuredTcp planned := by
  obtain ⟨flags, hflags, hplan⟩ := h.found
  obtain ⟨startTcp, path, node, hway⟩ := planned_way hplan
  have hlength : 0 < planned.waypoints.length ∧ planned.waypoints.length ≤ 24 :=
    ⟨hway.length_pos, (oaRoutePlanPaired_within hplan).2⟩
  unfold routeOrProject
  rw [if_neg h.ordinary, h.tools]
  dsimp only
  rw [hflags]
  dsimp only
  rw [hplan]
  dsimp only
  rw [if_pos hlength]

/-- Every accepted route was found by the library or is a straight line. -/
theorem routeOrProject_cases (h : (routeOrProject A R input).accepted = true) :
    (∃ measuredTcp planned, Planned A R input measuredTcp planned) ∨
      (validateOrProject A input).accepted = true ∧
        (routeOrProject A R input).final = validateOrProject A input ∧
        (routeOrProject A R input).waypointTcp = [(validateOrProject A input).commandedTcp] := by
  have hstraight : ∀ said, (straightRoute A input said).accepted = true →
      (validateOrProject A input).accepted = true ∧
        (straightRoute A input said).final = validateOrProject A input ∧
        (straightRoute A input said).waypointTcp = [(validateOrProject A input).commandedTcp] := by
    intro said haccepted
    unfold straightRoute at haccepted ⊢
    dsimp only at haccepted ⊢
    split at haccepted
    · next hfinal =>
      rw [if_pos hfinal]
      exact ⟨hfinal, rfl, rfl⟩
    · cases haccepted
  by_cases hordinary : input.contactPolicy ≠ contactNone ∨ input.requireTerminalContact = true ∨
      input.terminalRetreat = true
  · have hsame : routeOrProject A R input = straightRoute A input "" := if_pos hordinary
    rw [hsame] at h ⊢
    exact Or.inr (hstraight _ h)
  cases htools : measuredTools A input with
  | error reason =>
    unfold routeOrProject at h
    rw [if_neg hordinary, htools] at h
    cases h
  | ok measuredTcp =>
  cases hflags : routeFlags (preservedOf input) with
  | none =>
    unfold routeOrProject at h
    rw [if_neg hordinary, htools] at h
    dsimp only at h
    rw [hflags] at h
    cases h
  | some flags =>
  rcases hplan : oaRoutePlanPaired R (routeRequest flags input.measuredQ
    (pairTarget input measuredTcp)) with ⟨status, answer⟩
  by_cases hfound : ∃ planned, status = .ok ∧ answer = some planned
  · obtain ⟨planned, rfl, rfl⟩ := hfound
    exact Or.inl ⟨measuredTcp, planned, hordinary, htools, flags, hflags, hplan⟩
  have hsame : routeOrProject A R input = straightRoute A input (plannerSaid status) := by
    unfold routeOrProject
    rw [if_neg hordinary, htools]
    dsimp only
    rw [hflags]
    dsimp only
    rw [hplan]
    cases status with
    | ok =>
      cases answer with
      | none => rfl
      | some planned => exact absurd ⟨planned, rfl, rfl⟩ hfound
    | _ => rfl
  rw [hsame] at h ⊢
  exact Or.inr (hstraight _ h)

/-- The answer is accepted exactly when its last result is. -/
theorem route_final : (routeOrProject A R input).final.accepted =
    (routeOrProject A R input).accepted := by
  have hstraight : ∀ said, (straightRoute A input said).final.accepted =
      (straightRoute A input said).accepted := by
    intro said
    unfold straightRoute
    dsimp only
    split
    · next hfinal => exact hfinal
    · next hfinal => exact Bool.eq_false_of_not_eq_true hfinal
  unfold routeOrProject
  split
  · exact hstraight _
  · split
    · rfl
    · split
      · rfl
      · split
        · split
          · rfl
          · exact hstraight _
        · exact hstraight _

end

/-- The flags of a request name its preserved side. -/
theorem preservedSide_of_routeFlags {flags : BitVec 32} {preserved : Int}
    (h : routeFlags preserved = some flags) {side : Side}
    (hside : preservedSide flags = some side) :
    (side.val : Int) = preserved := by
  unfold routeFlags at h
  split at h
  · next hleft =>
    obtain rfl := Option.some.inj h
    obtain rfl : (0 : Side) = side := Option.some.inj hside
    exact hleft.symm
  · split at h
    · next hright =>
      obtain rfl := Option.some.inj h
      obtain rfl : (1 : Side) = side := Option.some.inj hside
      exact hright.symm
    · split at h
      · cases h
      · obtain rfl := Option.some.inj h
        cases hside

omit [FloatOrder F] in
/-- An accepted route ends where its result says, up to the preserved arm. -/
theorem route_last (h : (routeOrProject A R input).accepted = true) :
    ∃ last, (routeOrProject A R input).waypointTcp.getLast? = some last ∧
      ∀ side : Side, (side.val : Int) ≠ preservedOf input →
        last side = (routeOrProject A R input).final.commandedTcp side := by
  obtain ⟨measuredTcp, planned, hplanned⟩ | ⟨-, hfinal, hwaypoints⟩ := routeOrProject_cases h
  · rw [hplanned.answer]
    obtain ⟨flags, hflags, hplan⟩ := hplanned.found
    obtain ⟨startTcp, path, node, hway⟩ := planned_way hplan
    refine ⟨_, hway.ends, fun side hside => ?_⟩
    show kept flags (pairTarget input measuredTcp) startTcp side = pairTarget input measuredTcp side
    unfold kept
    cases hheld : preservedSide flags with
    | none => rfl
    | some held =>
      refine Function.update_of_ne (fun heq => hside ?_) _ _
      rw [heq]
      exact preservedSide_of_routeFlags hflags hheld
  · rw [hwaypoints, hfinal]
    exact ⟨_, rfl, fun side _ => rfl⟩

/-- A planned route is planned again from the same joints, and its first leg is
    proved again. -/
theorem planned_again (laws : RouteLaws R) (h : Planned A R input measuredTcp planned) :
    ∃ first last again, planned.waypoints.head? = some first ∧
      planned.waypoints.getLast? = some last ∧
      Planned A R (replanInput input.measuredQ last.tcpM (preservedOf input)) measuredTcp again ∧
      again.waypoints.map RouteWaypoint.tcpM = planned.waypoints.map RouteWaypoint.tcpM ∧
      (revalidateDirectLeg A R input.measuredQ first.tcpM false (preservedOf input)).accepted =
        true := by
  obtain ⟨flags, hflags, hplan⟩ := h.found
  obtain ⟨startTcp, path, node, hway⟩ := planned_way hplan
  have hpos := hway.length_pos
  obtain ⟨first, hfirst⟩ : ∃ first, planned.waypoints.head? = some first := by
    cases hpoints : planned.waypoints with
    | nil =>
      rw [hpoints] at hpos
      cases hpos
    | cons first rest => exact ⟨first, rfl⟩
  obtain ⟨last, hlast⟩ : ∃ last, planned.waypoints.getLast? = some last :=
    Option.isSome_iff_exists.mp (by rw [List.getLast?_isSome]; exact List.length_pos_iff.mp hpos)
  obtain ⟨again, hagain, hsame⟩ := route_again laws hplan hlast
  obtain ⟨alone, halone, hone⟩ := first_again laws hplan hfirst
  refine ⟨first, last, again, hfirst, hlast, ⟨?_, h.tools, flags, hflags, hagain⟩, hsame, ?_⟩
  · show ¬ (contactNone ≠ contactNone ∨ false = true ∨ false = true)
    decide
  · have hleg : oaRoutePlanPaired R (routeRequest flags input.measuredQ first.tcpM) =
        (.ok, some alone) := halone
    unfold revalidateDirectLeg
    rw [if_neg (by simp), hflags]
    dsimp only
    rw [hleg]
    dsimp only
    rw [if_neg (by rw [hone]; decide)]

/-- **The guard, the replan and the second proof agree.**  A planned route is
    planned again from the same joints as the same route, and its first leg is
    proved again. -/
def ReplanAgrees (A : GuardModel F) (R : ArmModel F) (input : GuardInput F) : Prop :=
  (routeOrProject A R input).accepted = true ∧
    ∃ first last, (routeOrProject A R input).waypointTcp.head? = some first ∧
      (routeOrProject A R input).waypointTcp.getLast? = some last ∧
      (routeOrProject A R (replanInput input.measuredQ last (preservedOf input))).accepted = true ∧
      (routeOrProject A R (replanInput input.measuredQ last (preservedOf input))).waypointTcp =
        (routeOrProject A R input).waypointTcp ∧
      (revalidateDirectLeg A R input.measuredQ first false (preservedOf input)).accepted = true

theorem replan_agrees (laws : RouteLaws R) (h : Planned A R input measuredTcp planned) :
    ReplanAgrees A R input := by
  obtain ⟨first, last, again, hfirst, hlast, hreplan, hsame, hleg⟩ := planned_again laws h
  rw [ReplanAgrees, h.answer]
  refine ⟨rfl, first.tcpM, last.tcpM, ?_, ?_, ?_, ?_, hleg⟩
  · show (planned.waypoints.map RouteWaypoint.tcpM).head? = _
    rw [List.head?_map, hfirst]
    rfl
  · show (planned.waypoints.map RouteWaypoint.tcpM).getLast? = _
    rw [List.getLast?_map, hlast]
    rfl
  · rw [hreplan.answer]
    rfl
  · rw [hreplan.answer]
    exact hsame

end Replan

/-- Tools where the first three joints are. -/
def reachPose (q : JointVector Extended) : FkResult Extended where
  baseInBody _ := .finite 0
  jointPre _ _ := .finite 0
  linkPost _ _ := .finite 0
  jointAxisBody _ := zeroPoint
  handTcp := fun index =>
    if index = 3 then q 0 else if index = 7 then q 1 else if index = 11 then q 2 else .finite 0

def reachModel : GuardModel Extended :=
  { heldModel with
    limits := fun _ _ => some (.finite (-4), .finite 4)
    forward := fun _ q => some (reachPose q) }

/-- The same arms for the library, which never meet. -/
def reachArms : ArmModel Extended where
  limits _ _ := some (.finite (-4), .finite 4)
  forward _ q := if finite3 ![q 0, q 1, q 2] then some ![q 0, q 1, q 2] else none
  inverse _ target seed := some
    { q := fun joint => if h : joint.val < 3 then target ⟨joint.val, h⟩ else seed joint
      positionErrorM := .finite 0
      collisionChecked := false }
  collision _ _ _ :=
    { ok := true
      report :=
        { clear := true, violation := 0, side := 0, segmentA := 0, segmentB := 0
          minimumClearanceM := .finite 1, terminalPairActive := false
          terminalPairClearanceM := .finite 0, tcpSeparationM := .finite 0
          clawContactActive := false, clawHandGapM := .finite 0
          minimumOtherClawGapM := .finite 0 } }

theorem reachArms_laws : RouteLaws reachArms where
  still a ha := by
    obtain ⟨q, rfl⟩ := Extended.finite_of_isFinite ha
    show ¬ (1.0e-8 : ℚ) < |q + -q|
    norm_num
  anchors := by decide +kernel
  tools side q point h := by
    change (if finite3 ![q 0, q 1, q 2] then some ![q 0, q 1, q 2] else none) = some point at h
    split at h
    · next hfinite =>
      obtain rfl := Option.some.inj h
      intro axis
      exact List.all_eq_true.mp hfinite axis (List.mem_finRange axis)
    · cases h

/-- Arms that come to the target only by way of the first anchor. -/
def detourArms : ArmModel Extended :=
  { reachArms with
    inverse := fun side target seed =>
      if target 1 < .finite 0 ∨ target 0 + .finite 3 < target 2 * .finite 15 then none
      else reachArms.inverse side target seed }

theorem detourArms_laws : RouteLaws detourArms :=
  ⟨reachArms_laws.1, reachArms_laws.2, reachArms_laws.3⟩

/-- The right tool is asked from one end of its reach to the other. -/
def detourRequest : MoveRequest Extended where
  side := 1
  target := ![.finite (39 / 10), .finite 0, .finite 0]
  motionLimitScale := .finite (1 / 2)
  dual := false
  dualTarget _ := zeroPoint

def detourQ : PairQ Extended := fun side joint =>
  if side = 1 ∧ joint = 0 then .finite (-3) else .finite 0

def detourTcp : RoutePose Extended := fun side =>
  if side = 1 then ![.finite (-3), .finite 0, .finite 0] else zeroPoint

def detourInput : GuardInput Extended where
  measuredQ := detourQ
  request := detourRequest
  contactPolicy := contactNone
  requireTerminalContact := false
  terminalRetreat := false
  preservedSide := -1

theorem detour_planned : ∃ planned, planned.waypoints.length = 2 ∧
    Planned reachModel detourArms detourInput detourTcp planned := by
  have hfound : (oaRoutePlanPaired detourArms (routeRequest (allowClearanceRecovery ||| preserveLeft)
      detourQ (pairTarget detourInput detourTcp))).1 = .ok ∧
    (oaRoutePlanPaired detourArms (routeRequest (allowClearanceRecovery ||| preserveLeft)
      detourQ (pairTarget detourInput detourTcp))).2.map
        (fun planned => planned.waypoints.length) = some 2 := by
    decide +kernel
  obtain ⟨planned, hplanned, hlength⟩ := Option.map_eq_some_iff.mp hfound.2
  have hmeasured : ∀ side, measuredPose reachModel detourInput side =
      .ok (reachPose (detourQ side)) := by
    intro side
    have hvalid : ∀ side, reachModel.validateQ side (detourInput.measuredQ side)
        kMeasuredLimitTolerance = true := by decide +kernel
    unfold measuredPose
    rw [if_pos (hvalid side)]
    rfl
  have htools : measuredTools reachModel detourInput = .ok detourTcp := by
    unfold measuredTools
    rw [hmeasured 0]
    dsimp only
    rw [hmeasured 1]
    refine congrArg Except.ok (funext fun side => ?_)
    revert side
    decide +kernel
  exact ⟨planned, hlength, by decide, htools, _, rfl, Prod.ext hfound.1 hplanned⟩

/-- A route of two legs is found again. -/
theorem replan_agrees_detour : ∃ planned, planned.waypoints.length = 2 ∧
    Planned reachModel detourArms detourInput detourTcp planned ∧
      ReplanAgrees reachModel detourArms detourInput := by
  obtain ⟨planned, hlength, hplanned⟩ := detour_planned
  exact ⟨planned, hlength, hplanned, replan_agrees detourArms_laws hplanned⟩

/-- **A proved leg**: an edge of a route from the joints it was proved for, or, of
    a retreat, a way that leaves the contact once and for all. -/
def LegProved (A : GuardModel F) (R : ArmModel F) (measuredQ : PairQ F) (endpoint : RoutePose F)
    (terminalRetreat : Bool) (preserved : Int) : Prop :=
  if terminalRetreat then
    ∃ poses answers, GuardProof A (retreatInput measuredQ endpoint)
      (validate A (retreatInput measuredQ endpoint)) poses answers
  else
    ∃ flags startTcp edge poses clearances inside, routeFlags preserved = some flags ∧
      EdgeProof R (routeRequest flags measuredQ endpoint) measuredQ
        (kept flags endpoint startTcp) edge startTcp poses clearances inside

/-- **A proved handoff**: fresh and healthy evidence, no older than what was
    guarded, with every joint where it was, up to one encoder code. -/
structure HandoffProof (A : GuardModel F) (guarded current : GuardHandoffEvidence F)
    (nowTimeNs nowSteadyNs stateMaximumAgeNs diagnosticMaximumAgeNs : Int) : Prop where
  haveState : current.haveState = true
  diagnosticValid : current.diagnosticValid = true
  stateFresh : freshAtUse current.stateFreshness nowTimeNs nowSteadyNs stateMaximumAgeNs = true
  diagnosticFresh :
    freshAtUse current.diagnosticFreshness nowTimeNs nowSteadyNs diagnosticMaximumAgeNs = true
  stateLater : guarded.stateSequence ≤ current.stateSequence ∧ monotonicGeneration
    guarded.stateSequence guarded.stateFreshness current.stateSequence current.stateFreshness = true
  diagnosticLater : guarded.diagnosticSequence ≤ current.diagnosticSequence ∧
    monotonicGeneration guarded.diagnosticSequence guarded.diagnosticFreshness
      current.diagnosticSequence current.diagnosticFreshness = true
  joints : ∀ side joint, ∃ lower upper, A.limits side joint = some (lower, upper) ∧
    Floating.isFinite (current.measuredQ side joint) = true ∧
    ¬ current.measuredQ side joint < lower - kMeasuredLimitTolerance ∧
    ¬ upper + kMeasuredLimitTolerance < current.measuredQ side joint ∧
    ¬ kGuardJointEquivalenceTolerance <
      Floating.abs (current.measuredQ side joint - guarded.measuredQ side joint)

theorem monotonicGeneration_le {guardedSequence currentSequence : Nat}
    {guarded current : FreshnessEvidence}
    (h : monotonicGeneration guardedSequence guarded currentSequence current = true) :
    guardedSequence ≤ currentSequence := by
  unfold monotonicGeneration at h
  split at h
  · cases h
  · next hboth => omega

theorem jointHandoff_none {A : GuardModel F} {guarded current : PairQ F} {side : Side}
    {joint : Joint} (h : jointHandoff A guarded current side joint = none) :
    ∃ lower upper, A.limits side joint = some (lower, upper) ∧
      Floating.isFinite (current side joint) = true ∧
      ¬ current side joint < lower - kMeasuredLimitTolerance ∧
      ¬ upper + kMeasuredLimitTolerance < current side joint ∧
      ¬ kGuardJointEquivalenceTolerance <
        Floating.abs (current side joint - guarded side joint) := by
  unfold jointHandoff at h
  split at h
  · cases h
  · next lower upper hlimits =>
    split at h
    · cases h
    · next hfinite =>
      split at h
      · cases h
      · next hinside =>
        split at h
        · cases h
        · next hnear =>
          rw [not_or] at hfinite hinside
          exact ⟨lower, upper, hlimits, Bool.eq_true_of_not_eq_false hfinite.2, hinside.1,
            hinside.2, hnear⟩

theorem handoff_proved {A : GuardModel F} {guarded current : GuardHandoffEvidence F}
    {nowTimeNs nowSteadyNs stateMaximumAgeNs diagnosticMaximumAgeNs : Int}
    (h : guardHandoffFailure A guarded current nowTimeNs nowSteadyNs stateMaximumAgeNs
      diagnosticMaximumAgeNs = none) :
    HandoffProof A guarded current nowTimeNs nowSteadyNs stateMaximumAgeNs
      diagnosticMaximumAgeNs := by
  unfold guardHandoffFailure at h
  split at h
  · cases h
  next hstate =>
  split at h
  · cases h
  next hhealthy =>
  split at h
  · cases h
  next hstateFresh =>
  split at h
  · cases h
  next hdiagnosticFresh =>
  split at h
  · cases h
  next hstateLater =>
  split at h
  · cases h
  next hdiagnosticLater =>
  have hstate' := Bool.eq_true_of_not_eq_false hstateLater
  have hdiagnostic' := Bool.eq_true_of_not_eq_false hdiagnosticLater
  refine ⟨Bool.eq_true_of_not_eq_false hstate, Bool.eq_true_of_not_eq_false hhealthy,
    Bool.eq_true_of_not_eq_false hstateFresh, Bool.eq_true_of_not_eq_false hdiagnosticFresh,
    ⟨monotonicGeneration_le hstate', hstate'⟩, ⟨monotonicGeneration_le hdiagnostic', hdiagnostic'⟩,
    fun side joint => ?_⟩
  have hside := List.findSome?_eq_none_iff.mp h side (List.mem_finRange side)
  exact jointHandoff_none (List.findSome?_eq_none_iff.mp hside joint (List.mem_finRange joint))

section Sound

variable [InfinityOrder F] {A : GuardModel F} {R : ArmModel F} {input : GuardInput F}

theorem leg_proved (hM : A.meshes.Finite) {measuredQ : PairQ F} {endpoint : RoutePose F}
    {terminalRetreat : Bool} {preserved : Int}
    (h : (revalidateDirectLeg A R measuredQ endpoint terminalRetreat preserved).accepted = true) :
    LegProved A R measuredQ endpoint terminalRetreat preserved := by
  unfold LegProved
  by_cases hretreat : terminalRetreat = true
  · rw [if_pos hretreat]
    unfold revalidateDirectLeg at h
    rw [if_pos hretreat] at h
    exact accepted_proved hM h
  · rw [if_neg hretreat]
    rw [Bool.eq_false_of_not_eq_true hretreat] at h
    exact revalidated_edge h

/-- **A replan keeps the destination** of every arm that may move. -/
theorem replanned_last (hM : A.meshes.Finite) (hdual : input.request.dual = true)
    (h : (routeOrProject A R input).accepted = true) :
    ∃ last, (routeOrProject A R input).waypointTcp.getLast? = some last ∧
      ∀ side : Side, (side.val : Int) ≠ input.preservedSide →
        last side = input.request.dualTarget side := by
  obtain ⟨last, hlast, hends⟩ := route_last h
  have hpreserved : preservedOf input = input.preservedSide := if_pos hdual
  refine ⟨last, hlast, fun side hside => ?_⟩
  rw [hends side (by rw [hpreserved]; exact hside)]
  obtain ⟨measuredTcp, planned, hplanned⟩ | ⟨haccepted, hfinal, -⟩ := routeOrProject_cases h
  · rw [hplanned.answer]
    show pairTarget input measuredTcp side = _
    unfold pairTarget
    rw [if_pos hdual]
  · have hsame : validateOrProject A input = validate A input := if_pos hdual
    rw [hfinal, hsame]
    rw [hsame] at haccepted
    obtain ⟨poses, answers, hproof⟩ := accepted_proved hM haccepted
    rw [hproof.commanded side]
    unfold commandedPoint
    rw [if_pos hdual]

end Sound

end OpenArm.Guard
