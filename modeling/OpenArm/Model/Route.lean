/-
  OpenArm.Model.Route — the paired Cartesian route planner.

  `oa_route_plan_paired`: a breadth-first search over the requested target
  and 21 fixed connectivity anchors.  An edge is tried by solving the
  inverse kinematics of its 16 interpolated samples, each from the one
  before, and evaluating every sample against the collision gate; what is
  kept of an accepted edge is the configuration of its LAST sample.

  Forward and inverse kinematics and the collision evaluation are those of
  an arbitrary `ArmModel`.
-/
import OpenArm.Control.Types

namespace OpenArm.Model

open OpenArm.Lib OpenArm.Control

/-! ## §1. The model library. -/

/-- The joint vectors of both arms, robot-left first. -/
abbrev PairQ (F : Type) := Side → JointVector F

/-- The members of `oa_ik_diagnostics` that callers read. -/
structure IkDiagnostics (F : Type) where
  q : JointVector F
  positionErrorM : F
  collisionChecked : Bool

/-- The model library.  Every function is deterministic and keeps no state;
    nothing else is assumed of it. -/
structure ArmModel (F : Type) where
  /-- `oa_model_limits`. -/
  limits : Side → Joint → Option (F × F)
  /-- The hand TCP of `oa_fk`. -/
  forward : Side → JointVector F → Option (Vec3 F)
  /-- `oa_ik_position_v2` with the option record every caller here builds:
  target and seed; `none` when it does not return `OA_MODEL_OK`. -/
  inverse : Side → Vec3 F → JointVector F → Option (IkDiagnostics F)
  /-- `oa_collision_evaluate_scoped_fk_with_threshold` on the forward
  kinematics of both arms: pose, required clearance, contact policy. -/
  collision : PairQ F → F → ContactPolicy → CollisionAnswer F

variable {F : Type} [Floating F]

/-- `oa_collision_required_clearance_m`. -/
def requiredClearanceM : F := Floating.lit 0.025

/-- `OA_ROUTE_ENCODER_LIMIT_TOLERANCE`. -/
def routeEncoderLimitTolerance : F := Floating.lit 3.9e-4

/-- `OA_ROUTE_CLEARANCE_EPSILON`. -/
def routeClearanceEpsilon : F := Floating.lit 1.0e-6

/-- `OA_ROUTE_TCP_EQUIVALENCE_TOLERANCE_M`. -/
def routeTcpEquivalenceToleranceM : F := Floating.lit 1.0e-8

/-- `DBL_MAX`. -/
def dblMax : F := Floating.lit ((2 ^ 53 - 1) * 2 ^ 971)

/-! ## §2. Requests and results. -/

/-- `oa_route_status`. -/
inductive RouteStatus where
  | ok | einval | enonfinite | enopath | ecapacity
  deriving DecidableEq, Repr

/-- The number of a status, as messages print it. -/
def RouteStatus.code : RouteStatus → Nat
  | .ok => 0
  | .einval => 1
  | .enonfinite => 2
  | .enopath => 3
  | .ecapacity => 4

/-- `OA_ROUTE_ALLOW_CLEARANCE_RECOVERY`. -/
def allowClearanceRecovery : BitVec 32 := 1

/-- `OA_ROUTE_PRESERVE_LEFT`. -/
def preserveLeft : BitVec 32 := 2

/-- `OA_ROUTE_PRESERVE_RIGHT`. -/
def preserveRight : BitVec 32 := 4

/-- `oa_route_request`, past the version, size and reserved words. -/
structure RouteRequest (F : Type) where
  flags : BitVec 32
  startQRad : PairQ F
  targetTcpM : Side → Vec3 F
  maximumBranchStepRad : F

/-- The pose of both tools. -/
abbrev RoutePose (F : Type) := Side → Vec3 F

/-- One waypoint of `oa_route_result`. -/
structure RouteWaypoint (F : Type) where
  tcpM : RoutePose F
  qRad : PairQ F

/-- `oa_route_result` of a request that returned `OA_ROUTE_OK`. -/
structure RouteResult (F : Type) where
  usedClearanceRecovery : Bool
  minimumClearanceM : F
  waypoints : List (RouteWaypoint F)

/-- One anchor: the left tool and the right tool. -/
private def anchor (lx ly lz rx ry rz : ℚ) : RoutePose F :=
  ![![Floating.lit lx, Floating.lit ly, Floating.lit lz],
    ![Floating.lit rx, Floating.lit ry, Floating.lit rz]]

/-- An anchor that the two tools share up to the sign of y. -/
private def mirrored (x y z : ℚ) : RoutePose F := anchor x y z x (-y) z

/-- `route_anchors`. -/
def routeAnchors : List (RoutePose F) :=
  [ anchor 0.30 (-0.04) 0.62 0.30 0.04 0.22
  , anchor 0.30 0.26 0.62 0.30 (-0.26) 0.22
  , anchor 0.30 0.26 0.55 0.30 (-0.26) 0.30
  , mirrored 0.30 0.26 0.45
  , mirrored 0.34 0.22 0.86
  , mirrored 0.34 0.26 0.90
  , mirrored 0.33 0.28 0.86
  , mirrored 0.32 0.25 0.82
  , mirrored 0.31 0.18 0.78
  , mirrored 0.30 0.22 0.74
  , mirrored 0.30 0.22 0.40
  , mirrored 0.30 0.22 0.30
  , mirrored 0.15 0.22 0.15
  , mirrored 0.34 0.24 0.30
  , mirrored 0.34 0.15 0.30
  , mirrored 0.34 0.15 0.48
  , mirrored 0.26 0.15 0.50
  , mirrored 0.26 0.15 0.32
  , mirrored 0.26 0.24 0.32
  , mirrored 0.30 0.30 0.55
  , mirrored 0.22 0.30 0.35 ]

/-! ## §3. One edge. -/

/-- `q_in_bounds`. -/
def qInBounds (L : ArmModel F) (side : Side) (q : JointVector F) (tolerance : F) : Bool :=
  (List.finRange 7).all fun joint =>
    Floating.isFinite (q joint) &&
      match L.limits side joint with
      | none => false
      | some (lower, upper) =>
        !(decide (q joint < lower - tolerance) || decide (upper + tolerance < q joint))

/-- `solve`: the inverse kinematics, accepted when it is exact, within the
    joint limits and no joint left its seed by more than the branch step. -/
def routeSolve (L : ArmModel F) (side : Side) (target : Vec3 F) (seed : JointVector F)
    (maximumBranchStepRad : F) : Option (JointVector F) :=
  match L.inverse side target seed with
  | none => none
  | some diagnostics =>
    if diagnostics.collisionChecked || !Floating.isFinite diagnostics.positionErrorM ||
        decide (Floating.lit 1.0e-5 < diagnostics.positionErrorM) ||
        !qInBounds L side diagnostics.q (Floating.lit 0) then none
    else if (List.finRange 7).any fun joint =>
        decide (maximumBranchStepRad < Floating.abs (diagnostics.q joint - seed joint)) then none
    else some diagnostics.q

/-- `evaluate_q`: the minimum clearance of a pose that is clear at the
    threshold. -/
def evaluateQ (L : ArmModel F) (q : PairQ F) (threshold : F) : Option F :=
  match L.forward 0 (q 0), L.forward 1 (q 1) with
  | some _, some _ =>
    let answer := L.collision q threshold .none
    if answer.ok && answer.report.clear then some answer.report.minimumClearanceM else none
  | _, _ => none

/-- `tcp_from_q`. -/
def tcpFromQ (L : ArmModel F) (q : PairQ F) : Option (RoutePose F) :=
  match L.forward 0 (q 0), L.forward 1 (q 1) with
  | some left, some right => some ![left, right]
  | _, _ => none

/-- The side whose joints the request keeps. -/
def preservedSide (flags : BitVec 32) : Option Side :=
  if flags &&& preserveLeft != 0 then some 0
  else if flags &&& preserveRight != 0 then some 1 else none

/-- Some axis of the two points differs by more than the planner's
    Cartesian tolerance. -/
def tcpDiffers (a b : Vec3 F) : Bool :=
  (List.finRange 3).any fun axis =>
    decide (routeTcpEquivalenceToleranceM < Floating.abs (a axis - b axis))

/-- Where the sampling of an edge stands. -/
structure EdgeState (F : Type) where
  q : PairQ F
  recovering : Bool
  previousClearance : F
  minimumClearance : F

/-- What a validated edge hands over. -/
structure Edge (F : Type) where
  q : PairQ F
  minimumClearanceM : F
  usedRecovery : Bool

/-- The point of one sample: `start + fraction * (target - start)`. -/
def interpolate (start target : Vec3 F) (fraction : F) : Vec3 F :=
  fun axis => start axis + fraction * (target axis - start axis)

/-- The joints of one sample, each arm solved from the sample before. -/
def solveSample (L : ArmModel F) (request : RouteRequest F) (startQ : PairQ F)
    (startTcp target : RoutePose F) (fraction : F) (q : PairQ F) : Option (PairQ F) :=
  let solveSide (side : Side) : Option (JointVector F) :=
    if preservedSide request.flags = some side then some (startQ side)
    else routeSolve L side (interpolate (startTcp side) (target side) fraction) (q side)
      request.maximumBranchStepRad
  match solveSide 0, solveSide 1 with
  | some left, some right => some ![left, right]
  | _, _ => none

/-- The collision gate of one sample. -/
def gateSample (L : ArmModel F) (q : PairQ F) (e : EdgeState F) : Option (EdgeState F) :=
  let accept (clearance : F) (recovering : Bool) : EdgeState F :=
    { q, recovering
      previousClearance := clearance
      minimumClearance :=
        if clearance < e.minimumClearance then clearance else e.minimumClearance }
  match evaluateQ L q requiredClearanceM with
  | some clearance => some (accept clearance false)
  | none =>
    if e.recovering then
      match evaluateQ L q interventionClearanceM with
      | none => none
      | some clearance =>
        if clearance < e.previousClearance - routeClearanceEpsilon then none
        else some (accept clearance true)
    else none

/-- The samples `1 .. 16` of an edge, in order. -/
def sampleEdge (L : ArmModel F) (request : RouteRequest F) (startQ : PairQ F)
    (startTcp target : RoutePose F) : List Nat → EdgeState F → Option (EdgeState F)
  | [], e => some e
  | sample :: samples, e =>
    let fraction : F := Floating.ofNat sample / Floating.ofNat 16
    match solveSample L request startQ startTcp target fraction e.q with
    | none => none
    | some q =>
      match gateSample L q e with
      | none => none
      | some e' => sampleEdge L request startQ startTcp target samples e'

/-- How an edge begins: clear at the planning gate, or, where the request
    allows it, recovering from inside it. -/
def beginEdge (L : ArmModel F) (request : RouteRequest F) (startQ : PairQ F) :
    Option (EdgeState F) :=
  match evaluateQ L startQ requiredClearanceM with
  | some clearance =>
    some { q := startQ, recovering := false, previousClearance := clearance
           minimumClearance := clearance }
  | none =>
    if request.flags &&& allowClearanceRecovery == 0 then none
    else match evaluateQ L startQ interventionClearanceM with
      | none => none
      | some clearance =>
        some { q := startQ, recovering := true, previousClearance := clearance
               minimumClearance := clearance }

/-- `validate_edge`. -/
def validateEdge (L : ArmModel F) (request : RouteRequest F) (startQ : PairQ F)
    (target : RoutePose F) : Option (Edge F) :=
  match tcpFromQ L startQ with
  | none => none
  | some startTcp =>
    let moved := match preservedSide request.flags with
      | none => false
      | some side => tcpDiffers (target side) (startTcp side)
    if moved then none
    else match beginEdge L request startQ with
      | none => none
      | some first =>
        match sampleEdge L request startQ startTcp target ((List.range 16).map (· + 1)) first with
        | none => none
        | some last =>
          -- Recovery is an escape, not permission to end inside the gate.
          if last.recovering then none
          else some { q := last.q, minimumClearanceM := last.minimumClearance
                      usedRecovery := first.recovering }

/-! ## §4. The search. -/

/-- `route_node`: how a candidate was first reached; `predecessor` is
    `none` for the measured start. -/
structure RouteNode (F : Type) where
  predecessor : Option Nat
  usedRecovery : Bool
  edgeMinimumClearanceM : F
  q : PairQ F

/-- The search: discovered nodes by candidate number, and the queue. -/
structure RouteSearch (F : Type) where
  nodes : List (Nat × RouteNode F)
  queue : List (Option Nat)

def RouteSearch.node (s : RouteSearch F) (index : Nat) : Option (RouteNode F) :=
  s.nodes.lookup index

/-- The candidates not yet discovered, tried in order from `current`; the
    flag says whether the target was reached, which ends the search. -/
def expand (L : ArmModel F) (request : RouteRequest F) (current : Option Nat)
    (currentQ : PairQ F) (currentRecovery : Bool) :
    List (Nat × RoutePose F) → RouteSearch F → RouteSearch F × Bool
  | [], s => (s, false)
  | (index, pose) :: candidates, s =>
    if (s.node index).isSome then
      expand L request current currentQ currentRecovery candidates s
    else match validateEdge L request currentQ pose with
      | none => expand L request current currentQ currentRecovery candidates s
      | some edge =>
        let node : RouteNode F :=
          { predecessor := current, usedRecovery := edge.usedRecovery || currentRecovery
            edgeMinimumClearanceM := edge.minimumClearanceM, q := edge.q }
        let s' : RouteSearch F := { s with nodes := (index, node) :: s.nodes }
        if index = 0 then (s', true)
        else expand L request current currentQ currentRecovery candidates
          { s' with queue := s'.queue ++ [some index] }

/-- The breadth-first loop.  A candidate enters the queue at most once, so
    the start and 22 candidates bound the number of rounds. -/
def search (L : ArmModel F) (request : RouteRequest F) (candidates : List (RoutePose F)) :
    Nat → RouteSearch F → Option (RouteSearch F)
  | 0, _ => none
  | rounds + 1, s =>
    match s.queue with
    | [] => none
    | current :: queue =>
      let from? : Option (PairQ F × Bool) := match current with
        | none => some (request.startQRad, false)
        | some index => (s.node index).map fun node => (node.q, node.usedRecovery)
      match from? with
      | none => none
      | some (currentQ, recovery) =>
        match expand L request current currentQ recovery
            ((List.range candidates.length).zip candidates) { s with queue } with
        | (s', true) => some s'
        | (s', false) => search L request candidates rounds s'

/-- The nodes from the start to `cursor`, in order of execution. -/
def routePath (s : RouteSearch F) : Nat → Option Nat → List (Nat × RouteNode F)
  | 0, _ => []
  | _ + 1, none => []
  | steps + 1, some index =>
    match s.node index with
    | none => []
    | some node => routePath s steps node.predecessor ++ [(index, node)]

/-- The candidates of a request: its target first, then the anchors, with a
    preserved tool kept where it is. -/
def routeCandidates (request : RouteRequest F) (startTcp : RoutePose F) :
    List (RoutePose F) :=
  (request.targetTcpM :: routeAnchors).map fun pose =>
    match preservedSide request.flags with
    | none => pose
    | some side => Function.update pose side (startTcp side)

/-- The argument checks on the flags and the branch step. -/
def routeArgumentsOk (request : RouteRequest F) : Bool :=
  request.flags &&& ~~~(allowClearanceRecovery ||| preserveLeft ||| preserveRight) == 0 &&
    request.flags &&& (preserveLeft ||| preserveRight) != (preserveLeft ||| preserveRight) &&
    Floating.isFinite request.maximumBranchStepRad &&
    decide (Floating.lit 0 < request.maximumBranchStepRad)

/-- `finite_array` of the start joints and the target. -/
def routeFinite (request : RouteRequest F) : Bool :=
  (List.finRange 2).all fun side =>
    ((List.finRange 7).all fun joint => Floating.isFinite (request.startQRad side joint)) &&
      (List.finRange 3).all fun axis => Floating.isFinite (request.targetTcpM side axis)

/-- `oa_route_plan_paired`. -/
def oaRoutePlanPaired (L : ArmModel F) (request : RouteRequest F) :
    RouteStatus × Option (RouteResult F) :=
  if !routeArgumentsOk request then (.einval, none)
  else if !routeFinite request then (.enonfinite, none)
  else if !(List.finRange 2).all fun side =>
      qInBounds L side (request.startQRad side) routeEncoderLimitTolerance then (.einval, none)
  else match tcpFromQ L request.startQRad with
    | none => (.einval, none)
    | some startTcp =>
      let moved := match preservedSide request.flags with
        | none => false
        | some side => tcpDiffers (request.targetTcpM side) (startTcp side)
      if moved then (.einval, none)
      else
        let candidates := routeCandidates request startTcp
        match search L request candidates (candidates.length + 1)
            { nodes := [], queue := [none] } with
        | none => (.enopath, none)
        | some found =>
          let path := routePath found 25 (some 0)
          -- `OA_ROUTE_MAX_WAYPOINTS`
          if 24 < path.length then (.ecapacity, none)
          else (.ok, some
            { usedClearanceRecovery := (found.node 0).any fun node => node.usedRecovery
              minimumClearanceM := path.foldl (fun least entry =>
                if entry.2.edgeMinimumClearanceM < least then entry.2.edgeMinimumClearanceM
                else least) dblMax
              waypoints := path.map fun entry =>
                { tcpM := candidates.getD entry.1 request.targetTcpM, qRad := entry.2.q } })

end OpenArm.Model
