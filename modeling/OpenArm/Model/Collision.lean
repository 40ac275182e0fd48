/-
  OpenArm.Model.Collision — the two collision evaluators.

  The keepout model has seven capsules for each arm and a finite upright
  cylinder.  `oa_collision_evaluate_with_threshold` stops at the first pair
  that is too close.  `collision_evaluate_scoped_impl` goes through all of
  them; under the terminal contact policy it leaves out the pair of the two
  tool capsules where they face each other.

  The triangle meshes of the claws are those of an arbitrary `ClawMeshes`.
-/
import OpenArm.Control.Types
import OpenArm.Lib.RealFloat
import OpenArm.Lib.Tally

namespace OpenArm.Model

open OpenArm.Lib OpenArm.Control

/-- The number operations of the keepout geometry. -/
class Metric (F : Type) extends Floating F where
  hypot : F → F → F

noncomputable instance : Metric ℝ where
  hypot x y := Real.sqrt (x * x + y * y)

variable {F : Type} [Metric F]

/-! ## §1. Geometry. -/

/-- `kArmRadius`. -/
def kArmRadius : F := Floating.lit 0.050

/-- `kToolRadius`. -/
def kToolRadius : F := Floating.lit 0.075

/-- `kClawRailClearance`. -/
def kClawRailClearance : F := Floating.lit 0.025

/-- `maximum_rail_envelope_intrusion_m`. -/
def maximumRailEnvelopeIntrusionM : F := Floating.lit 0.002

/-- `kPoleRadius`. -/
def kPoleRadius : F := Floating.lit 0.04242640687119285

/-- `kPoleBottom`. -/
def kPoleBottom : F := Floating.lit 0.008

/-- `kPoleTop`. -/
def kPoleTop : F := Floating.lit 0.758

/-- `DBL_EPSILON`. -/
def dblEpsilon : F := Floating.lit (1 / 2 ^ 52)

/-- `clamp01`. -/
def clamp01 (value : F) : F :=
  if value < Floating.lit 0.0 then Floating.lit 0.0
  else if Floating.lit 1.0 < value then Floating.lit 1.0
  else value

/-- `fmax`: a NaN loses against a number. -/
def fmax (a b : F) : F :=
  if Floating.isNan a then b else if Floating.isNan b then a else Floating.max a b

/-- `dot3`. -/
def dot3 (a b : Vec3 F) : F := a 0 * b 0 + a 1 * b 1 + a 2 * b 2

/-- `subtract3`. -/
def subtract3 (a b : Vec3 F) : Vec3 F := fun axis => a axis - b axis

/-- `add_scaled3`. -/
def addScaled3 (a b : Vec3 F) (scale : F) : Vec3 F := fun axis => a axis + b axis * scale

/-- `norm3`. -/
def norm3 (a : Vec3 F) : F := Floating.sqrt (dot3 a a)

/-- `finite3`. -/
def finite3 (a : Vec3 F) : Bool := (List.finRange 3).all fun axis => Floating.isFinite (a axis)

/-- What `segment_clearance_detail` returns and writes; its callers start both
    parameters at zero. -/
structure SegmentDetail (F : Type) where
  value : F
  s : F
  t : F

/-- `segment_clearance_detail`. -/
def segmentClearanceDetail (a0 a1 b0 b1 : Vec3 F) (radiusA radiusB : F) : SegmentDetail F :=
  let zero : F := Floating.lit 0.0
  let tiny : F := Floating.lit 1.0e-18
  if !finite3 a0 || !finite3 a1 || !finite3 b0 || !finite3 b1 || !Floating.isFinite radiusA ||
      !Floating.isFinite radiusB || decide (radiusA < zero) || decide (radiusB < zero) then
    ⟨Floating.negInfinity, zero, zero⟩
  else
    let d1 := subtract3 a1 a0
    let d2 := subtract3 b1 b0
    let r := subtract3 a0 b0
    let a := dot3 d1 d1
    let e := dot3 d2 d2
    let f := dot3 d2 r
    if a ≤ tiny ∧ e ≤ tiny then ⟨norm3 r - (radiusA + radiusB), zero, zero⟩
    else
      let parameters : F × F :=
        if a ≤ tiny then (zero, clamp01 (f / e))
        else
          let c := dot3 d1 r
          if e ≤ tiny then (clamp01 (-c / a), zero)
          else
            let b := dot3 d1 d2
            let denominator := a * e - b * b
            let s := if tiny < denominator then clamp01 ((b * f - c * e) / denominator) else zero
            let t := (b * s + f) / e
            if t < zero then (clamp01 (-c / a), zero)
            else if Floating.lit 1.0 < t then (clamp01 ((b - c) / a), Floating.lit 1.0)
            else (s, t)
      let pointA := addScaled3 a0 d1 parameters.1
      let pointB := addScaled3 b0 d2 parameters.2
      ⟨norm3 (subtract3 pointA pointB) - (radiusA + radiusB), parameters.1, parameters.2⟩

/-- `point_cylinder_distance_squared`. -/
def pointCylinderDistanceSquared (point : Vec3 F) (radius bottom top : F) : F :=
  let planar := Metric.hypot (point 0) (point 1)
  let radialGap := if radius < planar then planar - radius else Floating.lit 0.0
  let axialGap :=
    if point 2 < bottom then bottom - point 2
    else if top < point 2 then point 2 - top
    else Floating.lit 0.0
  radialGap * radialGap + axialGap * axialGap

/-- The ternary search along a segment. -/
def narrow (distance : F → F) : Nat → F × F → F × F
  | 0, bounds => bounds
  | iterations + 1, (low, high) =>
    let first := (Floating.lit 2.0 * low + high) / Floating.lit 3.0
    let second := (low + Floating.lit 2.0 * high) / Floating.lit 3.0
    if distance first ≤ distance second then narrow distance iterations (low, second)
    else narrow distance iterations (first, high)

/-- `oa_collision_finite_cylinder_capsule_clearance`. -/
def finiteCylinderCapsuleClearance (a b : Vec3 F)
    (cylinderRadius cylinderBottom cylinderTop capsuleRadius : F) : F :=
  let zero : F := Floating.lit 0.0
  if !finite3 a || !finite3 b || !Floating.isFinite cylinderRadius ||
      !Floating.isFinite cylinderBottom || !Floating.isFinite cylinderTop ||
      !Floating.isFinite capsuleRadius || decide (cylinderRadius < zero) ||
      decide (cylinderTop < cylinderBottom) || decide (capsuleRadius < zero) then
    Floating.negInfinity
  else
    let direction := subtract3 b a
    let distance (parameter : F) : F :=
      pointCylinderDistanceSquared (addScaled3 a direction parameter) cylinderRadius
        cylinderBottom cylinderTop
    let bounds := narrow distance 96 (zero, Floating.lit 1.0)
    let minimum := Floating.min (distance zero) (distance (Floating.lit 1.0))
    let minimum := Floating.min minimum (distance ((bounds.1 + bounds.2) / Floating.lit 2.0))
    -- biased downward so that rounding cannot manufacture clearance
    let minimum := Floating.sqrt minimum - Floating.lit 1.0e-9
    (if minimum < zero then zero else minimum) - capsuleRadius

/-! ## §2. Scenes and reports. -/

/-- `oa_model_status`. -/
inductive ModelStatus where
  | ok | einval | enonfinite | ebounds | enoconvergence | estagnatedAtBounds | esingular | ebudget
  deriving DecidableEq, Repr

/-- `oa_collision_violation`. -/
inductive Violation where
  | none | armArm | pole | nonfinite
  deriving DecidableEq, Repr

/-- `OA_COLLISION_ABI_VERSION`. -/
def collisionAbiVersion : Nat := 1

/-- `sizeof(oa_collision_scene)`. -/
def sizeofCollisionScene : Nat := 392

/-- `oa_collision_scene`. -/
structure CollisionScene (F : Type) where
  abiVersion : Nat
  structSize : Nat
  point : Side → Fin 8 → Vec3 F

/-- `oa_collision_report`. -/
structure CollisionReport (F : Type) where
  clear : Bool
  violation : Violation
  side : Nat
  segmentA : Nat
  segmentB : Nat
  minimumClearanceM : F
  requiredClearanceM : F

/-- `oa_collision_contact_evidence`. -/
structure ContactEvidence (F : Type) where
  terminalPairActive : Bool
  terminalPairClearanceM : F
  terminalParameterLeft : F
  terminalParameterRight : F
  tcpSeparationM : F
  clawHandGapM : F
  minimumOtherClawGapM : F
  clawContactActive : Bool

/-- What both evaluators write before they check anything. -/
def CollisionReport.blank (required : F) : CollisionReport F where
  clear := false
  violation := .none
  side := 0
  segmentA := 0
  segmentB := 0
  minimumClearanceM := Floating.negInfinity
  requiredClearanceM := required

/-- What the scoped evaluator writes before it checks anything. -/
def ContactEvidence.blank : ContactEvidence F where
  terminalPairActive := false
  terminalPairClearanceM := Floating.infinity
  terminalParameterLeft := Floating.lit 0.0
  terminalParameterRight := Floating.lit 0.0
  tcpSeparationM := Floating.infinity
  clawHandGapM := Floating.infinity
  minimumOtherClawGapM := Floating.infinity
  clawContactActive := false

/-- `OA_COLLISION_CONTACT_NONE`. -/
def contactNone : BitVec 32 := 0

/-- `OA_COLLISION_CONTACT_TERMINAL_CAPS`. -/
def contactTerminalCaps : BitVec 32 := 1

/-- `oa_transform`. -/
abbrev Transform (F : Type) := Fin 16 → F

/-- `oa_collision_claw_mesh_evidence`: the hand gap and the smallest other gap of
    two hand poses. -/
structure ClawMeshes (F : Type) where
  evidence : Transform F → Transform F → ModelStatus × F × F

/-! ## §3. Pairs. -/

/-- The pairs that are checked. -/
inductive Pair where
  | arms (left right : Fin 7)
  | pole (side : Side) (segment : Fin 7)
  deriving DecidableEq, Repr

namespace Pair

def violation : Pair → Violation
  | arms _ _ => .armArm
  | pole _ _ => .pole

def side : Pair → Nat
  | arms _ _ => 0
  | pole side _ => side.val

def segmentA : Pair → Nat
  | arms left _ => left.val
  | pole _ segment => segment.val

def segmentB : Pair → Nat
  | arms _ right => right.val
  | pole _ _ => 0

/-- The pairs in the order in which both evaluators go through them. -/
def all : List Pair :=
  ((List.finRange 7).flatMap fun left => (List.finRange 7).map fun right => arms left right) ++
    (List.finRange 2).flatMap fun side => (List.finRange 7).map fun segment => pole side segment

end Pair

/-- The radius of a capsule against the other arm. -/
def armRadius (segment : Fin 7) : F := if segment = 6 then kToolRadius else kArmRadius

/-- The radius of a capsule against the pole: link 1 lies outward of its
    centreline. -/
def poleRadius (segment : Fin 7) : F :=
  if segment = 0 then Floating.lit 0.0 else if segment = 6 then kToolRadius else kArmRadius

namespace CollisionScene

variable (scene : CollisionScene F)

/-- The two ends of a capsule. -/
def lower (side : Side) (segment : Fin 7) : Vec3 F := scene.point side segment.castSucc

def upper (side : Side) (segment : Fin 7) : Vec3 F := scene.point side segment.succ

/-- A left capsule against a right one. -/
def armDetail (left right : Fin 7) : SegmentDetail F :=
  segmentClearanceDetail (scene.lower 0 left) (scene.upper 0 left) (scene.lower 1 right)
    (scene.upper 1 right) (armRadius left) (armRadius right)

/-- The clearance of a pair. -/
def clearance : Pair → F
  | .arms left right => (scene.armDetail left right).value
  | .pole side segment =>
    finiteCylinderCapsuleClearance (scene.lower side segment) (scene.upper side segment)
      kPoleRadius kPoleBottom kPoleTop (poleRadius segment)

/-- The clearances of all pairs. -/
def entries : List (Pair × F) := Pair.all.map fun pair => (pair, scene.clearance pair)

/-- The first point that is not finite. -/
def firstNonfinite : Option (Side × Fin 8) :=
  ((List.finRange 2).flatMap fun side => (List.finRange 8).map fun index => (side, index)).find?
    fun at_ => !finite3 (scene.point at_.1 at_.2)

end CollisionScene

/-- The report that names a pair. -/
def CollisionReport.naming (report : CollisionReport F) (pair : Pair) (minimum : F) :
    CollisionReport F :=
  { report with
    violation := pair.violation
    side := pair.side
    segmentA := pair.segmentA
    segmentB := pair.segmentB
    minimumClearanceM := minimum }

/-- The checks of both evaluators: a scene they can evaluate, or their answer. -/
def checkScene (scene : Option (CollisionScene F)) (required : F) :
    Except (ModelStatus × CollisionReport F) (CollisionScene F) :=
  let blank := CollisionReport.blank required
  match scene with
  | none => .error (.einval, blank)
  | some scene =>
    if scene.abiVersion ≠ collisionAbiVersion ∨ scene.structSize < sizeofCollisionScene then
      .error (.einval, blank)
    else match scene.firstNonfinite with
      | some (side, index) =>
        .error (.enonfinite,
          { blank with violation := .nonfinite, side := side.val, segmentA := index.val })
      | none => .ok scene

/-- The threshold is no clearance. -/
def badThreshold (required : F) : Bool :=
  !Floating.isFinite required || decide (required < Floating.lit 0.0)

/-! ## §4. The evaluator that stops at the first violation. -/

/-- `oa_collision_evaluate_with_threshold`. -/
def evaluateWithThreshold (scene : Option (CollisionScene F)) (required : F) :
    ModelStatus × CollisionReport F :=
  let blank := CollisionReport.blank required
  if badThreshold required then (.einval, blank)
  else match checkScene scene required with
    | .error answer => answer
    | .ok scene =>
      match scan required scene.entries Floating.infinity with
      | (minimum, some pair) => (.ok, blank.naming pair minimum)
      | (minimum, none) => (.ok, { blank with clear := true, minimumClearanceM := minimum })

/-! ## §5. The evaluator under a contact policy. -/

/-- `terminal_caps_facing`: the separation of the tools where it holds. -/
def terminalCapsFacing (scene : CollisionScene F) (s t : F) (requireOpposedAxes : Bool) :
    Option F :=
  let parameterFloor : F := Floating.lit 1.0 - Floating.lit 64.0 * dblEpsilon
  if s < parameterFloor ∨ t < parameterFloor then none
  else
    let leftAxis := subtract3 (scene.point 0 7) (scene.point 0 6)
    let rightAxis := subtract3 (scene.point 1 7) (scene.point 1 6)
    let between := subtract3 (scene.point 1 7) (scene.point 0 7)
    let leftLength := norm3 leftAxis
    let rightLength := norm3 rightAxis
    let separation := norm3 between
    if !Floating.isFinite leftLength || !Floating.isFinite rightLength ||
        !Floating.isFinite separation || decide (leftLength ≤ Floating.lit 1.0e-12) ||
        decide (rightLength ≤ Floating.lit 1.0e-12) then none
    else
      let leftAxis : Vec3 F := fun axis => leftAxis axis / leftLength
      let rightAxis : Vec3 F := fun axis => rightAxis axis / rightLength
      let reverseBetween : Vec3 F := fun axis => -between axis
      let epsilon := Floating.lit 64.0 * dblEpsilon * fmax (Floating.lit 1.0) separation
      if (requireOpposedAxes = true ∧ Floating.lit 0.0 < dot3 leftAxis rightAxis) ∨
          dot3 between leftAxis < -epsilon ∨ dot3 reverseBetween rightAxis < -epsilon then none
      else some separation

/-- The gaps of the claw meshes, where they were evaluated. -/
structure ClawGaps (F : Type) where
  hand : F
  other : F

/-- `allowed_terminal`: the pair of the two tools, with its detail and the
    separation of the tools, where it is left out. -/
def allowedTerminal (scene : CollisionScene F) (required : F) (policy : BitVec 32)
    (gaps : Option (ClawGaps F)) : Pair → Option (SegmentDetail F × F)
  | .pole _ _ => none
  | .arms left right =>
    let detail := scene.armDetail left right
    if policy = contactTerminalCaps ∧ left = 6 ∧ right = 6 ∧ detail.value < required then
      match terminalCapsFacing scene detail.s detail.t gaps.isNone with
      | none => none
      | some separation =>
        match gaps with
        | none => some (detail, separation)
        | some gaps =>
          if kClawRailClearance - maximumRailEnvelopeIntrusionM ≤ gaps.hand ∧
              required ≤ gaps.other then some (detail, separation)
          else none
    else none

/-- Where the loops of the scoped evaluator stand. -/
structure Scoped (F : Type) where
  tally : Tally Pair F
  evidence : ContactEvidence F

/-- One pair of its loops. -/
def countPair (scene : CollisionScene F) (required : F) (policy : BitVec 32)
    (gaps : Option (ClawGaps F)) (state : Scoped F) (pair : Pair) : Scoped F :=
  match allowedTerminal scene required policy gaps pair with
  | some (detail, separation) =>
    { state with
      evidence := { state.evidence with
        terminalPairActive := true
        terminalPairClearanceM := detail.value
        terminalParameterLeft := detail.s
        terminalParameterRight := detail.t
        tcpSeparationM := separation } }
  | none => { state with tally := state.tally.count required pair (scene.clearance pair) }

/-- What the claw meshes leave before the loops. -/
def beginScoped (required : F) (gaps : Option (ClawGaps F)) : Scoped F :=
  match gaps with
  | none => { tally := ⟨Floating.infinity, Floating.infinity, none⟩, evidence := .blank }
  | some gaps =>
    { tally :=
        if gaps.other < required then ⟨gaps.other, gaps.other, some (.arms 6 6)⟩
        else ⟨gaps.other, Floating.infinity, none⟩
      evidence := { ContactEvidence.blank with
        clawHandGapM := gaps.hand
        minimumOtherClawGapM := gaps.other
        clawContactActive := decide (gaps.hand ≤ kClawRailClearance) } }

/-- The answer of the scoped evaluator. -/
structure ScopedAnswer (F : Type) where
  status : ModelStatus
  report : CollisionReport F
  evidence : ContactEvidence F

/-- The loops and what is reported of them. -/
def evaluateScene (scene : CollisionScene F) (required : F) (policy : BitVec 32)
    (gaps : Option (ClawGaps F)) : ScopedAnswer F :=
  let final := Pair.all.foldl (countPair scene required policy gaps) (beginScoped required gaps)
  let blank := CollisionReport.blank required
  { status := .ok
    report := match final.tally.key with
      | some pair => blank.naming pair final.tally.minimum
      | none => { blank with clear := true, minimumClearanceM := final.tally.minimum }
    evidence := final.evidence }

/-- `collision_evaluate_scoped_impl`. -/
def collisionEvaluateScopedImpl (M : ClawMeshes F) (scene : Option (CollisionScene F))
    (required : F) (policy : BitVec 32) (leftHandTcp rightHandTcp : Option (Transform F)) :
    ScopedAnswer F :=
  let blank := CollisionReport.blank required
  if badThreshold required || (policy != contactNone && policy != contactTerminalCaps) then
    ⟨.einval, blank, .blank⟩
  else match checkScene scene required with
    | .error answer => ⟨answer.1, answer.2, .blank⟩
    | .ok scene =>
      match leftHandTcp, rightHandTcp with
      | none, none => evaluateScene scene required policy none
      | some left, some right =>
        if policy = contactTerminalCaps then
          match M.evidence left right with
          | (.ok, hand, other) => evaluateScene scene required policy (some ⟨hand, other⟩)
          | (status, _, _) => ⟨status, { blank with violation := .nonfinite }, .blank⟩
        else evaluateScene scene required policy none
      | _, _ => ⟨.einval, blank, .blank⟩

/-- `oa_collision_evaluate_scoped_with_threshold`. -/
def evaluateScopedWithThreshold (M : ClawMeshes F) (scene : Option (CollisionScene F))
    (required : F) (policy : BitVec 32) : ScopedAnswer F :=
  collisionEvaluateScopedImpl M scene required policy none none

end OpenArm.Model
