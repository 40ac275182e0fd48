/-
  OpenArm.Guard.Projection — `NominalPathGuard::validate_or_project`.

  A single request that is refused is shortened: the guard is asked about
  points of the straight ray to the target, 64 of them first and then three
  finer rounds beyond the farthest one it accepts.  A keepout it reports on
  the way bounds everything that is accepted, also what was accepted before.

  Main results:
    * `searched`          — what the search knows, after any number of points.
    * `projection_sound`  — an accepted projection is the farthest accepted
                            point before every keepout that was seen.
    * `projects`          — when a refused request is projected.
-/
import OpenArm.Guard.Sound

namespace OpenArm.Guard

open OpenArm.Lib OpenArm.Control OpenArm.Model

variable {F : Type} [Metric F]

/-! ## §1. The ray. -/

def kProjectionSearchSteps : Nat := 64

def kProjectionRefinementRounds : Nat := 3

def kProjectionRefinementSamples : Nat := 16

def kMinimumProjectedMotionM : F := Floating.lit 0.001

def kProjectionMaximumRayM : F := Floating.lit 2.0

/-- The straight ray to a target. -/
structure Ray (F : Type) where
  start : Vec3 F
  /-- `ray_unit`. -/
  unit : Vec3 F
  deltaScale : F
  scaledNorm : F
  totalDistance : F
  searchDistance : F

def rayNormalReason : String :=
  "finite target ray could not be normalized for best-effort motion"

def rayDirectionReason : String := "finite target ray had no usable direction"

/-- The ray from a measured tool to the target, without overflow of its length. -/
def rayTo (start target : Vec3 F) : Except String (Ray F) :=
  let delta : Vec3 F := fun axis => target axis - start axis
  let deltaScale := (List.finRange 3).foldl
    (fun scale axis => Floating.max scale (Floating.abs (delta axis))) (Floating.lit 0.0)
  if ¬ Floating.lit 0.0 < deltaScale ∨ Floating.isFinite deltaScale = false then
    .error rayNormalReason
  else
    let scaled : Vec3 F := fun axis => delta axis / deltaScale
    let scaledNorm := Floating.sqrt ((List.finRange 3).foldl
      (fun sum axis => sum + scaled axis * scaled axis) (Floating.lit 0.0))
    if ¬ Floating.lit 0.0 < scaledNorm ∨ Floating.isFinite scaledNorm = false then
      .error rayDirectionReason
    else
      let totalDistance :=
        if dblMax / scaledNorm < deltaScale then Floating.infinity else deltaScale * scaledNorm
      .ok {
        start
        unit := fun axis => scaled axis / scaledNorm
        deltaScale
        scaledNorm
        totalDistance
        searchDistance :=
          if Floating.isFinite totalDistance then
            Floating.min totalDistance kProjectionMaximumRayM
          else kProjectionMaximumRayM }

/-- `candidate_at`. -/
def candidateAt (ray : Ray F) (distance : F) : Vec3 F :=
  fun axis => ray.start axis + ray.unit axis * distance

/-- The input with another target. -/
def GuardInput.aimed (input : GuardInput F) (target : Vec3 F) : GuardInput F :=
  { input with request := { input.request with target } }

/-! ## §2. The search. -/

/-- What the search knows.  `evaluated` records the points it asked about and
    the answers, in turn; the code keeps the accepted ones of them. -/
structure Search (F : Type) where
  evaluated : List (F × GuardResult F)
  acceptedCandidates : List (F × GuardResult F)
  observedKeepout : Bool
  keepoutBarrier : F
  limitingReason : String
  acceptedDistance : F
  best : GuardResult F

section Source

variable (A : GuardModel F) (input : GuardInput F) (ray : Ray F)

/-- `evaluate`. -/
def evaluate (distance : F) : GuardResult F := validate A (input.aimed (candidateAt ray distance))

/-- A refusal tells where it failed. -/
def Locates (distance : F) (candidate : GuardResult F) : Prop :=
  candidate.sampledKeepoutViolation = true ∧
    Floating.isFinite candidate.failurePathFraction = true ∧
    ¬ candidate.failurePathFraction < Floating.lit 0.0 ∧
    ¬ Floating.lit 1.0 < candidate.failurePathFraction ∧
    Floating.isFinite (distance * candidate.failurePathFraction) = true

instance (distance : F) (candidate : GuardResult F) : Decidable (Locates distance candidate) :=
  inferInstanceAs (Decidable (_ ∧ _))

/-- `observe_keepout` of a refusal that tells where it failed. -/
def observeKeepout (distance : F) (candidate : GuardResult F) (s : Search F) : Search F :=
  let collisionDistance := distance * candidate.failurePathFraction
  if s.observedKeepout = false ∨ collisionDistance < s.keepoutBarrier then
    { s with
      keepoutBarrier := collisionDistance
      limitingReason := candidate.reason
      observedKeepout := true }
  else { s with observedKeepout := true }

/-- `select_farthest_allowed`. -/
def selectFarthestAllowed (s : Search F) : Search F :=
  s.acceptedCandidates.foldl
    (fun s candidate =>
      if (s.observedKeepout = false ∨ candidate.1 < s.keepoutBarrier) ∧
          s.acceptedDistance < candidate.1 then
        { s with acceptedDistance := candidate.1, best := candidate.2 }
      else s)
    { s with
      acceptedDistance := Floating.lit 0.0
      best := (s.acceptedCandidates.head?.map Prod.snd).getD s.best }

/-- The body of both loops over points of the ray. -/
def scan (distanceOf : Search F → Nat → F) : List Nat → Search F → Search F
  | [], s => s
  | step :: steps, s =>
    let distance := distanceOf s step
    if s.observedKeepout = true ∧ ¬ distance < s.keepoutBarrier then s
    else
      let candidate := evaluate A input ray distance
      let s := { s with evaluated := s.evaluated ++ [(distance, candidate)] }
      if candidate.accepted then
        scan distanceOf steps
          { s with acceptedCandidates := s.acceptedCandidates ++ [(distance, candidate)] }
      else if Locates distance candidate then observeKeepout distance candidate s
      else
        scan distanceOf steps
          (if s.observedKeepout then s else { s with limitingReason := candidate.reason })

/-- How far the search may still reach. -/
def reach (s : Search F) : F := if s.observedKeepout then s.keepoutBarrier else ray.searchDistance

/-- Equal steps towards the limit. -/
def coarseDistance (s : Search F) (step : Nat) : F :=
  reach ray s * Floating.ofNat step / Floating.ofNat kProjectionSearchSteps

/-- The first points. -/
def coarse (s : Search F) : Search F :=
  selectFarthestAllowed
    (scan A input ray (coarseDistance ray) (List.range' 1 kProjectionSearchSteps) s)

/-- Equal steps from the farthest accepted point to the limit. -/
def refineDistance (sampleCount : Nat) (s : Search F) (sample : Nat) : F :=
  s.acceptedDistance +
    (reach ray s - s.acceptedDistance) * Floating.ofNat sample / Floating.ofNat sampleCount

/-- One finer round beyond the farthest accepted point. -/
def refineRound (round : Nat) (s : Search F) : Search F :=
  selectFarthestAllowed
    (scan A input ray (fun _ => refineDistance ray (kProjectionRefinementSamples * (round + 1)) s)
      (List.range' 1 (kProjectionRefinementSamples * (round + 1))) s)

/-- The finer rounds. -/
def refine : List Nat → Search F → Search F
  | [], s => s
  | round :: rounds, s =>
    if kMinimumProjectedMotionM / Floating.lit 16.0 < reach ray s - s.acceptedDistance then
      refine rounds (refineRound A input ray round s)
    else s

/-- The refused request may itself tell of a keepout within the search. -/
def RequestLocates (requested : GuardResult F) : Prop :=
  requested.sampledKeepoutViolation = true ∧ Floating.isFinite ray.totalDistance = true ∧
    Floating.isFinite (ray.totalDistance * requested.failurePathFraction) = true ∧
    ray.totalDistance * requested.failurePathFraction ≤ ray.searchDistance

instance (requested : GuardResult F) : Decidable (RequestLocates ray requested) :=
  inferInstanceAs (Decidable (_ ∧ _))

/-- Where the search begins: staying is accepted. -/
def beginSearch (requested stationary : GuardResult F) : Search F where
  evaluated := []
  acceptedCandidates := [(Floating.lit 0.0, stationary)]
  observedKeepout := decide (RequestLocates ray requested)
  keepoutBarrier :=
    if RequestLocates ray requested then ray.totalDistance * requested.failurePathFraction
    else ray.searchDistance
  limitingReason := requested.reason
  acceptedDistance := Floating.lit 0.0
  best := stationary

/-- All points, the coarse and the finer ones. -/
def projectionSearch (requested stationary : GuardResult F) : Search F :=
  refine A input ray (List.range kProjectionRefinementRounds)
    (coarse A input ray (beginSearch ray requested stationary))

def noProgressReason (limitingReason : String) : String :=
  "requested target was unreachable or unsafe, and no sampled safe " ++
    "straight-line progress of at least 0.001 m could be proven; no motion submitted; " ++
    "limiter: " ++ limitingReason

def projectedReason (fraction : F) (limitingReason : String) : String :=
  "requested target was unreachable or unsafe; using farthest sampled validated " ++
    "straight-line prefix (" ++ A.jsonNumber (fraction * Floating.lit 100.0) ++
    "%); limiter: " ++ limitingReason

/-- `accepted_fraction`. -/
def acceptedFraction (distance : F) : F :=
  Floating.clamp
    (if Floating.isFinite ray.totalDistance then distance / ray.totalDistance
    else distance / ray.deltaScale / ray.scaledNorm)
    (Floating.lit 0.0) (Floating.lit 1.0)

/-- The answer where the search found no progress. -/
def noProgress (requested : GuardResult F) (s : Search F) : GuardResult F :=
  { requested with
    reason := noProgressReason s.limitingReason
    limitingReason := s.limitingReason
    limitedByKeepout := s.observedKeepout
    keepoutBarrierDistanceM := if s.observedKeepout then s.keepoutBarrier else Floating.lit 0.0 }

/-- The answer where it found some. -/
def projected (s : Search F) : GuardResult F :=
  { s.best with
    targetProjected := true
    limitedByKeepout := s.observedKeepout
    requestedTcp := input.request.target
    achievedFraction := acceptedFraction ray s.acceptedDistance
    limitingReason := s.limitingReason
    keepoutBarrierDistanceM := if s.observedKeepout then s.keepoutBarrier else Floating.lit 0.0
    reason := projectedReason A (acceptedFraction ray s.acceptedDistance) s.limitingReason }

/-- The request to stay where the tool was measured. -/
def stationaryInput : GuardInput F :=
  input.aimed ((validate A input).measuredTcp input.request.side)

/-- `NominalPathGuard::validate_or_project`. -/
def validateOrProject : GuardResult F :=
  let requested := validate A input
  if input.request.dual then requested
  else if requested.accepted then requested
  else if finite3 input.request.target = false then requested
  else
    let best := validate A (stationaryInput A input)
    if best.accepted = false then
      { requested with
        reason := "current measured scene is not safe enough for best-effort motion: " ++
          best.reason }
    else
      match rayTo (best.measuredTcp input.request.side) input.request.target with
      | .error reason => { requested with reason }
      | .ok ray =>
        let s := projectionSearch A input ray requested best
        if kMinimumProjectedMotionM ≤ s.acceptedDistance then projected A input ray s
        else noProgress requested s

end Source

/-! ## §3. What the search knows. -/

/-- A keepout that was seen, at a distance along the ray, and how it was named:
    by the request itself or by a refused point. -/
def Keepout (ray : Ray F) (requested : GuardResult F) (evaluated : List (F × GuardResult F))
    (distance : F) (reason : String) : Prop :=
  (RequestLocates ray requested ∧ distance = ray.totalDistance * requested.failurePathFraction ∧
      reason = requested.reason) ∨
    ∃ point ∈ evaluated, point.2.accepted = false ∧ Locates point.1 point.2 ∧
      distance = point.1 * point.2.failurePathFraction ∧ reason = point.2.reason

/-- **What the search knows**: its candidates are the accepted points, and its
    barrier is the nearest keepout it has seen. -/
structure Searched (A : GuardModel F) (input : GuardInput F) (ray : Ray F)
    (requested stationary : GuardResult F) (s : Search F) : Prop where
  asked : ∀ point ∈ s.evaluated, point.2 = evaluate A input ray point.1
  candidates : s.acceptedCandidates =
    (Floating.lit 0.0, stationary) :: s.evaluated.filter (·.2.accepted)
  named : s.observedKeepout = true →
    Keepout ray requested s.evaluated s.keepoutBarrier s.limitingReason
  nearest : ∀ distance reason, Keepout ray requested s.evaluated distance reason →
    s.observedKeepout = true ∧ s.keepoutBarrier ≤ distance

/-- The farthest candidate before the barrier is chosen. -/
structure Chosen (stationary : GuardResult F) (s : Search F) : Prop where
  number : s.acceptedDistance ≤ s.acceptedDistance
  member : (s.acceptedDistance, s.best) ∈ s.acceptedCandidates
  before : (s.acceptedDistance = Floating.lit 0.0 ∧ s.best = stationary) ∨
    (s.observedKeepout = true → s.acceptedDistance < s.keepoutBarrier)
  farthest : ∀ point ∈ s.acceptedCandidates,
    (s.observedKeepout = true → point.1 < s.keepoutBarrier) → ¬ s.acceptedDistance < point.1

section Order

variable {A : GuardModel F} {input : GuardInput F} {ray : Ray F}
  {requested stationary : GuardResult F} {s : Search F}

theorem Keepout.snoc {point : F × GuardResult F} {distance : F} {reason : String} :
    Keepout ray requested (s.evaluated ++ [point]) distance reason ↔
      Keepout ray requested s.evaluated distance reason ∨
        (point.2.accepted = false ∧ Locates point.1 point.2 ∧
          distance = point.1 * point.2.failurePathFraction ∧ reason = point.2.reason) := by
  unfold Keepout
  constructor
  · rintro (hrequest | ⟨known, hknown, hseen⟩)
    · exact Or.inl (Or.inl hrequest)
    · obtain hold | rfl : known ∈ s.evaluated ∨ known = point := by
        simpa only [List.mem_append, List.mem_singleton] using hknown
      · exact Or.inl (Or.inr ⟨known, hold, hseen⟩)
      · exact Or.inr hseen
  · rintro ((hrequest | ⟨known, hknown, hseen⟩) | hseen)
    · exact Or.inl hrequest
    · exact Or.inr ⟨known, List.mem_append_left _ hknown, hseen⟩
    · exact Or.inr ⟨point, List.mem_append_right _ List.mem_cons_self, hseen⟩

theorem Searched.asked_snoc (h : Searched A input ray requested stationary s) (distance : F) :
    ∀ point ∈ s.evaluated ++ [(distance, evaluate A input ray distance)],
      point.2 = evaluate A input ray point.1 := by
  intro point hpoint
  rcases List.mem_append.mp hpoint with hold | hnew
  · exact h.asked point hold
  · rw [List.mem_singleton.mp hnew]

/-- A refused point is no candidate. -/
theorem Searched.candidates_refused (h : Searched A input ray requested stationary s)
    {distance : F} (hrefused : (evaluate A input ray distance).accepted = false) :
    s.acceptedCandidates = (Floating.lit 0.0, stationary) ::
      (s.evaluated ++ [(distance, evaluate A input ray distance)]).filter (·.2.accepted) := by
  rw [List.filter_append, List.filter_cons_of_neg (by rw [hrefused]; simp), List.filter_nil,
    List.append_nil]
  exact h.candidates

/-- An accepted point becomes a candidate. -/
theorem Searched.accept (h : Searched A input ray requested stationary s) {distance : F}
    (haccepted : (evaluate A input ray distance).accepted = true) :
    Searched A input ray requested stationary { s with
      evaluated := s.evaluated ++ [(distance, evaluate A input ray distance)]
      acceptedCandidates := s.acceptedCandidates ++
        [(distance, evaluate A input ray distance)] } := by
  refine ⟨h.asked_snoc distance, ?_, fun hobserved => ?_, fun value reason hseen => ?_⟩
  · show s.acceptedCandidates ++ _ = _
    rw [h.candidates, List.filter_append, List.cons_append]
    rw [List.filter_cons_of_pos (by exact haccepted), List.filter_nil]
  · exact Keepout.snoc.mpr (Or.inl (h.named hobserved))
  · rcases Keepout.snoc.mp hseen with hold | ⟨hrefused, -⟩
    · exact h.nearest value reason hold
    · rw [haccepted] at hrefused
      cases hrefused

/-- A refusal that does not tell where it failed changes nothing but the reason. -/
theorem Searched.refuse (h : Searched A input ray requested stationary s) {distance : F}
    (hrefused : (evaluate A input ray distance).accepted = false)
    (hsilent : ¬ Locates distance (evaluate A input ray distance)) :
    Searched A input ray requested stationary
      (if s.observedKeepout then
        { s with evaluated := s.evaluated ++ [(distance, evaluate A input ray distance)] }
      else { s with
        evaluated := s.evaluated ++ [(distance, evaluate A input ray distance)]
        limitingReason := (evaluate A input ray distance).reason }) := by
  have hasked := h.asked_snoc distance
  have hcandidates := h.candidates_refused hrefused
  have hnearest : ∀ value reason, Keepout ray requested
      (s.evaluated ++ [(distance, evaluate A input ray distance)]) value reason →
        s.observedKeepout = true ∧ s.keepoutBarrier ≤ value := by
    intro value reason hseen
    rcases Keepout.snoc.mp hseen with hold | ⟨-, hlocates, -⟩
    · exact h.nearest value reason hold
    · exact absurd hlocates hsilent
  by_cases hobserved : s.observedKeepout = true
  · rw [if_pos hobserved]
    exact ⟨hasked, hcandidates, fun hyes => Keepout.snoc.mpr (Or.inl (h.named hyes)), hnearest⟩
  · rw [if_neg hobserved]
    exact ⟨hasked, hcandidates, fun hyes => absurd hyes hobserved, hnearest⟩

variable [FloatOrder F]

/-- A refusal that tells where it failed brings the barrier there, if it was
    not nearer. -/
theorem Searched.observe (h : Searched A input ray requested stationary s) {distance : F}
    (hrefused : (evaluate A input ray distance).accepted = false)
    (hlocates : Locates distance (evaluate A input ray distance)) :
    Searched A input ray requested stationary
      (observeKeepout distance (evaluate A input ray distance) { s with
        evaluated := s.evaluated ++ [(distance, evaluate A input ray distance)] }) := by
  have hasked := h.asked_snoc distance
  have hcandidates := h.candidates_refused hrefused
  have hnumber := FloatOrder.le_self_of_isFinite hlocates.2.2.2.2
  unfold observeKeepout
  dsimp only
  split
  · next hcloser =>
    refine ⟨hasked, hcandidates, fun _ => Keepout.snoc.mpr (Or.inr ⟨hrefused, hlocates, rfl, rfl⟩),
      fun value reason hseen => ⟨rfl, ?_⟩⟩
    show distance * (evaluate A input ray distance).failurePathFraction ≤ value
    rcases Keepout.snoc.mp hseen with hold | ⟨-, -, hvalue, -⟩
    · obtain ⟨hobserved, hbarrier⟩ := h.nearest value reason hold
      rcases hcloser with hnone | hless
      · rw [hobserved] at hnone
        cases hnone
      · exact FloatOrder.le_trans (Floating.le_of_lt hless) hbarrier
    · rw [hvalue]
      exact hnumber
  · next hfarther =>
    rw [not_or, Bool.not_eq_false] at hfarther
    obtain ⟨hobserved, hnot⟩ := hfarther
    have hbefore := h.named hobserved
    refine ⟨hasked, hcandidates, fun _ => Keepout.snoc.mpr (Or.inl hbefore),
      fun value reason hseen => ⟨rfl, ?_⟩⟩
    show s.keepoutBarrier ≤ value
    rcases Keepout.snoc.mp hseen with hold | ⟨-, -, hvalue, -⟩
    · exact (h.nearest value reason hold).2
    · rw [hvalue]
      exact Floating.le_of_not_lt hnumber
        (FloatOrder.le_self_left (h.nearest _ _ hbefore).2) hnot

/-- **A scan** asks for at most as many points as it has steps. -/
theorem scan_searched (distanceOf : Search F → Nat → F) (steps : List Nat)
    (h : Searched A input ray requested stationary s) :
    Searched A input ray requested stationary (scan A input ray distanceOf steps s) ∧
      (scan A input ray distanceOf steps s).evaluated.length ≤
        s.evaluated.length + steps.length := by
  induction steps generalizing s with
  | nil => exact ⟨h, Nat.le_refl _⟩
  | cons step steps ih =>
    unfold scan
    dsimp only
    split
    · exact ⟨h, by omega⟩
    · split
      · next haccepted =>
        obtain ⟨hall, hlength⟩ := ih (h.accept haccepted)
        refine ⟨hall, hlength.trans ?_⟩
        simp only [List.length_append, List.length_cons, List.length_nil]
        omega
      · next hrefused =>
        have hfalse := Bool.eq_false_of_not_eq_true hrefused
        split
        · next hlocates =>
          refine ⟨h.observe hfalse hlocates, ?_⟩
          unfold observeKeepout
          dsimp only
          split
          · simp only [List.length_append, List.length_cons, List.length_nil]
            omega
          · simp only [List.length_append, List.length_cons, List.length_nil]
            omega
        · next hsilent =>
          obtain ⟨hall, hlength⟩ := ih (h.refuse hfalse hsilent)
          refine ⟨hall, hlength.trans ?_⟩
          split
          · simp only [List.length_append, List.length_cons, List.length_nil]
            omega
          · simp only [List.length_append, List.length_cons, List.length_nil]
            omega

/-! ## §4. The choice. -/

/-- Choosing changes the choice only. -/
structure SameSearch (s t : Search F) : Prop where
  evaluated : t.evaluated = s.evaluated
  candidates : t.acceptedCandidates = s.acceptedCandidates
  observed : t.observedKeepout = s.observedKeepout
  barrier : t.keepoutBarrier = s.keepoutBarrier
  reason : t.limitingReason = s.limitingReason

omit [FloatOrder F] in
theorem Searched.same {t : Search F} (h : Searched A input ray requested stationary s)
    (hsame : SameSearch s t) : Searched A input ray requested stationary t := by
  obtain ⟨hevaluated, hcandidates, hobserved, hbarrier, hreason⟩ := hsame
  refine ⟨?_, ?_, ?_, ?_⟩
  · rw [hevaluated]
    exact h.asked
  · rw [hevaluated, hcandidates]
    exact h.candidates
  · rw [hevaluated, hobserved, hbarrier, hreason]
    exact h.named
  · rw [hevaluated, hobserved, hbarrier]
    exact h.nearest

theorem not_lt_of_lt {a b c : F} (hab : a < b) (hnot : ¬ a < c) : ¬ b < c := by
  intro hbc
  refine hnot (FloatOrder.lt_iff.mpr ⟨FloatOrder.le_trans (Floating.le_of_lt hab)
    (Floating.le_of_lt hbc), fun hca => ?_⟩)
  exact Floating.not_le_of_lt hbc (FloatOrder.le_trans hca (Floating.le_of_lt hab))

/-- One candidate of `select_farthest_allowed`. -/
def consider (s : Search F) (candidate : F × GuardResult F) : Search F :=
  if (s.observedKeepout = false ∨ candidate.1 < s.keepoutBarrier) ∧
      s.acceptedDistance < candidate.1 then
    { s with acceptedDistance := candidate.1, best := candidate.2 }
  else s

/-- The fold over the candidates: it keeps the search, its choice is the old one
    or an allowed candidate, and none of them lies farther. -/
theorem consider_all (candidates : List (F × GuardResult F)) (s : Search F) :
    SameSearch s (candidates.foldl consider s) ∧
      (((candidates.foldl consider s).acceptedDistance = s.acceptedDistance ∧
          (candidates.foldl consider s).best = s.best) ∨
        (((candidates.foldl consider s).acceptedDistance, (candidates.foldl consider s).best) ∈
            candidates ∧
          (s.observedKeepout = true →
            (candidates.foldl consider s).acceptedDistance < s.keepoutBarrier))) ∧
      (∀ point ∈ candidates, (s.observedKeepout = true → point.1 < s.keepoutBarrier) →
        ¬ (candidates.foldl consider s).acceptedDistance < point.1) ∧
      (∀ other, ¬ s.acceptedDistance < other →
        ¬ (candidates.foldl consider s).acceptedDistance < other) ∧
      (s.acceptedDistance ≤ s.acceptedDistance →
        (candidates.foldl consider s).acceptedDistance ≤
          (candidates.foldl consider s).acceptedDistance) := by
  induction candidates generalizing s with
  | nil =>
    exact ⟨⟨rfl, rfl, rfl, rfl, rfl⟩, Or.inl ⟨rfl, rfl⟩,
      fun _ hmem => (List.not_mem_nil hmem).elim, fun _ h => h, fun h => h⟩
  | cons candidate candidates ih =>
    rw [List.foldl_cons]
    obtain ⟨hsame, hchoice, hfarthest, hgrows, hnumber⟩ := ih (consider s candidate)
    by_cases htake : (s.observedKeepout = false ∨ candidate.1 < s.keepoutBarrier) ∧
        s.acceptedDistance < candidate.1
    · have hone : consider s candidate =
          { s with acceptedDistance := candidate.1, best := candidate.2 } := if_pos htake
      rw [hone] at hsame hchoice hfarthest hgrows hnumber ⊢
      have hallowed : s.observedKeepout = true → candidate.1 < s.keepoutBarrier := fun hyes =>
        htake.1.resolve_left (by rw [hyes]; simp)
      refine ⟨⟨hsame.evaluated, hsame.candidates, hsame.observed, hsame.barrier, hsame.reason⟩,
        Or.inr ?_, fun point hpoint hbefore => ?_, fun other hother => ?_, fun _ => ?_⟩
      · rcases hchoice with ⟨hdistance, hbest⟩ | ⟨hmem, hbefore⟩
        · rw [hdistance, hbest]
          exact ⟨List.mem_cons_self, hallowed⟩
        · exact ⟨List.mem_cons_of_mem _ hmem, hbefore⟩
      · rcases List.mem_cons.mp hpoint with rfl | hlater
        · refine hgrows point.1 fun hself => ?_
          exact Floating.not_le_of_lt hself (Floating.le_of_lt hself)
        · exact hfarthest point hlater hbefore
      · exact hgrows other (not_lt_of_lt htake.2 hother)
      · exact hnumber (FloatOrder.le_self_right (Floating.le_of_lt htake.2))
    · have hone : consider s candidate = s := if_neg htake
      rw [hone] at hsame hchoice hfarthest hgrows hnumber ⊢
      refine ⟨hsame, ?_, fun point hpoint hbefore => ?_, hgrows, hnumber⟩
      · rcases hchoice with hkept | ⟨hmem, hbefore⟩
        · exact Or.inl hkept
        · exact Or.inr ⟨List.mem_cons_of_mem _ hmem, hbefore⟩
      · rcases List.mem_cons.mp hpoint with rfl | hlater
        · refine hgrows point.1 fun hless => htake ⟨?_, hless⟩
          by_cases hobserved : s.observedKeepout = true
          · exact Or.inr (hbefore hobserved)
          · exact Or.inl (Bool.eq_false_of_not_eq_true hobserved)
        · exact hfarthest point hlater hbefore

/-- **The choice.** -/
theorem selectFarthestAllowed_chosen (h : Searched A input ray requested stationary s) :
    SameSearch s (selectFarthestAllowed s) ∧ Chosen stationary (selectFarthestAllowed s) := by
  obtain ⟨hsame, hchoice, hfarthest, -, hnumber⟩ := consider_all s.acceptedCandidates { s with
    acceptedDistance := Floating.lit 0.0
    best := (s.acceptedCandidates.head?.map Prod.snd).getD s.best }
  have hhead : (s.acceptedCandidates.head?.map Prod.snd).getD s.best = stationary := by
    rw [h.candidates]
    rfl
  rw [hhead] at hsame hchoice hfarthest hnumber
  have hselect : selectFarthestAllowed s = s.acceptedCandidates.foldl consider { s with
      acceptedDistance := Floating.lit 0.0
      best := stationary } := by
    unfold selectFarthestAllowed
    rw [hhead]
    rfl
  rw [hselect]
  refine ⟨⟨hsame.evaluated, hsame.candidates, hsame.observed, hsame.barrier, hsame.reason⟩,
    hnumber (FloatOrder.lit_le_lit (le_refl _)), ?_, ?_, fun point hpoint hbefore => ?_⟩
  · rw [hsame.candidates]
    rcases hchoice with ⟨hdistance, hbest⟩ | ⟨hmem, -⟩
    · rw [hdistance, hbest, h.candidates]
      exact List.mem_cons_self
    · exact hmem
  · rw [hsame.observed, hsame.barrier]
    exact hchoice.imp_right And.right
  · rw [hsame.observed, hsame.barrier] at hbefore
    rw [hsame.candidates] at hpoint
    exact hfarthest point hpoint hbefore

/-! ## §5. The rounds. -/

/-- A scan and the choice behind it. -/
theorem scan_chosen (distanceOf : Search F → Nat → F) (steps : List Nat)
    (h : Searched A input ray requested stationary s) :
    Searched A input ray requested stationary
        (selectFarthestAllowed (scan A input ray distanceOf steps s)) ∧
      Chosen stationary (selectFarthestAllowed (scan A input ray distanceOf steps s)) ∧
      (selectFarthestAllowed (scan A input ray distanceOf steps s)).evaluated.length ≤
        s.evaluated.length + steps.length := by
  obtain ⟨hscanned, hlength⟩ := scan_searched distanceOf steps h
  obtain ⟨hsame, hchosen⟩ := selectFarthestAllowed_chosen hscanned
  refine ⟨hscanned.same hsame, hchosen, ?_⟩
  rw [hsame.evaluated]
  exact hlength

/-- The most points the rounds ask for. -/
def roundPoints : List Nat → Nat
  | [] => 0
  | round :: rounds => kProjectionRefinementSamples * (round + 1) + roundPoints rounds

theorem refine_searched (rounds : List Nat) (h : Searched A input ray requested stationary s)
    (hchosen : Chosen stationary s) :
    Searched A input ray requested stationary (refine A input ray rounds s) ∧
      Chosen stationary (refine A input ray rounds s) ∧
      (refine A input ray rounds s).evaluated.length ≤
        s.evaluated.length + roundPoints rounds := by
  induction rounds generalizing s with
  | nil => exact ⟨h, hchosen, Nat.le_refl _⟩
  | cons round rounds ih =>
    unfold refine roundPoints
    split
    · obtain ⟨hround, hchoice, hlength⟩ := scan_chosen
        (fun _ => refineDistance ray (kProjectionRefinementSamples * (round + 1)) s)
        (List.range' 1 (kProjectionRefinementSamples * (round + 1))) h
      obtain ⟨hall, hlast, hrest⟩ := ih hround hchoice
      refine ⟨hall, hlast, hrest.trans ?_⟩
      rw [List.length_range'] at hlength
      omega
    · exact ⟨h, hchosen, by omega⟩

/-- Where the search begins. -/
theorem beginSearch_searched :
    Searched A input ray requested stationary (beginSearch ray requested stationary) := by
  refine ⟨fun point hpoint => (List.not_mem_nil hpoint).elim, rfl, fun hobserved => ?_,
    fun distance reason hseen => ?_⟩
  · have hlocates := of_decide_eq_true hobserved
    exact Or.inl ⟨hlocates, if_pos hlocates, rfl⟩
  · rcases hseen with ⟨hlocates, hdistance, -⟩ | ⟨point, hpoint, -⟩
    · refine ⟨decide_eq_true hlocates, ?_⟩
      show (if RequestLocates ray requested then
        ray.totalDistance * requested.failurePathFraction else ray.searchDistance) ≤ distance
      rw [if_pos hlocates, hdistance]
      exact FloatOrder.le_self_of_isFinite hlocates.2.2.1
    · exact (List.not_mem_nil hpoint).elim

/-- **The whole search.** -/
theorem searched (A : GuardModel F) (input : GuardInput F) (ray : Ray F)
    (requested stationary : GuardResult F) : Searched A input ray requested stationary
      (projectionSearch A input ray requested stationary) ∧
    Chosen stationary (projectionSearch A input ray requested stationary) ∧
      (projectionSearch A input ray requested stationary).evaluated.length ≤ 160 := by
  unfold projectionSearch coarse
  obtain ⟨hcoarse, hchosen, hfirst⟩ := scan_chosen (coarseDistance ray)
    (List.range' 1 kProjectionSearchSteps)
    (beginSearch_searched : Searched A input ray requested stationary _)
  obtain ⟨hall, hlast, hrest⟩ := refine_searched (List.range kProjectionRefinementRounds)
    hcoarse hchosen
  refine ⟨hall, hlast, hrest.trans ?_⟩
  rw [List.length_range'] at hfirst
  have hrounds : roundPoints (List.range kProjectionRefinementRounds) = 96 := by decide
  have hsteps : kProjectionSearchSteps = 64 := rfl
  have hempty : (beginSearch ray requested stationary).evaluated.length = 0 := rfl
  omega

end Order

section Choice

variable {A : GuardModel F} {input : GuardInput F} {ray : Ray F}
  {requested stationary : GuardResult F} {s : Search F}

/-- A choice away from the start is a point the guard was asked about, with its
    answer. -/
theorem Searched.choice (h : Searched A input ray requested stationary s)
    (hchosen : Chosen stationary s) (hmoved : ¬ s.acceptedDistance = Floating.lit 0.0) :
    (s.acceptedDistance, s.best) ∈ s.evaluated ∧
      s.best = evaluate A input ray s.acceptedDistance ∧
        (evaluate A input ray s.acceptedDistance).accepted = true := by
  have hmember := hchosen.member
  rw [h.candidates] at hmember
  have hpoint : (s.acceptedDistance, s.best) ∈ s.evaluated.filter (·.2.accepted) :=
    (List.mem_cons.mp hmember).resolve_left fun hstay => hmoved (Prod.mk.inj hstay).1
  obtain ⟨hasked, hproved⟩ := List.mem_filter.mp hpoint
  have hbest : s.best = evaluate A input ray s.acceptedDistance := h.asked _ hasked
  refine ⟨hasked, hbest, ?_⟩
  rw [← hbest]
  exact hproved

/-- What a projection commands: its arm goes to the chosen point, the other stays. -/
theorem projected_commanded (hsingle : input.request.dual = false)
    (hbest : s.best = evaluate A input ray s.acceptedDistance)
    (haccepted : (evaluate A input ray s.acceptedDistance).accepted = true) (side : Side) :
    (projected A input ray s).commandedTcp side =
      if side = input.request.side then candidateAt ray s.acceptedDistance
      else (projected A input ray s).measuredTcp side := by
  have hcommanded := accepted_commanded haccepted side
  unfold commandedPoint at hcommanded
  have hsame : ¬ (input.aimed (candidateAt ray s.acceptedDistance)).request.dual = true := by
    show ¬ input.request.dual = true
    rw [hsingle]
    exact Bool.false_ne_true
  rw [if_neg hsame] at hcommanded
  show s.best.commandedTcp side = if side = input.request.side then
    candidateAt ray s.acceptedDistance else s.best.measuredTcp side
  rw [hbest]
  exact hcommanded

end Choice

/-! ## §6. Accepted projections. -/

/-- **An accepted projection**: the guard's own answer about a point of the ray
    at least a millimetre away, before every keepout that was seen, and no
    accepted point before them lies farther. -/
structure Projection (A : GuardModel F) (input : GuardInput F) (ray : Ray F)
    (requested : GuardResult F) (s : Search F) (result : GuardResult F) : Prop where
  answered : result = projected A input ray s
  proved : s.best = evaluate A input ray s.acceptedDistance ∧ s.best.accepted = true
  start : ray.start = result.measuredTcp input.request.side
  commanded : ∀ side, result.commandedTcp side =
    if side = input.request.side then candidateAt ray s.acceptedDistance
    else result.measuredTcp side
  far : kMinimumProjectedMotionM ≤ s.acceptedDistance
  before : ∀ distance reason, Keepout ray requested s.evaluated distance reason →
    s.acceptedDistance < distance
  farthest : ∀ point ∈ s.evaluated, point.2.accepted = true →
    (∀ distance reason, Keepout ray requested s.evaluated distance reason → point.1 < distance) →
      ¬ s.acceptedDistance < point.1
  asked : ∀ point ∈ s.evaluated, point.2 = evaluate A input ray point.1
  bounded : s.evaluated.length ≤ 160

/-- **Best effort**: a request for both arms is never altered, and an accepted
    one for a single arm is the request as it is or a projection of it. -/
def ProjectionSound (A : GuardModel F) (input : GuardInput F) : Prop :=
  (input.request.dual = true → validateOrProject A input = validate A input) ∧
  ((validateOrProject A input).accepted = true →
    validateOrProject A input = validate A input ∨
      input.request.dual = false ∧ (validate A input).accepted = false ∧
        ∃ ray, rayTo ((validate A (stationaryInput A input)).measuredTcp input.request.side)
          input.request.target = .ok ray ∧
          Projection A input ray (validate A input)
            (projectionSearch A input ray (validate A input)
              (validate A (stationaryInput A input)))
            (validateOrProject A input))

theorem rayTo_start {start target : Vec3 F} {ray : Ray F} (h : rayTo start target = .ok ray) :
    ray.start = start := by
  unfold rayTo at h
  dsimp only at h
  split at h
  · cases h
  · split at h
    · cases h
    · obtain rfl := Except.ok.inj h
      rfl

/-- The paths of a request that may be shortened. -/
theorem validateOrProject_cases (A : GuardModel F) (input : GuardInput F)
    (haccepted : (validateOrProject A input).accepted = true) :
    validateOrProject A input = validate A input ∨
      (input.request.dual = false ∧ (validate A input).accepted = false ∧
        (validate A (stationaryInput A input)).accepted = true ∧
        ∃ ray, rayTo ((validate A (stationaryInput A input)).measuredTcp input.request.side)
            input.request.target = .ok ray ∧
          kMinimumProjectedMotionM ≤ (projectionSearch A input ray (validate A input)
            (validate A (stationaryInput A input))).acceptedDistance ∧
          validateOrProject A input = projected A input ray
            (projectionSearch A input ray (validate A input)
              (validate A (stationaryInput A input)))) := by
  unfold validateOrProject at haccepted ⊢
  dsimp only at haccepted ⊢
  by_cases hdual : input.request.dual = true
  · exact Or.inl (if_pos hdual)
  rw [if_neg hdual] at haccepted ⊢
  by_cases hrequested : (validate A input).accepted = true
  · exact Or.inl (if_pos hrequested)
  rw [if_neg hrequested] at haccepted ⊢
  by_cases hfinite : finite3 input.request.target = false
  · exact Or.inl (if_pos hfinite)
  rw [if_neg hfinite] at haccepted ⊢
  by_cases hstationary : (validate A (stationaryInput A input)).accepted = false
  · rw [if_pos hstationary] at haccepted
    exact absurd haccepted hrequested
  rw [if_neg hstationary] at haccepted ⊢
  split at haccepted
  · exact absurd haccepted hrequested
  · next ray hray =>
    split at haccepted
    · next hfar =>
      refine Or.inr ⟨Bool.eq_false_of_not_eq_true hdual, Bool.eq_false_of_not_eq_true hrequested,
        Bool.eq_true_of_not_eq_false hstationary, ray, hray, hfar, ?_⟩
      rw [if_pos hfar]
    · exact absurd haccepted hrequested

section Sound

variable [InfinityOrder F] {A : GuardModel F}

/-- The tools are measured where the joints put them. -/
theorem measured_of_accepted (hM : A.meshes.Finite) {input : GuardInput F}
    (haccepted : (validate A input).accepted = true) (side : Side) :
    ∃ pose, A.forward side (input.measuredQ side) = some pose ∧
      (validate A input).measuredTcp side = origin pose.handTcp := by
  obtain ⟨poses, answers, hproof⟩ := accepted_proved hM haccepted
  exact (hproof.trace.measured side).2

/-- `0.001` is not a zero; the rest holds of all numbers. -/
theorem projection_sound (hM : A.meshes.Finite)
    (hmillimetre : ¬ (kMinimumProjectedMotionM : F) ≤ Floating.lit 0.0) (input : GuardInput F) :
    ProjectionSound A input := by
  refine ⟨fun hdual => ?_, fun haccepted => ?_⟩
  · unfold validateOrProject
    exact if_pos hdual
  obtain hsame | ⟨hsingle, hrequested, hstationary, ray, hray, hfar, hresult⟩ :=
    validateOrProject_cases A input haccepted
  · exact Or.inl hsame
  refine Or.inr ⟨hsingle, hrequested, ray, hray, ?_⟩
  set s := projectionSearch A input ray (validate A input)
    (validate A (stationaryInput A input)) with hs
  have hall := searched A input ray (validate A input) (validate A (stationaryInput A input))
  rw [← hs] at hall
  obtain ⟨hsearched, hchosen, hbounded⟩ := hall
  -- The choice is no less than a millimetre away, so it is not the one to stay.
  have hmoved : ¬ s.acceptedDistance = Floating.lit 0.0 := fun hzero => by
    rw [hzero] at hfar
    exact hmillimetre hfar
  obtain ⟨-, hbest, hchoice⟩ := hsearched.choice hchosen hmoved
  have hbarrier := hchosen.before.resolve_left fun hstay => hmoved hstay.1
  obtain ⟨poses, answers, hproof⟩ : ∃ poses answers, GuardProof A
      (input.aimed (candidateAt ray s.acceptedDistance))
      (validate A (input.aimed (candidateAt ray s.acceptedDistance))) poses answers :=
    accepted_proved hM hchoice
  -- the ray starts at the tool the accepted point was judged from
  have htools : ∀ side, (validate A (stationaryInput A input)).measuredTcp side =
      (validateOrProject A input).measuredTcp side := by
    intro side
    obtain ⟨pose, hpose, hpoint⟩ := measured_of_accepted hM hstationary side
    obtain ⟨pose', hpose', hpoint'⟩ := (hproof.trace.measured side).2
    obtain rfl := Option.some.inj (hpose.symm.trans hpose')
    rw [hpoint, hresult]
    show _ = s.best.measuredTcp side
    rw [hbest]
    exact hpoint'.symm
  refine ⟨hresult, ⟨hbest, by rw [hbest]; exact hchoice⟩, ?_, fun side => ?_, hfar,
    fun distance reason hseen => ?_, fun point hpoint' haccepted' hbefore => ?_, hsearched.asked,
    hbounded⟩
  · rw [rayTo_start hray]
    exact htools _
  · rw [hresult]
    exact projected_commanded hsingle hbest hchoice side
  · -- the choice lies before the barrier, and the barrier before every keepout
    obtain ⟨hobserved, hle⟩ := hsearched.nearest distance reason hseen
    have hless := hbarrier hobserved
    exact FloatOrder.lt_iff.mpr ⟨FloatOrder.le_trans (Floating.le_of_lt hless) hle,
      fun hback => Floating.not_le_of_lt hless (FloatOrder.le_trans hle hback)⟩
  · refine hchosen.farthest point ?_ fun hobserved => hbefore _ _ (hsearched.named hobserved)
    rw [hsearched.candidates]
    exact List.mem_cons_of_mem _ (List.mem_filter.mpr ⟨hpoint', haccepted'⟩)

end Sound

/-! ## §7. Requests that are shortened. -/

section Progress

variable {A : GuardModel F} {input : GuardInput F} {ray : Ray F}
  {requested stationary : GuardResult F} {s : Search F}

/-- Without a keepout a scan asks for all its points. -/
theorem scan_quiet (distanceOf : Search F → Nat → F) (pointOf : Nat → F)
    (hpoints : ∀ s : Search F, s.observedKeepout = false → ∀ step,
      distanceOf s step = pointOf step)
    (hquiet : ∀ d, (evaluate A input ray d).sampledKeepoutViolation = false) (steps : List Nat)
    (hs : s.observedKeepout = false) :
    (scan A input ray distanceOf steps s).observedKeepout = false ∧
      (∀ point ∈ s.evaluated, point ∈ (scan A input ray distanceOf steps s).evaluated) ∧
      ∀ step ∈ steps, (pointOf step, evaluate A input ray (pointOf step)) ∈
        (scan A input ray distanceOf steps s).evaluated := by
  induction steps generalizing s with
  | nil => exact ⟨hs, fun _ h => h, fun _ h => (List.not_mem_nil h).elim⟩
  | cons step steps ih =>
    have hsilent : ¬ Locates (pointOf step) (evaluate A input ray (pointOf step)) := fun h =>
      absurd ((hquiet _).symm.trans h.1) (by simp)
    unfold scan
    dsimp only
    rw [hpoints s hs, if_neg (by simp [hs]), if_neg hsilent]
    -- What the step leaves knows the new point, and no keepout.
    have hstep : ∀ next : Search F, next.observedKeepout = false →
        next.evaluated =
          s.evaluated ++ [(pointOf step, evaluate A input ray (pointOf step))] →
        (scan A input ray distanceOf steps next).observedKeepout = false ∧
          (∀ point ∈ s.evaluated,
            point ∈ (scan A input ray distanceOf steps next).evaluated) ∧
          ∀ other ∈ step :: steps, (pointOf other, evaluate A input ray (pointOf other)) ∈
            (scan A input ray distanceOf steps next).evaluated := by
      intro next hnext hevaluated
      obtain ⟨hobserved, hold, hnew⟩ := ih hnext
      rw [hevaluated] at hold
      refine ⟨hobserved, fun point hpoint => hold point (List.mem_append_left _ hpoint),
        fun other hother => ?_⟩
      rcases List.mem_cons.mp hother with rfl | hlater
      · exact hold _ (List.mem_append_right _ List.mem_cons_self)
      · exact hnew other hlater
    split
    · exact hstep _ hs rfl
    · rw [if_neg (by simp [hs])]
      exact hstep _ hs rfl

variable [FloatOrder F]

/-- Without a keepout the rounds keep the points that were asked for. -/
theorem refine_quiet (hquiet : ∀ d, (evaluate A input ray d).sampledKeepoutViolation = false)
    (rounds : List Nat) (h : Searched A input ray requested stationary s)
    (hs : s.observedKeepout = false) :
    (refine A input ray rounds s).observedKeepout = false ∧
      ∀ point ∈ s.evaluated, point ∈ (refine A input ray rounds s).evaluated := by
  induction rounds generalizing s with
  | nil => exact ⟨hs, fun _ h => h⟩
  | cons round rounds ih =>
    unfold refine
    split
    · obtain ⟨hobserved, hold, -⟩ := scan_quiet
        (fun _ => refineDistance ray (kProjectionRefinementSamples * (round + 1)) s) _
        (fun _ _ _ => rfl) hquiet
        (List.range' 1 (kProjectionRefinementSamples * (round + 1))) hs
      obtain ⟨hscanned, -⟩ := scan_searched
        (fun _ => refineDistance ray (kProjectionRefinementSamples * (round + 1)) s)
        (List.range' 1 (kProjectionRefinementSamples * (round + 1))) h
      obtain ⟨hsame, -⟩ := selectFarthestAllowed_chosen hscanned
      obtain ⟨hlast, hkept⟩ := ih (hscanned.same hsame) (hsame.observed.trans hobserved)
      refine ⟨hlast, fun point hpoint => hkept point ?_⟩
      rw [hsame.evaluated]
      exact hold point hpoint
    · exact ⟨hs, fun _ h => h⟩

/-- One of the first points, where nothing is in the way. -/
def coarsePoint (ray : Ray F) (step : Nat) : F :=
  ray.searchDistance * Floating.ofNat step / Floating.ofNat kProjectionSearchSteps

/-- **Progress**: where no keepout is seen and the guard accepts one of the first
    points, a millimetre away or farther, a refused request is shortened. -/
theorem projects (hsingle : input.request.dual = false)
    (hrefused : (validate A input).accepted = false)
    (hfinite : finite3 input.request.target = true)
    (hstationary : (validate A (stationaryInput A input)).accepted = true)
    (hray : rayTo ((validate A (stationaryInput A input)).measuredTcp input.request.side)
      input.request.target = .ok ray)
    (hrequested : (validate A input).sampledKeepoutViolation = false)
    (hquiet : ∀ d, (evaluate A input ray d).sampledKeepoutViolation = false) {step : Nat}
    (hstep : step ∈ List.range' 1 kProjectionSearchSteps)
    (hfar : kMinimumProjectedMotionM ≤ coarsePoint ray step)
    (haccepted : (evaluate A input ray (coarsePoint ray step)).accepted = true) :
    (validateOrProject A input).accepted = true ∧
      (validateOrProject A input).targetProjected = true := by
  obtain ⟨hsearched, hchosen, -⟩ := searched A input ray (validate A input)
    (validate A (stationaryInput A input))
  have hbegin : (beginSearch ray (validate A input)
      (validate A (stationaryInput A input))).observedKeepout = false :=
    decide_eq_false fun hlocates => absurd (hrequested.symm.trans hlocates.1) (by simp)
  obtain ⟨hobserved, -, hasked⟩ := scan_quiet (coarseDistance ray) (coarsePoint ray)
    (fun s hs step => by
      unfold coarseDistance coarsePoint reach
      rw [if_neg (by simp [hs])]) hquiet (List.range' 1 kProjectionSearchSteps) hbegin
  obtain ⟨hscanned, -⟩ := scan_searched (coarseDistance ray)
    (List.range' 1 kProjectionSearchSteps)
    (beginSearch_searched : Searched A input ray (validate A input)
      (validate A (stationaryInput A input)) _)
  obtain ⟨hsame, -⟩ := selectFarthestAllowed_chosen hscanned
  obtain ⟨hnone, hkept⟩ := refine_quiet hquiet (List.range kProjectionRefinementRounds)
    (hscanned.same hsame) (hsame.observed.trans hobserved)
  set s := projectionSearch A input ray (validate A input)
    (validate A (stationaryInput A input)) with hs
  -- The point is a candidate, so none that is chosen is nearer.
  have hcandidate : (coarsePoint ray step, evaluate A input ray (coarsePoint ray step)) ∈
      s.acceptedCandidates := by
    rw [hsearched.candidates]
    refine List.mem_cons_of_mem _ (List.mem_filter.mpr ⟨hkept _ ?_, haccepted⟩)
    rw [hsame.evaluated]
    exact hasked step hstep
  have hnearer : ¬ s.acceptedDistance < coarsePoint ray step :=
    hchosen.farthest _ hcandidate fun hyes => absurd (hnone.symm.trans hyes) (by simp)
  have henough : kMinimumProjectedMotionM ≤ s.acceptedDistance :=
    FloatOrder.le_trans hfar (Floating.le_of_not_lt hchosen.number
      (FloatOrder.le_self_right hfar) hnearer)
  have hresult : validateOrProject A input = projected A input ray s := by
    unfold validateOrProject
    dsimp only
    rw [if_neg (by simp [hsingle]), if_neg (by simp [hrefused]), if_neg (by simp [hfinite]),
      if_neg (by simp [hstationary]), hray]
    dsimp only
    rw [if_pos henough]
  rw [hresult]
  refine ⟨?_, rfl⟩
  have hmember := hchosen.member
  rw [hsearched.candidates] at hmember
  rcases List.mem_cons.mp hmember with hstay | hpoint
  · show s.best.accepted = true
    rw [(Prod.mk.inj hstay).2]
    exact hstationary
  · exact (List.mem_filter.mp hpoint).2

end Progress

/-- The facing arms, whose inverse kinematics reaches 100 mm to the left. -/
def shortModel : GuardModel Extended :=
  { heldModel with
    inverse := fun _ target seed =>
      if target 1 ≤ .finite (1 / 10) then
        some { q := seed, positionErrorM := .finite 0, collisionChecked := false }
      else none }

theorem short_resting (request : MoveRequest Extended) :
    Resting shortModel (heldInput request) facingPose fun target =>
      target 1 ≤ .finite (1 / 10) where
  forward _ _ := rfl
  holds _ _ _ hnear := by
    have hexact : ¬ (Floating.lit 1.0e-5 : Extended) < .finite 0 := by decide +kernel
    exact ⟨_, if_pos hnear, rfl, rfl, rfl, hexact⟩
  fails _ _ _ hfar := if_neg hfar
  valid := (held_resting request).valid
  still := (held_resting request).still
  clear := heldAnswer_clear.1
  contact _ := heldAnswer_clear.2
  stays := rfl

/-- The left tool is asked to go two metres to the left. -/
def farRequest : MoveRequest Extended :=
  { meetRequest with target := ![.finite 3, .finite (41 / 20), .finite 0] }

/-- Where the left tool is. -/
def facingTool : Vec3 Extended := origin (placed (1 / 20) 0)

/-- Where its tool is 31 mm later. -/
def nearPoint : Vec3 Extended := ![.finite 3, .finite (13 / 160), .finite 0]

/-- The ray is two metres long, and its first point is near. -/
theorem farRay : ∃ ray, rayTo facingTool farRequest.target = .ok ray ∧
    coarsePoint ray 1 = .finite (1 / 32) ∧ candidateAt ray (coarsePoint ray 1) = nearPoint := by
  have hray : ((rayTo facingTool farRequest.target).toOption.map fun ray =>
      (coarsePoint ray 1, List.ofFn (candidateAt ray (coarsePoint ray 1)))) =
        some (.finite (1 / 32), List.ofFn nearPoint) := by decide +kernel
  cases hcase : rayTo facingTool farRequest.target with
  | error reason =>
    rw [hcase] at hray
    cases hray
  | ok ray =>
    rw [hcase] at hray
    obtain ⟨hpoint, hcandidate⟩ := Prod.mk.inj (Option.some.inj hray)
    exact ⟨ray, rfl, hpoint, List.ofFn_injective hcandidate⟩

/-- The request is out of reach; its projection is not. -/
theorem projection_sound_short :
    ((validate shortModel (heldInput farRequest)).accepted = false ∧
      (validateOrProject shortModel (heldInput farRequest)).accepted = true ∧
        (validateOrProject shortModel (heldInput farRequest)).targetProjected = true) ∧
      ProjectionSound shortModel (heldInput farRequest) := by
  have hfar : ¬ sideWaypoint (heldInput farRequest) (fun side => origin (facingPose side).handTcp)
      (fraction 1) 0 1 ≤ .finite (1 / 10) := by decide +kernel
  have hrefused := (short_resting farRequest).refused hfar
  have hfinite : FiniteTarget (heldInput farRequest) := by
    show finite3 farRequest.target = true
    decide
  have htool : (validate shortModel (heldInput farRequest)).measuredTcp 0 = facingTool :=
    congrFun ((short_resting farRequest).measured hfinite) 0
  -- The request to stay, and the first point of the ray from there.
  set stay : MoveRequest Extended := { farRequest with target := facingTool } with hstay
  have hstationary : stationaryInput shortModel (heldInput farRequest) = heldInput stay := by
    show (heldInput farRequest).aimed
      ((validate shortModel (heldInput farRequest)).measuredTcp 0) = _
    rw [htool]
    rfl
  have hstays : FiniteTarget (heldInput stay) := by
    show finite3 facingTool = true
    decide
  have hstarts : (validate shortModel (heldInput stay)).accepted = true :=
    (short_resting stay).accepted hstays (by decide +kernel)
  have hmeasured : (validate shortModel (heldInput stay)).measuredTcp 0 = facingTool :=
    congrFun ((short_resting stay).measured hstays) 0
  obtain ⟨ray, hray, hpoint, hcandidate⟩ := farRay
  rw [← hstationary] at hstarts hmeasured
  rw [← hmeasured] at hray
  have hmillimetre : kMinimumProjectedMotionM ≤ coarsePoint ray 1 := by
    rw [hpoint]
    decide +kernel
  have hnear : (evaluate shortModel (heldInput farRequest) ray (coarsePoint ray 1)).accepted =
      true := by
    unfold evaluate
    rw [hcandidate]
    refine (short_resting { farRequest with target := nearPoint }).accepted ?_ ?_
    · show finite3 nearPoint = true
      decide
    · decide +kernel
  obtain ⟨haccepted, hprojected⟩ := projects rfl hrefused (by decide) hstarts hray
    (short_resting farRequest).quiet
    (fun d => (short_resting { farRequest with target := candidateAt ray d }).quiet)
    (List.mem_range'_1.mpr ⟨Nat.le_refl 1, by decide⟩) hmillimetre hnear
  exact ⟨⟨hrefused, haccepted, hprojected⟩,
    projection_sound (fun _ _ _ => ⟨rfl, rfl⟩) (by decide +kernel) (heldInput farRequest)⟩

end OpenArm.Guard
