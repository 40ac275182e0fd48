/-
  OpenArm.Guard.Contact — `NominalPathGuard::validate_convergence_contact`.

  Both tools approach a shared point and stop short of it.  The stop distance
  is searched for: first with the gap of the claw meshes as feedback, then on
  a grid of half a millimetre.  Every distance is proved on its own, and the
  guard's input is replaced by the one that was.

  Main results:
    * `tried`          — what the search knows, after any number of distances.
    * `contact_sound`  — the input changes exactly when the search succeeds,
                         into the request that was proved, with the gap in
                         its corridor and no accepted gap nearer to 24 mm.
-/
import OpenArm.Guard.Projection

namespace OpenArm.Guard

open OpenArm.Lib OpenArm.Control OpenArm.Model

variable {F : Type} [Metric F]

/-! ## §1. The targets. -/

def kContactTargetGapM : F := kClawRailClearance - Floating.lit 0.001

def kContactTargetGapToleranceM : F := Floating.lit 0.0005

def kContactSearchMinimumRadiusM : F := Floating.lit 0.015

def kContactSearchMaximumRadiusM : F := Floating.lit 0.070

def kContactSearchIterations : Nat := 12

def scanStep : F := Floating.lit 0.0005

/-- The shortest distance of the grid. -/
def scanEnd : F := kContactSearchMinimumRadiusM - Floating.lit 0.5 * scanStep

def convergenceInputReason : String :=
  "convergence target and stop parameters must be finite and non-negative"

def convergencePrefixReason : String :=
  "each claw needs a finite convergence prefix longer than the contact stop radius"

/-- A parameter of the stop that is not finite, or negative. -/
def BadStop (value : F) : Prop := Floating.isFinite value = false ∨ value < Floating.lit 0.0

instance (value : F) : Decidable (BadStop value) := inferInstanceAs (Decidable (_ ∨ _))

section Source

variable (A : GuardModel F)

/-- Where one tool stops: on its way to the shared point, `stop` before it. -/
def convergenceTarget (shared measured : Vec3 F) (stop minimumProgress : F) :
    Except String (Vec3 F) :=
  if finite3 measured = false then .error "measured TCP is non-finite"
  else
    let ray : Vec3 F := fun axis => shared axis - measured axis
    let distance := A.hypot3 (ray 0) (ray 1) (ray 2)
    let travel := distance - stop
    if Floating.isFinite distance = false ∨ ¬ Floating.lit 0.0 < distance ∨
        Floating.isFinite travel = false ∨ travel < minimumProgress then
      .error convergencePrefixReason
    else
      let point : Vec3 F := fun axis => measured axis + travel / distance * ray axis
      if finite3 point = false then .error "convergence guard target overflowed" else .ok point

/-- `prepare_convergence_guard_targets`. -/
def prepareConvergenceGuardTargets (request : MoveRequest F) (measuredTcp : RoutePose F)
    (stop minimumProgress : F) : Except String (MoveRequest F) :=
  if BadStop stop ∨ BadStop minimumProgress ∨ finite3 request.target = false then
    .error convergenceInputReason
  else
    match convergenceTarget A request.target (measuredTcp 0) stop minimumProgress with
    | .error reason => .error reason
    | .ok left =>
      match convergenceTarget A request.target (measuredTcp 1) stop minimumProgress with
      | .error reason => .error reason
      | .ok right => .ok { request with dual := true, dualTarget := ![left, right] }

/-! ## §2. The search. -/

/-- A stop distance that was tried, with the request it gave. -/
structure Attempt (F : Type) where
  stop : F
  request : MoveRequest F
  result : GuardResult F

/-- What the search knows: all attempts, in turn, and the best accepted one. -/
structure ContactSearch (F : Type) where
  attempts : List (Attempt F)
  best : Option (Attempt F)
  preparationFailure : String

/-- How far the gap of an answer is from the one that is wanted. -/
def gapError (result : GuardResult F) : F :=
  Floating.abs (result.clawHandGapM - kContactTargetGapM)

/-- The answer is good enough to end the search. -/
def CloseEnough (result : GuardResult F) : Prop :=
  result.accepted = true ∧ gapError result ≤ kContactTargetGapToleranceM

instance (result : GuardResult F) : Decidable (CloseEnough result) :=
  inferInstanceAs (Decidable (_ ∧ _))

/-- The better of the best attempt and a new one. -/
def better (attempt : Attempt F) : Option (Attempt F) → Option (Attempt F)
  | none => if attempt.result.accepted then some attempt else none
  | some best =>
    if attempt.result.accepted = true ∧ gapError attempt.result < gapError best.result then
      some attempt
    else some best

/-- `base`: the input under the terminal contact policy. -/
def GuardInput.converging (input : GuardInput F) : GuardInput F :=
  { input with
    contactPolicy := contactTerminalCaps
    requireTerminalContact := true
    terminalRetreat := false }

/-- The input with the request of an attempt. -/
def GuardInput.replaced (input : GuardInput F) (request : MoveRequest F) : GuardInput F :=
  { input.converging with request }

variable (input : GuardInput F) (measuredTcp : RoutePose F) (minimumProgress : F)

/-- `evaluate`: one stop distance. -/
def tryStop (stop : F) (s : ContactSearch F) : ContactSearch F × Except String (Attempt F) :=
  match prepareConvergenceGuardTargets A input.request measuredTcp stop minimumProgress with
  | .error reason => ({ s with preparationFailure := reason }, .error reason)
  | .ok request =>
    let attempt : Attempt F := {
      stop
      request
      result := { validate A (input.replaced request) with contactStopDistanceM := stop } }
    ({ s with attempts := s.attempts ++ [attempt], best := better attempt s.best }, .ok attempt)

/-- The next distance: half the error of the gap, at most 5 mm, farther. -/
def corrected (radius : F) (result : GuardResult F) : F :=
  Floating.clamp
    (radius + Floating.clamp ((kContactTargetGapM - result.clawHandGapM) * Floating.lit 0.5)
      (Floating.lit (-0.005)) (Floating.lit 0.005))
    kContactSearchMinimumRadiusM kContactSearchMaximumRadiusM

/-- The search with the gap as feedback: the attempt that ends it, or the last
    answer. -/
def feedback : Nat → F → GuardResult F → ContactSearch F →
    ContactSearch F × (Attempt F ⊕ GuardResult F)
  | 0, _, last, s => (s, .inr last)
  | iterations + 1, radius, _, s =>
    match tryStop A input measuredTcp minimumProgress radius s with
    | (s, .error reason) => (s, .inr { GuardResult.initial with reason })
    | (s, .ok attempt) =>
      if CloseEnough attempt.result then (s, .inl attempt)
      else if Floating.isFinite attempt.result.clawHandGapM = true ∧
          Floating.lit 1.0e-5 ≤ Floating.abs (corrected radius attempt.result - radius) then
        feedback iterations (corrected radius attempt.result) attempt.result s
      else (s, .inr attempt.result)

/-- The distances of the grid, from the longest on; in exact arithmetic the
    112th lies behind its end (`grid_ends`). -/
def kScanStops : Nat := 112

/-- The grid. -/
def scanStops : Nat → F → ContactSearch F → ContactSearch F × Option (Attempt F)
  | 0, _, s => (s, none)
  | stops + 1, radius, s =>
    if scanEnd ≤ radius then
      match tryStop A input measuredTcp minimumProgress radius s with
      | (s, .error _) => scanStops stops (radius - scanStep) s
      | (s, .ok attempt) =>
        if CloseEnough attempt.result then (s, some attempt)
        else scanStops stops (radius - scanStep) s
    else (s, none)

/-- Both searches: the attempt that ends them, or the last answer of the first. -/
def convergenceSearch (nominalStop : F) : ContactSearch F × (Attempt F ⊕ GuardResult F) :=
  match feedback A input measuredTcp minimumProgress kContactSearchIterations
      (Floating.clamp nominalStop kContactSearchMinimumRadiusM kContactSearchMaximumRadiusM)
      GuardResult.initial ⟨[], none, ""⟩ with
  | (s, .inl attempt) => (s, .inl attempt)
  | (s, .inr last) =>
    match scanStops A input measuredTcp minimumProgress kScanStops kContactSearchMaximumRadiusM
        s with
    | (s, some attempt) => (s, .inl attempt)
    | (s, none) => (s, .inr last)

def closestReason : String :=
  "; exact mesh search selected the closest available endpoint to the " ++
    "24 mm physical rail-clearance target"

def noEndpointReason (s : ContactSearch F) (last : GuardResult F) : String :=
  "no branch-specific expanded rail-envelope endpoint was proved in the " ++
    "15-70 mm stop corridor" ++
    (if last.reason = "" then
      (if s.preparationFailure = "" then "" else ": " ++ s.preparationFailure)
    else ": " ++ last.reason)

/-- `NominalPathGuard::validate_convergence_contact`: the result, and the input
    as it is left. -/
def validateConvergenceContact (nominalStop : F) : GuardResult F × GuardInput F :=
  if BadStop nominalStop ∨ BadStop minimumProgress then
    ({ GuardResult.initial with
      reason := "contact stop parameters must be finite and non-negative" }, input)
  else
    match convergenceSearch A input measuredTcp minimumProgress nominalStop with
    | (_, .inl attempt) => (attempt.result, input.replaced attempt.request)
    | (s, .inr last) =>
      match s.best with
      | some best =>
        ({ best.result with reason := best.result.reason ++ closestReason },
          input.replaced best.request)
      | none =>
        ({ last with
          accepted := false
          contactStopDistanceM := Floating.lit 0.0
          reason := noEndpointReason s last }, input)

end Source

/-! ## §3. What the search knows. -/

/-- A stop distance of the corridor.  The end of the grid is half a step below
    15 mm, against the rounding of its steps. -/
def InCorridor (stop : F) : Prop :=
  ¬ kContactSearchMaximumRadiusM < stop ∧
    (¬ stop < kContactSearchMinimumRadiusM ∨ scanEnd ≤ stop)

/-- An attempt: the request prepared for its distance, and the guard's answer. -/
structure Attempted (A : GuardModel F) (input : GuardInput F) (measuredTcp : RoutePose F)
    (minimumProgress : F) (attempt : Attempt F) : Prop where
  prepared : prepareConvergenceGuardTargets A input.request measuredTcp attempt.stop
    minimumProgress = .ok attempt.request
  answered : attempt.result = { validate A (input.replaced attempt.request) with
    contactStopDistanceM := attempt.stop }
  corridor : InCorridor attempt.stop

/-- **What the search knows**: its best attempt is accepted, and no accepted one
    has a gap nearer to the wanted one. -/
structure Tried (A : GuardModel F) (input : GuardInput F) (measuredTcp : RoutePose F)
    (minimumProgress : F) (s : ContactSearch F) : Prop where
  attempts : ∀ attempt ∈ s.attempts, Attempted A input measuredTcp minimumProgress attempt
  refused : s.best = none → ∀ attempt ∈ s.attempts, attempt.result.accepted = false
  best : ∀ best, s.best = some best → best ∈ s.attempts ∧ best.result.accepted = true ∧
    ∀ attempt ∈ s.attempts, attempt.result.accepted = true →
      ¬ gapError attempt.result < gapError best.result

/-- A distance was tried: nothing could be prepared for it, or there is an
    attempt at it. -/
def TriedAt (A : GuardModel F) (input : GuardInput F) (measuredTcp : RoutePose F)
    (minimumProgress : F) (s : ContactSearch F) (stop : F) : Prop :=
  (∃ reason, prepareConvergenceGuardTargets A input.request measuredTcp stop minimumProgress =
      .error reason) ∨ ∃ attempt ∈ s.attempts, attempt.stop = stop

section Order

variable [FloatOrder F] {A : GuardModel F} {input : GuardInput F} {measuredTcp : RoutePose F}
  {minimumProgress : F} {s : ContactSearch F}

/-- The better one of two attempts is the better one. -/
theorem Tried.snoc (h : Tried A input measuredTcp minimumProgress s) {attempt : Attempt F}
    (hattempt : Attempted A input measuredTcp minimumProgress attempt) :
    Tried A input measuredTcp minimumProgress { s with
      attempts := s.attempts ++ [attempt]
      best := better attempt s.best } := by
  have hmem : ∀ known, known ∈ s.attempts ++ [attempt] → known ∈ s.attempts ∨ known = attempt := by
    intro known hknown
    simpa only [List.mem_append, List.mem_singleton] using hknown
  have hnew : attempt ∈ s.attempts ++ [attempt] := List.mem_append_right _ List.mem_cons_self
  have hself : ¬ gapError attempt.result < gapError attempt.result := fun hless =>
    Floating.not_le_of_lt hless (Floating.le_of_lt hless)
  have hall : ∀ known ∈ s.attempts ++ [attempt],
      Attempted A input measuredTcp minimumProgress known := by
    intro known hknown
    rcases hmem known hknown with hold | rfl
    · exact h.attempts known hold
    · exact hattempt
  -- without a best attempt the first accepted one is it
  cases hbest : s.best with
  | none =>
    have hrefused := h.refused hbest
    unfold better
    dsimp only
    split
    · next haccepted =>
      refine ⟨hall, fun hnone => (by cases hnone), fun best hsome => ?_⟩
      obtain rfl := Option.some.inj hsome
      refine ⟨hnew, haccepted, fun known hknown hyes => ?_⟩
      rcases hmem known hknown with hold | rfl
      · rw [hrefused known hold] at hyes
        cases hyes
      · exact hself
    · next hno =>
      refine ⟨hall, fun _ known hknown => ?_, fun best hsome => by cases hsome⟩
      rcases hmem known hknown with hold | rfl
      · exact hrefused known hold
      · exact Bool.eq_false_of_not_eq_true hno
  | some best =>
    obtain ⟨hmember, haccepted, hleast⟩ := h.best best hbest
    unfold better
    dsimp only
    split
    · next hbetter =>
      refine ⟨hall, fun hnone => (by cases hnone), fun other hsome => ?_⟩
      obtain rfl := Option.some.inj hsome
      refine ⟨hnew, hbetter.1, fun known hknown hyes => ?_⟩
      rcases hmem known hknown with hold | rfl
      · intro hless
        refine hleast known hold hyes (FloatOrder.lt_iff.mpr ⟨FloatOrder.le_trans
          (Floating.le_of_lt hless) (Floating.le_of_lt hbetter.2), fun hback => ?_⟩)
        exact Floating.not_le_of_lt hless
          (FloatOrder.le_trans (Floating.le_of_lt hbetter.2) hback)
      · exact hself
    · -- an attempt that is no better leaves the best one
      next hworse =>
      refine ⟨hall, fun hnone => (by cases hnone), fun other hsome => ?_⟩
      obtain rfl := Option.some.inj hsome
      refine ⟨List.mem_append_left _ hmember, haccepted, fun known hknown hyes => ?_⟩
      rcases hmem known hknown with hold | rfl
      · exact hleast known hold hyes
      · exact fun hless => hworse ⟨hyes, hless⟩

/-- **One distance more.** -/
theorem tryStop_tried (h : Tried A input measuredTcp minimumProgress s) {stop : F}
    (hstop : InCorridor stop) :
    Tried A input measuredTcp minimumProgress
        (tryStop A input measuredTcp minimumProgress stop s).1 ∧
      TriedAt A input measuredTcp minimumProgress
        (tryStop A input measuredTcp minimumProgress stop s).1 stop ∧
      (∀ attempt ∈ s.attempts,
        attempt ∈ (tryStop A input measuredTcp minimumProgress stop s).1.attempts) ∧
      ∀ attempt, (tryStop A input measuredTcp minimumProgress stop s).2 = .ok attempt →
        attempt ∈ (tryStop A input measuredTcp minimumProgress stop s).1.attempts := by
  unfold tryStop
  split
  · next reason hreason =>
    exact ⟨⟨h.attempts, h.refused, h.best⟩, Or.inl ⟨reason, hreason⟩, fun _ hmem => hmem,
      fun _ hok => by cases hok⟩
  · next request hrequest =>
    refine ⟨h.snoc ⟨hrequest, rfl, hstop⟩, Or.inr ⟨_, List.mem_append_right _ List.mem_cons_self,
      rfl⟩, fun _ hmem => List.mem_append_left _ hmem, fun attempt hok => ?_⟩
    obtain rfl := Except.ok.inj hok
    exact List.mem_append_right _ List.mem_cons_self

/-- What a clamp to the corridor gives. -/
theorem inCorridor_clamp (value : F) : InCorridor
    (Floating.clamp value kContactSearchMinimumRadiusM kContactSearchMaximumRadiusM) := by
  have hself : ∀ a : F, ¬ a < a := fun a hless =>
    Floating.not_le_of_lt hless (Floating.le_of_lt hless)
  have horder : ¬ (kContactSearchMaximumRadiusM : F) < kContactSearchMinimumRadiusM := fun hless =>
    Floating.not_le_of_lt hless (FloatOrder.lit_le_lit (by norm_num))
  unfold Floating.clamp
  split
  · exact ⟨horder, Or.inl (hself _)⟩
  · next hlow =>
    split
    · exact ⟨hself _, Or.inl horder⟩
    · next hhigh => exact ⟨hhigh, Or.inl hlow⟩

/-- **The search with the gap as feedback.** -/
theorem feedback_tried (iterations : Nat) {radius : F} (last : GuardResult F)
    (hradius : InCorridor radius) (h : Tried A input measuredTcp minimumProgress s) :
    Tried A input measuredTcp minimumProgress
        (feedback A input measuredTcp minimumProgress iterations radius last s).1 ∧
      ∀ attempt, (feedback A input measuredTcp minimumProgress iterations radius last s).2 =
          .inl attempt →
        attempt ∈ (feedback A input measuredTcp minimumProgress iterations radius last
          s).1.attempts ∧ CloseEnough attempt.result := by
  induction iterations generalizing radius last s with
  | zero => exact ⟨h, fun _ hfound => by cases hfound⟩
  | succ iterations ih =>
    obtain ⟨htried, -, -, hmember⟩ := tryStop_tried h hradius
    unfold feedback
    split
    · next next reason hnext =>
      rw [hnext] at htried
      exact ⟨htried, fun _ hfound => by cases hfound⟩
    · next next attempt hnext =>
      rw [hnext] at htried hmember
      split
      · next hclose =>
        refine ⟨htried, fun found hfound => ?_⟩
        obtain rfl := Sum.inl.inj hfound
        exact ⟨hmember attempt rfl, hclose⟩
      · split
        · exact ih _ (inCorridor_clamp _) htried
        · exact ⟨htried, fun _ hfound => by cases hfound⟩

/-- The distances of the grid. -/
def gridStop : Nat → F
  | 0 => kContactSearchMaximumRadiusM
  | k + 1 => gridStop k - scanStep

/-- The grid runs downwards. -/
theorem gridStop_le (k : Nat) : (gridStop k : F) ≤ kContactSearchMaximumRadiusM := by
  have hmax : (kContactSearchMaximumRadiusM : F) ≤ kContactSearchMaximumRadiusM :=
    FloatOrder.lit_le_lit (le_refl _)
  have hfinite : Floating.isFinite (scanStep : F) = true :=
    FloatOrder.isFinite_lit (by norm_num) (by norm_num)
  have hpositive : (Floating.lit 0 : F) ≤ scanStep := FloatOrder.lit_le_lit (by norm_num)
  induction k with
  | zero => exact hmax
  | succ k ih =>
    show gridStop k - scanStep ≤ _
    exact FloatOrder.le_trans (FloatOrder.sub_le_self hfinite hpositive
      (FloatOrder.le_self_left ih)) ih

/-- **The grid**: without success every distance of it was tried. -/
theorem scanStops_tried (stops k : Nat) (h : Tried A input measuredTcp minimumProgress s) :
    Tried A input measuredTcp minimumProgress
        (scanStops A input measuredTcp minimumProgress stops (gridStop k) s).1 ∧
      (∀ attempt ∈ s.attempts, attempt ∈
        (scanStops A input measuredTcp minimumProgress stops (gridStop k) s).1.attempts) ∧
      (∀ attempt, (scanStops A input measuredTcp minimumProgress stops (gridStop k) s).2 =
          some attempt →
        attempt ∈ (scanStops A input measuredTcp minimumProgress stops (gridStop k)
          s).1.attempts ∧ CloseEnough attempt.result) ∧
      ((scanStops A input measuredTcp minimumProgress stops (gridStop k) s).2 = none →
        ∀ j, k ≤ j → j < k + stops → (∀ i, k ≤ i → i ≤ j → (scanEnd : F) ≤ gridStop i) →
          TriedAt A input measuredTcp minimumProgress
            (scanStops A input measuredTcp minimumProgress stops (gridStop k) s).1
              (gridStop j)) := by
  induction stops generalizing k s with
  | zero =>
    exact ⟨h, fun _ hmem => hmem, fun _ hfound => (by cases hfound),
      fun _ j hlow hhigh => absurd hhigh (by omega)⟩
  | succ stops ih =>
    by_cases hend : (scanEnd : F) ≤ gridStop k
    · have hcorridor : InCorridor (gridStop k : F) :=
        ⟨fun hless => Floating.not_le_of_lt hless (gridStop_le k), Or.inr hend⟩
      obtain ⟨htried, hat, hkept, hmember⟩ := tryStop_tried h hcorridor
      obtain ⟨hall, hgrows, hfound, hgrid⟩ := ih (k + 1) htried
      -- The distances from `k` on are `k` itself and those from `k + 1` on.
      have hevery : ∀ t : ContactSearch F × Option (Attempt F),
          t = scanStops A input measuredTcp minimumProgress stops (gridStop (k + 1))
            (tryStop A input measuredTcp minimumProgress (gridStop k) s).1 → t.2 = none →
          ∀ j, k ≤ j → j < k + (stops + 1) →
            (∀ i, k ≤ i → i ≤ j → (scanEnd : F) ≤ gridStop i) →
              TriedAt A input measuredTcp minimumProgress t.1 (gridStop j) := by
        rintro t rfl hnone j hlow hhigh hbefore
        by_cases hfirst : j = k
        · subst hfirst
          exact hat.imp_right fun ⟨attempt, hmem, hstop⟩ => ⟨attempt, hgrows attempt hmem, hstop⟩
        · exact hgrid hnone j (by omega) (by omega) fun i hi hij => hbefore i (by omega) hij
      unfold scanStops
      rw [if_pos hend]
      split
      · next next reason hnext =>
        rw [hnext] at hall hgrows hfound hevery hkept
        exact ⟨hall, fun attempt hmem => hgrows attempt (hkept attempt hmem), hfound,
          hevery _ rfl⟩
      · next next attempt hnext =>
        rw [hnext] at hall hgrows hfound hevery hkept htried hmember
        split
        · next hclose =>
          refine ⟨htried, hkept, fun other hother => ?_, fun hnone => by cases hnone⟩
          obtain rfl := Option.some.inj hother
          exact ⟨hmember attempt rfl, hclose⟩
        · exact ⟨hall, fun attempt hmem => hgrows attempt (hkept attempt hmem), hfound,
            hevery _ rfl⟩
    · unfold scanStops
      rw [if_neg hend]
      exact ⟨h, fun _ hmem => hmem, fun _ hfound => (by cases hfound),
        fun _ j hlow _ hbefore => absurd (hbefore k (Nat.le_refl k) hlow) hend⟩

/-- **The whole search.** -/
theorem tried (A : GuardModel F) (input : GuardInput F) (measuredTcp : RoutePose F)
    (minimumProgress nominalStop : F) :
    Tried A input measuredTcp minimumProgress
        (convergenceSearch A input measuredTcp minimumProgress nominalStop).1 ∧
      (∀ attempt, (convergenceSearch A input measuredTcp minimumProgress nominalStop).2 =
          .inl attempt →
        attempt ∈ (convergenceSearch A input measuredTcp minimumProgress
          nominalStop).1.attempts ∧ CloseEnough attempt.result) ∧
      ∀ last, (convergenceSearch A input measuredTcp minimumProgress nominalStop).2 = .inr last →
        ∀ j < kScanStops, (∀ i ≤ j, (scanEnd : F) ≤ gridStop i) →
          TriedAt A input measuredTcp minimumProgress
            (convergenceSearch A input measuredTcp minimumProgress nominalStop).1
              (gridStop j) := by
  have hempty : Tried A input measuredTcp minimumProgress (⟨[], none, ""⟩ : ContactSearch F) :=
    ⟨fun _ hmem => (List.not_mem_nil hmem).elim, fun _ _ hmem => (List.not_mem_nil hmem).elim,
      fun _ hsome => (by cases hsome)⟩
  obtain ⟨hfirst, hclose⟩ := feedback_tried kContactSearchIterations GuardResult.initial
    (inCorridor_clamp nominalStop) hempty
  unfold convergenceSearch
  split
  · next s attempt hfound =>
    rw [hfound] at hfirst hclose
    exact ⟨hfirst, fun other hother => by
      obtain rfl := Sum.inl.inj hother
      exact hclose _ rfl, fun last hlast => (by cases hlast)⟩
  · next s last hopen =>
    rw [hopen] at hfirst
    obtain ⟨hall, -, hfound, hgrid⟩ := scanStops_tried kScanStops 0 hfirst
    split
    · next t attempt hscan =>
      rw [show kContactSearchMaximumRadiusM = (gridStop 0 : F) from rfl] at hscan
      rw [hscan] at hall hfound
      exact ⟨hall, fun other hother => by
        obtain rfl := Sum.inl.inj hother
        exact hfound _ rfl, fun last hlast => (by cases hlast)⟩
    · next t hscan =>
      rw [show kContactSearchMaximumRadiusM = (gridStop 0 : F) from rfl] at hscan
      rw [hscan] at hall hgrid
      refine ⟨hall, fun other hother => (by cases hother), fun _ _ j hj hbefore => ?_⟩
      exact hgrid rfl j (Nat.zero_le j) (by omega) fun i _ hij => hbefore i hij

end Order

/-- In exact arithmetic the grid has 111 distances. -/
theorem grid_ends (k : Nat) : (scanEnd : ℝ) ≤ gridStop k ↔ k < 111 := by
  have hgrid : ∀ k, (gridStop k : ℝ) = 0.070 - k * 0.0005 := by
    intro k
    induction k with
    | zero =>
      show (Floating.lit 0.070 : ℝ) = _
      rw [RealFloat.lit_eq]
      norm_num
    | succ k ih =>
      show gridStop k - (Floating.lit 0.0005 : ℝ) = _
      rw [ih, RealFloat.lit_eq]
      push_cast
      norm_num
      ring
  have hend : (scanEnd : ℝ) = 0.01475 := by
    show (Floating.lit 0.015 : ℝ) - Floating.lit 0.5 * Floating.lit 0.0005 = _
    rw [RealFloat.lit_eq, RealFloat.lit_eq, RealFloat.lit_eq]
    norm_num
  rw [hgrid, hend]
  constructor
  · intro h
    by_contra hk
    have hcast : (111 : ℝ) ≤ k := by exact_mod_cast not_lt.mp hk
    linarith
  · intro h
    have hcast : (k : ℝ) ≤ 110 := by exact_mod_cast Nat.le_of_lt_succ h
    linarith

/-! ## §4. What it is for. -/

/-- **A proved convergence**: the attempt whose request replaces the input. -/
structure ContactProof (A : GuardModel F) (input : GuardInput F) (measuredTcp : RoutePose F)
    (minimumProgress nominalStop : F) (attempt : Attempt F) : Prop where
  member : attempt ∈
    (convergenceSearch A input measuredTcp minimumProgress nominalStop).1.attempts
  attempted : Attempted A input measuredTcp minimumProgress attempt
  accepted : attempt.result.accepted = true
  replaced : (validateConvergenceContact A input measuredTcp minimumProgress nominalStop).2 =
    input.replaced attempt.request
  result : ∃ reason, (validateConvergenceContact A input measuredTcp minimumProgress
    nominalStop).1 = { attempt.result with reason }
  corridor : kClawRailClearance - maximumRailEnvelopeIntrusionM ≤ attempt.result.clawHandGapM ∧
    attempt.result.clawHandGapM ≤ kClawRailClearance
  best : gapError attempt.result ≤ kContactTargetGapToleranceM ∨
    ∀ other ∈ (convergenceSearch A input measuredTcp minimumProgress nominalStop).1.attempts,
      other.result.accepted = true → ¬ gapError other.result < gapError attempt.result

/-- **Convergence**: the input is replaced exactly when the search succeeds, by
    the one that was proved; it fails only after every distance of the grid. -/
def ContactSound (A : GuardModel F) (input : GuardInput F) (measuredTcp : RoutePose F)
    (minimumProgress nominalStop : F) : Prop :=
  ((validateConvergenceContact A input measuredTcp minimumProgress nominalStop).1.accepted =
      true → ∃ attempt, ContactProof A input measuredTcp minimumProgress nominalStop attempt) ∧
  ((validateConvergenceContact A input measuredTcp minimumProgress nominalStop).1.accepted =
      false →
    (validateConvergenceContact A input measuredTcp minimumProgress nominalStop).2 = input ∧
      (¬ BadStop nominalStop → ¬ BadStop minimumProgress →
        (∀ attempt ∈ (convergenceSearch A input measuredTcp minimumProgress
          nominalStop).1.attempts, attempt.result.accepted = false) ∧
        ∀ j < kScanStops, (∀ i ≤ j, (scanEnd : F) ≤ gridStop i) →
          TriedAt A input measuredTcp minimumProgress
            (convergenceSearch A input measuredTcp minimumProgress nominalStop).1 (gridStop j)))

section Sound

variable [InfinityOrder F] {A : GuardModel F} {input : GuardInput F} {measuredTcp : RoutePose F}
  {minimumProgress : F}

/-- An accepted attempt ends with the hands in their corridor. -/
theorem Attempted.in_corridor (hM : A.meshes.Finite) {attempt : Attempt F}
    (h : Attempted A input measuredTcp minimumProgress attempt)
    (haccepted : attempt.result.accepted = true) :
    kClawRailClearance - maximumRailEnvelopeIntrusionM ≤ attempt.result.clawHandGapM ∧
      attempt.result.clawHandGapM ≤ kClawRailClearance := by
  rw [h.answered] at haccepted ⊢
  obtain ⟨poses, answers, hproof⟩ := accepted_proved hM haccepted
  exact (hproof.corridor rfl).2

omit [InfinityOrder F] in
/-- The exits of the search. -/
theorem validateConvergenceContact_cases (input : GuardInput F) (measuredTcp : RoutePose F)
    (minimumProgress nominalStop : F) :
    ((BadStop nominalStop ∨ BadStop minimumProgress) ∧
        (validateConvergenceContact A input measuredTcp minimumProgress nominalStop).1.accepted =
          false ∧
        (validateConvergenceContact A input measuredTcp minimumProgress nominalStop).2 = input) ∨
      (∃ attempt, (convergenceSearch A input measuredTcp minimumProgress nominalStop).2 =
          .inl attempt ∧
        validateConvergenceContact A input measuredTcp minimumProgress nominalStop =
          (attempt.result, input.replaced attempt.request)) ∨
      ∃ last, (convergenceSearch A input measuredTcp minimumProgress nominalStop).2 = .inr last ∧
        ((∃ best, (convergenceSearch A input measuredTcp minimumProgress nominalStop).1.best =
              some best ∧
            validateConvergenceContact A input measuredTcp minimumProgress nominalStop =
              ({ best.result with reason := best.result.reason ++ closestReason },
                input.replaced best.request)) ∨
          ((convergenceSearch A input measuredTcp minimumProgress nominalStop).1.best = none ∧
            (validateConvergenceContact A input measuredTcp minimumProgress
              nominalStop).1.accepted = false ∧
            (validateConvergenceContact A input measuredTcp minimumProgress nominalStop).2 =
              input)) := by
  unfold validateConvergenceContact
  split
  · next hbad => exact Or.inl ⟨hbad, rfl, rfl⟩
  · refine Or.inr ?_
    split
    · next attempt hsearch =>
      rw [hsearch]
      exact Or.inl ⟨attempt, rfl, rfl⟩
    · next s last hsearch =>
      rw [hsearch]
      refine Or.inr ⟨last, rfl, ?_⟩
      split
      · next best hbest => exact Or.inl ⟨best, hbest, rfl⟩
      · next hnone => exact Or.inr ⟨hnone, rfl, rfl⟩

theorem contact_sound (hM : A.meshes.Finite) (input : GuardInput F) (measuredTcp : RoutePose F)
    (minimumProgress nominalStop : F) :
    ContactSound A input measuredTcp minimumProgress nominalStop := by
  obtain ⟨htried, hfound, hgrid⟩ := tried A input measuredTcp minimumProgress nominalStop
  unfold ContactSound
  obtain ⟨hbad, hrefused, hinput⟩ | ⟨attempt, hexit, houtput⟩ | ⟨last, hexit, hrest⟩ :=
    validateConvergenceContact_cases (A := A) input measuredTcp minimumProgress nominalStop
  · refine ⟨fun haccepted => ?_, fun _ => ⟨hinput, fun hgood hgood' => ?_⟩⟩
    · rw [hrefused] at haccepted
      cases haccepted
    · exact absurd hbad (not_or.mpr ⟨hgood, hgood'⟩)
  · -- An attempt close to 24 mm ends the search.
    obtain ⟨hmember, haccepted, hclose⟩ := hfound attempt hexit
    have hattempted := htried.attempts attempt hmember
    refine ⟨fun _ => ⟨attempt, hmember, hattempted, haccepted, ?_, ⟨attempt.result.reason, ?_⟩,
      hattempted.in_corridor hM haccepted, Or.inl hclose⟩, fun hrefused => ?_⟩
    · rw [houtput]
    · rw [houtput]
    · rw [houtput] at hrefused
      rw [haccepted] at hrefused
      cases hrefused
  · obtain ⟨best, hbest, houtput⟩ | ⟨hnone, hrefused, hinput⟩ := hrest
    · obtain ⟨hmember, haccepted, hleast⟩ := htried.best best hbest
      have hattempted := htried.attempts best hmember
      refine ⟨fun _ => ⟨best, hmember, hattempted, haccepted, ?_,
        ⟨best.result.reason ++ closestReason, ?_⟩, hattempted.in_corridor hM haccepted,
        Or.inr hleast⟩, fun hrefused => ?_⟩
      · rw [houtput]
      · rw [houtput]
      · rw [houtput] at hrefused
        exact absurd (haccepted.symm.trans hrefused) (by simp)
    · refine ⟨fun haccepted => ?_, fun _ => ⟨hinput, fun _ _ =>
        ⟨htried.refused hnone, fun j hj hbefore => hgrid last hexit j hj hbefore⟩⟩⟩
      rw [hrefused] at haccepted
      cases haccepted

end Sound

/-- A prepared request asks for both arms, at finite points. -/
theorem prepared_finite {A : GuardModel F} {request prepared : MoveRequest F}
    {measuredTcp : RoutePose F} {stop minimumProgress : F}
    (h : prepareConvergenceGuardTargets A request measuredTcp stop minimumProgress =
      .ok prepared) :
    prepared.dual = true ∧ ∀ side, finite3 (prepared.dualTarget side) = true := by
  have hside : ∀ {measured point : Vec3 F},
      convergenceTarget A request.target measured stop minimumProgress = .ok point →
        finite3 point = true := by
    intro measured point hpoint
    unfold convergenceTarget at hpoint
    split at hpoint
    · cases hpoint
    · dsimp only at hpoint
      split at hpoint
      · cases hpoint
      · split at hpoint
        · cases hpoint
        · next hfinite =>
          obtain rfl := Except.ok.inj hpoint
          exact Bool.eq_true_of_not_eq_false hfinite
  unfold prepareConvergenceGuardTargets at h
  split at h
  · cases h
  · split at h
    · cases h
    · next left hleft =>
      split at h
      · cases h
      · next right hright =>
        obtain rfl := Except.ok.inj h
        refine ⟨rfl, ?_⟩
        rw [Fin.forall_fin_two]
        exact ⟨hside hleft, hside hright⟩

/-- The facing arms converge. -/
theorem contact_sound_held :
    (validateConvergenceContact heldModel (heldInput meetRequest)
      (fun side => origin (placed (1 / 20) side)) (Floating.lit 0.001) (Floating.lit 0.045)).1.accepted =
        true ∧
      ContactSound heldModel (heldInput meetRequest) (fun side => origin (placed (1 / 20) side))
        (Floating.lit 0.001) (Floating.lit 0.045) := by
  have hsound := contact_sound (A := heldModel) (fun _ _ _ => ⟨rfl, rfl⟩) (heldInput meetRequest)
    (fun side => origin (placed (1 / 20) side)) (Floating.lit 0.001) (Floating.lit 0.045)
  refine ⟨?_, hsound⟩
  by_contra hrefused
  -- At 45 mm there is an attempt, and the arms hold whatever is asked of them.
  obtain ⟨-, hrest⟩ := hsound.2 (Bool.eq_false_of_not_eq_true hrefused)
  obtain ⟨hnone, hgrid⟩ := hrest (by decide +kernel) (by decide +kernel)
  have hprepares : (prepareConvergenceGuardTargets heldModel meetRequest
      (fun side => origin (placed (1 / 20) side)) (gridStop 50) (Floating.lit 0.001)).isOk = true := by
    decide +kernel
  rcases hgrid 50 (by decide) (by decide +kernel) with ⟨reason, herror⟩ | ⟨attempt, hmem, -⟩
  · rw [show (heldInput meetRequest).request = meetRequest from rfl] at herror
    rw [herror] at hprepares
    cases hprepares
  · obtain ⟨htried, -, -⟩ := tried heldModel (heldInput meetRequest)
      (fun side => origin (placed (1 / 20) side)) (Floating.lit 0.001) (Floating.lit 0.045)
    obtain ⟨hprepared, hanswered, -⟩ := htried.attempts attempt hmem
    obtain ⟨hdual, hfinite⟩ := prepared_finite hprepared
    have hno := hnone attempt hmem
    rw [hanswered] at hno
    have htarget : FiniteTarget (heldInput attempt.request) := by
      unfold FiniteTarget
      rw [if_pos (show (heldInput attempt.request).request.dual = true from hdual)]
      exact hfinite
    have hyes := held_accepted htarget
    exact absurd (hyes.symm.trans hno) (by simp)

end OpenArm.Guard
