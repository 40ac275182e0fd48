/-
  OpenArm.Guard.Ray — the ray of a projection over the real numbers.

  In exact arithmetic the points of the search lie on the segment from the
  measured tool to the target, no farther than two metres, and the distance
  and the fraction that are reported are the true ones.

  Main results:
    * `rayTo_exact`           — the ray is the segment to the target.
    * `search_inReach`        — all points of the search lie on it.
    * `projection_on_segment` — where an accepted projection takes the tool.
-/
import OpenArm.Guard.Projection

namespace OpenArm.Guard

open OpenArm.Lib OpenArm.Control OpenArm.Model

/-! ## §1. The ray. -/

/-- The real numbers compare as floats do. -/
instance : FloatOrder ℝ where
  le_self_of_isFinite _ := le_refl (α := ℝ) _
  le_self_left _ := le_refl (α := ℝ) _
  le_self_right _ := le_refl (α := ℝ) _
  le_trans := le_trans (α := ℝ)
  le_total _ _ := le_total (α := ℝ) _ _
  lt_iff := lt_iff_le_not_ge (α := ℝ)
  sub_le_sub _ h := sub_le_sub_right (α := ℝ) h _
  sub_le_self _ h _ := by
    rw [RealFloat.lit_eq, Rat.cast_zero] at h
    exact sub_le_self _ h
  abs_sub_self _ _ := le_refl (α := ℝ) _
  lit_le_lit h := Rat.cast_le.mpr h
  isFinite_lit _ _ := rfl

/-- The distance of two points. -/
noncomputable def distance (a b : Vec3 ℝ) : ℝ := Real.sqrt (∑ axis, (b axis - a axis) ^ 2)

/-- `std::min` is the minimum. -/
theorem min_eq (a b : ℝ) : Floating.min a b = min a b := by
  unfold Floating.min
  split
  · next hlt => rw [min_eq_right (le_of_lt hlt)]
  · next hnot => rw [min_eq_left (not_lt.mp hnot)]

/-- The sum over the axes, as the code adds it up. -/
theorem foldl_axes (f : Fin 3 → ℝ) :
    (List.finRange 3).foldl (fun sum axis => sum + f axis) (Floating.lit 0.0) =
      ∑ axis, f axis := by
  rw [Fin.sum_univ_three, RealFloat.lit_eq]
  show ((((0.0 : ℚ) : ℝ) + f 0) + f 1) + f 2 = _
  norm_num

/-- Scaling a vector before its norm is taken does not change the product. -/
theorem scaled_norm {delta : Fin 3 → ℝ} {scale : ℝ} (hscale : 0 < scale) :
    scale * Real.sqrt (∑ axis, delta axis / scale * (delta axis / scale)) =
      Real.sqrt (∑ axis, delta axis ^ 2) := by
  have hsum : ∑ axis, delta axis / scale * (delta axis / scale) =
      (∑ axis, delta axis ^ 2) / scale ^ 2 := by
    rw [Finset.sum_div]
    refine Finset.sum_congr rfl fun axis _ => ?_
    rw [div_mul_div_comm, ← sq, ← sq]
  rw [hsum, Real.sqrt_div' _ (sq_nonneg scale), Real.sqrt_sq hscale.le]
  exact mul_div_cancel₀ _ hscale.ne'

/-- The scale and the scaled norm of a ray make its length. -/
theorem rayTo_norm {start target : Vec3 ℝ} {ray : Ray ℝ} (h : rayTo start target = .ok ray) :
    0 < ray.deltaScale ∧ 0 < ray.scaledNorm ∧
      ray.deltaScale * ray.scaledNorm = distance start target := by
  unfold rayTo at h
  dsimp only at h
  split at h
  · cases h
  · next hscale =>
    split at h
    · cases h
    · next hnorm =>
      obtain rfl := Except.ok.inj h
      dsimp only
      rw [not_or, not_not] at hscale hnorm
      have hzero : (0 : ℝ) ≤ Floating.lit 0.0 := by
        rw [RealFloat.lit_eq]
        norm_num
      have hpositive := lt_of_le_of_lt hzero hscale.1
      have hpositive' := lt_of_le_of_lt hzero hnorm.1
      rw [foldl_axes, RealFloat.sqrt_eq] at hpositive' ⊢
      exact ⟨hpositive, hpositive', scaled_norm hpositive⟩

/-- The largest of the axes, as the code finds it. -/
theorem le_foldl_axes (f : Fin 3 → ℝ) (axis : Fin 3) :
    f axis ≤ (List.finRange 3).foldl (fun scale axis => Floating.max scale (f axis))
      (Floating.lit 0.0) := by
  show f axis ≤ Floating.max (Floating.max (Floating.max (Floating.lit 0.0) (f 0)) (f 1)) (f 2)
  simp only [RealFloat.max_eq]
  fin_cases axis
  · exact le_max_of_le_left (le_max_of_le_left (le_max_right _ _))
  · exact le_max_of_le_left (le_max_right _ _)
  · exact le_max_right _ _

/-- There is a ray to every other point. -/
theorem rayTo_of_ne {start target : Vec3 ℝ} (axis : Fin 3) (h : target axis ≠ start axis) :
    ∃ ray, rayTo start target = .ok ray := by
  have hzero : (Floating.lit 0.0 : ℝ) = 0 := by
    rw [RealFloat.lit_eq]
    norm_num
  unfold rayTo
  dsimp only
  set scale := (List.finRange 3).foldl
    (fun scale axis => Floating.max scale (Floating.abs (target axis - start axis)))
      (Floating.lit 0.0) with hscale
  have hpositive : 0 < scale :=
    lt_of_lt_of_le (abs_pos.mpr (sub_ne_zero.mpr h))
      (le_foldl_axes (fun axis => Floating.abs (target axis - start axis)) axis)
  have hnorm : 0 < Real.sqrt (∑ axis, (target axis - start axis) / scale *
      ((target axis - start axis) / scale)) := by
    refine Real.sqrt_pos.mpr (Finset.sum_pos' (fun _ _ => mul_self_nonneg _)
      ⟨axis, Finset.mem_univ axis, mul_self_pos.mpr ?_⟩)
    exact div_ne_zero (sub_ne_zero.mpr h) hpositive.ne'
  rw [foldl_axes, hzero, RealFloat.sqrt_eq, if_neg (by simp [hpositive, Floating.isFinite]),
    if_neg (by simp [hnorm, Floating.isFinite])]
  exact ⟨_, rfl⟩

/-- A ray whose length does not overflow is the straight line to the target. -/
theorem rayTo_exact {start target : Vec3 ℝ} {ray : Ray ℝ} (h : rayTo start target = .ok ray)
    (hfits : distance start target ≤ dblMax) :
    0 < distance start target ∧ ray.totalDistance = distance start target ∧
      ray.searchDistance = min (distance start target) 2 ∧
      ∀ axis, ray.unit axis = (target axis - start axis) / distance start target := by
  obtain ⟨hscale, hnorm, hlength⟩ := rayTo_norm h
  have hdistance : 0 < distance start target := by
    rw [← hlength]
    positivity
  have hnormal : ¬ dblMax / ray.scaledNorm < ray.deltaScale := by
    rw [not_lt, le_div_iff₀ hnorm, hlength]
    exact hfits
  unfold rayTo at h
  dsimp only at h
  split at h
  · cases h
  · split at h
    · cases h
    · obtain rfl := Except.ok.inj h
      dsimp only at hnormal hlength ⊢
      have hfinite : Floating.isFinite (distance start target) = true := rfl
      rw [if_neg hnormal, hlength, if_pos hfinite]
      refine ⟨hdistance, rfl, ?_, fun axis => ?_⟩
      · rw [min_eq]
        show min _ ((2.0 : ℚ) : ℝ) = _
        norm_num
      · rw [div_div, hlength]

/-- A point of the ray, as a point of the segment. -/
theorem candidateAt_exact {start target : Vec3 ℝ} {ray : Ray ℝ} (h : rayTo start target = .ok ray)
    (hfits : distance start target ≤ dblMax) (d : ℝ) :
    candidateAt ray d = interpolate start target (d / distance start target) := by
  obtain ⟨-, -, -, hunit⟩ := rayTo_exact h hfits
  funext axis
  show ray.start axis + ray.unit axis * d =
    start axis + d / distance start target * (target axis - start axis)
  rw [rayTo_start h, hunit axis]
  ring

/-- The point at a share of the way is at that share of the distance. -/
theorem distance_interpolate {start target : Vec3 ℝ} {share : ℝ} (h : 0 ≤ share) :
    distance start (interpolate start target share) = share * distance start target := by
  have hsum : ∑ axis, (interpolate start target share axis - start axis) ^ 2 =
      share ^ 2 * ∑ axis, (target axis - start axis) ^ 2 := by
    rw [Finset.mul_sum]
    refine Finset.sum_congr rfl fun axis _ => ?_
    unfold interpolate
    ring
  unfold distance
  rw [hsum, Real.sqrt_mul (sq_nonneg share), Real.sqrt_sq h]

/-! ## §2. The points of the search. -/

/-- All points lie on the ray, up to its end. -/
structure InReach (ray : Ray ℝ) (s : Search ℝ) : Prop where
  points : ∀ point ∈ s.evaluated, 0 < point.1 ∧ point.1 ≤ ray.searchDistance
  barrier : s.keepoutBarrier ≤ ray.searchDistance

section Search

variable {A : GuardModel ℝ} {input : GuardInput ℝ} {ray : Ray ℝ}
  {requested stationary : GuardResult ℝ} {s : Search ℝ}

theorem InReach.snoc (h : InReach ray s) (point : ℝ × GuardResult ℝ)
    (hpoint : 0 < point.1 ∧ point.1 ≤ ray.searchDistance) :
    ∀ known ∈ s.evaluated ++ [point], 0 < known.1 ∧ known.1 ≤ ray.searchDistance := by
  intro known hknown
  rcases List.mem_append.mp hknown with hold | hnew
  · exact h.points known hold
  · rw [List.mem_singleton.mp hnew]
    exact hpoint

/-- A keepout is seen no farther than the point that was asked for. -/
theorem keepout_le {d : ℝ} {candidate : GuardResult ℝ} (hd : 0 < d) (h : Locates d candidate) :
    d * candidate.failurePathFraction ≤ d := by
  have hone := h.2.2.2.1
  rw [RealFloat.lit_eq, not_lt] at hone
  norm_num at hone
  nlinarith

/-- A scan stays on the ray where its steps do. -/
theorem scan_inReach (A : GuardModel ℝ) (input : GuardInput ℝ)
    (distanceOf : Search ℝ → Nat → ℝ) (steps : List Nat)
    (hsteps : ∀ step ∈ steps, ∀ s, InReach ray s →
      (s.observedKeepout = true → distanceOf s step < s.keepoutBarrier) →
        0 < distanceOf s step ∧ distanceOf s step ≤ ray.searchDistance)
    (h : InReach ray s) : InReach ray (scan A input ray distanceOf steps s) := by
  induction steps generalizing s with
  | nil => exact h
  | cons step steps ih =>
    have hlater := fun other hother => hsteps other (List.mem_cons_of_mem step hother)
    unfold scan
    dsimp only
    split
    · exact h
    · next hnot =>
      have hpoint := hsteps step List.mem_cons_self s h fun hobserved => by
        by_contra hfar
        exact hnot ⟨hobserved, hfar⟩
      have hpoints := h.snoc (distanceOf s step, evaluate A input ray (distanceOf s step)) hpoint
      split
      · exact ih hlater ⟨hpoints, h.barrier⟩
      · split
        · next hlocates =>
          unfold observeKeepout
          dsimp only
          split
          · exact ⟨hpoints, (keepout_le hpoint.1 hlocates).trans hpoint.2⟩
          · exact ⟨hpoints, h.barrier⟩
        · split
          · exact ih hlater ⟨hpoints, h.barrier⟩
          · exact ih hlater ⟨hpoints, h.barrier⟩

/-- A share of a positive reach. -/
theorem share_mem {limit : ℝ} {step count : Nat} (hstep : step ∈ List.range' 1 count)
    (hlimit : 0 < limit) : 0 < limit * (step : ℝ) / (count : ℝ) ∧
      limit * (step : ℝ) / (count : ℝ) ≤ limit := by
  rw [List.mem_range'_1] at hstep
  have hpositive : (0 : ℝ) < step := by exact_mod_cast (by omega : 0 < step)
  have hcount : (step : ℝ) ≤ count := by exact_mod_cast (by omega : step ≤ count)
  have hcount' : (0 : ℝ) < count := lt_of_lt_of_le hpositive hcount
  refine ⟨by positivity, ?_⟩
  rw [div_le_iff₀ hcount']
  exact mul_le_mul_of_nonneg_left hcount hlimit.le

theorem InReach.same {t : Search ℝ} (h : InReach ray s) (hsame : SameSearch s t) :
    InReach ray t := by
  refine ⟨?_, ?_⟩
  · rw [hsame.evaluated]
    exact h.points
  · rw [hsame.barrier]
    exact h.barrier

theorem reach_le (h : InReach ray s) : reach ray s ≤ ray.searchDistance := by
  unfold reach
  split
  · exact h.barrier
  · exact le_refl _

/-- The first points. -/
theorem coarse_inReach (hray : 0 < ray.searchDistance) (h : InReach ray s)
    (hsearched : Searched A input ray requested stationary s) :
    InReach ray (coarse A input ray s) := by
  have hscanned : InReach ray (scan A input ray (coarseDistance ray)
      (List.range' 1 kProjectionSearchSteps) s) := by
    refine scan_inReach A input _ _ (fun step hstep s hs hbefore => ?_) h
    unfold coarseDistance at hbefore ⊢
    by_cases hpositive : 0 < reach ray s
    · obtain ⟨hless, hle⟩ := share_mem hstep hpositive
      exact ⟨hless, hle.trans (reach_le hs)⟩
    · -- No point lies before a barrier that is not ahead.
      exfalso
      by_cases hobserved : s.observedKeepout = true
      · have hnear := hbefore hobserved
        have hreach : reach ray s = s.keepoutBarrier := if_pos hobserved
        rw [hreach] at hpositive hnear
        rw [List.mem_range'_1] at hstep
        have hcount : (step : ℝ) ≤ kProjectionSearchSteps := by
          exact_mod_cast (by omega : step ≤ kProjectionSearchSteps)
        have hsteps : (0 : ℝ) < kProjectionSearchSteps := by
          exact_mod_cast (by decide : 0 < kProjectionSearchSteps)
        rw [RealFloat.ofNat_eq, RealFloat.ofNat_eq, div_lt_iff₀ hsteps] at hnear
        nlinarith
      · have hreach : reach ray s = ray.searchDistance := if_neg hobserved
        rw [hreach] at hpositive
        exact hpositive hray
  exact hscanned.same (selectFarthestAllowed_chosen (scan_searched _ _ hsearched).1).1

/-- A candidate is not behind the start. -/
theorem chosen_nonneg (hsearched : Searched A input ray requested stationary s)
    (hchosen : Chosen stationary s) (h : InReach ray s) : 0 ≤ s.acceptedDistance := by
  have hmember := hchosen.member
  rw [hsearched.candidates] at hmember
  rcases List.mem_cons.mp hmember with hstay | hpoint
  · rw [(Prod.mk.inj hstay).1, RealFloat.lit_eq]
    norm_num
  · exact (h.points _ (List.mem_filter.mp hpoint).1).1.le

/-- The finer rounds. -/
theorem refine_inReach (rounds : List Nat) (h : InReach ray s)
    (hsearched : Searched A input ray requested stationary s) (hchosen : Chosen stationary s) :
    InReach ray (refine A input ray rounds s) := by
  induction rounds generalizing s with
  | nil => exact h
  | cons round rounds ih =>
    unfold refine
    split
    · next hspan =>
      have hpositive : 0 < reach ray s - s.acceptedDistance := by
        refine lt_of_le_of_lt ?_ hspan
        unfold kMinimumProjectedMotionM
        rw [RealFloat.lit_eq, RealFloat.lit_eq]
        norm_num
      have hnonneg := chosen_nonneg hsearched hchosen h
      have hscanned := scan_inReach A input
        (fun _ => refineDistance ray (kProjectionRefinementSamples * (round + 1)) s)
        (List.range' 1 (kProjectionRefinementSamples * (round + 1)))
        (fun step hstep _ _ _ => by
          obtain ⟨hless, hle⟩ := share_mem hstep hpositive
          have hreach := reach_le h
          unfold refineDistance
          rw [RealFloat.ofNat_eq, RealFloat.ofNat_eq]
          exact ⟨add_pos_of_nonneg_of_pos hnonneg hless, by linarith⟩) h
      obtain ⟨hsearched', -⟩ := scan_searched
        (fun _ => refineDistance ray (kProjectionRefinementSamples * (round + 1)) s)
        (List.range' 1 (kProjectionRefinementSamples * (round + 1))) hsearched
      obtain ⟨hsame, hchoice⟩ := selectFarthestAllowed_chosen hsearched'
      exact ih (hscanned.same hsame) (hsearched'.same hsame) hchoice
    · exact h

/-- **All points of the search.** -/
theorem search_inReach (A : GuardModel ℝ) (input : GuardInput ℝ)
    (requested stationary : GuardResult ℝ) (hray : 0 < ray.searchDistance) :
    InReach ray (projectionSearch A input ray requested stationary) := by
  have hbegin : InReach ray (beginSearch ray requested stationary) := by
    refine ⟨fun point hpoint => (List.not_mem_nil hpoint).elim, ?_⟩
    show (if RequestLocates ray requested then
      ray.totalDistance * requested.failurePathFraction else ray.searchDistance) ≤ _
    split
    · next hlocates => exact hlocates.2.2.2
    · exact le_refl _
  obtain ⟨hcoarse, hchosen, -⟩ := scan_chosen (coarseDistance ray)
    (List.range' 1 kProjectionSearchSteps)
    (beginSearch_searched : Searched A input ray requested stationary _)
  exact refine_inReach _ (coarse_inReach hray hbegin beginSearch_searched) hcoarse hchosen

end Search

/-! ## §3. Where a projection goes. -/

/-- **A projection in exact arithmetic**: an accepted request stays as it is, or
    takes its tool to a point of the segment to the target, a millimetre to two
    metres away, that the guard accepts as a target of its own. -/
def ProjectionOnSegment (A : GuardModel ℝ) (input : GuardInput ℝ) : Prop :=
  validateOrProject A input = validate A input ∨
    ∃ start d point,
      start = (validate A (stationaryInput A input)).measuredTcp input.request.side ∧
      point = interpolate start input.request.target (d / distance start input.request.target) ∧
      distance start point = d ∧
      1 / 1000 ≤ d ∧ d ≤ min (distance start input.request.target) 2 ∧
      (validate A (input.aimed point)).accepted = true ∧
      (∀ side, (validateOrProject A input).commandedTcp side =
        if side = input.request.side then point
        else (validateOrProject A input).measuredTcp side) ∧
      (validateOrProject A input).minimumNominalClearanceM =
        (validate A (input.aimed point)).minimumNominalClearanceM ∧
      (validateOrProject A input).achievedFraction = d / distance start input.request.target

/-- The length of the ray must not overflow; the code takes a way of its own then. -/
theorem projection_on_segment {A : GuardModel ℝ} {input : GuardInput ℝ}
    (haccepted : (validateOrProject A input).accepted = true)
    (hfits : distance ((validate A (stationaryInput A input)).measuredTcp input.request.side)
      input.request.target ≤ dblMax) : ProjectionOnSegment A input := by
  obtain hsame | ⟨hsingle, -, -, ray, hray, hfar, hresult⟩ :=
    validateOrProject_cases A input haccepted
  · exact Or.inl hsame
  obtain ⟨hpositive, htotal, hsearch, -⟩ := rayTo_exact hray hfits
  have hreach : 0 < ray.searchDistance := by
    rw [hsearch]
    exact lt_min hpositive (by norm_num)
  have hinside := search_inReach A input (validate A input)
    (validate A (stationaryInput A input)) hreach
  obtain ⟨hsearched, hchosen, -⟩ := searched A input ray (validate A input)
    (validate A (stationaryInput A input))
  set s := projectionSearch A input ray (validate A input)
    (validate A (stationaryInput A input)) with hs
  have hmillimetre : 1 / 1000 ≤ s.acceptedDistance := by
    unfold kMinimumProjectedMotionM at hfar
    rw [RealFloat.lit_eq] at hfar
    norm_num at hfar ⊢
    exact hfar
  -- A millimetre is not the start, so the choice is a point the guard accepted.
  have hmoved : ¬ s.acceptedDistance = Floating.lit 0.0 := by
    intro hzero
    rw [RealFloat.lit_eq] at hzero
    norm_num at hzero hmillimetre
    linarith
  obtain ⟨hasked, hbest, hchoice⟩ := hsearched.choice hchosen hmoved
  have hle := (hinside.points _ hasked).2
  rw [hsearch] at hle
  have hshare : 0 ≤ s.acceptedDistance / distance
      ((validate A (stationaryInput A input)).measuredTcp input.request.side)
      input.request.target := by
    have hnonneg : 0 ≤ s.acceptedDistance := by linarith
    positivity
  refine Or.inr ⟨_, s.acceptedDistance, candidateAt ray s.acceptedDistance, rfl,
    candidateAt_exact hray hfits _, ?_, hmillimetre, hle, hchoice, fun side => ?_, ?_, ?_⟩
  · rw [candidateAt_exact hray hfits, distance_interpolate hshare]
    exact div_mul_cancel₀ _ hpositive.ne'
  · rw [hresult]
    exact projected_commanded hsingle hbest hchoice side
  · rw [hresult]
    show s.best.minimumNominalClearanceM = _
    rw [hbest]
    rfl
  · -- the fraction is not clamped: the choice lies between the ends of the segment
    rw [hresult]
    show acceptedFraction ray s.acceptedDistance = _
    have hfinite : Floating.isFinite ray.totalDistance = true := rfl
    unfold acceptedFraction
    rw [if_pos hfinite, htotal]
    have hwhole : s.acceptedDistance / distance
        ((validate A (stationaryInput A input)).measuredTcp input.request.side)
        input.request.target ≤ 1 := by
      rw [div_le_one hpositive]
      exact hle.trans (min_le_left _ _)
    unfold Floating.clamp
    rw [RealFloat.lit_eq, RealFloat.lit_eq, if_neg (by norm_num; exact hshare),
      if_neg (by norm_num; exact hwhole)]

/-! ## §4. A request that is shortened. -/

section Points

variable {p q : Vec3 ℝ} {radiusA radiusB : ℝ}

/-- The clearance of segments without length. -/
theorem detail_points (hA : 0 ≤ radiusA) (hB : 0 ≤ radiusB) :
    (segmentClearanceDetail p p q q radiusA radiusB).value =
      norm3 (subtract3 p q) - (radiusA + radiusB) := by
  have hzero : (Floating.lit 0.0 : ℝ) = 0 := by
    rw [RealFloat.lit_eq]
    norm_num
  have htiny : ∀ p : Vec3 ℝ, dot3 (subtract3 p p) (subtract3 p p) ≤ Floating.lit 1.0e-18 := by
    intro p
    simp only [dot3, subtract3, sub_self, RealFloat.lit_eq]
    norm_num
  unfold segmentClearanceDetail
  dsimp only
  rw [hzero, if_neg (by simp [finite3, Floating.isFinite, hA, hB]), if_pos ⟨htiny p, htiny q⟩]

/-- The clearance from the pole of a segment without length, up to a nanometre:
    its distance from the axis less the radii, or more. -/
theorem cylinder_point {far : ℝ} (hx : p 0 = 0) (hy : |p 1| = far) (hfar : 1 ≤ far)
    (hB : 0 ≤ radiusB) (hsmall : radiusB ≤ 1 / 10) : tooSmall requiredClearanceM
      (finiteCylinderCapsuleClearance p p kPoleRadius kPoleBottom kPoleTop radiusB) = false := by
  have hstay : ∀ t : ℝ, addScaled3 p (subtract3 p p) t = p := by
    intro t
    funext axis
    simp [addScaled3, subtract3]
  have hplanar : Metric.hypot (p 0) (p 1) = far := by
    show Real.sqrt (p 0 * p 0 + p 1 * p 1) = far
    rw [hx, mul_zero, zero_add, Real.sqrt_mul_self_eq_abs, hy]
  have hgap : far - 1 / 20 ≤
      Real.sqrt (pointCylinderDistanceSquared p kPoleRadius kPoleBottom kPoleTop) := by
    refine Real.le_sqrt_of_sq_le ?_
    unfold pointCylinderDistanceSquared
    dsimp only
    rw [hplanar, if_pos (by simp only [kPoleRadius, RealFloat.lit_eq]; norm_num; linarith)]
    have haxial : ∀ gap : ℝ, 0 ≤ gap * gap := fun gap => mul_self_nonneg gap
    have hradial : (far - 1 / 20) ^ 2 ≤ (far - kPoleRadius) * (far - kPoleRadius) := by
      simp only [kPoleRadius, RealFloat.lit_eq]
      norm_num
      nlinarith
    linarith [haxial (if p 2 < kPoleBottom then kPoleBottom - p 2
      else if kPoleTop < p 2 then p 2 - kPoleTop else Floating.lit 0.0)]
  have hvalue : far - 1 / 20 - 1e-9 - radiusB ≤
      finiteCylinderCapsuleClearance p p kPoleRadius kPoleBottom kPoleTop radiusB := by
    unfold finiteCylinderCapsuleClearance
    dsimp only
    simp only [hstay, min_eq, min_self]
    rw [if_neg (by
      simp only [kPoleRadius, kPoleBottom, kPoleTop, RealFloat.lit_eq]
      norm_num [finite3, Floating.isFinite, hB])]
    simp only [RealFloat.sqrt_eq, RealFloat.lit_eq]
    split
    · next hbelow =>
      norm_num at hbelow
      linarith
    · norm_num
      linarith
  rw [tooSmall_eq_false]
  refine ⟨le_refl (α := ℝ) _, not_lt.mpr ?_⟩
  unfold requiredClearanceM
  rw [RealFloat.lit_eq]
  norm_num at hvalue ⊢
  linarith

end Points

/-- Four metres beside the pole, to the left or to the right. -/
noncomputable def parkedTransform (side : Side) : Transform ℝ := fun index =>
  if index = 7 then (if side = 0 then 4 else -4) else 0

noncomputable def parkedPose (side : Side) : FkResult ℝ where
  baseInBody := parkedTransform side
  jointPre _ := parkedTransform side
  linkPost _ := parkedTransform side
  jointAxisBody _ := fun _ => 0
  handTcp := parkedTransform side

/-- How far to the left the parked arms reach: 50 mm beyond their tools. -/
noncomputable def parkedReach : ℝ := Floating.lit 4.05

theorem parkedReach_eq : parkedReach = 4 + 1 / 20 := by
  unfold parkedReach
  rw [RealFloat.lit_eq]
  norm_num

/-- Parked arms, whose inverse kinematics ends at that reach. -/
noncomputable def parkedModel : GuardModel ℝ where
  limits _ _ := some (-1, 1)
  forward side _ := some (parkedPose side)
  inverse _ target seed :=
    if target 1 ≤ parkedReach then
      some { q := seed, positionErrorM := 0, collisionChecked := false }
    else none
  meshes := ⟨fun _ _ => (.ok, 0, 0)⟩
  jsonNumber _ := ""
  toText _ := ""
  hypot3 x y z := Real.sqrt (x * x + y * y + z * z)

/-- The left tool is asked to go to a point. -/
noncomputable def parkedInput (target : Vec3 ℝ) : GuardInput ℝ where
  measuredQ _ _ := 0
  request := {
    side := 0
    target
    motionLimitScale := 1
    dual := false
    dualTarget := fun _ => zeroPoint }
  contactPolicy := contactNone
  requireTerminalContact := false
  terminalRetreat := false
  preservedSide := -1

/-- Where the tools are. -/
noncomputable def parkedPoint (side : Side) : Vec3 ℝ := origin (parkedTransform side)

theorem parked_scene (side : Side) (index : Fin 8) :
    (sceneFromFk (parkedPose 0) (parkedPose 1)).point side index = parkedPoint side := by
  unfold sceneFromFk parkedPoint
  dsimp only
  revert side
  rw [Fin.forall_fin_two]
  constructor
  · split
    · rfl
    · rfl
  · split
    · rfl
    · rfl

theorem parked_axes (side : Side) : parkedPoint side 0 = 0 ∧ |parkedPoint side 1| = 4 := by
  revert side
  rw [Fin.forall_fin_two]
  constructor
  · simp [parkedPoint, parkedTransform, origin]
  · simp [parkedPoint, parkedTransform, origin]

theorem radius_mem (segment : Fin 7) : (0 ≤ (armRadius segment : ℝ) ∧ armRadius segment ≤
      (1 / 10 : ℝ)) ∧ 0 ≤ (poleRadius segment : ℝ) ∧ poleRadius segment ≤ (1 / 10 : ℝ) := by
  unfold armRadius poleRadius kToolRadius kArmRadius
  simp only [RealFloat.lit_eq]
  refine ⟨?_, ?_⟩
  · split
    · norm_num
    · norm_num
  · split
    · norm_num
    · split
      · norm_num
      · norm_num

/-- The parked arms are clear. -/
theorem parked_clear : (parkedModel.sceneAnswer contactNone (parkedPose 0) (parkedPose 1)).status =
      .ok ∧
    (parkedModel.sceneAnswer contactNone (parkedPose 0) (parkedPose 1)).report.clear = true := by
  refine clear_of_kept rfl (Nat.le_refl _) (by rfl) (fun pair => ?_) rfl
  cases pair with
  | arms left right =>
    obtain ⟨hleft, -⟩ := radius_mem left
    obtain ⟨hright, -⟩ := radius_mem right
    have hdistance : norm3 (subtract3 (parkedPoint 0) (parkedPoint 1)) = 8 := by
      have hsquare : dot3 (subtract3 (parkedPoint 0) (parkedPoint 1))
          (subtract3 (parkedPoint 0) (parkedPoint 1)) = 8 ^ 2 := by
        simp [dot3, subtract3, parkedPoint, parkedTransform, origin]
        norm_num
      unfold norm3
      rw [hsquare, RealFloat.sqrt_eq, Real.sqrt_sq (by norm_num)]
    unfold CollisionScene.clearance CollisionScene.armDetail CollisionScene.lower
      CollisionScene.upper
    dsimp only
    simp only [parked_scene]
    rw [detail_points hleft.1 hright.1, hdistance, tooSmall_eq_false]
    refine ⟨le_refl (α := ℝ) _, not_lt.mpr ?_⟩
    unfold requiredClearanceM
    rw [RealFloat.lit_eq]
    norm_num
    linarith [hleft.2, hright.2]
  | pole side segment =>
    obtain ⟨-, hradius⟩ := radius_mem segment
    obtain ⟨hx, hy⟩ := parked_axes side
    unfold CollisionScene.clearance CollisionScene.lower CollisionScene.upper
    dsimp only
    simp only [parked_scene]
    exact cylinder_point hx hy (by norm_num) hradius.1 hradius.2

theorem parked_resting (target : Vec3 ℝ) : Resting parkedModel (parkedInput target) parkedPose
    fun target => target 1 ≤ parkedReach where
  forward _ _ := rfl
  holds _ _ _ hnear := by
    refine ⟨_, if_pos hnear, rfl, rfl, rfl, ?_⟩
    rw [RealFloat.lit_eq]
    norm_num
  fails _ _ _ hfar := if_neg hfar
  valid side := by
    unfold GuardModel.validateQ parkedModel parkedInput kMeasuredLimitTolerance
    simp only [RealFloat.lit_eq, List.all_eq_true]
    norm_num [Floating.isFinite]
  still _ _ := by
    simp only [RealFloat.abs_eq, RealFloat.lit_eq, sub_self, abs_zero]
    norm_num
  clear := parked_clear
  contact hwants := absurd hwants Bool.false_ne_true
  stays := rfl

/-- A metre to the left, which is out of reach. -/
noncomputable def farTarget : Vec3 ℝ := ![0, Floating.lit 5, 0]

/-- The left tool on its way. -/
theorem parked_waypoint (target : Vec3 ℝ) (k : Nat) (side : Side) :
    sideWaypoint (parkedInput target) (fun side => origin (parkedPose side).handTcp)
      (fraction k) side 1 = if side = 0 then 4 + (k : ℝ) / 16 * (target 1 - 4) else -4 := by
  have hfraction : (fraction k : ℝ) = (k : ℝ) / 16 := by
    unfold fraction kSamples
    rw [RealFloat.ofNat_eq, RealFloat.ofNat_eq]
    norm_num
  unfold sideWaypoint parkedInput
  dsimp only
  rw [if_neg (by simp), hfraction]
  revert side
  rw [Fin.forall_fin_two]
  constructor
  · simp [interpolate, parkedPose, parkedTransform, origin]
  · simp [parkedPose, parkedTransform, origin]

/-- Up to 50 mm to the left everything is within reach. -/
theorem parked_accepted {target : Vec3 ℝ} (h : target 1 ≤ parkedReach) :
    (validate parkedModel (parkedInput target)).accepted = true := by
  refine (parked_resting target).accepted rfl fun k hk side => ?_
  rw [parked_waypoint]
  have hk' : ((k + 1 : Nat) : ℝ) ≤ 16 := by exact_mod_cast hk
  have hpositive : (0 : ℝ) ≤ ((k + 1 : Nat) : ℝ) := Nat.cast_nonneg _
  rw [parkedReach_eq] at h ⊢
  split
  · nlinarith
  · norm_num

theorem distance_farTarget : distance (parkedPoint 0) farTarget = 1 := by
  have hsum : ∑ axis, (farTarget axis - parkedPoint 0 axis) ^ 2 = 1 := by
    rw [Fin.sum_univ_three]
    simp [farTarget, parkedPoint, parkedTransform, origin]
    norm_num
  unfold distance
  rw [hsum, Real.sqrt_one]

theorem one_le_dblMax : (1 : ℝ) ≤ dblMax := by
  have hpower : (1 : ℚ) ≤ 2 ^ 971 := one_le_pow₀ (by norm_num)
  have hmax : (1 : ℚ) ≤ (2 ^ 53 - 1) * 2 ^ 971 :=
    one_le_mul_of_one_le_of_one_le (by norm_num) hpower
  exact le_of_eq_of_le Rat.cast_one.symm (Rat.cast_le.mpr hmax)

/-- The request is out of reach, and its projection lies on the segment. -/
theorem projection_on_segment_parked :
    ((validate parkedModel (parkedInput farTarget)).accepted = false ∧
      (validateOrProject parkedModel (parkedInput farTarget)).accepted = true ∧
        (validateOrProject parkedModel (parkedInput farTarget)).targetProjected = true) ∧
      ProjectionOnSegment parkedModel (parkedInput farTarget) := by
  have hfar : ¬ sideWaypoint (parkedInput farTarget)
      (fun side => origin (parkedPose side).handTcp) (fraction 1) 0 1 ≤ parkedReach := by
    rw [parked_waypoint, parkedReach_eq]
    norm_num [farTarget]
  have hrefused := (parked_resting farTarget).refused hfar
  have htool : ∀ target, (validate parkedModel (parkedInput target)).measuredTcp =
      parkedPoint := fun target => (parked_resting target).measured rfl
  -- The request to stay, and the first point of the ray from there.
  have hstationary : stationaryInput parkedModel (parkedInput farTarget) =
      parkedInput (parkedPoint 0) := by
    show (parkedInput farTarget).aimed
      ((validate parkedModel (parkedInput farTarget)).measuredTcp 0) = _
    rw [htool]
    rfl
  have hstart : parkedPoint 0 1 = 4 := by simp [parkedPoint, parkedTransform, origin]
  have hstarts : (validate parkedModel
      (stationaryInput parkedModel (parkedInput farTarget))).accepted = true := by
    rw [hstationary]
    exact parked_accepted (by rw [hstart, parkedReach_eq]; norm_num)
  have hmeasured : (validate parkedModel
      (stationaryInput parkedModel (parkedInput farTarget))).measuredTcp 0 = parkedPoint 0 := by
    rw [hstationary, htool]
  have hfits : distance (parkedPoint 0) farTarget ≤ dblMax := by
    rw [distance_farTarget]
    exact one_le_dblMax
  obtain ⟨ray, hray⟩ : ∃ ray, rayTo (parkedPoint 0) farTarget = .ok ray := by
    refine rayTo_of_ne 1 ?_
    rw [hstart]
    norm_num [farTarget]
  obtain ⟨-, -, hsearch, -⟩ := rayTo_exact hray hfits
  have hpoint : coarsePoint ray 1 = 1 / 64 := by
    unfold coarsePoint kProjectionSearchSteps
    rw [hsearch, distance_farTarget, RealFloat.ofNat_eq, RealFloat.ofNat_eq]
    norm_num
  have hcandidate : candidateAt ray (coarsePoint ray 1) 1 ≤ parkedReach := by
    rw [candidateAt_exact hray hfits, hpoint, distance_farTarget, parkedReach_eq]
    unfold interpolate
    rw [hstart]
    norm_num [farTarget]
  have hmillimetre : kMinimumProjectedMotionM ≤ coarsePoint ray 1 := by
    unfold kMinimumProjectedMotionM
    rw [hpoint, RealFloat.lit_eq]
    norm_num
  rw [← hmeasured] at hray hfits
  obtain ⟨haccepted, hprojected⟩ := projects rfl hrefused rfl hstarts hray
    (parked_resting farTarget).quiet (fun d => (parked_resting (candidateAt ray d)).quiet)
    (List.mem_range'_1.mpr ⟨Nat.le_refl 1, by decide⟩) hmillimetre (parked_accepted hcandidate)
  exact ⟨⟨hrefused, haccepted, hprojected⟩, projection_on_segment haccepted hfits⟩

end OpenArm.Guard
