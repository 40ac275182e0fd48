/-
  OpenArm.Model.CylinderDistance — the clearance of a capsule from the pole.

  The code searches for the closest parameter by thirds.  A solid cylinder is
  convex, so that the search keeps a minimiser between its bounds; after 96
  rounds they are so close that the bias below outweighs what is left.

  Main results:
    * `infDist_cylinder` — `point_cylinder_distance_squared` is the squared
      distance to the solid cylinder.
    * `narrow_brackets`  — the search keeps a minimiser.
    * `pole_clearance_is_distance` — the clearance is the least distance less
      the radius, or at most a nanometre below.
-/
import OpenArm.Lib.ConvexSearch
import OpenArm.Model.SegmentDistance

namespace OpenArm.Model

open OpenArm.Lib OpenArm.Control

/-! ## §1. The solid cylinder. -/

/-- The points of a solid upright cylinder. -/
def solidCylinder (radius bottom top : ℝ) : Set (EuclideanSpace ℝ (Fin 3)) :=
  {q | q 0 ^ 2 + q 1 ^ 2 ≤ radius ^ 2 ∧ bottom ≤ q 2 ∧ q 2 ≤ top}

section Cylinder

variable {radius bottom top : ℝ}

theorem convex_cylinder : Convex ℝ (solidCylinder radius bottom top) := by
  intro p hp q hq a b ha hb hab
  obtain ⟨hpr, hpb, hpt⟩ := hp
  obtain ⟨hqr, hqb, hqt⟩ := hq
  refine ⟨?_, ?_, ?_⟩
  · -- the cross term is below the mean of the squares
    show (a * p 0 + b * q 0) ^ 2 + (a * p 1 + b * q 1) ^ 2 ≤ radius ^ 2
    have hcross : 2 * (p 0 * q 0 + p 1 * q 1) ≤ 2 * radius ^ 2 := by
      nlinarith [sq_nonneg (p 0 - q 0), sq_nonneg (p 1 - q 1)]
    calc (a * p 0 + b * q 0) ^ 2 + (a * p 1 + b * q 1) ^ 2
        = a ^ 2 * (p 0 ^ 2 + p 1 ^ 2) + b ^ 2 * (q 0 ^ 2 + q 1 ^ 2) +
          a * b * (2 * (p 0 * q 0 + p 1 * q 1)) := by ring
      _ ≤ a ^ 2 * radius ^ 2 + b ^ 2 * radius ^ 2 + a * b * (2 * radius ^ 2) := by gcongr
      _ = (a + b) ^ 2 * radius ^ 2 := by ring
      _ = radius ^ 2 := by rw [hab, one_pow, one_mul]
  · show bottom ≤ a * p 2 + b * q 2
    have hsum : bottom = a * bottom + b * bottom := by rw [← add_mul, hab, one_mul]
    nlinarith
  · show a * p 2 + b * q 2 ≤ top
    have hsum : top = a * top + b * top := by rw [← add_mul, hab, one_mul]
    nlinarith

theorem nonempty_cylinder (horder : bottom ≤ top) : (solidCylinder radius bottom top).Nonempty := by
  refine ⟨vec ![0, 0, bottom], ?_, le_refl _, horder⟩
  show (0 : ℝ) ^ 2 + 0 ^ 2 ≤ radius ^ 2
  nlinarith [sq_nonneg radius]

theorem isClosed_cylinder : IsClosed (solidCylinder radius bottom top) := by
  have hcoord : ∀ i : Fin 3, Continuous fun q : EuclideanSpace ℝ (Fin 3) => q i := by
    intro i
    fun_prop
  have hplanar : Continuous fun q : EuclideanSpace ℝ (Fin 3) => q 0 ^ 2 + q 1 ^ 2 :=
    ((hcoord 0).pow 2).add ((hcoord 1).pow 2)
  exact (isClosed_le hplanar continuous_const).inter
    ((isClosed_le continuous_const (hcoord 2)).inter (isClosed_le (hcoord 2) continuous_const))

/-- What the two gaps of a point are. -/
noncomputable def radialGap (radius : ℝ) (point : Vec3 ℝ) : ℝ :=
  max 0 (Real.sqrt (point 0 * point 0 + point 1 * point 1) - radius)

/-- The gap along the axis. -/
noncomputable def axialGap (bottom top : ℝ) (point : Vec3 ℝ) : ℝ :=
  max 0 (max (bottom - point 2) (point 2 - top))

/-- The code adds the squares of the two gaps. -/
theorem distanceSquared_eq (horder : bottom ≤ top) (point : Vec3 ℝ) :
    pointCylinderDistanceSquared point radius bottom top =
      radialGap radius point ^ 2 + axialGap bottom top point ^ 2 := by
  have hradial : (if radius < Real.sqrt (point 0 * point 0 + point 1 * point 1) then
      Real.sqrt (point 0 * point 0 + point 1 * point 1) - radius else 0) =
      radialGap radius point := by
    unfold radialGap
    split
    · rw [max_eq_right (by linarith)]
    · rw [max_eq_left (by linarith)]
  have haxial : (if point 2 < bottom then bottom - point 2
      else if top < point 2 then point 2 - top else 0) = axialGap bottom top point := by
    unfold axialGap
    split
    · rw [max_eq_left (by linarith : point 2 - top ≤ bottom - point 2),
        max_eq_right (by linarith)]
    · split
      · rw [max_eq_right (by linarith : bottom - point 2 ≤ point 2 - top),
          max_eq_right (by linarith)]
      · rw [max_eq_left (max_le (by linarith) (by linarith))]
  have hzero : (Floating.lit 0.0 : ℝ) = 0 := by
    rw [RealFloat.lit_eq]
    norm_num
  rw [← hradial, ← haxial, sq, sq, ← hzero]
  rfl

/-- Every point of the cylinder is at least so far away … -/
theorem distanceSquared_le (hradius : 0 ≤ radius) (point : Vec3 ℝ)
    {q : EuclideanSpace ℝ (Fin 3)} (hq : q ∈ solidCylinder radius bottom top) :
    radialGap radius point ^ 2 + axialGap bottom top point ^ 2 ≤ dist (vec point) q ^ 2 := by
  obtain ⟨hqr, hqb, hqt⟩ := hq
  have hdist : dist (vec point) q ^ 2 =
      ((point 0 - q 0) ^ 2 + (point 1 - q 1) ^ 2) + (point 2 - q 2) ^ 2 := by
    rw [EuclideanSpace.dist_eq, Real.sq_sqrt (by positivity), Fin.sum_univ_three]
    simp only [Real.dist_eq, sq_abs]
    rfl
  rw [hdist]
  refine add_le_add ?_ ?_
  · -- a planar triangle inequality
    set planar := Real.sqrt (point 0 * point 0 + point 1 * point 1) with hplanar
    have hplanar0 : 0 ≤ planar := Real.sqrt_nonneg _
    have hplanarSq : planar ^ 2 = point 0 * point 0 + point 1 * point 1 :=
      Real.sq_sqrt (add_nonneg (mul_self_nonneg _) (mul_self_nonneg _))
    have hgap : radialGap radius point = max 0 (planar - radius) := rfl
    rw [hgap]
    by_cases hinside : planar ≤ radius
    · rw [max_eq_left (by linarith)]
      nlinarith [sq_nonneg (point 0 - q 0), sq_nonneg (point 1 - q 1)]
    · rw [max_eq_right (by linarith)]
      set off := Real.sqrt (q 0 ^ 2 + q 1 ^ 2) with hoff
      have hoff0 : 0 ≤ off := Real.sqrt_nonneg _
      have hoffSq : off ^ 2 = q 0 ^ 2 + q 1 ^ 2 := Real.sq_sqrt (by positivity)
      have hoffLe : off ≤ radius := by
        refine abs_le_of_sq_le_sq' ?_ hradius |>.2
        rw [hoffSq]
        exact hqr
      have hinner : point 0 * q 0 + point 1 * q 1 ≤ planar * off := by
        refine abs_le_of_sq_le_sq' ?_ (mul_nonneg hplanar0 hoff0) |>.2
        rw [mul_pow, hplanarSq, hoffSq]
        nlinarith [sq_nonneg (point 0 * q 1 - point 1 * q 0)]
      calc (planar - radius) ^ 2 ≤ (planar - off) ^ 2 := by
            refine pow_le_pow_left₀ (by linarith) (by linarith) 2
        _ = planar ^ 2 + off ^ 2 - 2 * (planar * off) := by ring
        _ ≤ planar ^ 2 + off ^ 2 - 2 * (point 0 * q 0 + point 1 * q 1) := by linarith
        _ = (point 0 - q 0) ^ 2 + (point 1 - q 1) ^ 2 := by
            rw [hplanarSq, hoffSq]
            ring
  · unfold axialGap
    have hup : max 0 (max (bottom - point 2) (point 2 - top)) ≤ |point 2 - q 2| := by
      refine max_le (abs_nonneg _) (max_le ?_ ?_)
      · have h := neg_abs_le (point 2 - q 2)
        linarith
      · have h := le_abs_self (point 2 - q 2)
        linarith
    calc max 0 (max (bottom - point 2) (point 2 - top)) ^ 2
        ≤ |point 2 - q 2| ^ 2 := by
          have h0 := le_max_left 0 (max (bottom - point 2) (point 2 - top))
          gcongr
      _ = (point 2 - q 2) ^ 2 := sq_abs _

/-- … and one of them no farther: the point drawn towards the axis and between
    the caps. -/
theorem exists_nearest (hradius : 0 ≤ radius) (horder : bottom ≤ top) (point : Vec3 ℝ) :
    ∃ q ∈ solidCylinder radius bottom top, dist (vec point) q ^ 2 =
      radialGap radius point ^ 2 + axialGap bottom top point ^ 2 := by
  set planar := Real.sqrt (point 0 * point 0 + point 1 * point 1) with hplanar
  have hplanar0 : 0 ≤ planar := Real.sqrt_nonneg _
  have hplanarSq : planar ^ 2 = point 0 * point 0 + point 1 * point 1 :=
    Real.sq_sqrt (add_nonneg (mul_self_nonneg _) (mul_self_nonneg _))
  -- the factor that draws the point towards the axis
  obtain ⟨scale, hscaled, hgap⟩ : ∃ scale : ℝ, (scale * planar) ^ 2 ≤ radius ^ 2 ∧
      radialGap radius point ^ 2 = ((1 - scale) * planar) ^ 2 := by
    have hradial : radialGap radius point = max 0 (planar - radius) := rfl
    rw [hradial]
    by_cases hinside : planar ≤ radius
    · refine ⟨1, ?_, ?_⟩
      · rw [one_mul]
        exact pow_le_pow_left₀ hplanar0 hinside 2
      · rw [max_eq_left (by linarith), sub_self, zero_mul]
    · have hpositive : 0 < planar := lt_of_le_of_lt hradius (not_le.mp hinside)
      refine ⟨radius / planar, ?_, ?_⟩
      · rw [div_mul_cancel₀ _ hpositive.ne']
      · rw [max_eq_right (by linarith), sub_mul, one_mul, div_mul_cancel₀ _ hpositive.ne']
  obtain ⟨height, hbottom, htop, haxial⟩ : ∃ height : ℝ, bottom ≤ height ∧ height ≤ top ∧
      axialGap bottom top point ^ 2 = (point 2 - height) ^ 2 := by
    unfold axialGap
    by_cases hbelow : point 2 < bottom
    · refine ⟨bottom, le_refl _, horder, ?_⟩
      rw [max_eq_left (by linarith : point 2 - top ≤ bottom - point 2), max_eq_right (by linarith)]
      ring
    · by_cases habove : top < point 2
      · refine ⟨top, horder, le_refl _, ?_⟩
        rw [max_eq_right (by linarith : bottom - point 2 ≤ point 2 - top),
          max_eq_right (by linarith)]
      · refine ⟨point 2, not_lt.mp hbelow, not_lt.mp habove, ?_⟩
        rw [max_eq_left (max_le (by linarith) (by linarith)), sub_self]
  refine ⟨vec ![scale * point 0, scale * point 1, height], ⟨?_, hbottom, htop⟩, ?_⟩
  · show (scale * point 0) ^ 2 + (scale * point 1) ^ 2 ≤ radius ^ 2
    calc (scale * point 0) ^ 2 + (scale * point 1) ^ 2 = (scale * planar) ^ 2 := by
          rw [mul_pow, mul_pow, mul_pow, hplanarSq]
          ring
      _ ≤ radius ^ 2 := hscaled
  · have hdist : dist (vec point) (vec ![scale * point 0, scale * point 1, height]) ^ 2 =
        (point 0 - scale * point 0) ^ 2 + (point 1 - scale * point 1) ^ 2 +
          (point 2 - height) ^ 2 := by
      rw [EuclideanSpace.dist_eq, Real.sq_sqrt (by positivity), Fin.sum_univ_three]
      simp only [Real.dist_eq, sq_abs]
      rfl
    rw [hdist, hgap, haxial, mul_pow, hplanarSq]
    ring

/-- **`point_cylinder_distance_squared` is the squared distance** to the solid
    cylinder. -/
theorem infDist_cylinder (hradius : 0 ≤ radius) (horder : bottom ≤ top) (point : Vec3 ℝ) :
    pointCylinderDistanceSquared point radius bottom top =
      Metric.infDist (vec point) (solidCylinder radius bottom top) ^ 2 := by
  rw [distanceSquared_eq horder]
  obtain ⟨q, hq, hnearest⟩ := exists_nearest hradius horder point
  have hclosed : IsClosed (solidCylinder radius bottom top) := isClosed_cylinder
  obtain ⟨p, hp, hleast⟩ := hclosed.exists_infDist_eq_dist (nonempty_cylinder horder) (vec point)
  refine le_antisymm ?_ ?_
  · rw [hleast]
    exact distanceSquared_le hradius point hp
  · rw [← hnearest]
    exact pow_le_pow_left₀ Metric.infDist_nonneg (Metric.infDist_le_dist_of_mem hq) 2

end Cylinder

/-! ## §2. The search. -/

/-- The bounds of the search: a minimiser lies between them. -/
structure Bounds (f : ℝ → ℝ) (bounds : ℝ × ℝ) : Prop where
  bracketed : Bracketed f bounds.1 bounds.2
  nonneg : 0 ≤ bounds.1
  lt : bounds.1 < bounds.2
  le_one : bounds.2 ≤ 1

/-- The points at a third and at two thirds. -/
theorem thirds (low high : ℝ) :
    (Floating.lit 2.0 * low + high) / Floating.lit 3.0 = low + (high - low) / 3 ∧
      (low + Floating.lit 2.0 * high) / Floating.lit 3.0 = high - (high - low) / 3 := by
  have htwo : (Floating.lit 2.0 : ℝ) = 2 := by
    rw [RealFloat.lit_eq]
    norm_num
  have hthree : (Floating.lit 3.0 : ℝ) = 3 := by
    rw [RealFloat.lit_eq]
    norm_num
  rw [htwo, hthree]
  constructor
  · ring
  · ring

/-- **The search keeps a minimiser** of a convex function, and each round leaves
    two thirds of the bracket. -/
theorem narrow_brackets {f : ℝ → ℝ} (hf : ConvexOn ℝ Set.univ f) (iterations : Nat) :
    ∀ low high : ℝ, Bounds f (low, high) → Bounds f (narrow f iterations (low, high)) ∧
      (narrow f iterations (low, high)).2 - (narrow f iterations (low, high)).1 =
        (2 / 3) ^ iterations * (high - low) := by
  induction iterations with
  | zero =>
    intro low high h
    refine ⟨h, ?_⟩
    show high - low = _
    rw [pow_zero, one_mul]
  | succ iterations ih =>
    intro low high h
    have hnonneg : 0 ≤ low := h.nonneg
    have hlt : low < high := h.lt
    have hone : high ≤ 1 := h.le_one
    obtain ⟨hfirst, hsecond⟩ := thirds low high
    unfold narrow
    rw [hfirst, hsecond]
    dsimp only
    split
    · next hle =>
      have hbracketed : Bracketed f low (high - (high - low) / 3) :=
        h.bracketed.left hf (by linarith) (by linarith) hle
      obtain ⟨hbounds, hwidth⟩ := ih _ _
        ⟨hbracketed, hnonneg, by dsimp only; linarith, by dsimp only; linarith⟩
      refine ⟨hbounds, ?_⟩
      rw [hwidth, pow_succ]
      ring
    · next hnot =>
      have hbracketed : Bracketed f (low + (high - low) / 3) high :=
        h.bracketed.right hf (by linarith) ⟨by linarith, by linarith⟩ (not_le.mp hnot)
      obtain ⟨hbounds, hwidth⟩ := ih _ _
        ⟨hbracketed, by dsimp only; linarith, by dsimp only; linarith, hone⟩
      refine ⟨hbounds, ?_⟩
      rw [hwidth, pow_succ]
      ring

/-! ## §3. The clearance. -/

section Clearance

variable {a b : Vec3 ℝ} {radius bottom top : ℝ}

/-- The distances between a point of the segment and a point of the cylinder. -/
def poleDistances (a b : Vec3 ℝ) (radius bottom top : ℝ) : Set ℝ :=
  {r | ∃ p ∈ segment ℝ (vec a) (vec b), ∃ q ∈ solidCylinder radius bottom top, r = dist p q}

/-- The distance along the line through the segment. -/
noncomputable def poleDist (a b : Vec3 ℝ) (radius bottom top : ℝ) : ℝ → ℝ :=
  lineDist (solidCylinder radius bottom top) (vec a) (vec b - vec a)

/-- What the search compares is the square of that distance. -/
theorem sample_eq (hradius : 0 ≤ radius) (horder : bottom ≤ top) (t : ℝ) :
    pointCylinderDistanceSquared (addScaled3 a (subtract3 b a) t) radius bottom top =
      poleDist a b radius bottom top t ^ 2 := by
  have hpoint : vec (addScaled3 a (subtract3 b a) t) = vec a + t • (vec b - vec a) := by
    ext axis
    simp only [vec, addScaled3, subtract3, PiLp.add_apply, PiLp.smul_apply, PiLp.sub_apply,
      smul_eq_mul]
    ring
  rw [infDist_cylinder hradius horder, hpoint]
  rfl

/-- The middle of the last bracket is within a nanometre of the best. -/
theorem middle_near (hlength : norm3 (subtract3 b a) ≤ 1000) {t : ℝ} {bounds : ℝ × ℝ}
    (hbounds : Bounds (fun t => poleDist a b radius bottom top t ^ 2) bounds)
    (hwidth : bounds.2 - bounds.1 = (2 / 3) ^ 96 * (1 - 0))
    (ht : t ∈ Set.Icc (0 : ℝ) 1) :
    poleDist a b radius bottom top ((bounds.1 + bounds.2) / 2) ≤
      poleDist a b radius bottom top t + 1e-9 := by
  obtain ⟨s, hs, hmin⟩ := hbounds.bracketed
  have hbest : poleDist a b radius bottom top s ≤ poleDist a b radius bottom top t :=
    abs_le_of_sq_le_sq' (hmin t ht) (lineDist_nonneg _ _ _) |>.2
  have hnear : |(bounds.1 + bounds.2) / 2 - s| ≤ (2 / 3) ^ 96 := by
    obtain ⟨hlow, hhigh⟩ := hs
    rw [abs_le]
    constructor <;> linarith
  have hnorm : ‖vec b - vec a‖ ≤ 1000 := by
    have hsub : vec b - vec a = vec (subtract3 b a) := rfl
    rw [hsub, norm_vec]
    exact hlength
  calc poleDist a b radius bottom top ((bounds.1 + bounds.2) / 2)
      ≤ poleDist a b radius bottom top s +
          |(bounds.1 + bounds.2) / 2 - s| * ‖vec b - vec a‖ := lineDist_le_add _ _ _ _
    _ ≤ poleDist a b radius bottom top t + (2 / 3) ^ 96 * 1000 := by gcongr
    _ ≤ poleDist a b radius bottom top t + 1e-9 := by
      have hsmall : ((2 : ℝ) / 3) ^ 96 * 1000 ≤ 1e-9 := by norm_num
      linarith

/-- What the code computes from the three samples. -/
theorem clearance_eq {capsuleRadius : ℝ} (hradius : 0 ≤ radius) (horder : bottom ≤ top)
    (hcapsule : 0 ≤ capsuleRadius) {middle : ℝ}
    (hmiddle : middle = ((narrow (fun t => poleDist a b radius bottom top t ^ 2) 96 (0, 1)).1 +
      (narrow (fun t => poleDist a b radius bottom top t ^ 2) 96 (0, 1)).2) / 2) :
    finiteCylinderCapsuleClearance a b radius bottom top capsuleRadius =
      max 0 (Real.sqrt (min (min (poleDist a b radius bottom top 0 ^ 2)
        (poleDist a b radius bottom top 1 ^ 2)) (poleDist a b radius bottom top middle ^ 2)) -
          1e-9) - capsuleRadius := by
  have hzero : (Floating.lit 0.0 : ℝ) = 0 := by
    rw [RealFloat.lit_eq]
    norm_num
  have hone : (Floating.lit 1.0 : ℝ) = 1 := by
    rw [RealFloat.lit_eq]
    norm_num
  have htwo : (Floating.lit 2.0 : ℝ) = 2 := by
    rw [RealFloat.lit_eq]
    norm_num
  have hbias : (Floating.lit 1.0e-9 : ℝ) = 1e-9 := by
    rw [RealFloat.lit_eq]
    norm_num
  have hfinite : ∀ x : Vec3 ℝ, finite3 x = true := fun x => by
    simp [finite3, Floating.isFinite]
  have hmin : ∀ x y : ℝ, Floating.min x y = min x y := by
    intro x y
    unfold Floating.min
    split
    · next hlt => rw [min_eq_right (le_of_lt hlt)]
    · next hnot => rw [min_eq_left (not_lt.mp hnot)]
  have hclamp : ∀ x : ℝ, (if x < 0 then 0 else x) = max 0 x := by
    intro x
    split
    · rw [max_eq_left (by linarith)]
    · rw [max_eq_right (by linarith)]
  unfold finiteCylinderCapsuleClearance
  simp only [hzero, hone, htwo, hbias, hfinite, hmin, sample_eq hradius horder]
  rw [if_neg (by simp [Floating.isFinite, hradius, horder, hcapsule]), ← hmiddle, hclamp]
  rfl

/-- **The clearance from the pole is the least distance of the segment from the
    solid cylinder less the capsule's radius**, or at most a nanometre below;
    it is never above. -/
theorem pole_clearance_is_distance {a b : Vec3 ℝ}
    {cylinderRadius cylinderBottom cylinderTop capsuleRadius : ℝ}
    (hradius : 0 ≤ cylinderRadius) (horder : cylinderBottom ≤ cylinderTop)
    (hcapsule : 0 ≤ capsuleRadius) (hlength : norm3 (subtract3 b a) ≤ 1000) :
    ∃ distance, IsLeast (poleDistances a b cylinderRadius cylinderBottom cylinderTop) distance ∧
      distance - capsuleRadius - 1e-9 ≤ finiteCylinderCapsuleClearance a b cylinderRadius
        cylinderBottom cylinderTop capsuleRadius ∧
      finiteCylinderCapsuleClearance a b cylinderRadius cylinderBottom cylinderTop capsuleRadius ≤
        distance - capsuleRadius := by
  set along := poleDist a b cylinderRadius cylinderBottom cylinderTop with halong
  have hconvex : ConvexOn ℝ Set.univ fun t => along t ^ 2 :=
    convexOn_lineDist_sq convex_cylinder (nonempty_cylinder horder) _ _
  obtain ⟨t, ht, hmin⟩ := exists_minimiser (C := solidCylinder cylinderRadius cylinderBottom
    cylinderTop) (vec a) (vec b - vec a)
  have hstart : Bracketed (fun t => along t ^ 2) 0 1 :=
    ⟨t, ht, fun x hx => pow_le_pow_left₀ (lineDist_nonneg _ _ _) (hmin x hx) 2⟩
  obtain ⟨hbounds, hwidth⟩ := narrow_brackets hconvex 96 0 1
    ⟨hstart, le_refl 0, one_pos, le_refl 1⟩
  set bounds := narrow (fun t => along t ^ 2) 96 (0, 1) with hbound
  set middle := (bounds.1 + bounds.2) / 2 with hmiddle
  have hmiddleMem : middle ∈ Set.Icc (0 : ℝ) 1 := by
    obtain ⟨-, hnonneg, hlt, hone⟩ := hbounds
    constructor <;> linarith
  -- the value before the bias
  set least := min (min (along 0 ^ 2) (along 1 ^ 2)) (along middle ^ 2) with hleast
  have hvalue : finiteCylinderCapsuleClearance a b cylinderRadius cylinderBottom cylinderTop
      capsuleRadius = max 0 (Real.sqrt least - 1e-9) - capsuleRadius :=
    clearance_eq hradius horder hcapsule hmiddle
  have hlow : along t ≤ Real.sqrt least := by
    have hsq : ∀ x ∈ Set.Icc (0 : ℝ) 1, along t ^ 2 ≤ along x ^ 2 := fun x hx =>
      pow_le_pow_left₀ (lineDist_nonneg _ _ _) (hmin x hx) 2
    exact Real.le_sqrt_of_sq_le (le_min (le_min (hsq 0 (by simp)) (hsq 1 (by simp)))
      (hsq middle hmiddleMem))
  have hhigh : Real.sqrt least ≤ along t + 1e-9 := by
    calc Real.sqrt least ≤ Real.sqrt (along middle ^ 2) := Real.sqrt_le_sqrt (min_le_right _ _)
      _ = along middle := Real.sqrt_sq (lineDist_nonneg _ _ _)
      _ ≤ along t + 1e-9 := middle_near hlength hbounds hwidth ht
  refine ⟨along t, isLeast_dist isClosed_cylinder (nonempty_cylinder horder) ht hmin, ?_, ?_⟩
  · rw [hvalue]
    have hbias := le_max_right 0 (Real.sqrt least - 1e-9)
    linarith
  · rw [hvalue]
    have hdistance : 0 ≤ along t := lineDist_nonneg _ _ _
    have hbias : max 0 (Real.sqrt least - 1e-9) ≤ along t := max_le hdistance (by linarith)
    linarith

/-- A metre of upright segment beside a pole of half its distance. -/
theorem pole_clearance_upright :
    norm3 (subtract3 (![1, 0, 1] : Vec3 ℝ) ![1, 0, 0]) ≤ 1000 ∧
    ∃ distance, IsLeast (poleDistances ![1, 0, 0] ![1, 0, 1] (1 / 2) 0 1) distance ∧
      distance - 0 - 1e-9 ≤ finiteCylinderCapsuleClearance ![1, 0, 0] ![1, 0, 1] (1 / 2) 0 1 0 ∧
      finiteCylinderCapsuleClearance ![1, 0, 0] ![1, 0, 1] (1 / 2) 0 1 0 ≤ distance - 0 := by
  have hlength : norm3 (subtract3 (![1, 0, 1] : Vec3 ℝ) ![1, 0, 0]) ≤ 1000 := by
    have hdot : dot3 (subtract3 (![1, 0, 1] : Vec3 ℝ) ![1, 0, 0])
        (subtract3 (![1, 0, 1] : Vec3 ℝ) ![1, 0, 0]) = 1 := by
      simp [dot3, subtract3]
    unfold norm3
    rw [hdot, RealFloat.sqrt_eq, Real.sqrt_one]
    norm_num
  exact ⟨hlength, pole_clearance_is_distance (by norm_num) zero_le_one (le_refl 0) hlength⟩

end Clearance

end OpenArm.Model
