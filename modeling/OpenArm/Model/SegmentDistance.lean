/-
  OpenArm.Model.SegmentDistance — the clearance of two capsules.

  `segment_clearance_detail` clamps one parameter after the other.  In exact
  arithmetic its two parameters are those of the closest points of the
  segments, unless a squared length or the determinant of the two directions
  is positive and at most 1e-18; then it is off by less than a nanometre times
  the inverse of a length.

  Main results:
    * `Closest.minimum`     — the parameters minimise the distance.
    * `segment_clearance_is_distance` — the clearance is the least distance
      less the radii, in any order of the segments and of their ends.
-/
import OpenArm.Lib.Segments
import OpenArm.Model.Collision

namespace OpenArm.Model

open OpenArm.Lib OpenArm.Control

/-! ## §1. Vectors. -/

/-- `oa_collision_segment_clearance`. -/
def segmentClearance {F : Type} [Metric F] (a0 a1 b0 b1 : Vec3 F) (radiusA radiusB : F) : F :=
  (segmentClearanceDetail a0 a1 b0 b1 radiusA radiusB).value

/-- A vector of the code as a vector of the plane geometry. -/
noncomputable def vec (a : Vec3 ℝ) : EuclideanSpace ℝ (Fin 3) := WithLp.toLp 2 a

theorem inner_vec (a b : Vec3 ℝ) : inner ℝ (vec a) (vec b) = dot3 a b := by
  unfold vec dot3
  rw [EuclideanSpace.inner_toLp_toLp]
  simp [dotProduct, Fin.sum_univ_three]
  ring

theorem norm_vec (a : Vec3 ℝ) : ‖vec a‖ = norm3 a := by
  rw [norm_eq_sqrt_real_inner, inner_vec]
  rfl

/-- The distance of two points of the segments. -/
theorem norm3_points (a0 b0 d1 d2 : Vec3 ℝ) (s t : ℝ) :
    norm3 (subtract3 (addScaled3 a0 d1 s) (addScaled3 b0 d2 t)) =
      gap (vec (subtract3 a0 b0)) (vec d1) (vec d2) s t := by
  rw [← norm_vec]
  unfold gap
  congr 1
  ext axis
  simp only [vec, subtract3, addScaled3, PiLp.sub_apply, PiLp.add_apply, PiLp.smul_apply,
    smul_eq_mul]
  ring

/-! ## §2. The least distance. -/

/-- The distance of two segments: of their closest points. -/
noncomputable def segmentDistance (a0 a1 b0 b1 : Vec3 ℝ) : ℝ :=
  ⨅ p : unitInterval × unitInterval, norm3 (subtract3 (addScaled3 a0 (subtract3 a1 a0) p.1)
    (addScaled3 b0 (subtract3 b1 b0) p.2))

theorem segmentDistance_le (a0 a1 b0 b1 : Vec3 ℝ) {s t : ℝ} (hs : s ∈ unitInterval)
    (ht : t ∈ unitInterval) : segmentDistance a0 a1 b0 b1 ≤
      gap (vec (subtract3 a0 b0)) (vec (subtract3 a1 a0)) (vec (subtract3 b1 b0)) s t := by
  rw [← norm3_points]
  refine ciInf_le (f := fun p : unitInterval × unitInterval => norm3 (subtract3
    (addScaled3 a0 (subtract3 a1 a0) p.1) (addScaled3 b0 (subtract3 b1 b0) p.2)))
    ⟨0, ?_⟩ (⟨s, hs⟩, ⟨t, ht⟩)
  rintro _ ⟨p, rfl⟩
  exact Real.sqrt_nonneg _

theorem le_segmentDistance {a0 a1 b0 b1 : Vec3 ℝ} {bound : ℝ}
    (h : ∀ s ∈ unitInterval, ∀ t ∈ unitInterval, bound ≤
      gap (vec (subtract3 a0 b0)) (vec (subtract3 a1 a0)) (vec (subtract3 b1 b0)) s t) :
    bound ≤ segmentDistance a0 a1 b0 b1 := by
  refine le_ciInf fun p => ?_
  rw [norm3_points]
  exact h p.1 p.1.2 p.2 p.2.2

/-- It is the same in the other order … -/
theorem segmentDistance_swap (a0 a1 b0 b1 : Vec3 ℝ) :
    segmentDistance b0 b1 a0 a1 = segmentDistance a0 a1 b0 b1 := by
  have hhalf : ∀ a0 a1 b0 b1 : Vec3 ℝ,
      segmentDistance b0 b1 a0 a1 ≤ segmentDistance a0 a1 b0 b1 := by
    intro a0 a1 b0 b1
    refine le_segmentDistance fun s hs t ht => ?_
    have h := segmentDistance_le b0 b1 a0 a1 ht hs
    have hneg : vec (subtract3 b0 a0) = -vec (subtract3 a0 b0) := by
      ext axis
      simp [vec, subtract3]
    rwa [hneg, gap_swap] at h
  exact le_antisymm (hhalf _ _ _ _) (hhalf _ _ _ _)

/-- … and with the first segment reversed. -/
theorem segmentDistance_reverse (a0 a1 b0 b1 : Vec3 ℝ) :
    segmentDistance a1 a0 b0 b1 = segmentDistance a0 a1 b0 b1 := by
  have hhalf : ∀ a0 a1 b0 b1 : Vec3 ℝ,
      segmentDistance a1 a0 b0 b1 ≤ segmentDistance a0 a1 b0 b1 := by
    intro a0 a1 b0 b1
    refine le_segmentDistance fun s hs t ht => ?_
    have h := segmentDistance_le a1 a0 b0 b1 (s := 1 - s)
      ⟨by linarith [hs.2], by linarith [hs.1]⟩ ht
    have hneg : vec (subtract3 a0 a1) = -vec (subtract3 a1 a0) := by
      ext axis
      simp [vec, subtract3]
    have hstart : vec (subtract3 a1 b0) = vec (subtract3 a0 b0) + vec (subtract3 a1 a0) := by
      ext axis
      simp only [vec, subtract3, PiLp.add_apply]
      ring
    rwa [hneg, hstart, gap_reverse_first] at h
  exact le_antisymm (hhalf _ _ _ _) (hhalf _ _ _ _)

/-! ## §3. The branches of the source. -/

/-- The squared length below which a segment counts as a point. -/
noncomputable def kTinySquared : ℝ := Floating.lit 1.0e-18

/-- A clamped quotient settles its linear slope. -/
theorem clamp01_settles {a z : ℝ} (ha : 0 < a) :
    Settles (a * clamp01 (z / a) - z) (clamp01 (z / a)) := by
  have hcancel : a * (z / a) = z := mul_div_cancel₀ z ha.ne'
  unfold clamp01
  simp only [RealFloat.lit_eq]
  norm_num
  split
  · next hlow =>
    have hz : z < 0 := by
      rw [← hcancel]
      exact mul_neg_of_pos_of_neg ha hlow
    exact ⟨le_refl 0, zero_le_one, fun h => absurd h (lt_irrefl 0), fun _ => by linarith⟩
  · next hlow =>
    split
    · next hhigh =>
      have hz : a < z := by
        have := mul_lt_mul_of_pos_left hhigh ha
        linarith
      exact ⟨zero_le_one, le_refl 1, fun _ => by linarith, fun h => absurd h (lt_irrefl 1)⟩
    · next hhigh =>
      have hzero : a * (z / a) - z = 0 := by linarith
      rw [hzero]
      exact settles_zero (not_lt.mp hlow) (not_lt.mp hhigh)

/-- The parameters `segment_clearance_detail` computes, by its branches: both
    segments are points, one is, the unclamped second parameter is below or
    above its range, or in it. -/
inductive Closest (a e b c f : ℝ) : ℝ → ℝ → Prop
  | points (ha : a ≤ kTinySquared) (he : e ≤ kTinySquared) : Closest a e b c f 0 0
  | first (ha : a ≤ kTinySquared) (he : kTinySquared < e) {t : ℝ}
      (ht : Settles (e * t - f) t) : Closest a e b c f 0 t
  | second (ha : kTinySquared < a) (he : e ≤ kTinySquared) {s : ℝ}
      (hs : Settles (a * s + c) s) : Closest a e b c f s 0
  | below (ha : kTinySquared < a) (he : kTinySquared < e) {s₀ s : ℝ}
      (hfree : (kTinySquared < a * e - b * b ∧
          Settles ((a * e - b * b) * s₀ - (b * f - c * e)) s₀) ∨
        (a * e - b * b ≤ kTinySquared ∧ s₀ = 0))
      (hlow : b * s₀ + f < 0) (hs : Settles (a * s + c) s) : Closest a e b c f s 0
  | above (ha : kTinySquared < a) (he : kTinySquared < e) {s₀ s : ℝ}
      (hfree : (kTinySquared < a * e - b * b ∧
          Settles ((a * e - b * b) * s₀ - (b * f - c * e)) s₀) ∨
        (a * e - b * b ≤ kTinySquared ∧ s₀ = 0))
      (hhigh : e < b * s₀ + f) (hs : Settles (a * s + c - b) s) : Closest a e b c f s 1
  | inside (ha : kTinySquared < a) (he : kTinySquared < e) {s t : ℝ}
      (hfree : (kTinySquared < a * e - b * b ∧
          Settles ((a * e - b * b) * s - (b * f - c * e)) s) ∨
        (a * e - b * b ≤ kTinySquared ∧ s = 0))
      (ht0 : 0 ≤ t) (ht1 : t ≤ 1) (ht : e * t = b * s + f) : Closest a e b c f s t

section Detail

variable (a0 a1 b0 b1 : Vec3 ℝ) {radiusA radiusB : ℝ}

/-- **What `segment_clearance_detail` returns.** -/
theorem detail_spec (hA : 0 ≤ radiusA) (hB : 0 ≤ radiusB) :
    ∃ s t, segmentClearanceDetail a0 a1 b0 b1 radiusA radiusB =
        ⟨gap (vec (subtract3 a0 b0)) (vec (subtract3 a1 a0)) (vec (subtract3 b1 b0)) s t -
          (radiusA + radiusB), s, t⟩ ∧
      Closest (dot3 (subtract3 a1 a0) (subtract3 a1 a0))
        (dot3 (subtract3 b1 b0) (subtract3 b1 b0)) (dot3 (subtract3 a1 a0) (subtract3 b1 b0))
        (dot3 (subtract3 a1 a0) (subtract3 a0 b0)) (dot3 (subtract3 b1 b0) (subtract3 a0 b0))
        s t := by
  have htiny : (Floating.lit 1.0e-18 : ℝ) = kTinySquared := rfl
  have hzero : (Floating.lit 0.0 : ℝ) = 0 := by
    simp only [RealFloat.lit_eq]
    norm_num
  have hone : (Floating.lit 1.0 : ℝ) = 1 := by
    simp only [RealFloat.lit_eq]
    norm_num
  have hfinite : ∀ x : Vec3 ℝ, finite3 x = true := fun x => by
    simp [finite3, Floating.isFinite]
  have hpos : (0 : ℝ) < kTinySquared := by
    unfold kTinySquared
    simp only [RealFloat.lit_eq]
    norm_num
  unfold segmentClearanceDetail
  simp only [htiny, hzero, hone, hfinite, norm3_points]
  rw [if_neg (by simp [Floating.isFinite, hA, hB])]
  generalize dot3 (subtract3 a1 a0) (subtract3 a1 a0) = a
  generalize dot3 (subtract3 b1 b0) (subtract3 b1 b0) = e
  generalize dot3 (subtract3 a1 a0) (subtract3 b1 b0) = b
  generalize dot3 (subtract3 a1 a0) (subtract3 a0 b0) = c
  generalize dot3 (subtract3 b1 b0) (subtract3 a0 b0) = f
  have hpoints : norm3 (subtract3 a0 b0) = gap (vec (subtract3 a0 b0)) (vec (subtract3 a1 a0))
      (vec (subtract3 b1 b0)) 0 0 := by
    rw [← norm_vec]
    simp [gap]
  by_cases hboth : a ≤ kTinySquared ∧ e ≤ kTinySquared
  · rw [if_pos hboth, hpoints]
    exact ⟨0, 0, rfl, .points hboth.1 hboth.2⟩
  rw [if_neg hboth]
  refine ⟨_, _, rfl, ?_⟩
  by_cases ha : a ≤ kTinySquared
  · rw [if_pos ha]
    have he : kTinySquared < e := by
      by_contra hle
      exact hboth ⟨ha, not_lt.mp hle⟩
    exact .first ha he (clamp01_settles (hpos.trans he))
  rw [if_neg ha]
  rw [not_le] at ha
  have hsecond : Settles (a * clamp01 (-c / a) + c) (clamp01 (-c / a)) := by
    rw [← sub_neg_eq_add]
    exact clamp01_settles (hpos.trans ha)
  by_cases he : e ≤ kTinySquared
  · rw [if_pos he]
    exact .second ha he hsecond
  rw [if_neg he]
  rw [not_le] at he
  have he0 : 0 < e := hpos.trans he
  -- the first parameter where the second is free
  generalize hs₀ : (if kTinySquared < a * e - b * b then
    clamp01 ((b * f - c * e) / (a * e - b * b)) else 0) = s₀
  have hfree : (kTinySquared < a * e - b * b ∧
      Settles ((a * e - b * b) * s₀ - (b * f - c * e)) s₀) ∨
      (a * e - b * b ≤ kTinySquared ∧ s₀ = 0) := by
    subst hs₀
    split
    · next hD => exact .inl ⟨hD, clamp01_settles (hpos.trans hD)⟩
    · next hD => exact .inr ⟨not_lt.mp hD, rfl⟩
  by_cases hlow : (b * s₀ + f) / e < 0
  · rw [if_pos hlow]
    refine .below ha he hfree ?_ hsecond
    by_contra hnot
    exact absurd hlow (not_lt.mpr (div_nonneg (not_lt.mp hnot) he0.le))
  rw [if_neg hlow]
  by_cases hhigh : 1 < (b * s₀ + f) / e
  · rw [if_pos hhigh]
    refine .above ha he hfree ((one_lt_div he0).mp hhigh) ?_
    have hclamp := clamp01_settles (z := b - c) (hpos.trans ha)
    have heq : a * clamp01 ((b - c) / a) + c - b = a * clamp01 ((b - c) / a) - (b - c) := by ring
    rwa [heq]
  rw [if_neg hhigh]
  exact .inside ha he hfree (not_lt.mp hlow) (not_lt.mp hhigh) (mul_div_cancel₀ _ he0.ne')

end Detail

/-! ## §4. The closest points. -/

/-- No squared length and no determinant is positive and at most 1e-18. -/
def Regular (a e b : ℝ) : Prop :=
  (a = 0 ∨ kTinySquared < a) ∧ (e = 0 ∨ kTinySquared < e) ∧
    (a * e - b * b = 0 ∨ kTinySquared < a * e - b * b)

section Closest

variable {E : Type*} [NormedAddCommGroup E] [InnerProductSpace ℝ E] {u v r : E} {s t : ℝ}
  (h : Closest (inner ℝ u u) (inner ℝ v v) (inner ℝ u v) (inner ℝ u r) (inner ℝ v r) s t)

theorem tiny_pos : (0 : ℝ) < kTinySquared := by
  unfold kTinySquared
  simp only [RealFloat.lit_eq]
  norm_num

/-- A regular length that is not above the bound is none. -/
theorem eq_zero_of_tiny {w : E} (hw : inner ℝ w w = (0 : ℝ) ∨ kTinySquared < inner ℝ w w)
    (hle : inner ℝ w w ≤ kTinySquared) : w = 0 := by
  rcases hw with hzero | hlt
  · exact inner_self_eq_zero.mp hzero
  · exact absurd hlt (not_lt.mpr hle)

/-- A vector whose square is tiny is shorter than a nanometre. -/
theorem norm_le_of_tiny {w : E} (h : inner ℝ w w ≤ kTinySquared) : ‖w‖ ≤ 1e-9 := by
  rw [real_inner_self_eq_norm_sq] at h
  have hsq : ‖w‖ ^ 2 ≤ (1e-9 : ℝ) ^ 2 := by
    refine h.trans (le_of_eq ?_)
    unfold kTinySquared
    simp only [RealFloat.lit_eq]
    norm_num
  exact le_of_sq_le_sq hsq (by norm_num)

include h

/-- The parameters stay in the unit interval. -/
theorem Closest.mem : (0 ≤ s ∧ s ≤ 1) ∧ 0 ≤ t ∧ t ≤ 1 := by
  cases h with
  | points ha he => norm_num
  | first ha he ht => exact ⟨by norm_num, ht.nonneg, ht.le_one⟩
  | second ha he hs => exact ⟨⟨hs.nonneg, hs.le_one⟩, by norm_num⟩
  | below ha he hfree hlow hs => exact ⟨⟨hs.nonneg, hs.le_one⟩, by norm_num⟩
  | above ha he hfree hhigh hs => exact ⟨⟨hs.nonneg, hs.le_one⟩, by norm_num⟩
  | inside ha he hfree ht0 ht1 ht =>
    refine ⟨?_, ht0, ht1⟩
    rcases hfree with ⟨-, hs⟩ | ⟨-, rfl⟩
    · exact ⟨hs.nonneg, hs.le_one⟩
    · norm_num

/-- With two directions that are not almost parallel the slopes settle. -/
theorem Closest.settles_free (hD : kTinySquared < inner ℝ u u * inner ℝ v v -
      inner ℝ u v * inner ℝ u v) (hu : kTinySquared < inner ℝ u u)
    (hv : kTinySquared < inner ℝ v v) :
    Settles (slopeFirst r u v s t) s ∧ Settles (slopeSecond r u v s t) t := by
  have he := tiny_pos.trans hv
  have hpos := tiny_pos.trans hD
  rw [slopeFirst_eq, slopeSecond_eq]
  cases h with
  | points ha _ => exact absurd hu (not_lt.mpr ha)
  | first ha _ _ => exact absurd hu (not_lt.mpr ha)
  | second _ hle _ => exact absurd hv (not_lt.mpr hle)
  | below _ _ hfree hlow hs =>
    obtain ⟨-, hfree⟩ := hfree.resolve_right fun hnot => absurd hD (not_lt.mpr hnot.1)
    have hslow := settles_low he hpos hfree hlow hs
    refine ⟨?_, le_refl 0, zero_le_one, fun h => absurd h (lt_irrefl 0), fun _ => by linarith⟩
    have heq : inner ℝ u r + inner ℝ u u * s - inner ℝ u v * 0 =
        inner ℝ u u * s + inner ℝ u r := by ring
    rwa [heq]
  | above _ _ hfree hhigh hs =>
    obtain ⟨-, hfree⟩ := hfree.resolve_right fun hnot => absurd hD (not_lt.mpr hnot.1)
    have hshigh := settles_high he hpos hfree hhigh hs
    refine ⟨?_, zero_le_one, le_refl 1, fun _ => by linarith, fun h => absurd h (lt_irrefl 1)⟩
    have heq : inner ℝ u r + inner ℝ u u * s - inner ℝ u v * 1 =
        inner ℝ u u * s + inner ℝ u r - inner ℝ u v := by ring
    rwa [heq]
  | inside _ _ hfree ht0 ht1 ht =>
    obtain ⟨-, hfree⟩ := hfree.resolve_right fun hnot => absurd hD (not_lt.mpr hnot.1)
    refine ⟨hfree.scale he ?_, ?_⟩
    · linear_combination (-inner ℝ u v) * ht
    · have hlevel : inner ℝ v v * t - inner ℝ u v * s - inner ℝ v r = 0 := by linarith
      rw [hlevel]
      exact settles_zero ht0 ht1

/-- With two directions that are almost parallel the distance is off by the
    part of the one across the other. -/
theorem Closest.near_parallel {x y : ℝ} (hD : inner ℝ u u * inner ℝ v v -
      inner ℝ u v * inner ℝ u v ≤ kTinySquared) (hu : kTinySquared < inner ℝ u u)
    (hv : kTinySquared < inner ℝ v v) (hx0 : 0 ≤ x) (hx1 : x ≤ 1) (hy0 : 0 ≤ y)
    (hy1 : y ≤ 1) : gap r u v s t ≤ gap r u v x y + ‖across v u‖ := by
  have he := tiny_pos.trans hv
  cases h with
  | points ha _ => exact absurd hu (not_lt.mpr ha)
  | first ha _ _ => exact absurd hu (not_lt.mpr ha)
  | second _ hle _ => exact absurd hv (not_lt.mpr hle)
  | below _ _ hfree hlow hs =>
    obtain ⟨-, rfl⟩ := hfree.resolve_left fun hnot => absurd hnot.1 (not_lt.mpr hD)
    rw [mul_zero, zero_add] at hlow
    refine gap_across_low he hlow ?_ hx0 hx1 hy0
    rw [slopeFirst_eq]
    have heq : inner ℝ u r + inner ℝ u u * s - inner ℝ u v * 0 =
        inner ℝ u u * s + inner ℝ u r := by ring
    rwa [heq]
  | above _ _ hfree hhigh hs =>
    obtain ⟨-, rfl⟩ := hfree.resolve_left fun hnot => absurd hnot.1 (not_lt.mpr hD)
    rw [mul_zero, zero_add] at hhigh
    refine gap_across_high he hhigh ?_ hx0 hx1 hy1
    rw [slopeFirst_eq]
    have heq : inner ℝ u r + inner ℝ u u * s - inner ℝ u v * 1 =
        inner ℝ u u * s + inner ℝ u r - inner ℝ u v := by ring
    rwa [heq]
  | inside _ _ hfree ht0 ht1 ht =>
    obtain ⟨-, rfl⟩ := hfree.resolve_left fun hnot => absurd hnot.1 (not_lt.mpr hD)
    refine floor_le he (by linarith) ?_
    rw [zero_sub, abs_neg, abs_of_nonneg hx0]
    exact hx1

/-- **The closest points**, of regular segments. -/
theorem Closest.minimum (hreg : Regular (inner ℝ u u) (inner ℝ v v) (inner ℝ u v)) {x y : ℝ}
    (hx0 : 0 ≤ x) (hx1 : x ≤ 1) (hy0 : 0 ≤ y) (hy1 : y ≤ 1) :
    gap r u v s t ≤ gap r u v x y := by
  obtain ⟨hu, hv, hD⟩ := hreg
  have hmem := h.mem
  by_cases hub : inner ℝ u u ≤ kTinySquared
  · -- the first segment is a point
    obtain rfl := eq_zero_of_tiny hu hub
    refine gap_le_of_step (add_nonneg ?_ ?_)
    · simp [slopeFirst]
    · cases h with
      | points ha he =>
        obtain rfl := eq_zero_of_tiny hv he
        simp [slopeSecond]
      | first ha he ht =>
        rw [slopeSecond_eq, inner_zero_left, zero_mul, sub_zero]
        exact ht.step hy0 hy1
      | second ha _ _ => exact absurd ha (not_lt.mpr hub)
      | below ha _ _ _ _ => exact absurd ha (not_lt.mpr hub)
      | above ha _ _ _ _ => exact absurd ha (not_lt.mpr hub)
      | inside ha _ _ _ _ _ => exact absurd ha (not_lt.mpr hub)
  rw [not_le] at hub
  by_cases hvb : inner ℝ v v ≤ kTinySquared
  · -- the second one is
    obtain rfl := eq_zero_of_tiny hv hvb
    refine gap_le_of_step (add_nonneg ?_ ?_)
    · cases h with
      | points ha _ => exact absurd hub (not_lt.mpr ha)
      | first ha _ _ => exact absurd hub (not_lt.mpr ha)
      | second ha he hs =>
        rw [slopeFirst_eq, inner_zero_right, zero_mul, sub_zero, add_comm]
        exact hs.step hx0 hx1
      | below _ he _ _ _ => exact absurd he (not_lt.mpr hvb)
      | above _ he _ _ _ => exact absurd he (not_lt.mpr hvb)
      | inside _ he _ _ _ _ => exact absurd he (not_lt.mpr hvb)
    · simp [slopeSecond]
  rw [not_le] at hvb
  rcases hD with hflat | hfree
  · have hnear := h.near_parallel (hflat.le.trans tiny_pos.le) hub hvb hx0 hx1 hy0 hy1
    have hzero : ‖across v u‖ ^ 2 = 0 := by
      have hspan := norm_across_sq (tiny_pos.trans hvb) u
      rw [hflat] at hspan
      exact (mul_eq_zero.mp hspan).resolve_right (tiny_pos.trans hvb).ne'
    rw [pow_eq_zero_iff (by norm_num)] at hzero
    linarith
  · obtain ⟨hs, ht⟩ := h.settles_free hfree hub hvb
    exact gap_le_of_settles hs ht hx0 hx1 hy0 hy1

/-- **Almost the closest points**, of any segments. -/
theorem Closest.near (hreg : ¬ Regular (inner ℝ u u) (inner ℝ v v) (inner ℝ u v)) {x y : ℝ}
    (hx0 : 0 ≤ x) (hx1 : x ≤ 1) (hy0 : 0 ≤ y) (hy1 : y ≤ 1) :
    gap r u v s t ≤ gap r u v x y + 1e-9 /
      (if ‖u‖ = 0 then ‖v‖ else if ‖v‖ = 0 then ‖u‖ else min ‖u‖ ‖v‖) + 1e-9 := by
  generalize hshort : (if ‖u‖ = 0 then ‖v‖ else if ‖v‖ = 0 then ‖u‖ else min ‖u‖ ‖v‖) = shorter
  have hshort0 : 0 ≤ shorter := by
    rw [← hshort]
    split
    · exact norm_nonneg v
    · split
      · exact norm_nonneg u
      · exact le_min (norm_nonneg u) (norm_nonneg v)
  have herror : (0 : ℝ) ≤ 1e-9 / shorter := div_nonneg (by norm_num) hshort0
  have hfirst : ∀ z : ℝ, gap r u v 0 z ≤ gap r u v x z + ‖u‖ := fun z => gap_zero_le x z hx0 hx1
  have hsecond : ∀ z : ℝ, gap r u v z 0 ≤ gap r u v z y + ‖v‖ := by
    intro z
    have hswapped := gap_zero_le (r := -r) (u := v) (v := u) y z hy0 hy1
    rwa [gap_swap, gap_swap] at hswapped
  by_cases hub : inner ℝ u u ≤ kTinySquared
  · have hnorm := norm_le_of_tiny hub
    cases h with
    | points ha he =>
      -- two points but for a nanometre each: the bound is a metre
      have hnorm' := norm_le_of_tiny he
      have hpos : 0 < shorter := by
        rw [← hshort]
        by_contra hnot
        have hzero : u = 0 ∧ v = 0 := by
          split at hnot
          · next hu0 => exact ⟨norm_eq_zero.mp hu0, norm_le_zero_iff.mp (not_lt.mp hnot)⟩
          · next hu0 =>
            split at hnot
            · next hv0 => exact absurd (norm_le_zero_iff.mp (not_lt.mp hnot)) (by simpa using hu0)
            · next hv0 =>
              refine absurd (lt_min ?_ ?_) hnot
              · exact lt_of_le_of_ne (norm_nonneg u) (Ne.symm hu0)
              · exact lt_of_le_of_ne (norm_nonneg v) (Ne.symm hv0)
        refine hreg ?_
        rw [hzero.1, hzero.2]
        exact ⟨.inl (inner_zero_left _), .inl (inner_zero_left _), .inl (by simp)⟩
      have hle : shorter ≤ 1e-9 := by
        rw [← hshort]
        split
        · exact hnorm'
        · split
          · exact hnorm
          · exact (min_le_left _ _).trans hnorm
      have hmetre : (1 : ℝ) ≤ 1e-9 / shorter := (one_le_div hpos).mpr hle
      have h1 := hfirst 0
      have h2 := hsecond x
      norm_num at hnorm hnorm' ⊢
      linarith
    | first ha he ht =>
      have hdown : gap r u v 0 t ≤ gap r u v 0 y := by
        refine gap_le_of_step ?_
        rw [sub_self, mul_zero, zero_add, slopeSecond_eq, mul_zero, sub_zero]
        exact ht.step hy0 hy1
      linarith [hfirst y]
    | second ha _ _ => exact absurd ha (not_lt.mpr hub)
    | below ha _ _ _ _ => exact absurd ha (not_lt.mpr hub)
    | above ha _ _ _ _ => exact absurd ha (not_lt.mpr hub)
    | inside ha _ _ _ _ _ => exact absurd ha (not_lt.mpr hub)
  rw [not_le] at hub
  by_cases hvb : inner ℝ v v ≤ kTinySquared
  · have hnorm := norm_le_of_tiny hvb
    cases h with
    | points ha _ => exact absurd hub (not_lt.mpr ha)
    | first ha _ _ => exact absurd hub (not_lt.mpr ha)
    | second ha he hs =>
      have hdown : gap r u v s 0 ≤ gap r u v x 0 := by
        refine gap_le_of_step ?_
        rw [sub_self, mul_zero, add_zero, slopeFirst_eq, mul_zero, sub_zero, add_comm]
        exact hs.step hx0 hx1
      linarith [hsecond x]
    | below _ he _ _ _ => exact absurd he (not_lt.mpr hvb)
    | above _ he _ _ _ => exact absurd he (not_lt.mpr hvb)
    | inside _ he _ _ _ _ => exact absurd he (not_lt.mpr hvb)
  rw [not_le] at hvb
  have hv0 := tiny_pos.trans hvb
  by_cases hfree : kTinySquared < inner ℝ u u * inner ℝ v v - inner ℝ u v * inner ℝ u v
  · exact absurd ⟨.inr hub, .inr hvb, .inr hfree⟩ hreg
  rw [not_lt] at hfree
  have hnear := h.near_parallel hfree hub hvb hx0 hx1 hy0 hy1
  have hunorm : ‖u‖ ≠ 0 := by
    intro hzero
    rw [norm_eq_zero.mp hzero, inner_zero_left] at hub
    exact absurd hub (not_lt.mpr tiny_pos.le)
  have hvnorm : 0 < ‖v‖ := by
    rw [real_inner_self_eq_norm_sq] at hv0
    exact lt_of_le_of_ne (norm_nonneg v) fun hzero => by
      rw [← hzero] at hv0
      norm_num at hv0
  have hshorter : 0 < shorter ∧ shorter ≤ ‖v‖ := by
    rw [← hshort, if_neg hunorm, if_neg hvnorm.ne']
    exact ⟨lt_min (lt_of_le_of_ne (norm_nonneg u) hunorm.symm) hvnorm, min_le_right _ _⟩
  have hacross : ‖across v u‖ ≤ 1e-9 / shorter := by
    rw [le_div_iff₀ hshorter.1]
    refine (mul_le_mul_of_nonneg_left hshorter.2 (norm_nonneg _)).trans ?_
    refine le_of_sq_le_sq ?_ (by norm_num)
    have hspan := norm_across_sq hv0 u
    rw [real_inner_self_eq_norm_sq (x := v)] at hspan
    rw [mul_pow, hspan]
    rw [real_inner_self_eq_norm_sq (x := v)] at hfree
    refine hfree.trans (le_of_eq ?_)
    unfold kTinySquared
    simp only [RealFloat.lit_eq]
    norm_num
  linarith

end Closest

/-! ## §5. The clearance. -/

/-- Whether two segments are regular. -/
def RegularSegments (a0 a1 b0 b1 : Vec3 ℝ) : Prop :=
  Regular (dot3 (subtract3 a1 a0) (subtract3 a1 a0)) (dot3 (subtract3 b1 b0) (subtract3 b1 b0))
    (dot3 (subtract3 a1 a0) (subtract3 b1 b0))

/-- The squared distance at two parameters. -/
noncomputable def squaredDistance (a0 a1 b0 b1 : Vec3 ℝ) (s t : ℝ) : ℝ :=
  dot3 (subtract3 (addScaled3 a0 (subtract3 a1 a0) s) (addScaled3 b0 (subtract3 b1 b0) t))
    (subtract3 (addScaled3 a0 (subtract3 a1 a0) s) (addScaled3 b0 (subtract3 b1 b0) t))

/-- The shorter of two lengths that are not zero. -/
noncomputable def shorterNonzero (d1 d2 : Vec3 ℝ) : ℝ :=
  if norm3 d1 = 0 then norm3 d2
  else if norm3 d2 = 0 then norm3 d1
  else min (norm3 d1) (norm3 d2)

theorem squaredDistance_eq (a0 a1 b0 b1 : Vec3 ℝ) (s t : ℝ) : squaredDistance a0 a1 b0 b1 s t =
    gap (vec (subtract3 a0 b0)) (vec (subtract3 a1 a0)) (vec (subtract3 b1 b0)) s t ^ 2 := by
  rw [← norm3_points, ← norm_vec, ← real_inner_self_eq_norm_sq, inner_vec]
  rfl

theorem regularSegments_swap {a0 a1 b0 b1 : Vec3 ℝ} (h : RegularSegments a0 a1 b0 b1) :
    RegularSegments b0 b1 a0 a1 := by
  obtain ⟨hu, hv, hD⟩ := h
  refine ⟨hv, hu, ?_⟩
  have hcomm : dot3 (subtract3 b1 b0) (subtract3 a1 a0) =
      dot3 (subtract3 a1 a0) (subtract3 b1 b0) := by
    unfold dot3
    ring
  rwa [hcomm, mul_comm (dot3 (subtract3 b1 b0) (subtract3 b1 b0))]

theorem regularSegments_reverse {a0 a1 b0 b1 : Vec3 ℝ} (h : RegularSegments a0 a1 b0 b1) :
    RegularSegments a1 a0 b0 b1 := by
  obtain ⟨hu, hv, hD⟩ := h
  have hself : dot3 (subtract3 a0 a1) (subtract3 a0 a1) =
      dot3 (subtract3 a1 a0) (subtract3 a1 a0) := by
    simp only [dot3, subtract3]
    ring
  have hcross : dot3 (subtract3 a0 a1) (subtract3 b1 b0) =
      -dot3 (subtract3 a1 a0) (subtract3 b1 b0) := by
    simp only [dot3, subtract3]
    ring
  unfold RegularSegments Regular
  rw [hself, hcross, neg_mul_neg]
  exact ⟨hu, hv, hD⟩

section Clearance

variable (a0 a1 b0 b1 : Vec3 ℝ) {radiusA radiusB : ℝ} (hA : 0 ≤ radiusA) (hB : 0 ≤ radiusB)

include hA hB

/-- The parameters of the source are those of closest points. -/
theorem detail_closest : ∃ s t, segmentClearanceDetail a0 a1 b0 b1 radiusA radiusB =
      ⟨gap (vec (subtract3 a0 b0)) (vec (subtract3 a1 a0)) (vec (subtract3 b1 b0)) s t -
        (radiusA + radiusB), s, t⟩ ∧
    Closest (inner ℝ (vec (subtract3 a1 a0)) (vec (subtract3 a1 a0)))
      (inner ℝ (vec (subtract3 b1 b0)) (vec (subtract3 b1 b0)))
      (inner ℝ (vec (subtract3 a1 a0)) (vec (subtract3 b1 b0)))
      (inner ℝ (vec (subtract3 a1 a0)) (vec (subtract3 a0 b0)))
      (inner ℝ (vec (subtract3 b1 b0)) (vec (subtract3 a0 b0))) s t := by
  simp only [inner_vec]
  exact detail_spec a0 a1 b0 b1 hA hB

/-- The clearance of regular segments. -/
theorem segmentClearance_regular (h : RegularSegments a0 a1 b0 b1) :
    segmentClearance a0 a1 b0 b1 radiusA radiusB =
      segmentDistance a0 a1 b0 b1 - (radiusA + radiusB) := by
  obtain ⟨s, t, hdetail, hclosest⟩ := detail_closest a0 a1 b0 b1 hA hB
  have hreg : RegularSegments a0 a1 b0 b1 := h
  unfold RegularSegments at hreg
  rw [← inner_vec, ← inner_vec, ← inner_vec] at hreg
  have hmem := hclosest.mem
  have hdistance : segmentDistance a0 a1 b0 b1 =
      gap (vec (subtract3 a0 b0)) (vec (subtract3 a1 a0)) (vec (subtract3 b1 b0)) s t := by
    refine le_antisymm (segmentDistance_le a0 a1 b0 b1 hmem.1 hmem.2) ?_
    exact le_segmentDistance fun x hx y hy => hclosest.minimum hreg hx.1 hx.2 hy.1 hy.2
  unfold segmentClearance
  rw [hdetail, hdistance]

/-- **The clearance is the distance** of the segments less the radii. -/
theorem segment_clearance_is_distance :
    (RegularSegments a0 a1 b0 b1 →
      (segmentClearanceDetail a0 a1 b0 b1 radiusA radiusB).s ∈ unitInterval ∧
      (segmentClearanceDetail a0 a1 b0 b1 radiusA radiusB).t ∈ unitInterval ∧
      (∀ x ∈ unitInterval, ∀ y ∈ unitInterval, squaredDistance a0 a1 b0 b1
          (segmentClearanceDetail a0 a1 b0 b1 radiusA radiusB).s
          (segmentClearanceDetail a0 a1 b0 b1 radiusA radiusB).t ≤
        squaredDistance a0 a1 b0 b1 x y) ∧
      segmentClearance a0 a1 b0 b1 radiusA radiusB =
        segmentDistance a0 a1 b0 b1 - (radiusA + radiusB) ∧
      segmentClearance b0 b1 a0 a1 radiusB radiusA =
        segmentClearance a0 a1 b0 b1 radiusA radiusB ∧
      segmentClearance a1 a0 b0 b1 radiusA radiusB =
        segmentClearance a0 a1 b0 b1 radiusA radiusB ∧
      segmentClearance a0 a1 b1 b0 radiusA radiusB =
        segmentClearance a0 a1 b0 b1 radiusA radiusB) ∧
    (¬ RegularSegments a0 a1 b0 b1 → segmentClearance a0 a1 b0 b1 radiusA radiusB ≤
      segmentDistance a0 a1 b0 b1 - (radiusA + radiusB) +
        1e-9 / shorterNonzero (subtract3 a1 a0) (subtract3 b1 b0) + 1e-9) := by
  obtain ⟨s, t, hdetail, hclosest⟩ := detail_closest a0 a1 b0 b1 hA hB
  have hmem := hclosest.mem
  constructor
  · intro hregular
    have hreg : RegularSegments a0 a1 b0 b1 := hregular
    unfold RegularSegments at hreg
    rw [← inner_vec, ← inner_vec, ← inner_vec] at hreg
    have hswapped := regularSegments_swap hregular
    rw [hdetail]
    refine ⟨hmem.1, hmem.2, fun x hx y hy => ?_,
      segmentClearance_regular a0 a1 b0 b1 hA hB hregular, ?_, ?_, ?_⟩
    · rw [squaredDistance_eq, squaredDistance_eq]
      exact pow_le_pow_left₀ (norm_nonneg _)
        (hclosest.minimum hreg hx.1 hx.2 hy.1 hy.2) 2
    · rw [segmentClearance_regular b0 b1 a0 a1 hB hA hswapped,
        segmentClearance_regular a0 a1 b0 b1 hA hB hregular, segmentDistance_swap,
        add_comm radiusB]
    · rw [segmentClearance_regular a1 a0 b0 b1 hA hB (regularSegments_reverse hregular),
        segmentClearance_regular a0 a1 b0 b1 hA hB hregular, segmentDistance_reverse]
    · rw [segmentClearance_regular a0 a1 b1 b0 hA hB
          (regularSegments_swap (regularSegments_reverse hswapped)),
        segmentClearance_regular a0 a1 b0 b1 hA hB hregular, ← segmentDistance_swap,
        segmentDistance_reverse, segmentDistance_swap]
  · intro hirregular
    have hreg : ¬ RegularSegments a0 a1 b0 b1 := hirregular
    unfold RegularSegments at hreg
    rw [← inner_vec, ← inner_vec, ← inner_vec] at hreg
    have hbound : gap (vec (subtract3 a0 b0)) (vec (subtract3 a1 a0)) (vec (subtract3 b1 b0))
        s t - 1e-9 / shorterNonzero (subtract3 a1 a0) (subtract3 b1 b0) - 1e-9 ≤
        segmentDistance a0 a1 b0 b1 := by
      refine le_segmentDistance fun x hx y hy => ?_
      have hnear := hclosest.near hreg hx.1 hx.2 hy.1 hy.2
      rw [norm_vec, norm_vec] at hnear
      unfold shorterNonzero
      linarith
    unfold segmentClearance
    rw [hdetail]
    dsimp only
    linarith

end Clearance

/-- Two skew segments a metre apart. -/
theorem segment_clearance_is_distance_skew :
    RegularSegments ![0, 0, 0] ![1, 0, 0] ![0, 0, 1] ![0, 1, 1] ∧
      segmentClearance ![0, 0, 0] ![1, 0, 0] ![0, 0, 1] ![0, 1, 1] (kArmRadius : ℝ) kToolRadius =
        segmentDistance ![0, 0, 0] ![1, 0, 0] ![0, 0, 1] ![0, 1, 1] -
          (kArmRadius + kToolRadius) := by
  have hregular : RegularSegments ![0, 0, 0] ![1, 0, 0] ![0, 0, 1] ![0, 1, 1] := by
    have hlast : ∀ x y z : ℝ, (![x, y, z] : Vec3 ℝ) 2 = z := fun _ _ _ => rfl
    unfold RegularSegments Regular kTinySquared
    simp only [RealFloat.lit_eq, dot3, subtract3, hlast]
    norm_num
  have hA : (0 : ℝ) ≤ kArmRadius := by
    simp only [kArmRadius, RealFloat.lit_eq]
    norm_num
  have hB : (0 : ℝ) ≤ kToolRadius := by
    simp only [kToolRadius, RealFloat.lit_eq]
    norm_num
  exact ⟨hregular, ((segment_clearance_is_distance _ _ _ _ hA hB).1 hregular).2.2.2.1⟩

end OpenArm.Model
