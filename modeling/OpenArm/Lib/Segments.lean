/-
  OpenArm.Lib.Segments — the closest points of two segments.

  The segments are `r + s • u` and `t • v` with parameters in the unit
  interval.  Their distance is convex in the two parameters: where the slopes
  settle, it is smallest.  Two directions that are almost parallel leave a
  valley with an almost level floor, on which one point is as good as another
  but for the part of `u` across `v`.

  Main results:
    * `gap_le_of_settles` — settled slopes are a minimum.
    * `settles_low`, `settles_high` — clamping one parameter after the other
      settles both.
    * `gap_across_low`, `gap_across_high` — the point chosen on a level floor.
-/
import OpenArm.Lib.RealFloat

namespace OpenArm.Lib

variable {E : Type*} [NormedAddCommGroup E] [InnerProductSpace ℝ E]

/-! ## §1. Slopes at the ends of the unit interval. -/

/-- At `s` in the unit interval a slope leads nowhere down: it is zero inside,
    and points outwards at the ends. -/
structure Settles (slope s : ℝ) : Prop where
  nonneg : 0 ≤ s
  le_one : s ≤ 1
  inner : 0 < s → slope ≤ 0
  outer : s < 1 → 0 ≤ slope

/-- No step along the unit interval goes down. -/
theorem Settles.step {slope s x : ℝ} (h : Settles slope s) (hx0 : 0 ≤ x) (hx1 : x ≤ 1) :
    0 ≤ slope * (x - s) := by
  rcases lt_trichotomy x s with hlt | rfl | hgt
  · have hslope := h.inner (lt_of_le_of_lt hx0 hlt)
    exact mul_nonneg_of_nonpos_of_nonpos hslope (by linarith)
  · simp
  · have hslope := h.outer (lt_of_lt_of_le hgt hx1)
    exact mul_nonneg hslope (by linarith)

/-- A slope that is zero settles everywhere. -/
theorem settles_zero {s : ℝ} (h0 : 0 ≤ s) (h1 : s ≤ 1) : Settles 0 s :=
  ⟨h0, h1, fun _ => le_refl 0, fun _ => le_refl 0⟩

/-- Only the sign of a slope counts. -/
theorem Settles.scale {slope slope' s k : ℝ} (h : Settles slope s) (hk : 0 < k)
    (heq : k * slope' = slope) : Settles slope' s where
  nonneg := h.nonneg
  le_one := h.le_one
  inner hs := by
    have hslope := h.inner hs
    rw [← heq] at hslope
    exact nonpos_of_mul_nonpos_right hslope hk
  outer hs := by
    have hslope := h.outer hs
    rw [← heq] at hslope
    exact nonneg_of_mul_nonneg_right hslope hk

/-! ## §2. The distance of two points. -/

section Gap

variable (r u v : E)

/-- The distance of the points at two parameters. -/
noncomputable def gap (s t : ℝ) : ℝ := ‖r + s • u - t • v‖

/-- Half the slope of its square in the first parameter … -/
noncomputable def slopeFirst (s t : ℝ) : ℝ := inner ℝ u (r + s • u - t • v)

/-- … and in the second. -/
noncomputable def slopeSecond (s t : ℝ) : ℝ := -inner ℝ v (r + s • u - t • v)

theorem slopeFirst_eq (s t : ℝ) :
    slopeFirst r u v s t = inner ℝ u r + inner ℝ u u * s - inner ℝ u v * t := by
  unfold slopeFirst
  rw [inner_sub_right, inner_add_right, inner_smul_right, inner_smul_right]
  ring

theorem slopeSecond_eq (s t : ℝ) :
    slopeSecond r u v s t = inner ℝ v v * t - inner ℝ u v * s - inner ℝ v r := by
  unfold slopeSecond
  rw [inner_sub_right, inner_add_right, inner_smul_right, inner_smul_right,
    real_inner_comm u v]
  ring

/-- The squared distance along a step: its slopes, and a part that is never
    negative. -/
theorem gap_sq_step (s t x y : ℝ) :
    gap r u v x y ^ 2 = gap r u v s t ^ 2 +
      2 * (slopeFirst r u v s t * (x - s) + slopeSecond r u v s t * (y - t)) +
      ‖(x - s) • u - (y - t) • v‖ ^ 2 := by
  have hmove : r + x • u - y • v =
      (r + s • u - t • v) + ((x - s) • u - (y - t) • v) := by
    rw [sub_smul, sub_smul]
    abel
  unfold gap slopeFirst slopeSecond
  rw [hmove, norm_add_sq_real, inner_sub_right, inner_smul_right, inner_smul_right,
    real_inner_comm u, real_inner_comm v]
  ring

variable {r u v}

/-- Steps that do not go down reach no smaller distance. -/
theorem gap_le_of_step {s t x y : ℝ}
    (h : 0 ≤ slopeFirst r u v s t * (x - s) + slopeSecond r u v s t * (y - t)) :
    gap r u v s t ≤ gap r u v x y := by
  have hsq : gap r u v s t ^ 2 ≤ gap r u v x y ^ 2 := by
    rw [gap_sq_step r u v s t x y]
    nlinarith [sq_nonneg ‖(x - s) • u - (y - t) • v‖]
  exact le_of_sq_le_sq hsq (norm_nonneg _)

/-- **Settled slopes are a minimum.** -/
theorem gap_le_of_settles {s t x y : ℝ} (hs : Settles (slopeFirst r u v s t) s)
    (ht : Settles (slopeSecond r u v s t) t) (hx0 : 0 ≤ x) (hx1 : x ≤ 1) (hy0 : 0 ≤ y)
    (hy1 : y ≤ 1) : gap r u v s t ≤ gap r u v x y :=
  gap_le_of_step (add_nonneg (hs.step hx0 hx1) (ht.step hy0 hy1))

/-- Counting the second parameter from the other end. -/
theorem gap_reverse_second (s t : ℝ) : gap (r - v) u (-v) s (1 - t) = gap r u v s t := by
  unfold gap
  congr 1
  rw [sub_smul, one_smul, smul_neg]
  abel

/-- Counting the first parameter from the other end. -/
theorem gap_reverse_first (s t : ℝ) : gap (r + u) (-u) v (1 - s) t = gap r u v s t := by
  unfold gap
  congr 1
  rw [sub_smul, one_smul, smul_neg]
  abel

/-- The segments in the other order. -/
theorem gap_swap (s t : ℝ) : gap (-r) v u t s = gap r u v s t := by
  unfold gap
  rw [← norm_neg]
  congr 1
  abel

/-- A shorter way from the first segment: the error is its length. -/
theorem gap_zero_le (s t : ℝ) (h0 : 0 ≤ s) (h1 : s ≤ 1) :
    gap r u v 0 t ≤ gap r u v s t + ‖u‖ := by
  have hsplit : r + (0 : ℝ) • u - t • v = (r + s • u - t • v) - s • u := by
    rw [zero_smul]
    abel
  have hpart : ‖s • u‖ ≤ ‖u‖ := by
    rw [norm_smul, Real.norm_of_nonneg h0]
    exact mul_le_of_le_one_left (norm_nonneg u) h1
  unfold gap
  rw [hsplit]
  linarith [norm_sub_le (r + s • u - t • v) (s • u)]

end Gap

/-! ## §3. One clamp after the other. -/

section Clamps

variable {a b c e f s σ : ℝ}

/-- **Below the second segment.**  The first parameter settles where the second
    is free, and there the second is negative; then it is still negative where
    the first settles for the end of the second. -/
theorem settles_low (he : 0 < e) (hD : 0 < a * e - b * b)
    (hs : Settles ((a * e - b * b) * s - (b * f - c * e)) s) (hneg : b * s + f < 0)
    (hσ : Settles (a * σ + c) σ) : b * σ + f ≤ 0 := by
  by_contra hpos
  rw [not_le] at hpos
  have hslope : (a * e - b * b) * s - (b * f - c * e) = e * (a * s + c) - b * (b * s + f) := by
    ring
  have hb : 0 < b * (σ - s) := by linarith
  rcases lt_trichotomy σ s with hlt | heq | hgt
  · -- the slope at `s` still falls, and the one at `σ` does not
    have hfalls := hs.inner (lt_of_le_of_lt hσ.nonneg hlt)
    have hrises := hσ.outer (lt_of_lt_of_le hlt hs.le_one)
    have hbneg : b < 0 := by
      by_contra hb0
      rw [not_lt] at hb0
      have := mul_nonpos_of_nonneg_of_nonpos hb0 (by linarith : σ - s ≤ 0)
      linarith
    rw [hslope] at hfalls
    have hfirst : e * (a * (s - σ)) ≤ e * (a * s + c) := by
      have := mul_nonneg he.le hrises
      nlinarith
    have hsecond : b * (b * s + f) < b * (b * (s - σ)) :=
      mul_lt_mul_of_neg_left (by linarith) hbneg
    nlinarith [mul_pos hD (by linarith : 0 < s - σ)]
  · rw [heq, sub_self, mul_zero] at hb
    exact lt_irrefl _ hb
  · have hrises := hs.outer (lt_of_lt_of_le hgt hσ.le_one)
    have hfalls := hσ.inner (lt_of_le_of_lt hs.nonneg hgt)
    have hbpos : 0 < b := by
      by_contra hb0
      rw [not_lt] at hb0
      have := mul_nonpos_of_nonpos_of_nonneg hb0 (by linarith : 0 ≤ σ - s)
      linarith
    rw [hslope] at hrises
    have hfirst : e * (a * s + c) ≤ -(e * (a * (σ - s))) := by
      have := mul_nonpos_of_nonneg_of_nonpos he.le hfalls
      nlinarith
    have hsecond : -(b * (b * (σ - s))) < b * (b * s + f) := by
      have := mul_lt_mul_of_pos_left (by linarith : -(b * (σ - s)) < b * s + f) hbpos
      linarith
    nlinarith [mul_pos hD (by linarith : 0 < σ - s)]

/-- **Above the second segment**: the same from its other end. -/
theorem settles_high (he : 0 < e) (hD : 0 < a * e - b * b)
    (hs : Settles ((a * e - b * b) * s - (b * f - c * e)) s) (habove : e < b * s + f)
    (hσ : Settles (a * σ + c - b) σ) : e ≤ b * σ + f := by
  have hlow := settles_low (a := a) (b := -b) (c := c - b) (e := e) (f := e - f) he
    (by rwa [neg_mul_neg])
    (by
      have heq : (a * e - -b * -b) * s - (-b * (e - f) - (c - b) * e) =
          (a * e - b * b) * s - (b * f - c * e) := by ring
      rwa [heq])
    (by linarith)
    (by rwa [← add_sub_assoc])
  linarith

end Clamps

/-! ## §4. Almost parallel directions. -/

section Across

variable {r u v : E} {e : ℝ} (he : 0 < inner ℝ v v)

/-- The part of a vector across the second direction. -/
noncomputable def across (v w : E) : E := w - (inner ℝ v w / inner ℝ v v) • v

/-- The distance at two parameters: across the second direction, and along it. -/
theorem gap_across (s t : ℝ) : gap r u v s t = ‖(across v r + s • across v u) -
    (t - (inner ℝ u v * s + inner ℝ v r) / inner ℝ v v) • v‖ := by
  unfold gap across
  congr 1
  rw [real_inner_comm u v]
  simp only [smul_sub, sub_smul, smul_smul]
  have hscale : s • (inner ℝ u v / inner ℝ v v) • v = ((inner ℝ u v * s) / inner ℝ v v) • v := by
    rw [smul_smul]
    congr 1
    ring
  rw [← smul_smul, hscale, add_div, add_smul]
  abel

include he

/-- It is at right angles to that direction. -/
theorem inner_across (w : E) : inner ℝ v (across v w) = 0 := by
  unfold across
  rw [inner_sub_right, inner_smul_right, div_mul_cancel₀ _ he.ne', sub_self]

/-- Its length: what the parallelogram of the two spans. -/
theorem norm_across_sq (w : E) : ‖across v w‖ ^ 2 * inner ℝ v v =
    inner ℝ w w * inner ℝ v v - inner ℝ w v * inner ℝ w v := by
  have hself : ‖across v w‖ ^ 2 = inner ℝ w (across v w) := by
    rw [← real_inner_self_eq_norm_sq]
    nth_rewrite 1 [across]
    rw [inner_sub_left, inner_smul_left, inner_across he]
    simp
  rw [hself]
  unfold across
  rw [inner_sub_right, inner_smul_right, sub_mul, real_inner_comm w v, mul_right_comm,
    div_mul_cancel₀ _ he.ne']

/-- The part along it only adds. -/
theorem across_le_gap (s t : ℝ) : ‖across v r + s • across v u‖ ≤ gap r u v s t := by
  have hflat : ∀ w : E, inner ℝ (across v w) v = 0 := by
    intro w
    rw [real_inner_comm]
    exact inner_across he w
  have hright : inner ℝ (across v r + s • across v u)
      ((t - (inner ℝ u v * s + inner ℝ v r) / inner ℝ v v) • v) = 0 := by
    rw [inner_smul_right, inner_add_left, inner_smul_left, hflat, hflat]
    simp
  have hsq : ‖across v r + s • across v u‖ ^ 2 ≤ gap r u v s t ^ 2 := by
    rw [gap_across, norm_sub_sq_real, hright]
    nlinarith [sq_nonneg ‖(t - (inner ℝ u v * s + inner ℝ v r) / inner ℝ v v) • v‖]
  exact le_of_sq_le_sq hsq (norm_nonneg _)

/-- On the floor of the valley the distance is all across. -/
theorem gap_floor {s t : ℝ} (h : t * inner ℝ v v = inner ℝ u v * s + inner ℝ v r) :
    gap r u v s t = ‖across v r + s • across v u‖ := by
  have hfloor : (inner ℝ u v * s + inner ℝ v r) / inner ℝ v v = t := by
    rw [← h, mul_div_assoc, div_self he.ne', mul_one]
  rw [gap_across, hfloor, sub_self, zero_smul, sub_zero]

/-- Along the floor a distance grows by at most the part across. -/
theorem floor_le {s x t y : ℝ} (h : t * inner ℝ v v = inner ℝ u v * s + inner ℝ v r)
    (hsx : |s - x| ≤ 1) : gap r u v s t ≤ gap r u v x y + ‖across v u‖ := by
  have hsplit : across v r + s • across v u =
      (across v r + x • across v u) + (s - x) • across v u := by
    rw [sub_smul]
    abel
  have hpart : ‖(s - x) • across v u‖ ≤ ‖across v u‖ := by
    rw [norm_smul, Real.norm_eq_abs]
    exact mul_le_of_le_one_left (norm_nonneg _) hsx
  rw [gap_floor he h, hsplit]
  linarith [norm_add_le (across v r + x • across v u) ((s - x) • across v u),
    across_le_gap (r := r) (u := u) he x y]

/-- **Below the second segment, with directions that may be parallel**: its
    end is good enough. -/
theorem gap_across_low {σ x y : ℝ} (hneg : inner ℝ v r < 0)
    (hσ : Settles (slopeFirst r u v σ 0) σ) (hx0 : 0 ≤ x) (hx1 : x ≤ 1) (hy0 : 0 ≤ y) :
    gap r u v σ 0 ≤ gap r u v x y + ‖across v u‖ := by
  -- at this end of the second segment nothing is nearer than `σ`
  have hend : ∀ z : ℝ, 0 ≤ z → z ≤ 1 → gap r u v σ 0 ≤ gap r u v z 0 := by
    intro z hz0 hz1
    refine gap_le_of_step ?_
    rw [sub_self, mul_zero, add_zero]
    exact hσ.step hz0 hz1
  by_cases hbelow : inner ℝ u v * x + inner ℝ v r ≤ 0
  · have hdown : gap r u v x 0 ≤ gap r u v x y := by
      refine gap_le_of_step ?_
      rw [sub_self, mul_zero, zero_add, slopeSecond_eq]
      exact mul_nonneg (by linarith) (by linarith)
    linarith [hend x hx0 hx1, norm_nonneg (across v u)]
  · -- the floor of the valley meets the end of the second segment before `x`
    rw [not_le] at hbelow
    have hb : 0 < inner ℝ u v := by
      by_contra hb0
      rw [not_lt] at hb0
      have := mul_nonpos_of_nonpos_of_nonneg hb0 hx0
      linarith
    have hmeet0 : 0 ≤ -inner ℝ v r / inner ℝ u v := div_nonneg (by linarith) hb.le
    have hmeetx : -inner ℝ v r / inner ℝ u v ≤ x := by
      rw [div_le_iff₀ hb]
      linarith
    have hmeet : (0 : ℝ) * inner ℝ v v =
        inner ℝ u v * (-inner ℝ v r / inner ℝ u v) + inner ℝ v r := by
      rw [mul_div_cancel₀ _ hb.ne']
      ring
    have hfloor := floor_le (r := r) (u := u) (y := y) he hmeet
      (abs_le.mpr ⟨by linarith, by linarith⟩ :
        |-inner ℝ v r / inner ℝ u v - x| ≤ 1)
    linarith [hend _ hmeet0 (by linarith)]

/-- **Above it.** -/
theorem gap_across_high {σ x y : ℝ} (habove : inner ℝ v v < inner ℝ v r)
    (hσ : Settles (slopeFirst r u v σ 1) σ) (hx0 : 0 ≤ x) (hx1 : x ≤ 1) (hy1 : y ≤ 1) :
    gap r u v σ 1 ≤ gap r u v x y + ‖across v u‖ := by
  have hacross : across (-v) u = across v u := by
    unfold across
    rw [inner_neg_left, inner_neg_neg, neg_div, neg_smul_neg]
  have hslope : slopeFirst (r - v) u (-v) σ 0 = slopeFirst r u v σ 1 := by
    rw [slopeFirst_eq, slopeFirst_eq, inner_sub_right]
    ring
  have hlow := gap_across_low (r := r - v) (u := u) (v := -v) (σ := σ) (x := x) (y := 1 - y)
    (by rwa [inner_neg_neg])
    (by rw [inner_neg_left, inner_sub_right]; linarith)
    (by rwa [hslope]) hx0 hx1 (by linarith)
  rw [hacross, gap_reverse_second] at hlow
  have hends := gap_reverse_second (r := r) (u := u) (v := v) σ 1
  rw [sub_self] at hends
  rwa [hends] at hlow

end Across

end OpenArm.Lib
