/-
  OpenArm.Lib.ConvexSearch — the distance to a convex set, and ternary search.

  Along a line the distance to a convex set is convex, also where it is level
  because the line is inside.  Two values of a convex function tell in which
  part of a bracket a minimiser lies; a level stretch does no harm, for then
  the point in the middle is a minimiser itself.

  Main results:
    * `convexOn_lineDist_sq` — the squared distance along a line is convex.
    * `Bracketed.left`, `Bracketed.right` — one round keeps a minimiser.
    * `isLeast_dist` — the least distance of a segment is attained.
-/
import OpenArm.Lib.RealFloat

namespace OpenArm.Lib

/-! ## §1. The distance to a convex set. -/

section Distance

variable {E : Type*} [NormedAddCommGroup E] [NormedSpace ℝ E] {C : Set E}

/-- **The distance to a convex set is convex.** -/
theorem convexOn_infDist (hC : Convex ℝ C) (hne : C.Nonempty) :
    ConvexOn ℝ Set.univ fun x => Metric.infDist x C := by
  refine ⟨convex_univ, fun x _ y _ a b ha hb hab => le_of_forall_pos_le_add fun ε hε => ?_⟩
  obtain ⟨p, hp, hxp⟩ := (Metric.infDist_lt_iff hne).mp
    (show Metric.infDist x C < Metric.infDist x C + ε by linarith)
  obtain ⟨q, hq, hyq⟩ := (Metric.infDist_lt_iff hne).mp
    (show Metric.infDist y C < Metric.infDist y C + ε by linarith)
  have hmem : a • p + b • q ∈ C := hC hp hq ha hb hab
  have hsplit : (a • x + b • y) - (a • p + b • q) = a • (x - p) + b • (y - q) := by
    rw [smul_sub, smul_sub]
    abel
  calc Metric.infDist (a • x + b • y) C
      ≤ dist (a • x + b • y) (a • p + b • q) := Metric.infDist_le_dist_of_mem hmem
    _ = ‖a • (x - p) + b • (y - q)‖ := by rw [dist_eq_norm, hsplit]
    _ ≤ ‖a • (x - p)‖ + ‖b • (y - q)‖ := norm_add_le _ _
    _ = a * dist x p + b * dist y q := by
      rw [norm_smul_of_nonneg ha, norm_smul_of_nonneg hb, dist_eq_norm, dist_eq_norm]
    _ ≤ a * (Metric.infDist x C + ε) + b * (Metric.infDist y C + ε) := by gcongr
    _ = a • Metric.infDist x C + b • Metric.infDist y C + (a + b) * ε := by
      rw [smul_eq_mul, smul_eq_mul]
      ring
    _ = a • Metric.infDist x C + b • Metric.infDist y C + ε := by rw [hab, one_mul]

/-- The distance from the point of a line at a parameter. -/
noncomputable def lineDist (C : Set E) (a d : E) (t : ℝ) : ℝ := Metric.infDist (a + t • d) C

theorem lineDist_nonneg (a d : E) (t : ℝ) : 0 ≤ lineDist C a d t := Metric.infDist_nonneg

/-- **Its square is convex along a line.** -/
theorem convexOn_lineDist_sq (hC : Convex ℝ C) (hne : C.Nonempty) (a d : E) :
    ConvexOn ℝ Set.univ fun t => lineDist C a d t ^ 2 := by
  have hline : ConvexOn ℝ Set.univ (lineDist C a d) := by
    refine ⟨convex_univ, fun s _ t _ x y hx hy hxy => ?_⟩
    have hpoint : a + (x • s + y • t) • d = x • (a + s • d) + y • (a + t • d) := by
      have ha : a = x • a + y • a := by rw [← add_smul, hxy, one_smul]
      rw [smul_add, smul_add, smul_smul, smul_smul, add_smul]
      nth_rewrite 1 [ha]
      simp only [smul_eq_mul]
      abel
    show Metric.infDist (a + (x • s + y • t) • d) C ≤ _
    rw [hpoint]
    exact (convexOn_infDist hC hne).2 trivial trivial hx hy hxy
  exact hline.pow (fun t _ => lineDist_nonneg a d t) 2

/-- A step along the line changes the distance by at most its length. -/
theorem lineDist_le_add (a d : E) (s t : ℝ) :
    lineDist C a d s ≤ lineDist C a d t + |s - t| * ‖d‖ := by
  have hstep : dist (a + s • d) (a + t • d) = |s - t| * ‖d‖ := by
    rw [dist_add_left, dist_eq_norm, ← sub_smul, norm_smul, Real.norm_eq_abs]
  rw [← hstep]
  exact Metric.infDist_le_infDist_add_dist

theorem continuous_lineDist (a d : E) : Continuous (lineDist C a d) :=
  (Metric.continuous_infDist_pt C).comp (by fun_prop)

/-- A parameter of the segment at which the distance is least. -/
theorem exists_minimiser (a d : E) :
    ∃ t ∈ Set.Icc (0 : ℝ) 1, ∀ x ∈ Set.Icc (0 : ℝ) 1, lineDist C a d t ≤ lineDist C a d x := by
  obtain ⟨t, ht, hmin⟩ := isCompact_Icc.exists_isMinOn (Set.nonempty_Icc.mpr zero_le_one)
    (continuous_lineDist (C := C) a d).continuousOn
  exact ⟨t, ht, hmin⟩

/-- **The least distance of a segment from a closed set is attained**, at the
    parameter at which the distance along the line is least. -/
theorem isLeast_dist [ProperSpace E] (hclosed : IsClosed C) (hne : C.Nonempty) {a b : E} {t : ℝ}
    (ht : t ∈ Set.Icc (0 : ℝ) 1)
    (hmin : ∀ x ∈ Set.Icc (0 : ℝ) 1, lineDist C a (b - a) t ≤ lineDist C a (b - a) x) :
    IsLeast {r | ∃ p ∈ segment ℝ a b, ∃ q ∈ C, r = dist p q} (lineDist C a (b - a) t) := by
  constructor
  · obtain ⟨q, hq, hdist⟩ := hclosed.exists_infDist_eq_dist hne (a + t • (b - a))
    refine ⟨a + t • (b - a), ?_, q, hq, hdist⟩
    rw [segment_eq_image']
    exact ⟨t, ht, rfl⟩
  · rintro r ⟨p, hp, q, hq, rfl⟩
    rw [segment_eq_image'] at hp
    obtain ⟨x, hx, rfl⟩ := hp
    exact (hmin x hx).trans (Metric.infDist_le_dist_of_mem hq)

end Distance

/-! ## §2. Ternary search. -/

/-- A minimiser over the unit interval lies in the bracket. -/
def Bracketed (f : ℝ → ℝ) (low high : ℝ) : Prop :=
  ∃ t ∈ Set.Icc low high, ∀ x ∈ Set.Icc (0 : ℝ) 1, f t ≤ f x

section Search

variable {f : ℝ → ℝ} {low high first second : ℝ}

/-- **The values do not fall**: the part behind the second point is not needed.
    Where a minimiser lies there, the values are level, and the first point is
    a minimiser too. -/
theorem Bracketed.left (h : Bracketed f low high) (hf : ConvexOn ℝ Set.univ f)
    (hlow : low ≤ first) (horder : first < second) (hle : f first ≤ f second) :
    Bracketed f low second := by
  obtain ⟨t, ht, hmin⟩ := h
  by_cases hbefore : t ≤ second
  · exact ⟨t, ⟨ht.1, hbefore⟩, hmin⟩
  · -- the second point lies between the first one and the minimiser
    have hbehind : second < t := not_le.mp hbefore
    have hslope := hf.slope_mono_adjacent (Set.mem_univ first) (Set.mem_univ t) horder hbehind
    have hrise : 0 ≤ (f second - f first) / (second - first) :=
      div_nonneg (by linarith) (by linarith)
    have hback : f second ≤ f t := by
      have hquotient := hrise.trans hslope
      rw [le_div_iff₀ (by linarith), zero_mul] at hquotient
      linarith
    refine ⟨first, ⟨hlow, horder.le⟩, fun x hx => ?_⟩
    have hx' := hmin x hx
    linarith

/-- **The values fall**: the part before the first point is not needed. -/
theorem Bracketed.right (h : Bracketed f low high) (hf : ConvexOn ℝ Set.univ f)
    (horder : first < second) (hsecond : second ∈ Set.Icc (0 : ℝ) 1) (hlt : f second < f first) :
    Bracketed f first high := by
  obtain ⟨t, ht, hmin⟩ := h
  refine ⟨t, ⟨?_, ht.2⟩, hmin⟩
  by_contra hnot
  have hbefore : t < first := not_le.mp hnot
  have hslope := hf.slope_mono_adjacent (Set.mem_univ t) (Set.mem_univ second) hbefore horder
  have hfall : (f second - f first) / (second - first) < 0 :=
    div_neg_of_neg_of_pos (by linarith) (by linarith)
  have hdown : f first < f t := by
    have hquotient := hslope.trans_lt hfall
    rw [div_lt_iff₀ (by linarith), zero_mul] at hquotient
    linarith
  have htwo := hmin second hsecond
  linarith

end Search

end OpenArm.Lib
