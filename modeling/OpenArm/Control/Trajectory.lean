/-
  OpenArm.Control.Trajectory — the limits a segment's reference keeps.

  A segment moves every joint along the same seventh-order polynomial, over a
  duration chosen from the joint that needs most.  The statements are about
  exact arithmetic: the reference is a function on the real line, with the
  square and cube roots of the duration the real ones.

  Main results:
    * `step7_second_le`, `step7_third_le` — the maxima behind the constants 8
      and 60.
    * `segmentReference_limits` — velocity, acceleration, jerk and range of
      one joint of a segment.
    * `planReference_follows`   — the reference of a cycle is the point of its
      plan that belongs to the time since the command started.
    * `trajectory_limits`       — the limits of every segment, and the joins.
-/
import OpenArm.Lib.RealFloat
import OpenArm.Control.Standard

namespace OpenArm.Control

open OpenArm.Lib OpenArm.Lib.RealFloat

/-! ## §1. The polynomial. -/

/-- The polynomial of `smoothstep7`, without its clamp. -/
noncomputable def step7 (x : ℝ) : ℝ := x * x * x * x * (35 + x * (-84 + x * (70 - 20 * x)))

/-- The polynomial of `smoothstep7_derivative`, without its clamp. -/
noncomputable def step7First (x : ℝ) : ℝ := 140 * x * x * x * (1 - x) * (1 - x) * (1 - x)

/-- The second derivative. -/
noncomputable def step7Second (x : ℝ) : ℝ := 420 * (x * (1 - x)) ^ 2 * (1 - 2 * x)

/-- The third derivative. -/
noncomputable def step7Third (x : ℝ) : ℝ := 840 * (x * (1 - x)) * (1 - 5 * (x * (1 - x)))

theorem smoothstep7_eq (u : ℝ) : smoothstep7 u = step7 (clamp01 u) := by
  show _ = clamp01 u * clamp01 u * clamp01 u * clamp01 u *
    (35 + clamp01 u * (-84 + clamp01 u * (70 - 20 * clamp01 u)))
  simp only [smoothstep7, clamp01, lit_eq]
  norm_num

theorem smoothstep7Derivative_eq (u : ℝ) : smoothstep7Derivative u = step7First (clamp01 u) := by
  show _ = 140 * clamp01 u * clamp01 u * clamp01 u * (1 - clamp01 u) * (1 - clamp01 u) *
    (1 - clamp01 u)
  simp only [smoothstep7Derivative, clamp01, lit_eq]
  norm_num

theorem hasDerivAt_step7 (x : ℝ) : HasDerivAt step7 (step7First x) x := by
  have hpoly : step7 = fun y => 35 * y ^ 4 - 84 * y ^ 5 + 70 * y ^ 6 - 20 * y ^ 7 := by
    funext y
    unfold step7
    ring
  rw [hpoly]
  have h4 := (hasDerivAt_pow 4 x).const_mul 35
  have h5 := (hasDerivAt_pow 5 x).const_mul 84
  have h6 := (hasDerivAt_pow 6 x).const_mul 70
  have h7 := (hasDerivAt_pow 7 x).const_mul 20
  refine (((h4.sub h5).add h6).sub h7).congr_deriv ?_
  unfold step7First
  push_cast
  ring

theorem hasDerivAt_step7First (x : ℝ) : HasDerivAt step7First (step7Second x) x := by
  have hpoly : step7First = fun y => 140 * y ^ 3 - 420 * y ^ 4 + 420 * y ^ 5 - 140 * y ^ 6 := by
    funext y
    unfold step7First
    ring
  rw [hpoly]
  have h3 := (hasDerivAt_pow 3 x).const_mul 140
  have h4 := (hasDerivAt_pow 4 x).const_mul 420
  have h5 := (hasDerivAt_pow 5 x).const_mul 420
  have h6 := (hasDerivAt_pow 6 x).const_mul 140
  refine (((h3.sub h4).add h5).sub h6).congr_deriv ?_
  unfold step7Second
  push_cast
  ring

theorem hasDerivAt_step7Second (x : ℝ) : HasDerivAt step7Second (step7Third x) x := by
  have hpoly : step7Second =
      fun y => 420 * y ^ 2 - 1680 * y ^ 3 + 2100 * y ^ 4 - 840 * y ^ 5 := by
    funext y
    unfold step7Second
    ring
  rw [hpoly]
  have h2 := (hasDerivAt_pow 2 x).const_mul 420
  have h3 := (hasDerivAt_pow 3 x).const_mul 1680
  have h4 := (hasDerivAt_pow 4 x).const_mul 2100
  have h5 := (hasDerivAt_pow 5 x).const_mul 840
  refine (((h2.sub h3).add h4).sub h5).congr_deriv ?_
  unfold step7Third
  push_cast
  ring

/-! ## §2. Its maxima.

  All three derivatives are functions of `w = x (1 - x)`, which runs over
  `[0, 1/4]`, and of the sign of `1 - 2 x`, whose square is `1 - 4 w`. -/

theorem mul_one_sub_nonneg {x : ℝ} (h0 : 0 ≤ x) (h1 : x ≤ 1) : 0 ≤ x * (1 - x) :=
  mul_nonneg h0 (by linarith)

theorem mul_one_sub_le (x : ℝ) : x * (1 - x) ≤ 1 / 4 := by
  have hsq : 0 ≤ (1 - 2 * x) ^ 2 := sq_nonneg _
  linarith [hsq, (by ring : (1 - 2 * x) ^ 2 = 1 - 4 * (x * (1 - x)))]

/-- The velocity constant: the largest slope is `140 / 64`. -/
theorem step7_first_le {x : ℝ} (h0 : 0 ≤ x) (h1 : x ≤ 1) : |step7First x| ≤ 2.2 := by
  have hw0 := mul_one_sub_nonneg h0 h1
  have hw := mul_one_sub_le x
  have hcube : (x * (1 - x)) ^ 3 ≤ (1 / 4) ^ 3 := by gcongr
  have hform : step7First x = 140 * (x * (1 - x)) ^ 3 := by
    unfold step7First
    ring
  rw [hform, abs_of_nonneg (by positivity)]
  linarith

/-- The acceleration constant: with `w = x (1 - x)` the square of the second
    derivative is `420² w⁴ (1 - 4 w)`, largest at `w = 1/5`. -/
theorem step7_second_le {x : ℝ} (h0 : 0 ≤ x) (h1 : x ≤ 1) : |step7Second x| ≤ 8 := by
  have hw0 := mul_one_sub_nonneg h0 h1
  set w := x * (1 - x) with hwdef
  have hpeak : w ^ 4 * (1 - 4 * w) ≤ 1 / 3125 := by
    have hfactor : 1 / 3125 - w ^ 4 * (1 - 4 * w) =
        (w - 1 / 5) ^ 2 * (4 * w ^ 3 + 3 / 5 * w ^ 2 + 2 / 25 * w + 1 / 125) := by ring
    have hpos : 0 ≤ (w - 1 / 5) ^ 2 * (4 * w ^ 3 + 3 / 5 * w ^ 2 + 2 / 25 * w + 1 / 125) := by
      positivity
    linarith
  have hsq : (step7Second x) ^ 2 = 176400 * (w ^ 4 * (1 - 4 * w)) := by
    unfold step7Second
    rw [hwdef]
    ring
  refine abs_le_of_sq_le_sq ?_ (by norm_num)
  rw [hsq]
  linarith

/-- The jerk constant: the largest magnitude, `52.5`, is taken in the middle,
    where the third derivative is negative; its positive maximum is `42`. -/
theorem step7_third_le {x : ℝ} (h0 : 0 ≤ x) (h1 : x ≤ 1) : |step7Third x| ≤ 60 := by
  have hw0 := mul_one_sub_nonneg h0 h1
  have hw := mul_one_sub_le x
  have hform : step7Third x = 42 - 4200 * (x * (1 - x) - 1 / 10) ^ 2 := by
    unfold step7Third
    ring
  have hsq : (x * (1 - x) - 1 / 10) ^ 2 ≤ (3 / 20) ^ 2 :=
    sq_le_sq' (by linarith) (by linarith)
  have hsq0 : 0 ≤ (x * (1 - x) - 1 / 10) ^ 2 := sq_nonneg _
  rw [hform, abs_le]
  constructor
  · linarith
  · linarith

theorem step7_nonneg {x : ℝ} (h1 : x ≤ 1) : 0 ≤ step7 x := by
  have hform : step7 x =
      x ^ 4 * (1 + 4 * (1 - x) + 10 * (1 - x) ^ 2 + 20 * (1 - x) ^ 3) := by
    unfold step7
    ring
  have hy : 0 ≤ 1 - x := by linarith
  rw [hform]
  positivity

theorem step7_le_one {x : ℝ} (h0 : 0 ≤ x) : step7 x ≤ 1 := by
  have hform : 1 - step7 x = (1 - x) ^ 4 * (1 + 4 * x + 10 * x ^ 2 + 20 * x ^ 3) := by
    unfold step7
    ring
  have hpos : 0 ≤ (1 - x) ^ 4 * (1 + 4 * x + 10 * x ^ 2 + 20 * x ^ 3) := by positivity
  linarith

/-! ## §3. The clamped step. -/

/-- **`smoothstep7_derivative` is the derivative of `smoothstep7`**, at the
    corners of the clamp too. -/
theorem hasDerivAt_smoothstep7 (u : ℝ) :
    HasDerivAt smoothstep7 (smoothstep7Derivative u) u := by
  have hfun : (smoothstep7 : ℝ → ℝ) = fun v => step7 (clamp01 v) := funext smoothstep7_eq
  rw [hfun, smoothstep7Derivative_eq]
  exact hasDerivAt_comp_clamp hasDerivAt_step7 (by simp [step7First]) (by simp [step7First]) u

theorem hasDerivAt_smoothstep7Derivative (u : ℝ) :
    HasDerivAt smoothstep7Derivative (step7Second (clamp01 u)) u := by
  have hfun : (smoothstep7Derivative : ℝ → ℝ) = fun v => step7First (clamp01 v) :=
    funext smoothstep7Derivative_eq
  rw [hfun]
  exact hasDerivAt_comp_clamp hasDerivAt_step7First (by simp [step7Second])
    (by simp [step7Second]) u

theorem hasDerivAt_step7Second_clamp (u : ℝ) :
    HasDerivAt (fun v => step7Second (clamp01 v)) (step7Third (clamp01 u)) u :=
  hasDerivAt_comp_clamp hasDerivAt_step7Second (by simp [step7Third]) (by simp [step7Third]) u

/-! ## §4. The duration of a segment. -/

namespace Controller

variable {F : Type} [Floating F]

/-- The duration `trajectory_duration` computes before it rounds up to whole
    nanoseconds. -/
def durationS (c : Controller F) (start target : Side → JointVector F)
    (velocityScale accelerationScale jerkScale : F) (armMask : Side → Bool) : F :=
  (List.finRange 2).foldl
    (fun d side =>
      if armMask side then
        (List.finRange 7).foldl
          (fun d joint =>
            jointDuration (c.manifest.motor side joint) velocityScale accelerationScale
              jerkScale d (Floating.abs (target side joint - start side joint))) d
      else d) (Floating.ofNat c.options.cycleNs * Floating.lit 10.0e-9)

theorem trajectoryDuration_eq (c : Controller F) (start target : Side → JointVector F)
    (velocityScale accelerationScale jerkScale : F) (armMask : Side → Bool) :
    c.trajectoryDuration start target velocityScale accelerationScale jerkScale armMask =
      min (Floating.ceilNanos
        (c.durationS start target velocityScale accelerationScale jerkScale armMask)) maxU64 :=
  rfl

end Controller

/-- A fold that never goes down ends at or above where it starts. -/
theorem le_foldl {α : Type} {f : ℝ → α → ℝ} (hf : ∀ d a, d ≤ f d a) (xs : List α) (d : ℝ) :
    d ≤ xs.foldl f d := by
  induction xs generalizing d with
  | nil => exact le_refl d
  | cons a rest ih =>
    rw [List.foldl_cons]
    exact le_trans (hf d a) (ih _)

/-- … and at or above what any of its members asks for. -/
theorem le_foldl_of_mem {α : Type} {f : ℝ → α → ℝ} {b : α → ℝ} (hf : ∀ d a, d ≤ f d a)
    {xs : List α} {a : α} (hmem : a ∈ xs) (hb : ∀ d, b a ≤ f d a) (d : ℝ) :
    b a ≤ xs.foldl f d := by
  induction xs generalizing d with
  | nil => simp at hmem
  | cons x rest ih =>
    rw [List.foldl_cons]
    rcases List.mem_cons.mp hmem with rfl | hrest
    · exact le_trans (hb d) (le_foldl hf rest _)
    · exact ih hrest _

/-- What a joint adds to a duration. -/
theorem jointDuration_eq (motor : MotorConfig ℝ) (sv sa sj d distance : ℝ) :
    Controller.jointDuration motor sv sa sj d distance =
      max (max (max d (distance * 2.2 / (motor.maxVelocityRadS * sv)))
        (Real.sqrt (distance * 8 / (motor.maxAccelerationRadS2 * sa))))
        (Floating.cbrt (distance * 60 / (motor.maxJerkRadS3 * sj))) := by
  simp only [Controller.jointDuration, max_eq, lit_eq, sqrt_eq]
  norm_num

theorem le_jointDuration (motor : MotorConfig ℝ) (sv sa sj d distance : ℝ) :
    d ≤ Controller.jointDuration motor sv sa sj d distance := by
  rw [jointDuration_eq]
  exact le_max_of_le_left (le_max_of_le_left (le_max_left _ _))

/-- Every joint of an active arm is waited for. -/
theorem le_durationS (c : Controller ℝ) (start target : Side → JointVector ℝ) (sv sa sj : ℝ)
    (armMask : Side → Bool) {bound : ℝ} {side : Side} (joint : Joint)
    (hmask : armMask side = true)
    (hbound : ∀ d, bound ≤ Controller.jointDuration (c.manifest.motor side joint) sv sa sj d
      |target side joint - start side joint|) :
    bound ≤ c.durationS start target sv sa sj armMask := by
  have hside : ∀ (d : ℝ) (s : Side), d ≤ if armMask s then
      (List.finRange 7).foldl
        (fun d j => Controller.jointDuration (c.manifest.motor s j) sv sa sj d
          (Floating.abs (target s j - start s j))) d
      else d := by
    intro d s
    split
    · exact le_foldl (fun d j => le_jointDuration _ _ _ _ _ _) _ d
    · exact le_refl d
  refine le_foldl_of_mem (b := fun _ => bound) hside (List.mem_finRange side) ?_ _
  intro d
  rw [if_pos hmask]
  refine le_foldl_of_mem (f := fun d j => Controller.jointDuration (c.manifest.motor side j) sv sa
    sj d (Floating.abs (target side j - start side j))) (b := fun _ => bound) ?_
    (List.mem_finRange joint) hbound d
  intro e j
  exact le_jointDuration _ _ _ _ _ _

/-- A segment takes some time: ten control cycles are the least. -/
theorem durationS_pos (c : Controller ℝ) (start target : Side → JointVector ℝ) (sv sa sj : ℝ)
    (armMask : Side → Bool) : 0 < c.durationS start target sv sa sj armMask := by
  have hcycle : (0 : ℝ) < c.options.cycleNs := by
    exact_mod_cast Nat.pos_of_ne_zero c.options.cycle_ne
  have hinit : (0 : ℝ) < Floating.ofNat c.options.cycleNs * Floating.lit 10.0e-9 := by
    show 0 < (c.options.cycleNs : ℝ) * ((10.0e-9 : ℚ) : ℝ)
    exact mul_pos hcycle (by norm_num)
  refine lt_of_lt_of_le hinit (le_foldl ?_ _ _)
  intro d s
  split
  · exact le_foldl (fun d j => le_jointDuration _ _ _ _ _ _) _ d
  · exact le_refl d

/-- What the duration of a segment leaves one joint. -/
structure LongEnough (motor : MotorConfig ℝ) (sv sa sj distance T : ℝ) : Prop where
  pos : 0 < T
  velocity : distance * 2.2 ≤ motor.maxVelocityRadS * sv * T
  acceleration : distance * 8 ≤ motor.maxAccelerationRadS2 * sa * T ^ 2
  jerk : distance * 60 ≤ motor.maxJerkRadS3 * sj * T ^ 3

/-- **The duration is long enough for every joint of an active arm.** -/
theorem longEnough (c : Controller ℝ) (start target : Side → JointVector ℝ) {sv sa sj : ℝ}
    (armMask : Side → Bool) {side : Side} (joint : Joint) {T : ℝ}
    (hmask : armMask side = true)
    (hv : 0 < (c.manifest.motor side joint).maxVelocityRadS * sv)
    (ha : 0 < (c.manifest.motor side joint).maxAccelerationRadS2 * sa)
    (hj : 0 < (c.manifest.motor side joint).maxJerkRadS3 * sj)
    (hT : c.durationS start target sv sa sj armMask ≤ T) :
    LongEnough (c.manifest.motor side joint) sv sa sj
      |target side joint - start side joint| T := by
  set motor := c.manifest.motor side joint with hmotor
  set distance := |target side joint - start side joint| with hdistance
  have hdist : 0 ≤ distance := abs_nonneg _
  have hwait : ∀ bound : ℝ, (∀ d, bound ≤ Controller.jointDuration motor sv sa sj d distance) →
      bound ≤ T := fun bound hb =>
    le_trans (le_durationS c start target sv sa sj armMask joint hmask hb) hT
  have hvT : distance * 2.2 / (motor.maxVelocityRadS * sv) ≤ T := hwait _ fun d => by
    rw [jointDuration_eq]
    exact le_max_of_le_left (le_max_of_le_left (le_max_right _ _))
  have haT : Real.sqrt (distance * 8 / (motor.maxAccelerationRadS2 * sa)) ≤ T :=
    hwait _ fun d => by
      rw [jointDuration_eq]
      exact le_max_of_le_left (le_max_right _ _)
  have hjT : Floating.cbrt (distance * 60 / (motor.maxJerkRadS3 * sj)) ≤ T :=
    hwait _ fun d => by
      rw [jointDuration_eq]
      exact le_max_right _ _
  constructor
  · exact lt_of_lt_of_le (durationS_pos c start target sv sa sj armMask) hT
  · rw [div_le_iff₀ hv] at hvT
    linarith
  · have hsq := le_sq_of_sqrt_le haT
    rw [div_le_iff₀ ha] at hsq
    linarith
  · have hcube := le_pow_of_cbrt_le (by positivity) hjT
    rw [div_le_iff₀ hj] at hcube
    linarith
/-! ## §5. One joint of a segment. -/

/-- The reference of a joint `t` seconds after its segment started. -/
def segmentReference {F : Type} [Floating F] (start target T t : F) : F :=
  start + (target - start) * smoothstep7 (t / T)

section Segment

variable {start target T : ℝ}

theorem hasDerivAt_segmentReference (t : ℝ) :
    HasDerivAt (segmentReference start target T)
      ((target - start) * (smoothstep7Derivative (t / T) / T)) t := by
  have hinner : HasDerivAt (fun s => s / T) (1 / T) t := (hasDerivAt_id t).div_const T
  have hcomp := (hasDerivAt_smoothstep7 (t / T)).comp t hinner
  refine ((hcomp.const_mul (target - start)).const_add start).congr_deriv ?_
  ring

theorem hasDerivAt_segmentVelocity (t : ℝ) :
    HasDerivAt (fun s => (target - start) * (smoothstep7Derivative (s / T) / T))
      ((target - start) * (step7Second (clamp01 (t / T)) / T ^ 2)) t := by
  have hinner : HasDerivAt (fun s => s / T) (1 / T) t := (hasDerivAt_id t).div_const T
  have hcomp := (hasDerivAt_smoothstep7Derivative (t / T)).comp t hinner
  refine ((hcomp.div_const T).const_mul (target - start)).congr_deriv ?_
  ring

theorem hasDerivAt_segmentAcceleration (t : ℝ) :
    HasDerivAt (fun s => (target - start) * (step7Second (clamp01 (s / T)) / T ^ 2))
      ((target - start) * (step7Third (clamp01 (t / T)) / T ^ 3)) t := by
  have hinner : HasDerivAt (fun s => s / T) (1 / T) t := (hasDerivAt_id t).div_const T
  have hcomp := (hasDerivAt_step7Second_clamp (t / T)).comp t hinner
  refine ((hcomp.div_const (T ^ 2)).const_mul (target - start)).congr_deriv ?_
  ring

theorem deriv_segmentReference :
    deriv (segmentReference start target T) =
      fun t => (target - start) * (smoothstep7Derivative (t / T) / T) := by
  funext t
  exact (hasDerivAt_segmentReference t).deriv

theorem deriv_segmentVelocity :
    deriv (deriv (segmentReference start target T)) =
      fun t => (target - start) * (step7Second (clamp01 (t / T)) / T ^ 2) := by
  rw [deriv_segmentReference]
  funext t
  exact (hasDerivAt_segmentVelocity t).deriv

theorem deriv_segmentAcceleration :
    deriv (deriv (deriv (segmentReference start target T))) =
      fun t => (target - start) * (step7Third (clamp01 (t / T)) / T ^ 3) := by
  rw [deriv_segmentVelocity]
  funext t
  exact (hasDerivAt_segmentAcceleration t).deriv

/-- The limits of one joint of a segment: three derivatives exist and stay
    within their limits, and the joint stays between its two ends. -/
structure SegmentLimits (motor : MotorConfig ℝ) (sv sa sj : ℝ) (q : ℝ → ℝ) (start target T : ℝ) :
    Prop where
  differentiable : Differentiable ℝ q
  differentiable_velocity : Differentiable ℝ (deriv q)
  differentiable_acceleration : Differentiable ℝ (deriv (deriv q))
  velocity : ∀ t, 0 ≤ t → t ≤ T → |deriv q t| ≤ motor.maxVelocityRadS * sv
  acceleration : ∀ t, 0 ≤ t → t ≤ T → |deriv (deriv q) t| ≤ motor.maxAccelerationRadS2 * sa
  jerk : ∀ t, 0 ≤ t → t ≤ T → |deriv (deriv (deriv q)) t| ≤ motor.maxJerkRadS3 * sj
  between : ∀ t, 0 ≤ t → t ≤ T → q t ∈ Set.uIcc start target

/-- A scaled derivative under its limit: the duration pays for the maximum of
    the polynomial. -/
theorem scaled_le {distance k bound d T : ℝ} (hT : 0 < T) (hd : |d| ≤ k)
    (h : |distance| * k ≤ bound * T) : |distance * (d / T)| ≤ bound := by
  rw [abs_mul, abs_div, abs_of_pos hT]
  have hstep : |distance| * (|d| / T) ≤ |distance| * k / T := by
    rw [mul_div_assoc]
    gcongr
  have hbound : |distance| * k / T ≤ bound := by
    rw [div_le_iff₀ hT]
    exact h
  exact le_trans hstep hbound

/-- A point between the ends of a segment. -/
theorem mem_uIcc_of_share {start target s : ℝ} (h0 : 0 ≤ s) (h1 : s ≤ 1) :
    start + (target - start) * s ∈ Set.uIcc start target := by
  by_cases h : start ≤ target
  · rw [Set.uIcc_of_le h]
    constructor
    · nlinarith
    · nlinarith
  · rw [Set.uIcc_of_ge (by linarith)]
    constructor
    · nlinarith
    · nlinarith

/-- **A long enough segment keeps the limits of its motor.** -/
theorem segmentReference_limits {motor : MotorConfig ℝ} {sv sa sj : ℝ}
    (h : LongEnough motor sv sa sj |target - start| T) :
    SegmentLimits motor sv sa sj (segmentReference start target T) start target T where
  differentiable t := (hasDerivAt_segmentReference t).differentiableAt
  differentiable_velocity t := by
    rw [deriv_segmentReference]
    exact (hasDerivAt_segmentVelocity t).differentiableAt
  differentiable_acceleration t := by
    rw [deriv_segmentVelocity]
    exact (hasDerivAt_segmentAcceleration t).differentiableAt
  velocity t _ _ := by
    rw [deriv_segmentReference]
    have hpoly := step7_first_le (clamp01_nonneg (t / T)) (clamp01_le_one (t / T))
    rw [← smoothstep7Derivative_eq] at hpoly
    exact scaled_le h.pos hpoly h.velocity
  acceleration t _ _ := by
    rw [deriv_segmentVelocity]
    exact scaled_le (pow_pos h.pos 2)
      (step7_second_le (clamp01_nonneg (t / T)) (clamp01_le_one (t / T))) h.acceleration
  jerk t _ _ := by
    rw [deriv_segmentAcceleration]
    exact scaled_le (pow_pos h.pos 3)
      (step7_third_le (clamp01_nonneg (t / T)) (clamp01_le_one (t / T))) h.jerk
  between t _ _ := by
    unfold segmentReference
    rw [smoothstep7_eq]
    exact mem_uIcc_of_share (step7_nonneg (clamp01_le_one _)) (step7_le_one (clamp01_nonneg _))

/-- A segment starts at its first waypoint, at rest. -/
theorem segmentReference_start :
    segmentReference start target T 0 = start ∧
      HasDerivAt (segmentReference start target T) 0 0 := by
  constructor
  · unfold segmentReference
    rw [zero_div, smoothstep7_eq, clamp01_of_le (le_refl 0)]
    simp [step7]
  · refine (hasDerivAt_segmentReference 0).congr_deriv ?_
    rw [zero_div, smoothstep7Derivative_eq, clamp01_of_le (le_refl 0)]
    simp [step7First]

/-- A segment ends at its second waypoint, at rest. -/
theorem segmentReference_end (hT : 0 < T) :
    segmentReference start target T T = target ∧
      HasDerivAt (segmentReference start target T) 0 T := by
  constructor
  · unfold segmentReference
    rw [div_self hT.ne', smoothstep7_eq, clamp01_of_ge (le_refl 1)]
    norm_num [step7]
  · refine (hasDerivAt_segmentReference T).congr_deriv ?_
    rw [div_self hT.ne', smoothstep7Derivative_eq, clamp01_of_ge (le_refl 1)]
    simp [step7First]

end Segment

/-! ## §6. The reference of a cycle. -/

/-- The duration of a segment of a plan, in nanoseconds. -/
def MotionPlan.segmentNs {F : Type} (plan : MotionPlan F) (segment : Nat) : Nat :=
  wrapSub64 (plan.waypointTimeNs segment) (plan.waypointTimeNs (segment - 1))

/-- Whole nanoseconds in seconds. -/
noncomputable def seconds (ns : Nat) : ℝ := ns * 1e-9

/-- The reference of a joint over a segment of a plan. -/
noncomputable def MotionPlan.segmentCurve (plan : MotionPlan ℝ) (segment : Nat) (side : Side)
    (joint : Joint) : ℝ → ℝ :=
  segmentReference (plan.waypointQ side (segment - 1) joint) (plan.waypointQ side segment joint)
    (seconds (plan.segmentNs segment))

theorem seconds_pos {ns : Nat} (h : ns ≠ 0) : 0 < seconds ns := by
  have hns : (0 : ℝ) < ns := by exact_mod_cast Nat.pos_of_ne_zero h
  unfold seconds
  positivity

/-- The search starts at the first segment and stays inside the plan. -/
theorem findSegment_mem {F : Type} (plan : MotionPlan F) (elapsed : Nat) :
    ∀ fuel segment, 1 ≤ segment → segment < plan.waypointCount →
      1 ≤ Controller.findSegment plan elapsed fuel segment ∧
        Controller.findSegment plan elapsed fuel segment < plan.waypointCount := by
  intro fuel
  induction fuel with
  | zero =>
    intro segment h1 hlt
    exact ⟨h1, hlt⟩
  | succ fuel ih =>
    intro segment h1 hlt
    unfold Controller.findSegment
    split
    · next hnext => exact ih (segment + 1) (by omega) hnext.1
    · exact ⟨h1, hlt⟩

/-- Every segment the search has passed is over. -/
theorem findSegment_over {F : Type} (plan : MotionPlan F) (elapsed : Nat) :
    ∀ fuel segment, (∀ k, 1 ≤ k → k < segment → plan.waypointTimeNs k < elapsed) →
      ∀ k, 1 ≤ k → k < Controller.findSegment plan elapsed fuel segment →
        plan.waypointTimeNs k < elapsed := by
  intro fuel
  induction fuel with
  | zero =>
    intro segment hover
    exact hover
  | succ fuel ih =>
    intro segment hover
    unfold Controller.findSegment
    split
    · next hnext =>
      refine ih (segment + 1) fun k h1 hk => ?_
      rcases Nat.lt_succ_iff_lt_or_eq.mp hk with hbefore | rfl
      · exact hover k h1 hbefore
      · exact hnext.2
    · exact hover

/-- The segment the search stops at is the last one, or not over. -/
theorem findSegment_current {F : Type} (plan : MotionPlan F) (elapsed : Nat) :
    ∀ fuel segment, plan.waypointCount ≤ segment + fuel →
      Controller.findSegment plan elapsed fuel segment + 1 < plan.waypointCount →
        elapsed ≤ plan.waypointTimeNs (Controller.findSegment plan elapsed fuel segment) := by
  intro fuel
  induction fuel with
  | zero =>
    intro segment hfuel hlast
    change segment + 1 < plan.waypointCount at hlast
    omega
  | succ fuel ih =>
    intro segment hfuel
    unfold Controller.findSegment
    split
    · exact ih (segment + 1) (by omega)
    · next hstop =>
      intro hlast
      by_contra hover
      exact hstop ⟨hlast, by omega⟩

/-- Where a reference stands `elapsed` nanoseconds after its command started: on
    the first segment that is not over, or the last one, and as far into it as
    the time that is left for it, at most to its end. -/
structure OnSegment (plan : MotionPlan ℝ) (reference : Controller.Reference ℝ)
    (elapsed segment elapsedNs : Nat) : Prop where
  first : 1 ≤ segment
  last : segment < plan.waypointCount
  past : ∀ k, 1 ≤ k → k < segment → plan.waypointTimeNs k < elapsed
  current : segment + 1 < plan.waypointCount → elapsed ≤ plan.waypointTimeNs segment
  elapsed_eq : elapsedNs =
    min (elapsed - plan.waypointTimeNs (segment - 1)) (plan.segmentNs segment)
  position : plan.segmentNs segment ≠ 0 → ∀ side joint,
    reference.q side joint = plan.segmentCurve segment side joint (seconds elapsedNs)
  velocity : plan.segmentNs segment ≠ 0 → ∀ side joint,
    HasDerivAt (plan.segmentCurve segment side joint) (reference.dq side joint)
      (seconds elapsedNs)
  instant : plan.segmentNs segment = 0 → ∀ side joint,
    reference.q side joint = plan.waypointQ side segment joint ∧ reference.dq side joint = 0

/-- **The reference of a cycle is a point of its segment**, commanded with the
    velocity of that point. -/
theorem planReference_follows (c : Controller ℝ) (plan : MotionPlan ℝ) :
    ∃ segment elapsedNs,
      OnSegment plan (c.planReference plan) (c.nowNs - c.commandStartNs) segment elapsedNs := by
  set elapsed := if c.nowNs ≤ c.commandStartNs then 0 else c.nowNs - c.commandStartNs
    with helapsed
  set segment := Controller.findSegment plan elapsed plan.waypointCount 1 with hsegment
  have htwo := plan.two_le_count
  have hmem := findSegment_mem plan elapsed plan.waypointCount 1 (le_refl 1) (by omega)
  set D := plan.segmentNs segment with hD
  set e := if elapsed ≤ plan.waypointTimeNs (segment - 1) then 0
    else min (elapsed - plan.waypointTimeNs (segment - 1)) D with he
  have hclock : c.nowNs - c.commandStartNs = elapsed := by
    rw [helapsed]
    split
    · omega
    · rfl
  have hclamp : e = min (elapsed - plan.waypointTimeNs (segment - 1)) D := by
    rw [he]
    split
    · omega
    · rfl
  have heD : e ≤ D := by
    rw [hclamp]
    exact min_le_right _ _
  rw [hclock]
  -- The parameter of the polynomial, and the velocity scale.
  set u : ℝ := if D = 0 then Floating.lit 1 else Floating.ofNat e / Floating.ofNat D with hu
  set v : ℝ := if D ≤ e then Floating.lit 0
    else smoothstep7Derivative u * Floating.lit 1.0e9 / Floating.ofNat D with hv
  have hq : ∀ side joint, (c.planReference plan).q side joint =
      plan.waypointQ side (segment - 1) joint +
        (plan.waypointQ side segment joint - plan.waypointQ side (segment - 1) joint) *
          smoothstep7 u := fun _ _ => rfl
  have hdq : ∀ side joint, (c.planReference plan).dq side joint =
      (plan.waypointQ side segment joint - plan.waypointQ side (segment - 1) joint) * v :=
    fun _ _ => rfl
  -- On a segment that takes time, the parameter is the share of its duration.
  have hshare : D ≠ 0 → u = seconds e / seconds D := by
    intro hne
    have hDpos : (0 : ℝ) < D := by exact_mod_cast Nat.pos_of_ne_zero hne
    rw [hu, if_neg hne]
    show (e : ℝ) / (D : ℝ) = e * 1e-9 / (D * 1e-9)
    field_simp
  have hslope : D ≠ 0 → v = smoothstep7Derivative u / seconds D := by
    intro hne
    have hDpos : (0 : ℝ) < D := by exact_mod_cast Nat.pos_of_ne_zero hne
    rw [hv]
    split
    · next hend =>
      -- At the end of the segment the source writes the zero the derivative has.
      have hone : u = 1 := by
        rw [hu, if_neg hne]
        show (e : ℝ) / (D : ℝ) = 1
        rw [show e = D by omega]
        exact div_self hDpos.ne'
      rw [hone, smoothstep7Derivative_eq, clamp01_of_ge (le_refl 1)]
      simp [step7First]
    · show smoothstep7Derivative u * ((1.0e9 : ℚ) : ℝ) / (D : ℝ) =
        smoothstep7Derivative u / (D * 1e-9)
      field_simp
      norm_num
      ring
  refine ⟨segment, e, hmem.1, hmem.2, findSegment_over plan elapsed _ _ (by omega),
    findSegment_current plan elapsed _ _ (by omega), hclamp, ?_, ?_, ?_⟩
  · intro hne side joint
    rw [hq, hshare hne]
    rfl
  · intro hne side joint
    rw [hdq, hslope hne, hshare hne]
    exact hasDerivAt_segmentReference (seconds e)
  · intro hzero side joint
    have hone : u = 1 := by
      rw [hu, if_pos hzero]
      simp
    have hstop : v = 0 := by
      rw [hv, if_pos (by omega)]
      simp
    constructor
    · rw [hq, hone, smoothstep7_eq, clamp01_of_ge (le_refl 1)]
      norm_num [step7]
    · rw [hdq, hstop, mul_zero]

/-- How two segments of a plan meet. -/
structure Joined (plan : MotionPlan ℝ) (segment : Nat) (side : Side) (joint : Joint) : Prop where
  ends : plan.segmentCurve segment side joint (seconds (plan.segmentNs segment)) =
    plan.waypointQ side segment joint
  starts : plan.segmentCurve (segment + 1) side joint 0 = plan.waypointQ side segment joint
  ends_at_rest : HasDerivAt (plan.segmentCurve segment side joint) 0
    (seconds (plan.segmentNs segment))
  starts_at_rest : HasDerivAt (plan.segmentCurve (segment + 1) side joint) 0 0

/-- **Consecutive segments join**: the same position, at rest on both sides. -/
theorem segments_join (plan : MotionPlan ℝ) (segment : Nat) (side : Side) (joint : Joint)
    (h : plan.segmentNs segment ≠ 0) : Joined plan segment side joint where
  ends := (segmentReference_end (seconds_pos h)).1
  starts := by
    unfold MotionPlan.segmentCurve
    rw [Nat.add_sub_cancel]
    exact segmentReference_start.1
  ends_at_rest := (segmentReference_end (seconds_pos h)).2
  starts_at_rest := by
    unfold MotionPlan.segmentCurve
    rw [Nat.add_sub_cancel]
    exact segmentReference_start.2

/-! ## §7. The segments a planner lays out. -/

/-- A segment keeps the limits of every motor of the arms that move. -/
def SegmentKeepsLimits (c : Controller ℝ) (plan : MotionPlan ℝ) (sv sa sj : ℝ)
    (segment : Nat) : Prop :=
  ∀ side joint, plan.activeArmMask side = true →
    SegmentLimits (c.manifest.motor side joint) sv sa sj (plan.segmentCurve segment side joint)
      (plan.waypointQ side (segment - 1) joint) (plan.waypointQ side segment joint)
      (seconds (plan.segmentNs segment))

/-- Positive limits and scales of the arms of a mask. -/
def PositiveLimits (c : Controller ℝ) (sv sa sj : ℝ) (armMask : Side → Bool) : Prop :=
  ∀ side joint, armMask side = true →
    0 < (c.manifest.motor side joint).maxVelocityRadS * sv ∧
      0 < (c.manifest.motor side joint).maxAccelerationRadS2 * sa ∧
      0 < (c.manifest.motor side joint).maxJerkRadS3 * sj

/-- Rounded up, and below the largest unsigned value, the duration is no
    shorter than what was computed. -/
theorem durationS_le_seconds (c : Controller ℝ) (start target : Side → JointVector ℝ)
    (sv sa sj : ℝ) (armMask : Side → Bool)
    (hlt : c.trajectoryDuration start target sv sa sj armMask < maxU64) :
    c.durationS start target sv sa sj armMask ≤
      seconds (c.trajectoryDuration start target sv sa sj armMask) := by
  rw [Controller.trajectoryDuration_eq] at hlt ⊢
  have hceil : Floating.ceilNanos (c.durationS start target sv sa sj armMask) < maxU64 := by
    omega
  rw [Nat.min_eq_left hceil.le]
  exact le_ceilNanos

/-- A rounded duration takes at least a nanosecond. -/
theorem trajectoryDuration_pos (c : Controller ℝ) (start target : Side → JointVector ℝ)
    (sv sa sj : ℝ) (armMask : Side → Bool) :
    0 < c.trajectoryDuration start target sv sa sj armMask := by
  rw [Controller.trajectoryDuration_eq]
  have hpos := durationS_pos c start target sv sa sj armMask
  have hceil : 0 < Floating.ceilNanos (c.durationS start target sv sa sj armMask) := by
    by_contra hzero
    have hle := le_ceilNanos (x := c.durationS start target sv sa sj armMask)
    rw [Nat.eq_zero_of_not_pos hzero, Nat.cast_zero, zero_mul] at hle
    linarith
  exact lt_min hceil (by decide)

/-- A segment laid out with its `trajectory_duration` keeps the limits. -/
theorem segmentKeepsLimits_of_duration (c : Controller ℝ) (plan : MotionPlan ℝ) {sv sa sj : ℝ}
    {segment : Nat} (hlimits : PositiveLimits c sv sa sj plan.activeArmMask)
    (hns : plan.segmentNs segment =
      c.trajectoryDuration (fun side => plan.waypointQ side (segment - 1))
        (fun side => plan.waypointQ side segment) sv sa sj plan.activeArmMask)
    (hlt : plan.segmentNs segment < maxU64) :
    SegmentKeepsLimits c plan sv sa sj segment := by
  intro side joint hmask
  obtain ⟨hv, ha, hj⟩ := hlimits side joint hmask
  have hlong := longEnough c _ _ plan.activeArmMask joint hmask hv ha hj
    (durationS_le_seconds c (fun side => plan.waypointQ side (segment - 1))
      (fun side => plan.waypointQ side segment) sv sa sj plan.activeArmMask (hns ▸ hlt))
  rw [← hns] at hlong
  exact segmentReference_limits hlong

/-- What the loop over the segments has laid out so far. -/
def LaidOut (c : Controller ℝ) (request : Controller.PairedPlanRequest ℝ)
    (waypointQ : Side → Nat → JointVector ℝ) (times : Nat → Nat) (count : Nat) : Prop :=
  ∀ k, 1 ≤ k → k < count → times k ≤ maxU64 ∧
    times k = times (k - 1) + c.trajectoryDuration (fun side => waypointQ side (k - 1))
      (fun side => waypointQ side k) request.velocityScale request.accelerationScale
      request.jerkScale (fun _ => true)

/-- The loop lays out one segment after another. -/
theorem waypointTimes_laidOut (c : Controller ℝ) (request : Controller.PairedPlanRequest ℝ)
    (waypointQ : Side → Nat → JointVector ℝ) :
    ∀ remaining times times', remaining < Controller.cartesianWaypoints →
      times (Controller.cartesianWaypoints - (remaining + 1)) ≤ maxU64 →
      LaidOut c request waypointQ times (Controller.cartesianWaypoints - remaining) →
      c.waypointTimes request waypointQ remaining times = .ok times' →
      LaidOut c request waypointQ times' Controller.cartesianWaypoints := by
  intro remaining
  induction remaining with
  | zero =>
    intro times times' _ _ hlaid hrun
    simp only [Controller.waypointTimes, Except.ok.injEq] at hrun
    subst hrun
    exact hlaid
  | succ remaining ih =>
    intro times times' hrem hfit hlaid hrun
    unfold Controller.waypointTimes at hrun
    dsimp only at hrun
    split at hrun
    · simp at hrun
    next hroom =>
    set w := Controller.cartesianWaypoints - (remaining + 1) with hw
    have hw1 : 1 ≤ w := by omega
    have hnext : Controller.cartesianWaypoints - remaining = w + 1 := by omega
    have hprev : Controller.cartesianWaypoints - (remaining + 1 + 1) = w - 1 := by omega
    rw [hprev] at hfit
    refine ih _ times' (by omega) ?_ ?_ hrun
    · rw [Function.update_self]
      omega
    · rw [hnext]
      intro k hk1 hk
      by_cases hlast : k = w
      · -- The segment laid out now.
        subst hlast
        rw [Function.update_self, Function.update_of_ne (by omega)]
        exact ⟨by omega, rfl⟩
      · -- The earlier ones keep their times.
        rw [Function.update_of_ne hlast, Function.update_of_ne (by omega)]
        exact hlaid k hk1 (by omega)

theorem LaidOut.prior {c : Controller ℝ} {request : Controller.PairedPlanRequest ℝ}
    {waypointQ : Side → Nat → JointVector ℝ} {times : Nat → Nat} {count k : Nat}
    (h : LaidOut c request waypointQ times count) (h1 : 1 ≤ k) (hk : k < count) :
    times (k - 1) < times k := by
  have hpos := trajectoryDuration_pos c (fun side => waypointQ side (k - 1))
    (fun side => waypointQ side k) request.velocityScale request.accelerationScale
    request.jerkScale (fun _ => true)
  have hstep := (h k h1 hk).2
  omega

/-- With a segment before or after it, no segment takes the largest unsigned
    number of nanoseconds. -/
theorem LaidOut.segment_lt {c : Controller ℝ} {request : Controller.PairedPlanRequest ℝ}
    {waypointQ : Side → Nat → JointVector ℝ} {times : Nat → Nat} {k : Nat}
    (h : LaidOut c request waypointQ times Controller.cartesianWaypoints) (h1 : 1 ≤ k)
    (hk : k < Controller.cartesianWaypoints) : times k - times (k - 1) < maxU64 := by
  have hfit := (h k h1 hk).1
  have hcount : Controller.cartesianWaypoints = 17 := rfl
  by_cases hfirst : k = 1
  · subst hfirst
    have hnext := (h 2 (by omega) (by omega)).1
    have hlt := h.prior (k := 2) (by omega) (by omega)
    simp only [Nat.add_one_sub_one] at hlt ⊢
    omega
  · have hlt := h.prior (k := k - 1) (by omega) (by omega)
    have hmax : 0 < maxU64 := by decide
    omega

/-- What a Cartesian plan carries of its request and of its segments. -/
structure PlannedSegments (c : Controller ℝ) (request : Controller.PairedPlanRequest ℝ)
    (plan : MotionPlan ℝ) : Prop where
  count_eq : plan.waypointCount = Controller.cartesianWaypoints
  mask_eq : plan.activeArmMask = fun _ => true
  laidOut : LaidOut c request plan.waypointQ plan.waypointTimeNs Controller.cartesianWaypoints
  scales : validScale request.velocityScale = true ∧
    validScale request.accelerationScale = true ∧ validScale request.jerkScale = true

theorem planPairedCommon_segments {c : Controller ℝ} {L : ModelLibrary ℝ}
    {request : Controller.PairedPlanRequest ℝ} {plan : MotionPlan ℝ}
    (h : c.planPairedCommon L request = .ok plan) : PlannedSegments c request plan := by
  unfold Controller.planPairedCommon at h
  dsimp only [bind, Except.bind, pure, Except.pure] at h
  split at h
  · simp [throw, throwThe, MonadExceptOf.throw] at h
  next hvalid =>
  split at h
  · simp at h
  split at h
  · simp at h
  split at h
  · simp at h
  split at h
  · simp at h
  next times htimes =>
  simp only [Except.ok.injEq] at h
  subst h
  simp only [Controller.pairedRequestInvalid, Bool.or_eq_true, not_or,
    Bool.not_eq_true', Bool.not_eq_false] at hvalid
  refine ⟨rfl, rfl, ?_, ?_⟩
  · refine waypointTimes_laidOut c request _ _ _ times (by decide) ?_ ?_ htimes
    · exact Nat.zero_le _
    · intro k h1 hk
      have hone : Controller.cartesianWaypoints - (Controller.cartesianWaypoints - 1) = 1 := rfl
      omega
  · tauto

/-- The positive limits of a manifest's motors. -/
def PositiveMotors (c : Controller ℝ) : Prop :=
  ∀ side joint, 0 < (c.manifest.motor side joint).maxVelocityRadS ∧
    0 < (c.manifest.motor side joint).maxAccelerationRadS2 ∧
    0 < (c.manifest.motor side joint).maxJerkRadS3

theorem PositiveMotors.limits {c : Controller ℝ} (h : PositiveMotors c) {sv sa sj : ℝ}
    (hsv : 0 < sv) (hsa : 0 < sa) (hsj : 0 < sj) (armMask : Side → Bool) :
    PositiveLimits c sv sa sj armMask := by
  intro side joint _
  obtain ⟨hv, ha, hj⟩ := h side joint
  exact ⟨mul_pos hv hsv, mul_pos ha hsa, mul_pos hj hsj⟩

theorem validScale_pos {value : ℝ} (h : validScale value = true) : 0 < value := by
  simp only [validScale, Bool.and_eq_true, decide_eq_true_eq, lit_eq] at h
  simpa using h.1.2

/-- Every segment of a Cartesian plan keeps the limits the request asks for. -/
theorem PlannedSegments.keepsLimits {c : Controller ℝ} {request : Controller.PairedPlanRequest ℝ}
    {plan : MotionPlan ℝ} (h : PlannedSegments c request plan) (hmotors : PositiveMotors c)
    {segment : Nat} (h1 : 1 ≤ segment) (hlt : segment < plan.waypointCount) :
    plan.segmentNs segment ≠ 0 ∧
      SegmentKeepsLimits c plan request.velocityScale request.accelerationScale
        request.jerkScale segment := by
  rw [h.count_eq] at hlt
  have hfit := h.laidOut segment h1 hlt
  have hprior := h.laidOut.prior h1 hlt
  have hns : plan.segmentNs segment =
      plan.waypointTimeNs segment - plan.waypointTimeNs (segment - 1) := by
    unfold MotionPlan.segmentNs wrapSub64 wrap64
    have hmax : maxU64 = 2 ^ 64 - 1 := rfl
    omega
  constructor
  · omega
  · refine segmentKeepsLimits_of_duration c plan
      (hmotors.limits (validScale_pos h.scales.1) (validScale_pos h.scales.2.1)
        (validScale_pos h.scales.2.2) _) ?_ ?_
    · rw [hns, h.mask_eq]
      omega
    · rw [hns]
      exact h.laidOut.segment_lt h1 hlt

/-! ## §8. The limits. -/

/-- **Trajectory limits**, in exact arithmetic.  Over a duration no shorter than
    the one `trajectory_duration` computes before rounding up, every joint of
    an active arm keeps its velocity, acceleration and jerk limits and stays
    between the two ends; the velocity the code commands is the derivative of
    the position; every cycle's reference is the point of its plan that
    belongs to the time since the command started; segments join at rest; and
    every segment of a planned path keeps the limits. -/
theorem trajectory_limits (c : Controller ℝ) (hmotors : PositiveMotors c) :
    (∀ (start target : Side → JointVector ℝ) (sv sa sj : ℝ) (armMask : Side → Bool) (T : ℝ),
      0 < sv → 0 < sa → 0 < sj → c.durationS start target sv sa sj armMask ≤ T →
      ∀ side joint, armMask side = true →
        SegmentLimits (c.manifest.motor side joint) sv sa sj
          (segmentReference (start side joint) (target side joint) T)
          (start side joint) (target side joint) T) ∧
    (∀ u : ℝ, HasDerivAt smoothstep7 (smoothstep7Derivative u) u) ∧
    (∀ plan : MotionPlan ℝ,
      ∃ segment elapsedNs,
        OnSegment plan (c.planReference plan) (c.nowNs - c.commandStartNs) segment elapsedNs) ∧
    (∀ (plan : MotionPlan ℝ) (segment : Nat) (side : Side) (joint : Joint),
      plan.segmentNs segment ≠ 0 → Joined plan segment side joint) ∧
    (∀ (L : ModelLibrary ℝ) (request : Controller.PairedPlanRequest ℝ) (plan : MotionPlan ℝ),
      c.planPairedCommon L request = .ok plan →
      ∀ segment, 1 ≤ segment → segment < plan.waypointCount →
        plan.segmentNs segment ≠ 0 ∧
          SegmentKeepsLimits c plan request.velocityScale request.accelerationScale
            request.jerkScale segment) := by
  refine ⟨?_, hasDerivAt_smoothstep7, planReference_follows c, segments_join, ?_⟩
  · intro start target sv sa sj armMask T hsv hsa hsj hT side joint hmask
    obtain ⟨hv, ha, hj⟩ := hmotors side joint
    exact segmentReference_limits (longEnough c start target armMask joint hmask
      (mul_pos hv hsv) (mul_pos ha hsa) (mul_pos hj hsj) hT)
  · intro L request plan hplan segment h1 hlt
    exact (planPairedCommon_segments hplan).keepsLimits hmotors h1 hlt

/-- The standard motors, all joints of the left arm moving by one radian. -/
theorem trajectory_limits_standard :
    SegmentLimits (standardMotor 0 0) 1 1 1
      (segmentReference (0 : ℝ) 1
        ((standardWorld ℝ).controller.durationS (fun _ _ => 0) (fun _ _ => 1) 1 1 1
          (fun side => decide (side = 0))))
      0 1
      ((standardWorld ℝ).controller.durationS (fun _ _ => 0) (fun _ _ => 1) 1 1 1
        (fun side => decide (side = 0))) := by
  refine (trajectory_limits (standardWorld ℝ).controller ?_).1 (fun _ _ => 0) (fun _ _ => 1)
    1 1 1 (fun side => decide (side = 0)) _ one_pos one_pos one_pos (le_refl _) 0 0 rfl
  intro side joint
  show 0 < ((1 : ℚ) : ℝ) ∧ 0 < ((2 : ℚ) : ℝ) ∧ 0 < ((10 : ℚ) : ℝ)
  norm_num

end OpenArm.Control
