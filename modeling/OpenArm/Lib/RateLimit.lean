/-
  OpenArm.Lib.RateLimit — values that move by a bounded step.

  A program that limits how fast a value moves clamps the step it adds, and
  clamps the result to its range.  `Steps` says so of any floating-point type,
  as the program computes it; a step that goes no further than zero stays in
  the range without the second clamp.  Over exact numbers the value then moves
  by at most the step; elsewhere by that step and the rounding of the sum.

  Main results:
    * `clamp_within`, `decay_within` — what stays in a symmetric range.
    * `Slews.cons`                   — one more value, a step from the newest.
    * `Slews.near`                   — by how much exact values move.
-/
import OpenArm.Lib.FloatOrder

namespace OpenArm.Lib

/-! ## §1. Sums. -/

/-- Sums and negations: what is true of those of binary64, rounding, NaNs and
    infinities included. -/
class FloatSum (F : Type) [Floating F] : Prop extends FloatOrder F where
  neg_neg {a : F} : -(-a) = a
  neg_le_neg {a b : F} : a ≤ b → -b ≤ -a
  neg_le_zero {a : F} : Floating.lit 0 ≤ a → -a ≤ Floating.lit 0
  zero_le_neg {a : F} : a ≤ Floating.lit 0 → Floating.lit 0 ≤ -a
  add_eq_sub {a b : F} : b ≤ b → a + b = a - -b
  number_of_add {a b : F} : a + b ≤ a + b → a ≤ a
  sub_self {a : F} : Floating.isFinite a = true → a - a = Floating.lit 0
  le_sub_self {a c : F} : Floating.isFinite c = true → c ≤ Floating.lit 0 → a ≤ a → a ≤ a - c
  isFinite_neg {a : F} : Floating.isFinite a = true → Floating.isFinite (-a) = true
  isFinite_between {lo a hi : F} : Floating.isFinite lo = true → Floating.isFinite hi = true →
    lo ≤ a → a ≤ hi → Floating.isFinite a = true

instance : FloatSum ℚ where
  neg_neg := neg_neg (G := ℚ) _
  neg_le_neg h := neg_le_neg (α := ℚ) h
  neg_le_zero h := neg_nonpos.mpr h
  zero_le_neg h := neg_nonneg.mpr h
  add_eq_sub _ := (sub_neg_eq_add _ _).symm
  number_of_add _ := le_refl (α := ℚ) _
  sub_self _ := sub_self (G := ℚ) _
  le_sub_self _ h _ := le_sub_self_iff _ |>.mpr h
  isFinite_neg _ := rfl
  isFinite_between _ _ _ _ := rfl

/-! ## §2. Ranges. -/

section Ranges

variable {F : Type} [Floating F]

/-- No comparison finds the value outside `[-s, s]`. -/
def Within (s v : F) : Prop := ¬ s < v ∧ ¬ v < -s

/-- One step of a limited value: it stays, or what is added to it lies within
    the step; the sum may be clamped to its range. -/
inductive Steps (step limit last next : F) : Prop
  | stay (same : next = last)
  | add (delta : F) (within : Within step delta) (sum : next = last + delta)
  | clamped (delta : F) (within : Within step delta)
      (sum : next = Floating.clamp (last + delta) (-limit) limit)

/-- A sequence, newest first, each of whose values is a step from the one
    before it. -/
def Slews (step limit : F) (values : List F) : Prop :=
  values.IsChain fun later earlier => Steps step limit earlier later

@[simp] theorem slews_nil (step limit : F) : Slews step limit [] := List.IsChain.nil

/-- **One more value**, a step from the newest. -/
theorem Slews.cons {step limit value : F} {values : List F} (h : Slews step limit values)
    (hstep : ∀ last ∈ values.head?, Steps step limit last value) :
    Slews step limit (value :: values) := by
  cases values with
  | nil => exact List.IsChain.singleton _
  | cons last values => exact List.IsChain.cons_cons (hstep last rfl) h

variable [FloatSum F] {s m x : F}

theorem not_lt_self (a : F) : ¬ a < a := fun h =>
  Floating.not_le_of_lt h (Floating.le_of_lt h)

/-- A range that is not empty lies on both sides of zero. -/
theorem neg_le_self (hs : Floating.lit 0 ≤ s) : -s ≤ s :=
  FloatOrder.le_trans (FloatSum.neg_le_zero hs) hs

/-- **A clamped value** is in its range. -/
theorem clamp_within (hs : Floating.lit 0 ≤ s) (v : F) : Within s (Floating.clamp v (-s) s) := by
  have hordered : ¬ s < -s := fun h => Floating.not_le_of_lt h (neg_le_self hs)
  unfold Floating.clamp
  split
  · exact ⟨hordered, not_lt_self _⟩
  · next hlow =>
    split
    · exact ⟨not_lt_self _, hordered⟩
    · next hhigh => exact ⟨hhigh, hlow⟩

/-- A number within the range compares with both ends of it. -/
theorem Within.between (h : Within m x) (hm : Floating.lit 0 ≤ m) (hx : x ≤ x) :
    -m ≤ x ∧ x ≤ m :=
  ⟨Floating.le_of_not_lt hx (FloatOrder.le_self_left (FloatSum.neg_le_zero hm)) h.2,
    Floating.le_of_not_lt (FloatOrder.le_self_right hm) hx h.1⟩

theorem within_of_between (h : -m ≤ x ∧ x ≤ m) : Within m x :=
  ⟨fun hlt => Floating.not_le_of_lt hlt h.2, fun hlt => Floating.not_le_of_lt hlt h.1⟩

/-- A number that goes all the way to zero. -/
theorem add_neg_self (hfinite : Floating.isFinite x = true) : x + -x = Floating.lit 0 := by
  have hneg : -x ≤ -x := FloatSum.neg_le_neg (FloatOrder.le_self_of_isFinite hfinite)
  rw [FloatSum.add_eq_sub hneg, FloatSum.neg_neg]
  exact FloatSum.sub_self hfinite

/-- A step down towards zero stops there. -/
theorem decay_down (hs : Floating.lit 0 ≤ s) (hfinite : Floating.isFinite s = true)
    (hx : Floating.lit 0 ≤ x) : Floating.lit 0 ≤ x + Floating.clamp (-x) (-s) s ∧
      x + Floating.clamp (-x) (-s) s ≤ x := by
  have hnumber : x ≤ x := FloatOrder.le_self_right hx
  have hnegative : -s ≤ -s := FloatOrder.le_self_left (FloatSum.neg_le_zero hs)
  unfold Floating.clamp
  split
  · next hfar =>
    have hsx : s ≤ x := by
      have hneg := FloatSum.neg_le_neg (Floating.le_of_lt hfar)
      rwa [FloatSum.neg_neg, FloatSum.neg_neg] at hneg
    rw [FloatSum.add_eq_sub hnegative, FloatSum.neg_neg]
    refine ⟨?_, FloatOrder.sub_le_self hfinite hs hnumber⟩
    rw [← FloatSum.sub_self hfinite]
    exact FloatOrder.sub_le_sub hfinite hsx
  · next hnear =>
    split
    · next hup =>
      exact absurd (FloatOrder.le_trans (FloatSum.neg_le_zero hx) hs) (Floating.not_le_of_lt hup)
    · have hxs : x ≤ s := by
        have hneg := FloatSum.neg_le_neg (Floating.le_of_not_lt
          (FloatSum.neg_le_neg hnumber) hnegative hnear)
        rwa [FloatSum.neg_neg, FloatSum.neg_neg] at hneg
      rw [add_neg_self (FloatSum.isFinite_between
        (FloatOrder.isFinite_lit (le_refl 0) (by norm_num)) hfinite hx hxs)]
      exact ⟨FloatOrder.le_self_left hx, hx⟩

/-- A step up towards zero stops there. -/
theorem decay_up (hs : Floating.lit 0 ≤ s) (hfinite : Floating.isFinite s = true)
    (hx : x ≤ Floating.lit 0) : x ≤ x + Floating.clamp (-x) (-s) s ∧
      x + Floating.clamp (-x) (-s) s ≤ Floating.lit 0 := by
  have hnumber : x ≤ x := FloatOrder.le_self_left hx
  have hself : s ≤ s := FloatOrder.le_self_right hs
  have hback := FloatSum.isFinite_neg hfinite
  unfold Floating.clamp
  split
  · next hdown =>
    exact absurd (FloatOrder.le_trans (FloatSum.neg_le_zero hs) (FloatSum.zero_le_neg hx))
      (Floating.not_le_of_lt hdown)
  · split
    · next hfar =>
      have hxs : x ≤ -s := by
        have hneg := FloatSum.neg_le_neg (Floating.le_of_lt hfar)
        rwa [FloatSum.neg_neg] at hneg
      rw [FloatSum.add_eq_sub hself]
      refine ⟨FloatSum.le_sub_self hback (FloatSum.neg_le_zero hs) hnumber, ?_⟩
      rw [← FloatSum.sub_self hback]
      exact FloatOrder.sub_le_sub hback hxs
    · next hnear =>
      have hsx : -s ≤ x := by
        have hneg := FloatSum.neg_le_neg (Floating.le_of_not_lt hself
          (FloatSum.neg_le_neg hnumber) hnear)
        rwa [FloatSum.neg_neg] at hneg
      rw [add_neg_self (FloatSum.isFinite_between hback
        (FloatOrder.isFinite_lit (le_refl 0) (by norm_num)) hsx hx)]
      exact ⟨hx, FloatOrder.le_self_right hx⟩

/-- **A step towards zero** stays in the range. -/
theorem decay_within (hs : Floating.lit 0 ≤ s) (hfinite : Floating.isFinite s = true)
    (hm : Floating.lit 0 ≤ m) (hx : Within m x) :
    Within m (x + Floating.clamp (-x) (-s) s) := by
  by_cases hnumber : x ≤ x
  · obtain ⟨hlow, hhigh⟩ := hx.between hm hnumber
    rcases FloatOrder.le_total (FloatOrder.le_self_left hm) hnumber with hpos | hneg
    · obtain ⟨hzero, hself⟩ := decay_down hs hfinite hpos
      exact within_of_between ⟨FloatOrder.le_trans (FloatSum.neg_le_zero hm) hzero,
        FloatOrder.le_trans hself hhigh⟩
    · obtain ⟨hself, hzero⟩ := decay_up hs hfinite hneg
      exact within_of_between ⟨FloatOrder.le_trans hlow hself, FloatOrder.le_trans hzero hm⟩
  · -- a NaN stays one
    exact ⟨fun h => hnumber (FloatSum.number_of_add
        (FloatOrder.le_self_right (Floating.le_of_lt h))),
      fun h => hnumber (FloatSum.number_of_add (FloatOrder.le_self_left (Floating.le_of_lt h)))⟩

end Ranges

/-! ## §3. Exact numbers. -/

theorem within_iff {s v : ℚ} : Within s v ↔ |v| ≤ s := by
  unfold Within
  rw [abs_le, and_comm]
  exact and_congr not_lt not_lt

/-- `std::clamp` to an interval is the projection onto it. -/
theorem clamp_eq {lo hi : ℚ} (h : lo ≤ hi) (v : ℚ) :
    Floating.clamp v lo hi = max lo (min v hi) := by
  unfold Floating.clamp
  split
  · next hlow =>
    have hlo : v < lo := hlow
    rw [min_eq_left (by linarith), max_eq_left hlo.le]
  · next hlow =>
    have hlo : lo ≤ v := not_lt.mp hlow
    split
    · next hhigh =>
      have hhi : hi < v := hhigh
      rw [min_eq_right hhi.le, max_eq_right h]
    · next hhigh =>
      have hhi : v ≤ hi := not_lt.mp hhigh
      rw [min_eq_left hhi, max_eq_right hlo]

/-- A clamped sum moves by at most what is added. -/
theorem clamp_add_near {s x : ℚ} (hx : |x| ≤ s) (d : ℚ) :
    |Floating.clamp (x + d) (-s) s - x| ≤ |d| := by
  have hs : 0 ≤ s := le_trans (abs_nonneg x) hx
  obtain ⟨hlow, hhigh⟩ := abs_le.mp hx
  have hself : x = max (-s) (min x s) := by
    rw [min_eq_left hhigh, max_eq_right hlow]
  calc |Floating.clamp (x + d) (-s) s - x|
      = |max (-s) (min (x + d) s) - max (-s) (min x s)| := by
        rw [clamp_eq (by linarith), ← hself]
    _ ≤ |min (x + d) s - min x s| := by
        rw [max_comm (-s), max_comm (-s)]
        exact abs_max_sub_max_le_abs _ _ _
    _ ≤ |d| := by
        have hmin := abs_min_sub_min_le_max (x + d) s x s
        rw [sub_self, abs_zero, max_eq_left (abs_nonneg _)] at hmin
        simpa using hmin

theorem Steps.near {step limit last next : ℚ} (h : Steps step limit last next) (hstep : 0 ≤ step)
    (hlast : |last| ≤ limit) : |next - last| ≤ step := by
  cases h with
  | stay same =>
    rw [same, sub_self, abs_zero]
    exact hstep
  | add delta within sum =>
    rw [sum, add_sub_cancel_left]
    exact within_iff.mp within
  | clamped delta within sum =>
    rw [sum]
    exact le_trans (clamp_add_near hlast delta) (within_iff.mp within)

/-- **Exact values** that stay in their range move by at most the step. -/
theorem Slews.near {step limit : ℚ} {values : List ℚ} (h : Slews step limit values)
    (hstep : 0 ≤ step) (hbounded : ∀ v ∈ values, |v| ≤ limit) :
    values.IsChain fun later earlier => |later - earlier| ≤ step := by
  induction values with
  | nil => exact List.IsChain.nil
  | cons value values ih =>
    cases values with
    | nil => exact List.IsChain.singleton _
    | cons last values =>
      obtain ⟨hfirst, hrest⟩ := List.isChain_cons_cons.mp h
      have hlast := hbounded last (List.mem_cons_of_mem value List.mem_cons_self)
      exact List.IsChain.cons_cons (hfirst.near hstep hlast)
        (ih hrest fun v hv => hbounded v (List.mem_cons_of_mem value hv))

end OpenArm.Lib
