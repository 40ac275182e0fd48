/-
  OpenArm.Commission.Envelope — where a hard-stop calibration asks to go.

  A motion request names a target.  The approach and the dwells aim at the end
  of the envelope; the retreat aims behind the mean of the first dwell, while
  its progress is judged from the last sample of that dwell and its recipe
  bounds it by the whole envelope only.  `RetreatReachable` says when the three
  fit together, in the numbers the code computes with.

  Main results:
    * `recipe_envelope` — requests lie within the envelope and can be met in
      every run whose approach starts in the start range and whose first dwell
      ends where the retreat is reachable.
    * `retreatReachable_iff` — where that is, in exact numbers.
    * `shallow_contact` — contact made nearer than the retreat distance.
-/
import OpenArm.Commission.Commit

namespace OpenArm.Commission

open OpenArm.Lib
open OpenArm.Runtime (CommissionStatus)

variable {F : Type} [Floating F]

/-! ## §1. Requests. -/

/-- The actions that ask for motion. -/
def ActionKind.isMotion : ActionKind → Bool
  | .approach | .contactDwell | .retreat | .reapproach => true
  | _ => false

/-- The states that ask for it. -/
def RecipeState.isMotion : RecipeState → Bool
  | .approach | .contactDwell | .retreat | .reapproach => true
  | _ => false

/-- The envelope from a start: between it and the end the code computes. -/
def Recipe.Envelops (recipe : Recipe F) (start x : F) : Prop :=
  let stop := start + recipe.approachDirection * recipe.maximumApproachTravelRad
  (start ≤ x ∧ x ≤ stop) ∨ (stop ≤ x ∧ x ≤ start)

/-- A sample in time, within all limits and no faster than a contact may be,
    exactly at the target. -/
structure AtTarget (s : Session F) (action : NextAction F) (input : RecipeInput F) : Prop where
  valid : (s.validateInput input).2 = .ok
  limits : ((s.validateInput input).1.enforceMotionLimits input).2 = .ok
  inTime : input.nowNs ≤ action.validUntilNs
  position : input.encoder.qOutputRad = action.targetOutputRad
  rest : Floating.abs input.encoder.dqOutputRadS ≤ s.recipe.contactVelocityRadS

@[simp] theorem action_kind (t : Session F) (kind : ActionKind) (input : RecipeInput F) :
    (t.action kind input).kind = kind := by
  cases kind <;> rfl

/-- What the envelope promises of the answer to a step. -/
structure Requests (recipe : Recipe F) (s : Session F) (action : NextAction F) : Prop where
  inside : action.kind.isMotion = true →
    recipe.Envelops s.envelopeStartQ action.targetOutputRad
  started : action.kind.isMotion = true →
    recipe.startMinOutputRad ≤ s.envelopeStartQ ∧ s.envelopeStartQ ≤ recipe.startMaxOutputRad
  met : action.kind = .retreat → ∀ input, AtTarget s action input →
    (s.step input).1.state = .reapproach ∧ (s.step input).2.1 = .ok

/-! ## §2. The condition. -/

/-- Where a retreat from a stop leads. -/
def Recipe.retreatTarget (recipe : Recipe F) (stop : F) : F :=
  stop - recipe.approachDirection * recipe.retreatDistanceRad

/-- A retreat from `last` to behind `mean` that stays within the envelope from
    `start` and goes as far as it has to: its target lies in the envelope, and
    so does what the code computes of it as travel from the start; as travel
    from the last sample it is the retreat distance, and no more than the
    tolerance beyond. -/
structure RetreatReachable (recipe : Recipe F) (start mean last : F) : Prop where
  inside : recipe.Envelops start (recipe.retreatTarget mean)
  ahead : ¬ directionalTravel start (recipe.retreatTarget mean) recipe.approachDirection <
    -kDirectionTolerance
  level : ¬ recipe.maximumApproachTravelRad <
    directionalTravel start (recipe.retreatTarget mean) recipe.approachDirection
  far : recipe.retreatDistanceRad ≤
    directionalTravel last (recipe.retreatTarget mean) (-recipe.approachDirection)
  near : ¬ recipe.retreatDistanceRad + recipe.repeatabilityToleranceRad <
    directionalTravel last (recipe.retreatTarget mean) (-recipe.approachDirection)

section Exact

/-- In exact numbers and a direction of unit length: travel between nothing and
    the whole. -/
theorem envelops_iff {recipe : Recipe ℚ} {start x : ℚ}
    (hdirection : recipe.approachDirection = 1 ∨ recipe.approachDirection = -1)
    (hmax : 0 ≤ recipe.maximumApproachTravelRad) :
    recipe.Envelops start x ↔ 0 ≤ directionalTravel start x recipe.approachDirection ∧
      directionalTravel start x recipe.approachDirection ≤ recipe.maximumApproachTravelRad := by
  unfold Recipe.Envelops directionalTravel
  obtain hd | hd := hdirection
  · rw [hd]
    constructor
    · rintro (⟨hlow, hhigh⟩ | ⟨hlow, hhigh⟩) <;> constructor <;> linarith
    · rintro ⟨hlow, hhigh⟩
      exact .inl ⟨by linarith, by linarith⟩
  · rw [hd]
    constructor
    · rintro (⟨hlow, hhigh⟩ | ⟨hlow, hhigh⟩) <;> constructor <;> linarith
    · rintro ⟨hlow, hhigh⟩
      exact .inr ⟨by linarith, by linarith⟩

/-- **Where the retreat is reachable**, in exact numbers and a direction of unit
    length: the dwell lies at least the retreat distance deep, and its last
    sample at or a little beyond its mean. -/
theorem retreatReachable_iff {recipe : Recipe ℚ} {start mean last : ℚ}
    (hdirection : recipe.approachDirection = 1 ∨ recipe.approachDirection = -1)
    (hdistance : 0 < recipe.retreatDistanceRad) (hmax : 0 ≤ recipe.maximumApproachTravelRad)
    (hdeep : directionalTravel start mean recipe.approachDirection ≤
      recipe.maximumApproachTravelRad) :
    RetreatReachable recipe start mean last ↔
      recipe.retreatDistanceRad ≤ directionalTravel start mean recipe.approachDirection ∧
        0 ≤ directionalTravel mean last recipe.approachDirection ∧
        directionalTravel mean last recipe.approachDirection ≤
          recipe.repeatabilityToleranceRad := by
  have hback : directionalTravel start (recipe.retreatTarget mean) recipe.approachDirection =
      directionalTravel start mean recipe.approachDirection - recipe.retreatDistanceRad := by
    unfold directionalTravel Recipe.retreatTarget
    obtain hd | hd := hdirection <;> rw [hd] <;> ring
  have hlast : directionalTravel last (recipe.retreatTarget mean) (-recipe.approachDirection) =
      directionalTravel mean last recipe.approachDirection + recipe.retreatDistanceRad := by
    unfold directionalTravel Recipe.retreatTarget
    obtain hd | hd := hdirection <;> rw [hd] <;> ring
  have htolerance : (0 : ℚ) < kDirectionTolerance := by
    show (0 : ℚ) < 1.0e-6
    norm_num
  constructor
  · rintro ⟨hinside, -, -, hfar, hnear⟩
    have hnonneg := ((envelops_iff hdirection hmax).mp hinside).1
    rw [hback] at hnonneg
    rw [hlast] at hfar hnear
    have hnear := not_lt.mp hnear
    exact ⟨by linarith, by linarith, by linarith⟩
  · rintro ⟨hdepth, hlow, hhigh⟩
    refine ⟨(envelops_iff hdirection hmax).mpr ?_, ?_, ?_, ?_, ?_⟩
    · rw [hback]
      exact ⟨by linarith, by linarith⟩
    · rw [hback]
      exact not_lt.mpr (by linarith)
    · rw [hback]
      exact not_lt.mpr (by linarith)
    · rw [hlast]
      linarith
    · rw [hlast]
      exact not_lt.mpr (by linarith)

end Exact

/-- A sample with which the session starts its approach. -/
structure Starts (s : Session F) (input : RecipeInput F) : Prop where
  state : s.state = .wait
  valid : (s.validateInput input).2 = .ok
  resting : Resting input
  deadman : input.deadmanHeld ≠ 0
  operator : input.operatorReady ≠ 0

/-- A sample that ends the first dwell. -/
structure Leaves (s : Session F) (input : RecipeInput F) : Prop where
  state : s.state = .contactDwell
  valid : (s.validateInput input).2 = .ok
  limits : ((s.validateInput input).1.enforceMotionLimits input).2 = .ok
  inTime : input.nowNs ≤ s.phaseDeadlineNs
  contact : contactEvidence s.recipe input (directionalTravel s.envelopeStartQ
    input.encoder.qOutputRad s.recipe.approachDirection)
  level : ¬ s.recipe.maximumApproachTravelRad < directionalTravel s.envelopeStartQ
    input.encoder.qOutputRad s.recipe.approachDirection
  dwelt : ¬ (s.touch input).dwelling input

/-- The approach starts in the start range, and the first dwell ends where the
    retreat is reachable. -/
def Event.Fits (s : Session F) : Event F → Prop
  | .step input _ _ =>
    (Starts s input → s.recipe.startMinOutputRad ≤ input.encoder.qOutputRad ∧
      input.encoder.qOutputRad ≤ s.recipe.startMaxOutputRad) ∧
    (Leaves s input → RetreatReachable s.recipe s.envelopeStartQ (s.touch input).contactMean
      input.encoder.qOutputRad)
  | _ => True

/-- The runs whose samples fit. -/
def fittingSystem (recipe : Recipe F) : Lts (Session F) (Event F) :=
  (system recipe).restrict fun s e _ => e.Fits s

/-! ## §3. What a session keeps. -/

/-- The envelope of a session, and where its retreat leads. -/
structure Enveloped (recipe : Recipe F) (s : Session F) : Prop where
  recipe_eq : s.recipe = recipe
  started : s.state.isMotion = true →
    recipe.startMinOutputRad ≤ s.envelopeStartQ ∧ s.envelopeStartQ ≤ recipe.startMaxOutputRad
  finite : s.state.isMotion = true → Floating.isFinite s.envelopeStartQ = true
  ends : s.state.isMotion = true → s.envelopeEndQ =
    s.envelopeStartQ + recipe.approachDirection * recipe.maximumApproachTravelRad
  retreat : s.state = .retreat →
    RetreatReachable recipe s.envelopeStartQ s.firstStopQ s.phaseStartQ

variable {recipe : Recipe F} {s : Session F} {input : RecipeInput F}

theorem enveloped_create (recipe : Recipe F) : Enveloped recipe (Session.create recipe) where
  recipe_eq := rfl
  started h := by cases h
  finite h := by cases h
  ends h := by cases h
  retreat h := by cases h

/-- A session that does not move has no envelope to keep. -/
theorem enveloped_still {t : Session F} (hrecipe : t.recipe = recipe)
    (hstate : t.state.isMotion = false) : Enveloped recipe t where
  recipe_eq := hrecipe
  started h := absurd (hstate ▸ h) (by decide)
  finite h := absurd (hstate ▸ h) (by decide)
  ends h := absurd (hstate ▸ h) (by decide)
  retreat h := by
    rw [h] at hstate
    cases hstate

/-- A state that keeps what the envelope depends on. -/
theorem Enveloped.keep {t : Session F} (h : Enveloped recipe s) (hrecipe : t.recipe = s.recipe)
    (hmotion : t.state.isMotion = true → s.state.isMotion = true)
    (hretreat : t.state = .retreat → s.state = .retreat)
    (hstart : t.envelopeStartQ = s.envelopeStartQ) (hend : t.envelopeEndQ = s.envelopeEndQ)
    (hstop : t.firstStopQ = s.firstStopQ)
    (hphase : t.state = .retreat → t.phaseStartQ = s.phaseStartQ) : Enveloped recipe t where
  recipe_eq := hrecipe.trans h.recipe_eq
  started hstate := by
    rw [hstart]
    exact h.started (hmotion hstate)
  finite hstate := by
    rw [hstart]
    exact h.finite (hmotion hstate)
  ends hstate := by
    rw [hstart, hend]
    exact h.ends (hmotion hstate)
  retreat hstate := by
    rw [hstart, hstop, hphase hstate]
    exact h.retreat (hretreat hstate)

/-- The limits let a sample through with its energy counted, or abort. -/
theorem enforceMotionLimits_or (s : Session F) (input : RecipeInput F) :
    (s.enforceMotionLimits input).2 ≠ .ok ∧ (s.enforceMotionLimits input).1.state = .abort ∨
      ∃ time energy, s.enforceMotionLimits input =
        ({ s with lastEnergyTimeNs := time, contactEnergyJ := energy }, .ok) := by
  unfold Session.enforceMotionLimits
  split
  · exact .inl ⟨by simp, rfl⟩
  · split
    · exact .inl ⟨by simp, rfl⟩
    · split
      · exact .inl ⟨by simp, rfl⟩
      · unfold Session.updateEnergy
        split
        · exact .inr ⟨_, s.contactEnergyJ, rfl⟩
        · dsimp only
          split
          · exact .inl ⟨by simp, rfl⟩
          · exact .inr ⟨_, _, rfl⟩

section Reach

variable [FloatReach F]

/-- The retreat distance of an accepted recipe is no travel backwards. -/
theorem retreat_of_validRecipe (hvalid : validRecipe recipe = true) {travel : F}
    (hfar : recipe.retreatDistanceRad ≤ travel) : ¬ travel < -kDirectionTolerance := by
  have hfinite : Floating.isFinite recipe.retreatDistanceRad = true :=
    finite_of_validRecipe hvalid (by simp [Recipe.numbers])
  have hrange := range_of_validRecipe hvalid
  unfold Recipe.badRange at hrange
  simp only [not_or] at hrange
  obtain ⟨-, -, -, -, -, -, -, -, -, -, -, hdistance, -, -⟩ := hrange
  have hzero : (Floating.lit 0.0 : F) = Floating.lit 0 := by norm_num
  rw [hzero] at hdistance
  have hpos : Floating.lit 0 ≤ recipe.retreatDistanceRad :=
    Floating.le_of_lt (Floating.lt_of_not_le (FloatOrder.lit_le_lit (le_refl (0 : ℚ)))
      (FloatOrder.le_self_of_isFinite hfinite) hdistance)
  have htolerance : (-kDirectionTolerance : F) ≤ Floating.lit 0 :=
    FloatMean.neg_le_zero (FloatOrder.lit_le_lit (by norm_num))
  intro hlt
  exact Floating.not_le_of_lt hlt
    (FloatOrder.le_trans htolerance (FloatOrder.le_trans hpos hfar))

/-- The end of an envelope is in it. -/
theorem envelops_end (hvalid : validRecipe recipe = true) {start : F}
    (hstart : Floating.isFinite start = true) : recipe.Envelops start
      (start + recipe.approachDirection * recipe.maximumApproachTravelRad) := by
  have hdirection : Floating.isFinite recipe.approachDirection = true :=
    finite_of_validRecipe hvalid (by simp [Recipe.numbers])
  have htravel : Floating.isFinite recipe.maximumApproachTravelRad = true :=
    finite_of_validRecipe hvalid (by simp [Recipe.numbers])
  have hstop := FloatReach.add_self hstart (FloatReach.mul_self hdirection htravel)
  rcases FloatOrder.le_total (FloatOrder.le_self_of_isFinite hstart) hstop with hup | hdown
  · exact .inl ⟨hup, hstop⟩
  · exact .inr ⟨hstop, hdown⟩

/-- **A sample at the target of a retreat completes it.** -/
theorem retreat_met (h : Enveloped recipe s) (hvalid : validRecipe recipe = true)
    (hstate : s.state = .retreat) (at_ : RecipeInput F)
    (hat : AtTarget s (s.action .retreat at_) input) :
    (s.step input).1.state = .reapproach ∧ (s.step input).2.1 = .ok := by
  obtain ⟨-, hahead, hlevel, hfar, hnear⟩ := h.retreat hstate
  obtain ⟨hbad, -⟩ | ⟨hchecked, -⟩ := s.validateInput_cases input
  · exact absurd hat.valid hbad
  have hlimits := hat.limits
  rw [hchecked] at hlimits
  obtain ⟨hbad, -⟩ | ⟨time, energy, hmoved⟩ := enforceMotionLimits_or (s.sampled input) input
  · exact absurd hlimits hbad
  have hposition : input.encoder.qOutputRad = recipe.retreatTarget s.firstStopQ := by
    rw [hat.position, ← h.recipe_eq]
    rfl
  unfold Session.step
  rw [if_neg (by simp [hstate]), if_neg (by simp [hstate]), hchecked]
  dsimp only
  rw [if_neg (by simp)]
  unfold Session.dispatch
  rw [show (s.sampled input).state = .retreat from hstate]
  dsimp only
  unfold Session.stepRetreat Session.whileSafe
  rw [hmoved]
  dsimp only
  rw [if_neg (by simp), if_neg ?limits, if_neg ?deadline, if_pos ?done]
  · exact ⟨rfl, rfl⟩
  case limits =>
    show ¬ (directionalTravel s.phaseStartQ input.encoder.qOutputRad
        (-s.recipe.approachDirection) < -kDirectionTolerance ∨
      s.recipe.retreatDistanceRad + s.recipe.repeatabilityToleranceRad <
        directionalTravel s.phaseStartQ input.encoder.qOutputRad (-s.recipe.approachDirection) ∨
      directionalTravel s.envelopeStartQ input.encoder.qOutputRad s.recipe.approachDirection <
        -kDirectionTolerance ∨
      s.recipe.maximumApproachTravelRad <
        directionalTravel s.envelopeStartQ input.encoder.qOutputRad s.recipe.approachDirection)
    rw [h.recipe_eq, hposition, not_or, not_or, not_or]
    exact ⟨retreat_of_validRecipe hvalid hfar, hnear, hahead, hlevel⟩
  case deadline =>
    exact UInt64.not_lt.mpr hat.inTime
  case done =>
    refine ⟨?_, ?_⟩
    · show s.recipe.retreatDistanceRad ≤ directionalTravel s.phaseStartQ
        input.encoder.qOutputRad (-s.recipe.approachDirection)
      rw [h.recipe_eq, hposition]
      exact hfar
    · exact hat.rest

end Reach

/-! ## §4. One step. -/

/-- What a step has to leave and to answer. -/
structure Good (recipe : Recipe F) (stepped : Session.Stepped F) : Prop where
  enveloped : Enveloped recipe stepped.1
  requests : Requests recipe stepped.1 stepped.2.2

/-- A session that does not move asks for nothing. -/
theorem good_still {stepped : Session.Stepped F} (hrecipe : stepped.1.recipe = recipe)
    (hstate : stepped.1.state.isMotion = false) (hkind : stepped.2.2.kind.isMotion = false) :
    Good recipe stepped where
  enveloped := enveloped_still hrecipe hstate
  requests :=
    { inside := fun h => absurd (hkind ▸ h) (by decide)
      started := fun h => absurd (hkind ▸ h) (by decide)
      met := fun h => by
        rw [h] at hkind
        cases hkind }

/-- A motion case: the limits stop it, or it goes on. -/
theorem good_whileSafe {next : Session F → Session.Stepped F} (hrecipe : s.recipe = recipe)
    (hnext : ∀ time energy, (s.enforceMotionLimits input).2 = .ok →
      Good recipe (next { s with lastEnergyTimeNs := time, contactEnergyJ := energy })) :
    Good recipe (s.whileSafe input next) := by
  unfold Session.whileSafe
  dsimp only
  obtain ⟨hbad, habort⟩ | ⟨time, energy, hok⟩ := enforceMotionLimits_or s input
  · rw [if_pos hbad]
    refine good_still ((s.enforceMotionLimits_clock input).recipe.trans hrecipe) ?_ rfl
    show RecipeState.isMotion (s.enforceMotionLimits input).1.state = false
    rw [habort]
    rfl
  · rw [hok, if_neg (by simp)]
    exact hnext time energy (congrArg Prod.snd hok)

/-- The states that do not move stay so. -/
theorem good_dispatch_still (hrecipe : s.recipe = recipe)
    (hstill : s.state ∉ [.wait, .approach, .contactDwell, .retreat, .reapproach]) :
    Good recipe (s.dispatch input) := by
  have hafter : (s.dispatch input).1.state.isMotion = false ∧
      (s.dispatch input).2.2.kind.isMotion = false := by
    unfold Session.dispatch
    split
    · unfold Session.stepPrecheck
      split <;> exact ⟨rfl, rfl⟩
    · next hstate => simp [hstate] at hstill
    · next hstate => simp [hstate] at hstill
    · next hstate => simp [hstate] at hstill
    · next hstate => simp [hstate] at hstill
    · next hstate => simp [hstate] at hstill
    · unfold Session.stepRepeatability
      split_ifs <;> exact ⟨rfl, rfl⟩
    · next hstate =>
      unfold Session.stepCandidate
      split_ifs <;> first | exact ⟨rfl, rfl⟩ | exact ⟨congrArg RecipeState.isMotion hstate, rfl⟩
    · next hstate =>
      unfold Session.stepReview
      split <;> first | exact ⟨rfl, rfl⟩ | exact ⟨congrArg RecipeState.isMotion hstate, rfl⟩
    · exact ⟨rfl, rfl⟩
    · exact ⟨rfl, rfl⟩
  exact good_still ((s.dispatch_clock input).recipe.trans hrecipe) hafter.1 hafter.2

variable [FloatReach F]

/-- A request that belongs to the state of its session. -/
theorem good_accept {t : Session F} {kind : ActionKind} (hvalid : validRecipe recipe = true)
    (h : Enveloped recipe t) (hmotion : kind.isMotion = true → t.state.isMotion = true)
    (hretreat : kind = .retreat → t.state = .retreat) : Good recipe (t.accept kind input) where
  enveloped := h
  requests :=
    { started := fun hkind => h.started (hmotion (by rwa [← action_kind t kind input]))
      met := fun hkind sample hat => by
        obtain rfl : kind = .retreat := by rw [← action_kind t kind input]; exact hkind
        exact retreat_met h hvalid (hretreat rfl) input hat
      inside := fun hkind => by
        have hkind : kind.isMotion = true := by rwa [← action_kind t kind input]
        have hmember : recipe.Envelops t.envelopeStartQ t.envelopeEndQ := by
          rw [h.ends (hmotion hkind)]
          exact envelops_end hvalid (h.finite (hmotion hkind))
        cases kind with
        | approach | contactDwell | reapproach => exact hmember
        | retreat =>
          have hinside := (h.retreat (hretreat rfl)).inside
          rw [← h.recipe_eq] at hinside
          rw [← h.recipe_eq]
          exact hinside
        | none | holdDisabled | review | commitReady | abortDisable => cases hkind }

section Cases

variable (h : Enveloped recipe s) (hvalid : validRecipe recipe = true)

include h hvalid

theorem good_wait (hstate : s.state = .wait)
    (hfinite : Floating.isFinite input.encoder.qOutputRad = true)
    (hstarts : input.estopClear ≠ 0 → input.encoder.driveEnabled = 0 →
      input.deadmanHeld ≠ 0 → input.operatorReady ≠ 0 →
      recipe.startMinOutputRad ≤ input.encoder.qOutputRad ∧
        input.encoder.qOutputRad ≤ recipe.startMaxOutputRad) :
    Good recipe (s.stepWait input) := by
  unfold Session.stepWait
  split
  · exact good_still h.recipe_eq rfl rfl
  · next hsafe =>
    split
    · exact good_still h.recipe_eq (congrArg RecipeState.isMotion hstate) rfl
    · next hgo =>
      obtain ⟨hestop, hdrive⟩ := not_or.mp hsafe
      obtain ⟨hdeadman, hready⟩ := not_or.mp hgo
      refine good_accept hvalid ⟨h.recipe_eq, fun _ => ?_, fun _ => hfinite, fun _ => ?_,
        fun hr => by cases hr⟩ (fun _ => rfl) fun hk => by cases hk
      · exact hstarts hestop (not_not.mp hdrive) hdeadman hready
      · rw [← h.recipe_eq]

theorem good_approach (hstate : s.state = .approach) : Good recipe (s.stepApproach input) := by
  have hmoving : s.state.isMotion = true := congrArg RecipeState.isMotion hstate
  refine good_whileSafe h.recipe_eq fun time energy _ => ?_
  dsimp only
  split
  · exact good_still h.recipe_eq rfl rfl
  · split
    · exact good_still h.recipe_eq rfl rfl
    · split
      · exact good_accept hvalid (h.keep rfl (fun _ => hmoving) (fun hr => by cases hr) rfl rfl rfl
          fun hr => by cases hr) (fun _ => rfl) fun hk => by cases hk
      · exact good_accept hvalid (h.keep rfl id id rfl rfl rfl fun _ => rfl) (fun _ => hmoving)
          fun hk => by cases hk

/-- The first dwell: it ends where the retreat is reachable. -/
theorem good_contactDwell (hstate : s.state = .contactDwell)
    (hleaves : (s.enforceMotionLimits input).2 = .ok → input.nowNs ≤ s.phaseDeadlineNs →
      contactEvidence recipe input (directionalTravel s.envelopeStartQ
        input.encoder.qOutputRad recipe.approachDirection) →
      ¬ recipe.maximumApproachTravelRad < directionalTravel s.envelopeStartQ
        input.encoder.qOutputRad recipe.approachDirection →
      ¬ (s.touch input).dwelling input →
      RetreatReachable recipe s.envelopeStartQ (s.touch input).contactMean
        input.encoder.qOutputRad) :
    Good recipe (s.stepContactDwell input) := by
  have hmoving : s.state.isMotion = true := congrArg RecipeState.isMotion hstate
  refine good_whileSafe h.recipe_eq fun time energy hok => ?_
  dsimp only
  split
  · exact good_still h.recipe_eq rfl rfl
  · next hdeadline =>
    split
    · exact good_still h.recipe_eq rfl rfl
    · next hcontact =>
      rw [not_or, not_not, h.recipe_eq] at hcontact
      split
      · exact good_accept hvalid (h.keep rfl (fun _ => hmoving) id rfl rfl rfl fun _ => rfl)
          (fun _ => hmoving) fun hk => by cases hk
      · next hdwelt =>
        have hreachable := hleaves hok (UInt64.not_lt.mp hdeadline) hcontact.2
          hcontact.1 hdwelt
        exact good_accept hvalid ⟨h.recipe_eq, fun _ => h.started hmoving,
          fun _ => h.finite hmoving, fun _ => h.ends hmoving, fun _ => hreachable⟩
          (fun _ => rfl) fun _ => rfl

theorem good_retreat (hstate : s.state = .retreat) : Good recipe (s.stepRetreat input) := by
  have hmoving : s.state.isMotion = true := congrArg RecipeState.isMotion hstate
  refine good_whileSafe h.recipe_eq fun time energy _ => ?_
  dsimp only
  split
  · exact good_still h.recipe_eq rfl rfl
  · split
    · exact good_still h.recipe_eq rfl rfl
    · split
      · exact good_accept hvalid (h.keep rfl (fun _ => hmoving) (fun hr => by cases hr) rfl rfl rfl
          fun hr => by cases hr) (fun _ => rfl) fun hk => by cases hk
      · exact good_accept hvalid (h.keep rfl id id rfl rfl rfl fun _ => rfl) (fun _ => hmoving)
          fun _ => hstate

theorem good_reapproach (hstate : s.state = .reapproach) :
    Good recipe (s.stepReapproach input) := by
  have hmoving : s.state.isMotion = true := congrArg RecipeState.isMotion hstate
  refine good_whileSafe h.recipe_eq fun time energy _ => ?_
  dsimp only
  split
  · exact good_still h.recipe_eq rfl rfl
  · split
    · exact good_still h.recipe_eq rfl rfl
    · split
      · split
        · exact good_still h.recipe_eq rfl rfl
        · split
          · exact good_accept hvalid (h.keep rfl (fun _ => hmoving) id rfl rfl rfl fun _ => rfl)
              (fun _ => hmoving) fun hk => by cases hk
          · exact good_still h.recipe_eq rfl rfl
      · split
        · exact good_accept hvalid (h.keep rfl (fun _ => hmoving) id rfl rfl rfl fun _ => rfl)
            (fun _ => hmoving) fun hk => by cases hk
        · exact good_accept hvalid (h.keep rfl id id rfl rfl rfl fun _ => rfl) (fun _ => hmoving)
            fun hk => by cases hk

end Cases

/-- **One step keeps the envelope**, when its sample fits. -/
theorem good_step (h : Enveloped recipe s) (hvalid : validRecipe recipe = true)
    {status : CommissionStatus} {action : NextAction F}
    (hfits : (Event.step input status action).Fits s) : Good recipe (s.step input) := by
  unfold Session.step
  split
  · next hstate => exact good_still h.recipe_eq (congrArg RecipeState.isMotion hstate) rfl
  split
  · next hstate => exact good_still h.recipe_eq (congrArg RecipeState.isMotion hstate) rfl
  dsimp only
  obtain ⟨hbad, habort⟩ | ⟨hchecked, hadmitted, -⟩ := s.validateInput_cases input
  · rw [if_pos hbad]
    exact good_still ((s.validateInput_recipe input).trans h.recipe_eq)
      (congrArg RecipeState.isMotion habort) rfl
  have hok : (s.validateInput input).2 = .ok := congrArg Prod.snd hchecked
  obtain ⟨hstarts, hleaves⟩ := hfits
  rw [h.recipe_eq] at hstarts hleaves
  rw [hchecked, if_neg (by simp)]
  -- the session has only taken note of the sample
  have hsampled : Enveloped recipe (s.sampled input) :=
    h.keep rfl id id rfl rfl rfl fun _ => rfl
  by_cases hstill : s.state ∈ [RecipeState.wait, .approach, .contactDwell, .retreat, .reapproach]
  · simp only [List.mem_cons, List.not_mem_nil, or_false] at hstill
    unfold Session.dispatch
    obtain hstate | hstate | hstate | hstate | hstate := hstill
    all_goals rw [show (s.sampled input).state = _ from hstate]
    · refine good_wait hsampled hvalid hstate hadmitted.finite_position
        fun hestop hdrive hdeadman hready => ?_
      exact hstarts ⟨hstate, hok, ⟨hestop, hdrive⟩, hdeadman, hready⟩
    · exact good_approach hsampled hvalid hstate
    · refine good_contactDwell hsampled hvalid hstate
        fun hlimits hdeadline hcontact hlevel hdwelt =>
          hleaves ⟨hstate, hok, ?_, hdeadline, ?_, ?_, hdwelt⟩
      · rw [hchecked]
        exact hlimits
      · rw [h.recipe_eq]
        exact hcontact
      · rw [h.recipe_eq]
        exact hlevel
    · exact good_retreat hsampled hvalid hstate
    · exact good_reapproach hsampled hvalid hstate
  · exact good_dispatch_still hsampled.recipe_eq hstill

/-! ## §5. Every run. -/

/-- Every call keeps the envelope. -/
theorem enveloped_performs {t : Session F} {e : Event F} (h : Enveloped recipe s)
    (hvalid : validRecipe recipe = true) (hstep : Performs s e t) (hfits : e.Fits s) :
    Enveloped recipe t := by
  cases hstep with
  | step heq =>
    have hgood := good_step h hvalid hfits
    rw [heq] at hgood
    exact hgood.enveloped
  | commit heq =>
    unfold Session.commit at heq
    split at heq
    · cases heq
      exact h
    · split at heq
      · cases heq
        exact h
      · cases heq
        exact enveloped_still h.recipe_eq rfl
  | abort heq =>
    unfold Session.abort at heq
    split at heq
    · cases heq
      exact h
    · cases heq
      exact enveloped_still h.recipe_eq rfl

/-- **Requests lie within the envelope and can be met**, in every run whose
    samples fit, whatever the session computes in. -/
theorem recipe_envelope (hvalid : validRecipe recipe = true) {events : List (Event F)}
    {t : Session F} {status : CommissionStatus} {action : NextAction F}
    (hrun : (fittingSystem recipe).Run (Session.create recipe) events s)
    (hstep : (fittingSystem recipe).step s (.step input status action) t) :
    Requests recipe t action := by
  have henveloped : Enveloped recipe s := hrun.invariant_under (enveloped_create recipe)
    fun a e b hab hfits ha => enveloped_performs ha hvalid hab hfits
  obtain ⟨hperforms, hfits⟩ := hstep
  cases hperforms with
  | step heq =>
    have hgood := good_step henveloped hvalid hfits
    rw [heq] at hgood
    exact hgood.requests

/-! ## §6. Two dwells. -/

theorem performs_step (s : Session ℚ) (input : RecipeInput ℚ) :
    Performs s (.step input (s.step input).2.1 (s.step input).2.2) (s.step input).1 :=
  .step rfl

/-- The precheck, the go-ahead and the first contact of a gripper. -/
def contactInputs (q : ℚ) : List (RecipeInput ℚ) :=
  [gripperInput 1 1 0 0 0 0 reviewNone, gripperInput 2 2 0 0 0 1 reviewNone,
    gripperInput 3 3 q 2 1 0 reviewNone]

/-- … and the sample that ends the dwell. -/
def dwellEnd (q : ℚ) : RecipeInput ℚ := gripperInput 4 13 q 2 1 0 reviewNone

/-- A gripper in its first dwell. -/
def dwellAt (recipe : Recipe ℚ) (q : ℚ) : Session ℚ :=
  (Session.create recipe).replay (contactInputs q)

theorem dwellAt_fits : (fittingSystem (gripperRecipe 10 (1 / 50))).Run
    (Session.create (gripperRecipe 10 (1 / 50)))
    ((Session.create (gripperRecipe 10 (1 / 50))).replayed (contactInputs 2))
    (dwellAt (gripperRecipe 10 (1 / 50)) 2) := by
  refine .cons ⟨performs_step _ _, ?_, ?_⟩ (.cons ⟨performs_step _ _, ?_, ?_⟩
    (.cons ⟨performs_step _ _, ?_, ?_⟩ (.nil _)))
  · exact fun h => absurd h.state (by decide +kernel)
  · exact fun h => absurd h.state (by decide +kernel)
  · exact fun _ => by decide +kernel
  · exact fun h => absurd h.state (by decide +kernel)
  · exact fun h => absurd h.state (by decide +kernel)
  · exact fun h => absurd h.state (by decide +kernel)

/-- A stop two radians deep and a retreat of one. -/
theorem recipe_envelope_gripper :
    ((dwellAt (gripperRecipe 10 (1 / 50)) 2).step (dwellEnd 2)).2.2.kind = .retreat ∧
    Requests (gripperRecipe 10 (1 / 50))
      ((dwellAt (gripperRecipe 10 (1 / 50)) 2).step (dwellEnd 2)).1
      ((dwellAt (gripperRecipe 10 (1 / 50)) 2).step (dwellEnd 2)).2.2 := by
  refine ⟨by decide +kernel, recipe_envelope (by decide +kernel) dwellAt_fits
    ⟨performs_step _ _, fun h => absurd h.state (by decide +kernel), fun _ => ?_⟩⟩
  refine (retreatReachable_iff (.inl ?_) ?_ ?_ ?_).mpr ⟨?_, ?_, ?_⟩
  all_goals decide +kernel

/-- A recipe whose retreat is longer than its shortest contact travel. -/
def shallowRecipe : Recipe ℚ := { gripperRecipe 10 (1 / 50) with retreatDistanceRad := 2 }

/-- **Contact nearer than the retreat distance**: the retreat is sent behind
    the start of the envelope. -/
theorem shallow_contact :
    validRecipe shallowRecipe = true ∧
    (system shallowRecipe).Run (Session.create shallowRecipe)
      ((Session.create shallowRecipe).replayed (contactInputs (3 / 2)))
      (dwellAt shallowRecipe (3 / 2)) ∧
    (system shallowRecipe).step (dwellAt shallowRecipe (3 / 2))
      (.step (dwellEnd (3 / 2)) ((dwellAt shallowRecipe (3 / 2)).step (dwellEnd (3 / 2))).2.1
        ((dwellAt shallowRecipe (3 / 2)).step (dwellEnd (3 / 2))).2.2)
      ((dwellAt shallowRecipe (3 / 2)).step (dwellEnd (3 / 2))).1 ∧
    ¬ Requests shallowRecipe ((dwellAt shallowRecipe (3 / 2)).step (dwellEnd (3 / 2))).1
      ((dwellAt shallowRecipe (3 / 2)).step (dwellEnd (3 / 2))).2.2 := by
  refine ⟨by decide +kernel, Session.replay_run _ _ _, performs_step _ _, fun h => ?_⟩
  have hinside := h.inside (by decide +kernel)
  have hlow := ((envelops_iff (.inl (by decide +kernel)) (by decide +kernel)).mp hinside).1
  exact absurd hlow (by decide +kernel)

end OpenArm.Commission
