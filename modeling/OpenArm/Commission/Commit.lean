/-
  OpenArm.Commission.Commit — a committed calibration has all its evidence.

  Main results:
    * `recipe_commit`     — a commit has the whole evidence, and nothing
      commits after an abort or a commit, as long as no dwell wraps its
      counter or overflows its sum.
    * `recipe_wraps`      — a dwell of 2³² + 2 samples commits a mapping that
      is no mean of any samples.
-/
import OpenArm.Commission.Reading

namespace OpenArm.Commission

open OpenArm.Lib
open OpenArm.Runtime (CommissionStatus)

variable {F : Type}

/-! ## §1. Runs. -/

@[simp] theorem stepInputs_nil : stepInputs ([] : List (Event F)) = [] := rfl

@[simp] theorem stepInputs_append (events later : List (Event F)) :
    stepInputs (events ++ later) = stepInputs events ++ stepInputs later :=
  List.filterMap_append ..

variable [Floating F]

/-- A step may be counted. -/
def Event.Counted (s : Session F) : Event F → Prop
  | .step input _ _ => Counts s input
  | _ => True

/-- The session has committed on this call. -/
def Event.Commits : Event F → Prop
  | .commit _ status _ => status = .ok
  | _ => False

/-- The life of a session in which every step may be counted. -/
def countedSystem (recipe : Recipe F) : Lts (Session F) (Event F) :=
  (system recipe).restrict fun s e _ => e.Counted s

/-- `fail` and the end of a session. -/
def Session.closed (s : Session F) : Prop := s.state = .abort ∨ s.state = .commit

omit [Floating F] in
/-- A commit is accepted in the review only. -/
theorem commit_cases (s : Session F) (revision : UInt64) :
    s.commit revision = ({ s with state := .commit }, .ok, some (s.patch revision)) ∧
        s.state = .review ∨
      (s.commit revision).1 = s ∧ (s.commit revision).2.1 ≠ .ok := by
  unfold Session.commit
  split
  · exact .inr ⟨rfl, by simp⟩
  rename_i hreview
  split
  · exact .inr ⟨rfl, by simp⟩
  · exact .inl ⟨rfl, not_not.mp hreview⟩

/-- A closed session stays closed and does not commit. -/
theorem closed_step {s t : Session F} {e : Event F} (h : Performs s e t) (hclosed : s.closed) :
    t.closed ∧ ¬ e.Commits := by
  cases h with
  | step hstep =>
    refine ⟨?_, id⟩
    unfold Session.step at hstep
    rcases hclosed with habort | hcommit
    · rw [if_pos habort] at hstep
      obtain rfl := congrArg Prod.fst hstep
      exact .inl habort
    · rw [if_neg (by simp [hcommit]), if_pos hcommit] at hstep
      obtain rfl := congrArg Prod.fst hstep
      exact .inr hcommit
  | commit hcommit =>
    rcases commit_cases s _ with ⟨-, hreview⟩ | ⟨hsame, hfailed⟩
    · rcases hclosed with habort | hdone
      · exact absurd (habort.symm.trans hreview) (by simp)
      · exact absurd (hdone.symm.trans hreview) (by simp)
    · rw [hcommit] at hsame hfailed
      obtain rfl : t = s := hsame
      exact ⟨hclosed, hfailed⟩
  | abort habort =>
    refine ⟨?_, id⟩
    unfold Session.abort at habort
    rw [if_pos (show s.state = .abort ∨ s.state = .commit from hclosed)] at habort
    obtain rfl := congrArg Prod.fst habort
    exact hclosed

/-- A closed session stays closed. -/
theorem closed_run {recipe : Recipe F} {s t : Session F} {events : List (Event F)}
    (h : (system recipe).Run s events t) (hclosed : s.closed) :
    t.closed ∧ ∀ e ∈ events, ¬ e.Commits := by
  induction h with
  | nil => exact ⟨hclosed, by simp⟩
  | snoc front last ih =>
    obtain ⟨hmid, hnone⟩ := ih
    obtain ⟨hend, hlast⟩ := closed_step last hmid
    refine ⟨hend, fun e he => ?_⟩
    rcases List.mem_append.mp he with he | he
    · exact hnone e he
    · exact (List.mem_singleton.mp he) ▸ hlast

section Evidence

variable [FloatMean F] {recipe : Recipe F}

/-- **The reading of a run**: every call keeps it, a step adds its input. -/
theorem carried_run (hvalid : validRecipe recipe = true) {s : Session F}
    {events : List (Event F)} (h : (countedSystem recipe).Run (Session.create recipe) events s) :
    Carried recipe (stepInputs events) s := by
  induction h with
  | nil => exact carried_create recipe
  | @snoc m t front e _ last ih =>
    obtain ⟨hperforms, hcounted⟩ := last
    rw [stepInputs_append]
    cases hperforms with
    | step hstep =>
      have hcarried := carried_step ih hvalid hcounted
      rw [hstep] at hcarried
      exact hcarried
    | commit hcommit =>
      show Carried recipe (stepInputs front ++ []) t
      rw [List.append_nil]
      rcases commit_cases m _ with ⟨hok, -⟩ | ⟨hsame, -⟩
      · rw [hok] at hcommit
        obtain rfl := congrArg Prod.fst hcommit
        exact ⟨ih.recipe_eq, trivial, fun _ hnot => absurd rfl hnot⟩
      · rw [hcommit] at hsame
        obtain rfl : t = m := hsame
        exact ih
    | abort habort =>
      show Carried recipe (stepInputs front ++ []) t
      rw [List.append_nil]
      unfold Session.abort at habort
      split at habort
      · obtain rfl := congrArg Prod.fst habort
        exact ih
      · obtain rfl := congrArg Prod.fst habort
        exact ⟨ih.recipe_eq, trivial, fun hnot => absurd rfl hnot⟩

omit [FloatMean F] in
/-- A session in review has all the evidence. -/
theorem evidence_of_review {s : Session F} {inputs : List (RecipeInput F)}
    (h : Carried recipe inputs s) (hreview : s.state = .review) :
    ∃ e : Evidence recipe inputs, Offers recipe e.toRepeated s.candidateA s.candidateB := by
  have htaken := h.taken (by simp [hreview]) (by simp [hreview])
  have hstaged := h.staged
  simp only [Staged, hreview] at hstaged
  obtain ⟨r, reviews, accepted, later, hinputs, hreviews, haccepted, hdecision, hlater, hkept,
    hoffers⟩ := hstaged
  exact ⟨{ r with
    reviews := reviews
    accepted := accepted
    later := later
    reviews_resting := hreviews
    accepted_resting := haccepted
    accepted_decision := hdecision
    later_resting := hlater
    later_decision := hkept
    history_eq := hinputs
    admitted := htaken.admitted
    increasing := htaken.increasing }, hoffers⟩

/-- **A committed calibration has all its evidence.**  Whatever calls a caller
    makes, when a commit answers OK the inputs so far read as the stages of the
    recipe, and the patch is the mapping of the two stops; and once a session
    has aborted or committed no call commits any more.  Every dwell must fit
    its 32-bit counter, and its positions must add up to a finite number. -/
theorem recipe_commit (hvalid : validRecipe recipe = true) :
    (∀ (events : List (Event F)) (s : Session F),
      (countedSystem recipe).Run (Session.create recipe) events s →
      ∀ revision, (s.commit revision).2.1 = .ok →
        ∃ patch, (s.commit revision).2.2 = some patch ∧
          ∃ e : Evidence recipe (stepInputs events),
            patch.a = toDouble recipe.knownSign ∧
              patch.bRad = recipe.stopModelRad - toDouble recipe.knownSign *
                Floating.lit 0.5 * (e.firstRun.mean + e.secondRun.mean)) ∧
      ∀ (events : List (Event F)) (s t : Session F), s.closed →
        (system recipe).Run s events t → ∀ e ∈ events, ¬ e.Commits := by
  refine ⟨fun events s hrun revision hok => ?_, fun events s t hclosed hrun =>
    (closed_run hrun hclosed).2⟩
  rcases commit_cases s revision with ⟨hcommit, hreview⟩ | ⟨-, hfailed⟩
  · obtain ⟨e, hoffers⟩ := evidence_of_review (carried_run hvalid hrun) hreview
    exact ⟨s.patch revision, by rw [hcommit], e, hoffers.a_eq, hoffers.b_eq⟩
  · exact absurd hok hfailed

end Evidence

/-! ## §2. Replaying samples. -/

namespace Session

/-- The session after some steps. -/
def replay (s : Session F) (inputs : List (RecipeInput F)) : Session F :=
  inputs.foldl (fun s input => (s.step input).1) s

/-- The steps with their answers. -/
def replayed (s : Session F) : List (RecipeInput F) → List (Event F)
  | [] => []
  | input :: rest =>
    .step input (s.step input).2.1 (s.step input).2.2 :: replayed (s.step input).1 rest

/-- Every one of some steps may be counted. -/
def countsAll (s : Session F) : List (RecipeInput F) → Prop
  | [] => True
  | input :: rest => Counts s input ∧ countsAll (s.step input).1 rest

theorem stepInputs_replayed (s : Session F) (inputs : List (RecipeInput F)) :
    stepInputs (s.replayed inputs) = inputs := by
  induction inputs generalizing s with
  | nil => rfl
  | cons input rest ih => exact congrArg (input :: ·) (ih _)

theorem replay_run (recipe : Recipe F) (s : Session F) (inputs : List (RecipeInput F)) :
    (system recipe).Run s (s.replayed inputs) (s.replay inputs) := by
  induction inputs generalizing s with
  | nil => exact Lts.Run.nil s
  | cons input rest ih => exact Lts.Run.cons (Performs.step rfl) (ih _)

theorem replay_counted_run (recipe : Recipe F) (s : Session F) {inputs : List (RecipeInput F)}
    (h : s.countsAll inputs) :
    (countedSystem recipe).Run s (s.replayed inputs) (s.replay inputs) := by
  induction inputs generalizing s with
  | nil => exact Lts.Run.nil s
  | cons input rest ih => exact Lts.Run.cons ⟨Performs.step rfl, h.1⟩ (ih _ h.2)

end Session

/-! ## §3. A gripper on a simulated stop. -/

/-- A gripper recipe with a simulated stop two radians from its start. -/
def gripperRecipe (contactDwellNs : UInt64) (tolerance : ℚ) : Recipe ℚ where
  recipeKind := recipeGripper
  side := commissionRight
  joint := 7
  knownSign := 1
  hardwareQualified := 0
  simulationOnly := 1
  minimumContactSamples := 2
  expectedRevision := 10
  qualificationRevision := 0
  simulationEvidenceRevision := 1
  fixtureRevision := 1
  maximumSampleAgeNs := 50
  maximumApproachTimeNs := 0x4000000000000000
  contactDwellNs := contactDwellNs
  maximumRetreatTimeNs := 100
  stopModelRad := 0
  approachDirection := 1
  startMinOutputRad := -1 / 5
  startMaxOutputRad := 1 / 5
  maximumSpeedRadS := 1
  minimumContactTravelRad := 1
  maximumApproachTravelRad := 3
  contactVelocityRadS := 1 / 100
  minimumContactTorqueNm := 1
  maximumTorqueNm := 3
  maximumContactEnergyJ := 1
  maximumTemperatureC := 60
  retreatDistanceRad := 1
  repeatabilityToleranceRad := tolerance
  requiredPostureMask := 0
  requiredPostureOutputRad := fun _ => 0
  postureToleranceRad := 0
  motorSerial := .ofString "DM-GRIPPER-SIM"
  qualificationRecord := .ofString ""
  simulationEvidenceRecord := .ofString "simulation-recipe-v1"
  fixtureRecord := .ofString "simulated-closed-stop"

/-- A sample of the gripper at rest. -/
def gripperInput (feedbackSeq timeNs : UInt64) (q torque : ℚ) (enabled ready review : UInt32) :
    RecipeInput ℚ where
  structSize := sizeofRecipeInput
  abiVersion := abiV1
  nowNs := timeNs
  encoder :=
    { structSize := sizeofEncoderSample
      abiVersion := abiV1
      feedbackSeq := feedbackSeq
      sampleTimeNs := timeNs
      qOutputRad := q
      dqOutputRadS := 0
      torqueOutputNm := torque
      mosTemperatureC := 20
      coilTemperatureC := 20
      driveEnabled := enabled
      driveFault := 0 }
  estopClear := 1
  deadmanHeld := 1
  operatorReady := ready
  actionComplete := 0
  reviewDecision := review
  postureMask := 0
  evidenceRevision := 1
  fixtureRevision := 1
  postureOutputRad := fun _ => 0

/-- What follows the first contact: the end of the dwell, the retreat, the
    second stop, the comparison and the review. -/
def gripperFinish (feedbackSeq dwellNs : UInt64) : List (RecipeInput ℚ) :=
  [gripperInput feedbackSeq (3 + dwellNs) 2 2 1 0 reviewNone,
    gripperInput (feedbackSeq + 1) (4 + dwellNs) 1 0 1 0 reviewNone,
    gripperInput (feedbackSeq + 2) (5 + dwellNs) 2 2 1 0 reviewNone,
    gripperInput (feedbackSeq + 3) (5 + 2 * dwellNs) 2 2 1 0 reviewNone,
    gripperInput (feedbackSeq + 4) (6 + 2 * dwellNs) 2 0 0 0 reviewNone,
    gripperInput (feedbackSeq + 5) (7 + 2 * dwellNs) 2 0 0 0 reviewAccept]

/-- What comes before: the precheck, the go-ahead and the first contact. -/
def gripperStart : List (RecipeInput ℚ) :=
  [gripperInput 1 1 0 0 0 0 reviewNone, gripperInput 2 2 0 0 0 1 reviewNone,
    gripperInput 3 3 2 2 1 0 reviewNone]

instance (s : Session ℚ) (input : RecipeInput ℚ) : Decidable (Counts s input) := by
  unfold Counts
  infer_instance

instance decidableCountsAll (s : Session ℚ) :
    (inputs : List (RecipeInput ℚ)) → Decidable (s.countsAll inputs)
  | [] => .isTrue trivial
  | input :: rest =>
    have := decidableCountsAll (s.step input).1 rest
    inferInstanceAs (Decidable (Counts s input ∧ (s.step input).1.countsAll rest))

/-- The whole calibration of the gripper commits what its two stops show. -/
theorem recipe_commit_gripper :
    ∃ patch, (((Session.create (gripperRecipe 10 (1 / 50))).replay
        (gripperStart ++ gripperFinish 4 10)).commit 11).2.2 = some patch ∧
      ∃ e : Evidence (gripperRecipe 10 (1 / 50)) (stepInputs ((Session.create
          (gripperRecipe 10 (1 / 50))).replayed (gripperStart ++ gripperFinish 4 10))),
        patch.a = toDouble (gripperRecipe 10 (1 / 50)).knownSign ∧
          patch.bRad = (gripperRecipe 10 (1 / 50)).stopModelRad -
            toDouble (gripperRecipe 10 (1 / 50)).knownSign * Floating.lit 0.5 *
              (e.firstRun.mean + e.secondRun.mean) :=
  (@recipe_commit ℚ _ _ (gripperRecipe 10 (1 / 50)) (by decide +kernel)).1 _ _
    (Session.replay_counted_run _ _ (by decide +kernel)) 11 (by decide +kernel)

/-! ## §4. A counter that wraps. -/

/-- A recipe whose dwell lasts longer than 2³² samples a nanosecond apart. -/
abbrev patientRecipe : Recipe ℚ := gripperRecipe 0x200000000 (2 ^ 40)

/-- The sample that touches the stop at a time. -/
abbrev touchInput (n : Nat) : RecipeInput ℚ :=
  gripperInput (UInt64.ofNat n) (UInt64.ofNat n) 2 2 1 0 reviewNone

/-- The session at its first contact. -/
def firstContact : Session ℚ := (Session.create patientRecipe).replay gripperStart

/-- … and after more samples of the same dwell. -/
def touched (n : Nat) : Session ℚ :=
  { firstContact with
    lastFeedbackSeq := UInt64.ofNat (n + 3)
    lastSampleTimeNs := UInt64.ofNat (n + 3)
    lastEnergyTimeNs := UInt64.ofNat (n + 3)
    contactSamples := UInt32.ofNat (n + 1)
    contactSumQ := 2 * (n + 1) }

theorem toNat_time {n : Nat} (h : n < 2 ^ 33) : (UInt64.ofNat n).toNat = n :=
  UInt64.toNat_ofNat_of_lt' (by simp only [UInt64.size]; omega)

/-- `validate_input` takes a newer sample of the gripper. -/
theorem validateInput_gripper {s : Session ℚ} {dwellNs : UInt64} {tolerance : ℚ}
    (hrecipe : s.recipe = gripperRecipe dwellNs tolerance) {seq time : UInt64}
    (hseq : s.lastFeedbackSeq < seq) (htime : s.lastSampleTimeNs < time) (q torque : ℚ)
    (enabled ready review : UInt32) :
    s.validateInput (gripperInput seq time q torque enabled ready review) =
      (s.sampled (gripperInput seq time q torque enabled ready review), .ok) := by
  have hzero : seq ≠ 0 :=
    UInt64.pos_iff_ne_zero.mp (UInt64.lt_of_le_of_lt UInt64.zero_le hseq)
  unfold Session.validateInput
  refine (if_neg ?_).trans ((if_neg ?_).trans ((if_neg ?_).trans ((if_neg ?_).trans ?_)))
  · exact Bool.false_ne_true
  · simp only [not_or, UInt64.not_le, UInt64.not_lt]
    refine ⟨hzero, hseq, htime, UInt64.le_refl _, ?_⟩
    show time - time ≤ _
    rw [UInt64.sub_self]
    exact UInt64.zero_le
  · exact not_not.mpr rfl
  · show ¬ (s.recipe.maximumTemperatureC < 20 ∨ s.recipe.maximumTemperatureC < 20)
    rw [hrecipe]
    show ¬ ((60 : ℚ) < 20 ∨ (60 : ℚ) < 20)
    norm_num
  · unfold Session.validateBinding
    simp [hrecipe, gripperRecipe, gripperInput, recipeGripper, recipeArmJoint, Session.sampled]

/-- `step` never touches the recipe. -/
theorem step_recipe (s : Session F) (input : RecipeInput F) :
    (s.step input).1.recipe = s.recipe := by
  unfold Session.step
  split
  · rfl
  split
  · rfl
  dsimp only
  split
  · exact s.validateInput_recipe input
  · exact ((s.validateInput input).1.dispatch_clock input).recipe.trans
      (s.validateInput_recipe input)

theorem replay_recipe (s : Session F) (inputs : List (RecipeInput F)) :
    (s.replay inputs).recipe = s.recipe := by
  induction inputs generalizing s with
  | nil => rfl
  | cons input rest ih => exact (ih _).trans (step_recipe s input)

theorem touched_recipe (n : Nat) : (touched n).recipe = patientRecipe :=
  replay_recipe _ _

/-- `enforce_motion_limits` lets a resting gripper touch its stop. -/
theorem enforceMotionLimits_gripper {s : Session ℚ} {dwellNs : UInt64} {tolerance : ℚ}
    (hrecipe : s.recipe = gripperRecipe dwellNs tolerance) (hrunning : s.lastEnergyTimeNs ≠ 0)
    (henergy : s.contactEnergyJ = 0) (seq time : UInt64) :
    s.enforceMotionLimits (gripperInput seq time 2 2 1 0 reviewNone) =
      ({ s with lastEnergyTimeNs := time }, .ok) := by
  have hspent (dt : ℚ) : s.contactEnergyJ + Floating.abs ((2 : ℚ) * 0) * dt = 0 := by
    rw [henergy]
    show 0 + |(2 : ℚ) * 0| * dt = 0
    norm_num
  unfold Session.enforceMotionLimits Session.updateEnergy
  refine (if_neg ?_).trans ((if_neg ?_).trans ((if_neg ?_).trans ((if_neg hrunning).trans ?_)))
  · show ¬ ((1 : UInt32) = 0 ∨ (1 : UInt32) = 0)
    decide
  · show ¬ (1 : UInt32) = 0
    decide
  · rw [hrecipe]
    show ¬ ((1 : ℚ) < |0| ∨ (3 : ℚ) < |2| ∨ (60 : ℚ) < 20 ∨ (60 : ℚ) < 20)
    norm_num
  · dsimp only
    refine (if_neg ?_).trans ?_
    · show ¬ (false || decide (s.recipe.maximumContactEnergyJ <
        s.contactEnergyJ + Floating.abs ((2 : ℚ) * 0) * _)) = true
      rw [hspent, hrecipe]
      show ¬ (false || decide ((1 : ℚ) < 0)) = true
      decide
    · refine congrArg (fun energy => (({ s with
        lastEnergyTimeNs := time, contactEnergyJ := energy } : Session ℚ),
        Runtime.CommissionStatus.ok)) ?_
      exact (hspent _).trans henergy.symm

/-- One more sample of the dwell. -/
theorem touched_step {n : Nat} (h : n < 2 ^ 32) :
    ((touched n).step (touchInput (n + 4))).1 = touched (n + 1) := by
  have hrecipe := touched_recipe n
  have hseq : UInt64.ofNat (n + 3) < UInt64.ofNat (n + 4) := by
    rw [UInt64.lt_iff_toNat_lt, toNat_time (by omega), toNat_time (by omega)]
    omega
  have hvalid := validateInput_gripper hrecipe hseq hseq 2 2 1 0 reviewNone
  have hstate : (touched n).state = .contactDwell := by
    show firstContact.state = _
    decide +kernel
  have hrunning : (touched n).lastEnergyTimeNs ≠ 0 := by
    intro hzero
    have hnat := congrArg UInt64.toNat hzero
    rw [show (touched n).lastEnergyTimeNs = UInt64.ofNat (n + 3) from rfl, toNat_time (by omega)]
      at hnat
    simp at hnat
  -- the sample is newer, and the gripper keeps its limits and its energy
  have hlimits := enforceMotionLimits_gripper
    (s := (touched n).sampled (touchInput (n + 4))) hrecipe hrunning
    (by show firstContact.contactEnergyJ = 0; decide +kernel) (UInt64.ofNat (n + 4))
    (UInt64.ofNat (n + 4))
  unfold Session.step
  rw [if_neg (by simp [hstate]), if_neg (by simp [hstate]), hvalid]
  dsimp only
  rw [if_neg (by simp)]
  unfold Session.dispatch
  rw [show ((touched n).sampled (touchInput (n + 4))).state = .contactDwell from hstate]
  dsimp only
  unfold Session.stepContactDwell Session.whileSafe
  rw [hlimits]
  dsimp only
  rw [if_neg (by simp)]
  have htime := toNat_time (show n + 4 < 2 ^ 33 by omega)
  -- neither the deadline nor the travel ends the dwell, and its time is not over
  refine congrArg Prod.fst
    ((if_neg ?deadline).trans ((if_neg ?travel).trans ((if_pos (.inl ?dwell)).trans rfl)))
    |>.trans ?same
  case deadline =>
    show ¬ firstContact.phaseDeadlineNs < UInt64.ofNat (n + 4)
    rw [show firstContact.phaseDeadlineNs = 0x4000000000000002 by decide +kernel,
      UInt64.lt_iff_toNat_lt, htime]
    show ¬ 0x4000000000000002 < n + 4
    omega
  case travel =>
    have htravel : directionalTravel firstContact.envelopeStartQ 2
        (touched n).recipe.approachDirection = 2 := by
      rw [hrecipe, show firstContact.envelopeStartQ = 0 by decide +kernel]
      show (1 : ℚ) * (2 - 0) = 2
      norm_num
    show ¬ ((touched n).recipe.maximumApproachTravelRad < directionalTravel
      firstContact.envelopeStartQ 2 (touched n).recipe.approachDirection ∨
      ¬ contactEvidence (touched n).recipe (touchInput (n + 4)) (directionalTravel
        firstContact.envelopeStartQ 2 (touched n).recipe.approachDirection))
    rw [htravel, hrecipe]
    show ¬ ((3 : ℚ) < 2 ∨ ¬ ((1 : UInt32) ≠ 0 ∧ (1 : ℚ) ≤ 2 ∧ |(0 : ℚ)| ≤ 1 / 100 ∧ (1 : ℚ) ≤ |2|))
    exact not_or.mpr ⟨by norm_num, not_not.mpr ⟨by decide, by norm_num, by norm_num, by norm_num⟩⟩
  case dwell =>
    show UInt64.ofNat (n + 4) - firstContact.dwellStartNs < (touched n).recipe.contactDwellNs
    rw [show firstContact.dwellStartNs = 3 by decide +kernel, hrecipe]
    have hle : (3 : UInt64) ≤ UInt64.ofNat (n + 4) := by
      rw [UInt64.le_iff_toNat_le, htime]
      show 3 ≤ n + 4
      omega
    rw [UInt64.lt_iff_toNat_lt, UInt64.toNat_sub_of_le _ _ hle, htime]
    show n + 4 - 3 < 0x200000000
    omega
  case same =>
    have hcount : UInt32.ofNat (n + 1) + 1 = UInt32.ofNat (n + 2) := by
      rw [← UInt32.toNat_inj]
      simp
    have hsum : (2 : ℚ) * (n + 1) + 2 = 2 * ((n + 1 : Nat) + 1) := by
      push_cast
      ring
    unfold touched
    show ({ firstContact with
      lastFeedbackSeq := UInt64.ofNat (n + 4)
      lastSampleTimeNs := UInt64.ofNat (n + 4)
      lastEnergyTimeNs := UInt64.ofNat (n + 4)
      contactSamples := UInt32.ofNat (n + 1) + 1
      contactSumQ := (2 : ℚ) * (n + 1) + 2 } : Session ℚ) = _
    rw [hcount, hsum]

/-- The dwell, one sample a nanosecond. -/
def touches (n : Nat) : List (RecipeInput ℚ) := (List.range n).map fun k => touchInput (k + 4)

theorem touched_zero : (touched 0) = firstContact := by
  have hfields : firstContact.lastFeedbackSeq = 3 ∧ firstContact.lastSampleTimeNs = 3 ∧
      firstContact.lastEnergyTimeNs = 3 ∧ firstContact.contactSamples = 1 ∧
      firstContact.contactSumQ = 2 * ((0 : Nat) + 1) := by decide +kernel
  obtain ⟨hseq, htime, henergy, hcount, hsum⟩ := hfields
  calc touched 0
      = { firstContact with
          lastFeedbackSeq := firstContact.lastFeedbackSeq
          lastSampleTimeNs := firstContact.lastSampleTimeNs
          lastEnergyTimeNs := firstContact.lastEnergyTimeNs
          contactSamples := firstContact.contactSamples
          contactSumQ := firstContact.contactSumQ } := by
        rw [hseq, htime, henergy, hcount, hsum]
        rfl
    _ = firstContact := rfl

theorem touches_replay {n : Nat} (h : n ≤ 2 ^ 32) :
    firstContact.replay (touches n) = touched n := by
  induction n with
  | zero => exact touched_zero.symm
  | succ n ih =>
    unfold touches
    rw [List.range_succ, List.map_append]
    show (firstContact.replay (touches n ++ [touchInput (n + 4)])) = _
    unfold Session.replay at ih ⊢
    rw [List.foldl_append, ih (by omega)]
    exact touched_step (by omega)

/-- Positions up to a bound have a mean up to it. -/
theorem meanPosition_le {inputs : List (RecipeInput ℚ)} {bound : ℚ} (hne : inputs ≠ [])
    (h : ∀ x ∈ inputs, x.encoder.qOutputRad ≤ bound) : meanPosition inputs ≤ bound := by
  have hsum : positionSum inputs ≤ inputs.length * bound := by
    induction inputs using List.reverseRecOn with
    | nil => exact absurd rfl hne
    | append_singleton front last ih =>
      have hlast := h last (by simp)
      by_cases hfront : front = []
      · subst hfront
        show last.encoder.qOutputRad ≤ _
        simpa using hlast
      · have hrest := ih hfront fun x hx => h x (by simp [hx])
        rw [positionSum_snoc hfront, List.length_append, List.length_singleton]
        push_cast
        linarith
  have hlength : (0 : ℚ) < inputs.length := by
    exact_mod_cast List.length_pos_iff.mpr hne
  show positionSum inputs / (inputs.length : ℚ) ≤ bound
  rw [div_le_iff₀ hlength]
  linarith

/-- **A dwell of 2³² + 2 samples is counted as two**: the commit it leads to
    answers OK with a mapping that is not that of any two dwells in the inputs. -/
theorem recipe_wraps :
    ∃ (recipe : Recipe ℚ) (events : List (Event ℚ)) (s : Session ℚ),
      validRecipe recipe = true ∧ (system recipe).Run (Session.create recipe) events s ∧
        (s.commit 11).2.1 = .ok ∧
        ∀ patch, (s.commit 11).2.2 = some patch → ∀ e : Evidence recipe (stepInputs events),
          patch.bRad ≠ recipe.stopModelRad - toDouble recipe.knownSign *
            Floating.lit 0.5 * (e.firstRun.mean + e.secondRun.mean) := by
  let inputs := gripperStart ++ touches (2 ^ 32) ++ gripperFinish 0x100000004 0x200000000
  have hend : (Session.create patientRecipe).replay inputs =
      (touched (2 ^ 32)).replay (gripperFinish 0x100000004 0x200000000) := by
    rw [← touches_replay (le_refl _)]
    simp only [inputs, Session.replay, List.foldl_append, firstContact]
  have hrun := Session.replay_run patientRecipe (Session.create patientRecipe) inputs
  rw [hend] at hrun
  refine ⟨patientRecipe, _, _, by decide +kernel, hrun, by decide +kernel, fun patch hpatch e => ?_⟩
  have hb : patch.bRad = -(2 ^ 31 + 2) := by
    have hsome : (((touched (2 ^ 32)).replay
        (gripperFinish 0x100000004 0x200000000)).commit 11).2.2.map MappingPatch.bRad =
          some (-(2 ^ 31 + 2)) := by decide +kernel
    rw [hpatch] at hsome
    exact Option.some.inj hsome
  have hhistory : stepInputs ((Session.create patientRecipe).replayed inputs) = inputs :=
    Session.stepInputs_replayed _ _
  have hbound : ∀ x ∈ stepInputs ((Session.create patientRecipe).replayed inputs),
      x.encoder.qOutputRad ≤ 2 := by
    rw [hhistory]
    intro x hx
    simp only [inputs, List.mem_append] at hx
    rcases hx with (hx | hx) | hx
    · have hall : ∀ x ∈ gripperStart, x.encoder.qOutputRad ≤ 2 := by decide +kernel
      exact hall x hx
    · obtain ⟨k, -, rfl⟩ := List.mem_map.mp hx
      exact le_refl (2 : ℚ)
    · have hall : ∀ x ∈ gripperFinish 0x100000004 0x200000000,
          x.encoder.qOutputRad ≤ 2 := by decide +kernel
      exact hall x hx
  have hfirst : e.firstRun.mean ≤ 2 := meanPosition_le (by simp [ContactRun.samples])
    fun x hx => hbound x (by
      rw [e.history_eq]
      simp [Repeated.inputs, SecondStop.motion, Retreated.motion, FirstStop.motion, hx])
  have hsecond : e.secondRun.mean ≤ 2 := meanPosition_le (by simp [ContactRun.samples])
    fun x hx => hbound x (by
      rw [e.history_eq]
      simp [Repeated.inputs, SecondStop.motion, hx])
  rw [hb]
  show (-(2 ^ 31 + 2) : ℚ) ≠ 0 - 1 * 0.5 * (e.firstRun.mean + e.secondRun.mean)
  intro heq
  norm_num at heq
  linarith

end OpenArm.Commission
