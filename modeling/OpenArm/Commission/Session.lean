/-
  OpenArm.Commission.Session — the hard-stop calibration session.

  `RecipeCalibrationSession`: the members of a session, what one sample does
  in every state, and the commit of a reviewed candidate.  Each case of the
  `switch` in `step` is a function of its own under the name of its state.

  Main definitions:
    * `Session.step`, `Session.commit`, `Session.abort` — the interface.
    * `system` — the calls of any caller, as a transition system.
-/
import OpenArm.Lib.Transition
import OpenArm.Commission.Types

namespace OpenArm.Commission

open OpenArm.Lib
open OpenArm.Runtime (CommissionStatus)

variable {F : Type} [Floating F]

/-- `kDirectionTolerance`. -/
def kDirectionTolerance : F := Floating.lit 1.0e-6

/-- The members of `RecipeCalibrationSession`. -/
structure Session (F : Type) where
  recipe : Recipe F
  state : RecipeState
  abortReason : AbortReason
  lastFeedbackSeq : UInt64
  lastSampleTimeNs : UInt64
  phaseStartNs : UInt64
  phaseDeadlineNs : UInt64
  dwellStartNs : UInt64
  lastEnergyTimeNs : UInt64
  contactSamples : UInt32
  phaseStartQ : F
  envelopeStartQ : F
  envelopeEndQ : F
  contactSumQ : F
  firstStopQ : F
  secondStopQ : F
  candidateA : F
  candidateB : F
  contactEnergyJ : F
  secondContactActive : Bool

/-- The constructor. -/
def Session.create (recipe : Recipe F) : Session F where
  recipe := recipe
  state := .precheck
  abortReason := .none
  lastFeedbackSeq := 0
  lastSampleTimeNs := 0
  phaseStartNs := 0
  phaseDeadlineNs := 0
  dwellStartNs := 0
  lastEnergyTimeNs := 0
  contactSamples := 0
  phaseStartQ := Floating.lit 0.0
  envelopeStartQ := Floating.lit 0.0
  envelopeEndQ := Floating.lit 0.0
  contactSumQ := Floating.lit 0.0
  firstStopQ := Floating.lit 0.0
  secondStopQ := Floating.lit 0.0
  candidateA := Floating.lit 0.0
  candidateB := Floating.lit 0.0
  contactEnergyJ := Floating.lit 0.0
  secondContactActive := false

/-- `directional_travel`. -/
def directionalTravel (start stop direction : F) : F := direction * (stop - start)

/-- `contact_evidence`. -/
def contactEvidence (recipe : Recipe F) (input : RecipeInput F) (travel : F) : Prop :=
  input.encoder.driveEnabled ≠ 0 ∧ recipe.minimumContactTravelRad ≤ travel ∧
    Floating.abs input.encoder.dqOutputRadS ≤ recipe.contactVelocityRadS ∧
    recipe.minimumContactTorqueNm ≤ Floating.abs input.encoder.torqueOutputNm

instance (recipe : Recipe F) (input : RecipeInput F) (travel : F) :
    Decidable (contactEvidence recipe input travel) := by
  unfold contactEvidence
  infer_instance

namespace Session

/-! ## §1. Checks. -/

/-- `fail`. -/
def fail (s : Session F) (status : CommissionStatus) (reason : AbortReason) :
    Session F × CommissionStatus :=
  ({ s with
      state := .abort
      abortReason := reason
      candidateA := Floating.lit 0.0
      candidateB := Floating.lit 0.0 },
    status)

/-- The loop of `validate_binding` over the joints the recipe holds. -/
def postureHeld (recipe : Recipe F) (input : RecipeInput F) : Bool :=
  (List.finRange 7).all fun index =>
    recipe.requiredPostureMask &&& ((1 : UInt32) <<< UInt32.ofNat index.val) == 0 ||
      (Floating.isFinite (input.postureOutputRad index) &&
        !decide (recipe.postureToleranceRad <
          Floating.abs (input.postureOutputRad index - recipe.requiredPostureOutputRad index)))

/-- `validate_binding`. -/
def validateBinding (s : Session F) (input : RecipeInput F) : Session F × CommissionStatus :=
  let expectedEvidenceRevision :=
    if s.recipe.simulationOnly ≠ 0 then s.recipe.simulationEvidenceRevision
    else s.recipe.qualificationRevision
  if input.evidenceRevision ≠ expectedEvidenceRevision ∨
      input.fixtureRevision ≠ s.recipe.fixtureRevision then
    s.fail .efault .unqualified
  else if s.recipe.recipeKind ≠ recipeArmJoint then (s, .ok)
  else if input.postureMask ≠ s.recipe.requiredPostureMask then s.fail .efault .unqualified
  else if postureHeld s.recipe input then (s, .ok)
  else s.fail .efault .unqualified

/-- `validate_input`. -/
def validateInput (s : Session F) (input : RecipeInput F) : Session F × CommissionStatus :=
  if !validHeader input.structSize input.abiVersion sizeofRecipeInput ||
      !validHeader input.encoder.structSize input.encoder.abiVersion sizeofEncoderSample ||
      !finiteSample input.encoder then
    s.fail .einval .badSample
  else if input.encoder.feedbackSeq = 0 ∨ input.encoder.feedbackSeq ≤ s.lastFeedbackSeq ∨
      input.encoder.sampleTimeNs ≤ s.lastSampleTimeNs ∨
      input.nowNs < input.encoder.sampleTimeNs ∨
      s.recipe.maximumSampleAgeNs < input.nowNs - input.encoder.sampleTimeNs then
    s.fail .estale .stale
  else
    let s :=
      { s with
        lastFeedbackSeq := input.encoder.feedbackSeq
        lastSampleTimeNs := input.encoder.sampleTimeNs }
    if input.encoder.driveFault ≠ 0 then s.fail .efault .interlock
    else if s.recipe.maximumTemperatureC < input.encoder.mosTemperatureC ∨
        s.recipe.maximumTemperatureC < input.encoder.coilTemperatureC then
      s.fail .elimit .limit
    else s.validateBinding input

/-- `update_energy`. -/
def updateEnergy (s : Session F) (input : RecipeInput F) : Session F × CommissionStatus :=
  if s.lastEnergyTimeNs = 0 then
    ({ s with lastEnergyTimeNs := input.encoder.sampleTimeNs }, .ok)
  else
    let seconds : F :=
      Floating.ofNat (input.encoder.sampleTimeNs - s.lastEnergyTimeNs).toNat * Floating.lit 1.0e-9
    let s :=
      { s with
        lastEnergyTimeNs := input.encoder.sampleTimeNs
        contactEnergyJ := s.contactEnergyJ +
          Floating.abs (input.encoder.torqueOutputNm * input.encoder.dqOutputRadS) * seconds }
    if !Floating.isFinite s.contactEnergyJ ||
        decide (s.recipe.maximumContactEnergyJ < s.contactEnergyJ) then
      s.fail .elimit .limit
    else (s, .ok)

/-- `enforce_motion_limits`. -/
def enforceMotionLimits (s : Session F) (input : RecipeInput F) :
    Session F × CommissionStatus :=
  if input.estopClear = 0 ∨ input.deadmanHeld = 0 then s.fail .einterlock .interlock
  else if input.encoder.driveEnabled = 0 then s.fail .einterlock .interlock
  else if s.recipe.maximumSpeedRadS < Floating.abs input.encoder.dqOutputRadS ∨
      s.recipe.maximumTorqueNm < Floating.abs input.encoder.torqueOutputNm ∨
      s.recipe.maximumTemperatureC < input.encoder.mosTemperatureC ∨
      s.recipe.maximumTemperatureC < input.encoder.coilTemperatureC then
    s.fail .elimit .limit
  else s.updateEnergy input

/-! ## §2. Answers. -/

/-- `action`. -/
def action (s : Session F) (kind : ActionKind) (input : RecipeInput F) : NextAction F :=
  let value : NextAction F :=
    { kind := kind
      state := s.state
      validUntilNs := 0
      direction := Floating.lit 0.0
      targetOutputRad := Floating.lit 0.0
      maximumSpeedRadS := s.recipe.maximumSpeedRadS
      maximumTravelRad := Floating.lit 0.0
      maximumTorqueNm := s.recipe.maximumTorqueNm
      maximumTemperatureC := s.recipe.maximumTemperatureC }
  match kind with
  | .approach | .contactDwell | .reapproach =>
    { value with
      validUntilNs := s.phaseDeadlineNs
      direction := s.recipe.approachDirection
      maximumTravelRad := Floating.max (Floating.lit 0.0)
        (directionalTravel s.phaseStartQ s.envelopeEndQ s.recipe.approachDirection)
      targetOutputRad := s.envelopeEndQ }
  | .retreat =>
    { value with
      validUntilNs := s.phaseDeadlineNs
      direction := -s.recipe.approachDirection
      maximumTravelRad := s.recipe.retreatDistanceRad
      targetOutputRad :=
        s.firstStopQ - s.recipe.approachDirection * s.recipe.retreatDistanceRad }
  | _ => { value with validUntilNs := input.nowNs }

/-- What a step leaves and answers. -/
abbrev Stepped (F : Type) := Session F × CommissionStatus × NextAction F

/-- A step that leaves the session as given and succeeds. -/
def accept (s : Session F) (kind : ActionKind) (input : RecipeInput F) : Stepped F :=
  (s, .ok, s.action kind input)

/-- A step that reports what a check has found. -/
def stop (checked : Session F × CommissionStatus) (input : RecipeInput F) : Stepped F :=
  (checked.1, checked.2, checked.1.action .abortDisable input)

/-! ## §3. The states of `step`. -/

/-- `case OA_RECIPE_PRECHECK`. -/
def stepPrecheck (s : Session F) (input : RecipeInput F) : Stepped F :=
  if input.estopClear = 0 ∨ input.encoder.driveEnabled ≠ 0 ∨
      input.encoder.qOutputRad < s.recipe.startMinOutputRad ∨
      s.recipe.startMaxOutputRad < input.encoder.qOutputRad ∨
      s.recipe.maximumTemperatureC < input.encoder.mosTemperatureC ∨
      s.recipe.maximumTemperatureC < input.encoder.coilTemperatureC then
    stop (s.fail .einterlock .interlock) input
  else accept { s with state := .wait } .holdDisabled input

/-- `case OA_RECIPE_WAIT`. -/
def stepWait (s : Session F) (input : RecipeInput F) : Stepped F :=
  if input.estopClear = 0 ∨ input.encoder.driveEnabled ≠ 0 then
    stop (s.fail .einterlock .interlock) input
  else if input.deadmanHeld = 0 ∨ input.operatorReady = 0 then s.accept .holdDisabled input
  else
    accept
      { s with
        state := .approach
        phaseStartNs := input.nowNs
        phaseStartQ := input.encoder.qOutputRad
        envelopeStartQ := input.encoder.qOutputRad
        envelopeEndQ := input.encoder.qOutputRad +
          s.recipe.approachDirection * s.recipe.maximumApproachTravelRad
        phaseDeadlineNs := saturatingAdd input.nowNs s.recipe.maximumApproachTimeNs
        lastEnergyTimeNs := input.encoder.sampleTimeNs }
      .approach input

/-- How every motion state begins: with `enforce_motion_limits`. -/
def whileSafe (s : Session F) (input : RecipeInput F) (next : Session F → Stepped F) :
    Stepped F :=
  let limits := s.enforceMotionLimits input
  if limits.2 ≠ .ok then stop limits input else next limits.1

/-- `case OA_RECIPE_APPROACH`. -/
def stepApproach (s : Session F) (input : RecipeInput F) : Stepped F :=
  s.whileSafe input fun s =>
    let travel :=
      directionalTravel s.envelopeStartQ input.encoder.qOutputRad s.recipe.approachDirection
    if travel < -kDirectionTolerance ∨ s.recipe.maximumApproachTravelRad < travel then
      stop (s.fail .elimit .limit) input
    else if s.phaseDeadlineNs < input.nowNs then stop (s.fail .elimit .timeout) input
    else if contactEvidence s.recipe input travel then
      accept
        { s with
          state := .contactDwell
          dwellStartNs := input.encoder.sampleTimeNs
          contactSamples := 1
          contactSumQ := input.encoder.qOutputRad }
        .contactDwell input
    else s.accept .approach input

/-- One more sample in contact, in either dwell. -/
def touch (s : Session F) (input : RecipeInput F) : Session F :=
  { s with
    contactSamples := s.contactSamples + 1
    contactSumQ := s.contactSumQ + input.encoder.qOutputRad }

/-- `contact_sum_q_ / static_cast<double>(contact_samples_)`. -/
def contactMean (s : Session F) : F := s.contactSumQ / Floating.ofNat s.contactSamples.toNat

/-- The dwell has not lasted, or has not been sampled, long enough. -/
def dwelling (s : Session F) (input : RecipeInput F) : Prop :=
  input.encoder.sampleTimeNs - s.dwellStartNs < s.recipe.contactDwellNs ∨
    s.contactSamples < s.recipe.minimumContactSamples

instance (s : Session F) (input : RecipeInput F) : Decidable (s.dwelling input) := by
  unfold dwelling
  infer_instance

/-- `case OA_RECIPE_CONTACT_DWELL`. -/
def stepContactDwell (s : Session F) (input : RecipeInput F) : Stepped F :=
  s.whileSafe input fun s =>
    let travel :=
      directionalTravel s.envelopeStartQ input.encoder.qOutputRad s.recipe.approachDirection
    if s.phaseDeadlineNs < input.nowNs then stop (s.fail .elimit .timeout) input
    else if s.recipe.maximumApproachTravelRad < travel ∨
        ¬ contactEvidence s.recipe input travel then
      stop (s.fail .efault .contact) input
    else if (s.touch input).dwelling input then (s.touch input).accept .contactDwell input
    else
      accept
        { s.touch input with
          firstStopQ := (s.touch input).contactMean
          state := .retreat
          phaseStartNs := input.nowNs
          phaseStartQ := input.encoder.qOutputRad
          phaseDeadlineNs := saturatingAdd input.nowNs s.recipe.maximumRetreatTimeNs }
        .retreat input

/-- `case OA_RECIPE_RETREAT`. -/
def stepRetreat (s : Session F) (input : RecipeInput F) : Stepped F :=
  s.whileSafe input fun s =>
    let travel :=
      directionalTravel s.phaseStartQ input.encoder.qOutputRad (-s.recipe.approachDirection)
    let globalTravel :=
      directionalTravel s.envelopeStartQ input.encoder.qOutputRad s.recipe.approachDirection
    if travel < -kDirectionTolerance ∨
        s.recipe.retreatDistanceRad + s.recipe.repeatabilityToleranceRad < travel ∨
        globalTravel < -kDirectionTolerance ∨
        s.recipe.maximumApproachTravelRad < globalTravel then
      stop (s.fail .elimit .limit) input
    else if s.phaseDeadlineNs < input.nowNs then stop (s.fail .elimit .timeout) input
    else if s.recipe.retreatDistanceRad ≤ travel ∧
        Floating.abs input.encoder.dqOutputRadS ≤ s.recipe.contactVelocityRadS then
      accept
        { s with
          state := .reapproach
          phaseStartNs := input.nowNs
          phaseStartQ := input.encoder.qOutputRad
          phaseDeadlineNs := saturatingAdd input.nowNs s.recipe.maximumApproachTimeNs
          lastEnergyTimeNs := input.encoder.sampleTimeNs
          secondContactActive := false
          contactSamples := 0
          contactSumQ := Floating.lit 0.0 }
        .reapproach input
    else s.accept .retreat input

/-- `case OA_RECIPE_REAPPROACH`. -/
def stepReapproach (s : Session F) (input : RecipeInput F) : Stepped F :=
  s.whileSafe input fun s =>
    let travel :=
      directionalTravel s.phaseStartQ input.encoder.qOutputRad s.recipe.approachDirection
    let globalTravel :=
      directionalTravel s.envelopeStartQ input.encoder.qOutputRad s.recipe.approachDirection
    if travel < -kDirectionTolerance ∨ globalTravel < -kDirectionTolerance ∨
        s.recipe.maximumApproachTravelRad < globalTravel then
      stop (s.fail .elimit .limit) input
    else if s.phaseDeadlineNs < input.nowNs then stop (s.fail .elimit .timeout) input
    else if s.secondContactActive then
      if ¬ contactEvidence s.recipe input travel then stop (s.fail .efault .contact) input
      else if (s.touch input).dwelling input then (s.touch input).accept .contactDwell input
      else
        accept
          { s.touch input with
            secondStopQ := (s.touch input).contactMean
            state := .repeatability }
          .holdDisabled input
    else if contactEvidence s.recipe input travel then
      accept
        { s with
          secondContactActive := true
          dwellStartNs := input.encoder.sampleTimeNs
          contactSamples := 1
          contactSumQ := input.encoder.qOutputRad }
        .contactDwell input
    else s.accept .reapproach input

/-- `case OA_RECIPE_REPEATABILITY`. -/
def stepRepeatability (s : Session F) (input : RecipeInput F) : Stepped F :=
  if input.estopClear = 0 ∨ input.deadmanHeld = 0 ∨ input.encoder.driveEnabled ≠ 0 then
    stop (s.fail .einterlock .interlock) input
  else if s.recipe.repeatabilityToleranceRad < Floating.abs (s.secondStopQ - s.firstStopQ) then
    stop (s.fail .erepeatability .repeatability) input
  else
    accept
      { s with
        candidateA := toDouble s.recipe.knownSign
        candidateB := s.recipe.stopModelRad -
          toDouble s.recipe.knownSign * Floating.lit 0.5 * (s.firstStopQ + s.secondStopQ)
        state := .candidate }
      .review input

/-- `case OA_RECIPE_CANDIDATE`. -/
def stepCandidate (s : Session F) (input : RecipeInput F) : Stepped F :=
  if input.estopClear = 0 ∨ input.encoder.driveEnabled ≠ 0 then
    stop (s.fail .einterlock .interlock) input
  else if input.reviewDecision = reviewReject then
    stop (s.fail .estate .reviewRejected) input
  else if input.reviewDecision = reviewAccept then
    accept { s with state := .review } .commitReady input
  else s.accept .review input

/-- `case OA_RECIPE_REVIEW`. -/
def stepReview (s : Session F) (input : RecipeInput F) : Stepped F :=
  if input.estopClear = 0 ∨ input.encoder.driveEnabled ≠ 0 ∨
      input.reviewDecision = reviewReject then
    stop (s.fail .estate .reviewRejected) input
  else s.accept .commitReady input

/-- The `switch` of `step`. -/
def dispatch (s : Session F) (input : RecipeInput F) : Stepped F :=
  match s.state with
  | .precheck => s.stepPrecheck input
  | .wait => s.stepWait input
  | .approach => s.stepApproach input
  | .contactDwell => s.stepContactDwell input
  | .retreat => s.stepRetreat input
  | .reapproach => s.stepReapproach input
  | .repeatability => s.stepRepeatability input
  | .candidate => s.stepCandidate input
  | .review => s.stepReview input
  -- `step` returns before the switch in both.
  | .commit | .abort =>
    let failed := s.fail .estate .badSample
    (failed.1, failed.2, failed.1.action .none input)

/-! ## §4. The interface. -/

/-- `step`. -/
def step (s : Session F) (input : RecipeInput F) : Stepped F :=
  if s.state = .abort then (s, .estate, s.action .abortDisable input)
  else if s.state = .commit then (s, .estate, s.action .none input)
  else
    let checked := s.validateInput input
    if checked.2 ≠ .ok then stop checked input
    else checked.1.dispatch input

/-- The patch of `commit`. -/
def patch (s : Session F) (replacementRevision : UInt64) : MappingPatch F where
  expectedRevision := s.recipe.expectedRevision
  replacementRevision := replacementRevision
  side := s.recipe.side
  joint := s.recipe.joint
  evidenceKind :=
    if s.recipe.simulationOnly ≠ 0 then .simulationOnly else .hardwareQualified
  recipeKind := s.recipe.recipeKind
  qualificationRevision :=
    if s.recipe.simulationOnly ≠ 0 then s.recipe.simulationEvidenceRevision
    else s.recipe.qualificationRevision
  fixtureRevision := s.recipe.fixtureRevision
  a := s.candidateA
  bRad := s.candidateB
  motorSerial := copyText s.recipe.motorSerial
  evidenceRecord :=
    copyText (if s.recipe.simulationOnly ≠ 0 then s.recipe.simulationEvidenceRecord
      else s.recipe.qualificationRecord)

/-- `commit`: with a patch exactly when it answers `OA_COMMISSION_OK`. -/
def commit (s : Session F) (replacementRevision : UInt64) :
    Session F × CommissionStatus × Option (MappingPatch F) :=
  if s.state ≠ .review then (s, .estate, none)
  else if replacementRevision ≤ s.recipe.expectedRevision then (s, .einval, none)
  else ({ s with state := .commit }, .ok, some (s.patch replacementRevision))

/-- `abort`. -/
def abort (s : Session F) : Session F × CommissionStatus :=
  if s.state = .abort ∨ s.state = .commit then (s, .estate) else s.fail .ok .caller

end Session

/-! ## §5. Callers. -/

/-- A call of the interface with what it answers. -/
inductive Event (F : Type) where
  | step (input : RecipeInput F) (status : CommissionStatus) (action : NextAction F)
  | commit (replacementRevision : UInt64) (status : CommissionStatus)
      (patch : Option (MappingPatch F))
  | abort (status : CommissionStatus)

/-- What a call does to a session. -/
inductive Performs : Session F → Event F → Session F → Prop where
  | step {s s' : Session F} {input : RecipeInput F} {status : CommissionStatus}
      {action : NextAction F} (h : s.step input = (s', status, action)) :
      Performs s (.step input status action) s'
  | commit {s s' : Session F} {replacementRevision : UInt64} {status : CommissionStatus}
      {patch : Option (MappingPatch F)}
      (h : s.commit replacementRevision = (s', status, patch)) :
      Performs s (.commit replacementRevision status patch) s'
  | abort {s s' : Session F} {status : CommissionStatus} (h : s.abort = (s', status)) :
      Performs s (.abort status) s'

/-- The life of a session of a recipe, under any sequence of calls. -/
def system (recipe : Recipe F) : Lts (Session F) (Event F) where
  init s := s = Session.create recipe
  step := Performs

/-- The inputs of the steps among some calls, in their order. -/
def stepInputs : List (Event F) → List (RecipeInput F) :=
  List.filterMap fun
    | .step input _ _ => some input
    | _ => none

end OpenArm.Commission
