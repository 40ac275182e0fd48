/-
  OpenArm.Commission.Evidence — what a committed hard-stop calibration has seen.

  The evidence of a calibration is a reading of its whole input history: who
  was where when, from the first sample to the accepted review.  It is built
  in stages, one on top of the other, and every state of a session says how
  far it has come (`Staged`).  A stage keeps what it has established, so the
  last one is the evidence itself.

  Main definitions:
    * `Opening`, `FirstStop`, `Retreated`, `SecondStop`, `Repeated` — the stages.
    * `Evidence` — the reading of a history that ends in an accepted review.
    * `Staged`   — what a session has to show in each of its states.
-/
import OpenArm.Commission.Session

namespace OpenArm.Commission

open OpenArm.Lib
open OpenArm.Runtime (CommissionStatus)

variable {F : Type} [Floating F]

/-! ## §1. What one sample shows. -/

/-- The revision of the evidence a recipe was qualified with. -/
def Recipe.evidenceRevision (recipe : Recipe F) : UInt64 :=
  if recipe.simulationOnly ≠ 0 then recipe.simulationEvidenceRevision
  else recipe.qualificationRevision

/-- A fresh, finite, fault-free sample under the conditions of the recipe. -/
structure Admitted (recipe : Recipe F) (input : RecipeInput F) : Prop where
  finite : finiteSample input.encoder = true
  past : input.encoder.sampleTimeNs ≤ input.nowNs
  fresh : input.nowNs - input.encoder.sampleTimeNs ≤ recipe.maximumSampleAgeNs
  healthy : input.encoder.driveFault = 0
  evidence : input.evidenceRevision = recipe.evidenceRevision
  fixture : input.fixtureRevision = recipe.fixtureRevision
  posture : recipe.recipeKind = recipeArmJoint →
    input.postureMask = recipe.requiredPostureMask ∧ Session.postureHeld recipe input = true

/-- The later of two samples. -/
def Newer (x y : RecipeInput F) : Prop :=
  x.encoder.feedbackSeq < y.encoder.feedbackSeq ∧
    x.encoder.sampleTimeNs < y.encoder.sampleTimeNs

/-- The emergency stop is clear and the drive is off. -/
structure Resting (input : RecipeInput F) : Prop where
  estopClear : input.estopClear ≠ 0
  driveDisabled : input.encoder.driveEnabled = 0

/-- A sample that may be taken while the drive moves. -/
structure Driven (recipe : Recipe F) (input : RecipeInput F) : Prop where
  estopClear : input.estopClear ≠ 0
  deadmanHeld : input.deadmanHeld ≠ 0
  driveEnabled : input.encoder.driveEnabled ≠ 0
  speed : Floating.abs input.encoder.dqOutputRadS ≤ recipe.maximumSpeedRadS
  torque : Floating.abs input.encoder.torqueOutputNm ≤ recipe.maximumTorqueNm
  mosTemperature : input.encoder.mosTemperatureC ≤ recipe.maximumTemperatureC
  coilTemperature : input.encoder.coilTemperatureC ≤ recipe.maximumTemperatureC

/-- … inside the envelope that starts at `start`, before the deadline. -/
structure Moving (recipe : Recipe F) (start : F) (deadline : UInt64)
    (input : RecipeInput F) : Prop extends Driven recipe input where
  above : ¬ directionalTravel start input.encoder.qOutputRad recipe.approachDirection <
    -kDirectionTolerance
  below : ¬ recipe.maximumApproachTravelRad <
    directionalTravel start input.encoder.qOutputRad recipe.approachDirection
  inTime : input.nowNs ≤ deadline

/-! ## §2. Energy. -/

/-- When the energy was last added up, and what it came to. -/
abbrev Meter (F : Type) := UInt64 × F

/-- The energy of one more sample. -/
def spend (meter : Meter F) (input : RecipeInput F) : Meter F :=
  (input.encoder.sampleTimeNs,
    meter.2 + Floating.abs (input.encoder.torqueOutputNm * input.encoder.dqOutputRadS) *
      (Floating.ofNat (input.encoder.sampleTimeNs - meter.1).toNat * Floating.lit 1.0e-9))

/-- The energy stays within the budget of the recipe, sample after sample. -/
def WithinEnergy (recipe : Recipe F) : Meter F → List (RecipeInput F) → Prop
  | _, [] => True
  | meter, input :: rest =>
    (spend meter input).2 ≤ recipe.maximumContactEnergyJ ∧
      WithinEnergy recipe (spend meter input) rest

theorem withinEnergy_snoc {recipe : Recipe F} {meter : Meter F} {inputs : List (RecipeInput F)}
    {input : RecipeInput F} (h : WithinEnergy recipe meter inputs)
    (hlast : (spend (inputs.foldl spend meter) input).2 ≤ recipe.maximumContactEnergyJ) :
    WithinEnergy recipe meter (inputs ++ [input]) := by
  induction inputs generalizing meter with
  | nil => exact ⟨hlast, trivial⟩
  | cons first rest ih => exact ⟨h.1, ih h.2 hlast⟩

/-! ## §3. Contact runs. -/

/-- The sum of the positions, in the order the samples arrived. -/
def positionSum : List (RecipeInput F) → F
  | [] => Floating.lit 0.0
  | first :: rest => rest.foldl (fun sum x => sum + x.encoder.qOutputRad) first.encoder.qOutputRad

theorem positionSum_snoc {inputs : List (RecipeInput F)} {input : RecipeInput F}
    (h : inputs ≠ []) :
    positionSum (inputs ++ [input]) = positionSum inputs + input.encoder.qOutputRad := by
  obtain ⟨first, rest, rfl⟩ := List.exists_cons_of_ne_nil h
  simp [positionSum]

/-- The mean position of some samples. -/
def meanPosition (inputs : List (RecipeInput F)) : F :=
  positionSum inputs / Floating.ofNat inputs.length

/-- The samples of a dwell: the one that begins it, the one that ends it and
    those between. -/
structure ContactRun (F : Type) where
  first : RecipeInput F
  middle : List (RecipeInput F)
  last : RecipeInput F

/-- All samples of a dwell. -/
def ContactRun.samples (run : ContactRun F) : List (RecipeInput F) :=
  run.first :: run.middle ++ [run.last]

/-- The stop a dwell has found. -/
def ContactRun.mean (run : ContactRun F) : F := meanPosition run.samples

/-- Every sample of some shows contact, with travel counted from `start`. -/
def AllContact (recipe : Recipe F) (start : F) (inputs : List (RecipeInput F)) : Prop :=
  ∀ x ∈ inputs, contactEvidence recipe x
    (directionalTravel start x.encoder.qOutputRad recipe.approachDirection)

/-- A dwell with contact in every sample, enough samples and enough time. -/
structure ContactRun.Shows (recipe : Recipe F) (start : F) (run : ContactRun F) : Prop where
  contact : AllContact recipe start run.samples
  enough : recipe.minimumContactSamples.toNat ≤ run.samples.length
  spans : run.first.encoder.sampleTimeNs.toNat + recipe.contactDwellNs.toNat ≤
    run.last.encoder.sampleTimeNs.toNat

/-! ## §4. The stages of a calibration. -/

/-- Every sample of some moves within limits. -/
def AllMoving (recipe : Recipe F) (start : F) (deadline : UInt64)
    (inputs : List (RecipeInput F)) : Prop :=
  ∀ x ∈ inputs, Moving recipe start deadline x

/-- The precheck, in the start range, and the operator's go-ahead. -/
structure Opening (recipe : Recipe F) where
  precheck : RecipeInput F
  waits : List (RecipeInput F)
  ready : RecipeInput F
  precheck_resting : Resting precheck
  start_min : recipe.startMinOutputRad ≤ precheck.encoder.qOutputRad
  start_max : precheck.encoder.qOutputRad ≤ recipe.startMaxOutputRad
  waits_resting : ∀ x ∈ waits, Resting x
  ready_resting : Resting ready
  ready_deadman : ready.deadmanHeld ≠ 0
  ready_operator : ready.operatorReady ≠ 0

namespace Opening

variable {recipe : Recipe F}

def inputs (o : Opening recipe) : List (RecipeInput F) := o.precheck :: o.waits ++ [o.ready]

/-- Where the envelope starts. -/
def start (o : Opening recipe) : F := o.ready.encoder.qOutputRad

/-- The meter at the go-ahead. -/
def meter (o : Opening recipe) : Meter F := (o.ready.encoder.sampleTimeNs, Floating.lit 0.0)

/-- The deadline of the approach and of the first dwell. -/
def deadline (o : Opening recipe) : UInt64 :=
  saturatingAdd o.ready.nowNs recipe.maximumApproachTimeNs

end Opening

/-- … and the approach up to the first stop. -/
structure FirstStop (recipe : Recipe F) extends Opening recipe where
  approach : List (RecipeInput F)
  firstRun : ContactRun F
  approach_moving : AllMoving recipe toOpening.start toOpening.deadline
    (approach ++ firstRun.samples)
  first_shows : firstRun.Shows recipe toOpening.start

namespace FirstStop

variable {recipe : Recipe F}

def motion (f : FirstStop recipe) : List (RecipeInput F) := f.approach ++ f.firstRun.samples

/-- The deadline of the retreat. -/
def retreatDeadline (f : FirstStop recipe) : UInt64 :=
  saturatingAdd f.firstRun.last.nowNs recipe.maximumRetreatTimeNs

end FirstStop

/-- … and the retreat. -/
structure Retreated (recipe : Recipe F) extends FirstStop recipe where
  retreat : List (RecipeInput F)
  retreated : RecipeInput F
  retreat_moving : AllMoving recipe toOpening.start toFirstStop.retreatDeadline
    (retreat ++ [retreated])
  retreat_far : recipe.retreatDistanceRad ≤
    directionalTravel firstRun.last.encoder.qOutputRad retreated.encoder.qOutputRad
      (-recipe.approachDirection)

namespace Retreated

variable {recipe : Recipe F}

def motion (r : Retreated recipe) : List (RecipeInput F) :=
  r.toFirstStop.motion ++ (r.retreat ++ [r.retreated])

/-- Where the second approach starts. -/
def restart (r : Retreated recipe) : F := r.retreated.encoder.qOutputRad

/-- The deadline of the second approach and of the second dwell. -/
def reapproachDeadline (r : Retreated recipe) : UInt64 :=
  saturatingAdd r.retreated.nowNs recipe.maximumApproachTimeNs

end Retreated

/-- … and the second stop. -/
structure SecondStop (recipe : Recipe F) extends Retreated recipe where
  reapproach : List (RecipeInput F)
  secondRun : ContactRun F
  reapproach_moving : AllMoving recipe toOpening.start toRetreated.reapproachDeadline
    (reapproach ++ secondRun.samples)
  second_shows : secondRun.Shows recipe toRetreated.restart

/-- All samples of the motion phases. -/
def SecondStop.motion {recipe : Recipe F} (stop : SecondStop recipe) : List (RecipeInput F) :=
  stop.toRetreated.motion ++ (stop.reapproach ++ stop.secondRun.samples)

/-- … and the comparison of the two stops with the drive off. -/
structure Repeated (recipe : Recipe F) extends SecondStop recipe where
  repeatability : RecipeInput F
  repeatability_resting : Resting repeatability
  repeatability_deadman : repeatability.deadmanHeld ≠ 0
  repeatability_close : Floating.abs (secondRun.mean - firstRun.mean) ≤
    recipe.repeatabilityToleranceRad
  energy : WithinEnergy recipe toOpening.meter toSecondStop.motion

/-- The inputs up to the comparison. -/
def Repeated.inputs {recipe : Recipe F} (r : Repeated recipe) : List (RecipeInput F) :=
  r.toOpening.inputs ++ r.toSecondStop.motion ++ [r.repeatability]

/-- **The evidence of a calibration**: the whole history of inputs, read as the
    stages of the recipe up to an accepted review and whatever has followed it. -/
structure Evidence (recipe : Recipe F) (history : List (RecipeInput F)) extends
    Repeated recipe where
  reviews : List (RecipeInput F)
  accepted : RecipeInput F
  later : List (RecipeInput F)
  reviews_resting : ∀ x ∈ reviews, Resting x
  accepted_resting : Resting accepted
  accepted_decision : accepted.reviewDecision = reviewAccept
  later_resting : ∀ x ∈ later, Resting x
  later_decision : ∀ x ∈ later, x.reviewDecision ≠ reviewReject
  history_eq : history = toRepeated.inputs ++ (reviews ++ accepted :: later)
  admitted : ∀ x ∈ history, Admitted recipe x
  increasing : history.Pairwise Newer

/-! ## §5. How far a session has come. -/

/-- The meter of a session. -/
def Session.meter (s : Session F) : Meter F := (s.lastEnergyTimeNs, s.contactEnergyJ)

/-- The motion since the go-ahead has been metered, up to `now`. -/
structure Metered (recipe : Recipe F) (start : Meter F) (motion : List (RecipeInput F))
    (now : Meter F) : Prop where
  within : WithinEnergy recipe start motion
  now_eq : now = motion.foldl spend start
  running : now.1 ≠ 0

/-- Samples and accumulators of a dwell that goes on. -/
structure Touching (recipe : Recipe F) (start : F) (first : RecipeInput F)
    (more : List (RecipeInput F)) (dwellStartNs : UInt64) (contactSamples : UInt32)
    (contactSumQ : F) : Prop where
  contact : AllContact recipe start (first :: more)
  since : dwellStartNs = first.encoder.sampleTimeNs
  count : contactSamples.toNat = (first :: more).length
  sum : contactSumQ = positionSum (first :: more)

/-- The mapping that follows from the two stops. -/
structure Offers (recipe : Recipe F) (r : Repeated recipe) (a b : F) : Prop where
  a_eq : a = toDouble recipe.knownSign
  b_eq : b = recipe.stopModelRad -
    toDouble recipe.knownSign * Floating.lit 0.5 * (r.firstRun.mean + r.secondRun.mean)

/-- What a session has to show for the inputs so far. -/
def Staged (recipe : Recipe F) (inputs : List (RecipeInput F)) (s : Session F) : Prop :=
  match s.state with
  | .precheck => inputs = [] ∧ s.contactEnergyJ = Floating.lit 0.0
  | .wait =>
    s.contactEnergyJ = Floating.lit 0.0 ∧
      ∃ precheck waits, inputs = precheck :: waits ∧ Resting precheck ∧
        recipe.startMinOutputRad ≤ precheck.encoder.qOutputRad ∧
        precheck.encoder.qOutputRad ≤ recipe.startMaxOutputRad ∧ ∀ x ∈ waits, Resting x
  | .approach =>
    ∃ (o : Opening recipe) (approach : List (RecipeInput F)),
      inputs = o.inputs ++ approach ∧ AllMoving recipe o.start o.deadline approach ∧
        Metered recipe o.meter approach s.meter ∧ s.envelopeStartQ = o.start ∧
        s.phaseDeadlineNs = o.deadline
  | .contactDwell =>
    ∃ (o : Opening recipe) (approach : List (RecipeInput F)) (first : RecipeInput F)
      (more : List (RecipeInput F)),
      inputs = o.inputs ++ (approach ++ first :: more) ∧
        AllMoving recipe o.start o.deadline (approach ++ first :: more) ∧
        Touching recipe o.start first more s.dwellStartNs s.contactSamples s.contactSumQ ∧
        Metered recipe o.meter (approach ++ first :: more) s.meter ∧ s.envelopeStartQ = o.start ∧
        s.phaseDeadlineNs = o.deadline
  | .retreat =>
    ∃ (f : FirstStop recipe) (retreat : List (RecipeInput F)),
      inputs = f.toOpening.inputs ++ (f.motion ++ retreat) ∧
        AllMoving recipe f.toOpening.start f.retreatDeadline retreat ∧
        Metered recipe f.toOpening.meter (f.motion ++ retreat) s.meter ∧
        s.envelopeStartQ = f.toOpening.start ∧ s.phaseDeadlineNs = f.retreatDeadline ∧
        s.phaseStartQ = f.firstRun.last.encoder.qOutputRad ∧
        s.firstStopQ = f.firstRun.mean ∧ Floating.isFinite f.firstRun.mean = true
  | .reapproach =>
    ∃ (r : Retreated recipe) (reapproach : List (RecipeInput F)),
      inputs = r.toOpening.inputs ++ (r.motion ++ reapproach) ∧
        AllMoving recipe r.toOpening.start r.reapproachDeadline reapproach ∧
        Metered recipe r.toOpening.meter (r.motion ++ reapproach) s.meter ∧
        s.envelopeStartQ = r.toOpening.start ∧ s.phaseDeadlineNs = r.reapproachDeadline ∧
        s.phaseStartQ = r.restart ∧
        s.firstStopQ = r.firstRun.mean ∧ Floating.isFinite r.firstRun.mean = true ∧
        (s.secondContactActive = true → ∃ front first more,
          reapproach = front ++ first :: more ∧
            Touching recipe r.restart first more s.dwellStartNs s.contactSamples s.contactSumQ)
  | .repeatability =>
    ∃ stop : SecondStop recipe,
      inputs = stop.toOpening.inputs ++ stop.motion ∧
        WithinEnergy recipe stop.toOpening.meter stop.motion ∧
        s.firstStopQ = stop.firstRun.mean ∧ s.secondStopQ = stop.secondRun.mean ∧
        Floating.isFinite stop.firstRun.mean = true ∧
        Floating.isFinite stop.secondRun.mean = true
  | .candidate =>
    ∃ (r : Repeated recipe) (reviews : List (RecipeInput F)),
      inputs = r.inputs ++ reviews ∧ (∀ x ∈ reviews, Resting x) ∧
        Offers recipe r s.candidateA s.candidateB
  | .review =>
    ∃ (r : Repeated recipe) (reviews : List (RecipeInput F)) (accepted : RecipeInput F)
      (later : List (RecipeInput F)),
      inputs = r.inputs ++ (reviews ++ accepted :: later) ∧ (∀ x ∈ reviews, Resting x) ∧
        Resting accepted ∧ accepted.reviewDecision = reviewAccept ∧
        (∀ x ∈ later, Resting x) ∧ (∀ x ∈ later, x.reviewDecision ≠ reviewReject) ∧
        Offers recipe r s.candidateA s.candidateB
  | .commit | .abort => True

end OpenArm.Commission
