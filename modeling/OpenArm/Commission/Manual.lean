/-
  OpenArm.Commission.Manual — the manual calibration session.

  `ManualCalibrationSession`: samples of a resting joint at one or two
  reference angles.  An accumulator starts again when the joint moves and when
  the positions spread; a reference is finished when enough samples have
  spanned enough time.  The mapping is offered from the means.

  Main results:
    * `manual_identifies` — a candidate rests on a stable run of samples for
      each reference, and finds sign and offset as well as they were taken.
-/
import OpenArm.Lib.Transition
import OpenArm.Commission.Types

namespace OpenArm.Commission

open OpenArm.Lib
open OpenArm.Runtime (CommissionStatus)

section Source

variable {F : Type} [Floating F]

/-! ## §1. Options. -/

/-- `OA_MANUAL_*`. -/
inductive ManualState where
  | collectReference1 | collectReference2 | candidate | review | committed | aborted
  deriving DecidableEq, Repr

/-- `oa_commission_manual_options`, its header apart. -/
structure ManualOptions (F : Type) where
  side : UInt32
  joint : UInt32
  expectedRevision : UInt64
  referenceCount : UInt32
  knownSign : Int32
  minimumSamples : UInt32
  maximumSampleAgeNs : UInt64
  stabilityDwellNs : UInt64
  referenceModelRad : Fin 2 → F
  maximumPositionSpreadRad : F
  maximumAbsVelocityRadS : F
  minimumReferenceSeparationRad : F
  maximumScaleError : F
  motorSerial : TextField

/-- `valid_manual_options`. -/
def validManualOptions (o : ManualOptions F) : Bool :=
  if decide (commissionRight < o.side) || decide (7 < o.joint) || o.expectedRevision == 0 ||
      (o.referenceCount != 1 && o.referenceCount != 2) ||
      decide (o.minimumSamples < 2) || o.maximumSampleAgeNs == 0 ||
      o.stabilityDwellNs == 0 ||
      !Floating.isFinite (o.referenceModelRad 0) ||
      !Floating.isFinite (o.referenceModelRad 1) ||
      !Floating.isFinite o.maximumPositionSpreadRad ||
      !Floating.isFinite o.maximumAbsVelocityRadS ||
      !Floating.isFinite o.minimumReferenceSeparationRad ||
      !Floating.isFinite o.maximumScaleError ||
      decide (o.maximumPositionSpreadRad ≤ Floating.lit 0.0) ||
      decide (o.maximumAbsVelocityRadS ≤ Floating.lit 0.0) ||
      decide (o.minimumReferenceSeparationRad ≤ Floating.lit 0.0) ||
      decide (o.maximumScaleError < Floating.lit 0.0) ||
      decide (Floating.lit 1.0 ≤ o.maximumScaleError) ||
      !validText o.motorSerial false then false
  else if o.referenceCount == 1 then o.knownSign == -1 || o.knownSign == 1
  else decide (-1 ≤ o.knownSign) && decide (o.knownSign ≤ 1)

/-! ## §2. The accumulator. -/

/-- `SampleAccumulator`. -/
structure SampleAccumulator (F : Type) where
  count : UInt32
  firstTimeNs : UInt64
  sum : F
  minimum : F
  maximum : F

namespace SampleAccumulator

/-- `SampleAccumulator{}`. -/
def empty : SampleAccumulator F where
  count := 0
  firstTimeNs := 0
  sum := Floating.lit 0.0
  minimum := Floating.lit 0.0
  maximum := Floating.lit 0.0

/-- `reset`. -/
def reset (sample : EncoderSample F) : SampleAccumulator F where
  count := 1
  firstTimeNs := sample.sampleTimeNs
  sum := sample.qOutputRad
  minimum := sample.qOutputRad
  maximum := sample.qOutputRad

/-- `add`. -/
def add (a : SampleAccumulator F) (sample : EncoderSample F) : SampleAccumulator F :=
  if a.count = 0 then reset sample
  else
    { a with
      count := a.count + 1
      sum := a.sum + sample.qOutputRad
      minimum := Floating.min a.minimum sample.qOutputRad
      maximum := Floating.max a.maximum sample.qOutputRad }

/-- `mean`. -/
def mean (a : SampleAccumulator F) : F :=
  if a.count = 0 then Floating.lit 0.0 else a.sum / Floating.ofNat a.count.toNat

/-- `spread`. -/
def spread (a : SampleAccumulator F) : F :=
  if a.count = 0 then Floating.lit 0.0 else a.maximum - a.minimum

end SampleAccumulator

/-! ## §3. The session. -/

/-- The members of `ManualCalibrationSession`. -/
structure ManualSession (F : Type) where
  options : ManualOptions F
  accumulators : Fin 2 → SampleAccumulator F
  means : Fin 2 → F
  spreads : Fin 2 → F
  lastFeedbackSeq : UInt64
  lastSampleTimeNs : UInt64
  state : ManualState
  candidateA : F
  candidateB : F

namespace ManualSession

/-- The constructor. -/
def create (options : ManualOptions F) : ManualSession F where
  options := options
  accumulators _ := .empty
  means _ := Floating.lit 0.0
  spreads _ := Floating.lit 0.0
  lastFeedbackSeq := 0
  lastSampleTimeNs := 0
  state := .collectReference1
  candidateA := Floating.lit 0.0
  candidateB := Floating.lit 0.0

/-- `validate_sample`. -/
def validateSample (s : ManualSession F) (nowNs : UInt64) (sample : EncoderSample F) :
    CommissionStatus :=
  if !validHeader sample.structSize sample.abiVersion sizeofEncoderSample ||
      !finiteSample sample then .einval
  else if sample.feedbackSeq = 0 ∨ sample.feedbackSeq ≤ s.lastFeedbackSeq ∨
      sample.sampleTimeNs ≤ s.lastSampleTimeNs ∨ nowNs < sample.sampleTimeNs ∨
      s.options.maximumSampleAgeNs < nowNs - sample.sampleTimeNs then .estale
  else if sample.driveEnabled ≠ 0 ∨ sample.driveFault ≠ 0 then .einterlock
  else .ok

/-- `latch_abort`. -/
def latchAbort (s : ManualSession F) (status : CommissionStatus) :
    ManualSession F × CommissionStatus :=
  ({ s with
      state := .aborted
      accumulators := fun _ => .empty
      means := fun _ => Floating.lit 0.0
      spreads := fun _ => Floating.lit 0.0
      candidateA := Floating.lit 0.0
      candidateB := Floating.lit 0.0 },
    status)

/-- `sign`. -/
def observedSign (observedScale : F) : F :=
  if Floating.lit 0.0 ≤ observedScale then Floating.lit 1.0 else -Floating.lit 1.0

/-- `calculate_candidate`. -/
def calculateCandidate (s : ManualSession F) : ManualSession F × CommissionStatus :=
  let model := s.options.referenceModelRad
  if s.options.referenceCount = 1 then
    let candidateA : F := toDouble s.options.knownSign
    ({ s with
        candidateA := candidateA
        candidateB := model 0 - candidateA * s.means 0
        state := .candidate },
      .ok)
  else
    let outputDelta := s.means 1 - s.means 0
    let modelDelta := model 1 - model 0
    if Floating.abs outputDelta < s.options.minimumReferenceSeparationRad ∨
        Floating.abs modelDelta < s.options.minimumReferenceSeparationRad then (s, .elimit)
    else
      let observedScale := modelDelta / outputDelta
      let sign := observedSign observedScale
      -- `sign != known_sign`, on numbers that are never NaN
      if s.options.maximumScaleError <
            Floating.abs (Floating.abs observedScale - (Floating.lit 1.0 : F)) ∨
          s.options.knownSign ≠ 0 ∧
            (sign < toDouble s.options.knownSign ∨ toDouble s.options.knownSign < sign) then
        (s, .elimit)
      else
        let firstOffset := model 0 - sign * s.means 0
        let secondOffset := model 1 - sign * s.means 1
        ({ s with
            candidateA := sign
            candidateB := Floating.lit 0.5 * (firstOffset + secondOffset)
            state := .candidate },
          .ok)

/-- `finish_reference`. -/
def finishReference (s : ManualSession F) (reference : Fin 2) :
    ManualSession F × CommissionStatus :=
  let s :=
    { s with
      means := Function.update s.means reference (s.accumulators reference).mean
      spreads := Function.update s.spreads reference (s.accumulators reference).spread }
  if reference = 0 ∧ s.options.referenceCount = 2 then
    ({ s with state := .collectReference2 }, .ok)
  else s.calculateCandidate

/-- A sample has gone into the accumulator of its reference. -/
def accumulated (s : ManualSession F) (reference : Fin 2) (sample : EncoderSample F)
    (accumulator : SampleAccumulator F) : ManualSession F × CommissionStatus :=
  let s := { s with accumulators := Function.update s.accumulators reference accumulator }
  if accumulator.count < s.options.minimumSamples ∨
      sample.sampleTimeNs - accumulator.firstTimeNs < s.options.stabilityDwellNs then (s, .ok)
  else s.finishReference reference

/-- The second half of `sample`: a valid sample of a reference. -/
def collect (s : ManualSession F) (reference : Fin 2) (sample : EncoderSample F) :
    ManualSession F × CommissionStatus :=
  let accumulator := s.accumulators reference
  if s.options.maximumAbsVelocityRadS < Floating.abs sample.dqOutputRadS then
    ({ s with accumulators := Function.update s.accumulators reference .empty }, .eunstable)
  else if accumulator.count = 0 then s.accumulated reference sample (.reset sample)
  else if s.options.maximumPositionSpreadRad < (accumulator.add sample).spread then
    ({ s with accumulators := Function.update s.accumulators reference (.reset sample) },
      .eunstable)
  else s.accumulated reference sample (accumulator.add sample)

/-- The reference that is being collected. -/
def expectedReference (s : ManualSession F) : Option (Fin 2) :=
  match s.state with
  | .collectReference1 => some 0
  | .collectReference2 => some 1
  | _ => none

/-- `sample`. -/
def sample (s : ManualSession F) (referenceIndex : UInt32) (nowNs : UInt64)
    (sampleValue : EncoderSample F) : ManualSession F × CommissionStatus :=
  match s.expectedReference with
  | none => (s, .estate)
  | some reference =>
    if referenceIndex.toNat ≠ reference.val then (s, .estate)
    else
      let validation := s.validateSample nowNs sampleValue
      if validation ≠ .ok then s.latchAbort validation
      else
        { s with
          lastFeedbackSeq := sampleValue.feedbackSeq
          lastSampleTimeNs := sampleValue.sampleTimeNs }.collect reference sampleValue

/-- `begin_review`. -/
def beginReview (s : ManualSession F) : ManualSession F × CommissionStatus :=
  if s.state ≠ .candidate then (s, .estate) else ({ s with state := .review }, .ok)

/-- The patch of `commit`. -/
def patch (s : ManualSession F) (replacementRevision : UInt64) (evidenceRecord : TextField) :
    MappingPatch F where
  expectedRevision := s.options.expectedRevision
  replacementRevision := replacementRevision
  side := s.options.side
  joint := s.options.joint
  evidenceKind := .manualFixture
  recipeKind := 0
  qualificationRevision := 0
  fixtureRevision := 0
  a := s.candidateA
  bRad := s.candidateB
  motorSerial := copyText s.options.motorSerial
  evidenceRecord := copyText evidenceRecord

/-- `commit`: with a patch exactly when it answers `OA_COMMISSION_OK`. -/
def commit (s : ManualSession F) (replacementRevision : UInt64) (evidenceRecord : TextField) :
    ManualSession F × CommissionStatus × Option (MappingPatch F) :=
  if s.state ≠ .review then (s, .estate, none)
  else if replacementRevision ≤ s.options.expectedRevision ∨ validText evidenceRecord false = false
    then (s, .einval, none)
  else ({ s with state := .committed }, .ok, some (s.patch replacementRevision evidenceRecord))

/-- `abort`. -/
def abort (s : ManualSession F) : ManualSession F × CommissionStatus :=
  if s.state = .committed ∨ s.state = .aborted then (s, .estate)
  else
    ({ s with
        state := .aborted
        candidateA := Floating.lit 0.0
        candidateB := Floating.lit 0.0 },
      .ok)

/-- The session offers a mapping. -/
def hasCandidate (s : ManualSession F) : Bool :=
  s.state = .candidate || s.state = .review || s.state = .committed

end ManualSession

/-- A call of the session with what it answers. -/
inductive ManualEvent (F : Type) where
  | sample (referenceIndex : UInt32) (nowNs : UInt64) (sample : EncoderSample F)
      (status : CommissionStatus)
  | beginReview (status : CommissionStatus)
  | commit (replacementRevision : UInt64) (evidenceRecord : TextField)
      (status : CommissionStatus) (patch : Option (MappingPatch F))
  | abort (status : CommissionStatus)

/-- What a call does to a session. -/
inductive ManualPerforms : ManualSession F → ManualEvent F → ManualSession F → Prop where
  | sample {s s' : ManualSession F} {referenceIndex : UInt32} {nowNs : UInt64}
      {x : EncoderSample F} {status : CommissionStatus}
      (h : s.sample referenceIndex nowNs x = (s', status)) :
      ManualPerforms s (.sample referenceIndex nowNs x status) s'
  | beginReview {s s' : ManualSession F} {status : CommissionStatus}
      (h : s.beginReview = (s', status)) : ManualPerforms s (.beginReview status) s'
  | commit {s s' : ManualSession F} {replacementRevision : UInt64} {evidenceRecord : TextField}
      {status : CommissionStatus} {patch : Option (MappingPatch F)}
      (h : s.commit replacementRevision evidenceRecord = (s', status, patch)) :
      ManualPerforms s (.commit replacementRevision evidenceRecord status patch) s'
  | abort {s s' : ManualSession F} {status : CommissionStatus} (h : s.abort = (s', status)) :
      ManualPerforms s (.abort status) s'

/-- The life of a manual session, under any sequence of calls. -/
def manualSystem (options : ManualOptions F) : Lts (ManualSession F) (ManualEvent F) where
  init s := s = ManualSession.create options
  step := ManualPerforms

/-- A sample the session has taken in at a reference. -/
def ManualEvent.takenAt (reference : Fin 2) : ManualEvent F → Option (EncoderSample F)
  | .sample referenceIndex _ x status =>
    if referenceIndex.toNat = reference.val ∧
        (status = .ok ∨ status = .eunstable ∨ status = .elimit) then some x else none
  | _ => none

/-- The samples taken in at a reference, in their order. -/
def takenSamples (reference : Fin 2) (events : List (ManualEvent F)) :
    List (EncoderSample F) :=
  events.filterMap (ManualEvent.takenAt reference)

end Source

/-! ## §4. Means and signs. -/

/-- The mean position of some samples. -/
def meanOutput (samples : List (EncoderSample ℚ)) : ℚ :=
  (samples.map EncoderSample.qOutputRad).sum / samples.length

/-- Positions near a point have a mean near it. -/
theorem abs_meanOutput_sub_le {samples : List (EncoderSample ℚ)} {centre d : ℚ}
    (hne : samples ≠ []) (h : ∀ x ∈ samples, |x.qOutputRad - centre| ≤ d) :
    |meanOutput samples - centre| ≤ d := by
  have hsum : |(samples.map EncoderSample.qOutputRad).sum - samples.length * centre| ≤
      samples.length * d := by
    clear hne
    induction samples with
    | nil => simp
    | cons first rest ih =>
      have hfirst := h first (by simp)
      have hrest := ih fun x hx => h x (by simp [hx])
      rw [List.map_cons, List.sum_cons, List.length_cons]
      rw [abs_le] at hfirst hrest ⊢
      push_cast
      constructor <;> linarith [hfirst.1, hfirst.2, hrest.1, hrest.2]
  have hlength : (0 : ℚ) < samples.length := by
    exact_mod_cast List.length_pos_iff.mpr hne
  have hscale : meanOutput samples - centre =
      ((samples.map EncoderSample.qOutputRad).sum - samples.length * centre) /
        samples.length := by
    unfold meanOutput
    field_simp
  rw [hscale, abs_div, abs_of_pos hlength, div_le_iff₀ hlength]
  linarith

/-- How a mapping follows from the means. -/
structure Offered (o : ManualOptions ℚ) (means : Fin 2 → ℚ) (a b : ℚ) : Prop where
  single : o.referenceCount = 1 →
    a = toDouble o.knownSign ∧ b = o.referenceModelRad 0 - a * means 0
  double : o.referenceCount ≠ 1 →
    o.minimumReferenceSeparationRad ≤ |means 1 - means 0| ∧
    o.minimumReferenceSeparationRad ≤ |o.referenceModelRad 1 - o.referenceModelRad 0| ∧
    a = (if 0 ≤ (o.referenceModelRad 1 - o.referenceModelRad 0) / (means 1 - means 0) then 1
      else -1) ∧
    b = 1 / 2 * (o.referenceModelRad 0 - a * means 0 + (o.referenceModelRad 1 - a * means 1))

/-- **The sign of a difference survives small errors.** -/
theorem sign_of_difference {sign modelDelta outputDelta separation d : ℚ}
    (hsign : sign = 1 ∨ sign = -1) (hd : 2 * d < separation)
    (hmodel : separation ≤ |modelDelta|) (hnear : |outputDelta - sign * modelDelta| ≤ 2 * d) :
    (if 0 ≤ modelDelta / outputDelta then (1 : ℚ) else -1) = sign := by
  rw [abs_le] at hnear
  obtain hpos | hneg := le_or_gt 0 modelDelta
  · rw [abs_of_nonneg hpos] at hmodel
    obtain rfl | rfl := hsign
    · have houtput : 0 < outputDelta := by linarith
      rw [if_pos (div_nonneg hpos houtput.le)]
    · have houtput : outputDelta < 0 := by linarith
      rw [if_neg (not_le.mpr (div_neg_of_pos_of_neg (by linarith) houtput))]
  · rw [abs_of_neg hneg] at hmodel
    obtain rfl | rfl := hsign
    · have houtput : outputDelta < 0 := by linarith
      rw [if_pos (div_nonneg_of_nonpos hneg.le houtput.le)]
    · have houtput : 0 < outputDelta := by linarith
      rw [if_neg (not_le.mpr (div_neg_of_neg_of_pos hneg houtput))]

/-- **Means near the true positions give the true sign and a near offset.** -/
theorem offered_identifies {o : ManualOptions ℚ} {means : Fin 2 → ℚ} {a b sign offset d : ℚ}
    (h : Offered o means a b) (hsign : sign = 1 ∨ sign = -1)
    (hd : 2 * d < o.minimumReferenceSeparationRad)
    (hknown : o.referenceCount = 1 → toDouble o.knownSign = sign)
    (hnear : ∀ i : Fin 2, i = 0 ∨ o.referenceCount ≠ 1 →
      |means i - (o.referenceModelRad i - offset) / sign| ≤ d) :
    a = sign ∧ |b - offset| ≤ d := by
  have hsquare : sign * sign = 1 := by
    obtain rfl | rfl := hsign <;> norm_num
  have hdivide : ∀ x : ℚ, x / sign = sign * x := by
    intro x
    obtain rfl | rfl := hsign <;> ring
  have hsame : ∀ x : ℚ, |sign * x| = |x| := by
    intro x
    obtain rfl | rfl := hsign
    · rw [one_mul]
    · rw [neg_one_mul, abs_neg]
  have hfirst := hnear 0 (.inl rfl)
  rw [hdivide] at hfirst
  by_cases hcount : o.referenceCount = 1
  · obtain ⟨rfl, rfl⟩ := h.single hcount
    rw [hknown hcount]
    refine ⟨rfl, ?_⟩
    have herror : o.referenceModelRad 0 - sign * means 0 - offset =
        sign * -(means 0 - sign * (o.referenceModelRad 0 - offset)) := by
      linear_combination (offset - o.referenceModelRad 0) * hsquare
    rw [herror, hsame, abs_neg]
    exact hfirst
  · obtain ⟨-, hmodel, ha, hb⟩ := h.double hcount
    have hsecond := hnear 1 (.inr hcount)
    rw [hdivide] at hsecond
    have hdelta : |means 1 - means 0 -
        sign * (o.referenceModelRad 1 - o.referenceModelRad 0)| ≤ 2 * d := by
      rw [abs_le] at hfirst hsecond ⊢
      constructor <;> linarith [hfirst.1, hfirst.2, hsecond.1, hsecond.2]
    rw [sign_of_difference hsign hd hmodel hdelta] at ha
    refine ⟨ha, ?_⟩
    have herror : b - offset = sign * -(1 / 2 * (means 0 - sign * (o.referenceModelRad 0 - offset) +
        (means 1 - sign * (o.referenceModelRad 1 - offset)))) := by
      rw [hb, ha]
      linear_combination (offset - 1 / 2 * (o.referenceModelRad 0 + o.referenceModelRad 1)) * hsquare
    rw [herror, hsame, abs_neg]
    rw [abs_le] at hfirst hsecond ⊢
    constructor <;> linarith [hfirst.1, hfirst.2, hsecond.1, hsecond.2]

/-- What the calculation leaves. -/
theorem calculateCandidate_spec (s : ManualSession ℚ) :
    s.calculateCandidate = (s, .elimit) ∨
      ∃ a b, s.calculateCandidate =
          ({ s with candidateA := a, candidateB := b, state := .candidate }, .ok) ∧
        Offered s.options s.means a b := by
  unfold ManualSession.calculateCandidate
  dsimp only
  split
  · next hcount =>
    exact .inr ⟨_, _, rfl, ⟨fun _ => ⟨rfl, rfl⟩, fun hne => absurd hcount hne⟩⟩
  · next hcount =>
    split
    · exact .inl rfl
    · next hseparated =>
      split
      · exact .inl rfl
      · rw [not_or, not_lt, not_lt] at hseparated
        refine .inr ⟨_, _, rfl, ⟨fun hone => absurd hone hcount, fun _ =>
          ⟨hseparated.1, hseparated.2, ?_, ?_⟩⟩⟩
        · unfold ManualSession.observedSign
          simp only [show ∀ q : ℚ, (Floating.lit q : ℚ) = q from fun _ => rfl]
          norm_num
        · simp only [show ∀ q : ℚ, (Floating.lit q : ℚ) = q from fun _ => rfl]
          norm_num

/-! ## §5. Stable runs of samples. -/

/-- The later of two samples. -/
def LaterSample (x y : EncoderSample ℚ) : Prop :=
  x.feedbackSeq < y.feedbackSeq ∧ x.sampleTimeNs < y.sampleTimeNs

/-- A sample of a joint at rest with its drive off. -/
structure Still (o : ManualOptions ℚ) (x : EncoderSample ℚ) : Prop where
  driveDisabled : x.driveEnabled = 0
  healthy : x.driveFault = 0
  velocity : |x.dqOutputRadS| ≤ o.maximumAbsVelocityRadS

/-- **Enough samples at rest, close together, over enough time.** -/
structure StableRun (o : ManualOptions ℚ) (run : List (EncoderSample ℚ)) : Prop where
  enough : o.minimumSamples.toNat ≤ run.length
  increasing : run.Pairwise LaterSample
  still : ∀ x ∈ run, Still o x
  spread : ∀ x ∈ run, ∀ y ∈ run, x.qOutputRad - y.qOutputRad ≤ o.maximumPositionSpreadRad
  spans : ∃ first ∈ run.head?, ∃ last ∈ run.getLast?,
    first.sampleTimeNs.toNat + o.stabilityDwellNs.toNat ≤ last.sampleTimeNs.toNat

/-- The samples an accumulator has gathered since it last started. -/
structure Accumulated (o : ManualOptions ℚ) (a : SampleAccumulator ℚ)
    (run : List (EncoderSample ℚ)) : Prop where
  count_eq : a.count.toNat = run.length
  since : ∃ first ∈ run.head?, a.firstTimeNs = first.sampleTimeNs
  sum_eq : a.sum = (run.map EncoderSample.qOutputRad).sum
  low : ∀ x ∈ run, a.minimum ≤ x.qOutputRad
  high : ∀ x ∈ run, x.qOutputRad ≤ a.maximum
  spread : a.maximum - a.minimum ≤ o.maximumPositionSpreadRad
  still : ∀ x ∈ run, Still o x
  increasing : run.Pairwise LaterSample

section Runs

variable {o : ManualOptions ℚ} {a : SampleAccumulator ℚ} {run : List (EncoderSample ℚ)}
  {x : EncoderSample ℚ}

theorem Accumulated.begin (hspread : 0 ≤ o.maximumPositionSpreadRad) (hstill : Still o x) :
    Accumulated o (.reset x) [x] where
  count_eq := rfl
  since := ⟨x, rfl, rfl⟩
  sum_eq := by simp [SampleAccumulator.reset]
  low y hy := by
    obtain rfl := List.mem_singleton.mp hy
    exact le_refl y.qOutputRad
  high y hy := by
    obtain rfl := List.mem_singleton.mp hy
    exact le_refl y.qOutputRad
  spread := by
    show x.qOutputRad - x.qOutputRad ≤ _
    rw [sub_self]
    exact hspread
  still y hy := (List.mem_singleton.mp hy) ▸ hstill
  increasing := List.pairwise_singleton _ _

/-- **One more sample**, as long as the counter holds and the positions stay
    together. -/
theorem Accumulated.snoc (h : Accumulated o a run) (hrunning : a.count ≠ 0)
    (hcount : (a.add x).count ≠ 0)
    (hspread : ¬ o.maximumPositionSpreadRad < (a.add x).spread) (hstill : Still o x)
    (hlater : ∀ y ∈ run, LaterSample y x) : Accumulated o (a.add x) (run ++ [x]) := by
  have hadd : a.add x =
      { a with
        count := a.count + 1
        sum := a.sum + x.qOutputRad
        minimum := Floating.min a.minimum x.qOutputRad
        maximum := Floating.max a.maximum x.qOutputRad } := if_neg hrunning
  have hmin : Floating.min a.minimum x.qOutputRad = min a.minimum x.qOutputRad := by
    unfold Floating.min
    split
    · next hlt => rw [min_eq_right (le_of_lt hlt)]
    · next hnot => rw [min_eq_left (not_lt.mp hnot)]
  have hmax : Floating.max a.maximum x.qOutputRad = max a.maximum x.qOutputRad := by
    unfold Floating.max
    split
    · next hlt => rw [max_eq_right (le_of_lt hlt)]
    · next hnot => rw [max_eq_left (not_lt.mp hnot)]
  unfold SampleAccumulator.spread at hspread
  rw [if_neg hcount] at hspread
  rw [hadd, hmin, hmax] at hspread hcount ⊢
  have hnat : (a.count + 1).toNat = a.count.toNat + 1 := by
    rw [UInt32.toNat_add] at *
    have hzero : (a.count + 1).toNat ≠ 0 := fun hzero => hcount (UInt32.toNat_inj.mp hzero)
    have hlt := a.count.toNat_lt
    rw [UInt32.toNat_add] at hzero
    simp only [UInt32.reduceToNat] at hzero ⊢
    omega
  refine ⟨?_, ?_, ?_, ?_, ?_, not_lt.mp hspread, ?_, ?_⟩
  · show (a.count + 1).toNat = _
    rw [hnat, h.count_eq, List.length_append, List.length_singleton]
  · obtain ⟨first, hfirst, htime⟩ := h.since
    exact ⟨first, by rw [List.head?_append, hfirst]; rfl, htime⟩
  · show a.sum + x.qOutputRad = _
    rw [h.sum_eq]
    simp
  · intro y hy
    obtain hy | hy := List.mem_append.mp hy
    · exact le_trans (min_le_left _ _) (h.low y hy)
    · obtain rfl := List.mem_singleton.mp hy
      exact min_le_right _ _
  · intro y hy
    obtain hy | hy := List.mem_append.mp hy
    · exact le_trans (h.high y hy) (le_max_left _ _)
    · obtain rfl := List.mem_singleton.mp hy
      exact le_max_right _ _
  · intro y hy
    obtain hy | hy := List.mem_append.mp hy
    · exact h.still y hy
    · exact (List.mem_singleton.mp hy) ▸ hstill
  · rw [List.pairwise_append]
    refine ⟨h.increasing, List.pairwise_singleton _ _, fun y hy z hz => ?_⟩
    obtain rfl := List.mem_singleton.mp hz
    exact hlater y hy

/-- **An accumulator with enough samples over enough time holds a stable run**
    and its mean. -/
theorem Accumulated.stable (h : Accumulated o a run) (hlast : x ∈ run.getLast?)
    (henough : ¬ a.count < o.minimumSamples) (hminimum : o.minimumSamples ≠ 0)
    (hdwelt : ¬ x.sampleTimeNs - a.firstTimeNs < o.stabilityDwellNs) :
    StableRun o run ∧ a.mean = meanOutput run := by
  have hlength : o.minimumSamples.toNat ≤ run.length := by
    rw [← h.count_eq]
    exact UInt32.le_iff_toNat_le.mp (UInt32.not_lt.mp henough)
  have hcount : a.count ≠ 0 := by
    intro hzero
    rw [hzero] at henough
    exact henough (UInt32.pos_iff_ne_zero.mpr hminimum)
  constructor
  · refine ⟨hlength, h.increasing, h.still, fun y hy z hz => ?_, ?_⟩
    · linarith [h.high y hy, h.low z hz, h.spread]
    · obtain ⟨first, hfirst, htime⟩ := h.since
      refine ⟨first, hfirst, x, hlast, ?_⟩
      have hle : first.sampleTimeNs ≤ x.sampleTimeNs := by
        obtain ⟨rest, rfl⟩ := List.head?_eq_some_iff.mp hfirst
        obtain rfl | hrest := List.mem_cons.mp (List.mem_of_getLast? hlast)
        · exact UInt64.le_refl _
        · exact UInt64.le_of_lt ((List.pairwise_cons.mp h.increasing).1 x hrest).2
      have hspan := UInt64.le_iff_toNat_le.mp (UInt64.not_lt.mp hdwelt)
      rw [htime, UInt64.toNat_sub_of_le _ _ hle] at hspan
      have hnat := UInt64.le_iff_toNat_le.mp hle
      omega
  · unfold SampleAccumulator.mean meanOutput
    rw [if_neg hcount, h.sum_eq, h.count_eq]
    rfl

end Runs

/-! ## §6. What a session holds. -/

/-- What an accumulator holds of the samples taken in at its reference. -/
def Holding (o : ManualOptions ℚ) (taken : List (EncoderSample ℚ))
    (a : SampleAccumulator ℚ) : Prop :=
  a.count ≠ 0 → ∃ run, run <:+ taken ∧ Accumulated o a run

/-- A stable run of consecutive samples has been averaged. -/
def Finished (o : ManualOptions ℚ) (taken : List (EncoderSample ℚ)) (mean : ℚ) : Prop :=
  ∃ run, run <:+: taken ∧ StableRun o run ∧ mean = meanOutput run

/-- What a session has to show in each of its states. -/
def ManualStaged (o : ManualOptions ℚ) (taken : Fin 2 → List (EncoderSample ℚ))
    (s : ManualSession ℚ) : Prop :=
  match s.state with
  | .collectReference1 => ∀ i, Holding o (taken i) (s.accumulators i)
  | .collectReference2 =>
    o.referenceCount ≠ 1 ∧ Finished o (taken 0) (s.means 0) ∧
      ∀ i, Holding o (taken i) (s.accumulators i)
  | .candidate | .review | .committed =>
    (∀ i : Fin 2, i = 0 ∨ o.referenceCount ≠ 1 → Finished o (taken i) (s.means i)) ∧
      Offered o s.means s.candidateA s.candidateB
  | .aborted => True

/-- The reading of a session and of the samples it has taken in. -/
structure ManualCarried (o : ManualOptions ℚ) (taken : Fin 2 → List (EncoderSample ℚ))
    (s : ManualSession ℚ) : Prop where
  options_eq : s.options = o
  staged : ManualStaged o taken s
  newest : s.state ≠ .aborted → ∀ i, ∀ x ∈ taken i,
    x.feedbackSeq ≤ s.lastFeedbackSeq ∧ x.sampleTimeNs ≤ s.lastSampleTimeNs

theorem Finished.mono {o : ManualOptions ℚ} {taken more : List (EncoderSample ℚ)} {mean : ℚ}
    (h : Finished o taken mean) : Finished o (taken ++ more) mean := by
  obtain ⟨run, hrun, hstable⟩ := h
  exact ⟨run, hrun.trans (List.prefix_append taken more).isInfix, hstable⟩

/-- What the checks of the options leave. -/
theorem options_of_valid {o : ManualOptions ℚ} (h : validManualOptions o = true) :
    2 ≤ o.minimumSamples ∧ (o.referenceCount = 1 ∨ o.referenceCount = 2) ∧
      0 < o.maximumPositionSpreadRad ∧ 0 < o.minimumReferenceSeparationRad := by
  unfold validManualOptions at h
  split at h
  · cases h
  · next hgood =>
    simp only [Bool.or_eq_true, not_or, decide_eq_true_eq, UInt32.not_lt, not_le] at hgood
    obtain ⟨⟨⟨⟨⟨⟨hleft, hspread⟩, -⟩, hseparation⟩, -⟩, -⟩, -⟩ := hgood
    obtain ⟨⟨⟨⟨⟨⟨⟨⟨⟨⟨-, hcount⟩, hminimum⟩, -⟩, -⟩, -⟩, -⟩, -⟩, -⟩, -⟩, -⟩ := hleft
    have hzero : (Floating.lit 0.0 : ℚ) = 0 := by
      show (0.0 : ℚ) = 0
      norm_num
    rw [hzero] at hspread hseparation
    refine ⟨hminimum, ?_, hspread, hseparation⟩
    by_contra hneither
    rw [not_or] at hneither
    exact hcount (by simp [hneither.1, hneither.2])

/-- A sample that passes the checks. -/
theorem validateSample_ok {s : ManualSession ℚ} {nowNs : UInt64} {x : EncoderSample ℚ}
    (h : s.validateSample nowNs x = .ok) :
    s.lastFeedbackSeq < x.feedbackSeq ∧ s.lastSampleTimeNs < x.sampleTimeNs ∧
      x.driveEnabled = 0 ∧ x.driveFault = 0 := by
  unfold ManualSession.validateSample at h
  split at h
  · cases h
  · split at h
    · cases h
    · next hfresh =>
      split at h
      · cases h
      · next hdrive =>
        simp only [not_or, UInt64.not_le] at hfresh
        obtain ⟨-, hseq, htime, -⟩ := hfresh
        obtain ⟨henabled, hfault⟩ := not_or.mp hdrive
        exact ⟨hseq, htime, not_not.mp henabled, not_not.mp hfault⟩

section Collecting

variable {o : ManualOptions ℚ} {taken : Fin 2 → List (EncoderSample ℚ)} {s : ManualSession ℚ}
  {x : EncoderSample ℚ} {i : Fin 2}

/-- The samples, with one more at a reference. -/
abbrev takenMore (taken : Fin 2 → List (EncoderSample ℚ)) (i : Fin 2) (x : EncoderSample ℚ) :
    Fin 2 → List (EncoderSample ℚ) :=
  Function.update taken i (taken i ++ [x])

theorem takenMore_self : takenMore taken i x i = taken i ++ [x] := Function.update_self ..

theorem takenMore_of_ne {j : Fin 2} (h : j ≠ i) : takenMore taken i x j = taken j :=
  Function.update_of_ne h ..

/-- What the session is to show for one more sample at a reference. -/
def Collected (o : ManualOptions ℚ) (taken : Fin 2 → List (EncoderSample ℚ))
    (s : ManualSession ℚ) (after : ManualSession ℚ × CommissionStatus) : Prop :=
  ManualStaged o taken after.1 ∧ after.1.options = o ∧
    after.1.lastFeedbackSeq = s.lastFeedbackSeq ∧
    after.1.lastSampleTimeNs = s.lastSampleTimeNs ∧
    (after.2 = .ok ∨ after.2 = .eunstable ∨ after.2 = .elimit)

/-- A session that is collecting holds its accumulators. -/
theorem holding_of_staged (h : ManualStaged o taken s) (hstate : s.expectedReference = some i)
    (j : Fin 2) : Holding o (taken j) (s.accumulators j) := by
  unfold ManualStaged at h
  unfold ManualSession.expectedReference at hstate
  split at hstate
  · next hcollect =>
    rw [hcollect] at h
    exact h j
  · next hcollect =>
    rw [hcollect] at h
    exact h.2.2 j
  · cases hstate

/-- **A finished reference** leads on, to a candidate, or leaves the session collecting. -/
theorem finishReference_spec (hvalid : validManualOptions o = true)
    (hstate : s.expectedReference = some i) (hoptions : s.options = o)
    (h : ManualStaged o taken s) (hfinished : Finished o (taken i) (s.accumulators i).mean) :
    Collected o taken s (s.finishReference i) := by
  have hholding := holding_of_staged h hstate
  have hcounts := (options_of_valid hvalid).2.1
  unfold ManualSession.finishReference
  extract_lets t
  have htoptions : t.options = o := hoptions
  split
  · next hfirst =>
    obtain ⟨rfl, htwo⟩ := hfirst
    refine ⟨⟨?_, ?_, hholding⟩, hoptions, rfl, rfl, .inl rfl⟩
    · rw [← htoptions, htwo]
      decide
    · show Finished o (taken 0) (Function.update s.means 0 (s.accumulators 0).mean 0)
      rw [Function.update_self]
      exact hfinished
  · next hlast =>
    rw [htoptions, not_and] at hlast
    -- every reference the candidate needs is finished
    have hall : ∀ j : Fin 2, j = 0 ∨ o.referenceCount ≠ 1 → Finished o (taken j) (t.means j) := by
      intro j hj
      by_cases hsame : j = i
      · subst hsame
        show Finished o (taken j) (Function.update s.means j (s.accumulators j).mean j)
        rw [Function.update_self]
        exact hfinished
      · show Finished o (taken j) (Function.update s.means i (s.accumulators i).mean j)
        rw [Function.update_of_ne hsame]
        unfold ManualSession.expectedReference at hstate
        unfold ManualStaged at h
        split at hstate
        · obtain rfl := Option.some.inj hstate
          have hone := hcounts.resolve_right (hlast rfl)
          exact absurd (hj.resolve_right (not_not.mpr hone)) hsame
        · next hcollect =>
          obtain rfl := Option.some.inj hstate
          rw [hcollect] at h
          obtain rfl : j = 0 := by omega
          exact h.2.1
        · cases hstate
    obtain helimit | ⟨a, b, hcandidate, hoffered⟩ := calculateCandidate_spec t
    · rw [helimit]
      refine ⟨?_, hoptions, rfl, rfl, .inr (.inr rfl)⟩
      unfold ManualSession.expectedReference at hstate
      unfold ManualStaged at h ⊢
      split at hstate
      · next hcollect =>
        rw [show t.state = _ from hcollect]
        exact hholding
      · next hcollect =>
        rw [hcollect] at h
        rw [show t.state = _ from hcollect]
        exact ⟨h.1, hall 0 (.inl rfl), hholding⟩
      · cases hstate
    · rw [hcandidate]
      refine ⟨⟨hall, ?_⟩, hoptions, rfl, rfl, .inl rfl⟩
      rw [← htoptions]
      exact hoffered

/-- Accumulators and samples may grow while a session collects. -/
theorem staged_accumulators {more : Fin 2 → List (EncoderSample ℚ)}
    {accumulators : Fin 2 → SampleAccumulator ℚ} (hstate : s.expectedReference = some i)
    (h : ManualStaged o taken s) (hgrow : ∀ j, ∃ rest, more j = taken j ++ rest)
    (hholding : ∀ j, Holding o (more j) (accumulators j)) :
    ManualStaged o more { s with accumulators } := by
  unfold ManualSession.expectedReference at hstate
  unfold ManualStaged at h ⊢
  split at hstate
  · next hcollect =>
    rw [show ({ s with accumulators } : ManualSession ℚ).state = _ from hcollect]
    exact hholding
  · next hcollect =>
    rw [hcollect] at h
    rw [show ({ s with accumulators } : ManualSession ℚ).state = _ from hcollect]
    obtain ⟨rest, hrest⟩ := hgrow 0
    refine ⟨h.1, ?_, hholding⟩
    rw [hrest]
    exact h.2.1.mono
  · cases hstate

/-- … in the accumulator of the reference. -/
theorem staged_replaced {a : SampleAccumulator ℚ} (hstate : s.expectedReference = some i)
    (h : ManualStaged o taken s) (hholding : Holding o (taken i ++ [x]) a) :
    ManualStaged o (takenMore taken i x)
      { s with accumulators := Function.update s.accumulators i a } := by
  have hbefore := holding_of_staged h hstate
  refine staged_accumulators hstate h (fun j => ?_) fun j => ?_
  · by_cases hsame : j = i
    · subst hsame
      exact ⟨[x], takenMore_self⟩
    · exact ⟨[], by rw [takenMore_of_ne hsame, List.append_nil]⟩
  · by_cases hsame : j = i
    · subst hsame
      rw [takenMore_self, Function.update_self]
      exact hholding
    · rw [takenMore_of_ne hsame, Function.update_of_ne hsame]
      exact hbefore j

/-- **A sample that has been accumulated**: the run goes on, or ends a reference. -/
theorem accumulated_spec {a : SampleAccumulator ℚ} (hvalid : validManualOptions o = true)
    (hstate : s.expectedReference = some i) (hoptions : s.options = o)
    (h : ManualStaged o taken s) (hholding : Holding o (taken i ++ [x]) a) :
    Collected o (takenMore taken i x) s (s.accumulated i x a) := by
  have hstaged := staged_replaced hstate h hholding
  unfold ManualSession.accumulated
  extract_lets t
  have htoptions : t.options = o := hoptions
  split
  · exact ⟨hstaged, hoptions, rfl, rfl, .inl rfl⟩
  · next henough =>
    rw [not_or, htoptions] at henough
    have hminimum := (options_of_valid hvalid).1
    have hpositive : o.minimumSamples ≠ 0 := by
      intro hzero
      rw [hzero] at hminimum
      exact absurd hminimum (by decide)
    have hcount : a.count ≠ 0 := by
      intro hzero
      rw [hzero] at henough
      exact henough.1 (UInt32.pos_iff_ne_zero.mpr hpositive)
    obtain ⟨run, hsuffix, haccumulated⟩ := hholding hcount
    have hlast : x ∈ run.getLast? := by
      obtain ⟨first, hfirst, -⟩ := haccumulated.since
      have hne : run ≠ [] := by
        rintro rfl
        cases hfirst
      rw [Option.mem_def, List.getLast?_eq_some_getLast hne, hsuffix.getLast hne]
      simp
    obtain ⟨hstable, hmean⟩ := haccumulated.stable hlast henough.1 hpositive henough.2
    refine finishReference_spec hvalid (show t.expectedReference = some i from hstate) hoptions hstaged ?_
    rw [takenMore_self, show t.accumulators i = a from Function.update_self ..]
    exact ⟨run, hsuffix.isInfix, hstable, hmean⟩

/-- **A valid sample at the reference that is being collected.** -/
theorem collect_spec (hvalid : validManualOptions o = true)
    (hstate : s.expectedReference = some i) (hoptions : s.options = o)
    (h : ManualStaged o taken s) (hdisabled : x.driveEnabled = 0) (hhealthy : x.driveFault = 0)
    (hlater : ∀ y ∈ taken i, LaterSample y x) :
    Collected o (takenMore taken i x) s (s.collect i x) := by
  have hspreads := le_of_lt (options_of_valid hvalid).2.2.1
  have hbefore := holding_of_staged h hstate
  unfold ManualSession.collect
  dsimp only
  split
  · exact ⟨staged_replaced hstate h fun hne => absurd rfl hne, hoptions, rfl, rfl, .inr (.inl rfl)⟩
  · next hslow =>
    rw [hoptions] at hslow
    have hstill : Still o x := ⟨hdisabled, hhealthy, not_lt.mp hslow⟩
    have hreset : Holding o (taken i ++ [x]) (.reset x) :=
      fun _ => ⟨[x], List.suffix_append _ _, .begin hspreads hstill⟩
    split
    · exact accumulated_spec hvalid hstate hoptions h hreset
    · next hrunning =>
      split
      · exact ⟨staged_replaced hstate h hreset, hoptions, rfl, rfl, .inr (.inl rfl)⟩
      · next hspread =>
        rw [hoptions] at hspread
        refine accumulated_spec hvalid hstate hoptions h fun hcount => ?_
        obtain ⟨run, hsuffix, haccumulated⟩ := hbefore i hrunning
        exact ⟨run ++ [x], List.suffix_append_self_iff.mpr hsuffix, haccumulated.snoc hrunning
          hcount hspread hstill fun y hy => hlater y (hsuffix.subset hy)⟩

end Collecting

/-! ## §7. Every run. -/

section Runs

variable {o : ManualOptions ℚ} {events : List (ManualEvent ℚ)} {s t : ManualSession ℚ}
  {e : ManualEvent ℚ}

theorem takenSamples_append (i : Fin 2) (events : List (ManualEvent ℚ)) (e : ManualEvent ℚ) :
    takenSamples i (events ++ [e]) = takenSamples i events ++ (e.takenAt i).toList := by
  unfold takenSamples
  rw [List.filterMap_append]
  cases h : e.takenAt i <;> simp [h]

/-- A call that takes in no sample. -/
theorem ManualCarried.same (h : ManualCarried o (fun i => takenSamples i events) s)
    (he : ∀ i, e.takenAt i = none) :
    ManualCarried o (fun i => takenSamples i (events ++ [e])) s := by
  have hsame : (fun i => takenSamples i (events ++ [e])) = fun i => takenSamples i events := by
    funext i
    rw [takenSamples_append, he i]
    exact List.append_nil _
  rw [hsame]
  exact h

theorem manualCarried_create (o : ManualOptions ℚ) :
    ManualCarried o (fun i => takenSamples i []) (ManualSession.create o) where
  options_eq := rfl
  staged _ hne := absurd rfl hne
  newest _ _ _ hx := by cases hx

/-- An aborted session has nothing to show. -/
theorem manualCarried_aborted {taken : Fin 2 → List (EncoderSample ℚ)} (hoptions : t.options = o)
    (hstate : t.state = .aborted) : ManualCarried o taken t where
  options_eq := hoptions
  staged := by
    unfold ManualStaged
    rw [hstate]
    trivial
  newest h := absurd hstate h

/-- **One more sample.** -/
theorem manualCarried_sample (hvalid : validManualOptions o = true)
    (h : ManualCarried o (fun i => takenSamples i events) s) {referenceIndex : UInt32}
    {nowNs : UInt64} {x : EncoderSample ℚ} {status : CommissionStatus}
    (hsample : s.sample referenceIndex nowNs x = (t, status)) :
    ManualCarried o
      (fun i => takenSamples i (events ++ [.sample referenceIndex nowNs x status])) t := by
  have hidle : status = .estate → ∀ i,
      (ManualEvent.sample referenceIndex nowNs x status).takenAt i = none := by
    rintro rfl i
    exact if_neg (by simp)
  unfold ManualSession.sample at hsample
  split at hsample
  · cases hsample
    exact h.same (hidle rfl)
  · next i hstate =>
    split at hsample
    · cases hsample
      exact h.same (hidle rfl)
    · next hindex =>
      dsimp only at hsample
      split at hsample
      · cases hsample
        exact manualCarried_aborted h.options_eq rfl
      · next hok =>
        obtain ⟨hseq, htime, hdisabled, hhealthy⟩ := validateSample_ok (not_not.mp hok)
        have hopen : s.state ≠ .aborted := by
          intro haborted
          unfold ManualSession.expectedReference at hstate
          rw [haborted] at hstate
          cases hstate
        have hlater : ∀ j, ∀ y ∈ takenSamples j events, LaterSample y x := by
          intro j y hy
          obtain ⟨hy, hy'⟩ := h.newest hopen j y hy
          exact ⟨UInt64.lt_of_le_of_lt hy hseq, UInt64.lt_of_le_of_lt hy' htime⟩
        -- the session has only taken note of the sample
        let noted : ManualSession ℚ :=
          { s with lastFeedbackSeq := x.feedbackSeq, lastSampleTimeNs := x.sampleTimeNs }
        have hcollected : Collected o (takenMore (fun i => takenSamples i events) i x) noted
            (noted.collect i x) :=
          collect_spec hvalid hstate h.options_eq h.staged hdisabled hhealthy (hlater i)
        rw [show noted.collect i x = (t, status) from hsample] at hcollected
        obtain ⟨hstaged, hoptions, hlastSeq, hlastTime, hstatus⟩ := hcollected
        have htaken : (fun j => takenSamples j (events ++ [.sample referenceIndex nowNs x status])) =
            takenMore (fun i => takenSamples i events) i x := by
          funext j
          rw [takenSamples_append]
          by_cases hsame : j = i
          · subst hsame
            rw [takenMore_self, show (ManualEvent.sample referenceIndex nowNs x status).takenAt j =
              some x from if_pos ⟨not_not.mp hindex, hstatus⟩]
            rfl
          · rw [takenMore_of_ne hsame, show (ManualEvent.sample referenceIndex nowNs x
              status).takenAt j = none from if_neg fun hboth => hsame (Fin.ext
                (hboth.1.symm.trans (not_not.mp hindex)))]
            exact List.append_nil _
        rw [htaken]
        refine ⟨hoptions, hstaged, fun _ j y hy => ?_⟩
        rw [hlastSeq, hlastTime]
        show y.feedbackSeq ≤ x.feedbackSeq ∧ y.sampleTimeNs ≤ x.sampleTimeNs
        by_cases hsame : j = i
        · subst hsame
          rw [takenMore_self] at hy
          obtain hy | hy := List.mem_append.mp hy
          · exact ⟨UInt64.le_of_lt (hlater j y hy).1, UInt64.le_of_lt (hlater j y hy).2⟩
          · obtain rfl := List.mem_singleton.mp hy
            exact ⟨UInt64.le_refl _, UInt64.le_refl _⟩
        · rw [takenMore_of_ne hsame] at hy
          exact ⟨UInt64.le_of_lt (hlater j y hy).1, UInt64.le_of_lt (hlater j y hy).2⟩

/-- **Every call keeps the reading.** -/
theorem manualCarried_performs (hvalid : validManualOptions o = true)
    (h : ManualCarried o (fun i => takenSamples i events) s) (hstep : ManualPerforms s e t) :
    ManualCarried o (fun i => takenSamples i (events ++ [e])) t := by
  cases hstep with
  | sample heq => exact manualCarried_sample hvalid h heq
  | beginReview heq =>
    unfold ManualSession.beginReview at heq
    split at heq
    · cases heq
      exact h.same fun _ => rfl
    · next hcandidate =>
      cases heq
      refine ManualCarried.same ⟨h.options_eq, ?_, fun _ => h.newest ?_⟩ fun _ => rfl
      · have hstaged := h.staged
        unfold ManualStaged at hstaged
        rw [not_not.mp hcandidate] at hstaged
        exact hstaged
      · rw [not_not.mp hcandidate]
        decide
  | commit heq =>
    unfold ManualSession.commit at heq
    split at heq
    · cases heq
      exact h.same fun _ => rfl
    · next hreview =>
      split at heq
      · cases heq
        exact h.same fun _ => rfl
      · cases heq
        refine ManualCarried.same ⟨h.options_eq, ?_, fun _ => h.newest ?_⟩ fun _ => rfl
        · have hstaged := h.staged
          unfold ManualStaged at hstaged
          rw [not_not.mp hreview] at hstaged
          exact hstaged
        · rw [not_not.mp hreview]
          decide
  | abort heq =>
    unfold ManualSession.abort at heq
    split at heq
    · cases heq
      exact h.same fun _ => rfl
    · cases heq
      exact manualCarried_aborted h.options_eq rfl

theorem manualCarried_run (hvalid : validManualOptions o = true)
    (hrun : (manualSystem o).Run (ManualSession.create o) events s) :
    ManualCarried o (fun i => takenSamples i events) s := by
  induction hrun with
  | nil => exact manualCarried_create o
  | snoc front last ih => exact manualCarried_performs hvalid ih last

/-- **A candidate rests on stable runs of consecutive samples**, and finds the
    true sign, and the offset as closely as the samples were taken. -/
theorem manual_identifies (hvalid : validManualOptions o = true)
    (hrun : (manualSystem o).Run (ManualSession.create o) events s)
    (hcandidate : s.hasCandidate = true) :
    ∃ run : Fin 2 → List (EncoderSample ℚ),
      (∀ i : Fin 2, i.val < o.referenceCount.toNat →
        run i <:+: takenSamples i events ∧ StableRun o (run i) ∧
          s.means i = meanOutput (run i)) ∧
      ∀ sign offset d : ℚ, (sign = 1 ∨ sign = -1) →
        2 * d < o.minimumReferenceSeparationRad →
        (∀ i : Fin 2, i.val < o.referenceCount.toNat → ∀ x ∈ run i,
          |x.qOutputRad - (o.referenceModelRad i - offset) / sign| ≤ d) →
        (o.referenceCount = 1 → toDouble o.knownSign = sign) →
        s.candidateA = sign ∧ |s.candidateB - offset| ≤ d := by
  have hstaged := (manualCarried_run hvalid hrun).staged
  obtain ⟨hminimum, hcounts, -⟩ := options_of_valid hvalid
  have hshown : (∀ i : Fin 2, i = 0 ∨ o.referenceCount ≠ 1 →
      Finished o (takenSamples i events) (s.means i)) ∧
        Offered o s.means s.candidateA s.candidateB := by
    unfold ManualSession.hasCandidate at hcandidate
    simp only [Bool.or_eq_true, decide_eq_true_eq] at hcandidate
    unfold ManualStaged at hstaged
    obtain (hstate | hstate) | hstate := hcandidate <;>
    · rw [hstate] at hstaged
      exact hstaged
  obtain ⟨hfinished, hoffered⟩ := hshown
  have hneeded : ∀ i : Fin 2, (i = 0 ∨ o.referenceCount ≠ 1) ↔ i.val < o.referenceCount.toNat := by
    intro i
    obtain hone | htwo := hcounts
    · rw [hone]
      fin_cases i <;> decide
    · rw [htwo]
      fin_cases i <;> decide
  have hchoose : ∀ i : Fin 2, ∃ run : List (EncoderSample ℚ), i.val < o.referenceCount.toNat →
      run <:+: takenSamples i events ∧ StableRun o run ∧ s.means i = meanOutput run := by
    intro i
    by_cases hi : i.val < o.referenceCount.toNat
    · obtain ⟨run, hrun⟩ := hfinished i ((hneeded i).mpr hi)
      exact ⟨run, fun _ => hrun⟩
    · exact ⟨[], fun hi' => absurd hi' hi⟩
  choose run hruns using hchoose
  refine ⟨run, hruns, fun sign offset d hsign hd hnear hknown => ?_⟩
  refine offered_identifies hoffered hsign hd hknown fun i hi => ?_
  obtain ⟨-, hstable, hmean⟩ := hruns i ((hneeded i).mp hi)
  rw [hmean]
  refine abs_meanOutput_sub_le ?_ (hnear i ((hneeded i).mp hi))
  intro hempty
  have henough := hstable.enough
  rw [hempty, List.length_nil] at henough
  have htwo := UInt32.le_iff_toNat_le.mp hminimum
  exact absurd (le_trans htwo henough) (by decide)

end Runs

/-! ## §8. A joint that runs backwards. -/

/-- Samples that are handed in as they are taken: the reference of each, and the sample. -/
def ManualSession.replay (s : ManualSession ℚ) :
    List (UInt32 × EncoderSample ℚ) → ManualSession ℚ
  | [] => s
  | (i, x) :: rest => replay (s.sample i x.sampleTimeNs x).1 rest

/-- The calls with their answers. -/
def ManualSession.replayed (s : ManualSession ℚ) :
    List (UInt32 × EncoderSample ℚ) → List (ManualEvent ℚ)
  | [] => []
  | (i, x) :: rest =>
    .sample i x.sampleTimeNs x (s.sample i x.sampleTimeNs x).2 ::
      replayed (s.sample i x.sampleTimeNs x).1 rest

theorem ManualSession.replay_run (o : ManualOptions ℚ) (s : ManualSession ℚ)
    (samples : List (UInt32 × EncoderSample ℚ)) :
    (manualSystem o).Run s (s.replayed samples) (s.replay samples) := by
  induction samples generalizing s with
  | nil => exact .nil s
  | cons first rest ih => exact .cons (ManualPerforms.sample rfl) (ih _)

/-- Two references, one radian apart. -/
def backwardOptions : ManualOptions ℚ where
  side := commissionLeft
  joint := 3
  expectedRevision := 1
  referenceCount := 2
  knownSign := 0
  minimumSamples := 2
  maximumSampleAgeNs := 50
  stabilityDwellNs := 10
  referenceModelRad i := if i = 0 then 0 else 1
  maximumPositionSpreadRad := 1 / 100
  maximumAbsVelocityRadS := 1 / 10
  minimumReferenceSeparationRad := 1 / 2
  maximumScaleError := 1 / 10
  motorSerial := .ofString "DM-J4"

/-- A sample of the joint at rest. -/
def restingSample (feedbackSeq timeNs : UInt64) (q : ℚ) : EncoderSample ℚ where
  structSize := sizeofEncoderSample
  abiVersion := abiV1
  feedbackSeq := feedbackSeq
  sampleTimeNs := timeNs
  qOutputRad := q
  dqOutputRadS := 0
  torqueOutputNm := 0
  mosTemperatureC := 20
  coilTemperatureC := 20
  driveEnabled := 0
  driveFault := 0

/-- The model angle is two less the output angle, to a milliradian. -/
def backwardSamples : List (UInt32 × EncoderSample ℚ) :=
  [(0, restingSample 1 1 2), (0, restingSample 2 11 (2001 / 1000)),
    (1, restingSample 3 20 1), (1, restingSample 4 30 1)]

/-- The offset is found to a milliradian, and the sign. -/
theorem manual_identifies_backward :
    (((ManualSession.create backwardOptions).replay backwardSamples).candidateA = -1) ∧
    |((ManualSession.create backwardOptions).replay backwardSamples).candidateB - 2| ≤
      1 / 1000 := by
  obtain ⟨run, hruns, hidentify⟩ := manual_identifies (by decide +kernel)
    (ManualSession.replay_run backwardOptions (.create backwardOptions) backwardSamples)
    (by decide +kernel)
  refine hidentify (-1) 2 (1 / 1000) (.inr rfl) (by decide +kernel) (fun i hi x hx => ?_)
    fun hone => absurd hone (by decide)
  have htaken : ∀ i : Fin 2, ∀ x ∈ takenSamples i
      ((ManualSession.create backwardOptions).replayed backwardSamples),
      |x.qOutputRad - (backwardOptions.referenceModelRad i - 2) / -1| ≤ 1 / 1000 := by
    decide +kernel
  exact htaken i x ((hruns i hi).1.subset hx)

end OpenArm.Commission
