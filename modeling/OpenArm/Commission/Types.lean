/-
  OpenArm.Commission.Types — the records of the commissioning interface.

  The recipe of a hard-stop calibration, what the caller reports at every
  step of it, and what the session answers.  A C text is its whole array of
  64 characters, terminated or not.  A flag keeps the word that carries it:
  zero is false and everything else is true.

  The header members of a record (`struct_size`, `abi_version`) are kept where
  the session itself reads them.
-/
import Mathlib
import OpenArm.Lib.FloatOrder
import OpenArm.Runtime.Types

namespace OpenArm.Commission

open OpenArm.Lib
open OpenArm.Runtime (CommissionStatus)

variable {F : Type} [Floating F]

/-! ## §1. Codes. -/

/-- `OA_RECIPE_*`, the states of a recipe session. -/
inductive RecipeState where
  | precheck | wait | approach | contactDwell | retreat | reapproach
  | repeatability | candidate | review | commit | abort
  deriving DecidableEq, Repr

/-- `OA_ABORT_*`. -/
inductive AbortReason where
  | none | caller | badSample | stale | interlock | limit | timeout | contact
  | repeatability | reviewRejected | unqualified
  deriving DecidableEq, Repr

/-- `OA_RECIPE_ACTION_*`. -/
inductive ActionKind where
  | none | holdDisabled | approach | contactDwell | retreat | reapproach | review
  | commitReady | abortDisable
  deriving DecidableEq, Repr

/-- `OA_EVIDENCE_*`. -/
inductive EvidenceKind where
  | manualFixture | hardwareQualified | simulationOnly
  deriving DecidableEq, Repr

/-- `OA_COMMISSION_ABI_V1`. -/
def abiV1 : UInt32 := 1

/-- `OA_COMMISSION_LEFT` and `OA_COMMISSION_RIGHT`. -/
def commissionLeft : UInt32 := 0
def commissionRight : UInt32 := 1

/-- `OA_RECIPE_ARM_JOINT` and `OA_RECIPE_GRIPPER`. -/
def recipeArmJoint : UInt32 := 1
def recipeGripper : UInt32 := 2

/-- `OA_REVIEW_*`. -/
def reviewNone : UInt32 := 0
def reviewAccept : UInt32 := 1
def reviewReject : UInt32 := 2

/-! ## §2. Texts. -/

/-- `char[OA_COMMISSION_TEXT_CAPACITY]`. -/
abbrev TextField := Fin 64 → UInt8

/-- The text of a C string that fits, padded with zeros. -/
def TextField.ofString (s : String) : TextField := fun i =>
  (s.toUTF8.toList[i.val]?).getD 0

/-- `valid_text`: terminated within its array, and not empty unless it may be. -/
def validText (text : TextField) (allowEmpty : Bool) : Bool :=
  decide (∃ i, text i = 0) && (allowEmpty || text 0 != 0)

/-- `std::strlen`, bounded by the array. -/
def textLength (text : TextField) : Nat :=
  (List.ofFn text).findIdx (· == 0)

/-- `copy_text`: at most 63 characters, then zeros. -/
def copyText (source : TextField) : TextField := fun i =>
  if i.val < min (textLength source) 63 then source i else 0

/-! ## §3. Records. -/

/-- `oa_commission_encoder_sample`. -/
structure EncoderSample (F : Type) where
  structSize : UInt32
  abiVersion : UInt32
  feedbackSeq : UInt64
  sampleTimeNs : UInt64
  qOutputRad : F
  dqOutputRadS : F
  torqueOutputNm : F
  mosTemperatureC : F
  coilTemperatureC : F
  driveEnabled : UInt32
  driveFault : UInt32

/-- `oa_commission_recipe`, its header apart. -/
structure Recipe (F : Type) where
  recipeKind : UInt32
  side : UInt32
  joint : UInt32
  knownSign : Int32
  hardwareQualified : UInt32
  simulationOnly : UInt32
  minimumContactSamples : UInt32
  expectedRevision : UInt64
  qualificationRevision : UInt64
  simulationEvidenceRevision : UInt64
  fixtureRevision : UInt64
  maximumSampleAgeNs : UInt64
  maximumApproachTimeNs : UInt64
  contactDwellNs : UInt64
  maximumRetreatTimeNs : UInt64
  stopModelRad : F
  approachDirection : F
  startMinOutputRad : F
  startMaxOutputRad : F
  maximumSpeedRadS : F
  minimumContactTravelRad : F
  maximumApproachTravelRad : F
  contactVelocityRadS : F
  minimumContactTorqueNm : F
  maximumTorqueNm : F
  maximumContactEnergyJ : F
  maximumTemperatureC : F
  retreatDistanceRad : F
  repeatabilityToleranceRad : F
  requiredPostureMask : UInt32
  requiredPostureOutputRad : Fin 7 → F
  postureToleranceRad : F
  motorSerial : TextField
  qualificationRecord : TextField
  simulationEvidenceRecord : TextField
  fixtureRecord : TextField

/-- `oa_commission_recipe_input`. -/
structure RecipeInput (F : Type) where
  structSize : UInt32
  abiVersion : UInt32
  nowNs : UInt64
  encoder : EncoderSample F
  estopClear : UInt32
  deadmanHeld : UInt32
  operatorReady : UInt32
  actionComplete : UInt32
  reviewDecision : UInt32
  postureMask : UInt32
  evidenceRevision : UInt64
  fixtureRevision : UInt64
  postureOutputRad : Fin 7 → F

/-- `oa_commission_next_action`, its header apart. -/
structure NextAction (F : Type) where
  kind : ActionKind
  state : RecipeState
  validUntilNs : UInt64
  direction : F
  targetOutputRad : F
  maximumSpeedRadS : F
  maximumTravelRad : F
  maximumTorqueNm : F
  maximumTemperatureC : F

/-- `oa_commission_mapping_patch`, its header apart. -/
structure MappingPatch (F : Type) where
  expectedRevision : UInt64
  replacementRevision : UInt64
  side : UInt32
  joint : UInt32
  evidenceKind : EvidenceKind
  recipeKind : UInt32
  qualificationRevision : UInt64
  fixtureRevision : UInt64
  a : F
  bRad : F
  motorSerial : TextField
  evidenceRecord : TextField

/-- `sizeof(oa_commission_encoder_sample)`. -/
def sizeofEncoderSample : UInt32 := 72

/-- `sizeof(oa_commission_recipe_input)`. -/
def sizeofRecipeInput : UInt32 := 184

/-- `valid_header`. -/
def validHeader (structSize abiVersion requiredSize : UInt32) : Bool :=
  abiVersion == abiV1 && decide (requiredSize ≤ structSize)

/-! ## §4. Numbers. -/

/-- `static_cast<double>` of a signed word. -/
def toDouble (n : Int32) : F :=
  if n < 0 then -(Floating.ofNat n.toInt.natAbs : F) else Floating.ofNat n.toInt.natAbs

/-- `saturating_add`. -/
def saturatingAdd (left right : UInt64) : UInt64 :=
  if 0xffffffffffffffff - left < right then 0xffffffffffffffff else left + right

/-- `finite_sample`. -/
def finiteSample (sample : EncoderSample F) : Bool :=
  Floating.isFinite sample.qOutputRad && Floating.isFinite sample.dqOutputRadS &&
    Floating.isFinite sample.torqueOutputNm && Floating.isFinite sample.mosTemperatureC &&
    Floating.isFinite sample.coilTemperatureC

/-! ## §5. `valid_recipe`. -/

namespace Recipe

/-- Kinds, counts, revisions and texts that no recipe may have. -/
def badRecord (r : Recipe F) : Bool :=
  (r.recipeKind != recipeArmJoint && r.recipeKind != recipeGripper) ||
    decide (commissionRight < r.side) || decide (7 < r.joint) ||
    (r.knownSign != -1 && r.knownSign != 1) ||
    decide (1 < r.hardwareQualified) || decide (1 < r.simulationOnly) ||
    decide (r.minimumContactSamples < 2) || r.expectedRevision == 0 ||
    r.maximumSampleAgeNs == 0 || r.maximumApproachTimeNs == 0 ||
    r.contactDwellNs == 0 || r.maximumRetreatTimeNs == 0 ||
    r.fixtureRevision == 0 || !validText r.motorSerial false ||
    !validText r.fixtureRecord false

/-- The numbers that must be finite. -/
def numbers (r : Recipe F) : List F :=
  [r.stopModelRad, r.approachDirection, r.startMinOutputRad, r.startMaxOutputRad,
    r.maximumSpeedRadS, r.minimumContactTravelRad, r.maximumApproachTravelRad,
    r.contactVelocityRadS, r.minimumContactTorqueNm, r.maximumTorqueNm,
    r.maximumContactEnergyJ, r.maximumTemperatureC, r.retreatDistanceRad,
    r.repeatabilityToleranceRad, r.postureToleranceRad]

/-- Ranges and relations that no recipe may have. -/
def badRange (r : Recipe F) : Prop :=
  Floating.lit 1.0e-12 <
      Floating.abs (Floating.abs r.approachDirection - (Floating.lit 1.0 : F)) ∨
    r.startMaxOutputRad ≤ r.startMinOutputRad ∨
    r.maximumSpeedRadS ≤ Floating.lit 0.0 ∨
    r.contactVelocityRadS ≤ Floating.lit 0.0 ∨
    r.maximumSpeedRadS ≤ r.contactVelocityRadS ∨
    r.minimumContactTravelRad ≤ Floating.lit 0.0 ∨
    r.maximumApproachTravelRad ≤ r.minimumContactTravelRad ∨
    r.minimumContactTorqueNm ≤ Floating.lit 0.0 ∨
    r.maximumTorqueNm ≤ r.minimumContactTorqueNm ∨
    r.maximumContactEnergyJ ≤ Floating.lit 0.0 ∨
    r.maximumTemperatureC ≤ Floating.lit 0.0 ∨
    r.retreatDistanceRad ≤ Floating.lit 0.0 ∨
    r.repeatabilityToleranceRad ≤ Floating.lit 0.0 ∨
    r.maximumApproachTravelRad < r.retreatDistanceRad

instance (r : Recipe F) : Decidable r.badRange := by
  unfold badRange
  infer_instance

/-- What an arm joint needs besides. -/
def armQualified (r : Recipe F) : Bool :=
  !(decide (6 < r.joint) || r.hardwareQualified != 1 || r.simulationOnly != 0 ||
      r.qualificationRevision == 0 || !validText r.qualificationRecord false ||
      r.simulationEvidenceRevision != 0 || r.simulationEvidenceRecord 0 != 0 ||
      r.requiredPostureMask != ((0x7f : UInt32) &&& ~~~(1 <<< r.joint)) ||
      decide (r.postureToleranceRad ≤ Floating.lit 0.0)) &&
    (List.ofFn r.requiredPostureOutputRad).all Floating.isFinite

/-- A gripper qualified on the hardware. -/
def qualified (r : Recipe F) : Bool :=
  r.hardwareQualified == 1 && r.simulationOnly == 0 && decide (0 < r.qualificationRevision) &&
    validText r.qualificationRecord false && r.simulationEvidenceRevision == 0 &&
    r.simulationEvidenceRecord 0 == 0

/-- A gripper with evidence from a simulation only. -/
def simulated (r : Recipe F) : Bool :=
  r.simulationOnly == 1 && r.hardwareQualified == 0 && r.qualificationRevision == 0 &&
    r.qualificationRecord 0 == 0 && decide (0 < r.simulationEvidenceRevision) &&
    validText r.simulationEvidenceRecord false

end Recipe

/-- `valid_recipe`. -/
def validRecipe (recipe : Recipe F) : Bool :=
  if recipe.badRecord || recipe.numbers.any (fun x => !Floating.isFinite x) ||
      decide recipe.badRange then false
  else if recipe.recipeKind == recipeArmJoint then recipe.armQualified
  else if recipe.joint != 7 then false
  else recipe.qualified || recipe.simulated

/-- The numbers of an accepted recipe are finite. -/
theorem finite_of_validRecipe {recipe : Recipe F} (h : validRecipe recipe = true) {x : F}
    (hx : x ∈ recipe.numbers) : Floating.isFinite x = true := by
  unfold validRecipe at h
  split at h
  · cases h
  · rename_i hgood
    by_contra hinf
    have hany : recipe.numbers.any (fun x => !Floating.isFinite x) = true :=
      List.any_eq_true.mpr ⟨x, hx, by simpa using hinf⟩
    simp [hany] at hgood

/-- The ranges of an accepted recipe are in order. -/
theorem range_of_validRecipe {recipe : Recipe F} (h : validRecipe recipe = true) :
    ¬ recipe.badRange := by
  unfold validRecipe at h
  split at h
  · cases h
  · rename_i hgood
    intro hbad
    simp [hbad] at hgood

end OpenArm.Commission
