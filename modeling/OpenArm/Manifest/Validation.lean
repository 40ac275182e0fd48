/-
  OpenArm.Manifest.Validation — which manifests the runtime accepts.

  `Manifest::Manifest` checks the control configuration motor by motor and
  throws on the first defect; `validate_manifest_data` adds the checks of the
  runtime's own members.  A comparison that rejects is kept as the negated
  comparison of the source, so that a NaN passes where it passes there.

  Main results:
    * `MotorConfig.Valid.finite` — which numbers of an accepted motor are
      finite: the codec profile is not among them.
-/
import OpenArm.Manifest.Types

namespace OpenArm.Manifest

open OpenArm.Lib
open OpenArm.Control (Side Joint)

variable {F : Type} [Floating F]

/-! ## §1. Profiles and limits. -/

/-- `expected_type`. -/
def expectedType (joint : Joint) : UInt32 :=
  if joint.val < 2 then motorDM8009 else if joint.val < 4 then motorDM4340 else motorDM4310

/-- `codec_spans`: position, velocity and torque; it throws on another type. -/
def codecSpans (motorType : UInt32) : Option (F × F × F) :=
  if motorType = motorDM8009 then some (Floating.lit 12.5, Floating.lit 45, Floating.lit 54)
  else if motorType = motorDM4340 then some (Floating.lit 12.5, Floating.lit 10, Floating.lit 28)
  else if motorType = motorDM4310 then some (Floating.lit 12.5, Floating.lit 30, Floating.lit 10)
  else none

/-- `expected_gear`. -/
def expectedGear (motorType : UInt32) : Option F :=
  if motorType = motorDM8009 then some (Floating.lit 9)
  else if motorType = motorDM4340 then some (Floating.lit 40)
  else if motorType = motorDM4310 then some (Floating.lit 10)
  else none

/-- `model_limit`, from the generated model data. -/
def modelLower (side : Side) (joint : Joint) : F :=
  Floating.lit <| (if side = 0 then
    ![-3.490659, -3.3161253267948965, -1.5707960000000001, 0, -1.5707960000000001,
      -0.78539800000000004, -1.5707960000000001]
  else
    ![-1.396263, -0.17453267320510335, -1.5707960000000001, 0, -1.5707960000000001,
      -0.78539800000000004, -1.5707960000000001]) joint

def modelUpper (side : Side) (joint : Joint) : F :=
  Floating.lit <| (if side = 0 then
    ![1.3962629999999998, 0.17453267320510335, 1.5707960000000001, 2.4434610000000001,
      1.5707960000000001, 0.78539800000000004, 1.5707960000000001]
  else
    ![3.490659, 3.3161253267948965, 1.5707960000000001, 2.4434610000000001,
      1.5707960000000001, 0.78539800000000004, 1.5707960000000001]) joint

/-- `expected_name`. -/
def expectedName (side : Side) (joint : Joint) : Text :=
  "openarm_".toList ++ (if side = 0 then "left_joint".toList else "right_joint".toList) ++
    writeNat (joint.val + 1)

/-! ## §2. Motors. -/

/-- The tolerance `1.0e-12`. -/
def tolerance : F := Floating.lit 1e-12

/-- The integer and text members of a motor record. -/
def MotorConfig.IdentityValid (side : Side) (joint : Joint) (m : MotorConfig F) : Prop :=
  m.jointIndex.toNat = joint.val ∧ m.motorType = expectedType joint ∧
  m.sendId ≠ 0 ∧ ¬ 0x7ff < m.sendId ∧ m.receiveId ≠ 0 ∧ ¬ 0x7ff < m.receiveId ∧
  ¬ 0x0f < m.embeddedMotorId ∧ m.controlMode = 1 ∧ m.bitrate ≠ 0 ∧ m.timeoutTicks ≠ 0 ∧
  m.hardwareVersion ≠ 0 ∧ m.softwareVersion ≠ 0 ∧ m.firmwareSubversion ≠ 0 ∧
  m.serial.length < 32 ∧ m.serial ≠ [] ∧
  m.jointName.length < 48 ∧ m.jointName = expectedName side joint

instance (side : Side) (joint : Joint) (m : MotorConfig F) :
    Decidable (m.IdentityValid side joint) := inferInstanceAs (Decidable (_ ∧ _))

/-- Its mapping, travel and rates. -/
def MotorConfig.MotionValid (m : MotorConfig F) : Prop :=
  Floating.isFinite m.qScale = true ∧
  ¬ tolerance < Floating.abs (Floating.abs m.qScale - Floating.lit 1) ∧
  Floating.isFinite m.qOffsetRad = true ∧
  Floating.isFinite m.lowerRad = true ∧ Floating.isFinite m.upperRad = true ∧
  ¬ m.upperRad ≤ m.lowerRad ∧
  Floating.isFinite m.maxVelocityRadS = true ∧ ¬ m.maxVelocityRadS ≤ Floating.lit 0 ∧
  Floating.isFinite m.maxAccelerationRadS2 = true ∧ ¬ m.maxAccelerationRadS2 ≤ Floating.lit 0 ∧
  Floating.isFinite m.maxJerkRadS3 = true ∧ ¬ m.maxJerkRadS3 ≤ Floating.lit 0 ∧
  (m.direction = -1 ∨ m.direction = 1)

instance (m : MotorConfig F) : Decidable m.MotionValid := inferInstanceAs (Decidable (_ ∧ _))

/-- Its codec and gear profile. -/
def MotorConfig.ProfileValid (m : MotorConfig F) : Prop :=
  match codecSpans m.motorType, expectedGear m.motorType with
  | some (pmax, vmax, tmax), some gear =>
    ¬ tolerance < Floating.abs (m.pmaxRad - pmax) ∧
    ¬ tolerance < Floating.abs (m.vmaxRadS - vmax) ∧
    ¬ tolerance < Floating.abs (m.tmaxNm - tmax) ∧
    ¬ tolerance < Floating.abs (m.gearRatio - gear)
  | _, _ => False

instance (m : MotorConfig F) : Decidable m.ProfileValid :=
  match h : codecSpans (F := F) m.motorType, h' : expectedGear (F := F) m.motorType with
  | some (pmax, vmax, tmax), some gear =>
    decidable_of_iff (¬ tolerance < Floating.abs (m.pmaxRad - pmax) ∧
      ¬ tolerance < Floating.abs (m.vmaxRadS - vmax) ∧
      ¬ tolerance < Floating.abs (m.tmaxNm - tmax) ∧
      ¬ tolerance < Floating.abs (m.gearRatio - gear)) (by simp [MotorConfig.ProfileValid, h, h'])
  | none, _ => isFalse (by simp [MotorConfig.ProfileValid, h])
  | some _, none => isFalse (by simp [MotorConfig.ProfileValid, h, h'])

/-- Its travel against the model and the codec. -/
def MotorConfig.TravelValid (side : Side) (joint : Joint) (m : MotorConfig F) : Prop :=
  ¬ m.lowerRad < modelLower side joint - tolerance ∧
  ¬ modelUpper side joint + tolerance < m.upperRad ∧
  ¬ m.qOffsetRad < -m.pmaxRad ∧ ¬ m.pmaxRad < m.qOffsetRad ∧
  ¬ m.pmaxRad + tolerance < Floating.abs ((m.lowerRad - m.qOffsetRad) / m.qScale) ∧
  ¬ m.pmaxRad + tolerance < Floating.abs ((m.upperRad - m.qOffsetRad) / m.qScale)

instance (side : Side) (joint : Joint) (m : MotorConfig F) :
    Decidable (m.TravelValid side joint) := inferInstanceAs (Decidable (_ ∧ _))

/-- The checks of `Manifest::Manifest` on one motor. -/
structure MotorConfig.Valid (side : Side) (joint : Joint) (m : MotorConfig F) : Prop where
  identity : m.IdentityValid side joint
  motion : m.MotionValid
  profile : m.ProfileValid
  travel : m.TravelValid side joint

instance (side : Side) (joint : Joint) (m : MotorConfig F) : Decidable (m.Valid side joint) :=
  decidable_of_iff (m.IdentityValid side joint ∧ m.MotionValid ∧ m.ProfileValid ∧
      m.TravelValid side joint)
    ⟨fun h => ⟨h.1, h.2.1, h.2.2.1, h.2.2.2⟩, fun h => ⟨h.1, h.2, h.3, h.4⟩⟩

/-! ## §3. Configurations and manifests. -/

/-- `Manifest::Manifest` does not throw. -/
structure ManifestConfig.Valid (config : ManifestConfig F) : Prop where
  manifestRevision : config.manifestRevision ≠ 0
  modelRevision : config.modelRevision ≠ 0
  busName : ∀ side, (config.arm side).busName.length < 16 ∧ (config.arm side).busName ≠ []
  motor : ∀ side joint, ((config.arm side).motor joint).Valid side joint
  sendIds : ∀ side (j k : Joint),
    ((config.arm side).motor j).sendId = ((config.arm side).motor k).sendId → j = k
  receiveIds : ∀ side (j k : Joint),
    ((config.arm side).motor j).receiveId = ((config.arm side).motor k).receiveId → j = k
  serials : ∀ (s t : Side) (j k : Joint),
    ((config.arm s).motor j).serial = ((config.arm t).motor k).serial → s = t ∧ j = k
  buses : (config.arm 0).busName ≠ (config.arm 1).busName

instance (config : ManifestConfig F) : Decidable config.Valid :=
  decidable_of_iff
    (config.manifestRevision ≠ 0 ∧ config.modelRevision ≠ 0 ∧
      (∀ side, (config.arm side).busName.length < 16 ∧ (config.arm side).busName ≠ []) ∧
      (∀ side joint, ((config.arm side).motor joint).Valid side joint) ∧
      (∀ side (j k : Joint),
        ((config.arm side).motor j).sendId = ((config.arm side).motor k).sendId → j = k) ∧
      (∀ side (j k : Joint),
        ((config.arm side).motor j).receiveId = ((config.arm side).motor k).receiveId → j = k) ∧
      (∀ (s t : Side) (j k : Joint),
        ((config.arm s).motor j).serial = ((config.arm t).motor k).serial → s = t ∧ j = k) ∧
      (config.arm 0).busName ≠ (config.arm 1).busName)
    ⟨fun h => ⟨h.1, h.2.1, h.2.2.1, h.2.2.2.1, h.2.2.2.2.1, h.2.2.2.2.2.1, h.2.2.2.2.2.2.1,
        h.2.2.2.2.2.2.2⟩,
      fun h => ⟨h.1, h.2, h.3, h.4, h.5, h.6, h.7, h.8⟩⟩

/-- The inventory fingerprint of a manifest: none, or a digest. -/
def validFingerprint (fingerprint : Text) : Prop :=
  fingerprint = [] ∨ (fingerprint.length = 64 ∧ ∀ c ∈ fingerprint, isHex c = true)

instance (fingerprint : Text) : Decidable (validFingerprint fingerprint) :=
  have : Decidable (∀ c ∈ fingerprint, isHex c = true) :=
    List.decidableBAll (fun c => isHex c = true) fingerprint
  inferInstanceAs (Decidable (_ ∨ _))

/-- `validate_manifest_data`. -/
structure ManifestData.Valid (m : ManifestData F) : Prop where
  state : ¬ m.state < manifestDraft ∧ ¬ manifestArmable < m.state
  backend : m.intendedBackend = backendVirtual ∨ m.intendedBackend = backendSocketcanQuery ∨
    m.intendedBackend = backendOffline
  config : m.config.Valid
  evidence : ∀ side joint, safeText (m.evidenceRecord side joint) textCapacity = true
  fingerprint : validFingerprint m.inventoryFingerprint

instance (m : ManifestData F) : Decidable m.Valid :=
  decidable_of_iff
    ((¬ m.state < manifestDraft ∧ ¬ manifestArmable < m.state) ∧
      (m.intendedBackend = backendVirtual ∨ m.intendedBackend = backendSocketcanQuery ∨
        m.intendedBackend = backendOffline) ∧
      m.config.Valid ∧
      (∀ side joint, safeText (m.evidenceRecord side joint) textCapacity = true) ∧
      validFingerprint m.inventoryFingerprint)
    ⟨fun h => ⟨h.1, h.2.1, h.2.2.1, h.2.2.2.1, h.2.2.2.2⟩, fun h => ⟨h.1, h.2, h.3, h.4, h.5⟩⟩

/-! ## §4. What validity says about the numbers. -/

/-- The numbers of a motor that are finite whenever the motor is valid. -/
theorem MotorConfig.Valid.finite {side : Side} {joint : Joint} {m : MotorConfig F}
    (h : m.Valid side joint) :
    Floating.isFinite m.qScale = true ∧ Floating.isFinite m.qOffsetRad = true ∧
      Floating.isFinite m.lowerRad = true ∧ Floating.isFinite m.upperRad = true ∧
      Floating.isFinite m.maxVelocityRadS = true ∧
      Floating.isFinite m.maxAccelerationRadS2 = true ∧
      Floating.isFinite m.maxJerkRadS3 = true := by
  obtain ⟨hscale, -, hoffset, hlower, hupper, -, hvelocity, -, haccel, -, hjerk, -⟩ := h.motion
  exact ⟨hscale, hoffset, hlower, hupper, hvelocity, haccel, hjerk⟩

/-- The numbers of the codec profile. -/
def MotorConfig.ProfileFinite (m : MotorConfig F) : Prop :=
  Floating.isFinite m.pmaxRad = true ∧ Floating.isFinite m.vmaxRadS = true ∧
    Floating.isFinite m.tmaxNm = true ∧ Floating.isFinite m.gearRatio = true

instance (m : MotorConfig F) : Decidable m.ProfileFinite := inferInstanceAs (Decidable (_ ∧ _))

/-- Every expected joint name is safe text. -/
theorem safeText_expectedName (side : Side) (joint : Joint) :
    safeText (expectedName side joint) 48 = true := by
  revert side joint
  decide

end OpenArm.Manifest
