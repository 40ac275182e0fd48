/-
  OpenArm.Manifest.Build — manifests that no file was read for.

  `make_virtual_manifest` builds the manifest of the virtual backend, and
  `apply_patch` derives a manifest from another one and a calibration.

  Main results:
    * `applyPatch_eq_some` — what a successful patch has checked and built.
-/
import OpenArm.Manifest.Format

namespace OpenArm.Manifest

open OpenArm.Lib
open OpenArm.Control (Side Joint)
open OpenArm.Runtime (RuntimeStatus)

variable {F : Type} [Floating F] (N : NumberFormat F)

/-! ## §1. The built-in manifest. -/

/-- `kLeftLower` and `kRightLower`. -/
def virtualLower (side : Side) (joint : Joint) : F :=
  Floating.lit <| (if side = 0 then
    ![-3.490659, -3.3161253267948965, -1.570796, 0, -1.570796, -0.785398, -1.570796]
  else
    ![-1.396263, -0.17453267320510335, -1.570796, 0, -1.570796, -0.785398, -1.570796]) joint

/-- `kLeftUpper` and `kRightUpper`. -/
def virtualUpper (side : Side) (joint : Joint) : F :=
  Floating.lit <| (if side = 0 then
    ![1.396263, 0.17453267320510335, 1.570796, 2.443461, 1.570796, 0.785398, 1.570796]
  else
    ![3.490659, 3.3161253267948965, 1.570796, 2.443461, 1.570796, 0.785398, 1.570796]) joint

/-- The motor of a virtual joint. -/
def virtualMotor (side : Side) (joint : Joint) : MotorConfig F :=
  let motorType := expectedType joint
  let positive : Bool := (side.val + joint.val) % 2 == 0
  { motorType
    jointIndex := UInt32.ofNat joint.val
    sendId := UInt32.ofNat (joint.val + 1)
    receiveId := UInt32.ofNat (joint.val + 0x11)
    embeddedMotorId := UInt32.ofNat (joint.val + 1)
    controlMode := 1
    bitrate := 1000000
    timeoutTicks := 1000
    hardwareVersion := 1
    softwareVersion := 1
    firmwareSubversion := 1
    qScale := Floating.lit (if positive then 1 else -1)
    qOffsetRad := Floating.lit 0.125
    lowerRad := virtualLower side joint
    upperRad := virtualUpper side joint
    maxVelocityRadS := Floating.lit 1
    maxAccelerationRadS2 := Floating.lit 2
    maxJerkRadS3 := Floating.lit 10
    pmaxRad := Floating.lit 12.5
    vmaxRadS := Floating.lit
      (if motorType = motorDM8009 then 45 else if motorType = motorDM4340 then 10 else 30)
    tmaxNm := Floating.lit
      (if motorType = motorDM8009 then 54 else if motorType = motorDM4340 then 28 else 10)
    gearRatio := Floating.lit
      (if motorType = motorDM8009 then 9 else if motorType = motorDM4340 then 40 else 10)
    direction :=
      if (Floating.lit 0 : F) < Floating.lit (if positive then 1 else -1) then 1 else -1
    serial := "VIRTUAL-".toList ++ writeNat side.val ++ '-' :: writeNat joint.val
    jointName :=
      "openarm_".toList ++ (if side = 0 then "left".toList else "right".toList) ++
        "_joint".toList ++ writeNat (joint.val + 1) }

/-- `virtual_config`. -/
def virtualConfig : ManifestConfig F where
  manifestRevision := 1
  modelRevision := 1
  arm side :=
    { busName := "virtual".toList ++ writeNat side.val
      motor := fun joint => virtualMotor side joint }

/-- The members of the built-in manifest before its digests. -/
def virtualManifest : ManifestData F where
  config := virtualConfig
  state := manifestArmable
  intendedBackend := backendVirtual
  inventoryRevision := 1
  inventoryFingerprint := []
  evidenceKind _ _ := evidenceSimulationOnly
  evidenceRevision _ _ := 1
  evidenceRecord _ _ := "builtin_virtual_exact".toList
  contentDigest := []

/-- `make_virtual_manifest`. -/
def makeVirtualManifest : ManifestData F :=
  let manifest :=
    { virtualManifest with
      inventoryFingerprint := sha256Hex (manifestCanonical N virtualManifest false) }
  { manifest with contentDigest := sha256Hex (manifestCanonical N manifest false) }

/-- What the arithmetic of the platform makes of the built-in constants: the
    virtual configuration passes the checks, and its codec profile is finite. -/
structure BuiltinSound (F : Type) [Floating F] : Prop where
  valid : (virtualConfig : ManifestConfig F).Valid
  profile : ∀ side joint, (((virtualConfig : ManifestConfig F).arm side).motor joint).ProfileFinite

/-! ## §2. Patches. -/

/-- `==` on numbers. -/
def numEq (x y : F) : Prop := x ≤ y ∧ y ≤ x

instance (x y : F) : Decidable (numEq x y) := inferInstanceAs (Decidable (_ ∧ _))

/-- The first group of checks of `apply_patch`. -/
def MappingPatch.Applies (base : ManifestData F) (patch : MappingPatch F) : Prop :=
  patch.recordValid = true ∧ patch.expectedRevision = base.config.manifestRevision ∧
  ¬ patch.replacementRevision ≤ patch.expectedRevision ∧
  patch.side < 2 ∧ patch.joint < 7 ∧
  (numEq patch.a (Floating.lit 1) ∨ numEq patch.a (Floating.lit (-1))) ∧
  Floating.isFinite patch.bRad = true

instance (base : ManifestData F) (patch : MappingPatch F) : Decidable (patch.Applies base) :=
  inferInstanceAs (Decidable (_ ∧ _))

/-- `patch.side` and `patch.joint`, once they are in range. -/
def MappingPatch.target (patch : MappingPatch F) : Side × Joint :=
  (Fin.ofNat 2 patch.side.toNat, Fin.ofNat 7 patch.joint.toNat)

/-- The second group: the motor is the one the calibration was made on, and
    its evidence is of a known kind and fits the backend. -/
def MappingPatch.Identified (base : ManifestData F) (patch : MappingPatch F) : Prop :=
  ((base.config.arm patch.target.1).motor patch.target.2).serial.take 32 =
    patch.motorSerial.take 32 ∧
  (base.intendedBackend ≠ backendVirtual → patch.evidenceKind ≠ evidenceSimulationOnly) ∧
  (patch.evidenceKind = evidenceManualFixture ∨
    patch.evidenceKind = evidenceHardwareQualified ∨
    patch.evidenceKind = evidenceSimulationOnly) ∧
  safeText patch.evidenceRecord textCapacity = true

instance (base : ManifestData F) (patch : MappingPatch F) : Decidable (patch.Identified base) :=
  inferInstanceAs (Decidable (_ ∧ _))

/-- The motor with its new mapping. -/
def MotorConfig.remap (motor : MotorConfig F) (patch : MappingPatch F) : MotorConfig F :=
  { motor with
    qScale := patch.a
    qOffsetRad := patch.bRad
    direction := if (Floating.lit 0 : F) < patch.a then 1 else -1 }

/-- `f` with another value at one side and joint. -/
def setAt {α : Type} (f : Side → Joint → α) (target : Side × Joint) (value : α) :
    Side → Joint → α :=
  fun side joint => if (side, joint) = target then value else f side joint

/-- The members of the patched manifest before its digest. -/
def patched (base : ManifestData F) (patch : MappingPatch F) : ManifestData F :=
  let target := patch.target
  { base.unsigned with
    config :=
      { base.config with
        manifestRevision := patch.replacementRevision
        arm := fun side =>
          { base.config.arm side with
            motor := fun joint =>
              if (side, joint) = target then ((base.config.arm side).motor joint).remap patch
              else (base.config.arm side).motor joint } }
    state :=
      if base.intendedBackend = backendVirtual then manifestArmable else manifestLocallyValid
    evidenceKind := setAt base.evidenceKind target patch.evidenceKind
    evidenceRevision := setAt base.evidenceRevision target
      (if patch.fixtureRevision ≠ 0 then patch.fixtureRevision else patch.qualificationRevision)
    evidenceRecord := setAt base.evidenceRecord target patch.evidenceRecord }

/-- `apply_patch`: the preview it fills, and the new manifest. -/
def applyPatch (base : ManifestData F) (patch : MappingPatch F) :
    ManifestPreview × Option (ManifestData F) :=
  let preview : ManifestPreview :=
    { baseRevision := base.config.manifestRevision
      resultRevision := patch.replacementRevision
      validationStatus := .einval }
  if ¬ patch.Applies base then (preview, none)
  else if ¬ patch.Identified base then ({ preview with validationStatus := .eidentity }, none)
  else
    let result := patched base patch
    if ¬ result.Valid then ({ preview with validationStatus := .einval }, none)
    else
      let mask : UInt32 :=
        1 <<< UInt32.ofNat (motorOffset patch.target.1 patch.target.2)
      ({ preview with
          valid := true
          changedMotorMask := mask
          mappingChangeMask := mask
          wouldBeArmable := result.state == manifestArmable
          validationStatus := .ok },
        some { result with contentDigest := sha256Hex (manifestCanonical N result false) })

/-- **What a successful patch has checked and built.** -/
theorem applyPatch_eq_some {base m : ManifestData F} {patch : MappingPatch F} :
    (applyPatch N base patch).2 = some m ↔
      patch.Applies base ∧ patch.Identified base ∧ (patched base patch).Valid ∧
        m = { patched base patch with
          contentDigest := sha256Hex (manifestCanonical N (patched base patch) false) } := by
  unfold applyPatch
  by_cases happlies : patch.Applies base
  · by_cases hidentified : patch.Identified base
    · by_cases hvalid : (patched base patch).Valid
      · simp [happlies, hidentified, hvalid, eq_comm]
      · simp [happlies, hidentified, hvalid]
    · simp [happlies, hidentified]
  · simp [happlies]

/-- A preview is valid exactly when a manifest comes with it. -/
theorem applyPatch_valid (base : ManifestData F) (patch : MappingPatch F) :
    (applyPatch N base patch).1.valid = (applyPatch N base patch).2.isSome := by
  unfold applyPatch
  by_cases happlies : patch.Applies base
  · by_cases hidentified : patch.Identified base
    · by_cases hvalid : (patched base patch).Valid
      · simp [happlies, hidentified, hvalid]
      · simp [happlies, hidentified, hvalid]
    · simp [happlies, hidentified]
  · simp [happlies]

end OpenArm.Manifest
