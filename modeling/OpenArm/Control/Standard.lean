/-
  OpenArm.Control.Standard — the built-in virtual controller.

  The configuration `oa_manifest_create_openarm_v10_virtual` builds, the
  options the control tests run it with, and the world after verification,
  challenge and arming.  Concrete runs in the other files start here.
-/
import OpenArm.Control.Coherent

namespace OpenArm.Control

open OpenArm.Lib

variable {F : Type} [Floating F]

/-! ## §1. The standard configuration. -/

/-- `left_lower` and `right_lower`. -/
def standardLower (side : Side) (joint : Joint) : ℚ :=
  if side = 0 then
    ![-3.490659, -3.3161253267948965, -1.570796, 0, -1.570796, -0.785398, -1.570796] joint
  else ![-1.396263, -0.17453267320510335, -1.570796, 0, -1.570796, -0.785398, -1.570796] joint

/-- `left_upper` and `right_upper`. -/
def standardUpper (side : Side) (joint : Joint) : ℚ :=
  if side = 0 then
    ![1.396263, 0.17453267320510335, 1.570796, 2.443461, 1.570796, 0.785398, 1.570796] joint
  else ![3.490659, 3.3161253267948965, 1.570796, 2.443461, 1.570796, 0.785398, 1.570796] joint

/-- One motor of `standard_config`: joints 1–2 are DM8009, joints 3–4 DM4340,
    joints 5–7 DM4310, and the direction alternates. -/
def standardMotor (side : Side) (joint : Joint) : MotorConfig F where
  embeddedMotorId := joint.val + 1
  qScale := if (side.val + joint.val) % 2 = 0 then Floating.lit 1 else Floating.lit (-1)
  qOffsetRad := Floating.lit 0.125
  lowerRad := Floating.lit (standardLower side joint)
  upperRad := Floating.lit (standardUpper side joint)
  maxVelocityRadS := Floating.lit 1
  maxAccelerationRadS2 := Floating.lit 2
  maxJerkRadS3 := Floating.lit 10
  pmaxRad := Floating.lit 12.5
  vmaxRadS :=
    if joint.val < 2 then Floating.lit 45
    else if joint.val < 4 then Floating.lit 10 else Floating.lit 30
  tmaxNm :=
    if joint.val < 2 then Floating.lit 54
    else if joint.val < 4 then Floating.lit 28 else Floating.lit 10

/-- `standard_config`. -/
def standardConfig : ManifestConfig F where
  manifestRevision := 41
  modelRevision := 7
  motor := standardMotor

/-- The options of the control tests: a 10 ms cycle, feedback valid for 50 ms,
    1 ms of skew between the arms. -/
def standardOptions : ControllerOptions where
  backend := .virtual
  collisionPolicy := .virtualUnchecked
  cycleNs := 10000000
  feedbackTimeoutNs := 50000000
  maxCrossBusSkewNs := 1000000
  collisionSceneRevision := 1
  cycle_ne := by decide
  cycle_le_timeout := by decide
  skew_ne := by decide
  cycle_le := by decide
  unchecked_virtual := by decide
  unchecked_scene := by decide

/-- A model library that answers every query with a failure.  The runs below
    do not depend on the library. -/
def silentLibrary : ModelLibrary F where
  forward := fun _ _ => none
  inverse := fun _ _ _ => none
  collision := fun _ _ _ _ => ⟨false, Controller.keepoutZero⟩

/-! ## §2. Opening and arming it. -/

/-- The first controller of a process, latch clear. -/
def standardWorld (F : Type) [Floating F] : World F where
  latch := false
  controller := .create standardConfig standardOptions 1

theorem standardWorld_initial : (standardWorld F).Initial := ⟨_, _, _, rfl⟩

/-- The challenge the first `challenge` call hands out. -/
def standardChallenge : ArmChallenge := ⟨1, 0x4f50454e41524e, 1000000000⟩

/-- The world after verification. -/
def verifiedWorld (L : ModelLibrary F) : World F := (call L (standardWorld F) .openAndVerify).1

/-- The world after verification and a challenge. -/
def challengedWorld (L : ModelLibrary F) : World F := (call L (verifiedWorld L) .challenge).1

/-- The world after verification, challenge and arming. -/
def armedWorld (L : ModelLibrary F) : World F :=
  (call L (challengedWorld L) (.arm standardChallenge)).1

/-- The labels of verification, challenge and arming. -/
def armingLabels (F : Type) : List (Label F) :=
  [(.openAndVerify, ⟨.ok, .verified ⟨1, 3, 0⟩⟩),
    (.challenge, ⟨.ok, .challenge standardChallenge⟩),
    (.arm standardChallenge, ⟨.ok, .none⟩)]

theorem verifiedWorld_coherent (L : ModelLibrary F) : (verifiedWorld L).controller.Coherent :=
  fun _ => ArmRuntime.settled_forceState _ _ _ _ _ fun _ => rfl

theorem verifiedWorld_disabled (L : ModelLibrary F) :
    (verifiedWorld L).controller.disabled = true :=
  (verifiedWorld_coherent L).disabled fun _ _ =>
    ArmRuntime.status_forceState_of_noFault _ _ _ _ _ rfl

/-- The first challenge is answered. -/
theorem challenge_verifiedWorld (L : ModelLibrary F) :
    (verifiedWorld L).controller.challenge =
      ({ (verifiedWorld L).controller with
          nonceCounter := 0x4f50454e41524e
          outstandingNonce := 0x4f50454e41524e
          outstandingChallengeExpiry := 1000000000 }, .ok, some standardChallenge) := by
  have hnonce : wrap64 ((verifiedWorld L).controller.nonceCounter + 1) = 0x4f50454e41524e := by
    show wrap64 (0x4f50454e41524d + 1) = _
    decide
  have hexpiry : wrap64 ((verifiedWorld L).controller.nowNs + 1000000000) = 1000000000 := by
    show wrap64 (0 + 1000000000) = _
    decide
  rw [Controller.challenge_of_coherent _ rfl (verifiedWorld_coherent L)
    (verifiedWorld_disabled L), hexpiry]
  simp only [Controller.renewNonce, hnonce]
  rfl

theorem challengedWorld_eq (L : ModelLibrary F) :
    (challengedWorld L).controller =
      { (verifiedWorld L).controller with
        nonceCounter := 0x4f50454e41524e
        outstandingNonce := 0x4f50454e41524e
        outstandingChallengeExpiry := 1000000000 } :=
  congrArg Prod.fst (challenge_verifiedWorld L)

/-- The challenge is accepted: the standard controller arms. -/
theorem arm_challengedWorld (L : ModelLibrary F) :
    ∃ event, (challengedWorld L).controller.armWith standardChallenge =
      ({ (challengedWorld L).controller.energize with
          events := (challengedWorld L).controller.events.push event }, .ok) := by
  have heq := challengedWorld_eq L
  have hcoherent : (challengedWorld L).controller.Coherent := by
    rw [heq]
    exact verifiedWorld_coherent L
  have hdisabled : (challengedWorld L).controller.disabled = true := by
    rw [heq]
    exact verifiedWorld_disabled L
  refine Controller.armWith_of_coherent _ standardChallenge ?_ hcoherent hdisabled ?_ ?_ ?_
  · rw [heq]; rfl
  · rw [heq]; rfl
  · rw [heq]; rfl
  · rw [heq]
    show 1 < kEventCapacity
    decide

/-- What later runs need to know of the armed world. -/
theorem armedWorld_eq (L : ModelLibrary F) :
    ∃ event, (armedWorld L).controller =
      { ({ (verifiedWorld L).controller with
            nonceCounter := 0x4f50454e41524e
            outstandingNonce := 0x4f50454e41524e
            outstandingChallengeExpiry := 1000000000 } : Controller F).energize with
        events := (verifiedWorld L).controller.events.push event } := by
  obtain ⟨event, harm⟩ := arm_challengedWorld L
  refine ⟨event, ?_⟩
  have hstate : (armedWorld L).controller =
      ((challengedWorld L).controller.armWith standardChallenge).1 := rfl
  rw [hstate, harm, challengedWorld_eq]

theorem armedWorld_coherent (L : ModelLibrary F) : (armedWorld L).controller.Coherent := by
  obtain ⟨event, heq⟩ := armedWorld_eq L
  rw [heq]
  exact Controller.Coherent.energize (verifiedWorld_coherent L)

theorem verify_step (L : ModelLibrary F) :
    (system L).step (standardWorld F) (.openAndVerify, ⟨.ok, .verified ⟨1, 3, 0⟩⟩)
      (verifiedWorld L) := rfl

theorem challenge_step (L : ModelLibrary F) :
    (system L).step (verifiedWorld L) (.challenge, ⟨.ok, .challenge standardChallenge⟩)
      (challengedWorld L) := by
  refine Prod.ext rfl ?_
  show (withOutput (verifiedWorld L) (verifiedWorld L).controller.challenge .challenge).2 = _
  rw [challenge_verifiedWorld]
  rfl

theorem arm_step (L : ModelLibrary F) :
    (system L).step (challengedWorld L) (.arm standardChallenge, ⟨.ok, .none⟩)
      (armedWorld L) := by
  obtain ⟨event, harm⟩ := arm_challengedWorld L
  refine Prod.ext rfl ?_
  show (plain (challengedWorld L) _).2 = _
  rw [harm]
  rfl

/-- The standard world can be verified and armed. -/
theorem armedWorld_run (L : ModelLibrary F) :
    (system L).Run (standardWorld F) (armingLabels F) (armedWorld L) :=
  .cons (verify_step L) (.cons (challenge_step L) (.single (arm_step L)))

end OpenArm.Control
