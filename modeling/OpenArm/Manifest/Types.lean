/-
  OpenArm.Manifest.Types — what a runtime manifest holds.

  `oa_motor_config`, `oa_manifest_config` and `ManifestData` with every member
  the runtime reads, the mapping patch of a calibration, and the spelling of
  numbers in a manifest file.  Structure sizes and interface versions are set
  by `control_init` and stay out.  A C array that holds a name is the text in
  front of its first NUL.

  Main results:
    * `readUnsigned_toDigits`, `readInt32_writeInt32` — integers read back.
-/
import OpenArm.Lib.Floating
import OpenArm.Manifest.Sha256
import OpenArm.Runtime.Types

namespace OpenArm.Manifest

open OpenArm.Lib
open OpenArm.Control (Side Joint)
open OpenArm.Runtime (RuntimeStatus)

variable {F : Type} [Floating F]

/-! ## §1. Configuration. -/

/-- `OA_MOTOR_DM8009`, `OA_MOTOR_DM4340` and `OA_MOTOR_DM4310`. -/
def motorDM8009 : UInt32 := 1
def motorDM4340 : UInt32 := 2
def motorDM4310 : UInt32 := 3

/-- `oa_motor_config`. -/
structure MotorConfig (F : Type) where
  motorType : UInt32
  jointIndex : UInt32
  sendId : UInt32
  receiveId : UInt32
  embeddedMotorId : UInt32
  controlMode : UInt32
  bitrate : UInt32
  timeoutTicks : UInt32
  hardwareVersion : UInt32
  softwareVersion : UInt32
  firmwareSubversion : UInt32
  qScale : F
  qOffsetRad : F
  lowerRad : F
  upperRad : F
  maxVelocityRadS : F
  maxAccelerationRadS2 : F
  maxJerkRadS3 : F
  pmaxRad : F
  vmaxRadS : F
  tmaxNm : F
  gearRatio : F
  direction : Int32
  serial : Text
  jointName : Text

/-- `oa_arm_config`. -/
structure ArmConfig (F : Type) where
  busName : Text
  motor : Joint → MotorConfig F

/-- `oa_manifest_config`. -/
structure ManifestConfig (F : Type) where
  manifestRevision : UInt64
  modelRevision : UInt64
  arm : Side → ArmConfig F

/-! ## §2. Manifests. -/

/-- `OA_RUNTIME_MANIFEST_*`. -/
def manifestDraft : UInt32 := 1
def manifestLocallyValid : UInt32 := 2
def manifestArmable : UInt32 := 4

/-- `OA_RUNTIME_BACKEND_*`. -/
def backendVirtual : UInt32 := 1
def backendSocketcanQuery : UInt32 := 2
def backendOffline : UInt32 := 3

/-- `OA_EVIDENCE_*`. -/
def evidenceManualFixture : UInt32 := 1
def evidenceHardwareQualified : UInt32 := 2
def evidenceSimulationOnly : UInt32 := 3

/-- `OA_RUNTIME_INTEGRITY_*`. -/
inductive IntegrityKind where
  | unkeyedSha256 | hmacSha256
  deriving DecidableEq, Repr

/-- `OA_RUNTIME_TEXT_CAPACITY` and `OA_COMMISSION_TEXT_CAPACITY`. -/
def textCapacity : Nat := 64

/-- `ManifestData`.  The evidence arrays are indexed by side and joint where
    the source uses `motor_offset`. -/
structure ManifestData (F : Type) where
  config : ManifestConfig F
  state : UInt32
  intendedBackend : UInt32
  inventoryRevision : UInt64
  inventoryFingerprint : Text
  evidenceKind : Side → Joint → UInt32
  evidenceRevision : Side → Joint → UInt64
  evidenceRecord : Side → Joint → Text
  contentDigest : Text
  integrityKind : IntegrityKind := .unkeyedSha256
  authenticated : Bool := false
  checkpointAuthorized : Bool := false
  authenticationVersion : Nat := 0
  authenticationKeyId : Text := []
  authenticationTag : Text := []
  loadedFromFile : Bool := false

/-- The manifest without the marks of its origin. -/
def ManifestData.unsigned (m : ManifestData F) : ManifestData F :=
  { m with
    integrityKind := .unkeyedSha256
    authenticated := false
    checkpointAuthorized := false
    authenticationVersion := 0
    authenticationKeyId := []
    authenticationTag := []
    loadedFromFile := false }

/-- `oa_commission_mapping_patch`, after its size and version check. -/
structure MappingPatch (F : Type) where
  recordValid : Bool
  expectedRevision : UInt64
  replacementRevision : UInt64
  side : UInt32
  joint : UInt32
  evidenceKind : UInt32
  qualificationRevision : UInt64
  fixtureRevision : UInt64
  a : F
  bRad : F
  motorSerial : Text
  evidenceRecord : Text

/-- `oa_runtime_manifest_preview`. -/
structure ManifestPreview where
  valid : Bool := false
  wouldBeArmable : Bool := false
  baseRevision : UInt64 := 0
  resultRevision : UInt64 := 0
  changedMotorMask : UInt32 := 0
  mappingChangeMask : UInt32 := 0
  validationStatus : RuntimeStatus
  deriving DecidableEq

/-- `motor_offset`. -/
def motorOffset (side : Side) (joint : Joint) : Nat := side.val * 7 + joint.val

/-! ## §3. Characters. -/

/-- The alphabet of `safe_text` and of `safe_key_id`. -/
def safeChar (c : Char) : Bool :=
  ('a' ≤ c && c ≤ 'z') || ('A' ≤ c && c ≤ 'Z') || ('0' ≤ c && c ≤ '9') ||
    c == '_' || c == '-' || c == '.' || c == ':'

/-- `safe_text`. -/
def safeText (text : Text) (capacity : Nat) : Bool :=
  !text.isEmpty && text.length < capacity && text.all safeChar

theorem safeText_iff {text : Text} {capacity : Nat} :
    safeText text capacity = true ↔
      text ≠ [] ∧ text.length < capacity ∧ ∀ c ∈ text, safeChar c = true := by
  unfold safeText
  simp only [Bool.and_eq_true, Bool.not_eq_true', List.isEmpty_eq_false_iff, decide_eq_true_eq,
    List.all_eq_true, and_assoc]

/-- The characters that structure a manifest file. -/
def structural (c : Char) : Bool := c == '|' || c == '\n' || c == '\x00'

/-- A text that no search for a field, a line or an end can cut. -/
def Plain (text : Text) : Prop := ∀ c ∈ text, structural c = false

instance (text : Text) : Decidable (Plain text) :=
  List.decidableBAll (fun c => structural c = false) text

theorem Plain.not_bar {text : Text} (h : Plain text) : '|' ∉ text :=
  fun hmem => absurd (h _ hmem) (by decide)

theorem Plain.not_newline {text : Text} (h : Plain text) : '\n' ∉ text :=
  fun hmem => absurd (h _ hmem) (by decide)

theorem Plain.not_nul {text : Text} (h : Plain text) : '\x00' ∉ text :=
  fun hmem => absurd (h _ hmem) (by decide)

/-- Three characters are structural, and none of them is safe. -/
theorem structural_of_safe {c : Char} (h : safeChar c = true) : structural c = false := by
  by_contra hc
  simp only [structural, Bool.not_eq_false, Bool.or_eq_true, beq_iff_eq] at hc
  rcases hc with (rfl | rfl) | rfl <;> exact absurd h (by decide)

theorem structural_of_isHex {c : Char} (h : isHex c = true) : structural c = false := by
  by_contra hc
  simp only [structural, Bool.not_eq_false, Bool.or_eq_true, beq_iff_eq] at hc
  rcases hc with (rfl | rfl) | rfl <;> exact absurd h (by decide)

theorem structural_of_isDigit {c : Char} (h : c.isDigit = true) : structural c = false := by
  by_contra hc
  simp only [structural, Bool.not_eq_false, Bool.or_eq_true, beq_iff_eq] at hc
  rcases hc with (rfl | rfl) | rfl <;> exact absurd h (by decide)

theorem plain_of_safeText {text : Text} {capacity : Nat} (h : safeText text capacity = true) :
    Plain text :=
  fun c hc => structural_of_safe ((safeText_iff.mp h).2.2 c hc)

/-! ## §4. Numbers. -/

/-- `append_number` of an unsigned value. -/
def writeNat (n : Nat) : Text := Nat.toDigits 10 n

/-- `parse_number` of an unsigned type whose largest value is `max`: the whole
    text is digits, and the value fits.  Leading zeros are read. -/
def readUnsigned (max : Nat) (text : Text) : Option Nat :=
  if text = [] ∨ text.all Char.isDigit = false then none
  else
    let value := Nat.ofDigitChars 10 text 0
    if value ≤ max then some value else none

def readUInt32 (text : Text) : Option UInt32 :=
  (readUnsigned (2 ^ 32 - 1) text).map UInt32.ofNat

def readUInt64 (text : Text) : Option UInt64 :=
  (readUnsigned (2 ^ 64 - 1) text).map UInt64.ofNat

/-- `append_number` of a `std::int32_t`. -/
def writeInt32 (value : Int32) : Text :=
  if value.toInt < 0 then '-' :: writeNat value.toInt.natAbs else writeNat value.toInt.natAbs

/-- `parse_number` of a `std::int32_t`: a minus sign is read, a plus sign is
    not. -/
def readInt32 (text : Text) : Option Int32 :=
  match text with
  | '-' :: digits => (readUnsigned (2 ^ 31) digits).map fun (n : Nat) => Int32.ofInt (-(n : Int))
  | _ => (readUnsigned (2 ^ 31 - 1) text).map fun (n : Nat) => Int32.ofInt (n : Int)

/-- `std::to_chars` and `std::from_chars` on binary64 in the general format.
    `fromChars` gives the value of a text it reads to its end. -/
structure NumberFormat (F : Type) where
  toChars : F → Text
  fromChars : Text → Option F

/-- `parse_number` of a `double`. -/
def NumberFormat.readDouble (N : NumberFormat F) (text : Text) : Option F :=
  match N.fromChars text with
  | some value => if Floating.isFinite value then some value else none
  | none => none

/-- The format spells `x` in the buffer of `append_number`, without structural
    characters, and reads the spelling back. -/
structure NumberFormat.Spells (N : NumberFormat F) (x : F) : Prop where
  readsBack : N.fromChars (N.toChars x) = some x
  plain : Plain (N.toChars x)
  short : (N.toChars x).length ≤ 64

/-- `to_chars` and `from_chars` are inverse on finite values. -/
def NumberFormat.Exact (N : NumberFormat F) : Prop :=
  ∀ x : F, Floating.isFinite x = true → N.Spells x

theorem NumberFormat.Spells.readDouble {N : NumberFormat F} {x : F} (h : N.Spells x)
    (hx : Floating.isFinite x = true) : N.readDouble (N.toChars x) = some x := by
  unfold NumberFormat.readDouble
  simp [h.readsBack, hx]

theorem NumberFormat.isFinite_of_readDouble {N : NumberFormat F} {text : Text} {x : F}
    (h : N.readDouble text = some x) : Floating.isFinite x = true := by
  unfold NumberFormat.readDouble at h
  split at h
  · split at h
    · rename_i hfinite
      cases h
      exact hfinite
    · exact absurd h (by simp)
  · exact absurd h (by simp)

/-! ## §5. Integers read back. -/

theorem writeNat_digits (n : Nat) : ∀ c ∈ writeNat n, c.isDigit = true :=
  fun _ hc => Nat.isDigit_of_mem_toDigits (by decide) (by decide) hc

theorem plain_writeNat (n : Nat) : Plain (writeNat n) :=
  fun c hc => structural_of_isDigit (writeNat_digits n c hc)

theorem plain_writeInt32 (value : Int32) : Plain (writeInt32 value) := by
  unfold writeInt32
  split
  · intro c hc
    rcases List.mem_cons.mp hc with rfl | hmem
    · decide
    · exact plain_writeNat _ c hmem
  · exact plain_writeNat _

/-- **Unsigned integers read back.** -/
theorem readUnsigned_toDigits {n max : Nat} (h : n ≤ max) :
    readUnsigned max (writeNat n) = some n := by
  have hne : writeNat n ≠ [] := Nat.toDigits_ne_nil
  have hall : (writeNat n).all Char.isDigit = true := List.all_eq_true.mpr (writeNat_digits n)
  have hvalue : Nat.ofDigitChars 10 (writeNat n) 0 = n := Nat.ofDigitChars_ten_toDigits
  unfold readUnsigned
  rw [if_neg (by simp [hne, hall])]
  simp only [hvalue]
  rw [if_pos h]

@[simp] theorem readUInt32_writeNat (n : UInt32) :
    readUInt32 (writeNat n.toNat) = some n := by
  have hn : n.toNat ≤ 2 ^ 32 - 1 := by
    have := n.toNat_lt
    omega
  unfold readUInt32
  rw [readUnsigned_toDigits hn]
  simp

@[simp] theorem readUInt64_writeNat (n : UInt64) :
    readUInt64 (writeNat n.toNat) = some n := by
  have hn : n.toNat ≤ 2 ^ 64 - 1 := by
    have := n.toNat_lt
    omega
  unfold readUInt64
  rw [readUnsigned_toDigits hn]
  simp

/-- **Signed integers read back.** -/
@[simp] theorem readInt32_writeInt32 (value : Int32) :
    readInt32 (writeInt32 value) = some value := by
  have hlow := value.le_toInt
  have hhigh := value.toInt_lt
  unfold writeInt32
  by_cases hneg : value.toInt < 0
  · have habs : -((value.toInt.natAbs : Nat) : Int) = value.toInt := by omega
    rw [if_pos hneg]
    simp only [readInt32]
    rw [readUnsigned_toDigits (by omega), Option.map_some, habs, Int32.ofInt_toInt]
  · have habs : ((value.toInt.natAbs : Nat) : Int) = value.toInt := by omega
    have hfirst : ∀ digits, writeNat value.toInt.natAbs ≠ '-' :: digits := by
      intro digits heq
      exact absurd (writeNat_digits value.toInt.natAbs '-' (by simp [heq])) (by decide)
    rw [if_neg hneg]
    unfold readInt32
    split
    · rename_i digits heq
      exact absurd heq (hfirst digits)
    · rw [readUnsigned_toDigits (by omega), Option.map_some, habs, Int32.ofInt_toInt]

/-- The decimal spelling of a 32-bit value is short. -/
theorem writeNat_length {n digits : Nat} (hpos : 0 < digits) (h : n < 10 ^ digits) :
    (writeNat n).length ≤ digits :=
  (Nat.length_toDigits_le_iff (by decide) hpos).mpr h

end OpenArm.Manifest
