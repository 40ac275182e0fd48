/-
  OpenArm.Portal.DisplayCalibration — from encoder angles to displayed angles.

  `DisplayCalibration`: a direction, a reference and an offset for each of
  fourteen joints, their mutators, and the file they are kept in.  Numbers are
  exact; which of them count as finite, how they are printed and how a stream
  reads them is left open (`Numerics`).  A NaN is `none`.

  Main results:
    * `load_save`, `load_legacy` — both file formats.
    * `calibration_mapping` — in every run the mapping is invertible and
      lossless, and a failed call changes nothing unless it captured a position
      whose offset is not finite.
    * `set_current_breaks`  — that one does.
-/
import OpenArm.Lib.Floating
import OpenArm.Lib.Stream
import OpenArm.Lib.Transition

namespace OpenArm.Portal

open OpenArm.Lib

/-! ## §1. The mapping. -/

/-- `JointDisplayCalibration`. -/
structure JointDisplayCalibration where
  direction : Int
  referenceRad : ℚ
  offsetRad : ℚ

/-- The members' initial values. -/
def JointDisplayCalibration.initial : JointDisplayCalibration := ⟨1, 0, 0⟩

/-- `joints_`. -/
abbrev DisplayCalibration := Fin 2 → Fin 7 → JointDisplayCalibration

/-- Finiteness, printing with seventeen digits and stream extraction of numbers. -/
structure Numerics where
  finite : ℚ → Bool
  print : ℚ → List Char
  read : List Char → Extraction ℚ

/-- `direction * (raw - reference) + offset`. -/
def JointDisplayCalibration.toModel (joint : JointDisplayCalibration) (raw : ℚ) : ℚ :=
  joint.direction * (raw - joint.referenceRad) + joint.offsetRad

/-- `reference + direction * (model - offset)`. -/
def JointDisplayCalibration.toRaw (joint : JointDisplayCalibration) (model : ℚ) : ℚ :=
  joint.referenceRad + joint.direction * (model - joint.offsetRad)

/-- `finite_joint`. -/
def Numerics.finiteJoint (n : Numerics) (value : JointDisplayCalibration) : Bool :=
  (value.direction == -1 || value.direction == 1) && n.finite value.referenceRad &&
    n.finite value.offsetRad

/-- The offset that displays `target` at `raw`. -/
def JointDisplayCalibration.offsetFor (value : JointDisplayCalibration)
    (rawRad targetRad : ℚ) : ℚ := targetRad - value.direction * (rawRad - value.referenceRad)

namespace DisplayCalibration

variable (n : Numerics) (c : DisplayCalibration)

/-- `position`. -/
def position (side joint : Nat) (rawRad : ℚ) : Option ℚ :=
  if h : side < 2 ∧ joint < 7 then
    if n.finite rawRad then some ((c ⟨side, h.1⟩ ⟨joint, h.2⟩).toModel rawRad) else none
  else none

/-- `raw_position`. -/
def rawPosition (side joint : Nat) (modelRad : ℚ) : Option ℚ :=
  if h : side < 2 ∧ joint < 7 then
    if n.finite modelRad then some ((c ⟨side, h.1⟩ ⟨joint, h.2⟩).toRaw modelRad) else none
  else none

/-- `signed_value`. -/
def signedValue (side joint : Nat) (rawValue : ℚ) : Option ℚ :=
  if h : side < 2 ∧ joint < 7 then
    if n.finite rawValue then some ((c ⟨side, h.1⟩ ⟨joint, h.2⟩).direction * rawValue) else none
  else none

/-! ## §2. Mutators. -/

/-- One joint replaced. -/
def setJoint (side : Fin 2) (joint : Fin 7) (value : JointDisplayCalibration) :
    DisplayCalibration := fun s j => if s = side ∧ j = joint then value else c s j

/-- `flip_direction`. -/
def flipDirection (side joint : Nat) : DisplayCalibration × Bool :=
  if h : side < 2 ∧ joint < 7 then
    let value := c ⟨side, h.1⟩ ⟨joint, h.2⟩
    (c.setJoint ⟨side, h.1⟩ ⟨joint, h.2⟩ { value with direction := -value.direction }, true)
  else (c, false)

/-- `add_offset`: the sum is checked before it is assigned. -/
def addOffset (side joint : Nat) (deltaRad : ℚ) : DisplayCalibration × Bool :=
  if h : side < 2 ∧ joint < 7 then
    let value := c ⟨side, h.1⟩ ⟨joint, h.2⟩
    if !n.finite deltaRad then (c, false)
    else if !n.finite (value.offsetRad + deltaRad) then (c, false)
    else
      (c.setJoint ⟨side, h.1⟩ ⟨joint, h.2⟩ { value with offsetRad := value.offsetRad + deltaRad },
        true)
  else (c, false)

/-- `set_current_position`: the offset is assigned before it is checked. -/
def setCurrentPosition (side joint : Nat) (rawRad targetRad : ℚ) : DisplayCalibration × Bool :=
  if h : side < 2 ∧ joint < 7 then
    if !n.finite rawRad || !n.finite targetRad then (c, false)
    else
      let value := c ⟨side, h.1⟩ ⟨joint, h.2⟩
      let offsetRad := value.offsetFor rawRad targetRad
      (c.setJoint ⟨side, h.1⟩ ⟨joint, h.2⟩ { value with offsetRad }, n.finite offsetRad)
  else (c, false)

/-- `capture_current_as_zero`. -/
def captureCurrentAsZero (side : Nat) (rawRad : Fin 7 → ℚ) : DisplayCalibration × Bool :=
  if side < 2 then
    if (List.finRange 7).any fun joint => !n.finite (rawRad joint) then (c, false)
    else
      (fun s j =>
        if s.val = side then { c s j with referenceRad := rawRad j, offsetRad := 0 } else c s j,
        true)
  else (c, false)

/-- `clear_references_and_offsets`. -/
def clearReferencesAndOffsets : DisplayCalibration := fun s j =>
  { c s j with referenceRad := 0, offsetRad := 0 }

/-! ## §3. The file. -/

/-- `kVersion`. -/
def kVersion : String := "OPENARM_REAL_DISPLAY_CALIBRATION_V2"

/-- The line of one joint. -/
def savedRecord (side : Fin 2) (joint : Fin 7) : List Char :=
  let value := c side joint
  (toString side.val).toList ++ ' ' :: ((toString joint.val).toList ++ ' ' ::
    ((toString value.direction).toList ++ ' ' :: (n.print value.referenceRad ++ ' ' ::
      (n.print value.offsetRad ++ ['\n']))))

/-- The joints in the order of the file. -/
def recordOrder : List (Fin 2 × Fin 7) :=
  (List.finRange 2).flatMap fun side => (List.finRange 7).map fun joint => (side, joint)

/-- What `save` writes. -/
def savedText : List Char :=
  kVersion.toList ++ '\n' :: recordOrder.flatMap fun (side, joint) => c.savedRecord n side joint

/-- The files by their paths. -/
abbrev Files := String → Option (List Char)

/-- What the system makes of a save: the file opens, takes the text and is
    renamed, and what stays at the temporary path otherwise. -/
structure FileOutcome where
  opens : Bool
  writes : Bool
  renames : Bool
  left : Option (List Char)

/-- `save`. -/
def save (files : Files) (path : String) (o : FileOutcome) : Files × Bool × String :=
  let temporaryPath := path ++ ".tmp"
  let failed := Function.update files temporaryPath o.left
  if !o.opens then (files, false, "could not open temporary calibration file " ++ temporaryPath)
  else if recordOrder.any fun (side, joint) => !n.finiteJoint (c side joint) then
    (failed, false, "refusing to save a non-finite display calibration")
  else if !o.writes then
    (failed, false, "failed while writing calibration file " ++ temporaryPath)
  else if !o.renames then (failed, false, "could not replace calibration file " ++ path)
  else
    (Function.update (Function.update files temporaryPath none) path (some (c.savedText n)),
      true, "")

/-- The extractions of one record. -/
def loadRecord (text : List Char) :
    Option (Nat × Nat × JointDisplayCalibration × List Char) :=
  match readUnsigned 64 text with
  | .failure _ => none
  | .value side text =>
    match readUnsigned 64 text with
    | .failure _ => none
    | .value jointIndex text =>
      match readSigned 32 text with
      | .failure _ => none
      | .value direction text =>
        match n.read text with
        | .failure _ => none
        | .value referenceRad text =>
          match n.read text with
          | .failure _ => none
          | .value offsetRad text =>
            some (side, jointIndex, ⟨direction, referenceRad, offsetRad⟩, text)

/-- The records of a V2 file, those `seen` so far and what they say. -/
def loadRecords : Nat → (Fin 2 → Fin 7 → Bool) → DisplayCalibration → List Char →
    Option DisplayCalibration
  | 0, _, parsed, _ => some parsed
  | records + 1, seen, parsed, text =>
    match loadRecord n text with
    | none => none
    | some (side, joint, value, text) =>
      if h : side < 2 ∧ joint < 7 then
        if !n.finiteJoint value || seen ⟨side, h.1⟩ ⟨joint, h.2⟩ then none
        else
          loadRecords records
            (fun s j => if s = ⟨side, h.1⟩ ∧ j = ⟨joint, h.2⟩ then true else seen s j)
            (parsed.setJoint ⟨side, h.1⟩ ⟨joint, h.2⟩ value) text
      else none

/-- The directions that may follow the rows of a legacy file. -/
def legacyDirections (text : List Char) : Fin 2 → ℚ :=
  match n.read text with
  | .failure written => ![written.getD 1, 1]
  | .value left rest =>
    match n.read rest with
    | .failure written => ![left, written.getD 1]
    | .value right _ => ![left, right]

/-- The members a legacy file leads to. -/
def migrated (references directions : Fin 2 → Fin 7 → ℚ) : DisplayCalibration := fun side joint =>
  ⟨if directions side joint < 0 then -1 else 1, references side joint, 0⟩

/-- The first line, without its end. -/
def firstLine (text : List Char) : List Char := text.takeWhile (· != '\n')

/-- What follows it. -/
def afterFirstLine (text : List Char) : List Char := (text.dropWhile (· != '\n')).drop 1

/-- `load`. -/
def load (files : Files) (path : String) : DisplayCalibration × Bool × String :=
  match files path with
  | none => (c, false, "no saved display calibration")
  | some text =>
    if firstLine text = kVersion.toList then
      match loadRecords n 14 (fun _ _ => false) (fun _ _ => .initial) (afterFirstLine text) with
      | none => (c, false, "saved V2 display calibration is malformed; defaults retained")
      | some parsed => (parsed, true, "loaded V2 per-joint display calibration")
    else
      match readAll n.read 14 text with
      | none => (c, false, "saved legacy display calibration is malformed; defaults retained")
      | some (values, rest) =>
        if values.any fun value => !n.finite value then
          (c, false, "saved legacy display calibration is malformed; defaults retained")
        else
          (migrated (fun side joint => values.getD (7 * side.val + joint.val) 0)
            fun side _ => legacyDirections n rest side,
            true, "migrated legacy arm-wide calibration to V2 per-joint calibration")

end DisplayCalibration

/-! ## §4. Any sequence of calls. -/

/-- A call of the class. -/
inductive DisplayCall where
  | flipDirection (side joint : Nat)
  | addOffset (side joint : Nat) (deltaRad : ℚ)
  | setCurrentPosition (side joint : Nat) (rawRad targetRad : ℚ)
  | captureCurrentAsZero (side : Nat) (rawRad : Fin 7 → ℚ)
  | clearReferencesAndOffsets
  | save (path : String) (o : DisplayCalibration.FileOutcome)
  | load (path : String)

/-- An object and the files it works with. -/
structure DisplayState where
  joints : DisplayCalibration
  files : DisplayCalibration.Files

/-- What a call leaves and returns. -/
def DisplayState.perform (n : Numerics) (s : DisplayState) : DisplayCall → DisplayState × Bool
  | .flipDirection side joint =>
    let (joints, ok) := s.joints.flipDirection side joint
    ({ s with joints }, ok)
  | .addOffset side joint deltaRad =>
    let (joints, ok) := s.joints.addOffset n side joint deltaRad
    ({ s with joints }, ok)
  | .setCurrentPosition side joint rawRad targetRad =>
    let (joints, ok) := s.joints.setCurrentPosition n side joint rawRad targetRad
    ({ s with joints }, ok)
  | .captureCurrentAsZero side rawRad =>
    let (joints, ok) := s.joints.captureCurrentAsZero n side rawRad
    ({ s with joints }, ok)
  | .clearReferencesAndOffsets =>
    ({ s with joints := s.joints.clearReferencesAndOffsets }, true)
  | .save path o =>
    let (files, ok, _) := s.joints.save n s.files path o
    ({ s with files }, ok)
  | .load path =>
    let (joints, ok, _) := s.joints.load n s.files path
    ({ s with joints }, ok)

/-- The life of an object, with what its calls return. -/
def displaySystem (n : Numerics) : Lts DisplayState (DisplayCall × Bool) where
  init s := s.joints = fun _ _ => .initial
  step s e s' := s.perform n e.1 = (s', e.2)

/-! ## §5. The inverse. -/

/-- A direction that can be undone. -/
def JointDisplayCalibration.Unit (value : JointDisplayCalibration) : Prop :=
  value.direction = 1 ∨ value.direction = -1

namespace JointDisplayCalibration

variable {value : JointDisplayCalibration} (h : value.Unit)

include h

theorem toRaw_toModel (raw : ℚ) : value.toRaw (value.toModel raw) = raw := by
  unfold toRaw toModel
  obtain hd | hd := h <;> rw [hd] <;> push_cast <;> ring

theorem toModel_toRaw (model : ℚ) : value.toModel (value.toRaw model) = model := by
  unfold toRaw toModel
  obtain hd | hd := h <;> rw [hd] <;> push_cast <;> ring

theorem toModel_bijective : Function.Bijective value.toModel :=
  Function.bijective_iff_has_inverse.mpr ⟨value.toRaw, toRaw_toModel h, toModel_toRaw h⟩

end JointDisplayCalibration

/-- **The offset found for a target displays it.** -/
theorem toModel_offsetFor (value : JointDisplayCalibration) (raw target : ℚ) :
    ({ value with offsetRad := value.offsetFor raw target } : JointDisplayCalibration).toModel
      raw = target := by
  unfold JointDisplayCalibration.toModel JointDisplayCalibration.offsetFor
  ring

/-! ## §6. The file, there and back. -/

/-- What is assumed of printing and reading: finite values read back, white
    space is skipped, and neither the end of a text nor a letter spells one. -/
structure Numerics.Exact (n : Numerics) : Prop extends ReadsBack n.read n.print n.finite where
  blank : n.read [] = .failure none
  letter : ∀ text, n.read ('O' :: text) = .failure (some 0)

namespace DisplayCalibration

variable {n : Numerics} {c : DisplayCalibration}

theorem toString_digit {k : Nat} (h : k < 10) : (toString k).toList = [digitChar k] := by
  interval_cases k <;> decide

/-- **A saved record is read back**, up to the end of its line. -/
theorem loadRecord_savedRecord (hn : n.Exact) {side : Fin 2} {joint : Fin 7}
    (hfinite : n.finiteJoint (c side joint) = true) {spaces rest : List Char}
    (hspaces : ∀ a ∈ spaces, isSpace a = true) :
    loadRecord n (spaces ++ (c.savedRecord n side joint ++ rest)) =
      some (side.val, joint.val, c side joint, '\n' :: rest) := by
  have hspace : ∀ a ∈ [' '], isSpace a = true := spaces_singleton rfl
  simp only [Numerics.finiteJoint, Bool.and_eq_true, Bool.or_eq_true, beq_iff_eq] at hfinite
  obtain ⟨⟨hdirection, hreference⟩, hoffset⟩ := hfinite
  -- the two numbers, each behind a space
  have hoff : n.read (' ' :: (n.print (c side joint).offsetRad ++ '\n' :: rest)) =
      .value (c side joint).offsetRad ('\n' :: rest) := by
    rw [hn.skips _ _ rfl, hn.back _ _ hoffset (ends_cons rfl)]
  have href : ∀ text, n.read (' ' :: (n.print (c side joint).referenceRad ++ ' ' :: text)) =
      .value (c side joint).referenceRad (' ' :: text) := by
    intro text
    rw [hn.skips _ _ rfl, hn.back _ _ hreference (ends_cons rfl)]
  have hdir : ∀ text, readSigned 32 (' ' :: ((toString (c side joint).direction).toList ++
      ' ' :: text)) = .value (c side joint).direction (' ' :: text) := by
    intro text
    have hends : Ends (' ' :: text) := ends_cons rfl
    have hunit := readSigned_unit (show 4 ≤ 32 by decide) hspace hends
    obtain hd | hd := hdirection
    · rw [hd]
      exact hunit.2
    · rw [hd]
      exact hunit.1
  unfold loadRecord savedRecord
  rw [toString_digit (show side.val < 10 by omega), toString_digit (show joint.val < 10 by omega)]
  simp only [List.append_assoc, List.cons_append, List.nil_append]
  rw [readUnsigned_digit (by omega) (by decide) hspaces (ends_cons rfl)]
  dsimp only
  rw [show ' ' :: digitChar joint.val :: _ = [' '] ++ digitChar joint.val :: _ from rfl,
    readUnsigned_digit (by omega) (by decide) hspace (ends_cons rfl)]
  dsimp only
  rw [hdir]
  dsimp only
  rw [href]
  dsimp only
  rw [hoff]

/-- **Records of different joints are read back**, one after the other. -/
theorem loadRecords_saved (hn : n.Exact)
    (hfinite : ∀ side joint, n.finiteJoint (c side joint) = true) :
    ∀ (order : List (Fin 2 × Fin 7)) (seen : Fin 2 → Fin 7 → Bool) (parsed : DisplayCalibration)
      (spaces : List Char), order.Nodup → (∀ p ∈ order, seen p.1 p.2 = false) →
      (∀ a ∈ spaces, isSpace a = true) →
      loadRecords n order.length seen parsed (spaces ++ order.flatMap fun (side, joint) =>
        c.savedRecord n side joint) =
          some fun side joint => if (side, joint) ∈ order then c side joint
            else parsed side joint := by
  intro order
  induction order with
  | nil =>
    intro seen parsed spaces _ _ _
    simp [loadRecords]
  | cons p order ih =>
    obtain ⟨side, joint⟩ := p
    intro seen parsed spaces hnodup hseen hspaces
    obtain ⟨hnew, hnodup⟩ := List.nodup_cons.mp hnodup
    rw [List.length_cons, List.flatMap_cons]
    unfold loadRecords
    rw [loadRecord_savedRecord hn (hfinite side joint) hspaces]
    dsimp only
    have hunseen := hseen (side, joint) (by simp)
    rw [dif_pos ⟨side.isLt, joint.isLt⟩, if_neg (by simp [hfinite, hunseen])]
    have hrest := ih (fun s j => if s = side ∧ j = joint then true else seen s j)
      (parsed.setJoint side joint (c side joint)) ['\n'] hnodup (fun q hq => ?_)
        (spaces_singleton rfl)
    · rw [List.cons_append, List.nil_append] at hrest
      rw [hrest]
      congr 1
      funext s j
      unfold setJoint
      by_cases hsame : s = side ∧ j = joint
      · obtain ⟨rfl, rfl⟩ := hsame
        simp [hnew]
      · have hne : (s, j) ≠ (side, joint) := fun heq => hsame ⟨congrArg Prod.fst heq,
          congrArg Prod.snd heq⟩
        simp [hsame, hne]
    · rw [if_neg]
      · exact hseen q (by simp [hq])
      · rintro ⟨rfl, rfl⟩
        exact hnew hq

theorem mem_recordOrder (side : Fin 2) (joint : Fin 7) : (side, joint) ∈ recordOrder := by
  revert side joint
  decide

theorem kVersion_line : ∀ a ∈ kVersion.toList, (a != '\n') = true := by
  rw [← List.all_eq_true]
  decide +kernel

/-- **What has been saved is loaded again.** -/
theorem load_save (hn : n.Exact) {files files' : Files} {path : String} {o : FileOutcome}
    {detail : String} (h : c.save n files path o = (files', true, detail))
    (d : DisplayCalibration) : ∃ detail', d.load n files' path = (c, true, detail') := by
  unfold save at h
  dsimp only at h
  split at h
  · cases h
  · split at h
    · cases h
    · next hall =>
      split at h
      · cases h
      · split at h
        · cases h
        · cases h
          have hfinite : ∀ side joint, n.finiteJoint (c side joint) = true := by
            intro side joint
            by_contra hbad
            exact hall (List.any_eq_true.mpr
              ⟨(side, joint), mem_recordOrder side joint, by simpa using hbad⟩)
          have hfirst : firstLine (c.savedText n) = kVersion.toList ∧
              afterFirstLine (c.savedText n) =
                recordOrder.flatMap fun (side, joint) => c.savedRecord n side joint := by
            constructor
            · unfold firstLine savedText
              rw [List.takeWhile_append_of_pos kVersion_line,
                List.takeWhile_cons_of_neg (by decide),
                List.append_nil]
            · unfold afterFirstLine savedText
              rw [List.dropWhile_append_of_pos kVersion_line,
                List.dropWhile_cons_of_neg (by decide)]
              rfl
          have hrecords := loadRecords_saved hn hfinite recordOrder (fun _ _ => false)
            (fun _ _ => .initial) [] (by decide) (fun _ _ => rfl) (by simp)
          refine ⟨"loaded V2 per-joint display calibration", ?_⟩
          unfold load
          rw [Function.update_self]
          dsimp only
          rw [if_pos hfirst.1, hfirst.2]
          rw [List.nil_append, show recordOrder.length = 14 by decide] at hrecords
          rw [hrecords]
          dsimp only
          congr 1
          funext side joint
          exact if_pos (mem_recordOrder side joint)

/-- **A legacy file becomes its rows and directions.** -/
theorem load_legacy (hn : n.Exact) {files : Files} {path : String} {text rest : List Char}
    {references : Fin 2 → Fin 7 → ℚ} (hfile : files path = some text)
    (hrows : Spells n.print n.finite
      (recordOrder.map fun (side, joint) => references side joint) text rest)
    (d : DisplayCalibration) :
    ∃ detail, d.load n files path =
      (migrated references fun side _ => legacyDirections n rest side, true, detail) := by
  have hread := readAll_spells hn.toReadsBack hrows
  rw [List.length_map, show recordOrder.length = 14 by decide] at hread
  -- the first line is not that of the other format: that would not be read as a number
  have hlegacy : firstLine text ≠ kVersion.toList := by
    intro hfirst
    have hletter : ∃ more, text = 'O' :: more := by
      cases text with
      | nil =>
        unfold firstLine at hfirst
        exact absurd hfirst (by decide +kernel)
      | cons a more =>
        refine ⟨more, ?_⟩
        unfold firstLine at hfirst
        rw [List.takeWhile_cons] at hfirst
        split at hfirst
        · have hhead := congrArg List.head? hfirst
          rw [List.head?_cons, show kVersion.toList.head? = some 'O' by decide +kernel] at hhead
          rw [Option.some.inj hhead]
        · exact absurd hfirst (by decide +kernel)
    obtain ⟨more, rfl⟩ := hletter
    unfold readAll at hread
    rw [hn.letter] at hread
    cases hread
  have hfinite : ¬ (recordOrder.map fun (side, joint) => references side joint).any
      (fun value => !n.finite value) = true := by
    intro hany
    obtain ⟨value, hvalue, hbad⟩ := List.any_eq_true.mp hany
    rw [spells_good hrows value hvalue] at hbad
    cases hbad
  refine ⟨"migrated legacy arm-wide calibration to V2 per-joint calibration", ?_⟩
  unfold load
  rw [hfile]
  dsimp only
  rw [if_neg hlegacy, hread]
  dsimp only
  rw [if_neg hfinite]
  have hrow : ∀ side : Fin 2, ∀ joint : Fin 7,
      (recordOrder.map fun (side, joint) => references side joint).getD
        (7 * side.val + joint.val) 0 = references side joint := by
    intro side joint
    fin_cases side <;> fin_cases joint <;> rfl
  congr 2
  funext side joint
  exact hrow side joint

/-- The directions of a legacy file are those it spells, or forward. -/
theorem legacyDirections_spells (hn : n.Exact) {left right : ℚ} {text rest : List Char}
    (h : Spells n.print n.finite [left, right] text rest) :
    legacyDirections n text = ![left, right] := by
  obtain _ | ⟨hspaces, hleft, hends, h⟩ := h
  obtain _ | ⟨hspaces', hright, hends', _⟩ := h
  unfold legacyDirections
  rw [hn.toReadsBack.spaces hspaces, hn.back _ _ hleft hends]
  dsimp only
  rw [hn.toReadsBack.spaces hspaces', hn.back _ _ hright hends']

theorem legacyDirections_blank (hn : n.Exact) : legacyDirections n [] = ![1, 1] := by
  unfold legacyDirections
  rw [hn.blank]
  rfl

/-! ## §7. Directions are units. -/

/-- Every direction can be undone. -/
def Units (c : DisplayCalibration) : Prop := ∀ side joint, (c side joint).Unit

theorem Units.setJoint (h : c.Units) {side : Fin 2} {joint : Fin 7}
    {value : JointDisplayCalibration} (hvalue : value.Unit) :
    (c.setJoint side joint value).Units := by
  intro s j
  unfold DisplayCalibration.setJoint
  split
  · exact hvalue
  · exact h s j

theorem initial_unit : JointDisplayCalibration.initial.Unit := Or.inl rfl

theorem finiteJoint_unit {value : JointDisplayCalibration} (h : n.finiteJoint value = true) :
    value.Unit := by
  simp only [Numerics.finiteJoint, Bool.and_eq_true, Bool.or_eq_true, beq_iff_eq] at h
  exact h.1.1.symm

theorem flipDirection_units (h : c.Units) (side joint : Nat) :
    (c.flipDirection side joint).1.Units := by
  unfold flipDirection
  split
  · next hvalid =>
    refine h.setJoint ?_
    obtain hd | hd := h ⟨side, hvalid.1⟩ ⟨joint, hvalid.2⟩
    · exact Or.inr (congrArg Neg.neg hd)
    · exact Or.inl (by simp [hd])
  · exact h

theorem addOffset_units (h : c.Units) (side joint : Nat) (deltaRad : ℚ) :
    (c.addOffset n side joint deltaRad).1.Units := by
  unfold addOffset
  split
  · dsimp only
    split
    · exact h
    · split
      · exact h
      · exact h.setJoint (h _ _)
  · exact h

theorem setCurrentPosition_units (h : c.Units) (side joint : Nat) (rawRad targetRad : ℚ) :
    (c.setCurrentPosition n side joint rawRad targetRad).1.Units := by
  unfold setCurrentPosition
  split
  · split
    · exact h
    · exact h.setJoint (h _ _)
  · exact h

theorem captureCurrentAsZero_units (h : c.Units) (side : Nat) (rawRad : Fin 7 → ℚ) :
    (c.captureCurrentAsZero n side rawRad).1.Units := by
  unfold captureCurrentAsZero
  split
  · split
    · exact h
    · intro s j
      dsimp only
      split
      · exact h s j
      · exact h s j
  · exact h

/-- What the records of a file say is checked one by one. -/
theorem loadRecords_units : ∀ (records : Nat) (seen : Fin 2 → Fin 7 → Bool)
    (parsed : DisplayCalibration) (text : List Char) {loaded : DisplayCalibration},
    parsed.Units → loadRecords n records seen parsed text = some loaded → loaded.Units := by
  intro records
  induction records with
  | zero =>
    intro seen parsed text loaded hparsed h
    cases h
    exact hparsed
  | succ records ih =>
    intro seen parsed text loaded hparsed h
    unfold loadRecords at h
    split at h
    · cases h
    · split at h
      · split at h
        · cases h
        · next hgood =>
          simp only [Bool.or_eq_true, Bool.not_eq_eq_eq_not, not_or, Bool.not_true,
            Bool.not_eq_false] at hgood
          exact ih _ _ _ (hparsed.setJoint (finiteJoint_unit hgood.1)) h
      · cases h

theorem load_units (h : c.Units) (files : Files) (path : String) :
    (c.load n files path).1.Units := by
  unfold load
  split
  · exact h
  · split
    · split
      · exact h
      · next parsed hparsed =>
        exact loadRecords_units 14 _ _ _ (fun _ _ => initial_unit) hparsed
    · split
      · exact h
      · split
        · exact h
        · intro side joint
          show (if _ then (-1 : Int) else 1) = 1 ∨ (if _ then (-1 : Int) else 1) = -1
          split
          · exact Or.inr rfl
          · exact Or.inl rfl

end DisplayCalibration

theorem DisplayState.perform_units {n : Numerics} {s : DisplayState} (h : s.joints.Units)
    (call : DisplayCall) : (s.perform n call).1.joints.Units := by
  cases call with
  | flipDirection side joint => exact DisplayCalibration.flipDirection_units h side joint
  | addOffset side joint delta => exact DisplayCalibration.addOffset_units h side joint delta
  | setCurrentPosition side joint raw target =>
    exact DisplayCalibration.setCurrentPosition_units h side joint raw target
  | captureCurrentAsZero side raw =>
    exact DisplayCalibration.captureCurrentAsZero_units h side raw
  | clearReferencesAndOffsets => exact h
  | save path o => exact h
  | load path => exact DisplayCalibration.load_units h s.files path

/-- **Directions stay units** in every run. -/
theorem displaySystem_units {n : Numerics} {s₀ s : DisplayState} {es : List (DisplayCall × Bool)}
    (hinit : (displaySystem n).init s₀) (hrun : (displaySystem n).Run s₀ es s) :
    s.joints.Units := by
  refine hrun.invariant (I := fun s => s.joints.Units) ?_ fun s e s' hstep hs => ?_
  · rw [show s₀.joints = fun _ _ => .initial from hinit]
    exact fun _ _ => DisplayCalibration.initial_unit
  · have hperform : s.perform n e.1 = (s', e.2) := hstep
    have hunits := DisplayState.perform_units (n := n) hs e.1
    rwa [hperform] at hunits

/-! ## §8. Failed calls. -/

/-- The position captured by this call leads to a finite offset, or to the one
    that is there already. -/
def DisplayCall.Fits (n : Numerics) (joints : DisplayCalibration) : DisplayCall → Prop
  | .setCurrentPosition side joint rawRad targetRad =>
    ∀ (hside : side < 2) (hjoint : joint < 7), n.finite rawRad = true → n.finite targetRad = true →
      let value := joints ⟨side, hside⟩ ⟨joint, hjoint⟩
      n.finite (value.offsetFor rawRad targetRad) = true ∨
        value.offsetFor rawRad targetRad = value.offsetRad
  | _ => True

namespace DisplayCalibration

variable {n : Numerics} {c : DisplayCalibration}

theorem setJoint_eq_self {side : Fin 2} {joint : Fin 7} {value : JointDisplayCalibration} :
    c.setJoint side joint value = c ↔ value = c side joint := by
  constructor
  · intro h
    have hat := congrFun (congrFun h side) joint
    unfold setJoint at hat
    rwa [if_pos ⟨rfl, rfl⟩] at hat
  · intro h
    funext s j
    unfold setJoint
    split
    · next hsame =>
      obtain ⟨rfl, rfl⟩ := hsame
      exact h
    · rfl

/-- **A captured position that fails** has changed nothing exactly if it led
    to the offset that was there. -/
theorem setCurrentPosition_failed {side joint : Nat} {rawRad targetRad : ℚ}
    (h : (c.setCurrentPosition n side joint rawRad targetRad).2 = false) :
    (c.setCurrentPosition n side joint rawRad targetRad).1 = c ↔
      (DisplayCall.setCurrentPosition side joint rawRad targetRad).Fits n c := by
  unfold setCurrentPosition at h ⊢
  unfold DisplayCall.Fits
  by_cases hvalid : side < 2 ∧ joint < 7
  · rw [dif_pos hvalid] at h ⊢
    by_cases hfinite : n.finite rawRad = true ∧ n.finite targetRad = true
    · have hpass : ¬ (!n.finite rawRad || !n.finite targetRad) = true := by
        simp [hfinite.1, hfinite.2]
      rw [if_neg hpass] at h ⊢
      dsimp only at h ⊢
      rw [setJoint_eq_self]
      constructor
      · intro hsame _ _ _ _
        exact Or.inr (congrArg JointDisplayCalibration.offsetRad hsame)
      · intro hfits
        obtain hgood | hsame := hfits hvalid.1 hvalid.2 hfinite.1 hfinite.2
        · rw [hgood] at h
          cases h
        · rw [hsame]
    · have hstop : (!n.finite rawRad || !n.finite targetRad) = true := by
        by_contra hpass
        simp only [Bool.or_eq_true, Bool.not_eq_true', not_or, Bool.not_eq_false] at hpass
        exact hfinite hpass
      rw [if_pos hstop]
      exact ⟨fun _ _ _ hraw htarget => absurd ⟨hraw, htarget⟩ hfinite, fun _ => rfl⟩
  · rw [dif_neg hvalid]
    exact ⟨fun _ hside hjoint => absurd ⟨hside, hjoint⟩ hvalid, fun _ => rfl⟩

end DisplayCalibration

/-- **A call that fails changes no joint**, unless it captured a position. -/
theorem DisplayState.perform_failed {n : Numerics} {s s' : DisplayState} {call : DisplayCall}
    (h : s.perform n call = (s', false)) : s'.joints = s.joints ↔ call.Fits n s.joints := by
  have hleft : (s.perform n call).1 = s' := congrArg Prod.fst h
  have hfailed : (s.perform n call).2 = false := congrArg Prod.snd h
  rw [← hleft]
  cases call with
  | flipDirection side joint =>
    refine iff_of_true ?_ trivial
    show (s.joints.flipDirection side joint).1 = s.joints
    have hno : (s.joints.flipDirection side joint).2 = false := hfailed
    unfold DisplayCalibration.flipDirection at hno ⊢
    split at hno
    · cases hno
    · next hvalid => rw [dif_neg hvalid]
  | addOffset side joint delta =>
    refine iff_of_true ?_ trivial
    show (s.joints.addOffset n side joint delta).1 = s.joints
    have hno : (s.joints.addOffset n side joint delta).2 = false := hfailed
    unfold DisplayCalibration.addOffset at hno ⊢
    by_cases hvalid : side < 2 ∧ joint < 7
    · rw [dif_pos hvalid] at hno ⊢
      dsimp only at hno ⊢
      split
      · rfl
      · next hdelta =>
        rw [if_neg hdelta] at hno
        split
        · rfl
        · next hsum =>
          rw [if_neg hsum] at hno
          cases hno
    · rw [dif_neg hvalid]
  -- the one call that assigns before it has checked
  | setCurrentPosition side joint raw target =>
    exact DisplayCalibration.setCurrentPosition_failed hfailed
  | captureCurrentAsZero side raw =>
    refine iff_of_true ?_ trivial
    show (s.joints.captureCurrentAsZero n side raw).1 = s.joints
    have hno : (s.joints.captureCurrentAsZero n side raw).2 = false := hfailed
    unfold DisplayCalibration.captureCurrentAsZero at hno ⊢
    by_cases hvalid : side < 2
    · rw [if_pos hvalid] at hno ⊢
      split
      · rfl
      · next hfinite =>
        rw [if_neg hfinite] at hno
        cases hno
    · rw [if_neg hvalid]
  | clearReferencesAndOffsets => cases hfailed
  | save path o => exact iff_of_true rfl trivial
  -- a file is read into a table of its own first
  | load path =>
    refine iff_of_true ?_ trivial
    show (s.joints.load n s.files path).1 = s.joints
    have hno : (s.joints.load n s.files path).2.1 = false := hfailed
    unfold DisplayCalibration.load at hno ⊢
    split
    · rfl
    · next text hfile =>
      rw [hfile] at hno
      dsimp only at hno
      split
      · next hversion =>
        rw [if_pos hversion] at hno
        split
        · rfl
        · next parsed hparsed =>
          rw [hparsed] at hno
          cases hno
      · next hversion =>
        rw [if_neg hversion] at hno
        split
        · rfl
        · next values rest hread =>
          rw [hread] at hno
          dsimp only at hno
          split
          · rfl
          · next hfinite =>
            rw [if_neg hfinite] at hno
            cases hno

/-- **A captured position that succeeds** is displayed as its target. -/
theorem setCurrentPosition_displays {n : Numerics} {c d : DisplayCalibration} {side joint : Nat}
    {rawRad targetRad : ℚ} (h : c.setCurrentPosition n side joint rawRad targetRad = (d, true)) :
    d.position n side joint rawRad = some targetRad := by
  unfold DisplayCalibration.setCurrentPosition at h
  by_cases hvalid : side < 2 ∧ joint < 7
  · rw [dif_pos hvalid] at h
    split at h
    · cases h
    · next hpass =>
      simp only [Bool.or_eq_true, Bool.not_eq_true', not_or, Bool.not_eq_false] at hpass
      have hset := congrArg Prod.fst h
      dsimp only at hset
      rw [← hset]
      unfold DisplayCalibration.position DisplayCalibration.setJoint
      rw [dif_pos hvalid, if_pos hpass.1, if_pos ⟨rfl, rfl⟩, toModel_offsetFor]
  · rw [dif_neg hvalid] at h
    cases h

/-! ## §9. The contract. -/

/-- What the calibration promises in a state. -/
structure Mapped (n : Numerics) (s : DisplayState) : Prop where
  inverse : ∀ side joint, Function.Bijective (s.joints side joint).toModel ∧
    Function.LeftInverse (s.joints side joint).toRaw (s.joints side joint).toModel ∧
    Function.RightInverse (s.joints side joint).toRaw (s.joints side joint).toModel
  computed : ∀ (side : Fin 2) (joint : Fin 7) (x : ℚ), n.finite x = true →
    s.joints.position n side joint x = some ((s.joints side joint).toModel x) ∧
      s.joints.rawPosition n side joint x = some ((s.joints side joint).toRaw x)
  captured : ∀ side joint raw target s',
    s.perform n (.setCurrentPosition side joint raw target) = (s', true) →
      s'.joints.position n side joint raw = some target
  lossless : ∀ path o s', s.perform n (.save path o) = (s', true) → ∀ other : DisplayCalibration,
    (⟨other, s'.files⟩ : DisplayState).perform n (.load path) = (⟨s.joints, s'.files⟩, true)

theorem mapped_of_units {n : Numerics} (hn : n.Exact) {s : DisplayState} (h : s.joints.Units) :
    Mapped n s where
  inverse := fun side joint =>
    ⟨JointDisplayCalibration.toModel_bijective (h side joint),
      JointDisplayCalibration.toRaw_toModel (h side joint),
      JointDisplayCalibration.toModel_toRaw (h side joint)⟩
  computed := by
    intro side joint x hx
    unfold DisplayCalibration.position DisplayCalibration.rawPosition
    have hvalid : side.val < 2 ∧ joint.val < 7 := ⟨side.isLt, joint.isLt⟩
    rw [dif_pos hvalid, dif_pos hvalid, if_pos hx, if_pos hx]
    exact ⟨rfl, rfl⟩
  captured := by
    intro side joint raw target s' hset
    refine setCurrentPosition_displays (c := s.joints) ?_
    have hjoints := congrArg (fun r => (r.1.joints, r.2)) hset
    exact hjoints
  lossless := by
    intro path o s' hsave other
    have hfiles : s.joints.save n s.files path o =
        (s'.files, true, (s.joints.save n s.files path o).2.2) := by
      have hout := congrArg (fun r => (r.1.files, r.2)) hsave
      have hfst : (s.joints.save n s.files path o).1 = s'.files := congrArg Prod.fst hout
      have hsnd : (s.joints.save n s.files path o).2.1 = true := congrArg Prod.snd hout
      rw [← hfst, ← hsnd]
    obtain ⟨detail, hload⟩ := DisplayCalibration.load_save hn hfiles other
    show (let (joints, ok, _) := other.load n s'.files path
      ((⟨joints, s'.files⟩ : DisplayState), ok)) = _
    rw [hload]

/-- **The mapping of a calibration is invertible, lossless and legacy files keep
    theirs**, and a call that fails changes a joint only where a captured
    position led to another offset that is not finite. -/
theorem calibration_mapping {n : Numerics} (hn : n.Exact) {s₀ s : DisplayState}
    {es : List (DisplayCall × Bool)} (hinit : (displaySystem n).init s₀)
    (hrun : (displaySystem n).Run s₀ es s) :
    Mapped n s ∧
      (∀ call s', s.perform n call = (s', false) →
        (s'.joints = s.joints ↔ call.Fits n s.joints)) ∧
      (∀ path text rest (references : Fin 2 → Fin 7 → ℚ), s.files path = some text →
        Spells n.print n.finite (DisplayCalibration.recordOrder.map fun (side, joint) =>
          references side joint) text rest →
        ∃ s', s.perform n (.load path) = (s', true) ∧ s'.files = s.files ∧
          ∀ side joint raw, (s'.joints side joint).toModel raw =
            (if DisplayCalibration.legacyDirections n rest side < 0 then -1 else 1) *
              (raw - references side joint)) ∧
      (∀ left right text rest, Spells n.print n.finite [left, right] text rest →
        DisplayCalibration.legacyDirections n text = ![left, right]) ∧
      DisplayCalibration.legacyDirections n [] = ![1, 1] := by
  have hunits := displaySystem_units hinit hrun
  refine ⟨mapped_of_units hn hunits, fun call s' hfailed => DisplayState.perform_failed hfailed,
    fun path text rest references hfile hrows => ?_,
    fun left right text rest hspells => DisplayCalibration.legacyDirections_spells hn hspells,
    DisplayCalibration.legacyDirections_blank hn⟩
  obtain ⟨detail, hload⟩ := DisplayCalibration.load_legacy hn hfile hrows s.joints
  refine ⟨⟨DisplayCalibration.migrated references
    fun side _ => DisplayCalibration.legacyDirections n rest side, s.files⟩, ?_, rfl, ?_⟩
  · show (let (joints, ok, _) := s.joints.load n s.files path
      ((⟨joints, s.files⟩ : DisplayState), ok)) = _
    rw [hload]
  · intro side joint raw
    unfold DisplayCalibration.migrated JointDisplayCalibration.toModel
    dsimp only
    split
    · push_cast
      ring
    · push_cast
      ring

/-! ## §10. Runs. -/

/-- Numbers that are single digits. -/
def Numerics.digits : Numerics where
  finite x := (List.range 10).any fun k => (k : ℚ) == x
  print x := [digitChar x.num.toNat]
  read text :=
    match skipSpace text with
    | c :: rest =>
      if c.isDigit then .value ((c.toNat - '0'.toNat : Nat) : ℚ) rest else .failure (some 0)
    | [] => .failure none

/-- Single digits are printed and read exactly. -/
theorem digits_exact : Numerics.digits.Exact where
  back := by
    intro a rest hgood _
    obtain ⟨k, hk, hka⟩ := List.any_eq_true.mp hgood
    have hlt : k < 10 := List.mem_range.mp hk
    have ha : a = (k : ℚ) := (beq_iff_eq.mp hka).symm
    show Numerics.digits.read (digitChar a.num.toNat :: rest) = _
    rw [ha]
    unfold Numerics.digits
    dsimp only
    interval_cases k <;> rfl
  skips := by
    intro c text hspace
    unfold Numerics.digits
    dsimp only
    rw [show skipSpace (c :: text) = skipSpace text from
      skipSpace_spaces (spaces_singleton hspace)]
  blank := rfl
  letter := fun text => rfl

/-- A joint is flipped and captured: the offset undoes the flip.  What is saved then
    is loaded again into any object. -/
theorem calibration_mapping_flipped : ∃ s s' : DisplayState,
    (displaySystem .digits).Run ⟨fun _ _ => .initial, fun _ => none⟩
      [(.flipDirection 0 0, true), (.setCurrentPosition 0 0 7 0, true)] s ∧
    (s.joints 0 0).offsetRad = 7 ∧ Mapped .digits s ∧
    s.perform .digits (.save "display" ⟨true, true, true, none⟩) = (s', true) ∧
    ∀ other : DisplayCalibration, (⟨other, s'.files⟩ : DisplayState).perform .digits
      (.load "display") = (⟨s.joints, s'.files⟩, true) := by
  have hrun : (displaySystem .digits).Run ⟨fun _ _ => .initial, fun _ => none⟩
      [(.flipDirection 0 0, true), (.setCurrentPosition 0 0 7 0, true)]
      (((⟨fun _ _ => .initial, fun _ => none⟩ : DisplayState).perform .digits
        (.flipDirection 0 0)).1.perform .digits (.setCurrentPosition 0 0 7 0)).1 := by
    refine (Lts.Run.single (Prod.ext rfl rfl)).snoc (Prod.ext rfl ?_)
    decide +kernel
  have hinit : (displaySystem .digits).init ⟨fun _ _ => .initial, fun _ => none⟩ := rfl
  have hmapped := (calibration_mapping digits_exact hinit hrun).1
  refine ⟨_, _, hrun, by decide +kernel, hmapped, Prod.ext rfl ?_,
    hmapped.lossless "display" ⟨true, true, true, none⟩ _ (Prod.ext rfl ?_)⟩
  · decide +kernel
  · decide +kernel

/-- Numbers with the largest finite `double` as their bound. -/
def Numerics.bounded : Numerics where
  finite x := decide (|x| ≤ (2 ^ 53 - 1) * 2 ^ 971)
  print _ := []
  read _ := .failure none

/-- **A position whose offset is not finite** is refused and captured all the same. -/
theorem set_current_breaks : ∃ s s' : DisplayState,
    (displaySystem .bounded).Reachable s ∧
      s.perform .bounded (.setCurrentPosition 0 0 (-17 * 10 ^ 307) (17 * 10 ^ 307)) = (s', false) ∧
      s'.joints ≠ s.joints := by
  have hstart : (displaySystem .bounded).Reachable ⟨fun _ _ => .initial, fun _ => none⟩ :=
    Lts.Reachable.of_init rfl
  refine ⟨_, _, hstart, Prod.ext rfl ?_, ?_⟩
  · decide +kernel
  · intro hsame
    have hoffset := congrArg JointDisplayCalibration.offsetRad (congrFun (congrFun hsame 0) 0)
    revert hoffset
    decide +kernel

end OpenArm.Portal
