/-
  OpenArm.Manifest.Format — `manifest_canonical` and `parse_manifest`.

  A manifest file is a header, a summary, fourteen motor lines, a digest line
  and at most one authentication line.  Writer and reader are separate code;
  a line is the list of its fields here, and the text of a line joins them.
  `none` stands for `OA_RUNTIME_ECORRUPT`, the only error of the parser.

  Main results:
    * `parseManifest_eq_some` — what the parser accepts, stated on lines.
-/
import OpenArm.Manifest.Validation

namespace OpenArm.Manifest

open OpenArm.Lib
open OpenArm.Control (Side Joint)

variable {F : Type} [Floating F] (N : NumberFormat F)

/-! ## §1. Fields. -/

/-- The fields of a line, with `|` between them. -/
def joinFields (fields : List Text) : Text := ['|'].intercalate fields

/-- `split`. -/
def split (line : Text) : List Text := line.splitOn '|'

theorem split_joinFields {fields : List Text} (h : ∀ field ∈ fields, '|' ∉ field)
    (hne : fields ≠ []) : split (joinFields fields) = fields :=
  List.splitOn_intercalate '|' h hne

@[simp] theorem joinFields_singleton (field : Text) : joinFields [field] = field :=
  List.intercalate_singleton

@[simp] theorem joinFields_cons_cons (field next : Text) (rest : List Text) :
    joinFields (field :: next :: rest) = field ++ '|' :: joinFields (next :: rest) := by
  unfold joinFields
  rw [List.intercalate_cons_cons]
  simp

theorem joinFields_split (line : Text) : joinFields (split line) = line :=
  List.intercalate_splitOn '|'

/-! ## §2. The writer. -/

/-- The first line. -/
def headerLine : Text := "OPENARM_RUNTIME_MANIFEST|1".toList

/-- The fields of the second line. -/
def summaryFields (m : ManifestData F) : List Text :=
  ["summary".toList,
    writeNat m.state.toNat,
    writeNat m.intendedBackend.toNat,
    writeNat m.config.manifestRevision.toNat,
    writeNat m.config.modelRevision.toNat,
    writeNat m.inventoryRevision.toNat,
    if m.inventoryFingerprint = [] then "-".toList else m.inventoryFingerprint]

/-- The fields of a motor line. -/
def motorFields (m : ManifestData F) (side : Side) (joint : Joint) : List Text :=
  let motor := (m.config.arm side).motor joint
  ["motor".toList,
    writeNat side.val,
    writeNat joint.val,
    writeNat motor.motorType.toNat,
    writeNat motor.sendId.toNat,
    writeNat motor.receiveId.toNat,
    writeNat motor.embeddedMotorId.toNat,
    writeNat motor.controlMode.toNat,
    writeNat motor.bitrate.toNat,
    writeNat motor.timeoutTicks.toNat,
    writeNat motor.hardwareVersion.toNat,
    writeNat motor.softwareVersion.toNat,
    writeNat motor.firmwareSubversion.toNat,
    N.toChars motor.qScale,
    N.toChars motor.qOffsetRad,
    N.toChars motor.lowerRad,
    N.toChars motor.upperRad,
    N.toChars motor.maxVelocityRadS,
    N.toChars motor.maxAccelerationRadS2,
    N.toChars motor.maxJerkRadS3,
    N.toChars motor.pmaxRad,
    N.toChars motor.vmaxRadS,
    N.toChars motor.tmaxNm,
    N.toChars motor.gearRatio,
    writeInt32 motor.direction,
    motor.serial,
    motor.jointName,
    writeNat (m.evidenceKind side joint).toNat,
    writeNat (m.evidenceRevision side joint).toNat,
    m.evidenceRecord side joint]

/-- The motors in the order of the file. -/
def motorOrder : List (Side × Joint) :=
  (List.finRange 2).flatMap fun side => (List.finRange 7).map fun joint => (side, joint)

/-- The lines in front of the digest. -/
def bodyLines (m : ManifestData F) : List Text :=
  headerLine :: joinFields (summaryFields m) ::
    motorOrder.map fun motor => joinFields (motorFields N m motor.1 motor.2)

/-- `manifest_canonical`.  The digest of a manifest that has none is taken
    behind the label of its own line. -/
def manifestCanonical (m : ManifestData F) (includeDigest : Bool) : Text :=
  let out := unlines '\n' (bodyLines N m)
  if includeDigest then
    let out := out ++ "sha256|".toList
    out ++ (if m.contentDigest = [] then sha256Hex out else m.contentDigest) ++ ['\n']
  else out

/-! ## §3. The reader. -/

/-- What a summary line says. -/
structure Summary where
  state : UInt32
  intendedBackend : UInt32
  manifestRevision : UInt64
  modelRevision : UInt64
  inventoryRevision : UInt64
  inventoryFingerprint : Text
  deriving DecidableEq

/-- The fields of a summary line. -/
def readSummary (fields : List Text) : Option Summary :=
  if fields.length ≠ 7 ∨ fields.getD 0 [] ≠ "summary".toList then none
  else do
    let state ← readUInt32 (fields.getD 1 [])
    let intendedBackend ← readUInt32 (fields.getD 2 [])
    let manifestRevision ← readUInt64 (fields.getD 3 [])
    let modelRevision ← readUInt64 (fields.getD 4 [])
    let inventoryRevision ← readUInt64 (fields.getD 5 [])
    let fingerprint := fields.getD 6 []
    some
      { state, intendedBackend, manifestRevision, modelRevision, inventoryRevision
        inventoryFingerprint := if fingerprint = "-".toList then [] else fingerprint }

/-- What a motor line says. -/
structure MotorLine (F : Type) where
  motor : MotorConfig F
  evidenceKind : UInt32
  evidenceRevision : UInt64
  evidenceRecord : Text

/-- The fields of the line of one motor. -/
def readMotorLine (side : Side) (joint : Joint) (fields : List Text) : Option (MotorLine F) :=
  if fields.length ≠ 30 ∨ fields.getD 0 [] ≠ "motor".toList then none
  else do
    let parsedSide ← readUInt32 (fields.getD 1 [])
    let parsedJoint ← readUInt32 (fields.getD 2 [])
    let motorType ← readUInt32 (fields.getD 3 [])
    let sendId ← readUInt32 (fields.getD 4 [])
    let receiveId ← readUInt32 (fields.getD 5 [])
    let embeddedMotorId ← readUInt32 (fields.getD 6 [])
    let controlMode ← readUInt32 (fields.getD 7 [])
    let bitrate ← readUInt32 (fields.getD 8 [])
    let timeoutTicks ← readUInt32 (fields.getD 9 [])
    let hardwareVersion ← readUInt32 (fields.getD 10 [])
    let softwareVersion ← readUInt32 (fields.getD 11 [])
    let firmwareSubversion ← readUInt32 (fields.getD 12 [])
    let qScale ← N.readDouble (fields.getD 13 [])
    let qOffsetRad ← N.readDouble (fields.getD 14 [])
    let lowerRad ← N.readDouble (fields.getD 15 [])
    let upperRad ← N.readDouble (fields.getD 16 [])
    let maxVelocityRadS ← N.readDouble (fields.getD 17 [])
    let maxAccelerationRadS2 ← N.readDouble (fields.getD 18 [])
    let maxJerkRadS3 ← N.readDouble (fields.getD 19 [])
    let pmaxRad ← N.readDouble (fields.getD 20 [])
    let vmaxRadS ← N.readDouble (fields.getD 21 [])
    let tmaxNm ← N.readDouble (fields.getD 22 [])
    let gearRatio ← N.readDouble (fields.getD 23 [])
    let direction ← readInt32 (fields.getD 24 [])
    let evidenceKind ← readUInt32 (fields.getD 27 [])
    let evidenceRevision ← readUInt64 (fields.getD 28 [])
    let serial := fields.getD 25 []
    let jointName := fields.getD 26 []
    let evidenceRecord := fields.getD 29 []
    if parsedSide.toNat ≠ side.val ∨ parsedJoint.toNat ≠ joint.val ∨
        safeText serial 32 = false ∨ safeText jointName 48 = false ∨
        safeText evidenceRecord textCapacity = false then none
    else
      some
        { motor :=
            { motorType, jointIndex := UInt32.ofNat joint.val, sendId, receiveId, embeddedMotorId
              controlMode, bitrate, timeoutTicks, hardwareVersion, softwareVersion
              firmwareSubversion, qScale, qOffsetRad, lowerRad, upperRad, maxVelocityRadS
              maxAccelerationRadS2, maxJerkRadS3, pmaxRad, vmaxRadS, tmaxNm, gearRatio
              direction, serial, jointName }
          evidenceKind, evidenceRevision, evidenceRecord }

/-- The labels of the two kinds of authentication line. -/
def labelV1 : Text := "hmac-sha256".toList
def labelV2 : Text := "hmac-sha256-v2".toList

/-- What an authentication line says. -/
structure Authentication where
  version : Nat
  keyId : Text
  tag : Text

/-- The fields of an authentication line. -/
def readAuthentication (fields : List Text) : Option Authentication :=
  let label := fields.getD 0 []
  let keyId := fields.getD 1 []
  let tag := fields.getD 2 []
  if fields.length ≠ 3 ∨ (label ≠ labelV1 ∧ label ≠ labelV2) ∨
      safeText keyId textCapacity = false ∨ tag.length ≠ 64 ∨ tag.all isHex = false then none
  else some { version := if label = labelV2 then 2 else 1, keyId, tag }

/-- The bus names of a parsed manifest. -/
def parsedBusName (intendedBackend : UInt32) (side : Side) : Text :=
  (if intendedBackend = backendVirtual then "virtual".toList else "can".toList) ++
    writeNat side.val

/-- The manifest a file says. -/
def assemble (summary : Summary) (motors : Side × Joint → MotorLine F) (digest : Text)
    (authentication : Option Authentication) : ManifestData F where
  config :=
    { manifestRevision := summary.manifestRevision
      modelRevision := summary.modelRevision
      arm := fun side =>
        { busName := parsedBusName summary.intendedBackend side
          motor := fun joint => (motors (side, joint)).motor } }
  state := summary.state
  intendedBackend := summary.intendedBackend
  inventoryRevision := summary.inventoryRevision
  inventoryFingerprint := summary.inventoryFingerprint
  evidenceKind := fun side joint => (motors (side, joint)).evidenceKind
  evidenceRevision := fun side joint => (motors (side, joint)).evidenceRevision
  evidenceRecord := fun side joint => (motors (side, joint)).evidenceRecord
  contentDigest := digest
  integrityKind := if authentication.isSome then .hmacSha256 else .unkeyedSha256
  authenticationVersion := (authentication.map Authentication.version).getD 0
  authenticationKeyId := (authentication.map Authentication.keyId).getD []
  authenticationTag := (authentication.map Authentication.tag).getD []

/-- The authentication line, in a file that has one. -/
def readLast (ls : List Text) : Option (Option Authentication) :=
  if ls.length = 18 then (readAuthentication (split (ls.getD 17 []))).map some else some none

/-- `parse_manifest`. -/
def parseManifest (text : Text) : Option (ManifestData F) :=
  if text = [] ∨ 65536 < text.length ∨ text.getLast? ≠ some '\n' ∨ '\x00' ∈ text then none
  else
    let ls := lines '\n' text
    if ∃ line ∈ ls, 2048 < line.length then none
    else if (ls.length ≠ 17 ∧ ls.length ≠ 18) ∨ ls.getD 0 [] ≠ headerLine then none
    else
      match findAt "\nsha256|".toList text with
      | none => none
      | some digestMarker =>
        let digestFields := split (ls.getD 16 [])
        if digestFields.length ≠ 2 ∨ digestFields.getD 0 [] ≠ "sha256".toList ∨
            (digestFields.getD 1 []).length ≠ 64 ∨
            sha256Hex (text.take (digestMarker + 1)) ≠ digestFields.getD 1 [] then none
        else
          match readSummary (split (ls.getD 1 [])), collect (fun motor : Side × Joint =>
              readMotorLine N motor.1 motor.2
                (split (ls.getD (2 + motorOffset motor.1 motor.2) []))), readLast ls with
          | some summary, some motors, some authentication =>
            let result := assemble summary motors (digestFields.getD 1 []) authentication
            if result.Valid then some result else none
          | _, _, _ => none

/-! ## §4. What the parser accepts. -/

/-- Lines that say `m`. -/
structure Says (ls : List Text) (m : ManifestData F) : Prop where
  count : ls.length = 17 ∨ ls.length = 18
  newline : ∀ line ∈ ls, '\n' ∉ line
  nul : ∀ line ∈ ls, '\x00' ∉ line
  short : ∀ line ∈ ls, line.length ≤ 2048
  size : (unlines '\n' ls).length ≤ 65536
  header : ls.getD 0 [] = headerLine
  digestLine : split (ls.getD 16 []) = ["sha256".toList, m.contentDigest]
  digestLength : m.contentDigest.length = 64
  digestValue : sha256Hex (unlines '\n' (ls.take 16)) = m.contentDigest
  content : ∃ summary motors authentication,
    readSummary (split (ls.getD 1 [])) = some summary ∧
    (∀ side joint, readMotorLine N side joint (split (ls.getD (2 + motorOffset side joint) [])) =
      some (motors (side, joint))) ∧
    readLast ls = some authentication ∧
    m = assemble summary motors m.contentDigest authentication
  valid : m.Valid

/-- A line that opens with a label and a bar has that label as first field. -/
theorem split_head_of_prefix {label line : Text} (hlabel : '|' ∉ label)
    (h : label ++ ['|'] <+: line) : (split line).getD 0 [] = label := by
  obtain ⟨rest, rfl⟩ := h
  unfold split
  rw [List.append_assoc, List.singleton_append,
    List.splitOn_append_cons_self_of_not_mem (by exact hlabel)]
  rfl

theorem readSummary_head {fields : List Text} {summary : Summary}
    (h : readSummary fields = some summary) : fields.getD 0 [] = "summary".toList := by
  unfold readSummary at h
  split at h
  · exact absurd h (by simp)
  · rename_i hguard
    by_contra hne
    exact hguard (Or.inr hne)

theorem readMotorLine_head {side : Side} {joint : Joint} {fields : List Text}
    {line : MotorLine F} (h : readMotorLine N side joint fields = some line) :
    fields.getD 0 [] = "motor".toList := by
  unfold readMotorLine at h
  split at h
  · exact absurd h (by simp)
  · rename_i hguard
    by_contra hne
    exact hguard (Or.inr hne)

/-- Every line between the summary and the digest is the line of a motor. -/
theorem exists_motorOffset {i : Nat} (h : i < 14) :
    ∃ side joint, motorOffset side joint = i := by
  revert i
  decide

/-- **The digest marker**: with a summary line, fourteen motor lines and a
    digest line in their places, the first `\nsha256|` ends the sixteenth
    line. -/
theorem digestMarker_at {ls : List Text} {digest : Text} {summary : Summary}
    {motors : Side × Joint → MotorLine F} (hcount : 16 < ls.length)
    (hnewline : ∀ line ∈ ls, '\n' ∉ line)
    (hdigest : split (ls.getD 16 []) = ["sha256".toList, digest])
    (hsummary : readSummary (split (ls.getD 1 [])) = some summary)
    (hmotors : ∀ side joint,
      readMotorLine N side joint (split (ls.getD (2 + motorOffset side joint) [])) =
        some (motors (side, joint))) :
    findAt "\nsha256|".toList (unlines '\n' ls) =
      some ((unlines '\n' (ls.take 16)).length - 1) := by
  obtain ⟨first, rest, rfl⟩ : ∃ first rest, ls = first :: rest :=
    List.exists_cons_of_ne_nil (by rintro rfl; simp at hcount)
  have htarget : "sha256|".toList <+: (first :: rest).getD 16 [] := by
    rw [← joinFields_split ((first :: rest).getD 16 []), hdigest]
    exact ⟨digest, by simp⟩
  -- no line in between opens with the label of the digest line
  have hmid : ∀ line ∈ rest.take 15, '\n' ∉ line ∧ ¬ "sha256|".toList <+: line := by
    intro line hline
    refine ⟨hnewline line (by simp [List.mem_of_mem_take hline]), fun hfront => ?_⟩
    have hhead : (split line).getD 0 [] = "sha256".toList :=
      split_head_of_prefix (by decide) hfront
    obtain ⟨i, hi, hget⟩ := List.mem_iff_getElem.mp hline
    have hlen : i < 15 := by
      rw [List.length_take] at hi
      omega
    have hat : (first :: rest).getD (i + 1) [] = line := by
      rw [← hget, List.getElem_take]
      simp only [List.getD_cons_succ]
      exact List.getD_eq_getElem _ _ _
    rw [← hat] at hhead
    by_cases hzero : i = 0
    · rw [hzero] at hhead
      exact absurd ((readSummary_head hsummary).symm.trans hhead) (by decide)
    · obtain ⟨side, joint, hoffset⟩ := exists_motorOffset (i := i - 1) (by omega)
      have hindex : i + 1 = 2 + motorOffset side joint := by omega
      rw [hindex] at hhead
      exact absurd ((readMotorLine_head N (hmotors side joint)).symm.trans hhead) (by decide)
  have hsplit : first :: rest =
      first :: rest.take 15 ++ (first :: rest).getD 16 [] :: rest.drop 16 := by
    have hlong : 15 < rest.length := by
      rw [List.length_cons] at hcount
      omega
    simp only [List.getD_cons_succ, List.cons_append]
    rw [List.getD_eq_getElem _ _ hlong, List.getElem_cons_drop, List.take_append_drop]
  have hpattern : "\nsha256|".toList = '\n' :: "sha256|".toList := rfl
  have htake : (first :: rest).take 16 = first :: rest.take 15 := rfl
  rw [hpattern, htake]
  nth_rewrite 1 [hsplit]
  exact findAt_unlines (by decide) (hnewline first (by simp)) hmid htarget

/-- The text in front of the digest line is cut behind the marker. -/
theorem take_marker {ls : List Text} (h : 16 < ls.length) :
    (unlines '\n' ls).take ((unlines '\n' (ls.take 16)).length - 1 + 1) =
      unlines '\n' (ls.take 16) := by
  have hpos : 0 < (unlines '\n' (ls.take 16)).length := by
    have hne : ls ≠ [] := List.ne_nil_of_length_pos (by omega)
    obtain ⟨first, rest, rfl⟩ := List.exists_cons_of_ne_nil hne
    simp
  have hcut : unlines '\n' ls = unlines '\n' (ls.take 16) ++ unlines '\n' (ls.drop 16) := by
    rw [← unlines_append, List.take_append_drop]
  rw [Nat.sub_add_cancel hpos, hcut, List.take_left]

/-- The fields of the digest line, as the parser checks them. -/
theorem digestFields_eq {fields : List Text} :
    (fields.length = 2 ∧ fields.getD 0 [] = "sha256".toList) ↔
      fields = ["sha256".toList, fields.getD 1 []] := by
  constructor
  · rintro ⟨hlength, hhead⟩
    match fields, hlength with
    | [label, digest], _ =>
      simp only [List.getD_cons_zero] at hhead
      simp [hhead]
  · intro h
    rw [h]
    exact ⟨rfl, rfl⟩

/-- **What the parser accepts**: the texts of lines that say the result. -/
theorem parseManifest_eq_some {text : Text} {m : ManifestData F} :
    parseManifest N text = some m ↔ ∃ ls, text = unlines '\n' ls ∧ Says N ls m := by
  constructor
  · intro h
    -- the checks of the parser, in its order; each leaves one fact
    unfold parseManifest at h
    split at h
    · exact absurd h (by simp)
    rename_i hguard
    push Not at hguard
    obtain ⟨-, hsize, hlast, hnul⟩ := hguard
    have htext : unlines '\n' (lines '\n' text) = text := unlines_lines '\n' text hlast
    have hnewline := not_mem_of_mem_lines '\n' text
    dsimp only at h
    generalize hls : lines '\n' text = ls at h htext hnewline
    split at h
    · exact absurd h (by simp)
    rename_i hshort
    push Not at hshort
    split at h
    · exact absurd h (by simp)
    rename_i hshape
    push Not at hshape
    obtain ⟨hcount, hheader⟩ := hshape
    have hcount : ls.length = 17 ∨ ls.length = 18 := by
      by_cases h17 : ls.length = 17
      · exact Or.inl h17
      · exact Or.inr (hcount h17)
    have hlong : 16 < ls.length := by omega
    split at h
    · exact absurd h (by simp)
    rename_i marker hmarker
    split at h
    · exact absurd h (by simp)
    rename_i hdigest
    push Not at hdigest
    obtain ⟨htwo, hlabel, hsixtyfour, hvalue⟩ := hdigest
    have hfields := digestFields_eq.mp ⟨htwo, hlabel⟩
    split at h
    · rename_i summary motors authentication hsummary hmotors hauth
      rw [collect_eq_some] at hmotors
      split at h
      · rename_i hvalid
        cases h
        -- the marker the parser cuts at is the digest line, no earlier one
        have hat := digestMarker_at N hlong hnewline hfields hsummary
          fun side joint => hmotors (side, joint)
        rw [htext, hmarker, Option.some.injEq] at hat
        rw [hat, ← htext, take_marker hlong] at hvalue
        refine ⟨ls, htext.symm, hcount, hnewline, ?_, hshort, ?_, hheader, hfields, hsixtyfour,
          hvalue, ⟨summary, motors, authentication, hsummary, ?_, hauth, rfl⟩, hvalid⟩
        · intro line hline hmem
          apply hnul
          rw [← htext]
          exact mem_unlines hline hmem
        · rw [htext]
          exact hsize
        · exact fun side joint => hmotors (side, joint)
      · exact absurd h (by simp)
    · exact absurd h (by simp)
  · rintro ⟨ls, rfl, h⟩
    obtain ⟨summary, motors, authentication, hsummary, hmotors, hauth, hm⟩ := h.content
    have hlong : 16 < ls.length := by
      have := h.count
      omega
    have hlines : lines '\n' (unlines '\n' ls) = ls := lines_unlines '\n' ls h.newline
    have hne : ls ≠ [] := List.ne_nil_of_length_pos (by omega)
    -- and back: a text whose lines say the manifest passes every check
    have hmarker := digestMarker_at N hlong h.newline h.digestLine hsummary hmotors
    unfold parseManifest
    rw [if_neg]
    · dsimp only
      rw [hlines, if_neg (by push Not; exact h.short), if_neg, hmarker]
      · dsimp only
        rw [take_marker hlong, if_neg]
        · rw [hsummary, (collect_eq_some (g := motors)).mpr fun p => hmotors p.1 p.2, hauth]
          have hdigest : (split (ls.getD 16 [])).getD 1 [] = m.contentDigest := by
            rw [h.digestLine]
            rfl
          dsimp only
          rw [hdigest, ← hm, if_pos h.valid]
        · rw [h.digestLine]
          push Not
          exact ⟨rfl, rfl, h.digestLength, h.digestValue⟩
      · push Not
        refine ⟨fun h17 => ?_, h.header⟩
        have := h.count
        omega
    · push Not
      refine ⟨unlines_ne_nil hne, h.size, getLast?_unlines hne, fun hmem => ?_⟩
      obtain ⟨line, hline, hin⟩ := mem_of_mem_unlines hmem (by decide)
      exact h.nul line hline hin

end OpenArm.Manifest
