/-
  OpenArm.Manifest.Reachable — every manifest of the runtime, and its text.

  The runtime builds a manifest, derives it from another one by a patch, or
  reads it from a text.  All of them are storable and carry a digest; whether
  a manifest reads back from its canonical text depends on that digest alone.

  Main results:
    * `Storable.of_reading`    — what was read is storable.
    * `Reachable.stored`    — what every manifest of the runtime satisfies.
    * `parse_canonical`     — a storable manifest reads back exactly when its
      digest is the digest of its canonical text.
    * `manifest_round_trip` — the file format: both directions.
-/
import OpenArm.Manifest.DigestEval
import OpenArm.Manifest.RoundTrip
import OpenArm.Manifest.Standard

namespace OpenArm.Manifest

open OpenArm.Lib
open OpenArm.Control (Side Joint)

variable {F : Type} [Floating F] (N : NumberFormat F)

/-! ## §1. What was read is storable. -/

/-- A chain of readers succeeds one by one. -/
theorem read_some {α β : Type} {x : Option α} {f : α → Option β} {b : β}
    (h : (do let a ← x; f a) = some b) : ∃ a, x = some a ∧ f a = some b :=
  Option.bind_eq_some_iff.mp h

/-- What the reader of a motor line has checked. -/
theorem readMotorLine_checked {side : Side} {joint : Joint} {fields : List Text}
    {line : MotorLine F} (h : readMotorLine N side joint fields = some line) :
    line.motor.ProfileFinite ∧ safeText line.motor.serial 32 = true := by
  unfold readMotorLine at h
  split at h
  · exact absurd h (by simp)
  -- the side, the joint, ten words and seven numbers come first
  iterate 19 obtain ⟨_, _, h⟩ := read_some h
  obtain ⟨pmax, hpmax, h⟩ := read_some h
  obtain ⟨vmax, hvmax, h⟩ := read_some h
  obtain ⟨tmax, htmax, h⟩ := read_some h
  obtain ⟨gear, hgear, h⟩ := read_some h
  iterate 3 obtain ⟨_, _, h⟩ := read_some h
  dsimp only at h
  split at h
  · exact absurd h (by simp)
  rename_i hchecks
  push Not at hchecks
  cases h
  exact ⟨⟨NumberFormat.isFinite_of_readDouble hpmax, NumberFormat.isFinite_of_readDouble hvmax,
    NumberFormat.isFinite_of_readDouble htmax, NumberFormat.isFinite_of_readDouble hgear⟩,
    by simpa using hchecks.2.2.1⟩

/-- **What was read is storable.** -/
theorem Storable.of_reading {ls : List Text} {m : ManifestData F} (h : Says N ls m) :
    Storable m := by
  obtain ⟨summary, motors, authentication, -, hmotors, -, hm⟩ := h.content
  have hchecked := fun side joint => readMotorLine_checked N (hmotors side joint)
  have hmotor : ∀ side joint,
      (m.config.arm side).motor joint = (motors (side, joint)).motor := by
    intro side joint
    rw [hm]
    rfl
  have hbus : ∀ side, (m.config.arm side).busName = parsedBusName m.intendedBackend side := by
    intro side
    rw [hm]
    rfl
  exact
    { valid := h.valid
      profile := fun side joint => by rw [hmotor]; exact (hchecked side joint).1
      serial := fun side joint => by rw [hmotor]; exact (hchecked side joint).2
      busName := hbus }

/-! ## §2. Reachable manifests. -/

/-- A manifest the runtime can come to hold. -/
inductive Reachable : ManifestData F → Prop where
  | virtual : Reachable (makeVirtualManifest N)
  | patched {base m : ManifestData F} {patch : MappingPatch F} (known : Reachable base)
      (applied : (applyPatch N base patch).2 = some m) : Reachable m
  | parsed {text : Text} {m : ManifestData F} (read : parseManifest N text = some m) :
      Reachable m

/-- A storable manifest that carries some digest. -/
structure Stored (m : ManifestData F) : Prop where
  storable : Storable m
  digest : ∃ text, m.contentDigest = sha256Hex text

/-- The built-in manifest is storable. -/
theorem storable_virtual (hB : BuiltinSound F) : Storable (makeVirtualManifest N) where
  valid :=
    { state := by
        show ¬ manifestArmable < manifestDraft ∧ ¬ manifestArmable < manifestArmable
        decide
      backend := Or.inl rfl
      config := hB.valid
      evidence := by
        intro side joint
        show safeText "builtin_virtual_exact".toList textCapacity = true
        decide
      fingerprint := Or.inr ⟨sha256Hex_length _, sha256Hex_digits _⟩ }
  profile := hB.profile
  serial := by
    intro side joint
    show safeText ("VIRTUAL-".toList ++ writeNat side.val ++ '-' :: writeNat joint.val) 32 = true
    revert side joint
    decide
  busName := fun _ => rfl

/-- A patch keeps everything that makes a manifest storable. -/
theorem storable_patched {base : ManifestData F} {patch : MappingPatch F} (h : Storable base)
    (hvalid : (patched base patch).Valid) : Storable (patched base patch) := by
  -- a patched motor keeps its profile and its serial
  have hmotor : ∀ side joint,
      ((patched base patch).config.arm side).motor joint = (base.config.arm side).motor joint ∨
      ((patched base patch).config.arm side).motor joint =
        ((base.config.arm side).motor joint).remap patch := by
    intro side joint
    unfold patched
    dsimp only
    by_cases htarget : (side, joint) = patch.target
    · right
      rw [if_pos htarget]
    · left
      rw [if_neg htarget]
  refine { valid := hvalid, profile := ?_, serial := ?_, busName := h.busName }
  · intro side joint
    rcases hmotor side joint with heq | heq
    · rw [heq]
      exact h.profile side joint
    · rw [heq]
      exact h.profile side joint
  · intro side joint
    rcases hmotor side joint with heq | heq
    · rw [heq]
      exact h.serial side joint
    · rw [heq]
      exact h.serial side joint

theorem storable_withDigest {m : ManifestData F} (h : Storable m) (digest : Text) :
    Storable { m with contentDigest := digest } :=
  { valid := ⟨h.valid.state, h.valid.backend, h.valid.config, h.valid.evidence,
      h.valid.fingerprint⟩
    profile := h.profile
    serial := h.serial
    busName := h.busName }

/-- **What every manifest of the runtime satisfies.** -/
theorem Reachable.stored (hB : BuiltinSound F) {m : ManifestData F} (h : Reachable N m) :
    Stored m := by
  induction h with
  | virtual => exact ⟨storable_virtual N hB, _, rfl⟩
  | patched known applied ih =>
    obtain ⟨-, -, hvalid, rfl⟩ := (applyPatch_eq_some N).mp applied
    exact ⟨storable_withDigest (storable_patched ih.storable hvalid) _, _, rfl⟩
  | parsed read =>
    obtain ⟨ls, -, hdoc⟩ := (parseManifest_eq_some N).mp read
    exact ⟨.of_reading N hdoc, _, hdoc.digestValue.symm⟩

/-! ## §3. The canonical text. -/

omit [Floating F] in
/-- The digest is not part of what it covers, nor are the marks of origin. -/
theorem manifestCanonical_congr {m n : ManifestData F} (hconfig : m.config = n.config)
    (hstate : m.state = n.state) (hbackend : m.intendedBackend = n.intendedBackend)
    (hrevision : m.inventoryRevision = n.inventoryRevision)
    (hfingerprint : m.inventoryFingerprint = n.inventoryFingerprint)
    (hkind : m.evidenceKind = n.evidenceKind) (hrev : m.evidenceRevision = n.evidenceRevision)
    (hrecord : m.evidenceRecord = n.evidenceRecord) :
    manifestCanonical N m false = manifestCanonical N n false := by
  have hsummary : summaryFields m = summaryFields n := by
    unfold summaryFields
    rw [hconfig, hstate, hbackend, hrevision, hfingerprint]
  have hmotor : motorFields N m = motorFields N n := by
    funext side joint
    unfold motorFields
    rw [hconfig, hkind, hrev, hrecord]
  have hbody : bodyLines N m = bodyLines N n := by
    unfold bodyLines
    rw [hsummary, hmotor]
  unfold manifestCanonical
  rw [hbody]
  rfl

omit [Floating F] in
/-- The canonical text with a digest is a document. -/
theorem manifestCanonical_true {m : ManifestData F} (h : m.contentDigest ≠ []) :
    manifestCanonical N m true =
      unlines '\n' (documentWith N m (summaryFields m) m.contentDigest none) := by
  have hbody : unlines '\n' (bodyLines N m) = manifestCanonical N m false := rfl
  unfold manifestCanonical documentWith
  rw [bodyWith_summaryFields, unlines_append]
  simp [h]

theorem Stored.digest_ne_nil {m : ManifestData F} (h : Stored m) : m.contentDigest ≠ [] := by
  obtain ⟨text, htext⟩ := h.digest
  intro hnil
  have hlength := sha256Hex_length text
  rw [← htext, hnil] at hlength
  exact absurd hlength (by decide)

/-- **A stored manifest reads back from its canonical text exactly when its
    digest is the digest of that text**, and then as itself. -/
theorem parse_canonical (hN : N.Exact) {m : ManifestData F} (h : Stored m) :
    parseManifest N (manifestCanonical N m true) =
      if m.contentDigest = sha256Hex (manifestCanonical N m false) then some m.unsigned
      else none := by
  have htext := manifestCanonical_true N h.digest_ne_nil
  have hvalid := h.storable.valid
  split
  · rename_i hdigest
    have hdoc := document_reads N hN h.storable (fields_summary hvalid)
      (readSummary_summaryFields hvalid) rfl (show ∀ a ∈ none, Authentication.Valid a by simp)
    rw [bodyWith_summaryFields] at hdoc
    have hsame : sha256Hex (unlines '\n' (bodyLines N m)) = m.contentDigest := hdigest.symm
    dsimp only at hdoc
    rw [hsame] at hdoc
    have hsaid : m.said m.contentDigest none = m.unsigned := rfl
    rw [hsaid] at hdoc
    exact (parseManifest_eq_some N).mpr ⟨_, htext, hdoc⟩
  · rename_i hdigest
    rw [Option.eq_none_iff_forall_ne_some]
    intro m' hread
    obtain ⟨ls, hls, hdoc⟩ := (parseManifest_eq_some N).mp hread
    -- the lines of the text are the lines of the document
    have hplain : Plain m.contentDigest := by
      obtain ⟨text, hd⟩ := h.digest
      rw [hd]
      exact plain_sha256Hex text
    have hlength : m.contentDigest.length = 64 := by
      obtain ⟨text, hd⟩ := h.digest
      rw [hd]
      exact sha256Hex_length text
    have hmem := mem_documentWith N hN h.storable (fields_summary hvalid) rfl hplain hlength
      (show ∀ a ∈ none, Authentication.Valid a by simp)
    have hnewline : ∀ line ∈ documentWith N m (summaryFields m) m.contentDigest none,
        '\n' ∉ line := by
      intro line hline
      rcases hmem line hline with rfl | ⟨fields, hfields, -, rfl⟩
      · decide
      · exact hfields.line.1
    have hlines : ls = documentWith N m (summaryFields m) m.contentDigest none := by
      rw [← lines_unlines '\n' ls hdoc.newline, ← hls, htext, lines_unlines '\n' _ hnewline]
    have hvalue := hdoc.digestValue
    have hline := hdoc.digestLine
    rw [hlines] at hvalue hline
    obtain ⟨-, -, -, hsixteen, htake⟩ :=
      documentWith_getD N m (summaryFields m) m.contentDigest none
    rw [hsixteen, (Fields.cons (by decide) (by decide)
      (.cons hplain hlength.le .nil)).split (by simp)] at hline
    rw [htake, bodyWith_summaryFields] at hvalue
    simp only [List.cons.injEq, and_true, true_and] at hline
    exact hdigest (hline.trans hvalue.symm)

/-! ## §4. The round trip. -/

/-- The runtime's own manifests carry the digest of their canonical text. -/
theorem digest_of_built {m : ManifestData F}
    (h : m = makeVirtualManifest N ∨
      ∃ base patch, (applyPatch N base patch).2 = some m) :
    m.contentDigest = sha256Hex (manifestCanonical N m false) := by
  rcases h with rfl | ⟨base, patch, happlied⟩
  · exact congrArg sha256Hex (manifestCanonical_congr N rfl rfl rfl rfl rfl rfl rfl rfl)
  · obtain ⟨-, -, -, rfl⟩ := (applyPatch_eq_some N).mp happlied
    exact congrArg sha256Hex (manifestCanonical_congr N rfl rfl rfl rfl rfl rfl rfl rfl)

/-- The digest of an accepted text is the digest of its own first sixteen
    lines; where these are spelled as the writer spells them, it is the digest
    of the canonical text too. -/
theorem digest_of_parse {text : Text} {m : ManifestData F} (h : parseManifest N text = some m) :
    ∃ ls, text = unlines '\n' ls ∧ (∀ line ∈ ls, '\n' ∉ line) ∧
      (ls.length = 17 ∨ ls.length = 18) ∧
      m.contentDigest = sha256Hex (unlines '\n' (ls.take 16)) ∧
      (ls.take 16 = bodyLines N m →
        m.contentDigest = sha256Hex (manifestCanonical N m false)) := by
  obtain ⟨ls, htext, hdoc⟩ := (parseManifest_eq_some N).mp h
  refine ⟨ls, htext, hdoc.newline, hdoc.count, hdoc.digestValue.symm, fun hbody => ?_⟩
  rw [← hdoc.digestValue, hbody]
  rfl

/-- **The file format.**  A manifest of the runtime reads back from its
    canonical text, with every member the format carries, exactly when its
    digest is the digest of that text; this holds of every manifest that was
    built or patched.  An accepted text has 17 or 18 lines, and its digest is
    that of its own first sixteen lines. -/
theorem manifest_round_trip (hN : N.Exact) (hB : BuiltinSound F) :
    (∀ m, Reachable N m →
      parseManifest N (manifestCanonical N m true) =
        if m.contentDigest = sha256Hex (manifestCanonical N m false) then some m.unsigned
        else none) ∧
    (∀ m, (m = makeVirtualManifest N ∨
        ∃ base patch, Reachable N base ∧ (applyPatch N base patch).2 = some m) →
      m.contentDigest = sha256Hex (manifestCanonical N m false) ∧
        parseManifest N (manifestCanonical N m true) = some m.unsigned) ∧
    (∀ text m, parseManifest N text = some m →
      ∃ ls, text = unlines '\n' ls ∧ (∀ line ∈ ls, '\n' ∉ line) ∧
        (ls.length = 17 ∨ ls.length = 18) ∧
        m.contentDigest = sha256Hex (unlines '\n' (ls.take 16)) ∧
        (ls.take 16 = bodyLines N m →
          m.contentDigest = sha256Hex (manifestCanonical N m false))) := by
  refine ⟨fun m hm => parse_canonical N hN (hm.stored N hB), ?_,
    fun text m hread => digest_of_parse N hread⟩
  intro m hm
  have hbuilt : m.contentDigest = sha256Hex (manifestCanonical N m false) := by
    rcases hm with heq | ⟨base, patch, -, happlied⟩
    · exact digest_of_built N (Or.inl heq)
    · exact digest_of_built N (Or.inr ⟨base, patch, happlied⟩)
  have hreachable : Reachable N m := by
    rcases hm with rfl | ⟨base, patch, hbase, happlied⟩
    · exact .virtual
    · exact .patched hbase happlied
  refine ⟨hbuilt, ?_⟩
  rw [parse_canonical N hN (hreachable.stored N hB), if_pos hbuilt]

/-- The built-in manifest of exact decimals reads back. -/
theorem manifest_round_trip_virtual :
    parseManifest decimalFormat
        (manifestCanonical decimalFormat (makeVirtualManifest decimalFormat) true) =
      some (makeVirtualManifest decimalFormat).unsigned :=
  ((manifest_round_trip decimalFormat decimalFormat_exact builtinSound_decimal).2.1 _
    (Or.inl rfl)).2

/-- The summary of the built-in members with a leading zero in the revision. -/
def respelledSummary : List Text :=
  ["summary".toList, "4".toList, "1".toList, "01".toList, "1".toList, "1".toList, "-".toList]

theorem storable_virtualMembers : Storable (virtualManifest : ManifestData Decimal) where
  valid := ⟨by decide, Or.inl rfl, builtinSound_decimal.valid, by decide, Or.inl rfl⟩
  profile := builtinSound_decimal.profile
  serial := by decide
  busName := by decide

/-- The digest of the built-in members, in the decimal format. -/
theorem virtualDigest : sha256Hex (manifestCanonical decimalFormat virtualManifest false) =
    "b5004da4c6bd5e697ebcf3189f250c7e3a4ee6fbaaee349cb8d085f6ce3d5293".toList := by
  rw [sha256Hex_eval]
  decide +kernel

/-- That of the text with the leading zero begins with another digit. -/
theorem respelledDigest_head :
    (sha256Hex (unlines '\n' (bodyWith decimalFormat virtualManifest respelledSummary))).head? =
      some '1' := by
  rw [sha256Hex_eval]
  decide +kernel

/-- **A leading zero is read but not written**: a text with revision `01` is
    accepted with a digest that is not the digest of the canonical text of
    what it says, and that canonical text is rejected. -/
theorem respelled_text_accepted :
    ∃ (text : Text) (m : ManifestData Decimal),
      parseManifest decimalFormat text = some m ∧
      m.contentDigest ≠ sha256Hex (manifestCanonical decimalFormat m false) ∧
      parseManifest decimalFormat (manifestCanonical decimalFormat m true) = none := by
  have hfields : Fields respelledSummary := by
    unfold Fields
    decide
  have hread : readSummary respelledSummary =
      some (summaryOf (virtualManifest : ManifestData Decimal)) := by
    decide +kernel
  have hdoc := document_reads decimalFormat decimalFormat_exact storable_virtualMembers
    hfields hread rfl (show ∀ a ∈ none, Authentication.Valid a by simp)
  have hother : sha256Hex (unlines '\n' (bodyWith decimalFormat virtualManifest
      respelledSummary)) ≠ sha256Hex (manifestCanonical decimalFormat virtualManifest false) := by
    intro hequal
    have hheads := congrArg List.head? hequal
    rw [respelledDigest_head, virtualDigest] at hheads
    exact absurd hheads (by decide)
  dsimp only at hdoc
  generalize sha256Hex (unlines '\n' (bodyWith decimalFormat virtualManifest
    respelledSummary)) = digest at hdoc hother
  have hcanonical : manifestCanonical decimalFormat (virtualManifest.said digest none) false =
      manifestCanonical decimalFormat virtualManifest false :=
    manifestCanonical_congr decimalFormat rfl rfl rfl rfl rfl rfl rfl rfl
  rw [← hcanonical] at hother
  have hstored : Stored (virtualManifest.said digest none) :=
    ⟨.of_reading decimalFormat hdoc, _, hdoc.digestValue.symm⟩
  refine ⟨_, _, (parseManifest_eq_some decimalFormat).mpr ⟨_, rfl, hdoc⟩, hother, ?_⟩
  rw [parse_canonical decimalFormat decimalFormat_exact hstored]
  exact if_neg hother

end OpenArm.Manifest
