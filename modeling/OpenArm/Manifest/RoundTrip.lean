/-
  OpenArm.Manifest.RoundTrip — what is written reads back.

  `Storable` names what the file format can hold of a valid manifest: a
  finite codec profile, serials in the safe alphabet and the bus names that
  the parser rebuilds.  Every manifest the runtime builds or reads is
  storable, and the lines of a storable manifest say it.

  Main results:
    * `fields_summary`, `fields_motor` — the lines of a storable manifest keep
      to the fields the format has.
    * `said_eq_assemble` — what these lines say is the manifest.
    * `document_reads` — the lines the writers emit, read back.
-/
import OpenArm.Manifest.Build

namespace OpenArm.Manifest

open OpenArm.Lib
open OpenArm.Control (Side Joint)

variable {F : Type} [Floating F] (N : NumberFormat F)

/-! ## §1. Lines made of short plain fields. -/

/-- Fields that a line can hold. -/
def Fields (fields : List Text) : Prop := ∀ field ∈ fields, Plain field ∧ field.length ≤ 64

theorem Fields.nil : Fields [] := fun _ h => absurd h List.not_mem_nil

theorem Fields.cons {field : Text} {fields : List Text} (hplain : Plain field)
    (hshort : field.length ≤ 64) (h : Fields fields) : Fields (field :: fields) := by
  intro f hf
  rcases List.mem_cons.mp hf with rfl | hmem
  · exact ⟨hplain, hshort⟩
  · exact h f hmem

theorem Fields.split {fields : List Text} (h : Fields fields) (hne : fields ≠ []) :
    split (joinFields fields) = fields :=
  split_joinFields (fun field hf => (h field hf).1.not_bar) hne

theorem mem_joinFields {c : Char} {fields : List Text} (h : c ∈ joinFields fields) :
    c = '|' ∨ ∃ field ∈ fields, c ∈ field := by
  induction fields with
  | nil => exact absurd h List.not_mem_nil
  | cons field rest ih =>
    cases rest with
    | nil =>
      rw [joinFields_singleton] at h
      exact Or.inr ⟨field, by simp, h⟩
    | cons next rest =>
      rw [joinFields_cons_cons] at h
      rcases List.mem_append.mp h with hmem | hmem
      · exact Or.inr ⟨field, by simp, hmem⟩
      · rcases List.mem_cons.mp hmem with hbar | hmem
        · exact Or.inl hbar
        · rcases ih hmem with hbar | ⟨f, hf, hin⟩
          · exact Or.inl hbar
          · exact Or.inr ⟨f, List.mem_cons_of_mem _ hf, hin⟩

/-- A line holds no line end and no NUL. -/
theorem Fields.line {fields : List Text} (h : Fields fields) :
    '\n' ∉ joinFields fields ∧ '\x00' ∉ joinFields fields := by
  constructor
  · intro hmem
    rcases mem_joinFields hmem with hbar | ⟨field, hf, hin⟩
    · exact absurd hbar (by decide)
    · exact (h field hf).1.not_newline hin
  · intro hmem
    rcases mem_joinFields hmem with hbar | ⟨field, hf, hin⟩
    · exact absurd hbar (by decide)
    · exact (h field hf).1.not_nul hin

theorem Fields.length_le {fields : List Text} (h : Fields fields) :
    (joinFields fields).length ≤ 65 * fields.length := by
  induction fields with
  | nil => simp [joinFields]
  | cons field rest ih =>
    have hfield := (h field (by simp)).2
    cases rest with
    | nil =>
      rw [joinFields_singleton, List.length_singleton]
      omega
    | cons next rest =>
      have hrest := ih fun f hf => h f (List.mem_cons_of_mem _ hf)
      rw [joinFields_cons_cons, List.length_append, List.length_cons, List.length_cons]
      omega

theorem plain_sha256Hex (text : Text) : Plain (sha256Hex text) :=
  fun c hc => structural_of_isHex (sha256Hex_digits text c hc)

/-! ## §2. What the format can hold. -/

/-- A valid manifest that the file format can hold. -/
structure Storable (m : ManifestData F) : Prop where
  valid : m.Valid
  profile : ∀ side joint, ((m.config.arm side).motor joint).ProfileFinite
  serial : ∀ side joint, safeText ((m.config.arm side).motor joint).serial 32 = true
  busName : ∀ side, (m.config.arm side).busName = parsedBusName m.intendedBackend side

theorem uint32_short (n : UInt32) : (writeNat n.toNat).length ≤ 64 :=
  le_trans (writeNat_length (by decide : 0 < 10) (by have := n.toNat_lt; omega)) (by decide)

theorem uint64_short (n : UInt64) : (writeNat n.toNat).length ≤ 64 :=
  le_trans (writeNat_length (by decide : 0 < 20) (by have := n.toNat_lt; omega)) (by decide)

theorem small_short {n : Nat} (h : n < 10) : (writeNat n).length ≤ 64 :=
  le_trans (writeNat_length (by decide : 0 < 1) (by omega)) (by decide)

theorem int32_short (value : Int32) : (writeInt32 value).length ≤ 64 := by
  have hlow := value.le_toInt
  have hhigh := value.toInt_lt
  have hdigits : (writeNat value.toInt.natAbs).length ≤ 10 :=
    writeNat_length (by decide) (by omega)
  unfold writeInt32
  split
  · rw [List.length_cons]
    omega
  · omega

/-- The fields of a summary line fit. -/
theorem fields_summary {m : ManifestData F} (h : m.Valid) : Fields (summaryFields m) := by
  have hfingerprint : Plain (if m.inventoryFingerprint = [] then "-".toList
      else m.inventoryFingerprint) ∧ (if m.inventoryFingerprint = [] then "-".toList
      else m.inventoryFingerprint).length ≤ 64 := by
    split
    · exact ⟨by decide, by decide⟩
    · rename_i hne
      rcases h.fingerprint with hempty | ⟨hlength, hhex⟩
      · exact absurd hempty hne
      · exact ⟨fun c hc => structural_of_isHex (hhex c hc), hlength.le⟩
  unfold summaryFields
  exact .cons (by decide) (by decide) <| .cons (plain_writeNat _) (uint32_short _) <|
    .cons (plain_writeNat _) (uint32_short _) <| .cons (plain_writeNat _) (uint64_short _) <|
    .cons (plain_writeNat _) (uint64_short _) <| .cons (plain_writeNat _) (uint64_short _) <|
    .cons hfingerprint.1 hfingerprint.2 .nil

/-- The finite numbers of a storable motor. -/
theorem Storable.finite {m : ManifestData F} (h : Storable m) (side : Side) (joint : Joint) :
    let motor := (m.config.arm side).motor joint
    ∀ x ∈ [motor.qScale, motor.qOffsetRad, motor.lowerRad, motor.upperRad,
      motor.maxVelocityRadS, motor.maxAccelerationRadS2, motor.maxJerkRadS3, motor.pmaxRad,
      motor.vmaxRadS, motor.tmaxNm, motor.gearRatio], Floating.isFinite x = true := by
  obtain ⟨h1, h2, h3, h4, h5, h6, h7⟩ := (h.valid.config.motor side joint).finite
  obtain ⟨h8, h9, h10, h11⟩ := h.profile side joint
  simp [h1, h2, h3, h4, h5, h6, h7, h8, h9, h10, h11]

/-- The joint name of a valid motor is safe text. -/
theorem Storable.jointName {m : ManifestData F} (h : Storable m) (side : Side) (joint : Joint) :
    safeText ((m.config.arm side).motor joint).jointName 48 = true := by
  obtain ⟨-, -, -, -, -, -, -, -, -, -, -, -, -, -, -, -, hname⟩ :=
    (h.valid.config.motor side joint).identity
  rw [hname]
  exact safeText_expectedName side joint

theorem length_of_safeText {text : Text} {capacity : Nat} (h : safeText text capacity = true)
    (hcapacity : capacity ≤ 65) : text.length ≤ 64 := by
  have := (safeText_iff.mp h).2.1
  omega

/-- The fields of a motor line fit. -/
theorem fields_motor {m : ManifestData F} (hN : N.Exact) (h : Storable m) (side : Side)
    (joint : Joint) : Fields (motorFields N m side joint) := by
  have hfinite := h.finite side joint
  simp only [List.mem_cons, List.not_mem_nil, or_false, forall_eq_or_imp, forall_eq] at hfinite
  obtain ⟨h1, h2, h3, h4, h5, h6, h7, h8, h9, h10, h11⟩ := hfinite
  have hserial := h.serial side joint
  have hname := h.jointName side joint
  have hrecord := h.valid.evidence side joint
  have hdouble : ∀ {x : F} {rest : List Text}, Floating.isFinite x = true → Fields rest →
      Fields (N.toChars x :: rest) :=
    fun hx hrest => .cons (hN _ hx).plain (hN _ hx).short hrest
  have hword : ∀ {n : UInt32} {rest : List Text}, Fields rest →
      Fields (writeNat n.toNat :: rest) :=
    fun hrest => .cons (plain_writeNat _) (uint32_short _) hrest
  unfold motorFields
  refine .cons (by decide) (by decide) <| .cons (plain_writeNat _) (small_short (by omega)) <|
    .cons (plain_writeNat _) (small_short (by omega)) <| ?_
  refine hword <| hword <| hword <| hword <| hword <| hword <| hword <| hword <| hword <|
    hword <| ?_
  refine hdouble h1 <| hdouble h2 <| hdouble h3 <| hdouble h4 <| hdouble h5 <| hdouble h6 <|
    hdouble h7 <| hdouble h8 <| hdouble h9 <| hdouble h10 <| hdouble h11 <| ?_
  exact .cons (plain_writeInt32 _) (int32_short _) <|
    .cons (plain_of_safeText hserial) (length_of_safeText hserial (by decide)) <|
    .cons (plain_of_safeText hname) (length_of_safeText hname (by decide)) <| hword <|
    .cons (plain_writeNat _) (uint64_short _) <|
    .cons (plain_of_safeText hrecord) (length_of_safeText hrecord (by decide)) .nil

/-! ## §3. Lines read back. -/

/-- What the summary line of a manifest says. -/
def summaryOf (m : ManifestData F) : Summary where
  state := m.state
  intendedBackend := m.intendedBackend
  manifestRevision := m.config.manifestRevision
  modelRevision := m.config.modelRevision
  inventoryRevision := m.inventoryRevision
  inventoryFingerprint := m.inventoryFingerprint

theorem readSummary_summaryFields {m : ManifestData F} (h : m.Valid) :
    readSummary (summaryFields m) = some (summaryOf m) := by
  have hdash : m.inventoryFingerprint ≠ ['-'] := by
    intro heq
    rcases h.fingerprint with hempty | ⟨hlength, -⟩
    · rw [hempty] at heq
      exact absurd heq (by decide)
    · rw [heq] at hlength
      exact absurd hlength (by decide)
  unfold readSummary
  rw [if_neg (by simp [summaryFields])]
  by_cases hempty : m.inventoryFingerprint = []
  · simp [summaryFields, summaryOf, hempty]
  · simp [summaryFields, summaryOf, hempty, hdash]

/-- What the line of a motor says. -/
def motorLineOf (m : ManifestData F) (side : Side) (joint : Joint) : MotorLine F where
  motor := (m.config.arm side).motor joint
  evidenceKind := m.evidenceKind side joint
  evidenceRevision := m.evidenceRevision side joint
  evidenceRecord := m.evidenceRecord side joint

/-- Sides and joints read back. -/
theorem readUInt32_side : ∀ side : Side,
    readUInt32 (writeNat side.val) = some (UInt32.ofNat side.val) ∧
      (UInt32.ofNat side.val).toNat = side.val := by
  decide

theorem readUInt32_joint : ∀ joint : Joint,
    readUInt32 (writeNat joint.val) = some (UInt32.ofNat joint.val) := by
  decide

theorem readMotorLine_motorFields {m : ManifestData F} (hN : N.Exact) (h : Storable m)
    (side : Side) (joint : Joint) :
    readMotorLine N side joint (motorFields N m side joint) = some (motorLineOf m side joint) := by
  have hfinite := h.finite side joint
  simp only [List.mem_cons, List.not_mem_nil, or_false, forall_eq_or_imp, forall_eq] at hfinite
  obtain ⟨h1, h2, h3, h4, h5, h6, h7, h8, h9, h10, h11⟩ := hfinite
  have hread : ∀ {x : F}, Floating.isFinite x = true → N.readDouble (N.toChars x) = some x :=
    fun hx => (hN _ hx).readDouble hx
  obtain ⟨hside, hsideval⟩ := readUInt32_side side
  have hjoint := readUInt32_joint joint
  have hindex : ((m.config.arm side).motor joint).jointIndex = UInt32.ofNat joint.val := by
    rw [← (h.valid.config.motor side joint).identity.1, UInt32.ofNat_toNat]
  unfold readMotorLine
  rw [if_neg (by simp [motorFields])]
  simp [motorFields, hside, hjoint, hread h1, hread h2, hread h3, hread h4, hread h5, hread h6,
    hread h7, hread h8, hread h9, hread h10, hread h11, h.serial side joint,
    h.jointName side joint, h.valid.evidence side joint, hsideval, ← hindex,
    motorLineOf]
  exact (h.valid.config.motor side joint).identity.1

/-! ## §4. Documents. -/

/-- The lines in front of the digest, with `summary` as the fields of the
    summary line. -/
def bodyWith (m : ManifestData F) (summary : List Text) : List Text :=
  headerLine :: joinFields summary ::
    motorOrder.map fun motor => joinFields (motorFields N m motor.1 motor.2)

omit [Floating F] in
theorem bodyWith_summaryFields (m : ManifestData F) :
    bodyWith N m (summaryFields m) = bodyLines N m := rfl

/-- The fields of an authentication line. -/
def Authentication.fields (a : Authentication) : List Text :=
  [if a.version = 2 then labelV2 else labelV1, a.keyId, a.tag]

/-- An authentication that a line can hold. -/
structure Authentication.Valid (a : Authentication) : Prop where
  version : a.version = 1 ∨ a.version = 2
  keyId : safeText a.keyId textCapacity = true
  tagLength : a.tag.length = 64
  tagDigits : ∀ c ∈ a.tag, isHex c = true

/-- A whole document. -/
def documentWith (m : ManifestData F) (summary : List Text) (digest : Text)
    (authentication : Option Authentication) : List Text :=
  bodyWith N m summary ++ joinFields ["sha256".toList, digest] ::
    (authentication.map fun a => joinFields a.fields).toList

/-- The manifest that the document of `m` says. -/
def ManifestData.said (m : ManifestData F) (digest : Text)
    (authentication : Option Authentication) : ManifestData F :=
  { m.unsigned with
    contentDigest := digest
    integrityKind := if authentication.isSome then .hmacSha256 else .unkeyedSha256
    authenticationVersion := (authentication.map Authentication.version).getD 0
    authenticationKeyId := (authentication.map Authentication.keyId).getD []
    authenticationTag := (authentication.map Authentication.tag).getD [] }

theorem readAuthentication_fields {a : Authentication} (h : a.Valid) :
    readAuthentication a.fields = some a := by
  have hlabels : labelV1 ≠ labelV2 := by decide
  have htag : a.tag.all isHex = true := List.all_eq_true.mpr h.tagDigits
  unfold readAuthentication
  rcases h.version with hversion | hversion
  · simp [Authentication.fields, hversion, h.keyId, h.tagLength, htag, hlabels]
    rw [← hversion]
  · simp [Authentication.fields, hversion, h.keyId, h.tagLength, htag]
    rw [← hversion]

theorem fields_authentication {a : Authentication} (h : a.Valid) : Fields a.fields := by
  unfold Authentication.fields
  refine .cons ?_ ?_ <| .cons (plain_of_safeText h.keyId)
    (length_of_safeText h.keyId (by decide)) <|
    .cons (fun c hc => structural_of_isHex (h.tagDigits c hc)) h.tagLength.le .nil
  · split <;> decide
  · split <;> decide

/-- What was said is assembled from the parts of the document. -/
theorem said_eq_assemble {m : ManifestData F} (h : Storable m) (digest : Text)
    (authentication : Option Authentication) :
    m.said digest authentication =
      assemble (summaryOf m) (fun motor => motorLineOf m motor.1 motor.2) digest
        authentication := by
  have harm : m.config.arm = fun side =>
      { busName := parsedBusName m.intendedBackend side
        motor := fun joint => (m.config.arm side).motor joint } := by
    funext side
    rw [← h.busName side]
  unfold ManifestData.said assemble summaryOf motorLineOf ManifestData.unsigned
  rw [← harm]

/-- Marks of origin do not enter validity. -/
theorem valid_said {m : ManifestData F} (h : m.Valid) (digest : Text)
    (authentication : Option Authentication) : (m.said digest authentication).Valid :=
  ⟨h.state, h.backend, h.config, h.evidence, h.fingerprint⟩

omit [Floating F] in
theorem bodyWith_length (m : ManifestData F) (summary : List Text) :
    (bodyWith N m summary).length = 16 := rfl

omit [Floating F] in
/-- Where the lines of a document stand. -/
theorem documentWith_getD (m : ManifestData F) (summary : List Text) (digest : Text)
    (authentication : Option Authentication) :
    let ls := documentWith N m summary digest authentication
    ls.getD 0 [] = headerLine ∧ ls.getD 1 [] = joinFields summary ∧
      (∀ side joint,
        ls.getD (2 + motorOffset side joint) [] = joinFields (motorFields N m side joint)) ∧
      ls.getD 16 [] = joinFields ["sha256".toList, digest] ∧
      ls.take 16 = bodyWith N m summary := by
  refine ⟨rfl, rfl, ?_, rfl, rfl⟩
  intro side joint
  match side, joint with
  | 0, 0 | 0, 1 | 0, 2 | 0, 3 | 0, 4 | 0, 5 | 0, 6 => rfl
  | 1, 0 | 1, 1 | 1, 2 | 1, 3 | 1, 4 | 1, 5 | 1, 6 => rfl

/-- Lines of at most 2048 characters, eighteen of them, make a short text. -/
theorem unlines_length_le {ls : List Text} (h : ∀ line ∈ ls, line.length ≤ 2048) :
    (unlines '\n' ls).length ≤ 2049 * ls.length := by
  induction ls with
  | nil => simp
  | cons line rest ih =>
    have hline := h line (by simp)
    have hrest := ih fun l hl => h l (List.mem_cons_of_mem _ hl)
    rw [unlines_cons, List.length_append, List.length_cons, List.length_cons]
    omega

/-- Every line of a document joins a few short plain fields, or is the header. -/
theorem mem_documentWith {m : ManifestData F} (hN : N.Exact) (h : Storable m)
    {summary : List Text} (hsummary : Fields summary) (hseven : summary.length = 7)
    {digest : Text} (hdigest : Plain digest) (hlength : digest.length = 64)
    {authentication : Option Authentication} (ha : ∀ a ∈ authentication, a.Valid) :
    ∀ line ∈ documentWith N m summary digest authentication,
      line = headerLine ∨ ∃ fields, Fields fields ∧ fields.length ≤ 30 ∧
        line = joinFields fields := by
  intro line hline
  unfold documentWith bodyWith at hline
  simp only [List.mem_append, List.mem_cons, List.mem_map, Option.mem_toList,
    Option.map_eq_some_iff] at hline
  rcases hline with (rfl | rfl | ⟨motor, -, rfl⟩) | rfl | ⟨a, ha', rfl⟩
  · exact Or.inl rfl
  · exact Or.inr ⟨summary, hsummary, by omega, rfl⟩
  · exact Or.inr ⟨_, fields_motor N hN h motor.1 motor.2, le_refl _, rfl⟩
  · exact Or.inr ⟨_, .cons (by decide) (by decide) (.cons hdigest hlength.le .nil),
      by simp, rfl⟩
  · exact Or.inr ⟨_, fields_authentication (ha a ha'), by simp [Authentication.fields], rfl⟩

/-- **The lines the writers emit say the manifest**, whatever spelling of the
    summary reads as the same summary. -/
theorem document_reads {m : ManifestData F} (hN : N.Exact) (h : Storable m)
    {summary : List Text} (hsummary : Fields summary)
    (hread : readSummary summary = some (summaryOf m)) (hseven : summary.length = 7)
    {authentication : Option Authentication} (ha : ∀ a ∈ authentication, a.Valid) :
    let digest := sha256Hex (unlines '\n' (bodyWith N m summary))
    Says N (documentWith N m summary digest authentication) (m.said digest authentication) := by
  intro digest
  have hplain : Plain digest := plain_sha256Hex _
  have hlength : digest.length = 64 := sha256Hex_length _
  -- every line is short and made of plain fields
  have hlines := mem_documentWith N hN h hsummary hseven hplain hlength ha
  obtain ⟨hheader, hsecond, hmotors, hdigest, htake⟩ :=
    documentWith_getD N m summary digest authentication
  have hcount : (documentWith N m summary digest authentication).length =
      17 + authentication.toList.length := by
    unfold documentWith
    rw [List.length_append, bodyWith_length]
    cases authentication <;> rfl
  have hshort : ∀ line ∈ documentWith N m summary digest authentication,
      line.length ≤ 2048 := by
    intro line hline
    rcases hlines line hline with rfl | ⟨fields, hfields, hthirty, rfl⟩
    · decide
    · have := hfields.length_le
      omega
  -- so splitting it gives the fields back
  have hsplit : ∀ fields, Fields fields → fields ≠ [] → split (joinFields fields) = fields :=
    fun fields hfields hne => hfields.split hne
  refine
    { count := ?_, newline := ?_, nul := ?_, short := hshort, size := ?_, header := hheader,
      digestLine := ?_, digestLength := hlength, digestValue := ?_, content := ?_,
      valid := valid_said h.valid digest authentication }
  · rw [hcount]
    cases authentication with
    | none => exact Or.inl rfl
    | some a => exact Or.inr rfl
  · intro line hline
    rcases hlines line hline with rfl | ⟨fields, hfields, -, rfl⟩
    · decide
    · exact hfields.line.1
  · intro line hline
    rcases hlines line hline with rfl | ⟨fields, hfields, -, rfl⟩
    · decide
    · exact hfields.line.2
  · have hle := unlines_length_le hshort
    have hlast : authentication.toList.length ≤ 1 := by
      cases authentication <;> simp
    rw [hcount] at hle
    omega
  · rw [hdigest]
    exact hsplit _ (.cons (by decide) (by decide) (.cons hplain hlength.le .nil)) (by simp)
  · rw [htake]
    rfl
  · refine ⟨summaryOf m, fun motor => motorLineOf m motor.1 motor.2, authentication, ?_, ?_, ?_,
      said_eq_assemble h digest authentication⟩
    · rw [hsecond, hsplit _ hsummary (List.ne_nil_of_length_pos (by omega))]
      exact hread
    · intro side joint
      rw [hmotors, hsplit _ (fields_motor N hN h side joint) (List.cons_ne_nil _ _)]
      exact readMotorLine_motorFields N hN h side joint
    · unfold readLast
      cases authentication with
      | none =>
        rw [if_neg (by rw [hcount]; simp)]
      | some a =>
        have hvalid := ha a rfl
        rw [if_pos (by rw [hcount]; rfl)]
        have hlast : (documentWith N m summary digest (some a)).getD 17 [] =
            joinFields a.fields := rfl
        rw [hlast, hsplit _ (fields_authentication hvalid) (List.cons_ne_nil _ _),
          readAuthentication_fields hvalid]
        rfl

end OpenArm.Manifest
