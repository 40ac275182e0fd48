/-
  OpenArm.Persist.SlotBinding — when a signed manifest verifies, and where.

  Signer and verifier agree on the payload unless the key id ends with the
  label of the authentication line; what is signed is what the file format
  can hold.  A text that verifies under some name verifies under the name it
  was signed for only, as long as the keyed digest separates the two inputs
  in question.

  Main results:
    * `authenticateTextV2_signed` — a storable manifest verifies.
    * `signed_text_verifies`      — exactly when a signed manifest verifies,
      and that it does so under one key id and one slot only.
-/
import OpenArm.Persist.Signing

namespace OpenArm.Persist

open OpenArm.Lib OpenArm.Manifest
open OpenArm.Control (Side Joint)
open OpenArm.Runtime (RuntimeStatus)

variable {F : Type} [Floating F] (N : NumberFormat F)

/-! ## §1. What has to agree. -/

/-- Two manifests with the same configuration, state, backend, revisions and
    evidence. -/
structure SameContent (m n : ManifestData F) : Prop where
  config : m.config = n.config
  state : m.state = n.state
  backend : m.intendedBackend = n.intendedBackend
  inventoryRevision : m.inventoryRevision = n.inventoryRevision
  fingerprint : m.inventoryFingerprint = n.inventoryFingerprint
  evidenceKind : m.evidenceKind = n.evidenceKind
  evidenceRevision : m.evidenceRevision = n.evidenceRevision
  evidenceRecord : m.evidenceRecord = n.evidenceRecord

/-- The keyed digests of two inputs agree only if the inputs do. -/
def Separates (key key' : Key) (x y : Text) : Prop :=
  hmacSha256Hex key x = hmacSha256Hex key' y → x = y

/-- The members of a valid manifest that the file format holds only under a
    condition. -/
def Writable (m : ManifestData F) : Prop :=
  (∀ side joint, safeText ((m.config.arm side).motor joint).serial 32 = true ∧
    ((m.config.arm side).motor joint).ProfileFinite) ∧
  ∀ side, (m.config.arm side).busName = parsedBusName m.intendedBackend side

theorem storable_iff {m : ManifestData F} (h : m.Valid) : Storable m ↔ Writable m :=
  ⟨fun hm => ⟨fun side joint => ⟨hm.serial side joint, hm.profile side joint⟩, hm.busName⟩,
    fun hw => ⟨h, fun side joint => (hw.1 side joint).2, fun side joint => (hw.1 side joint).1,
      hw.2⟩⟩

/-- What the verifier keys for a text: everything in front of the marker. -/
def verifiedPayload (text : Text) : Text := text.take ((rfindAt marker text).getD 0)

/-! ## §2. The verifier on a signed text. -/

/-- What an accepted text has passed. -/
theorem authenticateTextV2_eq_ok {verifier : PersistenceAuthority} {slotName text : Text}
    {m : ManifestData F} :
    authenticateTextV2 N verifier slotName text = .ok m ↔
      ∃ parsed offset, parseManifest N text = some parsed ∧
        parsed.integrityKind = .hmacSha256 ∧ parsed.authenticationVersion = 2 ∧
        parsed.authenticationKeyId = verifier.authenticationKeyId ∧
        rfindAt marker text = some offset ∧ offset ≠ 0 ∧
        hmacSha256Hex verifier.authenticationKey
            (slotAuthenticationInput verifier slotName (text.take offset)) =
          parsed.authenticationTag ∧
        m = markAuthenticated parsed := by
  unfold authenticateTextV2
  constructor
  · intro h
    split at h
    · exact absurd h (by simp)
    rename_i parsed hparsed
    split at h
    · exact absurd h (by simp)
    rename_i hguard
    push Not at hguard
    obtain ⟨hkind, hversion, hkey⟩ := hguard
    split at h
    · exact absurd h (by simp)
    · exact absurd h (by simp)
    rename_i offset hzero hoffset
    split at h
    · exact absurd h (by simp)
    rename_i htag
    push Not at htag
    cases h
    exact ⟨parsed, offset, hparsed, hkind, hversion, hkey, hoffset,
      fun h0 => hzero (by rw [← h0]), htag, rfl⟩
  · rintro ⟨parsed, offset, hparsed, hkind, hversion, hkey, hoffset, hzero, htag, rfl⟩
    have hmarker : rfindAt (labelV2 ++ ['|']) text = some offset := hoffset
    rw [hparsed]
    simp only
    rw [if_neg (by simp [hkind, hversion, hkey]), hmarker]
    obtain ⟨n, rfl⟩ := Nat.exists_eq_succ_of_ne_zero hzero
    exact if_neg (fun hne => hne htag)

section

omit [Floating F]

/-- The text of a signed manifest, cut at its payload. -/
theorem buildSignedV2_cut (authority : PersistenceAuthority) (m : ManifestData F)
    (slotName : Text) :
    (buildSignedV2 N authority m slotName).2 =
      signedPayload N authority m ++ (labelV2 ++ '|' :: (authority.authenticationKeyId ++
        '|' :: (signedTag N authority m slotName ++ ['\n']))) := by
  unfold buildSignedV2
  simp

theorem tag_not_bar (authority : PersistenceAuthority) (m : ManifestData F) (slotName : Text) :
    '|' ∉ signedTag N authority m slotName :=
  (plain_sha256Hex _).not_bar

theorem signedPayload_length (authority : PersistenceAuthority) (m : ManifestData F) :
    (signedPayload N authority m).length ≠ 0 := by
  rw [signedPayload_eq]
  unfold documentWith
  rw [unlines_append]
  simp

/-- The verifier's payload is the signer's, unless the key id ends with the
    label. -/
theorem verifiedPayload_signed {authority : PersistenceAuthority}
    (hkey : safeKeyId authority.authenticationKeyId = true)
    (hlabel : ¬ labelV2 <:+ authority.authenticationKeyId) (m : ManifestData F)
    (slotName : Text) :
    rfindAt marker (buildSignedV2 N authority m slotName).2 =
        some (signedPayload N authority m).length ∧
      (buildSignedV2 N authority m slotName).2.take (signedPayload N authority m).length =
        signedPayload N authority m := by
  rw [buildSignedV2_cut]
  exact ⟨rfindAt_marker (not_bar_of_safe hkey) (tag_not_bar N authority m slotName) hlabel,
    List.take_left⟩

end

/-- **A storable manifest verifies** under its own key id and slot. -/
theorem authenticateTextV2_signed (hN : N.Exact) {authority : PersistenceAuthority}
    (hkey : safeKeyId authority.authenticationKeyId = true)
    (hlabel : ¬ labelV2 <:+ authority.authenticationKeyId) {m : ManifestData F}
    (h : Storable m) (slotName : Text) :
    authenticateTextV2 N authority slotName (buildSignedV2 N authority m slotName).2 =
      .ok (markAuthenticated (m.said (signedDigest N m)
        (some (signature N authority m slotName)))) := by
  have hdoc := document_reads N hN h (fields_summary h.valid)
    (readSummary_summaryFields h.valid) rfl
    (show ∀ a ∈ some (signature N authority m slotName), a.Valid by
      intro a ha
      cases ha
      exact signature_valid N hkey m slotName)
  have hparse := (parseManifest_eq_some N).mpr ⟨_, buildSignedV2_text N authority m slotName,
    hdoc⟩
  obtain ⟨hoffset, htake⟩ := verifiedPayload_signed N hkey hlabel m slotName
  rw [authenticateTextV2_eq_ok]
  refine ⟨_, _, hparse, rfl, rfl, rfl, hoffset, signedPayload_length N authority m, ?_, rfl⟩
  rw [htake]
  rfl

/-- What a text verified under a key that the label ends has to collide with. -/
theorem not_ok_of_label {authority : PersistenceAuthority}
    (hkey : safeKeyId authority.authenticationKeyId = true) {m m' : ManifestData F}
    {slotName front : Text} (hfront : authority.authenticationKeyId = front ++ labelV2)
    (hslot : '\x00' ∉ slotName)
    (hmac : Separates authority.authenticationKey authority.authenticationKey
      (slotAuthenticationInput authority slotName
        (signedPayload N authority m ++ (labelV2 ++ '|' :: front)))
      (slotAuthenticationInput authority slotName (signedPayload N authority m))) :
    authenticateTextV2 N authority slotName (buildSignedV2 N authority m slotName).2 ≠
      .ok m' := by
  intro h
  obtain ⟨parsed, offset, hparsed, -, -, -, hoffset, -, htag, -⟩ :=
    (authenticateTextV2_eq_ok N).mp h
  obtain ⟨-, -, -, -, hsigned, -⟩ := parse_signed N hkey hparsed
  have hcut : (buildSignedV2 N authority m slotName).2 =
      (signedPayload N authority m ++ (labelV2 ++ '|' :: front)) ++
        (labelV2 ++ '|' :: (signedTag N authority m slotName ++ ['\n'])) := by
    rw [buildSignedV2_cut, hfront]
    simp
  have hfound : rfindAt marker (buildSignedV2 N authority m slotName).2 =
      some (signedPayload N authority m ++ (labelV2 ++ '|' :: front)).length := by
    rw [buildSignedV2_cut, hfront]
    exact rfindAt_marker_keyId (tag_not_bar N authority m slotName)
  rw [hfound, Option.some.injEq] at hoffset
  rw [← hoffset, hcut, List.take_left, hsigned] at htag
  have hnul := (plain_of_safeText hkey).not_nul
  obtain ⟨-, -, hpayload⟩ := slotInput_inj hnul hnul hslot hslot (hmac htag)
  have hlength := congrArg List.length hpayload
  simp only [List.length_append, List.length_cons] at hlength
  omega

/-! ## §3. Binding. -/

/-- **A signed text is bound** to its key id and slot, and to version 2. -/
theorem signed_text_bound {authority : PersistenceAuthority}
    (hkey : safeKeyId authority.authenticationKeyId = true) {m : ManifestData F}
    {slotName : Text} (hslot : safeV2FileName slotName = true) (verifier : PersistenceAuthority) :
    (∀ m', authenticateText N verifier (buildSignedV2 N authority m slotName).2 ≠ .ok m') ∧
    (∀ slotName' m', authenticateTextV2 N verifier slotName'
        (buildSignedV2 N authority m slotName).2 = .ok m' →
      verifier.authenticationKeyId = authority.authenticationKeyId) ∧
    (∀ slotName' m', safeV2FileName slotName' = true →
      Separates verifier.authenticationKey authority.authenticationKey
        (slotAuthenticationInput verifier slotName'
          (verifiedPayload (buildSignedV2 N authority m slotName).2))
        (slotAuthenticationInput authority slotName (signedPayload N authority m)) →
      authenticateTextV2 N verifier slotName' (buildSignedV2 N authority m slotName).2 = .ok m' →
      slotName' = slotName) := by
  have hnul := (plain_of_safeText hkey).not_nul
  have hkeyId : ∀ slotName' m', authenticateTextV2 N verifier slotName'
      (buildSignedV2 N authority m slotName).2 = .ok m' →
      verifier.authenticationKeyId = authority.authenticationKeyId := by
    intro slotName' m' h
    obtain ⟨parsed, offset, hparsed, -, -, hid, -⟩ := (authenticateTextV2_eq_ok N).mp h
    obtain ⟨-, -, -, hsigned, -⟩ := parse_signed N hkey hparsed
    exact hid.symm.trans hsigned
  refine ⟨?_, hkeyId, ?_⟩
  · intro m' h
    unfold authenticateText at h
    split at h
    · exact absurd h (by simp)
    rename_i parsed hparsed
    obtain ⟨-, -, hversion, -⟩ := parse_signed N hkey hparsed
    rw [if_pos (by simp [hversion])] at h
    exact absurd h (by simp)
  · intro slotName' m' hslot' hmac h
    have hid := hkeyId slotName' m' h
    obtain ⟨parsed, offset, hparsed, -, -, -, hoffset, -, htag, -⟩ :=
      (authenticateTextV2_eq_ok N).mp h
    obtain ⟨-, -, -, -, hsigned, -⟩ := parse_signed N hkey hparsed
    have hpayload : verifiedPayload (buildSignedV2 N authority m slotName).2 =
        (buildSignedV2 N authority m slotName).2.take offset := by
      unfold verifiedPayload
      rw [hoffset]
      rfl
    rw [hpayload] at hmac
    have hinput := hmac (htag.trans hsigned)
    have hnul' : '\x00' ∉ verifier.authenticationKeyId := by
      rw [hid]
      exact hnul
    exact (slotInput_inj hnul' hnul (nul_not_mem_of_file hslot') (nul_not_mem_of_file hslot)
      hinput).2.1

/-! ## §4. When a signed manifest verifies. -/

/-- **Signed manifests verify and bind their slot.**  Where the keyed digest
    separates what signer and verifier key, a signed manifest verifies with
    the same content exactly when the key id does not end with the label of
    the authentication line and the file format can hold the manifest.  It
    never verifies as version 1, under another key id or in another slot. -/
theorem signed_text_verifies (hN : N.Exact) (authority : PersistenceAuthority)
    (hkey : safeKeyId authority.authenticationKeyId = true) (slotName : Text)
    (hslot : safeV2FileName slotName = true) (m : ManifestData F) (hm : m.Valid)
    (hmac : ∀ front, authority.authenticationKeyId = front ++ labelV2 →
      Separates authority.authenticationKey authority.authenticationKey
        (slotAuthenticationInput authority slotName
          (signedPayload N authority m ++ (labelV2 ++ '|' :: front)))
        (slotAuthenticationInput authority slotName (signedPayload N authority m))) :
    ((∃ m', authenticateTextV2 N authority slotName (buildSignedV2 N authority m slotName).2 =
          .ok m' ∧
        SameContent m' m ∧
        m'.contentDigest = (buildSignedV2 N authority m slotName).1.contentDigest) ↔
      ¬ labelV2 <:+ authority.authenticationKeyId ∧ Writable m) ∧
    ∀ verifier : PersistenceAuthority,
      (∀ m', authenticateText N verifier (buildSignedV2 N authority m slotName).2 ≠ .ok m') ∧
      (∀ slotName' m', authenticateTextV2 N verifier slotName'
          (buildSignedV2 N authority m slotName).2 = .ok m' →
        verifier.authenticationKeyId = authority.authenticationKeyId) ∧
      (∀ slotName' m', safeV2FileName slotName' = true →
        Separates verifier.authenticationKey authority.authenticationKey
          (slotAuthenticationInput verifier slotName'
            (verifiedPayload (buildSignedV2 N authority m slotName).2))
          (slotAuthenticationInput authority slotName (signedPayload N authority m)) →
        authenticateTextV2 N verifier slotName' (buildSignedV2 N authority m slotName).2 = .ok m' →
        slotName' = slotName) := by
  refine ⟨?_, signed_text_bound N hkey hslot⟩
  constructor
  · rintro ⟨m', hok, hsame, -⟩
    constructor
    · rintro ⟨front, hfront⟩
      exact not_ok_of_label N hkey hfront.symm (nul_not_mem_of_file hslot)
        (hmac front hfront.symm) hok
    · -- what was parsed is storable, and the content is the same
      obtain ⟨parsed, -, hparsed, -, -, -, -, -, -, rfl⟩ := (authenticateTextV2_eq_ok N).mp hok
      obtain ⟨hstorable, -⟩ := parse_signed N hkey hparsed
      have hconfig : parsed.config = m.config := hsame.config
      have hbackend : parsed.intendedBackend = m.intendedBackend := hsame.backend
      have hwritable := (storable_iff hstorable.valid).mp hstorable
      unfold Writable at hwritable ⊢
      rw [hconfig, hbackend] at hwritable
      exact hwritable
  · rintro ⟨hlabel, hwritable⟩
    exact ⟨_, authenticateTextV2_signed N hN hkey hlabel ((storable_iff hm).mpr hwritable)
      slotName, ⟨rfl, rfl, rfl, rfl, rfl, rfl, rfl, rfl⟩, rfl⟩

/-- An authority with a plain key id. -/
def plainAuthority : PersistenceAuthority where
  authenticationKey := fun _ => 7
  authenticationKeyId := "bench-key".toList

/-- The built-in members, signed for the slot `arm`, verify. -/
theorem signed_text_verifies_plain :
    ∃ m', authenticateTextV2 decimalFormat plainAuthority "arm".toList
        (buildSignedV2 decimalFormat plainAuthority virtualManifest "arm".toList).2 = .ok m' ∧
      SameContent m' virtualManifest ∧
      m'.contentDigest =
        (buildSignedV2 decimalFormat plainAuthority virtualManifest "arm".toList).1.contentDigest :=
  (signed_text_verifies decimalFormat decimalFormat_exact plainAuthority (by decide) "arm".toList
    (by decide) virtualManifest storable_virtualMembers.valid
    (by
      intro front hfront
      have hlength := congrArg List.length hfront
      rw [List.length_append] at hlength
      exact absurd hlength (by
        have hlong : labelV2.length = 14 := by decide
        have hshort : plainAuthority.authenticationKeyId.length = 9 := by decide
        omega))).1.mpr
    ⟨by decide, (storable_iff storable_virtualMembers.valid).mp storable_virtualMembers⟩

/-- An authority whose key id is the label of the authentication line. -/
def labelAuthority : PersistenceAuthority where
  authenticationKey := fun _ => 7
  authenticationKeyId := labelV2

/-- The text the signer signs under this key id. -/
def labelInput : Text :=
  slotAuthenticationInput labelAuthority "arm".toList
    (signedPayload decimalFormat labelAuthority virtualManifest)

/-- The text the verifier cuts out instead. -/
def labelMiscut : Text :=
  slotAuthenticationInput labelAuthority "arm".toList
    (signedPayload decimalFormat labelAuthority virtualManifest ++ (labelV2 ++ '|' :: []))

/-- The signed text of the built-in members. -/
theorem signedPayload_virtual :
    signedPayload decimalFormat labelAuthority virtualManifest =
      unlines '\n' (bodyLines decimalFormat virtualManifest) ++ "sha256|".toList ++
        "b5004da4c6bd5e697ebcf3189f250c7e3a4ee6fbaaee349cb8d085f6ce3d5293".toList ++ ['\n'] := by
  unfold signedPayload signedCopy
  rw [virtualDigest]
  rfl

/-- The two keyed digests begin with different digits. -/
theorem labelInput_head :
    (hmacSha256Hex labelAuthority.authenticationKey labelInput).head? = some 'a' := by
  unfold labelInput
  rw [hmacSha256Hex_eval, signedPayload_virtual]
  decide +kernel

theorem labelMiscut_head :
    (hmacSha256Hex labelAuthority.authenticationKey labelMiscut).head? = some '7' := by
  unfold labelMiscut
  rw [hmacSha256Hex_eval, signedPayload_virtual]
  decide +kernel

/-- **A key id that ends with the label breaks verification**: the verifier
    cuts inside the key id and refuses what its own signer wrote. -/
theorem signed_text_refused :
    safeKeyId labelAuthority.authenticationKeyId = true ∧ safeV2FileName "arm".toList = true ∧
    (virtualManifest : ManifestData Decimal).Valid ∧
    ∀ m', authenticateTextV2 decimalFormat labelAuthority "arm".toList
      (buildSignedV2 decimalFormat labelAuthority virtualManifest "arm".toList).2 ≠ .ok m' := by
  have hseparates : Separates labelAuthority.authenticationKey labelAuthority.authenticationKey
      labelMiscut labelInput := by
    intro hequal
    have hheads := congrArg List.head? hequal
    rw [labelMiscut_head, labelInput_head] at hheads
    exact absurd hheads (by decide)
  exact ⟨by decide, by decide, storable_virtualMembers.valid, fun m' =>
    not_ok_of_label decimalFormat (by decide) rfl (by decide) hseparates⟩

end OpenArm.Persist
