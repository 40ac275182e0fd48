/-
  OpenArm.Persist.Signing — signed manifests of `persistence.cpp`.

  A signed manifest is a canonical text followed by an authentication line.
  Version 1 keys the text alone; version 2 keys it together with the key id
  and the slot name, each ended by a NUL.  The signer concatenates; the
  verifier looks for the last label of the authentication line.

  Main results:
    * `slotInput_inj`          — key id, slot and payload are separable.
    * `parse_signed`           — what any reader makes of a signed text.
    * `rfindAt_marker`, `rfindAt_marker_keyId` — where the verifier cuts it.
-/
import OpenArm.Manifest.Reachable

namespace OpenArm.Persist

open OpenArm.Lib OpenArm.Manifest
open OpenArm.Control (Side Joint)
open OpenArm.Runtime (RuntimeStatus)

variable {F : Type} [Floating F] (N : NumberFormat F)

/-! ## §1. Names. -/

/-- `safe_key_id`. -/
def safeKeyId (value : Text) : Bool := safeText value textCapacity

/-- The prefixes of the files a transaction makes. -/
def runtimePrefix : Text := ".openarm-runtime-".toList
def priorPrefix : Text := ".openarm-prior-".toList

/-- `internal_transaction_name`. -/
def internalTransactionName (name : Text) : Bool :=
  runtimePrefix.isPrefixOf name || priorPrefix.isPrefixOf name

/-- The alphabet of file names. -/
def fileChar (c : Char) : Bool :=
  ('a' ≤ c && c ≤ 'z') || ('A' ≤ c && c ≤ 'Z') || ('0' ≤ c && c ≤ '9') ||
    c == '_' || c == '-' || c == '.'

/-- `safe_file_name`; the alphabet has no `/`. -/
def safeFileName (value : Text) : Bool :=
  !value.isEmpty && value.length ≤ 180 && !internalTransactionName value &&
    value != ".".toList && value != "..".toList && value.all fileChar

/-- The name of the previous version of a slot. -/
def previousSuffix : Text := ".previous".toList

def previousName (slot : Text) : Text := slot ++ previousSuffix

/-- `safe_v2_file_name`. -/
def safeV2FileName (value : Text) : Bool :=
  safeFileName value && !previousSuffix.isSuffixOf value

/-! ## §2. Authorities. -/

/-- An entry of `accepted_artifacts`. -/
structure AcceptedArtifact where
  revision : UInt64
  contentDigest : Text

/-- `PersistenceAuthorityData`, without the directory descriptor. -/
structure PersistenceAuthority where
  authenticationKey : Key
  authenticationKeyId : Text
  protocolVersion : Nat := 1
  poisoned : Bool := false
  trustedRevision : UInt64 := 0
  trustedDigest : Text := []
  boundFileName : Text := []
  acceptedRevisionFloor : UInt64 := 0
  acceptedRevisionDigest : Text := []
  acceptedArtifacts : Text → Option AcceptedArtifact := fun _ => none

/-! ## §3. Signing and verifying. -/

/-- The manifest is marked as read from an authenticated file. -/
def markAuthenticated (m : ManifestData F) : ManifestData F :=
  { m with authenticated := true, checkpointAuthorized := false, loadedFromFile := true }

/-- `authenticate_text`. -/
def authenticateText (authority : PersistenceAuthority) (text : Text) :
    Except RuntimeStatus (ManifestData F) :=
  match parseManifest N text with
  | none => .error .ecorrupt
  | some manifest =>
    if manifest.integrityKind ≠ .hmacSha256 ∨ manifest.authenticationVersion ≠ 1 ∨
        manifest.authenticationKeyId ≠ authority.authenticationKeyId then .error .epermission
    else
      match rfindAt (labelV1 ++ ['|']) text with
      | none | some 0 => .error .ecorrupt
      | some offset =>
        if hmacSha256Hex authority.authenticationKey (text.take offset) ≠
            manifest.authenticationTag then .error .epermission
        else .ok (markAuthenticated manifest)

/-- The domain of version 2. -/
def slotDomain : Text := "OPENARM-RUNTIME-SLOT-V2".toList

/-- `slot_authentication_input`. -/
def slotAuthenticationInput (authority : PersistenceAuthority) (slotName payload : Text) : Text :=
  slotDomain ++ '\x00' :: authority.authenticationKeyId ++ '\x00' :: slotName ++ '\x00' :: payload

/-- `authenticate_text_v2`. -/
def authenticateTextV2 (authority : PersistenceAuthority) (slotName text : Text) :
    Except RuntimeStatus (ManifestData F) :=
  match parseManifest N text with
  | none => .error .ecorrupt
  | some manifest =>
    if manifest.integrityKind ≠ .hmacSha256 ∨ manifest.authenticationVersion ≠ 2 ∨
        manifest.authenticationKeyId ≠ authority.authenticationKeyId then .error .epermission
    else
      match rfindAt (labelV2 ++ ['|']) text with
      | none | some 0 => .error .ecorrupt
      | some offset =>
        if hmacSha256Hex authority.authenticationKey
            (slotAuthenticationInput authority slotName (text.take offset)) ≠
            manifest.authenticationTag then .error .epermission
        else .ok (markAuthenticated manifest)

/-- The copy that `build_signed_v2` signs, before its tag. -/
def signedCopy (authority : PersistenceAuthority) (source : ManifestData F) : ManifestData F :=
  { source with
    contentDigest := sha256Hex (manifestCanonical N source false)
    integrityKind := .hmacSha256
    authenticated := true
    checkpointAuthorized := true
    authenticationVersion := 2
    authenticationKeyId := authority.authenticationKeyId }

/-- What `build_signed_v2` keys. -/
def signedPayload (authority : PersistenceAuthority) (source : ManifestData F) : Text :=
  manifestCanonical N (signedCopy N authority source) true

/-- The tag of `build_signed_v2`. -/
def signedTag (authority : PersistenceAuthority) (source : ManifestData F) (slotName : Text) :
    Text :=
  hmacSha256Hex authority.authenticationKey
    (slotAuthenticationInput authority slotName (signedPayload N authority source))

/-- `build_signed_v2`: the copy and its text. -/
def buildSignedV2 (authority : PersistenceAuthority) (source : ManifestData F)
    (slotName : Text) : ManifestData F × Text :=
  let tag := signedTag N authority source slotName
  ({ signedCopy N authority source with authenticationTag := tag },
    signedPayload N authority source ++ labelV2 ++ ['|'] ++ authority.authenticationKeyId ++
      ['|'] ++ tag ++ ['\n'])

/-! ## §4. The keyed input is separable. -/

theorem nul_not_mem_of_file {text : Text} (h : safeV2FileName text = true) : '\x00' ∉ text := by
  intro hmem
  have hfile : safeFileName text = true := ((Bool.and_eq_true _ _).mp h).1
  have hall : text.all fileChar = true := ((Bool.and_eq_true _ _).mp hfile).2
  exact absurd (List.all_eq_true.mp hall _ hmem) (by decide)

/-- **Key id, slot and payload are separable** in what version 2 keys. -/
theorem slotInput_inj {a b : PersistenceAuthority} {slot slot' payload payload' : Text}
    (ha : '\x00' ∉ a.authenticationKeyId) (hb : '\x00' ∉ b.authenticationKeyId)
    (hslot : '\x00' ∉ slot) (hslot' : '\x00' ∉ slot')
    (h : slotAuthenticationInput a slot payload = slotAuthenticationInput b slot' payload') :
    a.authenticationKeyId = b.authenticationKeyId ∧ slot = slot' ∧ payload = payload' := by
  unfold slotAuthenticationInput at h
  simp only [List.append_assoc, List.cons_append, List.append_cancel_left_eq, List.cons.injEq,
    true_and] at h
  obtain ⟨hkey, h⟩ := append_sep_inj ha hb h
  obtain ⟨hname, h⟩ := append_sep_inj hslot hslot' h
  exact ⟨hkey, hname, h⟩

/-! ## §5. The text of a signed manifest. -/

/-- The authentication that `build_signed_v2` appends. -/
def signature (authority : PersistenceAuthority) (source : ManifestData F) (slotName : Text) :
    Authentication where
  version := 2
  keyId := authority.authenticationKeyId
  tag := signedTag N authority source slotName

omit [Floating F] in
theorem signature_valid {authority : PersistenceAuthority}
    (hkey : safeKeyId authority.authenticationKeyId = true) (source : ManifestData F)
    (slotName : Text) : (signature N authority source slotName).Valid where
  version := Or.inr rfl
  keyId := hkey
  tagLength := hmacSha256Hex_length _ _
  tagDigits := hmacSha256Hex_digits _ _

/-- The digest of the signed copy. -/
def signedDigest (source : ManifestData F) : Text := sha256Hex (manifestCanonical N source false)

omit [Floating F] in
theorem signedPayload_eq (authority : PersistenceAuthority) (source : ManifestData F) :
    signedPayload N authority source =
      unlines '\n' (documentWith N source (summaryFields source) (signedDigest N source)
        none) := by
  have hne : (signedCopy N authority source).contentDigest ≠ [] := by
    intro hnil
    have hlength := sha256Hex_length (manifestCanonical N source false)
    have hdigest : (signedCopy N authority source).contentDigest =
        sha256Hex (manifestCanonical N source false) := rfl
    rw [← hdigest, hnil] at hlength
    exact absurd hlength (by decide)
  unfold signedPayload
  rw [manifestCanonical_true N hne]
  rfl

omit [Floating F] in
/-- A signed text is a document with an authentication line. -/
theorem buildSignedV2_text (authority : PersistenceAuthority) (source : ManifestData F)
    (slotName : Text) :
    (buildSignedV2 N authority source slotName).2 =
      unlines '\n' (documentWith N source (summaryFields source) (signedDigest N source)
        (some (signature N authority source slotName))) := by
  unfold buildSignedV2
  rw [signedPayload_eq]
  unfold documentWith
  simp [unlines_append, signature, Authentication.fields]

/-- **What any reader makes of a signed text**: if it parses at all, it says
    the signature and the digest of the signer. -/
theorem parse_signed {authority : PersistenceAuthority}
    (hkey : safeKeyId authority.authenticationKeyId = true) {source m : ManifestData F}
    {slotName : Text}
    (h : parseManifest N (buildSignedV2 N authority source slotName).2 = some m) :
    Storable m ∧ m.integrityKind = .hmacSha256 ∧ m.authenticationVersion = 2 ∧
      m.authenticationKeyId = authority.authenticationKeyId ∧
      m.authenticationTag = signedTag N authority source slotName ∧
      m.contentDigest = signedDigest N source := by
  rw [buildSignedV2_text] at h
  obtain ⟨ls, htext, hdoc⟩ := (parseManifest_eq_some N).mp h
  -- a line end inside a field would make too many lines
  have hlines : ls = documentWith N source (summaryFields source) (signedDigest N source)
      (some (signature N authority source slotName)) := by
    refine unlines_inj hdoc.newline ?_ htext.symm
    have := hdoc.count
    show ls.length ≤ 18
    omega
  obtain ⟨summary, motors, authentication, -, -, hlast, hm⟩ := hdoc.content
  have hvalid := signature_valid N hkey source slotName
  have hauth : authentication = some (signature N authority source slotName) := by
    have hline : ls.getD 17 [] = joinFields (signature N authority source slotName).fields := by
      rw [hlines]
      rfl
    have heighteen : ls.length = 18 := by
      rw [hlines]
      rfl
    unfold readLast at hlast
    rw [if_pos heighteen, hline, (fields_authentication hvalid).split (List.cons_ne_nil _ _),
      readAuthentication_fields hvalid] at hlast
    cases hlast
    rfl
  have hdigest : m.contentDigest = signedDigest N source := by
    have hline : ls.getD 16 [] = joinFields ["sha256".toList, signedDigest N source] := by
      rw [hlines]
      rfl
    have hsplit := hdoc.digestLine
    have hfields : Fields ["sha256".toList, signedDigest N source] :=
      .cons (by decide) (by decide)
        (.cons (plain_sha256Hex _) (sha256Hex_length _).le .nil)
    rw [hline, hfields.split (by simp)] at hsplit
    simp only [List.cons.injEq, and_true, true_and] at hsplit
    exact hsplit.symm
  refine ⟨.of_reading N hdoc, ?_, ?_, ?_, ?_, hdigest⟩
  · rw [hm, hauth]
    rfl
  · rw [hm, hauth]
    rfl
  · rw [hm, hauth]
    rfl
  · rw [hm, hauth]
    rfl

/-! ## §6. Where the verifier cuts. -/

/-- The marker that both sides use. -/
def marker : Text := labelV2 ++ ['|']

theorem not_bar_of_safe {text : Text} (h : safeKeyId text = true) : '|' ∉ text :=
  (plain_of_safeText h).not_bar

/-- The end of a signed text: one marker, and what follows the key id. -/
theorem marker_once {tag : Text} (htag : '|' ∉ tag) : ¬ marker <:+: tag ++ ['\n'] := by
  apply marker_absent
  intro hmem
  rcases List.mem_append.mp hmem with h | h
  · exact htag h
  · exact absurd h (by decide)

/-- Behind its first character, a marker with its key id holds another marker
    exactly when the key id ends with the label. -/
theorem marker_again {keyId tag : Text} (hkey : '|' ∉ keyId) (htag : '|' ∉ tag) :
    marker <:+: (labelV2 ++ '|' :: (keyId ++ '|' :: (tag ++ ['\n']))).tail ↔
      labelV2 <:+ keyId := by
  have htail : (labelV2 ++ '|' :: (keyId ++ '|' :: (tag ++ ['\n']))).tail =
      labelV2.tail ++ '|' :: (keyId ++ '|' :: (tag ++ ['\n'])) := rfl
  have hshort : ¬ labelV2 <:+ labelV2.tail := fun h => absurd h.length_le (by decide)
  have hlast : ¬ labelV2 ++ ['|'] <:+: tag ++ ['\n'] := marker_once htag
  rw [htail]
  unfold marker
  rw [marker_occurs (by decide) (by decide), marker_occurs (by decide) hkey]
  simp only [hshort, false_or, hlast, or_false]

/-- **Where the verifier cuts**: in front of the authentication line, unless
    the key id ends with the label. -/
theorem rfindAt_marker {payload keyId tag : Text} (hkey : '|' ∉ keyId) (htag : '|' ∉ tag)
    (h : ¬ labelV2 <:+ keyId) :
    rfindAt marker (payload ++ (labelV2 ++ '|' :: (keyId ++ '|' :: (tag ++ ['\n'])))) =
      some payload.length := by
  refine rfindAt_append ⟨keyId ++ '|' :: (tag ++ ['\n']), by simp [marker]⟩ ?_ (by simp)
  rw [marker_again hkey htag]
  exact h

/-- … and then inside the key id. -/
theorem rfindAt_marker_keyId {payload front tag : Text} (htag : '|' ∉ tag) :
    rfindAt marker (payload ++ (labelV2 ++ '|' :: ((front ++ labelV2) ++ '|' ::
        (tag ++ ['\n'])))) =
      some (payload ++ (labelV2 ++ '|' :: front)).length := by
  have hsplit : payload ++ (labelV2 ++ '|' :: ((front ++ labelV2) ++ '|' :: (tag ++ ['\n']))) =
      (payload ++ (labelV2 ++ '|' :: front)) ++ (labelV2 ++ '|' :: (tag ++ ['\n'])) := by
    simp
  have htail : (labelV2 ++ '|' :: (tag ++ ['\n'])).tail =
      labelV2.tail ++ '|' :: (tag ++ ['\n']) := rfl
  have hshort : ¬ labelV2 <:+ labelV2.tail := fun h => absurd h.length_le (by decide)
  rw [hsplit]
  refine rfindAt_append ⟨tag ++ ['\n'], by simp [marker]⟩ ?_ (by simp)
  rw [htail]
  unfold marker
  rw [marker_occurs (by decide) (by decide)]
  exact fun h => h.elim hshort (marker_once htag)

end OpenArm.Persist
