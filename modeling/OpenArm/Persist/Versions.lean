/-
  OpenArm.Persist.Versions — sequences of calls on one authority.

  The directory is whatever it is at each file operation, and a caller names
  whatever it likes.  A call that the process does not survive ends the run:
  the authority dies with the process.

  Main results:
    * `Kept.of_run`         — what a run leaves of an authority.
    * `rollback_protection` — every call of every sequence.
-/
import OpenArm.Persist.Rollback

namespace OpenArm.Persist

open OpenArm.Lib OpenArm.Manifest
open OpenArm.Runtime (RuntimeStatus)

variable {F : Type} [Floating F] (N : NumberFormat F)

/-! ## §1. Calls. -/

/-- A version 2 call on an authority. -/
inductive AuthorityCall (F : Type) where
  | load (call : LoadCall)
  | save (call : SaveCall F)
  | recover (call : LoadCall)

/-- What the call does. -/
def AuthorityCall.run (authority : PersistenceAuthority) :
    AuthorityCall F → Script (Outcome F)
  | .load call => loadAuthenticatedV2 N authority call
  | .save call => saveV2 N authority call
  | .recover call => recoverV2 N authority call

/-- The file name that the caller gives. -/
def AuthorityCall.fileName : AuthorityCall F → Option Text
  | .load call | .recover call => call.fileName
  | .save call => call.fileName

/-- The checkpoint that the caller gives. -/
def AuthorityCall.checkpoint : AuthorityCall F → CheckpointArgument
  | .load call | .recover call => call.checkpoint
  | .save call => call.checkpoint

/-- The calls on an authority of version 2, one after the other under its
    mutex; `oa_runtime_persistence_authority_open_v2` makes the initial ones. -/
def authorityCalls : Lts PersistenceAuthority (AuthorityCall F × Outcome F) where
  init a := a.protocolVersion = 2 ∧ a.poisoned = false ∧ a.boundFileName = [] ∧
    safeKeyId a.authenticationKeyId = true
  step a e b := Exec (anyReply fileSig) (e.1.run N a) () (some e.2) () ∧ b = e.2.authority

variable {N}

/-! ## §2. One call. -/

theorem step_named {a b : PersistenceAuthority} {e : AuthorityCall F × Outcome F}
    (h : (authorityCalls N).step a e b) :
    b = e.2.authority ∧ Named N e.1.fileName e.1.checkpoint a e.2 := by
  obtain ⟨call, outcome⟩ := e
  obtain ⟨hexec, hb⟩ := h
  refine ⟨hb, ?_⟩
  cases call with
  | load call => exact ((spec_load N a call).returns hexec).1
  | save call => exact ((spec_save N a call).returns hexec).1
  | recover call => exact (spec_recover N a call).returns hexec

/-- While poisoned, only a recovery on the trusted checkpoint succeeds. -/
theorem step_poisoned {a b : PersistenceAuthority} {e : AuthorityCall F × Outcome F}
    (h : (authorityCalls N).step a e b) (hpoisoned : a.poisoned = true)
    (hok : e.2.status = .ok) :
    ∃ call, e.1 = .recover call ∧
      call.checkpoint.checkpoint = ⟨a.trustedRevision, a.trustedDigest⟩ := by
  obtain ⟨-, hsound, -⟩ := step_named h
  obtain ⟨call, outcome⟩ := e
  obtain ⟨hexec, -⟩ := h
  cases call with
  | load call => exact absurd hok (((spec_load N a call).returns hexec).2 hpoisoned).1
  | save call => exact absurd hok (((spec_save N a call).returns hexec).2 hpoisoned).1
  | recover call => exact ⟨call, rfl, hsound.poison hpoisoned (Or.inl hok)⟩

theorem kept_step {a b : PersistenceAuthority} {e : AuthorityCall F × Outcome F}
    (h : (authorityCalls N).step a e b) : Kept a b := by
  obtain ⟨rfl, hsound, -⟩ := step_named h
  exact hsound.kept

/-- **What a run leaves of an authority.** -/
theorem Kept.of_run {a b : PersistenceAuthority} {es : List (AuthorityCall F × Outcome F)}
    (h : (authorityCalls N).Run a es b) : Kept a b := by
  induction h with
  | nil => exact .refl _
  | snoc _ last ih => exact ih.trans (kept_step last)

/-- A successful call leaves its own file name bound. -/
theorem step_ok {a b : PersistenceAuthority} {e : AuthorityCall F × Outcome F}
    (h : (authorityCalls N).step a e b) (hok : e.2.status = .ok) :
    e.1.fileName = some b.boundFileName ∧ safeV2FileName b.boundFileName = true := by
  obtain ⟨rfl, hsound, hname⟩ := step_named h
  obtain ⟨-, hfailed⟩ | ⟨name, hname, hsafe⟩ := hname
  · exact absurd hok hfailed
  · have hbound := hsound.named hok
    rw [hname, Option.getD_some] at hbound
    rw [hbound]
    exact ⟨hname, hsafe⟩

theorem ne_nil_of_safe {name : Text} (h : safeV2FileName name = true) : name ≠ [] := by
  rintro rfl
  exact absurd h (by decide)

/-! ## §3. Tags. -/

/-- The manifest was read from `text`, and its tag is the keyed digest of the
    payload of `text` under the authority's key, key id and slot. -/
structure CarriesTag (a : PersistenceAuthority) (slotName text : Text) (m : ManifestData F) :
    Prop where
  version : m.authenticationVersion = 2
  keyId : m.authenticationKeyId = a.authenticationKeyId
  tag : hmacSha256Hex a.authenticationKey
    (slotAuthenticationInput a slotName (verifiedPayload text)) = m.authenticationTag
  parsed : ∃ parsed, parseManifest N text = some parsed ∧
    m = { markAuthenticated parsed with checkpointAuthorized := true }

theorem HandedOut.carriesTag {a : PersistenceAuthority} {slotName : Text} {m : ManifestData F}
    (h : HandedOut N a slotName m) : ∃ text, CarriesTag (N := N) a slotName text m := by
  obtain ⟨verified, ⟨text, htext⟩, rfl⟩ := h
  obtain ⟨parsed, offset, hparsed, -, hversion, hkey, hoffset, -, htag, rfl⟩ :=
    (authenticateTextV2_eq_ok N).mp htext
  refine ⟨text, hversion, hkey, ?_, parsed, hparsed, rfl⟩
  have hpayload : verifiedPayload text = text.take offset := by
    unfold verifiedPayload
    rw [hoffset]
    rfl
  rw [hpayload]
  exact htag

/-- The tag is that of no other key id and no other slot, where the keyed
    digest separates the two inputs. -/
def OnlyFor (a : PersistenceAuthority) (slotName text : Text) (tag : Text) : Prop :=
  ∀ (other : PersistenceAuthority) (slot payload : Text),
    safeKeyId other.authenticationKeyId = true → safeV2FileName slot = true →
    Separates a.authenticationKey other.authenticationKey
      (slotAuthenticationInput a slotName (verifiedPayload text))
      (slotAuthenticationInput other slot payload) →
    hmacSha256Hex other.authenticationKey (slotAuthenticationInput other slot payload) = tag →
    other.authenticationKeyId = a.authenticationKeyId ∧ slot = slotName

theorem CarriesTag.onlyFor {a : PersistenceAuthority} {slotName text : Text}
    {m : ManifestData F} (h : CarriesTag (N := N) a slotName text m)
    (hkey : safeKeyId a.authenticationKeyId = true) (hslot : safeV2FileName slotName = true) :
    OnlyFor a slotName text m.authenticationTag := by
  intro other slot payload hother hslot' hseparates htag
  have hinput := hseparates (h.tag.trans htag.symm)
  obtain ⟨hid, hname, -⟩ := slotInput_inj (plain_of_safeText hkey).not_nul
    (plain_of_safeText hother).not_nul (nul_not_mem_of_file hslot) (nul_not_mem_of_file hslot')
    hinput
  exact ⟨hid.symm, hname.symm⟩

/-! ## §4. Every sequence of calls. -/

/-- **Rollback protection.**  In every sequence of calls the trusted revision
    never falls and the digest of an unchanged revision never changes; a
    manifest that is handed out carries the tag of this key id and the bound
    file name, of no other, and lies on or above the caller's checkpoint; the
    bound file name never changes and every successful call names it; and a
    poisoned authority answers only a recovery on its trusted checkpoint. -/
theorem rollback_protection {start mid next final : PersistenceAuthority}
    {before after : List (AuthorityCall F × Outcome F)} {e : AuthorityCall F × Outcome F}
    (hstart : (authorityCalls N).init start) (hbefore : (authorityCalls N).Run start before mid)
    (hstep : (authorityCalls N).step mid e next)
    (hafter : (authorityCalls N).Run next after final) :
    (mid.trustedRevision ≤ final.trustedRevision ∧
      (final.trustedRevision = mid.trustedRevision →
        final.trustedDigest = mid.trustedDigest)) ∧
    (∀ m, e.2.manifest = some m → e.2.status = .ok ∧
      (∃ text, CarriesTag (N := N) final final.boundFileName text m ∧
        OnlyFor final final.boundFileName text m.authenticationTag) ∧
      e.1.checkpoint.checkpoint.revision ≤ m.config.manifestRevision ∧
      (m.config.manifestRevision = e.1.checkpoint.checkpoint.revision →
        m.contentDigest = e.1.checkpoint.checkpoint.contentSha256)) ∧
    ((next.boundFileName ≠ [] → final.boundFileName = next.boundFileName) ∧
      (e.2.status = .ok → e.1.fileName = some final.boundFileName)) ∧
    (mid.poisoned = true → e.2.status = .ok → ∃ call, e.1 = .recover call ∧
      call.checkpoint.checkpoint = ⟨mid.trustedRevision, mid.trustedDigest⟩) := by
  have hkept : Kept mid final := (kept_step hstep).trans (.of_run hafter)
  have hall : Kept start final := (Kept.of_run hbefore).trans hkept
  -- the name of a successful call stays bound
  have hbound : e.2.status = .ok → final.boundFileName = next.boundFileName := by
    intro hok
    exact (Kept.of_run hafter).name (ne_nil_of_safe (step_ok hstep hok).2)
  refine ⟨⟨hkept.revision, hkept.digest⟩, ?_, ⟨(Kept.of_run hafter).name, ?_⟩,
    step_poisoned hstep⟩
  · intro m hm
    obtain ⟨-, hsound, -⟩ := step_named hstep
    obtain ⟨hok, hhanded, hfloor⟩ := hsound.handed m hm
    obtain ⟨hname, hsafe⟩ := step_ok hstep hok
    rw [hname, Option.getD_some] at hhanded
    have hkey : safeKeyId final.authenticationKeyId = true := hall.keyId ▸ hstart.2.2.2
    -- what verifies depends on the key and the key id only
    have hfinal : HandedOut N final final.boundFileName m := by
      obtain ⟨verified, ⟨text, htext⟩, rfl⟩ := hhanded
      refine ⟨verified, ⟨text, ?_⟩, rfl⟩
      rw [hbound hok, ← htext]
      unfold authenticateTextV2 slotAuthenticationInput
      rw [hkept.key, hkept.keyId]
    obtain ⟨text, htag⟩ := hfinal.carriesTag
    exact ⟨hok, ⟨text, htag, htag.onlyFor hkey (hbound hok ▸ hsafe)⟩, hfloor.revision,
      hfloor.digest⟩
  · intro hok
    rw [hbound hok]
    exact (step_ok hstep hok).1

/-! ## §5. A load. -/

/-- What a program returns where every operation has one answer. -/
def answered {α : Type} (answer : ∀ o : FileOp, o.Reply) : Script α → α
  | .ret a => a
  | .act o rest => answered answer (rest (answer o))
  | .call p _ => p.elim

theorem exec_answered {α : Type} (answer : ∀ o : FileOp, o.Reply) (p : Script α) :
    Exec (anyReply fileSig) p () (some (answered answer p)) () := by
  induction p with
  | ret a => exact .ret a ()
  | act o rest ih => exact .act (r := answer o) trivial (ih (answer o))
  | call p rest _ => exact p.elim

theorem answered_bind {α β : Type} (answer : ∀ o : FileOp, o.Reply) (p : Script α)
    (f : α → Script β) : answered answer (p.bind f) = answered answer (f (answered answer p)) := by
  induction p with
  | ret a => rfl
  | act o rest ih => exact ih (answer o)
  | call p rest _ => exact p.elim

theorem answered_ret {α : Type} (answer : ∀ o : FileOp, o.Reply) (a : α) :
    answered answer (.ret a) = a := rfl

/-- A directory with one file that reads as `text`, on which nothing fails. -/
def smooth (text : Text) : ∀ o : FileOp, o.Reply
  | .lock | .closeScan | .create _ | .write _ _ | .syncFile _ | .close _ | .rename _ _
  | .syncDirectory | .insert | .allocate => true
  | .scan => some ⟨[], false⟩
  | .stat _ => .regular
  | .read _ => .ok text
  | .openRegular _ => some true
  | .unlink _ => .removed
  | .sameInode _ _ => some false
  | .freshSuffix => "0".toList

/-- Where nothing fails, a load hands out what the file holds. -/
theorem load_hands_out {a : PersistenceAuthority} {fileName : Text} {call : LoadCall}
    {checkpoint : Checkpoint} {text : Text} {m : ManifestData F}
    (hcheck : call.check = .ok (fileName, checkpoint)) (hprotocol : a.protocolVersion = 2)
    (hpoisoned : a.poisoned = false) (hempty : a.boundFileName = [])
    (htrusted : trustedStatus a checkpoint = .ok)
    (htext : authenticateTextV2 N a fileName text = .ok m)
    (hfloor : satisfiesFloor m checkpoint = .ok) :
    ∃ outcome, Exec (anyReply fileSig) (loadAuthenticatedV2 N a call) () (some outcome) () ∧
      outcome.status = .ok ∧
      outcome.manifest = some { m with checkpointAuthorized := true } := by
  refine ⟨_, exec_answered (smooth text) _, ?_⟩
  obtain ⟨key, keyId, protocolVersion, poisoned, revision, digest, boundFileName⟩ := a
  dsimp only at hprotocol hpoisoned hempty
  subst hprotocol hpoisoned hempty
  generalize ha : (⟨key, keyId, 2, false, revision, digest, [], _, _, _⟩ :
    PersistenceAuthority) = a at *
  have htext' : authenticateTextV2 N (bound a fileName) fileName text = .ok m := htext
  have htrusted' : trustedStatus (bound a fileName) checkpoint = .ok := htrusted
  have hallocate : answered (smooth text) (perform .allocate) = true := rfl
  have hlock : answered (smooth text) (perform .lock) = true := rfl
  have hscan : answered (smooth text) (perform .scan) = some ⟨[], false⟩ := rfl
  have hclose : answered (smooth text) (perform .closeScan) = true := rfl
  have hread : answered (smooth text) (perform (.read fileName)) = .ok text := rfl
  have hinsert : answered (smooth text) (perform .insert) = true := rfl
  subst ha
  unfold bound at htext' htrusted'
  unfold loadAuthenticatedV2 bindV2Call bindFileName cleanupInternalArtifacts
    loadAuthenticatedAtV2 publish trust
  rw [hcheck]
  simp [answered_bind, answered_ret, removeInternal, hallocate, hlock, hscan, hclose, hread,
    hinsert, htrusted', htext', hfloor]

/-- A version 2 authority with nothing trusted yet. -/
def freshAuthority : PersistenceAuthority :=
  { plainAuthority with protocolVersion := 2 }

/-- The call that loads `arm` on the checkpoint of the built-in members. -/
def armLoad : LoadCall where
  outManifestValid := true
  outCheckpointValid := true
  fileName := some "arm".toList
  checkpoint := ⟨true, ⟨1, signedDigest decimalFormat virtualManifest⟩, true⟩

theorem check_armLoad : armLoad.check = .ok ("arm".toList, armLoad.checkpoint.checkpoint) := by
  have hdigest : lowercaseDigest (signedDigest decimalFormat virtualManifest) = true := by
    unfold lowercaseDigest signedDigest
    rw [Bool.and_eq_true, beq_iff_eq, List.all_eq_true]
    exact ⟨sha256Hex_length _, sha256Hex_digits _⟩
  have hsnapshot : armLoad.checkpoint.snapshot = .ok armLoad.checkpoint.checkpoint := by
    unfold CheckpointArgument.snapshot
    rw [if_neg (by decide), if_neg (by decide)]
    exact if_pos hdigest
  unfold LoadCall.check
  rw [if_neg (by decide), if_neg (by decide), hsnapshot]
  rfl

/-- The built-in members, signed for `arm`, are handed out with their tag by
    the first load of a fresh authority. -/
theorem rollback_protection_load :
    ∃ (final : PersistenceAuthority) (e : AuthorityCall Decimal × Outcome Decimal)
      (m : ManifestData Decimal) (text : Text),
      (authorityCalls decimalFormat).step freshAuthority e final ∧ e.2.manifest = some m ∧
      final.boundFileName = "arm".toList ∧
      CarriesTag (N := decimalFormat) final "arm".toList text m := by
  have htext := @authenticateTextV2_signed _ _ decimalFormat decimalFormat_exact
    freshAuthority (by decide)
    (by
      intro hsuffix
      have hlength := hsuffix.length_le
      exact absurd hlength (by decide))
    _ storable_virtualMembers "arm".toList
  have hfloor : satisfiesFloor (F := Decimal) (markAuthenticated (virtualManifest.said
      (signedDigest decimalFormat virtualManifest)
      (some (signature decimalFormat freshAuthority virtualManifest "arm".toList))))
      armLoad.checkpoint.checkpoint = .ok := by
    unfold satisfiesFloor
    refine (if_neg (UInt64.lt_irrefl 1)).trans (if_neg ?_)
    rintro ⟨-, hother⟩
    exact hother rfl
  obtain ⟨outcome, hexec, hok, hmanifest⟩ :=
    load_hands_out check_armLoad rfl rfl rfl rfl htext hfloor
  have hstep : (authorityCalls decimalFormat).step freshAuthority (.load armLoad, outcome)
      outcome.authority := ⟨hexec, rfl⟩
  obtain ⟨-, hhanded, ⟨-, hname⟩, -⟩ :=
    rollback_protection ⟨rfl, rfl, rfl, by decide⟩ (.nil freshAuthority) hstep (.nil _)
  obtain ⟨-, ⟨text, htag, -⟩, -⟩ := hhanded _ hmanifest
  have hbound : some "arm".toList = some outcome.authority.boundFileName := hname hok
  rw [← Option.some.inj hbound] at htag
  exact ⟨_, _, _, text, hstep, hmanifest, (Option.some.inj hbound).symm, htag⟩

end OpenArm.Persist
