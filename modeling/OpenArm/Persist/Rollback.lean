/-
  OpenArm.Persist.Rollback — what an authority never gives up.

  Whatever the operating system answers, a call leaves the trusted revision
  where it was or raises it, keeps the digest of an unchanged revision, and
  binds the authority to one file name.  A manifest that is handed out was
  verified for that name and lies on or above the caller's checkpoint.

  Main results:
    * `spec_load`, `spec_save`, `spec_recover` — one call.
-/
import OpenArm.Persist.Commit

namespace OpenArm.Persist

open OpenArm.Lib OpenArm.Manifest
open OpenArm.Runtime (RuntimeStatus)

variable {F : Type} [Floating F] (N : NumberFormat F)

/-! ## §1. Any answers. -/

/-- Every execution of `p` that returns meets `Q`, whatever is answered. -/
def Always {α : Type} (p : Script α) (Q : α → Prop) : Prop :=
  Spec (anyReply fileSig) (fun _ => True) p (fun a _ => Q a) ()

theorem Always.pure {α : Type} {a : α} {Q : α → Prop} (h : Q a) : Always (pure a) Q := h

theorem Always.bind {α β : Type} {p : Script α} {f : α → Script β} {Q : α → Prop}
    {R : β → Prop} (h : Always p Q) (hf : ∀ a, Q a → Always (f a) R) : Always (p >>= f) R :=
  Spec.bind h fun a _ ha => hf a ha

theorem Always.mono {α : Type} {p : Script α} {Q R : α → Prop} (h : Always p Q)
    (hQR : ∀ a, Q a → R a) : Always p R :=
  Spec.mono h fun a _ ha => hQR a ha

/-- Nothing is claimed of a program whose result says nothing. -/
theorem always_any {α : Type} (p : Script α) : Always p fun _ => True := by
  unfold Always
  induction p with
  | ret a => trivial
  | act o rest ih => exact fun r _ _ => ⟨trivial, ih r⟩
  | call p rest _ => exact p.elim

theorem Always.any_bind {α β : Type} {p : Script α} {f : α → Script β} {R : β → Prop}
    (hf : ∀ a, Always (f a) R) : Always (p >>= f) R :=
  (always_any p).bind fun a _ => hf a

/-! ## §2. The steps of a call. -/

/-- A failure has a status of its own. -/
def Proper {α : Type} (r : Except RuntimeStatus α) : Prop :=
    ∀ status, r = .error status → status ≠ .ok

theorem proper_ok {α : Type} (a : α) : Proper (.ok a : Except RuntimeStatus α) := by
  rintro status ⟨⟩

theorem proper_error {α : Type} {status : RuntimeStatus} (h : status ≠ .ok) :
    Proper (.error status : Except RuntimeStatus α) := by
  rintro _ ⟨⟩
  exact h

theorem ReadError.status_ne_ok (e : ReadError) : e.status ≠ .ok := by
  cases e <;> decide

theorem proper_authenticate (authority : PersistenceAuthority) (slotName text : Text) :
    Proper (authenticateTextV2 N authority slotName text) := by
  intro status h
  unfold authenticateTextV2 at h
  split at h
  · cases h
    decide
  · split at h
    · cases h
      decide
    · split at h
      · cases h
        decide
      · cases h
        decide
      · split at h
        · cases h
          decide
        · exact absurd h (by simp)

theorem proper_snapshot (argument : CheckpointArgument) : Proper argument.snapshot := by
  intro status h
  unfold CheckpointArgument.snapshot at h
  split at h
  · cases h
    decide
  · split at h
    · split at h
      · exact absurd h (by simp)
      · cases h
        decide
    · split at h
      · exact absurd h (by simp)
      · cases h
        decide

/-- `m` was verified by `authority` for a slot. -/
def Verified (authority : PersistenceAuthority) (slotName : Text) (m : ManifestData F) : Prop :=
  ∃ text, authenticateTextV2 N authority slotName text = .ok m

/-- The authority bound to a file name. -/
def bound (authority : PersistenceAuthority) (fileName : Text) : PersistenceAuthority :=
  { authority with boundFileName := fileName }

/-- The authority has no other file name. -/
def Bindable (authority : PersistenceAuthority) (fileName : Text) : Prop :=
  authority.boundFileName = [] ∨ authority.boundFileName = fileName

theorem always_bindFileName (authority : PersistenceAuthority) (fileName : Text) :
    Always (bindFileName authority fileName) fun r => Proper r ∧
      ∀ b, r = .ok b → b = bound authority fileName ∧ Bindable authority fileName := by
  unfold bindFileName
  split
  · rename_i hempty
    refine .any_bind fun allocated => ?_
    split
    · refine .pure ⟨proper_ok _, ?_⟩
      rintro b ⟨⟩
      exact ⟨rfl, Or.inl hempty⟩
    · refine .pure ⟨proper_error (by decide), ?_⟩
      rintro b ⟨⟩
  · split
    · refine .pure ⟨proper_error (by decide), ?_⟩
      rintro b ⟨⟩
    · rename_i hsame
      push Not at hsame
      refine .pure ⟨proper_ok _, ?_⟩
      rintro b ⟨⟩
      refine ⟨?_, Or.inr hsame⟩
      unfold bound
      rw [← hsame]

/-- What binding leaves of the authority. -/
def BoundOrSame (a : PersistenceAuthority) (fileName : Text) (b : PersistenceAuthority) : Prop :=
  b = a ∨ (b = bound a fileName ∧ Bindable a fileName)

theorem always_bindV2Call (a : PersistenceAuthority) (fileName : Text)
    (checkpoint : Checkpoint) :
    Always (bindV2Call a fileName checkpoint) fun r =>
      BoundOrSame a fileName r.1 ∧
        (r.2 = .ok → r.1 = bound a fileName ∧ Bindable a fileName ∧ a.poisoned = false ∧
          trustedStatus a checkpoint = .ok) := by
  unfold bindV2Call
  split
  · exact .pure ⟨Or.inl rfl, by simp⟩
  · split
    · exact .pure ⟨Or.inl rfl, by simp⟩
    · rename_i hpoisoned
      refine (always_bindFileName a fileName).bind fun r hr => ?_
      cases r with
      | error status => exact .pure ⟨Or.inl rfl, fun hok => absurd hok (hr.1 status rfl)⟩
      | ok b =>
        obtain ⟨rfl, hbindable⟩ := hr.2 b rfl
        exact .pure ⟨Or.inr ⟨rfl, hbindable⟩, fun hok =>
          ⟨rfl, hbindable, by simpa using hpoisoned, hok⟩⟩

theorem always_load (a : PersistenceAuthority) (entryName slotName : Text) :
    Always (loadAuthenticatedAtV2 N a entryName slotName) fun r : Except _ (ManifestData F) =>
      Proper r ∧ ∀ m, r = .ok m → Verified N a slotName m := by
  unfold loadAuthenticatedAtV2
  refine .any_bind fun r => ?_
  cases r with
  | error failure =>
    refine .pure ⟨proper_error failure.status_ne_ok, ?_⟩
    rintro m ⟨⟩
  | ok text =>
    exact .pure ⟨proper_authenticate N a slotName text, fun m hm => ⟨text, hm⟩⟩

/-- A checkpoint is not below the trusted one, nor beside it. -/
structure AboveTrusted (a : PersistenceAuthority) (checkpoint : Checkpoint) : Prop where
  revision : a.trustedRevision ≤ checkpoint.revision
  digest : checkpoint.revision = a.trustedRevision → checkpoint.contentSha256 = a.trustedDigest

theorem aboveTrusted_of_status {a : PersistenceAuthority} {checkpoint : Checkpoint}
    (h : trustedStatus a checkpoint = .ok) : AboveTrusted a checkpoint := by
  unfold trustedStatus at h
  split at h
  · exact absurd h (by decide)
  · rename_i hbelow
    split at h
    · exact absurd h (by decide)
    · rename_i hdigest
      push Not at hdigest
      exact ⟨UInt64.not_lt.mp hbelow, hdigest⟩

/-- A manifest is not below the checkpoint, nor beside it. -/
structure AboveFloor (m : ManifestData F) (checkpoint : Checkpoint) : Prop where
  revision : checkpoint.revision ≤ m.config.manifestRevision
  digest : m.config.manifestRevision = checkpoint.revision →
    m.contentDigest = checkpoint.contentSha256

omit [Floating F] in
theorem aboveFloor_of_status {m : ManifestData F} {checkpoint : Checkpoint}
    (h : satisfiesFloor m checkpoint = .ok) : AboveFloor m checkpoint := by
  unfold satisfiesFloor at h
  split at h
  · exact absurd h (by decide)
  · rename_i hbelow
    split at h
    · exact absurd h (by decide)
    · rename_i hdigest
      push Not at hdigest
      exact ⟨UInt64.not_lt.mp hbelow, hdigest⟩

omit [Floating F] in
theorem AboveFloor.of_sameVersion {m n : ManifestData F} {checkpoint : Checkpoint}
    (h : AboveFloor n checkpoint) (hsame : sameVersion m n) : AboveFloor m checkpoint := by
  obtain ⟨hdigest, hrevision⟩ := hsame
  refine ⟨?_, fun heq => ?_⟩
  · rw [hrevision]
    exact h.revision
  · rw [hdigest]
    exact h.digest (hrevision ▸ heq)

/-- The commit of a save leaves the authority or poisons it. -/
def SameOrPoisoned (a b : PersistenceAuthority) : Prop := b = a ∨ b = { a with poisoned := true }

theorem always_undo (a : PersistenceAuthority) (fileName : Text) (targetExists : Bool)
    {status : RuntimeStatus} (h : status ≠ .ok) :
    Always (undo a fileName targetExists status) fun r => SameOrPoisoned a r.1 ∧ r.2 ≠ .ok := by
  unfold undo
  refine .any_bind fun rolledBack => ?_
  have hend : ∀ synced : Bool, Always
      (if rolledBack && synced then (pure (a, status) : Script _)
        else pure ({ a with poisoned := true }, .edurability))
      fun r => SameOrPoisoned a r.1 ∧ r.2 ≠ .ok := by
    intro synced
    split
    · exact .pure ⟨Or.inl rfl, h⟩
    · refine .pure ⟨Or.inr rfl, ?_⟩
      rintro ⟨⟩
  split
  · exact .any_bind hend
  · exact hend false

theorem always_install (a : PersistenceAuthority) (fileName : Text) (copy : ManifestData F)
    (contents : Text) (expected : Option (ManifestData F)) :
    Always (installSignedV2 N a fileName copy contents expected) fun r =>
      SameOrPoisoned a r.1 ∧ (r.2 = .ok → r.1 = a) := by
  have hundo : ∀ {status : RuntimeStatus}, status ≠ .ok →
      Always (undo a fileName expected.isSome status) fun r =>
        SameOrPoisoned a r.1 ∧ (r.2 = .ok → r.1 = a) :=
    fun h => (always_undo a fileName _ h).mono fun r hr => ⟨hr.1, fun hok => absurd hok hr.2⟩
  unfold installSignedV2
  refine .any_bind fun suffix => .any_bind fun written => ?_
  split
  · exact .pure ⟨Or.inl rfl, fun _ => rfl⟩
  extract_lets jp
  -- what follows the retention of the previous file
  have hrest : ∀ retained, Always (jp retained) fun r =>
      SameOrPoisoned a r.1 ∧ (r.2 = .ok → r.1 = a) := by
    intro retained
    unfold jp
    split
    · exact .pure ⟨Or.inl rfl, fun _ => rfl⟩
    refine .any_bind fun renamed => ?_
    split
    · exact .any_bind fun _ => .pure ⟨Or.inl rfl, fun _ => rfl⟩
    refine (always_load N a fileName fileName).bind fun r hr => ?_
    cases r with
    | error status => exact hundo (hr.1 status rfl)
    | ok verified =>
      dsimp only
      split
      · exact hundo (by decide)
      refine .any_bind fun synced => ?_
      split
      · exact .pure ⟨Or.inl rfl, fun _ => rfl⟩
      · exact hundo (by decide)
  cases expected with
  | none => exact hrest .ok
  | some expected => exact .any_bind hrest

/-! ## §3. What a call leaves. -/

/-- What a call may leave of an authority. -/
structure Kept (a b : PersistenceAuthority) : Prop where
  key : b.authenticationKey = a.authenticationKey
  keyId : b.authenticationKeyId = a.authenticationKeyId
  protocol : b.protocolVersion = a.protocolVersion
  revision : a.trustedRevision ≤ b.trustedRevision
  digest : b.trustedRevision = a.trustedRevision → b.trustedDigest = a.trustedDigest
  name : a.boundFileName ≠ [] → b.boundFileName = a.boundFileName

theorem Kept.refl (a : PersistenceAuthority) : Kept a a :=
  ⟨rfl, rfl, rfl, UInt64.le_refl _, fun _ => rfl, fun _ => rfl⟩

theorem Kept.trans {a b c : PersistenceAuthority} (h : Kept a b) (k : Kept b c) : Kept a c where
  key := k.key.trans h.key
  keyId := k.keyId.trans h.keyId
  protocol := k.protocol.trans h.protocol
  revision := UInt64.le_trans h.revision k.revision
  digest hsame := by
    -- the revision between two equal ones is equal to both
    have hbetween : b.trustedRevision = a.trustedRevision :=
      UInt64.le_antisymm (hsame ▸ k.revision) h.revision
    exact (k.digest (hsame.trans hbetween.symm)).trans (h.digest hbetween)
  name hbound := by
    have hb := h.name hbound
    exact (k.name (hb ▸ hbound)).trans hb

theorem kept_bound {a : PersistenceAuthority} {fileName : Text} (h : Bindable a fileName) :
    Kept a (bound a fileName) where
  key := rfl
  keyId := rfl
  protocol := rfl
  revision := UInt64.le_refl _
  digest _ := rfl
  name hbound := (h.resolve_left hbound).symm

theorem kept_poisoned (a : PersistenceAuthority) (poisoned : Bool) :
    Kept a { a with poisoned } where
  key := rfl
  keyId := rfl
  protocol := rfl
  revision := UInt64.le_refl _
  digest _ := rfl
  name _ := rfl

theorem BoundOrSame.kept {a b : PersistenceAuthority} {fileName : Text}
    (h : BoundOrSame a fileName b) : Kept a b := by
  obtain rfl | ⟨rfl, hbindable⟩ := h
  · exact Kept.refl _
  · exact kept_bound hbindable

theorem SameOrPoisoned.kept {a b : PersistenceAuthority} (h : SameOrPoisoned a b) :
    Kept a b := by
  obtain rfl | rfl := h
  · exact Kept.refl _
  · exact kept_poisoned a true

/-- The trusted checkpoint moves up, also where its digest stays behind. -/
theorem always_trust {a : PersistenceAuthority} {checkpoint : Checkpoint}
    (h : AboveTrusted a checkpoint) :
    Always (trust a checkpoint) fun r => Kept a r.1 ∧ r.1.boundFileName = a.boundFileName ∧
      r.1.poisoned = a.poisoned := by
  unfold trust
  refine .any_bind fun allocated => ?_
  split
  · refine .pure ⟨⟨rfl, rfl, rfl, h.revision, fun hsame => ?_, fun _ => rfl⟩, rfl, rfl⟩
    exact h.digest hsame
  · exact .pure ⟨⟨rfl, rfl, rfl, h.revision, fun _ => rfl, fun _ => rfl⟩, rfl, rfl⟩

omit [Floating F] in
/-- What lies on a checkpoint above the trusted one lies above the trusted one. -/
theorem AboveTrusted.fill {a : PersistenceAuthority} {checkpoint : Checkpoint}
    {m : ManifestData F} (h : AboveTrusted a checkpoint) (hm : AboveFloor m checkpoint)
    (hlength : checkpoint.contentSha256.length ≤ 64) : AboveTrusted a (fillCheckpoint m) where
  revision := UInt64.le_trans h.revision hm.revision
  digest hsame := by
    have hbetween : checkpoint.revision = a.trustedRevision :=
      UInt64.le_antisymm (hsame ▸ hm.revision) h.revision
    have hdigest : m.contentDigest = checkpoint.contentSha256 :=
      hm.digest (hsame.trans hbetween.symm)
    calc (fillCheckpoint m).contentSha256 = m.contentDigest.take 64 := rfl
      _ = checkpoint.contentSha256.take 64 := by rw [hdigest]
      _ = checkpoint.contentSha256 := List.take_of_length_le hlength
      _ = a.trustedDigest := h.digest hbetween

theorem snapshot_eq_ok {argument : CheckpointArgument} {checkpoint : Checkpoint}
    (h : argument.snapshot = .ok checkpoint) :
    argument.checkpoint = checkpoint ∧ checkpoint.contentSha256.length ≤ 64 := by
  unfold CheckpointArgument.snapshot at h
  split at h
  · exact absurd h (by simp)
  · split at h
    · split at h
      · rename_i hempty
        cases h
        refine ⟨rfl, ?_⟩
        rw [hempty.1]
        exact Nat.zero_le _
      · exact absurd h (by simp)
    · split at h
      · rename_i hdigest
        cases h
        refine ⟨rfl, ?_⟩
        unfold lowercaseDigest at hdigest
        rw [Bool.and_eq_true, beq_iff_eq] at hdigest
        exact hdigest.1.le
      · exact absurd h (by simp)

/-! ## §4. What a call hands out. -/

/-- `m` was verified for the slot and is authorized. -/
def HandedOut (a : PersistenceAuthority) (slotName : Text) (m : ManifestData F) : Prop :=
  ∃ verified, Verified N a slotName verified ∧ m = { verified with checkpointAuthorized := true }

/-- What a call on `fileName` with `checkpoint` may do. -/
structure Sound (a : PersistenceAuthority) (fileName : Text) (checkpoint : Checkpoint)
    (r : Outcome F) : Prop where
  kept : Kept a r.authority
  /-- The only name it binds is its own. -/
  binds : r.authority.boundFileName = a.boundFileName ∨ r.authority.boundFileName = fileName
  named : r.status = .ok → r.authority.boundFileName = fileName
  /-- A poisoned authority is left only through its trusted checkpoint. -/
  poison : a.poisoned = true → r.status = .ok ∨ r.authority.poisoned = false →
    checkpoint = ⟨a.trustedRevision, a.trustedDigest⟩
  handed : ∀ m, r.manifest = some m →
    r.status = .ok ∧ HandedOut N a fileName m ∧ AboveFloor m checkpoint

/-- A failure that leaves the authority, or binds it. -/
theorem Sound.fail {a b : PersistenceAuthority} {fileName : Text} {checkpoint : Checkpoint}
    {status : RuntimeStatus} (hstatus : status ≠ .ok) (h : Kept a b)
    (hname : b.boundFileName = a.boundFileName ∨ b.boundFileName = fileName)
    (hpoisoned : a.poisoned = true → b.poisoned = true) :
    Sound N a fileName checkpoint (.fail b status) where
  kept := h
  binds := hname
  named hok := absurd hok hstatus
  poison hp hleft := by
    obtain hok | hclear := hleft
    · exact absurd hok hstatus
    · exact absurd (hpoisoned hp) (by simp [Outcome.fail] at hclear; simp [hclear])
  handed m hm := absurd hm (by simp [Outcome.fail])

theorem BoundOrSame.binds {a b : PersistenceAuthority} {fileName : Text}
    (h : BoundOrSame a fileName b) :
    b.boundFileName = a.boundFileName ∨ b.boundFileName = fileName := by
  obtain rfl | ⟨rfl, -⟩ := h
  · exact Or.inl rfl
  · exact Or.inr rfl

theorem BoundOrSame.poisoned {a b : PersistenceAuthority} {fileName : Text}
    (h : BoundOrSame a fileName b) : b.poisoned = a.poisoned := by
  obtain rfl | ⟨rfl, -⟩ := h <;> rfl

/-- **Publishing** a verified manifest on or above the checkpoint. -/
theorem always_publish {a : PersistenceAuthority} {fileName : Text} {checkpoint : Checkpoint}
    {m : ManifestData F} (poisoned : Bool) (hbindable : Bindable a fileName)
    (habove : AboveTrusted a checkpoint) (hlength : checkpoint.contentSha256.length ≤ 64)
    (hfloor : AboveFloor m checkpoint) (hverified : Verified N a fileName m)
    (hpoison : a.poisoned = true → checkpoint = ⟨a.trustedRevision, a.trustedDigest⟩) :
    Always (publish (bound a fileName) m poisoned) (Sound N a fileName checkpoint) := by
  unfold publish
  refine .any_bind fun inserted => ?_
  split
  · exact .pure (.fail N (by decide) (kept_bound hbindable) (Or.inr rfl) fun hp => hp)
  · have hfill : AboveTrusted (bound a fileName)
        (fillCheckpoint { m with checkpointAuthorized := true }) :=
      AboveTrusted.fill (a := bound a fileName) ⟨habove.revision, habove.digest⟩
        ⟨hfloor.revision, hfloor.digest⟩ hlength
    refine (always_trust hfill).bind fun r hr => ?_
    obtain ⟨hkept, hname, hsame⟩ := hr
    have hall : Kept a r.1 := (kept_bound hbindable).trans hkept
    obtain ⟨trusted, complete⟩ := r
    dsimp only at hall hname hsame ⊢
    split
    · refine .pure ⟨hall.trans (kept_poisoned trusted poisoned), Or.inr hname, fun _ => hname,
        fun hp _ => hpoison hp, ?_⟩
      rintro _ ⟨⟩
      exact ⟨rfl, ⟨m, hverified, rfl⟩, hfloor.revision, hfloor.digest⟩
    · exact .pure (.fail N (by decide) hall (Or.inr hname) fun hp => hsame.trans hp)

/-! ## §5. Load, save and recover. -/

theorem LoadCall.check_eq_ok {call : LoadCall} {fileName : Text} {checkpoint : Checkpoint}
    (h : call.check = .ok (fileName, checkpoint)) :
    call.fileName = some fileName ∧ call.checkpoint.checkpoint = checkpoint ∧
      checkpoint.contentSha256.length ≤ 64 ∧ safeV2FileName fileName = true := by
  unfold LoadCall.check at h
  split at h
  · exact absurd h (by simp)
  split at h
  · exact absurd h (by simp)
  split at h
  · exact absurd h (by simp)
  rename_i snapshot hsnapshot
  obtain ⟨hcheckpoint, hlength⟩ := snapshot_eq_ok hsnapshot
  split at h
  · exact absurd h (by simp)
  split at h
  · exact absurd h (by simp)
  rename_i name hname
  split at h
  · rename_i hsafe
    cases h
    exact ⟨hname, hcheckpoint, hlength, hsafe⟩
  · exact absurd h (by simp)

theorem LoadCall.proper_check (call : LoadCall) : Proper call.check := by
  intro status h
  unfold LoadCall.check at h
  split at h
  · cases h
    decide
  split at h
  · cases h
    decide
  split at h
  · rename_i hsnapshot
    cases h
    exact proper_snapshot _ _ hsnapshot
  split at h
  · cases h
    decide
  split at h
  · cases h
    decide
  split at h
  · exact absurd h (by simp)
  · cases h
    decide

omit [Floating F] in
theorem SaveCall.check_eq_ok {call : SaveCall F} {m : ManifestData F} {fileName : Text}
    {checkpoint : Checkpoint} (h : call.check = .ok (m, fileName, checkpoint)) :
    call.fileName = some fileName ∧ call.checkpoint.checkpoint = checkpoint ∧
      checkpoint.contentSha256.length ≤ 64 ∧ safeV2FileName fileName = true := by
  unfold SaveCall.check at h
  split at h
  · exact absurd h (by simp)
  split at h
  · exact absurd h (by simp)
  rename_i snapshot hsnapshot
  obtain ⟨hcheckpoint, hlength⟩ := snapshot_eq_ok hsnapshot
  split at h
  · rename_i manifest name hmanifest hname
    split at h
    · rename_i hsafe
      cases h
      exact ⟨hname, hcheckpoint, hlength, hsafe⟩
    · exact absurd h (by simp)
  · exact absurd h (by simp)

omit [Floating F] in
theorem SaveCall.proper_check (call : SaveCall F) : Proper call.check := by
  intro status h
  unfold SaveCall.check at h
  split at h
  · cases h
    decide
  split at h
  · rename_i hsnapshot
    cases h
    exact proper_snapshot _ _ hsnapshot
  split at h
  · split at h
    · exact absurd h (by simp)
    · cases h
      decide
  · cases h
    decide

/-- What the call names, where its arguments pass the checks. -/
def Named (fileName : Option Text) (argument : CheckpointArgument) (a : PersistenceAuthority)
    (r : Outcome F) : Prop :=
  Sound N a (fileName.getD []) argument.checkpoint r ∧
    (r.authority = a ∧ r.status ≠ .ok ∨ ∃ name, fileName = some name ∧ safeV2FileName name = true)

/-- A call that fails in its checks. -/
theorem named_fail {fileName : Option Text} {argument : CheckpointArgument}
    {a : PersistenceAuthority} {status : RuntimeStatus} (h : status ≠ .ok) :
    Named N fileName argument a (.fail a status) :=
  ⟨.fail N h (.refl a) (Or.inl rfl) fun hp => hp, Or.inl ⟨rfl, h⟩⟩

theorem sound_named {call : LoadCall} {a : PersistenceAuthority} {fileName : Text}
    {checkpoint : Checkpoint} {r : Outcome F} (hcheck : call.check = .ok (fileName, checkpoint))
    (h : Sound N a fileName checkpoint r) : Named N call.fileName call.checkpoint a r := by
  obtain ⟨hname, hcheckpoint, -, hsafe⟩ := LoadCall.check_eq_ok hcheck
  refine ⟨?_, Or.inr ⟨fileName, hname, hsafe⟩⟩
  rw [hname, hcheckpoint]
  exact h

/-- A poisoned authority refuses the call and stays poisoned. -/
def Refused (a : PersistenceAuthority) (r : Outcome F) : Prop :=
  a.poisoned = true → r.status ≠ .ok ∧ r.authority.poisoned = true

/-- **A load** of version 2. -/
theorem spec_load (a : PersistenceAuthority) (call : LoadCall) :
    Always (loadAuthenticatedV2 N a call) fun r =>
      Named N call.fileName call.checkpoint a r ∧ Refused a r := by
  unfold loadAuthenticatedV2
  split
  · rename_i status hcheck
    have hstatus := LoadCall.proper_check call status hcheck
    exact .pure ⟨named_fail N hstatus, fun hp => ⟨hstatus, hp⟩⟩
  rename_i fileName checkpoint hcheck
  obtain ⟨-, -, hlength, -⟩ := LoadCall.check_eq_ok hcheck
  refine (always_bindV2Call a fileName checkpoint).bind fun r hr => ?_
  obtain ⟨b, status⟩ := r
  obtain ⟨hbound, hok⟩ := hr
  dsimp only at hbound hok ⊢
  have hfail : ∀ {status : RuntimeStatus}, status ≠ .ok →
      Always (pure (Outcome.fail b status)) fun r =>
        Named N call.fileName call.checkpoint a r ∧ Refused a r := fun h =>
    .pure ⟨sound_named N hcheck
        (.fail N h hbound.kept hbound.binds fun hp => hbound.poisoned.trans hp),
      fun hp => ⟨h, hbound.poisoned.trans hp⟩⟩
  split
  · rename_i hstatus
    exact hfail hstatus
  rename_i hstatus
  obtain ⟨rfl, hbindable, hclear, htrusted⟩ := hok (not_not.mp hstatus)
  refine .any_bind fun locked => ?_
  split
  · exact hfail (by decide)
  refine .any_bind fun cleaned => ?_
  split
  · rename_i hcleaned
    exact hfail hcleaned
  refine (always_load N _ fileName fileName).bind fun r hr => ?_
  cases r with
  | error status => exact hfail (hr.1 status rfl)
  | ok m =>
    dsimp only
    split
    · rename_i hfloor
      exact hfail hfloor
    · rename_i hfloor
      refine (always_publish N _ hbindable (aboveTrusted_of_status htrusted) hlength
        (aboveFloor_of_status (not_not.mp hfloor)) (hr.2 m rfl)
        fun hp => absurd (hp.symm.trans hclear) (by decide)).mono fun r hsound => ?_
      exact ⟨sound_named N hcheck hsound, fun hp => absurd (hp.symm.trans hclear) (by decide)⟩

/-- The commit of a save: what succeeds lies on or above the checkpoint. -/
theorem always_commit (a : PersistenceAuthority) (fileName : Text) (checkpoint : Checkpoint)
    (copy : ManifestData F) (contents : Text) (current : Option (ManifestData F)) :
    Always (commitSigned N a fileName checkpoint copy contents current) fun r =>
      SameOrPoisoned a r.1 ∧ (r.2 = .ok → r.1 = a ∧ AboveFloor copy checkpoint) := by
  unfold commitSigned
  split
  · rename_i hexact
    obtain ⟨-, hrevision, hdigest⟩ := hexact
    refine .any_bind fun status => .pure ⟨Or.inl rfl, fun _ => ⟨rfl, ?_, fun _ => hdigest⟩⟩
    rw [hrevision]
    exact UInt64.le_refl _
  · split
    · refine .pure ⟨Or.inl rfl, ?_⟩
      rintro ⟨⟩
    · rename_i hnewer
      have hlt : checkpoint.revision < copy.config.manifestRevision := UInt64.not_le.mp hnewer
      refine (always_install N a fileName copy contents current).mono fun r hr =>
        ⟨hr.1, fun hok => ⟨hr.2 hok, UInt64.le_of_lt hlt, fun hsame => ?_⟩⟩
      exact absurd hsame (UInt64.ne_of_lt hlt).symm

theorem always_expectCurrent (a : PersistenceAuthority) (fileName : Text)
    (checkpoint : Checkpoint) :
    Always (expectCurrent N a fileName checkpoint)
      fun r : Except _ (Option (ManifestData F)) => Proper r := by
  unfold expectCurrent
  refine .any_bind fun found => ?_
  split
  · exact .pure (proper_error (by decide))
  · exact .pure (proper_error (by decide))
  · split
    · exact .pure (proper_error (by decide))
    · exact .pure (proper_ok _)
  · refine (always_load N a fileName fileName).bind fun r hr => ?_
    cases r with
    | error status => exact .pure (proper_error (hr.1 status rfl))
    | ok current =>
      dsimp only
      split
      · exact .pure (proper_ok _)
      · exact .pure (proper_error (by decide))

/-- **A save** of version 2. -/
theorem spec_save (a : PersistenceAuthority) (call : SaveCall F) :
    Always (saveV2 N a call) fun r => Named N call.fileName call.checkpoint a r ∧
      Refused a r := by
  unfold saveV2
  split
  · rename_i status hcheck
    have hstatus := SaveCall.proper_check call status hcheck
    exact .pure ⟨named_fail N hstatus, fun hp => ⟨hstatus, hp⟩⟩
  rename_i m fileName checkpoint hcheck
  obtain ⟨hname, hcheckpoint, hlength, hsafe⟩ := SaveCall.check_eq_ok hcheck
  have hnamed : ∀ {r : Outcome F}, Sound N a fileName checkpoint r →
      Named N call.fileName call.checkpoint a r := by
    intro r h
    refine ⟨?_, Or.inr ⟨fileName, hname, hsafe⟩⟩
    rw [hname, hcheckpoint]
    exact h
  refine (always_bindV2Call a fileName checkpoint).bind fun r hr => ?_
  obtain ⟨b, status⟩ := r
  obtain ⟨hbound, hok⟩ := hr
  dsimp only at hbound hok ⊢
  have hfail : ∀ {status : RuntimeStatus}, status ≠ .ok →
      Always (pure (Outcome.fail b status)) fun r => Named N call.fileName call.checkpoint a r ∧
        Refused a r := fun h =>
    .pure ⟨hnamed (.fail N h hbound.kept hbound.binds fun hp => hbound.poisoned.trans hp),
      fun hp => ⟨h, hbound.poisoned.trans hp⟩⟩
  split
  · rename_i hstatus
    exact hfail hstatus
  rename_i hstatus
  obtain ⟨rfl, hbindable, hclear, htrusted⟩ := hok (not_not.mp hstatus)
  -- the authority is not poisoned from here on
  have hsound : ∀ {r : Outcome F}, Sound N a fileName checkpoint r →
      Named N call.fileName call.checkpoint a r ∧
        Refused a r := fun h =>
    ⟨hnamed h, fun hp => absurd (hp.symm.trans hclear) (by decide)⟩
  refine .any_bind fun locked => ?_
  split
  · exact hfail (by decide)
  refine .any_bind fun cleaned => ?_
  split
  · rename_i hcleaned
    exact hfail hcleaned
  refine (always_expectCurrent N _ fileName checkpoint).bind fun r hr => ?_
  cases r with
  | error status => exact hfail (hr status rfl)
  | ok current =>
    dsimp only
    refine (always_commit N _ fileName checkpoint _ _ current).bind fun r hr => ?_
    obtain ⟨committed, status⟩ := r
    obtain ⟨hcommitted, hdone⟩ := hr
    dsimp only at hcommitted hdone ⊢
    have hnameCommitted : committed.boundFileName = fileName := by
      obtain rfl | rfl := hcommitted <;> rfl
    split
    · rename_i hstatus
      refine .pure (hsound (.fail N hstatus ((kept_bound hbindable).trans hcommitted.kept)
        (Or.inr hnameCommitted) fun hp => absurd (hp.symm.trans hclear) (by decide)))
    rename_i hstatus
    obtain ⟨rfl, hfloor⟩ := hdone (not_not.mp hstatus)
    have habove := aboveTrusted_of_status htrusted
    have hfill := AboveTrusted.fill (a := bound a fileName) ⟨habove.revision, habove.digest⟩
      hfloor hlength
    refine (always_trust hfill).bind fun r hr => ?_
    obtain ⟨trusted, complete⟩ := r
    obtain ⟨hkept, hnameTrusted, hsame⟩ := hr
    dsimp only at hkept hnameTrusted hsame ⊢
    have hall : Kept a trusted := (kept_bound hbindable).trans hkept
    split
    · refine .pure (hsound ⟨hall, Or.inr hnameTrusted, fun _ => hnameTrusted,
        fun hp => absurd (hp.symm.trans hclear) (by decide), ?_⟩)
      rintro m ⟨⟩
    · exact .pure (hsound (.fail N (by decide) hall (Or.inr hnameTrusted)
        fun hp => hsame.trans hp))

/-- The candidate of a recovery was verified and lies on or above the checkpoint. -/
theorem always_select {a : PersistenceAuthority} (fileName : Text) {checkpoint : Checkpoint}
    {current previous : Except RuntimeStatus (ManifestData F)}
    (hcurrent : ∀ m, current = .ok m → Verified N a fileName m)
    (hprevious : ∀ m, previous = .ok m → Verified N a fileName m) :
    Always (select fileName checkpoint current previous) fun r =>
      Proper r ∧ ∀ selection, r = .ok selection →
        Verified N a fileName selection.manifest ∧ AboveFloor selection.manifest checkpoint := by
  have haccepted : ∀ {loaded : Except RuntimeStatus (ManifestData F)} {m : ManifestData F},
      (∀ m, loaded = .ok m → Verified N a fileName m) → accepted loaded checkpoint = some m →
      Verified N a fileName m ∧ AboveFloor m checkpoint := by
    intro loaded m hloaded h
    unfold accepted at h
    split at h
    · rename_i manifest
      split at h
      · rename_i hfloor
        cases h
        exact ⟨hloaded _ rfl, aboveFloor_of_status hfloor⟩
      · exact absurd h (by simp)
    · exact absurd h (by simp)
  have hchosen : ∀ {m : ManifestData F} (fromPrevious : Bool),
      Verified N a fileName m ∧ AboveFloor m checkpoint →
      Always (pure (.ok ⟨m, fromPrevious⟩)) fun r : Except RuntimeStatus (Selection F) =>
        Proper r ∧ ∀ selection, r = .ok selection →
          Verified N a fileName selection.manifest ∧
            AboveFloor selection.manifest checkpoint := by
    intro m fromPrevious hm
    refine .pure ⟨proper_ok _, ?_⟩
    rintro _ ⟨⟩
    exact hm
  have hrefused : ∀ {status : RuntimeStatus}, status ≠ .ok →
      Always (pure (.error status)) fun r : Except RuntimeStatus (Selection F) =>
        Proper r ∧ ∀ selection, r = .ok selection →
          Verified N a fileName selection.manifest ∧
            AboveFloor selection.manifest checkpoint := by
    intro status hstatus
    refine .pure ⟨proper_error hstatus, ?_⟩
    rintro _ ⟨⟩
  unfold select
  split
  · -- neither file is accepted
    split
    · exact hrefused (by decide)
    · rename_i hfailed
      push Not at hfailed
      refine hrefused ?_
      split
      · exact hfailed.1
      · exact hfailed.2
  · rename_i m hm _
    exact hchosen false (haccepted hcurrent hm)
  · rename_i m _ hm
    exact hchosen true (haccepted hprevious hm)
  · rename_i current' previous' hcur hprev
    split
    · exact hchosen true (haccepted hprevious hprev)
    split
    · split
      · exact hrefused (by decide)
      · refine .any_bind fun same => ?_
        split
        · exact hrefused (by decide)
        · exact hchosen true (haccepted hprevious hprev)
        · exact hchosen false (haccepted hcurrent hcur)
    · exact hchosen false (haccepted hcurrent hcur)

/-- What settling a selection returns. -/
def Settled (a : PersistenceAuthority) (fileName : Text) (selected : ManifestData F)
    (r : Except (RuntimeStatus × Bool) (ManifestData F)) : Prop :=
  (∀ failure, r = .error failure → failure.1 ≠ .ok) ∧
    ∀ m, r = .ok m → Verified N a fileName m ∧ sameVersion m selected

theorem settled_error {a : PersistenceAuthority} {fileName : Text} {selected : ManifestData F}
    {status : RuntimeStatus} {poisons : Bool} (h : status ≠ .ok) :
    Settled N a fileName selected (.error (status, poisons)) := by
  refine ⟨?_, ?_⟩
  · rintro _ ⟨⟩
    exact h
  · rintro _ ⟨⟩

theorem always_promote (a : PersistenceAuthority) (fileName : Text)
    (selected : ManifestData F) :
    Always (promote N a fileName selected) (Settled N a fileName selected) := by
  unfold promote
  refine .any_bind fun found => ?_
  split
  · exact .pure (settled_error N (by decide))
  · exact .pure (settled_error N (by decide))
  · refine .any_bind fun suffix => .any_bind fun contents => ?_
    split
    · exact .pure (settled_error N (ReadError.status_ne_ok _))
    split
    · rename_i hrefused
      exact .pure (settled_error N (proper_authenticate N _ _ _ _ hrefused))
    split
    · exact .pure (settled_error N (by decide))
    refine .any_bind fun written => ?_
    split
    · exact .pure (settled_error N (by decide))
    refine .any_bind fun renamed => ?_
    split
    · exact .any_bind fun _ => .pure (settled_error N (by decide))
    refine (always_load N a fileName fileName).bind fun r hr => ?_
    cases r with
    | error status => exact .pure (settled_error N (by decide))
    | ok verified =>
      dsimp only
      split
      · exact .pure (settled_error N (by decide))
      rename_i hsame
      refine .any_bind fun synced => ?_
      split
      · refine .pure ⟨?_, ?_⟩
        · rintro _ ⟨⟩
        · rintro _ ⟨⟩
          exact ⟨hr.2 verified rfl, not_not.mp hsame⟩
      · exact .pure (settled_error N (by decide))

theorem always_settle {a : PersistenceAuthority} {fileName : Text} {selection : Selection F}
    (h : Verified N a fileName selection.manifest) :
    Always (settle N a fileName selection) (Settled N a fileName selection.manifest) := by
  unfold settle
  split
  · exact always_promote N a fileName selection.manifest
  · refine .any_bind fun status => ?_
    split
    · refine .pure ⟨?_, ?_⟩
      · rintro _ ⟨⟩
      · rintro _ ⟨⟩
        exact ⟨h, rfl, rfl⟩
    · rename_i hstatus
      refine .pure (settled_error N ?_)
      split
      · decide
      · exact hstatus

theorem recoveryStatus_eq_ok {a : PersistenceAuthority} {checkpoint : Checkpoint}
    (h : recoveryStatus a checkpoint = .ok) :
    AboveTrusted a checkpoint ∧
      (a.poisoned = true → checkpoint = ⟨a.trustedRevision, a.trustedDigest⟩) := by
  unfold recoveryStatus at h
  split at h
  · split at h <;> exact absurd h (by decide)
  rename_i htrusted
  split at h
  · exact absurd h (by decide)
  rename_i hexact
  refine ⟨aboveTrusted_of_status (not_not.mp htrusted), fun hp => ?_⟩
  simp only [hp, true_and, not_or, not_not] at hexact
  obtain ⟨hrevision, hdigest⟩ := hexact
  rw [← hrevision, ← hdigest]

/-- **A recovery** of version 2. -/
theorem spec_recover (a : PersistenceAuthority) (call : LoadCall) :
    Always (recoverV2 N a call) (Named N call.fileName call.checkpoint a) := by
  unfold recoverV2
  split
  · rename_i status hcheck
    exact .pure (named_fail N (LoadCall.proper_check call status hcheck))
  rename_i fileName checkpoint hcheck
  obtain ⟨-, -, hlength, -⟩ := LoadCall.check_eq_ok hcheck
  split
  · exact .pure (named_fail N (by decide))
  refine Always.mono (Q := Sound N a fileName checkpoint) ?_ fun r hr => sound_named N hcheck hr
  refine (always_bindFileName a fileName).bind fun r hr => ?_
  cases r with
  | error status =>
    exact .pure (.fail N (hr.1 status rfl) (.refl a) (Or.inl rfl) fun hp => hp)
  | ok b =>
    obtain ⟨rfl, hbindable⟩ := hr.2 b rfl
    dsimp only
    have hfail : ∀ {status : RuntimeStatus} {poisoned : Bool}, status ≠ .ok →
        (a.poisoned = true → poisoned = true) →
        Always (pure (Outcome.fail { bound a fileName with poisoned } status))
          (Sound N a fileName checkpoint) := fun h hp =>
      .pure (.fail N h ((kept_bound hbindable).trans (kept_poisoned _ _)) (Or.inr rfl) hp)
    split
    · rename_i hstatus
      exact hfail hstatus fun hp => hp
    rename_i hstatus
    obtain ⟨habove, hexact⟩ := recoveryStatus_eq_ok (not_not.mp hstatus)
    refine .any_bind fun locked => ?_
    split
    · exact @hfail _ a.poisoned (by decide) fun hp => hp
    refine .any_bind fun cleaned => ?_
    split
    · rename_i hcleaned
      exact @hfail _ a.poisoned hcleaned fun hp => hp
    refine (always_load N _ fileName fileName).bind fun current hcurrent => ?_
    refine (always_load N _ (previousName fileName) fileName).bind fun previous hprevious => ?_
    refine (always_select N fileName hcurrent.2 hprevious.2).bind
      fun r hselected => ?_
    cases r with
    | error status =>
      exact @hfail _ a.poisoned (hselected.1 status rfl) fun hp => hp
    | ok selection =>
      obtain ⟨hverified, hfloor⟩ := hselected.2 selection rfl
      dsimp only
      refine (always_settle N hverified).bind fun r hsettled => ?_
      cases r with
      | error failure =>
        refine hfail (hsettled.1 failure rfl) fun hp => ?_
        simp [bound, hp]
      | ok m =>
        obtain ⟨hm, hsame⟩ := hsettled.2 m rfl
        exact always_publish N false hbindable ⟨habove.revision, habove.digest⟩ hlength
          (hfloor.of_sameVersion hsame) hm hexact

end OpenArm.Persist
