/-
  OpenArm.Persist.Commit — saving and recovering.

  `oa_runtime_manifest_save_v2` with `install_signed_v2`, and
  `oa_runtime_manifest_recover_v2`, as programs over file operations.
-/
import OpenArm.Persist.Authority

namespace OpenArm.Persist

open OpenArm.Lib OpenArm.Manifest
open OpenArm.Runtime (RuntimeStatus)

variable {F : Type} [Floating F] (N : NumberFormat F)

/-! ## §1. Installing a signed text. -/

/-- Two manifests with one digest and one revision. -/
def sameVersion (m n : ManifestData F) : Prop :=
  m.contentDigest = n.contentDigest ∧ m.config.manifestRevision = n.config.manifestRevision

instance (m n : ManifestData F) : Decidable (sameVersion m n) :=
  inferInstanceAs (Decidable (_ ∧ _))

/-- The current file becomes the previous one; the status of a failure. -/
def retainPrevious (authority : PersistenceAuthority) (fileName temporary backup : Text)
    (expected : ManifestData F) : Script RuntimeStatus := do
  match ← perform (.read fileName) with
  | .error failure =>
    let _ ← perform (.unlink temporary)
    return failure.status
  | .ok contents =>
    match authenticateTextV2 N authority fileName contents with
    | .error status =>
      let _ ← perform (.unlink temporary)
      return status
    | .ok previous =>
      if ¬ sameVersion previous expected then
        let _ ← perform (.unlink temporary)
        return .estale
      else
        let written ← writeTemporary backup contents [temporary]
        if !written then return .eio
        else
          let renamed ← perform (.rename backup (previousName fileName))
          if !renamed then
            writeTemporary.removeAll [backup, temporary]
            return .eio
          else
            match ← perform (.unlink backup) with
            | .failed =>
              writeTemporary.removeAll [backup, temporary]
              return .eio
            | _ =>
              let synced ← perform .syncDirectory
              if synced then return .ok
              else
                writeTemporary.removeAll [backup, temporary]
                return .eio

/-- The slot takes its old content back, or is removed where it had none. -/
def rollBack (fileName : Text) (targetExists : Bool) : Script Bool := do
  if targetExists then perform (.rename (previousName fileName) fileName)
  else
    match ← perform (.unlink fileName) with
    | .removed => return true
    | _ => return false

/-- After a failed verification or a failed sync: the rollback, and what
    becomes of the call when it cannot be confirmed. -/
def undo (authority : PersistenceAuthority) (fileName : Text) (targetExists : Bool)
    (status : RuntimeStatus) : Script (PersistenceAuthority × RuntimeStatus) := do
  let rolledBack ← rollBack fileName targetExists
  let synced ← if rolledBack then perform .syncDirectory else pure false
  if rolledBack && synced then return (authority, status)
  else return ({ authority with poisoned := true }, .edurability)

/-- `install_signed_v2`. -/
def installSignedV2 (authority : PersistenceAuthority) (fileName : Text)
    (copy : ManifestData F) (contents : Text) (expected : Option (ManifestData F)) :
    Script (PersistenceAuthority × RuntimeStatus) := do
  let suffix ← perform .freshSuffix
  let temporary := runtimePrefix ++ suffix
  let backup := priorPrefix ++ suffix
  let written ← writeTemporary temporary contents []
  if !written then return (authority, .eio)
  else
    let retained ← match expected with
      | none => pure .ok
      | some expected => retainPrevious N authority fileName temporary backup expected
    if retained ≠ .ok then return (authority, retained)
    else
      let renamed ← perform (.rename temporary fileName)
      if !renamed then
        let _ ← perform (.unlink temporary)
        return (authority, .eio)
      else
        match ← loadAuthenticatedAtV2 N authority fileName fileName with
        | .error status => undo authority fileName expected.isSome status
        | .ok verified =>
          if ¬ sameVersion verified copy then undo authority fileName expected.isSome .eio
          else
            let synced ← perform .syncDirectory
            if synced then return (authority, .ok)
            else undo authority fileName expected.isSome .eio

/-! ## §2. Save. -/

/-- The arguments of a save; `manifest` is `none` for a dead handle. -/
structure SaveCall (F : Type) where
  outCheckpointValid : Bool
  manifest : Option (ManifestData F)
  fileName : Option Text
  checkpoint : CheckpointArgument

/-- The checks of a save in front of the lock. -/
def SaveCall.check (call : SaveCall F) :
    Except RuntimeStatus (ManifestData F × Text × Checkpoint) :=
  if call.outCheckpointValid = false then .error .eabi
  else
    match call.checkpoint.snapshot with
    | .error status => .error status
    | .ok checkpoint =>
      match call.manifest, call.fileName with
      | some manifest, some fileName =>
        if safeV2FileName fileName then .ok (manifest, fileName, checkpoint) else .error .einval
      | _, _ => .error .einval

/-- The current file of a save: it is absent where the caller expects none,
    and exactly the expected version otherwise. -/
def expectCurrent (authority : PersistenceAuthority) (fileName : Text)
    (checkpoint : Checkpoint) : Script (Except RuntimeStatus (Option (ManifestData F))) := do
  match ← perform (.stat fileName) with
  | .irregular | .failed => return .error .epermission
  | .absent => return if checkpoint.revision ≠ 0 then .error .estale else .ok none
  | .regular =>
    match ← loadAuthenticatedAtV2 N authority fileName fileName with
    | .error status => return .error status
    | .ok current =>
      if exactCheckpoint current checkpoint then return .ok (some current)
      else return .error .estale

/-- The commit of a save: nothing to install, or a newer version. -/
def commitSigned (authority : PersistenceAuthority) (fileName : Text) (checkpoint : Checkpoint)
    (copy : ManifestData F) (contents : Text) (current : Option (ManifestData F)) :
    Script (PersistenceAuthority × RuntimeStatus) :=
  if current.isSome = true ∧ exactCheckpoint copy checkpoint then do
    let status ← syncExisting fileName
    return (authority, status)
  else if copy.config.manifestRevision ≤ checkpoint.revision then return (authority, .estale)
  else installSignedV2 N authority fileName copy contents current

/-- `oa_runtime_manifest_save_v2`. -/
def saveV2 (authority : PersistenceAuthority) (call : SaveCall F) : Script (Outcome F) :=
  match call.check with
  | .error status => return .fail authority status
  | .ok (manifest, fileName, checkpoint) => do
    let (authority, status) ← bindV2Call authority fileName checkpoint
    if status ≠ .ok then return .fail authority status
    else
      let locked ← perform .lock
      if !locked then return .fail authority .eio
      else
        let status ← cleanupInternalArtifacts
        if status ≠ .ok then return .fail authority status
        else
          match ← expectCurrent N authority fileName checkpoint with
          | .error status => return .fail authority status
          | .ok current =>
            let (copy, contents) := buildSignedV2 N authority manifest fileName
            let (authority, status) ←
              commitSigned N authority fileName checkpoint copy contents current
            if status ≠ .ok then return .fail authority status
            else
              let committed := fillCheckpoint copy
              let (trusted, complete) ← trust authority committed
              if complete then
                return { status := .ok, authority := trusted, checkpoint := some committed }
              else return .fail trusted .enomem

/-! ## §3. Recover. -/

/-- The candidate of a recovery: the newest accepted one, the previous file on
    a name that both share; `none` is a conflict. -/
structure Selection (F : Type) where
  manifest : ManifestData F
  fromPrevious : Bool

/-- A loaded file that the floor accepts. -/
def accepted (loaded : Except RuntimeStatus (ManifestData F)) (checkpoint : Checkpoint) :
    Option (ManifestData F) :=
  match loaded with
  | .ok manifest => if satisfiesFloor manifest checkpoint = .ok then some manifest else none
  | .error _ => none

/-- The status of a load. -/
def statusOf (loaded : Except RuntimeStatus (ManifestData F)) : RuntimeStatus :=
  match loaded with
  | .ok _ => .ok
  | .error status => status

/-- The choice between the current and the previous file. -/
def select (fileName : Text) (checkpoint : Checkpoint)
    (current previous : Except RuntimeStatus (ManifestData F)) :
    Script (Except RuntimeStatus (Selection F)) :=
  match accepted current checkpoint, accepted previous checkpoint with
  | none, none =>
    if statusOf current = .ok ∨ statusOf previous = .ok then return .error .estale
    else return .error (if statusOf current ≠ .eio then statusOf current else statusOf previous)
  | some current, none => return .ok ⟨current, false⟩
  | none, some previous => return .ok ⟨previous, true⟩
  | some current, some previous =>
    if current.config.manifestRevision < previous.config.manifestRevision then
      return .ok ⟨previous, true⟩
    else if previous.config.manifestRevision = current.config.manifestRevision then
      if previous.contentDigest ≠ current.contentDigest then return .error .estale
      else do
        match ← perform (.sameInode fileName (previousName fileName)) with
        | none => return .error .eio
        | some true => return .ok ⟨previous, true⟩
        | some false => return .ok ⟨current, false⟩
    else return .ok ⟨current, false⟩

/-- The previous file is promoted through a new inode; the verified manifest,
    or the status and whether the authority is poisoned. -/
def promote (authority : PersistenceAuthority) (fileName : Text) (selected : ManifestData F) :
    Script (Except (RuntimeStatus × Bool) (ManifestData F)) := do
  match ← perform (.stat fileName) with
  | .irregular | .failed => return .error (.epermission, false)
  | _ =>
    let suffix ← perform .freshSuffix
    let temporary := runtimePrefix ++ "recovery-".toList ++ suffix
    match ← perform (.read (previousName fileName)) with
    | .error failure => return .error (failure.status, false)
    | .ok contents =>
      match authenticateTextV2 N authority fileName contents with
      | .error status => return .error (status, false)
      | .ok source =>
        if ¬ sameVersion source selected then return .error (.estale, false)
        else
          let written ← writeTemporary temporary contents []
          if !written then return .error (.eio, false)
          else
            let renamed ← perform (.rename temporary fileName)
            if !renamed then
              let _ ← perform (.unlink temporary)
              return .error (.eio, false)
            else
              match ← loadAuthenticatedAtV2 N authority fileName fileName with
              | .error _ => return .error (.edurability, true)
              | .ok verified =>
                if ¬ sameVersion verified selected then return .error (.edurability, true)
                else
                  let synced ← perform .syncDirectory
                  if synced then return .ok verified else return .error (.edurability, true)

/-- The selected file is made durable. -/
def settle (authority : PersistenceAuthority) (fileName : Text) (selection : Selection F) :
    Script (Except (RuntimeStatus × Bool) (ManifestData F)) :=
  if selection.fromPrevious then promote N authority fileName selection.manifest
  else do
    let status ← syncExisting fileName
    if status = .ok then return .ok selection.manifest
    else return .error (if authority.poisoned then .edurability else status, false)

/-- The checkpoint of a recovery against the trusted one; a poisoned authority
    needs exactly the trusted checkpoint. -/
def recoveryStatus (authority : PersistenceAuthority) (checkpoint : Checkpoint) :
    RuntimeStatus :=
  if trustedStatus authority checkpoint ≠ .ok then
    if authority.poisoned then .edurability else .estale
  else if authority.poisoned = true ∧ (checkpoint.revision ≠ authority.trustedRevision ∨
      checkpoint.contentSha256 ≠ authority.trustedDigest) then .edurability
  else .ok

/-- `oa_runtime_manifest_recover_v2`. -/
def recoverV2 (authority : PersistenceAuthority) (call : LoadCall) : Script (Outcome F) :=
  match call.check with
  | .error status => return .fail authority status
  | .ok (fileName, checkpoint) =>
    if authority.protocolVersion ≠ 2 then return .fail authority .eunsupported
    else do
      match ← bindFileName authority fileName with
      | .error status => return .fail authority status
      | .ok authority =>
        let status := recoveryStatus authority checkpoint
        if status ≠ .ok then return .fail authority status
        else
          let locked ← perform .lock
          if !locked then return .fail authority .eio
          else
            let status ← cleanupInternalArtifacts
            if status ≠ .ok then return .fail authority status
            else
              let current ← loadAuthenticatedAtV2 N authority fileName fileName
              let previous ←
                loadAuthenticatedAtV2 N authority (previousName fileName) fileName
              match ← select fileName checkpoint current previous with
              | .error status => return .fail authority status
              | .ok selection =>
                match ← settle N authority fileName selection with
                | .error (status, poisons) =>
                  return .fail { authority with poisoned := authority.poisoned || poisons } status
                | .ok manifest => publish authority manifest false

end OpenArm.Persist
