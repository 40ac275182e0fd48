/-
  OpenArm.Persist.Authority — the version 2 operations of an authority.

  `oa_runtime_manifest_load_authenticated_v2`, `_save_v2` and `_recover_v2`
  as programs over file operations.  What the operating system answers is
  left open; so is whether an allocation succeeds where a member of the
  authority is assigned and where a handle is made.  The authority's mutex
  is held throughout a call, so a call takes the authority it finds to the
  authority it leaves.

  A text buffer of a record is the text in front of its first NUL.
-/
import OpenArm.Lib.Crash
import OpenArm.Persist.SlotBinding

namespace OpenArm.Persist

open OpenArm.Lib OpenArm.Manifest
open OpenArm.Runtime (RuntimeStatus)

variable {F : Type} [Floating F] (N : NumberFormat F)

/-! ## §1. File operations. -/

/-- What `fstatat` without following links says of a name. -/
inductive FileStatus where
  | regular | irregular | absent | failed
  deriving DecidableEq, Repr

/-- What `unlinkat` answers. -/
inductive Removal where
  | removed | absent | failed
  deriving DecidableEq, Repr

/-- How `read_file_at` fails. -/
inductive ReadError where
  | io | corrupt | nomem
  deriving DecidableEq, Repr

/-- The status it returns then. -/
def ReadError.status : ReadError → RuntimeStatus
  | .io => .eio
  | .corrupt => .ecorrupt
  | .nomem => .enomem

/-- What `readdir` gives until it ends, and whether it ended with an error. -/
structure Listing where
  names : List Text
  failed : Bool

/-- The calls of the operating system, on the pinned directory. -/
inductive FileOp where
  /-- `DirectoryTransaction`: open and lock a descriptor of the directory. -/
  | lock
  /-- `dup` and `fdopendir`, and all of `readdir`. -/
  | scan
  | closeScan
  | stat (name : Text)
  /-- `read_file_at`. -/
  | read (name : Text)
  /-- `openat` with `O_CREAT | O_EXCL`. -/
  | create (name : Text)
  /-- The write loop. -/
  | write (name contents : Text)
  /-- `openat` of an existing file, and whether `fstat` says it is regular. -/
  | openRegular (name : Text)
  | syncFile (name : Text)
  | close (name : Text)
  | rename (source target : Text)
  | unlink (name : Text)
  | syncDirectory
  /-- Two `fstatat`: the names are one inode. -/
  | sameInode (name other : Text)
  /-- `getpid` and the next sequence number. -/
  | freshSuffix
  /-- `manifests.insert`. -/
  | insert
  /-- The allocation of an assigned text; `std::bad_alloc` otherwise. -/
  | allocate

/-- What each of them answers. -/
abbrev FileOp.Reply : FileOp → Type
  | .lock | .closeScan | .create _ | .write _ _ | .syncFile _ | .close _ | .rename _ _
  | .syncDirectory | .insert | .allocate => Bool
  | .scan => Option Listing
  | .stat _ => FileStatus
  | .read _ => Except ReadError Text
  | .openRegular _ => Option Bool
  | .unlink _ => Removal
  | .sameInode _ _ => Option Bool
  | .freshSuffix => Text

/-- Programs over them have no procedures. -/
abbrev fileSig : Signature where
  Op := FileOp
  Reply := FileOp.Reply
  Proc := Empty
  Result := fun p => p.elim

/-- A program over file operations. -/
abbrev Script (α : Type) := Prog fileSig α

/-- Perform one of them. -/
def perform (o : FileOp) : Script o.Reply := @Prog.op fileSig o

/-! ## §2. Checkpoints. -/

/-- `oa_runtime_persistence_checkpoint`. -/
structure Checkpoint where
  revision : UInt64
  contentSha256 : Text
  deriving DecidableEq

/-- The checkpoint argument of a call. -/
structure CheckpointArgument where
  /-- The record has its size and version. -/
  recordValid : Bool
  checkpoint : Checkpoint
  /-- Every byte behind the text of the digest is NUL. -/
  zeroPadded : Bool

/-- `lowercase_digest`. -/
def lowercaseDigest (digest : Text) : Bool := digest.length == 64 && digest.all isHex

/-- `checkpoint_status` and `snapshot_checkpoint`. -/
def CheckpointArgument.snapshot (argument : CheckpointArgument) :
    Except RuntimeStatus Checkpoint :=
  if argument.recordValid = false then .error .eabi
  else if argument.checkpoint.revision = 0 then
    if argument.checkpoint.contentSha256 = [] ∧ argument.zeroPadded = true then
      .ok argument.checkpoint
    else .error .einval
  else if lowercaseDigest argument.checkpoint.contentSha256 then .ok argument.checkpoint
  else .error .einval

/-- `fill_checkpoint`. -/
def fillCheckpoint (manifest : ManifestData F) : Checkpoint where
  revision := manifest.config.manifestRevision
  contentSha256 := manifest.contentDigest.take 64

/-- `exact_checkpoint`. -/
def exactCheckpoint (manifest : ManifestData F) (checkpoint : Checkpoint) : Prop :=
  manifest.config.manifestRevision = checkpoint.revision ∧
    manifest.contentDigest = checkpoint.contentSha256

instance (manifest : ManifestData F) (checkpoint : Checkpoint) :
    Decidable (exactCheckpoint manifest checkpoint) := inferInstanceAs (Decidable (_ ∧ _))

/-- `satisfies_floor`. -/
def satisfiesFloor (manifest : ManifestData F) (checkpoint : Checkpoint) : RuntimeStatus :=
  if manifest.config.manifestRevision < checkpoint.revision then .estale
  else if manifest.config.manifestRevision = checkpoint.revision ∧
      manifest.contentDigest ≠ checkpoint.contentSha256 then .estale
  else .ok

/-- The end of `bind_v2_call`: the checkpoint against the trusted one. -/
def trustedStatus (authority : PersistenceAuthority) (checkpoint : Checkpoint) :
    RuntimeStatus :=
  if checkpoint.revision < authority.trustedRevision then .estale
  else if checkpoint.revision = authority.trustedRevision ∧
      checkpoint.contentSha256 ≠ authority.trustedDigest then .estale
  else .ok

/-! ## §3. What a call leaves. -/

/-- The status, the authority and the outputs of a call. -/
structure Outcome (F : Type) where
  status : RuntimeStatus
  authority : PersistenceAuthority
  manifest : Option (ManifestData F) := none
  checkpoint : Option Checkpoint := none

/-- A return without outputs. -/
def Outcome.fail (authority : PersistenceAuthority) (status : RuntimeStatus) : Outcome F where
  status := status
  authority := authority

/-- The file name is bound to the authority, unless another one is; `error` is
    what the call returns then. -/
def bindFileName (authority : PersistenceAuthority) (fileName : Text) :
    Script (Except RuntimeStatus PersistenceAuthority) :=
  if authority.boundFileName = [] then do
    let allocated ← perform .allocate
    if allocated then return .ok { authority with boundFileName := fileName }
    else return .error .enomem
  else if authority.boundFileName ≠ fileName then return .error .eidentity
  else return .ok authority

/-- `bind_v2_call`: the authority, and the status. -/
def bindV2Call (authority : PersistenceAuthority) (fileName : Text) (checkpoint : Checkpoint) :
    Script (PersistenceAuthority × RuntimeStatus) :=
  if authority.protocolVersion ≠ 2 then return (authority, .eunsupported)
  else if authority.poisoned then return (authority, .edurability)
  else do
    match ← bindFileName authority fileName with
    | .error status => return (authority, status)
    | .ok bound => return (bound, trustedStatus bound checkpoint)

/-- The trusted checkpoint of the authority is assigned member by member. -/
def trust (authority : PersistenceAuthority) (checkpoint : Checkpoint) :
    Script (PersistenceAuthority × Bool) := do
  let revised := { authority with trustedRevision := checkpoint.revision }
  let allocated ← perform .allocate
  if allocated then return ({ revised with trustedDigest := checkpoint.contentSha256 }, true)
  else return (revised, false)

/-! ## §4. Files. -/

/-- The loop of `cleanup_internal_artifacts`: something was removed, and a
    removal failed. -/
def removeInternal : List Text → Script (Bool × Bool)
  | [] => return (false, false)
  | name :: rest =>
    if internalTransactionName name then do
      match ← perform (.unlink name) with
      | .failed => return (false, true)
      | _ =>
        let (_, failed) ← removeInternal rest
        return (true, failed)
    else removeInternal rest

/-- `cleanup_internal_artifacts`. -/
def cleanupInternalArtifacts : Script RuntimeStatus := do
  match ← perform .scan with
  | none => return .eio
  | some listing =>
    let (removed, failed) ← removeInternal listing.names
    let closed ← perform .closeScan
    if failed || listing.failed || !closed then return .eio
    else if removed then
      let synced ← perform .syncDirectory
      return if synced then .ok else .eio
    else return .ok

/-- `load_authenticated_at_v2`. -/
def loadAuthenticatedAtV2 (authority : PersistenceAuthority) (entryName slotName : Text) :
    Script (Except RuntimeStatus (ManifestData F)) := do
  match ← perform (.read entryName) with
  | .error failure => return .error failure.status
  | .ok text => return authenticateTextV2 N authority slotName text

/-- A new file: the write loop, `fsync` and `close`. -/
def fillFile (name contents : Text) : Script Bool := do
  let written ← perform (.write name contents)
  let synced ← if written then perform (.syncFile name) else pure false
  let closed ← perform (.close name)
  return synced && closed

/-- `sync_existing`. -/
def syncExisting (fileName : Text) : Script RuntimeStatus := do
  match ← perform (.openRegular fileName) with
  | none => return .eio
  | some regular =>
    let synced ← if regular then perform (.syncFile fileName) else pure false
    let closed ← perform (.close fileName)
    if !synced || !closed then return .eio
    else
      let synced ← perform .syncDirectory
      return if synced then .ok else .eio

/-- A transaction file and its content, or the file is removed again. -/
def writeTemporary (name contents : Text) (others : List Text) : Script Bool := do
  let created ← perform (.create name)
  if !created then
    removeAll others
    return false
  else
    let filled ← fillFile name contents
    if filled then return true
    else
      removeAll (name :: others)
      return false
where
  /-- Clean-up on an error path; its own failures are ignored. -/
  removeAll : List Text → Script Unit
    | [] => return ()
    | name :: rest => do
      let _ ← perform (.unlink name)
      removeAll rest

/-! ## §5. Load. -/

/-- The arguments of a load or a recovery. -/
structure LoadCall where
  outManifestValid : Bool
  outCheckpointValid : Bool
  /-- `none` for a null pointer. -/
  fileName : Option Text
  checkpoint : CheckpointArgument

/-- The checks of a load or a recovery in front of the lock. -/
def LoadCall.check (call : LoadCall) : Except RuntimeStatus (Text × Checkpoint) :=
  if call.outManifestValid = false then .error .einval
  else if call.outCheckpointValid = false then .error .eabi
  else
    match call.checkpoint.snapshot with
    | .error status => .error status
    | .ok checkpoint =>
      if checkpoint.revision = 0 then .error .epermission
      else
        match call.fileName with
        | none => .error .einval
        | some fileName =>
          if safeV2FileName fileName then .ok (fileName, checkpoint) else .error .einval

/-- The handle of an authorized manifest is made and its checkpoint trusted;
    `poisoned` is what becomes of the mark. -/
def publish (authority : PersistenceAuthority) (manifest : ManifestData F) (poisoned : Bool) :
    Script (Outcome F) := do
  let authorized := { manifest with checkpointAuthorized := true }
  let inserted ← perform .insert
  if !inserted then return .fail authority .enomem
  else
    let observed := fillCheckpoint authorized
    let (trusted, complete) ← trust authority observed
    if complete then
      return {
        status := .ok
        authority := { trusted with poisoned }
        manifest := some authorized
        checkpoint := some observed }
    else return .fail trusted .enomem

/-- `oa_runtime_manifest_load_authenticated_v2`. -/
def loadAuthenticatedV2 (authority : PersistenceAuthority) (call : LoadCall) :
    Script (Outcome F) :=
  match call.check with
  | .error status => return .fail authority status
  | .ok (fileName, checkpoint) => do
    let (authority, status) ← bindV2Call authority fileName checkpoint
    if status ≠ .ok then return .fail authority status
    else
      let locked ← perform .lock
      if !locked then return .fail authority .eio
      else
        let status ← cleanupInternalArtifacts
        if status ≠ .ok then return .fail authority status
        else
          match ← loadAuthenticatedAtV2 N authority fileName fileName with
          | .error status => return .fail authority status
          | .ok manifest =>
            let status := satisfiesFloor manifest checkpoint
            if status ≠ .ok then return .fail authority status
            else publish authority manifest authority.poisoned

end OpenArm.Persist
