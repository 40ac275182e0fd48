/-
  OpenArm.Persist.Directory — the pinned directory, and the version 1
  operations that scan it.

  An authority keeps one descriptor of its directory.  A scan duplicates it,
  and a duplicate shares the offset: `readdir` starts where the last scan
  ended, goes to the end of the directory, and nothing takes the offset back.
  Where in the directory a new entry is put is up to the file system, and so
  is which reads fail.
-/
import OpenArm.Persist.Commit

namespace OpenArm.Persist

open OpenArm.Lib OpenArm.Manifest
open OpenArm.Runtime (RuntimeStatus)

variable {F : Type} [Floating F] (N : NumberFormat F)

/-! ## §1. The directory. -/

/-- An entry: where it lies in the directory stream, and what reading it
    gives. -/
structure DirEntry where
  name : Text
  position : Nat
  content : Except ReadError Text

/-- The directory and the offset of the pinned descriptor.  Names are distinct,
    and the end lies behind every entry.  The next read of a name may fail
    although its entry is there: `openat`, `fstat` or `read` answers an error,
    or there is no memory for the text. -/
structure Disk where
  entries : List DirEntry
  endOffset : Nat
  offset : Nat
  fault : Text → Option ReadError
  distinct : ∀ a ∈ entries, ∀ b ∈ entries, a.name = b.name → a = b
  position_lt : ∀ e ∈ entries, e.position < endOffset

namespace Disk

/-- Some entry has the name. -/
def Has (d : Disk) (name : Text) : Prop := ∃ e ∈ d.entries, e.name = name

/-- A scan that starts now comes past the entry. -/
def Ahead (d : Disk) (e : DirEntry) : Prop := d.offset ≤ e.position

/-- Some entry ahead of the offset has the name. -/
def Sees (d : Disk) (name : Text) : Prop := ∃ e ∈ d.entries, e.name = name ∧ d.Ahead e

/-- What the next read of an entry gives. -/
def reading (d : Disk) (e : DirEntry) : Except ReadError Text :=
  match d.fault e.name with
  | some failure => .error failure
  | none => e.content

/-- What reading a name gives. -/
def Reads (d : Disk) (name : Text) (reply : Except ReadError Text) : Prop :=
  (∃ e ∈ d.entries, e.name = name ∧ d.reading e = reply) ∨
    (¬ d.Has name ∧ ∃ failure, reply = .error failure)

/-- A read leaves the directory, and says nothing of the next read of the name. -/
structure AfterRead (d d' : Disk) (name : Text) : Prop where
  entries_eq : d'.entries = d.entries
  offset_eq : d'.offset = d.offset
  fault_eq : ∀ other, other ≠ name → d'.fault other = d.fault other

/-- The other entries are where and what they were, and the offset is too. -/
structure KeepsOthers (d d' : Disk) (names : List Text) : Prop where
  offset_eq : d'.offset = d.offset
  entries_iff : ∀ e, e.name ∉ names → (e ∈ d'.entries ↔ e ∈ d.entries)

end Disk

/-- POSIX, as far as these programs rely on it: what each file operation may
    answer, and what it leaves.  Only a scan moves the offset; one that ends
    with an error may stop anywhere. -/
def posix : Store fileSig Disk := fun d o =>
  match o with
  | .scan => fun r d' =>
    match r with
    | none => d' = d
    | some listing =>
      d'.entries = d.entries ∧ d'.fault = d.fault ∧ listing.names.Nodup ∧
        if listing.failed then
          (∀ name ∈ listing.names, d.Sees name) ∧ d.offset ≤ d'.offset
        else (∀ name, name ∈ listing.names ↔ d.Sees name) ∧ d'.offset = d.endOffset
  | .read name => fun r d' => d.Reads name r ∧ d.AfterRead d' name
  | .unlink name => fun r d' =>
    match r with
    | .removed => d.Has name ∧ ¬ d'.Has name ∧ d.KeepsOthers d' [name]
    | .absent => ¬ d.Has name ∧ d' = d
    | .failed => d' = d
  | .create name => fun created d' =>
    if created then ¬ d.Has name ∧ d'.Has name ∧ d.KeepsOthers d' [name] else d' = d
  | .write name _ => fun _ d' => d.KeepsOthers d' [name]
  | .rename source target => fun renamed d' =>
    if renamed then d'.Has target ∧ d.KeepsOthers d' [source, target] else d' = d
  | .stat name => fun status d' => (status = .absent → ¬ d.Has name) ∧ d' = d
  | .lock | .closeScan | .openRegular _ | .syncFile _ | .close _ | .syncDirectory
  | .sameInode _ _ | .freshSuffix | .insert | .allocate => fun _ d' => d' = d

/-! ## §2. Version 1. -/

/-- `load_authenticated_at`. -/
def loadAuthenticatedAt (authority : PersistenceAuthority) (name : Text) :
    Script (Except RuntimeStatus (ManifestData F)) := do
  match ← perform (.read name) with
  | .error failure => return .error failure.status
  | .ok text => return authenticateText N authority text

/-- The newest revision a scan has come across, and its digest. -/
structure Newest where
  revision : UInt64
  digest : Text

/-- One authenticated artifact; `none` for a second content of the newest
    revision. -/
def Newest.see (newest : Newest) (candidate : ManifestData F) : Option Newest :=
  let revision := candidate.config.manifestRevision
  if newest.revision < revision then some ⟨revision, candidate.contentDigest⟩
  else if revision = newest.revision ∧ newest.digest ≠ [] ∧
      candidate.contentDigest ≠ newest.digest then none
  else if revision = newest.revision ∧ newest.digest = [] then
    some ⟨newest.revision, candidate.contentDigest⟩
  else some newest

/-- The loop of `refresh_revision_floor`; `none` is its early `OA_RUNTIME_ESTALE`. -/
def seeArtifacts (authority : PersistenceAuthority) : List Text → Newest → Script (Option Newest)
  | [], newest => return some newest
  | name :: rest, newest =>
    if !safeFileName name then seeArtifacts authority rest newest
    else do
      match ← loadAuthenticatedAt N authority name with
      | .error _ => seeArtifacts authority rest newest
      | .ok candidate =>
        match newest.see candidate with
        | none => return none
        | some newest => seeArtifacts authority rest newest

/-- `refresh_revision_floor`. -/
def refreshRevisionFloor (authority : PersistenceAuthority) :
    Script (PersistenceAuthority × RuntimeStatus) := do
  match ← perform .scan with
  | none => return (authority, .eio)
  | some listing =>
    let seen ← seeArtifacts N authority listing.names
      ⟨authority.acceptedRevisionFloor, authority.acceptedRevisionDigest⟩
    let closed ← perform .closeScan
    match seen with
    | none => return (authority, .estale)
    | some newest =>
      if !closed || listing.failed then return (authority, .eio)
      else
        return ({ authority with
          acceptedRevisionFloor := newest.revision
          acceptedRevisionDigest := newest.digest }, .ok)

/-- `accept_revision`; `advance` also takes the revision in. -/
def acceptRevision (authority : PersistenceAuthority) (manifest : ManifestData F) (name : Text)
    (advance : Bool) : PersistenceAuthority × RuntimeStatus :=
  let revision := manifest.config.manifestRevision
  if revision < authority.acceptedRevisionFloor then (authority, .estale)
  else if revision = authority.acceptedRevisionFloor ∧ authority.acceptedRevisionDigest ≠ [] ∧
      manifest.contentDigest ≠ authority.acceptedRevisionDigest then (authority, .estale)
  else
    let known := authority.acceptedArtifacts name
    let older := known.any fun found => decide (revision < found.revision)
    let conflicting := known.any fun found =>
      decide (revision = found.revision ∧ manifest.contentDigest ≠ found.contentDigest)
    if older || conflicting then (authority, .estale)
    else if !advance then (authority, .ok)
    else
      let raises := authority.acceptedRevisionFloor < revision ∨
        authority.acceptedRevisionDigest = []
      -- `operator[]` makes a value-initialised entry for a name that has none.
      let entry := known.getD ⟨0, []⟩
      let entry := if entry.revision ≤ revision then ⟨revision, manifest.contentDigest⟩ else entry
      ({ authority with
          acceptedRevisionFloor :=
            if raises then revision else authority.acceptedRevisionFloor
          acceptedRevisionDigest :=
            if raises then manifest.contentDigest else authority.acceptedRevisionDigest
          acceptedArtifacts := Function.update authority.acceptedArtifacts name (some entry) },
        .ok)

/-- The arguments of `oa_runtime_manifest_load_authenticated`; the file name is
    `none` for a null pointer. -/
structure LoadV1Call where
  outManifestValid : Bool
  fileName : Option Text

/-- Its checks in front of the lock. -/
def LoadV1Call.check (call : LoadV1Call) : Except RuntimeStatus Text :=
  if call.outManifestValid = false then .error .einval
  else
    match call.fileName with
    | none => .error .einval
    | some fileName => if safeFileName fileName then .ok fileName else .error .einval

/-- `oa_runtime_manifest_load_authenticated`. -/
def loadAuthenticated (authority : PersistenceAuthority) (call : LoadV1Call) :
    Script (Outcome F) :=
  match call.check with
  | .error status => return .fail authority status
  | .ok fileName =>
    if authority.protocolVersion ≠ 1 then return .fail authority .eunsupported
    else do
      let locked ← perform .lock
      if !locked then return .fail authority .eio
      else
        let (authority, status) ← refreshRevisionFloor N authority
        if status ≠ .ok then return .fail authority status
        else
          match ← loadAuthenticatedAt N authority fileName with
          | .error status => return .fail authority status
          | .ok manifest =>
            if previousSuffix.isSuffixOf fileName then return .fail authority .estale
            else
              let (authority, status) := acceptRevision authority manifest fileName true
              if status ≠ .ok then return .fail authority status
              else
                let inserted ← perform .insert
                if !inserted then return .fail authority .enomem
                else
                  return { status := .ok, authority := authority, manifest := some manifest }

end OpenArm.Persist
