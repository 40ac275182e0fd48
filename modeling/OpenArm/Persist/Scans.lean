/-
  OpenArm.Persist.Scans — what the scans of one authority come across.

  All scans of an authority share one directory offset.  The first one starts
  at the beginning; every later one starts where the one before ended, and
  comes past nothing that lies in front of it.  A refresh passes over what it
  cannot read, and still answers OK.

  Main results:
    * `cleanup_has`      — what a clean-up that returns OK leaves behind.
    * `refresh_newest`   — what a refreshed floor has taken in.
    * `scan_sees_iff`    — over all runs, when a scan sees what it is for.
    * `call_scans`       — the calls of version 2 are such runs.
    * `temporary_survives` — a second clean-up that removes nothing.
-/
import OpenArm.Lib.Transition
import OpenArm.Persist.Directory
import OpenArm.Persist.Versions

namespace OpenArm.Persist

open OpenArm.Lib OpenArm.Manifest
open OpenArm.Runtime (RuntimeStatus)

variable {F : Type} [Floating F] (N : NumberFormat F)

/-! ## §1. Names and entries. -/

namespace Disk

/-- An entry is what its name leads to. -/
theorem sees_iff_ahead {d : Disk} {e : DirEntry} (he : e ∈ d.entries) :
    d.Sees e.name ↔ d.Ahead e := by
  constructor
  · rintro ⟨a, ha, hname, hahead⟩
    obtain rfl : a = e := d.distinct a ha e he hname
    exact hahead
  · intro hahead
    exact ⟨e, he, rfl, hahead⟩

theorem Sees.has {d : Disk} {name : Text} (h : d.Sees name) : d.Has name := by
  obtain ⟨e, he, hname, -⟩ := h
  exact ⟨e, he, hname⟩

theorem reads_entry {d : Disk} {e : DirEntry} (he : e ∈ d.entries)
    {reply : Except ReadError Text} (h : d.Reads e.name reply) : reply = d.reading e := by
  rcases h with ⟨a, ha, hname, hcontent⟩ | ⟨hnot, -⟩
  · obtain rfl : a = e := d.distinct a ha e he hname
    exact hcontent.symm
  · exact absurd ⟨e, he, rfl⟩ hnot

/-- A removal takes the one name out of the directory. -/
theorem KeepsOthers.has_removed {d d' : Disk} {name : Text} (h : d.KeepsOthers d' [name])
    (hgone : ¬ d'.Has name) (other : Text) :
    d'.Has other ↔ d.Has other ∧ other ≠ name := by
  constructor
  · rintro ⟨e, he, rfl⟩
    have hne : e.name ≠ name := by
      intro heq
      exact hgone ⟨e, he, heq⟩
    exact ⟨⟨e, (h.entries_iff e (by simpa using hne)).mp he, rfl⟩, hne⟩
  · rintro ⟨⟨e, he, rfl⟩, hne⟩
    exact ⟨e, (h.entries_iff e (by simpa using hne)).mpr he, rfl⟩

end Disk

/-! ## §2. The clean-up. -/

/-- What the removals have done: the reserved names of the list are gone, the
    other names and the offset are as they were. -/
def Removed (d d' : Disk) (names : List Text) : Prop :=
  d'.offset = d.offset ∧ ∀ name, d'.Has name ↔
    d.Has name ∧ ¬ (internalTransactionName name = true ∧ name ∈ names)

/-- One more name in front of the list. -/
theorem Removed.cons {d d₁ d₂ : Disk} {name : Text} {rest : List Text}
    (hinternal : internalTransactionName name = true) (hoffset : d₁.offset = d.offset)
    (hhas : ∀ other, d₁.Has other ↔ d.Has other ∧ other ≠ name) (h : Removed d₁ d₂ rest) :
    Removed d d₂ (name :: rest) := by
  refine ⟨h.1.trans hoffset, fun other => ?_⟩
  rw [h.2, hhas]
  by_cases hother : other = name
  · subst hother
    simp [hinternal]
  · simp [hother]

/-- A name that is not reserved is passed over. -/
theorem Removed.skip {d d' : Disk} {name : Text} {rest : List Text}
    (hinternal : ¬ internalTransactionName name = true) (h : Removed d d' rest) :
    Removed d d' (name :: rest) := by
  refine ⟨h.1, fun other => ?_⟩
  rw [h.2]
  by_cases hother : other = name
  · subst hother
    simp [hinternal]
  · simp [hother]

/-- The loop of removals, when none of them fails. -/
theorem spec_removeInternal (names : List Text) (d : Disk) :
    Spec posix (fun _ => True) (removeInternal names)
      (fun out d' => out.2 = false → Removed d d' names) d := by
  induction names generalizing d with
  | nil =>
    intro _
    exact ⟨rfl, fun name => by simp⟩
  | cons name rest ih =>
    unfold removeInternal
    by_cases hinternal : internalTransactionName name = true
    · rw [if_pos hinternal]
      intro r d₁ hstore
      refine ⟨trivial, ?_⟩
      have hgo : ∀ d₁ : Disk, d₁.offset = d.offset →
          (∀ other, d₁.Has other ↔ d.Has other ∧ other ≠ name) →
          Spec posix (fun _ => True)
            ((removeInternal rest).bind fun out => .ret (true, out.2))
            (fun out d' => out.2 = false → Removed d d' (name :: rest)) d₁ := by
        intro d₁ hoffset hhas
        refine Spec.bind (ih d₁) ?_
        intro out d₂ hout hfalse
        exact (hout hfalse).cons hinternal hoffset hhas
      cases r with
      | removed =>
        obtain ⟨-, hgone, hkeeps⟩ := hstore
        exact hgo d₁ hkeeps.offset_eq (hkeeps.has_removed hgone)
      | absent =>
        obtain ⟨hnot, rfl⟩ := hstore
        refine hgo _ rfl fun other => ⟨fun h => ⟨h, ?_⟩, fun h => h.1⟩
        rintro rfl
        exact hnot h
      | failed => exact fun h => absurd h (by simp)
    · rw [if_neg hinternal]
      exact Spec.mono (ih d) fun out d' hout hfalse => (hout hfalse).skip hinternal

/-- Operations that leave the directory alone. -/
theorem spec_still {o : FileOp} {d : Disk} {Q : o.Reply → Disk → Prop}
    (hstill : ∀ r d', posix d o r d' → d' = d) (h : ∀ r, Q r d) :
    Spec posix (fun _ => True) (perform o) Q d := by
  intro r d' hstore
  obtain rfl := hstill r d' hstore
  exact ⟨trivial, h r⟩

theorem spec_cleanup (d : Disk) :
    Spec posix (fun _ => True) cleanupInternalArtifacts
      (fun status d' => status = .ok → ∀ name,
        d'.Has name ↔ d.Has name ∧ ¬ (internalTransactionName name = true ∧ d.Sees name)) d := by
  unfold cleanupInternalArtifacts
  intro reply d₁ hscan
  refine ⟨trivial, ?_⟩
  cases reply with
  | none => exact fun h => absurd h (by simp)
  | some listing =>
    obtain ⟨hentries, -, -, hlisting⟩ := hscan
    have hhas : ∀ name, d₁.Has name ↔ d.Has name := by
      intro name
      unfold Disk.Has
      rw [hentries]
    show Spec posix _ ((removeInternal listing.names).bind _) _ d₁
    refine Spec.bind (spec_removeInternal listing.names d₁) ?_
    intro out d₂ hremoved
    refine Spec.bind (spec_still (Q := fun _ d' => d' = d₂) (fun _ _ h => h) fun _ => rfl) ?_
    rintro closed d₃ rfl
    split
    · exact fun h => absurd h (by simp)
    next hok =>
    simp only [Bool.or_eq_true, Bool.not_eq_true', not_or, Bool.not_eq_true,
      Bool.not_eq_false] at hok
    have hfinal : ∀ name, d₃.Has name ↔
        d.Has name ∧ ¬ (internalTransactionName name = true ∧ d.Sees name) := by
      intro name
      rw [hok.1.2, if_neg (by simp)] at hlisting
      rw [(hremoved hok.1.1).2, hhas, hlisting.1]
    split
    · refine Spec.bind (spec_still (Q := fun _ d' => d' = d₃) (fun _ _ h => h) fun _ => rfl) ?_
      rintro synced d₄ rfl
      exact fun _ => hfinal
    · exact fun _ => hfinal

/-- **What a clean-up that returns OK leaves behind**: of the reserved names,
    those in front of the offset. -/
theorem cleanup_has {d d' : Disk}
    (h : Exec posix cleanupInternalArtifacts d (some .ok) d') (name : Text) :
    d'.Has name ↔ d.Has name ∧ ¬ (internalTransactionName name = true ∧ d.Sees name) :=
  (spec_cleanup d).returns h rfl name

/-! ## §3. The revision floor. -/

/-- The manifest of an authentic version 1 artifact. -/
def authentic (authority : PersistenceAuthority) (e : DirEntry) : Option (ManifestData F) :=
  if safeFileName e.name then
    match e.content with
    | .error _ => none
    | .ok text => (authenticateText N authority text).toOption
  else none

/-- The entry is an authentic artifact of the revision. -/
def AuthenticAt (authority : PersistenceAuthority) (e : DirEntry) (revision : UInt64) : Prop :=
  ∃ manifest : ManifestData F, authentic N authority e = some manifest ∧
    manifest.config.manifestRevision = revision

omit [Floating F] in
theorem Newest.see_some {newest newest' : Newest} {candidate : ManifestData F}
    (h : newest.see candidate = some newest') :
    newest.revision ≤ newest'.revision ∧
      candidate.config.manifestRevision ≤ newest'.revision ∧
      (newest'.revision = newest.revision ∨
        newest'.revision = candidate.config.manifestRevision) := by
  unfold Newest.see at h
  dsimp only at h
  split at h
  · next hlt =>
    obtain rfl := Option.some.inj h
    exact ⟨UInt64.le_of_lt hlt, UInt64.le_refl _, .inr rfl⟩
  next hnot =>
  have hle : candidate.config.manifestRevision ≤ newest.revision := UInt64.not_lt.mp hnot
  split at h
  · cases h
  split at h
  · obtain rfl := Option.some.inj h
    exact ⟨UInt64.le_refl _, hle, .inl rfl⟩
  · obtain rfl := Option.some.inj h
    exact ⟨UInt64.le_refl _, hle, .inl rfl⟩

/-- The entry is an authentic artifact of the revision, and its next read does
    not fail. -/
def ReadableAt (authority : PersistenceAuthority) (d : Disk) (e : DirEntry) (revision : UInt64) :
    Prop :=
  d.fault e.name = none ∧ AuthenticAt N authority e revision

/-- What a scan has taken in: nothing below where it began, no artifact of the
    list that it could read above where it ended, and its end is one of them. -/
structure TakenIn (authority : PersistenceAuthority) (d : Disk) (names : List Text)
    (start newest : UInt64) : Prop where
  start_le : start ≤ newest
  le : ∀ e ∈ d.entries, e.name ∈ names → ∀ revision, ReadableAt N authority d e revision →
    revision ≤ newest
  attained : newest = start ∨
    ∃ e ∈ d.entries, e.name ∈ names ∧ ReadableAt N authority d e newest

theorem spec_loadAuthenticatedAt (authority : PersistenceAuthority) (name : Text) (d : Disk) :
    Spec posix (fun _ => True) (loadAuthenticatedAt N authority name)
      (fun out d' => d.AfterRead d' name ∧ ∃ reply, d.Reads name reply ∧
        out = match reply with
          | .error failure => .error failure.status
          | .ok text => authenticateText N authority text) d := by
  unfold loadAuthenticatedAt
  intro reply d₁ hread
  obtain ⟨hreads, hafter⟩ := hread
  refine ⟨trivial, ?_⟩
  cases reply with
  | error failure => exact ⟨hafter, _, hreads, rfl⟩
  | ok text => exact ⟨hafter, _, hreads, rfl⟩

/-- What loading a present, safely named file says about its entry. -/
theorem authentic_of_read (authority : PersistenceAuthority) {d : Disk} {e : DirEntry}
    (he : e ∈ d.entries) (hsafe : safeFileName e.name = true) {reply : Except ReadError Text}
    (hreads : d.Reads e.name reply) :
    (if d.fault e.name = none then authentic N authority e else none) = (match reply with
      | .error failure => (.error failure.status : Except RuntimeStatus (ManifestData F))
      | .ok text => authenticateText N authority text).toOption := by
  obtain rfl := d.reads_entry he hreads
  unfold authentic Disk.reading
  rw [if_pos hsafe]
  cases d.fault e.name with
  | some failure => rfl
  | none =>
    rw [if_pos rfl]
    cases e.content with
    | error failure => rfl
    | ok text => rfl

theorem TakenIn.skip {authority : PersistenceAuthority} {d : Disk} {name : Text}
    {rest : List Text} {start newest : UInt64} (h : TakenIn N authority d rest start newest)
    (hnone : ∀ e ∈ d.entries, e.name = name → d.fault name = none →
      authentic N authority e = none) :
    TakenIn N authority d (name :: rest) start newest where
  start_le := h.start_le
  le e he hmem revision hrev := by
    rcases List.mem_cons.mp hmem with rfl | hrest
    · obtain ⟨hfault, manifest, hsome, -⟩ := hrev
      rw [hnone e he rfl hfault] at hsome
      cases hsome
    · exact h.le e he hrest revision hrev
  attained := by
    rcases h.attained with hstart | ⟨e, he, hmem, hrev⟩
    · exact .inl hstart
    · exact .inr ⟨e, he, List.mem_cons_of_mem _ hmem, hrev⟩

theorem TakenIn.see {authority : PersistenceAuthority} {d : Disk} {e : DirEntry}
    (he : e ∈ d.entries) {rest : List Text} {newest newest' : Newest} {last : UInt64}
    {candidate : ManifestData F} (hfault : d.fault e.name = none)
    (hcandidate : authentic N authority e = some candidate)
    (hsee : newest.see candidate = some newest')
    (h : TakenIn N authority d rest newest'.revision last) :
    TakenIn N authority d (e.name :: rest) newest.revision last := by
  obtain ⟨hstart, hcand, horigin⟩ := Newest.see_some hsee
  constructor
  · exact UInt64.le_trans hstart h.start_le
  · intro a ha hmem revision hrev
    rcases List.mem_cons.mp hmem with hname | hrest
    · obtain rfl : a = e := d.distinct a ha e he hname
      obtain ⟨-, manifest, hsome, rfl⟩ := hrev
      rw [hcandidate] at hsome
      obtain rfl := Option.some.inj hsome
      exact UInt64.le_trans hcand h.start_le
    · exact h.le a ha hrest revision hrev
  · rcases h.attained with heq | ⟨a, ha, hmem, hrev⟩
    · rcases horigin with hold | hnew
      · exact .inl (heq.trans hold)
      · refine .inr ⟨e, he, List.mem_cons_self, hfault, candidate, hcandidate, ?_⟩
        rw [heq, hnew]
    · exact .inr ⟨a, ha, List.mem_cons_of_mem _ hmem, hrev⟩

/-- A read of another name changes nothing of what is taken in. -/
theorem TakenIn.of_read {authority : PersistenceAuthority} {d d' : Disk} {name : Text}
    {rest : List Text} {start newest : UInt64} (hafter : d.AfterRead d' name)
    (hother : name ∉ rest) (h : TakenIn N authority d' rest start newest) :
    TakenIn N authority d rest start newest := by
  have hsame : ∀ e : DirEntry, e.name ∈ rest → ∀ revision,
      (ReadableAt N authority d' e revision ↔ ReadableAt N authority d e revision) := by
    intro e hmem revision
    unfold ReadableAt
    rw [hafter.fault_eq e.name fun heq => hother (heq ▸ hmem)]
  refine ⟨h.start_le, fun e he hmem revision hrev => ?_, ?_⟩
  · exact h.le e (hafter.entries_eq ▸ he) hmem revision ((hsame e hmem revision).mpr hrev)
  · rcases h.attained with hstart | ⟨e, he, hmem, hrev⟩
    · exact .inl hstart
    · exact .inr ⟨e, hafter.entries_eq ▸ he, hmem, (hsame e hmem _).mp hrev⟩

/-- The loop over the artifacts of a listing. -/
theorem spec_seeArtifacts (authority : PersistenceAuthority) (d : Disk) (names : List Text)
    (hnames : ∀ name ∈ names, d.Has name) (hnodup : names.Nodup) (newest : Newest) :
    Spec posix (fun _ => True) (seeArtifacts N authority names newest)
      (fun out d' => d'.entries = d.entries ∧ ∀ last, out = some last →
        TakenIn N authority d names newest.revision last.revision) d := by
  induction names generalizing d newest with
  | nil =>
    refine ⟨rfl, ?_⟩
    intro last hlast
    obtain rfl := Option.some.inj hlast
    exact ⟨UInt64.le_refl _, fun e _ hmem => by simp at hmem, .inl rfl⟩
  | cons name rest ih =>
    obtain ⟨e, he, rfl⟩ := hnames name List.mem_cons_self
    obtain ⟨hother, hnodup⟩ := List.nodup_cons.mp hnodup
    have hrest : ∀ name ∈ rest, d.Has name := fun n hn => hnames n (List.mem_cons_of_mem _ hn)
    have hsame : ∀ a ∈ d.entries, a.name = e.name → a = e :=
      fun a ha hname => d.distinct a ha e he hname
    unfold seeArtifacts
    by_cases hsafe : safeFileName e.name = true
    · rw [hsafe]
      refine Spec.bind (spec_loadAuthenticatedAt N authority e.name d) ?_
      rintro out d₁ ⟨hafter, reply, hreads, hout⟩
      have hauth := authentic_of_read N authority he hsafe hreads
      rw [← hout] at hauth
      have hleft : ∀ name ∈ rest, d₁.Has name := by
        intro name hmem
        unfold Disk.Has
        rw [hafter.entries_eq]
        exact hrest name hmem
      cases out with
      -- an artifact that is not read, or is not authentic, is skipped
      | error status =>
        refine Spec.mono (ih d₁ hleft hnodup newest) ?_
        rintro out d' ⟨hentries, hlast⟩
        refine ⟨hentries.trans hafter.entries_eq,
          fun last heq => ((hlast last heq).of_read N hafter hother).skip N ?_⟩
        intro a ha hname hfault
        obtain rfl := hsame a ha hname
        rwa [if_pos hfault] at hauth
      | ok candidate =>
        have hfault : d.fault e.name = none := by
          by_contra hfault
          rw [if_neg hfault] at hauth
          cases hauth
        rw [if_pos hfault] at hauth
        dsimp only
        cases hsee : newest.see candidate with
        | none => exact ⟨hafter.entries_eq, fun last heq => by cases heq⟩
        | some newest' =>
          refine Spec.mono (ih d₁ hleft hnodup newest') ?_
          rintro out d' ⟨hentries, hlast⟩
          exact ⟨hentries.trans hafter.entries_eq, fun last heq =>
            ((hlast last heq).of_read N hafter hother).see N he hfault hauth hsee⟩
    · -- a name that is not safe is skipped
      rw [if_pos (by simpa using hsafe)]
      refine Spec.mono (ih d hrest hnodup newest) ?_
      rintro out d' ⟨hentries, hlast⟩
      refine ⟨hentries, fun last heq => (hlast last heq).skip N ?_⟩
      intro a _ hname _
      unfold authentic
      rw [hname, if_neg hsafe]

/-- What a refreshed floor stands for: the floor before it and the authentic
    artifacts ahead of the offset that it could read. -/
structure Refreshed (authority : PersistenceAuthority) (d : Disk) (floor : UInt64) : Prop where
  start_le : authority.acceptedRevisionFloor ≤ floor
  le : ∀ e ∈ d.entries, d.Ahead e → ∀ revision, ReadableAt N authority d e revision →
    revision ≤ floor
  attained : floor = authority.acceptedRevisionFloor ∨
    ∃ e ∈ d.entries, d.Ahead e ∧ ReadableAt N authority d e floor

/-- The authority with a floor put in. -/
def PersistenceAuthority.withFloor (authority : PersistenceAuthority) (newest : Newest) :
    PersistenceAuthority :=
  { authority with
    acceptedRevisionFloor := newest.revision
    acceptedRevisionDigest := newest.digest }

theorem spec_refresh (authority : PersistenceAuthority) (d : Disk) :
    Spec posix (fun _ => True) (refreshRevisionFloor N authority)
      (fun out d' => d'.entries = d.entries ∧ (out.2 = .ok → ∃ newest,
        Refreshed N authority d newest.revision ∧ out.1 = authority.withFloor newest)) d := by
  unfold refreshRevisionFloor
  intro reply d₁ hscan
  refine ⟨trivial, ?_⟩
  cases reply with
  | none =>
    obtain rfl : d₁ = d := hscan
    exact ⟨rfl, fun h => absurd h (by simp)⟩
  | some listing =>
    obtain ⟨hentries, hfaults, hnodup, hlisting⟩ := hscan
    have hreadable : ∀ e revision,
        ReadableAt N authority d₁ e revision ↔ ReadableAt N authority d e revision := by
      intro e revision
      unfold ReadableAt
      rw [hfaults]
    -- what the listing names is there, and lies ahead of the offset
    have hlisted : ∀ name ∈ listing.names, d₁.Has name := by
      intro name hname
      have hsees : d.Sees name := by
        by_cases hfailed : listing.failed = true
        · rw [if_pos hfailed] at hlisting
          exact hlisting.1 name hname
        · rw [if_neg hfailed] at hlisting
          exact (hlisting.1 name).mp hname
      unfold Disk.Has
      rw [hentries]
      exact hsees.has
    show Spec posix _ ((seeArtifacts N authority listing.names _).bind _) _ d₁
    refine Spec.bind (spec_seeArtifacts N authority d₁ listing.names hlisted hnodup _) ?_
    rintro seen d₂ ⟨hsame, htaken⟩
    have hentries₂ : d₂.entries = d.entries := hsame.trans hentries
    refine Spec.bind (spec_still (Q := fun _ d' => d' = d₂) (fun _ _ h => h) fun _ => rfl) ?_
    rintro closed d₃ rfl
    cases seen with
    | none => exact ⟨hentries₂, fun h => absurd h (by simp)⟩
    | some newest =>
      dsimp only
      split
      · exact ⟨hentries₂, fun h => absurd h (by simp)⟩
      next hok =>
      simp only [Bool.or_eq_true, Bool.not_eq_true', not_or, Bool.not_eq_true,
        Bool.not_eq_false] at hok
      rw [hok.2, if_neg (by simp)] at hlisting
      have htaken := htaken newest rfl
      refine ⟨hentries₂, fun _ => ⟨newest, ⟨htaken.start_le, ?_, ?_⟩, rfl⟩⟩
      · intro e he hahead revision hrev
        exact htaken.le e (hentries ▸ he)
          ((hlisting.1 e.name).mpr ((Disk.sees_iff_ahead he).mpr hahead)) revision
          ((hreadable e revision).mpr hrev)
      · rcases htaken.attained with hstart | ⟨e, he, hmem, hrev⟩
        · exact .inl hstart
        · have he' : e ∈ d.entries := hentries ▸ he
          exact .inr ⟨e, he', (Disk.sees_iff_ahead he').mp ((hlisting.1 e.name).mp hmem),
            (hreadable e _).mp hrev⟩

/-- **What a refreshed floor has taken in.** -/
theorem refresh_newest {authority authority' : PersistenceAuthority} {d d' : Disk}
    (h : Exec posix (refreshRevisionFloor N authority) d (some (authority', .ok)) d') :
    Refreshed N authority d authority'.acceptedRevisionFloor := by
  obtain ⟨-, hok⟩ := (spec_refresh N authority d).returns h
  obtain ⟨newest, hrefreshed, rfl⟩ := hok rfl
  exact hrefreshed

omit [Floating F] in
/-- An accepted manifest is not below the floor. -/
theorem floor_le_of_accept {authority : PersistenceAuthority} {manifest : ManifestData F}
    {name : Text} {advance : Bool} (h : (acceptRevision authority manifest name advance).2 = .ok) :
    authority.acceptedRevisionFloor ≤ manifest.config.manifestRevision := by
  unfold acceptRevision at h
  dsimp only at h
  split at h
  · cases h
  next hnot => exact UInt64.not_lt.mp hnot

theorem proper_authenticateText (authority : PersistenceAuthority) (text : Text) :
    Proper (authenticateText N authority text) := by
  intro status h
  unfold authenticateText at h
  split at h
  · cases h
    decide
  · split at h
    · cases h
      decide
    · split at h
      · cases h
        decide
      · cases h
        decide
      · split at h
        · cases h
          decide
        · exact absurd h (by simp)

/-- What a load hands out: the authentic manifest of its file, not below the
    floor the scan has refreshed. -/
structure LoadedFrom (authority : PersistenceAuthority) (d : Disk) (fileName : Text)
    (manifest : ManifestData F) : Prop where
  file : ∃ e ∈ d.entries, e.name = fileName ∧ authentic N authority e = some manifest
  floor : ∃ floor, Refreshed N authority d floor ∧ floor ≤ manifest.config.manifestRevision

theorem spec_loadAuthenticated (authority : PersistenceAuthority) (call : LoadV1Call)
    (d : Disk) :
    Spec posix (fun _ => True) (loadAuthenticated N authority call)
      (fun outcome _ => outcome.status = .ok → ∃ fileName manifest,
        call.fileName = some fileName ∧ outcome.manifest = some manifest ∧
          LoadedFrom N authority d fileName manifest) d := by
  unfold loadAuthenticated
  split
  · next status hcheck =>
    intro hok
    have hne : status ≠ .ok := by
      unfold LoadV1Call.check at hcheck
      split at hcheck
      · cases hcheck
        decide
      split at hcheck
      · cases hcheck
        decide
      split at hcheck
      · cases hcheck
      · cases hcheck
        decide
    exact absurd hok hne
  next fileName hcheck =>
  obtain ⟨hname, hsafe⟩ : call.fileName = some fileName ∧ safeFileName fileName = true := by
    unfold LoadV1Call.check at hcheck
    split at hcheck
    · cases hcheck
    split at hcheck
    · cases hcheck
    next name hsome =>
    split at hcheck
    · next hsafe =>
      obtain rfl := Except.ok.inj hcheck
      exact ⟨hsome, hsafe⟩
    · cases hcheck
  split
  · exact fun h => absurd h (by simp [Outcome.fail])
  refine Spec.bind (spec_still (Q := fun _ d' => d' = d) (fun _ _ h => h) fun _ => rfl) ?_
  rintro locked d₁ rfl
  split
  · exact fun h => absurd h (by simp [Outcome.fail])
  -- the refresh scans the directory; what it accepted is the floor of the load
  refine Spec.bind (spec_refresh N authority d₁) ?_
  rintro ⟨authority₁, status⟩ d₂ ⟨hentries, hrefresh⟩
  dsimp only
  split
  · next hne => exact fun h => absurd h hne
  next hok =>
  obtain ⟨newest, hrefreshed, rfl⟩ := hrefresh (not_not.mp hok)
  refine Spec.bind (spec_loadAuthenticatedAt N _ fileName d₂) ?_
  rintro out d₃ ⟨-, reply, hreads, hout⟩
  cases out with
  -- an artifact that is not read, or does not authenticate, is an error
  | error status =>
    intro hstatus
    refine absurd (show status = .ok from hstatus) ?_
    cases reply with
    | error failure =>
      obtain rfl : status = failure.status := Except.error.inj hout
      exact failure.status_ne_ok
    | ok text => exact proper_authenticateText N _ text status hout.symm
  | ok manifest =>
    dsimp only
    split
    · exact fun h => absurd h (by simp [Outcome.fail])
    split
    · next hne => exact fun h => absurd h hne
    next hok =>
    have hfloor := floor_le_of_accept (not_not.mp hok)
    refine Spec.bind (spec_still (Q := fun _ d' => d' = d₃) (fun _ _ h => h) fun _ => rfl) ?_
    rintro inserted d₄ rfl
    split
    · exact fun h => absurd h (by simp [Outcome.fail])
    intro _
    refine ⟨fileName, manifest, hname, rfl, ?_, newest.revision, hrefreshed, hfloor⟩
    -- The file was read, so it is there.
    have hpresent : ∃ e ∈ d₂.entries, e.name = fileName := by
      rcases hreads with ⟨e, he, heq, -⟩ | ⟨-, failure, rfl⟩
      · exact ⟨e, he, heq⟩
      · cases hout
    obtain ⟨e, he, rfl⟩ := hpresent
    have hauth := authentic_of_read N (authority.withFloor newest) he hsafe hreads
    rw [← hout] at hauth
    split at hauth
    · exact ⟨e, hentries ▸ he, rfl, hauth⟩
    · cases hauth

/-! ## §4. Runs. -/

/-- An authority and its directory. -/
structure Pinned where
  disk : Disk
  authority : PersistenceAuthority

/-- What happens on an authority: the clean-up of a version 2 call, the refresh
    of a version 1 save, a version 1 load, and everything else that changes
    files or the authority. -/
inductive ScanLabel (F : Type) where
  | cleanup (status : RuntimeStatus)
  | refresh (status : RuntimeStatus)
  | load (call : LoadV1Call) (outcome : Outcome F)
  | others

/-- The scans of one authority.  Nothing but a scan moves the offset; between
    scans, files come and go as they like. -/
inductive ScanStep : Pinned → ScanLabel F → Pinned → Prop where
  | cleanup {w : Pinned} {status : RuntimeStatus} {disk : Disk}
      (exec : Exec posix cleanupInternalArtifacts w.disk (some status) disk) :
      ScanStep w (.cleanup status) { w with disk }
  | refresh {w w' : Pinned} {status : RuntimeStatus}
      (exec : Exec posix (refreshRevisionFloor N w.authority) w.disk
        (some (w'.authority, status)) w'.disk) :
      ScanStep w (.refresh status) w'
  | load {w : Pinned} {call : LoadV1Call} {outcome : Outcome F} {disk : Disk}
      (exec : Exec posix (loadAuthenticated N w.authority call) w.disk (some outcome) disk) :
      ScanStep w (.load call outcome) ⟨disk, outcome.authority⟩
  | others {w w' : Pinned} (offset_eq : w'.disk.offset = w.disk.offset) : ScanStep w .others w'

/-- An authority whose directory has just been opened, and its scans. -/
def scans : Lts Pinned (ScanLabel F) where
  init w := w.disk.offset = 0
  step := ScanStep N

/-- What a scan is for, by its label: no reserved name is left, the floor is not
    below an authentic artifact, the manifest handed out is not either. -/
def SeesAll (w : Pinned) (l : ScanLabel F) (w' : Pinned) : Prop :=
  match l with
  | .cleanup _ => ∀ e ∈ w.disk.entries, internalTransactionName e.name = true →
      ¬ w'.disk.Has e.name
  | .refresh _ => ∀ e ∈ w.disk.entries, ∀ revision, AuthenticAt N w.authority e revision →
      revision ≤ w'.authority.acceptedRevisionFloor
  | .load _ outcome => ∀ e ∈ w.disk.entries, ∀ revision, AuthenticAt N w.authority e revision →
      ∀ manifest, outcome.manifest = some manifest → revision ≤ manifest.config.manifestRevision
  | .others => True

/-- A scan that starts now comes past the entry, and its read does not fail. -/
def Disk.Reaches (d : Disk) (e : DirEntry) : Prop := d.Ahead e ∧ d.fault e.name = none

/-- When a scan misses nothing that matters: no reserved name lies in front of
    the offset; no authentic artifact that the scan does not reach is newer
    than the floor and all those it reaches; none is newer than the file asked
    for. -/
def NothingMissed (w : Pinned) (l : ScanLabel F) : Prop :=
  match l with
  | .cleanup _ => ∀ e ∈ w.disk.entries, internalTransactionName e.name = true → w.disk.Ahead e
  | .refresh _ => ∀ e ∈ w.disk.entries, ¬ w.disk.Reaches e → ∀ revision,
      AuthenticAt N w.authority e revision → revision ≤ w.authority.acceptedRevisionFloor ∨
        ∃ b ∈ w.disk.entries, w.disk.Reaches b ∧
          ∃ newer, AuthenticAt N w.authority b newer ∧ revision ≤ newer
  | .load call _ => ∀ e ∈ w.disk.entries, ¬ w.disk.Reaches e → ∀ revision,
      AuthenticAt N w.authority e revision → ∀ b ∈ w.disk.entries,
        call.fileName = some b.name → ∀ asked, AuthenticAt N w.authority b asked →
          revision ≤ asked
  | .others => True

/-- The scans that return OK. -/
def ScanLabel.succeeded : ScanLabel F → Prop
  | .cleanup status | .refresh status => status = .ok
  | .load _ outcome => outcome.status = .ok
  | .others => True

theorem cleanup_seesAll_iff {w : Pinned} {disk : Disk}
    (h : Exec posix cleanupInternalArtifacts w.disk (some .ok) disk) :
    SeesAll N w (.cleanup .ok) { w with disk } ↔ NothingMissed N w (.cleanup .ok) := by
  have hhas := cleanup_has h
  constructor
  · intro hall e he hinternal
    by_contra hbehind
    refine hall e he hinternal ((hhas e.name).mpr ⟨⟨e, he, rfl⟩, ?_⟩)
    rintro ⟨-, hsees⟩
    exact hbehind ((Disk.sees_iff_ahead he).mp hsees)
  · intro hahead e he hinternal hleft
    exact ((hhas e.name).mp hleft).2
      ⟨hinternal, (Disk.sees_iff_ahead he).mpr (hahead e he hinternal)⟩

theorem refresh_seesAll_iff {w w' : Pinned}
    (h : Exec posix (refreshRevisionFloor N w.authority) w.disk (some (w'.authority, .ok))
      w'.disk) :
    SeesAll N w (.refresh .ok) w' ↔ NothingMissed N w (.refresh .ok) := by
  have hfloor := refresh_newest N h
  constructor
  · intro hall e he _ revision hrev
    have hle := hall e he revision hrev
    rcases hfloor.attained with hstart | ⟨b, hb, hahead, hfault, hnewest⟩
    · exact .inl (hstart ▸ hle)
    · exact .inr ⟨b, hb, ⟨hahead, hfault⟩, _, hnewest, hle⟩
  · intro hnothing e he revision hrev
    by_cases hreaches : w.disk.Reaches e
    · exact hfloor.le e he hreaches.1 revision ⟨hreaches.2, hrev⟩
    · rcases hnothing e he hreaches revision hrev with hstart | ⟨b, hb, hb', newer, hnewer, hle⟩
      · exact UInt64.le_trans hstart hfloor.start_le
      · exact UInt64.le_trans hle (hfloor.le b hb hb'.1 newer ⟨hb'.2, hnewer⟩)

theorem load_seesAll_iff {w : Pinned} {call : LoadV1Call} {outcome : Outcome F} {disk : Disk}
    (h : Exec posix (loadAuthenticated N w.authority call) w.disk (some outcome) disk)
    (hok : outcome.status = .ok) :
    SeesAll N w (.load call outcome) ⟨disk, outcome.authority⟩ ↔
      NothingMissed N w (.load call outcome) := by
  obtain ⟨fileName, manifest, hname, hmanifest, hloaded⟩ :=
    (spec_loadAuthenticated N w.authority call w.disk).returns h hok
  obtain ⟨file, hfile, rfl, hauth⟩ := hloaded.file
  obtain ⟨floor, hfloor, hle⟩ := hloaded.floor
  constructor
  · intro hall e he _ revision hrev b hb hcall asked hasked
    have hsame : file = b :=
      w.disk.distinct file hfile b hb (Option.some.inj (hname.symm.trans hcall))
    subst hsame
    obtain ⟨m, hm, rfl⟩ := hasked
    rw [hauth] at hm
    obtain rfl := Option.some.inj hm
    exact hall e he revision hrev _ hmanifest
  · intro hnothing e he revision hrev m hm
    rw [hmanifest] at hm
    obtain rfl := Option.some.inj hm
    by_cases hreaches : w.disk.Reaches e
    · exact UInt64.le_trans (hfloor.le e he hreaches.1 revision ⟨hreaches.2, hrev⟩) hle
    · exact hnothing e he hreaches revision hrev file hfile hname _ ⟨_, hauth, rfl⟩

theorem step_seesAll_iff {w w' : Pinned} {l : ScanLabel F} (hstep : (scans N).step w l w')
    (hok : l.succeeded) : SeesAll N w l w' ↔ NothingMissed N w l := by
  cases hstep with
  | cleanup exec =>
    obtain rfl := hok
    exact cleanup_seesAll_iff N exec
  | refresh exec =>
    obtain rfl := hok
    exact refresh_seesAll_iff N exec
  | load exec => exact load_seesAll_iff N exec hok
  | others _ => exact Iff.rfl

/-- Without a scan the offset stays at the beginning. -/
theorem offset_of_others {w₀ w : Pinned} {es : List (ScanLabel F)} (h₀ : (scans N).init w₀)
    (hrun : (scans N).Run w₀ es w) (hothers : ∀ l ∈ es, l = .others) : w.disk.offset = 0 := by
  induction hrun with
  | nil => exact h₀
  | snoc front last ih =>
    obtain rfl := hothers _ (List.mem_append_right _ List.mem_cons_self)
    cases last with
    | others heq => exact heq.trans (ih fun l hl => hothers l (List.mem_append_left _ hl))

/-- The reads the scan is for do not fail; a clean-up reads nothing. -/
def Readable (w : Pinned) (l : ScanLabel F) : Prop :=
  match l with
  | .refresh _ | .load _ _ => ∀ e ∈ w.disk.entries, w.disk.fault e.name = none
  | .cleanup _ | .others => True

/-- From the beginning of the directory a scan misses only what it cannot read. -/
theorem nothingMissed_of_start {w : Pinned} (h : w.disk.offset = 0) {l : ScanLabel F}
    (hreadable : Readable w l) : NothingMissed N w l := by
  have hahead : ∀ e, w.disk.Ahead e := by
    intro e
    unfold Disk.Ahead
    omega
  cases l with
  | cleanup status => exact fun e _ _ => hahead e
  | refresh status => exact fun e he hmissed => absurd ⟨hahead e, hreadable e he⟩ hmissed
  | load call outcome => exact fun e he hmissed => absurd ⟨hahead e, hreadable e he⟩ hmissed
  | others => trivial

/-- **When a scan sees all it is for.**  At any point of any run of an opened
    authority, a scan that returns OK has seen everything exactly when nothing
    that matters lies in front of the offset the scans before it have left, or
    fails to be read; the first scan has whenever its reads do not fail. -/
theorem scan_sees_iff {w₀ w w' : Pinned} {es : List (ScanLabel F)} {l : ScanLabel F}
    (h₀ : (scans N).init w₀) (hrun : (scans N).Run w₀ es w) (hstep : (scans N).step w l w')
    (hok : l.succeeded) :
    (SeesAll N w l w' ↔ NothingMissed N w l) ∧
      ((∀ earlier ∈ es, earlier = .others) → Readable w l → SeesAll N w l w') := by
  have hiff := step_seesAll_iff N hstep hok
  refine ⟨hiff, fun hothers hreadable => hiff.mpr ?_⟩
  exact nothingMissed_of_start N (offset_of_others N h₀ hrun hothers) hreadable

/-! ## §5. The calls of version 2. -/

/-- The program does not scan. -/
def Quiet {α : Type} : Script α → Prop
  | .ret _ => True
  | .act o rest => (∀ d r d', posix d o r d' → d'.offset = d.offset) ∧ ∀ r, Quiet (rest r)
  | .call _ _ => False

/-- Every operation but a scan leaves the offset. -/
theorem offset_of_ne_scan {o : FileOp} (h : o ≠ .scan) :
    ∀ d r d', posix d o r d' → d'.offset = d.offset := by
  intro d r d' hstore
  cases o with
  | scan => exact absurd rfl h
  | read name => exact hstore.2.offset_eq
  | unlink name =>
    cases r with
    | removed => exact hstore.2.2.offset_eq
    | absent => rw [hstore.2]
    | failed => exact congrArg Disk.offset hstore
  | create name =>
    cases r with
    | true => exact hstore.2.2.offset_eq
    | false => exact congrArg Disk.offset hstore
  | write name contents => exact hstore.offset_eq
  | rename source target =>
    cases r with
    | true => exact hstore.2.offset_eq
    | false => exact congrArg Disk.offset hstore
  | stat name => rw [hstore.2]
  | lock | closeScan | openRegular _ | syncFile _ | close _ | syncDirectory | sameInode _ _
  | freshSuffix | insert | allocate => exact congrArg Disk.offset hstore

@[grind .] theorem quiet_ret {α : Type} (a : α) : Quiet (pure a : Script α) := trivial

@[grind .] theorem quiet_perform {o : FileOp} (h : o ≠ .scan) : Quiet (perform o) :=
  ⟨offset_of_ne_scan h, fun _ => trivial⟩

@[grind .] theorem Quiet.bind {α β : Type} {p : Script α} {f : α → Script β} (h : Quiet p)
    (hf : ∀ a, Quiet (f a)) : Quiet (p >>= f) := by
  show Quiet (Prog.bind p f)
  induction p with
  | ret a => exact hf a
  | act o rest ih => exact ⟨h.1, fun r => ih r (h.2 r)⟩
  | call p rest _ => exact h.elim

/-- A quiet program leaves the offset, wherever it ends. -/
theorem Quiet.offset {α : Type} {p : Script α} {d d' : Disk} {out : Option α} (h : Quiet p)
    (hexec : Exec posix p d out d') : d'.offset = d.offset := by
  induction hexec with
  | died p s => rfl
  | ret a s => rfl
  | act answered _ ih => exact (ih (h.2 _)).trans (h.1 _ _ _ answered)

/-- At most one clean-up, and no scan besides. -/
inductive CleansOnce {α : Type} : Script α → Prop where
  | quiet {p : Script α} (h : Quiet p) : CleansOnce p
  | clean {f : RuntimeStatus → Script α} (h : ∀ status, Quiet (f status)) :
      CleansOnce (cleanupInternalArtifacts >>= f)
  | after {β : Type} {p : Script β} {f : β → Script α} (h : Quiet p)
      (hf : ∀ b, CleansOnce (f b)) : CleansOnce (p >>= f)

/-- An execution of a sequential composition that returns comes through its first
    part. -/
theorem exec_bind_some {α β : Type} {p : Script α} {f : α → Script β} {d d' : Disk} {b : β}
    (h : Exec posix (p >>= f) d (some b) d') :
    ∃ a mid, Exec posix p d (some a) mid ∧ Exec posix (f a) mid (some b) d' := by
  replace h : Exec posix (Prog.bind p f) d (some b) d' := h
  induction p generalizing d with
  | ret a => exact ⟨a, d, .ret a d, h⟩
  | act o rest ih =>
    cases h with
    | act answered further =>
      obtain ⟨a, mid, hfirst, hsecond⟩ := ih _ further
      exact ⟨a, mid, .act answered hfirst, hsecond⟩
  | call p rest _ => exact p.elim

/-- **A call is a run of scans**: its clean-up, and changes of files. -/
theorem CleansOnce.run {α : Type} {p : Script α} (h : CleansOnce p)
    {authority authority' : PersistenceAuthority} {d d' : Disk} {a : α}
    (hexec : Exec posix p d (some a) d') :
    ∃ es, (∀ l ∈ es, l = .others ∨ ∃ status, l = .cleanup status) ∧
      (scans N).Run ⟨d, authority⟩ es ⟨d', authority'⟩ := by
  induction h generalizing d d' with
  | quiet h =>
    exact ⟨[.others], by simp, Lts.Run.single (.others (h.offset hexec))⟩
  | clean h =>
    obtain ⟨status, mid, hclean, hrest⟩ := exec_bind_some hexec
    have hfirst : (scans N).Run ⟨d, authority⟩ [.cleanup status] ⟨mid, authority⟩ :=
      Lts.Run.single (.cleanup (w := ⟨d, authority⟩) hclean)
    exact ⟨[.cleanup status] ++ [.others], by simp,
      hfirst.snoc (.others ((h status).offset hrest))⟩
  | after h _ ih =>
    obtain ⟨b, mid, hquiet, hrest⟩ := exec_bind_some hexec
    obtain ⟨es, hes, hrun⟩ := ih b hrest
    refine ⟨.others :: es, ?_, Lts.Run.cons (.others (h.offset hquiet)) hrun⟩
    intro l hl
    rcases List.mem_cons.mp hl with rfl | hl
    · exact .inl rfl
    · exact hes l hl

/-! The helpers of the version 2 calls are sequences of quiet operations: the
    closure lemmas above take each apart at its binds and its branches. -/

@[grind .] theorem quiet_removeAll (names : List Text) :
    Quiet (writeTemporary.removeAll names) := by
  induction names with
  | nil => exact quiet_ret ()
  | cons name rest ih => exact (quiet_perform (o := .unlink name) nofun).bind fun _ => ih

@[grind .] theorem quiet_fillFile (name contents : Text) : Quiet (fillFile name contents) := by
  unfold fillFile
  grind

@[grind .] theorem quiet_writeTemporary (name contents : Text) (others : List Text) :
    Quiet (writeTemporary name contents others) := by
  unfold writeTemporary
  grind

@[grind .] theorem quiet_loadAuthenticatedAtV2 (authority : PersistenceAuthority)
    (entryName slotName : Text) : Quiet (loadAuthenticatedAtV2 N authority entryName slotName) := by
  unfold loadAuthenticatedAtV2
  grind

@[grind .] theorem quiet_syncExisting (fileName : Text) : Quiet (syncExisting fileName) := by
  unfold syncExisting
  grind

@[grind .] theorem quiet_bindFileName (authority : PersistenceAuthority) (fileName : Text) :
    Quiet (bindFileName authority fileName) := by
  unfold bindFileName
  grind

@[grind .] theorem quiet_bindV2Call (authority : PersistenceAuthority) (fileName : Text)
    (checkpoint : Checkpoint) : Quiet (bindV2Call authority fileName checkpoint) := by
  unfold bindV2Call
  grind

@[grind .] theorem quiet_trust (authority : PersistenceAuthority) (checkpoint : Checkpoint) :
    Quiet (trust authority checkpoint) := by
  unfold trust
  grind

omit [Floating F] in
@[grind .] theorem quiet_publish (authority : PersistenceAuthority) (manifest : ManifestData F)
    (poisoned : Bool) : Quiet (publish authority manifest poisoned) := by
  unfold publish
  grind

@[grind .] theorem quiet_retainPrevious (authority : PersistenceAuthority)
    (fileName temporary backup : Text) (expected : ManifestData F) :
    Quiet (retainPrevious N authority fileName temporary backup expected) := by
  unfold retainPrevious
  refine Quiet.bind (by grind) fun contents => ?_
  split
  · grind
  split
  · grind
  split
  · grind
  refine Quiet.bind (by grind) fun written => ?_
  grind

@[grind .] theorem quiet_rollBack (fileName : Text) (targetExists : Bool) :
    Quiet (rollBack fileName targetExists) := by
  unfold rollBack
  grind

@[grind .] theorem quiet_undo (authority : PersistenceAuthority) (fileName : Text)
    (targetExists : Bool) (status : RuntimeStatus) :
    Quiet (undo authority fileName targetExists status) := by
  unfold undo
  grind

@[grind .] theorem quiet_installSignedV2 (authority : PersistenceAuthority) (fileName : Text)
    (copy : ManifestData F) (contents : Text) (expected : Option (ManifestData F)) :
    Quiet (installSignedV2 N authority fileName copy contents expected) := by
  unfold installSignedV2
  refine Quiet.bind (by grind) fun suffix => ?_
  refine Quiet.bind (by grind) fun written => ?_
  split
  · exact quiet_ret _
  dsimp only
  split <;> refine Quiet.bind (by grind) fun retained => ?_
  · grind
  · grind

@[grind .] theorem quiet_expectCurrent (authority : PersistenceAuthority) (fileName : Text)
    (checkpoint : Checkpoint) : Quiet (expectCurrent N authority fileName checkpoint) := by
  unfold expectCurrent
  grind

@[grind .] theorem quiet_commitSigned (authority : PersistenceAuthority) (fileName : Text)
    (checkpoint : Checkpoint) (copy : ManifestData F) (contents : Text)
    (current : Option (ManifestData F)) :
    Quiet (commitSigned N authority fileName checkpoint copy contents current) := by
  unfold commitSigned
  grind

omit [Floating F] in
@[grind .] theorem quiet_select (fileName : Text) (checkpoint : Checkpoint)
    (current previous : Except RuntimeStatus (ManifestData F)) :
    Quiet (select fileName checkpoint current previous) := by
  unfold select
  grind

@[grind .] theorem quiet_promote (authority : PersistenceAuthority) (fileName : Text)
    (selected : ManifestData F) : Quiet (promote N authority fileName selected) := by
  unfold promote
  refine Quiet.bind (by grind) fun status => ?_
  split
  · exact quiet_ret _
  · exact quiet_ret _
  refine Quiet.bind (by grind) fun suffix => ?_
  refine Quiet.bind (by grind) fun contents => ?_
  split
  · exact quiet_ret _
  split
  · exact quiet_ret _
  split
  · exact quiet_ret _
  refine Quiet.bind (by grind) fun written => ?_
  split
  · exact quiet_ret _
  refine Quiet.bind (by grind) fun renamed => ?_
  split
  · exact Quiet.bind (quiet_perform nofun) fun _ => quiet_ret _
  refine Quiet.bind (by grind) fun verified => ?_
  split
  · exact quiet_ret _
  split
  · exact quiet_ret _
  exact Quiet.bind (quiet_perform nofun) fun synced => by split <;> exact quiet_ret _

@[grind .] theorem quiet_settle (authority : PersistenceAuthority) (fileName : Text)
    (selection : Selection F) : Quiet (settle N authority fileName selection) := by
  unfold settle
  grind

theorem cleansOnce_run (authority : PersistenceAuthority) (call : AuthorityCall F) :
    CleansOnce (call.run N authority) := by
  cases call with
  | load call =>
    show CleansOnce (loadAuthenticatedV2 N authority call)
    unfold loadAuthenticatedV2
    split
    · exact .quiet (quiet_ret _)
    refine .after (quiet_bindV2Call _ _ _) fun ⟨bound, status⟩ => ?_
    dsimp only
    split
    · exact .quiet (quiet_ret _)
    refine .after (quiet_perform nofun) fun locked => ?_
    split
    · exact .quiet (quiet_ret _)
    refine .clean fun status => ?_
    grind
  | save call =>
    show CleansOnce (saveV2 N authority call)
    unfold saveV2
    split
    · exact .quiet (quiet_ret _)
    refine .after (quiet_bindV2Call _ _ _) fun ⟨bound, status⟩ => ?_
    dsimp only
    split
    · exact .quiet (quiet_ret _)
    refine .after (quiet_perform nofun) fun locked => ?_
    split
    · exact .quiet (quiet_ret _)
    refine .clean fun status => ?_
    grind
  | recover call =>
    show CleansOnce (recoverV2 N authority call)
    unfold recoverV2
    split
    · exact .quiet (quiet_ret _)
    split
    · exact .quiet (quiet_ret _)
    refine .after (quiet_bindFileName _ _) fun bound => ?_
    split
    · exact .quiet (quiet_ret _)
    dsimp only
    split
    · exact .quiet (quiet_ret _)
    refine .after (quiet_perform nofun) fun locked => ?_
    split
    · exact .quiet (quiet_ret _)
    refine .clean fun status => ?_
    split
    · exact quiet_ret _
    refine Quiet.bind (by grind) fun current => ?_
    refine Quiet.bind (by grind) fun previous => ?_
    refine Quiet.bind (by grind) fun selection => ?_
    split
    · exact quiet_ret _
    refine Quiet.bind (by grind) fun settled => ?_
    grind

/-- **Every version 2 call is a run of scans**, with its clean-up in it. -/
theorem call_scans {authority : PersistenceAuthority} {call : AuthorityCall F}
    {outcome : Outcome F} {d d' : Disk}
    (h : Exec posix (call.run N authority) d (some outcome) d') :
    ∃ es, (∀ l ∈ es, l = .others ∨ ∃ status, l = .cleanup status) ∧
      (scans N).Run ⟨d, authority⟩ es ⟨d', outcome.authority⟩ :=
  (cleansOnce_run N authority call).run N h

/-! ## §6. A second clean-up. -/

/-- An empty directory, its descriptor just opened. -/
def emptyDisk : Disk where
  entries := []
  endOffset := 1
  offset := 0
  fault := fun _ => none
  distinct := by simp
  position_lt := by simp

/-- The same directory after a scan. -/
def scannedDisk : Disk := { emptyDisk with offset := 1 }

/-- The temporary of a writer that was killed. -/
def abandoned : DirEntry := ⟨".openarm-runtime-7-1".toList, 0, .error .corrupt⟩

/-- The scanned directory with that temporary in it. -/
def abandonedDisk : Disk where
  entries := [abandoned]
  endOffset := 1
  offset := 1
  fault := fun _ => none
  distinct := by
    intro a ha b hb _
    rw [List.mem_singleton.mp ha, List.mem_singleton.mp hb]
  position_lt := by
    intro e he
    rw [List.mem_singleton.mp he]
    decide

/-- A clean-up that finds nothing to remove. -/
theorem exec_cleanup_nothing {d d' : Disk} (hentries : d'.entries = d.entries)
    (hfault : d'.fault = d.fault) (hoffset : d'.offset = d.endOffset)
    (hnone : ∀ name, ¬ d.Sees name) :
    Exec posix cleanupInternalArtifacts d (some .ok) d' := by
  have hscan : posix d .scan (some ⟨[], false⟩) d' := by
    refine ⟨hentries, hfault, List.nodup_nil, ?_⟩
    rw [if_neg (by simp)]
    exact ⟨fun name => ⟨fun h => by simp at h, fun h => absurd h (hnone name)⟩, hoffset⟩
  have hclose : posix d' .closeScan true d' := rfl
  exact .act hscan (.act hclose (.ret _ _))

/-- An authority of version 2 in each of these directories. -/
def pinnedAt (disk : Disk) : Pinned where
  disk := disk
  authority := { authenticationKey := fun _ => 1, authenticationKeyId := "k".toList,
                 protocolVersion := 2 }

/-- The run up to the second clean-up: a clean-up of the empty directory, then a
    writer that is killed. -/
theorem run_abandoned :
    (scans N).Run (pinnedAt emptyDisk) [.cleanup .ok, .others] (pinnedAt abandonedDisk) := by
  have hclean : Exec posix cleanupInternalArtifacts emptyDisk (some .ok) scannedDisk :=
    exec_cleanup_nothing rfl rfl rfl fun name ⟨e, he, _⟩ => by simp [emptyDisk] at he
  have hfirst : (scans N).Run (pinnedAt emptyDisk) [.cleanup .ok] (pinnedAt scannedDisk) :=
    Lts.Run.single (.cleanup (w := pinnedAt emptyDisk) hclean)
  exact hfirst.snoc (.others rfl)

/-- The second clean-up returns OK. -/
theorem step_abandoned :
    (scans N).step (pinnedAt abandonedDisk) (.cleanup .ok) (pinnedAt abandonedDisk) := by
  have hclean : Exec posix cleanupInternalArtifacts abandonedDisk (some .ok) abandonedDisk := by
    refine exec_cleanup_nothing rfl rfl rfl ?_
    rintro name ⟨e, he, -, hahead⟩
    obtain rfl := List.mem_singleton.mp he
    exact absurd (show 1 ≤ 0 from hahead) (by decide)
  exact .cleanup (w := pinnedAt abandonedDisk) hclean

/-- **A clean-up that removes nothing**: the second one of an authority returns
    OK and leaves the temporary of a killed writer. -/
theorem temporary_survives :
    ¬ ∀ (w₀ w w' : Pinned) (es : List (ScanLabel Decimal)),
      (scans decimalFormat).init w₀ → (scans decimalFormat).Run w₀ es w →
      (scans decimalFormat).step w (.cleanup .ok) w' →
      ∀ e ∈ w.disk.entries, internalTransactionName e.name = true → ¬ w'.disk.Has e.name := by
  intro h
  exact h (pinnedAt emptyDisk) _ _ _ (show emptyDisk.offset = 0 from rfl)
    (run_abandoned decimalFormat) (step_abandoned decimalFormat) abandoned List.mem_cons_self
    (by decide) ⟨abandoned, List.mem_cons_self, rfl⟩

/-- The rule at that clean-up. -/
theorem scan_sees_iff_abandoned :
    (SeesAll decimalFormat (pinnedAt abandonedDisk) (.cleanup .ok) (pinnedAt abandonedDisk) ↔
        NothingMissed decimalFormat (pinnedAt abandonedDisk) (.cleanup .ok)) ∧
      ((∀ earlier ∈ ([.cleanup .ok, .others] : List (ScanLabel Decimal)), earlier = .others) →
        Readable (pinnedAt abandonedDisk) (.cleanup .ok : ScanLabel Decimal) →
        SeesAll decimalFormat (pinnedAt abandonedDisk) (.cleanup .ok) (pinnedAt abandonedDisk)) :=
  scan_sees_iff decimalFormat (show (scans decimalFormat).init (pinnedAt emptyDisk) from rfl)
    (run_abandoned decimalFormat) (step_abandoned decimalFormat) rfl

end OpenArm.Persist
