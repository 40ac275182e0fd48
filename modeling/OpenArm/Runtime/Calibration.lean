/-
  OpenArm.Runtime.Calibration — calibration sessions through the facade.

  A session owns the runtime from its begin to its commit, its abort or its
  destructor.  What the commissioning library answers is decided by the
  surroundings.
-/
import OpenArm.Runtime.Motion

namespace OpenArm.Runtime

open OpenArm.Lib OpenArm.Control

variable {F : Type} [Floating F]

/-- A call on an existing session. -/
inductive SessionOp where
  /-- `oa_runtime_calibration_manual_sample`. -/
  | manualSample
  /-- `oa_runtime_calibration_manual_begin_review`. -/
  | manualReview
  /-- `oa_runtime_calibration_manual_commit`. -/
  | manualCommit (revision : Nat) (evidenceValid outValid : Bool)
  /-- `oa_runtime_calibration_recipe_step`. -/
  | recipeStep (recordValid : Bool)
  /-- `oa_runtime_calibration_recipe_commit`. -/
  | recipeCommit (revision : Nat) (outValid : Bool)
  /-- `oa_runtime_calibration_abort`. -/
  | abort
  deriving DecidableEq, Repr

namespace SessionOp

/-- The kind of session the call needs. -/
def fits (op : SessionOp) (session : CalibrationData) : Bool :=
  match op with
  | .manualSample | .manualReview | .manualCommit .. => session.manual
  | .recipeStep _ | .recipeCommit .. => !session.manual
  | .abort => true

/-- The call takes a sample. -/
def samples : SessionOp → Bool
  | .manualSample | .recipeStep _ => true
  | _ => false

end SessionOp

/-- Where a call on calibration is. -/
inductive CalibrationPc where
  | beginClaim (id : Nat)
  | beginCreate (id : Nat)
  | beginUnclaim (id : Nat) (lower : CommissionStatus)
  | beginInsert (id : Nat)
  | pin (id : Nat) (op : SessionOp)
  | lock (id : Nat) (op : SessionOp)
  /-- The session mutex is held from here … -/
  | check (id : Nat) (op : SessionOp)
  | sampleOwner (id : Nat) (op : SessionOp)
  | sampleCapture (id : Nat) (op : SessionOp)
  | commission (id : Nat) (op : SessionOp)
  | publish (id revision : Nat)
  | finishAbort (id : Nat)
  /-- … to here. -/
  | unlock (id : Nat) (status : RuntimeStatus)
  | drop (id : Nat) (status : RuntimeStatus)
  | destruct (id : Nat) (status : RuntimeStatus)
  /-- `record_error` under the session mutex, and without it. -/
  | recordLocked (id : Nat) (error : ErrorDetail)
  | recordError (id : Nat) (error : ErrorDetail)
  deriving DecidableEq, Repr

/-- An error of the commissioning library. -/
def commissionError (lower : CommissionStatus) : ErrorDetail :=
  ⟨mapCommission lower, .commission, .commission lower⟩

/-- The checks of a begin on its request and on the manifest: the side of the
    session, or the error.  Only the manual begin checks that the serial is a
    terminated, non-empty text. -/
def CalibrationRequest.check (request : CalibrationRequest) (s : RuntimeData F) :
    Except ErrorDetail Side :=
  if !request.outValid then .error (facadeError .einval)
  else
    match sideOf request.side with
    | none => .error (facadeError .einval)
    | some side =>
      if hj : request.joint < 7 then
        if request.manual && (request.motorSerial.getD "" == "") then
          .error (facadeError .einval)
        else if request.expectedRevision ≠ s.manifest.config.manifestRevision ∨
            request.motorSerial ≠ some (s.manifest.serial side ⟨request.joint, hj⟩) then
          .error (facadeError .eidentity)
        else .ok side
      else .error (facadeError .einval)

/-- The measurement of a side in the facade clock, as `capture_runtime_snapshot`
    reports it: 0 without current evidence. -/
def RuntimeData.measurementNs (s : RuntimeData F) (side : Side) (feedbackSeq : Nat) : Nat :=
  let evidence := s.feedbackClock side
  if evidence.feedbackSeq ≠ feedbackSeq ∨ evidence.runtimeMonotonicNs = 0 ∨
      s.hostNs < evidence.runtimeMonotonicNs then 0
  else evidence.runtimeMonotonicNs

/-- The end of `snapshot_sample`: the session with its new sample, unless the
    sample is not newer than the last one. -/
def CalibrationData.sample (session : CalibrationData) (s : RuntimeData F)
    (snapshot : Snapshot F) : Option CalibrationData :=
  let feedbackSeq := (snapshot.arm session.side).feedbackSeq
  let sampleTimeNs := s.measurementNs session.side feedbackSeq
  if feedbackSeq = 0 ∨ sampleTimeNs = 0 ∨ s.hostNs < sampleTimeNs ∨
      feedbackSeq ≤ session.lastSampleFeedbackSeq ∨
      sampleTimeNs ≤ session.lastSampleTimeNs then none
  else
    some
      { session with
        lastSampleFeedbackSeq := feedbackSeq
        lastSampleTimeNs := sampleTimeNs }

/-- `return record_error(...)` under the session mutex. -/
def failSession (s : RuntimeData F) (id : Nat) (error : ErrorDetail) :
    RuntimeData F × Next CalibrationPc × Event F :=
  (s, .goto (.recordLocked id error), .silent)

/-- What follows the answer of the commissioning library. -/
def afterCommission (s : RuntimeData F) (id : Nat) (op : SessionOp) (lower : CommissionStatus) :
    RuntimeData F × Next CalibrationPc × Event F :=
  if lower ≠ .ok then failSession s id (commissionError lower)
  else
    match op with
    | .manualSample | .manualReview | .recipeStep _ => (s, .goto (.unlock id .ok), .silent)
    | .manualCommit revision _ outValid | .recipeCommit revision outValid =>
      if outValid then (s, .goto (.publish id revision), .silent)
      else (s, .goto (.unlock id .eabi), .silent)
    | .abort => (s, .goto (.finishAbort id), .silent)

/-- One step of a call of thread `t` at `pc`; `none` while it is blocked. -/
def calibrationStep (s : RuntimeData F) (t : Nat) (around : Surroundings) :
    CalibrationPc → Option (RuntimeData F × Next CalibrationPc × Event F)
  -- `oa_runtime_calibration_manual_begin` and `_recipe_begin`
  | .beginClaim id =>
    if s.mutex.isSome then none
    else if s.closing then
      some (s.setError (facadeError .estate), .goto (.drop id .estate), .silent)
    else if s.owner ≠ .free then
      some (s.setError (facadeError .ebusy), .goto (.drop id .ebusy), .silent)
    else some ({ s with owner := .calibration }, .goto (.beginCreate id), .claimed id)
  | .beginCreate id =>
    if around.commission = .ok then some (s, .goto (.beginInsert id), .silent)
    else some (s, .goto (.beginUnclaim id around.commission), .silent)
  | .beginUnclaim id lower =>
    if s.mutex.isSome then none
    else
      some ({ s with owner := .free },
        .goto (.recordError id (commissionError lower)), .unclaimed id)
  | .beginInsert id =>
    match s.sessions id with
    | none => none
    | some session =>
      if around.allocates then
        some (s.setSession id
            { session with registered := true, references := session.references + 1 },
          .goto (.drop id .ok), .began id)
      else
        some (s, .goto (.recordError id (facadeError .enomem)), .silent)
  -- every call on a session
  | .pin id op =>
    match s.sessions id with
    | none => some (s, .ret .einval, .silent)
    | some session =>
      if session.registered = false then some (s, .ret .einval, .silent)
      else
        some (s.setSession id { session with references := session.references + 1 },
          .goto (if op.fits session = false then .drop id .einval
            else if op = .recipeStep false then .drop id .eabi
            else .lock id op), .silent)
  | .lock id op =>
    match s.sessions id with
    | none => none
    | some session =>
      if session.lockedBy.isSome then none
      else some (s.setSession id { session with lockedBy := some t }, .goto (.check id op), .silent)
  | .check id op =>
    match s.sessions id with
    | none => none
    | some session =>
      if session.finished then some (failSession s id (facadeError .estate))
      else
        match op with
        | .manualSample | .recipeStep _ => some (s, .goto (.sampleOwner id op), .silent)
        | .manualCommit _ false _ => some (failSession s id (facadeError .einval))
        | _ => some (s, .goto (.commission id op), .silent)
  | .sampleOwner id op =>
    if s.mutex.isSome then none
    else if s.closing = true ∨ s.owner ≠ .calibration then
      some (failSession s id (facadeError .estate))
    else some (s, .goto (.sampleCapture id op), .silent)
  | .sampleCapture id op =>
    match s.sessions id with
    | none => none
    | some session =>
      if s.controllerMutex.isSome then none
      else
        match s.controller.snapshot with
        | (.ok, some snapshot) =>
          let s' := { s with timelineNs := max s.timelineNs s.hostNs }
          match session.sample s snapshot with
          | none => some (failSession s' id (facadeError .estale))
          | some sampled => some (s'.setSession id sampled, .goto (.commission id op), .silent)
        | (lower, _) => some (failSession s id (controlError lower))
  | .commission id op => some (afterCommission s id op around.commission)
  | .publish id revision =>
    match s.sessions id with
    | none => none
    | some session =>
      if around.validation ≠ .ok then some (s, .goto (.unlock id around.validation), .silent)
      else if around.allocates = false then some (s, .goto (.unlock id .enomem), .silent)
      else if s.mutex.isSome then none
      else some (s.finishCommit id revision session, .goto (.unlock id .ok), .finished id)
  | .finishAbort id =>
    match s.sessions id with
    | none => none
    | some session =>
      if s.mutex.isSome then none
      else some (s.finishAbort id session, .goto (.unlock id .ok), .finished id)
  -- the end of a session reference
  | .unlock id status =>
    match s.sessions id with
    | none => none
    | some session =>
      some (s.setSession id { session with lockedBy := none }, .goto (.drop id status), .silent)
  | .drop id status =>
    match s.sessions id with
    | none => none
    | some session =>
      some (s.setSession id { session with references := session.references - 1 },
        if session.references ≤ 1 then .goto (.destruct id status) else .ret status, .silent)
  | .destruct id status =>
    if s.mutex.isSome then none
    else some (s.destructSession id, .ret status, .destructed id)
  | .recordLocked id error =>
    if s.mutex.isSome then none
    else some (s.setError error, .goto (.unlock id error.status), .silent)
  | .recordError id error =>
    if s.mutex.isSome then none
    else some (s.setError error, .goto (.drop id error.status), .silent)

end OpenArm.Runtime
