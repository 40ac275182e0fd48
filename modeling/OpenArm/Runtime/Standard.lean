/-
  OpenArm.Runtime.Standard — the runtime of the built-in virtual manifest.

  The runtime the tests create (a 10 ms cycle, unchecked virtual motion), and
  `exec`, which performs a list of actions: concrete runs in the other files
  are evaluated with it.
-/
import OpenArm.Runtime.Effect

namespace OpenArm.Runtime

open OpenArm.Lib OpenArm.Control

variable {F : Type} [Floating F]

/-! ## §1. Performing actions. -/

/-- Perform the actions in order; `none` when one is not enabled, or its step
    fails the guard. -/
def execWhere (L : ModelLibrary F) (guard : Machine F → Label F → Bool) (r : Machine F) :
    List (Action F) → Option (Machine F × List (Label F))
  | [] => some (r, [])
  | action :: actions =>
    match r.step L action with
    | none => none
    | some (r', event) =>
      if guard r (action, event) then
        match execWhere L guard r' actions with
        | none => none
        | some (last, es) => some (last, (action, event) :: es)
      else none

/-- What `execWhere` performs is a run whose steps meet the guard, with the
    given actions. -/
theorem execWhere_run {L : ModelLibrary F} {guard : Machine F → Label F → Bool}
    {r r' : Machine F} {actions : List (Action F)} {es : List (Label F)}
    (h : execWhere L guard r actions = some (r', es)) :
    ((system L).restrict fun r e _ => guard r e = true).Run r es r' ∧
      es.map Prod.fst = actions := by
  induction actions generalizing r es with
  | nil =>
    cases h
    exact ⟨.nil _, rfl⟩
  | cons action actions ih =>
    unfold execWhere at h
    split at h
    · cases h
    rename_i r₁ event hstep
    split at h
    · rename_i hguard
      split at h
      · cases h
      rename_i last fs hrest
      cases h
      obtain ⟨hrun, hactions⟩ := ih hrest
      have hfirst : ((system L).restrict fun r e _ => guard r e = true).step r (action, event) r₁ :=
        ⟨hstep, hguard⟩
      exact ⟨.cons hfirst hrun, by rw [List.map_cons, hactions]⟩
    · cases h

/-- An evaluated check of the last state gives a run that ends in it. -/
theorem execWhere_reaches {L : ModelLibrary F} {guard : Machine F → Label F → Bool}
    {r : Machine F} {actions : List (Action F)} {check : Machine F → Bool}
    (h : (execWhere L guard r actions).any (fun out => check out.1) = true) :
    ∃ es r', ((system L).restrict fun r e _ => guard r e = true).Run r es r' ∧
      es.map Prod.fst = actions ∧ check r' = true := by
  cases hexec : execWhere L guard r actions with
  | none =>
    rw [hexec] at h
    cases h
  | some out =>
    rw [hexec] at h
    obtain ⟨hrun, hactions⟩ := execWhere_run hexec
    exact ⟨out.2, out.1, hrun, hactions, h⟩

/-- Perform the actions in order. -/
def exec (L : ModelLibrary F) (r : Machine F) (actions : List (Action F)) :
    Option (Machine F × List (Label F)) :=
  execWhere L (fun _ _ => true) r actions

theorem exec_reaches {L : ModelLibrary F} {r : Machine F} {actions : List (Action F)}
    {check : Machine F → Bool} (h : (exec L r actions).any (fun out => check out.1) = true) :
    ∃ es r', (system L).Run r es r' ∧ es.map Prod.fst = actions ∧ check r' = true := by
  obtain ⟨es, r', hrun, hactions, hcheck⟩ := execWhere_reaches h
  exact ⟨es, r', hrun.of_restrict, hactions, hcheck⟩

section Recorded

variable {η : Type} {L : ModelLibrary F} {guard : Machine F → Label F → Bool}
  {record : η → Machine F → Label F → Machine F → η}

/-- Perform the actions in order under a guard, and keep a record of them. -/
def execRecorded (L : ModelLibrary F) (guard : Machine F → Label F → Bool)
    (record : η → Machine F → Label F → Machine F → η) (p : Machine F × η) :
    List (Action F) → Option (Machine F × η)
  | [] => some p
  | action :: actions =>
    match p.1.step L action with
    | none => none
    | some (r', event) =>
      if guard p.1 (action, event) then
        execRecorded L guard record (r', record p.2 p.1 (action, event) r') actions
      else none

/-- What `execRecorded` performs is a run with this history. -/
theorem execRecorded_reaches (start : η) {p : Machine F × η} {actions : List (Action F)}
    {check : Machine F × η → Bool}
    (h : (execRecorded L guard record p actions).any check = true) :
    ∃ es q, (((system L).restrict fun r e _ => guard r e = true).withHistory start record).Run
      p es q ∧ es.map Prod.fst = actions ∧ check q = true := by
  induction actions generalizing p with
  | nil => exact ⟨[], p, .nil _, rfl, h⟩
  | cons action actions ih =>
    unfold execRecorded at h
    split at h
    · cases h
    rename_i r' event hstep
    split at h
    · rename_i hguard
      obtain ⟨es, q, hrun, hactions, hcheck⟩ := ih h
      have hfirst : (((system L).restrict fun r e _ => guard r e = true).withHistory start
          record).step p (action, event) (r', record p.2 p.1 (action, event) r') :=
        ⟨⟨hstep, hguard⟩, rfl⟩
      exact ⟨(action, event) :: es, q, .cons hfirst hrun, by rw [List.map_cons, hactions], hcheck⟩
    · cases h

end Recorded

/-! ## §2. The standard runtime. -/

/-- Several cycles fit the feedback timeout of the tests. -/
theorem standard_cycle_le_timeout : 10000000 ≤ 50000000 := by decide

/-- The options of the runtime tests. -/
def standardRuntimeOptions : RuntimeOptions where
  allowUncheckedVirtualMotion := true
  cycleNs := 10000000
  feedbackTimeoutNs := 50000000
  maximumCrossBusSkewNs := 1000000
  collisionSceneRevision := 1
  cycle_ge := by decide
  cycle_le := by decide
  cycle_le_timeout := standard_cycle_le_timeout
  skew_pos := by decide

/-- The built-in virtual manifest. -/
def standardManifest : RuntimeManifest ℚ where
  config := standardConfig
  serial := fun side joint => if side = 0 then "left-" ++ toString joint.val
    else "right-" ++ toString joint.val
  coordinateIdentityDigest := "standard"

/-- The standard runtime, created one second after the clock's epoch. -/
def standardCreation : Except RuntimeStatus (RuntimeData ℚ) :=
  RuntimeData.create silentLibrary standardRuntimeOptions standardManifest false 1 1000000000 1000000000

theorem standardCreation_isOk : standardCreation.isOk = true := by
  decide +kernel

/-- The runtime `oa_runtime_create` hands out. -/
def standardMachine : Machine ℚ where
  data :=
    match standardCreation with
    | .ok data => data
    | .error _ => .fresh standardRuntimeOptions standardManifest
        (.create standardConfig standardOptions 1) false 0
  worker := .top
  threads := fun _ => .idle

theorem standardMachine_initial : Machine.Initial silentLibrary standardMachine := by
  refine ⟨rfl, fun _ => rfl, standardRuntimeOptions, standardManifest, false, 1, 1000000000,
    1000000000, ?_⟩
  show standardCreation = .ok standardMachine.data
  have hok := standardCreation_isOk
  unfold standardMachine
  cases hcreation : standardCreation with
  | ok data => rfl
  | error status =>
    rw [hcreation] at hok
    cases hok

/-! ## §3. Calls made without an interleaving. -/

/-- Memory suffices and the libraries agree. -/
def favourable : Surroundings := ⟨true, .ok, .ok⟩

/-- Thread `t` makes a call and takes `steps` further steps. -/
def uninterrupted (t : Nat) (c : Call ℚ) (steps : Nat) : List (Action ℚ) :=
  .start t c favourable :: List.replicate steps (.resume t favourable)

/-- The deadman held, and the runtime armed. -/
def armingActions : List (Action ℚ) :=
  uninterrupted 0 (.setInterlock 0 1) 3 ++ uninterrupted 0 .armVirtual 5

/-- The fourth left joint asked to stay where it is, for ten seconds. -/
def stayRequest : JointRequest ℚ where
  expiryNs := 11000000000
  requiredFeedbackSeq := 3
  side := 0
  joint := 3
  targetRad := 0
  velocityScale := 1
  accelerationScale := 1
  jerkScale := 1
  positionTolRad := 1 / 1000
  velocityTolRadS := 1 / 1000
  recordValid := true
  outValid := true
  clockId := clockMonotonic
  unitsId := unitsSiV1
  requiredModelRevision := 7
  requiredTcpRevision := 7
  collisionSceneRevision := 1
  requiredCollisionPolicy := 2
  requiredCoordinateIdentity := "standard"

/-- Armed, with a plan pending. -/
def planningActions : List (Action ℚ) :=
  armingActions ++ uninterrupted 0 (.plan (.joint stayRequest)) 8

end OpenArm.Runtime
