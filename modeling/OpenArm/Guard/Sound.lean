/-
  OpenArm.Guard.Sound — the guard accepts what it can prove.

  Main results:
    * `guard_exact`   — a request is accepted exactly when its samples have a
                        trace, and the result says what the trace says.
    * `guard_reports` — a refusal that reports a violation names the first
                        sample that is not clear, and what is too close there.
-/
import OpenArm.Guard.Sweep

namespace OpenArm.Guard

open OpenArm.Lib OpenArm.Control OpenArm.Model

variable {F : Type} [Metric F]

/-! ## §1. Provable requests. -/

/-- Where an accepted request takes a tool. -/
def commandedPoint (input : GuardInput F) (measuredTcp : RoutePose F) (side : Side) : Vec3 F :=
  if input.request.dual then input.request.dualTarget side
  else if side = input.request.side then input.request.target
  else measuredTcp side

/-- All targets are finite. -/
def FiniteTarget (input : GuardInput F) : Prop :=
  if input.request.dual then ∀ side, finite3 (input.request.dualTarget side) = true
  else finite3 input.request.target = true

/-- **A provable request**: seventeen samples of its straight way, solved one
    after the other, all of them clear; a convergence ends in contact, and a
    retreat begins in contact and leaves it once and for all. -/
structure GuardTrace (A : GuardModel F) (input : GuardInput F) (measuredTcp : RoutePose F)
    (poses : Nat → PairQ F) (answers : Nat → ScopedAnswer F) : Prop where
  start : poses 0 = input.measuredQ
  measured : ∀ side, A.validateQ side (input.measuredQ side) kMeasuredLimitTolerance = true ∧
    ∃ pose, A.forward side (input.measuredQ side) = some pose ∧
      measuredTcp side = origin pose.handTcp
  finite : FiniteTarget input
  steps : ∀ k < 16, ∀ side,
    SideStep A input measuredTcp (k + 1) side (poses k side) (poses (k + 1) side)
  answered : ∀ k ≤ 16, A.poseAnswer input.contactPolicy (poses k) = some (answers k) ∧
    (answers k).status = .ok ∧ (answers k).report.clear = true
  contact : input.requireTerminalContact = true →
    (answers 16).evidence.terminalPairActive = true ∧
      (answers 16).evidence.clawContactActive = true
  retreat : input.terminalRetreat = true → ∃ inside, inside ≤ 16 ∧ Retreating answers 16 inside

/-- **A proved request**: what its result says of the samples. -/
structure GuardProof (A : GuardModel F) (input : GuardInput F) (result : GuardResult F)
    (poses : Nat → PairQ F) (answers : Nat → ScopedAnswer F) : Prop where
  trace : GuardTrace A input result.measuredTcp poses answers
  commanded : ∀ side, result.commandedTcp side = commandedPoint input result.measuredTcp side
  scenes : ∀ k ≤ 16, ∃ left right,
    A.forward 0 (poses k 0) = some left ∧ A.forward 1 (poses k 1) = some right ∧
      ClearScene A.meshes (sceneFromFk left right) input.contactPolicy left.handTcp
        right.handTcp (answers k)
  minimum : (∃ k ≤ 16, result.minimumNominalClearanceM = clearances answers k) ∧
    ∀ k ≤ 16, result.minimumNominalClearanceM ≤ clearances answers k
  /-- The hands of a convergence end in the corridor. -/
  corridor : input.requireTerminalContact = true →
    result.clawHandGapM = (answers 16).evidence.clawHandGapM ∧
      kClawRailClearance - maximumRailEnvelopeIntrusionM ≤ result.clawHandGapM ∧
      result.clawHandGapM ≤ kClawRailClearance

/-- What the checks before the loop leave. -/
structure Prepared (A : GuardModel F) (input : GuardInput F) (base : GuardResult F) : Prop where
  measured : ∀ side, A.validateQ side (input.measuredQ side) kMeasuredLimitTolerance = true ∧
    ∃ pose, A.forward side (input.measuredQ side) = some pose ∧
      base.measuredTcp side = origin pose.handTcp
  commanded : ∀ side, base.commandedTcp side = commandedPoint input base.measuredTcp side
  finite : FiniteTarget input
  minimum : base.minimumNominalClearanceM = Floating.infinity
  pending : base.accepted = false ∧ base.sampledKeepoutViolation = false

section Prepare

variable {A : GuardModel F} {input : GuardInput F}

theorem measuredPose_ok {side : Side} {pose : FkResult F}
    (h : measuredPose A input side = .ok pose) :
    A.validateQ side (input.measuredQ side) kMeasuredLimitTolerance = true ∧
      A.forward side (input.measuredQ side) = some pose := by
  unfold measuredPose at h
  split at h
  · next hvalid =>
    split at h
    · next hpose =>
      obtain rfl := Except.ok.inj h
      exact ⟨hvalid, hpose⟩
    · cases h
  · cases h

/-- The measured tools, which are also the commanded ones so far. -/
theorem measureTcp_ok {measured : GuardResult F} (h : measureTcp A input = .ok measured) :
    (∀ side, A.validateQ side (input.measuredQ side) kMeasuredLimitTolerance = true ∧
      ∃ pose, A.forward side (input.measuredQ side) = some pose ∧
        measured.measuredTcp side = origin pose.handTcp) ∧
      measured.commandedTcp = measured.measuredTcp ∧
      measured.minimumNominalClearanceM = Floating.infinity ∧
      measured.accepted = false ∧ measured.sampledKeepoutViolation = false := by
  unfold measureTcp at h
  split at h
  · cases h
  · next left hleft =>
    dsimp only at h
    split at h
    · cases h
    · next right hright =>
      obtain rfl := Except.ok.inj h
      obtain ⟨hvalid0, hpose0⟩ := measuredPose_ok hleft
      obtain ⟨hvalid1, hpose1⟩ := measuredPose_ok hright
      refine ⟨?_, rfl, rfl, rfl, rfl⟩
      rw [Fin.forall_fin_two]
      exact ⟨⟨hvalid0, left, hpose0, rfl⟩, hvalid1, right, hpose1, rfl⟩

theorem prepared {measured base : GuardResult F} (hmeasured : measureTcp A input = .ok measured)
    (h : commandTcp input measured = .ok base) : Prepared A input base := by
  obtain ⟨htools, hcommanded, hminimum, hpending⟩ := measureTcp_ok hmeasured
  unfold commandTcp at h
  split at h
  · next hdual =>
    split at h
    · next hfinite =>
      obtain rfl := Except.ok.inj h
      refine ⟨htools, fun side => ?_, ?_, hminimum, hpending⟩
      · unfold commandedPoint
        rw [if_pos hdual]
      · unfold FiniteTarget
        rw [if_pos hdual, Fin.forall_fin_two]
        exact (Bool.and_eq_true _ _).mp hfinite
    · cases h
  · next hsingle =>
    split at h
    · next hfinite =>
      obtain rfl := Except.ok.inj h
      refine ⟨htools, fun side => ?_, ?_, hminimum, hpending⟩
      · unfold commandedPoint
        rw [if_neg hsingle]
        show Function.update measured.commandedTcp input.request.side input.request.target side = _
        by_cases hside : side = input.request.side
        · rw [hside, Function.update_self, if_pos rfl]
        · rw [Function.update_of_ne hside, if_neg hside, hcommanded]
      · unfold FiniteTarget
        rw [if_neg hsingle]
        exact hfinite
    · cases h

theorem measureTcp_error {failed : GuardResult F} (h : measureTcp A input = .error failed) :
    failed.accepted = false ∧ failed.sampledKeepoutViolation = false := by
  unfold measureTcp at h
  split at h
  · obtain rfl := Except.error.inj h
    exact ⟨rfl, rfl⟩
  · dsimp only at h
    split at h
    · obtain rfl := Except.error.inj h
      exact ⟨rfl, rfl⟩
    · cases h

theorem commandTcp_error {measured failed : GuardResult F}
    (h : commandTcp input measured = .error failed) :
    failed.accepted = measured.accepted ∧
      failed.sampledKeepoutViolation = measured.sampledKeepoutViolation := by
  unfold commandTcp at h
  split at h
  · split at h
    · cases h
    · obtain rfl := Except.error.inj h
      exact ⟨rfl, rfl⟩
  · split at h
    · cases h
    · obtain rfl := Except.error.inj h
      exact ⟨rfl, rfl⟩

/-- An accepted request passed the checks behind the loop. -/
theorem concludeSweep_accepted {s : Sweep F} (h : (concludeSweep A input s).accepted = true)
    (hbefore : s.result.accepted = false) :
    concludeSweep A input s = { s.result with
      accepted := true
      achievedFraction := Floating.lit 1.0
      reason := acceptedReason } ∧
      (input.requireTerminalContact = true → s.result.terminalPairActive = true ∧
        s.result.clawContactActive = true) ∧
      (input.terminalRetreat = true → s.retreatSawTerminal = true ∧ s.retreatCleared = true ∧
        s.result.terminalPairActive = false) := by
  unfold concludeSweep at h ⊢
  dsimp only at h ⊢
  split at h
  · exact absurd h (by rw [hbefore]; simp)
  · next hcontact =>
    rw [if_neg hcontact]
    split at h
    · exact absurd h (by rw [hbefore]; simp)
    · next hretreat =>
      rw [if_neg hretreat]
      simp only [not_and, not_or, Bool.not_eq_false, Bool.not_eq_true] at hcontact hretreat
      exact ⟨rfl, hcontact, hretreat⟩

/-- The checks behind the loop report no violation, and measure nothing. -/
theorem concludeSweep_kept (s : Sweep F) :
    (concludeSweep A input s).sampledKeepoutViolation = s.result.sampledKeepoutViolation ∧
      (concludeSweep A input s).measuredTcp = s.result.measuredTcp := by
  unfold concludeSweep
  dsimp only
  split
  · exact ⟨rfl, rfl⟩
  · split
    · exact ⟨rfl, rfl⟩
    · exact ⟨rfl, rfl⟩

end Prepare

/-! ## §2. The paths of a request. -/

section Paths

variable {A : GuardModel F} {input : GuardInput F}

/-- The paths of a request: refused before the loop, refused within it, or
    judged behind it. -/
theorem validate_cases (input : GuardInput F) :
    ((validate A input).accepted = false ∧ (validate A input).sampledKeepoutViolation = false) ∨
      ∃ base, Prepared A input base ∧
        (sweepSamples A input (List.range kSamples) (beginSweep input base) =
            .error (validate A input) ∨
          ∃ s, sweepSamples A input (List.range kSamples) (beginSweep input base) = .ok s ∧
            validate A input = concludeSweep A input s) := by
  unfold validate
  split
  · next hfailed => exact Or.inl (measureTcp_error hfailed)
  · next measured hmeasured =>
    split
    · next hfailed =>
      obtain ⟨haccepted, hviolation⟩ := (measureTcp_ok hmeasured).2.2.2
      obtain ⟨hsame, hsame'⟩ := commandTcp_error hfailed
      exact Or.inl ⟨hsame.trans haccepted, hsame'.trans hviolation⟩
    · next base hbase =>
      refine Or.inr ⟨base, prepared hmeasured hbase, ?_⟩
      split
      · next hfailed => exact Or.inl hfailed
      · next s hswept => exact Or.inr ⟨s, hswept, rfl⟩

/-- An accepted request went through the loop to its end. -/
theorem accepted_ended (haccepted : (validate A input).accepted = true) :
    ∃ base, Prepared A input base ∧ ∃ s,
      sweepSamples A input (List.range kSamples) (beginSweep input base) = .ok s ∧
        validate A input = concludeSweep A input s := by
  obtain ⟨hno, -⟩ | ⟨base, hbase, hfailed | hended⟩ := validate_cases (A := A) input
  · exact absurd haccepted (by rw [hno]; simp)
  · exact absurd haccepted (by rw [(sweepSamples_error hfailed hbase.pending).1]; simp)
  · exact ⟨base, hbase, hended⟩

/-- It takes the tools where it was asked to. -/
theorem accepted_commanded (haccepted : (validate A input).accepted = true) (side : Side) :
    (validate A input).commandedTcp side =
      commandedPoint input (validate A input).measuredTcp side := by
  obtain ⟨base, hbase, s, hswept, hresult⟩ := accepted_ended haccepted
  have hpending := sweepSamples_pending hswept (show Pending base base from ⟨rfl, rfl, rfl, rfl⟩)
  obtain ⟨hconcluded, -⟩ := concludeSweep_accepted (hresult ▸ haccepted)
    (hpending.accepted.trans hbase.pending.1)
  rw [hresult, hconcluded]
  show s.result.commandedTcp side = commandedPoint input s.result.measuredTcp side
  rw [hpending.commanded, hpending.measured]
  exact hbase.commanded side

/-- Its first waypoint was solved from the measured joints. -/
theorem accepted_first (haccepted : (validate A input).accepted = true) :
    ∃ measuredTcp q, (∀ side, ∃ pose, A.forward side (input.measuredQ side) = some pose ∧
      measuredTcp side = origin pose.handTcp) ∧
        solvePair A input measuredTcp (fraction 1) input.measuredQ = .ok q := by
  obtain ⟨base, hbase, s, hswept, -⟩ := accepted_ended haccepted
  rw [List.range_eq_range', show kSamples = 15 + 1 + 1 from rfl, List.range'_succ,
    List.range'_succ] at hswept
  unfold sweepSamples at hswept
  split at hswept
  · cases hswept
  · next first hfirst =>
    unfold sweepSamples at hswept
    split at hswept
    · cases hswept
    · next second hsecond =>
      unfold sweepSample at hfirst hsecond
      rw [if_pos rfl] at hfirst
      rw [if_neg (by decide)] at hsecond
      obtain ⟨hpending, hjoints⟩ := judgeSample_pending hfirst
        (show Pending base base from ⟨rfl, rfl, rfl, rfl⟩)
      rw [hpending.measured, hjoints] at hsecond
      split at hsecond
      · cases hsecond
      · next q hq => exact ⟨_, q, fun side => (hbase.measured side).2, hq⟩

/-- A violation that is reported is that of some pose. -/
theorem violation_refused (hviolated : (validate A input).sampledKeepoutViolation = true) :
    ∃ q, Refused A input.contactPolicy q (validate A input).reason := by
  obtain ⟨-, hno⟩ | ⟨base, hbase, hfailed | ⟨s, hswept, hresult⟩⟩ := validate_cases (A := A) input
  · exact absurd hviolated (by rw [hno]; simp)
  · exact (sweepSamples_error hfailed hbase.pending).2.2 hviolated
  · have hpending := sweepSamples_pending hswept (show Pending base base from ⟨rfl, rfl, rfl, rfl⟩)
    rw [hresult, (concludeSweep_kept s).1, hpending.violation, hbase.pending.2] at hviolated
    cases hviolated

theorem commandTcp_of_finite (measured : GuardResult F) (h : FiniteTarget input) :
    ∃ base, commandTcp input measured = .ok base ∧ base.measuredTcp = measured.measuredTcp := by
  unfold FiniteTarget at h
  unfold commandTcp
  by_cases hdual : input.request.dual = true
  · rw [if_pos hdual, Fin.forall_fin_two] at h
    rw [if_pos hdual, if_pos ((Bool.and_eq_true _ _).mpr h)]
    exact ⟨_, rfl, rfl⟩
  · rw [if_neg hdual] at h
    rw [if_neg hdual, if_pos h]
    exact ⟨_, rfl, rfl⟩

/-- The checks before the loop pass. -/
theorem prepares {measuredTcp : RoutePose F} (hmeasures : ∀ side,
      A.validateQ side (input.measuredQ side) kMeasuredLimitTolerance = true ∧
        ∃ pose, A.forward side (input.measuredQ side) = some pose ∧
          measuredTcp side = origin pose.handTcp) (hfinite : FiniteTarget input) :
    ∃ measured base, measureTcp A input = .ok measured ∧ commandTcp input measured = .ok base ∧
      base.measuredTcp = measuredTcp := by
  obtain ⟨hvalid0, left, hleft, hpoint0⟩ := hmeasures 0
  obtain ⟨hvalid1, right, hright, hpoint1⟩ := hmeasures 1
  have hpose : ∀ side pose, A.validateQ side (input.measuredQ side) kMeasuredLimitTolerance = true →
      A.forward side (input.measuredQ side) = some pose →
        measuredPose A input side = .ok pose := by
    intro side pose hvalid hforward
    unfold measuredPose
    rw [if_pos hvalid, hforward]
  have htools : ![origin left.handTcp, origin right.handTcp] = measuredTcp := by
    funext side
    revert side
    rw [Fin.forall_fin_two]
    exact ⟨hpoint0.symm, hpoint1.symm⟩
  have hmeasured : ∃ measured, measureTcp A input = .ok measured ∧
      measured.measuredTcp = measuredTcp := by
    unfold measureTcp
    rw [hpose 0 left hvalid0 hleft]
    dsimp only
    rw [hpose 1 right hvalid1 hright]
    exact ⟨_, rfl, htools⟩
  obtain ⟨measured, hmeasured, htcp⟩ := hmeasured
  obtain ⟨base, hbase, hsame⟩ := commandTcp_of_finite measured hfinite
  exact ⟨measured, base, hmeasured, hbase, hsame.trans htcp⟩

end Paths

/-! ## §3. What is provable is accepted. -/

section Forward

variable [FloatOrder F] {A : GuardModel F} {input : GuardInput F} {measuredTcp : RoutePose F}
  {poses : Nat → PairQ F} {answers : Nat → ScopedAnswer F}

/-- A step of the trace is what the loop solves. -/
theorem SideStep.solves {sample : Nat} {side : Side} {seed q : JointVector F}
    (h : SideStep A input measuredTcp sample side seed q) :
    solveSide A input measuredTcp (fraction sample) side seed = .ok q := by
  obtain ⟨diagnostics, hsome, rfl, hchecked, hfinite, hexact⟩ := h.solved
  have hinverse : inverse A side (sideWaypoint input measuredTcp (fraction sample) side) seed =
      .ok diagnostics.q := by
    unfold inverse
    rw [hsome]
    dsimp only
    rw [if_neg (by simp [hchecked, hfinite, hexact]), if_pos h.bounded]
  unfold solveSide
  rw [hinverse]
  dsimp only
  rw [if_neg]
  intro hany
  obtain ⟨joint, -, hfar⟩ := List.any_eq_true.mp hany
  exact Floating.not_le_of_lt (of_decide_eq_true hfar) (h.near joint)

theorem solvePair_of_steps {sample : Nat} {q q' : PairQ F}
    (h : ∀ side, SideStep A input measuredTcp sample side (q side) (q' side)) :
    solvePair A input measuredTcp (fraction sample) q = .ok q' := by
  unfold solvePair
  rw [(h 0).solves]
  dsimp only
  rw [(h 1).solves]
  dsimp only
  refine congrArg Except.ok (funext fun side => ?_)
  revert side
  rw [Fin.forall_fin_two]
  exact ⟨rfl, rfl⟩

omit [FloatOrder F] in
/-- Where a sample of the trace is judged, the rules of a retreat decide. -/
theorem judgeSample_of_trace (h : GuardTrace A input measuredTcp poses answers) {n : Nat}
    (hn : n ≤ 16) {s between : Sweep F}
    (hrules : retreatRules input n (answers n).evidence { s with
      q := poses n
      result := noteClearance (answers n).report.minimumClearanceM s.result } = .ok between) :
    judgeSample A input n (poses n) s = .ok { between with
      result := (if n + 1 = kSamples then noteContact (answers n).evidence else id)
        between.result } := by
  obtain ⟨hpose, hok, hclear⟩ := h.answered n hn
  obtain ⟨left, hleft, hrest⟩ := Option.bind_eq_some_iff.mp hpose
  obtain ⟨right, hright, hanswer⟩ := Option.map_eq_some_iff.mp hrest
  unfold judgeSample
  rw [hleft, hright]
  dsimp only
  rw [hanswer, if_neg (not_not.mpr hok), if_neg (by rw [hclear]; simp), hrules]
  dsimp only
  split
  · rfl
  · rfl

/-- Where the loop stands behind sample `n` of the trace. -/
structure Standing (input : GuardInput F) (measuredTcp : RoutePose F) (poses : Nat → PairQ F)
    (answers : Nat → ScopedAnswer F) (n : Nat) (s : Sweep F) : Prop where
  last : s.q = poses n
  tools : s.result.measuredTcp = measuredTcp
  noted : n = 16 → s.result.terminalPairActive = (answers 16).evidence.terminalPairActive ∧
    s.result.clawContactActive = (answers 16).evidence.clawContactActive
  retreat : ∀ inside, input.terminalRetreat = true → Retreating answers 16 inside →
    s.retreatSawTerminal = true ∧ (s.retreatCleared = true ↔ inside ≤ n) ∧
      (n < inside → s.retreatPreviousClearance = (answers n).evidence.terminalPairClearanceM)

omit [FloatOrder F] in
/-- The rules of a retreat let the trace pass. -/
theorem retreatRules_of_trace {inside n : Nat} {s : Sweep F}
    (hretreat : input.terminalRetreat = true) (h : Retreating answers 16 inside)
    (hn : n ≤ 16) (hzero : n = 0 → s.retreatSawTerminal = false ∧ s.retreatCleared = false)
    (hlater : ∀ m, n = m + 1 → s.retreatSawTerminal = true ∧
      (s.retreatCleared = true ↔ inside ≤ m) ∧
      (m < inside → s.retreatPreviousClearance = (answers m).evidence.terminalPairClearanceM)) :
    ∃ s', retreatRules input n (answers n).evidence s = .ok s' ∧ s'.retreatSawTerminal = true ∧
      (s'.retreatCleared = true ↔ inside ≤ n) ∧
      (n < inside → s'.retreatPreviousClearance = (answers n).evidence.terminalPairClearanceM) := by
  have hactive := h.active n hn
  unfold retreatRules
  rw [if_pos hretreat]
  by_cases hin : n < inside
  · rw [if_neg fun hstart => by rw [hactive.mpr hin] at hstart; exact absurd hstart.2 (by simp),
      if_pos (hactive.mpr hin)]
    have hnot : s.retreatCleared = false := by
      by_cases hfirst : n = 0
      · exact (hzero hfirst).2
      · obtain ⟨m, rfl⟩ := Nat.exists_eq_succ_of_ne_zero hfirst
        refine Bool.eq_false_of_not_eq_true fun hcleared => ?_
        have hgone := (hlater m rfl).2.1.mp hcleared
        omega
    rw [if_neg]
    · refine ⟨_, rfl, rfl, ?_, fun _ => rfl⟩
      show s.retreatCleared = true ↔ _
      rw [hnot]
      simp only [Bool.false_eq_true, false_iff]
      omega
    · rintro (hcleared | ⟨hsaw, hdeeper⟩)
      · rw [hnot] at hcleared
        cases hcleared
      · by_cases hfirst : n = 0
        · rw [(hzero hfirst).1] at hsaw
          cases hsaw
        · obtain ⟨m, rfl⟩ := Nat.exists_eq_succ_of_ne_zero hfirst
          rw [(hlater m rfl).2.2 (by omega)] at hdeeper
          exact h.holds m hin hdeeper
  · have hstarts := h.starts
    have hfirst : n ≠ 0 := by omega
    have hout : (answers n).evidence.terminalPairActive = false :=
      Bool.eq_false_of_not_eq_true fun hyes => hin (hactive.mp hyes)
    obtain ⟨m, rfl⟩ := Nat.exists_eq_succ_of_ne_zero hfirst
    obtain ⟨hsaw, -, -⟩ := hlater m rfl
    rw [if_neg fun hstart => absurd hstart.1 hfirst, if_neg (by rw [hout]; simp), if_pos hsaw]
    refine ⟨_, rfl, hsaw, ?_, fun hless => absurd hless hin⟩
    simp only [true_iff]
    omega

/-- A sample of the trace passes. -/
theorem sweepSample_of_trace (h : GuardTrace A input measuredTcp poses answers) {n : Nat}
    (hn : n ≤ 16) {s : Sweep F} (hzero : n = 0 → ∃ base, base.measuredTcp = measuredTcp ∧
      s = beginSweep input base)
    (hlater : ∀ m, n = m + 1 → Standing input measuredTcp poses answers m s) :
    ∃ s', sweepSample A input n s = .ok s' ∧ Standing input measuredTcp poses answers n s' := by
  have htools : s.result.measuredTcp = measuredTcp := by
    by_cases hfirst : n = 0
    · obtain ⟨base, hbase, rfl⟩ := hzero hfirst
      exact hbase
    · obtain ⟨m, hm⟩ := Nat.exists_eq_succ_of_ne_zero hfirst
      exact (hlater m hm).tools
  have hsample : sweepSample A input n s = judgeSample A input n (poses n) s := by
    unfold sweepSample
    by_cases hfirst : n = 0
    · obtain ⟨base, -, rfl⟩ := hzero hfirst
      rw [if_pos hfirst, hfirst, h.start]
      rfl
    · obtain ⟨m, rfl⟩ := Nat.exists_eq_succ_of_ne_zero hfirst
      rw [if_neg hfirst, htools, (hlater m rfl).last,
        solvePair_of_steps fun side => h.steps m (by omega) side]
  obtain ⟨between, hrules, hflags⟩ : ∃ between, retreatRules input n (answers n).evidence { s with
      q := poses n
      result := noteClearance (answers n).report.minimumClearanceM s.result } = .ok between ∧
      ∀ inside, input.terminalRetreat = true → Retreating answers 16 inside →
        between.retreatSawTerminal = true ∧ (between.retreatCleared = true ↔ inside ≤ n) ∧
          (n < inside →
            between.retreatPreviousClearance = (answers n).evidence.terminalPairClearanceM) := by
    by_cases hretreat : input.terminalRetreat = true
    · obtain ⟨inside, -, hinside⟩ := h.retreat hretreat
      have hpass : ∀ inside, Retreating answers 16 inside → _ := fun inside hinside =>
        retreatRules_of_trace (s := { s with
          q := poses n
          result := noteClearance (answers n).report.minimumClearanceM s.result }) hretreat hinside
          hn (fun hfirst => by
            obtain ⟨base, -, rfl⟩ := hzero hfirst
            exact ⟨rfl, rfl⟩)
          (fun m hm => (hlater m hm).retreat inside hretreat hinside)
      obtain ⟨between, hrules, -⟩ := hpass inside hinside
      refine ⟨between, hrules, fun other _ hother => ?_⟩
      obtain ⟨again, hagain, hflags⟩ := hpass other hother
      obtain rfl := Except.ok.inj (hrules.symm.trans hagain)
      exact hflags
    · unfold retreatRules
      rw [if_neg hretreat]
      exact ⟨_, rfl, fun inside hyes => absurd hyes hretreat⟩
  obtain ⟨hlast, hresult⟩ := retreatRules_ok hrules
  rw [hsample, judgeSample_of_trace h hn hrules]
  refine ⟨_, rfl, hlast, ?_, fun hend => ?_, hflags⟩
  · show ((if n + 1 = kSamples then noteContact (answers n).evidence else id)
      between.result).measuredTcp = _
    rw [hresult]
    split
    · exact htools
    · exact htools
  · subst hend
    exact ⟨rfl, rfl⟩

/-- **The whole trace passes.** -/
theorem sweepSamples_of_trace (h : GuardTrace A input measuredTcp poses answers) {n m : Nat}
    (hm : n + m = 16) {s : Sweep F} (hs : Standing input measuredTcp poses answers n s) :
    ∃ s', sweepSamples A input (List.range' (n + 1) m) s = .ok s' ∧
      Standing input measuredTcp poses answers 16 s' := by
  induction m generalizing n s with
  | zero =>
    obtain rfl : n = 16 := by omega
    exact ⟨s, rfl, hs⟩
  | succ m ih =>
    obtain ⟨next, hnext, hstanding⟩ := sweepSample_of_trace h (n := n + 1) (by omega)
      (fun hfirst => absurd hfirst (by omega)) (fun k hk => by
        obtain rfl : n = k := by omega
        exact hs)
    obtain ⟨s', hrun, hend⟩ := ih (by omega) hstanding
    refine ⟨s', ?_, hend⟩
    rw [List.range'_succ]
    unfold sweepSamples
    rw [hnext]
    exact hrun

theorem accepted_of_trace (h : GuardTrace A input measuredTcp poses answers) :
    (validate A input).accepted = true := by
  obtain ⟨measured, base, hmeasured, hbase, htools⟩ := prepares h.measured h.finite
  obtain ⟨first, hfirst, hstanding⟩ := sweepSample_of_trace h (n := 0) (by omega)
    (fun _ => ⟨base, htools, rfl⟩) (fun m hm => absurd hm (by omega))
  obtain ⟨s, hrun, hend⟩ := sweepSamples_of_trace h (Nat.zero_add 16) hstanding
  have hswept : sweepSamples A input (List.range kSamples) (beginSweep input base) = .ok s := by
    rw [List.range_eq_range', show kSamples = 16 + 1 from rfl, List.range'_succ]
    unfold sweepSamples
    rw [hfirst]
    exact hrun
  unfold validate
  rw [hmeasured]
  dsimp only
  rw [hbase]
  dsimp only
  rw [hswept]
  dsimp only
  obtain ⟨hactive, htouching⟩ := hend.noted rfl
  unfold concludeSweep
  dsimp only
  rw [if_neg, if_neg]
  · rintro ⟨hretreat, hwrong⟩
    obtain ⟨inside, hinside, hall⟩ := h.retreat hretreat
    obtain ⟨hsaw, hcleared, -⟩ := hend.retreat inside hretreat hall
    have hout : (answers 16).evidence.terminalPairActive = false :=
      Bool.eq_false_of_not_eq_true fun hyes => by
        have hless := (hall.active 16 (by omega)).mp hyes
        omega
    rw [hsaw, hcleared.mpr hinside, hactive, hout] at hwrong
    simp at hwrong
  · rintro ⟨hwants, hwrong⟩
    obtain ⟨hyes, hyes'⟩ := h.contact hwants
    rw [hactive, htouching, hyes, hyes'] at hwrong
    simp at hwrong

end Forward

/-! ## §4. Arms that rest. -/

/-- Arms that rest at one pose, whatever their joints, clear of everything, and
    inverse kinematics that holds the joints for all that is within reach. -/
structure Resting (A : GuardModel F) (input : GuardInput F) (pose : Side → FkResult F)
    (within : Vec3 F → Prop) : Prop where
  forward : ∀ side q, A.forward side q = some (pose side)
  holds : ∀ side target seed, within target → ∃ diagnostics,
    A.inverse side target seed = some diagnostics ∧ diagnostics.q = seed ∧
      diagnostics.collisionChecked = false ∧
      Floating.isFinite diagnostics.positionErrorM = true ∧
      ¬ Floating.lit 1.0e-5 < diagnostics.positionErrorM
  fails : ∀ side target seed, ¬ within target → A.inverse side target seed = none
  valid : ∀ side, A.validateQ side (input.measuredQ side) (Floating.lit 0.0) = true ∧
    A.validateQ side (input.measuredQ side) kMeasuredLimitTolerance = true
  still : ∀ side joint,
    Floating.abs (input.measuredQ side joint - input.measuredQ side joint) ≤ Floating.lit 0.35
  clear : (A.sceneAnswer input.contactPolicy (pose 0) (pose 1)).status = .ok ∧
    (A.sceneAnswer input.contactPolicy (pose 0) (pose 1)).report.clear = true
  contact : input.requireTerminalContact = true →
    (A.sceneAnswer input.contactPolicy (pose 0) (pose 1)).evidence.terminalPairActive = true ∧
      (A.sceneAnswer input.contactPolicy (pose 0) (pose 1)).evidence.clawContactActive = true
  stays : input.terminalRetreat = false

namespace Resting

variable {A : GuardModel F} {input : GuardInput F} {pose : Side → FkResult F}
  {within : Vec3 F → Prop}

/-- Nothing is too close, so no violation is reported. -/
theorem quiet (h : Resting A input pose within) :
    (validate A input).sampledKeepoutViolation = false := by
  refine Bool.eq_false_of_not_eq_true fun hviolated => ?_
  obtain ⟨q, left, right, hleft, hright, hrefused⟩ := violation_refused hviolated
  obtain rfl := Option.some.inj ((h.forward 0 (q 0)).symm.trans hleft)
  obtain rfl := Option.some.inj ((h.forward 1 (q 1)).symm.trans hright)
  rcases hrefused with ⟨hstatus, -⟩ | ⟨-, hunclear, -⟩
  · exact hstatus h.clear.1
  · exact absurd (h.clear.2.symm.trans hunclear) (by simp)

/-- The tools are measured where they rest. -/
theorem measured (h : Resting A input pose within) (hfinite : FiniteTarget input) :
    (validate A input).measuredTcp = fun side => origin (pose side).handTcp := by
  obtain ⟨measured, base, hmeasured, hbase, htools⟩ :=
    prepares (fun side => ⟨(h.valid side).2, _, h.forward side _, rfl⟩) hfinite
  have hprepared := prepared hmeasured hbase
  unfold validate
  rw [hmeasured]
  dsimp only
  rw [hbase, ← htools]
  dsimp only
  split
  · next hfailed => exact (sweepSamples_error hfailed hprepared.pending).2.1
  · next s hswept =>
    have hpending := sweepSamples_pending hswept
      (show Pending base base from ⟨rfl, rfl, rfl, rfl⟩)
    exact (concludeSweep_kept s).2.trans hpending.measured

/-- Where the first waypoint is out of reach the request is refused. -/
theorem refused (h : Resting A input pose within) {side : Side}
    (hfar : ¬ within
      (sideWaypoint input (fun side => origin (pose side).handTcp) (fraction 1) side)) :
    (validate A input).accepted = false := by
  refine Bool.eq_false_of_not_eq_true fun haccepted => ?_
  obtain ⟨measuredTcp, q, htools, hsolved⟩ := accepted_first haccepted
  have hmeasured : measuredTcp = fun side => origin (pose side).handTcp := by
    funext side
    obtain ⟨known, hknown, htool⟩ := htools side
    obtain rfl := Option.some.inj ((h.forward side _).symm.trans hknown)
    exact htool
  rw [hmeasured] at hsolved
  have hnone : ∀ seed, solveSide A input (fun side => origin (pose side).handTcp) (fraction 1)
      side seed = .error inverseReason := by
    intro seed
    unfold solveSide inverse
    rw [h.fails _ _ _ hfar]
  unfold solvePair at hsolved
  split at hsolved
  · cases hsolved
  · next left hleft =>
    split at hsolved
    · cases hsolved
    · next right hright =>
      revert side
      rw [Fin.forall_fin_two]
      refine ⟨fun _ hnone => ?_, fun _ hnone => ?_⟩
      · rw [hnone] at hleft
        cases hleft
      · rw [hnone] at hright
        cases hright

/-- Where all waypoints are within reach the request is accepted. -/
theorem accepted [FloatOrder F] (h : Resting A input pose within) (hfinite : FiniteTarget input)
    (hnear : ∀ k < 16, ∀ side, within
      (sideWaypoint input (fun side => origin (pose side).handTcp) (fraction (k + 1)) side)) :
    (validate A input).accepted = true := by
  have htrace : GuardTrace A input (fun side => origin (pose side).handTcp)
      (fun _ => input.measuredQ)
      (fun _ => A.sceneAnswer input.contactPolicy (pose 0) (pose 1)) := by
    refine ⟨rfl, fun side => ⟨(h.valid side).2, _, h.forward side _, rfl⟩, hfinite,
      fun k hk side => ⟨?_, (h.valid side).1, h.still side⟩, fun k hk => ⟨?_, h.clear⟩,
      h.contact, fun hretreats => ?_⟩
    · exact h.holds side _ _ (hnear k hk side)
    · unfold GuardModel.poseAnswer
      rw [h.forward, h.forward]
      rfl
    · rw [h.stays] at hretreats
      cases hretreats
  exact accepted_of_trace htrace

end Resting

/-! ## §5. What is accepted is proved. -/

section Sound

variable [InfinityOrder F] {A : GuardModel F} {input : GuardInput F}

/-- The loop over the samples, from the first to the last. -/
theorem sweep_all (hM : A.meshes.Finite) {base : GuardResult F} (hbase : Prepared A input base)
    {s : Sweep F}
    (h : sweepSamples A input (List.range kSamples) (beginSweep input base) = .ok s) :
    ∃ poses answers, Swept A input base 16 s poses answers := by
  have hfinite : FinitePose input.measuredQ :=
    fun side joint => validateQ_finite (hbase.measured side).1 joint
  rw [List.range_eq_range', show kSamples = 16 + 1 from rfl, List.range'_succ] at h
  unfold sweepSamples at h
  split at h
  · cases h
  · next first hfirst =>
    obtain ⟨answers, hstart⟩ := swept_start hM hfinite hbase.minimum hfirst
    have hall := sweepSamples_swept (by decide) hstart h
    rwa [Nat.zero_add] at hall

omit [InfinityOrder F] in
/-- The pending results keep what was measured, and are not accepted. -/
theorem Swept.pending {base : GuardResult F} {n : Nat} {s : Sweep F} {poses : Nat → PairQ F}
    {answers : Nat → ScopedAnswer F} (h : Swept A input base n s poses answers) :
    Pending base s.result := by
  rw [h.result]
  split
  · exact ⟨rfl, rfl, rfl, rfl⟩
  · exact ⟨rfl, rfl, rfl, rfl⟩

/-- Where the loop ends early, its samples before are clear. -/
theorem sweepSamples_failed {base : GuardResult F} {n m : Nat} {s : Sweep F}
    {failed : GuardResult F} {poses : Nat → PairQ F} {answers : Nat → ScopedAnswer F}
    (hm : n + m < kSamples) (h : Swept A input base n s poses answers)
    (hrun : sweepSamples A input (List.range' (n + 1) m) s = .error failed) :
    ∃ j, n + j + 1 < kSamples ∧ ∃ s' poses answers, Swept A input base (n + j) s' poses answers ∧
      sweepSample A input (n + j + 1) s' = .error failed := by
  induction m generalizing n s poses answers with
  | zero => cases hrun
  | succ m ih =>
    rw [List.range'_succ] at hrun
    unfold sweepSamples at hrun
    split at hrun
    · next hnow =>
      obtain rfl := Except.error.inj hrun
      exact ⟨0, by omega, s, poses, answers, h, hnow⟩
    · next next hnext =>
      obtain ⟨q, answer, hswept⟩ := sweepSample_swept (by omega) h hnext
      obtain ⟨j, hj, s', poses', answers', hbefore, hfailed⟩ := ih (by omega) hswept hrun
      refine ⟨j + 1, by omega, s', poses', answers', ?_, ?_⟩
      · rwa [show n + (j + 1) = n + 1 + j by omega]
      · rwa [show n + (j + 1) + 1 = n + 1 + j + 1 by omega]

/-- **What a refusal says**: the first sample that is not clear, after clear
    ones, where it reports a violation at all. -/
structure RefusalProof (A : GuardModel F) (input : GuardInput F) (result : GuardResult F)
    (n : Nat) (poses : Nat → PairQ F) : Prop where
  within : n ≤ 16
  located : result.failurePathFraction = fraction n
  start : poses 0 = input.measuredQ
  steps : ∀ k < n, ∀ side,
    SideStep A input result.measuredTcp (k + 1) side (poses k side) (poses (k + 1) side)
  clear : ∀ k < n, ∃ answer, A.poseAnswer input.contactPolicy (poses k) = some answer ∧
    answer.status = .ok ∧ answer.report.clear = true
  violated : Violated A input.contactPolicy (poses n) result.reason

/-- Where a sample fails. -/
theorem sweepSample_failed (hM : A.meshes.Finite) {base : GuardResult F} {n : Nat} {s : Sweep F}
    {failed : GuardResult F} {poses : Nat → PairQ F} {answers : Nat → ScopedAnswer F}
    (hn : n + 1 < kSamples) (h : Swept A input base n s poses answers)
    (hbase : base.accepted = false ∧ base.sampledKeepoutViolation = false)
    (hfailed : sweepSample A input (n + 1) s = .error failed) :
    failed.accepted = false ∧ (failed.sampledKeepoutViolation = true →
      ∃ poses, RefusalProof A input failed (n + 1) poses) := by
  obtain ⟨haccepted, hviolation, hmeasured, -⟩ := h.pending
  have hbefore := And.intro (haccepted.trans hbase.1) (hviolation.trans hbase.2)
  unfold sweepSample at hfailed
  rw [if_neg (by omega)] at hfailed
  split at hfailed
  · obtain rfl := Except.error.inj hfailed
    exact ⟨hbefore.1, fun hyes => absurd (hbefore.2.symm.trans hyes) (by simp)⟩
  · next q hq =>
    rw [hmeasured, h.last] at hq
    have hsteps := solvePair_ok (h.finite n (Nat.le_refl n)) hq
    obtain ⟨hno, htools, hyes⟩ := judgeSample_error hfailed hbefore
    refine ⟨hno, fun hviolated => ⟨Function.update poses (n + 1) q, ?_⟩⟩
    obtain ⟨hlocated, hpose⟩ := hyes hviolated
    have hposes : ∀ k ≤ n, Function.update poses (n + 1) q k = poses k :=
      fun k hk => Function.update_of_ne (by omega) _ _
    have hnew : Function.update poses (n + 1) q (n + 1) = q := Function.update_self ..
    refine ⟨by unfold kSamples at hn; omega, hlocated, ?_, fun k hk side => ?_, fun k hk => ?_, ?_⟩
    · rw [hposes 0 (by omega)]
      exact h.start
    · rw [htools, hmeasured]
      by_cases hlast : k = n
      · rw [hlast, hnew, hposes n (by omega)]
        exact hsteps side
      · rw [hposes (k + 1) (by omega), hposes k (by omega)]
        exact h.steps k (by omega) side
    · rw [hposes k (by omega)]
      exact ⟨answers k, h.answered k (by omega), h.ok k (by omega), h.clear k (by omega)⟩
    · rw [hnew]
      exact hpose.violated hM

/-- Where the loop fails. -/
theorem sweep_failed (hM : A.meshes.Finite) {base failed : GuardResult F}
    (hbase : Prepared A input base)
    (h : sweepSamples A input (List.range kSamples) (beginSweep input base) = .error failed) :
    failed.accepted = false ∧ (failed.sampledKeepoutViolation = true →
      ∃ n poses, RefusalProof A input failed n poses) := by
  have hfinite : FinitePose input.measuredQ :=
    fun side joint => validateQ_finite (hbase.measured side).1 joint
  rw [List.range_eq_range', show kSamples = 16 + 1 from rfl, List.range'_succ] at h
  unfold sweepSamples at h
  split at h
  · next hfirst =>
    obtain rfl := Except.error.inj h
    unfold sweepSample at hfirst
    rw [if_pos rfl] at hfirst
    obtain ⟨hno, -, hyes⟩ := judgeSample_error hfirst hbase.pending
    refine ⟨hno, fun hviolated => ⟨0, fun _ => input.measuredQ, ?_⟩⟩
    obtain ⟨hlocated, hpose⟩ := hyes hviolated
    exact ⟨by omega, hlocated, rfl, fun k hk => absurd hk (by omega),
      fun k hk => absurd hk (by omega), hpose.violated hM⟩
  · next first hfirst =>
    obtain ⟨answers, hstart⟩ := swept_start hM hfinite hbase.minimum hfirst
    obtain ⟨j, hj, s', poses, answers, hswept, hfailed⟩ :=
      sweepSamples_failed (by decide) hstart h
    obtain ⟨hno, hyes⟩ := sweepSample_failed hM hj hswept hbase.pending hfailed
    exact ⟨hno, fun hviolated => ⟨_, hyes hviolated⟩⟩

/-- An accepted request went through all samples. -/
theorem accepted_swept (hM : A.meshes.Finite) (haccepted : (validate A input).accepted = true) :
    ∃ base, Prepared A input base ∧ ∃ s poses answers, Swept A input base 16 s poses answers ∧
      validate A input = concludeSweep A input s := by
  obtain ⟨base, hbase, s, hswept, hresult⟩ := accepted_ended haccepted
  obtain ⟨poses, answers, hall⟩ := sweep_all hM hbase hswept
  exact ⟨base, hbase, s, poses, answers, hall, hresult⟩

/-- **The guard**: it accepts exactly what it can prove, and its result says
    what was proved. -/
def GuardExact (A : GuardModel F) (input : GuardInput F) : Prop :=
  ((validate A input).accepted = true ↔
    ∃ measuredTcp poses answers, GuardTrace A input measuredTcp poses answers) ∧
  ((validate A input).accepted = true →
    ∃ poses answers, GuardProof A input (validate A input) poses answers)

theorem accepted_proved (hM : A.meshes.Finite) (haccepted : (validate A input).accepted = true) :
    ∃ poses answers, GuardProof A input (validate A input) poses answers := by
  obtain ⟨base, hbase, s, poses, answers, hall, hresult⟩ := accepted_swept hM haccepted
  obtain ⟨hpending, -, hmeasuredTcp, hcommandedTcp⟩ := hall.pending
  obtain ⟨hconcluded, hcontact, hretreat⟩ := concludeSweep_accepted (hresult ▸ haccepted)
    (hpending.trans hbase.pending.1)
  rw [hresult, hconcluded]
  have hlast : s.result = noteContact (answers 16).evidence { base with
      minimumNominalClearanceM := runningMinimum (clearances answers) 16 } := by
    rw [hall.result, if_pos (show 16 + 1 = kSamples from rfl)]
  have hscenes : ∀ k ≤ 16, ∃ left right,
      A.forward 0 (poses k 0) = some left ∧ A.forward 1 (poses k 1) = some right ∧
        ClearScene A.meshes (sceneFromFk left right) input.contactPolicy left.handTcp
          right.handTcp (answers k) := fun k hk =>
    poseAnswer_clear hM (hall.answered k hk) (hall.ok k hk) (hall.clear k hk)
  have hends : input.requireTerminalContact = true →
      (answers 16).evidence.terminalPairActive = true ∧
        (answers 16).evidence.clawContactActive = true := by
    intro hwants
    obtain ⟨hactive, htouching⟩ := hcontact hwants
    rw [hlast] at hactive htouching
    exact ⟨hactive, htouching⟩
  have htrace : GuardTrace A input base.measuredTcp poses answers := by
    refine ⟨hall.start, hbase.measured, hbase.finite, hall.steps, fun k hk =>
      ⟨hall.answered k hk, hall.ok k hk, hall.clear k hk⟩, hends, fun hretreats => ?_⟩
    obtain ⟨inside, hinside, -, hcleared, -⟩ := hall.retreat hretreats
    exact ⟨inside, hcleared.mp (hretreat hretreats).2.1, hinside⟩
  refine ⟨poses, answers, ?_, fun side => ?_, hscenes, ?_, fun hwants => ?_⟩
  · show GuardTrace A input s.result.measuredTcp poses answers
    rw [hmeasuredTcp]
    exact htrace
  · show s.result.commandedTcp side = commandedPoint input s.result.measuredTcp side
    rw [hmeasuredTcp, hcommandedTcp]
    exact hbase.commanded side
  · show (∃ k ≤ 16, s.result.minimumNominalClearanceM = _) ∧
      ∀ k ≤ 16, s.result.minimumNominalClearanceM ≤ _
    rw [hlast]
    refine runningMinimum_least fun k hk => ?_
    obtain ⟨left, right, -, -, hscene⟩ := hscenes k hk
    exact FloatOrder.le_self_right hscene.least
  · obtain ⟨hactive, htouching⟩ := hends hwants
    obtain ⟨left, right, -, -, hscene⟩ := hscenes 16 (Nat.le_refl 16)
    show s.result.clawHandGapM = _ ∧ _ ≤ s.result.clawHandGapM ∧ s.result.clawHandGapM ≤ _
    rw [hlast]
    exact ⟨rfl, (hscene.active hactive).2, hscene.contact htouching⟩

theorem guard_exact (hM : A.meshes.Finite) (input : GuardInput F) : GuardExact A input := by
  refine ⟨⟨fun haccepted => ?_, fun ⟨_, _, _, htrace⟩ => accepted_of_trace htrace⟩,
    accepted_proved hM⟩
  obtain ⟨poses, answers, hproof⟩ := accepted_proved hM haccepted
  exact ⟨_, poses, answers, hproof.trace⟩

/-- A place beside the pole, at a distance from the middle plane. -/
def placed (y : ℚ) (side : Side) : Transform Extended := fun index =>
  if index = 3 then .finite 3
  else if index = 7 then .finite (if side = 0 then y else -y)
  else .finite 0

/-- An arm that points at the other one, with its tool 50 mm from the middle. -/
def facingPose (side : Side) : FkResult Extended where
  baseInBody := placed 4 side
  jointPre _ := placed 4 side
  linkPost _ := placed 4 side
  jointAxisBody _ := zeroPoint
  handTcp := placed (1 / 20) side

/-- Facing arms, whatever their joints, and inverse kinematics that stays. -/
def heldModel : GuardModel Extended where
  limits _ _ := some (.finite (-1), .finite 1)
  forward side _ := some (facingPose side)
  inverse _ _ seed := some { q := seed, positionErrorM := .finite 0, collisionChecked := false }
  meshes := nearClaws
  jsonNumber _ := ""
  toText _ := ""
  hypot3 x y z := Floating.sqrt (x * x + y * y + z * z)

/-- A convergence of the facing arms. -/
def heldInput (request : MoveRequest Extended) : GuardInput Extended where
  measuredQ _ _ := .finite 0
  request
  contactPolicy := contactTerminalCaps
  requireTerminalContact := true
  terminalRetreat := false
  preservedSide := -1

/-- The answer about the facing arms. -/
def heldAnswer : ScopedAnswer Extended :=
  heldModel.sceneAnswer contactTerminalCaps (facingPose 0) (facingPose 1)

theorem heldAnswer_clear :
    (heldAnswer.status = .ok ∧ heldAnswer.report.clear = true) ∧
      heldAnswer.evidence.terminalPairActive = true ∧
        heldAnswer.evidence.clawContactActive = true := by decide +kernel

/-- The facing arms rest, and nothing is out of reach. -/
theorem held_resting (request : MoveRequest Extended) :
    Resting heldModel (heldInput request) facingPose fun _ => True where
  forward _ _ := rfl
  holds _ _ _ _ := by
    have hexact : ¬ (Floating.lit 1.0e-5 : Extended) < .finite 0 := by decide +kernel
    exact ⟨_, rfl, rfl, rfl, rfl, hexact⟩
  fails _ _ _ hfar := absurd trivial hfar
  valid := by
    show ∀ side, heldModel.validateQ side (fun _ => .finite 0) (Floating.lit 0.0) = true ∧
      heldModel.validateQ side (fun _ => .finite 0) kMeasuredLimitTolerance = true
    decide +kernel
  still _ _ := by
    show Floating.abs ((.finite 0 : Extended) - .finite 0) ≤ Floating.lit 0.35
    decide +kernel
  clear := heldAnswer_clear.1
  contact _ := heldAnswer_clear.2
  stays := rfl

/-- Whatever is asked of them, they hold, and the hands are in the corridor. -/
theorem held_accepted {request : MoveRequest Extended}
    (hfinite : FiniteTarget (heldInput request)) :
    (validate heldModel (heldInput request)).accepted = true :=
  (held_resting request).accepted hfinite fun _ _ _ => trivial

/-- The left tool is asked to meet the other in the middle. -/
def meetRequest : MoveRequest Extended where
  side := 0
  target := ![.finite 3, .finite 0, .finite 0]
  motionLimitScale := .finite 1
  dual := false
  dualTarget _ := zeroPoint

theorem finite_meetRequest : FiniteTarget (heldInput meetRequest) := by
  show finite3 meetRequest.target = true
  decide

/-- The request is accepted, at the end of which the hands touch. -/
theorem guard_exact_held : (validate heldModel (heldInput meetRequest)).accepted = true ∧
    GuardExact heldModel (heldInput meetRequest) :=
  ⟨held_accepted finite_meetRequest, guard_exact (fun _ _ _ => ⟨rfl, rfl⟩) (heldInput meetRequest)⟩

/-- **Refusals.** -/
def GuardReports (A : GuardModel F) (input : GuardInput F) : Prop :=
  (validate A input).sampledKeepoutViolation = true →
    (validate A input).accepted = false ∧ ∃ n poses, RefusalProof A input (validate A input) n poses

theorem guard_reports (hM : A.meshes.Finite) (input : GuardInput F) : GuardReports A input := by
  intro hviolated
  obtain ⟨-, hno⟩ | ⟨base, hbase, hfailed | ⟨s, hswept, hresult⟩⟩ := validate_cases (A := A) input
  · exact absurd hviolated (by rw [hno]; simp)
  · obtain ⟨hno, hyes⟩ := sweep_failed hM hbase hfailed
    exact ⟨hno, hyes hviolated⟩
  · have hpending := sweepSamples_pending hswept (show Pending base base from ⟨rfl, rfl, rfl, rfl⟩)
    rw [hresult, (concludeSweep_kept s).1, hpending.violation, hbase.pending.2] at hviolated
    cases hviolated

end Sound

/-- Arms whose tools are as far to the left as their first joints say, and inverse
    kinematics that turns this joint only. -/
def reachingModel : GuardModel Extended :=
  { heldModel with
    forward := fun side q => some { facingPose side with
      handTcp := fun index =>
        if index = 3 then .finite 3 else if index = 7 then q 0 else .finite 0 }
    inverse := fun _ target seed => some {
      q := Function.update seed 0 (target 1)
      positionErrorM := .finite 0
      collisionChecked := false } }

/-- Two tools 400 mm apart, the left one asked to go far to the right. -/
def reachingInput : GuardInput Extended where
  measuredQ side joint :=
    if joint = 0 then .finite (if side = 0 then 1 / 5 else -1 / 5) else .finite 0
  request := { meetRequest with target := ![.finite 3, .finite (-24 / 5), .finite 0] }
  contactPolicy := contactNone
  requireTerminalContact := false
  terminalRetreat := false
  preservedSide := -1

/-- The measured sample is clear; at the next one the tools are too close. -/
theorem guard_reports_reaching :
    ((validate reachingModel reachingInput).sampledKeepoutViolation = true ∧
      (validate reachingModel reachingInput).failurePathFraction = fraction 1 ∧
        (validate reachingModel reachingInput).reason =
          "nominal arm-arm capsule clearance is not proven") ∧
      GuardReports reachingModel reachingInput :=
  ⟨by decide +kernel, guard_reports (fun _ _ _ => ⟨rfl, rfl⟩) reachingInput⟩

end OpenArm.Guard
