/-
  OpenArm.Guard.Sweep — what an accepted request was proved to be.

  The loop over the samples keeps a trace: the joints of every sample, each
  solved from the ones before, with the evaluator's answer about them.

  Main results:
    * `sweepSample_swept`  — one sample more.
    * `sweepSamples_swept` — all samples after the first.
-/
import OpenArm.Guard.Scene
import OpenArm.Model.RouteSound

namespace OpenArm.Guard

open OpenArm.Lib OpenArm.Control OpenArm.Model

variable {F : Type} [Metric F]

/-! ## §1. What a sweep is. -/

/-- The evaluator's answer for the joints of both arms. -/
def GuardModel.poseAnswer (A : GuardModel F) (policy : BitVec 32) (q : PairQ F) :
    Option (ScopedAnswer F) :=
  (A.forward 0 (q 0)).bind fun left => (A.forward 1 (q 1)).map (A.sceneAnswer policy left)

/-- One arm from one sample to the next: the inverse kinematics reaches the
    waypoint, within the limits, and no joint takes more than a branch step. -/
structure SideStep (A : GuardModel F) (input : GuardInput F) (measuredTcp : RoutePose F)
    (sample : Nat) (side : Side) (seed q : JointVector F) : Prop where
  solved : ∃ diagnostics,
    A.inverse side (sideWaypoint input measuredTcp (fraction sample) side) seed =
        some diagnostics ∧ diagnostics.q = q ∧ diagnostics.collisionChecked = false ∧
      Floating.isFinite diagnostics.positionErrorM = true ∧
      ¬ Floating.lit 1.0e-5 < diagnostics.positionErrorM
  bounded : A.validateQ side q (Floating.lit 0.0) = true
  near : ∀ joint, Floating.abs (q joint - seed joint) ≤ Floating.lit 0.35

/-- The smallest clearance of each sample. -/
def clearances (answers : Nat → ScopedAnswer F) (k : Nat) : F :=
  (answers k).report.minimumClearanceM

/-- The samples `0 .. n` of a retreat: the tools are in contact for the first
    `inside` of them, and come no closer. -/
structure Retreating (answers : Nat → ScopedAnswer F) (n inside : Nat) : Prop where
  starts : 0 < inside
  within : inside ≤ n + 1
  active : ∀ k ≤ n, (answers k).evidence.terminalPairActive = true ↔ k < inside
  holds : ∀ k, k + 1 < inside →
    ¬ (answers (k + 1)).evidence.terminalPairClearanceM <
      (answers k).evidence.terminalPairClearanceM - Floating.lit 1.0e-6

/-- The samples `0 .. n`, where the loop stands behind the last of them. -/
structure Swept (A : GuardModel F) (input : GuardInput F) (base : GuardResult F) (n : Nat)
    (s : Sweep F) (poses : Nat → PairQ F) (answers : Nat → ScopedAnswer F) : Prop where
  start : poses 0 = input.measuredQ
  last : s.q = poses n
  finite : ∀ k ≤ n, FinitePose (poses k)
  steps : ∀ k < n, ∀ side,
    SideStep A input base.measuredTcp (k + 1) side (poses k side) (poses (k + 1) side)
  answered : ∀ k ≤ n, A.poseAnswer input.contactPolicy (poses k) = some (answers k)
  ok : ∀ k ≤ n, (answers k).status = .ok
  clear : ∀ k ≤ n, (answers k).report.clear = true
  result : s.result = (if n + 1 = kSamples then noteContact (answers n).evidence else id)
    { base with minimumNominalClearanceM := runningMinimum (clearances answers) n }
  retreat : input.terminalRetreat = true → ∃ inside, Retreating answers n inside ∧
    s.retreatSawTerminal = true ∧ (s.retreatCleared = true ↔ inside ≤ n) ∧
      s.retreatPreviousClearance = (answers (inside - 1)).evidence.terminalPairClearanceM

/-! ## §2. One sample. -/

section Sample

variable {A : GuardModel F} {input : GuardInput F}

theorem validateQ_finite {side : Side} {q : JointVector F} {tolerance : F}
    (h : A.validateQ side q tolerance = true) (joint : Joint) :
    Floating.isFinite (q joint) = true := by
  have hjoint := List.all_eq_true.mp h joint (List.mem_finRange joint)
  simp only [Bool.and_eq_true] at hjoint
  exact hjoint.1

/-- The inverse kinematics of an accepted waypoint. -/
theorem inverse_ok {side : Side} {target : Vec3 F} {seed q : JointVector F}
    (h : inverse A side target seed = .ok q) :
    (∃ diagnostics, A.inverse side target seed = some diagnostics ∧ diagnostics.q = q ∧
      diagnostics.collisionChecked = false ∧
      Floating.isFinite diagnostics.positionErrorM = true ∧
      ¬ Floating.lit 1.0e-5 < diagnostics.positionErrorM) ∧
      A.validateQ side q (Floating.lit 0.0) = true := by
  unfold inverse at h
  split at h
  · cases h
  · next diagnostics hsome =>
    split at h
    · cases h
    · next hexact =>
      split at h
      · next hbounded =>
        obtain rfl := Except.ok.inj h
        simp only [Bool.or_eq_true, Bool.not_eq_true', decide_eq_true_eq, not_or,
          Bool.not_eq_false, Bool.not_eq_true] at hexact
        exact ⟨⟨diagnostics, hsome, rfl, hexact.1.1, hexact.1.2, hexact.2⟩, hbounded⟩
      · cases h

theorem judgeSample_ok {sample : Nat} {q : PairQ F} {s s' : Sweep F}
    (h : judgeSample A input sample q s = .ok s') :
    ∃ answer between, A.poseAnswer input.contactPolicy q = some answer ∧ answer.status = .ok ∧
      answer.report.clear = true ∧
      retreatRules input sample answer.evidence { s with
        q
        result := noteClearance answer.report.minimumClearanceM s.result } = .ok between ∧
      s' = { between with
        result := (if sample + 1 = kSamples then noteContact answer.evidence else id)
          between.result } := by
  unfold judgeSample at h
  split at h
  · next left right hleft hright =>
    dsimp only at h
    split at h
    · cases h
    · next hok =>
      split at h
      · cases h
      · next hclear =>
        split at h
        · cases h
        · next between hbetween =>
          refine ⟨_, between, ?_, not_not.mp hok, Bool.not_eq_false _ ▸ hclear, hbetween, ?_⟩
          · unfold GuardModel.poseAnswer
            rw [hleft, hright]
            rfl
          · split at h
            · next hlast =>
              rw [if_pos hlast, Except.ok.inj h]
            · next hmore =>
              rw [if_neg hmore, Except.ok.inj h]
              rfl
  · cases h

/-- The rules of a retreat change their own flags only. -/
theorem retreatRules_ok {sample : Nat} {contact : ContactEvidence F} {s s' : Sweep F}
    (h : retreatRules input sample contact s = .ok s') : s'.q = s.q ∧ s'.result = s.result := by
  unfold retreatRules at h
  split at h
  · split at h
    · cases h
    · split at h
      · split at h
        · cases h
        · obtain rfl := Except.ok.inj h
          exact ⟨rfl, rfl⟩
      · split at h
        · obtain rfl := Except.ok.inj h
          exact ⟨rfl, rfl⟩
        · obtain rfl := Except.ok.inj h
          exact ⟨rfl, rfl⟩
  · obtain rfl := Except.ok.inj h
    exact ⟨rfl, rfl⟩

/-- The first sample of a retreat is in contact. -/
theorem retreatRules_first {contact : ContactEvidence F} {s s' : Sweep F}
    (hretreat : input.terminalRetreat = true) (hsaw : s.retreatSawTerminal = false)
    (hcleared : s.retreatCleared = false) (h : retreatRules input 0 contact s = .ok s') :
    contact.terminalPairActive = true ∧ s'.retreatSawTerminal = true ∧
      s'.retreatCleared = false ∧ s'.retreatPreviousClearance = contact.terminalPairClearanceM := by
  unfold retreatRules at h
  rw [if_pos hretreat] at h
  split at h
  · cases h
  · next hstart =>
    have hactive : contact.terminalPairActive = true := by
      by_contra hnot
      exact hstart ⟨rfl, Bool.eq_false_of_not_eq_true hnot⟩
    rw [if_pos hactive, if_neg (by simp [hsaw, hcleared])] at h
    obtain rfl := Except.ok.inj h
    exact ⟨hactive, rfl, hcleared, rfl⟩

/-- A later sample is still in contact, and not deeper, or out of it for good. -/
theorem retreatRules_next {sample : Nat} {contact : ContactEvidence F} {s s' : Sweep F}
    (hretreat : input.terminalRetreat = true) (hsample : sample ≠ 0)
    (hsaw : s.retreatSawTerminal = true) (h : retreatRules input sample contact s = .ok s') :
    s'.retreatSawTerminal = true ∧
      ((contact.terminalPairActive = true ∧ s.retreatCleared = false ∧
          ¬ contact.terminalPairClearanceM < s.retreatPreviousClearance - Floating.lit 1.0e-6 ∧
          s'.retreatCleared = false ∧
          s'.retreatPreviousClearance = contact.terminalPairClearanceM) ∨
        (contact.terminalPairActive = false ∧ s'.retreatCleared = true ∧
          s'.retreatPreviousClearance = s.retreatPreviousClearance)) := by
  unfold retreatRules at h
  rw [if_pos hretreat, if_neg (by simp [hsample])] at h
  split at h
  · next hactive =>
    split at h
    · cases h
    · next hdeeper =>
      obtain rfl := Except.ok.inj h
      rw [not_or] at hdeeper
      have hcleared := Bool.eq_false_of_not_eq_true hdeeper.1
      exact ⟨rfl, Or.inl ⟨hactive, hcleared, fun hless => hdeeper.2 ⟨hsaw, hless⟩, hcleared, rfl⟩⟩
  · next hactive =>
    obtain rfl := Except.ok.inj h
    exact ⟨hsaw, Or.inr ⟨Bool.eq_false_of_not_eq_true hactive, rfl, rfl⟩⟩

theorem retreatRules_error {sample : Nat} {contact : ContactEvidence F} {s : Sweep F}
    {failed : GuardResult F} (h : retreatRules input sample contact s = .error failed) :
    failed.accepted = s.result.accepted ∧
      failed.sampledKeepoutViolation = s.result.sampledKeepoutViolation ∧
      failed.measuredTcp = s.result.measuredTcp := by
  unfold retreatRules at h
  split at h
  · split at h
    · obtain rfl := Except.error.inj h
      exact ⟨rfl, rfl, rfl⟩
    · split at h
      · split at h
        · obtain rfl := Except.error.inj h
          exact ⟨rfl, rfl, rfl⟩
        · cases h
      · split at h
        · cases h
        · cases h
  · cases h

/-- What the evaluator answers for the pose of a sample is not clear, and the
    reason says so. -/
def Refused (A : GuardModel F) (policy : BitVec 32) (q : PairQ F) (reason : String) : Prop :=
  ∃ left right, A.forward 0 (q 0) = some left ∧ A.forward 1 (q 1) = some right ∧
    let answer := A.sceneAnswer policy left right
    (answer.status ≠ .ok ∧ reason = nonfiniteReason) ∨
      answer.status = .ok ∧ answer.report.clear = false ∧ reason = keepoutReason A answer.report

/-- Where the loop gives up at a sample, a violation it reports is there. -/
theorem judgeSample_error {sample : Nat} {q : PairQ F} {s : Sweep F} {failed : GuardResult F}
    (h : judgeSample A input sample q s = .error failed)
    (hbefore : s.result.accepted = false ∧ s.result.sampledKeepoutViolation = false) :
    failed.accepted = false ∧ failed.measuredTcp = s.result.measuredTcp ∧
      (failed.sampledKeepoutViolation = true → failed.failurePathFraction = fraction sample ∧
        Refused A input.contactPolicy q failed.reason) := by
  unfold judgeSample at h
  split at h
  · next left right hleft hright =>
    dsimp only at h
    split at h
    · next hstatus =>
      obtain rfl := Except.error.inj h
      exact ⟨hbefore.1, rfl, fun _ => ⟨rfl, left, right, hleft, hright, Or.inl ⟨hstatus, rfl⟩⟩⟩
    · next hstatus =>
      split at h
      · next hunclear =>
        obtain rfl := Except.error.inj h
        exact ⟨hbefore.1, rfl, fun _ => ⟨rfl, left, right, hleft, hright,
          Or.inr ⟨not_not.mp hstatus, hunclear, rfl⟩⟩⟩
      · split at h
        · next hrules =>
          obtain rfl := Except.error.inj h
          obtain ⟨haccepted, hviolation, htools⟩ := retreatRules_error hrules
          refine ⟨haccepted.trans hbefore.1, htools, fun hyes => ?_⟩
          have hno := hviolation.symm.trans hyes
          exact absurd (hbefore.2.symm.trans hno) (by simp)
        · split at h
          · cases h
          · cases h
  · obtain rfl := Except.error.inj h
    exact ⟨hbefore.1, rfl, fun hyes => absurd (hbefore.2.symm.trans hyes) (by simp)⟩

/-- Where the loop stands, what was measured, asked for and decided is as it was. -/
structure Pending (base result : GuardResult F) : Prop where
  accepted : result.accepted = base.accepted
  violation : result.sampledKeepoutViolation = base.sampledKeepoutViolation
  measured : result.measuredTcp = base.measuredTcp
  commanded : result.commandedTcp = base.commandedTcp

theorem judgeSample_pending {base : GuardResult F} {sample : Nat} {q : PairQ F} {s s' : Sweep F}
    (h : judgeSample A input sample q s = .ok s') (hs : Pending base s.result) :
    Pending base s'.result ∧ s'.q = q := by
  obtain ⟨answer, between, -, -, -, hrules, rfl⟩ := judgeSample_ok h
  obtain ⟨hq, hresult⟩ := retreatRules_ok hrules
  refine ⟨?_, hq⟩
  have hbetween : Pending base between.result := by
    rw [hresult]
    exact ⟨hs.accepted, hs.violation, hs.measured, hs.commanded⟩
  dsimp only
  split
  · exact ⟨hbetween.accepted, hbetween.violation, hbetween.measured, hbetween.commanded⟩
  · exact hbetween

theorem sweepSample_pending {base : GuardResult F} {sample : Nat} {s s' : Sweep F}
    (h : sweepSample A input sample s = .ok s') (hs : Pending base s.result) :
    Pending base s'.result := by
  unfold sweepSample at h
  split at h
  · exact (judgeSample_pending h hs).1
  · split at h
    · cases h
    · exact (judgeSample_pending h hs).1

theorem sweepSamples_pending {base : GuardResult F} {samples : List Nat} {s s' : Sweep F}
    (h : sweepSamples A input samples s = .ok s') (hs : Pending base s.result) :
    Pending base s'.result := by
  induction samples generalizing s with
  | nil =>
    obtain rfl := Except.ok.inj h
    exact hs
  | cons sample samples ih =>
    unfold sweepSamples at h
    split at h
    · cases h
    · next next hnext => exact ih h (sweepSample_pending hnext hs)

/-- Where the loop fails, nothing is accepted, and a violation it reports is that
    of some pose. -/
theorem sweepSamples_error {samples : List Nat} {s : Sweep F} {failed : GuardResult F}
    (h : sweepSamples A input samples s = .error failed)
    (hbefore : s.result.accepted = false ∧ s.result.sampledKeepoutViolation = false) :
    failed.accepted = false ∧ failed.measuredTcp = s.result.measuredTcp ∧
      (failed.sampledKeepoutViolation = true →
        ∃ q, Refused A input.contactPolicy q failed.reason) := by
  induction samples generalizing s with
  | nil => cases h
  | cons sample samples ih =>
    unfold sweepSamples at h
    split at h
    · next hfailed =>
      obtain rfl := Except.error.inj h
      unfold sweepSample at hfailed
      split at hfailed
      · obtain ⟨hno, htools, hyes⟩ := judgeSample_error hfailed hbefore
        exact ⟨hno, htools, fun hviolated => ⟨_, (hyes hviolated).2⟩⟩
      · split at hfailed
        · obtain rfl := Except.error.inj hfailed
          exact ⟨hbefore.1, rfl, fun hyes => absurd (hbefore.2.symm.trans hyes) (by simp)⟩
        · obtain ⟨hno, htools, hyes⟩ := judgeSample_error hfailed hbefore
          exact ⟨hno, htools, fun hviolated => ⟨_, (hyes hviolated).2⟩⟩
    · next next hnext =>
      have hpending := sweepSample_pending hnext ⟨rfl, rfl, rfl, rfl⟩
      obtain ⟨hno, htools, hyes⟩ :=
        ih h ⟨hpending.accepted.trans hbefore.1, hpending.violation.trans hbefore.2⟩
      exact ⟨hno, htools.trans hpending.measured, hyes⟩

end Sample

section Order

variable [InfinityOrder F] {A : GuardModel F} {input : GuardInput F} {base : GuardResult F}

/-- One arm's turn of the loop. -/
theorem solveSide_ok {measuredTcp : RoutePose F} {sample : Nat} {side : Side}
    {seed q : JointVector F} (hseed : ∀ joint, Floating.isFinite (seed joint) = true)
    (h : solveSide A input measuredTcp (fraction sample) side seed = .ok q) :
    SideStep A input measuredTcp sample side seed q := by
  unfold solveSide at h
  split at h
  · cases h
  · next next hnext =>
    split at h
    · cases h
    · next hbranch =>
      obtain rfl := Except.ok.inj h
      obtain ⟨hsolved, hbounded⟩ := inverse_ok hnext
      refine ⟨hsolved, hbounded, fun joint => ?_⟩
      have hwithin : ¬ Floating.lit 0.35 < Floating.abs (next joint - seed joint) := by
        intro hover
        exact hbranch (List.any_eq_true.mpr ⟨joint, List.mem_finRange joint, decide_eq_true hover⟩)
      exact Floating.le_of_not_lt
        (FloatOrder.le_self_of_isFinite (FloatOrder.isFinite_lit (by norm_num) (by norm_num)))
        (FloatOrder.abs_sub_self (validateQ_finite hbounded joint) (hseed joint)) hwithin

theorem solvePair_ok {measuredTcp : RoutePose F} {sample : Nat} {q q' : PairQ F}
    (hq : FinitePose q) (h : solvePair A input measuredTcp (fraction sample) q = .ok q')
    (side : Side) : SideStep A input measuredTcp sample side (q side) (q' side) := by
  unfold solvePair at h
  split at h
  · cases h
  · next left hleft =>
    split at h
    · cases h
    · next right hright =>
      obtain rfl := Except.ok.inj h
      revert side
      rw [Fin.forall_fin_two]
      exact ⟨solveSide_ok (hq 0) hleft, solveSide_ok (hq 1) hright⟩

/-- A clear answer has a minimum that is a number. -/
theorem poseAnswer_clear (hM : A.meshes.Finite) {policy : BitVec 32} {q : PairQ F}
    {answer : ScopedAnswer F} (hpose : A.poseAnswer policy q = some answer)
    (hok : answer.status = .ok) (hclear : answer.report.clear = true) :
    ∃ left right, A.forward 0 (q 0) = some left ∧ A.forward 1 (q 1) = some right ∧
      ClearScene A.meshes (sceneFromFk left right) policy left.handTcp right.handTcp answer := by
  obtain ⟨left, hleft, hright⟩ := Option.bind_eq_some_iff.mp hpose
  obtain ⟨right, hright, hanswer⟩ := Option.map_eq_some_iff.mp hright
  exact ⟨left, right, hleft, hright, clear_scene hM hanswer hok hclear⟩

/-- **Why a sample is refused**: the evaluator does not answer for its pose, or it
    finds something too close, and the reason says which. -/
def Violated (A : GuardModel F) (policy : BitVec 32) (q : PairQ F) (reason : String) : Prop :=
  ∃ left right, A.forward 0 (q 0) = some left ∧ A.forward 1 (q 1) = some right ∧
    let answer := A.sceneAnswer policy left right
    (¬ Answered A.meshes (sceneFromFk left right) policy left.handTcp right.handTcp ∧
        reason = nonfiniteReason) ∨
      Answered A.meshes (sceneFromFk left right) policy left.handTcp right.handTcp ∧
        TooClose A.meshes (sceneFromFk left right) policy left.handTcp right.handTcp
          answer.report ∧ reason = keepoutReason A answer.report

theorem Refused.violated (hM : A.meshes.Finite) {policy : BitVec 32} {q : PairQ F}
    {reason : String} (h : Refused A policy q reason) : Violated A policy q reason := by
  obtain ⟨left, right, hleft, hright, hrefused⟩ := h
  have hanswered : (A.sceneAnswer policy left right).status = .ok ↔ Answered A.meshes
      (sceneFromFk left right) policy left.handTcp right.handTcp := answered_iff rfl (Nat.le_refl _)
  refine ⟨left, right, hleft, hright, ?_⟩
  rcases hrefused with ⟨hstatus, hreason⟩ | ⟨hok, hunclear, hreason⟩
  · exact Or.inl ⟨fun hall => hstatus (hanswered.mpr hall), hreason⟩
  · exact Or.inr ⟨hanswered.mp hok, unclear_scene hM rfl hok hunclear, hreason⟩

end Order

/-! ## §3. The samples so far. -/

section Run

variable [InfinityOrder F] {A : GuardModel F} {input : GuardInput F} {base : GuardResult F}

/-- No minimum is larger than the one the loop begins with. -/
theorem noteClearance_infinity {clearance : F} (h : clearance ≤ clearance)
    (hbase : base.minimumNominalClearanceM = Floating.infinity) :
    noteClearance clearance base = { base with minimumNominalClearanceM := clearance } := by
  have hmin : (if clearance < Floating.infinity then clearance else Floating.infinity) =
      clearance := by
    split
    · rfl
    · next hnot =>
      have hself := FloatOrder.le_self_right (InfinityOrder.le_infinity h)
      exact (InfinityOrder.eq_infinity (Floating.le_of_not_lt h hself hnot)).symm
  unfold noteClearance
  rw [hbase, hmin]

/-- The measured joints are the first sample. -/
theorem swept_start (hM : A.meshes.Finite) (hfinite : FinitePose input.measuredQ)
    (hbase : base.minimumNominalClearanceM = Floating.infinity) {s : Sweep F}
    (h : sweepSample A input 0 (beginSweep input base) = .ok s) :
    ∃ answers, Swept A input base 0 s (fun _ => input.measuredQ) answers := by
  unfold sweepSample at h
  rw [if_pos rfl] at h
  obtain ⟨answer, between, hpose, hok, hclear, hrules, rfl⟩ := judgeSample_ok h
  obtain ⟨left, right, -, -, hscene⟩ := poseAnswer_clear hM hpose hok hclear
  have hnoted : noteClearance answer.report.minimumClearanceM base =
      { base with minimumNominalClearanceM := answer.report.minimumClearanceM } :=
    noteClearance_infinity (FloatOrder.le_self_right hscene.least) hbase
  obtain ⟨hq, hresult⟩ := retreatRules_ok hrules
  refine ⟨fun _ => answer, rfl, hq, fun k hk => hfinite, fun k hk => absurd hk (by omega),
    fun k hk => hpose, fun k hk => hok, fun k hk => hclear, ?_, fun hretreat => ?_⟩
  · show (if 0 + 1 = kSamples then noteContact answer.evidence else id) between.result = _
    rw [hresult]
    exact congrArg _ hnoted
  · obtain ⟨hactive, hsaw, hcleared, hprevious⟩ := retreatRules_first hretreat rfl rfl hrules
    refine ⟨1, ⟨by omega, by omega, fun k hk => ?_, fun k hk => absurd hk (by omega)⟩, hsaw, ?_,
      hprevious⟩
    · exact ⟨fun _ => by omega, fun _ => hactive⟩
    · show between.retreatCleared = true ↔ _
      rw [hcleared]
      simp

omit [InfinityOrder F] in
/-- What a sample adds to the rules of a retreat. -/
theorem retreating_next {answers : Nat → ScopedAnswer F} {answer : ScopedAnswer F} {n inside : Nat}
    {s s' : Sweep F} (hrules : retreatRules input (n + 1) answer.evidence s = .ok s')
    (hretreat : input.terminalRetreat = true) (h : Retreating answers n inside)
    (hsaw : s.retreatSawTerminal = true)
    (hcleared : s.retreatCleared = true ↔ inside ≤ n)
    (hprevious : s.retreatPreviousClearance =
      (answers (inside - 1)).evidence.terminalPairClearanceM) :
    ∃ inside', Retreating (Function.update answers (n + 1) answer) (n + 1) inside' ∧
      s'.retreatSawTerminal = true ∧ (s'.retreatCleared = true ↔ inside' ≤ n + 1) ∧
      s'.retreatPreviousClearance = (Function.update answers (n + 1) answer
        (inside' - 1)).evidence.terminalPairClearanceM := by
  have hstarts := h.starts
  have hwithin := h.within
  have hold : ∀ k ≤ n, Function.update answers (n + 1) answer k = answers k :=
    fun k hk => Function.update_of_ne (by omega) _ _
  have hnew : Function.update answers (n + 1) answer (n + 1) = answer := Function.update_self ..
  obtain ⟨hsaw', hcases⟩ := retreatRules_next hretreat (by omega) hsaw hrules
  obtain ⟨hactive, hnot, hdeeper, hstays, hprevious'⟩ | ⟨hactive, hgone, hprevious'⟩ := hcases
  · -- Still in contact: the samples before were all of them in contact.
    have hinside : inside = n + 1 := by
      have hbefore : ¬ inside ≤ n := fun hle => by
        rw [hcleared.mpr hle] at hnot
        cases hnot
      omega
    subst hinside
    refine ⟨n + 2, ⟨by omega, by omega, fun k hk => ?_, fun k hk => ?_⟩, hsaw', ?_, ?_⟩
    · by_cases hlast : k = n + 1
      · subst hlast
        rw [hnew, hactive]
        simp
      · rw [hold k (by omega), h.active k (by omega)]
        omega
    · by_cases hlast : k = n
      · subst hlast
        rw [hnew, hold k (by omega)]
        rwa [hprevious] at hdeeper
      · rw [hold (k + 1) (by omega), hold k (by omega)]
        exact h.holds k (by omega)
    · rw [hstays]
      simp
    · rw [hprevious']
      show _ = (Function.update answers (n + 1) answer (n + 1)).evidence.terminalPairClearanceM
      rw [hnew]
  · -- Out of it, now or before.
    refine ⟨inside, ⟨hstarts, by omega, fun k hk => ?_, fun k hk => ?_⟩, hsaw', ?_, ?_⟩
    · by_cases hlast : k = n + 1
      · subst hlast
        rw [hnew, hactive]
        simp only [Bool.false_eq_true, false_iff]
        omega
      · rw [hold k (by omega), h.active k (by omega)]
    · rw [hold (k + 1) (by omega), hold k (by omega)]
      exact h.holds k hk
    · rw [hgone]
      simp only [true_iff]
      exact hwithin
    · rw [hprevious', hprevious, hold (inside - 1) (by omega)]

/-- **One sample more**: it is solved from the last one and is clear as well. -/
theorem sweepSample_swept {n : Nat} {s s' : Sweep F} {poses : Nat → PairQ F}
    {answers : Nat → ScopedAnswer F} (hn : n + 1 < kSamples)
    (h : Swept A input base n s poses answers)
    (hnext : sweepSample A input (n + 1) s = .ok s') :
    ∃ q answer, Swept A input base (n + 1) s' (Function.update poses (n + 1) q)
      (Function.update answers (n + 1) answer) := by
  have hresult := h.result
  rw [if_neg (by omega)] at hresult
  unfold sweepSample at hnext
  rw [if_neg (by omega)] at hnext
  split at hnext
  · cases hnext
  · next q hq =>
    rw [hresult, h.last] at hq
    have hsteps := solvePair_ok (h.finite n (Nat.le_refl n)) hq
    obtain ⟨answer, between, hpose, hok, hclear, hrules, rfl⟩ := judgeSample_ok hnext
    obtain ⟨hlast, hbetween⟩ := retreatRules_ok hrules
    -- the earlier samples stand as they were; each part is the old one or the new sample's
    have hposes : ∀ k ≤ n, Function.update poses (n + 1) q k = poses k :=
      fun k hk => Function.update_of_ne (by omega) _ _
    have hanswers : ∀ k ≤ n, Function.update answers (n + 1) answer k = answers k :=
      fun k hk => Function.update_of_ne (by omega) _ _
    have hposeNew : Function.update poses (n + 1) q (n + 1) = q := Function.update_self ..
    have hanswerNew : Function.update answers (n + 1) answer (n + 1) = answer :=
      Function.update_self ..
    refine ⟨q, answer, ?_, ?_, fun k hk => ?_, fun k hk side => ?_, fun k hk => ?_,
      fun k hk => ?_, fun k hk => ?_, ?_, fun hretreat => ?_⟩
    · rw [hposes 0 (by omega)]
      exact h.start
    · rw [hposeNew]
      exact hlast
    · by_cases hk' : k = n + 1
      · rw [hk', hposeNew]
        exact fun side joint => validateQ_finite (hsteps side).bounded joint
      · rw [hposes k (by omega)]
        exact h.finite k (by omega)
    · by_cases hk' : k = n
      · rw [hk', hposeNew, hposes n (by omega)]
        exact hsteps side
      · rw [hposes (k + 1) (by omega), hposes k (by omega)]
        exact h.steps k (by omega) side
    · by_cases hk' : k = n + 1
      · rw [hk', hposeNew, hanswerNew]
        exact hpose
      · rw [hposes k (by omega), hanswers k (by omega)]
        exact h.answered k (by omega)
    · by_cases hk' : k = n + 1
      · rw [hk', hanswerNew]
        exact hok
      · rw [hanswers k (by omega)]
        exact h.ok k (by omega)
    · by_cases hk' : k = n + 1
      · rw [hk', hanswerNew]
        exact hclear
      · rw [hanswers k (by omega)]
        exact h.clear k (by omega)
    · -- the minimum so far, then this sample's clearance
      have hkept : runningMinimum (clearances (Function.update answers (n + 1) answer)) n =
          runningMinimum (clearances answers) n :=
        runningMinimum_congr fun k hk => congrArg (fun a => a.report.minimumClearanceM)
          (hanswers k hk)
      have hnoted : noteClearance answer.report.minimumClearanceM s.result =
          { base with
            minimumNominalClearanceM :=
              runningMinimum (clearances (Function.update answers (n + 1) answer)) (n + 1) } := by
        show _ = { base with
          minimumNominalClearanceM :=
            Floating.min (runningMinimum (clearances (Function.update answers (n + 1) answer)) n)
              (clearances (Function.update answers (n + 1) answer) (n + 1)) }
        rw [hkept, hresult]
        unfold clearances
        rw [hanswerNew]
        rfl
      rw [hanswerNew]
      show (if n + 1 + 1 = kSamples then noteContact answer.evidence else id) between.result = _
      rw [hbetween, ← hnoted]
    · obtain ⟨inside, hinside, hsaw, hcleared, hprevious⟩ := h.retreat hretreat
      have hgone := retreating_next hrules hretreat hinside hsaw hcleared hprevious
      exact hgone

/-- **All samples after the first.** -/
theorem sweepSamples_swept {n m : Nat} {s s' : Sweep F} {poses : Nat → PairQ F}
    {answers : Nat → ScopedAnswer F} (hm : n + m < kSamples)
    (h : Swept A input base n s poses answers)
    (hrun : sweepSamples A input (List.range' (n + 1) m) s = .ok s') :
    ∃ poses answers, Swept A input base (n + m) s' poses answers := by
  induction m generalizing n s poses answers with
  | zero =>
    obtain rfl := Except.ok.inj hrun
    exact ⟨poses, answers, h⟩
  | succ m ih =>
    rw [List.range'_succ] at hrun
    unfold sweepSamples at hrun
    split at hrun
    · cases hrun
    · next next hnext =>
      obtain ⟨q, answer, hswept⟩ := sweepSample_swept (by omega) h hnext
      have hall := ih (by omega) hswept hrun
      rwa [show n + 1 + m = n + (m + 1) by omega] at hall

end Run

end OpenArm.Guard
