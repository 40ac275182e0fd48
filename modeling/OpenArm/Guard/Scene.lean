/-
  OpenArm.Guard.Scene — what a clear answer of the evaluator means to the guard.

  `scene_clear` asks the scoped evaluator with both hand poses.  Where the
  answer is clear every pair keeps the required clearance but the one the
  contact policy leaves out, and the evidence says which gaps it was left out
  for.  Where it is not, the report names a pair that is too close.

  Main results:
    * `clear_scene`   — the pairs, the gaps and the reported minimum.
    * `unclear_scene` — what is too close.
    * `answered_iff`  — what is answered at all.
-/
import OpenArm.Guard.Validate

namespace OpenArm.Guard

open OpenArm.Lib OpenArm.Control OpenArm.Model

variable {F : Type} [Metric F]

/-! ## §1. The evidence. -/

section Evidence

variable {scene : CollisionScene F} {required : F} {policy : BitVec 32}
  {gaps : Option (ClawGaps F)}

/-- The gaps of the meshes stay what they were. -/
structure SameGaps (a b : ContactEvidence F) : Prop where
  hand : a.clawHandGapM = b.clawHandGapM
  other : a.minimumOtherClawGapM = b.minimumOtherClawGapM
  contact : a.clawContactActive = b.clawContactActive

/-- The loops touch no gap, and mark the tools only for a pair left out. -/
theorem foldl_evidence (scene : CollisionScene F) (required : F) (policy : BitVec 32)
    (gaps : Option (ClawGaps F)) (pairs : List Pair) (state : Scoped F) :
    SameGaps (pairs.foldl (countPair scene required policy gaps) state).evidence state.evidence ∧
      ((pairs.foldl (countPair scene required policy gaps) state).evidence.terminalPairActive =
          true → state.evidence.terminalPairActive = true ∨
        ∃ pair, (allowedTerminal scene required policy gaps pair).isSome = true) := by
  induction pairs generalizing state with
  | nil => exact ⟨⟨rfl, rfl, rfl⟩, Or.inl⟩
  | cons pair pairs ih =>
    obtain ⟨hgaps, hactive⟩ := ih (countPair scene required policy gaps state pair)
    rw [List.foldl_cons]
    have hone : SameGaps (countPair scene required policy gaps state pair).evidence
        state.evidence := by
      unfold countPair
      split
      · exact ⟨rfl, rfl, rfl⟩
      · exact ⟨rfl, rfl, rfl⟩
    refine ⟨⟨hgaps.hand.trans hone.hand, hgaps.other.trans hone.other,
      hgaps.contact.trans hone.contact⟩, fun h => ?_⟩
    by_cases hallowed : (allowedTerminal scene required policy gaps pair).isSome = true
    · exact Or.inr ⟨pair, hallowed⟩
    · refine (hactive h).imp_left fun hbefore => ?_
      have hnone := Option.not_isSome_iff_eq_none.mp hallowed
      unfold countPair at hbefore
      rw [hnone] at hbefore
      exact hbefore

end Evidence

/-! ## §2. Answered requests. -/

/-- The gaps a call with these hands works with. -/
def handGaps (M : ClawMeshes F) (policy : BitVec 32) (left right : Transform F) :
    Option (ClawGaps F) :=
  if policy = contactTerminalCaps then gapsOf M (some (left, right)) else none

/-- A scene of this version is evaluated where all its coordinates are finite. -/
theorem checkScene_ok {scene : CollisionScene F}
    (hversion : scene.abiVersion = collisionAbiVersion)
    (hsize : sizeofCollisionScene ≤ scene.structSize) {required : F} :
    checkScene (some scene) required = .ok scene ↔ scene.firstNonfinite = none := by
  unfold checkScene
  dsimp only
  rw [if_neg (by simp [hversion, Nat.not_lt.mpr hsize])]
  cases scene.firstNonfinite with
  | some place => simp
  | none => simp

/-- The required clearance is a clearance. -/
theorem badThreshold_required [FloatOrder F] : badThreshold (requiredClearanceM : F) = false := by
  have hfinite : Floating.isFinite (requiredClearanceM : F) = true :=
    FloatOrder.isFinite_lit (by norm_num) (by norm_num)
  have hpositive : ¬ (requiredClearanceM : F) < Floating.lit 0.0 := fun h =>
    Floating.not_le_of_lt h (FloatOrder.lit_le_lit (by norm_num))
  unfold badThreshold
  simp [hfinite, hpositive]

/-- Under no contact policy a scene is clear where all pairs keep the required
    clearance. -/
theorem clear_of_kept [FloatOrder F] {M : ClawMeshes F} {scene : CollisionScene F}
    (hversion : scene.abiVersion = collisionAbiVersion)
    (hsize : sizeofCollisionScene ≤ scene.structSize) (hfinite : scene.firstNonfinite = none)
    (hkept : ∀ pair, tooSmall requiredClearanceM (scene.clearance pair) = false)
    {left right : Transform F} {answer : ScopedAnswer F}
    (hanswer : collisionEvaluateScopedImpl M (some scene) requiredClearanceM contactNone
      (some left) (some right) = answer) :
    answer.status = .ok ∧ answer.report.clear = true := by
  subst hanswer
  have hevaluated : collisionEvaluateScopedImpl M (some scene) requiredClearanceM contactNone
      (some left) (some right) = evaluateScene scene requiredClearanceM contactNone none := by
    unfold collisionEvaluateScopedImpl
    dsimp only
    rw [badThreshold_required, (checkScene_ok hversion hsize).mpr hfinite, if_neg (by decide)]
    dsimp only
    rw [if_neg (by decide)]
  rw [hevaluated]
  refine ⟨rfl, evaluateScene_clear.mpr ?_⟩
  unfold finalTally
  rw [foldl_countPair, counted_none, Tally.all_key]
  · rfl
  · intro entry hentry
    rw [mem_entries.mp hentry]
    exact hkept entry.1

section Order

/-- An answered request evaluated the scene, with finite gaps where it used any. -/
theorem answered_evaluates {M : ClawMeshes F} {scene : CollisionScene F} {required : F}
    {policy : BitVec 32} {left right : Transform F}
    (hok : (collisionEvaluateScopedImpl M (some scene) required policy (some left)
      (some right)).status = .ok) :
    Floating.isFinite required = true ∧
      (policy = contactNone ∨ policy = contactTerminalCaps) ∧
      collisionEvaluateScopedImpl M (some scene) required policy (some left) (some right) =
        evaluateScene scene required policy (handGaps M policy left right) ∧
      (policy = contactTerminalCaps → (M.evidence left right).1 = .ok) := by
  by_cases hcaps : policy = contactTerminalCaps
  · subst hcaps
    have hhands : (collisionEvaluateScopedImpl M (some scene) required contactTerminalCaps
        ((some (left, right)).map Prod.fst) ((some (left, right)).map Prod.snd)).status = .ok := hok
    obtain ⟨hfinite, hanswer, hevidence⟩ := caps_answer hhands
    refine ⟨hfinite, Or.inr rfl, ?_, fun _ => hevidence (left, right) rfl⟩
    unfold handGaps
    rw [if_pos rfl]
    exact hanswer
  · unfold collisionEvaluateScopedImpl at hok ⊢
    dsimp only at hok ⊢
    by_cases hbad : (badThreshold required ||
        (policy != contactNone && policy != contactTerminalCaps)) = true
    · rw [if_pos hbad] at hok
      cases hok
    · rw [if_neg hbad] at hok ⊢
      simp only [Bool.or_eq_true, not_or, Bool.not_eq_true] at hbad
      have hfinite : Floating.isFinite required = true := by
        have hgood := hbad.1
        unfold badThreshold at hgood
        simp only [Bool.or_eq_false_iff, Bool.not_eq_false'] at hgood
        exact hgood.1
      have hnone : policy = contactNone := by
        by_contra hother
        have hboth := hbad.2
        simp [hcaps, hother] at hboth
      cases hchecked : checkScene (some scene) required with
      | error answer =>
        rw [hchecked] at hok
        exact absurd hok (checkScene_error hchecked)
      | ok checked =>
        rw [hchecked] at hok
        obtain rfl := checkScene_some hchecked
        refine ⟨hfinite, Or.inl hnone, ?_, fun h => absurd h hcaps⟩
        simp only [if_neg hcaps, handGaps]

/-! ## §3. Clear scenes. -/

/-- **What a clear answer means**: every pair keeps the required clearance,
    unless the policy exempts it, and so does the reported minimum; tools are
    marked under the terminal policy only, with the hand gap in its corridor. -/
structure ClearScene (M : ClawMeshes F) (scene : CollisionScene F) (policy : BitVec 32)
    (left right : Transform F) (answer : ScopedAnswer F) : Prop where
  known : policy = contactNone ∨ policy = contactTerminalCaps
  kept : ∀ pair, ¬ (policy = contactTerminalCaps ∧
      Exempted scene requiredClearanceM (gapsOf M (some (left, right))) pair) →
    requiredClearanceM ≤ scene.clearance pair
  least : requiredClearanceM ≤ answer.report.minimumClearanceM
  other : policy = contactTerminalCaps →
    requiredClearanceM ≤ answer.evidence.minimumOtherClawGapM
  active : answer.evidence.terminalPairActive = true → policy = contactTerminalCaps ∧
    kClawRailClearance - maximumRailEnvelopeIntrusionM ≤ answer.evidence.clawHandGapM
  contact : answer.evidence.clawContactActive = true →
    answer.evidence.clawHandGapM ≤ kClawRailClearance

omit [Metric F] in
/-- Under the terminal contact policy the gaps are those of the hands. -/
theorem handGaps_caps {M : ClawMeshes F} {policy : BitVec 32} {left right : Transform F}
    (hcaps : policy = contactTerminalCaps) :
    handGaps M policy left right = gapsOf M (some (left, right)) := by
  unfold handGaps
  rw [if_pos hcaps]

/-- The gaps of an answered request are finite. -/
theorem handGaps_finite {M : ClawMeshes F} (hM : M.Finite) {policy : BitVec 32}
    {left right : Transform F}
    (hevidence : policy = contactTerminalCaps → (M.evidence left right).1 = .ok)
    {known : ClawGaps F} (hknown : handGaps M policy left right = some known) :
    Floating.isFinite known.other = true := by
  unfold handGaps at hknown
  split at hknown
  · next hcaps =>
    obtain ⟨pose, hpose, rfl⟩ := Option.map_eq_some_iff.mp hknown
    obtain rfl := Option.some.inj hpose
    exact (hM _ _ (hevidence hcaps)).2
  · cases hknown

/-- So are the gaps that exempt a pair. -/
theorem exempted_handGaps {M : ClawMeshes F} {scene : CollisionScene F} {required : F}
    {policy : BitVec 32} {left right : Transform F} {pair : Pair} :
    (policy = contactTerminalCaps ∧
        Exempted scene required (handGaps M policy left right) pair) ↔
      policy = contactTerminalCaps ∧
        Exempted scene required (gapsOf M (some (left, right))) pair := by
  refine and_congr_right fun hcaps => ?_
  rw [handGaps_caps hcaps]

variable [InfinityOrder F]

theorem clear_scene {M : ClawMeshes F} (hM : M.Finite) {scene : CollisionScene F}
    {policy : BitVec 32} {left right : Transform F} {answer : ScopedAnswer F}
    (hanswer : collisionEvaluateScopedImpl M (some scene) requiredClearanceM policy (some left)
      (some right) = answer) (hok : answer.status = .ok) (hclear : answer.report.clear = true) :
    ClearScene M scene policy left right answer := by
  subst hanswer
  obtain ⟨hfinite, hpolicy, hevaluated, hevidence⟩ := answered_evaluates hok
  rw [hevaluated] at hclear ⊢
  have hexempted (pair : Pair) : (policy = contactTerminalCaps ∧
      Exempted scene requiredClearanceM (handGaps M policy left right) pair) ↔ _ :=
    exempted_handGaps
  have hgaps (known : ClawGaps F) (hknown : handGaps M policy left right = some known) :
      Floating.isFinite known.other = true := handGaps_finite hM hevidence hknown
  set gaps := handGaps M policy left right with hgapsdef
  obtain ⟨hkept, hother⟩ := (evaluateScene_clear_iff hfinite hgaps).mp hclear
  have htotal : Tally.Total _ _ (finalTally scene requiredClearanceM policy gaps) _ :=
    finalTally_total hfinite hgaps
  have hkey := evaluateScene_clear.mp hclear
  -- the evidence is written once, by the hands, and marked by the pairs
  obtain ⟨hsame, hmarked⟩ := foldl_evidence scene requiredClearanceM policy gaps Pair.all
    (beginScoped requiredClearanceM gaps)
  have hevidenceEq : (evaluateScene scene requiredClearanceM policy gaps).evidence =
      (Pair.all.foldl (countPair scene requiredClearanceM policy gaps)
        (beginScoped requiredClearanceM gaps)).evidence := rfl
  refine ⟨hpolicy, fun pair hpair => ?_, ?_, fun hcaps => ?_, fun hactive => ?_, fun hcontact => ?_⟩
  · exact hkept pair fun hboth => hpair ((hexempted pair).mp hboth)
  · rw [evaluateScene_minimum]
    exact Floating.le_of_not_lt htotal.sound.number (FloatOrder.le_self_of_isFinite hfinite)
      (htotal.sound.clear hkey).1
  · obtain ⟨known, hknown⟩ : ∃ known, gaps = some known := ⟨_, handGaps_caps hcaps⟩
    rw [hevidenceEq, hsame.other, hknown]
    exact hother known hknown
  · rw [hevidenceEq] at hactive
    have hbegin : (beginScoped requiredClearanceM gaps).evidence.terminalPairActive = false := by
      unfold beginScoped
      cases gaps with
      | none => rfl
      | some known => rfl
    -- nothing is marked at the start, so a pair did it
    obtain ⟨pair, hallowed⟩ := (hmarked hactive).resolve_left (by rw [hbegin]; simp)
    obtain rfl := allowedTerminal_policy hallowed
    refine ⟨rfl, ?_⟩
    obtain ⟨known, hknown⟩ : ∃ known, gaps = some known := ⟨_, handGaps_caps rfl⟩
    rw [hevidenceEq, hsame.hand, hknown]
    exact (allowedTerminal_isSome.mp hallowed).1.2.2.2 known hknown
  · rw [hevidenceEq, hsame.contact] at hcontact
    rw [hevidenceEq, hsame.hand]
    unfold beginScoped at hcontact ⊢
    cases hknown : gaps with
    | none =>
      rw [hknown] at hcontact
      cases hcontact
    | some known =>
      rw [hknown] at hcontact
      exact of_decide_eq_true hcontact

/-! ## §4. Scenes that are not clear. -/

/-- **What an answer that is not clear means**: the report names a pair that the
    policy does not exempt and that does not keep the required clearance, or the
    rest of the claws does not. -/
def TooClose (M : ClawMeshes F) (scene : CollisionScene F) (policy : BitVec 32)
    (left right : Transform F) (report : CollisionReport F) : Prop :=
  (∃ pair, report.Names pair ∧ ¬ (policy = contactTerminalCaps ∧
      Exempted scene requiredClearanceM (gapsOf M (some (left, right))) pair) ∧
        ¬ requiredClearanceM ≤ scene.clearance pair) ∨
    policy = contactTerminalCaps ∧ (M.evidence left right).2.2 < requiredClearanceM

theorem unclear_scene {M : ClawMeshes F} (hM : M.Finite) {scene : CollisionScene F}
    {policy : BitVec 32} {left right : Transform F} {answer : ScopedAnswer F}
    (hanswer : collisionEvaluateScopedImpl M (some scene) requiredClearanceM policy (some left)
      (some right) = answer) (hok : answer.status = .ok) (hclear : answer.report.clear = false) :
    TooClose M scene policy left right answer.report := by
  subst hanswer
  obtain ⟨hfinite, -, hevaluated, hevidence⟩ := answered_evaluates hok
  rw [hevaluated] at hclear ⊢
  rcases evaluateScene_unclear hfinite (fun _ => handGaps_finite hM hevidence) hclear with
    ⟨pair, hnames, hexempt, hlow⟩ | ⟨known, hknown, hlow⟩
  · exact Or.inl ⟨pair, hnames, fun hboth => hexempt (exempted_handGaps.mpr hboth), hlow⟩
  · unfold handGaps at hknown
    split at hknown
    · next hcaps =>
      obtain rfl := Option.some.inj hknown
      exact Or.inr ⟨hcaps, hlow⟩
    · cases hknown

/-- The evaluator answers for a policy it knows, a scene without a coordinate that
    is not finite, and claws whose gaps can be measured. -/
structure Answered (M : ClawMeshes F) (scene : CollisionScene F) (policy : BitVec 32)
    (left right : Transform F) : Prop where
  known : policy = contactNone ∨ policy = contactTerminalCaps
  finite : scene.firstNonfinite = none
  measured : policy = contactTerminalCaps → (M.evidence left right).1 = .ok

theorem answered_iff {M : ClawMeshes F} {scene : CollisionScene F}
    (hversion : scene.abiVersion = collisionAbiVersion)
    (hsize : sizeofCollisionScene ≤ scene.structSize) {policy : BitVec 32}
    {left right : Transform F} :
    (collisionEvaluateScopedImpl M (some scene) requiredClearanceM policy (some left)
      (some right)).status = .ok ↔ Answered M scene policy left right := by
  constructor
  · intro hok
    obtain ⟨-, hpolicy, -, hevidence⟩ := answered_evaluates hok
    refine ⟨hpolicy, ?_, hevidence⟩
    -- a scene that is not finite ends the call
    unfold collisionEvaluateScopedImpl at hok
    dsimp only at hok
    split at hok
    · cases hok
    · cases hchecked : checkScene (some scene) requiredClearanceM with
      | error answer =>
        rw [hchecked] at hok
        exact absurd hok (checkScene_error hchecked)
      | ok checked =>
        obtain rfl := checkScene_some hchecked
        exact (checkScene_ok hversion hsize).mp hchecked
  · intro hanswered
    unfold collisionEvaluateScopedImpl
    dsimp only
    rw [badThreshold_required, (checkScene_ok hversion hsize).mpr hanswered.finite,
      if_neg (by rcases hanswered.known with rfl | rfl <;> decide)]
    dsimp only
    split
    · next hcaps =>
      have hmeasured := hanswered.measured hcaps
      cases hevidence : M.evidence left right with
      | mk status gaps =>
        rw [hevidence] at hmeasured
        obtain rfl := hmeasured
        rfl
    · rfl

end Order

end OpenArm.Guard
