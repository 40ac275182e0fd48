/-
  OpenArm.Model.Evaluators — the two collision evaluators agree.

  Both go through the same pairs in the same order, one as a scan and one as
  a tally, so what they answer follows from the two ways to hold values
  against a requirement.

  Main result:
    * `evaluators_agree` — same status, same verdict, same minimum when clear;
                           the reported pair is the closest one; and under the
                           terminal contact policy only the two tools that face
                           each other are left out.
-/
import OpenArm.Model.Collision
import OpenArm.Lib.Extended

namespace OpenArm.Model

open OpenArm.Lib OpenArm.Control

variable {F : Type} [Metric F]

/-! ## §1. What the evaluators promise. -/

/-- The two evaluators under no contact policy give the same answer. -/
def SameVerdict (M : ClawMeshes F) (scene : Option (CollisionScene F)) (required : F) : Prop :=
  let legacy := evaluateWithThreshold scene required
  let answer := evaluateScopedWithThreshold M scene required contactNone
  legacy.1 = answer.status ∧ legacy.2.clear = answer.report.clear ∧
    (answer.report.clear = true → legacy.2.minimumClearanceM = answer.report.minimumClearanceM)

/-- A report names a pair. -/
def CollisionReport.Names (report : CollisionReport F) (pair : Pair) : Prop :=
  report.violation = pair.violation ∧ report.side = pair.side ∧
    report.segmentA = pair.segmentA ∧ report.segmentB = pair.segmentB

/-- The reported minimum is that of all pairs, and a violation is reported for a
    pair that attains it. -/
def WorstPair (M : ClawMeshes F) (scene : CollisionScene F) (required : F) : Prop :=
  let answer := evaluateScopedWithThreshold M (some scene) required contactNone
  answer.status = .ok →
    (∃ pair, answer.report.minimumClearanceM = reading (scene.clearance pair)) ∧
      (∀ pair, answer.report.minimumClearanceM ≤ reading (scene.clearance pair)) ∧
        (answer.report.clear = false → ∃ pair, answer.report.Names pair ∧
          answer.report.minimumClearanceM = reading (scene.clearance pair))

/-- The pair of the two tools is exempted: it is too close, the tools face each
    other, and the hand meshes, where they are known, keep 23 mm. -/
def Exempted (scene : CollisionScene F) (required : F) (gaps : Option (ClawGaps F)) (pair : Pair) :
    Prop :=
  pair = .arms 6 6 ∧ scene.clearance pair < required ∧
    (terminalCapsFacing scene (scene.armDetail 6 6).s (scene.armDetail 6 6).t gaps.isNone).isSome =
      true ∧
    ∀ known, gaps = some known →
      kClawRailClearance - maximumRailEnvelopeIntrusionM ≤ known.hand

/-- The gaps a call of the scoped evaluator works with. -/
def gapsOf (M : ClawMeshes F) (hands : Option (Transform F × Transform F)) : Option (ClawGaps F) :=
  hands.map fun pose => ⟨(M.evidence pose.1 pose.2).2.1, (M.evidence pose.1 pose.2).2.2⟩

/-- Under the terminal contact policy a clear verdict means that all other pairs,
    and the other claw gap, keep the threshold. -/
def CapsVerdict (M : ClawMeshes F) (scene : CollisionScene F) (required : F)
    (hands : Option (Transform F × Transform F)) : Prop :=
  let answer := collisionEvaluateScopedImpl M (some scene) required contactTerminalCaps
    (hands.map Prod.fst) (hands.map Prod.snd)
  answer.status = .ok → (answer.report.clear = true ↔
    (∀ pair, ¬ Exempted scene required (gapsOf M hands) pair → required ≤ scene.clearance pair) ∧
      ∀ known, gapsOf M hands = some known → required ≤ known.other)

/-- The mesh backend answers with `OA_MODEL_OK` only for finite gaps. -/
def ClawMeshes.Finite (M : ClawMeshes F) : Prop :=
  ∀ left right, (M.evidence left right).1 = .ok →
    Floating.isFinite (M.evidence left right).2.1 = true ∧
      Floating.isFinite (M.evidence left right).2.2 = true

/-! ## §2. The loops. -/

theorem mem_all (pair : Pair) : pair ∈ Pair.all := by
  unfold Pair.all
  cases pair with
  | arms left right =>
    refine List.mem_append_left _ (List.mem_flatMap.mpr ⟨left, List.mem_finRange left, ?_⟩)
    exact List.mem_map.mpr ⟨right, List.mem_finRange right, rfl⟩
  | pole side segment =>
    refine List.mem_append_right _ (List.mem_flatMap.mpr ⟨side, List.mem_finRange side, ?_⟩)
    exact List.mem_map.mpr ⟨segment, List.mem_finRange segment, rfl⟩

example : Pair.all.length = 49 + 14 := by decide

variable {scene : CollisionScene F} {required : F}

theorem mem_entries {entry : Pair × F} :
    entry ∈ scene.entries ↔ entry.2 = scene.clearance entry.1 := by
  unfold CollisionScene.entries
  constructor
  · intro h
    obtain ⟨pair, -, rfl⟩ := List.mem_map.mp h
    rfl
  · intro h
    exact List.mem_map.mpr ⟨entry.1, mem_all entry.1, Prod.ext rfl h.symm⟩

/-- The pairs that are counted. -/
def counted (scene : CollisionScene F) (required : F) (policy : BitVec 32)
    (gaps : Option (ClawGaps F)) (pairs : List Pair) : List (Pair × F) :=
  (pairs.filter fun pair => (allowedTerminal scene required policy gaps pair).isNone).map
    fun pair => (pair, scene.clearance pair)

/-- **The loops are a tally** of the pairs that are not left out. -/
theorem foldl_countPair (policy : BitVec 32) (gaps : Option (ClawGaps F)) (pairs : List Pair)
    (state : Scoped F) :
    (pairs.foldl (countPair scene required policy gaps) state).tally =
      state.tally.all required (counted scene required policy gaps pairs) := by
  induction pairs generalizing state with
  | nil => rfl
  | cons pair pairs ih =>
    rw [List.foldl_cons, ih]
    unfold counted countPair
    cases hallowed : allowedTerminal scene required policy gaps pair with
    | none =>
      rw [List.filter_cons_of_pos (by rw [hallowed]; rfl)]
      rfl
    | some allowed => rw [List.filter_cons_of_neg (by rw [hallowed]; simp)]

/-- Under no contact policy nothing is left out. -/
theorem counted_none (gaps : Option (ClawGaps F)) :
    counted scene required contactNone gaps Pair.all = scene.entries := by
  have hnone : ∀ pair, allowedTerminal scene required contactNone gaps pair = none := by
    intro pair
    cases pair with
    | pole side segment => rfl
    | arms left right =>
      unfold allowedTerminal
      dsimp only
      rw [if_neg fun h => absurd h.1 (by decide)]
  unfold counted
  rw [List.filter_eq_self.mpr fun pair _ => by rw [hnone pair]; rfl]
  rfl

/-- Only exempted pairs are left out, and the other claw gap must be kept. -/
theorem allowedTerminal_isSome {gaps : Option (ClawGaps F)} {pair : Pair} :
    (allowedTerminal scene required contactTerminalCaps gaps pair).isSome = true ↔
      Exempted scene required gaps pair ∧ ∀ known, gaps = some known → required ≤ known.other := by
  cases pair with
  | pole side segment =>
    constructor
    · intro h
      cases h
    · intro h
      cases h.1.1
  | arms left right =>
    unfold allowedTerminal
    by_cases hclose : left = 6 ∧ right = 6 ∧ (scene.armDetail left right).value < required
    · obtain ⟨rfl, rfl, hlow⟩ := hclose
      dsimp only
      rw [if_pos ⟨rfl, rfl, rfl, hlow⟩]
      cases hfacing : terminalCapsFacing scene (scene.armDetail 6 6).s (scene.armDetail 6 6).t
          gaps.isNone with
      | none => simp [Exempted, hfacing]
      | some separation =>
        cases gaps with
        | none =>
          have hexempt : Exempted scene required none (.arms 6 6) :=
            ⟨rfl, hlow, by rw [hfacing]; rfl, nofun⟩
          simp [hexempt]
        | some known =>
          have hexempt : Exempted scene required (some known) (.arms 6 6) ↔
              kClawRailClearance - maximumRailEnvelopeIntrusionM ≤ known.hand := by
            constructor
            · intro h
              exact h.2.2.2 known rfl
            · intro h
              refine ⟨rfl, hlow, by rw [hfacing]; rfl, fun other hsame => ?_⟩
              rwa [← Option.some.inj hsame]
          rw [hexempt]
          by_cases hgaps : kClawRailClearance - maximumRailEnvelopeIntrusionM ≤ known.hand ∧
              required ≤ known.other
          · simp [hgaps]
          · simp only [if_neg hgaps, Option.isSome_none, Bool.false_eq_true, false_iff]
            intro hboth
            exact hgaps ⟨hboth.1, hboth.2 known rfl⟩
    · dsimp only
      rw [if_neg fun h => hclose h.2]
      simp only [Option.isSome_none, Bool.false_eq_true, false_iff]
      intro h
      obtain ⟨hpair, hlow, -⟩ := h.1
      obtain ⟨rfl, rfl⟩ := Pair.arms.inj hpair
      exact hclose ⟨rfl, rfl, hlow⟩

/-- A pair is left out under the terminal contact policy only. -/
theorem allowedTerminal_policy {policy : BitVec 32} {gaps : Option (ClawGaps F)} {pair : Pair}
    (h : (allowedTerminal scene required policy gaps pair).isSome = true) :
    policy = contactTerminalCaps := by
  cases pair with
  | pole side segment => cases h
  | arms left right =>
    by_contra hpolicy
    unfold allowedTerminal at h
    dsimp only at h
    rw [if_neg fun hall => hpolicy hall.1] at h
    cases h

/-- A pair is counted unless the policy exempts it and the other claw gap is kept. -/
theorem mem_counted {policy : BitVec 32} {gaps : Option (ClawGaps F)} {entry : Pair × F} :
    entry ∈ counted scene required policy gaps Pair.all ↔ entry.2 = scene.clearance entry.1 ∧
      ¬ ((policy = contactTerminalCaps ∧ Exempted scene required gaps entry.1) ∧
        ∀ known, gaps = some known → required ≤ known.other) := by
  have hallowed : (allowedTerminal scene required policy gaps entry.1).isNone = true ↔
      ¬ ((policy = contactTerminalCaps ∧ Exempted scene required gaps entry.1) ∧
        ∀ known, gaps = some known → required ≤ known.other) := by
    rw [Option.isNone_iff_eq_none, ← Option.not_isSome_iff_eq_none, not_iff_not]
    constructor
    · intro hsome
      obtain rfl := allowedTerminal_policy hsome
      obtain ⟨hexempt, hother⟩ := allowedTerminal_isSome.mp hsome
      exact ⟨⟨rfl, hexempt⟩, hother⟩
    · rintro ⟨⟨rfl, hexempt⟩, hother⟩
      exact allowedTerminal_isSome.mpr ⟨hexempt, hother⟩
  rw [← hallowed]
  unfold counted
  constructor
  · intro h
    obtain ⟨pair, hpair, rfl⟩ := List.mem_map.mp h
    exact ⟨rfl, (List.mem_filter.mp hpair).2⟩
  · rintro ⟨hvalue, hnone⟩
    exact List.mem_map.mpr ⟨entry.1, List.mem_filter.mpr ⟨mem_all _, hnone⟩,
      Prod.ext rfl hvalue.symm⟩

/-! ## §3. The answers. -/

/-- The final tally of the scoped evaluator. -/
def finalTally (scene : CollisionScene F) (required : F) (policy : BitVec 32)
    (gaps : Option (ClawGaps F)) : Tally Pair F :=
  (Pair.all.foldl (countPair scene required policy gaps) (beginScoped required gaps)).tally

theorem evaluateScene_clear {policy : BitVec 32} {gaps : Option (ClawGaps F)} :
    (evaluateScene scene required policy gaps).report.clear = true ↔
      (finalTally scene required policy gaps).key = none := by
  unfold evaluateScene finalTally
  dsimp only
  cases (Pair.all.foldl (countPair scene required policy gaps)
    (beginScoped required gaps)).tally.key with
  | none => simp
  | some pair => simp [CollisionReport.naming, CollisionReport.blank]

theorem evaluateScene_minimum (policy : BitVec 32) (gaps : Option (ClawGaps F)) :
    (evaluateScene scene required policy gaps).report.minimumClearanceM =
      (finalTally scene required policy gaps).minimum := by
  unfold evaluateScene finalTally
  dsimp only
  cases (Pair.all.foldl (countPair scene required policy gaps)
    (beginScoped required gaps)).tally.key with
  | none => rfl
  | some pair => rfl

theorem evaluateScene_names {policy : BitVec 32} {gaps : Option (ClawGaps F)} {pair : Pair}
    (h : (finalTally scene required policy gaps).key = some pair) :
    (evaluateScene scene required policy gaps).report.Names pair := by
  unfold evaluateScene
  unfold finalTally at h
  dsimp only
  rw [h]
  exact ⟨rfl, rfl, rfl, rfl⟩

theorem checkScene_error {scene : Option (CollisionScene F)}
    {answer : ModelStatus × CollisionReport F} (h : checkScene scene required = .error answer) :
    answer.1 ≠ .ok := by
  unfold checkScene at h
  split at h
  · cases h
    nofun
  · split at h
    · cases h
      nofun
    · split at h
      · cases h
        nofun
      · cases h

section Order

variable [InfinityOrder F]

/-- The tally both evaluators start with. -/
theorem infinite_sound (hrequired : Floating.isFinite required = true) :
    (⟨Floating.infinity, Floating.infinity, none⟩ : Tally Pair F).Sound required where
  number := FloatOrder.le_self_right
    (InfinityOrder.le_infinity (FloatOrder.le_self_of_isFinite hrequired))
  clear _ := by
    refine ⟨fun hlt => ?_, rfl⟩
    exact Floating.not_le_of_lt hlt
      (InfinityOrder.le_infinity (FloatOrder.le_self_of_isFinite hrequired))
  found h := absurd rfl h

/-- What the claw meshes leave is a tally without values too small, or with the
    other gap as one. -/
theorem beginScoped_sound (hrequired : Floating.isFinite required = true)
    {gaps : Option (ClawGaps F)}
    (hfinite : ∀ known, gaps = some known → Floating.isFinite known.other = true) :
    (beginScoped required gaps).tally.Sound required ∧
      ((beginScoped required gaps).tally.key = none ↔
        ∀ known, gaps = some known → required ≤ known.other) := by
  have hself : required ≤ required := FloatOrder.le_self_of_isFinite hrequired
  cases gaps with
  | none => exact ⟨infinite_sound hrequired, fun _ => nofun, fun _ => rfl⟩
  | some known =>
    have hnumber : known.other ≤ known.other := FloatOrder.le_self_of_isFinite (hfinite known rfl)
    unfold beginScoped
    dsimp only
    by_cases hlow : known.other < required
    · rw [if_pos hlow]
      refine ⟨⟨hnumber, nofun, fun _ => ⟨rfl, hlow⟩⟩, nofun, fun h => ?_⟩
      exact absurd (h known rfl) (Floating.not_le_of_lt hlow)
    · rw [if_neg hlow]
      refine ⟨⟨hnumber, fun _ => ⟨hlow, rfl⟩, fun h => absurd rfl h⟩, fun _ other hsame => ?_,
        fun _ => rfl⟩
      rw [← Option.some.inj hsame]
      exact Floating.le_of_not_lt hnumber hself hlow

omit [InfinityOrder F] in
/-- Under no contact policy the final tally is that of all pairs. -/
theorem finalTally_none : finalTally scene required contactNone none =
    (⟨Floating.infinity, Floating.infinity, none⟩ : Tally Pair F).all required scene.entries := by
  unfold finalTally
  rw [foldl_countPair, counted_none]
  rfl

/-- A value that is not too small is at the threshold or above. -/
theorem tooSmall_iff (hrequired : Floating.isFinite required = true) {value : F} :
    tooSmall required value = false ↔ required ≤ value := by
  rw [tooSmall_eq_false]
  constructor
  · intro h
    exact Floating.le_of_not_lt h.1 (FloatOrder.le_self_of_isFinite hrequired) h.2
  · intro h
    exact ⟨FloatOrder.le_self_right h, fun hlt => Floating.not_le_of_lt hlt h⟩

/-- **The loops at their end.** -/
theorem finalTally_total (hrequired : Floating.isFinite required = true) {policy : BitVec 32}
    {gaps : Option (ClawGaps F)}
    (hgaps : ∀ known, gaps = some known → Floating.isFinite known.other = true) :
    Tally.Total required (beginScoped required gaps).tally
      (finalTally scene required policy gaps) (counted scene required policy gaps Pair.all) := by
  unfold finalTally
  rw [foldl_countPair]
  exact Tally.total hrequired (beginScoped_sound hrequired hgaps).1 _

/-- A clear verdict means that all pairs but the exempted one, and the other claw
    gap, keep the threshold. -/
theorem evaluateScene_clear_iff (hrequired : Floating.isFinite required = true)
    {policy : BitVec 32} {gaps : Option (ClawGaps F)}
    (hgaps : ∀ known, gaps = some known → Floating.isFinite known.other = true) :
    (evaluateScene scene required policy gaps).report.clear = true ↔
      (∀ pair, ¬ (policy = contactTerminalCaps ∧ Exempted scene required gaps pair) →
        required ≤ scene.clearance pair) ∧
        ∀ known, gaps = some known → required ≤ known.other := by
  rw [evaluateScene_clear, (finalTally_total hrequired hgaps).clear,
    (beginScoped_sound hrequired hgaps).2, and_comm]
  refine and_congr_left fun hother => ?_
  constructor
  · intro hcounted pair hpair
    refine (tooSmall_iff hrequired).mp (hcounted (pair, scene.clearance pair) ?_)
    exact mem_counted.mpr ⟨rfl, fun hboth => hpair hboth.1⟩
  · intro hkept e he
    obtain ⟨hvalue, hcounted⟩ := mem_counted.mp he
    rw [tooSmall_iff hrequired, hvalue]
    exact hkept e.1 fun hexempt => hcounted ⟨hexempt, hother⟩

/-- A report that is not clear names a pair that is too close and not exempted, or
    the other claw gap is too small. -/
theorem evaluateScene_unclear (hrequired : Floating.isFinite required = true)
    {policy : BitVec 32} {gaps : Option (ClawGaps F)}
    (hgaps : ∀ known, gaps = some known → Floating.isFinite known.other = true)
    (h : (evaluateScene scene required policy gaps).report.clear = false) :
    (∃ pair, (evaluateScene scene required policy gaps).report.Names pair ∧
      ¬ (policy = contactTerminalCaps ∧ Exempted scene required gaps pair) ∧
        ¬ required ≤ scene.clearance pair) ∨
      ∃ known, gaps = some known ∧ known.other < required := by
  have hkey : (finalTally scene required policy gaps).key ≠ none := by
    intro hnone
    rw [evaluateScene_clear.mpr hnone] at h
    cases h
  by_cases hother : ∀ known, gaps = some known → required ≤ known.other
  · left
    have htotal : Tally.Total required (beginScoped required gaps).tally
        (finalTally scene required policy gaps)
        (counted scene required policy gaps Pair.all) :=
      finalTally_total hrequired hgaps
    have hstart := (beginScoped_sound hrequired hgaps).2.mpr hother
    rcases htotal.attained with ⟨-, hsame⟩ | ⟨e, he, hminimum, hnamed⟩
    · exact absurd (hsame.trans hstart) hkey
    · obtain ⟨hvalue, hcounted⟩ := mem_counted.mp he
      refine ⟨e.1, evaluateScene_names (hnamed hkey), fun hexempt => hcounted ⟨hexempt, hother⟩,
        fun hkept => ?_⟩
      -- the named reading is below the requirement
      obtain ⟨-, hlow⟩ := htotal.sound.found hkey
      rw [hminimum, hvalue, reading_of_number (FloatOrder.le_self_right hkept)] at hlow
      exact Floating.not_le_of_lt hlow hkept
  · right
    obtain ⟨known, hknown⟩ := not_forall.mp hother
    obtain ⟨hsome, hlow⟩ := Classical.not_imp.mp hknown
    exact ⟨known, hsome, Floating.lt_of_not_le
      (FloatOrder.le_self_of_isFinite (hgaps known hsome))
      (FloatOrder.le_self_of_isFinite hrequired) hlow⟩

omit [InfinityOrder F] in
/-- The scoped evaluator answers like the other one without evaluating anything,
    or it evaluates the scene. -/
theorem scoped_answer (M : ClawMeshes F) (scene : Option (CollisionScene F)) (required : F) :
    let answer := evaluateScopedWithThreshold M scene required contactNone
    (evaluateWithThreshold scene required = (answer.status, answer.report) ∧
        answer.status ≠ .ok) ∨
      ∃ checked, checkScene scene required = .ok checked ∧ badThreshold required = false ∧
        Floating.isFinite required = true ∧
          answer = evaluateScene checked required contactNone none := by
  unfold evaluateScopedWithThreshold collisionEvaluateScopedImpl evaluateWithThreshold
  dsimp only
  by_cases hbad : badThreshold required = true
  · left
    rw [hbad]
    exact ⟨rfl, nofun⟩
  · have hgood : badThreshold required = false := by simpa using hbad
    have hfinite : Floating.isFinite required = true := by
      unfold badThreshold at hgood
      simp only [Bool.or_eq_false_iff, Bool.not_eq_false'] at hgood
      exact hgood.1
    have hpolicy : (false || (contactNone != contactNone && contactNone != contactTerminalCaps)) =
        false := by decide
    rw [hgood, hpolicy]
    cases hchecked : checkScene scene required with
    | error answer => exact .inl ⟨rfl, checkScene_error hchecked⟩
    | ok checked => exact .inr ⟨checked, rfl, rfl, hfinite, rfl⟩

theorem same_verdict (M : ClawMeshes F) (scene : Option (CollisionScene F)) (required : F) :
    SameVerdict M scene required := by
  unfold SameVerdict
  dsimp only
  rcases scoped_answer M scene required with
    ⟨hsame, -⟩ | ⟨checked, hchecked, hgood, hfinite, hanswer⟩
  · rw [hsame]
    exact ⟨rfl, rfl, fun _ => rfl⟩
  · obtain ⟨hclear, hminimum⟩ := Tally.scan_all hfinite checked.entries (infinite_sound hfinite)
    rw [← finalTally_none] at hclear hminimum
    rw [hanswer, evaluateScene_minimum]
    have hverdict : (evaluateScene checked required contactNone none).report.clear = true ↔ _ :=
      evaluateScene_clear
    unfold evaluateWithThreshold
    dsimp only
    rw [hgood, hchecked, if_neg (by decide)]
    dsimp only
    cases hscan : scan required checked.entries Floating.infinity with
    | mk minimum found =>
      rw [hscan] at hclear hminimum
      cases found with
      | none =>
        dsimp only
        exact ⟨rfl, (hverdict.mpr (hclear.mp rfl)).symm, fun _ => hminimum rfl⟩
      | some pair =>
        have hnot : (evaluateScene checked required contactNone none).report.clear = false := by
          rw [Bool.eq_false_iff]
          intro hdone
          cases hclear.mpr (hverdict.mp hdone)
        dsimp only
        refine ⟨rfl, hnot.symm, fun hdone => ?_⟩
        rw [hnot] at hdone
        cases hdone

omit [InfinityOrder F] in
theorem checkScene_some {checked : CollisionScene F}
    (h : checkScene (some scene) required = .ok checked) : checked = scene := by
  unfold checkScene at h
  dsimp only at h
  split at h
  · cases h
  · split at h
    · cases h
    · cases h
      rfl

/-- **The reported minimum is that of all pairs**, and the reported pair attains
    it. -/
theorem worst_pair (M : ClawMeshes F) (scene : CollisionScene F) (required : F) :
    WorstPair M scene required := by
  unfold WorstPair
  dsimp only
  intro hok
  rcases scoped_answer M (some scene) required with
    ⟨-, hnot⟩ | ⟨checked, hchecked, hgood, hfinite, hanswer⟩
  · -- a request that is not evaluated does not answer with `OA_MODEL_OK`
    exfalso
    exact hnot hok
  · obtain rfl := checkScene_some hchecked
    rw [hanswer, evaluateScene_minimum]
    have htotal := Tally.total hfinite (infinite_sound hfinite) checked.entries
    rw [← finalTally_none] at htotal
    have hreading : ∀ e ∈ checked.entries, reading e.2 = reading (checked.clearance e.1) :=
      fun e he => by rw [mem_entries.mp he]
    have hall : ∀ pair, (finalTally checked required contactNone none).minimum ≤
        reading (checked.clearance pair) :=
      fun pair => htotal.least (pair, checked.clearance pair) (mem_entries.mpr rfl)
    refine ⟨?_, hall, fun hclear => ?_⟩
    · rcases htotal.attained with ⟨hminimum, -⟩ | ⟨e, he, hminimum, -⟩
      · -- no value is below infinity, so the first one is infinite
        have hle := hall (.arms 0 0)
        rw [hminimum] at hle ⊢
        exact ⟨.arms 0 0, (InfinityOrder.eq_infinity hle).symm⟩
      · exact ⟨e.1, hminimum.trans (hreading e he)⟩
    · have hkey : (finalTally checked required contactNone none).key ≠ none := by
        intro hnone
        rw [evaluateScene_clear.mpr hnone] at hclear
        cases hclear
      rcases htotal.attained with ⟨-, hsame⟩ | ⟨e, he, hminimum, hnamed⟩
      · exact absurd hsame hkey
      · exact ⟨e.1, evaluateScene_names (hnamed hkey), hminimum.trans (hreading e he)⟩

omit [InfinityOrder F] in
/-- An answered request under the terminal contact policy evaluated the scene, with
    the finite gaps of the two hands. -/
theorem caps_answer {M : ClawMeshes F} {scene : CollisionScene F}
    {hands : Option (Transform F × Transform F)}
    (hok : (collisionEvaluateScopedImpl M (some scene) required contactTerminalCaps
      (hands.map Prod.fst) (hands.map Prod.snd)).status = .ok) :
    Floating.isFinite required = true ∧
      collisionEvaluateScopedImpl M (some scene) required contactTerminalCaps
        (hands.map Prod.fst) (hands.map Prod.snd) =
          evaluateScene scene required contactTerminalCaps (gapsOf M hands) ∧
        ∀ pose, hands = some pose → (M.evidence pose.1 pose.2).1 = .ok := by
  unfold collisionEvaluateScopedImpl at hok ⊢
  dsimp only at hok ⊢
  by_cases hbad : badThreshold required = true
  · rw [hbad] at hok
    cases hok
  have hgood : badThreshold required = false := by simpa using hbad
  have hfinite : Floating.isFinite required = true := by
    unfold badThreshold at hgood
    simp only [Bool.or_eq_false_iff, Bool.not_eq_false'] at hgood
    exact hgood.1
  have hpolicy : (false || (contactTerminalCaps != contactNone &&
      contactTerminalCaps != contactTerminalCaps)) = false := by decide
  rw [hgood, hpolicy] at hok ⊢
  refine ⟨hfinite, ?_⟩
  cases hchecked : checkScene (some scene) required with
  | error answer =>
    rw [hchecked] at hok
    exact absurd hok (checkScene_error hchecked)
  | ok checked =>
    rw [hchecked] at hok
    obtain rfl := checkScene_some hchecked
    cases hands with
    | none => exact ⟨rfl, nofun⟩
    | some pose =>
      simp only [Option.map_some, Bool.false_eq_true, if_false, if_true] at hok ⊢
      cases hevidence : M.evidence pose.1 pose.2 with
      | mk status gaps =>
        rw [hevidence] at hok
        cases status
        case ok =>
          refine ⟨?_, fun other hsame => ?_⟩
          · simp only [gapsOf, Option.map_some, hevidence]
          · rw [← Option.some.inj hsame, hevidence]
        all_goals cases hok

/-- **Under the terminal contact policy** only the two tools that face each other
    are left out. -/
theorem caps_verdict {M : ClawMeshes F} (hM : M.Finite) (scene : CollisionScene F) (required : F)
    (hands : Option (Transform F × Transform F)) : CapsVerdict M scene required hands := by
  unfold CapsVerdict
  dsimp only
  intro hok
  obtain ⟨hfinite, hanswer, hevidence⟩ := caps_answer hok
  have hgaps : ∀ known, gapsOf M hands = some known → Floating.isFinite known.other = true := by
    intro known hknown
    obtain ⟨pose, hpose, rfl⟩ := Option.map_eq_some_iff.mp hknown
    exact (hM _ _ (hevidence pose hpose)).2
  rw [hanswer, evaluateScene_clear_iff hfinite hgaps]
  refine and_congr_left fun _ => forall_congr' fun pair => ?_
  rw [and_iff_right rfl]

/-- **The two collision evaluators agree and report the true worst pair.** -/
theorem evaluators_agree {M : ClawMeshes F} (hM : M.Finite) (scene : Option (CollisionScene F))
    (required : F) : SameVerdict M scene required ∧
      ∀ s, scene = some s → WorstPair M s required ∧ ∀ hands, CapsVerdict M s required hands := by
  refine ⟨same_verdict M scene required, fun s _ => ⟨worst_pair M s required, fun hands => ?_⟩⟩
  exact caps_verdict hM s required hands

end Order

/-! ## §4. An evaluation. -/

instance : Metric Extended where
  hypot a b := Floating.sqrt (a * a + b * b)

/-- Claws whose hands are 24 mm apart and whose other parts are 30 mm apart. -/
def nearClaws : ClawMeshes Extended where
  evidence _ _ := (.ok, .finite (24 / 1000), .finite (30 / 1000))

/-- Two straight arms a metre apart, far from the pole. -/
def straightScene : CollisionScene Extended where
  abiVersion := 1
  structSize := 392
  point side index axis :=
    if axis = 0 then .finite (1 + index.val / 10)
    else if axis = 1 then .finite (1 / 2 - side.val)
    else .finite 0

/-- The two arms 20 mm apart, with the pole beside them. -/
def closeScene : CollisionScene Extended where
  abiVersion := 1
  structSize := 392
  point side index axis :=
    if axis = 0 then .finite (1 + index.val / 10)
    else if axis = 1 then .finite (1 / 100 - side.val / 50)
    else .finite 0

/-- The one is evaluated, and clear; the other has a worst pair. -/
theorem evaluators_agree_straight :
    ((evaluateScopedWithThreshold nearClaws (some straightScene) (.finite (25 / 1000))
          contactNone).status = .ok ∧
        SameVerdict nearClaws (some straightScene) (.finite (25 / 1000)) ∧
          WorstPair nearClaws straightScene (.finite (25 / 1000)) ∧
            ∀ hands, CapsVerdict nearClaws straightScene (.finite (25 / 1000)) hands) ∧
      (evaluateScopedWithThreshold nearClaws (some closeScene) (.finite (25 / 1000))
          contactNone).status = .ok ∧
        (evaluateWithThreshold (some closeScene) (.finite (25 / 1000))).2.clear = false ∧
          SameVerdict nearClaws (some closeScene) (.finite (25 / 1000)) ∧
            WorstPair nearClaws closeScene (.finite (25 / 1000)) ∧
              ∀ hands, CapsVerdict nearClaws closeScene (.finite (25 / 1000)) hands := by
  have hM : nearClaws.Finite := fun _ _ _ => ⟨rfl, rfl⟩
  obtain ⟨hsame, hrest⟩ := evaluators_agree hM (some straightScene) (.finite (25 / 1000))
  obtain ⟨hsame', hrest'⟩ := evaluators_agree hM (some closeScene) (.finite (25 / 1000))
  exact ⟨⟨by decide +kernel, hsame, hrest straightScene rfl⟩, by decide +kernel,
    by decide +kernel, hsame', hrest' closeScene rfl⟩

end OpenArm.Model
