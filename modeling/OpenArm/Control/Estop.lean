/-
  OpenArm.Control.Estop — when the emergency stop is honoured.

  `advance` disables the motors only on the RISING edge of the latch, and it
  shares the edge detector `estop_latched_` with the Cartesian planners.  A
  call that sets the detector without stopping, or that arms while it is
  set, masks the stop: the next cycle under the asserted latch changes no
  register.

  Main results:
    * `estop_never_masked` — in every run without a masking call, a cycle
      under the asserted latch leaves the controller at rest, and only a new
      arming and a new execute move it again.
    * `masking_exact` — right after a masking call the property fails.
    * `estop_masked_by_planner` — a run that masks the stop.
-/
import OpenArm.Control.Lifecycle

namespace OpenArm.Control

open OpenArm.Lib

variable {F : Type} [Floating F]

/-! ## §1. At rest. -/

/-- No command, no motor enabled, and not in a state that can move. -/
structure Controller.AtRest (c : Controller F) : Prop where
  executing : c.executing = none
  allOff : ∀ side joint, (c.arm side).motorEnabled joint = false
  notArmed : c.lifecycle ≠ .armedIdle
  notExecuting : c.lifecycle ≠ .executing

omit [Floating F] in
theorem Controller.Released.atRest {c : Controller F} (h : c.Released) : c.AtRest := by
  obtain ⟨r, hrep⟩ := h
  cases hrep with
  | off _ hlife hexec _ hoff =>
    have hlife : c.lifecycle = r.lifecycle := hlife
    refine ⟨hexec, hoff, ?_, ?_⟩ <;>
      · rw [hlife]
        cases r <;> decide

omit [Floating F] in
/-- A controller at rest has released the motors. -/
theorem Controller.AtRest.released {c : Controller F} {a : Authority} (h : c.AtRest)
    (hrep : Represents c.core a) : c.Released := by
  cases hrep with
  | off r hlife hexec hid hoff => exact ⟨r, .off r hlife hexec hid hoff⟩
  | idle hlife _ _ => exact absurd hlife h.notArmed
  | moving _ _ hlife _ _ _ => exact absurd hlife h.notExecuting
  | holding hlife hexec hid => exact ⟨.fault, .off .fault hlife hexec hid h.allOff⟩

/-! ## §2. Leaving rest. -/

/-- The label of an accepted arming. -/
def Label.Arms (e : Label F) : Prop := (∃ challenge, e.1 = .arm challenge) ∧ e.2.status = .ok

/-- The label of an accepted execute. -/
def Label.Executes (e : Label F) : Prop :=
  (∃ plan request, e.1 = .execute plan request) ∧ e.2.status = .ok

/-- From rest, only an accepted arming leaves rest. -/
theorem released_step (L : ModelLibrary F) {w w' : World F} {e : Label F}
    (h : w.controller.Released) (hstep : (system L).step w e w') (harm : ¬ e.Arms) :
    w'.controller.Released := by
  obtain ⟨r, hrep⟩ := h
  obtain ⟨cause, a', hmove, hrep', hevidence⟩ := step_refines L hstep hrep
  cases hmove with
  | quiet => exact ⟨r, hrep'⟩
  | release _ r' => exact ⟨r', hrep'⟩
  | arm => exact absurd hevidence harm

theorem released_run (L : ModelLibrary F) {w w' : World F} {es : List (Label F)}
    (h : w.controller.Released) (hrun : (system L).Run w es w') (harm : ∀ e ∈ es, ¬ e.Arms) :
    w'.controller.Released := by
  induction hrun with
  | nil => exact h
  | snoc _ last ih =>
    refine released_step L (ih fun e he => harm e ?_) last (harm _ ?_)
    · exact List.mem_append_left _ he
    · exact List.mem_append_right _ (List.mem_singleton.mpr rfl)

/-- Without a command, only an accepted execute starts one. -/
theorem no_command_run (L : ModelLibrary F) {w w' : World F} {es : List (Label F)}
    (h : ∃ a, Represents w.controller.core a ∧ ∀ id stop, a ≠ .moving id stop)
    (hrun : (system L).Run w es w') (hexec : ∀ e ∈ es, ¬ e.Executes) :
    ∃ a, Represents w'.controller.core a ∧ ∀ id stop, a ≠ .moving id stop := by
  induction hrun with
  | nil => exact h
  | snoc _ last ih =>
    obtain ⟨a, hrep, hne⟩ := ih fun e he => hexec e (List.mem_append_left _ he)
    obtain ⟨cause, a', hmove, hrep', hevidence⟩ := step_refines L last hrep
    refine ⟨a', hrep', fun id stop => ?_⟩
    cases hmove with
    | quiet => exact hne id stop
    | release => exact fun h => by cases h
    | arm => exact fun h => by cases h
    | start =>
      obtain ⟨plan, request, hop, hok, _, _⟩ := hevidence
      exact absurd ⟨⟨plan, request, hop⟩, hok⟩
        (hexec _ (List.mem_append_right _ (List.mem_singleton.mpr rfl)))
    | finish => exact fun h => by cases h
    | watchdog => exact fun h => by cases h

/-! ## §3. Masking calls. -/

/-- The call masks a later stop: a Cartesian planner samples the asserted
    latch first while the controller is not at rest, or an arming is accepted
    while the edge detector is still set. -/
def Masks (w : World F) (e : Label F) : Prop :=
  (e.1.cartesian = true ∧ w.latch = true ∧ w.controller.estopLatched = false ∧
      ¬ w.controller.AtRest) ∨
    (e.Arms ∧ w.controller.estopLatched = true)

/-- The calls of a run that do not mask. -/
def unmasked (L : ModelLibrary F) : Lts (World F) (Label F) :=
  (system L).restrict fun w e _ => ¬ Masks w e

/-- While the edge detector is set, the motors are released. -/
def DetectorSafe (w : World F) : Prop :=
  w.controller.estopLatched = true → w.controller.Released

/-- **Step lemma**: a call that does not mask keeps the detector safe. -/
theorem detectorSafe_step (L : ModelLibrary F) {w w' : World F} {e : Label F}
    (hstep : (system L).step w e w') (hmask : ¬ Masks w e)
    (htraced : ∃ a, Represents w.controller.core a) (h : DetectorSafe w) :
    DetectorSafe w' := by
  obtain ⟨hw', _⟩ := step_eq hstep
  intro hset
  by_cases hadvance : ∃ t, e.1 = .advance t
  · obtain ⟨t, ht⟩ := hadvance
    have hframe : (call L w (.advance t)).1.controller.estopLatched = w.latch :=
      congrArg Frame.estopLatched (frame_call_advance L w t)
    rw [hw', ht, hframe] at hset
    have hlatch : w.latch = true := hset
    rw [hw', ht]
    show (w.controller.advance L w.latch t).1.Released
    rw [Controller.advance, if_pos hlatch]
    rcases advanceEstop_effect w.controller t with ⟨_, hoff⟩ | ⟨hdetector, hcore⟩
    · exact hoff
    · obtain ⟨r, hr⟩ := h hdetector
      exact ⟨r, by rw [hcore]; exact hr⟩
  · have harm : w.controller.estopLatched = true → ¬ e.Arms :=
      fun hdetector ha => hmask (.inr ⟨ha, hdetector⟩)
    cases hcartesian : e.1.cartesian with
    | false =>
      have hsame : w.controller.estopLatched = true := by
        rw [hw', estopLatched_call L w e.1 hcartesian fun t ht => hadvance ⟨t, ht⟩] at hset
        exact hset
      exact released_step L (h hsame) hstep (harm hsame)
    | true =>
      have hplanner : ¬ e.Arms := by
        rintro ⟨⟨challenge, hop⟩, _⟩
        rw [hop] at hcartesian
        cases hcartesian
      cases hdetector : w.controller.estopLatched with
      | true => exact released_step L (h hdetector) hstep hplanner
      | false =>
        have hlatch : w.latch = true := by
          have hframe := congrArg Frame.estopLatched (frame_call_cartesian L w e.1 hcartesian)
          have hset : (call L w e.1).1.controller.frame.estopLatched = true := hw' ▸ hset
          rw [hframe] at hset
          simpa [Controller.frame, hdetector] using hset
        have hrest : w.controller.AtRest := by
          by_contra hlive
          exact hmask (.inl ⟨hcartesian, hlatch, hdetector, hlive⟩)
        obtain ⟨a, hrep⟩ := htraced
        exact released_step L (hrest.released hrep) hstep hplanner

theorem represents_run (L : ModelLibrary F) {w₀ w : World F} {es : List (Label F)}
    (hinit : w₀.Initial) (h : (system L).Run w₀ es w) : ∃ a, Represents w.controller.core a :=
  (traced_run L hinit h).imp fun _ ha => ha.1

/-- **Run lemma**: the detector is safe after every run that never masks. -/
theorem detectorSafe_run (L : ModelLibrary F) {w₀ w : World F} {es : List (Label F)}
    (hinit : w₀.Initial) (h : (unmasked L).Run w₀ es w) : DetectorSafe w := by
  induction h with
  | nil =>
    obtain ⟨manifest, options, instanceId, hcreate⟩ := hinit
    intro hset
    rw [hcreate] at hset
    cases hset
  | snoc front last ih =>
    exact detectorSafe_step L last.1 last.2 (represents_run L hinit front.of_restrict) ih

/-! ## §4. The emergency stop. -/

/-- A cycle that samples the asserted latch releases a detector-safe
    controller. -/
theorem advance_released (L : ModelLibrary F) {w : World F} (h : DetectorSafe w)
    (hlatch : w.latch = true) (monotonicNs : Nat) :
    (call L w (.advance monotonicNs)).1.controller.Released := by
  show (w.controller.advance L w.latch monotonicNs).1.Released
  rw [Controller.advance, if_pos hlatch]
  rcases advanceEstop_effect w.controller monotonicNs with ⟨_, hoff⟩ | ⟨hdetector, hcore⟩
  · exact hoff
  · obtain ⟨r, hr⟩ := h hdetector
    exact ⟨r, by rw [hcore]; exact hr⟩

/-- **The emergency stop is honoured in every run that never masks it.**  A
    cycle made while the latch is asserted leaves the controller at rest;
    afterwards, whatever happens, it is armed again only by an accepted
    arming, and a command executes only by an accepted execute. -/
theorem estop_never_masked (L : ModelLibrary F) {w₀ w : World F} {es : List (Label F)}
    (hinit : w₀.Initial) (hrun : (unmasked L).Run w₀ es w) (hlatch : w.latch = true)
    (monotonicNs : Nat) :
    (call L w (.advance monotonicNs)).1.controller.AtRest ∧
      ∀ fs w', (system L).Run (call L w (.advance monotonicNs)).1 fs w' →
        ((∀ e ∈ fs, ¬ e.Arms) → w'.controller.AtRest) ∧
          ((∀ e ∈ fs, ¬ e.Executes) → w'.controller.executing = none) := by
  have hoff := advance_released L (detectorSafe_run L hinit hrun) hlatch monotonicNs
  refine ⟨hoff.atRest, fun fs w' hafter => ⟨fun harm => ?_, fun hexec => ?_⟩⟩
  · exact (released_run L hoff hafter harm).atRest
  · obtain ⟨r, hrep⟩ := hoff
    obtain ⟨a, ha, hne⟩ :=
      no_command_run L ⟨.off r, hrep, fun _ _ h => by cases h⟩ hafter hexec
    exact ha.executing_none hne

/-- Verification, challenge, arming and the assertion of the stop mask
    nothing. -/
theorem assert_unmasked (L : ModelLibrary ℚ) :
    (unmasked L).Run (standardWorld ℚ) (armingLabels ℚ ++ [(.estopAssert, ⟨.ok, .none⟩)])
      (call L (armedWorld L) .estopAssert).1 := by
  have hverify : ¬ Masks (standardWorld ℚ) (.openAndVerify, ⟨.ok, .verified ⟨1, 3, 0⟩⟩) := by
    rintro (⟨h, _⟩ | ⟨⟨⟨_, h⟩, _⟩, _⟩) <;> cases h
  have hchallenge :
      ¬ Masks (verifiedWorld L) (.challenge, ⟨.ok, .challenge standardChallenge⟩) := by
    rintro (⟨h, _⟩ | ⟨⟨⟨_, h⟩, _⟩, _⟩) <;> cases h
  have harm : ¬ Masks (challengedWorld L) (.arm standardChallenge, ⟨.ok, .none⟩) := by
    rintro (⟨h, _⟩ | ⟨_, h⟩)
    · cases h
    · rw [challengedWorld_eq] at h
      cases h
  have hassert : ¬ Masks (armedWorld L) (.estopAssert, ⟨.ok, .none⟩) := by
    rintro (⟨h, _⟩ | ⟨⟨⟨_, h⟩, _⟩, _⟩) <;> cases h
  exact .cons ⟨verify_step L, hverify⟩ (.cons ⟨challenge_step L, hchallenge⟩
    (.cons ⟨arm_step L, harm⟩ (.single ⟨call_step L _ .estopAssert, hassert⟩)))

/-- The stop honoured by the armed standard controller. -/
theorem estop_never_masked_armed :
    (call silentLibrary (call silentLibrary (armedWorld (F := ℚ) silentLibrary) .estopAssert).1
      (.advance 10000000)).1.controller.AtRest :=
  (estop_never_masked silentLibrary standardWorld_initial (assert_unmasked silentLibrary) rfl
    10000000).1

/-! ## §5. After a masking call. -/

/-- A cycle under an already detected latch only moves the clock. -/
theorem advance_detected (L : ModelLibrary F) {w : World F} (hlatch : w.latch = true)
    (hdetector : w.controller.estopLatched = true) (monotonicNs : Nat) :
    ∃ now, (call L w (.advance monotonicNs)).1.controller = { w.controller with nowNs := now } := by
  refine ⟨if w.controller.nowNs ≤ monotonicNs then monotonicNs else w.controller.nowNs, ?_⟩
  show (w.controller.advance L w.latch monotonicNs).1 = _
  rw [Controller.advance, if_pos hlatch]
  simp only [Controller.advanceEstop, hdetector, Bool.not_true, Bool.false_eq_true, if_false]

/-- A Cartesian planner under the asserted latch sets the edge detector and
    stops nothing. -/
theorem call_cartesian_latched (L : ModelLibrary F) (w : World F) (op : Op F)
    (hcartesian : op.cartesian = true) (hlatch : w.latch = true) :
    (call L w op).1.controller = { w.controller with estopLatched := true } := by
  have hframe : ∀ body, (w.controller.planCartesian w.latch body).1 =
      { w.controller with estopLatched := true } := by
    intro body
    simp [Controller.planCartesian, Controller.planPreconditions, hlatch]
  cases op with
  | planPaired request => exact hframe _
  | planCentroid request => exact hframe _
  | planMirrored request => exact hframe _
  | planConverge request => exact hframe _
  | _ => cases hcartesian

/-- The stop asserted, then a Cartesian planner. -/
theorem call_assert_cartesian (L : ModelLibrary F) (w : World F) (op : Op F)
    (hcartesian : op.cartesian = true) :
    (call L (call L w .estopAssert).1 op).1.controller =
      { w.controller with estopLatched := true } :=
  call_cartesian_latched L { w with latch := true } op hcartesian rfl

omit [Floating F] in
/-- A clock does not put a controller at rest. -/
theorem Controller.atRest_of_nowNs {c : Controller F} {now : Nat}
    (h : ({ c with nowNs := now } : Controller F).AtRest) : c.AtRest :=
  ⟨h.executing, h.allOff, h.notArmed, h.notExecuting⟩

/-- An accepted arming leaves the controller armed. -/
theorem armWith_armed (c : Controller F) (challenge : ArmChallenge)
    (h : (c.armWith challenge).2 = .ok) :
    (c.armWith challenge).1.lifecycle = .armedIdle := by
  have hpublish : ∀ (d : Controller F) (kind : EventKind) (cause : ControlStatus) (id : Nat)
      (status : ControlStatus), (d.publishReturning kind cause id status).2 = .ok →
      status = .ok ∧ (d.publishReturning kind cause id status).1.lifecycle = d.lifecycle := by
    intro d kind cause id status hok
    unfold Controller.publishReturning Controller.publish at hok ⊢
    cases hfull : d.events.isFull <;> simp_all
  unfold Controller.armWith at h ⊢
  split at h
  · cases h
  split at h
  · cases h
  split at h
  · cases h
  split at h
  · unfold Controller.latchFault at h
    have hcause := (hpublish _ _ _ _ _ h).1
    split at hcause <;> cases hcause
  · rename_i h₁ h₂ h₃ h₄
    rw [if_neg h₁, if_neg h₂, if_neg h₃, if_neg h₄]
    exact (hpublish _ _ _ _ _ h).2

/-- **After a masking call the stop has no effect**: the latch asserted right
    after it, the next cycle leaves the controller as live as it was. -/
theorem masking_exact (L : ModelLibrary F) {w w' : World F} {e : Label F}
    (hstep : (system L).step w e w') (hmask : Masks w e) (monotonicNs : Nat) :
    ¬ (call L (call L w' .estopAssert).1 (.advance monotonicNs)).1.controller.AtRest := by
  obtain ⟨hw', hanswer⟩ := step_eq hstep
  suffices h : w'.controller.estopLatched = true ∧ ¬ w'.controller.AtRest by
    obtain ⟨now, hnow⟩ := advance_detected L (w := (call L w' .estopAssert).1) rfl h.1 monotonicNs
    rw [hnow]
    exact fun hrest => h.2 (Controller.atRest_of_nowNs hrest)
  rcases hmask with ⟨hcartesian, hlatch, _, hlive⟩ | ⟨⟨⟨challenge, hop⟩, hok⟩, hdetector⟩
  · have hstate : w'.controller = { w.controller with estopLatched := true } := by
      rw [hw', call_cartesian_latched L w e.1 hcartesian hlatch]
    rw [hstate]
    exact ⟨rfl, fun hrest => hlive ⟨hrest.executing, hrest.allOff, hrest.notArmed,
      hrest.notExecuting⟩⟩
  · have harmed : w'.controller.lifecycle = .armedIdle := by
      rw [hanswer, hop] at hok
      rw [hw', hop]
      exact armWith_armed w.controller challenge hok
    refine ⟨?_, fun hrest => hrest.notArmed harmed⟩
    rw [hw', hop, estopLatched_call L w _ rfl fun t ht => by cases ht]
    exact hdetector

/-! ## §6. A run that masks the stop. -/

/-- A paired move both arms may ask for. -/
def maskingMove : PairedTcpMove ℚ where
  expiryNs := 1000000000
  requiredFeedbackSeq := fun _ => 1
  velocityScale := 1 / 2
  accelerationScale := 1 / 2
  jerkScale := 1 / 2
  tcpTolM := 1 / 100
  collisionSceneRevision := 1
  maxBranchStepRad := 1 / 2
  minSingularValue := 0
  leftTcpM := ![3 / 10, 1 / 5, 2 / 5]
  rightTcpM := ![3 / 10, -1 / 5, 2 / 5]

/-- The armed standard controller after the stop was asserted and a paired
    move was asked for. -/
def maskedWorld (L : ModelLibrary ℚ) : World ℚ :=
  (call L (call L (armedWorld L) .estopAssert).1 (.planPaired maskingMove)).1

/-- The labels that lead there: the planner answers `OA_CONTROL_EESTOP`. -/
def maskingLabels : List (Label ℚ) :=
  armingLabels ℚ ++ [(.estopAssert, ⟨.ok, .none⟩), (.planPaired maskingMove, ⟨.eestop, .none⟩)]

theorem maskedWorld_run (L : ModelLibrary ℚ) :
    (system L).Run (standardWorld ℚ) maskingLabels (maskedWorld L) := by
  have hassert : (system L).step (armedWorld L) (.estopAssert, ⟨.ok, .none⟩)
      (call L (armedWorld L) .estopAssert).1 := rfl
  have hplan : (system L).step (call L (armedWorld L) .estopAssert).1
      (.planPaired maskingMove, ⟨.eestop, .none⟩) (maskedWorld L) := rfl
  exact (armedWorld_run L).append (.cons hassert (.single hplan))

/-- The masked controller stays armed under the asserted latch, whatever the
    library. -/
theorem maskedWorld_advance (L : ModelLibrary ℚ) :
    (call L (maskedWorld L) (.advance 10000000)).1.controller.lifecycle = .armedIdle ∧
      ∀ side joint,
        ((call L (maskedWorld L) (.advance 10000000)).1.controller.arm side).motorEnabled joint
          = true := by
  obtain ⟨event, harmed⟩ := armedWorld_eq L
  have hmasked : (maskedWorld L).controller =
      { (armedWorld L).controller with estopLatched := true } :=
    call_assert_cartesian L (armedWorld L) (.planPaired maskingMove) rfl
  obtain ⟨now, hnow⟩ := advance_detected L (w := maskedWorld L) rfl (by rw [hmasked]) 10000000
  constructor
  · rw [hnow, hmasked, harmed]
    rfl
  · intro side joint
    rw [hnow, hmasked, harmed]
    rfl

/-- **A stop masked by a planner**: the armed controller, the stop asserted, a
    paired move refused with `OA_CONTROL_EESTOP`, and the next cycle under the
    asserted latch leaves it armed with every motor enabled. -/
theorem estop_masked_by_planner :
    (system silentLibrary).Run (standardWorld ℚ) maskingLabels (maskedWorld silentLibrary) ∧
      (maskedWorld silentLibrary).latch = true ∧
      (call silentLibrary (maskedWorld silentLibrary)
        (.advance 10000000)).1.controller.lifecycle = .armedIdle ∧
      ∀ side joint,
        ((call silentLibrary (maskedWorld silentLibrary)
          (.advance 10000000)).1.controller.arm side).motorEnabled joint = true :=
  ⟨maskedWorld_run silentLibrary, rfl, maskedWorld_advance silentLibrary⟩

end OpenArm.Control
