/-
  OpenArm.Commission.Reading — a step adds its input to the reading.

  What each check of the session establishes, then one lemma for each state:
  the case of the `switch` either aborts or leads to a session whose history
  reads one input further.

  Main results:
    * `Touching.shows`  — a dwell that has lasted shows a stop.
    * `dispatch_staged` — every case carries the reading on.
    * `carried_step`    — … and so does a whole step.
-/
import OpenArm.Commission.Evidence

namespace OpenArm.Commission

open OpenArm.Lib
open OpenArm.Runtime (CommissionStatus)

variable {F : Type} [Floating F]

/-! ## §1. What the checks establish. -/

namespace Session

/-- The session has taken note of an input. -/
def sampled (s : Session F) (input : RecipeInput F) : Session F :=
  { s with
    lastFeedbackSeq := input.encoder.feedbackSeq
    lastSampleTimeNs := input.encoder.sampleTimeNs }

/-- The session has metered an input. -/
def metered (s : Session F) (input : RecipeInput F) : Session F :=
  { s with
    lastEnergyTimeNs := (spend s.meter input).1
    contactEnergyJ := (spend s.meter input).2 }

@[simp] theorem fail_state (s : Session F) (status : CommissionStatus) (reason : AbortReason) :
    (s.fail status reason).1.state = .abort := rfl

@[simp] theorem fail_status (s : Session F) (status : CommissionStatus) (reason : AbortReason) :
    (s.fail status reason).2 = status := rfl

/-- `validate_binding` accepts the conditions of the recipe and changes nothing, or
    aborts. -/
theorem validateBinding_cases (s : Session F) (input : RecipeInput F) :
    (s.validateBinding input).2 ≠ .ok ∧ (s.validateBinding input).1.state = .abort ∨
      s.validateBinding input = (s, .ok) ∧
        input.evidenceRevision = s.recipe.evidenceRevision ∧
        input.fixtureRevision = s.recipe.fixtureRevision ∧
        (s.recipe.recipeKind = recipeArmJoint →
          input.postureMask = s.recipe.requiredPostureMask ∧
            postureHeld s.recipe input = true) := by
  unfold validateBinding
  extract_lets expected
  split
  · exact .inl ⟨by simp, rfl⟩
  · rename_i hrevisions
    obtain ⟨hevidence, hfixture⟩ := not_or.mp hrevisions
    split
    · rename_i hkind
      exact .inr ⟨rfl, not_not.mp hevidence, not_not.mp hfixture, fun h => absurd h hkind⟩
    · split
      · exact .inl ⟨by simp, rfl⟩
      · rename_i hmask
        split
        · rename_i hheld
          exact .inr ⟨rfl, not_not.mp hevidence, not_not.mp hfixture,
            fun _ => ⟨not_not.mp hmask, hheld⟩⟩
        · exact .inl ⟨by simp, rfl⟩

/-- `validate_input` takes note of an admitted, newer input, or aborts. -/
theorem validateInput_cases (s : Session F) (input : RecipeInput F) :
    (s.validateInput input).2 ≠ .ok ∧ (s.validateInput input).1.state = .abort ∨
      s.validateInput input = (s.sampled input, .ok) ∧ Admitted s.recipe input ∧
        s.lastFeedbackSeq < input.encoder.feedbackSeq ∧
        s.lastSampleTimeNs < input.encoder.sampleTimeNs := by
  unfold validateInput
  split
  · exact .inl ⟨by simp, rfl⟩
  rename_i hrecord
  split
  · exact .inl ⟨by simp, rfl⟩
  rename_i hfresh
  simp only [not_or, UInt64.not_le, UInt64.not_lt] at hfresh
  obtain ⟨-, hseq, htime, hpast, hage⟩ := hfresh
  show _ ∨ _
  dsimp only
  split
  · exact .inl ⟨by simp, rfl⟩
  rename_i hfault
  split
  · exact .inl ⟨by simp, rfl⟩
  rcases (s.sampled input).validateBinding_cases input with hbad | ⟨hok, hbound⟩
  · exact .inl hbad
  · refine .inr ⟨hok, ⟨?_, hpast, hage, not_not.mp hfault, hbound.1, hbound.2.1, hbound.2.2⟩,
      hseq, htime⟩
    simp only [Bool.or_eq_true, not_or, Bool.not_eq_true'] at hrecord
    simpa using hrecord.2

/-- Whatever `validate_input` finds, the recipe stays. -/
theorem validateInput_recipe (s : Session F) (input : RecipeInput F) :
    (s.validateInput input).1.recipe = s.recipe := by
  unfold validateInput validateBinding
  dsimp only
  split_ifs <;> rfl

/-- `update_energy` meters an input within the budget, or aborts. -/
theorem updateEnergy_cases [FloatMean F] {s : Session F} (input : RecipeInput F)
    (hvalid : validRecipe s.recipe = true) (hrunning : s.lastEnergyTimeNs ≠ 0) :
    (s.updateEnergy input).2 ≠ .ok ∧ (s.updateEnergy input).1.state = .abort ∨
      s.updateEnergy input = (s.metered input, .ok) ∧
        (spend s.meter input).2 ≤ s.recipe.maximumContactEnergyJ := by
  unfold updateEnergy
  rw [if_neg hrunning]
  dsimp only
  split
  · exact .inl ⟨by simp, rfl⟩
  · rename_i hwithin
    simp only [Bool.or_eq_true, not_or, Bool.not_eq_true', decide_eq_true_eq] at hwithin
    have hspent : Floating.isFinite (spend s.meter input).2 = true :=
      eq_true_of_ne_false hwithin.1
    have hmax : Floating.isFinite s.recipe.maximumContactEnergyJ = true :=
      finite_of_validRecipe hvalid (by simp [Recipe.numbers])
    exact .inr ⟨rfl, Floating.le_of_not_lt (FloatOrder.le_self_of_isFinite hmax)
      (FloatOrder.le_self_of_isFinite hspent) hwithin.2⟩

/-- `enforce_motion_limits` meters a sample that may be taken in motion, or aborts. -/
theorem enforceMotionLimits_cases [FloatMean F] {s : Session F} {input : RecipeInput F}
    (hvalid : validRecipe s.recipe = true) (hfinite : finiteSample input.encoder = true)
    (hrunning : s.lastEnergyTimeNs ≠ 0) :
    (s.enforceMotionLimits input).2 ≠ .ok ∧
        (s.enforceMotionLimits input).1.state = .abort ∨
      s.enforceMotionLimits input = (s.metered input, .ok) ∧ Driven s.recipe input ∧
        (spend s.meter input).2 ≤ s.recipe.maximumContactEnergyJ := by
  have number {x : F} (hx : x ∈ s.recipe.numbers) : x ≤ x :=
    FloatOrder.le_self_of_isFinite (finite_of_validRecipe hvalid hx)
  simp only [finiteSample, Bool.and_eq_true] at hfinite
  obtain ⟨⟨⟨⟨-, hdq⟩, htorque⟩, hmos⟩, hcoil⟩ := hfinite
  unfold enforceMotionLimits
  split
  · exact .inl ⟨by simp, rfl⟩
  rename_i hinterlock
  split
  · exact .inl ⟨by simp, rfl⟩
  rename_i hdrive
  split
  · exact .inl ⟨by simp, rfl⟩
  rename_i hlimits
  obtain ⟨hestop, hdeadman⟩ := not_or.mp hinterlock
  simp only [not_or] at hlimits
  obtain ⟨hspeed, hnm, hmosMax, hcoilMax⟩ := hlimits
  rcases s.updateEnergy_cases input hvalid hrunning with hbad | ⟨hok, hspent⟩
  · exact .inl hbad
  · refine .inr ⟨hok, ⟨hestop, hdeadman, hdrive, ?_, ?_, ?_, ?_⟩, hspent⟩
    · exact Floating.le_of_not_lt (number (by simp [Recipe.numbers]))
        (FloatMean.abs_self hdq) hspeed
    · exact Floating.le_of_not_lt (number (by simp [Recipe.numbers])) (FloatMean.abs_self htorque)
        hnm
    · exact Floating.le_of_not_lt (number (by simp [Recipe.numbers]))
        (FloatOrder.le_self_of_isFinite hmos) hmosMax
    · exact Floating.le_of_not_lt (number (by simp [Recipe.numbers]))
        (FloatOrder.le_self_of_isFinite hcoil) hcoilMax

end Session

/-! ## §2. One state at a time. -/

section States

variable {recipe : Recipe F} {inputs : List (RecipeInput F)} {s : Session F}
  {input : RecipeInput F}

theorem staged_of_abort {s : Session F} (h : s.state = .abort) : Staged recipe inputs s := by
  unfold Staged
  rw [h]
  trivial

variable [FloatMean F]

/-- A motion case: the limits stop it, or it goes on with the input metered. -/
theorem motion_rule {next : Session F → Session.Stepped F}
    (hvalid : validRecipe s.recipe = true) (hfinite : finiteSample input.encoder = true)
    (hrunning : s.lastEnergyTimeNs ≠ 0)
    (hnext : Driven s.recipe input →
      (spend s.meter input).2 ≤ s.recipe.maximumContactEnergyJ →
      Staged recipe inputs (next (s.metered input)).1) :
    Staged recipe inputs (s.whileSafe input next).1 := by
  unfold Session.whileSafe
  rcases Session.enforceMotionLimits_cases hvalid hfinite hrunning with
    ⟨hbad, habort⟩ | ⟨hok, hdriven, hspent⟩
  · rw [if_pos hbad]
    exact staged_of_abort habort
  · rw [hok, if_neg (by simp)]
    exact hnext hdriven hspent

omit [FloatMean F] in
/-- One more metered sample. -/
theorem Metered.snoc {start now : Meter F} {motion : List (RecipeInput F)}
    (h : Metered recipe start motion now)
    (hspent : (spend now input).2 ≤ recipe.maximumContactEnergyJ)
    (htime : input.encoder.sampleTimeNs ≠ 0) :
    Metered recipe start (motion ++ [input]) (spend now input) where
  within := withinEnergy_snoc h.within (by rw [← h.now_eq]; exact hspent)
  now_eq := by
    rw [List.foldl_append, ← h.now_eq]
    rfl
  running := htime

omit [FloatMean F] in
/-- One more moving sample. -/
theorem AllMoving.snoc {start : F} {deadline : UInt64} (h : AllMoving recipe start deadline inputs)
    (hlast : Moving recipe start deadline input) :
    AllMoving recipe start deadline (inputs ++ [input]) := by
  intro x hx
  rcases List.mem_append.mp hx with hx | hx
  · exact h x hx
  · exact (List.mem_singleton.mp hx) ▸ hlast

/-- What `validate_input` hands to the cases: an admitted sample newer than
    every sample before. -/
structure Arrived (recipe : Recipe F) (inputs : List (RecipeInput F)) (s : Session F)
    (input : RecipeInput F) : Prop where
  recipe_eq : s.recipe = recipe
  valid : validRecipe recipe = true
  admitted : Admitted recipe input
  newer : ∀ x ∈ inputs, Newer x input
  later : input.encoder.sampleTimeNs ≠ 0

/-- A finite value that is not below another is at least as large. -/
theorem le_of_not_lt_of_finite {x y : F} (hx : Floating.isFinite x = true)
    (hy : Floating.isFinite y = true) (hnot : ¬ x < y) : y ≤ x :=
  Floating.le_of_not_lt (FloatOrder.le_self_of_isFinite hx) (FloatOrder.le_self_of_isFinite hy) hnot

omit [FloatMean F] in
theorem Admitted.finite_position (h : Admitted recipe input) :
    Floating.isFinite input.encoder.qOutputRad = true := by
  have hfinite := h.finite
  simp only [finiteSample, Bool.and_eq_true] at hfinite
  exact hfinite.1.1.1.1

/-- A sample in contact has left the start of the envelope. -/
theorem Arrived.above_of_contact (h : Arrived recipe inputs s input) {travel : F}
    (hcontact : contactEvidence recipe input travel) : ¬ travel < -kDirectionTolerance := by
  have hfinite : Floating.isFinite recipe.minimumContactTravelRad = true :=
    finite_of_validRecipe h.valid (by simp [Recipe.numbers])
  have hrange := range_of_validRecipe h.valid
  simp only [Recipe.badRange, not_or] at hrange
  have hmin : ¬ recipe.minimumContactTravelRad ≤ Floating.lit 0.0 := hrange.2.2.2.2.2.1
  have hzero : (Floating.lit 0.0 : F) = Floating.lit 0 := by norm_num
  rw [hzero] at hmin
  have hpos : Floating.lit 0 ≤ recipe.minimumContactTravelRad :=
    Floating.le_of_lt (Floating.lt_of_not_le (FloatOrder.lit_le_lit (le_refl (0 : ℚ)))
      (FloatOrder.le_self_of_isFinite hfinite) hmin)
  have htolerance : (-kDirectionTolerance : F) ≤ Floating.lit 0 :=
    FloatMean.neg_le_zero (FloatOrder.lit_le_lit (by norm_num))
  intro hlt
  exact Floating.not_le_of_lt hlt
    (FloatOrder.le_trans htolerance (FloatOrder.le_trans hpos hcontact.2.1))

omit [Floating F] [FloatMean F] in
/-- A list of resting samples with one more. -/
theorem resting_snoc (h : ∀ x ∈ inputs, Resting x) (hlast : Resting input) :
    ∀ x ∈ inputs ++ [input], Resting x := by
  intro x hx
  rcases List.mem_append.mp hx with hx | hx
  · exact h x hx
  · exact (List.mem_singleton.mp hx) ▸ hlast

theorem stepPrecheck_staged (h : Staged recipe inputs s) (hstate : s.state = .precheck)
    (harrived : Arrived recipe inputs s input) :
    Staged recipe (inputs ++ [input]) (s.stepPrecheck input).1 := by
  obtain rfl := harrived.recipe_eq
  have finite {x : F} (hx : x ∈ s.recipe.numbers) : Floating.isFinite x = true :=
    finite_of_validRecipe harrived.valid hx
  simp only [Staged, hstate] at h
  obtain ⟨rfl, henergy⟩ := h
  unfold Session.stepPrecheck
  split
  · exact staged_of_abort rfl
  · rename_i hchecks
    simp only [not_or, not_not] at hchecks
    obtain ⟨hestop, hdrive, hmin, hmax, -, -⟩ := hchecks
    refine ⟨henergy, input, [], rfl, ⟨hestop, hdrive⟩, ?_, ?_, by simp⟩
    · exact le_of_not_lt_of_finite harrived.admitted.finite_position
        (finite (by simp [Recipe.numbers])) hmin
    · exact le_of_not_lt_of_finite (finite (by simp [Recipe.numbers]))
        harrived.admitted.finite_position hmax

omit [FloatMean F] in
theorem stepWait_staged (h : Staged recipe inputs s) (hstate : s.state = .wait)
    (harrived : Arrived recipe inputs s input) :
    Staged recipe (inputs ++ [input]) (s.stepWait input).1 := by
  obtain rfl := harrived.recipe_eq
  simp only [Staged, hstate] at h
  obtain ⟨henergy, precheck, waits, rfl, hprecheck, hmin, hmax, hwaits⟩ := h
  unfold Session.stepWait
  split
  · exact staged_of_abort rfl
  rename_i hdrive
  simp only [not_or, not_not] at hdrive
  have hrest : Resting input := ⟨hdrive.1, hdrive.2⟩
  split
  · simp only [Staged, Session.accept, hstate]
    exact ⟨henergy, precheck, waits ++ [input], rfl, hprecheck, hmin, hmax,
      resting_snoc hwaits hrest⟩
  · rename_i hready
    obtain ⟨hdeadman, hoperator⟩ := not_or.mp hready
    let o : Opening s.recipe :=
      { precheck := precheck, waits := waits, ready := input, precheck_resting := hprecheck
        start_min := hmin, start_max := hmax, waits_resting := hwaits, ready_resting := hrest
        ready_deadman := hdeadman, ready_operator := hoperator }
    exact ⟨o, [], by simp [Opening.inputs, o], by simp [AllMoving],
      ⟨trivial, Prod.ext rfl henergy, harrived.later⟩, rfl, rfl⟩

omit [FloatMean F] in
/-- A dwell begins with the sample that shows contact first. -/
theorem Touching.begin {start : F}
    (hcontact : contactEvidence recipe input
      (directionalTravel start input.encoder.qOutputRad recipe.approachDirection)) :
    Touching recipe start input [] input.encoder.sampleTimeNs 1 input.encoder.qOutputRad where
  contact _ hx := (List.mem_singleton.mp hx) ▸ hcontact
  since := rfl
  count := rfl
  sum := rfl

theorem stepApproach_staged (h : Staged recipe inputs s) (hstate : s.state = .approach)
    (harrived : Arrived recipe inputs s input) :
    Staged recipe (inputs ++ [input]) (s.stepApproach input).1 := by
  obtain rfl := harrived.recipe_eq
  simp only [Staged, hstate] at h
  obtain ⟨o, approach, rfl, hmoving, hmetered, hstart, hdeadline⟩ := h
  unfold Session.stepApproach
  refine motion_rule harrived.valid harrived.admitted.finite hmetered.running
    fun hdriven hspent => ?_
  dsimp only
  split
  · exact staged_of_abort rfl
  rename_i htravel
  split
  · exact staged_of_abort rfl
  rename_i htime
  obtain ⟨habove, hbelow⟩ := not_or.mp htravel
  have hmoves : Moving s.recipe o.start o.deadline input :=
    { hdriven with
      above := hstart ▸ habove
      below := hstart ▸ hbelow
      inTime := hdeadline ▸ UInt64.not_lt.mp htime }
  have hinputs : o.inputs ++ approach ++ [input] = o.inputs ++ (approach ++ [input]) :=
    List.append_assoc ..
  have hmeter := hmetered.snoc hspent harrived.later
  split
  · rename_i hcontact
    refine ⟨o, approach, input, [], hinputs, hmoving.snoc hmoves, ?_, hmeter,
      hstart, hdeadline⟩
    exact Touching.begin (hstart ▸ hcontact)
  · simp only [Staged, Session.accept, Session.metered, hstate]
    exact ⟨o, approach ++ [input], hinputs, hmoving.snoc hmoves,
      hmeter, hstart, hdeadline⟩

/-! ## §3. Counting a dwell. -/

/-- The counter of a running dwell has room for one more sample, and the sum of
    the positions stays finite with it. -/
def Counts (s : Session F) (input : RecipeInput F) : Prop :=
  s.state = .contactDwell ∨ (s.state = .reapproach ∧ s.secondContactActive = true) →
    s.contactSamples.toNat + 1 < 2 ^ 32 ∧
      Floating.isFinite (s.contactSumQ + input.encoder.qOutputRad) = true

theorem toNat_succ {n : UInt32} (h : n.toNat + 1 < 2 ^ 32) : (n + 1).toNat = n.toNat + 1 := by
  rw [UInt32.toNat_add]
  exact Nat.mod_eq_of_lt h

omit [FloatMean F] in
/-- A dwell goes on with one more sample in contact. -/
theorem Touching.snoc {start : F} {first : RecipeInput F} {more : List (RecipeInput F)}
    {since : UInt64} {count : UInt32} {sum : F}
    (h : Touching recipe start first more since count sum)
    (hcontact : contactEvidence recipe input
      (directionalTravel start input.encoder.qOutputRad recipe.approachDirection))
    (hroom : count.toNat + 1 < 2 ^ 32) :
    Touching recipe start first (more ++ [input]) since (count + 1)
      (sum + input.encoder.qOutputRad) where
  contact x hx := by
    rw [← List.cons_append] at hx
    rcases List.mem_append.mp hx with hx | hx
    · exact h.contact x hx
    · exact (List.mem_singleton.mp hx) ▸ hcontact
  since := h.since
  count := by
    rw [toNat_succ hroom, h.count]
    simp
  sum := by
    rw [h.sum, ← List.cons_append, positionSum_snoc (by simp)]

/-- **A dwell that has lasted shows a stop**, and its mean is finite. -/
theorem Touching.shows {start : F} {first : RecipeInput F} {more : List (RecipeInput F)}
    (h : Touching recipe start first (more ++ [input]) s.dwellStartNs s.contactSamples
      s.contactSumQ)
    (hrecipe : s.recipe = recipe)
    (hnewer : Newer first input) (hlasted : ¬ s.dwelling input)
    (hsum : Floating.isFinite s.contactSumQ = true) :
    (ContactRun.mk first more input).Shows recipe start ∧
      s.contactMean = (ContactRun.mk first more input).mean ∧
      Floating.isFinite (ContactRun.mk first more input).mean = true := by
  obtain ⟨htime, hcount⟩ := not_or.mp hlasted
  rw [hrecipe] at htime hcount
  have hmean : s.contactMean = (ContactRun.mk first more input).mean := by
    show s.contactSumQ / _ = positionSum _ / _
    rw [h.sum, h.count]
    rfl
  refine ⟨⟨h.contact, ?_, ?_⟩, hmean, ?_⟩
  · have henough := UInt32.le_iff_toNat_le.mp (UInt32.not_lt.mp hcount)
    rwa [h.count] at henough
  · have hle : first.encoder.sampleTimeNs ≤ input.encoder.sampleTimeNs :=
      UInt64.le_of_lt hnewer.2
    have hspan := UInt64.le_iff_toNat_le.mp (UInt64.not_lt.mp htime)
    rw [h.since, UInt64.toNat_sub_of_le _ _ hle] at hspan
    have hle' := UInt64.le_iff_toNat_le.mp hle
    show first.encoder.sampleTimeNs.toNat + _ ≤ input.encoder.sampleTimeNs.toNat
    omega
  · rw [← hmean]
    refine FloatMean.isFinite_div hsum ?_
    rw [h.count]
    exact Nat.succ_pos _

theorem stepContactDwell_staged (h : Staged recipe inputs s) (hstate : s.state = .contactDwell)
    (harrived : Arrived recipe inputs s input) (hcounts : Counts s input) :
    Staged recipe (inputs ++ [input]) (s.stepContactDwell input).1 := by
  obtain rfl := harrived.recipe_eq
  obtain ⟨hroom, hfinite⟩ := hcounts (.inl hstate)
  simp only [Staged, hstate] at h
  obtain ⟨o, approach, first, more, rfl, hmoving, htouch, hmetered, hstart, hdeadline⟩ := h
  have hnewer : Newer first input := harrived.newer first (by simp)
  unfold Session.stepContactDwell
  refine motion_rule harrived.valid harrived.admitted.finite hmetered.running
    fun hdriven hspent => ?_
  dsimp only
  split
  · exact staged_of_abort rfl
  rename_i htime
  split
  · exact staged_of_abort rfl
  rename_i htravel
  obtain ⟨hbelow, hcontact⟩ := not_or.mp htravel
  replace hcontact := not_not.mp hcontact
  have hmoves : Moving s.recipe o.start o.deadline input :=
    { hdriven with
      above := hstart ▸ harrived.above_of_contact hcontact
      below := hstart ▸ hbelow
      inTime := hdeadline ▸ UInt64.not_lt.mp htime }
  have hmotion : approach ++ first :: more ++ [input] = approach ++ first :: (more ++ [input]) := by
    simp
  have hinputs : o.inputs ++ (approach ++ first :: more) ++ [input] =
      o.inputs ++ (approach ++ first :: (more ++ [input])) := by
    rw [List.append_assoc, hmotion]
  have hmoved := hmotion ▸ hmoving.snoc hmoves
  have hmeter := hmotion ▸ hmetered.snoc hspent harrived.later
  have htouched := htouch.snoc (hstart ▸ hcontact) hroom
  split
  · simp only [Staged, Session.accept, Session.metered, Session.touch, hstate]
    exact ⟨o, approach, first, more ++ [input], hinputs, hmoved,
      htouched, hmeter, hstart, hdeadline⟩
  · rename_i hlasted
    obtain ⟨hshows, hmean, hmeanFinite⟩ := Touching.shows
      (s := (s.metered input).touch input) htouched rfl hnewer hlasted hfinite
    let f : FirstStop s.recipe :=
      { o with
        approach := approach
        firstRun := ⟨first, more, input⟩
        approach_moving := hmoved
        first_shows := hshows }
    refine ⟨f, [], ?_, by simp [AllMoving], ?_, hstart, rfl, rfl, hmean, hmeanFinite⟩
    · rw [List.append_nil]
      exact hinputs
    · rw [List.append_nil]
      exact hmeter

theorem stepRetreat_staged (h : Staged recipe inputs s) (hstate : s.state = .retreat)
    (harrived : Arrived recipe inputs s input) :
    Staged recipe (inputs ++ [input]) (s.stepRetreat input).1 := by
  obtain rfl := harrived.recipe_eq
  simp only [Staged, hstate] at h
  obtain ⟨f, retreat, rfl, hmoving, hmetered, hstart, hdeadline, hphase, hfirst, hfinite⟩ := h
  unfold Session.stepRetreat
  refine motion_rule harrived.valid harrived.admitted.finite hmetered.running
    fun hdriven hspent => ?_
  dsimp only
  split
  · exact staged_of_abort rfl
  rename_i htravel
  split
  · exact staged_of_abort rfl
  rename_i htime
  simp only [not_or] at htravel
  obtain ⟨-, -, habove, hbelow⟩ := htravel
  have hmoves : Moving s.recipe f.toOpening.start f.retreatDeadline input :=
    { hdriven with
      above := hstart ▸ habove
      below := hstart ▸ hbelow
      inTime := hdeadline ▸ UInt64.not_lt.mp htime }
  have hmoved := hmoving.snoc hmoves
  have hinputs : f.toOpening.inputs ++ (f.motion ++ retreat) ++ [input] =
      f.toOpening.inputs ++ (f.motion ++ (retreat ++ [input])) := by
    simp only [List.append_assoc]
  have hmeter : Metered s.recipe f.toOpening.meter (f.motion ++ (retreat ++ [input]))
      (s.metered input).meter := by
    rw [← List.append_assoc]
    exact hmetered.snoc hspent harrived.later
  split
  · rename_i hfar
    let r : Retreated s.recipe :=
      { f with
        retreat := retreat
        retreated := input
        retreat_moving := hmoved
        retreat_far := hphase ▸ hfar.1 }
    refine ⟨r, [], ?_, by simp [AllMoving], ?_, hstart, rfl, rfl, hfirst, hfinite, nofun⟩
    · rw [List.append_nil]
      exact hinputs
    · rw [List.append_nil]
      exact hmeter
  · simp only [Staged, Session.accept, Session.metered, hstate]
    exact ⟨f, retreat ++ [input], hinputs, hmoved, hmeter, hstart, hdeadline, hphase,
      hfirst, hfinite⟩

theorem stepReapproach_staged (h : Staged recipe inputs s) (hstate : s.state = .reapproach)
    (harrived : Arrived recipe inputs s input) (hcounts : Counts s input) :
    Staged recipe (inputs ++ [input]) (s.stepReapproach input).1 := by
  obtain rfl := harrived.recipe_eq
  simp only [Staged, hstate] at h
  obtain ⟨r, reapproach, rfl, hmoving, hmetered, hstart, hdeadline, hphase, hfirst, hfinite,
    htouching⟩ := h
  unfold Session.stepReapproach
  refine motion_rule harrived.valid harrived.admitted.finite hmetered.running
    fun hdriven hspent => ?_
  dsimp only
  split
  · exact staged_of_abort rfl
  rename_i htravel
  split
  · exact staged_of_abort rfl
  rename_i htime
  simp only [not_or] at htravel
  obtain ⟨-, habove, hbelow⟩ := htravel
  -- the sample is one more of the motion that began with the retreat
  have hmoves : Moving s.recipe r.toOpening.start r.reapproachDeadline input :=
    { hdriven with
      above := hstart ▸ habove
      below := hstart ▸ hbelow
      inTime := hdeadline ▸ UInt64.not_lt.mp htime }
  have hmoved := hmoving.snoc hmoves
  have hinputs : r.toOpening.inputs ++ (r.motion ++ reapproach) ++ [input] =
      r.toOpening.inputs ++ (r.motion ++ (reapproach ++ [input])) := by
    simp only [List.append_assoc]
  have hmeter : Metered s.recipe r.toOpening.meter (r.motion ++ (reapproach ++ [input]))
      (s.metered input).meter := by
    rw [← List.append_assoc]
    exact hmetered.snoc hspent harrived.later
  split
  · -- the second dwell goes on
    rename_i hactive
    obtain ⟨front, first, more, rfl, htouch⟩ := htouching hactive
    obtain ⟨hroom, hsum⟩ := hcounts (.inr ⟨hstate, hactive⟩)
    have hnewer : Newer first input := harrived.newer first (by simp)
    have hmotion : front ++ first :: more ++ [input] = front ++ first :: (more ++ [input]) := by
      simp
    split
    · exact staged_of_abort rfl
    rename_i hcontact
    replace hcontact := not_not.mp hcontact
    have htouched := htouch.snoc (hphase ▸ hcontact) hroom
    split
    · simp only [Staged, Session.accept, Session.metered, Session.touch, hstate]
      exact ⟨r, front ++ first :: more ++ [input], hinputs, hmoved, hmeter, hstart,
        hdeadline, hphase, hfirst, hfinite, fun _ => ⟨front, first, more ++ [input], hmotion,
          htouched⟩⟩
    · rename_i hlasted
      obtain ⟨hshows, hmean, hmeanFinite⟩ := Touching.shows
        (s := (s.metered input).touch input) htouched rfl hnewer hlasted hsum
      rw [hmotion] at hinputs hmoved hmeter
      let stop : SecondStop s.recipe :=
        { r with
          reapproach := front
          secondRun := ⟨first, more, input⟩
          reapproach_moving := hmoved
          second_shows := hshows }
      exact ⟨stop, hinputs, hmeter.within, hfirst, hmean, hfinite, hmeanFinite⟩
  · rename_i hinactive
    split
    · -- the second dwell begins
      rename_i hcontact
      simp only [Staged, Session.accept, Session.metered, hstate]
      exact ⟨r, reapproach ++ [input], hinputs, hmoved, hmeter, hstart, hdeadline,
        hphase, hfirst, hfinite, fun _ => ⟨reapproach, input, [], rfl,
          Touching.begin (hphase ▸ hcontact)⟩⟩
    · simp only [Staged, Session.accept, Session.metered, hstate]
      exact ⟨r, reapproach ++ [input], hinputs, hmoved, hmeter, hstart, hdeadline,
        hphase, hfirst, hfinite, fun hactive => absurd hactive hinactive⟩

theorem stepRepeatability_staged (h : Staged recipe inputs s) (hstate : s.state = .repeatability)
    (harrived : Arrived recipe inputs s input) :
    Staged recipe (inputs ++ [input]) (s.stepRepeatability input).1 := by
  obtain rfl := harrived.recipe_eq
  simp only [Staged, hstate] at h
  obtain ⟨stop, rfl, henergy, hfirst, hsecond, hfirstFinite, hsecondFinite⟩ := h
  unfold Session.stepRepeatability
  split
  · exact staged_of_abort rfl
  rename_i hdrive
  split
  · exact staged_of_abort rfl
  rename_i hclose
  simp only [not_or, not_not] at hdrive
  obtain ⟨hestop, hdeadman, hdisabled⟩ := hdrive
  have htolerance : Floating.isFinite s.recipe.repeatabilityToleranceRad = true :=
    finite_of_validRecipe harrived.valid (by simp [Recipe.numbers])
  rw [hfirst, hsecond] at hclose
  let r : Repeated s.recipe :=
    { stop with
      repeatability := input
      repeatability_resting := ⟨hestop, hdisabled⟩
      repeatability_deadman := hdeadman
      repeatability_close :=
        Floating.le_of_not_lt (FloatOrder.le_self_of_isFinite htolerance)
          (FloatOrder.abs_sub_self hsecondFinite hfirstFinite) hclose
      energy := henergy }
  refine ⟨r, [], by simp [Repeated.inputs, r], by simp, rfl, ?_⟩
  show _ - _ * _ * (s.firstStopQ + s.secondStopQ) = _
  rw [hfirst, hsecond]

omit [FloatMean F] in
theorem stepCandidate_staged (h : Staged recipe inputs s) (hstate : s.state = .candidate) :
    Staged recipe (inputs ++ [input]) (s.stepCandidate input).1 := by
  simp only [Staged, hstate] at h
  obtain ⟨r, reviews, rfl, hreviews, hoffers⟩ := h
  unfold Session.stepCandidate
  split
  · exact staged_of_abort rfl
  rename_i hdrive
  simp only [not_or, not_not] at hdrive
  have hrest : Resting input := ⟨hdrive.1, hdrive.2⟩
  split
  · exact staged_of_abort rfl
  split
  · rename_i haccept
    exact ⟨r, reviews, input, [], List.append_assoc .., hreviews, hrest, haccept, by simp, by simp,
      hoffers⟩
  · simp only [Staged, Session.accept, hstate]
    exact ⟨r, reviews ++ [input], List.append_assoc .., resting_snoc hreviews hrest, hoffers⟩

omit [FloatMean F] in
theorem stepReview_staged (h : Staged recipe inputs s) (hstate : s.state = .review) :
    Staged recipe (inputs ++ [input]) (s.stepReview input).1 := by
  simp only [Staged, hstate] at h
  obtain ⟨r, reviews, accepted, later, rfl, hreviews, haccepted, hdecision, hlater, hkept,
    hoffers⟩ := h
  unfold Session.stepReview
  split
  · exact staged_of_abort rfl
  rename_i hdrive
  simp only [not_or, not_not] at hdrive
  obtain ⟨hestop, hdisabled, hreject⟩ := hdrive
  simp only [Staged, Session.accept, hstate]
  refine ⟨r, reviews, accepted, later ++ [input], by simp, hreviews, haccepted, hdecision,
    resting_snoc hlater ⟨hestop, hdisabled⟩, ?_, hoffers⟩
  intro x hx
  rcases List.mem_append.mp hx with hx | hx
  · exact hkept x hx
  · exact (List.mem_singleton.mp hx) ▸ hreject

/-! ## §4. A whole step. -/

/-- Every case of the `switch` carries the reading on. -/
theorem dispatch_staged (h : Staged recipe inputs s) (harrived : Arrived recipe inputs s input)
    (hcounts : Counts s input) : Staged recipe (inputs ++ [input]) (s.dispatch input).1 := by
  unfold Session.dispatch
  split
  · exact stepPrecheck_staged h ‹_› harrived
  · exact stepWait_staged h ‹_› harrived
  · exact stepApproach_staged h ‹_› harrived
  · exact stepContactDwell_staged h ‹_› harrived hcounts
  · exact stepRetreat_staged h ‹_› harrived
  · exact stepReapproach_staged h ‹_› harrived hcounts
  · exact stepRepeatability_staged h ‹_› harrived
  · exact stepCandidate_staged h ‹_›
  · exact stepReview_staged h ‹_›
  · exact staged_of_abort rfl
  · exact staged_of_abort rfl

end States

/-- The recipe and the clock of the samples are as they were. -/
structure SameClock (s t : Session F) : Prop where
  recipe : t.recipe = s.recipe
  lastFeedbackSeq : t.lastFeedbackSeq = s.lastFeedbackSeq
  lastSampleTimeNs : t.lastSampleTimeNs = s.lastSampleTimeNs

omit [Floating F] in
theorem SameClock.trans {s t u : Session F} (h : SameClock s t) (k : SameClock t u) :
    SameClock s u :=
  ⟨k.recipe.trans h.recipe, k.lastFeedbackSeq.trans h.lastFeedbackSeq,
    k.lastSampleTimeNs.trans h.lastSampleTimeNs⟩

namespace Session

theorem enforceMotionLimits_clock (s : Session F) (input : RecipeInput F) :
    SameClock s (s.enforceMotionLimits input).1 := by
  unfold enforceMotionLimits updateEnergy
  split
  · exact ⟨rfl, rfl, rfl⟩
  split
  · exact ⟨rfl, rfl, rfl⟩
  split
  · exact ⟨rfl, rfl, rfl⟩
  split
  · exact ⟨rfl, rfl, rfl⟩
  · dsimp only
    split <;> exact ⟨rfl, rfl, rfl⟩

theorem whileSafe_clock {next : Session F → Stepped F} (s : Session F) (input : RecipeInput F)
    (hnext : ∀ t, SameClock t (next t).1) : SameClock s (s.whileSafe input next).1 := by
  have hlimits := s.enforceMotionLimits_clock input
  unfold whileSafe
  dsimp only
  split
  · exact hlimits
  · exact hlimits.trans (hnext _)

/-- Only `validate_input` moves the clock of the samples. -/
theorem dispatch_clock (s : Session F) (input : RecipeInput F) :
    SameClock s (s.dispatch input).1 := by
  unfold dispatch
  split
  · unfold stepPrecheck
    split <;> exact ⟨rfl, rfl, rfl⟩
  · unfold stepWait
    split_ifs <;> exact ⟨rfl, rfl, rfl⟩
  · refine whileSafe_clock s input fun t => ?_
    dsimp only
    split_ifs <;> exact ⟨rfl, rfl, rfl⟩
  · refine whileSafe_clock s input fun t => ?_
    dsimp only
    split_ifs <;> exact ⟨rfl, rfl, rfl⟩
  · refine whileSafe_clock s input fun t => ?_
    dsimp only
    split_ifs <;> exact ⟨rfl, rfl, rfl⟩
  · refine whileSafe_clock s input fun t => ?_
    dsimp only
    split_ifs <;> exact ⟨rfl, rfl, rfl⟩
  · unfold stepRepeatability
    split_ifs <;> exact ⟨rfl, rfl, rfl⟩
  · unfold stepCandidate
    split_ifs <;> exact ⟨rfl, rfl, rfl⟩
  · unfold stepReview
    split <;> exact ⟨rfl, rfl, rfl⟩
  · exact ⟨rfl, rfl, rfl⟩
  · exact ⟨rfl, rfl, rfl⟩

end Session

/-- The inputs of a session that is still open: all admitted, each newer than
    those before, and none newer than the session knows. -/
structure Taken (recipe : Recipe F) (inputs : List (RecipeInput F)) (s : Session F) : Prop where
  admitted : ∀ x ∈ inputs, Admitted recipe x
  increasing : inputs.Pairwise Newer
  known : ∀ x ∈ inputs, x.encoder.feedbackSeq ≤ s.lastFeedbackSeq ∧
    x.encoder.sampleTimeNs ≤ s.lastSampleTimeNs

/-- The reading of a session and of its inputs. -/
structure Carried (recipe : Recipe F) (inputs : List (RecipeInput F)) (s : Session F) : Prop where
  recipe_eq : s.recipe = recipe
  staged : Staged recipe inputs s
  taken : s.state ≠ .abort → s.state ≠ .commit → Taken recipe inputs s

theorem carried_create (recipe : Recipe F) : Carried recipe [] (Session.create recipe) where
  recipe_eq := rfl
  staged := ⟨rfl, rfl⟩
  taken _ _ := ⟨by simp, List.Pairwise.nil, by simp⟩

section Runs

variable {recipe : Recipe F} {inputs : List (RecipeInput F)} {s : Session F}
  {input : RecipeInput F}

/-- One more admitted input. -/
theorem Taken.snoc {t : Session F} (h : Taken recipe inputs s) (hadmitted : Admitted recipe input)
    (hnewer : ∀ x ∈ inputs, Newer x input)
    (hseq : t.lastFeedbackSeq = input.encoder.feedbackSeq)
    (htime : t.lastSampleTimeNs = input.encoder.sampleTimeNs) :
    Taken recipe (inputs ++ [input]) t where
  admitted x hx := by
    rcases List.mem_append.mp hx with hx | hx
    · exact h.admitted x hx
    · exact (List.mem_singleton.mp hx) ▸ hadmitted
  increasing := by
    rw [List.pairwise_append]
    refine ⟨h.increasing, List.pairwise_singleton .., fun x hx y hy => ?_⟩
    rw [List.mem_singleton.mp hy]
    exact hnewer x hx
  known x hx := by
    rw [hseq, htime]
    rcases List.mem_append.mp hx with hx | hx
    · exact ⟨UInt64.le_of_lt (hnewer x hx).1, UInt64.le_of_lt (hnewer x hx).2⟩
    · rw [List.mem_singleton.mp hx]
      exact ⟨UInt64.le_refl _, UInt64.le_refl _⟩

variable [FloatMean F]

/-- **A step adds its input to the reading**, or the session is closed. -/
theorem carried_step (h : Carried recipe inputs s) (hvalid : validRecipe recipe = true)
    (hcounts : Counts s input) : Carried recipe (inputs ++ [input]) (s.step input).1 := by
  unfold Session.step
  split
  · rename_i habort
    exact ⟨h.recipe_eq, staged_of_abort habort, fun hnot => absurd habort hnot⟩
  rename_i habort
  split
  · rename_i hcommit
    refine ⟨h.recipe_eq, ?_, fun _ hnot => absurd hcommit hnot⟩
    unfold Staged
    rw [hcommit]
    trivial
  rename_i hcommit
  have htaken := h.taken habort hcommit
  rcases s.validateInput_cases input with ⟨hbad, hfailed⟩ | ⟨hok, hadmitted, hseq, htime⟩
  · dsimp only
    rw [if_pos hbad]
    exact ⟨(s.validateInput_recipe input).trans h.recipe_eq, staged_of_abort hfailed,
      fun hnot => absurd hfailed hnot⟩
  · rw [hok]
    dsimp only
    rw [if_neg (by simp)]
    rw [h.recipe_eq] at hadmitted
    have hnewer : ∀ x ∈ inputs, Newer x input := fun x hx =>
      ⟨UInt64.lt_of_le_of_lt (htaken.known x hx).1 hseq,
        UInt64.lt_of_le_of_lt (htaken.known x hx).2 htime⟩
    have harrived : Arrived recipe inputs (s.sampled input) input :=
      ⟨h.recipe_eq, hvalid, hadmitted, hnewer, (UInt64.pos_iff_ne_zero).mp
        (UInt64.lt_of_le_of_lt UInt64.zero_le htime)⟩
    have hclock := (s.sampled input).dispatch_clock input
    exact ⟨hclock.recipe.trans h.recipe_eq, dispatch_staged h.staged harrived hcounts,
      fun _ _ => htaken.snoc hadmitted hnewer hclock.lastFeedbackSeq hclock.lastSampleTimeNs⟩

end Runs

end OpenArm.Commission
