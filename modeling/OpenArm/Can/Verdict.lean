/-
  OpenArm.Can.Verdict — what a report of the probe counts.

  The filters put every frame into one category, and a report is a tally of
  categories: counters count them, and bit `i` of a mask says whether a
  category of motor `i` occurred.  A tally does not see the order.

  Main results:
    * `tally_tallied`  — every member of a report by the categories counted.
    * `Tallied.perm`   — the order of the frames does not matter.
    * `category_named` — the category of a frame that a motor sent.
-/
import OpenArm.Can.Probe

namespace OpenArm.Can

open OpenArm.Lib

variable {F : Type} [Wire F]

/-! ## §1. Categories. -/

/-- What a received frame is counted as; an answer of a motor carries its
    index. -/
inductive Category where
  | invalid | unexpected | stale
  | enabled (motor : Nat)
  | faulted (motor : Nat)
  | fresh (motor : Nat)
  deriving DecidableEq

/-- The category of a frame. -/
def category (motors : List (MotorManifest F)) (epochs : List Nat) (deadlineNs : Nat)
    (received : ReceivedFrame) : Category :=
  if !received.valid || decide (deadlineNs < received.receivedMonotonicNs) then .invalid
  else match matchingMotor motors received.frame.canId with
    | none => .unexpected
    | some (matching, motor) =>
      if received.receivedMonotonicNs ≤ epochs.getD matching 0 then .stale
      else match motor.decode received.frame with
        | (_, none) => .invalid
        | (result, some feedback) =>
          if feedback.statusNibble = feedbackEnabled then .enabled matching
          else if result = .efault then .faulted matching
          else .fresh matching

/-- A report counts one more frame of a category. -/
def ProbeReport.count (report : ProbeReport) (cat : Category) : ProbeReport :=
  let report := { report with receivedFrames := report.receivedFrames + 1 }
  match cat with
  | .invalid => { report with invalidFrames := report.invalidFrames + 1 }
  | .unexpected => { report with unexpectedFrames := report.unexpectedFrames + 1 }
  | .stale => { report with staleFrames := report.staleFrames + 1 }
  | .enabled motor => { report with enabledMask := report.enabledMask ||| 1 <<< motor }
  | .faulted motor => { report with faultMask := report.faultMask ||| 1 <<< motor }
  | .fresh motor =>
    { report with
      duplicateMask :=
        if report.freshMask &&& 1 <<< motor ≠ 0 then report.duplicateMask ||| 1 <<< motor
        else report.duplicateMask
      freshMask := report.freshMask ||| 1 <<< motor }

/-- **One frame is counted once.** -/
theorem probeFrame_eq (motors : List (MotorManifest F)) (epochs : List Nat)
    (report : ProbeReport) (received : ReceivedFrame) :
    probeFrame motors epochs report received =
      report.count (category motors epochs report.deadlineMonotonicNs received) := by
  unfold probeFrame category
  dsimp only
  split
  · rfl
  cases matchingMotor motors received.frame.canId with
  | none => rfl
  | some found =>
    obtain ⟨matching, motor⟩ := found
    dsimp only
    split
    · rfl
    obtain ⟨result, feedback⟩ := motor.decode received.frame
    cases feedback with
    | none => rfl
    | some feedback =>
      dsimp only
      split
      · rfl
      split
      · rfl
      · rfl

/-! ## §2. Tallies. -/

/-- A report after the categories of a list. -/
def ProbeReport.tally (report : ProbeReport) (cats : List Category) : ProbeReport :=
  cats.foldl ProbeReport.count report

theorem tally_snoc (report : ProbeReport) (cats : List Category) (cat : Category) :
    report.tally (cats ++ [cat]) = (report.tally cats).count cat := by
  unfold ProbeReport.tally
  rw [List.foldl_append]
  rfl

theorem testBit_set (mask bit i : Nat) :
    (mask ||| 1 <<< bit).testBit i = (mask.testBit i || decide (bit = i)) := by
  rw [Nat.testBit_lor, Nat.shiftLeft_eq, Nat.one_mul, Nat.testBit_two_pow]

/-- A bit of a mask, as the code tests it. -/
theorem and_bit_ne_zero (mask bit : Nat) : mask &&& 1 <<< bit ≠ 0 ↔ mask.testBit bit = true := by
  rw [Nat.shiftLeft_eq, Nat.one_mul]
  constructor
  · intro h
    obtain ⟨i, hi⟩ := Nat.exists_testBit_of_ne_zero h
    rw [Nat.testBit_land, Nat.testBit_two_pow, Bool.and_eq_true, decide_eq_true_eq] at hi
    rw [hi.2]
    exact hi.1
  · intro h hzero
    have hbit : (mask &&& 2 ^ bit).testBit bit = true := by
      rw [Nat.testBit_land, h, Nat.testBit_two_pow]
      simp
    rw [hzero, Nat.zero_testBit] at hbit
    cases hbit

/-! What one more category adds to each member. -/

theorem count_received (report : ProbeReport) (cat : Category) :
    (report.count cat).receivedFrames = report.receivedFrames + 1 := by
  cases cat <;> rfl

theorem count_invalid (report : ProbeReport) (cat : Category) :
    (report.count cat).invalidFrames = report.invalidFrames + [cat].count .invalid := by
  cases cat <;> rfl

theorem count_unexpected (report : ProbeReport) (cat : Category) :
    (report.count cat).unexpectedFrames = report.unexpectedFrames + [cat].count .unexpected := by
  cases cat <;> rfl

theorem count_stale (report : ProbeReport) (cat : Category) :
    (report.count cat).staleFrames = report.staleFrames + [cat].count .stale := by
  cases cat <;> rfl

theorem count_enabled (report : ProbeReport) (cat : Category) (i : Nat) :
    (report.count cat).enabledMask.testBit i =
      (report.enabledMask.testBit i || decide (.enabled i ∈ [cat])) := by
  cases cat with
  | enabled motor =>
    show (report.enabledMask ||| 1 <<< motor).testBit i = _
    rw [testBit_set]
    simp [eq_comm]
  | _ => simp [ProbeReport.count]

theorem count_faulted (report : ProbeReport) (cat : Category) (i : Nat) :
    (report.count cat).faultMask.testBit i =
      (report.faultMask.testBit i || decide (.faulted i ∈ [cat])) := by
  cases cat with
  | faulted motor =>
    show (report.faultMask ||| 1 <<< motor).testBit i = _
    rw [testBit_set]
    simp [eq_comm]
  | _ => simp [ProbeReport.count]

theorem count_fresh (report : ProbeReport) (cat : Category) (i : Nat) :
    (report.count cat).freshMask.testBit i =
      (report.freshMask.testBit i || decide (.fresh i ∈ [cat])) := by
  cases cat with
  | fresh motor =>
    show (report.freshMask ||| 1 <<< motor).testBit i = _
    rw [testBit_set]
    simp [eq_comm]
  | _ => simp [ProbeReport.count]

/-- A second fresh answer of a motor makes it a duplicate. -/
theorem count_duplicate (report : ProbeReport) (cat : Category) (i : Nat) :
    (report.count cat).duplicateMask.testBit i =
      (report.duplicateMask.testBit i ||
        (report.freshMask.testBit i && decide (.fresh i ∈ [cat]))) := by
  cases cat with
  | fresh motor =>
    show (if report.freshMask &&& 1 <<< motor ≠ 0 then report.duplicateMask ||| 1 <<< motor
      else report.duplicateMask).testBit i = _
    by_cases hseen : report.freshMask &&& 1 <<< motor ≠ 0
    · rw [if_pos hseen, testBit_set]
      rw [and_bit_ne_zero] at hseen
      by_cases hi : motor = i
      · subst hi
        simp [hseen]
      · simp [hi, Ne.symm hi]
    · rw [if_neg hseen]
      rw [and_bit_ne_zero, Bool.not_eq_true] at hseen
      by_cases hi : motor = i
      · subst hi
        simp [hseen]
      · simp [Ne.symm hi]
  | _ => simp [ProbeReport.count]

/-- What a report has counted: the categories `cats`. -/
structure Tallied (before after : ProbeReport) (cats : List Category) : Prop where
  received : after.receivedFrames = cats.length
  invalid : after.invalidFrames = cats.count .invalid
  unexpected : after.unexpectedFrames = cats.count .unexpected
  stale : after.staleFrames = cats.count .stale
  enabled : ∀ i, after.enabledMask.testBit i = decide (.enabled i ∈ cats)
  faulted : ∀ i, after.faultMask.testBit i = decide (.faulted i ∈ cats)
  fresh : ∀ i, after.freshMask.testBit i = decide (.fresh i ∈ cats)
  duplicate : ∀ i, after.duplicateMask.testBit i = decide (2 ≤ cats.count (.fresh i))
  expected : after.expectedMask = before.expectedMask
  deadline : after.deadlineMonotonicNs = before.deadlineMonotonicNs
  limit : after.receiveLimitReached = before.receiveLimitReached

/-- One more category. -/
theorem Tallied.snoc {before after : ProbeReport} {cats : List Category}
    (h : Tallied before after cats) (cat : Category) :
    Tallied before (after.count cat) (cats ++ [cat]) := by
  refine ⟨?_, ?_, ?_, ?_, fun i => ?_, fun i => ?_, fun i => ?_, fun i => ?_, ?_, ?_, ?_⟩
  · rw [count_received, h.received, List.length_append, List.length_singleton]
  · rw [count_invalid, h.invalid, List.count_append]
  · rw [count_unexpected, h.unexpected, List.count_append]
  · rw [count_stale, h.stale, List.count_append]
  · rw [count_enabled, h.enabled, ← Bool.decide_or]
    exact decide_eq_decide.mpr List.mem_append.symm
  · rw [count_faulted, h.faulted, ← Bool.decide_or]
    exact decide_eq_decide.mpr List.mem_append.symm
  · rw [count_fresh, h.fresh, ← Bool.decide_or]
    exact decide_eq_decide.mpr List.mem_append.symm
  · rw [count_duplicate, h.duplicate, h.fresh, ← Bool.decide_and, ← Bool.decide_or]
    refine decide_eq_decide.mpr ?_
    have hold := List.count_pos_iff (a := Category.fresh i) (l := cats)
    have hnew := List.count_pos_iff (a := Category.fresh i) (l := [cat])
    have hone : [cat].count (.fresh i) ≤ 1 := List.count_le_length
    rw [← hold, ← hnew, List.count_append]
    omega
  · exact Eq.trans (by cases cat <;> rfl) h.expected
  · exact Eq.trans (by cases cat <;> rfl) h.deadline
  · exact Eq.trans (by cases cat <;> rfl) h.limit

/-- A report that has received nothing. -/
structure ProbeReport.Blank (report : ProbeReport) : Prop where
  received : report.receivedFrames = 0
  invalid : report.invalidFrames = 0
  unexpected : report.unexpectedFrames = 0
  stale : report.staleFrames = 0
  enabled : report.enabledMask = 0
  faulted : report.faultMask = 0
  fresh : report.freshMask = 0
  duplicate : report.duplicateMask = 0

/-- **A report is the tally of its categories.** -/
theorem tally_tallied {report : ProbeReport} (hblank : report.Blank) (cats : List Category) :
    Tallied report (report.tally cats) cats := by
  induction cats using List.reverseRecOn with
  | nil =>
    refine ⟨hblank.received, hblank.invalid, hblank.unexpected, hblank.stale, fun i => ?_,
      fun i => ?_, fun i => ?_, fun i => ?_, rfl, rfl, rfl⟩
    · show report.enabledMask.testBit i = _
      rw [hblank.enabled]
      simp
    · show report.faultMask.testBit i = _
      rw [hblank.faulted]
      simp
    · show report.freshMask.testBit i = _
      rw [hblank.fresh]
      simp
    · show report.duplicateMask.testBit i = _
      rw [hblank.duplicate]
      simp
  | append_singleton cats cat ih =>
    rw [tally_snoc]
    exact ih.snoc cat

/-- The masks and the counters of a tally do not see the order. -/
theorem Tallied.perm {before before' after after' : ProbeReport} {cats cats' : List Category}
    (h : Tallied before after cats) (h' : Tallied before' after' cats') (hperm : cats.Perm cats') :
    after.enabledMask = after'.enabledMask ∧ after.faultMask = after'.faultMask ∧
      after.freshMask = after'.freshMask ∧ after.duplicateMask = after'.duplicateMask ∧
        after.staleFrames = after'.staleFrames := by
  refine ⟨?_, ?_, ?_, ?_, ?_⟩
  · refine Nat.eq_of_testBit_eq fun i => ?_
    rw [h.enabled, h'.enabled]
    exact decide_eq_decide.mpr hperm.mem_iff
  · refine Nat.eq_of_testBit_eq fun i => ?_
    rw [h.faulted, h'.faulted]
    exact decide_eq_decide.mpr hperm.mem_iff
  · refine Nat.eq_of_testBit_eq fun i => ?_
    rw [h.fresh, h'.fresh]
    exact decide_eq_decide.mpr hperm.mem_iff
  · refine Nat.eq_of_testBit_eq fun i => ?_
    rw [h.duplicate, h'.duplicate, hperm.count_eq]
  · rw [h.stale, h'.stale, hperm.count_eq]

/-- The three categories an answer of a motor can have. -/
def Category.isEnabled : Category → Bool
  | .enabled _ => true
  | _ => false

@[inherit_doc Category.isEnabled] def Category.isFaulted : Category → Bool
  | .faulted _ => true
  | _ => false

@[inherit_doc Category.isEnabled] def Category.isFresh : Category → Bool
  | .fresh _ => true
  | _ => false

/-- Every category is one of six. -/
theorem length_eq_counts (cats : List Category) :
    cats.length = cats.count .invalid + cats.count .unexpected + cats.count .stale +
      cats.countP (·.isEnabled) + cats.countP (·.isFaulted) + cats.countP (·.isFresh) := by
  induction cats with
  | nil => rfl
  | cons cat cats ih =>
    rw [List.length_cons, ih]
    simp only [List.count_cons, List.countP_cons]
    cases cat <;>
      simp only [Category.isEnabled, Category.isFaulted, Category.isFresh, beq_self_eq_true,
        reduceCtorEq, beq_iff_eq, Bool.false_eq_true, if_true, if_false] <;> omega

/-! ## §3. Categories in the words of the protocol. -/

/-- Well formed and within the deadline. -/
def ReceivedFrame.timely (received : ReceivedFrame) (deadlineNs : Nat) : Bool :=
  received.valid && decide (received.receivedMonotonicNs ≤ deadlineNs)

/-- The frame decodes for the motor and reports DISABLED. -/
def MotorManifest.answersDisabled (motor : MotorManifest F) (frame : Frame) : Bool :=
  match motor.decode frame with
  | (_, some feedback) => feedback.statusNibble == feedbackDisabled
  | (_, none) => false

/-- The statuses of a fault. -/
def faultStatus (status : Nat) : Prop := 8 ≤ status ∧ status ≤ 14

/-- What a decoded record says of its status. -/
theorem decode_some {motor : MotorManifest F} {frame : Frame} {result : CanStatus}
    {feedback : Feedback F} (h : motor.decode frame = (result, some feedback)) :
    (feedback.statusNibble = feedbackEnabled ∧ result = .ok) ∨
      (feedback.statusNibble = feedbackDisabled ∧ result = .ok) ∨
      (faultStatus feedback.statusNibble ∧ result = .efault) := by
  unfold MotorManifest.decode decodeFeedback at h
  split at h
  · cases h
  unfold decodeFeedbackRanges at h
  dsimp only at h
  split at h
  · cases h
  split at h
  · cases h
  split at h
  · cases h
  split at h
  · cases h
  split at h
  · cases h
  rename_i hknown
  cases h
  simp only [knownFeedbackStatus, Bool.not_eq_true', Bool.not_eq_false, Bool.or_eq_true,
    beq_iff_eq, Bool.and_eq_true, decide_eq_true_eq] at hknown
  dsimp only
  rcases hknown with (hdisabled | henabled) | hfault
  · exact .inr (.inl ⟨hdisabled, if_pos (.inr hdisabled)⟩)
  · exact .inl ⟨henabled, if_pos (.inl henabled)⟩
  · refine .inr (.inr ⟨hfault, if_neg ?_⟩)
    unfold feedbackEnabled feedbackDisabled
    omega

/-- The motors of a manifest answer under different ids. -/
theorem validMotors_pairwise {prior motors : List (MotorManifest F)}
    (h : validMotors prior motors = true)
    (hprior : prior.Pairwise fun a b => a.receiveId ≠ b.receiveId) :
    (prior ++ motors).Pairwise fun a b => a.receiveId ≠ b.receiveId := by
  induction motors generalizing prior with
  | nil =>
    rw [List.append_nil]
    exact hprior
  | cons motor motors ih =>
    unfold validMotors at h
    rw [Bool.and_eq_true, Bool.and_eq_true] at h
    obtain ⟨⟨-, hdiffer⟩, hrest⟩ := h
    have hnext := ih hrest ?_
    · rw [List.append_assoc] at hnext
      exact hnext
    · rw [List.pairwise_append]
      refine ⟨hprior, List.pairwise_singleton _ _, fun a ha b hb => ?_⟩
      obtain rfl := List.mem_singleton.mp hb
      have hab := List.all_eq_true.mp hdiffer a ha
      unfold motorsDiffer at hab
      simp only [Bool.and_eq_true, bne_iff_ne, ne_eq] at hab
      exact hab.1.2

/-- Different positions of a valid manifest have different receive ids. -/
def Distinct (motors : List (MotorManifest F)) : Prop :=
  motors.Pairwise fun a b => a.receiveId ≠ b.receiveId

theorem validateManifest_ok {motors : List (MotorManifest F)}
    (h : validateManifest motors = .ok) : motors ≠ [] ∧ Distinct motors := by
  unfold validateManifest at h
  split at h
  · cases h
  rename_i hcount
  split at h
  · rename_i hvalid
    refine ⟨?_, validMotors_pairwise hvalid List.Pairwise.nil⟩
    rintro rfl
    exact hcount (.inl rfl)
  · cases h

/-- Every motor of a valid manifest passes its own checks. -/
theorem validMotors_mem {prior motors : List (MotorManifest F)}
    (h : validMotors prior motors = true) : ∀ motor ∈ motors, validMotor motor = true := by
  induction motors generalizing prior with
  | nil => exact fun motor hmem => absurd hmem List.not_mem_nil
  | cons first motors ih =>
    unfold validMotors at h
    rw [Bool.and_eq_true, Bool.and_eq_true] at h
    obtain ⟨⟨hfirst, -⟩, hrest⟩ := h
    intro motor hmem
    rcases List.mem_cons.mp hmem with rfl | hmem
    · exact hfirst
    · exact ih hrest motor hmem

/-- A valid manifest has ids to send to. -/
theorem validateManifest_sendId {motors : List (MotorManifest F)}
    (h : validateManifest motors = .ok) {motor : MotorManifest F} (hmem : motor ∈ motors) :
    validStandardId motor.sendId = true := by
  unfold validateManifest at h
  split at h
  · cases h
  split at h
  · rename_i hvalid
    have hmotor := validMotors_mem hvalid motor hmem
    unfold validMotor at hmotor
    simp only [Bool.and_eq_true] at hmotor
    obtain ⟨⟨⟨⟨⟨⟨⟨⟨⟨⟨-, hsend⟩, -⟩, -⟩, -⟩, -⟩, -⟩, -⟩, -⟩, -⟩, -⟩ := hmotor
    exact hsend
  · cases h

omit [Wire F] in
theorem Distinct.index_unique {motors : List (MotorManifest F)} (h : Distinct motors) {i j : Nat}
    {a b : MotorManifest F} (hi : motors[i]? = some a) (hj : motors[j]? = some b)
    (heq : a.receiveId = b.receiveId) : i = j := by
  obtain ⟨hilt, rfl⟩ := List.getElem?_eq_some_iff.mp hi
  obtain ⟨hjlt, rfl⟩ := List.getElem?_eq_some_iff.mp hj
  have hpair := List.pairwise_iff_getElem.mp h
  rcases Nat.lt_trichotomy i j with hlt | rfl | hlt
  · exact absurd heq (hpair i j hilt hjlt hlt)
  · rfl
  · exact absurd heq.symm (hpair j i hjlt hilt hlt)

omit [Wire F] in
/-- The motor found is the one that answers under the id. -/
theorem matchingMotor_eq_some {motors : List (MotorManifest F)} (hdistinct : Distinct motors)
    {canId i : Nat} {motor : MotorManifest F} :
    matchingMotor motors canId = some (i, motor) ↔
      motors[i]? = some motor ∧ motor.receiveId = canId := by
  unfold matchingMotor
  constructor
  · intro h
    split at h
    · cases h
    rename_i index hindex
    obtain ⟨hlt, hid, -⟩ := List.findIdx?_eq_some_iff_getElem.mp hindex
    rw [List.getElem?_eq_getElem hlt] at h
    cases h
    exact ⟨List.getElem?_eq_getElem hlt, by simpa using hid⟩
  · rintro ⟨hi, hid⟩
    split
    · rename_i hnone
      have hmem : motor ∈ motors := List.mem_of_getElem? hi
      have := List.findIdx?_eq_none_iff.mp hnone motor hmem
      simp [hid] at this
    · rename_i index hindex
      obtain ⟨hlt, hfound, -⟩ := List.findIdx?_eq_some_iff_getElem.mp hindex
      have hget : motors[index]? = some motors[index] := List.getElem?_eq_getElem hlt
      have hsame : index = i := by
        refine hdistinct.index_unique hget hi ?_
        rw [hid]
        simpa using hfound
      subst hsame
      rw [hi]
      rfl

/-- The category of a timely frame that a motor sent. -/
theorem category_named {motors : List (MotorManifest F)} (hdistinct : Distinct motors)
    (epochs : List Nat) {deadlineNs i : Nat} {motor : MotorManifest F} {received : ReceivedFrame}
    (htimely : received.timely deadlineNs = true) (hi : motors[i]? = some motor)
    (hid : received.frame.canId = motor.receiveId) :
    category motors epochs deadlineNs received =
      if received.receivedMonotonicNs ≤ epochs.getD i 0 then .stale
      else match motor.decode received.frame with
        | (_, none) => .invalid
        | (result, some feedback) =>
          if feedback.statusNibble = feedbackEnabled then .enabled i
          else if result = .efault then .faulted i
          else .fresh i := by
  unfold ReceivedFrame.timely at htimely
  rw [Bool.and_eq_true, decide_eq_true_eq] at htimely
  have hclean : ¬ (!received.valid || decide (deadlineNs < received.receivedMonotonicNs)) = true := by
    rw [htimely.1]
    simpa using htimely.2
  have hmatch := (matchingMotor_eq_some hdistinct).mpr ⟨hi, hid.symm⟩
  unfold category
  rw [if_neg hclean, hmatch]

/-- A frame that is stale or an answer is timely and from a motor. -/
theorem category_from {motors : List (MotorManifest F)} (hdistinct : Distinct motors)
    {epochs : List Nat} {deadlineNs : Nat} {received : ReceivedFrame}
    (h : category motors epochs deadlineNs received ≠ .invalid)
    (h' : category motors epochs deadlineNs received ≠ .unexpected) :
    received.timely deadlineNs = true ∧
      ∃ (i : Nat) (motor : MotorManifest F),
        motors[i]? = some motor ∧ received.frame.canId = motor.receiveId := by
  unfold category at h h'
  split at h
  · exact absurd rfl h
  rename_i hclean
  rw [if_neg hclean] at h'
  split at h'
  · exact absurd rfl h'
  rename_i i motor hmatch
  obtain ⟨hi, hid⟩ := (matchingMotor_eq_some hdistinct).mp hmatch
  refine ⟨?_, i, motor, hi, hid.symm⟩
  unfold ReceivedFrame.timely
  simp only [Bool.or_eq_true, Bool.not_eq_true', decide_eq_true_eq, not_or, Bool.not_eq_false,
    Nat.not_lt] at hclean
  rw [hclean.1]
  simpa using hclean.2

end OpenArm.Can
