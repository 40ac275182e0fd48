/-
  OpenArm.Can.ProbeExact — when the probe answers OK.

  The run of a probe is its requests, then the frames its transport yields
  up to the first timeout or the budget.  Its report is the tally of the
  frames received, and OK is a condition on their categories.

  Main results:
    * `probe_cases` — the probe stops before it receives, or receives and
      judges.
    * `accepts_iff` — what a good probe receives, in categories.
    * `probe_exact` — OK in the words of the protocol, how many frames are
      received, the sum of the counters, and that permuting the received
      frames changes nothing.
-/
import OpenArm.Can.Families
import OpenArm.Can.Verdict

namespace OpenArm.Can

open OpenArm.Lib

variable {F : Type} [Wire F]

/-! ## §1. The run. -/

/-- The frames a transport yields under a deadline, then timeouts. -/
def CanTransport.Yields (t : CanTransport) (deadlineNs : Nat) (frames : List ReceivedFrame) :
    Prop :=
  ∀ index, t.receive deadlineNs index =
    match frames[index]? with
    | some received => .ok received
    | none => .error .etimeout

/-- When a refresh was sent. -/
def requestEpoch (t : CanTransport) (index : Nat) (motor : MotorManifest F) : Nat :=
  (t.send index (serviceFrame motor.sendId 0xcc 0 0)).2

/-- When the refreshes of a manifest were sent. -/
def requestEpochs (t : CanTransport) (motors : List (MotorManifest F)) : List Nat :=
  motors.mapIdx (requestEpoch t)

omit [Wire F] in
/-- The request loop: its epochs, the expected motors, and nothing else. -/
theorem sendRefreshes_ok {t : CanTransport} {motors : List (MotorManifest F)}
    {epochs epochs' : List Nat} {report report' : ProbeReport}
    (h : sendRefreshes t motors epochs report = .ok (epochs', report')) :
    epochs' = epochs ++ motors.mapIdx (fun j => requestEpoch t (epochs.length + j)) ∧
      (∀ i, report'.expectedMask.testBit i = (report.expectedMask.testBit i ||
        decide (epochs.length ≤ i ∧ i < epochs.length + motors.length))) ∧
      (report.Blank → report'.Blank) ∧
      report'.receiveLimitReached = report.receiveLimitReached := by
  induction motors generalizing epochs report with
  | nil =>
    cases h
    refine ⟨?_, fun i => ?_, id, rfl⟩
    · rw [List.mapIdx_nil, List.append_nil]
    · have hnone : ∀ n : Nat, ¬ (n ≤ i ∧ i < n + 0) := fun n h => by omega
      rw [List.length_nil, decide_eq_false (hnone _), Bool.or_false]
  | cons motor motors ih =>
    unfold sendRefreshes at h
    split at h
    · cases h
    rename_i refresh hrefresh
    split at h
    · rename_i epoch hsend
      obtain ⟨hid, rfl⟩ := idChecked_ok_iff.mp hrefresh
      obtain ⟨hepochs, hmask, hblank, hlimit⟩ := ih h
      have hlength : (epochs ++ [epoch]).length = epochs.length + 1 := by simp
      rw [hlength] at hepochs hmask
      refine ⟨?_, fun i => ?_, fun hb => ?_, hlimit⟩
      · have hfirst : requestEpoch t epochs.length motor = epoch := by
          unfold requestEpoch
          rw [hsend]
        have hshift : ∀ j, epochs.length + 1 + j = epochs.length + (j + 1) := fun j => by omega
        rw [hepochs, List.append_assoc, List.mapIdx_cons]
        simp only [List.singleton_append, Nat.add_zero, hfirst, hshift]
      · rw [hmask i]
        show ((report.expectedMask ||| 1 <<< epochs.length).testBit i || _) = _
        rw [testBit_set, Bool.or_assoc, ← Bool.decide_or, List.length_cons]
        refine congrArg (report.expectedMask.testBit i || ·) (decide_eq_decide.mpr ?_)
        omega
      · exact hblank ⟨hb.received, hb.invalid, hb.unexpected, hb.stale, hb.enabled, hb.faulted,
          hb.fresh, hb.duplicate⟩
    · cases h

theorem count_deadline (report : ProbeReport) (cat : Category) :
    (report.count cat).deadlineMonotonicNs = report.deadlineMonotonicNs := by
  cases cat <;> rfl

/-- The receive loop: the tally of what it received. -/
theorem receiveLoop_yields {t : CanTransport} {motors : List (MotorManifest F)}
    {epochs : List Nat} {frames : List ReceivedFrame} {report : ProbeReport}
    (hyields : t.Yields report.deadlineMonotonicNs frames) (budget index : Nat) :
    receiveLoop t motors epochs budget index report =
      let received := (frames.drop index).take budget
      let counted := report.tally
        (received.map (category motors epochs report.deadlineMonotonicNs))
      .ok (if received.length = budget then { counted with receiveLimitReached := true }
        else counted) := by
  induction budget generalizing index report with
  | zero => rfl
  | succ budget ih =>
    unfold receiveLoop
    rw [hyields index]
    cases hnext : frames[index]? with
    | none =>
      have hend : frames.length ≤ index := List.getElem?_eq_none_iff.mp hnext
      rw [List.drop_eq_nil_of_le hend]
      rfl
    | some received =>
      obtain ⟨hlt, hget⟩ := List.getElem?_eq_some_iff.mp hnext
      have hdrop : frames.drop index = received :: frames.drop (index + 1) := by
        rw [List.drop_eq_getElem_cons hlt, hget]
      have hsame := count_deadline report
        (category motors epochs report.deadlineMonotonicNs received)
      dsimp only
      rw [probeFrame_eq, ih (by rw [hsame]; exact hyields), hdrop, hsame]
      simp only [List.take_succ_cons, List.map_cons, List.length_cons, Nat.add_right_cancel_iff]
      rfl

omit [Wire F] in
/-- The request loop stops with the status of a send, and has received
    nothing. -/
theorem sendRefreshes_error {t : CanTransport} {motors : List (MotorManifest F)}
    {epochs : List Nat} {report : ProbeReport} {out : CanStatus × ProbeReport}
    (h : sendRefreshes t motors epochs report = .error out) (hblank : report.Blank)
    (hids : ∀ motor ∈ motors, validStandardId motor.sendId = true) :
    out.1 ≠ .ok ∧ out.2.Blank ∧ ∃ i motor, motors[i]? = some motor ∧
      (t.send (epochs.length + i) (serviceFrame motor.sendId 0xcc 0 0)).1 = out.1 := by
  induction motors generalizing epochs report with
  | nil => cases h
  | cons motor motors ih =>
    unfold sendRefreshes at h
    rw [makeRefreshStatus, hids motor List.mem_cons_self, Bool.not_true, if_neg Bool.false_ne_true]
      at h
    dsimp only at h
    split at h
    · rename_i epoch hsend
      obtain ⟨hstatus, hlast, i, later, hi, hsent⟩ := ih h ⟨hblank.received, hblank.invalid,
        hblank.unexpected, hblank.stale, hblank.enabled, hblank.faulted, hblank.fresh,
        hblank.duplicate⟩ fun later hmem => hids later (List.mem_cons_of_mem motor hmem)
      refine ⟨hstatus, hlast, i + 1, later, hi, ?_⟩
      rw [List.length_append, List.length_singleton] at hsent
      rw [← hsent, Nat.add_right_comm, Nat.add_assoc]
    · rename_i status epoch hnot hsend
      cases h
      refine ⟨fun hok => ?_, hblank, 0, motor, rfl, ?_⟩
      · obtain rfl : status = .ok := hok
        exact hnot rfl
      · rw [Nat.add_zero, hsend]

omit [Wire F] in
/-- The request loop does not receive. -/
theorem sendRefreshes_receive (t : CanTransport) (receive) (motors : List (MotorManifest F))
    (epochs : List Nat) (report : ProbeReport) :
    sendRefreshes { t with receive } motors epochs report =
      sendRefreshes t motors epochs report := by
  induction motors generalizing epochs report with
  | nil => rfl
  | cons motor motors ih =>
    unfold sendRefreshes
    split
    · rfl
    · dsimp only
      split
      · exact ih _ _
      · rfl

/-- Where the probe stands when it begins to receive. -/
structure Asked (t : CanTransport) (motors : List (MotorManifest F)) (options : ProbeOptions)
    (epochs : List Nat) (report : ProbeReport) : Prop where
  manifest : validateManifest motors = .ok
  sentAt : epochs = requestEpochs t motors
  expected : ∀ i, report.expectedMask.testBit i = decide (i < motors.length)
  blank : report.Blank
  deadline : report.deadlineMonotonicNs = t.now.2 + options.timeoutNs
  limit : report.receiveLimitReached = false

/-- **A probe that opens**: its options are set, every refresh is sent, the
    clock leaves room for the timeout, and no send epoch exceeds it. -/
structure Opens (t : CanTransport) (motors : List (MotorManifest F)) (options : ProbeOptions) :
    Prop where
  timeout : options.timeoutNs ≠ 0
  limit : options.maxReceiveFrames ≠ 0
  sent : ∀ (i : Nat) (motor : MotorManifest F), motors[i]? = some motor →
    (t.send i (serviceFrame motor.sendId 0xcc 0 0)).1 = .ok
  clock : t.now.1 = .ok
  room : t.now.2 + options.timeoutNs ≤ maxU64
  before : ∀ (i : Nat) (motor : MotorManifest F), motors[i]? = some motor →
    requestEpoch t i motor ≤ t.now.2

/-- The probe stops before it receives anything, as one that does not open,
    or it receives and judges; which of the two does not depend on what it
    would receive. -/
theorem probe_cases (t : CanTransport) (motors : List (MotorManifest F)) (options : ProbeOptions)
    (hmanifest : validateManifest motors = .ok) :
    (∃ out : CanStatus × ProbeReport, out.1 ≠ .ok ∧ out.2.Blank ∧ ¬ Opens t motors options ∧
      ∀ receive, probeExpected { t with receive } motors options = out) ∨
    ∃ epochs report, Asked t motors options epochs report ∧
      ∀ receive, probeExpected { t with receive } motors options =
        match receiveLoop { t with receive } motors epochs options.maxReceiveFrames 0 report with
        | .error out => out
        | .ok report => (verdict report, report) := by
  have hzero : ProbeReport.zero.Blank := ⟨rfl, rfl, rfl, rfl, rfl, rfl, rfl, rfl⟩
  have hvalid : ¬ validateManifest motors ≠ .ok := not_not.mpr hmanifest
  by_cases hoptions : options.timeoutNs = 0 ∨ options.maxReceiveFrames = 0
  · refine .inl ⟨(.einval, .zero), CanStatus.noConfusion, hzero,
      fun hopens => hoptions.elim hopens.timeout hopens.limit, fun receive => ?_⟩
    unfold probeExpected
    rw [if_pos hoptions]
  -- each early return is a way not to open
  cases hsends : sendRefreshes t motors [] .zero with
  | error out =>
    obtain ⟨hstatus, hblank, i, motor, hi, hsent⟩ := sendRefreshes_error hsends hzero
      fun motor hmem => validateManifest_sendId hmanifest hmem
    rw [List.length_nil, Nat.zero_add] at hsent
    refine .inl ⟨out, hstatus, hblank,
      fun hopens => hstatus (hsent.symm.trans (hopens.sent i motor hi)), fun receive => ?_⟩
    unfold probeExpected
    rw [if_neg hoptions, if_neg hvalid, sendRefreshes_receive, hsends]
  | ok sent =>
    obtain ⟨epochs, report⟩ := sent
    obtain ⟨hepochs, hmask, hblank, hlimit⟩ := sendRefreshes_ok hsends
    have hblank := hblank hzero
    have hsentAt : epochs = requestEpochs t motors := by
      rw [hepochs, List.nil_append]
      unfold requestEpochs
      simp only [List.length_nil, Nat.zero_add]
    by_cases hclock : t.now.1 ≠ .ok ∨ maxU64 - t.now.2 < options.timeoutNs
    · refine .inl ⟨(.eio, report), CanStatus.noConfusion, hblank, fun hopens => ?_,
        fun receive => ?_⟩
      · have hroom := hopens.room
        rcases hclock with hbad | hfull
        · exact hbad hopens.clock
        · omega
      · unfold probeExpected
        rw [if_neg hoptions, if_neg hvalid, sendRefreshes_receive, hsends]
        dsimp only
        rw [if_pos hclock]
    by_cases hlate : (epochs.any fun epoch => decide (t.now.2 < epoch)) = true
    · refine .inl ⟨(.eio, report), CanStatus.noConfusion, hblank, fun hopens => ?_,
        fun receive => ?_⟩
      · obtain ⟨epoch, hmem, hlater⟩ := List.any_eq_true.mp hlate
        rw [hsentAt] at hmem
        obtain ⟨i, hi, rfl⟩ := List.mem_mapIdx.mp hmem
        exact Nat.not_lt.mpr (hopens.before i motors[i] (List.getElem?_eq_getElem hi))
          (of_decide_eq_true hlater)
      · unfold probeExpected
        rw [if_neg hoptions, if_neg hvalid, sendRefreshes_receive, hsends]
        dsimp only
        rw [if_neg hclock, if_pos hlate]
    -- and past all of them the answer is that of the receive loop
    refine .inr ⟨epochs, { report with deadlineMonotonicNs := t.now.2 + options.timeoutNs },
      ⟨hmanifest, hsentAt, fun i => ?_, ?_, rfl, hlimit⟩, fun receive => ?_⟩
    · have hbits := hmask i
      simpa [ProbeReport.zero] using hbits
    · exact ⟨hblank.received, hblank.invalid, hblank.unexpected, hblank.stale, hblank.enabled,
        hblank.faulted, hblank.fresh, hblank.duplicate⟩
    · unfold probeExpected
      rw [if_neg hoptions, if_neg hvalid, sendRefreshes_receive, hsends]
      dsimp only
      rw [if_neg hclock]
      exact if_neg hlate

/-- What the probe judges: the tally of the frames received. -/
def Judged (motors : List (MotorManifest F)) (received : List ReceivedFrame) (budget : Nat)
    (epochs : List Nat) (deadlineNs : Nat) (before after : ProbeReport) : Prop :=
  ∃ report, Tallied before report (received.map (category motors epochs deadlineNs)) ∧
    after = if received.length = budget then { report with receiveLimitReached := true }
      else report

/-- The run of a probe that receives. -/
theorem Asked.judges {t : CanTransport} {motors : List (MotorManifest F)}
    {options : ProbeOptions} {epochs : List Nat} {report : ProbeReport}
    {frames : List ReceivedFrame} (h : Asked t motors options epochs report)
    (hyields : t.Yields (t.now.2 + options.timeoutNs) frames) :
    ∃ after, receiveLoop t motors epochs options.maxReceiveFrames 0 report = .ok after ∧
      Judged motors (frames.take options.maxReceiveFrames) options.maxReceiveFrames epochs
        (t.now.2 + options.timeoutNs) report after := by
  rw [← h.deadline] at hyields ⊢
  rw [receiveLoop_yields hyields, List.drop_zero]
  exact ⟨_, rfl, _, tally_tallied h.blank _, rfl⟩

/-! ## §2. The verdict. -/

/-- **What a good probe received**: no early answer, no motor that is enabled
    or reports a fault, and from every motor one answer that it is disabled. -/
structure Accepts (t : CanTransport) (motors : List (MotorManifest F)) (deadlineNs : Nat)
    (received : List ReceivedFrame) : Prop where
  current : ∀ f ∈ received, f.timely deadlineNs = true → ∀ (i : Nat) (motor : MotorManifest F),
    motors[i]? = some motor → f.frame.canId = motor.receiveId →
      requestEpoch t i motor < f.receivedMonotonicNs
  safe : ∀ f ∈ received, f.timely deadlineNs = true → ∀ motor ∈ motors,
    f.frame.canId = motor.receiveId → ∀ (result : CanStatus) (feedback : Feedback F),
      motor.decode f.frame = (result, some feedback) →
        feedback.statusNibble ≠ feedbackEnabled ∧ ¬ faultStatus feedback.statusNibble
  answered : ∀ motor ∈ motors, received.countP (fun f =>
    f.timely deadlineNs && f.frame.canId == motor.receiveId && motor.answersDisabled f.frame) = 1

/-- The cascade of the verdict, below the receive limit. -/
theorem verdict_unlimited {report : ProbeReport} (hlimit : report.receiveLimitReached = false) :
    verdict report = .ok ↔
      report.enabledMask = 0 ∧ report.faultMask = 0 ∧ report.duplicateMask = 0 ∧
        report.freshMask = report.expectedMask ∧ report.staleFrames = 0 := by
  unfold verdict
  rw [hlimit]
  constructor
  · intro hok
    split at hok
    · cases hok
    rename_i hen
    split at hok
    · cases hok
    rename_i hfd
    rw [if_neg Bool.false_ne_true] at hok
    split at hok
    · cases hok
    rename_i hfs
    rw [not_or, not_not, not_not] at hfd hfs
    exact ⟨not_not.mp hen, hfd.1, hfd.2, hfs.1, hfs.2⟩
  · rintro ⟨hen, hfa, hdu, hfr, hst⟩
    rw [hen, hfa, hdu, hfr, hst]
    simp

/-- OK, as a condition on the categories counted. -/
theorem verdict_ok_iff {motors : List (MotorManifest F)} {budget deadlineNs : Nat}
    {received : List ReceivedFrame} {epochs : List Nat} {before after : ProbeReport}
    (h : Judged motors received budget epochs deadlineNs before after)
    (hexpected : ∀ i, before.expectedMask.testBit i = decide (i < motors.length))
    (hlimit : before.receiveLimitReached = false) :
    verdict after = .ok ↔
      received.length ≠ budget ∧
        let cats := received.map (category motors epochs deadlineNs)
        (∀ i, Category.enabled i ∉ cats) ∧ (∀ i, Category.faulted i ∉ cats) ∧
          Category.stale ∉ cats ∧ ∀ i, cats.count (.fresh i) = if i < motors.length then 1 else 0 := by
  obtain ⟨report, htallied, rfl⟩ := h
  have hmask : ∀ mask : Nat, mask = 0 ↔ ∀ i, mask.testBit i = false := fun mask =>
    ⟨fun h i => by rw [h, Nat.zero_testBit], fun h => Nat.eq_of_testBit_eq fun i => by
      rw [h, Nat.zero_testBit]⟩
  have henabled := hmask report.enabledMask
  have hfaulted := hmask report.faultMask
  have hduplicate := hmask report.duplicateMask
  have hfresh : report.freshMask = report.expectedMask ↔
      ∀ i, report.freshMask.testBit i = report.expectedMask.testBit i :=
    ⟨fun h i => by rw [h], Nat.eq_of_testBit_eq⟩
  simp only [htallied.enabled, htallied.faulted, htallied.duplicate, htallied.fresh,
    htallied.expected, hexpected, decide_eq_false_iff_not, decide_eq_decide]
    at henabled hfaulted hduplicate hfresh
  have hstale : report.staleFrames = 0 ↔ Category.stale ∉
      received.map (category motors epochs deadlineNs) := by
    rw [htallied.stale]
    exact List.count_eq_zero
  by_cases hfull : received.length = budget
  · -- The receive limit never leaves an OK behind.
    rw [if_pos hfull]
    refine ⟨fun hok => ?_, fun hok => absurd hfull hok.1⟩
    unfold verdict at hok
    split at hok
    · cases hok
    split at hok
    · cases hok
    · rw [if_pos rfl] at hok
      cases hok
  rw [if_neg hfull]
  have hcount : ∀ i, (received.map (category motors epochs deadlineNs)).count (.fresh i) =
      (if i < motors.length then 1 else 0) ↔
        ¬ 2 ≤ (received.map (category motors epochs deadlineNs)).count (.fresh i) ∧
          (Category.fresh i ∈ received.map (category motors epochs deadlineNs) ↔
            i < motors.length) := by
    intro i
    rw [← List.count_pos_iff]
    split <;> omega
  have hlimited : report.receiveLimitReached = false := htallied.limit.trans hlimit
  rw [verdict_unlimited hlimited, htallied.expected, henabled, hfaulted, hduplicate, hfresh, hstale]
  dsimp only
  constructor
  · rintro ⟨hen, hfa, hdu, hfr, hst⟩
    exact ⟨hfull, hen, hfa, hst, fun i => (hcount i).mpr ⟨hdu i, hfr i⟩⟩
  · rintro ⟨-, hen, hfa, hst, hfr⟩
    exact ⟨hen, hfa, fun i => ((hcount i).mp (hfr i)).1, fun i => ((hcount i).mp (hfr i)).2, hst⟩

/-! ## §3. The categories of an accepted reception. -/

section Accepts

variable {t : CanTransport} {motors : List (MotorManifest F)} {epochs : List Nat}
  {deadlineNs : Nat}

/-- A frame is a fresh answer of motor `i` when it is timely, late enough and
    decodes as DISABLED. -/
theorem category_fresh_iff (hdistinct : Distinct motors) {received : ReceivedFrame} {i : Nat} :
    category motors epochs deadlineNs received = .fresh i ↔
      received.timely deadlineNs = true ∧ ∃ motor : MotorManifest F, motors[i]? = some motor ∧
        received.frame.canId = motor.receiveId ∧
          epochs.getD i 0 < received.receivedMonotonicNs ∧
            motor.answersDisabled received.frame = true := by
  constructor
  · intro hcat
    obtain ⟨htimely, j, motor, hj, hid⟩ := category_from hdistinct
      (by rw [hcat]; exact Category.noConfusion) (by rw [hcat]; exact Category.noConfusion)
    rw [category_named hdistinct epochs htimely hj hid] at hcat
    split at hcat
    · cases hcat
    rename_i hlate
    split at hcat
    · cases hcat
    rename_i result feedback hdecode
    split at hcat
    · cases hcat
    rename_i hne
    split at hcat
    · cases hcat
    rename_i hfault
    cases hcat
    refine ⟨htimely, motor, hj, hid, Nat.lt_of_not_le hlate, ?_⟩
    unfold MotorManifest.answersDisabled
    rw [hdecode]
    rcases decode_some hdecode with h | h | h
    · exact absurd h.1 hne
    · exact beq_iff_eq.mpr h.1
    · exact absurd h.2 hfault
  · rintro ⟨htimely, motor, hi, hid, hlate, hdisabled⟩
    rw [category_named hdistinct epochs htimely hi hid, if_neg (Nat.not_le.mpr hlate)]
    unfold MotorManifest.answersDisabled at hdisabled
    split at hdisabled
    · rename_i result feedback hdecode
      rw [hdecode]
      have hstatus : feedback.statusNibble = feedbackDisabled := beq_iff_eq.mp hdisabled
      rcases decode_some hdecode with h | h | h
      · rw [hstatus] at h
        exact absurd h.1 (by decide)
      · dsimp only
        rw [hstatus, h.2, if_neg (by decide), if_neg (by decide)]
      · rw [hstatus] at h
        exact absurd h.1.1 (by decide)
    · cases hdisabled

/-- No category of the reception is stale, enabled or a fault. -/
def Untroubled (cats : List Category) : Prop :=
  (∀ i, Category.enabled i ∉ cats) ∧ (∀ i, Category.faulted i ∉ cats) ∧ Category.stale ∉ cats

/-- What is not troubled is current and safe. -/
theorem untroubled_iff (hdistinct : Distinct motors) (received : List ReceivedFrame) :
    Untroubled (received.map (category motors epochs deadlineNs)) ↔
      ∀ f ∈ received, f.timely deadlineNs = true → ∀ (i : Nat) (motor : MotorManifest F),
        motors[i]? = some motor → f.frame.canId = motor.receiveId →
          epochs.getD i 0 < f.receivedMonotonicNs ∧
            ∀ (result : CanStatus) (feedback : Feedback F),
              motor.decode f.frame = (result, some feedback) →
                feedback.statusNibble ≠ feedbackEnabled ∧
                  ¬ faultStatus feedback.statusNibble := by
  constructor
  · rintro ⟨henabled, hfaulted, hstale⟩ f hf htimely i motor hi hid
    have hnamed := category_named hdistinct epochs htimely hi hid
    have hmem := List.mem_map_of_mem (f := category motors epochs deadlineNs) hf
    have hlate : epochs.getD i 0 < f.receivedMonotonicNs := by
      by_contra hearly
      rw [if_pos (Nat.not_lt.mp hearly)] at hnamed
      rw [hnamed] at hmem
      exact hstale hmem
    rw [if_neg (Nat.not_le.mpr hlate)] at hnamed
    refine ⟨hlate, fun result feedback hdecode => ?_⟩
    rw [hdecode] at hnamed
    dsimp only at hnamed
    refine ⟨fun hen => ?_, fun hfault => ?_⟩
    · rw [if_pos hen] at hnamed
      rw [hnamed] at hmem
      exact henabled i hmem
    · have hresult : feedback.statusNibble ≠ feedbackEnabled ∧ result = .efault := by
        unfold faultStatus at hfault
        rcases decode_some hdecode with h | h | h
        · have := h.1
          unfold feedbackEnabled at this
          omega
        · have := h.1
          unfold feedbackDisabled at this
          omega
        · refine ⟨?_, h.2⟩
          unfold feedbackEnabled
          omega
      rw [if_neg hresult.1, if_pos hresult.2] at hnamed
      rw [hnamed] at hmem
      exact hfaulted i hmem
  · intro hall
    -- What a troubling category would say of its frame.
    have hnone : ∀ cat, cat ∈ received.map (category motors epochs deadlineNs) →
        cat ≠ .stale ∧ cat.isEnabled = false ∧ cat.isFaulted = false := by
      intro cat hcat
      obtain ⟨f, hf, rfl⟩ := List.mem_map.mp hcat
      by_cases hinvalid : category motors epochs deadlineNs f = .invalid
      · rw [hinvalid]
        exact ⟨Category.noConfusion, rfl, rfl⟩
      by_cases hunexpected : category motors epochs deadlineNs f = .unexpected
      · rw [hunexpected]
        exact ⟨Category.noConfusion, rfl, rfl⟩
      obtain ⟨htimely, i, motor, hi, hid⟩ := category_from hdistinct hinvalid hunexpected
      obtain ⟨hlate, hsafe⟩ := hall f hf htimely i motor hi hid
      rw [category_named hdistinct epochs htimely hi hid, if_neg (Nat.not_le.mpr hlate)]
      split
      · exact ⟨Category.noConfusion, rfl, rfl⟩
      rename_i result feedback hdecode
      obtain ⟨hne, hfault⟩ := hsafe result feedback hdecode
      have hresult : result ≠ .efault := by
        rcases decode_some hdecode with h | h | h
        · exact absurd h.1 hne
        · rw [h.2]
          exact CanStatus.noConfusion
        · exact absurd h.1 hfault
      rw [if_neg hne, if_neg hresult]
      exact ⟨Category.noConfusion, rfl, rfl⟩
    refine ⟨fun i hi => ?_, fun i hi => ?_, fun hstale => (hnone _ hstale).1 rfl⟩
    · exact Bool.noConfusion (hnone _ hi).2.1
    · exact Bool.noConfusion (hnone _ hi).2.2

omit [Wire F] in
/-- The epoch of a motor's request. -/
theorem requestEpochs_getD {i : Nat} {motor : MotorManifest F} (hi : motors[i]? = some motor) :
    (requestEpochs t motors).getD i 0 = requestEpoch t i motor := by
  obtain ⟨hlt, rfl⟩ := List.getElem?_eq_some_iff.mp hi
  unfold requestEpochs
  rw [List.getD_eq_getElem?_getD, List.getElem?_mapIdx, hi]
  rfl

/-- **Acceptance in categories.** -/
theorem accepts_iff (hdistinct : Distinct motors) (received : List ReceivedFrame) :
    Accepts t motors deadlineNs received ↔
      let cats := received.map (category motors (requestEpochs t motors) deadlineNs)
      Untroubled cats ∧ ∀ i, cats.count (.fresh i) = if i < motors.length then 1 else 0 := by
  have hiff : Untroubled (received.map (category motors (requestEpochs t motors) deadlineNs)) ↔ _ :=
    untroubled_iff hdistinct received
  -- Where every timely answer is late enough, the fresh ones are those that say DISABLED.
  have hanswers : (∀ f ∈ received, f.timely deadlineNs = true → ∀ (i : Nat)
      (motor : MotorManifest F), motors[i]? = some motor → f.frame.canId = motor.receiveId →
        requestEpoch t i motor < f.receivedMonotonicNs) → ∀ (i : Nat) (motor : MotorManifest F),
      motors[i]? = some motor →
      (received.map (category motors (requestEpochs t motors) deadlineNs)).count (.fresh i) =
        received.countP fun f => f.timely deadlineNs && f.frame.canId == motor.receiveId &&
          motor.answersDisabled f.frame := by
    intro hcurrent i motor hi
    rw [List.count_eq_countP, List.countP_map]
    refine List.countP_congr fun f hf => ?_
    show (category motors (requestEpochs t motors) deadlineNs f == .fresh i) = true ↔ _
    rw [beq_iff_eq, category_fresh_iff hdistinct, Bool.and_eq_true, Bool.and_eq_true, beq_iff_eq]
    constructor
    · rintro ⟨htimely, other, hj, hid, -, hdisabled⟩
      rw [hi] at hj
      cases hj
      exact ⟨⟨htimely, hid⟩, hdisabled⟩
    · rintro ⟨⟨htimely, hid⟩, hdisabled⟩
      refine ⟨htimely, motor, hi, hid, ?_, hdisabled⟩
      rw [requestEpochs_getD hi]
      exact hcurrent f hf htimely i motor hi hid
  constructor
  · intro h
    refine ⟨hiff.mpr fun f hf htimely i motor hi hid => ⟨?_, ?_⟩, fun i => ?_⟩
    · rw [requestEpochs_getD hi]
      exact h.current f hf htimely i motor hi hid
    · exact h.safe f hf htimely motor (List.mem_of_getElem? hi) hid
    · by_cases hlt : i < motors.length
      · rw [if_pos hlt, hanswers h.current i _ (List.getElem?_eq_getElem hlt)]
        exact h.answered _ (List.getElem_mem hlt)
      · rw [if_neg hlt]
        refine List.count_eq_zero.mpr fun hmem => ?_
        obtain ⟨f, hf, hfresh⟩ := List.mem_map.mp hmem
        obtain ⟨-, motor, hi, -⟩ := (category_fresh_iff hdistinct).mp hfresh
        exact hlt (List.getElem?_eq_some_iff.mp hi).1
  · rintro ⟨huntroubled, hcounts⟩
    have hall := hiff.mp huntroubled
    have hcurrent : ∀ f ∈ received, f.timely deadlineNs = true → ∀ (i : Nat)
        (motor : MotorManifest F), motors[i]? = some motor → f.frame.canId = motor.receiveId →
          requestEpoch t i motor < f.receivedMonotonicNs := by
      intro f hf htimely i motor hi hid
      have hlate := (hall f hf htimely i motor hi hid).1
      rwa [requestEpochs_getD hi] at hlate
    refine ⟨hcurrent, fun f hf htimely motor hmotor hid => ?_, fun motor hmotor => ?_⟩
    · obtain ⟨i, hi⟩ := List.mem_iff_getElem?.mp hmotor
      exact (hall f hf htimely i motor hi hid).2
    · obtain ⟨i, hi⟩ := List.mem_iff_getElem?.mp hmotor
      rw [← hanswers hcurrent i motor hi, hcounts i,
        if_pos (List.getElem?_eq_some_iff.mp hi).1]

end Accepts

/-! ## §4. The probe. -/

/-- The frames of a category the report has counted. -/
theorem Judged.counts {motors : List (MotorManifest F)} {received : List ReceivedFrame}
    {budget deadlineNs : Nat} {epochs : List Nat} {before after : ProbeReport}
    (h : Judged motors received budget epochs deadlineNs before after) :
    let cats := received.map (category motors epochs deadlineNs)
    after.receivedFrames = received.length ∧ after.receivedFrames =
      after.invalidFrames + after.unexpectedFrames + after.staleFrames +
        cats.countP (·.isEnabled) + cats.countP (·.isFaulted) + cats.countP (·.isFresh) := by
  obtain ⟨report, htallied, rfl⟩ := h
  have hlength := length_eq_counts (received.map (category motors epochs deadlineNs))
  have hreceived := htallied.received
  rw [← htallied.invalid, ← htallied.unexpected, ← htallied.stale] at hlength
  rw [hlength] at hreceived
  refine ⟨?_, ?_⟩
  · rw [← List.length_map (category motors epochs deadlineNs), ← htallied.received]
    split <;> rfl
  · split <;> exact hreceived

/-- The verdict and the masks of two judgements of the same frames. -/
theorem Judged.perm {motors : List (MotorManifest F)} {received received' : List ReceivedFrame}
    {budget deadlineNs : Nat} {epochs : List Nat} {before after after' : ProbeReport}
    (h : Judged motors received budget epochs deadlineNs before after)
    (h' : Judged motors received' budget epochs deadlineNs before after')
    (hperm : received.Perm received') :
    verdict after = verdict after' ∧ after.expectedMask = after'.expectedMask ∧
      after.freshMask = after'.freshMask ∧ after.faultMask = after'.faultMask ∧
        after.duplicateMask = after'.duplicateMask ∧ after.enabledMask = after'.enabledMask := by
  obtain ⟨report, htallied, rfl⟩ := h
  obtain ⟨report', htallied', rfl⟩ := h'
  obtain ⟨henabled, hfaulted, hfresh, hduplicate, hstale⟩ :=
    htallied.perm htallied' (hperm.map _)
  have hexpected := htallied.expected.trans htallied'.expected.symm
  have hlimit := htallied.limit.trans htallied'.limit.symm
  rw [← hperm.length_eq]
  split
  · refine ⟨?_, hexpected, hfresh, hfaulted, hduplicate, henabled⟩
    unfold verdict
    dsimp only
    rw [henabled, hfaulted, hduplicate, hfresh, hexpected, hstale]
  · refine ⟨?_, hexpected, hfresh, hfaulted, hduplicate, henabled⟩
    unfold verdict
    rw [henabled, hfaulted, hduplicate, hfresh, hexpected, hstale, hlimit]

/-- **The probe is exact.**  It answers OK exactly when fewer frames than its
    limit were received and these are what a good probe receives; a probe that
    opens receives all its transport yields, up to the limit; every frame is
    counted in one category; and the order in which the frames came changes
    neither the status nor a mask. -/
theorem probe_exact (t : CanTransport) (motors : List (MotorManifest F)) (options : ProbeOptions)
    (frames : List ReceivedFrame) (hmanifest : validateManifest motors = .ok)
    (hyields : t.Yields (t.now.2 + options.timeoutNs) frames) :
    let out := probeExpected t motors options
    let received := frames.take out.2.receivedFrames
    let cats := received.map
      (category motors (requestEpochs t motors) (t.now.2 + options.timeoutNs))
    (out.1 = .ok ↔ received.length < options.maxReceiveFrames ∧
      Accepts t motors (t.now.2 + options.timeoutNs) received) ∧
    (Opens t motors options →
      out.2.receivedFrames = min frames.length options.maxReceiveFrames) ∧
    (out.2.receivedFrames = received.length ∧ out.2.receivedFrames =
      out.2.invalidFrames + out.2.unexpectedFrames + out.2.staleFrames +
        cats.countP (·.isEnabled) + cats.countP (·.isFaulted) + cats.countP (·.isFresh)) ∧
    ∀ receive' frames', CanTransport.Yields { t with receive := receive' }
      (t.now.2 + options.timeoutNs) frames' →
        (frames.take options.maxReceiveFrames).Perm (frames'.take options.maxReceiveFrames) →
          let out' := probeExpected { t with receive := receive' } motors options
          out.1 = out'.1 ∧ out.2.expectedMask = out'.2.expectedMask ∧
            out.2.freshMask = out'.2.freshMask ∧ out.2.faultMask = out'.2.faultMask ∧
              out.2.duplicateMask = out'.2.duplicateMask ∧
                out.2.enabledMask = out'.2.enabledMask := by
  obtain ⟨hne, hdistinct⟩ := validateManifest_ok hmanifest
  rcases probe_cases t motors options hmanifest with ⟨out, hstatus, hblank, hclosed, hout⟩ |
    ⟨epochs, report, hasked, hout⟩
  · -- Nothing was received, so no motor has answered.
    have hprobe : probeExpected t motors options = out := hout t.receive
    rw [hprobe]
    dsimp only
    rw [hblank.received, List.take_zero]
    refine ⟨⟨fun hok => absurd hok hstatus, fun ⟨_, haccepts⟩ => ?_⟩,
      fun hopens => absurd hopens hclosed, ⟨rfl, ?_⟩, fun receive' frames' _ _ => ?_⟩
    · obtain ⟨motor, hmotor⟩ := List.exists_mem_of_ne_nil _ hne
      cases haccepts.answered motor hmotor
    · rw [hblank.invalid, hblank.unexpected, hblank.stale]
      rfl
    · rw [hout receive']
      exact ⟨rfl, rfl, rfl, rfl, rfl, rfl⟩
  · obtain ⟨after, hloop, hjudged⟩ := hasked.judges hyields
    have hprobe : probeExpected t motors options = (verdict after, after) := by
      refine (hout t.receive).trans ?_
      rw [hloop]
    have hcounts := hjudged.counts
    -- the frames received are the first ones, up to the limit
    have htaken : frames.take after.receivedFrames = frames.take options.maxReceiveFrames := by
      rw [hcounts.1, List.length_take, ← List.take_eq_take_min]
    have hsent := hasked.sentAt
    subst hsent
    rw [hprobe]
    dsimp only
    rw [htaken]
    refine ⟨?_, fun _ => ?_, hcounts, fun receive' frames' hyields' hperm => ?_⟩
    · have hbudget : (frames.take options.maxReceiveFrames).length ≠ options.maxReceiveFrames ↔
          (frames.take options.maxReceiveFrames).length < options.maxReceiveFrames := by
        rw [List.length_take]
        omega
      rw [verdict_ok_iff hjudged hasked.expected hasked.limit, accepts_iff hdistinct, hbudget]
      unfold Untroubled
      dsimp only
      rw [and_assoc, and_assoc]
    · rw [hcounts.1, List.length_take, Nat.min_comm]
    · have hasked' : Asked { t with receive := receive' } motors options
          (requestEpochs t motors) report :=
        ⟨hasked.manifest, rfl, hasked.expected, hasked.blank, hasked.deadline, hasked.limit⟩
      obtain ⟨after', hloop', hjudged'⟩ := hasked'.judges hyields'
      rw [hout receive', hloop']
      exact hjudged.perm hjudged' hperm

/-! ### The probe of one motor that answers once. -/

/-- Motor 1, which answers under id 0x11. -/
def shoulder : MotorManifest ℚ where
  jointIndex := 0
  expectedMotorId := 1
  sendId := 1
  receiveId := 0x11
  decodeMotorType := motorDm8009
  mapping := ⟨1, 0, 1, 1⟩
  jointName := ![0x6a, 0x31, 0, 0, 0, 0, 0, 0, 0, 0, 0, 0, 0, 0, 0, 0, 0, 0, 0, 0, 0, 0, 0, 0, 0,
    0, 0, 0, 0, 0, 0, 0]
  commissionedSerial := fun _ => 0

/-- Its answer that it is disabled. -/
def shoulderAnswer : ReceivedFrame := ⟨24, 2, 5, ⟨0x11, 8, ![0x01, 0x80, 0, 0x80, 0x08, 0, 30, 30]⟩⟩

/-- A transport that yields the answer. -/
def shoulderBus : CanTransport where
  now := (.ok, 4)
  send _ _ := (.ok, 3)
  receive _ index := if index = 0 then .ok shoulderAnswer else .error .etimeout

/-- The probe of one motor opens on it. -/
theorem shoulder_opens : Opens shoulderBus [shoulder] ⟨10, 2⟩ where
  timeout := by decide
  limit := by decide
  sent := fun _ _ _ => rfl
  clock := rfl
  room := by decide
  before := fun _ _ _ => show 3 ≤ 4 by decide

/-- The rule where the only motor answers once that it is disabled. -/
theorem probe_exact_shoulder :
    validateManifest [shoulder] = .ok ∧ Opens shoulderBus [shoulder] ⟨10, 2⟩ ∧
      (probeExpected shoulderBus [shoulder] ⟨10, 2⟩).1 = .ok ∧
        (probeExpected shoulderBus [shoulder] ⟨10, 2⟩).2.receivedFrames = 1 ∧
          ((probeExpected shoulderBus [shoulder] ⟨10, 2⟩).1 = .ok ↔
            ([shoulderAnswer].take
              (probeExpected shoulderBus [shoulder] ⟨10, 2⟩).2.receivedFrames).length < 2 ∧
              Accepts shoulderBus [shoulder] 14 ([shoulderAnswer].take
                (probeExpected shoulderBus [shoulder] ⟨10, 2⟩).2.receivedFrames)) :=
  have hrule := probe_exact shoulderBus [shoulder] ⟨10, 2⟩ [shoulderAnswer] (by decide +kernel)
    (by rintro (_ | index) <;> rfl)
  ⟨by decide +kernel, shoulder_opens, by decide +kernel, hrule.2.1 shoulder_opens, hrule.1⟩

end OpenArm.Can
