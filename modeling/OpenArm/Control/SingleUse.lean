/-
  OpenArm.Control.SingleUse — a plan moves the arms at most once.

  Nothing marks a plan as used.  A plan is bound to the feedback sequence it
  was made on, and a command does not end before that sequence has moved on:
  a stop publishes the pose it holds, and a completion has counted
  generations of both arms.

  Main results:
    * `fed_call`            — the generations of a call.
    * `plan_executes_once`  — no run accepts a plan twice, while a 64-bit
      counter of generations lasts.
-/
import OpenArm.Control.Walk
import OpenArm.Control.Lifecycle

namespace OpenArm.Control

open OpenArm.Lib

variable {F : Type} [Floating F]

namespace Controller

/-! ## §1. The generations of a walk. -/

/-- From `c` to `c'` arm `side` published at most `n` generations; without one
    it measured nothing, and a waiting command goes on waiting. -/
structure Fed (n : Nat) (side : Side) (c c' : Controller F) : Prop where
  backend : c'.isVirtual = c.isVirtual
  bound : (c.arm side).feedbackSeq ≤ maxU64 → (c'.arm side).feedbackSeq ≤ maxU64
  counted : ∃ k ≤ n,
    wrap64 (c'.arm side).feedbackSeq = wrap64 ((c.arm side).feedbackSeq + k) ∧
      (k = 0 → (c'.arm side).feedbackSeq = (c.arm side).feedbackSeq ∧
        (∀ j, ((c'.arm side).motor j).measured = ((c.arm side).motor j).measured) ∧
        (c.Waiting side → c'.Waiting side))

namespace Fed

variable {n k : Nat} {side : Side} {c m c' : Controller F}

section

omit [Floating F]

theorem mono (h : Fed n side c c') (hle : n ≤ k) : Fed k side c c' := by
  obtain ⟨i, hi, hrest⟩ := h.counted
  exact ⟨h.backend, h.bound, i, hi.trans hle, hrest⟩

theorem refl (n : Nat) (side : Side) (c : Controller F) : Fed n side c c :=
  ⟨rfl, id, 0, Nat.zero_le n, rfl, fun _ => ⟨rfl, fun _ => rfl, id⟩⟩

theorem trans (h : Fed n side c m) (h' : Fed k side m c') : Fed (n + k) side c c' := by
  obtain ⟨i, hi, hseq, hnone⟩ := h.counted
  obtain ⟨j, hj, hseq', hnone'⟩ := h'.counted
  refine ⟨h'.backend.trans h.backend, fun hle => h'.bound (h.bound hle), i + j, by omega, ?_,
    fun hzero => ?_⟩
  · rw [hseq', ArmRuntime.wrap64_add_congr j hseq, Nat.add_assoc]
  · obtain ⟨hs, hm, hw⟩ := hnone (by omega)
    obtain ⟨hs', hm', hw'⟩ := hnone' (by omega)
    exact ⟨hs'.trans hs, fun joint => (hm' joint).trans (hm joint), fun hc => hw' (hw hc)⟩

/-- The arm is fed, and a waiting command is not affected by it. -/
theorem of_feeds (hbackend : c'.isVirtual = c.isVirtual)
    (hfeeds : (c.arm side).Feeds n (c'.arm side))
    (hwaits : (c'.arm side).feedbackSeq = (c.arm side).feedbackSeq →
      c.Waiting side → c'.Waiting side) : Fed n side c c' := by
  obtain ⟨hbound, i, hi, hseq, hnone⟩ := hfeeds
  refine ⟨hbackend, hbound, i, hi, hseq, fun hzero => ?_⟩
  obtain ⟨hsame, hmeasured⟩ := hnone hzero
  exact ⟨hsame, hmeasured, hwaits hsame⟩

end

end Fed

/-- A stop publishes the pose it holds, where there is one. -/
theorem fed_stop {c c' : Controller F} (hold : Bool) (side : Side)
    (hbackend : c'.isVirtual = c.isVirtual) (harm : c'.arm = (c.materializeStop hold).arm) :
    Fed 1 side c c' := by
  have hside : c'.arm side = c.stopArm hold (c.arm side) := congrFun harm side
  by_cases hvirtual : c.isVirtual = true
  · by_cases hfed : (c.arm side).feedbackSeq ≠ 0
    · have hstop : c'.arm side = (c.arm side).materializeStop hold c.nowNs := by
        rw [hside]
        unfold stopArm
        rw [if_pos hvirtual, if_pos hfed]
      have hforced := ((c.arm side).setEnabled hold).feeds_forceState (c.arm side).measuredQ
        ArmRuntime.zeroVector c.nowNs
      refine ⟨hbackend, ?_, 1, Nat.le_refl 1, ?_, fun h => absurd h Nat.one_ne_zero⟩
      · rw [hstop]
        exact hforced.1
      · rw [hstop]
        exact ((c.arm side).setEnabled hold).seq_forceState _ _ _
    · -- nothing was ever measured, so no command waits
      refine .of_feeds hbackend ?_ fun _ hwaiting => absurd hwaiting.fed hfed
      rw [hside]
      unfold stopArm
      rw [if_pos hvirtual, if_neg hfed]
      exact .quiet 1 rfl fun _ => rfl
  · refine .of_feeds hbackend ?_ fun _ hwaiting => absurd hwaiting.isVirtual hvirtual
    rw [hside]
    unfold stopArm
    rw [if_neg hvirtual]
    exact .quiet 1 rfl fun _ => rfl

theorem publish_events_of_room {c : Controller F} (kind : EventKind) (cause : ControlStatus)
    (id : Nat) (h : c.events.isFull = false) :
    ∃ events, (c.publish kind cause id).1 = { c with events := events } := by
  obtain ⟨event, heq⟩ := c.publish_of_room kind cause id h
  exact ⟨_, congrArg Prod.fst heq⟩

theorem Move.fed {c c' : Controller F} (h : Move c c') (side : Side) : Fed 64 side c c' := by
  cases h with
  | write backend arm _ _ _ waits =>
    refine .of_feeds backend ?_ fun _ => waits side
    rw [arm]
    exact .quiet 64 rfl fun _ => rfl
  | feed feeds =>
    refine .of_feeds rfl (feeds side) fun hsame h => ?_
    refine ⟨h.active, h.isVirtual, ?_, h.intervals, fun hstarted => ?_⟩
    · rw [hsame]
      exact h.fed
    · rw [hsame]
      exact h.same hstarted
  | halt hold backend arm => exact (fed_stop hold side backend arm).mono (by omega)
  | publish kind cause id room =>
    obtain ⟨events, heq⟩ := publish_events_of_room kind cause id room
    rw [heq]
    exact .of_feeds rfl (.quiet 64 rfl fun _ => rfl) fun _ h => ⟨h.1, h.2, h.3, h.4, h.5⟩

theorem Chain.fed {n : Nat} {c c' : Controller F} (h : Chain n c c') (side : Side) :
    Fed (64 * n) side c c' := by
  induction h with
  | refl c => exact .refl _ side c
  | snoc _ last ih => exact (ih.trans (last.fed side)).mono (by omega)

theorem Latch.fed {c c' : Controller F} (h : Latch c c') (side : Side) : Fed 1 side c c' := by
  obtain ⟨hold, harm⟩ | ⟨hclosed, harm⟩ := h.arm
  · exact fed_stop hold side h.backend harm
  · refine .of_feeds h.backend ?_ fun _ hwaiting => ?_
    · rw [harm]
      exact .quiet 1 rfl fun _ => rfl
    · refine absurd hwaiting (not_waiting ?_ ?_)
      · rcases hclosed with h | h <;> simp [h]
      · rcases hclosed with h | h <;> simp [h]

/-- A publish on a full ring stops the arms, any other leaves them alone. -/
theorem fed_publish (c : Controller F) (kind : EventKind) (cause : ControlStatus) (id : Nat)
    (side : Side) : Fed 1 side c (c.publish kind cause id).1 := by
  by_cases hroom : c.events.isFull = false
  · obtain ⟨events, heq⟩ := publish_events_of_room kind cause id hroom
    rw [heq]
    exact .of_feeds rfl (.quiet 1 rfl fun _ => rfl) fun _ h => ⟨h.1, h.2, h.3, h.4, h.5⟩
  · obtain ⟨event, heq⟩ := c.publish_of_full kind cause id (by simpa using hroom)
    rw [heq]
    exact fed_stop false side rfl rfl

theorem Ends.fed {n : Nat} {c c' : Controller F} {status : ControlStatus}
    (h : Ends n c c' status) (side : Side) : Fed (64 * n + 2) side c c' := by
  cases h with
  | walk walk =>
    obtain ⟨k, hk, hchain⟩ := walk
    exact (hchain.fed side).mono (by omega)
  | overflow kind cause id _ walk =>
    obtain ⟨k, hk, hchain⟩ := walk
    exact ((hchain.fed side).trans (fed_publish _ kind cause id side)).mono (by omega)
  | latch kind cause id walk latch =>
    obtain ⟨k, hk, hchain⟩ := walk
    exact (((hchain.fed side).trans (latch.fed side)).trans
      (fed_publish _ kind cause id side)).mono (by omega)

theorem Special.fed {op : Op F} {c c' : Controller F} (h : Special op c c') (side : Side) :
    Fed 1 side c c' := by
  cases h with
  | openAndVerify _ life =>
    refine .of_feeds rfl (ArmRuntime.feeds_forceState ((c.arm side).setEnabled false) _ _ _)
      fun _ hwaiting => absurd hwaiting (not_waiting (by simp [life]) (by simp [life]))
  | challenge _ life =>
    exact .of_feeds rfl (.quiet 1 rfl fun _ => rfl) fun _ h => ⟨h.1, h.2, h.3, h.4, h.5⟩
  | arm _ challenge life matched =>
    refine .of_feeds rfl (ArmRuntime.feeds_forceState ((c.arm side).setEnabled true) _ _ _)
      fun _ hwaiting => absurd hwaiting (not_waiting (by simp [life]) (by simp [life]))
  | reset _ request latched accepted =>
    refine .of_feeds rfl (.quiet 1 rfl fun _ => rfl) fun _ hwaiting => ?_
    have hcalm : c.Calm := by
      unfold Calm
      rcases hwaiting.active with h | h <;> simp [h]
    exact absurd hcalm latched
  | pollEvent _ some =>
    exact .of_feeds rfl (.quiet 1 rfl fun _ => rfl) fun _ h => ⟨h.1, h.2, h.3, h.4, h.5⟩
  | disarm _ deadline due life => exact fed_stop false side rfl rfl

theorem Closes.fed {m c' : Controller F} {status : ControlStatus} (h : Closes m c' status)
    (side : Side) : Fed 1 side m c' := by
  cases h with
  | refl => exact .refl 1 side m
  | publish kind cause id => exact fed_publish m kind cause id side

/-- **The generations of a call.** -/
theorem fed_call (L : ModelLibrary F) (w : World F) (op : Op F) (side : Side) :
    Fed 1300 side w.controller (call L w op).1.controller := by
  obtain hends | ⟨m, hspecial, hcloses⟩ := call_ends L w op
  · exact (hends.fed side).mono (by omega)
  · exact ((hspecial.fed side).trans (hcloses.fed side)).mono (by omega)

end Controller

/-! ## §2. The generations of a run. -/

open Controller

/-- How many generations arm `side` published over a run: the counter has 64
    bits, and no call publishes as many. -/
def generations (L : ModelLibrary F) (side : Side) : World F → List (Label F) → Nat
  | _, [] => 0
  | w, e :: es =>
    wrapSub64 (((call L w e.1).1.controller.arm side).feedbackSeq)
        ((w.controller.arm side).feedbackSeq) +
      generations L side (call L w e.1).1 es

theorem generations_append (L : ModelLibrary F) (side : Side) {w w' : World F}
    {es : List (Label F)} (h : (system L).Run w es w') (fs : List (Label F)) :
    generations L side w (es ++ fs) = generations L side w es + generations L side w' fs := by
  induction h generalizing fs with
  | nil => simp [generations]
  | snoc front last ih =>
    rename_i m w' es e
    have hcall : (call L m e.1).1 = w' := (step_eq last).1.symm
    rw [List.append_assoc, ih, ih [e]]
    simp only [List.cons_append, List.nil_append, generations, hcall]
    omega

/-- The feedback of an arm after a run that began with a new controller. -/
structure Counted (side : Side) (count : Nat) (c : Controller F) : Prop where
  seq : (c.arm side).feedbackSeq = count
  unmeasured : count = 0 → ∀ j, ((c.arm side).motor j).measured.valid = false

/-- **Step lemma**: a call adds the generations it published. -/
theorem counted_call (L : ModelLibrary F) {w : World F} {side : Side} {count : Nat}
    (h : Counted side count w.controller) (op : Op F)
    (hfew : count + wrapSub64 (((call L w op).1.controller.arm side).feedbackSeq)
      ((w.controller.arm side).feedbackSeq) < 2 ^ 64) :
    Counted side (count + wrapSub64 (((call L w op).1.controller.arm side).feedbackSeq)
        ((w.controller.arm side).feedbackSeq)) (call L w op).1.controller ∧
      (((call L w op).1.controller.arm side).feedbackSeq = count →
        w.controller.Waiting side → (call L w op).1.controller.Waiting side) := by
  obtain ⟨-, hbound, k, hk, hseq, hnone⟩ := fed_call L w op side
  rw [h.seq] at hbound hseq hnone hfew ⊢
  have hle := hbound (by unfold maxU64; omega)
  unfold maxU64 at hle
  -- the counter moved by the `k` generations of the call
  have hafter : ((call L w op).1.controller.arm side).feedbackSeq = count + k := by
    unfold wrapSub64 wrap64 at *
    omega
  have hdelta : wrapSub64 ((call L w op).1.controller.arm side).feedbackSeq count = k := by
    unfold wrapSub64 wrap64
    omega
  rw [hdelta]
  refine ⟨⟨hafter, fun hzero j => ?_⟩, fun hsame => ?_⟩
  · obtain ⟨-, hmeasured, -⟩ := hnone (by omega)
    rw [hmeasured j]
    exact h.unmeasured (by omega) j
  · exact (hnone (by omega)).2.2

/-- **Run lemma**: a counter that lasts counts every generation. -/
theorem counted_run (L : ModelLibrary F) {side : Side} {w w' : World F} {es : List (Label F)}
    {count : Nat} (hrun : (system L).Run w es w') (h : Counted side count w.controller)
    (hfew : count + generations L side w es < 2 ^ 64) :
    Counted side (count + generations L side w es) w'.controller := by
  induction hrun with
  | nil => exact h
  | snoc front last ih =>
    rename_i m w' es e
    have hcall : (call L m e.1).1 = w' := (step_eq last).1.symm
    rw [generations_append L side front] at hfew ⊢
    simp only [generations, Nat.add_zero] at hfew ⊢
    have hm := ih (by omega)
    rw [← hcall, ← Nat.add_assoc]
    exact (counted_call L hm e.1 (by omega)).1

theorem counted_initial {w : World F} (h : w.Initial) (side : Side) :
    Counted side 0 w.controller := by
  obtain ⟨manifest, options, instanceId, hcreate⟩ := h
  rw [hcreate]
  exact ⟨rfl, fun _ _ => rfl⟩

/-! ## §3. A used plan. -/

/-- A plan made on sequence `seed` of arm `side` was executed: the arm has
    moved on, or the command still waits. -/
def Used (side : Side) (seed : Nat) (c : Controller F) : Prop :=
  seed < (c.arm side).feedbackSeq ∨ (c.arm side).feedbackSeq = seed ∧ c.Waiting side

/-- **Run lemma**: a used plan stays used. -/
theorem used_run (L : ModelLibrary F) {side : Side} {seed count : Nat} {w w' : World F}
    {es : List (Label F)} (hrun : (system L).Run w es w') (hcount : Counted side count w.controller)
    (hfew : count + generations L side w es < 2 ^ 64) (h : Used side seed w.controller) :
    Used side seed w'.controller := by
  induction hrun with
  | nil => exact h
  | snoc front last ih =>
    rename_i m w' es e
    have hcall : (call L m e.1).1 = w' := (step_eq last).1.symm
    rw [generations_append L side front] at hfew
    simp only [generations, Nat.add_zero] at hfew
    have hm := counted_run L front hcount (by omega)
    have hmused := ih (by omega)
    obtain ⟨hnext, hwaits⟩ := counted_call L hm e.1 (by omega)
    rw [← hcall]
    unfold Used at hmused ⊢
    rw [hm.seq] at hmused
    rw [hnext.seq] at hwaits ⊢
    obtain hlater | ⟨hsame, hwaiting⟩ := hmused
    · exact .inl (by omega)
    · by_cases hquiet : count + generations L side w es + wrapSub64
          (((call L m e.1).1.controller.arm side).feedbackSeq)
          ((m.controller.arm side).feedbackSeq) = count + generations L side w es
      · exact .inr ⟨by omega, hwaits hquiet hwaiting⟩
      · exact .inl (by omega)

theorem isVirtual_run (L : ModelLibrary F) {w w' : World F} {es : List (Label F)}
    (hrun : (system L).Run w es w') : w'.controller.isVirtual = w.controller.isVirtual := by
  induction hrun with
  | nil => rfl
  | snoc front last ih =>
    rw [(step_eq last).1]
    exact (fed_call L _ _ 0).backend.trans ih

theorem acceptsExecute_seed {c : Controller F} {plan : MotionPlan F} {request : ExecuteRequest}
    (h : c.acceptsExecute plan request = true) (side : Side) :
    plan.seedSeq side = (c.arm side).feedbackSeq ∧
      ∀ j, ((c.arm side).motor j).measured.valid = true := by
  simp only [acceptsExecute, Bool.and_eq_true, decide_eq_true_eq, Bool.not_eq_true'] at h
  obtain ⟨⟨⟨⟨⟨⟨-, hfresh⟩, -⟩, -⟩, -⟩, hstale⟩, -⟩ := h
  have hside : side = 0 ∨ side = 1 := by
    fin_cases side <;> simp
  constructor
  · simp only [planStale, Bool.or_eq_false_iff, bne_eq_false_iff_eq] at hstale
    obtain ⟨⟨⟨-, hleft⟩, hright⟩, -⟩ := hstale
    rcases hside with rfl | rfl
    · exact hleft
    · exact hright
  · have hcomplete : (c.arm side).completeFresh c.nowNs c.options.feedbackTimeoutNs = true := by
      unfold fresh feedbackIntegrity at hfresh
      rw [decide_eq_true_eq] at hfresh
      split at hfresh
      · exact absurd hfresh (by decide)
      · rename_i hboth
        simp only [Bool.or_eq_true, Bool.not_eq_true', not_or, Bool.not_eq_false] at hboth
        rcases hside with rfl | rfl
        · exact hboth.1
        · exact hboth.2
    intro j
    have hjoint := (ArmRuntime.completeFresh_iff _ _ _).mp hcomplete j
    simp only [ArmRuntime.jointFresh, Bool.and_eq_true] at hjoint
    exact hjoint.1.1.2

/-- An accepted execute uses its plan. -/
theorem used_execute (L : ModelLibrary F) {a : World F} {plan : MotionPlan F}
    {request : ExecuteRequest} {side : Side} {count : Nat}
    (haccept : a.controller.acceptsExecute plan request = true)
    (hvirtual : a.controller.isVirtual = true) (hcount : Counted side count a.controller)
    (hfew : count + wrapSub64
      (((call L a (.execute plan request)).1.controller.arm side).feedbackSeq)
      ((a.controller.arm side).feedbackSeq) < 2 ^ 64) :
    Used side (plan.seedSeq side) (call L a (.execute plan request)).1.controller := by
  obtain ⟨hseed, hvalid⟩ := acceptsExecute_seed haccept side
  -- an arm that was measured has published
  have hfed : (a.controller.arm side).feedbackSeq ≠ 0 := by
    intro hzero
    have hunmeasured := hcount.unmeasured (hcount.seq ▸ hzero) 0
    exact absurd (hunmeasured.symm.trans (hvalid 0)) (by decide)
  have hstarted : (a.controller.startCommand L plan request).Waiting side :=
    ⟨.inl rfl, hvirtual, hfed, rfl, fun hne => absurd rfl hne⟩
  have hexecute : (call L a (.execute plan request)).1.controller =
      ((a.controller.startCommand L plan request).publish
        (if (a.controller.startCommand L plan request).commandStarted then .started else .queued)
        .ok a.controller.nextCommandId).1 :=
    congrArg Prod.fst (a.controller.execute_of_accepts L plan request haccept)
  obtain ⟨hnext, -⟩ := counted_call L hcount (.execute plan request) hfew
  unfold Used
  rw [hseed, hcount.seq]
  by_cases hroom : (a.controller.startCommand L plan request).events.isFull = false
  · obtain ⟨events, heq⟩ := publish_events_of_room
      (if (a.controller.startCommand L plan request).commandStarted then .started else .queued)
      .ok a.controller.nextCommandId hroom
    rw [hexecute, heq]
    exact .inr ⟨hcount.seq, hstarted.1, hstarted.2, hstarted.3, hstarted.4, hstarted.5⟩
  · -- the overflow stop published the pose it holds
    left
    obtain ⟨event, heq⟩ := publish_of_full (a.controller.startCommand L plan request)
      (if (a.controller.startCommand L plan request).commandStarted then .started else .queued)
      .ok a.controller.nextCommandId (by simpa using hroom)
    have hstop : ((call L a (.execute plan request)).1.controller.arm side) =
        (a.controller.arm side).materializeStop false a.controller.nowNs := by
      rw [hexecute, heq]
      show stopArm _ false (a.controller.arm side) = _
      unfold stopArm
      exact (if_pos hvirtual).trans (if_pos hfed)
    have hseq := ((a.controller.arm side).setEnabled false).seq_forceState
      (a.controller.arm side).measuredQ ArmRuntime.zeroVector a.controller.nowNs
    have hforced : wrap64 ((call L a (.execute plan request)).1.controller.arm side).feedbackSeq =
        wrap64 (count + 1) := by
      rw [hstop, ← hcount.seq]
      exact hseq
    rw [hnext.seq] at hforced ⊢
    unfold wrap64 at hforced
    omega

/-- **A plan moves the arms at most once.**  After an `execute` that passed its
    checks no later `execute` of that plan passes them, whatever the run does
    in between, as long as fewer than 2⁶⁴ generations of some arm are
    published. -/
theorem plan_executes_once (L : ModelLibrary F) {w₀ a b z : World F}
    {before after : List (Label F)} {plan : MotionPlan F} {request : ExecuteRequest}
    {response : Response F} {side : Side} (hinit : w₀.Initial)
    (hvirtual : w₀.controller.isVirtual = true) (hbefore : (system L).Run w₀ before a)
    (hstep : (system L).step a (.execute plan request, response) b)
    (haccept : a.controller.acceptsExecute plan request = true)
    (hafter : (system L).Run b after z)
    (hfew : generations L side w₀ (before ++ (.execute plan request, response) :: after) < 2 ^ 64)
    (again : ExecuteRequest) : z.controller.acceptsExecute plan again = false := by
  have hcall : (call L a (.execute plan request)).1 = b := (step_eq hstep).1.symm
  rw [generations_append L side hbefore] at hfew
  simp only [generations, hcall] at hfew
  have hcount := counted_run L hbefore (counted_initial hinit side) (by omega)
  rw [Nat.zero_add] at hcount
  have hvirtual' : a.controller.isVirtual = true := (isVirtual_run L hbefore).trans hvirtual
  have hused := used_execute L haccept hvirtual' hcount (by rw [hcall]; omega)
  obtain ⟨hnext, -⟩ := counted_call L hcount (.execute plan request) (by rw [hcall]; omega)
  rw [hcall] at hused hnext
  have hend := used_run L hafter hnext (by omega) hused
  by_contra hagain
  rw [Bool.not_eq_false] at hagain
  obtain ⟨hseed, -⟩ := acceptsExecute_seed hagain side
  obtain hlater | ⟨-, hwaiting⟩ := hend
  · omega
  · have harmed := acceptsExecute_armed hagain
    exact not_waiting (by simp [harmed]) (by simp [harmed]) hwaiting

/-! ## §4. A stopped plan. -/

/-- The armed standard world executes a joint plan and stops with a hold. -/
def stoppedWorld : World ℚ :=
  let armed := armedWorld silentLibrary
  (call silentLibrary (call silentLibrary armed
    (.execute (loopPlan armed.controller) loopRequest)).1 (.stop .controlled)).1

/-- Armed and idle again, the controller does not accept the stopped plan. -/
theorem plan_executes_once_stop :
    (armedWorld silentLibrary).controller.acceptsExecute
        (loopPlan (armedWorld silentLibrary).controller) loopRequest = true ∧
      stoppedWorld.controller.lifecycle = .armedIdle ∧
      stoppedWorld.controller.acceptsExecute
        (loopPlan (armedWorld silentLibrary).controller) loopRequest = false := by
  have haccept : (armedWorld silentLibrary).controller.acceptsExecute
      (loopPlan (armedWorld silentLibrary).controller) loopRequest = true := by decide +kernel
  refine ⟨haccept, by decide +kernel, ?_⟩
  exact plan_executes_once silentLibrary standardWorld_initial rfl
    (armedWorld_run silentLibrary) (call_step silentLibrary _ _) haccept
    (.single (call_step silentLibrary _ (.stop .controlled)))
    (show generations silentLibrary 0 _ _ < 2 ^ 64 by decide +kernel) loopRequest

end OpenArm.Control
