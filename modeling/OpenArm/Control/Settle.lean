/-
  OpenArm.Control.Settle — the dwell that completes a command.

  The registers of the dwell are explained by the record of the cycles that
  returned OK: the newest cycles of the record all met the goal of the plan,
  the first of them began the dwell, and the counted ones each renewed the
  feedback of both arms.  A cycle out of tolerance starts over.

  Main results:
    * `measuredAtGoal_iff` — what a cycle has seen that counts.
    * `dwelt_run`          — the record explains the registers after any run.
    * `completes_dwelt`    — and at the COMPLETED event.
-/
import Mathlib
import OpenArm.Control.Dwell

namespace OpenArm.Control

open OpenArm.Lib

variable {F : Type} [Floating F]

/-! ## §1. The goal of a plan. -/

/-- The error `measured_at_goal` compares with the TCP tolerance. -/
def tcpDistance (tcp target : Vec3 F) : F :=
  let error := difference tcp target
  Floating.sqrt (Floating.lit 0 + error 0 * error 0 + error 1 * error 1 + error 2 * error 2)

namespace Controller

/-- The measured joints of one arm are within the joint tolerances. -/
def JointsWithin (c : Controller F) (plan : MotionPlan F) (side : Side) : Prop :=
  ∀ joint,
    ¬ plan.jointPositionTolerance side <
        Floating.abs ((c.arm side).measuredQ joint - plan.targetQ side joint) ∧
      ¬ plan.jointVelocityTolerance side < Floating.abs ((c.arm side).measuredDq joint)

/-- The forward kinematics of the measured joints of one arm is within `tol` of
    the target. -/
def TcpWithin (c : Controller F) (L : ModelLibrary F) (target : Vec3 F) (tol : F)
    (side : Side) : Prop :=
  ∃ fk, L.forward side (c.arm side).measuredQ = some fk ∧ ¬ tol < tcpDistance fk.tcpXyz target

/-- What a cycle that counts has seen: the TCPs of a paired plan, the joints of
    any plan. -/
def AtGoal (c : Controller F) (L : ModelLibrary F) (plan : MotionPlan F) : Prop :=
  ∀ side, plan.activeArmMask side = true →
    c.JointsWithin plan side ∧
      (plan.kind = .pairedTcp → c.TcpWithin L (plan.targetTcp side) (plan.tcpTolerance side) side)

/-- **`measured_at_goal` is the goal of the plan.** -/
theorem measuredAtGoal_iff {c : Controller F} {plan : MotionPlan F} (L : ModelLibrary F)
    (h : c.executing = some plan) : c.measuredAtGoal L = true ↔ c.AtGoal L plan := by
  unfold measuredAtGoal AtGoal
  rw [h]
  dsimp only
  simp only [List.all_eq_true, List.mem_finRange, true_implies]
  refine forall_congr' fun side => ?_
  by_cases hactive : plan.activeArmMask side = true
  · rw [hactive, Bool.not_true, Bool.false_or, Bool.and_eq_true]
    refine ⟨fun ⟨hjoints, htcp⟩ _ => ⟨fun joint => ?_, fun hkind => ?_⟩, fun hgoal => ?_⟩
    · have hjoint := List.all_eq_true.mp hjoints joint (List.mem_finRange joint)
      simpa using hjoint
    · rw [if_pos hkind] at htcp
      split at htcp
      · cases htcp
      · rename_i fk hforward
        exact ⟨fk, hforward, by simpa [tcpDistance] using htcp⟩
    · obtain ⟨hjoints, htcp⟩ := hgoal rfl
      refine ⟨List.all_eq_true.mpr fun joint _ => by simpa using hjoints joint, ?_⟩
      by_cases hkind : plan.kind = .pairedTcp
      · obtain ⟨fk, hforward, hnear⟩ := htcp hkind
        rw [if_pos hkind, hforward]
        simpa [tcpDistance] using hnear
      · rw [if_neg hkind]
  · simp [hactive]

/-- The goal is one of the measured joints alone. -/
theorem AtGoal.of_arm {c c' : Controller F} {L : ModelLibrary F} {plan : MotionPlan F}
    (harm : c'.arm = c.arm) (h : c.AtGoal L plan) : c'.AtGoal L plan := by
  unfold AtGoal JointsWithin TcpWithin at h ⊢
  rw [harm]
  exact h

/-! ## §2. Counting. -/

/-- `countSettle` on the registers. -/
def Dwell.count (d : Dwell F) (nowNs : Nat) (seq : Side → Nat) : Dwell F :=
  if d.settleStartNs = 0 then
    { d with settleStartNs := nowNs, settleFeedbackSeq := seq, settleFeedbackIntervals := 0 }
  else if seq 0 ≠ d.settleFeedbackSeq 0 ∧ seq 1 ≠ d.settleFeedbackSeq 1 then
    { d with
      settleFeedbackSeq := seq
      settleFeedbackIntervals := wrap32 (d.settleFeedbackIntervals + 1) }
  else d

section

omit [Floating F]

/-- Counting writes the three registers only. -/
theorem Dwell.count_fields (d : Dwell F) (nowNs : Nat) (seq : Side → Nat) :
    (d.count nowNs seq).executing = d.executing ∧
      (d.count nowNs seq).commandStartNs = d.commandStartNs ∧
      (d.count nowNs seq).cycleNs = d.cycleNs := by
  unfold Dwell.count
  split
  · exact ⟨rfl, rfl, rfl⟩
  · split <;> exact ⟨rfl, rfl, rfl⟩

theorem dwell_countSettle (c : Controller F) :
    c.countSettle.dwell = c.dwell.count c.nowNs fun side => (c.arm side).feedbackSeq := by
  unfold countSettle Dwell.count
  dsimp only
  by_cases hfirst : c.settleStartNs = 0
  · rw [if_pos hfirst, if_pos (show c.dwell.settleStartNs = 0 from hfirst)]
    rfl
  · rw [if_neg hfirst, if_neg (show ¬ c.dwell.settleStartNs = 0 from hfirst)]
    by_cases hnew : (c.arm 0).feedbackSeq ≠ c.settleFeedbackSeq 0 ∧
        (c.arm 1).feedbackSeq ≠ c.settleFeedbackSeq 1
    · rw [if_pos hnew]
      exact (if_pos (show (c.arm 0).feedbackSeq ≠ c.dwell.settleFeedbackSeq 0 ∧
        (c.arm 1).feedbackSeq ≠ c.dwell.settleFeedbackSeq 1 from hnew)).symm
    · rw [if_neg hnew]
      exact (if_neg (show ¬ ((c.arm 0).feedbackSeq ≠ c.dwell.settleFeedbackSeq 0 ∧
        (c.arm 1).feedbackSeq ≠ c.dwell.settleFeedbackSeq 1) from hnew)).symm

theorem arm_countSettle (c : Controller F) : c.countSettle.arm = c.arm := by
  unfold countSettle
  dsimp only
  split
  · rfl
  · split <;> rfl

end

/-- Both arms delivered another generation. -/
def Renewed (a b : Controller F) : Prop :=
  ∀ side, (b.arm side).feedbackSeq ≠ (a.arm side).feedbackSeq

/-- The cycles `dwell` explain the registers: all of them met the goal, the
    first began the dwell, and the counted ones renewed the feedback of both
    arms each. -/
structure Dwell.Counted (L : ModelLibrary F) (plan : MotionPlan F) (d : Dwell F)
    (dwell : List (Controller F)) : Prop where
  goal : ∀ c ∈ dwell, c.AtGoal L plan
  begins : ∃ first, dwell.head? = some first ∧ first.nowNs = d.settleStartNs
  marks : ∃ marks last, (marks ++ [last]).Sublist dwell ∧
    (marks ++ [last]).IsChain Renewed ∧ d.settleFeedbackIntervals ≤ marks.length ∧
      ∀ side, (last.arm side).feedbackSeq = d.settleFeedbackSeq side

namespace Dwell.Counted

variable {L : ModelLibrary F} {plan : MotionPlan F} {d : Dwell F} {dwell : List (Controller F)}
  {c : Controller F}

/-- The first cycle within tolerance. -/
theorem start (hfirst : d.settleStartNs = 0) (hgoal : c.AtGoal L plan) :
    Counted L plan (d.count c.nowNs fun side => (c.arm side).feedbackSeq) [c] := by
  unfold Dwell.count
  rw [if_pos hfirst]
  refine ⟨fun c' hc' => ?_, ⟨c, rfl, rfl⟩, [], c, List.Sublist.refl _, .singleton c,
    Nat.le_refl 0, fun _ => rfl⟩
  obtain rfl := List.mem_singleton.mp hc'
  exact hgoal

/-- The next one. -/
theorem next (h : Counted L plan d dwell) (hfirst : d.settleStartNs ≠ 0)
    (hgoal : c.AtGoal L plan) :
    Counted L plan (d.count c.nowNs fun side => (c.arm side).feedbackSeq) (dwell ++ [c]) := by
  obtain ⟨first, hhead, hbegan⟩ := h.begins
  obtain ⟨marks, last, hsub, hchain, hcount, hseq⟩ := h.marks
  have hall : ∀ c' ∈ dwell ++ [c], c'.AtGoal L plan := by
    intro c' hc'
    rcases List.mem_append.mp hc' with hold | hnew
    · exact h.goal c' hold
    · obtain rfl := List.mem_singleton.mp hnew
      exact hgoal
  have hhead' : (dwell ++ [c]).head? = some first := by
    rw [List.head?_append, hhead]
    rfl
  unfold Dwell.count
  rw [if_neg hfirst]
  split
  · rename_i hnew
    refine ⟨hall, ⟨first, hhead', hbegan⟩, marks ++ [last], c, hsub.append_right [c], ?_, ?_,
      fun _ => rfl⟩
    · refine List.isChain_append.mpr ⟨hchain, .singleton c, fun a ha b hb => ?_⟩
      obtain rfl : last = a := by simpa using ha
      obtain rfl : c = b := by simpa using hb
      intro side
      rw [hseq side]
      match side with
      | 0 => exact hnew.1
      | 1 => exact hnew.2
    · rw [List.length_append, List.length_singleton]
      have hwrap : wrap32 (d.settleFeedbackIntervals + 1) ≤ d.settleFeedbackIntervals + 1 :=
        Nat.mod_le _ _
      show wrap32 (d.settleFeedbackIntervals + 1) ≤ marks.length + 1
      omega
  · exact ⟨hall, ⟨first, hhead', hbegan⟩, marks, last,
      hsub.trans (List.sublist_append_left dwell [c]), hchain, hcount, hseq⟩

end Dwell.Counted

/-! ## §3. The settle stage. -/

/-- `settled` on the registers. -/
def Dwell.Over (d : Dwell F) (nowNs : Nat) : Prop :=
  3 ≤ d.settleFeedbackIntervals ∧ d.cycleNs * 3 ≤ nowNs - d.settleStartNs

omit [Floating F] in
theorem settled_iff (c : Controller F) : c.settled = true ↔ c.dwell.Over c.nowNs := by
  unfold settled Dwell.Over
  rw [Bool.and_eq_true, decide_eq_true_eq, decide_eq_true_eq]
  exact Iff.rfl

/-- How the settle stage of `m` ends a cycle of `plan`. -/
inductive Settles (L : ModelLibrary F) (plan : MotionPlan F) (m : Controller F) :
    Exit F → Prop where
  | cut {exit : Exit F} (cut : exit.1.Cut) : Settles L plan m exit
  | early (early : m.nowNs < m.commandStartNs + plan.durationNs) : Settles L plan m (m, .ok)
  /-- Out of tolerance: the dwell starts over. -/
  | missed {c' : Controller F} (cleared : c'.settleStartNs = 0)
      (kept : c'.executing = m.executing) : Settles L plan m (c', .ok)
  | counted {c' : Controller F} (due : m.commandStartNs + plan.durationNs ≤ m.nowNs)
      (goal : m.AtGoal L plan) (arm : c'.arm = m.arm) (now : c'.nowNs = m.nowNs)
      (dwell : c'.dwell = m.dwell.count m.nowNs fun side => (m.arm side).feedbackSeq) :
      Settles L plan m (c', .ok)
  | completed {c' : Controller F} (goal : m.AtGoal L plan) (arm : c'.arm = m.arm)
      (now : c'.nowNs = m.nowNs) (options : c'.options = m.options)
      (dwelt : (m.dwell.count m.nowNs fun side => (m.arm side).feedbackSeq).Over m.nowNs)
      (dropped : c'.executing = none) : Settles L plan m (c', .ok)

theorem complete_settles {L : ModelLibrary F} {plan : MotionPlan F} {m c : Controller F}
    (hgoal : m.AtGoal L plan) (harm : c.arm = m.arm) (hnow : c.nowNs = m.nowNs)
    (hoptions : c.options = m.options)
    (hover : (m.dwell.count m.nowNs fun side => (m.arm side).feedbackSeq).Over m.nowNs) :
    Settles L plan m c.complete := by
  obtain ⟨d, hd, hevents, hdarm, hdnow, hdoptions, hdnone⟩ : ∃ d : Controller F,
      c.complete = d.publishReturning .completed .ok c.commandId .ok ∧ d.events = c.events ∧
        d.arm = c.arm ∧ d.nowNs = c.nowNs ∧ d.options = c.options ∧ d.executing = none :=
    ⟨_, rfl, rfl, rfl, rfl, rfl, rfl⟩
  rw [hd]
  by_cases hfull : d.events.isFull = true
  · -- the overflow replaces COMPLETED by FAULTED
    obtain ⟨event, hpush, -, ⟨hok, -⟩ | ⟨-, -, hkind, hnone⟩⟩ :=
      d.publish_event .completed .ok c.commandId
    · have hroom : (!d.events.isFull) = true := hok
      rw [hfull] at hroom
      cases hroom
    · refine .cut ⟨hnone, fun event' hevent => ?_⟩
      have hevent : (d.publish .completed .ok c.commandId).1.events.toList.getLast? =
          some event' := hevent
      rw [hpush, Ring.toList_pushEvicting, List.getLast?_concat] at hevent
      obtain rfl : event = event' := Option.some.inj hevent
      rw [hkind]
      decide
  · have hroom : d.events.count < kEventCapacity :=
      Ring.count_lt_of_room (by simpa using hfull)
    obtain ⟨event, heq⟩ := d.publishReturning_of_room .completed .ok .ok c.commandId hroom
    rw [heq]
    exact .completed hgoal (hdarm.trans harm) (hdnow.trans hnow) (hdoptions.trans hoptions)
      hover hdnone

/-- **The settle stage.** -/
theorem settle_settles {m : Controller F} {plan : MotionPlan F} (L : ModelLibrary F)
    (hplan : m.executing = some plan) (hlife : m.lifecycle = .executing) :
    Settles L plan m (m.settle L) := by
  have hpublish := m.publishSettling_rests
  have hframe := m.frame_publishSettling
  unfold settle
  rw [hplan]
  dsimp only
  by_cases hdue : m.commandStartNs + plan.durationNs ≤ m.nowNs
  · rw [if_pos ⟨hlife, hdue⟩]
    split
    · rename_i hexit
      rw [hexit] at hpublish
      exact .cut hpublish
    rename_i c' hok
    rw [hok] at hpublish hframe
    have hdwell : c'.dwell = m.dwell := hpublish
    have hoptions : c'.options = m.options := congrArg Frame.options hframe
    obtain ⟨harm, hnow⟩ := publishSettling_ok hok
    split
    · rename_i hgoal
      have hgoal : m.AtGoal L plan := (measuredAtGoal_iff L hplan).mp hgoal
      have hcount : c'.countSettle.dwell =
          m.dwell.count m.nowNs fun side => (m.arm side).feedbackSeq := by
        rw [dwell_countSettle, hdwell, hnow, harm]
      have hcountArm : c'.countSettle.arm = m.arm := c'.arm_countSettle.trans harm
      have hcountFrame := c'.frame_countSettle
      have hcountNow : c'.countSettle.nowNs = m.nowNs :=
        (congrArg Frame.nowNs hcountFrame).trans hnow
      split
      · rename_i hsettled
        refine complete_settles hgoal hcountArm hcountNow
          ((congrArg Frame.options hcountFrame).trans hoptions) ?_
        rw [settled_iff, hcount, hcountNow] at hsettled
        exact hsettled
      · exact .counted hdue hgoal hcountArm hcountNow hcount
    · exact .missed rfl (congrArg Dwell.executing hdwell)
  · rw [if_neg fun h => hdue h.2]
    exact .early (Nat.lt_of_not_le hdue)

/-! ## §4. One cycle. -/

/-- **What `advance` does to the dwell of `plan`**: it is kept, the command is
    cut, or a cycle ran to its settle stage. -/
theorem advance_settles {c : Controller F} {plan : MotionPlan F} (L : ModelLibrary F)
    (latch : Bool) (monotonicNs : Nat) (hplan : c.executing = some plan)
    (hlife : c.lifecycle = .executing) :
    ((c.advance L latch monotonicNs).1.dwell = c.dwell ∧
        ((c.advance L latch monotonicNs).2 ≠ .ok ∨
          (c.advance L latch monotonicNs).1.nowNs = c.nowNs)) ∨
      (c.advance L latch monotonicNs).1.Cut ∨
      ∃ m : Controller F, m.dwell = c.dwell ∧ m.options = c.options ∧ c.nowNs < m.nowNs ∧
        Settles L plan m (c.advance L latch monotonicNs) := by
  unfold advance
  split
  · -- an asserted latch interlocks, or only moves the clock
    unfold advanceEstop
    generalize (if c.nowNs ≤ monotonicNs then monotonicNs else c.nowNs) = now
    dsimp only
    split
    · right; left
      exact publish_cut .eestop c.commandId
        (by
          show (if _ then _ else _ : Controller F).executing = none
          split <;> rfl) (by decide)
    · exact .inl ⟨rfl, .inl (by simp)⟩
  dsimp only
  split
  · exact .inl ⟨rfl, .inl (by simp)⟩
  rename_i hbefore
  split
  · exact .inl ⟨rfl, .inr rfl⟩
  rename_i hequal
  have hcycling : ({ c with estopLatched := false, nowNs := monotonicNs } : Controller
      F).cycling = true := by
    unfold cycling
    simp [hlife]
  rw [if_pos hcycling]
  right
  rcases runCycle_rests { c with estopLatched := false, nowNs := monotonicNs } L c.nowNs with
    hcut | ⟨m, hdwell, hframe, hcore, heq⟩
  · exact .inl hcut
  right
  have hnow : m.nowNs = monotonicNs := congrArg Frame.nowNs hframe
  refine ⟨m, hdwell, congrArg Frame.options hframe, by omega, ?_⟩
  rw [heq]
  refine settle_settles L ?_ ?_
  · exact (congrArg Dwell.executing hdwell).trans hplan
  · exact (congrArg Core.lifecycle hcore).trans hlife

end Controller

/-! ## §5. The run. -/

open Controller

/-- The controller after every cycle that returned OK: what `advance` has
    observed so far. -/
def recordCycle (past : List (Controller F)) (w : World F) (e : Label F) (w' : World F) :
    List (Controller F) :=
  match e.1 with
  | .advance _ =>
    if e.2.status = .ok ∧ w.controller.nowNs < w'.controller.nowNs then past ++ [w'.controller]
    else past
  | _ => past

/-- The controller with the record of its cycles. -/
def observed (L : ModelLibrary F) : Lts (World F × List (Controller F)) (Label F) :=
  (system L).withHistory [] recordCycle

/-- The newest cycles of the record are the dwell of the command. -/
def Dwelt (L : ModelLibrary F) (p : World F × List (Controller F)) : Prop :=
  ∀ plan, p.1.controller.executing = some plan → p.1.controller.settleStartNs ≠ 0 →
    p.1.controller.commandStartNs + plan.durationNs ≤ p.1.controller.nowNs ∧
      ∃ before dwell, p.2 = before ++ dwell ∧
        Dwell.Counted L plan p.1.controller.dwell dwell

omit [Floating F] in
/-- A call that ran no cycle recorded none. -/
theorem recordCycle_of_not_advance {past : List (Controller F)} {w w' : World F} {e : Label F}
    (h : ∀ now, e.1 ≠ .advance now) : recordCycle past w e w' = past := by
  unfold recordCycle
  split
  · rename_i now hop
    exact absurd hop (h now)
  · rfl

/-- The dwell as it was, the clock not set back, and nothing recorded. -/
theorem Dwelt.kept {L : ModelLibrary F} {p q : World F × List (Controller F)} (h : Dwelt L p)
    (hdwell : q.1.controller.dwell = p.1.controller.dwell)
    (hnow : p.1.controller.nowNs ≤ q.1.controller.nowNs) (hrecord : q.2 = p.2) : Dwelt L q := by
  intro plan hplan hstarted
  have hplan' : p.1.controller.executing = some plan :=
    (congrArg Dwell.executing hdwell).symm.trans hplan
  have hstart : q.1.controller.settleStartNs = p.1.controller.settleStartNs :=
    congrArg Dwell.settleStartNs hdwell
  have hcommand : q.1.controller.commandStartNs = p.1.controller.commandStartNs :=
    congrArg Dwell.commandStartNs hdwell
  rw [hstart] at hstarted
  obtain ⟨hdue, before, dwell, hsplit, hcounted⟩ := h plan hplan' hstarted
  refine ⟨?_, before, dwell, hrecord.trans hsplit, ?_⟩
  · rw [hcommand]
    exact hdue.trans hnow
  · rw [hdwell]
    exact hcounted

/-- An accepted `execute` has not begun to dwell. -/
theorem execute_undwelt (L : ModelLibrary F) (w : World F) (plan : MotionPlan F)
    (request : ExecuteRequest) (hbefore : w.controller.executing = none)
    (hsome : (call L w (.execute plan request)).1.controller.executing ≠ none) :
    (call L w (.execute plan request)).1.controller.settleStartNs = 0 := by
  have hsome : (w.controller.execute L plan request).1.executing ≠ none := hsome
  show (w.controller.execute L plan request).1.settleStartNs = 0
  cases haccept : w.controller.acceptsExecute plan request with
  | true =>
    rw [w.controller.execute_of_accepts L plan request haccept] at hsome ⊢
    rcases (w.controller.startCommand L plan request).publish_stage
        (if (w.controller.startCommand L plan request).commandStarted then .started else .queued)
        .ok w.controller.nextCommandId (by split <;> decide) with
      ⟨-, hkept⟩ | ⟨-, hcut⟩
    · exact congrArg Dwell.settleStartNs hkept
    · exact absurd hcut.executing hsome
  | false =>
    rcases w.controller.execute_of_refused L plan request haccept with hsame | hfault
    · rw [hsame] at hsome
      exact absurd hbefore hsome
    · rw [hfault] at hsome
      exact absurd (w.controller.latchFault_cut .efault false).executing hsome

/-- The cycle of a settle stage extends the dwell or leaves none. -/
theorem Dwelt.cycle {L : ModelLibrary F} {p q : World F × List (Controller F)}
    {plan : MotionPlan F} {m : Controller F} (status : ControlStatus) (h : Dwelt L p)
    (hplan : p.1.controller.executing = some plan)
    (hdwell : m.dwell = p.1.controller.dwell) (hnow : p.1.controller.nowNs < m.nowNs)
    (hsettles : Settles L plan m (q.1.controller, status))
    (hrecord : status = .ok → q.1.controller.nowNs = m.nowNs →
      q.2 = p.2 ++ [q.1.controller]) : Dwelt L q := by
  intro plan' hplan' hstarted
  have hmplan : m.executing = some plan := (congrArg Dwell.executing hdwell).trans hplan
  have hmstart : m.settleStartNs = p.1.controller.settleStartNs :=
    congrArg Dwell.settleStartNs hdwell
  have hmcommand : m.commandStartNs = p.1.controller.commandStartNs :=
    congrArg Dwell.commandStartNs hdwell
  generalize hexit : (q.1.controller, status) = exit at hsettles
  cases hsettles with
  | cut cut =>
    rw [← hexit] at cut
    exact absurd (cut.executing.symm.trans hplan') (by simp)
  | early early =>
    obtain ⟨hq, -⟩ := Prod.mk.injEq .. ▸ hexit
    rw [hq, hmstart] at hstarted
    have hsame : plan' = plan := by
      rw [hq, hmplan] at hplan'
      exact (Option.some.inj hplan').symm
    -- a dwell began no sooner than the plan was over
    obtain ⟨hdue, -⟩ := h plan hplan hstarted
    omega
  | missed cleared =>
    obtain ⟨hq, -⟩ := Prod.mk.injEq .. ▸ hexit
    rw [hq] at hstarted
    exact absurd cleared hstarted
  | @counted c' due goal arm now dwell =>
    obtain ⟨rfl, rfl⟩ := Prod.mk.injEq .. ▸ hexit
    have hfields := m.dwell.count_fields m.nowNs fun side => (m.arm side).feedbackSeq
    have hqplan : q.1.controller.executing = m.executing :=
      (congrArg Dwell.executing dwell).trans hfields.1
    have hqcommand : q.1.controller.commandStartNs = m.commandStartNs :=
      (congrArg Dwell.commandStartNs dwell).trans hfields.2.1
    have hsame : plan' = plan := by
      rw [hqplan, hmplan] at hplan'
      exact (Option.some.inj hplan').symm
    subst hsame
    have hqgoal : q.1.controller.AtGoal L plan' := goal.of_arm arm
    refine ⟨by rw [hqcommand, now]; exact due, ?_⟩
    have hcount : q.1.controller.dwell = p.1.controller.dwell.count q.1.controller.nowNs
        fun side => (q.1.controller.arm side).feedbackSeq := by
      rw [dwell, hdwell, now, arm]
    rw [hcount, hrecord rfl now]
    by_cases hfirst : p.1.controller.settleStartNs = 0
    · exact ⟨p.2, [q.1.controller], rfl, .start hfirst hqgoal⟩
    · obtain ⟨-, before, dwell, hsplit, hcounted⟩ := h plan' hplan hfirst
      exact ⟨before, dwell ++ [q.1.controller], by rw [hsplit, List.append_assoc],
        hcounted.next hfirst hqgoal⟩
  | completed goal arm now options dwelt dropped =>
    obtain ⟨hq, -⟩ := Prod.mk.injEq .. ▸ hexit
    rw [hq, dropped] at hplan'
    cases hplan'

/-- **Step lemma.** -/
theorem dwelt_step {L : ModelLibrary F} {p q : World F × List (Controller F)} {e : Label F}
    {a : Authority} (hrep : Represents p.1.controller.core a) (hstep : (observed L).step p e q)
    (h : Dwelt L p) : Dwelt L q := by
  obtain ⟨op, response⟩ := e
  obtain ⟨hcall, hrecord⟩ := hstep
  obtain ⟨hworld, hanswer⟩ := step_eq hcall
  change q.1 = (call L p.1 op).1 at hworld
  change response = (call L p.1 op).2 at hanswer
  have hclock : p.1.controller.nowNs ≤ q.1.controller.nowNs := by
    rw [hworld]
    exact nowNs_call_le L p.1 op
  by_cases hsome : q.1.controller.executing = none
  · intro plan hplan
    rw [hsome] at hplan
    cases hplan
  by_cases hadvance : ∃ now, op = .advance now
  · obtain ⟨now, rfl⟩ := hadvance
    have hnot : ∀ plan request, (Op.advance now : Op F) ≠ .execute plan request :=
      fun _ _ heq => by cases heq
    have hbefore : p.1.controller.executing ≠ none :=
      executing_call L hrep hnot (by rw [← hworld]; exact hsome)
    obtain ⟨plan, hplan⟩ := Option.ne_none_iff_exists'.mp hbefore
    have hlife : p.1.controller.lifecycle = .executing := by
      by_contra hnot
      exact hbefore (hrep.no_command hnot).1
    have hq : q.1.controller = (p.1.controller.advance L p.1.latch now).1 :=
      congrArg World.controller hworld
    have hstatus : response.status = (p.1.controller.advance L p.1.latch now).2 :=
      congrArg Response.status hanswer
    have hrecord : q.2 = if response.status = .ok ∧
        p.1.controller.nowNs < q.1.controller.nowNs then p.2 ++ [q.1.controller] else p.2 :=
      hrecord
    rcases advance_settles L p.1.latch now hplan hlife with
      ⟨hdwell, hquiet⟩ | hcut | ⟨m, hdwell, -, hlater, hsettles⟩
    · refine h.kept (by rw [hq]; exact hdwell) hclock (hrecord.trans (if_neg ?_))
      rintro ⟨hok, hmoved⟩
      rw [hstatus] at hok
      rw [hq] at hmoved
      rcases hquiet with hfailed | hstill
      · exact hfailed hok
      · omega
    · rw [← hq] at hcut
      exact absurd hcut.executing hsome
    · refine h.cycle response.status hplan hdwell hlater ?_ fun hok hnow => ?_
      · rw [hq, hstatus]
        exact hsettles
      · rw [hrecord, if_pos ⟨hok, by omega⟩]
  have hquiet : q.2 = p.2 :=
    hrecord.trans (recordCycle_of_not_advance fun now heq => hadvance ⟨now, heq⟩)
  by_cases hbefore : p.1.controller.executing = none
  · -- only an `execute` brings a command
    obtain ⟨plan, request, rfl⟩ : ∃ plan request, op = .execute plan request := by
      by_contra hnot
      refine absurd hbefore (executing_call L hrep (fun plan request heq => ?_)
        (by rw [← hworld]; exact hsome))
      exact hnot ⟨plan, request, heq⟩
    intro plan' hplan' hstarted
    rw [hworld] at hstarted hsome
    exact absurd (execute_undwelt L p.1 plan request hbefore hsome) hstarted
  · have hlife : p.1.controller.lifecycle = .executing := by
      by_contra hnot
      exact hbefore (hrep.no_command hnot).1
    rcases call_rests L op hlife (Option.isSome_iff_ne_none.mpr hbefore)
      (fun now heq => hadvance ⟨now, heq⟩) with hdwell | hcut
    · exact h.kept (by rw [hworld]; exact hdwell) hclock hquiet
    · rw [← hworld] at hcut
      exact absurd hcut.executing hsome

theorem dwelt_initial {L : ModelLibrary F} {p : World F × List (Controller F)}
    (h : (observed L).init p) : Dwelt L p := by
  obtain ⟨⟨manifest, options, instanceId, hcreate⟩, -⟩ := h
  intro plan hplan
  rw [hcreate] at hplan
  cases hplan

/-- **Run lemma**: after every run the record explains the dwell. -/
theorem dwelt_run (L : ModelLibrary F) {p q : World F × List (Controller F)}
    {es : List (Label F)} (hinit : (observed L).init p) (hrun : (observed L).Run p es q) :
    Dwelt L q := by
  induction hrun with
  | nil => exact dwelt_initial hinit
  | snoc front last ih =>
    obtain ⟨a, hrep⟩ := represents_run L hinit.1 front.of_history
    exact dwelt_step hrep last ih

/-- **At the COMPLETED event** the dwell of the command, its last cycle
    included, is over. -/
theorem completes_dwelt (L : ModelLibrary F) {p q r : World F × List (Controller F)}
    {es : List (Label F)} {e : Label F} {plan : MotionPlan F} (hinit : (observed L).init p)
    (hrun : (observed L).Run p es q) (hstep : (observed L).step q e r)
    (hcompletes : Completes q.1.controller r.1.controller plan) :
    ∃ before dwell d, r.2 = before ++ dwell ++ [r.1.controller] ∧
      Dwell.Counted L plan d (dwell ++ [r.1.controller]) ∧ d.Over r.1.controller.nowNs ∧
        d.settleStartNs = q.1.controller.settleStartNs ∧
          d.cycleNs = r.1.controller.options.cycleNs := by
  obtain ⟨a, hrep⟩ := represents_run L hinit.1 hrun.of_history
  have hdwelt := dwelt_run L hinit hrun
  obtain ⟨op, response⟩ := e
  obtain ⟨hcall, hrecord⟩ := hstep
  obtain ⟨hworld, hanswer⟩ := step_eq hcall
  change r.1 = (call L q.1 op).1 at hworld
  change response = (call L q.1 op).2 at hanswer
  have hsome : q.1.controller.executing ≠ none := by
    rw [hcompletes.executing]
    exact Option.some_ne_none plan
  have hlife : q.1.controller.lifecycle = .executing := by
    by_contra hnot
    exact hsome (hrep.no_command hnot).1
  -- a step that leaves the dwell alone keeps the command, so this one does not
  have hkept : r.1.controller.dwell ≠ q.1.controller.dwell := fun heq =>
    hsome ((congrArg Dwell.executing heq).symm.trans hcompletes.dropped)
  by_cases hadvance : ∃ now, op = .advance now
  · obtain ⟨now, rfl⟩ := hadvance
    have hr : r.1.controller = (q.1.controller.advance L q.1.latch now).1 :=
      congrArg World.controller hworld
    have hstatus : response.status = (q.1.controller.advance L q.1.latch now).2 :=
      congrArg Response.status hanswer
    have hrecord : r.2 = if response.status = .ok ∧
        q.1.controller.nowNs < r.1.controller.nowNs then q.2 ++ [r.1.controller] else q.2 :=
      hrecord
    -- of the ways a cycle can end only the last one completes
    rcases advance_settles L q.1.latch now hcompletes.executing hlife with
      ⟨hdwell, -⟩ | hcut | ⟨m, hdwell, hoptions, hlater, hsettles⟩
    · rw [← hr] at hdwell
      exact absurd hdwell hkept
    · rw [← hr] at hcut
      exact absurd hcompletes hcut.not_completes
    have hsettles : Settles L plan m (r.1.controller, response.status) := by
      rw [hr, hstatus]
      exact hsettles
    obtain ⟨hok, hgoal, harm, hnow, hover, hropts⟩ :
        response.status = .ok ∧ m.AtGoal L plan ∧ r.1.controller.arm = m.arm ∧
          r.1.controller.nowNs = m.nowNs ∧
          (m.dwell.count m.nowNs fun side => (m.arm side).feedbackSeq).Over m.nowNs ∧
          r.1.controller.options = m.options := by
      generalize hexit : (r.1.controller, response.status) = exit at hsettles
      have hdropped := hcompletes.dropped
      cases hsettles with
      | cut cut =>
        rw [← hexit] at cut
        exact absurd hcompletes cut.not_completes
      | early =>
        obtain ⟨hr', -⟩ := Prod.mk.injEq .. ▸ hexit
        rw [hr'] at hkept
        exact absurd hdwell hkept
      | missed cleared kept =>
        obtain ⟨hr', -⟩ := Prod.mk.injEq .. ▸ hexit
        have hmsome : m.executing = q.1.controller.executing := congrArg Dwell.executing hdwell
        rw [hr', kept, hmsome] at hdropped
        exact absurd hdropped hsome
      | counted due goal arm now dwell =>
        obtain ⟨hr', -⟩ := Prod.mk.injEq .. ▸ hexit
        have hfields := m.dwell.count_fields m.nowNs fun side => (m.arm side).feedbackSeq
        have hmsome : m.dwell.executing = q.1.controller.executing :=
          congrArg Dwell.executing hdwell
        rw [hr'] at hdropped
        have hnone := ((congrArg Dwell.executing dwell).trans (hfields.1.trans hmsome)).symm.trans
          hdropped
        exact absurd hnone hsome
      | completed goal arm now options dwelt dropped =>
        obtain ⟨rfl, hok⟩ := Prod.mk.injEq .. ▸ hexit
        exact ⟨hok, goal, arm, now, dwelt, options⟩
    have hrgoal : r.1.controller.AtGoal L plan := hgoal.of_arm harm
    rw [hdwell, ← hnow, ← harm] at hover
    have hfields := q.1.controller.dwell.count_fields r.1.controller.nowNs
      fun side => (r.1.controller.arm side).feedbackSeq
    by_cases hfirst : q.1.controller.settleStartNs = 0
    · -- a dwell that begins has counted nothing
      unfold Dwell.count at hover
      rw [if_pos (show q.1.controller.dwell.settleStartNs = 0 from hfirst)] at hover
      exact absurd hover.1 (by show ¬ 3 ≤ 0; decide)
    obtain ⟨-, before, dwell, hsplit, hcounted⟩ := hdwelt plan hcompletes.executing hfirst
    refine ⟨before, dwell, _, ?_, hcounted.next hfirst hrgoal, hover, ?_, ?_⟩
    · rw [hrecord, if_pos ⟨hok, by omega⟩, hsplit]
    · unfold Dwell.count
      rw [if_neg (show ¬ q.1.controller.dwell.settleStartNs = 0 from hfirst)]
      split <;> rfl
    · rw [hfields.2.2, hropts, hoptions]
      rfl
  · -- other calls complete nothing
    have hquiet : Rests q.1.controller r.1.controller := by
      rw [hworld]
      exact call_rests L op hlife (Option.isSome_iff_ne_none.mpr hsome)
        fun now heq => hadvance ⟨now, heq⟩
    rcases hquiet with hdwell | hcut
    · exact absurd hdwell hkept
    · exact absurd hcompletes hcut.not_completes

end OpenArm.Control
