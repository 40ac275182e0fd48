/-
  OpenArm.Node.Wedge — when the portal stays busy for ever.

  A cancel does not end a command: it marks it, and the answer of an outstanding
  goal ends it.  Between two legs no goal is outstanding, and the timer that
  would go on is canceled as well.  Then nobody is left to clear the flag.

  Main results:
    * `cancel_wedges` — behind a cancel between two legs the portal refuses
                        every command, for ever.
    * `busy_held`     — while nobody cancels, shuts down or interrupts, the
                        portal is busy exactly as long as somebody goes on.
-/
import OpenArm.Node.Legs

namespace OpenArm.Node

open OpenArm.Lib OpenArm.Control OpenArm.Model OpenArm.Guard PortalNode

variable {F : Type} [Metric F] {A : GuardModel F} {R : ArmModel F} {realMode stop : Bool}
  {w w' : World F}

/-! ## §1. Nobody goes on. -/

/-- **Wedged**: busy, and nobody holds the route. -/
structure Wedged (w : World F) : Prop where
  busy : w.node.goalActive = true
  nobody : ∀ x, ¬ w.Holds x

/-- No step frees a wedged portal, and none sends anything. -/
theorem wedged_step (h : Wedged w) (hd : Did A R stop w w') : Wedged w' ∧
    w'.history.legs = w.history.legs ∧ w'.history.contacts = w.history.contacts := by
  have hleg : ∀ t token stage, w.activity t ≠ .submitting token stage := fun t token stage ht =>
    h.nobody _ (holds_submitting ht)
  have hbusy : w.node.goalActive ≠ false := by
    rw [h.busy]
    simp
  cases hd with
  | aside route timer threads judged goals history =>
    refine ⟨⟨route.goalActive.trans h.busy, fun x hx => ?_⟩, history.legs, history.contacts⟩
    exact h.nobody x (holds_aside timer threads goals.goals x hx)
  -- another cancel marks the same command, and takes a timer that is not set
  | halts node activity goals history =>
    refine ⟨⟨by rw [node]; exact h.busy, fun x hx => ?_⟩, by rw [history], by rw [history]⟩
    exact h.nobody x (holds_halted node activity goals.goals x hx).2
  -- a token is consumed only by an idle portal
  | drops t free => exact absurd free hbusy
  | enters t token guarded judged free => exact absurd free hbusy
  | contacts t token guarded judged free => exact absurd free hbusy
  -- all others are steps of a holder
  | reads t token index leg entering => exact absurd entering (hleg _ _ _)
  | thinks t token stage stage' was => exact absurd was (hleg _ _ _)
  | replaces t token leg waypoints was => exact absurd was (hleg _ _ _)
  | checks t token leg endpoint moment was => exact absurd was (hleg _ _ _)
  | sends t token leg endpoint seen was => exact absurd was (hleg _ _ _)
  | passes old new held => exact absurd held (h.nobody _)
  | stalls x held => exact absurd held (h.nobody _)
  | accepts goal sent found => exact (no_goal h.nobody found).elim
  | ends x hends => exact absurd hends.held (h.nobody _)
  | completes goal index endpoint hends => exact absurd hends.held (h.nobody _)

theorem wedged_run {es : List (Event F)} (hrun : (portal A R realMode).Run w es w')
    (h : Wedged w) : Wedged w' ∧ w'.history.legs = w.history.legs ∧
      w'.history.contacts = w.history.contacts := by
  refine hrun.invariant (I := fun v : World F => Wedged v ∧ v.history.legs = w.history.legs ∧
    v.history.contacts = w.history.contacts) ⟨h, rfl, rfl⟩
    fun a e b hstep ⟨ha, hlegs, hcontacts⟩ => ?_
  obtain ⟨hb, hlegs', hcontacts'⟩ := wedged_step ha (next_did hstep)
  exact ⟨hb, hlegs'.trans hlegs, hcontacts'.trans hcontacts⟩

omit [Metric F] in
theorem wedged_refuses (h : Wedged w) (stop : Bool) : w.node.beginGuard stop = none := by
  unfold PortalNode.beginGuard
  split
  · rfl
  · exact if_pos (Or.inl h.busy)

/-- **A cancel between two legs wedges the portal**: in every run that goes on
    behind it the portal calls itself busy, refuses every token and sends nothing. -/
theorem cancel_wedges {v : World F} {es : List (Event F)}
    (h : (portal A R realMode).Reachable w) (hwaits : w.Holds .timer)
    (hcancel : (portal A R realMode).step w .cancel w')
    (hrun : (portal A R realMode).Run w' es v) :
    v.node.goalActive = true ∧ (∀ stop, v.node.beginGuard stop = none) ∧
      (∀ goal, v.goals goal = none) ∧ v.history.legs = w.history.legs ∧
        v.history.contacts = w.history.contacts := by
  have hb := baton h
  have heq := Option.some.inj hcancel
  have hhalted : ∀ x, w'.Holds x → x ≠ .timer ∧ w.Holds x :=
    holds_halted (by rw [← heq]; rfl) (by rw [← heq]) (by rw [← heq])
  -- the timer had the route, so nobody has it now
  have hwedged : Wedged w' := by
    refine ⟨by rw [← heq]; exact hb.flagged _ hwaits, fun x hx => ?_⟩
    exact (hhalted x hx).1 (hb.one x .timer (hhalted x hx).2 hwaits)
  have hsame : w'.history.legs = w.history.legs ∧ w'.history.contacts = w.history.contacts := by
    rw [← heq]
    exact ⟨rfl, rfl⟩
  obtain ⟨hafter, hlegs, hcontacts⟩ := wedged_run hrun hwedged
  refine ⟨hafter.busy, wedged_refuses hafter, fun goal => ?_, hlegs.trans hsame.1,
    hcontacts.trans hsame.2⟩
  cases hgoal : v.goals goal with
  | none => rfl
  | some sent => exact (no_goal hafter.nobody hgoal).elim

/-- The second leg of a detour is canceled, and the controller answers afterwards. -/
theorem cancel_wedges_detour : ∃ v : World Extended, v.history.legs ≠ [] ∧
    v.node.goalActive = true ∧ (∀ stop, v.node.beginGuard stop = none) ∧
      ∀ goal, v.goals goal = none := by
  obtain ⟨planned, hlength, hfeasible⟩ := detour_feasible
  obtain ⟨es, w, sent, hrun, htimer, hidle, hlegs⟩ :=
    planned_waits (initial_ready 0) hfeasible (by rw [hlength]; decide)
  have hreachable := (Lts.Reachable.of_init (T := portal reachModel detourArms false) rfl).run hrun
  have hwaits : w.Holds .timer := ⟨by rw [htimer]; rfl, by rw [hidle]; exact id⟩
  have hshutdown : ∀ v : World Extended, (portal reachModel detourArms false).step v .beginShutdown
      { v with node := v.node.beginShutdown } := fun v => rfl
  obtain ⟨hbusy, hrefused, hgoals, hsame, -⟩ :=
    cancel_wedges hreachable hwaits rfl (.single (hshutdown _))
  refine ⟨_, ?_, hbusy, hrefused, hgoals⟩
  rw [hsame, hlegs]
  simp

/-! ## §2. Who goes on between two legs. -/

/-- Nobody waits between two legs. -/
def Unplaced (w : World F) : Prop := ∀ x index, w.Between x → ¬ w.At x index

section

omit [Metric F]

/-- Whoever waits between two legs holds the route, himself or by the callback of
    the timer. -/
theorem between_holds {x : Holder} {index : Nat} (hbetween : w.Between x) (hat : w.At x index) :
    ∃ y, w.Holds y ∧ (∀ goal, y ≠ .goal goal) ∧
      (∀ t token stage, y = .thread t → w.activity t ≠ .submitting token stage) ∧
        (y = x ∨ (x = .timer ∧ y = .thread .executor ∧ (w.activity .executor).Ticks)) := by
  have hwaits : ∀ t, (w.activity t).Waits → (w.activity t).Carries ∧
      ∀ token stage, w.activity t ≠ .submitting token stage := by
    intro t ht
    cases hactivity : w.activity t with
    | scheduling index => exact ⟨trivial, by simp⟩
    | arming index => exact ⟨trivial, by simp⟩
    | ticking index => exact ⟨trivial, by simp⟩
    | _ =>
      rw [hactivity] at ht
      exact ht.elim
  cases x with
  | thread t =>
    refine ⟨.thread t, (hwaits t hbetween).1, by simp, fun u token stage hu => ?_, Or.inl rfl⟩
    rw [← Holder.thread.inj hu]
    exact (hwaits t hbetween).2 token stage
  | timer =>
    change w.node.routeResumeTimer = some index at hat
    by_cases hticks : (w.activity .executor).Ticks
    · refine ⟨.thread .executor, carries_of_ticks hticks, by simp, fun u token stage hu => ?_,
        Or.inr ⟨rfl, rfl, hticks⟩⟩
      rw [← Holder.thread.inj hu]
      intro hsubmitting
      rw [hsubmitting] at hticks
      exact hticks
    · exact ⟨.timer, ⟨by rw [hat]; rfl, hticks⟩, by simp, by simp, Or.inl rfl⟩
  | goal goal => exact hbetween.elim

theorem unplaced_of_leg (hb : Baton w.Holds w.node.goalActive) {t : Thread}
    {token : Option Nat} {stage : Stage F} (hwas : w.activity t = .submitting token stage) :
    Unplaced w := by
  intro x index hbetween hat
  obtain ⟨y, hheld, -, hnot, -⟩ := between_holds hbetween hat
  exact hnot t token stage (hb.one y _ hheld (holds_submitting hwas)) hwas

theorem unplaced_of_goal (hb : Baton w.Holds w.node.goalActive) {goal : Nat}
    (hgoal : (w.goals goal).isSome = true) : Unplaced w := by
  intro x index hbetween hat
  obtain ⟨y, hheld, hnot, -⟩ := between_holds hbetween hat
  exact hnot goal (hb.one y (.goal goal) hheld hgoal)

theorem unplaced_of_nobody (h : ∀ x, ¬ w.Holds x) : Unplaced w := by
  intro x index hbetween hat
  obtain ⟨y, hheld, -⟩ := between_holds hbetween hat
  exact h y hheld

/-- Whoever ticks holds the route. -/
theorem holds_ticking {t : Thread} {index : Nat} (h : w.activity t = .ticking index) :
    w.Holds (.thread t) := by
  show (w.activity t).Carries
  rw [h]
  exact trivial

end

/-- A cancel has come since the token of the command was reserved. -/
def Interrupted (w : World F) : Prop := w.history.begun ≠ w.history.cancels

/-- **In order**: without a cancel a command is not pending cancellation, what waits
    for a leg waits for the next one, a ticking timer is still set, and a busy portal
    has somebody who goes on. -/
structure InOrder (w : World F) : Prop where
  early : w.history.begun ≤ w.history.cancels
  pending : w.node.goalActive = true → w.node.cancelPending = true → Interrupted w
  placed : ∀ x index, w.Between x → w.At x index →
    Interrupted w ∨ (index = w.node.routeIndex ∧ index < w.node.routeWaypoints.length)
  ticking : ∀ t index, w.activity t = .ticking index →
    Interrupted w ∨ w.node.routeResumeTimer = some index
  held : w.node.goalActive = true → (∃ x, w.Holds x) ∨ Interrupted w ∨ w.node.stopping = true

section

omit [Metric F]

theorem carries_of_waits {a : Activity F} (h : a.Waits) : a.Carries := by
  cases a with
  | scheduling index => exact trivial
  | arming index => exact trivial
  | ticking index => exact trivial
  | _ => exact h.elim

/-- The marks of the command are the same. -/
theorem interrupted_same (hbegun : w'.history.begun = w.history.begun)
    (hcancels : w'.history.cancels = w.history.cancels) (h : Interrupted w) : Interrupted w' := by
  unfold Interrupted at h ⊢
  rw [hbegun, hcancels]
  exact h

/-- The command is over. -/
theorem InOrder.over (h : InOrder w) (hb : Baton w'.Holds w'.node.goalActive)
    (hinactive : w'.node.goalActive = false) (hbegun : w'.history.begun = w.history.begun)
    (hcancels : w'.history.cancels = w.history.cancels) : InOrder w' := by
  have hnobody := hb.idle hinactive
  refine ⟨by rw [hbegun, hcancels]; exact h.early, fun hbusy => ?_, fun x index hbetween hat => ?_,
    fun t index ht => absurd (holds_ticking ht) (hnobody _), fun hbusy => ?_⟩
  · rw [hinactive] at hbusy
    cases hbusy
  · exact absurd hat (unplaced_of_nobody hnobody x index hbetween)
  · rw [hinactive] at hbusy
    cases hbusy

/-- A leg is worked on. -/
theorem InOrder.leg (hb : Baton w'.Holds w'.node.goalActive) {t : Thread} {token : Option Nat}
    {stage : Stage F} (hwas : w'.activity t = .submitting token stage)
    (hearly : w'.history.begun ≤ w'.history.cancels)
    (hpending : w'.node.goalActive = true → w'.node.cancelPending = true → Interrupted w') :
    InOrder w' := by
  refine ⟨hearly, hpending, fun x index hbetween hat => ?_, fun u index hu => ?_,
    fun _ => Or.inl ⟨_, holds_submitting hwas⟩⟩
  · exact absurd hat (unplaced_of_leg hb hwas x index hbetween)
  · have heq := Holder.thread.inj (hb.one _ _ (holds_ticking hu) (holds_submitting hwas))
    rw [heq, hwas] at hu
    cases hu

/-- A goal is outstanding. -/
theorem InOrder.goal (hb : Baton w'.Holds w'.node.goalActive) (goal : Nat)
    (hgoal : (w'.goals goal).isSome = true) (hearly : w'.history.begun ≤ w'.history.cancels)
    (hpending : w'.node.goalActive = true → w'.node.cancelPending = true → Interrupted w') :
    InOrder w' := by
  refine ⟨hearly, hpending, fun x index hbetween hat => ?_, fun u index hu => ?_,
    fun _ => Or.inl ⟨.goal goal, hgoal⟩⟩
  · exact absurd hat (unplaced_of_goal hb hgoal x index hbetween)
  · have heq := hb.one _ (.goal goal) (holds_ticking hu) hgoal
    cases heq

/-- Only an activity of another kind changes, or none. -/
theorem InOrder.same (h : InOrder w) (hgoalActive : w'.node.goalActive = w.node.goalActive)
    (hcancelPending : w'.node.cancelPending = w.node.cancelPending)
    (hwaypoints : w'.node.routeWaypoints = w.node.routeWaypoints)
    (hindex : w'.node.routeIndex = w.node.routeIndex)
    (hstopping : w.node.stopping = true → w'.node.stopping = true)
    (htimer : w'.node.routeResumeTimer = w.node.routeResumeTimer)
    (hthreads : ∀ t, w'.activity t = w.activity t ∨
      (¬ (w.activity t).Carries ∧ ¬ (w'.activity t).Carries))
    (hheld : ∀ x, w.Holds x → w'.Holds x) (hbegun : w'.history.begun = w.history.begun)
    (hcancels : w'.history.cancels = w.history.cancels) : InOrder w' := by
  refine ⟨by rw [hbegun, hcancels]; exact h.early, fun hbusy hpending => ?_,
    fun x index hbetween hat => ?_, fun t index ht => ?_, fun hbusy => ?_⟩
  · rw [hgoalActive] at hbusy
    rw [hcancelPending] at hpending
    exact interrupted_same hbegun hcancels (h.pending hbusy hpending)
  · have hbefore : w.Between x ∧ w.At x index := by
      cases x with
      | thread t =>
        rcases hthreads t with hsame | ⟨-, hnot⟩
        · change (w'.activity t).Waits at hbetween
          change (w'.activity t).index = some index at hat
          rw [hsame] at hbetween hat
          exact ⟨hbetween, hat⟩
        · exact absurd (carries_of_waits hbetween) hnot
      | timer => exact ⟨trivial, htimer.symm.trans hat⟩
      | goal goal => exact hbetween.elim
    rw [hindex, hwaypoints]
    exact (h.placed x index hbefore.1 hbefore.2).imp_left (interrupted_same hbegun hcancels)
  · rw [htimer]
    rcases hthreads t with hsame | ⟨-, hnot⟩
    · exact (h.ticking t index (hsame.symm.trans ht)).imp_left (interrupted_same hbegun hcancels)
    · exact absurd (holds_ticking ht) hnot
  · rw [hgoalActive] at hbusy
    rcases h.held hbusy with ⟨x, hx⟩ | hinterrupted | hstop
    · exact Or.inl ⟨x, hheld x hx⟩
    · exact Or.inr (Or.inl (interrupted_same hbegun hcancels hinterrupted))
    · exact Or.inr (Or.inr (hstopping hstop))

/-- The route is handed on. -/
theorem inOrder_passed (h : InOrder w) (hs : Stops w) {old new : Holder} (held : w.Holds old)
    (rest : ∀ x, w'.Holds x → x = new ∨ (x ≠ old ∧ w.Holds x))
    (waypoints : w'.node.routeWaypoints = w.node.routeWaypoints)
    (hpending : w'.node.goalActive = true → w'.node.cancelPending = true → Interrupted w')
    (history : SameHistory w.history w'.history)
    (place : ∀ index, w'.At new index →
      (index = w'.node.routeIndex ∧ index < w'.node.routeWaypoints.length) ∨
        (w'.node.routeIndex = w.node.routeIndex ∧ ∃ y, w.Between y ∧ w.At y index))
    (ticks : ∀ t index, new = .thread t → w'.activity t = .ticking index →
      w'.node.routeResumeTimer = some index)
    (taken : (∃ x, w'.Holds x) ∨ ∃ t index, w.activity t = .ticking index ∧
      w.node.routeResumeTimer = none) : InOrder w' := by
  have hint : Interrupted w → Interrupted w' := interrupted_same history.begun history.cancels
  have hnew : ∀ x, w'.Holds x → x = new := by
    intro x hx
    rcases rest x hx with hsame | ⟨hne, hbefore⟩
    · exact hsame
    · exact absurd (hs.baton.one x old hbefore held) hne
  have hticking : ∀ t index, w'.activity t = .ticking index →
      w'.node.routeResumeTimer = some index := fun t index ht =>
    ticks t index (hnew _ (holds_ticking ht)).symm ht
  refine ⟨?_, hpending, fun x index hbetween hat => ?_,
    fun t index ht => Or.inr (hticking t index ht), fun hbusy => ?_⟩
  · rw [history.begun, history.cancels]
    exact h.early
  · -- only the new holder waits, or the timer whose callback runs
    obtain ⟨y, hy, -, -, hsame⟩ := between_holds hbetween hat
    have hnewAt : w'.At new index := by
      rw [← hnew y hy]
      rcases hsame with rfl | ⟨rfl, rfl, hticks⟩
      · exact hat
      · cases hactivity : w'.activity .executor with
        | ticking i =>
          have hset : some i = some index := (hticking _ i hactivity).symm.trans hat
          show (w'.activity .executor).index = some index
          rw [hactivity]
          exact hset
        | _ =>
          rw [hactivity] at hticks
          exact hticks.elim
    rcases place index hnewAt with hthere | ⟨hindex, z, hz, hbefore⟩
    · exact Or.inr hthere
    · rw [hindex, waypoints]
      exact (h.placed z index hz hbefore).imp_left hint
  · -- a holder is gone only where the timer was canceled during its callback
    rcases taken with hsome | ⟨t, index, ht, hnone⟩
    · exact Or.inl hsome
    · rcases h.ticking t index ht with hinterrupted | hset
      · exact Or.inr (Or.inl (hint hinterrupted))
      · rw [hnone] at hset
        cases hset

end

/-- **A step keeps the order**, where it does not read a stop. -/
theorem inOrder_step (h : InOrder w) (hs : Stops w) (hb : Baton w'.Holds w'.node.goalActive)
    (hd : Did A R false w w') : InOrder w' := by
  have hkeep : w'.history.begun = w.history.begun → w'.history.cancels = w.history.cancels →
      w'.node.cancelPending = w.node.cancelPending → w'.node.goalActive = w.node.goalActive →
      w'.node.goalActive = true → w'.node.cancelPending = true → Interrupted w' := by
    intro hbegun hcancels hpending hactive hbusy hcancel
    exact interrupted_same hbegun hcancels
      (h.pending (hactive.symm.trans hbusy) (hpending.symm.trans hcancel))
  cases hd with
  | aside route timer threads judged goals history =>
    refine h.same route.goalActive route.cancelPending route.routeWaypoints route.routeIndex
      route.stopping timer threads (holds_aside timer.symm (fun t => ?_) goals.goals.symm)
      history.begun history.cancels
    exact (threads t).imp Eq.symm And.symm
  | halts node activity goals history =>
    -- the count of the cancels has left the mark of every command behind
    have hinterrupted : Interrupted w' := by
      unfold Interrupted
      rw [history]
      exact (Nat.lt_succ_of_le h.early).ne
    refine ⟨?_, fun _ _ => hinterrupted, fun _ _ _ _ => Or.inl hinterrupted,
      fun _ _ _ => Or.inl hinterrupted, fun _ => Or.inr (Or.inl hinterrupted)⟩
    rw [history]
    exact h.early.trans (Nat.le_succ _)
  | drops t free inactive waypoints timer only before after judged goals history =>
    exact h.over hb inactive history.begun history.cancels
  | enters t token guarded judged free valid ordinary some node activity goals history =>
    -- `entered` clears the mark of an older cancel
    refine .leg hb (by rw [activity]; exact Function.update_self _ _ _) ?_ fun _ hpending => ?_
    · rw [history]
      exact hs.marked.past token
    · rw [node, entered_pending] at hpending
      cases hpending
  | contacts t token guarded judged free valid contact node activity goals nextGoal history =>
    refine .goal hb w.nextGoal ?_ ?_ fun _ hpending => ?_
    · rw [goals, Function.update_self]
      rfl
    · rw [history]
      exact hs.marked.past token
    · rw [node, entered_pending] at hpending
      cases hpending
  | reads t token index leg entering unblocked position bound endpoint last retreat preserved node
      activity goals history =>
    refine .leg hb (by rw [activity]; exact Function.update_self _ _ _) ?_
      (hkeep history.begun history.cancels (by rw [node]) (by rw [node]))
    rw [history.begun, history.cancels]
    exact h.early
  | thinks t token stage stage' was thought node activity goals history =>
    refine .leg hb (by rw [activity]; exact Function.update_self _ _ _) ?_
      (hkeep history.begun history.cancels (by rw [node]) (by rw [node]))
    rw [history.begun, history.cancels]
    exact h.early
  | replaces t token leg waypoints was unblocked position inside node activity goals history =>
    refine .leg hb (by rw [activity]; exact Function.update_self _ _ _) ?_
      (hkeep history.begun history.cancels (by rw [node]) (by rw [node]))
    rw [history.begun, history.cancels]
    exact h.early
  | checks t token leg endpoint moment was unblocked position valid node activity goals history =>
    refine .leg hb (by rw [activity]; exact Function.update_self _ _ _) ?_
      (hkeep (by rw [history]; rfl) (by rw [history]; rfl) (by rw [node]) (by rw [node]))
    rw [history]
    exact h.early
  | sends t token leg endpoint seen was node activity goals nextGoal history =>
    refine .goal hb w.nextGoal ?_ ?_
      (hkeep (by rw [history]) (by rw [history]) (by rw [node]) (by rw [node]))
    · rw [goals, Function.update_self]
      rfl
    · rw [history]
      exact h.early
  | passes old new held onward rest positions stages goalActive cancelPending waypoints retreat
      preserved goals judged history place ticks taken =>
    exact inOrder_passed h hs held rest waypoints
      (hkeep history.begun history.cancels cancelPending goalActive) history place ticks taken
  | stalls x held rest positions why route judged goals history =>
    have hint : Interrupted w → Interrupted w' := interrupted_same history.begun history.cancels
    have hnobody := nobody hs.baton held rest
    refine ⟨?_, hkeep history.begun history.cancels route.cancelPending route.goalActive,
      fun y index hbetween hat => ?_, fun t index ht => absurd (holds_ticking ht) (hnobody _),
      fun hbusy => Or.inr ?_⟩
    · rw [history.begun, history.cancels]
      exact h.early
    · exact absurd hat (unplaced_of_nobody hnobody y index hbetween)
    · -- the callback returned early: of its conditions only a cancel and a shutdown are left
      obtain ⟨index, hbetween, hat, hblocked⟩ := why
      have hactive := hs.baton.flagged _ held
      have hplace := h.placed x index hbetween hat
      rcases hblocked with hblocked | hshort | hother
      · unfold PortalNode.legBlocked at hblocked
        rw [hactive] at hblocked
        simp only [Bool.not_true, Bool.false_or, Bool.or_false, Bool.or_eq_true] at hblocked
        rcases hblocked with hpending | hstopping
        · exact Or.inl (hint (h.pending hactive hpending))
        · exact Or.inr (route.stopping hstopping)
      · exact Or.inl (hint (hplace.resolve_right fun hthere => by omega))
      · exact Or.inl (hint (hplace.resolve_right fun hthere => hother hthere.1))
  | accepts goal sent found pending node activity goals nextGoal history =>
    exact h.same (by rw [node]) (by rw [node]) (by rw [node]) (by rw [node])
      (fun hstop => by rw [node]; exact hstop) (by rw [node])
      (fun t => Or.inl (by rw [activity])) (accepted_holds node activity goals)
      (by rw [history]) (by rw [history])
  | ends x hends history => exact h.over hb hends.inactive history.begun history.cancels
  | completes goal index endpoint hends found some last history =>
    exact h.over hb hends.inactive (by rw [history]) (by rw [history])

theorem inOrder_initial : InOrder (World.initial : World F) := by
  refine ⟨Nat.le_refl _, fun hbusy => (by cases hbusy), fun x index hbetween hat => ?_,
    fun t index ht => (by cases ht), fun hbusy => (by cases hbusy)⟩
  cases x with
  | thread t => exact hbetween.elim
  | timer => cases hat
  | goal goal => exact hbetween.elim

/-- The portal, where nothing reads a stop request. -/
def undisturbed (A : GuardModel F) (R : ArmModel F) (realMode : Bool) : Lts (World F) (Event F) :=
  (portal A R realMode).restrict fun _ e _ => e.stopRequested = false

theorem inOrder (h : (undisturbed A R realMode).Reachable w) : InOrder w := by
  have hall : Stops w ∧ InOrder w := by
    refine h.invariant (I := fun v : World F => Stops v ∧ InOrder v) (fun a ha => ?_)
      fun a e b hstep ⟨hs, ho⟩ => ?_
    · obtain rfl : a = World.initial := ha
      exact ⟨stops (show (portal A R realMode).Reachable World.initial from Lts.Reachable.of_init rfl),
        inOrder_initial⟩
    · obtain ⟨hnext, hquiet⟩ := hstep
      have hs' := stops_step hs hnext
      have hd := next_did hnext
      rw [hquiet] at hd
      exact ⟨hs', inOrder_step ho hs hs'.baton hd⟩
  exact hall.2

/-- **Busy only while somebody goes on**: in every run in which no stop is requested
    the portal calls itself busy exactly while a thread, a timer or a goal goes on
    with the command, up to a cancel of that command or a shutdown. -/
theorem busy_held (h : (undisturbed A R realMode).Reachable w) :
    ((∃ x, w.Holds x) → w.node.goalActive = true) ∧
      (w.node.goalActive = true → w.history.begun = w.history.cancels →
        w.node.stopping = false → ∃ x, w.Holds x) := by
  have hbaton := baton h.of_restrict
  refine ⟨fun ⟨x, hx⟩ => hbaton.flagged x hx, fun hbusy hsame hrunning => ?_⟩
  rcases (inOrder h).held hbusy with hheld | hinterrupted | hstopping
  · exact hheld
  · exact absurd hsame hinterrupted
  · rw [hrunning] at hstopping
    cases hstopping

/-- A run none of whose steps reads a stop request. -/
theorem undisturbed_run {es : List (Event F)} (h : (portal A R realMode).Run w es w')
    (hquiet : ∀ e ∈ es, e.stopRequested = false) : (undisturbed A R realMode).Run w es w' := by
  induction h with
  | nil => exact .nil _
  | snoc front last ih =>
    refine (ih fun e he => hquiet e (List.mem_append_left _ he)).snoc ⟨last, ?_⟩
    exact hquiet _ (List.mem_append_right _ List.mem_cons_self)

theorem busy_held_detour : ∃ w : World Extended, w.node.goalActive = true ∧
    w.history.begun = w.history.cancels ∧ w.node.stopping = false ∧
    ((∃ x, w.Holds x) → w.node.goalActive = true) ∧
      (w.node.goalActive = true → w.history.begun = w.history.cancels →
        w.node.stopping = false → ∃ x, w.Holds x) := by
  obtain ⟨planned, -, hfeasible⟩ := detour_feasible
  obtain ⟨es, w, sent, hrun, hquiet, hgone⟩ := planned_gone (initial_ready 0) hfeasible
  obtain ⟨evidence, hway⟩ := hgone.node
  exact ⟨w, hway.goalActive, hgone.begun.trans hgone.cancels.symm, hway.stopping,
    busy_held ((Lts.Reachable.of_init (T := undisturbed reachModel detourArms false) rfl).run
      (undisturbed_run hrun hquiet))⟩

end OpenArm.Node
