/-
  OpenArm.Node.Busy — one command at a time.

  Main result:
    * `one_command` — the route has at most one holder, and at most one goal is
                      outstanding.
-/
import OpenArm.Node.Did
import OpenArm.Node.Trip

namespace OpenArm.Node

open OpenArm.Lib OpenArm.Control OpenArm.Model OpenArm.Guard PortalNode

variable {F : Type} {A : GuardModel F} {R : ArmModel F} {realMode stop : Bool}
  {w w' : World F}

/-! ## §1. The baton. -/

/-- The thread of a leg holds the route. -/
theorem holds_submitting {t : Thread} {token : Option Nat} {stage : Stage F}
    (h : w.activity t = .submitting token stage) : w.Holds (.thread t) := by
  show (w.activity t).Carries
  rw [h]
  exact trivial

/-- A goal that is outstanding holds it too. -/
theorem holds_goal {goal : Nat} {sent : Goal F} (h : w.goals goal = some sent) :
    w.Holds (.goal goal) := by
  show (w.goals goal).isSome = true
  rw [h]
  rfl

theorem holds_aside (hroute : w'.node.routeResumeTimer = w.node.routeResumeTimer)
    (hthreads : ∀ t, w'.activity t = w.activity t ∨
      (¬ (w.activity t).Carries ∧ ¬ (w'.activity t).Carries))
    (hgoals : w'.goals = w.goals) (x : Holder) (h : w'.Holds x) : w.Holds x := by
  cases x with
  | thread t =>
    rcases hthreads t with hsame | ⟨-, hnot⟩
    · change (w'.activity t).Carries at h
      rw [hsame] at h
      exact h
    · exact absurd h hnot
  | timer =>
    obtain ⟨hsome, hquiet⟩ := h
    rw [hroute] at hsome
    refine ⟨hsome, fun hticks => ?_⟩
    rcases hthreads .executor with hsame | ⟨hnot, -⟩
    · rw [hsame] at hquiet
      exact hquiet hticks
    · exact hnot (carries_of_ticks hticks)
  | goal goal =>
    change (w'.goals goal).isSome = true at h
    rw [hgoals] at h
    exact h

variable [Metric F]

section

omit [Metric F]

/-- The thread of a leg goes on, and nothing else changes hands. -/
theorem holds_leg {t : Thread} {token : Option Nat} {stage : Stage F} {a : Activity F}
    (hwas : w.activity t = .submitting token stage)
    (hactivity : w'.activity = Function.update w.activity t a)
    (htimer : w'.node.routeResumeTimer = w.node.routeResumeTimer) (hgoals : w'.goals = w.goals)
    (x : Holder) (h : w'.Holds x) : w.Holds x := by
  have hquiet : ¬ (w.activity t).Ticks := by
    rw [hwas]
    exact id
  rcases holds_become hactivity hgoals (Or.inl htimer) (Or.inl hquiet) x h with ⟨rfl, -⟩ | ⟨-, hold⟩
  · exact holds_submitting hwas
  · exact hold

/-- A new goal is one more holder. -/
theorem holds_sent {t : Thread} {a : Activity F} {sent : Goal F}
    (hactivity : w'.activity = Function.update w.activity t a) (hafter : ¬ a.Carries)
    (htimer : w'.node.routeResumeTimer = w.node.routeResumeTimer)
    (hquiet : ¬ (w.activity t).Ticks)
    (hgoals : w'.goals = Function.update w.goals w.nextGoal (some sent)) (x : Holder)
    (h : w'.Holds x) : x = .goal w.nextGoal ∨ (x ≠ .thread t ∧ w.Holds x) := by
  by_cases hnew : x = .goal w.nextGoal
  · exact Or.inl hnew
  right
  have hbefore : ({ w' with goals := w.goals } : World F).Holds x := by
    cases x with
    | thread u => exact h
    | timer => exact h
    | goal goal =>
      change (w'.goals goal).isSome = true at h
      rw [hgoals, Function.update_of_ne fun heq => hnew (congrArg Holder.goal heq)] at h
      exact h
  have hsame : ({ w' with goals := w.goals } : World F).activity =
      Function.update w.activity t a := hactivity
  exact (holds_become hsame rfl (Or.inl htimer) (Or.inl hquiet) x hbefore).resolve_left
    fun hcarries => hafter hcarries.2

/-- A cancel leaves the threads and the goals what they are, and takes the timer. -/
theorem holds_halted (hnode : w'.node = w.node.cancel.2) (hactivity : w'.activity = w.activity)
    (hgoals : w'.goals = w.goals) (x : Holder) (h : w'.Holds x) : x ≠ .timer ∧ w.Holds x := by
  cases x with
  | thread t =>
    change (w'.activity t).Carries at h
    rw [hactivity] at h
    exact ⟨by simp, h⟩
  | timer =>
    have hsome := h.1
    rw [hnode] at hsome
    cases hsome
  | goal goal =>
    change (w'.goals goal).isSome = true at h
    rw [hgoals] at h
    exact ⟨by simp, h⟩

/-- An accepted goal was outstanding before. -/
theorem holds_accepted {goal : Nat} {sent : Goal F} (hfound : w.goals goal = some sent)
    (hnode : w'.node = { w.node with
      activeGoal := if sent.leg.isSome then some goal else w.node.activeGoal
      activeContactGoal := if sent.leg.isSome then w.node.activeContactGoal else some goal })
    (hactivity : w'.activity = w.activity)
    (hgoals : w'.goals = Function.update w.goals goal (some { sent with accepted := true }))
    (x : Holder) (h : w'.Holds x) : w.Holds x := by
  cases x with
  | thread t =>
    change (w'.activity t).Carries at h
    rw [hactivity] at h
    exact h
  | timer =>
    obtain ⟨hsome, hquiet⟩ := h
    rw [hnode] at hsome
    rw [hactivity] at hquiet
    exact ⟨hsome, hquiet⟩
  | goal other =>
    change (w'.goals other).isSome = true at h
    rw [hgoals] at h
    by_cases hsame : other = goal
    · rw [hsame]
      exact holds_goal hfound
    · rw [Function.update_of_ne hsame] at h
      exact h

/-- And is outstanding afterwards. -/
theorem accepted_holds {goal : Nat} {sent : Goal F}
    (hnode : w'.node = { w.node with
      activeGoal := if sent.leg.isSome then some goal else w.node.activeGoal
      activeContactGoal := if sent.leg.isSome then w.node.activeContactGoal else some goal })
    (hactivity : w'.activity = w.activity)
    (hgoals : w'.goals = Function.update w.goals goal (some { sent with accepted := true }))
    (x : Holder) (h : w.Holds x) : w'.Holds x := by
  cases x with
  | thread t =>
    change (w.activity t).Carries at h
    show (w'.activity t).Carries
    rw [hactivity]
    exact h
  | timer =>
    refine ⟨?_, ?_⟩
    · rw [hnode]
      exact h.1
    · rw [hactivity]
      exact h.2
  | goal other =>
    show (w'.goals other).isSome = true
    rw [hgoals]
    by_cases hsame : other = goal
    · rw [hsame, Function.update_self]
      rfl
    · rw [Function.update_of_ne hsame]
      exact h

theorem entered_timer (n : PortalNode F) (token : Nat) (guarded : Guarded F) :
    (n.entered token guarded).routeResumeTimer = n.routeResumeTimer := by
  unfold PortalNode.entered
  dsimp only
  split
  · rfl
  · rfl

theorem entered_active (n : PortalNode F) (token : Nat) (guarded : Guarded F) :
    (n.entered token guarded).goalActive = true := by
  unfold PortalNode.entered
  dsimp only
  split
  · rfl
  · rfl

end

/-- **A step keeps the baton.** -/
theorem baton_step (h : Baton w.Holds w.node.goalActive) (hd : Did A R stop w w') :
    Baton w'.Holds w'.node.goalActive := by
  cases hd with
  | aside route timer threads judged goals history =>
    exact h.keep (holds_aside timer threads goals.goals) route.goalActive
  | halts node activity goals history =>
    exact h.keep (fun x hx => (holds_halted node activity goals.goals x hx).2) (by rw [node]; rfl)
  | drops t free inactive waypoints timer only before after judged goals history =>
    refine h.keep (holds_aside timer (fun u => ?_) goals.goals) (inactive.trans free.symm)
    by_cases hu : u = t
    · rw [hu]
      exact Or.inr ⟨before, after⟩
    · exact Or.inl (only u hu)
  | enters t token guarded judged free valid ordinary some node activity goals history =>
    have hquiet : ¬ (w.activity t).Ticks := by
      rw [judged]
      exact id
    have htimer : w'.node.routeResumeTimer = w.node.routeResumeTimer := by
      rw [node]
      exact entered_timer _ _ _
    -- `goal_active_` was false, so nobody held the route before
    refine h.take free (.thread t) (fun x hx => ?_) (by rw [node]; exact entered_active _ _ _)
    rcases holds_become activity goals.goals (Or.inl htimer) (Or.inl hquiet) x hx with
      ⟨rfl, -⟩ | ⟨-, hold⟩
    · exact Or.inl rfl
    · exact Or.inr hold
  | contacts t token guarded judged free valid contact node activity goals nextGoal history =>
    have hquiet : ¬ (w.activity t).Ticks := by
      rw [judged]
      exact id
    have htimer : w'.node.routeResumeTimer = w.node.routeResumeTimer := by
      rw [node]
      exact entered_timer _ _ _
    -- a contact command has no route: its goal is the only holder
    refine h.take free (.goal w.nextGoal) (fun x hx => ?_)
      (by rw [node]; exact entered_active _ _ _)
    exact (holds_sent activity id htimer hquiet goals x hx).imp id And.right
  | reads t token index leg entering unblocked position bound endpoint last retreat preserved node
      activity goals history =>
    exact h.keep (holds_leg entering activity (by rw [node]) goals.goals) (by rw [node])
  | thinks t token stage stage' was thought node activity goals history =>
    exact h.keep (holds_leg was activity (by rw [node]) goals.goals) (by rw [node])
  | replaces t token leg waypoints was unblocked position inside node activity goals history =>
    exact h.keep (holds_leg was activity (by rw [node]) goals.goals) (by rw [node])
  | checks t token leg endpoint moment was unblocked position valid node activity goals history =>
    exact h.keep (holds_leg was activity (by rw [node]) goals.goals) (by rw [node])
  | sends t token leg endpoint seen was node activity goals nextGoal history =>
    have hquiet : ¬ (w.activity t).Ticks := by
      rw [was]
      exact id
    have hheld := holds_submitting was
    refine h.pass hheld (holds_sent activity (carries_afterLeg token) (by rw [node]) hquiet goals) ?_
    rw [node]
    exact h.flagged _ hheld
  | passes old new held onward rest positions stages goalActive =>
    refine h.pass held rest ?_
    rw [goalActive]
    exact h.flagged _ held
  | stalls x held rest => exact h.drop held rest
  | accepts goal sent found pending node activity goals nextGoal history =>
    exact h.keep (holds_accepted found node activity goals) (by rw [node])
  | ends x hends => exact h.drop hends.held hends.rest
  | completes goal index endpoint hends => exact h.drop hends.held hends.rest

theorem baton_initial : Baton (World.initial (F := F)).Holds
    (World.initial (F := F)).node.goalActive :=
  Baton.free fun x hx => by
    cases x with
    | thread t => exact hx
    | timer => cases hx.1
    | goal goal => cases hx

theorem baton (h : (portal A R realMode).Reachable w) : Baton w.Holds w.node.goalActive :=
  h.invariant (I := fun w : World F => Baton w.Holds w.node.goalActive)
    (fun a ha => by obtain rfl : a = World.initial := ha; exact baton_initial)
    fun _ _ _ hstep ha => baton_step ha (next_did hstep)

/-- **One command at a time**: in every reachable state at most one thread, timer
    or goal would go on with a command, the portal calls itself busy while one
    would, and at most one goal is outstanding. -/
theorem one_command (h : (portal A R realMode).Reachable w) :
    (∀ x y, w.Holds x → w.Holds y → x = y) ∧ (∀ x, w.Holds x → w.node.goalActive = true) ∧
      ∀ i j, (w.goals i).isSome = true → (w.goals j).isSome = true → i = j :=
  ⟨(baton h).one, (baton h).flagged, fun i j hi hj =>
    Holder.goal.inj ((baton h).one (.goal i) (.goal j) hi hj)⟩

theorem one_command_underway : ∃ w : World Extended, (w.goals 0).isSome = true ∧
    (∀ x y, w.Holds x → w.Holds y → x = y) ∧ (∀ x, w.Holds x → w.node.goalActive = true) ∧
      ∀ i j, (w.goals i).isSome = true → (w.goals j).isSome = true → i = j := by
  obtain ⟨w, hreachable, sent, hgone⟩ := detour_underway
  refine ⟨w, ?_, one_command hreachable⟩
  rw [hgone.goals]
  rfl

end OpenArm.Node
