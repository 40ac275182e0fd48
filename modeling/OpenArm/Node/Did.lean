/-
  OpenArm.Node.Did — what one step of the portal can do to a route.

  A route is held by the thread, the timer or the goal that would go on with
  it.  Every step leaves the holder alone, hands the route on, lets it go or
  begins a new one; `Did` lists the ways, each with what it changes.

  Main result:
    * `next_did` — a step does one of these.
-/
import OpenArm.Node.World

namespace OpenArm.Node

open OpenArm.Lib OpenArm.Control OpenArm.Model OpenArm.Guard PortalNode

variable {F : Type} [Metric F]

/-! ## §1. Holders. -/

/-- What can hold the route. -/
inductive Holder where
  | thread (t : Thread)
  | timer
  | goal (index : Nat)
  deriving DecidableEq

/-- The thread is in a command. -/
def Activity.Carries : Activity F → Prop
  | .submitting _ _ | .scheduling _ | .arming _ | .ticking _ => True
  | _ => False

/-- The timer's callback has begun. -/
def Activity.Ticks : Activity F → Prop
  | .ticking _ => True
  | _ => False

/-- The thread is between two legs. -/
def Activity.Waits : Activity F → Prop
  | .scheduling _ | .arming _ | .ticking _ => True
  | _ => False

/-- **What would go on with the command.**  While its callback runs the timer
    itself holds nothing. -/
def World.Holds (w : World F) : Holder → Prop
  | .thread t => (w.activity t).Carries
  | .timer => w.node.routeResumeTimer.isSome = true ∧ ¬ (w.activity .executor).Ticks
  | .goal index => (w.goals index).isSome = true

/-- The next leg a stage works for. -/
def Stage.index : Stage F → Option Nat
  | .entering index => some index
  | .read leg | .replanned leg _ | .proved leg _ | .sending leg _ _ => some leg.index
  | .failing | .thrown => none

/-- The next leg an activity works for. -/
def Activity.index : Activity F → Option Nat
  | .submitting _ stage => stage.index
  | .scheduling index | .arming index | .ticking index => some index
  | _ => none

/-- Who works for the leg with an index, or waits for it. -/
def World.At (w : World F) : Holder → Nat → Prop
  | .thread t, index => (w.activity t).index = some index
  | .timer, index => w.node.routeResumeTimer = some index
  | .goal goal, index => ∃ sent leg, w.goals goal = some sent ∧ sent.leg = some leg ∧
      index = leg.1 + 1

/-- What waits between two legs. -/
def World.Between (w : World F) : Holder → Prop
  | .thread t => (w.activity t).Waits
  | .timer => True
  | .goal _ => False

omit [Metric F] in
theorem carries_of_ticks {a : Activity F} (h : a.Ticks) : a.Carries := by
  cases a with
  | ticking index => exact trivial
  | _ => exact h.elim

/-! ## §2. What stays. -/

/-- The node knows the same of its route. -/
structure SameRoute (n n' : PortalNode F) : Prop where
  goalActive : n'.goalActive = n.goalActive
  cancelPending : n'.cancelPending = n.cancelPending
  activeGoal : n'.activeGoal = n.activeGoal
  activeContactGoal : n'.activeContactGoal = n.activeContactGoal
  routeWaypoints : n'.routeWaypoints = n.routeWaypoints
  routeIndex : n'.routeIndex = n.routeIndex
  routeTerminalRetreat : n'.routeTerminalRetreat = n.routeTerminalRetreat
  routePreservedSide : n'.routePreservedSide = n.routePreservedSide
  stopping : n.stopping = true → n'.stopping = true

/-- Nothing was recorded, up to the marks of tokens and requests. -/
structure SameHistory (k k' : History F) : Prop where
  cancels : k'.cancels = k.cancels
  commands : k'.commands = k.commands
  begun : k'.begun = k.begun
  admitted : k'.admitted = k.admitted
  target : k'.target = k.target
  checked : k'.checked = k.checked
  engaged : k'.engaged = k.engaged
  engagementsAtCheck : k'.engagementsAtCheck = k.engagementsAtCheck
  legs : k'.legs = k.legs
  contacts : k'.contacts = k.contacts
  asked : k'.asked = k.asked
  completed : k'.completed = k.completed

/-- The same goals are outstanding. -/
structure SameGoals (w w' : World F) : Prop where
  goals : w'.goals = w.goals
  nextGoal : w'.nextGoal = w.nextGoal

/-- No request was judged. -/
def StillJudged (w w' : World F) : Prop := ∀ t token guarded,
  w'.activity t = .judged token guarded → w.activity t = .judged token guarded

/-- Only this thread went on. -/
def OnlyThread (w w' : World F) (t : Thread) : Prop := ∀ x, x ≠ t → w'.activity x = w.activity x

/-! ## §3. Steps. -/

/-- The work between two blocks of a leg. -/
inductive Thinks (A : GuardModel F) (R : ArmModel F) : Stage F → Stage F → Prop where
  | stale (leg : Leg F) : Thinks A R (.read leg) .failing
  | retreats (leg : Leg F) (retreat : leg.terminalRetreat = true) :
      Thinks A R (.read leg) (reprove A R leg leg.endpoint)
  | replans (leg : Leg F) (ordinary : leg.terminalRetreat = false)
      (accepted : (routeOrProject A R (replanInput leg.guarded.measuredQ leg.finalTarget
        leg.preservedSide)).accepted = true)
      (some : (routeOrProject A R (replanInput leg.guarded.measuredQ leg.finalTarget
        leg.preservedSide)).waypointTcp ≠ []) :
      Thinks A R (.read leg) (.replanned leg (routeOrProject A R
        (replanInput leg.guarded.measuredQ leg.finalTarget leg.preservedSide)).waypointTcp)
  | throws (leg : Leg F) (endpoint : RoutePose F) (seen : Handoff F) :
      Thinks A R (.sending leg endpoint seen) .thrown

/-- The command is over, or given up, by the one who held it. -/
structure Ends (w w' : World F) (h : Holder) : Prop where
  held : w.Holds h
  rest : ∀ x, w'.Holds x → x ≠ h ∧ w.Holds x
  positions : ∀ x index, w'.At x index → w.At x index
  inactive : w'.node.goalActive = false
  waypoints : w'.node.routeWaypoints = [] ∨
    (w'.node.routeWaypoints = w.node.routeWaypoints ∧ ∃ goal sent, h = .goal goal ∧
      w.goals goal = some sent ∧ sent.leg = none)
  judged : StillJudged w w'

/-- What a step does, where `stop` is what it read of `stop_requested`. -/
inductive Did (A : GuardModel F) (R : ArmModel F) (stop : Bool) (w w' : World F) : Prop where
  /-- Something else. -/
  | aside (route : SameRoute w.node w'.node)
      (timer : w'.node.routeResumeTimer = w.node.routeResumeTimer)
      (threads : ∀ t, w'.activity t = w.activity t ∨
        (¬ (w.activity t).Carries ∧ ¬ (w'.activity t).Carries))
      (judged : ∀ t token guarded, w'.activity t = .judged token guarded →
        w.activity t = .judged token guarded ∨
          ∃ job tcp, w.node.judge A R job tcp = some guarded)
      (goals : SameGoals w w') (history : SameHistory w.history w'.history)
  /-- A cancel. -/
  | halts (node : w'.node = w.node.cancel.2) (activity : w'.activity = w.activity)
      (goals : SameGoals w w')
      (history : w'.history = { w.history with
        cancels := w.history.cancels + 1
        asked := w.history.asked ++ w.node.cancel.1 })
  /-- A command is entered and given up in one block. -/
  | drops (t : Thread) (free : w.node.goalActive = false) (inactive : w'.node.goalActive = false)
      (waypoints : w'.node.routeWaypoints = [] ∨
        w'.node.routeWaypoints = w.node.routeWaypoints)
      (timer : w'.node.routeResumeTimer = w.node.routeResumeTimer)
      (only : OnlyThread w w' t) (before : ¬ (w.activity t).Carries)
      (after : ¬ (w'.activity t).Carries) (judged : StillJudged w w') (goals : SameGoals w w')
      (history : SameHistory w.history w'.history)
  /-- A route begins. -/
  | enters (t : Thread) (token : Nat) (guarded : Guarded F)
      (judged : w.activity t = .judged token guarded) (free : w.node.goalActive = false)
      (valid : w.node.commandGate.valid token = true)
      (ordinary : guarded.input.requireTerminalContact = false)
      (some : guarded.routeWaypoints ≠ [])
      (node : w'.node = w.node.entered token guarded)
      (activity : w'.activity = Function.update w.activity t
        (.submitting (Option.some token) (.entering 0)))
      (goals : SameGoals w w') (history : w'.history = w.commanded t token guarded)
  /-- A contact goal is sent. -/
  | contacts (t : Thread) (token : Nat) (guarded : Guarded F)
      (judged : w.activity t = .judged token guarded) (free : w.node.goalActive = false)
      (valid : w.node.commandGate.valid token = true)
      (contact : guarded.input.requireTerminalContact = true)
      (node : w'.node = w.node.entered token guarded)
      (activity : w'.activity = Function.update w.activity t (.releasing token))
      (goals : w'.goals = Function.update w.goals w.nextGoal
        (Option.some { leg := none, accepted := false }))
      (nextGoal : w'.nextGoal = w.nextGoal + 1)
      (history : w'.history = { w.commanded t token guarded with
        contacts := w.history.contacts ++
          [{ command := w.history.commands + 1
             goal := w.nextGoal
             begun := w.history.begunAt token
             checked := w.history.cancels }] })
  /-- A leg reads the route. -/
  | reads (t : Thread) (token : Option Nat) (index : Nat) (leg : Leg F)
      (entering : w.activity t = .submitting token (.entering index))
      (unblocked : w.node.legBlocked false = false)
      (position : leg.index = index) (bound : index < kMaximumDynamicRouteLegs)
      (endpoint : w.node.routeWaypoints[index]? = some leg.endpoint)
      (last : w.node.routeWaypoints.getLast? = some leg.finalTarget)
      (retreat : leg.terminalRetreat = w.node.routeTerminalRetreat)
      (preserved : leg.preservedSide = w.node.routePreservedSide)
      (node : w'.node = { w.node with routeIndex := index })
      (activity : w'.activity = Function.update w.activity t (.submitting token (.read leg)))
      (goals : SameGoals w w') (history : SameHistory w.history w'.history)
  /-- A leg is worked on. -/
  | thinks (t : Thread) (token : Option Nat) (stage stage' : Stage F)
      (was : w.activity t = .submitting token stage) (thought : Thinks A R stage stage')
      (node : w'.node = w.node)
      (activity : w'.activity = Function.update w.activity t (.submitting token stage'))
      (goals : SameGoals w w') (history : SameHistory w.history w'.history)
  /-- The rest of the route is replaced. -/
  | replaces (t : Thread) (token : Option Nat) (leg : Leg F) (waypoints : List (RoutePose F))
      (was : w.activity t = .submitting token (.replanned leg waypoints))
      (unblocked : w.node.legBlocked false = false) (position : leg.index = w.node.routeIndex)
      (inside : leg.index < w.node.routeWaypoints.length)
      (node : w'.node = { w.node with
        routeWaypoints := w.node.routeWaypoints.take leg.index ++ waypoints
        routeReplanCount := w.node.routeReplanCount + 1 })
      (activity : w'.activity = Function.update w.activity t
        (.submitting token (reprove A R leg (waypoints.headD leg.endpoint))))
      (goals : SameGoals w w') (history : SameHistory w.history w'.history)
  /-- A leg passes its last check. -/
  | checks (t : Thread) (token : Option Nat) (leg : Leg F) (endpoint : RoutePose F)
      (moment : Moment) (was : w.activity t = .submitting token (.proved leg endpoint))
      (unblocked : w.node.legBlocked moment.stop = false) (position : leg.index = w.node.routeIndex)
      (valid : w.node.handoffValid A leg.guarded moment = true) (node : w'.node = w.node)
      (activity : w'.activity = Function.update w.activity t
        (.submitting token (.sending leg endpoint ⟨w.node.evidence, moment⟩)))
      (goals : SameGoals w w') (history : w'.history = w.checks)
  /-- A leg is sent. -/
  | sends (t : Thread) (token : Option Nat) (leg : Leg F) (endpoint : RoutePose F)
      (seen : Handoff F) (was : w.activity t = .submitting token (.sending leg endpoint seen))
      (node : w'.node = w.node)
      (activity : w'.activity = Function.update w.activity t (World.afterLeg token))
      (goals : w'.goals = Function.update w.goals w.nextGoal
        (some { leg := some (leg.index, endpoint), accepted := false }))
      (nextGoal : w'.nextGoal = w.nextGoal + 1)
      (history : w'.history = { w.history with
        legs := w.history.legs ++ [w.sentLeg leg endpoint seen] })
  /-- The route is handed on. -/
  | passes (old new : Holder) (held : w.Holds old) (onward : ∀ goal, new ≠ .goal goal)
      (rest : ∀ x, w'.Holds x → x = new ∨ (x ≠ old ∧ w.Holds x))
      (positions : ∀ x index, w'.At x index → ∃ y, w.At y index)
      (stages : ∀ t token stage, w'.activity t = .submitting token stage →
        w.activity t = .submitting token stage ∨ ∃ index, stage = .entering index)
      (goalActive : w'.node.goalActive = w.node.goalActive)
      (cancelPending : w'.node.cancelPending = w.node.cancelPending)
      (waypoints : w'.node.routeWaypoints = w.node.routeWaypoints)
      (retreat : w'.node.routeTerminalRetreat = w.node.routeTerminalRetreat)
      (preserved : w'.node.routePreservedSide = w.node.routePreservedSide)
      (goals : ∀ goal, w'.goals goal = w.goals goal ∨ w'.goals goal = none)
      (judged : StillJudged w w') (history : SameHistory w.history w'.history)
      (place : ∀ index, w'.At new index →
        (index = w'.node.routeIndex ∧ index < w'.node.routeWaypoints.length) ∨
          (w'.node.routeIndex = w.node.routeIndex ∧ ∃ y, w.Between y ∧ w.At y index))
      (ticks : ∀ t index, new = .thread t → w'.activity t = .ticking index →
        w'.node.routeResumeTimer = some index)
      (taken : (∃ x, w'.Holds x) ∨ ∃ t index, w.activity t = .ticking index ∧
        w.node.routeResumeTimer = none)
  /-- The route is let go, and nobody is told. -/
  | stalls (h : Holder) (held : w.Holds h) (rest : ∀ x, w'.Holds x → x ≠ h ∧ w.Holds x)
      (positions : ∀ x index, w'.At x index → w.At x index)
      (why : ∃ index, w.Between h ∧ w.At h index ∧ (w.node.legBlocked stop = true ∨
        w.node.routeWaypoints.length ≤ index ∨ index ≠ w.node.routeIndex))
      (route : SameRoute w.node w'.node) (judged : StillJudged w w') (goals : SameGoals w w')
      (history : SameHistory w.history w'.history)
  /-- A goal is accepted. -/
  | accepts (goal : Nat) (sent : Goal F) (found : w.goals goal = some sent)
      (pending : sent.accepted = false)
      (node : w'.node = { w.node with
        activeGoal := if sent.leg.isSome then some goal else w.node.activeGoal
        activeContactGoal := if sent.leg.isSome then w.node.activeContactGoal else some goal })
      (activity : w'.activity = w.activity)
      (goals : w'.goals = Function.update w.goals goal (some { sent with accepted := true }))
      (nextGoal : w'.nextGoal = w.nextGoal)
      (history : w'.history = { w.history with
        asked := w.history.asked ++ if w.node.cancelPending ∨
          (sent.leg.isSome = true ∧ w.node.routeWaypoints = []) then [goal] else [] })
  /-- A command ends. -/
  | ends (h : Holder) (ends : Ends w w' h) (history : SameHistory w.history w'.history)
  /-- A route is completed. -/
  | completes (goal index : Nat) (endpoint : RoutePose F) (ends : Ends w w' (.goal goal))
      (found : ∃ sent, w.goals goal = some sent ∧ sent.leg = some (index, endpoint))
      (some : w.node.routeWaypoints ≠ []) (last : w.node.routeWaypoints.length ≤ index + 1)
      (history : w'.history = { w.history with
        completed := w.history.completed ++
          [{ command := w.history.commands
             endpoint
             target := w.history.target
             preservedSide := w.node.routePreservedSide }] })

/-! ## §4. One thread goes on. -/

section Become

/-- An updated function is asked at the point of the update, or elsewhere. -/
theorem update_cases {α β : Type} [DecidableEq α] {f : α → β} {a x : α} {b c : β}
    (h : Function.update f a b x = c) : (x = a ∧ b = c) ∨ (x ≠ a ∧ f x = c) := by
  by_cases hx : x = a
  · rw [hx, Function.update_self] at h
    exact Or.inl ⟨hx, h⟩
  · rw [Function.update_of_ne hx] at h
    exact Or.inr ⟨hx, h⟩

variable {w w' : World F} {t : Thread} {a : Activity F}

section

omit [Metric F]

theorem SameHistory.refl (k : History F) : SameHistory k k :=
  ⟨rfl, rfl, rfl, rfl, rfl, rfl, rfl, rfl, rfl, rfl, rfl, rfl⟩

theorem SameRoute.refl (n : PortalNode F) : SameRoute n n :=
  ⟨rfl, rfl, rfl, rfl, rfl, rfl, rfl, rfl, id⟩

/-- The holders after one thread went on, while the timer was left alone or
    canceled. -/
theorem holds_become (hactivity : w'.activity = Function.update w.activity t a)
    (hgoals : w'.goals = w.goals)
    (htimer : w'.node.routeResumeTimer = w.node.routeResumeTimer ∨
      w'.node.routeResumeTimer = none)
    (hticks : ¬ (w.activity t).Ticks ∨ w'.node.routeResumeTimer = none) (x : Holder)
    (h : w'.Holds x) : (x = .thread t ∧ a.Carries) ∨ (x ≠ .thread t ∧ w.Holds x) := by
  cases x with
  | thread u =>
    change (w'.activity u).Carries at h
    rw [hactivity] at h
    by_cases hu : u = t
    · rw [hu, Function.update_self] at h
      exact Or.inl ⟨congrArg Holder.thread hu, h⟩
    · rw [Function.update_of_ne hu] at h
      exact Or.inr ⟨fun heq => hu (Holder.thread.inj heq), h⟩
  | timer =>
    refine Or.inr ⟨by simp, ?_⟩
    obtain ⟨hsome, hquiet⟩ := h
    have hnot : w'.node.routeResumeTimer ≠ none := by
      intro hnone
      rw [hnone] at hsome
      cases hsome
    rw [htimer.resolve_right hnot] at hsome
    refine ⟨hsome, fun hticking => ?_⟩
    by_cases ht : Thread.executor = t
    · exact hticks.elim (fun hn => hn (ht ▸ hticking)) hnot
    · rw [hactivity, Function.update_of_ne ht] at hquiet
      exact hquiet hticking
  | goal index =>
    change (w'.goals index).isSome = true at h
    rw [hgoals] at h
    exact Or.inr ⟨by simp, h⟩

/-- And who works for which leg. -/
theorem at_become (hactivity : w'.activity = Function.update w.activity t a)
    (hgoals : w'.goals = w.goals)
    (htimer : w'.node.routeResumeTimer = w.node.routeResumeTimer ∨
      w'.node.routeResumeTimer = none) (x : Holder) (index : Nat) (h : w'.At x index) :
    (x = .thread t ∧ a.index = some index) ∨ (x ≠ .thread t ∧ w.At x index) := by
  cases x with
  | thread u =>
    change (w'.activity u).index = some index at h
    rw [hactivity] at h
    by_cases hu : u = t
    · rw [hu, Function.update_self] at h
      exact Or.inl ⟨congrArg Holder.thread hu, h⟩
    · rw [Function.update_of_ne hu] at h
      exact Or.inr ⟨fun heq => hu (Holder.thread.inj heq), h⟩
  | timer =>
    refine Or.inr ⟨by simp, ?_⟩
    change w'.node.routeResumeTimer = some index at h
    show w.node.routeResumeTimer = some index
    rcases htimer with hsame | hnone
    · rw [← hsame]
      exact h
    · rw [hnone] at h
      cases h
  | goal goal =>
    refine Or.inr ⟨by simp, ?_⟩
    obtain ⟨sent, leg, hsent, hleg⟩ := h
    rw [hgoals] at hsent
    exact ⟨sent, leg, hsent, hleg⟩

theorem judged_become (hactivity : w'.activity = Function.update w.activity t a)
    (ha : ∀ token guarded, a ≠ .judged token guarded) : StillJudged w w' := by
  intro u token guarded hu
  rw [hactivity] at hu
  rcases update_cases hu with ⟨-, hu⟩ | ⟨-, hu⟩
  · exact absurd hu (ha token guarded)
  · exact hu

theorem judged_same (hactivity : w'.activity = w.activity) : StillJudged w w' := by
  intro u token guarded hu
  rw [hactivity] at hu
  exact hu

end

/-- Where nothing of the route changes, two threads that carry nothing do not
    matter. -/
theorem did_aside {A : GuardModel F} {R : ArmModel F} {stop : Bool}
    (hactivity : w'.activity = Function.update w.activity t a)
    (hbefore : ¬ (w.activity t).Carries) (hafter : ¬ a.Carries)
    (hjudged : ∀ token guarded, a = .judged token guarded →
      ∃ job tcp, w.node.judge A R job tcp = some guarded)
    (hroute : SameRoute w.node w'.node)
    (htimer : w'.node.routeResumeTimer = w.node.routeResumeTimer) (hgoals : SameGoals w w')
    (hhistory : SameHistory w.history w'.history) : Did A R stop w w' := by
  refine .aside hroute htimer (fun u => ?_) (fun u token guarded hu => ?_) hgoals hhistory
  · rw [hactivity]
    by_cases hu : u = t
    · rw [hu, Function.update_self]
      exact Or.inr ⟨hbefore, hafter⟩
    · exact Or.inl (Function.update_of_ne hu _ _)
  · rw [hactivity] at hu
    rcases update_cases hu with ⟨-, hu⟩ | ⟨-, hu⟩
    · exact Or.inr (hjudged token guarded hu)
    · exact Or.inl hu

section

omit [Metric F]

/-- A thread that lets the route go. -/
theorem lets_go (hactivity : w'.activity = Function.update w.activity t a)
    (hgoals : w'.goals = w.goals)
    (htimer : w'.node.routeResumeTimer = w.node.routeResumeTimer ∨
      w'.node.routeResumeTimer = none)
    (hticks : ¬ (w.activity t).Ticks ∨ w'.node.routeResumeTimer = none) (hafter : ¬ a.Carries) :
    ∀ x, w'.Holds x → x ≠ .thread t ∧ w.Holds x := fun x hx =>
  (holds_become hactivity hgoals htimer hticks x hx).resolve_left fun h => hafter h.2

theorem index_of_carries {a : Activity F} (h : ¬ a.Carries) : a.index = none := by
  cases a with
  | submitting token stage => exact absurd trivial h
  | scheduling index => exact absurd trivial h
  | arming index => exact absurd trivial h
  | ticking index => exact absurd trivial h
  | _ => rfl

theorem lets_go_positions (hactivity : w'.activity = Function.update w.activity t a)
    (hgoals : w'.goals = w.goals)
    (htimer : w'.node.routeResumeTimer = w.node.routeResumeTimer ∨
      w'.node.routeResumeTimer = none) (hafter : ¬ a.Carries) :
    ∀ x index, w'.At x index → w.At x index := by
  intro x index hx
  rcases at_become hactivity hgoals htimer x index hx with ⟨-, hindex⟩ | ⟨-, hold⟩
  · rw [index_of_carries hafter] at hindex
    cases hindex
  · exact hold

theorem afterLeg_unjudged (token : Option Nat) (token' : Nat) (guarded : Guarded F) :
    (World.afterLeg token : Activity F) ≠ .judged token' guarded := by
  cases token with
  | none => exact fun h => by cases h
  | some token => exact fun h => by cases h

theorem carries_afterLeg (token : Option Nat) : ¬ (World.afterLeg token : Activity F).Carries := by
  cases token with
  | none => exact id
  | some token => exact id

end

end Become

/-! ## §5. The blocks of a thread. -/

section Blocks

variable {A : GuardModel F} {R : ArmModel F} {realMode stop : Bool} {w w' : World F} {t : Thread}
  {turn : Turn}

theorem beginsGuard_did {job : Job F} (hwas : w.activity t = .admitted job) :
    Did A R stop w (w.beginsGuard t turn job) := by
  unfold World.beginsGuard
  cases hbegin : w.node.beginGuard turn.first.stop with
  | none =>
    exact did_aside rfl (by rw [hwas]; exact id) id (by simp) (.refl _) rfl ⟨rfl, rfl⟩ (.refl _)
  | some reserved =>
    have hnode : ∃ gate, reserved.2 = { w.node with commandGate := gate } := by
      unfold PortalNode.beginGuard at hbegin
      split at hbegin
      · cases hbegin
      · split at hbegin
        · cases hbegin
        · obtain ⟨pair, -, rfl⟩ := Option.map_eq_some_iff.mp hbegin
          exact ⟨pair.2, rfl⟩
    obtain ⟨gate, hgate⟩ := hnode
    refine did_aside (t := t) rfl (by rw [hwas]; exact id) id (by simp) ?_ ?_ ⟨rfl, rfl⟩
      ⟨rfl, rfl, rfl, rfl, rfl, rfl, rfl, rfl, rfl, rfl, rfl, rfl⟩
    · show SameRoute w.node reserved.2
      rw [hgate]
      exact ⟨rfl, rfl, rfl, rfl, rfl, rfl, rfl, rfl, id⟩
    · show reserved.2.routeResumeTimer = _
      rw [hgate]

theorem judges_did {token : Nat} {job : Job F} (hwas : w.activity t = .reserved token job) :
    Did A R stop w (w.judges A R realMode t turn token job) := by
  unfold World.judges
  cases hjudge : (w.node.state A realMode turn.first).bind (w.node.judge A R job) with
  | none =>
    exact did_aside (t := t) rfl (by rw [hwas]; exact id) id (by simp) (.refl _) rfl ⟨rfl, rfl⟩
      (.refl _)
  | some guarded =>
    obtain ⟨tcp, -, hjudged⟩ := Option.bind_eq_some_iff.mp hjudge
    refine did_aside (t := t) rfl (by rw [hwas]; exact id) id (fun token' guarded' heq => ?_)
      (.refl _) rfl ⟨rfl, rfl⟩ (.refl _)
    obtain ⟨-, rfl⟩ := Activity.judged.inj heq
    exact ⟨job, tcp, hjudged⟩

/-- What the first block of `move` does. -/
theorem move_cases (n : PortalNode F) (token : Nat) (guarded : Guarded F) (first second : Moment)
    (available sends : Bool) :
    n.move A token guarded first second available sends = (.refused, n) ∨
      (n.commandGate.valid token = true ∧ n.goalActive = false ∧
        ((∃ m, n.move A token guarded first second available sends = (.dropped, m) ∧
            m.goalActive = false ∧ (m.routeWaypoints = [] ∨
              m.routeWaypoints = n.routeWaypoints) ∧
            m.routeResumeTimer = n.routeResumeTimer) ∨
          (guarded.input.requireTerminalContact = true ∧
            n.move A token guarded first second available sends =
              (.contact, n.entered token guarded)) ∨
          (guarded.input.requireTerminalContact = false ∧ guarded.routeWaypoints ≠ [] ∧
            n.move A token guarded first second available sends =
              (.route, n.entered token guarded)))) := by
  unfold PortalNode.move
  dsimp only
  split
  · exact Or.inl rfl
  next hsome =>
  split
  · exact Or.inl rfl
  next hvalid =>
  split
  · exact Or.inl rfl
  split
  · exact Or.inl rfl
  next hidle =>
  refine Or.inr ⟨Bool.eq_true_of_not_eq_false hvalid, Bool.eq_false_of_not_eq_true hidle, ?_⟩
  have htimer : (n.entered token guarded).routeResumeTimer = n.routeResumeTimer := by
    unfold PortalNode.entered
    dsimp only
    split
    · rfl
    · rfl
  have hwaypoints : guarded.input.requireTerminalContact = true →
      (n.entered token guarded).routeWaypoints = n.routeWaypoints := by
    intro hcontact
    unfold PortalNode.entered
    dsimp only
    rw [if_pos hcontact]
  split
  · refine Or.inl ⟨_, rfl, rfl, ?_, htimer⟩
    show (if guarded.input.requireTerminalContact = true then
      (n.entered token guarded).routeWaypoints else []) = [] ∨
      (if guarded.input.requireTerminalContact = true then
      (n.entered token guarded).routeWaypoints else []) = n.routeWaypoints
    split
    · next hcontact => exact Or.inr (hwaypoints hcontact)
    · exact Or.inl rfl
  · split
    · next hcontact =>
      split
      · exact Or.inr (Or.inl ⟨hcontact, rfl⟩)
      · exact Or.inl ⟨_, rfl, rfl, Or.inr (hwaypoints hcontact), htimer⟩
    · next hcontact =>
      have hno := Bool.eq_false_of_not_eq_true hcontact
      exact Or.inr (Or.inr ⟨hno, fun hnil => hsome (Or.inl ⟨hno, hnil⟩), rfl⟩)

theorem moves_did {token : Nat} {guarded : Guarded F}
    (hwas : w.activity t = .judged token guarded) :
    Did A R stop w (w.moves A t turn token guarded) := by
  have hbefore : ¬ (w.activity t).Carries := by
    rw [hwas]
    exact id
  unfold World.moves
  obtain hrefused | ⟨hvalid, hidle, ⟨m, hdropped, hinactive, hwaypoints, htimer⟩ |
      ⟨hcontact, hmove⟩ | ⟨hordinary, hsome, hmove⟩⟩ :=
    move_cases (A := A) w.node token guarded turn.first turn.second turn.available turn.sends
  · rw [hrefused]
    exact did_aside rfl hbefore id (by simp) (.refl _) rfl ⟨rfl, rfl⟩ (.refl _)
  · rw [hdropped]
    refine .drops t hidle hinactive hwaypoints htimer (fun x hx => Function.update_of_ne hx _ _)
      hbefore ?_ (judged_become rfl (by simp)) ⟨rfl, rfl⟩ (.refl _)
    show ¬ (Function.update w.activity t (.releasing token) t).Carries
    rw [Function.update_self]
    exact id
  · rw [hmove]
    exact .contacts t token guarded hwas hidle hvalid hcontact rfl rfl rfl rfl rfl
  · rw [hmove]
    exact .enters t token guarded hwas hidle hvalid hordinary hsome rfl rfl ⟨rfl, rfl⟩ rfl

omit [Metric F] in
theorem legBlocked_false {n : PortalNode F} {stop : Bool} (h : n.legBlocked stop = false) :
    n.legBlocked false = false := by
  unfold PortalNode.legBlocked at h ⊢
  simp only [Bool.or_eq_false_iff, and_true] at h ⊢
  exact h.1

/-- A leg that gives the route up. -/
theorem leg_ends {token : Option Nat} {stage : Stage F} {node : PortalNode F}
    (hwas : w.activity t = .submitting token stage) (hinactive : node.goalActive = false)
    (hwaypoints : node.routeWaypoints = [])
    (htimer : node.routeResumeTimer = w.node.routeResumeTimer) :
    Did A R stop w { w.become t (World.afterLeg token) with node } := by
  have hcarries : (w.activity t).Carries := by
    rw [hwas]
    exact trivial
  have hquiet : ¬ (w.activity t).Ticks := by
    rw [hwas]
    exact id
  exact .ends (.thread t) ⟨hcarries,
    lets_go rfl rfl (Or.inl htimer) (Or.inl hquiet) (carries_afterLeg token),
    lets_go_positions rfl rfl (Or.inl htimer) (carries_afterLeg token), hinactive,
    Or.inl hwaypoints, judged_become rfl (afterLeg_unjudged token)⟩ (.refl _)

/-- A leg that is worked on. -/
theorem leg_thinks {token : Option Nat} {stage stage' : Stage F}
    (hwas : w.activity t = .submitting token stage) (hthought : Thinks A R stage stage')
    (hunchecked : World.checkedStage stage' = false) :
    Did A R stop w (w.progresses t token w.node (.next stage')) := by
  have hhistory : (w.progresses t token w.node (.next stage')).history = w.history := by
    show (if World.checkedStage stage' = true then w.checks else w.history) = w.history
    rw [hunchecked]
    rfl
  refine .thinks t token stage stage' hwas hthought rfl rfl ⟨rfl, rfl⟩ ?_
  rw [hhistory]
  exact .refl _

theorem reprove_unchecked (leg : Leg F) (endpoint : RoutePose F) :
    World.checkedStage (reprove A R leg endpoint) = false := by
  unfold PortalNode.reprove
  split
  · rfl
  · rfl

theorem submits_did {token : Option Nat} {stage : Stage F}
    (hwas : w.activity t = .submitting token stage) :
    Did A R stop w (w.submits A R t turn token stage) := by
  cases stage with
  | entering index =>
    -- the leg is read only where nothing blocks it and the route has it
    by_cases hopen : w.node.legBlocked turn.first.stop = false ∧
        index < w.node.routeWaypoints.length ∧ index < kMaximumDynamicRouteLegs
    · obtain ⟨leg, hleg, hposition, hendpoint, hlast, hretreat, hpreserved⟩ :
          ∃ leg, w.node.submitRouteLeg A R turn.first turn.sends (.entering index) =
              ({ w.node with routeIndex := index }, .next (.read leg)) ∧ leg.index = index ∧
            w.node.routeWaypoints[index]? = some leg.endpoint ∧
            w.node.routeWaypoints.getLast? = some leg.finalTarget ∧
            leg.terminalRetreat = w.node.routeTerminalRetreat ∧
            leg.preservedSide = w.node.routePreservedSide :=
        ⟨_, dif_pos hopen, rfl, List.getElem?_eq_getElem hopen.2.1,
          List.getLast?_eq_some_getLast _, rfl, rfl⟩
      unfold World.submits
      rw [hleg]
      refine .reads t token index leg hwas ?_ hposition hopen.2.2 hendpoint hlast hretreat
        hpreserved rfl rfl ⟨rfl, rfl⟩ (.refl _)
      have hblocked := hopen.1
      exact legBlocked_false hblocked
    · have hleg : w.node.submitRouteLeg A R turn.first turn.sends (.entering index) =
          (w.node.dropRoute, .returned) := dif_neg hopen
      unfold World.submits
      rw [hleg]
      exact leg_ends hwas rfl rfl rfl
  | read leg =>
    unfold World.submits PortalNode.submitRouteLeg
    dsimp only
    -- a replan needs fresh joints and is not made on a retreat
    by_cases hstale : freshAtUse leg.guarded.stateFreshness turn.first.timeNs turn.first.steadyNs
        kStateFreshnessNs = false
    · rw [if_pos hstale]
      exact leg_thinks hwas (.stale leg) rfl
    rw [if_neg hstale]
    by_cases hretreat : leg.terminalRetreat = true
    · rw [if_pos hretreat]
      exact leg_thinks hwas (.retreats leg hretreat) (reprove_unchecked leg _)
    rw [if_neg hretreat]
    by_cases hnone : (routeOrProject A R (replanInput leg.guarded.measuredQ leg.finalTarget
          leg.preservedSide)).accepted = false ∨
        (routeOrProject A R (replanInput leg.guarded.measuredQ leg.finalTarget
          leg.preservedSide)).waypointTcp = []
    · rw [if_pos hnone]
      exact leg_thinks hwas (.stale leg) rfl
    · rw [if_neg hnone]
      rw [not_or, Bool.not_eq_false] at hnone
      exact leg_thinks hwas (.replans leg (Bool.eq_false_of_not_eq_true hretreat) hnone.1 hnone.2)
        rfl
  | replanned leg waypoints =>
    unfold World.submits PortalNode.submitRouteLeg
    dsimp only
    split
    · exact leg_ends hwas rfl rfl rfl
    · next hopen =>
      simp only [not_or, Bool.not_eq_true, not_not, not_le] at hopen
      obtain ⟨hblocked, hposition, hinside, -⟩ := hopen
      have hhistory : (w.progresses t token { w.node with
          routeWaypoints := w.node.routeWaypoints.take leg.index ++ waypoints
          routeReplanCount := w.node.routeReplanCount + 1 }
          (.next (reprove A R leg (waypoints.headD leg.endpoint)))).history = w.history := by
        show (if World.checkedStage (reprove A R leg (waypoints.headD leg.endpoint)) = true then
          w.checks else w.history) = w.history
        rw [reprove_unchecked]
        rfl
      refine .replaces t token leg waypoints hwas ?_ hposition hinside rfl rfl ⟨rfl, rfl⟩ ?_
      · exact legBlocked_false hblocked
      · rw [hhistory]
        exact .refl _
  | proved leg endpoint =>
    unfold World.submits PortalNode.submitRouteLeg
    dsimp only
    split
    · exact leg_ends hwas rfl rfl rfl
    · next hopen =>
      simp only [not_or, Bool.not_eq_true, not_not, Bool.not_eq_false] at hopen
      obtain ⟨hblocked, hposition, hvalid⟩ := hopen
      -- the last check before the command is sent
      exact .checks t token leg endpoint turn.first hwas hblocked hposition hvalid rfl rfl
        ⟨rfl, rfl⟩ rfl
  | sending leg endpoint seen =>
    unfold World.submits PortalNode.submitRouteLeg
    dsimp only
    split
    · exact .sends t token leg endpoint seen hwas rfl rfl rfl rfl rfl
    · exact leg_thinks hwas (.throws leg endpoint seen) rfl
  | failing => exact leg_ends hwas rfl rfl rfl
  | thrown => exact leg_ends hwas rfl rfl rfl

/-- A thread that holds the route goes on with it. -/
theorem goes_on {a : Activity F} {node : PortalNode F} (hcarries : (w.activity t).Carries)
    (hroute : SameRoute w.node node) (htimer : node.routeResumeTimer = none)
    (hindex : ∀ i, a.index = some i → (w.activity t).index = some i)
    (hstage : ∀ token stage, a = .submitting token stage → ∃ index, stage = .entering index)
    (hjudged : ∀ token guarded, a ≠ .judged token guarded) (hafter : a.Carries)
    (hplace : ∀ i, a.index = some i → (w.activity t).Waits ∨
      (i = w.node.routeIndex ∧ i < w.node.routeWaypoints.length))
    (hticking : ∀ i, a ≠ .ticking i) :
    Did A R stop w { w.become t a with node } := by
  have hactivity : ({ w.become t a with node } : World F).activity =
      Function.update w.activity t a := rfl
  refine .passes (.thread t) (.thread t) hcarries (by simp) (fun x hx => ?_) (fun x i hx => ?_)
    (fun u token stage hu => ?_) hroute.goalActive hroute.cancelPending hroute.routeWaypoints
    hroute.routeTerminalRetreat hroute.routePreservedSide (fun _ => Or.inl rfl)
    (judged_become hactivity hjudged) (.refl _) (fun i hi => ?_) (fun u i hu hi => ?_)
    (Or.inl ⟨.thread t, ?_⟩)
  · rcases holds_become hactivity rfl (Or.inr htimer) (Or.inr htimer) x hx with ⟨rfl, -⟩ | hother
    · exact Or.inl rfl
    · exact Or.inr hother
  · rcases at_become hactivity rfl (Or.inr htimer) x i hx with
      ⟨-, hi⟩ | ⟨-, hother⟩
    · exact ⟨.thread t, hindex i hi⟩
    · exact ⟨x, hother⟩
  · by_cases hut : u = t
    · change Function.update w.activity t a u = _ at hu
      rw [hut, Function.update_self] at hu
      exact Or.inr (hstage token stage hu)
    · change Function.update w.activity t a u = _ at hu
      rw [Function.update_of_ne hut] at hu
      exact Or.inl hu
  · change (Function.update w.activity t a t).index = some i at hi
    rw [Function.update_self] at hi
    rcases hplace i hi with hwaits | hthere
    · exact Or.inr ⟨hroute.routeIndex, .thread t, hwaits, hindex i hi⟩
    · left
      show i = node.routeIndex ∧ i < node.routeWaypoints.length
      rw [hroute.routeIndex, hroute.routeWaypoints]
      exact hthere
  · obtain rfl := Holder.thread.inj hu
    change Function.update w.activity t a t = _ at hi
    rw [Function.update_self] at hi
    exact absurd hi (hticking i)
  · show (Function.update w.activity t a t).Carries
    rw [Function.update_self]
    exact hafter

/-- A thread leaves the route to the timer. -/
theorem to_timer {node : PortalNode F} (hcarries : (w.activity t).Carries)
    (hroute : SameRoute w.node node)
    (hwaits : (w.activity t).Waits)
    (htimer : ∀ i, node.routeResumeTimer = some i →
      (w.activity t).index = some i ∨ w.node.routeResumeTimer = some i)
    (htaken : node.routeResumeTimer.isSome = true ∨ ∃ u index, w.activity u = .ticking index ∧
      w.node.routeResumeTimer = none) :
    Did A R stop w { w.become t .idle with node } := by
  refine .passes (.thread t) .timer hcarries (by simp) (fun x hx => ?_) (fun x i hx => ?_)
    (fun u token stage hu => ?_) hroute.goalActive hroute.cancelPending hroute.routeWaypoints
    hroute.routeTerminalRetreat hroute.routePreservedSide (fun _ => Or.inl rfl)
    (judged_become rfl (by simp)) (.refl _) (fun i hi => ?_) (fun u i hu => by cases hu) ?_
  · cases x with
    | timer => exact Or.inl rfl
    | thread u =>
      change (Function.update w.activity t .idle u).Carries at hx
      by_cases hut : u = t
      · rw [hut, Function.update_self] at hx
        exact hx.elim
      · rw [Function.update_of_ne hut] at hx
        exact Or.inr ⟨fun heq => hut (Holder.thread.inj heq), hx⟩
    | goal goal => exact Or.inr ⟨by simp, hx⟩
  · cases x with
    | timer =>
      rcases htimer i hx with hthread | hbefore
      · exact ⟨.thread t, hthread⟩
      · exact ⟨.timer, hbefore⟩
    | thread u =>
      change (Function.update w.activity t .idle u).index = some i at hx
      by_cases hut : u = t
      · rw [hut, Function.update_self] at hx
        cases hx
      · rw [Function.update_of_ne hut] at hx
        exact ⟨.thread u, hx⟩
    | goal goal => exact ⟨.goal goal, hx⟩
  · change Function.update w.activity t .idle u = _ at hu
    rcases update_cases hu with ⟨-, hu⟩ | ⟨-, hu⟩
    · cases hu
    · exact Or.inl hu
  · rcases htimer i hi with hthread | hbefore
    · exact Or.inr ⟨hroute.routeIndex, .thread t, hwaits, hthread⟩
    · exact Or.inr ⟨hroute.routeIndex, .timer, trivial, hbefore⟩
  · refine htaken.imp_left fun hsome => ?_
    -- the executor is idle now, or the thread was another one
    by_cases hticks : (Function.update w.activity t .idle Thread.executor).Ticks
    · exact ⟨.thread .executor, carries_of_ticks hticks⟩
    · exact ⟨.timer, hsome, hticks⟩

theorem schedules_did {index : Nat} (hwas : w.activity t = .scheduling index) :
    Did A R stop w (w.schedules t turn index) := by
  have hcarries : (w.activity t).Carries := by
    rw [hwas]
    exact trivial
  have hquiet : ¬ (w.activity t).Ticks := by
    rw [hwas]
    exact id
  unfold World.schedules PortalNode.scheduleRouteLeg
  by_cases hblocked : w.node.legBlocked turn.first.stop = true ∨
      w.node.routeWaypoints.length ≤ index
  · rw [if_pos hblocked]
    exact .ends (.thread t) ⟨hcarries, lets_go rfl rfl (Or.inl rfl) (Or.inl hquiet) id,
      lets_go_positions rfl rfl (Or.inl rfl) id, rfl, Or.inl rfl, judged_become rfl (by simp)⟩ (.refl _)
  · rw [if_neg hblocked]
    refine goes_on (a := .arming index) hcarries ⟨rfl, rfl, rfl, rfl, rfl, rfl, rfl, rfl, id⟩ rfl
      (fun i hi => ?_) (fun token stage hno => by cases hno) (by simp) trivial
      (fun i _ => Or.inl (by rw [hwas]; exact trivial)) (by simp)
    rw [hwas]
    exact hi

theorem arms_did {index : Nat} (hwas : w.activity t = .arming index) :
    Did A R turn.first.stop w (w.arms t turn index) := by
  have hcarries : (w.activity t).Carries := by
    rw [hwas]
    exact trivial
  have hwaits : (w.activity t).Waits := by
    rw [hwas]
    exact trivial
  have hquiet : ¬ (w.activity t).Ticks := by
    rw [hwas]
    exact id
  unfold World.arms PortalNode.keepTimer
  by_cases hblocked : w.node.legBlocked turn.first.stop = true ∨
      w.node.routeWaypoints.length ≤ index ∨ index ≠ w.node.routeIndex
  · rw [if_pos hblocked]
    exact .stalls (.thread t) hcarries (lets_go rfl rfl (Or.inl rfl) (Or.inl hquiet) id)
      (lets_go_positions rfl rfl (Or.inl rfl) id)
      ⟨index, hwaits, congrArg Activity.index hwas, hblocked⟩ (.refl _)
      (judged_become rfl (by simp)) ⟨rfl, rfl⟩ (.refl _)
  · rw [if_neg hblocked]
    refine to_timer hcarries ⟨rfl, rfl, rfl, rfl, rfl, rfl, rfl, rfl, id⟩ hwaits
      (fun i hi => Or.inl ?_) (Or.inl rfl)
    rw [hwas]
    exact hi

theorem ticks_did {index : Nat} (hwas : w.activity t = .ticking index) :
    Did A R turn.first.stop w (w.ticks t turn index) := by
  have hcarries : (w.activity t).Carries := by
    rw [hwas]
    exact trivial
  have hwaits : (w.activity t).Waits := by
    rw [hwas]
    exact trivial
  unfold World.ticks PortalNode.resume
  by_cases hblocked : w.node.legBlocked turn.first.stop = true ∨
      w.node.routeWaypoints.length ≤ index ∨ index ≠ w.node.routeIndex
  · rw [if_pos hblocked]
    exact .stalls (.thread t) hcarries (lets_go rfl rfl (Or.inr rfl) (Or.inr rfl) id)
      (lets_go_positions rfl rfl (Or.inr rfl) id)
      ⟨index, hwaits, congrArg Activity.index hwas, hblocked⟩
      ⟨rfl, rfl, rfl, rfl, rfl, rfl, rfl, rfl, id⟩ (judged_become rfl (by simp)) ⟨rfl, rfl⟩ (.refl _)
  rw [if_neg hblocked]
  by_cases hready : w.node.stateFresh turn.first = true ∧ w.node.diagnosticFresh turn.first = true
  · rw [if_pos hready]
    refine goes_on (a := .submitting none (.entering index)) hcarries
      ⟨rfl, rfl, rfl, rfl, rfl, rfl, rfl, rfl, id⟩ rfl (fun i hi => ?_)
        (fun token stage hstage => ?_)
      (by simp) trivial (fun i _ => Or.inl hwaits) (by simp)
    · rw [hwas]
      exact hi
    · obtain ⟨-, rfl⟩ := Activity.submitting.inj hstage
      exact ⟨index, rfl⟩
  rw [if_neg hready]
  by_cases hlate : w.node.routeResumeDeadlineSteadyNs ≤ turn.first.steadyNs
  · rw [if_pos hlate]
    exact .ends (.thread t) ⟨hcarries, lets_go rfl rfl (Or.inr rfl) (Or.inr rfl) id,
      lets_go_positions rfl rfl (Or.inr rfl) id, rfl, Or.inl rfl, judged_become rfl (by simp)⟩ (.refl _)
  · rw [if_neg hlate]
    refine to_timer hcarries (.refl _) hwaits (fun i hi => Or.inr hi) ?_
    cases hset : w.node.routeResumeTimer with
    | none => exact Or.inr ⟨t, index, hwas, rfl⟩
    | some i => exact Or.inl rfl

theorem advance_did (h : w.advance A R realMode t turn = some w') :
    Did A R turn.first.stop w w' := by
  unfold World.advance at h
  split at h
  · cases h
  · next job hwas =>
    obtain rfl := Option.some.inj h
    exact beginsGuard_did hwas
  · next token job hwas =>
    obtain rfl := Option.some.inj h
    exact judges_did hwas
  · next token guarded hwas =>
    obtain rfl := Option.some.inj h
    exact moves_did hwas
  · next token hwas =>
    obtain rfl := Option.some.inj h
    exact did_aside (t := t) (a := .idle) rfl (by rw [hwas]; exact id) id (by simp)
      ⟨rfl, rfl, rfl, rfl, rfl, rfl, rfl, rfl, id⟩ rfl ⟨rfl, rfl⟩ (.refl _)
  · next token stage hwas =>
    obtain rfl := Option.some.inj h
    exact submits_did hwas
  · next index hwas =>
    obtain rfl := Option.some.inj h
    exact schedules_did hwas
  · next index hwas =>
    obtain rfl := Option.some.inj h
    exact arms_did hwas
  · next index hwas =>
    obtain rfl := Option.some.inj h
    exact ticks_did hwas

end Blocks

/-! ## §6. What reaches the node from outside. -/

section Outside

variable {A : GuardModel F} {R : ArmModel F} {realMode stop : Bool} {w w' : World F}

omit [Metric F] in
theorem executorIdle_eq (h : w.ExecutorIdle) : w.activity .executor = .idle := by
  unfold World.ExecutorIdle at h
  split at h
  · next hidle => exact hidle
  · exact h.elim

theorem fires_did {index : Nat} (hidle : w.activity .executor = .idle)
    (htimer : w.node.routeResumeTimer = some index) :
    Did A R stop w (w.become .executor (.ticking index)) := by
  have hholds : w.Holds .timer := by
    refine ⟨by rw [htimer]; rfl, ?_⟩
    rw [hidle]
    exact id
  have hticking : Function.update w.activity .executor (.ticking index) .executor =
      .ticking index := Function.update_self _ _ _
  refine .passes .timer (.thread .executor) hholds (by simp) (fun x hx => ?_) (fun x i hx => ?_)
    (fun u token stage hu => ?_) rfl rfl rfl rfl rfl (fun _ => Or.inl rfl)
    (judged_become rfl (by simp)) (.refl _) (fun i hi => ?_) (fun u i hu hi => ?_)
    (Or.inl ⟨.thread .executor, ?_⟩)
  · cases x with
    | timer => exact absurd trivial hx.2
    | thread u =>
      change (Function.update w.activity .executor (.ticking index) u).Carries at hx
      by_cases hu : u = .executor
      · exact Or.inl (congrArg Holder.thread hu)
      · rw [Function.update_of_ne hu] at hx
        exact Or.inr ⟨by simp, hx⟩
    | goal goal => exact Or.inr ⟨by simp, hx⟩
  · cases x with
    | timer => exact ⟨.timer, hx⟩
    | thread u =>
      change (Function.update w.activity .executor (.ticking index) u).index = some i at hx
      by_cases hu : u = .executor
      · rw [hu, Function.update_self] at hx
        exact ⟨.timer, htimer.trans hx⟩
      · rw [Function.update_of_ne hu] at hx
        exact ⟨.thread u, hx⟩
    | goal goal => exact ⟨.goal goal, hx⟩
  · change Function.update w.activity .executor (.ticking index) u = _ at hu
    rcases update_cases hu with ⟨-, hu⟩ | ⟨-, hu⟩
    · cases hu
    · exact Or.inl hu
  · change (Function.update w.activity .executor (.ticking index) .executor).index = some i at hi
    rw [hticking] at hi
    exact Or.inr ⟨rfl, .timer, trivial, htimer.trans hi⟩
  · obtain rfl := Holder.thread.inj hu
    change Function.update w.activity .executor (.ticking index) .executor = _ at hi
    rw [hticking] at hi
    obtain rfl := Activity.ticking.inj hi
    exact htimer
  · show (Function.update w.activity .executor (.ticking index) .executor).Carries
    rw [hticking]
    exact trivial

omit [Metric F] in
/-- A goal that is no longer outstanding. -/
theorem goal_gone {goal : Nat} (hfound : (w.goals goal).isSome = true)
    (hactivity : w'.activity = w.activity)
    (hgoals : w'.goals = Function.update w.goals goal none)
    (htimer : w'.node.routeResumeTimer = w.node.routeResumeTimer)
    (hinactive : w'.node.goalActive = false)
    (hwaypoints : w'.node.routeWaypoints = [] ∨
      (w'.node.routeWaypoints = w.node.routeWaypoints ∧ ∃ sent, w.goals goal = some sent ∧
        sent.leg = none)) : Ends w w' (.goal goal) := by
  refine ⟨hfound, fun x hx => ?_, fun x i hx => ?_, hinactive, ?_, judged_same hactivity⟩
  · cases x with
    | thread u =>
      change (w'.activity u).Carries at hx
      rw [hactivity] at hx
      exact ⟨by simp, hx⟩
    | timer =>
      refine ⟨by simp, ?_⟩
      obtain ⟨hsome, hquiet⟩ := hx
      rw [htimer] at hsome
      rw [hactivity] at hquiet
      exact ⟨hsome, hquiet⟩
    | goal other =>
      change (w'.goals other).isSome = true at hx
      rw [hgoals] at hx
      by_cases hsame : other = goal
      · rw [hsame, Function.update_self] at hx
        cases hx
      · rw [Function.update_of_ne hsame] at hx
        exact ⟨fun heq => hsame (Holder.goal.inj heq), hx⟩
  · cases x with
    | thread u =>
      change (w'.activity u).index = some i at hx
      rw [hactivity] at hx
      exact hx
    | timer =>
      change w'.node.routeResumeTimer = some i at hx
      rw [htimer] at hx
      exact hx
    | goal other =>
      obtain ⟨sent, leg, hsent, hleg⟩ := hx
      rw [hgoals] at hsent
      rcases update_cases hsent with ⟨-, hsent⟩ | ⟨-, hsent⟩
      · cases hsent
      · exact ⟨sent, leg, hsent, hleg⟩
  · exact hwaypoints.imp id fun ⟨hsame, sent, hsent, hleg⟩ =>
      ⟨hsame, goal, sent, rfl, hsent, hleg⟩

theorem responds_did {goal : Nat} {accepted : Bool} (h : w.responds goal accepted = some w') :
    Did A R stop w w' := by
  unfold World.responds at h
  obtain ⟨sent, hsent, hrest⟩ := Option.bind_eq_some_iff.mp h
  split at hrest
  · cases hrest
  next hpending =>
  have hfound : (w.goals goal).isSome = true := by rw [hsent]; rfl
  have hno := Bool.eq_false_of_not_eq_true hpending
  by_cases haccepted : accepted = true
  · subst haccepted
    by_cases hleg : sent.leg.isSome = true
    · rw [if_pos hleg] at hrest
      obtain rfl := Option.some.inj hrest
      refine .accepts goal sent hsent hno ?_ rfl rfl rfl ?_
      · rw [if_pos hleg, if_pos hleg]
      · show { w.history with asked := w.history.asked ++
          if (w.node.cancelPending || w.node.routeWaypoints.isEmpty) = true then [goal] else [] } =
            _
        simp only [hleg, true_and, Bool.or_eq_true, List.isEmpty_iff]
    · rw [if_neg hleg] at hrest
      obtain rfl := Option.some.inj hrest
      refine .accepts goal sent hsent hno ?_ rfl rfl rfl ?_
      · rw [if_neg hleg, if_neg hleg]
      · show { w.history with asked := w.history.asked ++
          if w.node.cancelPending = true then [goal] else [] } = _
        simp only [hleg, false_and, or_false, Bool.false_eq_true]
  · have hrejected := Bool.eq_false_of_not_eq_true haccepted
    subst hrejected
    by_cases hleg : sent.leg.isSome = true
    · rw [if_pos hleg] at hrest
      obtain rfl := Option.some.inj hrest
      exact .ends (.goal goal) (goal_gone hfound rfl rfl rfl rfl (Or.inl rfl))
        ⟨rfl, rfl, rfl, rfl, rfl, rfl, rfl, rfl, rfl, rfl, List.append_nil _, rfl⟩
    · rw [if_neg hleg] at hrest
      obtain rfl := Option.some.inj hrest
      exact .ends (.goal goal) (goal_gone hfound rfl rfl rfl rfl
          (Or.inr ⟨rfl, sent, hsent, Option.not_isSome_iff_eq_none.mp hleg⟩))
        ⟨rfl, rfl, rfl, rfl, rfl, rfl, rfl, rfl, rfl, rfl, List.append_nil _, rfl⟩

theorem concludes_did {goal : Nat} {completed : Bool} (hidle : w.activity .executor = .idle)
    (h : w.concludes goal completed = some w') : Did A R stop w w' := by
  unfold World.concludes at h
  obtain ⟨sent, hsent, hrest⟩ := Option.bind_eq_some_iff.mp h
  have hfound : (w.goals goal).isSome = true := by rw [hsent]; rfl
  split at hrest
  · cases hrest
  dsimp only at hrest
  split at hrest
  · next hleg =>
    obtain rfl := Option.some.inj hrest
    exact .ends (.goal goal) (goal_gone hfound rfl rfl rfl rfl
      (Or.inr ⟨rfl, sent, hsent, hleg⟩)) (.refl _)
  next index endpoint hleg =>
  unfold PortalNode.legResult at hrest
  dsimp only at hrest
  -- a result that is no success, or comes late, ends the route
  by_cases hstopped : completed = false ∨ w.node.cancelPending = true ∨ w.node.stopping = true ∨
      w.node.routeWaypoints = [] ∨ index ≠ w.node.routeIndex
  · rw [if_pos hstopped] at hrest
    obtain rfl := Option.some.inj hrest
    exact .ends (.goal goal) (goal_gone hfound rfl rfl rfl rfl (Or.inl rfl)) (.refl _)
  rw [if_neg hstopped] at hrest
  -- the executor thread takes over from the goal
  by_cases hmore : index + 1 < w.node.routeWaypoints.length
  · rw [if_pos hmore] at hrest
    obtain rfl := Option.some.inj hrest
    have hscheduling : Function.update w.activity .executor (.scheduling (index + 1)) .executor =
        .scheduling (index + 1) := Function.update_self _ _ _
    refine .passes (.goal goal) (.thread .executor) hfound (by simp) (fun x hx => ?_)
      (fun x i hx => ?_) (fun u token stage hu => ?_) rfl rfl rfl rfl rfl (fun other => ?_)
      (judged_become rfl (by simp)) (.refl _) (fun i hi => ?_) (fun u i hu hi => ?_)
      (Or.inl ⟨.thread .executor, ?_⟩)
    · cases x with
      | thread u =>
        change (Function.update w.activity .executor (.scheduling (index + 1)) u).Carries at hx
        by_cases hu : u = .executor
        · exact Or.inl (congrArg Holder.thread hu)
        · rw [Function.update_of_ne hu] at hx
          exact Or.inr ⟨by simp, hx⟩
      | timer =>
        refine Or.inr ⟨by simp, hx.1, ?_⟩
        rw [hidle]
        exact id
      | goal other =>
        change (Function.update w.goals goal none other).isSome = true at hx
        by_cases hsame : other = goal
        · rw [hsame, Function.update_self] at hx
          cases hx
        · rw [Function.update_of_ne hsame] at hx
          exact Or.inr ⟨fun heq => hsame (Holder.goal.inj heq), hx⟩
    · cases x with
      | thread u =>
        change (Function.update w.activity .executor (.scheduling (index + 1)) u).index =
          some i at hx
        by_cases hu : u = .executor
        · rw [hu, Function.update_self] at hx
          exact ⟨.goal goal, sent, (index, endpoint), hsent, hleg, (Option.some.inj hx).symm⟩
        · rw [Function.update_of_ne hu] at hx
          exact ⟨.thread u, hx⟩
      | timer => exact ⟨.timer, hx⟩
      | goal other =>
        obtain ⟨found, leg, hother, hrest⟩ := hx
        change Function.update w.goals goal none other = some found at hother
        rcases update_cases hother with ⟨-, hother⟩ | ⟨-, hother⟩
        · cases hother
        · exact ⟨.goal other, found, leg, hother, hrest⟩
    · change Function.update w.activity .executor (.scheduling (index + 1)) u = _ at hu
      rcases update_cases hu with ⟨-, hu⟩ | ⟨-, hu⟩
      · cases hu
      · exact Or.inl hu
    · show Function.update w.goals goal none other = _ ∨ Function.update w.goals goal none other = _
      by_cases hsame : other = goal
      · rw [hsame, Function.update_self]
        exact Or.inr rfl
      · rw [Function.update_of_ne hsame]
        exact Or.inl rfl
    · change (Function.update w.activity .executor (.scheduling (index + 1)) .executor).index =
        some i at hi
      rw [hscheduling] at hi
      obtain rfl := Option.some.inj hi
      exact Or.inl ⟨rfl, hmore⟩
    · obtain rfl := Holder.thread.inj hu
      change Function.update w.activity .executor (.scheduling (index + 1)) .executor = _ at hi
      rw [hscheduling] at hi
      cases hi
    · show (Function.update w.activity .executor (.scheduling (index + 1)) .executor).Carries
      rw [hscheduling]
      exact trivial
  · rw [if_neg hmore] at hrest
    obtain rfl := Option.some.inj hrest
    simp only [not_or] at hstopped
    -- the last leg has been driven
    exact .completes goal index endpoint
      (goal_gone hfound rfl rfl rfl rfl (Or.inl rfl)) ⟨sent, hsent, hleg⟩ hstopped.2.2.2.1
      (by omega) rfl

/-- **What a step does.** -/
theorem next_did {e : Event F} (h : w.next A R realMode e = some w') :
    Did A R e.stopRequested w w' := by
  cases e with
  | request worker job =>
    unfold World.next at h
    dsimp only at h
    split at h
    · next hidle =>
      split at h
      · cases h
      · obtain rfl := Option.some.inj h
        exact did_aside (t := .worker worker) (a := .admitted job) rfl (by rw [hidle]; exact id) id
          (by simp) (.refl _) rfl ⟨rfl, rfl⟩ ⟨rfl, rfl, rfl, rfl, rfl, rfl, rfl, rfl, rfl, rfl, rfl, rfl⟩
    · cases h
  | advance t turn => exact advance_did h
  | cancel =>
    obtain rfl := Option.some.inj h
    exact .halts rfl rfl ⟨rfl, rfl⟩ rfl
  | beginShutdown =>
    obtain rfl := Option.some.inj h
    exact .aside ⟨rfl, rfl, rfl, rfl, rfl, rfl, rfl, rfl, fun _ => rfl⟩ rfl (fun _ => Or.inl rfl)
      (fun _ _ _ h => Or.inl h) ⟨rfl, rfl⟩ (.refl _)
  | engageEstop =>
    obtain rfl := Option.some.inj h
    exact .aside (.refl _) rfl (fun _ => Or.inl rfl) (fun _ _ _ h => Or.inl h) ⟨rfl, rfl⟩
      ⟨rfl, rfl, rfl, rfl, rfl, rfl, rfl, rfl, rfl, rfl, rfl, rfl⟩
  | releaseEstop =>
    obtain rfl := Option.some.inj h
    exact .aside (.refl _) rfl (fun _ => Or.inl rfl) (fun _ _ _ h => Or.inl h) ⟨rfl, rfl⟩ (.refl _)
  | jointState moment producerTimeNs q =>
    obtain ⟨-, hrest⟩ := Option.ite_none_right_eq_some.mp h
    obtain rfl := Option.some.inj hrest
    have hnode : ∃ evidence, w.node.updateState moment producerTimeNs q =
        { w.node with evidence := evidence } := by
      unfold PortalNode.updateState
      dsimp only
      split
      · exact ⟨_, rfl⟩
      · exact ⟨_, rfl⟩
    obtain ⟨evidence, hevidence⟩ := hnode
    rw [hevidence]
    exact .aside ⟨rfl, rfl, rfl, rfl, rfl, rfl, rfl, rfl, id⟩ rfl (fun _ => Or.inl rfl)
      (fun _ _ _ h => Or.inl h) ⟨rfl, rfl⟩ (.refl _)
  | diagnostics moment producerTimeNs statuses =>
    obtain ⟨-, hrest⟩ := Option.ite_none_right_eq_some.mp h
    obtain rfl := Option.some.inj hrest
    have hnode : ∃ evidence, w.node.updateDiagnostics realMode moment producerTimeNs statuses =
        { w.node with evidence := evidence } := by
      unfold PortalNode.updateDiagnostics
      dsimp only
      split
      · exact ⟨_, rfl⟩
      · exact ⟨_, rfl⟩
    obtain ⟨evidence, hevidence⟩ := hnode
    rw [hevidence]
    exact .aside ⟨rfl, rfl, rfl, rfl, rfl, rfl, rfl, rfl, id⟩ rfl (fun _ => Or.inl rfl)
      (fun _ _ _ h => Or.inl h) ⟨rfl, rfl⟩ (.refl _)
  | fire =>
    obtain ⟨hidle, hrest⟩ := Option.ite_none_right_eq_some.mp h
    obtain ⟨index, htimer, rfl⟩ := Option.map_eq_some_iff.mp hrest
    exact fires_did (executorIdle_eq hidle) htimer
  | response goal accepted =>
    obtain ⟨-, hrest⟩ := Option.ite_none_right_eq_some.mp h
    exact responds_did hrest
  | result goal completed =>
    obtain ⟨hidle, hrest⟩ := Option.ite_none_right_eq_some.mp h
    exact concludes_did (executorIdle_eq hidle) hrest

end Outside

end OpenArm.Node
