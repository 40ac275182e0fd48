/-
  OpenArm.Node.Legs — every leg is proved, and the route keeps its destination.

  Each leg replaces the rest of a list of waypoints that other threads can
  clear, by what was computed outside the mutex from newer joints.

  Main results:
    * `legs_proved`      — every leg that was sent was proved from the joints of
                           its last check, and no command sends more than 64.
    * `destination_kept` — through any number of replans the route ends where
                           the guard said, for the arms that move, and a route
                           is reported completed only there.
-/
import OpenArm.Node.Stop

namespace OpenArm.Node

open OpenArm.Lib OpenArm.Control OpenArm.Model OpenArm.Guard PortalNode

variable {F : Type} [Metric F] [InfinityOrder F] {A : GuardModel F} {R : ArmModel F}
  {realMode stop : Bool} {w w' : World F}

/-! ## §1. Accepted requests. -/

/-- Two targets agree for the arms that move. -/
def Agrees (preserved : Int) (point target : RoutePose F) : Prop :=
  ∀ side : Side, (side.val : Int) ≠ preserved → point side = target side

/-- A list of waypoints ends at a target, as far as the arms that move go. -/
def EndsAt (waypoints : List (RoutePose F)) (preserved : Int) (target : RoutePose F) : Prop :=
  ∀ last, waypoints.getLast? = some last → Agrees preserved last target

/-- The routes that were judged end where the guard said. -/
def Judged (w : World F) : Prop := ∀ t token guarded,
  w.activity t = .judged token guarded → guarded.input.requireTerminalContact = false →
    EndsAt guarded.routeWaypoints (commandedSide guarded.request) guarded.guard.commandedTcp

omit [InfinityOrder F] in
theorem judge_ends {n : PortalNode F} {job : Job F} {tcp : RoutePose F} {guarded : Guarded F}
    (h : n.judge A R job tcp = some guarded)
    (hordinary : guarded.input.requireTerminalContact = false) :
    EndsAt guarded.routeWaypoints (commandedSide guarded.request) guarded.guard.commandedTcp := by
  unfold PortalNode.judge at h
  split at h
  · -- a convergence requires contact
    dsimp only at h
    split at h
    · next haccepted =>
      obtain rfl := Option.some.inj h
      intro last hlast
      cases hlast
    · cases h
  · split at h
    · dsimp only at h
      split at h
      · obtain rfl := Option.some.inj h
        intro last hlast
        obtain rfl := Option.some.inj hlast
        exact fun _ _ => rfl
      · cases h
    · dsimp only at h
      split at h
      · next haccepted =>
        obtain rfl := Option.some.inj h
        rw [route_final] at haccepted
        obtain ⟨last, hlast, hends⟩ := route_last haccepted
        intro other hother side hside
        obtain rfl := Option.some.inj (hlast.symm.trans hother)
        refine hends side ?_
        rw [guardInput_preserved]
        exact hside
      · cases h

omit [InfinityOrder F] in
theorem judged_step (h : Judged w) (hd : Did A R stop w w') : Judged w' := by
  intro t token guarded ht hordinary
  have hkept : StillJudged w w' → EndsAt guarded.routeWaypoints (commandedSide guarded.request)
      guarded.guard.commandedTcp := fun hstill =>
        h t token guarded (hstill t token guarded ht) hordinary
  cases hd with
  | aside route timer threads judged goals history =>
    rcases judged t token guarded ht with hbefore | ⟨job, tcp, hjudge⟩
    · exact h t token guarded hbefore hordinary
    · exact judge_ends hjudge hordinary
  | halts node activity goals history => exact hkept (judged_same activity)
  | drops t free inactive waypoints timer only before after judged goals history =>
    exact hkept judged
  | enters t token guarded judged free valid ordinary some node activity goals history =>
    exact hkept (judged_become activity (by simp))
  | contacts t token guarded judged free valid contact node activity goals nextGoal history =>
    exact hkept (judged_become activity (by simp))
  | reads t token index leg entering unblocked position bound endpoint last retreat preserved node
      activity goals history => exact hkept (judged_become activity (by simp))
  | thinks t token stage stage' was thought node activity goals history =>
    exact hkept (judged_become activity (by simp))
  | replaces t token leg waypoints was unblocked position inside node activity goals history =>
    exact hkept (judged_become activity (by simp))
  | checks t token leg endpoint moment was unblocked position valid node activity goals history =>
    exact hkept (judged_become activity (by simp))
  | sends t token leg endpoint seen was node activity goals nextGoal history =>
    exact hkept (judged_become activity (afterLeg_unjudged token))
  | passes old new held onward rest positions stages goalActive cancelPending waypoints retreat
      preserved goals judged history => exact hkept judged
  | stalls x held rest positions why route judged goals history => exact hkept judged
  | accepts goal sent found pending node activity goals nextGoal history =>
    exact hkept (judged_same activity)
  | ends x hends history => exact hkept hends.judged
  | completes goal index endpoint hends found some last history => exact hkept hends.judged

/-! ## §2. The stages of a leg. -/

/-- What a leg has read. -/
structure LegRead (n : PortalNode F) (target : RoutePose F) (leg : Leg F) : Prop where
  bound : leg.index < kMaximumDynamicRouteLegs
  retreat : leg.terminalRetreat = n.routeTerminalRetreat
  preserved : leg.preservedSide = n.routePreservedSide
  target : Agrees leg.preservedSide leg.finalTarget target

/-- The endpoint of a leg is that of the route, while there is one. -/
def OnRoute (n : PortalNode F) (index : Nat) (endpoint : RoutePose F) : Prop :=
  n.routeWaypoints ≠ [] → n.routeWaypoints[index]? = some endpoint

/-- The proof of a leg was accepted. -/
def Reproved (A : GuardModel F) (R : ArmModel F) (leg : Leg F) (endpoint : RoutePose F) : Prop :=
  (revalidateDirectLeg A R leg.guarded.measuredQ endpoint leg.terminalRetreat
    leg.preservedSide).accepted = true

/-- The handoff of a leg was accepted. -/
def Handed (A : GuardModel F) (leg : Leg F) (seen : Handoff F) : Prop :=
  guardHandoffFailure A leg.guarded seen.evidence seen.moment.timeNs seen.moment.steadyNs
    kStateFreshnessNs kDiagnosticFreshnessNs = none

/-- What is known of a leg at each stage. -/
def StageOk (A : GuardModel F) (R : ArmModel F) (n : PortalNode F) (target : RoutePose F) :
    Stage F → Prop
  | .read leg => LegRead n target leg ∧ OnRoute n leg.index leg.endpoint
  | .replanned leg waypoints => LegRead n target leg ∧ waypoints ≠ [] ∧
      EndsAt waypoints leg.preservedSide target
  | .proved leg endpoint =>
      LegRead n target leg ∧ OnRoute n leg.index endpoint ∧ Reproved A R leg endpoint
  | .sending leg endpoint seen =>
      LegRead n target leg ∧ OnRoute n leg.index endpoint ∧ Reproved A R leg endpoint ∧
        Handed A leg seen
  | _ => True

omit [InfinityOrder F] in
theorem reprove_ok {n : PortalNode F} {target : RoutePose F} {leg : Leg F}
    {endpoint : RoutePose F} (hread : LegRead n target leg)
    (hroute : OnRoute n leg.index endpoint) : StageOk A R n target (reprove A R leg endpoint) := by
  unfold PortalNode.reprove
  split
  · next haccepted => exact ⟨hread, hroute, haccepted⟩
  · exact trivial

omit [InfinityOrder F] in
/-- A stage stays what it is while the route does, or after it was cleared. -/
theorem StageOk.mono {n n' : PortalNode F} {target : RoutePose F} {stage : Stage F}
    (h : StageOk A R n target stage)
    (hwaypoints : n'.routeWaypoints = n.routeWaypoints ∨ n'.routeWaypoints = [])
    (hretreat : n'.routeTerminalRetreat = n.routeTerminalRetreat)
    (hpreserved : n'.routePreservedSide = n.routePreservedSide) : StageOk A R n' target stage := by
  have hread : ∀ leg, LegRead n target leg → LegRead n' target leg := fun leg hleg =>
    ⟨hleg.bound, hleg.retreat.trans hretreat.symm, hleg.preserved.trans hpreserved.symm, hleg.target⟩
  have hroute : ∀ index endpoint, OnRoute n index endpoint → OnRoute n' index endpoint := by
    intro index endpoint hon hsome
    rcases hwaypoints with hsame | hnone
    · rw [hsame] at hsome ⊢
      exact hon hsome
    · exact absurd hnone hsome
  cases stage with
  | entering index => exact trivial
  | read leg => exact ⟨hread leg h.1, hroute _ _ h.2⟩
  | replanned leg waypoints => exact ⟨hread leg h.1, h.2⟩
  | proved leg endpoint => exact ⟨hread leg h.1, hroute _ _ h.2.1, h.2.2⟩
  | sending leg endpoint seen => exact ⟨hread leg h.1, hroute _ _ h.2.1, h.2.2⟩
  | failing => exact trivial
  | thrown => exact trivial

/-- **A route with its destination.** -/
structure Aimed (A : GuardModel F) (R : ArmModel F) (w : World F) : Prop where
  destination : EndsAt w.node.routeWaypoints w.node.routePreservedSide w.history.target
  stage : ∀ t token stage, w.activity t = .submitting token stage →
    StageOk A R w.node w.history.target stage
  goal : ∀ goal sent leg, w.goals goal = some sent → sent.leg = some leg →
    OnRoute w.node leg.1 leg.2
  legs : ∀ sent ∈ w.history.legs, sent.leg.index < kMaximumDynamicRouteLegs ∧
    Reproved A R sent.leg sent.endpoint ∧ Handed A sent.leg sent.seen
  completed : ∀ done ∈ w.history.completed, Agrees done.preservedSide done.endpoint done.target

omit [Metric F] [InfinityOrder F] in
/-- Without a route there is nothing to be known of it. -/
theorem endsAt_nil (preserved : Int) (target : RoutePose F) : EndsAt [] preserved target :=
  fun _ hlast => by cases hlast

section

omit [InfinityOrder F]

/-- Where nobody works on a leg and no goal is outstanding. -/
theorem Aimed.free (h : Aimed A R w) (hnobody : ∀ x, ¬ w'.Holds x)
    (hdestination : EndsAt w'.node.routeWaypoints w'.node.routePreservedSide w'.history.target)
    (hlegs : w'.history.legs = w.history.legs)
    (hcompleted : w'.history.completed = w.history.completed) : Aimed A R w' := by
  refine ⟨hdestination, fun t token stage ht => absurd (holds_submitting ht) (hnobody _),
    fun goal sent leg hgoal => (no_goal hnobody hgoal).elim, ?_, ?_⟩
  · rw [hlegs]
    exact h.legs
  · rw [hcompleted]
    exact h.completed

/-- A step of another thread, or one that clears the route. -/
theorem Aimed.same (h : Aimed A R w)
    (hwaypoints : w'.node.routeWaypoints = w.node.routeWaypoints ∨ w'.node.routeWaypoints = [])
    (hretreat : w'.node.routeTerminalRetreat = w.node.routeTerminalRetreat)
    (hpreserved : w'.node.routePreservedSide = w.node.routePreservedSide)
    (hstages : ∀ t token stage, w'.activity t = .submitting token stage →
      w.activity t = .submitting token stage ∨ StageOk A R w.node w.history.target stage)
    (hgoals : ∀ goal sent leg, w'.goals goal = some sent → sent.leg = some leg →
      OnRoute w.node leg.1 leg.2)
    (htarget : w'.history.target = w.history.target) (hlegs : w'.history.legs = w.history.legs)
    (hcompleted : w'.history.completed = w.history.completed) : Aimed A R w' := by
  refine ⟨?_, fun t token stage ht => ?_, fun goal sent leg hgoal hleg hsome => ?_, ?_, ?_⟩
  · rcases hwaypoints with hsame | hnone
    · rw [hsame, hpreserved, htarget]
      exact h.destination
    · rw [hnone]
      exact endsAt_nil _ _
  · rw [htarget]
    refine StageOk.mono ?_ hwaypoints hretreat hpreserved
    rcases hstages t token stage ht with hbefore | hnew
    · exact h.stage t token stage hbefore
    · exact hnew
  · rcases hwaypoints with hsame | hnone
    · rw [hsame] at hsome ⊢
      exact hgoals goal sent leg hgoal hleg hsome
    · exact absurd hnone hsome
  · rw [hlegs]
    exact h.legs
  · rw [hcompleted]
    exact h.completed

/-- The goals that are outstanding are the same ones. -/
theorem Aimed.kept (h : Aimed A R w) (hgoals : SameGoals w w') (goal : Nat) (sent : Goal F)
    (leg : Nat × RoutePose F) (hgoal : w'.goals goal = some sent) (hleg : sent.leg = some leg) :
    OnRoute w.node leg.1 leg.2 := by
  rw [hgoals.goals] at hgoal
  exact h.goal goal sent leg hgoal hleg

end

theorem thought_ok (hM : A.meshes.Finite) {n : PortalNode F} {target : RoutePose F}
    {stage stage' : Stage F} (hthought : Thinks A R stage stage')
    (h : StageOk A R n target stage) : StageOk A R n target stage' := by
  cases hthought with
  | stale leg => exact trivial
  | retreats leg retreat => exact reprove_ok h.1 h.2
  | replans leg ordinary accepted some =>
    refine ⟨h.1, some, fun last hlast side hside => ?_⟩
    obtain ⟨last', hlast', hends⟩ := replanned_last hM rfl accepted
    obtain rfl := Option.some.inj (hlast'.symm.trans hlast)
    exact (hends side hside).trans (h.1.target side hside)
  | throws leg endpoint seen => exact trivial

omit [InfinityOrder F] in
/-- The only thread that works on a leg. -/
theorem stages_become {t : Thread} {token : Option Nat} {stage stage' : Stage F}
    (hwas : w.activity t = .submitting token stage)
    (hactivity : w'.activity = Function.update w.activity t (.submitting token stage'))
    (hb : Baton w.Holds w.node.goalActive) (hok : StageOk A R w.node w.history.target stage')
    (u : Thread) (token' : Option Nat) (other : Stage F)
    (hu : w'.activity u = .submitting token' other) :
    w.activity u = .submitting token' other ∨ StageOk A R w.node w.history.target other := by
  rw [sending_before hwas hactivity hb hu]
  exact Or.inr hok

omit [Metric F] [InfinityOrder F] in
theorem entered_route (n : PortalNode F) (token : Nat) {guarded : Guarded F}
    (h : guarded.input.requireTerminalContact = false) :
    (n.entered token guarded).routeWaypoints = guarded.routeWaypoints ∧
      (n.entered token guarded).routePreservedSide = commandedSide guarded.request := by
  unfold PortalNode.entered
  dsimp only
  rw [if_neg (by rw [h]; simp)]
  exact ⟨rfl, rfl⟩

omit [InfinityOrder F] in
/-- The rest of the route is replaced by one that ends at the same target. -/
theorem aimed_replaced (h : Aimed A R w) (hb : Baton w.Holds w.node.goalActive) {t : Thread}
    {token : Option Nat} {leg : Leg F} {waypoints : List (RoutePose F)}
    (was : w.activity t = .submitting token (.replanned leg waypoints))
    (inside : leg.index < w.node.routeWaypoints.length)
    (node : w'.node = { w.node with
      routeWaypoints := w.node.routeWaypoints.take leg.index ++ waypoints
      routeReplanCount := w.node.routeReplanCount + 1 })
    (activity : w'.activity = Function.update w.activity t
      (.submitting token (reprove A R leg (waypoints.headD leg.endpoint))))
    (goals : SameGoals w w') (history : SameHistory w.history w'.history) : Aimed A R w' := by
  obtain ⟨hread, hsome, hends⟩ := h.stage t token _ was
  obtain ⟨first, rest, rfl⟩ := List.exists_cons_of_ne_nil hsome
  have hlength : (w.node.routeWaypoints.take leg.index).length = leg.index := by
    rw [List.length_take]
    omega
  have hread' : LegRead w'.node w.history.target leg := by
    refine ⟨hread.bound, ?_, ?_, hread.target⟩
    · rw [node]
      exact hread.retreat
    · rw [node]
      exact hread.preserved
  have hroute : OnRoute w'.node leg.index first := by
    intro _
    rw [node]
    show (w.node.routeWaypoints.take leg.index ++ first :: rest)[leg.index]? = some first
    rw [List.getElem?_append_right (Nat.le_of_eq hlength), hlength, Nat.sub_self]
    rfl
  refine ⟨?_, fun u token' other hu => ?_, fun goal sent leg' hgoal => ?_, ?_, ?_⟩
  · rw [node, history.target]
    intro last hlast
    show Agrees w.node.routePreservedSide last w.history.target
    rw [← hread.preserved]
    refine hends last ?_
    change (w.node.routeWaypoints.take leg.index ++ first :: rest).getLast? = some last at hlast
    rw [List.getLast?_append_of_ne_nil _ (by simp)] at hlast
    exact hlast
  · rw [sending_before was activity hb hu, history.target]
    exact reprove_ok hread' hroute
  · rw [goals.goals] at hgoal
    exact (no_goal_leg hb was hgoal).elim
  · rw [history.legs]
    exact h.legs
  · rw [history.completed]
    exact h.completed

/-- The endpoint of the last leg is the last waypoint. -/
theorem getLast?_of_getElem? {α : Type} {xs : List α} {i : Nat} {x : α} (h : xs[i]? = some x)
    (hlast : xs.length ≤ i + 1) : xs.getLast? = some x := by
  have hinside := (List.getElem?_eq_some_iff.mp h).1
  have hindex : xs.length - 1 = i := by omega
  rw [List.getLast?_eq_getElem?, hindex]
  exact h

theorem aimed_step (hM : A.meshes.Finite) (h : Aimed A R w) (hs : Stops w) (hj : Judged w)
    (hd : Did A R stop w w') : Aimed A R w' := by
  have hb := hs.baton
  cases hd with
  | aside route timer threads judged goals history =>
    refine h.same (Or.inl route.routeWaypoints) route.routeTerminalRetreat route.routePreservedSide
      (fun t token stage ht => ?_) (h.kept goals) history.target history.legs history.completed
    rcases threads t with hsame | ⟨-, hnot⟩
    · exact Or.inl (hsame.symm.trans ht)
    · rw [ht] at hnot
      exact absurd trivial hnot
  | halts node activity goals history =>
    exact h.same (Or.inr (by rw [node]; rfl)) (by rw [node]; rfl) (by rw [node]; rfl)
      (fun t token stage ht => Or.inl (by rw [← activity]; exact ht)) (h.kept goals)
      (by rw [history]) (by rw [history]) (by rw [history])
  | drops t free inactive waypoints timer only before after judged goals history =>
    have hnone : w'.node.routeWaypoints = [] :=
      waypoints.elim id fun hsame => hsame.trans (hs.cleared.idle free)
    refine h.free (fun x hx => ?_) (by rw [hnone]; exact endsAt_nil _ _) history.legs
      history.completed
    refine hb.idle free x (holds_aside timer (fun u => ?_) goals.goals x hx)
    by_cases hu : u = t
    · rw [hu]
      exact Or.inr ⟨before, after⟩
    · exact Or.inl (only u hu)
  | enters t token guarded judged free valid ordinary some node activity goals history =>
    obtain ⟨hwaypoints, hpreserved⟩ := entered_route w.node token ordinary
    refine ⟨?_, fun u token' stage hu => ?_,
      fun goal sent leg hgoal => (nobody_idle hb free goals.goals hgoal).elim, ?_, ?_⟩
    · rw [node, hwaypoints, hpreserved, history]
      exact hj t token guarded judged ordinary
    · rw [activity] at hu
      rcases update_cases hu with ⟨-, hu⟩ | ⟨-, hu⟩
      · obtain ⟨-, rfl⟩ := Activity.submitting.inj hu
        exact trivial
      · exact absurd (holds_submitting hu) (hb.idle free _)
    · rw [history]
      exact h.legs
    · rw [history]
      exact h.completed
  | contacts t token guarded judged free valid contact node activity goals nextGoal history =>
    have hnone : w'.node.routeWaypoints = [] := by
      rw [node, entered_contact contact]
      exact hs.cleared.idle free
    refine ⟨by rw [hnone]; exact endsAt_nil _ _, fun u token' stage hu => ?_,
      fun goal sent leg _ _ hsome => absurd hnone hsome, ?_, ?_⟩
    · rw [activity] at hu
      rcases update_cases hu with ⟨-, hu⟩ | ⟨-, hu⟩
      · cases hu
      · exact absurd (holds_submitting hu) (hb.idle free _)
    · rw [history]
      exact h.legs
    · rw [history]
      exact h.completed
  | reads t token index leg entering unblocked position bound endpoint last retreat preserved node
      activity goals history =>
    have hread : LegRead w.node w.history.target leg := by
      refine ⟨position.symm ▸ bound, retreat, preserved, ?_⟩
      rw [preserved]
      exact h.destination _ last
    exact h.same (Or.inl (by rw [node])) (by rw [node]) (by rw [node])
      (stages_become entering activity hb ⟨hread, fun _ => position.symm ▸ endpoint⟩)
      (h.kept goals) history.target history.legs history.completed
  | thinks t token stage stage' was thought node activity goals history =>
    exact h.same (Or.inl (by rw [node])) (by rw [node]) (by rw [node])
      (stages_become was activity hb (thought_ok hM thought (h.stage t token stage was)))
      (h.kept goals) history.target history.legs history.completed
  | replaces t token leg waypoints was unblocked position inside node activity goals history =>
    exact aimed_replaced h hb was inside node activity goals history
  | checks t token leg endpoint moment was unblocked position valid node activity goals history =>
    obtain ⟨hread, hroute, hproved⟩ := h.stage t token _ was
    exact h.same (Or.inl (by rw [node])) (by rw [node]) (by rw [node])
      (stages_become was activity hb
        ⟨hread, hroute, hproved, Option.isNone_iff_eq_none.mp valid⟩)
      (h.kept goals) (by rw [history]; rfl) (by rw [history]; rfl) (by rw [history]; rfl)
  | sends t token leg endpoint seen was node activity goals nextGoal history =>
    obtain ⟨hread, hroute, hproved, hhanded⟩ := h.stage t token _ was
    refine ⟨?_, fun u token' other hu => absurd hu (nothing_sending hb was activity),
      fun goal sent leg' hgoal hleg => ?_, ?_, ?_⟩
    · rw [node, history]
      exact h.destination
    · rw [goals] at hgoal
      rw [node]
      rcases update_cases hgoal with ⟨-, hgoal⟩ | ⟨-, hgoal⟩
      · obtain rfl := Option.some.inj hgoal
        obtain rfl := Option.some.inj hleg
        exact hroute
      · exact h.goal goal sent leg' hgoal hleg
    · rw [history]
      intro sent hsent
      rcases List.mem_append.mp hsent with hold | hnew
      · exact h.legs sent hold
      · rw [List.mem_singleton.mp hnew]
        exact ⟨hread.bound, hproved, hhanded⟩
    · rw [history]
      exact h.completed
  | passes old new held onward rest positions stages goalActive cancelPending waypoints retreat
      preserved goals judged history =>
    refine h.same (Or.inl waypoints) retreat preserved (fun t token stage ht => ?_)
      (fun goal sent leg hgoal hleg => ?_) history.target history.legs history.completed
    · rcases stages t token stage ht with hsame | ⟨index, rfl⟩
      · exact Or.inl hsame
      · exact Or.inr trivial
    · rcases goals goal with hsame | hgone
      · exact h.goal goal sent leg (hsame.symm.trans hgoal) hleg
      · rw [hgone] at hgoal
        cases hgoal
  | stalls x held rest positions why route judged goals history =>
    refine h.free (nobody hb held rest) ?_ history.legs history.completed
    rw [route.routeWaypoints, route.routePreservedSide, history.target]
    exact h.destination
  | accepts goal sent found pending node activity goals nextGoal history =>
    refine h.same (Or.inl (by rw [node])) (by rw [node]) (by rw [node])
      (fun t token stage ht => Or.inl (by rw [← activity]; exact ht))
      (fun other sent' leg hgoal hleg => ?_) (by rw [history]) (by rw [history]) (by rw [history])
    rw [goals] at hgoal
    rcases update_cases hgoal with ⟨-, hgoal⟩ | ⟨-, hgoal⟩
    · obtain rfl := Option.some.inj hgoal
      exact h.goal goal sent leg found hleg
    · exact h.goal other sent' leg hgoal hleg
  | ends x hends history =>
    refine h.free (nobody hb hends.held hends.rest) ?_ history.legs history.completed
    rw [hends.no_route hs.cleared]
    exact endsAt_nil _ _
  | completes goal index endpoint hends found some last history =>
    have hnobody := nobody hb hends.held hends.rest
    refine ⟨?_, fun t token stage ht => absurd (holds_submitting ht) (hnobody _),
      fun other sent leg hother => (no_goal hnobody hother).elim, ?_, ?_⟩
    · rw [hends.no_route hs.cleared]
      exact endsAt_nil _ _
    · rw [history]
      exact h.legs
    · rw [history]
      intro done hdone
      rcases List.mem_append.mp hdone with hold | hnew
      · exact h.completed done hold
      · rw [List.mem_singleton.mp hnew]
        -- the endpoint of the goal is the last waypoint
        obtain ⟨sent, hsent, hleg⟩ := found
        have hon := h.goal goal sent (index, endpoint) hsent hleg some
        exact h.destination endpoint (getLast?_of_getElem? hon last)

/-! ## §3. The order of the legs. -/

/-- The indices of the legs of a command. -/
def legIndices (history : History F) (command : Nat) : List Nat :=
  (history.legs.filter fun sent => sent.command == command).map fun sent => sent.leg.index

/-- **The legs of a command come in their order.** -/
structure Ordered (w : World F) : Prop where
  known : ∀ sent ∈ w.history.legs, sent.command ≤ w.history.commands
  next : ∀ x index, w.At x index → ∀ sent ∈ w.history.legs,
    sent.command = w.history.commands → sent.leg.index < index
  increasing : ∀ command, (legIndices w.history command).Pairwise (· < ·)

section

omit [Metric F] [InfinityOrder F]

/-- Nothing was sent, and whoever works for a leg worked for it before. -/
theorem Ordered.same (h : Ordered w) (hcommands : w'.history.commands = w.history.commands)
    (hlegs : w'.history.legs = w.history.legs)
    (hat : ∀ x index, w'.At x index → ∃ y, w.At y index) : Ordered w' := by
  refine ⟨?_, fun x index hx => ?_, fun command => ?_⟩
  · rw [hlegs, hcommands]
    exact h.known
  · rw [hlegs, hcommands]
    obtain ⟨y, hy⟩ := hat x index hx
    exact h.next y index hy
  · unfold legIndices
    rw [hlegs]
    exact h.increasing command

/-- Nothing of a new command was sent. -/
theorem Ordered.fresh (h : Ordered w) (hcommands : w'.history.commands = w.history.commands + 1)
    (hlegs : w'.history.legs = w.history.legs) : Ordered w' := by
  refine ⟨fun sent hsent => ?_, fun x index _ sent hsent heq => ?_, fun command => ?_⟩
  · rw [hlegs] at hsent
    rw [hcommands]
    exact (h.known sent hsent).trans (Nat.le_succ _)
  · rw [hlegs] at hsent
    have hknown := h.known sent hsent
    omega
  · unfold legIndices
    rw [hlegs]
    exact h.increasing command

/-- A leg that goes on works for the same index. -/
theorem at_leg {t : Thread} {token : Option Nat} {stage stage' : Stage F}
    (hwas : w.activity t = .submitting token stage)
    (hactivity : w'.activity = Function.update w.activity t (.submitting token stage'))
    (htimer : w'.node.routeResumeTimer = w.node.routeResumeTimer) (hgoals : w'.goals = w.goals)
    (hindex : ∀ i, stage'.index = some i → stage.index = some i) (x : Holder) (index : Nat)
    (hx : w'.At x index) : ∃ y, w.At y index := by
  rcases at_become hactivity hgoals (Or.inl htimer) x index hx with ⟨-, hnew⟩ | ⟨-, hold⟩
  · refine ⟨.thread t, ?_⟩
    show (w.activity t).index = some index
    rw [hwas]
    exact hindex index hnew
  · exact ⟨x, hold⟩

end

omit [InfinityOrder F] in
theorem reprove_index (leg : Leg F) (endpoint : RoutePose F) (i : Nat)
    (h : (reprove A R leg endpoint).index = some i) : some leg.index = some i := by
  unfold PortalNode.reprove at h
  split at h
  · exact h
  · cases h

omit [InfinityOrder F] in
theorem thought_index {stage stage' : Stage F} (h : Thinks A R stage stage') (i : Nat)
    (hi : stage'.index = some i) : stage.index = some i := by
  cases h with
  | stale leg => cases hi
  | retreats leg retreat => exact reprove_index leg _ i hi
  | replans leg ordinary accepted some => exact hi
  | throws leg endpoint seen => cases hi

omit [Metric F] [InfinityOrder F] in
/-- While a thread works on a leg nobody else works for one. -/
theorem at_only (hb : Baton w.Holds w.node.goalActive) {t : Thread} {token : Option Nat}
    {stage : Stage F} (hwas : w.activity t = .submitting token stage) {x : Holder} {index : Nat}
    (hx : w.At x index) : x = .thread t := by
  have hheld := holds_submitting hwas
  cases x with
  | thread u =>
    refine hb.one _ _ ?_ hheld
    show (w.activity u).Carries
    by_contra hnot
    have hnone := index_of_carries hnot
    change (w.activity u).index = some index at hx
    rw [hnone] at hx
    cases hx
  | timer =>
    change w.node.routeResumeTimer = some index at hx
    by_cases hticks : (w.activity .executor).Ticks
    · -- the executor would hold the route as well, but it is not in a leg
      have heq := Holder.thread.inj
        (hb.one (.thread .executor) _ (carries_of_ticks hticks) hheld)
      rw [heq, hwas] at hticks
      exact hticks.elim
    · have heq := hb.one .timer _ ⟨by rw [hx]; rfl, hticks⟩ hheld
      cases heq
  | goal goal =>
    obtain ⟨sent, leg, hsent, -⟩ := hx
    exact (no_goal_leg hb hwas hsent).elim

/-- A list of at most one number is increasing. -/
theorem pairwise_short {xs : List Nat} (h : xs.length ≤ 1) : xs.Pairwise (· < ·) := by
  rcases Nat.le_one_iff_eq_zero_or_eq_one.mp h with hnone | hone
  · rw [List.length_eq_zero_iff.mp hnone]
    exact List.Pairwise.nil
  · obtain ⟨x, rfl⟩ := List.length_eq_one_iff.mp hone
    exact List.pairwise_singleton _ _

omit [Metric F] [InfinityOrder F] in
/-- A leg is sent behind those before it. -/
theorem ordered_sent (h : Ordered w) (hb : Baton w.Holds w.node.goalActive) {t : Thread}
    {token : Option Nat} {leg : Leg F} {endpoint : RoutePose F} {seen : Handoff F}
    (was : w.activity t = .submitting token (.sending leg endpoint seen)) (node : w'.node = w.node)
    (activity : w'.activity = Function.update w.activity t (World.afterLeg token))
    (goals : w'.goals = Function.update w.goals w.nextGoal
      (some { leg := some (leg.index, endpoint), accepted := false }))
    (history : w'.history = { w.history with
      legs := w.history.legs ++ [w.sentLeg leg endpoint seen] }) : Ordered w' := by
  have hat : w.At (.thread t) leg.index := by
    show (w.activity t).index = some leg.index
    rw [was]
    rfl
  have hbefore := h.next _ _ hat
  refine ⟨?_, fun x index hx sent hsent heq => ?_, fun command => ?_⟩
  · rw [history]
    intro sent hsent
    rcases List.mem_append.mp hsent with hold | hnew
    · exact h.known sent hold
    · rw [List.mem_singleton.mp hnew]
      exact Nat.le_refl _
  · -- only the goal that was sent is left, and it waits for the next leg
    have hindex : index = leg.index + 1 := by
      by_cases hgoal : x = .goal w.nextGoal
      · rw [hgoal] at hx
        obtain ⟨found, pair, hfound, hpair, hi⟩ := hx
        rw [goals, Function.update_self] at hfound
        obtain rfl := Option.some.inj hfound
        obtain rfl := Option.some.inj hpair
        exact hi
      · have hold : w.At x index ∧ x ≠ .thread t := by
          cases x with
          | thread u =>
            change (w'.activity u).index = some index at hx
            rw [activity] at hx
            by_cases hu : u = t
            · rw [hu, Function.update_self, index_of_carries (carries_afterLeg token)] at hx
              cases hx
            · rw [Function.update_of_ne hu] at hx
              exact ⟨hx, fun heq => hu (Holder.thread.inj heq)⟩
          | timer =>
            change w'.node.routeResumeTimer = some index at hx
            rw [node] at hx
            exact ⟨hx, by simp⟩
          | goal goal =>
            obtain ⟨found, pair, hfound, hrest⟩ := hx
            rw [goals, Function.update_of_ne fun heq => hgoal (congrArg Holder.goal heq)] at hfound
            exact ⟨⟨found, pair, hfound, hrest⟩, by simp⟩
        exact absurd (at_only hb was hold.1) hold.2
    rw [history] at hsent heq
    rw [hindex]
    rcases List.mem_append.mp hsent with hold | hnew
    · exact (hbefore sent hold heq).trans (Nat.lt_succ_self _)
    · rw [List.mem_singleton.mp hnew]
      exact Nat.lt_succ_self _
  · unfold legIndices
    rw [history]
    show (((w.history.legs ++ [w.sentLeg leg endpoint seen]).filter _).map _).Pairwise _
    rw [List.filter_append, List.map_append, List.pairwise_append]
    refine ⟨h.increasing command, ?_, fun i hi j hj => ?_⟩
    · -- at most one leg is new
      have hone : (List.map (fun sent : SentLeg F => sent.leg.index) (List.filter
          (fun sent => sent.command == command) [w.sentLeg leg endpoint seen])).length ≤ 1 := by
        rw [List.length_map]
        exact List.length_filter_le _ _
      exact pairwise_short hone
    · obtain ⟨last, hlast, rfl⟩ := List.mem_map.mp hj
      obtain ⟨hmem, hcommand⟩ := List.mem_filter.mp hlast
      rw [List.mem_singleton.mp hmem] at hcommand ⊢
      obtain ⟨sent, hsent, rfl⟩ := List.mem_map.mp hi
      obtain ⟨hold, hsame⟩ := List.mem_filter.mp hsent
      exact hbefore sent hold ((beq_iff_eq.mp hsame).trans (beq_iff_eq.mp hcommand).symm)

omit [InfinityOrder F] in
theorem ordered_step (h : Ordered w) (hb : Baton w.Holds w.node.goalActive)
    (hd : Did A R stop w w') : Ordered w' := by
  cases hd with
  | aside route timer threads judged goals history =>
    refine h.same history.commands history.legs fun x index hx => ⟨x, ?_⟩
    cases x with
    | thread t =>
      change (w'.activity t).index = some index at hx
      rcases threads t with hsame | ⟨-, hnot⟩
      · rw [hsame] at hx
        exact hx
      · rw [index_of_carries hnot] at hx
        cases hx
    | timer => exact timer.symm.trans hx
    | goal goal =>
      obtain ⟨sent, leg, hsent, hrest⟩ := hx
      rw [goals.goals] at hsent
      exact ⟨sent, leg, hsent, hrest⟩
  | halts node activity goals history =>
    refine h.same (by rw [history]) (by rw [history]) fun x index hx => ⟨x, ?_⟩
    cases x with
    | thread t =>
      change (w'.activity t).index = some index at hx
      rw [activity] at hx
      exact hx
    | timer =>
      change w'.node.routeResumeTimer = some index at hx
      -- the timer is gone
      rw [node] at hx
      cases hx
    | goal goal =>
      obtain ⟨sent, leg, hsent, hrest⟩ := hx
      rw [goals.goals] at hsent
      exact ⟨sent, leg, hsent, hrest⟩
  | drops t free inactive waypoints timer only before after judged goals history =>
    refine h.same history.commands history.legs fun x index hx => ⟨x, ?_⟩
    cases x with
    | thread u =>
      change (w'.activity u).index = some index at hx
      by_cases hu : u = t
      · rw [hu, index_of_carries after] at hx
        cases hx
      · rw [only u hu] at hx
        exact hx
    | timer => exact timer.symm.trans hx
    | goal goal =>
      obtain ⟨sent, leg, hsent, hrest⟩ := hx
      rw [goals.goals] at hsent
      exact ⟨sent, leg, hsent, hrest⟩
  | enters t token guarded judged free valid ordinary some node activity goals history =>
    -- a new command has sent nothing yet
    exact h.fresh (by rw [history]; rfl) (by rw [history]; rfl)
  | contacts t token guarded judged free valid contact node activity goals nextGoal history =>
    exact h.fresh (by rw [history]; rfl) (by rw [history]; rfl)
  | reads t token index leg entering unblocked position bound endpoint last retreat preserved node
      activity goals history =>
    refine h.same history.commands history.legs
      (at_leg entering activity (by rw [node]) goals.goals fun i hi => ?_)
    rw [← position]
    exact hi
  | thinks t token stage stage' was thought node activity goals history =>
    exact h.same history.commands history.legs
      (at_leg was activity (by rw [node]) goals.goals (thought_index thought))
  | replaces t token leg waypoints was unblocked position inside node activity goals history =>
    exact h.same history.commands history.legs
      (at_leg was activity (by rw [node]) goals.goals (reprove_index leg _))
  | checks t token leg endpoint moment was unblocked position valid node activity goals history =>
    exact h.same (by rw [history]; rfl) (by rw [history]; rfl)
      (at_leg was activity (by rw [node]) goals.goals fun i hi => hi)
  | sends t token leg endpoint seen was node activity goals nextGoal history =>
    exact ordered_sent h hb was node activity goals history
  | passes old new held onward rest positions stages goalActive cancelPending waypoints retreat
      preserved goals judged history => exact h.same history.commands history.legs positions
  | stalls x held rest positions why route judged goals history =>
    exact h.same history.commands history.legs fun y index hy => ⟨y, positions y index hy⟩
  | accepts goal sent found pending node activity goals nextGoal history =>
    refine h.same (by rw [history]) (by rw [history]) fun x index hx => ⟨x, ?_⟩
    cases x with
    | thread t =>
      change (w'.activity t).index = some index at hx
      rw [activity] at hx
      exact hx
    | timer =>
      change w'.node.routeResumeTimer = some index at hx
      rw [node] at hx
      exact hx
    | goal other =>
      obtain ⟨sent', leg, hsent, hleg, hi⟩ := hx
      rw [goals] at hsent
      rcases update_cases hsent with ⟨hsame, hsent⟩ | ⟨-, hsent⟩
      · obtain rfl := Option.some.inj hsent
        rw [hsame]
        exact ⟨sent, leg, found, hleg, hi⟩
      · exact ⟨sent', leg, hsent, hleg, hi⟩
  | ends x hends history =>
    exact h.same history.commands history.legs fun y index hy => ⟨y, hends.positions y index hy⟩
  | completes goal index endpoint hends found some last history =>
    exact h.same (by rw [history]) (by rw [history])
      fun y index hy => ⟨y, hends.positions y index hy⟩

/-! ## §4. Runs. -/

/-- All that is known of the legs. -/
structure Legged (A : GuardModel F) (R : ArmModel F) (w : World F) : Prop where
  stops : Stops w
  judged : Judged w
  aimed : Aimed A R w
  ordered : Ordered w

omit [InfinityOrder F] in
theorem legged_initial : Legged A R (World.initial : World F) := by
  have hnobody : ∀ x, ¬ (World.initial : World F).Holds x := by
    intro x hx
    cases x with
    | thread t => exact hx
    | timer => cases hx.1
    | goal goal => cases hx
  refine ⟨stops (show (portal A R false).Reachable World.initial from Lts.Reachable.of_init rfl),
    fun t token guarded ht => (by cases ht),
    ⟨endsAt_nil _ _, fun t token stage ht => (by cases ht), fun goal sent leg hgoal =>
      (by cases hgoal),
      fun sent hsent => (List.not_mem_nil hsent).elim,
      fun done hdone => (List.not_mem_nil hdone).elim⟩,
    ⟨fun sent hsent => (List.not_mem_nil hsent).elim,
      fun x index _ sent hsent => (List.not_mem_nil hsent).elim, fun command => List.Pairwise.nil⟩⟩

theorem legged (hM : A.meshes.Finite) (h : (portal A R realMode).Reachable w) : Legged A R w := by
  refine h.invariant (fun a ha => ?_) fun a e b hstep ha => ?_
  · obtain rfl : a = World.initial := ha
    exact legged_initial
  · have hd := next_did hstep
    exact ⟨stops_step ha.stops hstep, judged_step ha.judged hd,
      aimed_step hM ha.aimed ha.stops ha.judged hd, ordered_step ha.ordered ha.stops.baton hd⟩

/-- Different indices below a bound are no more than the bound. -/
theorem increasing_length {xs : List Nat} {n : Nat} (h : xs.Pairwise (· < ·))
    (hbound : ∀ x ∈ xs, x < n) : xs.length ≤ n := by
  have hdistinct : xs.Nodup := h.imp fun hlt => hlt.ne
  have hinside : xs ⊆ List.range n := fun x hx => List.mem_range.mpr (hbound x hx)
  have hlength := (hdistinct.subperm hinside).length_le
  rw [List.length_range] at hlength
  exact hlength

/-- **Every leg is proved**: from the joints its last check compared with the newest
    ones, and that check found nothing.  The legs of one command come in their
    order, and there are at most 64. -/
def LegsProved (A : GuardModel F) (R : ArmModel F) (history : History F) : Prop :=
  (∀ sent ∈ history.legs,
    LegProved A R sent.leg.guarded.measuredQ sent.endpoint sent.leg.terminalRetreat
        sent.leg.preservedSide ∧
      HandoffProof A sent.leg.guarded sent.seen.evidence sent.seen.moment.timeNs
        sent.seen.moment.steadyNs kStateFreshnessNs kDiagnosticFreshnessNs) ∧
  ∀ command, (legIndices history command).Pairwise (· < ·) ∧
    (legIndices history command).length ≤ kMaximumDynamicRouteLegs

theorem legs_proved (hM : A.meshes.Finite) (h : (portal A R realMode).Reachable w) :
    LegsProved A R w.history := by
  have hall := legged hM h
  refine ⟨fun sent hsent => ?_, fun command => ⟨hall.ordered.increasing command, ?_⟩⟩
  · obtain ⟨-, hproved, hhanded⟩ := hall.aimed.legs sent hsent
    exact ⟨leg_proved hM hproved, handoff_proved hhanded⟩
  · -- every index is below the bound of `submit_route_leg`, and no index comes twice
    refine increasing_length (hall.ordered.increasing command) fun index hindex => ?_
    obtain ⟨sent, hsent, rfl⟩ := List.mem_map.mp hindex
    exact (hall.aimed.legs sent (List.mem_filter.mp hsent).1).1

theorem legs_proved_underway : ∃ w : World Extended, w.history.legs ≠ [] ∧
    LegsProved reachModel detourArms w.history := by
  obtain ⟨w, hreachable, sent, hgone⟩ := detour_underway
  refine ⟨w, ?_, legs_proved (fun _ _ _ => ⟨rfl, rfl⟩) hreachable⟩
  rw [hgone.legs]
  simp

/-- **The destination is kept**: through any number of replans the waypoints end
    where the guard said, for every arm that moves, and a route is reported
    completed only there. -/
theorem destination_kept (hM : A.meshes.Finite) (h : (portal A R realMode).Reachable w) :
    EndsAt w.node.routeWaypoints w.node.routePreservedSide w.history.target ∧
      ∀ done ∈ w.history.completed, Agrees done.preservedSide done.endpoint done.target :=
  ⟨(legged hM h).aimed.destination, (legged hM h).aimed.completed⟩

theorem destination_kept_underway : ∃ w : World Extended, w.node.routeWaypoints ≠ [] ∧
    EndsAt w.node.routeWaypoints w.node.routePreservedSide w.history.target ∧
      ∀ done ∈ w.history.completed, Agrees done.preservedSide done.endpoint done.target := by
  obtain ⟨w, hreachable, sent, hgone⟩ := detour_underway
  refine ⟨w, fun hnil => ?_, destination_kept (fun _ _ _ => ⟨rfl, rfl⟩) hreachable⟩
  have hfirst := hgone.first
  rw [hnil] at hfirst
  cases hfirst

end OpenArm.Node
