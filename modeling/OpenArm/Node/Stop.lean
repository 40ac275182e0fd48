/-
  OpenArm.Node.Stop — a stop reaches a command wherever it is.

  A stop finds a command as a token, as a leg that is being worked out, as a
  goal that waits for its response, as an accepted goal, or between two legs.

  Main results:
    * `stop_wins`    — no cancel came between the reservation of a command and
                       the last check of a goal of it that was sent; after one
                       its route is gone and its accepted goals are canceled.
    * `last_leg`     — after a cancel at most the leg that has passed its last
                       check is still sent.
-/
import OpenArm.Node.Busy

namespace OpenArm.Node

open OpenArm.Lib OpenArm.Control OpenArm.Model OpenArm.Guard PortalNode

variable {F : Type} [Metric F] {A : GuardModel F} {R : ArmModel F} {realMode stop : Bool}
  {w w' : World F}

/-! ## §1. Tokens. -/

/-- The mark of the token that is out, and of the tokens before it. -/
structure Marked (w : World F) : Prop where
  current : w.node.commandGate.activeToken ≠ 0 →
    w.history.begunAt w.node.commandGate.activeToken = w.history.cancels
  past : ∀ token, w.history.begunAt token ≤ w.history.cancels

/-- What a step does to the tokens. -/
inductive Gated (w w' : World F) : Prop where
  | keeps (token : w'.node.commandGate.activeToken = 0 ∨
        w'.node.commandGate.activeToken = w.node.commandGate.activeToken)
      (begunAt : w'.history.begunAt = w.history.begunAt)
      (cancels : w'.history.cancels = w.history.cancels)
  | reserves (token : Nat) (active : w'.node.commandGate.activeToken = token)
      (begunAt : w'.history.begunAt =
        Function.update w.history.begunAt token w.history.cancels)
      (cancels : w'.history.cancels = w.history.cancels)
  | cancels (token : w'.node.commandGate.activeToken = 0)
      (begunAt : w'.history.begunAt = w.history.begunAt)
      (cancels : w'.history.cancels = w.history.cancels + 1)

omit [Metric F] in
theorem marked_step (h : Marked w) (hd : Gated w w') : Marked w' := by
  cases hd with
  | keeps token begunAt cancels =>
    refine ⟨fun hne => ?_, fun t => ?_⟩
    · have hsame := token.resolve_left hne
      rw [hsame] at hne ⊢
      rw [begunAt, cancels]
      exact h.current hne
    · rw [begunAt, cancels]
      exact h.past t
  | reserves token active begunAt cancels =>
    refine ⟨fun _ => ?_, fun t => ?_⟩
    · rw [active, begunAt, cancels, Function.update_self]
    · rw [begunAt, cancels]
      by_cases ht : t = token
      · rw [ht, Function.update_self]
      · rw [Function.update_of_ne ht]
        exact h.past t
  | cancels token begunAt cancels =>
    refine ⟨fun hne => absurd token hne, fun t => ?_⟩
    rw [begunAt, cancels]
    exact (h.past t).trans (Nat.le_succ _)

theorem consume_token (gate : CommandReservationGate) (token : Nat) :
    (gate.consume token).activeToken = 0 ∨ (gate.consume token).activeToken = gate.activeToken := by
  unfold CommandReservationGate.consume
  split
  · exact Or.inl rfl
  · exact Or.inr rfl

omit [Metric F] in
theorem entered_gate (n : PortalNode F) (token : Nat) (guarded : Guarded F) :
    (n.entered token guarded).commandGate = n.commandGate.consume token := by
  unfold PortalNode.entered
  dsimp only
  split
  · rfl
  · rfl

theorem move_gate (n : PortalNode F) (token : Nat) (guarded : Guarded F) (first second : Moment)
    (available sends : Bool) :
    (n.move A token guarded first second available sends).2.commandGate = n.commandGate ∨
      (n.move A token guarded first second available sends).2.commandGate =
        n.commandGate.consume token := by
  have hentered := entered_gate n token guarded
  unfold PortalNode.move
  dsimp only
  split
  · exact Or.inl rfl
  · split
    · exact Or.inl rfl
    · split
      · exact Or.inl rfl
      · split
        · exact Or.inl rfl
        · split
          · exact Or.inr hentered
          · split
            · split
              · exact Or.inr hentered
              · exact Or.inr hentered
            · exact Or.inr hentered

theorem submitRouteLeg_gate (n : PortalNode F) (moment : Moment) (sends : Bool) (stage : Stage F) :
    (n.submitRouteLeg A R moment sends stage).1.commandGate = n.commandGate := by
  cases stage with
  | entering index =>
    unfold PortalNode.submitRouteLeg
    dsimp only
    split
    · rfl
    · rfl
  | read leg =>
    unfold PortalNode.submitRouteLeg
    dsimp only
    split
    · rfl
    · split
      · rfl
      · split
        · rfl
        · rfl
  | replanned leg waypoints =>
    unfold PortalNode.submitRouteLeg
    dsimp only
    split
    · rfl
    · rfl
  | proved leg endpoint =>
    unfold PortalNode.submitRouteLeg
    dsimp only
    split
    · rfl
    · rfl
  | sending leg endpoint seen =>
    unfold PortalNode.submitRouteLeg
    dsimp only
    split
    · rfl
    · rfl
  | failing => rfl
  | thrown => rfl

theorem advance_gated {t : Thread} {turn : Turn} (h : w.advance A R realMode t turn = some w') :
    Gated w w' := by
  unfold World.advance at h
  split at h
  · cases h
  · next job hwas =>
    obtain rfl := Option.some.inj h
    unfold World.beginsGuard
    cases hbegin : w.node.beginGuard turn.first.stop with
    | none => exact .keeps (Or.inr rfl) rfl rfl
    | some reserved =>
      -- a new token is marked with the number of cancels so far
      refine .reserves reserved.1 ?_ rfl rfl
      unfold PortalNode.beginGuard at hbegin
      split at hbegin
      · cases hbegin
      · split at hbegin
        · cases hbegin
        · obtain ⟨pair, hpair, rfl⟩ := Option.map_eq_some_iff.mp hbegin
          unfold CommandReservationGate.reserve at hpair
          split at hpair
          · cases hpair
          · obtain rfl := Option.some.inj hpair
            rfl
  · next token job hwas =>
    obtain rfl := Option.some.inj h
    exact .keeps (Or.inr rfl) rfl rfl
  · next token guarded hwas =>
    obtain rfl := Option.some.inj h
    have hgate := move_gate (A := A) w.node token guarded turn.first turn.second turn.available
      turn.sends
    have htoken : (w.node.move A token guarded turn.first turn.second turn.available
          turn.sends).2.commandGate.activeToken = 0 ∨
        (w.node.move A token guarded turn.first turn.second turn.available
          turn.sends).2.commandGate.activeToken = w.node.commandGate.activeToken := by
      rcases hgate with hsame | hconsumed
      · exact Or.inr (congrArg CommandReservationGate.activeToken hsame)
      · rw [hconsumed]
        exact consume_token _ _
    unfold World.moves
    generalize w.node.move A token guarded turn.first turn.second turn.available turn.sends =
      moved at htoken
    obtain ⟨entry, node⟩ := moved
    cases entry with
    | refused => exact .keeps htoken rfl rfl
    | dropped => exact .keeps htoken rfl rfl
    | contact => exact .keeps htoken rfl rfl
    | route => exact .keeps htoken rfl rfl
  · next token hwas =>
    obtain rfl := Option.some.inj h
    exact .keeps (consume_token _ _) rfl rfl
  · next token stage hwas =>
    obtain rfl := Option.some.inj h
    have hgate := submitRouteLeg_gate (A := A) (R := R) w.node turn.first turn.sends stage
    unfold World.submits
    generalize w.node.submitRouteLeg A R turn.first turn.sends stage = done at hgate
    obtain ⟨node, progress⟩ := done
    have htoken := Or.inr (a := node.commandGate.activeToken = 0)
      (congrArg CommandReservationGate.activeToken hgate)
    cases progress with
    | next stage' =>
      refine .keeps htoken ?_ ?_
      · show (if World.checkedStage stage' = true then w.checks else w.history).begunAt = _
        split
        · rfl
        · rfl
      · show (if World.checkedStage stage' = true then w.checks else w.history).cancels = _
        split
        · rfl
        · rfl
    | returned => exact .keeps htoken rfl rfl
    | sent leg endpoint seen => exact .keeps htoken rfl rfl
  · next index hwas =>
    obtain rfl := Option.some.inj h
    refine .keeps (Or.inr ?_) rfl rfl
    show (w.node.scheduleRouteLeg turn.first index).2.commandGate.activeToken = _
    unfold PortalNode.scheduleRouteLeg
    split
    · rfl
    · rfl
  · next index hwas =>
    obtain rfl := Option.some.inj h
    refine .keeps (Or.inr ?_) rfl rfl
    show (w.node.keepTimer turn.first index).commandGate.activeToken = _
    unfold PortalNode.keepTimer
    split
    · rfl
    · rfl
  · next index hwas =>
    obtain rfl := Option.some.inj h
    refine .keeps (Or.inr ?_) rfl rfl
    show (w.node.resume turn.first index).2.commandGate.activeToken = _
    unfold PortalNode.resume
    split
    · rfl
    · split
      · rfl
      · split
        · rfl
        · rfl

omit [Metric F] in
theorem responds_gated {goal : Nat} {accepted : Bool} (h : w.responds goal accepted = some w') :
    Gated w w' := by
  unfold World.responds at h
  obtain ⟨sent, -, hrest⟩ := Option.bind_eq_some_iff.mp h
  split at hrest
  · cases hrest
  have hleg : (w.node.legResponse goal accepted).2.commandGate = w.node.commandGate := by
    unfold PortalNode.legResponse
    split
    · rfl
    · rfl
  have hcontact : (w.node.contactResponse goal accepted).2.commandGate = w.node.commandGate := by
    unfold PortalNode.contactResponse
    split
    · rfl
    · rfl
  by_cases hkind : sent.leg.isSome = true
  · rw [if_pos hkind] at hrest
    obtain rfl := Option.some.inj hrest
    exact .keeps (Or.inr (congrArg CommandReservationGate.activeToken hleg)) rfl rfl
  · rw [if_neg hkind] at hrest
    obtain rfl := Option.some.inj hrest
    exact .keeps (Or.inr (congrArg CommandReservationGate.activeToken hcontact)) rfl rfl

omit [Metric F] in
theorem concludes_gated {goal : Nat} {completed : Bool}
    (h : w.concludes goal completed = some w') : Gated w w' := by
  unfold World.concludes at h
  obtain ⟨sent, -, hrest⟩ := Option.bind_eq_some_iff.mp h
  split at hrest
  · cases hrest
  dsimp only at hrest
  split at hrest
  · obtain rfl := Option.some.inj hrest
    exact .keeps (Or.inr rfl) rfl rfl
  next index endpoint hleg =>
  have hgate : (w.node.legResult index completed).2.commandGate = w.node.commandGate := by
    unfold PortalNode.legResult
    dsimp only
    split
    · rfl
    · split
      · rfl
      · rfl
  have htoken := congrArg CommandReservationGate.activeToken hgate
  generalize w.node.legResult index completed = answer at hrest htoken
  obtain ⟨verdict, node⟩ := answer
  cases verdict with
  | stopped =>
    obtain rfl := Option.some.inj hrest
    exact .keeps (Or.inr htoken) rfl rfl
  | continued =>
    obtain rfl := Option.some.inj hrest
    exact .keeps (Or.inr htoken) rfl rfl
  | completed =>
    obtain rfl := Option.some.inj hrest
    exact .keeps (Or.inr htoken) rfl rfl

theorem next_gated {e : Event F} (h : w.next A R realMode e = some w') : Gated w w' := by
  cases e with
  | request worker job =>
    unfold World.next at h
    dsimp only at h
    split at h
    · split at h
      · cases h
      · obtain rfl := Option.some.inj h
        exact .keeps (Or.inr rfl) rfl rfl
    · cases h
  | advance t turn => exact advance_gated h
  | cancel =>
    obtain rfl := Option.some.inj h
    exact .cancels rfl rfl rfl
  | beginShutdown =>
    obtain rfl := Option.some.inj h
    exact .keeps (Or.inr rfl) rfl rfl
  | engageEstop =>
    obtain rfl := Option.some.inj h
    exact .keeps (Or.inr rfl) rfl rfl
  | releaseEstop =>
    obtain rfl := Option.some.inj h
    exact .keeps (Or.inr rfl) rfl rfl
  | jointState moment producerTimeNs q =>
    obtain ⟨-, hrest⟩ := Option.ite_none_right_eq_some.mp h
    obtain rfl := Option.some.inj hrest
    refine .keeps (Or.inr ?_) rfl rfl
    show (w.node.updateState moment producerTimeNs q).commandGate.activeToken = _
    unfold PortalNode.updateState
    dsimp only
    split
    · rfl
    · rfl
  | diagnostics moment producerTimeNs statuses =>
    obtain ⟨-, hrest⟩ := Option.ite_none_right_eq_some.mp h
    obtain rfl := Option.some.inj hrest
    refine .keeps (Or.inr ?_) rfl rfl
    show (w.node.updateDiagnostics realMode moment producerTimeNs statuses).commandGate.activeToken =
      _
    unfold PortalNode.updateDiagnostics
    dsimp only
    split
    · rfl
    · rfl
  | fire =>
    obtain ⟨-, hrest⟩ := Option.ite_none_right_eq_some.mp h
    obtain ⟨index, -, rfl⟩ := Option.map_eq_some_iff.mp hrest
    exact .keeps (Or.inr rfl) rfl rfl
  | response goal accepted =>
    obtain ⟨-, hrest⟩ := Option.ite_none_right_eq_some.mp h
    exact responds_gated hrest
  | result goal completed =>
    obtain ⟨-, hrest⟩ := Option.ite_none_right_eq_some.mp h
    exact concludes_gated hrest

omit [Metric F] in
/-- A valid token was reserved after the last cancel. -/
theorem token_marked (h : Marked w) {token : Nat} (hvalid : w.node.commandGate.valid token = true) :
    w.history.begunAt token = w.history.cancels := by
  unfold CommandReservationGate.valid at hvalid
  simp only [Bool.and_eq_true, bne_iff_ne, ne_eq, beq_iff_eq] at hvalid
  obtain ⟨hne, rfl⟩ := hvalid
  exact h.current hne

theorem marked (h : (portal A R realMode).Reachable w) : Marked w := by
  refine h.invariant (fun a ha => ?_) fun _ _ _ hstep ha => marked_step ha (next_gated hstep)
  obtain rfl : a = World.initial := ha
  exact ⟨fun hne => absurd rfl hne, fun _ => Nat.le_refl _⟩

/-! ## §2. The route of a canceled command. -/

/-- What is known of the waypoints. -/
structure Cleared (w : World F) : Prop where
  idle : w.node.goalActive = false → w.node.routeWaypoints = []
  contact : ∀ goal sent, w.goals goal = some sent → sent.leg = none → w.node.routeWaypoints = []
  halted : w.history.begun ≠ w.history.cancels → w.node.goalActive = true →
    w.node.cancelPending = true ∧ w.node.routeWaypoints = []

section

omit [Metric F]

theorem no_goal {goal : Nat} {sent : Goal F} (h : ∀ x, ¬ w.Holds x)
    (hgoal : w.goals goal = some sent) : False := h _ (holds_goal hgoal)

/-- Where the holder let go nobody holds the route. -/
theorem nobody {x : Holder} (h : Baton w.Holds w.node.goalActive) (hheld : w.Holds x)
    (hrest : ∀ y, w'.Holds y → y ≠ x ∧ w.Holds y) (y : Holder) : ¬ w'.Holds y := fun hy =>
  (hrest y hy).1 (h.one y x (hrest y hy).2 hheld)

theorem nobody_idle (h : Baton w.Holds w.node.goalActive) (hidle : w.node.goalActive = false)
    (hgoals : w'.goals = w.goals) {goal : Nat} {sent : Goal F} (hgoal : w'.goals goal = some sent) :
    False := by
  rw [hgoals] at hgoal
  exact no_goal (h.idle hidle) hgoal

/-- While a thread works on a leg no goal is outstanding. -/
theorem no_goal_leg (h : Baton w.Holds w.node.goalActive) {t : Thread} {token : Option Nat}
    {stage : Stage F} (hwas : w.activity t = .submitting token stage) {goal : Nat} {sent : Goal F}
    (hgoal : w.goals goal = some sent) : False := by
  have heq := h.one (.goal goal) (.thread t) (holds_goal hgoal) (holds_submitting hwas)
  cases heq

theorem entered_pending (n : PortalNode F) (token : Nat) (guarded : Guarded F) :
    (n.entered token guarded).cancelPending = false := by
  unfold PortalNode.entered
  dsimp only
  split
  · rfl
  · rfl

theorem entered_contact {n : PortalNode F} {token : Nat} {guarded : Guarded F}
    (h : guarded.input.requireTerminalContact = true) :
    (n.entered token guarded).routeWaypoints = n.routeWaypoints := by
  unfold PortalNode.entered
  dsimp only
  rw [if_pos h]

theorem not_blocked {n : PortalNode F} {stop : Bool} (h : n.legBlocked stop = false) :
    n.goalActive = true ∧ n.cancelPending = false ∧ n.stopping = false := by
  unfold PortalNode.legBlocked at h
  simp only [Bool.or_eq_false_iff, Bool.not_eq_false'] at h
  exact ⟨h.1.1.1, h.1.1.2, h.1.2⟩

/-- An open route is not that of a canceled command. -/
theorem Cleared.open (h : Cleared w) {stop : Bool} (hopen : w.node.legBlocked stop = false) :
    w.history.begun = w.history.cancels := by
  obtain ⟨hactive, hpending, -⟩ := not_blocked hopen
  by_contra hne
  rw [(h.halted hne hactive).1] at hpending
  cases hpending

/-- The waypoints and the flags stay. -/
theorem Cleared.same (h : Cleared w) (hactive : w'.node.goalActive = w.node.goalActive)
    (hpending : w'.node.cancelPending = w.node.cancelPending)
    (hwaypoints : w'.node.routeWaypoints = w.node.routeWaypoints)
    (hbegun : w'.history.begun = w.history.begun)
    (hcancels : w'.history.cancels = w.history.cancels)
    (hgoals : ∀ goal sent, w'.goals goal = some sent → sent.leg = none →
      w.node.routeWaypoints = []) : Cleared w' := by
  refine ⟨fun hidle => ?_, fun goal sent hgoal hleg => ?_, fun hne hbusy => ?_⟩
  · rw [hwaypoints]
    exact h.idle (hactive.symm.trans hidle)
  · rw [hwaypoints]
    exact hgoals goal sent hgoal hleg
  · rw [hpending, hwaypoints]
    rw [hbegun, hcancels] at hne
    exact h.halted hne (hactive.symm.trans hbusy)

/-- Where a command ends there is no route. -/
theorem Ends.no_route {x : Holder} (he : Ends w w' x) (h : Cleared w) :
    w'.node.routeWaypoints = [] := by
  rcases he.waypoints with hnil | ⟨hsame, goal, sent, -, hgoal, hleg⟩
  · exact hnil
  · rw [hsame]
    exact h.contact goal sent hgoal hleg

theorem Ends.cleared {x : Holder} (h : Cleared w) (he : Ends w w' x) : Cleared w' := by
  have hnone := he.no_route h
  refine ⟨fun _ => hnone, fun _ _ _ _ => hnone, fun _ hbusy => ?_⟩
  rw [he.inactive] at hbusy
  cases hbusy

end

theorem cleared_step (h : Cleared w) (hb : Baton w.Holds w.node.goalActive) (hm : Marked w)
    (hd : Did A R stop w w') : Cleared w' := by
  cases hd with
  | aside route timer threads judged goals history =>
    refine h.same route.goalActive route.cancelPending route.routeWaypoints history.begun
      history.cancels fun goal sent hgoal hleg => ?_
    rw [goals.goals] at hgoal
    exact h.contact goal sent hgoal hleg
  | halts node activity goals history =>
    -- `cancel` clears the waypoints at once
    refine ⟨fun _ => by rw [node]; rfl, fun _ _ _ _ => by rw [node]; rfl, fun _ hbusy => ?_⟩
    rw [node] at hbusy ⊢
    exact ⟨hbusy, rfl⟩
  | drops t free inactive waypoints timer only before after judged goals history =>
    have hnone : w'.node.routeWaypoints = [] :=
      waypoints.elim id fun hsame => hsame.trans (h.idle free)
    refine ⟨fun _ => hnone, fun _ _ _ _ => hnone, fun _ hbusy => ?_⟩
    rw [inactive] at hbusy
    cases hbusy
  | enters t token guarded judged free valid ordinary some node activity goals history =>
    -- the command begins now: a valid token is not older than the last cancel
    refine ⟨fun hidle => ?_, fun goal sent hgoal _ => (nobody_idle hb free goals.goals hgoal).elim,
      fun hne => ?_⟩
    · rw [node, entered_active] at hidle
      cases hidle
    · rw [history] at hne
      exact absurd (token_marked hm valid) hne
  | contacts t token guarded judged free valid contact node activity goals nextGoal history =>
    have hnone : w'.node.routeWaypoints = [] := by
      rw [node, entered_contact contact]
      exact h.idle free
    refine ⟨fun _ => hnone, fun _ _ _ _ => hnone, fun hne => ?_⟩
    rw [history] at hne
    exact absurd (token_marked hm valid) hne
  | reads t token index leg entering unblocked position bound endpoint last retreat preserved node
      activity goals history =>
    refine h.same (by rw [node]) (by rw [node]) (by rw [node]) history.begun history.cancels
      fun goal sent hgoal hleg => ?_
    rw [goals.goals] at hgoal
    exact h.contact goal sent hgoal hleg
  | thinks t token stage stage' was thought node activity goals history =>
    refine h.same (by rw [node]) (by rw [node]) (by rw [node]) history.begun history.cancels
      fun goal sent hgoal hleg => ?_
    rw [goals.goals] at hgoal
    exact h.contact goal sent hgoal hleg
  | replaces t token leg waypoints was unblocked position inside node activity goals history =>
    -- the replan writes waypoints only behind the check that the route is open
    refine ⟨fun hidle => ?_, fun goal sent hgoal _ => ?_, fun hne _ => ?_⟩
    · rw [node] at hidle
      rw [(not_blocked unblocked).1] at hidle
      cases hidle
    · rw [goals.goals] at hgoal
      exact (no_goal_leg hb was hgoal).elim
    · rw [history.begun, history.cancels] at hne
      exact absurd (h.open unblocked) hne
  | checks t token leg endpoint moment was unblocked position valid node activity goals history =>
    refine h.same (by rw [node]) (by rw [node]) (by rw [node]) (by rw [history]; rfl)
      (by rw [history]; rfl) fun goal sent hgoal hleg => ?_
    rw [goals.goals] at hgoal
    exact h.contact goal sent hgoal hleg
  | sends t token leg endpoint seen was node activity goals nextGoal history =>
    refine h.same (by rw [node]) (by rw [node]) (by rw [node]) (by rw [history])
      (by rw [history]) fun goal sent hgoal hleg => ?_
    rw [goals] at hgoal
    rcases update_cases hgoal with ⟨-, hgoal⟩ | ⟨-, hgoal⟩
    · obtain rfl := Option.some.inj hgoal
      cases hleg
    · exact h.contact goal sent hgoal hleg
  | passes old new held onward rest positions stages goalActive cancelPending waypoints retreat
      preserved goals judged history =>
    refine h.same goalActive cancelPending waypoints history.begun history.cancels
      fun goal sent hgoal hleg => ?_
    rcases goals goal with hsame | hgone
    · exact h.contact goal sent (hsame.symm.trans hgoal) hleg
    · rw [hgone] at hgoal
      cases hgoal
  | stalls x held rest positions why route judged goals history =>
    refine h.same route.goalActive route.cancelPending route.routeWaypoints history.begun
      history.cancels fun goal sent hgoal hleg => ?_
    rw [goals.goals] at hgoal
    exact h.contact goal sent hgoal hleg
  | accepts goal sent found pending node activity goals nextGoal history =>
    refine h.same (by rw [node]) (by rw [node]) (by rw [node]) (by rw [history]) (by rw [history])
      fun other sent' hgoal hleg => ?_
    rw [goals] at hgoal
    rcases update_cases hgoal with ⟨-, hgoal⟩ | ⟨-, hgoal⟩
    · obtain rfl := Option.some.inj hgoal
      exact h.contact goal sent found hleg
    · exact h.contact other sent' hgoal hleg
  | ends x hends => exact hends.cleared h
  | completes goal index endpoint hends => exact hends.cleared h

/-! ## §3. The goals of a canceled command. -/

/-- What is known of the accepted goals. -/
structure Handled (w : World F) : Prop where
  leg : ∀ goal sent, w.goals goal = some sent → sent.accepted = true → sent.leg.isSome = true →
    w.node.activeGoal = some goal
  contact : ∀ goal sent, w.goals goal = some sent → sent.accepted = true → sent.leg = none →
    w.node.activeContactGoal = some goal
  asked : w.history.begun ≠ w.history.cancels → ∀ goal sent, w.goals goal = some sent →
    sent.accepted = true → goal ∈ w.history.asked

section

omit [Metric F]

/-- Where no goal was accepted nothing is to be known. -/
theorem Handled.none (h : ∀ goal sent, w.goals goal = some sent → sent.accepted = true → False) :
    Handled w :=
  ⟨fun goal sent hgoal hyes _ => (h goal sent hgoal hyes).elim,
    fun goal sent hgoal hyes _ => (h goal sent hgoal hyes).elim,
    fun _ goal sent hgoal hyes => (h goal sent hgoal hyes).elim⟩

theorem Handled.same (h : Handled w) (hgoal : w'.node.activeGoal = w.node.activeGoal)
    (hcontact : w'.node.activeContactGoal = w.node.activeContactGoal)
    (hbegun : w'.history.begun = w.history.begun)
    (hcancels : w'.history.cancels = w.history.cancels)
    (hasked : w'.history.asked = w.history.asked) (hgoals : w'.goals = w.goals) : Handled w' := by
  refine ⟨fun goal sent hsent => ?_, fun goal sent hsent => ?_, fun hne goal sent hsent => ?_⟩
  · rw [hgoals] at hsent
    rw [hgoal]
    exact h.leg goal sent hsent
  · rw [hgoals] at hsent
    rw [hcontact]
    exact h.contact goal sent hsent
  · rw [hgoals] at hsent
    rw [hbegun, hcancels] at hne
    rw [hasked]
    exact h.asked hne goal sent hsent

/-- A goal that was just sent has no response yet. -/
theorem pending_sent {leg : Option (Nat × RoutePose F)}
    (hgoals : w'.goals = Function.update w.goals w.nextGoal
      (some { leg := leg, accepted := false }))
    (hnone : ∀ goal sent, w.goals goal = some sent → False) (goal : Nat) (sent : Goal F)
    (hgoal : w'.goals goal = some sent) (hyes : sent.accepted = true) : False := by
  rw [hgoals] at hgoal
  rcases update_cases hgoal with ⟨-, hgoal⟩ | ⟨-, hgoal⟩
  · obtain rfl := Option.some.inj hgoal
    cases hyes
  · exact hnone goal sent hgoal

end

theorem handled_step (h : Handled w) (hb : Baton w.Holds w.node.goalActive) (hc : Cleared w)
    (hd : Did A R stop w w') : Handled w' := by
  cases hd with
  | aside route timer threads judged goals history =>
    exact h.same route.activeGoal route.activeContactGoal history.begun history.cancels
      history.asked goals.goals
  | halts node activity goals history =>
    refine ⟨fun goal sent hgoal => ?_, fun goal sent hgoal => ?_, fun _ goal sent hgoal hyes => ?_⟩
    · rw [goals.goals] at hgoal
      rw [node]
      exact h.leg goal sent hgoal
    · rw [goals.goals] at hgoal
      rw [node]
      exact h.contact goal sent hgoal
    · -- the handle of an accepted goal is there, so its cancellation is asked for
      rw [goals.goals] at hgoal
      rw [history]
      show goal ∈ w.history.asked ++ (w.node.activeGoal.toList ++ w.node.activeContactGoal.toList)
      refine List.mem_append_right _ (List.mem_append.mpr ?_)
      by_cases hleg : sent.leg.isSome = true
      · left
        rw [h.leg goal sent hgoal hyes hleg]
        exact List.mem_singleton_self _
      · right
        rw [h.contact goal sent hgoal hyes (Option.not_isSome_iff_eq_none.mp hleg)]
        exact List.mem_singleton_self _
  | drops t free inactive waypoints timer only before after judged goals history =>
    exact .none fun goal sent hgoal _ => nobody_idle hb free goals.goals hgoal
  | enters t token guarded judged free valid ordinary some node activity goals history =>
    exact .none fun goal sent hgoal _ => nobody_idle hb free goals.goals hgoal
  | contacts t token guarded judged free valid contact node activity goals nextGoal history =>
    exact .none (pending_sent goals fun goal sent => no_goal (hb.idle free))
  | reads t token index leg entering unblocked position bound endpoint last retreat preserved node
      activity goals history =>
    exact h.same (by rw [node]) (by rw [node]) history.begun history.cancels history.asked goals.goals
  | thinks t token stage stage' was thought node activity goals history =>
    exact h.same (by rw [node]) (by rw [node]) history.begun history.cancels history.asked goals.goals
  | replaces t token leg waypoints was unblocked position inside node activity goals history =>
    exact h.same (by rw [node]) (by rw [node]) history.begun history.cancels history.asked goals.goals
  | checks t token leg endpoint moment was unblocked position valid node activity goals history =>
    exact h.same (by rw [node]) (by rw [node]) (by rw [history]; rfl) (by rw [history]; rfl)
      (by rw [history]; rfl) goals.goals
  | sends t token leg endpoint seen was node activity goals nextGoal history =>
    exact .none (pending_sent goals fun goal sent => no_goal_leg hb was)
  | passes old new held onward rest positions stages goalActive cancelPending waypoints retreat
      preserved goals judged history =>
    refine .none fun goal sent hgoal _ => ?_
    -- a goal goes on only by its own answer, which ends it
    rcases rest _ (holds_goal hgoal) with hnew | ⟨hne, hold⟩
    · exact onward goal hnew.symm
    · exact hne (hb.one _ _ hold held)
  | stalls x held rest positions why route judged goals history =>
    exact .none fun goal sent hgoal _ => no_goal (nobody hb held rest) hgoal
  | accepts goal sent found pending node activity goals nextGoal history =>
    -- it is the only one
    have honly : ∀ other sent', w'.goals other = some sent' → other = goal ∧
        sent' = { sent with accepted := true } := by
      intro other sent' hother
      rw [goals] at hother
      rcases update_cases hother with ⟨hsame, hother⟩ | ⟨hsame, hother⟩
      · exact ⟨hsame, (Option.some.inj hother).symm⟩
      · exact absurd (Holder.goal.inj (hb.one _ _ (holds_goal hother) (holds_goal found))) hsame
    refine ⟨fun other sent' hother _ hleg => ?_, fun other sent' hother _ hleg => ?_,
      fun hne other sent' hother _ => ?_⟩
    · obtain ⟨rfl, rfl⟩ := honly other sent' hother
      rw [node]
      exact if_pos hleg
    · obtain ⟨rfl, rfl⟩ := honly other sent' hother
      rw [node]
      exact if_neg (by rw [Option.not_isSome_iff_eq_none]; exact hleg)
    · obtain ⟨rfl, -⟩ := honly other sent' hother
      -- the response reads the mark of the cancel and asks for the cancellation then
      have hbusy := hb.flagged _ (holds_goal found)
      rw [history] at hne ⊢
      show other ∈ w.history.asked ++ if w.node.cancelPending ∨ _ then [other] else []
      rw [if_pos (Or.inl (hc.halted hne hbusy).1)]
      exact List.mem_append_right _ (List.mem_singleton_self _)
  | ends x hends =>
    exact .none fun goal sent hgoal _ => no_goal (nobody hb hends.held hends.rest) hgoal
  | completes goal index endpoint hends =>
    exact .none fun goal sent hgoal _ => no_goal (nobody hb hends.held hends.rest) hgoal

/-! ## §4. The last check. -/

/-- What is known of the checks before the goals. -/
structure Checked (w : World F) : Prop where
  sending : ∀ t token leg endpoint seen,
    w.activity t = .submitting token (.sending leg endpoint seen) →
      w.history.checked = w.history.begun
  legs : ∀ sent ∈ w.history.legs, sent.checked = sent.begun
  contacts : ∀ sent ∈ w.history.contacts, sent.checked = sent.begun

omit [Metric F] in
theorem Checked.same (h : Checked w) (hlegs : w'.history.legs = w.history.legs)
    (hcontacts : w'.history.contacts = w.history.contacts)
    (hsending : ∀ t token leg endpoint seen,
      w'.activity t = .submitting token (.sending leg endpoint seen) →
        w'.history.checked = w'.history.begun) : Checked w' :=
  ⟨hsending, by rw [hlegs]; exact h.legs, by rw [hcontacts]; exact h.contacts⟩

omit [Metric F] in
/-- A leg that is sent next was being worked on. -/
theorem sending_before {t : Thread} {token : Option Nat} {stage stage' : Stage F}
    (hwas : w.activity t = .submitting token stage)
    (hactivity : w'.activity = Function.update w.activity t (.submitting token stage'))
    (hb : Baton w.Holds w.node.goalActive) {u : Thread} {token' : Option Nat} {other : Stage F}
    (hu : w'.activity u = .submitting token' other) : other = stage' := by
  rw [hactivity] at hu
  rcases update_cases hu with ⟨-, hu⟩ | ⟨hut, hu⟩
  · exact (Activity.submitting.inj hu).2.symm
  · exact absurd (Holder.thread.inj (hb.one _ _ (holds_submitting hu) (holds_submitting hwas))) hut

theorem thought_unsent {stage stage' : Stage F} (h : Thinks A R stage stage') (leg : Leg F)
    (endpoint : RoutePose F) (seen : Handoff F) : stage' ≠ .sending leg endpoint seen := by
  intro heq
  cases h with
  | stale leg => cases heq
  | retreats leg retreat =>
    unfold PortalNode.reprove at heq
    split at heq
    · cases heq
    · cases heq
  | replans leg ordinary accepted some => cases heq
  | throws leg endpoint seen => cases heq

/-- A leg that has passed its last check had passed it before, or passes it now. -/
theorem sending_step (hb : Baton w.Holds w.node.goalActive) (hd : Did A R stop w w') {u : Thread}
    {token : Option Nat} {leg : Leg F} {endpoint : RoutePose F} {seen : Handoff F}
    (hu : w'.activity u = .submitting token (.sending leg endpoint seen)) :
    w.activity u = .submitting token (.sending leg endpoint seen) ∨
      (∃ stop, w.node.legBlocked stop = false) ∧ w'.history = w.checks := by
  cases hd with
  | aside route timer threads judged goals history =>
    rcases threads u with hsame | ⟨-, hnot⟩
    · exact Or.inl (hsame.symm.trans hu)
    · rw [hu] at hnot
      exact absurd trivial hnot
  | halts node activity goals history =>
    rw [activity] at hu
    exact Or.inl hu
  | drops t free inactive waypoints timer only before after judged goals history =>
    by_cases hut : u = t
    · rw [← hut, hu] at after
      exact absurd trivial after
    · exact Or.inl ((only u hut).symm.trans hu)
  | enters t token guarded judged free valid ordinary some node activity goals history =>
    rw [activity] at hu
    rcases update_cases hu with ⟨-, hu⟩ | ⟨-, hu⟩
    · cases hu
    · exact Or.inl hu
  | contacts t token guarded judged free valid contact node activity goals nextGoal history =>
    rw [activity] at hu
    rcases update_cases hu with ⟨-, hu⟩ | ⟨-, hu⟩
    · cases hu
    · exact Or.inl hu
  | reads t token index leg entering unblocked position bound endpoint last retreat preserved node
      activity goals history =>
    cases sending_before entering activity hb hu
  | thinks t token stage stage' was thought node activity goals history =>
    exact absurd (sending_before was activity hb hu).symm (thought_unsent thought _ _ _)
  | replaces t token leg waypoints was unblocked position inside node activity goals history =>
    have hstage := sending_before was activity hb hu
    unfold PortalNode.reprove at hstage
    split at hstage
    · cases hstage
    · cases hstage
  | checks t token leg endpoint moment was unblocked position valid node activity goals history =>
    -- this is the last check itself
    exact Or.inr ⟨⟨moment.stop, unblocked⟩, history⟩
  | sends t token leg endpoint seen was node activity goals nextGoal history =>
    rw [activity] at hu
    rcases update_cases hu with ⟨-, hu⟩ | ⟨-, hu⟩
    · exact absurd (by rw [hu]; exact trivial) (carries_afterLeg (F := F) token)
    · exact Or.inl hu
  | passes old new held onward rest positions stages goalActive cancelPending waypoints retreat
      preserved goals judged history =>
    rcases stages u token _ hu with hsame | ⟨index, hentering⟩
    · exact Or.inl hsame
    · cases hentering
  | stalls x held rest positions why route judged goals history =>
    exact absurd (holds_submitting hu) (nobody hb held rest _)
  | accepts goal sent found pending node activity goals nextGoal history =>
    rw [activity] at hu
    exact Or.inl hu
  | ends x hends history =>
    exact absurd (holds_submitting hu) (nobody hb hends.held hends.rest _)
  | completes goal index endpoint hends found some last history =>
    exact absurd (holds_submitting hu) (nobody hb hends.held hends.rest _)

/-- What a step records. -/
inductive Recorded (w w' : World F) : Prop where
  | nothing (commands : w'.history.commands = w.history.commands)
      (begun : w'.history.begun = w.history.begun)
      (cancels : w.history.cancels ≤ w'.history.cancels)
      (checked : w'.history.checked = w.history.checked ∨
        (∃ stop, w.node.legBlocked stop = false) ∧ w'.history = w.checks)
      (legs : w'.history.legs = w.history.legs)
      (contacts : w'.history.contacts = w.history.contacts)
  | command (free : w.node.goalActive = false)
      (commands : w'.history.commands = w.history.commands + 1)
      (legs : w'.history.legs = w.history.legs)
      (contacts : w'.history.contacts = w.history.contacts ∨ ∃ token sent,
        w.node.commandGate.valid token = true ∧ sent.begun = w.history.begunAt token ∧
          sent.checked = w.history.cancels ∧
          w'.history.contacts = w.history.contacts ++ [sent])
  | leg (t : Thread) (token : Option Nat) (leg : Leg F) (endpoint : RoutePose F)
      (seen : Handoff F) (was : w.activity t = .submitting token (.sending leg endpoint seen))
      (activity : w'.activity = Function.update w.activity t (World.afterLeg token))
      (history : w'.history = { w.history with
        legs := w.history.legs ++ [w.sentLeg leg endpoint seen] })

omit [Metric F] in
theorem SameHistory.recorded (h : SameHistory w.history w'.history) : Recorded w w' :=
  .nothing h.commands h.begun h.cancels.ge (Or.inl h.checked) h.legs h.contacts

theorem recorded_step (hd : Did A R stop w w') : Recorded w w' := by
  cases hd with
  | aside route timer threads judged goals history => exact history.recorded
  -- a stop adds one cancel
  | halts node activity goals history =>
    refine .nothing ?_ ?_ ?_ (Or.inl ?_) ?_ ?_
    · rw [history]
    · rw [history]
    · rw [history]
      exact Nat.le_succ _
    · rw [history]
    · rw [history]
    · rw [history]
  | drops t free inactive waypoints timer only before after judged goals history =>
    exact history.recorded
  -- a command begins, with a route or with a contact
  | enters t token guarded judged free valid ordinary some node activity goals history =>
    refine .command free ?_ ?_ (Or.inl ?_)
    · rw [history]
      rfl
    · rw [history]
      rfl
    · rw [history]
      rfl
  | contacts t token guarded judged free valid contact node activity goals nextGoal history =>
    refine .command free ?_ ?_ (Or.inr ⟨token, _, valid, rfl, rfl, by rw [history]⟩)
    · rw [history]
      rfl
    · rw [history]
      rfl
  | reads t token index leg entering unblocked position bound endpoint last retreat preserved node
      activity goals history => exact history.recorded
  | thinks t token stage stage' was thought node activity goals history => exact history.recorded
  | replaces t token leg waypoints was unblocked position inside node activity goals history =>
    exact history.recorded
  | checks t token leg endpoint moment was unblocked position valid node activity goals history =>
    refine .nothing ?_ ?_ ?_ (Or.inr ⟨⟨moment.stop, unblocked⟩, history⟩) ?_ ?_
    · rw [history]
      rfl
    · rw [history]
      rfl
    · rw [history]
      exact Nat.le_refl _
    · rw [history]
      rfl
    · rw [history]
      rfl
  -- and a leg is sent
  | sends t token leg endpoint seen was node activity goals nextGoal history =>
    exact .leg t token leg endpoint seen was activity history
  | passes old new held onward rest positions stages goalActive cancelPending waypoints retreat
      preserved goals judged history => exact history.recorded
  | stalls x held rest positions why route judged goals history => exact history.recorded
  | accepts goal sent found pending node activity goals nextGoal history =>
    refine .nothing ?_ ?_ ?_ (Or.inl ?_) ?_ ?_
    · rw [history]
    · rw [history]
    · rw [history]
    · rw [history]
    · rw [history]
    · rw [history]
  | ends x hends history => exact history.recorded
  | completes goal index endpoint hends found some last history =>
    refine .nothing ?_ ?_ ?_ (Or.inl ?_) ?_ ?_
    · rw [history]
    · rw [history]
    · rw [history]
    · rw [history]
    · rw [history]
    · rw [history]

omit [Metric F] in
/-- After a leg was sent no other has passed its last check. -/
theorem nothing_sending (hb : Baton w.Holds w.node.goalActive) {t : Thread} {token : Option Nat}
    {stage : Stage F} (hwas : w.activity t = .submitting token stage)
    (hactivity : w'.activity = Function.update w.activity t (World.afterLeg token)) {u : Thread}
    {token' : Option Nat} {other : Stage F} : w'.activity u ≠ .submitting token' other := by
  intro hu
  rw [hactivity] at hu
  rcases update_cases hu with ⟨-, hu⟩ | ⟨hut, hu⟩
  · exact absurd (by rw [hu]; exact trivial) (carries_afterLeg (F := F) token)
  · exact hut (Holder.thread.inj (hb.one _ _ (holds_submitting hu) (holds_submitting hwas)))

theorem checked_step (h : Checked w) (hb : Baton w.Holds w.node.goalActive) (hc : Cleared w)
    (hm : Marked w) (hd : Did A R stop w w') : Checked w' := by
  cases recorded_step hd with
  | nothing commands begun cancels checked legs contacts =>
    refine ⟨fun u token leg endpoint seen hu => ?_, by rw [legs]; exact h.legs,
      by rw [contacts]; exact h.contacts⟩
    rcases checked with hsame | ⟨⟨stop, hopen⟩, hchecks⟩
    · rcases sending_step hb hd hu with hbefore | ⟨⟨stop, hopen⟩, hchecks⟩
      · rw [hsame, begun]
        exact h.sending u token leg endpoint seen hbefore
      · rw [hchecks]
        exact (hc.open hopen).symm
    · rw [hchecks]
      exact (hc.open hopen).symm
  | command free commands legs contacts =>
    refine ⟨fun u token leg endpoint seen hu => ?_, by rw [legs]; exact h.legs, ?_⟩
    · rcases sending_step hb hd hu with hbefore | ⟨⟨stop, hopen⟩, -⟩
      · exact absurd (holds_submitting hbefore) (hb.idle free _)
      · rw [(not_blocked hopen).1] at free
        cases free
    · rcases contacts with hsame | ⟨token, sent, hvalid, hbegun, hchecked, hnew⟩
      · rw [hsame]
        exact h.contacts
      · rw [hnew]
        intro other hother
        rcases List.mem_append.mp hother with hold | hlast
        · exact h.contacts other hold
        · rw [List.mem_singleton.mp hlast, hbegun, hchecked]
          exact (token_marked hm hvalid).symm
  | leg t token leg endpoint seen was activity history =>
    refine ⟨fun u token' leg' endpoint' seen' hu => absurd hu (nothing_sending hb was activity), ?_,
      by rw [history]; exact h.contacts⟩
    rw [history]
    intro sent hsent
    rcases List.mem_append.mp hsent with hold | hnew
    · exact h.legs sent hold
    · rw [List.mem_singleton.mp hnew]
      exact h.sending t token leg endpoint seen was

/-! ## §5. Runs. -/

/-- All that is known of a stop. -/
structure Stops (w : World F) : Prop where
  marked : Marked w
  baton : Baton w.Holds w.node.goalActive
  cleared : Cleared w
  handled : Handled w
  checked : Checked w

theorem stops_step (h : Stops w) {e : Event F} (hstep : w.next A R realMode e = some w') :
    Stops w' :=
  ⟨marked_step h.marked (next_gated hstep), baton_step h.baton (next_did hstep),
    cleared_step h.cleared h.baton h.marked (next_did hstep),
    handled_step h.handled h.baton h.cleared (next_did hstep),
    checked_step h.checked h.baton h.cleared h.marked (next_did hstep)⟩

theorem stops (h : (portal A R realMode).Reachable w) : Stops w := by
  refine h.invariant (fun a ha => ?_) fun _ _ _ hstep ha => stops_step ha hstep
  obtain rfl : a = World.initial := ha
  refine ⟨⟨fun hne => absurd rfl hne, fun _ => Nat.le_refl _⟩, baton_initial,
    ⟨fun _ => rfl, fun _ _ _ _ => rfl, fun hne => absurd rfl hne⟩,
    .none fun goal sent hgoal _ => (by cases hgoal),
    ⟨fun t token leg endpoint seen ht => (by cases ht),
      fun _ hsent => (List.not_mem_nil hsent).elim, fun _ hsent => (List.not_mem_nil hsent).elim⟩⟩

/-- **A stop wins.**  Of every goal that was ever sent, no cancel came between the
    reservation of its command and its last check.  Once one has come, the route
    is gone, nothing is left to go on with and the cancellation of every accepted
    goal was asked for. -/
theorem stop_wins (h : (portal A R realMode).Reachable w) :
    (∀ sent ∈ w.history.legs, sent.checked = sent.begun) ∧
      (∀ sent ∈ w.history.contacts, sent.checked = sent.begun) ∧
      (w.history.begun ≠ w.history.cancels →
        (w.node.goalActive = true →
          w.node.cancelPending = true ∧ w.node.routeWaypoints = []) ∧
        ∀ goal sent, w.goals goal = some sent → sent.accepted = true →
          goal ∈ w.history.asked) :=
  ⟨(stops h).checked.legs, (stops h).checked.contacts, fun hne =>
    ⟨(stops h).cleared.halted hne, (stops h).handled.asked hne⟩⟩

theorem stop_wins_halted : ∃ w : World Extended, w.history.legs ≠ [] ∧
    w.history.begun ≠ w.history.cancels ∧ (∀ sent ∈ w.history.legs, sent.checked = sent.begun) ∧
      (∀ sent ∈ w.history.contacts, sent.checked = sent.begun) ∧
      (w.history.begun ≠ w.history.cancels →
        (w.node.goalActive = true →
          w.node.cancelPending = true ∧ w.node.routeWaypoints = []) ∧
        ∀ goal sent, w.goals goal = some sent → sent.accepted = true →
          goal ∈ w.history.asked) := by
  obtain ⟨w, hreachable, sent, hgone⟩ := detour_underway
  have hcancel : (portal reachModel detourArms false).step w .cancel
      { w with
        node := w.node.cancel.2
        history := { w.history with
          cancels := w.history.cancels + 1
          asked := w.history.asked ++ w.node.cancel.1 } } := rfl
  refine ⟨_, ?_, ?_, stop_wins (hreachable.run (.single hcancel))⟩
  · show w.history.legs ≠ []
    rw [hgone.legs]
    simp
  · show w.history.begun ≠ w.history.cancels + 1
    rw [hgone.begun, hgone.cancels]
    omega

/-- What may still be sent for a command behind a cancel: nothing, or the one leg
    that had passed its last check. -/
structure Late (w₀ w : World F) : Prop where
  canceled : w.history.begun < w.history.cancels
  contacts : w.history.contacts = w₀.history.contacts
  legs : w.history.legs = w₀.history.legs ∧
      (∀ t token leg endpoint seen, w.activity t = .submitting token (.sending leg endpoint seen) →
        w₀.activity t = .submitting token (.sending leg endpoint seen)) ∨
    ∃ sent, w.history.legs = w₀.history.legs ++ [sent] ∧
      (∃ t token, w₀.activity t =
        .submitting token (.sending sent.leg sent.endpoint sent.seen)) ∧
      ∀ t token leg endpoint seen, w.activity t ≠ .submitting token (.sending leg endpoint seen)

theorem late_step {w₀ : World F} (hs : Stops w) (h : w.history.commands = w₀.history.commands →
      Late w₀ w) (hd : Did A R stop w w') (hmore : w₀.history.commands ≤ w.history.commands)
    (hsame : w'.history.commands = w₀.history.commands) : Late w₀ w' := by
  have hnotopen : ∀ stop, Late w₀ w → w.node.legBlocked stop ≠ false := fun stop hlate hopen =>
    absurd (hs.cleared.open hopen) hlate.canceled.ne
  cases recorded_step hd with
  | nothing commands begun cancels checked legs contacts =>
    have hlate := h (commands.symm.trans hsame)
    have hsending : ∀ t token leg endpoint seen,
        w'.activity t = .submitting token (.sending leg endpoint seen) →
          w.activity t = .submitting token (.sending leg endpoint seen) := by
      intro t token leg endpoint seen ht
      rcases sending_step hs.baton hd ht with hbefore | ⟨⟨stop, hopen⟩, -⟩
      · exact hbefore
      · exact absurd hopen (hnotopen stop hlate)
    refine ⟨by rw [begun]; exact hlate.canceled.trans_le cancels, contacts.trans hlate.contacts, ?_⟩
    rcases hlate.legs with ⟨hnone, hbefore⟩ | ⟨sent, hlegs, hwas, hnever⟩
    · exact Or.inl ⟨legs.trans hnone, fun t token leg endpoint seen ht =>
        hbefore t token leg endpoint seen (hsending t token leg endpoint seen ht)⟩
    · exact Or.inr ⟨sent, legs.trans hlegs, hwas, fun t token leg endpoint seen ht =>
        hnever t token leg endpoint seen (hsending t token leg endpoint seen ht)⟩
  | command free commands => omega
  | leg t token leg endpoint seen was activity history =>
    have hcommands : w.history.commands = w₀.history.commands := by
      rw [history] at hsame
      exact hsame
    have hlate := h hcommands
    refine ⟨by rw [history]; exact hlate.canceled, by rw [history]; exact hlate.contacts, Or.inr ?_⟩
    rcases hlate.legs with ⟨hnone, hbefore⟩ | ⟨-, -, -, hnever⟩
    · refine ⟨w.sentLeg leg endpoint seen, ?_, ⟨t, token, hbefore t token leg endpoint seen was⟩,
        fun u token' leg' endpoint' seen' => nothing_sending hs.baton was activity⟩
      rw [history, ← hnone]
    · exact absurd was (hnever t token leg endpoint seen)

/-- **The last leg.**  Behind a cancel, and until another command begins, at most
    one more leg is sent, and only if it had passed its last check before; no
    contact goal is. -/
theorem last_leg {w₀ : World F} {es : List (Event F)} (h : (portal A R realMode).Reachable w₀)
    (hcanceled : w₀.history.begun < w₀.history.cancels)
    (hrun : (portal A R realMode).Run w₀ es w)
    (hsame : w.history.commands = w₀.history.commands) :
    w.history.contacts = w₀.history.contacts ∧
      (w.history.legs = w₀.history.legs ∨
        ∃ sent, w.history.legs = w₀.history.legs ++ [sent] ∧ ∃ t token,
          w₀.activity t = .submitting token (.sending sent.leg sent.endpoint sent.seen)) := by
  have hall : Stops w ∧ w₀.history.commands ≤ w.history.commands ∧
      (w.history.commands = w₀.history.commands → Late w₀ w) := by
    refine hrun.invariant (I := fun w : World F => Stops w ∧
      w₀.history.commands ≤ w.history.commands ∧
        (w.history.commands = w₀.history.commands → Late w₀ w))
      ⟨stops h, Nat.le_refl _, fun _ => ⟨hcanceled, rfl, Or.inl ⟨rfl, fun _ _ _ _ _ ht => ht⟩⟩⟩
      fun a e b hstep ⟨hs, hmore, hlate⟩ => ?_
    have hd := next_did hstep
    have hgrows : a.history.commands ≤ b.history.commands := by
      cases recorded_step hd with
      | nothing commands => exact commands.ge
      | command free commands => omega
      | leg t token leg endpoint seen was activity history => rw [history]
    exact ⟨stops_step hs hstep, hmore.trans hgrows, late_step hs hlate hd hmore⟩
  obtain ⟨-, -, hlate⟩ := hall
  refine ⟨(hlate hsame).contacts, ?_⟩
  rcases (hlate hsame).legs with ⟨hnone, -⟩ | ⟨sent, hlegs, hwas, -⟩
  · exact Or.inl hnone
  · exact Or.inr ⟨sent, hlegs, hwas⟩

/-- A leg that had passed its last check is sent behind the cancel. -/
theorem last_leg_sent : ∃ w₀ w : World Extended, w₀.history.begun < w₀.history.cancels ∧
    w₀.history.legs = [] ∧ w.history.legs ≠ [] ∧ w.history.contacts = w₀.history.contacts ∧
      (w.history.legs = w₀.history.legs ∨
        ∃ sent, w.history.legs = w₀.history.legs ++ [sent] ∧ ∃ t token,
          w₀.activity t = .submitting token (.sending sent.leg sent.endpoint sent.seen)) := by
  obtain ⟨planned, -, hfeasible⟩ := detour_feasible
  obtain ⟨es, node, k, token, scale, first, last, hrun, -, -, -, -, hbegun⟩ :=
    planned_checked (initial_ready 0) hfeasible
  have hchecked := (Lts.Reachable.of_init (T := portal reachModel detourArms false) rfl).run hrun
  -- the cancel, and then the block that sends
  have hcancel : (portal reachModel detourArms false).step
      (World.initial.doing (.worker 0) node (.submitting (some token) (.sending
        (firstLeg (observed World.initial.node.evidence quietMoment detourQ) scale
          (commandedSide detourJob.request) first last) first
        ⟨observed World.initial.node.evidence quietMoment detourQ, quietMoment⟩)) k) .cancel
      (World.initial.doing (.worker 0) node.cancel.2 (.submitting (some token) (.sending
        (firstLeg (observed World.initial.node.evidence quietMoment detourQ) scale
          (commandedSide detourJob.request) first last) first
        ⟨observed World.initial.node.evidence quietMoment detourQ, quietMoment⟩)) { k with
          cancels := k.cancels + 1
          asked := k.asked ++ node.cancel.1 }) := rfl
  have hcanceled : k.begun < k.cancels + 1 := by
    rw [hbegun.begun, hbegun.cancels]
    omega
  refine ⟨_, _, hcanceled, hbegun.legs, List.append_ne_nil_of_right_ne_nil _ ?_,
    last_leg (hchecked.run (.single hcancel)) hcanceled
      (.single (sent_next (quietTurn quietMoment) rfl)) rfl⟩
  simp

end OpenArm.Node
