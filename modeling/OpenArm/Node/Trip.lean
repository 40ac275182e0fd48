/-
  OpenArm.Node.Trip — the way of one request, from the encoders to its goals.

  Six proofs stand between a request and its first goal: the guard's, the two
  comparisons of `move`, the replan, the second proof and the last comparison.
  Nothing on the way may contradict anything else: while the arms keep still
  and nobody interferes, what the guard accepts is sent.

  Main results:
    * `planned_proved`  — a request the library finds a route for is proved twice.
    * `planned_checked` — it passes all six.
    * `planned_carried` — its first leg is sent, and what follows.
-/
import OpenArm.Node.World

namespace OpenArm.Node

open OpenArm.Lib OpenArm.Control OpenArm.Model OpenArm.Guard PortalNode

variable {F : Type} [Metric F]

/-! ## §1. Worlds on the way. -/

/-- The world where one thread went on to something else. -/
def World.doing (w : World F) (t : Thread) (node : PortalNode F) (a : Activity F)
    (history : History F) : World F :=
  { w with node, activity := Function.update w.activity t a, history }

omit [Metric F] in
/-- The way of a thread is the way of the thread from where it was. -/
theorem doing_become (w : World F) (t : Thread) (node node' : PortalNode F) (a a' : Activity F)
    (history history' : History F) :
    { (w.doing t node a history).become t a' with node := node', history := history' } =
      w.doing t node' a' history' := by
  unfold World.doing World.become
  simp only [Function.update_idem]

omit [Metric F] in
theorem doing_activity (w : World F) (t : Thread) (node : PortalNode F) (a : Activity F)
    (history : History F) : (w.doing t node a history).activity t = a :=
  Function.update_self _ _ _

/-- What is asked of the guard for a request, where the joints are. -/
def asked (q : PairQ F) (job : Job F) : GuardInput F :=
  { PortalNode.initial.guardInput job with measuredQ := q }

/-- The side `move` preserves. -/
def commandedSide (request : MoveRequest F) : Int :=
  if request.dual then -1 else if request.side = 0 then 1 else 0

omit [Metric F] in
theorem guardInput_preserved (n : PortalNode F) (job : Job F) :
    preservedOf (n.guardInput job) = commandedSide job.request := by
  show (if job.request.dual = true then (-1 : Int) else 1 - (job.request.side.val : Int)) =
    if job.request.dual = true then -1 else if job.request.side = 0 then 1 else 0
  split
  · rfl
  · split
    · next hleft =>
      rw [hleft]
      rfl
    · next hright =>
      have hlt := job.request.side.isLt
      have hne : job.request.side.val ≠ 0 := fun heq => hright (Fin.ext heq)
      omega

/-! ## §2. Evidence. -/

/-- A moment at which nothing is stale and no stop is requested. -/
structure Current (moment : Moment) : Prop where
  time : 0 < moment.timeNs
  steady : 0 < moment.steadyNs
  running : moment.stop = false

theorem current_fresh {moment : Moment} (h : Current moment) (maximumAgeNs : Int)
    (hage : 0 < maximumAgeNs) : freshAtUse ⟨moment.timeNs, moment.steadyNs⟩ moment.timeNs
      moment.steadyNs maximumAgeNs = true := by
  have htime := h.time
  have hsteady := h.steady
  unfold freshAtUse
  dsimp only
  rw [if_neg (by omega), decide_eq_true_eq]
  omega

/-- The evidence of one moment: these joints, and a healthy controller. -/
structure Evident (evidence : GuardHandoffEvidence F) (moment : Moment) (q : PairQ F) : Prop where
  measuredQ : evidence.measuredQ = q
  haveState : evidence.haveState = true
  diagnosticValid : evidence.diagnosticValid = true
  stateFreshness : evidence.stateFreshness = ⟨moment.timeNs, moment.steadyNs⟩
  diagnosticFreshness : evidence.diagnosticFreshness = ⟨moment.timeNs, moment.steadyNs⟩
  stateSequence : evidence.stateSequence ≠ 0
  diagnosticSequence : evidence.diagnosticSequence ≠ 0

/-- The evidence the callbacks leave behind. -/
def observed (evidence : GuardHandoffEvidence F) (moment : Moment) (q : PairQ F) :
    GuardHandoffEvidence F :=
  { measuredQ := q
    stateSequence := evidence.stateSequence + 1
    diagnosticSequence := evidence.diagnosticSequence + 1
    stateFreshness := ⟨moment.timeNs, moment.steadyNs⟩
    diagnosticFreshness := ⟨moment.timeNs, moment.steadyNs⟩
    haveState := true
    diagnosticValid := true }

omit [Metric F] in
theorem observed_evident (evidence : GuardHandoffEvidence F) (moment : Moment) (q : PairQ F) :
    Evident (observed evidence moment q) moment q :=
  ⟨rfl, rfl, rfl, rfl, rfl, Nat.succ_ne_zero _, Nat.succ_ne_zero _⟩

omit [Metric F] in
/-- A message about the joints and one about a healthy controller. -/
theorem observes {n : PortalNode F} {moment : Moment} (h : Current moment) {realMode : Bool}
    {statuses : List DiagnosticStatus} {status : DiagnosticStatus}
    (hfound : statuses.find? (fun status => status.name == expectedName realMode) = some status)
    (hhealthy : healthyStatus realMode status = true) (q : PairQ F) :
    (n.updateState moment moment.timeNs q).updateDiagnostics realMode moment moment.timeNs
      statuses = { n with evidence := observed n.evidence moment q } := by
  have hstate : freshAtUse ⟨moment.timeNs, moment.steadyNs⟩ moment.timeNs moment.steadyNs
      kStateFreshnessNs = true := current_fresh h _ (by decide)
  have hdiagnostic : freshAtUse ⟨moment.timeNs, moment.steadyNs⟩ moment.timeNs moment.steadyNs
      kDiagnosticFreshnessNs = true := current_fresh h _ (by decide)
  unfold PortalNode.updateState PortalNode.updateDiagnostics
  dsimp only
  rw [if_neg (by rw [hstate]; simp), hfound]
  dsimp only
  rw [hdiagnostic, hhealthy]
  rfl

/-! ## §3. The comparisons. -/

section Handoff

variable {A : GuardModel F} {evidence : GuardHandoffEvidence F} {moment : Moment} {q : PairQ F}

theorem generation_kept {sequence : Nat} (h : sequence ≠ 0) (freshness : FreshnessEvidence) :
    monotonicGeneration sequence freshness sequence freshness = true := by
  unfold monotonicGeneration
  rw [if_neg (by omega), if_pos rfl, decide_eq_true_eq]
  exact ⟨rfl, rfl⟩

/-- Joints the guard has measured, compared with themselves. -/
theorem joint_kept (hstill : ∀ a : F, Floating.isFinite a = true →
      ¬ kGuardJointEquivalenceTolerance < Floating.abs (a - a)) {side : Side}
    (hvalid : A.validateQ side (q side) kMeasuredLimitTolerance = true) (joint : Joint) :
    jointHandoff A q q side joint = none := by
  have hjoint := List.all_eq_true.mp hvalid joint (List.mem_finRange joint)
  rw [Bool.and_eq_true] at hjoint
  obtain ⟨hfinite, hinside⟩ := hjoint
  unfold jointHandoff
  cases hlimits : A.limits side joint with
  | none =>
    rw [hlimits] at hinside
    cases hinside
  | some range =>
    rw [hlimits] at hinside
    simp only [Bool.not_eq_true', Bool.or_eq_false_iff, decide_eq_false_iff_not] at hinside
    dsimp only
    rw [if_neg (by rw [hfinite]; simp), if_neg (by rw [not_or]; exact hinside),
      if_neg (hstill _ hfinite)]

/-- Evidence that is current passes the comparison with itself. -/
theorem evident_handed (h : Evident evidence moment q) (hmoment : Current moment)
    (hstill : ∀ a : F, Floating.isFinite a = true →
      ¬ kGuardJointEquivalenceTolerance < Floating.abs (a - a))
    (hvalid : ∀ side, A.validateQ side (q side) kMeasuredLimitTolerance = true) :
    guardHandoffFailure A evidence evidence moment.timeNs moment.steadyNs kStateFreshnessNs
      kDiagnosticFreshnessNs = none := by
  have hstate := current_fresh hmoment kStateFreshnessNs (by decide)
  have hdiagnostic := current_fresh hmoment kDiagnosticFreshnessNs (by decide)
  unfold guardHandoffFailure
  rw [h.haveState, h.diagnosticValid, h.stateFreshness, h.diagnosticFreshness, hstate, hdiagnostic,
    generation_kept h.stateSequence, generation_kept h.diagnosticSequence, h.measuredQ]
  simp only [Bool.true_eq_false, if_false]
  refine List.findSome?_eq_none_iff.mpr fun side _ => List.findSome?_eq_none_iff.mpr fun joint _ => ?_
  exact joint_kept hstill (hvalid side) joint

end Handoff

/-- Joints whose tools were found are within the limits. -/
theorem tools_valid {A : GuardModel F} {input : GuardInput F} {measuredTcp : RoutePose F}
    (h : measuredTools A input = .ok measuredTcp) :
    (∀ side, A.validateQ side (input.measuredQ side) kMeasuredLimitTolerance = true) ∧
      ∃ left right, A.forward 0 (input.measuredQ 0) = some left ∧
        A.forward 1 (input.measuredQ 1) = some right := by
  have hpose : ∀ side pose, measuredPose A input side = .ok pose →
      A.validateQ side (input.measuredQ side) kMeasuredLimitTolerance = true ∧
        A.forward side (input.measuredQ side) = some pose := by
    intro side pose hpose
    unfold measuredPose at hpose
    split at hpose
    · next hvalid =>
      split at hpose
      · next found hfound =>
        obtain rfl := Except.ok.inj hpose
        exact ⟨hvalid, hfound⟩
      · cases hpose
    · cases hpose
  unfold measuredTools at h
  split at h
  · cases h
  · next left hleft =>
    split at h
    · cases h
    · next right hright =>
      refine ⟨?_, left, right, (hpose 0 left hleft).2, (hpose 1 right hright).2⟩
      rw [Fin.forall_fin_two]
      exact ⟨(hpose 0 left hleft).1, (hpose 1 right hright).1⟩

/-! ## §4. The blocks. -/

section Blocks

variable {A : GuardModel F} {R : ArmModel F} {realMode : Bool} {w : World F} {t : Thread}
  {node node' : PortalNode F} {k : History F}

theorem reserves_next (turn : Turn) {job : Job F} {token : Nat}
    (h : node.beginGuard turn.first.stop = some (token, node')) :
    (w.doing t node (.admitted job) k).next A R realMode (.advance t turn) =
      some (w.doing t node' (.reserved token job)
        { k with begunAt := Function.update k.begunAt token k.cancels }) := by
  show (w.doing t node (.admitted job) k).advance A R realMode t turn = _
  unfold World.advance
  rw [doing_activity]
  dsimp only
  unfold World.beginsGuard
  rw [show (w.doing t node (.admitted job) k).node.beginGuard turn.first.stop =
    some (token, node') from h]
  exact congrArg some (doing_become ..)

theorem judges_next (turn : Turn) {job : Job F} {token : Nat} {tcp : RoutePose F}
    {guarded : Guarded F}
    (hstate : node.state A realMode turn.first = some tcp)
    (h : node.judge A R job tcp = some guarded) :
    (w.doing t node (.reserved token job) k).next A R realMode (.advance t turn) =
      some (w.doing t node (.judged token guarded) k) := by
  show (w.doing t node (.reserved token job) k).advance A R realMode t turn = _
  unfold World.advance
  rw [doing_activity]
  dsimp only
  unfold World.judges
  rw [show (w.doing t node (.reserved token job) k).node.state A realMode turn.first = some tcp
    from hstate, Option.bind_some,
    show (w.doing t node (.reserved token job) k).node.judge A R job tcp = some guarded from h]
  exact congrArg some (doing_become ..)

theorem moves_next (turn : Turn) {token : Nat} {guarded : Guarded F}
    (h : node.move A token guarded turn.first turn.second turn.available turn.sends =
      (.route, node')) :
    (w.doing t node (.judged token guarded) k).next A R realMode (.advance t turn) =
      some (w.doing t node' (.submitting (some token) (.entering 0))
        ({ w with history := k }.commanded t token guarded)) := by
  show (w.doing t node (.judged token guarded) k).advance A R realMode t turn = _
  unfold World.advance
  rw [doing_activity]
  dsimp only
  unfold World.moves
  rw [show (w.doing t node (.judged token guarded) k).node.move A token guarded turn.first
    turn.second turn.available turn.sends = (.route, node') from h]
  exact congrArg some (doing_become ..)

theorem submits_next (turn : Turn) {token : Option Nat} {stage stage' : Stage F}
    (h : node.submitRouteLeg A R turn.first turn.sends stage = (node', .next stage')) :
    (w.doing t node (.submitting token stage) k).next A R realMode (.advance t turn) =
      some (w.doing t node' (.submitting token stage')
        (if World.checkedStage stage' then { w with history := k }.checks
          else k)) := by
  show (w.doing t node (.submitting token stage) k).advance A R realMode t turn = _
  unfold World.advance
  rw [doing_activity]
  dsimp only
  unfold World.submits
  rw [show (w.doing t node (.submitting token stage) k).node.submitRouteLeg A R turn.first
    turn.sends stage = (node', .next stage') from h]
  exact congrArg some (doing_become ..)

theorem sent_next (turn : Turn) {token : Option Nat} {leg : Leg F} {endpoint : RoutePose F}
    {seen : Handoff F}
    (h : turn.sends = true) :
    (w.doing t node (.submitting token (.sending leg endpoint seen)) k).next A R realMode
      (.advance t turn) = some ({ w with
        goals := Function.update w.goals w.nextGoal
          (some { leg := some (leg.index, endpoint), accepted := false })
        nextGoal := w.nextGoal + 1 }.doing t node (World.afterLeg token) { k with
          legs := k.legs ++ [{ w with history := k }.sentLeg leg endpoint seen] }) := by
  show (w.doing t node (.submitting token (.sending leg endpoint seen)) k).advance A R realMode t
    turn = _
  unfold World.advance
  rw [doing_activity]
  dsimp only
  unfold World.submits PortalNode.submitRouteLeg
  dsimp only
  rw [if_pos h]
  refine congrArg some ?_
  unfold World.progresses World.doing World.become
  simp only [Function.update_idem]
  rfl

theorem releases_next (turn : Turn) {token : Nat} :
    (w.doing t node (.releasing token) k).next A R realMode (.advance t turn) =
      some (w.doing t (node.releaseGuard token) .idle k) := by
  show (w.doing t node (.releasing token) k).advance A R realMode t turn = _
  unfold World.advance
  rw [doing_activity]
  dsimp only
  exact congrArg some (doing_become ..)

theorem schedules_next (turn : Turn) {index : Nat}
    (h : node.scheduleRouteLeg turn.first index = (true, node')) :
    (w.doing t node (.scheduling index) k).next A R realMode (.advance t turn) =
      some (w.doing t node' (.arming index) k) := by
  show (w.doing t node (.scheduling index) k).advance A R realMode t turn = _
  unfold World.advance
  rw [doing_activity]
  dsimp only
  unfold World.schedules
  rw [show (w.doing t node (.scheduling index) k).node.scheduleRouteLeg turn.first index =
    (true, node') from h]
  exact congrArg some (doing_become ..)

theorem arms_next (turn : Turn) {index : Nat} (h : node.keepTimer turn.first index = node') :
    (w.doing t node (.arming index) k).next A R realMode (.advance t turn) =
      some (w.doing t node' .idle k) := by
  show (w.doing t node (.arming index) k).advance A R realMode t turn = _
  unfold World.advance
  rw [doing_activity]
  dsimp only
  unfold World.arms
  rw [show (w.doing t node (.arming index) k).node.keepTimer turn.first index = node' from h]
  exact congrArg some (doing_become ..)

end Blocks

/-! ## §5. A planned request. -/

/-- The node on the way of a planned request. -/
structure OnWay (n : PortalNode F) (evidence : GuardHandoffEvidence F)
    (waypoints : List (RoutePose F)) (preserved : Int) : Prop where
  evidence : n.evidence = evidence
  goalActive : n.goalActive = true
  cancelPending : n.cancelPending = false
  stopping : n.stopping = false
  routeWaypoints : n.routeWaypoints = waypoints
  routeIndex : n.routeIndex = 0
  routeTerminalRetreat : n.routeTerminalRetreat = false
  routePreservedSide : n.routePreservedSide = preserved

omit [Metric F] in
theorem OnWay.unblocked {n : PortalNode F} {evidence : GuardHandoffEvidence F}
    {waypoints : List (RoutePose F)} {preserved : Int} (h : OnWay n evidence waypoints preserved)
    {moment : Moment} (hmoment : Current moment) : n.legBlocked moment.stop = false := by
  unfold PortalNode.legBlocked
  rw [h.goalActive, h.cancelPending, h.stopping, hmoment.running]
  rfl

/-- What the guard hands `move` of a planned request. -/
def plannedGuarded (q : PairQ F) (job : Job F) (evidence : GuardHandoffEvidence F)
    (measuredTcp : RoutePose F) (planned : RouteResult F) : Guarded F where
  request := job.request
  input := asked q job
  evidence
  guard := (plannedRoute (asked q job) measuredTcp planned).final
  routeWaypoints := planned.waypoints.map RouteWaypoint.tcpM

section Planned

variable {A : GuardModel F} {R : ArmModel F} {q : PairQ F} {job : Job F}
  {measuredTcp : RoutePose F} {planned : RouteResult F} {evidence : GuardHandoffEvidence F}
  {moment : Moment} {n : PortalNode F}

theorem planned_judged (hplan : Planned A R (asked q job) measuredTcp planned)
    (hordinary : job.intentionalContact = false ∧ job.terminalRetreat = false)
    (hevidence : n.evidence = evidence) (hq : evidence.measuredQ = q) (tcp : RoutePose F) :
    n.judge A R job tcp = some (plannedGuarded q job evidence measuredTcp planned) := by
  have hinput : n.guardInput job = asked q job := by
    unfold asked PortalNode.guardInput
    rw [hevidence, hq]
  unfold PortalNode.judge
  rw [if_neg (by rw [hordinary.1]; simp), if_neg (by rw [hordinary.2]; simp), hinput,
    hplan.answer, hevidence]
  dsimp only
  exact if_pos rfl

theorem planned_state (hplan : Planned A R (asked q job) measuredTcp planned)
    (hevidence : Evident n.evidence moment q) (hmoment : Current moment) (realMode : Bool) :
    ∃ tcp, n.state A realMode moment = some tcp := by
  obtain ⟨-, left, right, hleft, hright⟩ := tools_valid hplan.tools
  have hstate := current_fresh hmoment kStateFreshnessNs (by decide)
  have hdiagnostic := current_fresh hmoment kDiagnosticFreshnessNs (by decide)
  unfold PortalNode.state PortalNode.stateFresh PortalNode.diagnosticFresh
  rw [hevidence.haveState, hevidence.diagnosticValid, hevidence.stateFreshness,
    hevidence.diagnosticFreshness, hstate, hdiagnostic, hevidence.measuredQ]
  rw [if_neg (by simp), show A.forward 0 (q 0) = some left from hleft,
    show A.forward 1 (q 1) = some right from hright]
  exact ⟨_, rfl⟩

/-- The joints of a planned request pass every comparison. -/
theorem planned_handed (hplan : Planned A R (asked q job) measuredTcp planned)
    (hstill : ∀ a : F, Floating.isFinite a = true →
      ¬ kGuardJointEquivalenceTolerance < Floating.abs (a - a))
    (hevidence : Evident n.evidence moment q) (hmoment : Current moment) :
    n.handoffValid A n.evidence moment = true := by
  unfold PortalNode.handoffValid
  rw [evident_handed hevidence hmoment hstill (tools_valid hplan.tools).1]
  rfl

/-- `move` enters a planned request. -/
theorem planned_moved (token : Nat) (guarded : Guarded F)
    (hordinary : guarded.input.requireTerminalContact = false)
    (hretreat : guarded.input.terminalRetreat = false) (hsome : guarded.routeWaypoints ≠ [])
    (hvalid : n.commandGate.valid token = true) (hfree : n.goalActive = false)
    (hrunning : n.stopping = false) (hmoment : Current moment)
    (hhanded : n.handoffValid A guarded.evidence moment = true) :
    n.move A token guarded moment moment true true = (.route, n.entered token guarded) ∧
      OnWay (n.entered token guarded) n.evidence guarded.routeWaypoints
        (commandedSide guarded.request) := by
  have hentered : OnWay (n.entered token guarded) n.evidence guarded.routeWaypoints
      (commandedSide guarded.request) := by
    unfold PortalNode.entered
    dsimp only
    rw [if_neg (by rw [hordinary]; simp)]
    exact ⟨rfl, rfl, rfl, hrunning, rfl, rfl, hretreat, rfl⟩
  refine ⟨?_, hentered⟩
  have hagain : (n.entered token guarded).handoffValid A guarded.evidence moment = true := by
    unfold PortalNode.handoffValid at hhanded ⊢
    rw [hentered.evidence]
    exact hhanded
  unfold PortalNode.move
  dsimp only
  rw [if_neg (by simp [hordinary, hsome]), if_neg (by simp [hvalid]),
    if_neg (by simp [hrunning, hmoment.running, hhanded]), if_neg (by simp [hfree]),
    if_neg (by simp [hentered.stopping, hmoment.running, hagain]),
    if_neg (by simp [hordinary])]

variable [FloatOrder F]

/-- The first leg of a planned request, as it is read. -/
def firstLeg (evidence : GuardHandoffEvidence F) (scale : F) (preserved : Int)
    (first last : RoutePose F) : Leg F where
  index := 0
  endpoint := first
  finalTarget := last
  guarded := evidence
  motionLimitScale := scale
  terminalRetreat := false
  preservedSide := preserved

variable {waypoints : List (RoutePose F)} {preserved : Int} {first last : RoutePose F}

section

omit [FloatOrder F]

theorem first_read (h : OnWay n evidence waypoints preserved) (hmoment : Current moment)
    (hfirst : waypoints.head? = some first) (hlast : waypoints.getLast? = some last) :
    n.submitRouteLeg A R moment true (.entering 0) = ({ n with routeIndex := 0 },
      .next (.read (firstLeg evidence n.routeMotionLimitScale preserved first last))) := by
  have hpos : 0 < n.routeWaypoints.length := by
    rw [h.routeWaypoints]
    cases waypoints with
    | nil => cases hfirst
    | cons point rest => exact Nat.succ_pos _
  have hopen : n.legBlocked moment.stop = false ∧ 0 < n.routeWaypoints.length ∧
      0 < kMaximumDynamicRouteLegs := ⟨h.unblocked hmoment, hpos, by decide⟩
  have hhead : n.routeWaypoints[0] = first := by
    have hsome : n.routeWaypoints.head? = some first := by
      rw [h.routeWaypoints]
      exact hfirst
    rw [List.head?_eq_getElem?, List.getElem?_eq_getElem hpos] at hsome
    exact Option.some.inj hsome
  have htail : n.routeWaypoints.getLast (List.ne_nil_of_length_pos (by omega)) = last := by
    have hsome : n.routeWaypoints.getLast? = some last := by
      rw [h.routeWaypoints]
      exact hlast
    rw [List.getLast?_eq_some_getLast (List.ne_nil_of_length_pos hpos)] at hsome
    exact Option.some.inj hsome
  unfold PortalNode.submitRouteLeg
  dsimp only
  rw [dif_pos hopen, hhead, htail, h.evidence, h.routeTerminalRetreat, h.routePreservedSide]
  rfl

theorem first_replanned (first : RoutePose F) (scale : F) (hmoment : Current moment)
    (hevidence : Evident evidence moment q)
    (haccepted : (routeOrProject A R (replanInput q last preserved)).accepted = true)
    (hsame : (routeOrProject A R (replanInput q last preserved)).waypointTcp = waypoints)
    (hsome : waypoints ≠ []) :
    n.submitRouteLeg A R moment true (.read (firstLeg evidence scale preserved first last)) =
      (n, .next (.replanned (firstLeg evidence scale preserved first last) waypoints)) := by
  have hfresh : freshAtUse evidence.stateFreshness moment.timeNs moment.steadyNs
      kStateFreshnessNs = true := by
    rw [hevidence.stateFreshness]
    exact current_fresh hmoment _ (by decide)
  unfold PortalNode.submitRouteLeg firstLeg
  dsimp only
  rw [if_neg (by rw [hfresh]; simp), if_neg (by simp), hevidence.measuredQ,
    if_neg (by rw [haccepted, hsame]; simp [hsome]), hsame]

theorem first_proved (last : RoutePose F) (scale : F) (h : OnWay n evidence waypoints preserved)
    (hmoment : Current moment) (hq : evidence.measuredQ = q)
    (hfirst : waypoints.head? = some first)
    (hproved : (revalidateDirectLeg A R q first false preserved).accepted = true) :
    n.submitRouteLeg A R moment true
        (.replanned (firstLeg evidence scale preserved first last) waypoints) =
      ({ n with
        routeWaypoints := waypoints
        routeReplanCount := n.routeReplanCount + 1 },
        .next (.proved (firstLeg evidence scale preserved first last) first)) := by
  have hpos : 0 < n.routeWaypoints.length := by
    rw [h.routeWaypoints]
    cases waypoints with
    | nil => cases hfirst
    | cons point rest => exact Nat.succ_pos _
  have hhead : waypoints.headD first = first := by
    rw [List.headD_eq_head?_getD, hfirst]
    rfl
  have hclear : ¬ (n.legBlocked moment.stop = true ∨ 0 ≠ n.routeIndex ∨
      n.routeWaypoints.length ≤ 0 ∨ n.routeTerminalRetreat = true) := by
    rw [h.unblocked hmoment, h.routeIndex, h.routeTerminalRetreat]
    simp only [Bool.false_eq_true, ne_eq, not_true_eq_false, false_or, or_false]
    omega
  unfold PortalNode.submitRouteLeg firstLeg
  dsimp only
  rw [if_neg hclear, hhead, List.take_zero, List.nil_append]
  unfold PortalNode.reprove
  dsimp only
  rw [hq, if_pos hproved]

theorem first_checked (first last : RoutePose F) (scale : F)
    (h : OnWay n evidence waypoints preserved)
    (hmoment : Current moment) (hhanded : n.handoffValid A evidence moment = true) :
    n.submitRouteLeg A R moment true
        (.proved (firstLeg evidence scale preserved first last) first) =
      (n, .next (.sending (firstLeg evidence scale preserved first last) first
        ⟨evidence, moment⟩)) := by
  unfold PortalNode.submitRouteLeg firstLeg
  dsimp only
  rw [if_neg (by rw [h.unblocked hmoment, h.routeIndex, hhanded]; simp), h.evidence]

end

/-! ## §6. The way. -/

/-- A portal that could begin a command. -/
structure Ready (w : World F) (worker : Nat) : Prop where
  free : w.node.goalActive = false
  running : w.node.stopping = false
  closed : w.node.commandGate.activeToken = 0
  left : w.node.commandGate.generation < maxU64
  released : w.latch = false
  executor : w.activity .executor = .idle
  idle : w.activity (.worker worker) = .idle

/-- What a command adds to the history before its first leg is sent. -/
structure Begun (w : World F) (k : History F) : Prop where
  cancels : k.cancels = w.history.cancels
  begun : k.begun = w.history.cancels
  checked : k.checked = w.history.cancels
  commands : k.commands = w.history.commands + 1
  legs : k.legs = w.history.legs
  contacts : k.contacts = w.history.contacts
  completed : k.completed = w.history.completed

/-- The environment while nobody interferes. -/
def quietTurn (moment : Moment) : Turn := ⟨moment, moment, true, true⟩

/-- What the way of a planned request takes for granted: the library and the
    comparison of joints treat a value as equal to itself, the controller is
    healthy, and the library finds a route. -/
structure Feasible (A : GuardModel F) (R : ArmModel F) (realMode : Bool) (moment : Moment)
    (statuses : List DiagnosticStatus) (q : PairQ F) (job : Job F) (planned : RouteResult F) :
    Prop where
  laws : RouteLaws R
  still : ∀ a : F, Floating.isFinite a = true →
    ¬ kGuardJointEquivalenceTolerance < Floating.abs (a - a)
  current : Current moment
  healthy : ∃ status, statuses.find? (fun status => status.name == expectedName realMode) =
    some status ∧ healthyStatus realMode status = true
  ordinary : job.intentionalContact = false ∧ job.terminalRetreat = false
  found : ∃ measuredTcp, Planned A R (asked q job) measuredTcp planned

variable {realMode : Bool} {statuses : List DiagnosticStatus} {w : World F} {worker : Nat}

omit [Metric F] [FloatOrder F] in
theorem ready_reserved (hfree : n.goalActive = false) (hrunning : n.stopping = false)
    (hclosed : n.commandGate.activeToken = 0) (hleft : n.commandGate.generation < maxU64) :
    n.beginGuard false = some (n.commandGate.generation + 1,
      { n with commandGate := ⟨n.commandGate.generation + 1, n.commandGate.generation + 1⟩ }) := by
  have hopen : ¬ (n.stopping = true ∨ false = true) := by simp [hrunning]
  have hgate : ¬ (n.goalActive = true ∨ n.commandGate.active = true) := by
    unfold CommandReservationGate.active
    simp [hfree, hclosed]
  unfold PortalNode.beginGuard CommandReservationGate.reserve
  rw [if_neg hopen, if_neg hgate, if_neg (by omega)]
  rfl

omit [FloatOrder F] in
/-- The evidence comes in, and the request is admitted. -/
theorem request_admitted (h : Ready w worker) (hmoment : Current moment)
    (hhealthy : ∃ status, statuses.find? (fun status => status.name == expectedName realMode) =
      some status ∧ healthyStatus realMode status = true) :
    (portal A R realMode).Run w [.jointState moment moment.timeNs q,
        .diagnostics moment moment.timeNs statuses, .request worker job]
      (w.doing (.worker worker) { w.node with evidence := observed w.node.evidence moment q }
        (.admitted job) { w.history with
          admittedAt :=
            Function.update w.history.admittedAt (.worker worker) w.history.engagements }) := by
  obtain ⟨status, hfound, hstatus⟩ := hhealthy
  have hexecutor : ∀ n : PortalNode F, ({ w with node := n } : World F).ExecutorIdle := by
    intro n
    unfold World.ExecutorIdle
    rw [show ({ w with node := n } : World F).activity .executor = .idle from h.executor]
    exact trivial
  have hstate : (portal A R realMode).step w (.jointState moment moment.timeNs q)
      { w with node := w.node.updateState moment moment.timeNs q } :=
    if_pos (hexecutor w.node)
  have hdiagnostics : (portal A R realMode).step
      { w with node := w.node.updateState moment moment.timeNs q }
      (.diagnostics moment moment.timeNs statuses)
      { w with node := { w.node with evidence := observed w.node.evidence moment q } } := by
    rw [← observes hmoment hfound hstatus q]
    exact if_pos (hexecutor _)
  refine .cons hstate (.cons hdiagnostics (.single ?_))
  show World.next A R realMode _ (.request worker job) = _
  unfold World.next
  dsimp only
  rw [show w.activity (.worker worker) = .idle from h.idle]
  dsimp only
  rw [if_neg (by rw [h.released]; simp)]
  rfl

/-- **A planned request passes every proof**, and stands before its last check. -/
theorem planned_proved (h : Ready w worker)
    (hfeasible : Feasible A R realMode moment statuses q job planned) :
    ∃ es node k token scale first last,
      (portal A R realMode).Run w es (w.doing (.worker worker) node
        (.submitting (some token) (.proved (firstLeg (observed w.node.evidence moment q) scale
          (commandedSide job.request) first last) first)) k) ∧
      (∀ e ∈ es, e.stopRequested = false) ∧
      OnWay node (observed w.node.evidence moment q) (planned.waypoints.map RouteWaypoint.tcpM)
        (commandedSide job.request) ∧
      node.handoffValid A (observed w.node.evidence moment q) moment = true ∧
      (planned.waypoints.map RouteWaypoint.tcpM).head? = some first ∧
      (planned.waypoints.map RouteWaypoint.tcpM).getLast? = some last ∧
      Begun w { w with history := k }.checks := by
  obtain ⟨measuredTcp, hplan⟩ := hfeasible.found
  have hmoment := hfeasible.current
  have hevident := observed_evident w.node.evidence moment q
  obtain ⟨first, last, again, hfirst, hlast, hreplan, hsame, hproved⟩ :=
    planned_again hfeasible.laws hplan
  have hpreserved : preservedOf (asked q job) = commandedSide job.request :=
    guardInput_preserved (PortalNode.initial (F := F)) job
  have hhead : (planned.waypoints.map RouteWaypoint.tcpM).head? = some first.tcpM := by
    rw [List.head?_map, hfirst]
    rfl
  have htail : (planned.waypoints.map RouteWaypoint.tcpM).getLast? = some last.tcpM := by
    rw [List.getLast?_map, hlast]
    rfl
  have hsome : planned.waypoints.map RouteWaypoint.tcpM ≠ [] := fun hnil => by
    rw [hnil] at hhead
    cases hhead
  -- the token
  let reserved : PortalNode F := { w.node with
    evidence := observed w.node.evidence moment q
    commandGate := ⟨w.node.commandGate.generation + 1, w.node.commandGate.generation + 1⟩ }
  have hbegin : ({ w.node with evidence := observed w.node.evidence moment q } :
      PortalNode F).beginGuard moment.stop =
        some (w.node.commandGate.generation + 1, reserved) := by
    rw [hmoment.running]
    exact ready_reserved h.free h.running h.closed h.left
  -- the guard and `move`
  obtain ⟨tcp, hstate⟩ := planned_state (n := reserved) hplan hevident hmoment realMode
  have hhanded : reserved.handoffValid A reserved.evidence moment = true :=
    planned_handed hplan hfeasible.still hevident hmoment
  have hjudged := planned_judged (n := reserved) hplan hfeasible.ordinary rfl hevident.measuredQ tcp
  obtain ⟨hmoved, hway⟩ := planned_moved (n := reserved) (w.node.commandGate.generation + 1)
    (plannedGuarded q job (observed w.node.evidence moment q) measuredTcp planned)
    hfeasible.ordinary.1 hfeasible.ordinary.2 hsome (by
      unfold CommandReservationGate.valid
      simp [reserved]) h.free h.running hmoment hhanded
  -- the leg
  have hread := first_read (A := A) (R := R) hway hmoment hhead htail
  have hway' : OnWay ({ reserved.entered (w.node.commandGate.generation + 1) (plannedGuarded q job
      (observed w.node.evidence moment q) measuredTcp planned) with routeIndex := 0 } :
        PortalNode F) (observed w.node.evidence moment q)
        (planned.waypoints.map RouteWaypoint.tcpM) (commandedSide job.request) :=
    ⟨hway.evidence, hway.goalActive, hway.cancelPending, hway.stopping, hway.routeWaypoints, rfl,
      hway.routeTerminalRetreat, hway.routePreservedSide⟩
  rw [hpreserved] at hreplan hproved
  have haccepted : (routeOrProject A R (replanInput q last.tcpM
      (commandedSide job.request))).accepted = true := by
    rw [show replanInput q last.tcpM (commandedSide job.request) = replanInput
      (asked q job).measuredQ last.tcpM (commandedSide job.request) from rfl, hreplan.answer]
    rfl
  have hwaypoints : (routeOrProject A R (replanInput q last.tcpM
      (commandedSide job.request))).waypointTcp = planned.waypoints.map RouteWaypoint.tcpM := by
    rw [show replanInput q last.tcpM (commandedSide job.request) = replanInput
      (asked q job).measuredQ last.tcpM (commandedSide job.request) from rfl, hreplan.answer]
    exact hsame
  let entered : PortalNode F := reserved.entered (w.node.commandGate.generation + 1)
    (plannedGuarded q job (observed w.node.evidence moment q) measuredTcp planned)
  have hreplanned := first_replanned (n := { entered with routeIndex := 0 }) first.tcpM
    entered.routeMotionLimitScale hmoment hevident haccepted hwaypoints hsome
  have hagain := first_proved (A := A) (R := R) last.tcpM entered.routeMotionLimitScale hway' hmoment
    hevident.measuredQ hhead hproved
  let replanned : PortalNode F := { entered with
    routeIndex := 0
    routeWaypoints := planned.waypoints.map RouteWaypoint.tcpM
    routeReplanCount := entered.routeReplanCount + 1 }
  have hway'' : OnWay replanned (observed w.node.evidence moment q)
      (planned.waypoints.map RouteWaypoint.tcpM) (commandedSide job.request) :=
    ⟨hway.evidence, hway.goalActive, hway.cancelPending, hway.stopping, rfl, rfl,
      hway.routeTerminalRetreat, hway.routePreservedSide⟩
  have hlet : replanned.handoffValid A (observed w.node.evidence moment q) moment = true := by
    unfold PortalNode.handoffValid at hhanded ⊢
    rw [hway''.evidence]
    exact hhanded
  -- one block after the other
  have hrun := (((((request_admitted (A := A) (R := R) h hmoment hfeasible.healthy).snoc
    (reserves_next (quietTurn moment) hbegin)).snoc
    (judges_next (quietTurn moment) hstate hjudged)).snoc
    (moves_next (quietTurn moment) hmoved)).snoc
    (submits_next (quietTurn moment) hread)).snoc
    (submits_next (quietTurn moment) hreplanned)
  refine ⟨_, replanned, _, _, _, first.tcpM, last.tcpM,
    hrun.snoc (submits_next (quietTurn moment) hagain), ?_, hway'', hlet, hhead, htail, ?_⟩
  · simp only [List.mem_append, List.mem_cons, List.not_mem_nil, or_false, or_imp, forall_and,
      forall_eq]
    simp only [Event.stopRequested, quietTurn, hmoment.running, and_self]
  have hmark : Function.update w.history.begunAt (w.node.commandGate.generation + 1)
      w.history.cancels (w.node.commandGate.generation + 1) = w.history.cancels :=
    Function.update_self _ _ _
  exact ⟨rfl, hmark, rfl, rfl, rfl, rfl, rfl⟩

/-- **A planned request passes every check.** -/
theorem planned_checked (h : Ready w worker)
    (hfeasible : Feasible A R realMode moment statuses q job planned) :
    ∃ es node k token scale first last,
      (portal A R realMode).Run w es (w.doing (.worker worker) node
        (.submitting (some token) (.sending (firstLeg (observed w.node.evidence moment q) scale
          (commandedSide job.request) first last) first
          ⟨observed w.node.evidence moment q, moment⟩)) k) ∧
      (∀ e ∈ es, e.stopRequested = false) ∧
      OnWay node (observed w.node.evidence moment q) (planned.waypoints.map RouteWaypoint.tcpM)
        (commandedSide job.request) ∧
      (planned.waypoints.map RouteWaypoint.tcpM).head? = some first ∧
      (planned.waypoints.map RouteWaypoint.tcpM).getLast? = some last ∧ Begun w k := by
  obtain ⟨es, node, k, token, scale, first, last, hrun, hquiet, hway, hlet, hhead, htail, hbegun⟩ :=
    planned_proved h hfeasible
  have hmoment := hfeasible.current
  have hchecked := first_checked (A := A) (R := R) first last scale hway hmoment hlet
  refine ⟨_, node, _, token, scale, first, last,
    hrun.snoc (submits_next (quietTurn moment) hchecked), fun e he => ?_, hway, hhead, htail,
    hbegun⟩
  rcases List.mem_append.mp he with hold | hnew
  · exact hquiet e hold
  · rw [List.mem_singleton.mp hnew]
    simp only [Event.stopRequested, quietTurn, hmoment.running]

/-- The world behind the first leg, whose goal is outstanding. -/
structure Gone (w w' : World F) (waypoints : List (RoutePose F)) (preserved : Int)
    (sent : SentLeg F) : Prop where
  node : ∃ evidence, OnWay w'.node evidence waypoints preserved
  activity : w'.activity = w.activity
  goals : w'.goals = Function.update w.goals w.nextGoal
    (some { leg := some (0, sent.endpoint), accepted := false })
  first : waypoints.head? = some sent.endpoint
  last : waypoints.getLast? = some sent.leg.finalTarget
  legs : w'.history.legs = w.history.legs ++ [sent]
  contacts : w'.history.contacts = w.history.contacts
  completed : w'.history.completed = w.history.completed
  commands : w'.history.commands = w.history.commands + 1
  cancels : w'.history.cancels = w.history.cancels
  begun : w'.history.begun = w.history.cancels

theorem planned_gone (h : Ready w worker)
    (hfeasible : Feasible A R realMode moment statuses q job planned) :
    ∃ es w' sent, (portal A R realMode).Run w es w' ∧ (∀ e ∈ es, e.stopRequested = false) ∧
      Gone w w' (planned.waypoints.map RouteWaypoint.tcpM) (commandedSide job.request) sent := by
  obtain ⟨es, node, k, token, scale, first, last, hrun, hquiet, hway, hfirst, hlast, hbegun⟩ :=
    planned_checked h hfeasible
  have hidle : Function.update w.activity (.worker worker) .idle = w.activity := by
    rw [← h.idle, Function.update_eq_self]
  refine ⟨_, _, World.sentLeg { w with history := k } (firstLeg (observed w.node.evidence moment q)
      scale (commandedSide job.request) first last) first
      ⟨observed w.node.evidence moment q, moment⟩,
    (hrun.snoc (sent_next (quietTurn moment) rfl)).snoc
      (releases_next (quietTurn moment)), ?_,
    ⟨observed w.node.evidence moment q, ?_⟩, hidle, rfl, hfirst, hlast, ?_, hbegun.contacts,
    hbegun.completed, hbegun.commands, hbegun.cancels, hbegun.begun⟩
  · simp only [List.mem_append, List.mem_singleton, or_imp, forall_and, forall_eq]
    exact ⟨⟨hquiet, hfeasible.current.running⟩, hfeasible.current.running⟩
  · exact ⟨hway.evidence, hway.goalActive, hway.cancelPending, hway.stopping, hway.routeWaypoints,
      hway.routeIndex, hway.routeTerminalRetreat, hway.routePreservedSide⟩
  · exact congrArg (· ++ _) hbegun.legs

/-- The world in which the goal of a leg is accepted. -/
def World.answered (w : World F) (goal : Nat) (leg : Nat × RoutePose F) : World F :=
  { w with
    node := { w.node with activeGoal := some goal }
    goals := Function.update w.goals goal (some { leg := some leg, accepted := true }) }

omit [FloatOrder F] in
/-- The controller accepts the goal of a leg. -/
theorem accepted_next (realMode : Bool) {w : World F} {goal : Nat} {leg : Nat × RoutePose F}
    (hexecutor : w.activity .executor = .idle)
    (hgoal : w.goals goal = some { leg := some leg, accepted := false })
    (hway : OnWay w.node evidence waypoints preserved) (hsome : waypoints ≠ []) :
    w.next A R realMode (.response goal true) = some (w.answered goal leg) := by
  have hidle : w.ExecutorIdle := by
    unfold World.ExecutorIdle
    rw [hexecutor]
    exact trivial
  have hquiet : (w.node.cancelPending || w.node.routeWaypoints.isEmpty) = false := by
    rw [hway.cancelPending, hway.routeWaypoints]
    simp [hsome]
  show (if w.ExecutorIdle then w.responds goal true else none) = _
  rw [if_pos hidle]
  unfold World.responds PortalNode.legResponse World.answered
  rw [hgoal, Option.bind_some, if_neg (by simp)]
  simp only [Option.isSome_some, if_true, Bool.true_eq_false, if_false, hquiet, Bool.false_eq_true,
    List.append_nil]

omit [FloatOrder F] in
/-- The result of a leg the controller has completed. -/
theorem concluded_next (realMode : Bool) {w : World F} {goal : Nat} {endpoint : RoutePose F}
    {evidence : GuardHandoffEvidence F} (hexecutor : w.activity .executor = .idle)
    (hgoal : w.goals goal = some { leg := some (0, endpoint), accepted := true })
    (hway : OnWay w.node evidence waypoints preserved) (hsome : waypoints ≠ []) :
    w.next A R realMode (.result goal true) = some (
      if 1 < waypoints.length then
        { w with goals := Function.update w.goals goal none }.doing .executor
          { w.node with activeGoal := none, routeIndex := 1 } (.scheduling 1) w.history
      else
        { w with
          goals := Function.update w.goals goal none
          node := { w.node with
            activeGoal := none
            goalActive := false
            cancelPending := false
            routeWaypoints := [] }
          history := { w.history with
            completed := w.history.completed ++
              [{ command := w.history.commands
                 endpoint
                 target := w.history.target
                 preservedSide := w.node.routePreservedSide }] } }) := by
  have hidle : w.ExecutorIdle := by
    unfold World.ExecutorIdle
    rw [hexecutor]
    exact trivial
  have hgoing : ¬ (true = false ∨ w.node.cancelPending = true ∨ w.node.stopping = true ∨
      w.node.routeWaypoints = [] ∨ 0 ≠ w.node.routeIndex) := by
    rw [hway.cancelPending, hway.stopping, hway.routeWaypoints, hway.routeIndex]
    simp [hsome]
  show (if w.ExecutorIdle then w.concludes goal true else none) = _
  rw [if_pos hidle]
  unfold World.concludes PortalNode.legResult
  rw [hgoal, Option.bind_some, if_neg (by simp)]
  dsimp only
  rw [if_neg hgoing]
  by_cases hmore : 1 < waypoints.length
  · rw [if_pos hmore, if_pos (by rw [hway.routeWaypoints]; exact hmore)]
    rfl
  · rw [if_neg hmore, if_neg (by rw [hway.routeWaypoints]; exact hmore)]

omit [Metric F] [FloatOrder F] in
/-- The way of a node whose goal is known. -/
theorem OnWay.accepted (h : OnWay n evidence waypoints preserved) (goal : Option Nat) :
    OnWay { n with activeGoal := goal } evidence waypoints preserved :=
  ⟨h.evidence, h.goalActive, h.cancelPending, h.stopping, h.routeWaypoints, h.routeIndex,
    h.routeTerminalRetreat, h.routePreservedSide⟩

omit [FloatOrder F] in
/-- The executor goes on from one leg to the next, and waits for it. -/
theorem waits_run (realMode : Bool) {w : World F} {goal : Nat} {endpoint : RoutePose F}
    (hmoment : Current moment) (hexecutor : w.activity .executor = .idle)
    (hgoal : w.goals goal = some { leg := some (0, endpoint), accepted := false })
    (hway : OnWay w.node evidence waypoints preserved) (hmore : 1 < waypoints.length) :
    ∃ es w', (portal A R realMode).Run w es w' ∧ w'.node.routeResumeTimer = some 1 ∧
      w'.activity .executor = .idle ∧ w'.history.legs = w.history.legs := by
  have hsome : waypoints ≠ [] := fun hnil => by
    rw [hnil] at hmore
    cases hmore
  have haccepted := accepted_next (A := A) (R := R) realMode hexecutor hgoal hway hsome
  have hconcluded := concluded_next (A := A) (R := R) realMode
    (w := w.answered goal (0, endpoint)) hexecutor (Function.update_self _ _ _)
    (hway.accepted (some goal)) hsome
  rw [if_pos hmore] at hconcluded
  -- the node while the executor goes on
  let scheduled : PortalNode F := { w.node with activeGoal := none, routeIndex := 1 }
  let armed : PortalNode F := { scheduled with
    routeResumeTimer := none
    routeResumeDeadlineSteadyNs := moment.steadyNs + kRouteResumeTimeoutNs }
  have hopen : w.node.legBlocked moment.stop = false := hway.unblocked hmoment
  have hlength : ¬ w.node.routeWaypoints.length ≤ 1 := by
    rw [hway.routeWaypoints]
    omega
  have hschedules : scheduled.scheduleRouteLeg moment 1 = (true, armed) :=
    if_neg (not_or.mpr ⟨by rw [show scheduled.legBlocked moment.stop = false from hopen]; simp,
      hlength⟩)
  have hkeeps : armed.keepTimer moment 1 = { armed with routeResumeTimer := some 1 } :=
    if_neg (not_or.mpr ⟨by rw [show armed.legBlocked moment.stop = false from hopen]; simp,
      not_or.mpr ⟨hlength, fun hne => hne rfl⟩⟩)
  refine ⟨_, _, .cons haccepted (.cons hconcluded (.cons
    (schedules_next (quietTurn moment) hschedules)
    (.single (arms_next (quietTurn moment) hkeeps)))), rfl, ?_, rfl⟩
  exact doing_activity ..

omit [FloatOrder F] in
/-- The only leg of a route is its last. -/
theorem completes_run (realMode : Bool) {w : World F} {goal : Nat} {endpoint : RoutePose F}
    (hexecutor : w.activity .executor = .idle)
    (hgoal : w.goals goal = some { leg := some (0, endpoint), accepted := false })
    (hway : OnWay w.node evidence waypoints preserved) (hone : waypoints.length = 1) :
    ∃ es w', (portal A R realMode).Run w es w' ∧ w'.node.goalActive = false ∧
      w'.history.completed = w.history.completed ++
        [{ command := w.history.commands
           endpoint
           target := w.history.target
           preservedSide := w.node.routePreservedSide }] := by
  have hsome : waypoints ≠ [] := fun hnil => by
    rw [hnil] at hone
    cases hone
  have haccepted := accepted_next (A := A) (R := R) realMode hexecutor hgoal hway hsome
  have hconcluded := concluded_next (A := A) (R := R) realMode
    (w := w.answered goal (0, endpoint)) hexecutor (Function.update_self _ _ _)
    (hway.accepted (some goal)) hsome
  rw [if_neg (by rw [hone]; exact Nat.lt_irrefl 1)] at hconcluded
  exact ⟨_, _, .cons haccepted (.single hconcluded), rfl, rfl⟩

/-- Where a planned request of several legs waits. -/
theorem planned_waits (h : Ready w worker)
    (hfeasible : Feasible A R realMode moment statuses q job planned)
    (hmore : 1 < planned.waypoints.length) :
    ∃ es w' sent, (portal A R realMode).Run w es w' ∧ w'.node.routeResumeTimer = some 1 ∧
      w'.activity .executor = .idle ∧ w'.history.legs = w.history.legs ++ [sent] := by
  obtain ⟨es, m, sent, hrun, -, hgone⟩ := planned_gone h hfeasible
  obtain ⟨evidence, hway⟩ := hgone.node
  obtain ⟨fs, w', hwaits, htimer, hidle, hlegs⟩ := waits_run (A := A) (R := R) realMode
    hfeasible.current (by rw [hgone.activity]; exact h.executor)
    (by rw [hgone.goals]; exact Function.update_self _ _ _) hway
    (by rw [List.length_map]; exact hmore)
  exact ⟨es ++ fs, w', sent, hrun.append hwaits, htimer, hidle, hlegs.trans hgone.legs⟩

/-- **What the guard accepts is carried out**: there is a run in which the first leg
    of the route is sent, to the first waypoint of the very route that was planned.
    A route of one leg is then completed; a longer one waits for its second leg. -/
def CarriedOut (A : GuardModel F) (R : ArmModel F) (realMode : Bool) (w : World F) (job : Job F)
    (planned : RouteResult F) : Prop :=
  ∃ es w' sent, (portal A R realMode).Run w es w' ∧
    w'.history.legs = w.history.legs ++ [sent] ∧
    w'.node.routeWaypoints = planned.waypoints.map RouteWaypoint.tcpM ∧
    w'.node.routeWaypoints.head? = some sent.endpoint ∧
    w'.node.routeWaypoints.getLast? = some sent.leg.finalTarget ∧
    (planned.waypoints.length = 1 → ∃ fs v, (portal A R realMode).Run w' fs v ∧
      v.node.goalActive = false ∧ v.history.completed = w.history.completed ++
        [{ command := w.history.commands + 1
           endpoint := sent.endpoint
           target := w'.history.target
           preservedSide := commandedSide job.request }]) ∧
    (1 < planned.waypoints.length → ∃ fs v, (portal A R realMode).Run w' fs v ∧
      v.node.routeResumeTimer = some 1 ∧ v.history.legs = w'.history.legs)

/-- From every state in which the portal could begin a command. -/
theorem planned_carried (h : Ready w worker)
    (hfeasible : Feasible A R realMode moment statuses q job planned) :
    CarriedOut A R realMode w job planned := by
  obtain ⟨es, w', sent, hrun, -, hgone⟩ := planned_gone h hfeasible
  obtain ⟨evidence, hway⟩ := hgone.node
  have hexecutor : w'.activity .executor = .idle := by
    rw [hgone.activity]
    exact h.executor
  have hgoal : w'.goals w.nextGoal = some { leg := some (0, sent.endpoint), accepted := false } := by
    rw [hgone.goals]
    exact Function.update_self _ _ _
  refine ⟨es, w', sent, hrun, hgone.legs, hway.routeWaypoints, ?_, ?_, fun hone => ?_,
    fun hmore => ?_⟩
  · rw [hway.routeWaypoints]
    exact hgone.first
  · rw [hway.routeWaypoints]
    exact hgone.last
  · obtain ⟨fs, v, hends, hfree, hcompleted⟩ := completes_run (A := A) (R := R) realMode
      hexecutor hgoal hway (by rw [List.length_map]; exact hone)
    refine ⟨fs, v, hends, hfree, ?_⟩
    rw [hcompleted, hgone.completed, hgone.commands, hway.routePreservedSide]
  · obtain ⟨fs, v, hwaits, htimer, -, hlegs⟩ := waits_run (A := A) (R := R) realMode
      hfeasible.current hexecutor hgoal hway
      (by rw [List.length_map]; exact hmore)
    exact ⟨fs, v, hwaits, htimer, hlegs⟩

end Planned

/-! ## §7. A detour. -/

/-- The right tool is asked from one end of its reach to the other. -/
def detourJob : Job Extended where
  request := detourRequest
  intentionalContact := false
  terminalRetreat := false

theorem asked_detour : asked detourQ detourJob = detourInput := rfl

def quietMoment : Moment := ⟨1, 1, false⟩

def idleStatus : DiagnosticStatus where
  level := 1
  name := "openarm_ik_ros/virtual_control"
  values := [("backend", "virtual"), ("physical_motion_authorized", "false"),
    ("collision_checked", "false"), ("adapter_state", "idle"), ("lifecycle", "4"),
    ("executing", "false"), ("left_expected_mask", "127"), ("right_expected_mask", "127"),
    ("left_fresh_mask", "127"), ("right_fresh_mask", "127"), ("left_fault_mask", "0"),
    ("right_fault_mask", "0")]

theorem detour_feasible : ∃ planned, planned.waypoints.length = 2 ∧
    Feasible reachModel detourArms false quietMoment [idleStatus] detourQ detourJob planned := by
  obtain ⟨planned, hlength, hplanned⟩ := detour_planned
  refine ⟨planned, hlength, detourArms_laws, fun a ha => ?_, ⟨by decide, by decide, rfl⟩,
    ⟨idleStatus, List.find?_cons_of_pos (by decide), by decide⟩, ⟨rfl, rfl⟩, detourTcp, ?_⟩
  · obtain ⟨q, rfl⟩ := Extended.finite_of_isFinite ha
    show ¬ (3.9e-4 : ℚ) < |q + -q|
    norm_num
  · rw [asked_detour]
    exact hplanned

theorem initial_ready (worker : Nat) : Ready (World.initial (F := F)) worker :=
  ⟨rfl, rfl, rfl, Nat.succ_pos _, rfl, rfl, rfl⟩

theorem planned_carried_detour : ∃ planned, planned.waypoints.length = 2 ∧
    CarriedOut reachModel detourArms false World.initial detourJob planned := by
  obtain ⟨planned, hlength, hfeasible⟩ := detour_feasible
  exact ⟨planned, hlength, planned_carried (initial_ready 0) hfeasible⟩

/-- A world with a goal outstanding. -/
theorem detour_underway : ∃ w : World Extended, (portal reachModel detourArms false).Reachable w ∧
    ∃ sent, Gone World.initial w w.node.routeWaypoints 0 sent := by
  obtain ⟨planned, -, hfeasible⟩ := detour_feasible
  obtain ⟨es, w, sent, hrun, -, hgone⟩ := planned_gone (initial_ready 0) hfeasible
  obtain ⟨evidence, hway⟩ := hgone.node
  refine ⟨w, (Lts.Reachable.of_init rfl).run hrun, sent, ?_⟩
  rw [hway.routeWaypoints]
  exact hgone

end OpenArm.Node
