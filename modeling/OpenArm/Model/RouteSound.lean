/-
  OpenArm.Model.RouteSound — what a route of `oa_route_plan_paired` is.

  The search discovers candidates in a tree: each was reached by a proved
  edge from the joints stored with the one before it.  A route is the way
  back from the target, so its legs are proved edges that hand their joints
  on, over candidates that do not repeat.

  Main results:
    * `search_grown`  — the invariant of the breadth-first loop.
    * `route_sound`   — everything a returned route promises.
    * `route_moves_target` — the held arm's entry is its measured tool, not
                        the requested point.
-/
import OpenArm.Model.RouteEdge
import OpenArm.Lib.SearchTree

namespace OpenArm.Model

open OpenArm.Lib OpenArm.Control

variable {F : Type} [Floating F]

/-! ## §1. The tree of a search. -/

/-- The joints an edge starts from: those stored with the node, or the measured
    ones. -/
def seat (request : RouteRequest F) (parent : Option (Nat × RouteNode F)) : PairQ F :=
  match parent with
  | none => request.startQRad
  | some (_, node) => node.q

/-- Whether recovery was used on the way to a node. -/
def recovered (parent : Option (Nat × RouteNode F)) : Bool :=
  match parent with
  | none => false
  | some (_, node) => node.usedRecovery

/-- The node of a candidate was reached by an accepted edge from its parent. -/
def Reached (L : ArmModel F) (request : RouteRequest F) (candidates : List (RoutePose F)) :
    Link Nat (RouteNode F) := fun parent index node =>
  ∃ pose edge, candidates[index]? = some pose ∧
    validateEdge L request (seat request parent) pose = some edge ∧ node.q = edge.q ∧
      node.edgeMinimumClearanceM = edge.minimumClearanceM ∧
        node.usedRecovery = (edge.usedRecovery || recovered parent)

/-- The tree of the nodes discovered so far. -/
abbrev Tree (L : ArmModel F) (request : RouteRequest F) (candidates : List (RoutePose F))
    (nodes : List (Nat × RouteNode F)) : Prop :=
  Grown RouteNode.predecessor (Reached L request candidates) nodes

/-- What the loop knows of the node it expands. -/
def Expanding (request : RouteRequest F) (s : RouteSearch F) (current : Option Nat)
    (currentQ : PairQ F) (currentRecovery : Bool) : Prop :=
  match current with
  | none => currentQ = request.startQRad ∧ currentRecovery = false
  | some index => ∃ node, s.node index = some node ∧ currentQ = node.q ∧
      currentRecovery = node.usedRecovery

variable {L : ArmModel F} {request : RouteRequest F} {candidates : List (RoutePose F)}

/-- A candidate more in the tree. -/
theorem Tree.discover {s : RouteSearch F} {current : Option Nat} {currentQ : PairQ F}
    {currentRecovery : Bool} (h : Tree L request candidates s.nodes)
    (hcurrent : Expanding request s current currentQ currentRecovery) {index : Nat}
    {pose : RoutePose F} (hfresh : s.node index = none) (hpose : candidates[index]? = some pose)
    {edge : Edge F} (hedge : validateEdge L request currentQ pose = some edge) :
    Tree L request candidates ((index,
      { predecessor := current, usedRecovery := edge.usedRecovery || currentRecovery
        edgeMinimumClearanceM := edge.minimumClearanceM, q := edge.q }) :: s.nodes) := by
  cases current with
  | none =>
    obtain ⟨rfl, rfl⟩ := hcurrent
    exact .root h hfresh rfl ⟨pose, edge, hpose, hedge, rfl, rfl, rfl⟩
  | some parent =>
    obtain ⟨node, hnode, rfl, rfl⟩ := hcurrent
    exact .under h hfresh rfl hnode ⟨pose, edge, hpose, hedge, rfl, rfl, rfl⟩

omit [Floating F] in
/-- The node being expanded stays in the tree. -/
theorem Expanding.mono {s : RouteSearch F} {current : Option Nat} {currentQ : PairQ F}
    {currentRecovery : Bool} (h : Expanding request s current currentQ currentRecovery)
    {index : Nat} (hfresh : s.node index = none) (node : RouteNode F) (queue : List (Option Nat)) :
    Expanding request { nodes := (index, node) :: s.nodes, queue } current currentQ
      currentRecovery := by
  cases current with
  | none => exact h
  | some parent =>
    obtain ⟨above, habove, hq, hrecovery⟩ := h
    exact ⟨above, lookup_fresh hfresh habove, hq, hrecovery⟩

/-- **One round of the loop** keeps the tree; it ends the search only at the
    target. -/
theorem expand_grown {current : Option Nat} {currentQ : PairQ F} {currentRecovery : Bool}
    {rest : List (Nat × RoutePose F)} {s s' : RouteSearch F} {found : Bool}
    (hrest : ∀ entry ∈ rest, candidates[entry.1]? = some entry.2)
    (h : Tree L request candidates s.nodes)
    (hcurrent : Expanding request s current currentQ currentRecovery)
    (hexpand : expand L request current currentQ currentRecovery rest s = (s', found)) :
    Tree L request candidates s'.nodes ∧ (found = true → (s'.node 0).isSome = true) := by
  induction rest generalizing s with
  | nil =>
    cases hexpand
    exact ⟨h, fun hfound => Bool.noConfusion hfound⟩
  | cons entry rest ih =>
    obtain ⟨index, pose⟩ := entry
    have hlater : ∀ entry ∈ rest, candidates[entry.1]? = some entry.2 :=
      fun entry hentry => hrest entry (List.mem_cons_of_mem _ hentry)
    have hpose := hrest (index, pose) List.mem_cons_self
    unfold expand at hexpand
    split at hexpand
    · exact ih hlater h hcurrent hexpand
    rename_i hfresh
    have hfresh : s.node index = none := by simpa using hfresh
    split at hexpand
    · exact ih hlater h hcurrent hexpand
    rename_i edge hedge
    have hgrown := h.discover hcurrent hfresh hpose hedge
    dsimp only at hexpand
    split at hexpand
    · rename_i hzero
      obtain rfl := hzero
      cases hexpand
      exact ⟨hgrown, fun _ => by simp [RouteSearch.node]⟩
    · exact ih hlater hgrown (hcurrent.mono hfresh _ _) hexpand

/-- **The invariant of the search**: what it found is a tree that has the target. -/
theorem search_grown {rounds : Nat} {s found : RouteSearch F}
    (h : Tree L request candidates s.nodes)
    (hsearch : search L request candidates rounds s = some found) :
    Tree L request candidates found.nodes ∧ (found.node 0).isSome = true := by
  have hall : ∀ entry ∈ (List.range candidates.length).zip candidates,
      candidates[entry.1]? = some entry.2 := by
    intro entry hentry
    obtain ⟨k, hk, hget⟩ := List.mem_iff_getElem.mp hentry
    rw [← hget]
    simp at hk ⊢
  induction rounds generalizing s with
  | zero => cases hsearch
  | succ rounds ih =>
    unfold search at hsearch
    split at hsearch
    · cases hsearch
    rename_i current queue hqueue
    dsimp only at hsearch
    split at hsearch
    · cases hsearch
    rename_i currentQ recovery hfrom
    have hcurrent : Expanding request { s with queue } current currentQ recovery := by
      cases current with
      | none =>
        cases hfrom
        exact ⟨rfl, rfl⟩
      | some index =>
        obtain ⟨node, hnode, heq⟩ := Option.map_eq_some_iff.mp hfrom
        cases heq
        exact ⟨node, hnode, rfl, rfl⟩
    split at hsearch
    · rename_i s' hexpand
      cases hsearch
      obtain ⟨hgrown, htarget⟩ := expand_grown (s := { s with queue }) hall h hcurrent hexpand
      exact ⟨hgrown, htarget rfl⟩
    · rename_i s' hexpand
      exact ih (expand_grown (s := { s with queue }) hall h hcurrent hexpand).1 hsearch

omit [Floating F] in
theorem routePath_eq (s : RouteSearch F) (steps : Nat) (cursor : Option Nat) :
    routePath s steps cursor = pathTo RouteNode.predecessor s.node steps cursor := by
  induction steps generalizing cursor with
  | zero => rfl
  | succ steps ih =>
    cases cursor with
    | none => rfl
    | some index =>
      unfold routePath pathTo
      split
      · rename_i hnone
        rw [hnone]
      · rename_i node hnode
        rw [hnode, ih]

/-! ## §2. The legs of a route. -/

/-- A leg: the candidate it leads to, and its edge with all its samples. -/
structure Leg (F : Type) where
  index : Nat
  edge : Edge F
  startTcp : RoutePose F
  poses : Nat → PairQ F
  clearances : Nat → F
  inside : Nat

/-- A leg from these joints is a proved edge to its candidate. -/
def Leg.Proved (leg : Leg F) (L : ArmModel F) (request : RouteRequest F)
    (candidates : List (RoutePose F)) (startQ : PairQ F) : Prop :=
  ∃ pose, candidates[leg.index]? = some pose ∧
    EdgeProof L request startQ pose leg.edge leg.startTcp leg.poses leg.clearances leg.inside

/-- Every leg starts from the joints the one before it ended with. -/
def Chained (L : ArmModel F) (request : RouteRequest F) (candidates : List (RoutePose F)) :
    PairQ F → List (Leg F) → Prop
  | _, [] => True
  | startQ, leg :: legs =>
    leg.Proved L request candidates startQ ∧ Chained L request candidates leg.edge.q legs

/-- **What a returned route promises**, over its legs. -/
structure RouteProof (L : ArmModel F) (request : RouteRequest F) (result : RouteResult F)
    (startTcp : RoutePose F) (legs : List (Leg F)) : Prop where
  tools : tcpFromQ L request.startQRad = some startTcp
  /-- The waypoints are the candidates and the final joints of the legs. -/
  waypoints : result.waypoints.map (fun w => (some w.tcpM, w.qRad)) =
    legs.map fun leg => ((routeCandidates request startTcp)[leg.index]?, leg.edge.q)
  target : legs.getLast?.map Leg.index = some 0
  /-- The last one is the requested target, with a held tool where it was measured,
  which is within the planner's tolerance of the request. -/
  last : result.waypoints.getLast?.map RouteWaypoint.tcpM = some
    (match preservedSide request.flags with
      | none => request.targetTcpM
      | some side => Function.update request.targetTcpM side (startTcp side))
  heldTarget : ∀ side, preservedSide request.flags = some side →
    tcpDiffers (request.targetTcpM side) (startTcp side) = false
  distinct : (legs.map Leg.index).Nodup
  chained : Chained L request (routeCandidates request startTcp) request.startQRad legs
  /-- Only the first leg may begin inside the planning gate. -/
  firstOnly : ∀ leg ∈ legs.tail, leg.inside = 0
  recovery : result.usedClearanceRecovery = true ↔
    evaluateQ L request.startQRad requiredClearanceM = none
  minimum : (∀ leg ∈ legs, ∀ k ≤ 16, leg.clearances k < dblMax) →
    (∃ leg ∈ legs, ∃ k ≤ 16, result.minimumClearanceM = leg.clearances k) ∧
      ∀ leg ∈ legs, ∀ k ≤ 16, result.minimumClearanceM ≤ leg.clearances k
  /-- A held arm never moves. -/
  held : ∀ side, preservedSide request.flags = some side →
    ∀ w ∈ result.waypoints, w.qRad side = request.startQRad side

/-- A held arm has the joints of the edge's start at every sample. -/
theorem EdgeProof.held {startQ : PairQ F} {target startTcp : RoutePose F} {edge : Edge F}
    {poses : Nat → PairQ F} {clearances : Nat → F} {inside : Nat}
    (h : EdgeProof L request startQ target edge startTcp poses clearances inside) {side : Side}
    (hheld : preservedSide request.flags = some side) : edge.q side = startQ side := by
  have hsolved := h.trace.solved 15 (by omega) side
  unfold SideSolved at hsolved
  rw [if_pos hheld] at hsolved
  rw [h.last]
  exact hsolved

theorem EdgeProof.clear_last {startQ : PairQ F} {target startTcp : RoutePose F} {edge : Edge F}
    {poses : Nat → PairQ F} {clearances : Nat → F} {inside : Nat}
    (h : EdgeProof L request startQ target edge startTcp poses clearances inside) :
    evaluateQ L edge.q requiredClearanceM ≠ none := by
  rw [h.last, h.trace.clear 16 h.recovered (Nat.le_refl 16)]
  exact Option.some_ne_none _

theorem Chained.held {startQ : PairQ F} {legs : List (Leg F)}
    (h : Chained L request candidates startQ legs) {side : Side}
    (hheld : preservedSide request.flags = some side) :
    ∀ leg ∈ legs, leg.edge.q side = startQ side := by
  induction legs generalizing startQ with
  | nil => exact fun _ hmem => (List.not_mem_nil hmem).elim
  | cons leg legs ih =>
    obtain ⟨⟨pose, -, hproof⟩, hrest⟩ := h
    intro entry hentry
    rcases List.mem_cons.mp hentry with rfl | hlater
    · exact hproof.held hheld
    · rw [ih hrest entry hlater]
      exact hproof.held hheld

/-- A leg that begins clear has no sample inside the gate. -/
theorem Chained.clear {startQ : PairQ F} {legs : List (Leg F)}
    (h : Chained L request candidates startQ legs)
    (hclear : evaluateQ L startQ requiredClearanceM ≠ none) : ∀ leg ∈ legs, leg.inside = 0 := by
  induction legs generalizing startQ with
  | nil => exact fun _ hmem => (List.not_mem_nil hmem).elim
  | cons leg legs ih =>
    obtain ⟨⟨pose, -, hproof⟩, hrest⟩ := h
    intro entry hentry
    rcases List.mem_cons.mp hentry with rfl | hlater
    · by_contra hinside
      exact hclear (hproof.trace.inside_pos.mp (Nat.pos_of_ne_zero hinside))
    · exact ih hrest hproof.clear_last entry hlater

theorem Chained.first_only {startQ : PairQ F} {legs : List (Leg F)}
    (h : Chained L request candidates startQ legs) : ∀ leg ∈ legs.tail, leg.inside = 0 := by
  cases legs with
  | nil => exact fun _ hmem => (List.not_mem_nil hmem).elim
  | cons leg legs =>
    obtain ⟨⟨pose, -, hproof⟩, hrest⟩ := h
    exact hrest.clear hproof.clear_last

theorem Chained.minimum {startQ : PairQ F} {legs : List (Leg F)}
    (h : Chained L request candidates startQ legs) :
    ∀ leg ∈ legs, leg.edge.minimumClearanceM = runningMinimum leg.clearances 16 := by
  induction legs generalizing startQ with
  | nil => exact fun _ hmem => (List.not_mem_nil hmem).elim
  | cons leg legs ih =>
    obtain ⟨⟨pose, -, hproof⟩, hrest⟩ := h
    intro entry hentry
    rcases List.mem_cons.mp hentry with rfl | hlater
    · exact hproof.minimum
    · exact ih hrest entry hlater

section Order

variable [FloatOrder F]

/-- The running minimum of numbers is the least of them. -/
theorem runningMinimum_least {clearances : Nat → F} {n : Nat}
    (h : ∀ k ≤ n, clearances k ≤ clearances k) :
    (∃ k ≤ n, runningMinimum clearances n = clearances k) ∧
      ∀ k ≤ n, runningMinimum clearances n ≤ clearances k := by
  induction n with
  | zero =>
    refine ⟨⟨0, Nat.le_refl 0, rfl⟩, fun k hk => ?_⟩
    obtain rfl := Nat.le_zero.mp hk
    exact h 0 (Nat.le_refl 0)
  | succ n ih =>
    obtain ⟨⟨j, hj, hvalue⟩, hleast⟩ := ih fun k hk => h k (Nat.le_succ_of_le hk)
    have hself : runningMinimum clearances n ≤ runningMinimum clearances n := by
      rw [hvalue]
      exact h j (Nat.le_succ_of_le hj)
    have hnew := h (n + 1) (Nat.le_refl _)
    refine ⟨?_, fun k hk => ?_⟩
    · rcases Floating.min_cases (runningMinimum clearances n) (clearances (n + 1)) with heq | heq
      · exact ⟨j, Nat.le_succ_of_le hj, heq.trans hvalue⟩
      · exact ⟨n + 1, Nat.le_refl _, heq⟩
    · rcases Nat.lt_succ_iff_lt_or_eq.mp (Nat.lt_succ_of_le hk) with hold | rfl
      · exact FloatOrder.le_trans (Floating.min_le_left hself) (hleast k (by omega))
      · exact Floating.min_le_right hself hnew

/-- The minimum over the legs, from `least` on. -/
theorem legs_minimum {legs : List (Leg F)} {least : F}
    (hvalue : ∀ leg ∈ legs, leg.edge.minimumClearanceM = runningMinimum leg.clearances 16)
    (hleast : least ≤ least) (hself : ∀ leg ∈ legs, ∀ k ≤ 16, leg.clearances k ≤ leg.clearances k) :
    ((legs.foldl (fun least leg => Floating.min least leg.edge.minimumClearanceM) least = least) ∨
      ∃ leg ∈ legs, ∃ k ≤ 16,
        legs.foldl (fun least leg => Floating.min least leg.edge.minimumClearanceM) least =
          leg.clearances k) ∧
      legs.foldl (fun least leg => Floating.min least leg.edge.minimumClearanceM) least ≤ least ∧
      ∀ leg ∈ legs, ∀ k ≤ 16,
        legs.foldl (fun least leg => Floating.min least leg.edge.minimumClearanceM) least ≤
          leg.clearances k := by
  induction legs generalizing least with
  | nil => exact ⟨.inl rfl, hleast, fun _ hmem => (List.not_mem_nil hmem).elim⟩
  | cons leg legs ih =>
    obtain ⟨⟨j, hj, hattained⟩, hbelow⟩ := runningMinimum_least (hself leg List.mem_cons_self)
    have hedge : leg.edge.minimumClearanceM = runningMinimum leg.clearances 16 :=
      hvalue leg List.mem_cons_self
    have hedgeSelf : leg.edge.minimumClearanceM ≤ leg.edge.minimumClearanceM := by
      rw [hedge, hattained]
      exact hself leg List.mem_cons_self j hj
    have hminSelf : Floating.min least leg.edge.minimumClearanceM ≤
        Floating.min least leg.edge.minimumClearanceM :=
      FloatOrder.le_self_left (Floating.min_le_left hleast)
    obtain ⟨hcases, hle, hall⟩ := @ih (Floating.min least leg.edge.minimumClearanceM)
      (fun l hl => hvalue l (List.mem_cons_of_mem _ hl)) hminSelf
      (fun l hl => hself l (List.mem_cons_of_mem _ hl))
    rw [List.foldl_cons]
    refine ⟨?_, FloatOrder.le_trans hle (Floating.min_le_left hleast), fun l hl k hk => ?_⟩
    · rcases hcases with hsame | ⟨l, hl, k, hk, heq⟩
      · rcases Floating.min_cases least leg.edge.minimumClearanceM with hold | hnew
        · exact .inl (hsame.trans hold)
        · exact .inr ⟨leg, List.mem_cons_self, j, hj,
            (hsame.trans hnew).trans (hedge.trans hattained)⟩
      · exact .inr ⟨l, List.mem_cons_of_mem _ hl, k, hk, heq⟩
    · rcases List.mem_cons.mp hl with rfl | hlater
      · refine FloatOrder.le_trans hle
          (FloatOrder.le_trans (Floating.min_le_right hleast hedgeSelf) ?_)
        rw [hedge]
        exact hbelow k hk
      · exact hall l hlater k hk

/-- The way back from a node, as legs. -/
theorem legs_of_linked (hstep : Floating.isFinite request.maximumBranchStepRad = true)
    {parent : Option (Nat × RouteNode F)} {path : List (Nat × RouteNode F)}
    (hstart : FinitePose (seat request parent))
    (h : Linked (Reached L request candidates) parent path) :
    ∃ legs : List (Leg F), Chained L request candidates (seat request parent) legs ∧
      path.map (fun e => (e.1, e.2.q, e.2.edgeMinimumClearanceM)) =
        legs.map fun leg => (leg.index, leg.edge.q, leg.edge.minimumClearanceM) := by
  induction path generalizing parent with
  | nil => exact ⟨[], trivial, rfl⟩
  | cons entry path ih =>
    obtain ⟨index, node⟩ := entry
    obtain ⟨⟨pose, edge, hpose, hedge, hq, hminimum, -⟩, hrest⟩ := h
    obtain ⟨startTcp, poses, clearances, inside, hproof⟩ := validateEdge_proved hstart hstep hedge
    have hnext : FinitePose (seat request (some (index, node))) := by
      show FinitePose node.q
      rw [hq, hproof.last]
      exact hproof.trace.finite 16 (Nat.le_refl 16)
    obtain ⟨legs, hchained, hsame⟩ := ih hnext hrest
    refine ⟨⟨index, edge, startTcp, poses, clearances, inside⟩ :: legs,
      ⟨⟨pose, hpose, hproof⟩, ?_⟩, ?_⟩
    · show Chained L request candidates edge.q legs
      rw [← hq]
      exact hchained
    · rw [List.map_cons, List.map_cons, hsame, hq, hminimum]

/-- A parent that knows whether the start was inside the gate, and ended clear of
    it. -/
def Settled (L : ArmModel F) (request : RouteRequest F)
    (parent : Option (Nat × RouteNode F)) : Prop :=
  match parent with
  | none => True
  | some (_, node) =>
    (node.usedRecovery = true ↔ evaluateQ L request.startQRad requiredClearanceM = none) ∧
      evaluateQ L node.q requiredClearanceM ≠ none ∧ FinitePose node.q

/-- **Recovery is used exactly when the start is inside the gate**, at every node
    of the way. -/
theorem linked_settled (hstep : Floating.isFinite request.maximumBranchStepRad = true)
    (hfinite : FinitePose request.startQRad) {parent : Option (Nat × RouteNode F)}
    {path : List (Nat × RouteNode F)} (hparent : Settled L request parent)
    (h : Linked (Reached L request candidates) parent path) :
    ∀ entry ∈ path, Settled L request (some entry) := by
  induction path generalizing parent with
  | nil => exact fun _ hmem => (List.not_mem_nil hmem).elim
  | cons entry path ih =>
    obtain ⟨index, node⟩ := entry
    obtain ⟨⟨pose, edge, hpose, hedge, hq, -, hused⟩, hrest⟩ := h
    have hseat : FinitePose (seat request parent) := by
      cases parent with
      | none => exact hfinite
      | some above => exact hparent.2.2
    obtain ⟨startTcp, poses, clearances, inside, hproof⟩ := validateEdge_proved hseat hstep hedge
    have hedgeUsed : edge.usedRecovery = true ↔
        evaluateQ L (seat request parent) requiredClearanceM = none := by
      rw [hproof.used, decide_eq_true_iff, hproof.trace.inside_pos]
    have hnew : Settled L request (some (index, node)) := by
      refine ⟨?_, by rw [hq]; exact hproof.clear_last, ?_⟩
      · rw [hused, Bool.or_eq_true, hedgeUsed]
        cases parent with
        | none => simp [seat, recovered]
        | some above =>
          -- the edge began clear, so the flag is the parent's
          have hclear : evaluateQ L (seat request (some above)) requiredClearanceM ≠ none :=
            hparent.2.1
          simp only [hclear, false_or]
          exact hparent.1
      · rw [hq, hproof.last]
        exact hproof.trace.finite 16 (Nat.le_refl 16)
    intro e he
    rcases List.mem_cons.mp he with rfl | hlater
    · exact hnew
    · exact ih hnew hrest e hlater

section

omit [FloatOrder F]

theorem length_routeCandidates (request : RouteRequest F) (startTcp : RoutePose F) :
    (routeCandidates request startTcp).length = 22 := by
  unfold routeCandidates
  rw [List.length_map]
  rfl

/-- A search finds no more nodes than there are candidates. -/
theorem Tree.length_le {nodes : List (Nat × RouteNode F)} (h : Tree L request candidates nodes) :
    nodes.length ≤ candidates.length := by
  obtain ⟨hnodup, hkeys⟩ := h.keys
  have hsub : nodes.map Prod.fst ⊆ List.range candidates.length := by
    intro index hindex
    obtain ⟨entry, hentry, rfl⟩ := List.mem_map.mp hindex
    obtain ⟨parent, pose, edge, hpose, -⟩ := hkeys entry hentry
    exact List.mem_range.mpr (List.getElem?_eq_some_iff.mp hpose).1
  have hle := (List.subperm_of_subset hnodup hsub).length_le
  simpa using hle

/-- What the argument checks establish. -/
theorem routeFinite_start (h : routeFinite request = true) : FinitePose request.startQRad := by
  intro side joint
  have hside := List.all_eq_true.mp h side (List.mem_finRange side)
  simp only [Bool.and_eq_true] at hside
  exact List.all_eq_true.mp hside.1 joint (List.mem_finRange joint)

/-- A request that is answered with a route. -/
theorem oaRoutePlanPaired_ok {result : RouteResult F}
    (h : oaRoutePlanPaired L request = (.ok, some result)) :
    ∃ startTcp found, tcpFromQ L request.startQRad = some startTcp ∧
      routeArgumentsOk request = true ∧ routeFinite request = true ∧
      (∀ side, preservedSide request.flags = some side →
        tcpDiffers (request.targetTcpM side) (startTcp side) = false) ∧
      search L request (routeCandidates request startTcp) 23 { nodes := [], queue := [none] } =
        some found ∧
      result = { usedClearanceRecovery := (found.node 0).any fun node => node.usedRecovery
                 minimumClearanceM := (routePath found 25 (some 0)).foldl (fun least entry =>
                   if entry.2.edgeMinimumClearanceM < least then entry.2.edgeMinimumClearanceM
                   else least) dblMax
                 waypoints := (routePath found 25 (some 0)).map fun entry =>
                   { tcpM := (routeCandidates request startTcp).getD entry.1 request.targetTcpM
                     qRad := entry.2.q } } := by
  unfold oaRoutePlanPaired at h
  split at h
  · cases h
  rename_i harguments
  split at h
  · cases h
  rename_i hfinite
  split at h
  · cases h
  split at h
  · cases h
  rename_i startTcp htools
  extract_lets moved candidates at h
  split at h
  · cases h
  rename_i hmoved
  have hheld : ∀ side, preservedSide request.flags = some side →
      tcpDiffers (request.targetTcpM side) (startTcp side) = false := by
    intro side hside
    simpa [moved, hside] using hmoved
  split at h
  · cases h
  rename_i found hfound
  extract_lets path at h
  split at h
  · cases h
  · cases h
    have hrounds : candidates.length + 1 = 23 :=
      congrArg (· + 1) (length_routeCandidates request startTcp)
    rw [hrounds] at hfound
    exact ⟨startTcp, found, htools, by simpa using harguments, by simpa using hfinite, hheld, hfound,
      rfl⟩

end

/-- **Route soundness.**  A returned route is a chain of proved edges over distinct
    candidates that ends at the requested target, and its summary fields are
    those of the chain. -/
theorem route_sound {result : RouteResult F}
    (h : oaRoutePlanPaired L request = (.ok, some result)) :
    ∃ startTcp legs, RouteProof L request result startTcp legs := by
  obtain ⟨startTcp, found, htools, harguments, hfinite, hheldTarget, hsearch, rfl⟩ :=
    oaRoutePlanPaired_ok h
  have hstart := routeFinite_start hfinite
  have hstep : Floating.isFinite request.maximumBranchStepRad = true := by
    unfold routeArgumentsOk at harguments
    simp only [Bool.and_eq_true] at harguments
    exact harguments.1.2
  have hempty : Tree L request (routeCandidates request startTcp) [] := .nil
  -- the search has grown a tree, and the goal is in it
  obtain ⟨htree, htarget⟩ := search_grown hempty hsearch
  obtain ⟨node, hnode⟩ := Option.isSome_iff_exists.mp htarget
  have hlength := htree.length_le
  rw [length_routeCandidates] at hlength
  have hsteps : found.nodes.length ≤ 25 := by omega
  have hfind : ∀ j node, found.nodes.lookup j = some node → found.node j = some node :=
    fun _ _ hj => hj
  -- the path is read off the predecessors, and its edges are the legs
  obtain ⟨hlinked, hlast, hnodup, hmem⟩ := htree.path hfind hnode hsteps
  rw [routePath_eq] at *
  generalize hpath : pathTo RouteNode.predecessor found.node 25 (some 0) = path at *
  have hroot : FinitePose (seat request none) := hstart
  obtain ⟨legs, hchained, hsame⟩ := legs_of_linked hstep hroot hlinked
  -- path and legs agree entry by entry
  have hindices : path.map Prod.fst = legs.map Leg.index := by
    have hmapped := congrArg (List.map Prod.fst) hsame
    rw [List.map_map, List.map_map] at hmapped
    exact hmapped
  have hminima : path.map (fun e => e.2.edgeMinimumClearanceM) =
      legs.map fun leg => leg.edge.minimumClearanceM := by
    have hmapped := congrArg (List.map fun e => e.2.2) hsame
    rw [List.map_map, List.map_map] at hmapped
    exact hmapped
  have hjoints : path.map (fun e => (e.1, e.2.q)) =
      legs.map fun leg => (leg.index, leg.edge.q) := by
    have hmapped := congrArg (List.map fun e => (e.1, e.2.1)) hsame
    rw [List.map_map, List.map_map] at hmapped
    exact hmapped
  have hlastMem : (0, node) ∈ path := List.mem_of_getLast? hlast
  refine ⟨startTcp, legs, htools, ?_, ?_, ?_, hheldTarget, by rwa [← hindices], hchained,
    hchained.first_only, ?_, ?_, ?_⟩
  · -- the candidates of a route are candidates of the request
    have hcandidate : ∀ e ∈ path,
        some ((routeCandidates request startTcp).getD e.1 request.targetTcpM) =
          (routeCandidates request startTcp)[e.1]? := by
      intro e he
      obtain ⟨parent, pose, edge, hpose, -⟩ := htree.keys.2 e (hmem e he)
      rw [List.getD_eq_getElem?_getD, hpose]
      rfl
    rw [List.map_map]
    calc path.map _ = path.map fun e => ((routeCandidates request startTcp)[e.1]?, e.2.q) :=
          List.map_congr_left fun e he => congrArg (·, e.2.q) (hcandidate e he)
      _ = (path.map fun e => (e.1, e.2.q)).map
            fun p => ((routeCandidates request startTcp)[p.1]?, p.2) := by rw [List.map_map]; rfl
      _ = _ := by rw [hjoints, List.map_map]; rfl
  · rw [← List.getLast?_map, ← hindices, List.getLast?_map, hlast]
    rfl
  · rw [List.getLast?_map, hlast]
    rfl
  · have hparent : Settled L request none := trivial
    have hsettled := linked_settled hstep hstart hparent hlinked _ hlastMem
    rw [hnode]
    exact hsettled.1
  · intro hbelow
    have hself : ∀ leg ∈ legs, ∀ k ≤ 16, leg.clearances k ≤ leg.clearances k :=
      fun leg hleg k hk => FloatOrder.le_self_left (Floating.le_of_lt (hbelow leg hleg k hk))
    have hvalue : ∀ leg ∈ legs, leg.edge.minimumClearanceM = runningMinimum leg.clearances 16 :=
      fun leg hleg => hchained.minimum leg hleg
    have hmax : (dblMax : F) ≤ dblMax := FloatOrder.lit_le_lit (le_refl _)
    obtain ⟨hcases, -, hall⟩ := legs_minimum hvalue hmax hself
    have hfold : path.foldl (fun least entry =>
        if entry.2.edgeMinimumClearanceM < least then entry.2.edgeMinimumClearanceM
        else least) dblMax =
          legs.foldl (fun least leg => Floating.min least leg.edge.minimumClearanceM) dblMax := by
      calc _ = (path.map fun e => e.2.edgeMinimumClearanceM).foldl Floating.min dblMax := by
            rw [List.foldl_map]; rfl
        _ = _ := by rw [hminima, List.foldl_map]
    show (∃ leg ∈ legs, ∃ k ≤ 16, path.foldl _ dblMax = leg.clearances k) ∧ _
    rw [hfold]
    refine ⟨?_, hall⟩
    rcases hcases with hunset | hattained
    · -- the last leg's clearance is below the initial value
      obtain ⟨leg, hleg, -⟩ := List.mem_map.mp
        (hindices ▸ List.mem_map_of_mem (f := Prod.fst) hlastMem)
      have hle := hall leg hleg 0 (Nat.zero_le _)
      rw [hunset] at hle
      exact absurd hle (Floating.not_le_of_lt (hbelow leg hleg 0 (Nat.zero_le _)))
    · exact hattained
  · -- a held arm keeps its joints along every leg
    intro side hheld w hw
    obtain ⟨e, he, rfl⟩ := List.mem_map.mp hw
    obtain ⟨leg, hleg, heq⟩ := List.mem_map.mp
      (hjoints ▸ List.mem_map_of_mem (f := fun e : Nat × RouteNode F => (e.1, e.2.q)) he)
    show e.2.q side = request.startQRad side
    rw [← (Prod.mk.inj heq).2]
    exact hchained.held hheld leg hleg

end Order

/-! ## §3. A route with a held arm. -/

/-- Two arms whose tools are where their first three joints are, and that never
    meet. -/
def straightModel : ArmModel ℚ where
  limits := fun _ _ => some (-4, 4)
  forward := fun _ q => some ![q 0, q 1, q 2]
  inverse := fun _ target seed => some
    { q := fun joint => if h : joint.val < 3 then target ⟨joint.val, h⟩ else seed joint
      positionErrorM := 0, collisionChecked := false }
  collision := fun _ _ _ =>
    { ok := true
      report :=
        { clear := true, violation := 0, side := 0, segmentA := 0, segmentB := 0
          minimumClearanceM := 1, terminalPairActive := false, terminalPairClearanceM := 0
          tcpSeparationM := 0, clawContactActive := false, clawHandGapM := 0
          minimumOtherClawGapM := 0 } }

/-- The right tool goes 10 cm along x; the left arm is held, and asked for a point
    a nanometre from where its tool is. -/
def heldRequest : RouteRequest ℚ where
  flags := preserveLeft
  startQRad := fun _ _ => 0
  targetTcpM := ![![1 / 1000000000, 0, 0], ![1 / 10, 0, 0]]
  maximumBranchStepRad := 35 / 100

/-- The route it is answered with. -/
theorem heldRequest_ok : ∃ result, oaRoutePlanPaired straightModel heldRequest =
    (.ok, some result) ∧ result.waypoints.getLast?.map (fun w => w.tcpM 0 0) = some 0 := by
  have hcheck : ((oaRoutePlanPaired straightModel heldRequest).1 = .ok) ∧
      (oaRoutePlanPaired straightModel heldRequest).2.map (fun result =>
        result.waypoints.getLast?.map fun w => w.tcpM 0 0) = some (some 0) := by decide +kernel
  obtain ⟨hok, hsome⟩ := hcheck
  obtain ⟨result, hresult, hlast⟩ := Option.map_eq_some_iff.mp hsome
  exact ⟨result, Prod.ext hok hresult, hlast⟩

/-- **A held arm's entry is its measured tool**, not the requested point. -/
theorem route_moves_target : ¬ ∀ (L : ArmModel ℚ) (request : RouteRequest ℚ)
    (result : RouteResult ℚ), oaRoutePlanPaired L request = (.ok, some result) →
      result.waypoints.getLast?.map RouteWaypoint.tcpM = some request.targetTcpM := by
  intro h
  obtain ⟨result, hok, hlast⟩ := heldRequest_ok
  have hexact := h straightModel heldRequest result hok
  have hleft : result.waypoints.getLast?.map (fun w => w.tcpM 0 0) =
      some (heldRequest.targetTcpM 0 0) := by
    have hmapped := congrArg (Option.map fun tcp : RoutePose ℚ => tcp 0 0) hexact
    rwa [Option.map_map] at hmapped
  rw [hlast] at hleft
  exact absurd (Option.some.inj hleft) (by decide +kernel)

/-- Arms that come to the target only by way of the first anchor. -/
def detourModel : ArmModel ℚ :=
  { straightModel with
    inverse := fun side target seed =>
      if target 1 < 0 ∨ target 0 + 3 < target 2 * 15 then none
      else straightModel.inverse side target seed }

/-- The right tool goes from one end of its reach to the other; the left arm is
    held, and asked for a point a nanometre from where its tool is. -/
def detourRequest : RouteRequest ℚ where
  flags := preserveLeft
  startQRad side joint := if side = 1 ∧ joint = 0 then -3 else 0
  targetTcpM := ![![1 / 1000000000, 0, 0], ![39 / 10, 0, 0]]
  maximumBranchStepRad := 35 / 100

/-- A route of two legs. -/
theorem route_sound_detour : ∃ result startTcp legs,
    oaRoutePlanPaired detourModel detourRequest = (.ok, some result) ∧
      result.waypoints.length = 2 ∧
      RouteProof detourModel detourRequest result startTcp legs := by
  have hcheck : (oaRoutePlanPaired detourModel detourRequest).1 = .ok ∧
      (oaRoutePlanPaired detourModel detourRequest).2.map (fun result =>
        result.waypoints.length) = some 2 := by decide +kernel
  obtain ⟨result, hresult, hlength⟩ := Option.map_eq_some_iff.mp hcheck.2
  have hok : oaRoutePlanPaired detourModel detourRequest = (.ok, some result) :=
    Prod.ext hcheck.1 hresult
  obtain ⟨startTcp, legs, hproof⟩ := route_sound hok
  exact ⟨result, startTcp, legs, hok, hlength, hproof⟩

end OpenArm.Model
