/-
  OpenArm.Model.RouteEdge — what `validate_edge` proves of an edge.

  An edge that passes was sampled at sixteen poses, each solved from the one
  before.  The samples that are still inside the planning gate come first,
  the start among them, and are allowed only where the request asks for
  recovery; from the first clear sample on every sample is clear.

  Main results:
    * `gateSample_traced` — one sample more.
    * `validateEdge_proved` — the whole edge.
-/
import OpenArm.Model.Route
import OpenArm.Lib.FloatOrder

namespace OpenArm.Model

open OpenArm.Lib OpenArm.Control

variable {F : Type} [Floating F]

/-! ## §1. What an edge is. -/

/-- All joints of a pose are finite. -/
def FinitePose (q : PairQ F) : Prop := ∀ side joint, Floating.isFinite (q side joint) = true

/-- One arm's joints of a sample: the held arm keeps those of the edge's start;
    the other is solved for its target from the sample before, within its
    limits and within the branch step. -/
def SideSolved (L : ArmModel F) (request : RouteRequest F) (startQ : PairQ F) (side : Side)
    (target : Vec3 F) (seed q : JointVector F) : Prop :=
  if preservedSide request.flags = some side then q = startQ side
  else (∃ diagnostics, L.inverse side target seed = some diagnostics ∧ q = diagnostics.q) ∧
    qInBounds L side q (Floating.lit 0) = true ∧
      ∀ joint, Floating.abs (q joint - seed joint) ≤ request.maximumBranchStepRad

/-- The samples `0 .. n` of an edge with their clearances, the first `inside`
    of them inside the planning gate. -/
structure Trace (L : ArmModel F) (request : RouteRequest F) (startQ : PairQ F)
    (startTcp target : RoutePose F) (n : Nat) (poses : Nat → PairQ F) (clearances : Nat → F)
    (inside : Nat) : Prop where
  start : poses 0 = startQ
  solved : ∀ k < n, ∀ side, SideSolved L request startQ side
    (interpolate (startTcp side) (target side) (Floating.ofNat (k + 1) / Floating.ofNat 16))
    (poses k side) (poses (k + 1) side)
  finite : ∀ k ≤ n, FinitePose (poses k)
  allowed : 0 < inside → request.flags &&& allowClearanceRecovery ≠ 0
  recovering : ∀ k < inside, evaluateQ L (poses k) requiredClearanceM = none ∧
    evaluateQ L (poses k) interventionClearanceM = some (clearances k)
  clear : ∀ k, inside ≤ k → k ≤ n →
    evaluateQ L (poses k) requiredClearanceM = some (clearances k)
  holds : ∀ k, k + 1 < inside →
    ¬ clearances (k + 1) < clearances k - routeClearanceEpsilon
  inside_le : inside ≤ n + 1

/-- The least of the clearances `0 .. n`, as the running minimum keeps it. -/
def runningMinimum (clearances : Nat → F) : Nat → F
  | 0 => clearances 0
  | n + 1 => Floating.min (runningMinimum clearances n) (clearances (n + 1))

/-- **A proved edge**: its seventeen samples, with what `validate_edge` hands
    over of them. -/
structure EdgeProof (L : ArmModel F) (request : RouteRequest F) (startQ : PairQ F)
    (target : RoutePose F) (edge : Edge F) (startTcp : RoutePose F) (poses : Nat → PairQ F)
    (clearances : Nat → F) (inside : Nat) : Prop where
  tools : tcpFromQ L startQ = some startTcp
  trace : Trace L request startQ startTcp target 16 poses clearances inside
  recovered : inside ≤ 16
  last : edge.q = poses 16
  minimum : edge.minimumClearanceM = runningMinimum clearances 16
  used : edge.usedRecovery = decide (0 < inside)

/-! ## §2. One sample. -/

theorem qInBounds_finite {L : ArmModel F} {side : Side} {q : JointVector F} {tolerance : F}
    (h : qInBounds L side q tolerance = true) (joint : Joint) :
    Floating.isFinite (q joint) = true := by
  have hjoint := List.all_eq_true.mp h joint (List.mem_finRange joint)
  simp only [Bool.and_eq_true] at hjoint
  exact hjoint.1

/-- The joints before are in bounds and finite, and so are the solved ones. -/
theorem SideSolved.finite {L : ArmModel F} {request : RouteRequest F} {startQ : PairQ F}
    {side : Side} {target : Vec3 F} {seed q : JointVector F}
    (h : SideSolved L request startQ side target seed q) (hstart : FinitePose startQ)
    (joint : Joint) : Floating.isFinite (q joint) = true := by
  unfold SideSolved at h
  split at h
  · rw [h]
    exact hstart side joint
  · exact qInBounds_finite h.2.1 joint

section Order

variable [FloatOrder F]

theorem routeSolve_solved {L : ArmModel F} {side : Side} {target : Vec3 F}
    {seed q : JointVector F} {step : F} (hseed : ∀ joint, Floating.isFinite (seed joint) = true)
    (hstep : Floating.isFinite step = true) (h : routeSolve L side target seed step = some q) :
    (∃ diagnostics, L.inverse side target seed = some diagnostics ∧ q = diagnostics.q) ∧
      qInBounds L side q (Floating.lit 0) = true ∧
        ∀ joint, Floating.abs (q joint - seed joint) ≤ step := by
  unfold routeSolve at h
  split at h
  · cases h
  rename_i diagnostics hinverse
  split at h
  · cases h
  rename_i hexact
  split at h
  · cases h
  rename_i hbranch
  cases h
  simp only [Bool.or_eq_true, Bool.not_eq_true', not_or, Bool.not_eq_false] at hexact
  refine ⟨⟨diagnostics, hinverse, rfl⟩, hexact.2, fun joint => ?_⟩
  have hwithin : ¬ step < Floating.abs (diagnostics.q joint - seed joint) := by
    intro hover
    exact hbranch (List.any_eq_true.mpr ⟨joint, List.mem_finRange joint, decide_eq_true hover⟩)
  exact Floating.le_of_not_lt (FloatOrder.le_self_of_isFinite hstep)
    (FloatOrder.abs_sub_self (qInBounds_finite hexact.2 joint) (hseed joint)) hwithin

theorem solveSample_solved {L : ArmModel F} {request : RouteRequest F} {startQ q q' : PairQ F}
    {startTcp target : RoutePose F} {fraction : F} (hq : FinitePose q)
    (hstep : Floating.isFinite request.maximumBranchStepRad = true)
    (h : solveSample L request startQ startTcp target fraction q = some q') (side : Side) :
    SideSolved L request startQ side (interpolate (startTcp side) (target side) fraction)
      (q side) (q' side) := by
  have hside : ∀ {side : Side} {solved : JointVector F},
      (if preservedSide request.flags = some side then some (startQ side)
        else routeSolve L side (interpolate (startTcp side) (target side) fraction) (q side)
          request.maximumBranchStepRad) = some solved →
      SideSolved L request startQ side (interpolate (startTcp side) (target side) fraction)
        (q side) solved := by
    intro side solved hsolved
    unfold SideSolved
    split at hsolved
    · rename_i hheld
      rw [if_pos hheld]
      exact (Option.some.inj hsolved).symm
    · rename_i hmoves
      rw [if_neg hmoves]
      exact routeSolve_solved (hq side) hstep hsolved
  unfold solveSample at h
  dsimp only at h
  split at h
  · rename_i left right hleft hright
    cases h
    match side with
    | 0 => exact hside hleft
    | 1 => exact hside hright
  · cases h

end Order

/-- The sampling stands at sample `n` of a trace. -/
structure Traced (L : ArmModel F) (request : RouteRequest F) (startQ : PairQ F)
    (startTcp target : RoutePose F) (n : Nat) (poses : Nat → PairQ F) (clearances : Nat → F)
    (inside : Nat) (e : EdgeState F) : Prop where
  trace : Trace L request startQ startTcp target n poses clearances inside
  q : e.q = poses n
  recovering : e.recovering = true ↔ inside = n + 1
  previous : e.previousClearance = clearances n
  minimum : e.minimumClearance = runningMinimum clearances n

section Step

variable {L : ArmModel F} {request : RouteRequest F} {startQ : PairQ F}
  {startTcp target : RoutePose F} {n inside : Nat} {poses : Nat → PairQ F}
  {clearances : Nat → F} {e e' : EdgeState F} {q : PairQ F}

/-- Samples that agree up to `n` have the same running minimum there. -/
theorem runningMinimum_congr {other : Nat → F} (h : ∀ k ≤ n, other k = clearances k) :
    runningMinimum other n = runningMinimum clearances n := by
  induction n with
  | zero => exact h 0 (Nat.le_refl 0)
  | succ n ih =>
    show Floating.min (runningMinimum other n) (other (n + 1)) = _
    rw [ih fun k hk => h k (Nat.le_succ_of_le hk), h (n + 1) (Nat.le_refl _)]
    rfl

/-- **A sample more**: its pose and clearance are added to the trace, which
    stays inside the gate only when it was and the sample is. -/
theorem Trace.extend (h : Trace L request startQ startTcp target n poses clearances inside)
    (hsolved : ∀ side, SideSolved L request startQ side
      (interpolate (startTcp side) (target side) (Floating.ofNat (n + 1) / Floating.ofNat 16))
      (poses n side) (q side))
    (hfinite : FinitePose q) {clearance : F} {inside' : Nat}
    (hgate : (inside' = inside ∧ evaluateQ L q requiredClearanceM = some clearance) ∨
      (inside' = n + 2 ∧ inside = n + 1 ∧ evaluateQ L q requiredClearanceM = none ∧
        evaluateQ L q interventionClearanceM = some clearance ∧
          ¬ clearance < clearances n - routeClearanceEpsilon)) :
    Trace L request startQ startTcp target (n + 1) (Function.update poses (n + 1) q)
      (Function.update clearances (n + 1) clearance) inside' := by
  -- the earlier samples stand as they were
  have hpose : ∀ k ≤ n, Function.update poses (n + 1) q k = poses k :=
    fun k hk => Function.update_of_ne (by omega) _ _
  have hclearance : ∀ k ≤ n, Function.update clearances (n + 1) clearance k = clearances k :=
    fun k hk => Function.update_of_ne (by omega) _ _
  have hnewPose : Function.update poses (n + 1) q (n + 1) = q := Function.update_self _ _ _
  have hnewClearance : Function.update clearances (n + 1) clearance (n + 1) = clearance :=
    Function.update_self _ _ _
  have hle := h.inside_le
  refine ⟨?_, ?_, ?_, ?_, ?_, ?_, ?_, ?_⟩
  · rw [hpose 0 (Nat.zero_le n)]
    exact h.start
  · intro k hk side
    rcases Nat.lt_succ_iff_lt_or_eq.mp hk with hold | rfl
    · rw [hpose k (by omega), hpose (k + 1) (by omega)]
      exact h.solved k hold side
    · rw [hpose k (Nat.le_refl k), hnewPose]
      exact hsolved side
  · intro k hk
    rcases Nat.lt_succ_iff_lt_or_eq.mp (Nat.lt_succ_of_le hk) with hold | rfl
    · rw [hpose k (by omega)]
      exact h.finite k (by omega)
    · rw [hnewPose]
      exact hfinite
  · -- a sample inside the floor is allowed only where all before it were inside
    intro hpositive
    refine h.allowed ?_
    rcases hgate with ⟨rfl, -⟩ | ⟨-, rfl, -⟩ <;> omega
  · intro k hk
    by_cases hold : k ≤ n
    · rw [hpose k hold, hclearance k hold]
      refine h.recovering k ?_
      rcases hgate with ⟨rfl, -⟩ | ⟨-, rfl, -⟩ <;> omega
    · rcases hgate with ⟨rfl, -⟩ | ⟨rfl, rfl, hinside, hlive, -⟩
      · omega
      · obtain rfl : k = n + 1 := by omega
        rw [hnewPose, hnewClearance]
        exact ⟨hinside, hlive⟩
  · intro k hlow hk
    by_cases hold : k ≤ n
    · rw [hpose k hold, hclearance k hold]
      refine h.clear k ?_ hold
      rcases hgate with ⟨rfl, -⟩ | ⟨rfl, -⟩ <;> omega
    · obtain rfl : k = n + 1 := by omega
      rcases hgate with ⟨-, hclear⟩ | ⟨rfl, -⟩
      · rw [hnewPose, hnewClearance]
        exact hclear
      · omega
  · intro k hk
    by_cases hold : k + 1 ≤ n
    · rw [hclearance k (by omega), hclearance (k + 1) hold]
      refine h.holds k ?_
      rcases hgate with ⟨rfl, -⟩ | ⟨-, rfl, -⟩ <;> omega
    · rcases hgate with ⟨rfl, -⟩ | ⟨rfl, rfl, -, -, hkept⟩
      · omega
      · obtain rfl : k = n := by omega
        rw [hnewClearance, hclearance k (Nat.le_refl k)]
        exact hkept
  · rcases hgate with ⟨rfl, -⟩ | ⟨rfl, -⟩ <;> omega

/-- **One sample of the gate.** -/
theorem gateSample_traced
    (h : Traced L request startQ startTcp target n poses clearances inside e)
    (hsolved : ∀ side, SideSolved L request startQ side
      (interpolate (startTcp side) (target side) (Floating.ofNat (n + 1) / Floating.ofNat 16))
      (e.q side) (q side))
    (hfinite : FinitePose q) (hgate : gateSample L q e = some e') :
    ∃ poses' clearances' inside',
      Traced L request startQ startTcp target (n + 1) poses' clearances' inside' e' := by
  have hsolved' := hsolved
  rw [h.q] at hsolved'
  have hminimum : ∀ clearance, (if clearance < e.minimumClearance then clearance
      else e.minimumClearance) =
        runningMinimum (Function.update clearances (n + 1) clearance) (n + 1) := by
    intro clearance
    show _ = Floating.min (runningMinimum (Function.update clearances (n + 1) clearance) n)
      (Function.update clearances (n + 1) clearance (n + 1))
    have hkept : runningMinimum (Function.update clearances (n + 1) clearance) n =
        runningMinimum clearances n :=
      runningMinimum_congr fun k hk => Function.update_of_ne (by omega) _ _
    rw [Function.update_self, hkept, ← h.minimum]
    rfl
  have hpose : q = Function.update poses (n + 1) q (n + 1) := by
    rw [Function.update_self]
  have hnew : ∀ clearance, clearance =
      Function.update clearances (n + 1) clearance (n + 1) := by
    intro clearance
    rw [Function.update_self]
  have hle := h.trace.inside_le
  unfold gateSample at hgate
  dsimp only at hgate
  split at hgate
  · -- clear at the planning gate: from here on the edge is recovered
    rename_i clearance hclear
    cases hgate
    refine ⟨_, _, inside, h.trace.extend hsolved' hfinite (.inl ⟨rfl, hclear⟩),
      hpose, ?_, hnew clearance, hminimum clearance⟩
    simp only [Bool.false_eq_true, false_iff]
    omega
  · rename_i hinside
    split at hgate
    · rename_i hrecovering
      split at hgate
      · cases hgate
      · rename_i clearance hlive
        split at hgate
        · cases hgate
        · rename_i hkept
          cases hgate
          rw [h.previous] at hkept
          refine ⟨_, _, n + 2, h.trace.extend hsolved' hfinite
            (.inr ⟨rfl, h.recovering.mp hrecovering, hinside, hlive, hkept⟩),
            hpose, ?_, hnew clearance, hminimum clearance⟩
          simp
    · cases hgate

/-- The samples kept inside the gate begin with the start. -/
theorem Trace.inside_pos
    (h : Trace L request startQ startTcp target n poses clearances inside) :
    0 < inside ↔ evaluateQ L startQ requiredClearanceM = none := by
  rw [← h.start]
  constructor
  · intro hpositive
    exact (h.recovering 0 hpositive).1
  · intro hnone
    by_contra hzero
    have hclear := h.clear 0 (by omega) (Nat.zero_le n)
    rw [hnone] at hclear
    cases hclear

end Step

/-! ## §3. The whole edge. -/

section Edge

variable [FloatOrder F] {L : ArmModel F} {request : RouteRequest F} {startQ : PairQ F}
  {startTcp target : RoutePose F}

theorem sampleEdge_traced (hstart : FinitePose startQ)
    (hstep : Floating.isFinite request.maximumBranchStepRad = true) {m n inside : Nat}
    {poses : Nat → PairQ F} {clearances : Nat → F} {e last : EdgeState F}
    (h : Traced L request startQ startTcp target n poses clearances inside e)
    (hsample : sampleEdge L request startQ startTcp target (List.range' (n + 1) m) e = some last) :
    ∃ poses' clearances' inside',
      Traced L request startQ startTcp target (n + m) poses' clearances' inside' last := by
  induction m generalizing n poses clearances inside e with
  | zero =>
    cases hsample
    exact ⟨poses, clearances, inside, h⟩
  | succ m ih =>
    rw [List.range'_succ] at hsample
    unfold sampleEdge at hsample
    dsimp only at hsample
    split at hsample
    · cases hsample
    rename_i q hsolve
    split at hsample
    · cases hsample
    rename_i e' hgate
    have hfinite : FinitePose e.q := by
      rw [h.q]
      exact h.trace.finite n (Nat.le_refl n)
    have hsolved := fun side => solveSample_solved hfinite hstep hsolve side
    obtain ⟨poses', clearances', inside', htraced⟩ := gateSample_traced h hsolved
      (fun side joint => (hsolved side).finite hstart joint) hgate
    obtain ⟨poses'', clearances'', inside'', hlast⟩ := ih htraced hsample
    exact ⟨poses'', clearances'', inside'', by rwa [Nat.add_right_comm, Nat.add_assoc] at hlast⟩

omit [FloatOrder F] in
theorem beginEdge_traced (hstart : FinitePose startQ) {first : EdgeState F}
    (h : beginEdge L request startQ = some first) : ∃ poses clearances inside,
      Traced L request startQ startTcp target 0 poses clearances inside first ∧
        (evaluateQ L startQ requiredClearanceM = none ↔ first.recovering = true) := by
  unfold beginEdge at h
  split at h
  · rename_i clearance hclear
    cases h
    refine ⟨fun _ => startQ, fun _ => clearance, 0, ⟨⟨rfl, ?_, fun _ _ => hstart, ?_, ?_,
      fun _ _ _ => hclear, ?_, by omega⟩, rfl, ?_, rfl, rfl⟩, ?_⟩
    · intro k hk
      omega
    · intro hpositive
      omega
    · intro k hk
      omega
    · intro k hk
      omega
    · simp
    · simp [hclear]
  · rename_i hinside
    split at h
    · cases h
    rename_i hallowed
    split at h
    · cases h
    rename_i clearance hlive
    cases h
    refine ⟨fun _ => startQ, fun _ => clearance, 1, ⟨⟨rfl, ?_, fun _ _ => hstart, ?_, ?_, ?_, ?_,
      by omega⟩, rfl, ?_, rfl, rfl⟩, ?_⟩
    · intro k hk
      omega
    · intro _
      simpa using hallowed
    · intro k _
      exact ⟨hinside, hlive⟩
    · intro k hlow hk
      omega
    · intro k hk
      omega
    · simp
    · simp [hinside]

/-- **What `validate_edge` accepts is a proved edge.** -/
theorem validateEdge_proved (hstart : FinitePose startQ)
    (hstep : Floating.isFinite request.maximumBranchStepRad = true) {edge : Edge F}
    (h : validateEdge L request startQ target = some edge) :
    ∃ startTcp poses clearances inside,
      EdgeProof L request startQ target edge startTcp poses clearances inside := by
  unfold validateEdge at h
  split at h
  · cases h
  rename_i startTcp htools
  extract_lets moved at h
  split at h
  · cases h
  split at h
  · cases h
  rename_i first hfirst
  split at h
  · cases h
  rename_i last hlast
  split at h
  · cases h
  rename_i hrecovered
  cases h
  have hbegun : ∃ poses clearances inside,
      Traced L request startQ startTcp target 0 poses clearances inside first ∧ _ :=
    beginEdge_traced hstart hfirst
  obtain ⟨poses, clearances, inside, htraced, hused⟩ := hbegun
  obtain ⟨poses', clearances', inside', htraced'⟩ := sampleEdge_traced hstart hstep htraced
    (m := 16) hlast
  have hle := htraced'.trace.inside_le
  have hnot : inside' ≠ 17 := fun heq => hrecovered (htraced'.recovering.mpr heq)
  refine ⟨startTcp, poses', clearances', inside', htools, htraced'.trace, by omega, htraced'.q,
    htraced'.minimum, ?_⟩
  refine Bool.eq_iff_iff.mpr ?_
  rw [decide_eq_true_iff, htraced'.trace.inside_pos]
  exact hused.symm

end Edge

end OpenArm.Model
