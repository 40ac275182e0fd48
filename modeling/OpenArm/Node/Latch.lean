/-
  OpenArm.Node.Latch — what the emergency stop keeps out.

  The latch is read in one place only, where a request is admitted.  A command
  that was admitted before is stopped by the cancel that comes with it.

  Main results:
    * `latch_admits` — what passes its last check while the latch is engaged was
                       asked for before it was.
-/
import OpenArm.Node.Stop

namespace OpenArm.Node

open OpenArm.Lib OpenArm.Control OpenArm.Model OpenArm.Guard PortalNode

variable {F : Type} [Metric F] {A : GuardModel F} {R : ArmModel F} {realMode stop : Bool}
  {w w' : World F}

/-! ## §1. The latch. -/

/-- What a step does to the latch. -/
inductive Turned (w w' : World F) : Prop where
  | keeps (latch : w'.latch = w.latch)
      (engagements : w'.history.engagements = w.history.engagements)
      (admittedAt : w'.history.admittedAt = w.history.admittedAt)
  | admits (t : Thread) (released : w.latch = false) (latch : w'.latch = w.latch)
      (engagements : w'.history.engagements = w.history.engagements)
      (admittedAt : w'.history.admittedAt =
        Function.update w.history.admittedAt t w.history.engagements)
  | engages (engagements : w'.history.engagements = w.history.engagements + 1)
      (admittedAt : w'.history.admittedAt = w.history.admittedAt)
  | releases (latch : w'.latch = false)
      (engagements : w'.history.engagements = w.history.engagements)
      (admittedAt : w'.history.admittedAt = w.history.admittedAt)

theorem advance_turned {t : Thread} {turn : Turn} (h : w.advance A R realMode t turn = some w') :
    Turned w w' := by
  unfold World.advance at h
  split at h
  · cases h
  · obtain rfl := Option.some.inj h
    unfold World.beginsGuard
    cases w.node.beginGuard turn.first.stop with
    | none => exact .keeps rfl rfl rfl
    | some reserved => exact .keeps rfl rfl rfl
  · obtain rfl := Option.some.inj h
    exact .keeps rfl rfl rfl
  · next token guarded hwas =>
    obtain rfl := Option.some.inj h
    unfold World.moves
    generalize w.node.move A token guarded turn.first turn.second turn.available turn.sends = moved
    obtain ⟨entry, node⟩ := moved
    cases entry with
    | refused => exact .keeps rfl rfl rfl
    | dropped => exact .keeps rfl rfl rfl
    | contact => exact .keeps rfl rfl rfl
    | route => exact .keeps rfl rfl rfl
  · obtain rfl := Option.some.inj h
    exact .keeps rfl rfl rfl
  · next token stage hwas =>
    obtain rfl := Option.some.inj h
    unfold World.submits
    generalize w.node.submitRouteLeg A R turn.first turn.sends stage = done
    obtain ⟨node, progress⟩ := done
    cases progress with
    | next stage' =>
      -- a check that was passed reads the latch, and leaves it
      refine .keeps rfl ?_ ?_
      · show (if World.checkedStage stage' = true then w.checks else w.history).engagements = _
        split
        · rfl
        · rfl
      · show (if World.checkedStage stage' = true then w.checks else w.history).admittedAt = _
        split
        · rfl
        · rfl
    | returned => exact .keeps rfl rfl rfl
    | sent leg endpoint seen => exact .keeps rfl rfl rfl
  · obtain rfl := Option.some.inj h
    exact .keeps rfl rfl rfl
  · obtain rfl := Option.some.inj h
    exact .keeps rfl rfl rfl
  · obtain rfl := Option.some.inj h
    exact .keeps rfl rfl rfl

omit [Metric F] in
theorem responds_turned {goal : Nat} {accepted : Bool} (h : w.responds goal accepted = some w') :
    Turned w w' := by
  unfold World.responds at h
  obtain ⟨sent, -, hrest⟩ := Option.bind_eq_some_iff.mp h
  split at hrest
  · cases hrest
  · obtain rfl := Option.some.inj hrest
    exact .keeps rfl rfl rfl

omit [Metric F] in
theorem concludes_turned {goal : Nat} {completed : Bool}
    (h : w.concludes goal completed = some w') : Turned w w' := by
  unfold World.concludes at h
  obtain ⟨sent, -, hrest⟩ := Option.bind_eq_some_iff.mp h
  split at hrest
  · cases hrest
  dsimp only at hrest
  split at hrest
  · obtain rfl := Option.some.inj hrest
    exact .keeps rfl rfl rfl
  next index endpoint hleg =>
  generalize w.node.legResult index completed = answer at hrest
  obtain ⟨verdict, node⟩ := answer
  cases verdict with
  | stopped =>
    obtain rfl := Option.some.inj hrest
    exact .keeps rfl rfl rfl
  | continued =>
    obtain rfl := Option.some.inj hrest
    exact .keeps rfl rfl rfl
  | completed =>
    obtain rfl := Option.some.inj hrest
    exact .keeps rfl rfl rfl

theorem next_turned {e : Event F} (h : w.next A R realMode e = some w') : Turned w w' := by
  cases e with
  | request worker job =>
    unfold World.next at h
    dsimp only at h
    split at h
    · split at h
      · cases h
      · next hreleased =>
        -- a request is admitted only while the latch is released
        obtain rfl := Option.some.inj h
        exact .admits (.worker worker) (by simpa using hreleased) rfl rfl rfl
    · cases h
  | advance t turn => exact advance_turned h
  | cancel =>
    obtain rfl := Option.some.inj h
    exact .keeps rfl rfl rfl
  | beginShutdown =>
    obtain rfl := Option.some.inj h
    exact .keeps rfl rfl rfl
  | engageEstop =>
    obtain rfl := Option.some.inj h
    exact .engages rfl rfl
  | releaseEstop =>
    obtain rfl := Option.some.inj h
    exact .releases rfl rfl rfl
  | jointState moment producerTimeNs q =>
    obtain ⟨-, hrest⟩ := Option.ite_none_right_eq_some.mp h
    obtain rfl := Option.some.inj hrest
    exact .keeps rfl rfl rfl
  | diagnostics moment producerTimeNs statuses =>
    obtain ⟨-, hrest⟩ := Option.ite_none_right_eq_some.mp h
    obtain rfl := Option.some.inj hrest
    exact .keeps rfl rfl rfl
  | fire =>
    obtain ⟨-, hrest⟩ := Option.ite_none_right_eq_some.mp h
    obtain ⟨index, -, rfl⟩ := Option.map_eq_some_iff.mp hrest
    exact .keeps rfl rfl rfl
  | response goal accepted =>
    obtain ⟨-, hrest⟩ := Option.ite_none_right_eq_some.mp h
    exact responds_turned hrest
  | result goal completed =>
    obtain ⟨-, hrest⟩ := Option.ite_none_right_eq_some.mp h
    exact concludes_turned hrest

/-- A mark that is not younger than the latch. -/
def Past (w : World F) (mark : Nat) : Prop :=
  mark ≤ w.history.engagements ∧ (w.latch = true → mark < w.history.engagements)

omit [Metric F] in
theorem Past.turned {mark : Nat} (h : Past w mark) (ht : Turned w w') : Past w' mark := by
  unfold Past at h ⊢
  cases ht with
  | keeps latch engagements admittedAt =>
    rw [latch, engagements]
    exact h
  | admits t released latch engagements admittedAt =>
    rw [latch, engagements]
    exact h
  | engages engagements admittedAt =>
    rw [engagements]
    exact ⟨by omega, fun _ => by omega⟩
  | releases latch engagements admittedAt =>
    rw [latch, engagements]
    exact ⟨h.1, fun hyes => (by cases hyes)⟩

omit [Metric F] in
/-- The mark of a request stays behind the latch. -/
theorem admitted_turned (h : ∀ t, Past w (w.history.admittedAt t)) (ht : Turned w w')
    (t : Thread) : Past w' (w'.history.admittedAt t) := by
  have hold := (h t).turned ht
  cases ht with
  | keeps latch engagements admittedAt =>
    rw [admittedAt]
    exact hold
  | admits worker released latch engagements admittedAt =>
    rw [admittedAt]
    by_cases hsame : t = worker
    · rw [hsame, Function.update_self]
      unfold Past
      rw [latch, engagements, released]
      exact ⟨Nat.le_refl _, fun hyes => (by cases hyes)⟩
    · rw [Function.update_of_ne hsame]
      exact hold
  | engages engagements admittedAt =>
    rw [admittedAt]
    exact hold
  | releases latch engagements admittedAt =>
    rw [admittedAt]
    exact hold

/-! ## §2. The record of a command. -/

/-- What a step notes of the latch. -/
inductive Noted (w w' : World F) : Prop where
  | nothing (admitted : w'.history.admitted = w.history.admitted)
      (engaged : w'.history.engaged = w.history.engaged)
      (engagements : w'.history.engagementsAtCheck = w.history.engagementsAtCheck)
      (legs : w'.history.legs = w.history.legs)
  | command (t : Thread) (free : w.node.goalActive = false)
      (admitted : w'.history.admitted = w.history.admittedAt t)
      (legs : w'.history.legs = w.history.legs)
  | check (history : w'.history = w.checks)
  | leg (t : Thread) (token : Option Nat) (leg : Leg F) (endpoint : RoutePose F)
      (seen : Handoff F) (was : w.activity t = .submitting token (.sending leg endpoint seen))
      (history : w'.history = { w.history with
        legs := w.history.legs ++ [w.sentLeg leg endpoint seen] })

omit [Metric F] in
theorem SameHistory.noted (h : SameHistory w.history w'.history) : Noted w w' :=
  .nothing h.admitted h.engaged h.engagementsAtCheck h.legs

theorem noted_step (hd : Did A R stop w w') : Noted w w' := by
  cases hd with
  | aside route timer threads judged goals history => exact history.noted
  | halts node activity goals history =>
    exact .nothing (by rw [history]) (by rw [history]) (by rw [history]) (by rw [history])
  | drops t free inactive waypoints timer only before after judged goals history =>
    exact history.noted
  | enters t token guarded judged free valid ordinary some node activity goals history =>
    exact .command t free (by rw [history]; rfl) (by rw [history]; rfl)
  | contacts t token guarded judged free valid contact node activity goals nextGoal history =>
    exact .command t free (by rw [history]; rfl) (by rw [history]; rfl)
  | reads t token index leg entering unblocked position bound endpoint last retreat preserved node
      activity goals history => exact history.noted
  | thinks t token stage stage' was thought node activity goals history => exact history.noted
  | replaces t token leg waypoints was unblocked position inside node activity goals history =>
    exact history.noted
  | checks t token leg endpoint moment was unblocked position valid node activity goals history =>
    exact .check history
  | sends t token leg endpoint seen was node activity goals nextGoal history =>
    exact .leg t token leg endpoint seen was history
  | passes old new held onward rest positions stages goalActive cancelPending waypoints retreat
      preserved goals judged history => exact history.noted
  | stalls x held rest positions why route judged goals history => exact history.noted
  | accepts goal sent found pending node activity goals nextGoal history =>
    exact .nothing (by rw [history]) (by rw [history]) (by rw [history]) (by rw [history])
  | ends x hends history => exact history.noted
  | completes goal index endpoint hends found some last history =>
    exact .nothing (by rw [history]) (by rw [history]) (by rw [history]) (by rw [history])

/-- **Behind the latch**: the requests that are out, the command under way, the leg
    that has passed its last check, and the legs that were sent. -/
structure Latched (w : World F) : Prop where
  requests : ∀ t, Past w (w.history.admittedAt t)
  command : Past w w.history.admitted
  sending : ∀ t token leg endpoint seen,
    w.activity t = .submitting token (.sending leg endpoint seen) → w.history.engaged = true →
      w.history.admitted < w.history.engagementsAtCheck
  legs : ∀ sent ∈ w.history.legs, sent.engaged = true → sent.admitted < sent.engagements

/-- The leg that has passed its last check. -/
theorem latched_sending (h : Latched w) (hb : Baton w.Holds w.node.goalActive)
    (hn : Noted w w') (hd : Did A R stop w w') {t : Thread} {token : Option Nat} {leg : Leg F}
    {endpoint : RoutePose F} {seen : Handoff F}
    (ht : w'.activity t = .submitting token (.sending leg endpoint seen))
    (hengaged : w'.history.engaged = true) :
    w'.history.admitted < w'.history.engagementsAtCheck := by
  rcases sending_step hb hd ht with hwas | ⟨-, hchecks⟩
  · cases hn with
    | nothing admitted engaged engagements legs =>
      rw [engaged] at hengaged
      rw [admitted, engagements]
      exact h.sending t token leg endpoint seen hwas hengaged
    | command u free admitted legs =>
      -- no command begins while a leg of another is on its way
      have hbusy := hb.flagged _ (holds_submitting hwas)
      rw [free] at hbusy
      cases hbusy
    | check history =>
      rw [history] at hengaged ⊢
      exact h.command.2 hengaged
    | leg u token' leg' endpoint' seen' was history =>
      rw [history] at hengaged ⊢
      exact h.sending t token leg endpoint seen hwas hengaged
  · rw [hchecks] at hengaged ⊢
    exact h.command.2 hengaged

theorem latched_step (h : Latched w) (hb : Baton w.Holds w.node.goalActive) (ht : Turned w w')
    (hd : Did A R stop w w') : Latched w' := by
  have hn := noted_step hd
  have hcommand := h.command.turned ht
  refine ⟨admitted_turned h.requests ht, ?_, fun t token leg endpoint seen hu =>
    latched_sending h hb hn hd hu, ?_⟩
  · cases hn with
    | nothing admitted engaged engagements legs =>
      rw [admitted]
      exact hcommand
    | command t free admitted legs =>
      rw [admitted]
      exact (h.requests t).turned ht
    | check history =>
      rw [history]
      exact hcommand
    | leg t token leg endpoint seen was history =>
      rw [history]
      exact hcommand
  · cases hn with
    | nothing admitted engaged engagements legs =>
      rw [legs]
      exact h.legs
    | command t free admitted legs =>
      rw [legs]
      exact h.legs
    | check history =>
      rw [history]
      exact h.legs
    | leg t token leg endpoint seen was history =>
      rw [history]
      intro sent hsent hengaged
      rcases List.mem_append.mp hsent with hold | hnew
      · exact h.legs sent hold hengaged
      · rw [List.mem_singleton.mp hnew] at hengaged ⊢
        exact h.sending t token leg endpoint seen was hengaged

theorem latched_initial : Latched (World.initial : World F) := by
  refine ⟨fun _ => ⟨Nat.le_refl _, fun hyes => (by cases hyes)⟩,
    ⟨Nat.le_refl _, fun hyes => (by cases hyes)⟩,
    fun t token leg endpoint seen ht => (by cases ht),
    fun sent hsent => (List.not_mem_nil hsent).elim⟩

theorem latched (h : (portal A R realMode).Reachable w) : Latched w := by
  have hall : Stops w ∧ Latched w := by
    refine h.invariant (I := fun v : World F => Stops v ∧ Latched v) (fun a ha => ?_)
      fun a e b hstep ⟨hs, hl⟩ => ?_
    · obtain rfl : a = World.initial := ha
      exact ⟨stops (show (portal A R realMode).Reachable World.initial from Lts.Reachable.of_init rfl),
        latched_initial⟩
    · exact ⟨stops_step hs hstep,
        latched_step hl hs.baton (next_turned hstep) (next_did hstep)⟩
  exact hall.2

/-- **The latch keeps new requests out**: while it is engaged the command under way
    was asked for before it was, and so was every leg that passed its last check
    under an engaged latch and was sent. -/
theorem latch_admits (h : (portal A R realMode).Reachable w) :
    (w.latch = true → w.history.admitted < w.history.engagements) ∧
      ∀ sent ∈ w.history.legs, sent.engaged = true → sent.admitted < sent.engagements :=
  ⟨(latched h).command.2, (latched h).legs⟩

/-- The stop is engaged behind the second proof of a leg, which passes its last check
    and is sent. -/
theorem latch_admits_underway : ∃ w : World Extended, w.latch = true ∧
    (∃ sent ∈ w.history.legs, sent.engaged = true) ∧
    (w.latch = true → w.history.admitted < w.history.engagements) ∧
      ∀ sent ∈ w.history.legs, sent.engaged = true → sent.admitted < sent.engagements := by
  obtain ⟨planned, -, hfeasible⟩ := detour_feasible
  obtain ⟨es, node, k, token, scale, first, last, hrun, -, hway, hlet, -⟩ :=
    planned_proved (initial_ready 0) hfeasible
  have hproved := (Lts.Reachable.of_init (T := portal reachModel detourArms false) rfl).run hrun
  set leg := firstLeg (observed World.initial.node.evidence quietMoment detourQ) scale
    (commandedSide detourJob.request) first last with hleg
  -- the stop, the check and the block that sends
  have hengage : (portal reachModel detourArms false).step
      (World.initial.doing (.worker 0) node (.submitting (some token) (.proved leg first)) k)
      .engageEstop
      ({ World.initial with latch := true }.doing (.worker 0) node
        (.submitting (some token) (.proved leg first)) { k with
          engagements := k.engagements + 1 }) := rfl
  have hchecked := first_checked (A := reachModel) (R := detourArms) first last scale hway
    hfeasible.current hlet
  have hsent := ((Lts.Run.single hengage).snoc
    (submits_next (quietTurn quietMoment) hchecked)).snoc (sent_next (quietTurn quietMoment) rfl)
  refine ⟨_, ?_, ⟨_, List.mem_append_right _ List.mem_cons_self, rfl⟩,
    latch_admits (hproved.run hsent)⟩
  rfl

end OpenArm.Node
