/-
  OpenArm.Control.Nonces — whom a reset believes.

  A latch into FAULT or ESTOP renews the nonce, so that no challenge from
  before it authorises a reset.  Two things escape the rule: the publish that
  overflows the ring latches without renewing, which matters where a challenge
  is outstanding, and a renewed nonce is the next number, which the expiry of
  the challenge before still covers.

  Main results:
    * `call_nonces`     — what a call does to the challenge registers.
    * `reset_authority` — a run that meets neither resets on fresh authority
      only, and spends every nonce once.
-/
import OpenArm.Control.Walk
import OpenArm.Control.Standard

namespace OpenArm.Control

open OpenArm.Lib

variable {F : Type} [Floating F]

namespace Controller

/-! ## §1. The registers of the challenge. -/

theorem nonces_publish (c : Controller F) (kind : EventKind) (cause : ControlStatus) (id : Nat) :
    (c.publish kind cause id).1.nonces = c.nonces := by
  by_cases hroom : c.events.isFull = false
  · obtain ⟨event, heq⟩ := c.publish_of_room kind cause id hroom
    rw [heq]
    rfl
  · obtain ⟨event, heq⟩ := c.publish_of_full kind cause id (by simpa using hroom)
    rw [heq]
    rfl

theorem lifecycle_publish_of_room {c : Controller F} (kind : EventKind) (cause : ControlStatus)
    (id : Nat) (h : c.events.isFull = false) :
    (c.publish kind cause id).1.lifecycle = c.lifecycle := by
  obtain ⟨event, heq⟩ := c.publish_of_room kind cause id h
  rw [heq]

theorem lifecycle_publish_of_full {c : Controller F} (kind : EventKind) (cause : ControlStatus)
    (id : Nat) (h : c.events.isFull = true) :
    (c.publish kind cause id).1.lifecycle = .fault := by
  obtain ⟨event, heq⟩ := c.publish_of_full kind cause id h
  rw [heq]
  rfl

/-- A walk leaves the registers alone, and leaves FAULT and ESTOP to a latch. -/
theorem Walk.nonces {n : Nat} {c c' : Controller F} (h : Walk n c c') :
    c'.nonces = c.nonces ∧ (c'.lifecycle = c.lifecycle ∨ c.Armed ∧ c'.Calm) := by
  obtain ⟨k, -, hchain⟩ := h
  induction hchain with
  | refl => exact ⟨rfl, .inl rfl⟩
  | snoc front last ih =>
    rename_i i c m c'
    obtain ⟨hm, hlife⟩ := ih
    have harmed : m.Armed → c.Armed := Walk.armed (n := i) ⟨i, Nat.le_refl i, front⟩
    -- a move that keeps the lifecycle keeps what the walk says of it
    have hkeeps : c'.lifecycle = m.lifecycle → c'.lifecycle = c.lifecycle ∨ c.Armed ∧ c'.Calm := by
      intro hsame
      unfold Calm at hlife ⊢
      rw [hsame]
      exact hlife
    cases last with
    | write _ _ _ nonces life =>
      refine ⟨nonces.trans hm, ?_⟩
      obtain hsame | ⟨hc, hcalm⟩ := life
      · exact hkeeps hsame
      · exact .inr ⟨harmed hc, hcalm⟩
    | feed => exact ⟨hm, hkeeps rfl⟩
    | halt _ _ _ _ nonces armed calm => exact ⟨nonces.trans hm, .inr ⟨harmed armed, calm⟩⟩
    | publish kind cause id room =>
      exact ⟨(nonces_publish _ _ _ _).trans hm, hkeeps (lifecycle_publish_of_room _ _ _ room)⟩

/-- Where a nonce can be outstanding. -/
def Placed (c : Controller F) : Prop :=
  c.outstandingNonce ≠ 0 → c.lifecycle = .disarmed ∨ ¬ c.Calm

/-- What a call that hands out no nonce and spends none does to the registers. -/
inductive Kept (c c' : Controller F) : Prop where
  /-- Nothing, and a nonce that has not expired stays where it is. -/
  | same (nonces : c'.nonces = c.nonces)
      (life : c.outstandingNonce ≠ 0 → c'.lifecycle = c.lifecycle ∨
        c.outstandingChallengeExpiry < c.nowNs ∧ ¬ c'.Calm)
  | renewed (nonces : c'.nonces = c.nonces.rotate) (latched : ¬ c'.Calm)
  | cleared (counter : c'.nonceCounter = c.nonceCounter) (outstanding : c'.outstandingNonce = 0)

omit [Floating F] in
theorem Placed.not_armed {c : Controller F} (h : c.Placed) (hne : c.outstandingNonce ≠ 0) :
    ¬ c.Armed := by
  intro harmed
  obtain hdisarmed | hlatched := h hne
  · unfold Armed at harmed
    simp [hdisarmed] at harmed
  · exact hlatched harmed.calm

theorem Latch.publish_kept {c m stopped : Controller F} {n : Nat} (kind : EventKind)
    (cause : ControlStatus) (id : Nat) (hwalk : Walk n c m) (h : Latch m stopped) :
    Kept c (stopped.publish kind cause id).1 := by
  refine .renewed ?_ ?_
  · rw [nonces_publish, h.nonces, hwalk.nonces.1]
  · by_cases hroom : stopped.events.isFull = false
    · unfold Calm
      rw [lifecycle_publish_of_room kind cause id hroom]
      exact h.latched
    · unfold Calm
      rw [lifecycle_publish_of_full kind cause id (by simpa using hroom)]
      simp

theorem Ends.kept {n : Nat} {c c' : Controller F} {status : ControlStatus}
    (h : Ends n c c' status) (hplaced : c.Placed) : Kept c c' := by
  cases h with
  | walk walk =>
    obtain ⟨hnonces, hlife⟩ := walk.nonces
    refine .same hnonces fun hne => ?_
    obtain hsame | ⟨harmed, -⟩ := hlife
    · exact .inl hsame
    · exact absurd harmed (hplaced.not_armed hne)
  | overflow kind cause id armed walk =>
    refine .same ?_ fun hne => absurd armed (hplaced.not_armed hne)
    rw [nonces_publish, walk.nonces.1]
  | latch kind cause id walk latch => exact latch.publish_kept kind cause id walk

theorem Closes.nonces {m c' : Controller F} {status : ControlStatus} (h : Closes m c' status) :
    c'.nonces = m.nonces := by
  cases h with
  | refl => rfl
  | publish kind cause id => exact nonces_publish m kind cause id

theorem Closes.lifecycle {m c' : Controller F} {status : ControlStatus}
    (h : Closes m c' status) :
    c'.lifecycle = m.lifecycle ∨ m.events.isFull = true ∧ c'.lifecycle = .fault := by
  cases h with
  | refl => exact .inl rfl
  | publish kind cause id =>
    by_cases hroom : m.events.isFull = false
    · exact .inl (lifecycle_publish_of_room kind cause id hroom)
    · have hfull : m.events.isFull = true := by simpa using hroom
      exact .inr ⟨hfull, lifecycle_publish_of_full kind cause id hfull⟩

end Controller

/-! ## §2. Handing out and spending. -/

open Controller

/-- The nonce a call returned. -/
def returnedNonce (e : Label F) : Option Nat :=
  match e.2.output with
  | .challenge challenge => some challenge.nonce
  | _ => none

/-- The nonces returned over a run. -/
def returnedNonces (es : List (Label F)) : List Nat := es.filterMap returnedNonce

/-- The nonce a successful `arm` or `reset` presented. -/
def spentNonce (e : Label F) : Option Nat :=
  match e.1 with
  | .arm challenge => if e.2.status = .ok then some challenge.nonce else none
  | .reset request => if e.2.status = .ok then some request.nonce else none
  | _ => none

/-- The nonces spent over a run. -/
def spentNonces (es : List (Label F)) : List Nat := es.filterMap spentNonce

/-- The world after the calls of a run. -/
def worldAfter (L : ModelLibrary F) (w : World F) (es : List (Label F)) : World F :=
  es.foldl (fun w e => (call L w e.1).1) w

theorem worldAfter_snoc (L : ModelLibrary F) (w : World F) (es : List (Label F)) (e : Label F) :
    worldAfter L w (es ++ [e]) = (call L (worldAfter L w es) e.1).1 := by
  unfold worldAfter
  rw [List.foldl_append]
  rfl

theorem worldAfter_run {L : ModelLibrary F} {w w' : World F} {es : List (Label F)}
    (h : (system L).Run w es w') : worldAfter L w es = w' := by
  induction h with
  | nil => rfl
  | snoc front last ih => rw [worldAfter_snoc, ih, ← (step_eq last).1]

/-- A call that does not reach the defects: a `disarm` overflows no ring while
    a challenge is outstanding, no `reset` presents an outstanding nonce that
    no challenge returned, and the 64 bits of the counter last. -/
structure Careful (c : Controller F) (returned : List Nat) (op : Op F) : Prop where
  counter : c.nonceCounter < maxU64
  overflow : ∀ deadline, op = .disarm deadline → c.lifecycle = .disarmed →
    c.events.isFull = true → c.nowNs ≤ deadline →
    c.outstandingNonce = 0 ∨ c.outstandingChallengeExpiry < c.nowNs
  presented : ∀ request, op = .reset request → request.nonce = c.outstandingNonce →
    request.nonce ≠ 0 → c.nowNs ≤ c.outstandingChallengeExpiry → request.nonce ∈ returned

/-- Every call of the run from `w` is careful. -/
def CarefulRun (L : ModelLibrary F) (w : World F) (es : List (Label F)) : Prop :=
  ∀ before e after, es = before ++ e :: after →
    Careful (worldAfter L w before).controller (returnedNonces before) e.1

/-- A challenge of the run from `w` returned `nonce` when the lifecycle was
    already the one at the end, and it did not change since. -/
def ChallengedSince (L : ModelLibrary F) (w : World F) (es : List (Label F)) (nonce : Nat) :
    Prop :=
  ∃ before response after, es = before ++ (.challenge, response) :: after ∧
    response.status = .ok ∧ returnedNonce (.challenge, response) = some nonce ∧
    ∀ part, part <+: after →
      (worldAfter L w (before ++ (.challenge, response) :: part)).controller.lifecycle =
        (worldAfter L w before).controller.lifecycle

/-! ## §3. What a call does to the registers. -/

omit [Floating F] in
/-- No planner hands out a nonce. -/
theorem returnedNonce_planned (w : World F) (op : Op F)
    (out : Controller F × Except ControlStatus (MotionPlan F)) :
    returnedNonce (op, (planned w out).2) = none := by
  obtain ⟨c, answer⟩ := out
  cases answer <;> rfl

/-- A call that returns a nonce is a challenge that did nothing else. -/
theorem call_returned (L : ModelLibrary F) {w : World F} {op : Op F} {nonce : Nat}
    (h : returnedNonce (op, (call L w op).2) = some nonce) :
    op = .challenge ∧ (call L w op).1.controller = w.controller.challenged ∧
      nonce = wrap64 (w.controller.nonceCounter + 1) ∧ (call L w op).2.status = .ok ∧
      (w.controller.lifecycle = .disarmed ∨ ¬ w.controller.Calm) := by
  cases op with
  | challenge =>
    refine ⟨rfl, ?_⟩
    change returnedNonce (.challenge, (withOutput w w.controller.challenge .challenge).2) = _ at h
    show w.controller.challenge.1 = _ ∧ _ ∧ w.controller.challenge.2.1 = _ ∧ _
    unfold challenge at h ⊢
    dsimp only at h ⊢
    split at h
    · exact absurd h (by simp [withOutput, returnedNonce])
    rename_i hlife
    rw [if_neg hlife]
    split at h
    · split at h <;> exact absurd h (by simp [withOutput, returnedNonce])
    · rename_i hready
      rw [if_neg hready]
      refine ⟨rfl, (Option.some.inj h).symm, rfl, ?_⟩
      by_cases hdisarmed : w.controller.lifecycle = .disarmed
      · exact .inl hdisarmed
      · refine .inr fun hcalm => hlife ⟨hdisarmed, ?_⟩
        simp [hcalm.1, hcalm.2]
  | openAndVerify =>
    change returnedNonce (_, (withOutput w w.controller.openAndVerify .verified).2) = _ at h
    unfold withOutput at h
    cases hreport : w.controller.openAndVerify.2.2 <;> simp [hreport, returnedNonce] at h
  | pollEvent =>
    change returnedNonce (_, (withOutput w w.controller.pollEvent .event).2) = _ at h
    unfold withOutput at h
    cases hevent : w.controller.pollEvent.2.2 <;> simp [hevent, returnedNonce] at h
  | snapshot =>
    cases hsnapshot : w.controller.snapshot.2 <;> simp [call, hsnapshot, returnedNonce] at h
  | kinematics side seq =>
    cases hresult : (w.controller.kinematics L side seq).2 <;>
      simp [call, hresult, returnedNonce] at h
  | execute plan request =>
    change returnedNonce (_, (executed w _).2) = _ at h
    unfold executed returnedNonce at h
    dsimp only at h
    split at h
    · rename_i heq
      split at heq <;> cases heq
    · cases h
  | planJoint request => cases (returnedNonce_planned w _ _).symm.trans h
  | planPaired request => cases (returnedNonce_planned w _ _).symm.trans h
  | planCentroid request => cases (returnedNonce_planned w _ _).symm.trans h
  | planMirrored request => cases (returnedNonce_planned w _ _).symm.trans h
  | planConverge request => cases (returnedNonce_planned w _ _).symm.trans h
  | _ => cases h

/-- What an accepted `arm` found. -/
theorem armWith_ok {c : Controller F} {challenge : ArmChallenge}
    (h : (c.armWith challenge).2 = .ok) :
    c.lifecycle = .disarmed ∧ c.challengeMismatch challenge = false ∧
      (c.armWith challenge).1.nonces = c.energize.nonces := by
  unfold armWith at h ⊢
  split at h
  · cases h
  rename_i hlife
  split at h
  · cases h
  rename_i hmatch
  split at h
  · cases h
  rename_i hfresh
  split at h
  · rename_i hfault
    -- a latch never answers OK
    have hne : ∀ cause, cause ≠ .ok → (c.latchFault cause false).2 ≠ .ok := by
      intro cause hcause
      show (if _ then cause else .ebusy) ≠ .ok
      split
      · exact hcause
      · exact ebusy_ne_ok
    refine absurd h (hne _ ?_)
    split <;> decide
  · rename_i hready
    rw [if_neg hlife, if_neg hmatch, if_neg hfresh, if_neg hready]
    exact ⟨not_not.mp hlife, by simpa using hmatch, nonces_publish _ _ _ _⟩

omit [Floating F] in
theorem reset_ok {c : Controller F} {request : ResetRequest} (h : (c.reset request).2 = .ok) :
    ¬ c.Calm ∧ c.acceptsReset request ∧ (c.reset request).1 = c.closed := by
  unfold reset at h ⊢
  split at h
  · cases h
  rename_i hlife
  split at h
  · cases h
  rename_i haccept
  rw [if_neg hlife, if_neg haccept]
  refine ⟨fun hcalm => hlife ⟨hcalm.1, hcalm.2⟩, ?_, rfl⟩
  push Not at haccept
  exact haccept

/-- A call that spends a nonce presents the outstanding one, which is not
    outstanding any more. -/
theorem call_spent (L : ModelLibrary F) {w : World F} {op : Op F} {nonce : Nat}
    (h : spentNonce (op, (call L w op).2) = some nonce) :
    nonce = w.controller.outstandingNonce ∧ nonce ≠ 0 ∧
      (call L w op).1.controller.nonceCounter = w.controller.nonceCounter ∧
      (call L w op).1.controller.outstandingNonce = 0 := by
  cases op with
  | arm challenge =>
    change (if (w.controller.armWith challenge).2 = .ok then some challenge.nonce else none) =
      some nonce at h
    split at h
    · rename_i hok
      obtain ⟨-, hmatch, hnonces⟩ := armWith_ok hok
      cases h
      simp only [challengeMismatch, Bool.or_eq_false_iff, bne_eq_false_iff_eq,
        beq_eq_false_iff_ne] at hmatch
      obtain ⟨⟨⟨⟨-, hnonce⟩, hne⟩, -⟩, -⟩ := hmatch
      exact ⟨hnonce, hnonce ▸ hne, congrArg Nonces.counter hnonces,
        congrArg Nonces.outstanding hnonces⟩
    · cases h
  | reset request =>
    change (if (w.controller.reset request).2 = .ok then some request.nonce else none) =
      some nonce at h
    split at h
    · rename_i hok
      obtain ⟨-, ⟨-, hnonce, hne, -⟩, hclosed⟩ := reset_ok hok
      cases h
      have hcall : (call L w (.reset request)).1.controller = w.controller.closed := hclosed
      rw [hcall]
      exact ⟨hnonce, hne, rfl, rfl⟩
    · cases h
  | _ => cases h

theorem challenge_kept (L : ModelLibrary F) {w : World F} (hplaced : w.controller.Placed)
    (h : returnedNonce (.challenge, (call L w .challenge).2) = none) :
    Kept w.controller (call L w .challenge).1.controller := by
  change returnedNonce (.challenge, (withOutput w w.controller.challenge .challenge).2) = _ at h
  show Kept _ w.controller.challenge.1
  unfold challenge at h ⊢
  dsimp only at h ⊢
  split
  · exact .same rfl fun _ => .inl rfl
  rename_i hlife
  rw [if_neg hlife] at h
  split
  · split
    · exact (w.controller.latchFault_ends _ _).kept hplaced
    · exact .same rfl fun _ => .inl rfl
  · rename_i hready
    rw [if_neg hready] at h
    cases h

theorem armWith_kept {c : Controller F} (challenge : ArmChallenge) (hplaced : c.Placed) :
    Kept c (c.armWith challenge).1 := by
  unfold armWith
  split
  · exact .same rfl fun _ => .inl rfl
  split
  · exact .same rfl fun _ => .inl rfl
  split
  · exact .same rfl fun _ => .inl rfl
  split
  · exact (c.latchFault_ends _ _).kept hplaced
  · have hnonces : (c.energize.publishReturning .armed .ok 0 .ok).1.nonces = c.energize.nonces :=
      nonces_publish _ _ _ _
    exact .cleared (congrArg Nonces.counter hnonces) (congrArg Nonces.outstanding hnonces)

/-- **What a call does to the challenge registers** that returns no nonce. -/
theorem call_nonces (L : ModelLibrary F) {w : World F} {op : Op F} {returned : List Nat}
    (hplaced : w.controller.Placed) (hcareful : Careful w.controller returned op)
    (hreturned : returnedNonce (op, (call L w op).2) = none) :
    Kept w.controller (call L w op).1.controller := by
  obtain hends | ⟨m, hspecial, hcloses⟩ := call_ends L w op
  · exact hends.kept hplaced
  have hclosed := hcloses.nonces
  cases hspecial with
  | openAndVerify _ life =>
    refine .same hclosed fun hne => ?_
    -- nothing is outstanding while nothing is verified
    obtain hdisarmed | hlatched := hplaced hne
    · rw [life] at hdisarmed
      cases hdisarmed
    · unfold Calm at hlatched
      simp [life] at hlatched
  | challenge _ life => exact challenge_kept L hplaced hreturned
  | arm _ challenge life matched => exact armWith_kept challenge hplaced
  | reset _ request latched accepted =>
    exact .cleared (congrArg Nonces.counter hclosed) (congrArg Nonces.outstanding hclosed)
  | pollEvent _ some =>
    refine .same hclosed fun _ => .inl ?_
    show w.controller.pollEvent.1.lifecycle = w.controller.lifecycle
    unfold pollEvent
    split <;> rfl
  | disarm _ deadline due life =>
    refine .same hclosed fun hne => ?_
    have hdisarmed : w.controller.lifecycle = .disarmed :=
      life.resolve_left (hplaced.not_armed hne)
    obtain hstays | ⟨hfull, hfault⟩ := hcloses.lifecycle
    · exact .inl (hstays.trans hdisarmed.symm)
    · -- the overflow latches without renewing, so nothing live may be outstanding
      refine .inr ⟨?_, fun hcalm => hcalm.1 hfault⟩
      exact (hcareful.overflow deadline rfl hdisarmed hfull due).resolve_left hne

/-! ## §4. The run. -/

/-- What the registers say after the calls `es` from `w₀`. -/
structure Authorised (L : ModelLibrary F) (w₀ : World F) (es : List (Label F))
    (c : Controller F) : Prop where
  placed : c.Placed
  outstanding_le : c.outstandingNonce ≤ c.nonceCounter
  returned_le : ∀ nonce ∈ returnedNonces es, nonce ≤ c.nonceCounter
  spent_le : ∀ nonce ∈ spentNonces es, nonce ≤ c.nonceCounter
  spent_lt : c.outstandingNonce ≠ 0 → ∀ nonce ∈ spentNonces es, nonce < c.outstandingNonce
  once : (spentNonces es).Nodup
  fresh : c.outstandingNonce ∈ returnedNonces es → ¬ c.Calm →
    c.nowNs ≤ c.outstandingChallengeExpiry → c.outstandingNonce ≠ 0 →
    ChallengedSince L w₀ es c.outstandingNonce

theorem authorised_initial (L : ModelLibrary F) {w₀ : World F} (h : w₀.Initial) :
    Authorised L w₀ [] w₀.controller := by
  obtain ⟨manifest, options, instanceId, hcreate⟩ := h
  rw [hcreate]
  refine ⟨fun hne => absurd rfl hne, Nat.zero_le _, ?_, ?_, ?_, List.nodup_nil, ?_⟩
  · intro nonce hmem
    cases hmem
  · intro nonce hmem
    cases hmem
  · intro _ nonce hmem
    cases hmem
  · intro hmem
    cases hmem

omit [Floating F] in
theorem returnedNonces_snoc (es : List (Label F)) (e : Label F) :
    returnedNonces (es ++ [e]) = returnedNonces es ++ (returnedNonce e).toList := by
  unfold returnedNonces
  rw [List.filterMap_append]
  cases h : returnedNonce e <;> simp [h]

omit [Floating F] in
theorem spentNonces_snoc (es : List (Label F)) (e : Label F) :
    spentNonces (es ++ [e]) = spentNonces es ++ (spentNonce e).toList := by
  unfold spentNonces
  rw [List.filterMap_append]
  cases h : spentNonce e <;> simp [h]

/-- A challenge stays current while the lifecycle does. -/
theorem ChallengedSince.snoc {L : ModelLibrary F} {w₀ : World F} {es : List (Label F)}
    {nonce : Nat} (h : ChallengedSince L w₀ es nonce) (e : Label F)
    (hlife : (worldAfter L w₀ (es ++ [e])).controller.lifecycle =
      (worldAfter L w₀ es).controller.lifecycle) : ChallengedSince L w₀ (es ++ [e]) nonce := by
  obtain ⟨before, response, after, rfl, hok, hreturned, hsame⟩ := h
  refine ⟨before, response, after ++ [e], by simp, hok, hreturned, fun part hpart => ?_⟩
  obtain rfl | hpart := List.prefix_concat_iff.mp hpart
  · have hwhole := hsame after (List.prefix_refl after)
    rw [← hwhole, ← hlife]
    simp
  · exact hsame part hpart

/-- A call that spent a nonce. -/
theorem authorised_spend {L : ModelLibrary F} {w₀ : World F} {es : List (Label F)}
    {c c' : Controller F} (h : Authorised L w₀ es c) {e : Label F} {nonce : Nat}
    (hspent : spentNonce e = some nonce) (hreturned : returnedNonce e = none)
    (hnonce : nonce = c.outstandingNonce) (hne : nonce ≠ 0)
    (hcounter : c'.nonceCounter = c.nonceCounter) (hcleared : c'.outstandingNonce = 0) :
    Authorised L w₀ (es ++ [e]) c' := by
  have hspents : spentNonces (es ++ [e]) = spentNonces es ++ [nonce] := by
    rw [spentNonces_snoc, hspent]
    rfl
  have hreturneds : returnedNonces (es ++ [e]) = returnedNonces es := by
    rw [returnedNonces_snoc, hreturned]
    exact List.append_nil _
  have hlt := h.spent_lt (hnonce ▸ hne)
  refine ⟨fun hout => absurd hcleared hout, ?_, ?_, ?_, fun hout => absurd hcleared hout, ?_,
    fun _ _ _ hout => absurd hcleared hout⟩
  · rw [hcleared]
    exact Nat.zero_le _
  · rw [hreturneds, hcounter]
    exact h.returned_le
  · intro other hmem
    rw [hspents, List.mem_append, List.mem_singleton] at hmem
    rw [hcounter]
    obtain hmem | rfl := hmem
    · exact h.spent_le other hmem
    · rw [hnonce]
      exact h.outstanding_le
  · rw [hspents, List.nodup_append]
    refine ⟨h.once, by simp, fun other hmem twin htwin => ?_⟩
    rw [List.mem_singleton] at htwin
    have hless := hlt other hmem
    omega

/-- A call that returned a nonce. -/
theorem authorised_challenge {L : ModelLibrary F} {w₀ w : World F} {es : List (Label F)}
    (hafter : worldAfter L w₀ es = w) (h : Authorised L w₀ es w.controller)
    {response : Response F} {w' : World F}
    (hnext : worldAfter L w₀ (es ++ [(.challenge, response)]) = w')
    (hchallenged : w'.controller = w.controller.challenged) (hok : response.status = .ok)
    (hreturned : returnedNonce (.challenge, response) = some (w.controller.nonceCounter + 1))
    (hlife : w.controller.lifecycle = .disarmed ∨ ¬ w.controller.Calm)
    (hwrap : wrap64 (w.controller.nonceCounter + 1) = w.controller.nonceCounter + 1) :
    Authorised L w₀ (es ++ [(.challenge, response)]) w'.controller := by
  have hspents : spentNonces (es ++ [(.challenge, response)]) = spentNonces es := by
    rw [spentNonces_snoc]
    exact List.append_nil _
  have hreturneds : returnedNonces (es ++ [(.challenge, response)]) =
      returnedNonces es ++ [w.controller.nonceCounter + 1] := by
    rw [returnedNonces_snoc, hreturned]
    rfl
  have hcounter : w'.controller.nonceCounter = w.controller.nonceCounter + 1 := by
    rw [hchallenged]
    exact hwrap
  have hout : w'.controller.outstandingNonce = w.controller.nonceCounter + 1 := by
    rw [hchallenged]
    exact hwrap
  refine ⟨fun _ => ?_, ?_, ?_, ?_, fun _ => ?_, ?_, fun _ _ _ _ => ?_⟩
  · rw [hchallenged]
    exact hlife
  · rw [hout, hcounter]
  · intro nonce hmem
    rw [hreturneds, List.mem_append, List.mem_singleton] at hmem
    rw [hcounter]
    obtain hmem | rfl := hmem
    · exact Nat.le_succ_of_le (h.returned_le nonce hmem)
    · exact Nat.le_refl _
  · intro nonce hmem
    rw [hspents] at hmem
    rw [hcounter]
    exact Nat.le_succ_of_le (h.spent_le nonce hmem)
  · intro nonce hmem
    rw [hspents] at hmem
    rw [hout]
    exact Nat.lt_succ_of_le (h.spent_le nonce hmem)
  · rw [hspents]
    exact h.once
  · refine ⟨es, response, [], rfl, hok, ?_, fun part hpart => ?_⟩
    · rw [hreturned, hout]
    · rw [List.prefix_nil.mp hpart, hnext, hafter, hchallenged]
      rfl

/-- A call that did neither. -/
theorem authorised_kept {L : ModelLibrary F} {w₀ w w' : World F} {es : List (Label F)}
    {e : Label F} (hafter : worldAfter L w₀ es = w) (h : Authorised L w₀ es w.controller)
    (hnext : worldAfter L w₀ (es ++ [e]) = w') (hkept : Kept w.controller w'.controller)
    (hspent : spentNonce e = none) (hreturned : returnedNonce e = none)
    (hnow : w.controller.nowNs ≤ w'.controller.nowNs)
    (hwrap : wrap64 (w.controller.nonceCounter + 1) = w.controller.nonceCounter + 1) :
    Authorised L w₀ (es ++ [e]) w'.controller := by
  -- neither list grows with this call
  have hspents : spentNonces (es ++ [e]) = spentNonces es := by
    rw [spentNonces_snoc, hspent]
    exact List.append_nil _
  have hreturneds : returnedNonces (es ++ [e]) = returnedNonces es := by
    rw [returnedNonces_snoc, hreturned]
    exact List.append_nil _
  cases hkept with
  | same nonces life =>
    have hcounter : w'.controller.nonceCounter = w.controller.nonceCounter :=
      congrArg Nonces.counter nonces
    have hout : w'.controller.outstandingNonce = w.controller.outstandingNonce :=
      congrArg Nonces.outstanding nonces
    have hexpiry : w'.controller.outstandingChallengeExpiry =
        w.controller.outstandingChallengeExpiry := congrArg Nonces.expiryNs nonces
    refine ⟨fun hne => ?_, ?_, ?_, ?_, ?_, ?_, fun hmem hlatched hlive hne => ?_⟩
    · rw [hout] at hne
      obtain hsame | ⟨-, hlatched⟩ := life hne
      · unfold Calm
        rw [hsame]
        exact h.placed hne
      · exact .inr hlatched
    · rw [hout, hcounter]
      exact h.outstanding_le
    · rw [hreturneds, hcounter]
      exact h.returned_le
    · rw [hspents, hcounter]
      exact h.spent_le
    · rw [hspents, hout]
      exact h.spent_lt
    · rw [hspents]
      exact h.once
    · rw [hout] at hmem hne ⊢
      rw [hreturneds] at hmem
      rw [hexpiry] at hlive
      obtain hsame | ⟨hexpired, -⟩ := life hne
      · have hlatched' : ¬ w.controller.Calm := by
          unfold Calm at hlatched ⊢
          rwa [hsame] at hlatched
        refine (h.fresh hmem hlatched' (hnow.trans hlive) hne).snoc e ?_
        rw [hnext, hafter]
        exact hsame
      · omega
  | renewed nonces latched =>
    have hcounter : w'.controller.nonceCounter = w.controller.nonceCounter + 1 :=
      (congrArg Nonces.counter nonces).trans hwrap
    have hout : w'.controller.outstandingNonce = w.controller.nonceCounter + 1 :=
      (congrArg Nonces.outstanding nonces).trans hwrap
    refine ⟨fun _ => .inr latched, ?_, ?_, ?_, fun _ => ?_, ?_, fun hmem _ _ _ => ?_⟩
    · rw [hout, hcounter]
    · rw [hreturneds, hcounter]
      exact fun nonce hmem => Nat.le_succ_of_le (h.returned_le nonce hmem)
    · rw [hspents, hcounter]
      exact fun nonce hmem => Nat.le_succ_of_le (h.spent_le nonce hmem)
    · rw [hspents, hout]
      exact fun nonce hmem => Nat.lt_succ_of_le (h.spent_le nonce hmem)
    · rw [hspents]
      exact h.once
    · -- the new nonce is above all that were returned
      rw [hreturneds, hout] at hmem
      exact absurd (h.returned_le _ hmem) (Nat.not_succ_le_self _)
  | cleared counter outstanding =>
    refine ⟨fun hne => absurd outstanding hne, ?_, ?_, ?_, fun hne => absurd outstanding hne, ?_,
      fun _ _ _ hne => absurd outstanding hne⟩
    · rw [outstanding]
      exact Nat.zero_le _
    · rw [hreturneds, counter]
      exact h.returned_le
    · rw [hspents, counter]
      exact h.spent_le
    · rw [hspents]
      exact h.once

/-- **Step lemma.** -/
theorem authorised_call (L : ModelLibrary F) {w₀ w : World F} {es : List (Label F)}
    (hafter : worldAfter L w₀ es = w) (h : Authorised L w₀ es w.controller) (op : Op F)
    (hcareful : Careful w.controller (returnedNonces es) op) :
    Authorised L w₀ (es ++ [(op, (call L w op).2)]) (call L w op).1.controller := by
  have hcounter := hcareful.counter
  have hnext : worldAfter L w₀ (es ++ [(op, (call L w op).2)]) = (call L w op).1 := by
    rw [worldAfter_snoc, hafter]
  -- without a wrap a renewed nonce is above every number seen so far
  have hwrap : wrap64 (w.controller.nonceCounter + 1) = w.controller.nonceCounter + 1 := by
    unfold maxU64 at hcounter
    unfold wrap64
    omega
  cases hreturned : returnedNonce (op, (call L w op).2) with
  | some nonce =>
    obtain ⟨rfl, hchallenged, hnonce, hok, hlife⟩ := call_returned L hreturned
    rw [hnonce, hwrap] at hreturned
    exact authorised_challenge hafter h hnext hchallenged hok hreturned hlife hwrap
  | none =>
    cases hspent : spentNonce (op, (call L w op).2) with
    | some nonce =>
      obtain ⟨hnonce, hne, hsame, hcleared⟩ := call_spent L hspent
      exact authorised_spend h hspent hreturned hnonce hne hsame hcleared
    | none =>
      exact authorised_kept hafter h hnext (call_nonces L h.placed hcareful hreturned) hspent
        hreturned (nowNs_call_le L w op) hwrap

theorem CarefulRun.front {L : ModelLibrary F} {w : World F} {es fs : List (Label F)}
    (h : CarefulRun L w (es ++ fs)) : CarefulRun L w es := by
  rintro before e after rfl
  exact h before e (after ++ fs) (by simp)

/-- **Run lemma.** -/
theorem authorised_run (L : ModelLibrary F) {w₀ w : World F} {es : List (Label F)}
    (hinit : w₀.Initial) (hrun : (system L).Run w₀ es w) (hcareful : CarefulRun L w₀ es) :
    Authorised L w₀ es w.controller := by
  induction hrun with
  | nil => exact authorised_initial L hinit
  | snoc front last ih =>
    rename_i m w' es e
    have hafter := worldAfter_run front
    have hcall := hcareful es e [] rfl
    rw [hafter] at hcall
    obtain ⟨op, response⟩ := e
    obtain ⟨rfl, hresponse⟩ := step_eq last
    change response = _ at hresponse
    rw [hresponse]
    exact authorised_call L hafter (ih hcareful.front) op hcall

/-- **Reset authority.**  In a careful run every successful reset presents the
    nonce of a challenge from after the latest transition into FAULT or ESTOP,
    and no nonce is spent twice. -/
theorem reset_authority (L : ModelLibrary F) {w₀ w : World F} {es : List (Label F)}
    (hinit : w₀.Initial) (hrun : (system L).Run w₀ es w) (hcareful : CarefulRun L w₀ es) :
    (∀ before request response after, es = before ++ (.reset request, response) :: after →
      response.status = .ok → ChallengedSince L w₀ before request.nonce) ∧
      (spentNonces es).Nodup := by
  refine ⟨?_, (authorised_run L hinit hrun hcareful).once⟩
  rintro before request response after rfl hok
  have hsplit : (system L).Run w₀ ((before ++ [(.reset request, response)]) ++ after) w := by
    simpa using hrun
  obtain ⟨b, hfront, -⟩ := hsplit.split
  obtain ⟨a, hbefore, hstep⟩ := hfront.snoc_inv
  have hafter := worldAfter_run hbefore
  have hcall := hcareful before (.reset request, response) after rfl
  rw [hafter] at hcall
  have hauthority := authorised_run L hinit hbefore hcareful.front
  have hresponse : response = (call L a (.reset request)).2 := (step_eq hstep).2
  rw [hresponse] at hok
  obtain ⟨hlatched, ⟨-, hnonce, hne, hlive⟩, -⟩ := reset_ok hok
  have hpresented := hcall.presented request rfl hnonce hne hlive
  rw [hnonce] at hpresented hne ⊢
  exact hauthority.fresh hpresented hlatched hlive hne

/-! ## §5. A reset after an overflow. -/

/-- With room in the ring a `disarm` in DISARMED only tells the ring. -/
theorem disarm_disarmed {c : Controller F} (deadline : Nat) (hlife : c.lifecycle = .disarmed)
    (hdue : c.nowNs ≤ deadline) (hroom : c.events.count < kEventCapacity) :
    ∃ event, c.disarm deadline =
      ({ c.released with events := c.events.push event }, .ok) := by
  unfold disarm
  rw [if_neg (Nat.not_lt.mpr hdue), if_neg (by simp [hlife])]
  exact c.released.publishReturning_of_room .disarmed .ok .ok 0 hroom

/-- On a full ring it latches. -/
theorem disarm_overflows {c : Controller F} (deadline : Nat) (hlife : c.lifecycle = .disarmed)
    (hdue : c.nowNs ≤ deadline) (hfull : c.events.isFull = true) :
    (c.disarm deadline).2 = .ebusy ∧ (c.disarm deadline).1.lifecycle = .fault ∧
      (c.disarm deadline).1.nonces = c.nonces ∧ (c.disarm deadline).1.nowNs = c.nowNs ∧
      (c.disarm deadline).1.verifyEpoch = c.verifyEpoch := by
  have hframe := c.frame_disarm deadline
  refine ⟨?_, ?_, ?_, congrArg Frame.nowNs hframe, congrArg Frame.verifyEpoch hframe⟩
  · unfold disarm
    rw [if_neg (Nat.not_lt.mpr hdue), if_neg (by simp [hlife])]
    show (if (!c.released.events.isFull) = true then ControlStatus.ok else .ebusy) = .ebusy
    rw [if_neg (by rw [show c.released.events = c.events from rfl, hfull]; decide)]
  · unfold disarm
    rw [if_neg (Nat.not_lt.mpr hdue), if_neg (by simp [hlife])]
    exact lifecycle_publish_of_full (c := c.released) .disarmed .ok 0 hfull
  · unfold disarm
    rw [if_neg (Nat.not_lt.mpr hdue), if_neg (by simp [hlife])]
    exact c.released.nonces_publish .disarmed .ok 0

/-- The label of an accepted `disarm`. -/
def disarmLabel (F : Type) : Label F := (.disarm 0, ⟨.ok, .none⟩)

/-- The challenged world fills its ring with `disarm` calls, and the challenge
    stays as it is. -/
theorem disarm_calls (L : ModelLibrary F) (k : Nat) (hk : k ≤ 63) :
    ∃ w, (system L).Run (challengedWorld L) (List.replicate k (disarmLabel F)) w ∧
      w.controller.lifecycle = .disarmed ∧ w.controller.events.count = 1 + k ∧
      w.controller.nonces = ⟨0x4f50454e41524e, 0x4f50454e41524e, 1000000000⟩ ∧
      w.controller.nowNs = 0 ∧ w.controller.verifyEpoch = 1 := by
  induction k with
  | zero =>
    refine ⟨challengedWorld L, .nil _, ?_⟩
    rw [challengedWorld_eq]
    exact ⟨rfl, rfl, rfl, rfl, rfl⟩
  | succ k ih =>
    obtain ⟨w, hrun, hlife, hcount, hnonces, hnow, hepoch⟩ := ih (by omega)
    have hroom : w.controller.events.count < kEventCapacity := by
      unfold kEventCapacity
      omega
    obtain ⟨event, hdisarm⟩ := disarm_disarmed 0 hlife (Nat.le_of_eq hnow) hroom
    refine ⟨(call L w (.disarm 0)).1, ?_, ?_⟩
    · rw [List.replicate_succ']
      refine hrun.snoc ?_
      refine Prod.ext rfl ?_
      show (plain w (w.controller.disarm 0)).2 = _
      rw [hdisarm]
      rfl
    · show (w.controller.disarm 0).1.lifecycle = _ ∧ (w.controller.disarm 0).1.events.count = _ ∧
        (w.controller.disarm 0).1.nonces = _ ∧ (w.controller.disarm 0).1.nowNs = _ ∧
        (w.controller.disarm 0).1.verifyEpoch = _
      rw [hdisarm]
      refine ⟨rfl, ?_, hnonces, hnow, hepoch⟩
      rw [show _ = (w.controller.events.push event).count from rfl, Ring.count_push _ _ hroom]
      omega

/-- The labels of verification, challenge, and the `disarm` calls until one
    overflows the ring. -/
def overflowLabels (F : Type) : List (Label F) :=
  (.openAndVerify, ⟨.ok, .verified ⟨1, 3, 0⟩⟩) ::
    (.challenge, ⟨.ok, .challenge standardChallenge⟩) ::
      (List.replicate 63 (disarmLabel F) ++ [(.disarm 0, ⟨.ebusy, .none⟩)])

omit [Floating F] in
/-- The challenge of `overflowLabels` comes before the fault. -/
theorem overflowLabels_challenge {before after : List (Label F)} {response : Response F}
    (h : overflowLabels F = before ++ (.challenge, response) :: after) :
    before = [(.openAndVerify, ⟨.ok, .verified ⟨1, 3, 0⟩⟩)] := by
  have hrest : ∀ e ∈ List.replicate 63 (disarmLabel F) ++ [(.disarm 0, ⟨.ebusy, .none⟩)],
      e.1 = .disarm 0 := by
    intro e hmem
    rw [List.mem_append, List.mem_singleton] at hmem
    obtain hmem | rfl := hmem
    · rw [List.eq_of_mem_replicate hmem]
      rfl
    · rfl
  unfold overflowLabels at h
  match before with
  | [] => cases h
  | [first] =>
    obtain ⟨rfl, -⟩ := List.cons.inj h
    rfl
  | first :: second :: before =>
    obtain ⟨-, h⟩ := List.cons.inj h
    obtain ⟨-, h⟩ := List.cons.inj h
    have hmem := hrest (.challenge, response) (by rw [h]; simp)
    cases hmem

/-- The overflow latched and the challenge from before it is still accepted. -/
theorem overflow_run (L : ModelLibrary F) :
    ∃ w, (system L).Run (standardWorld F) (overflowLabels F) w ∧
      w.controller.lifecycle = .fault ∧
      w.controller.acceptsReset ⟨1, 0x4f50454e41524e⟩ := by
  obtain ⟨m, hrun, hlife, hcount, hnonces, hnow, hepoch⟩ := disarm_calls L 63 (Nat.le_refl 63)
  have hfull : m.controller.events.isFull = true := (Ring.isFull_iff _).mpr hcount
  obtain ⟨hstatus, hfault, hkept, hnow', hepoch'⟩ :=
    disarm_overflows 0 hlife (Nat.le_of_eq hnow) hfull
  have hlast : (system L).step m (.disarm 0, ⟨.ebusy, .none⟩) (call L m (.disarm 0)).1 := by
    refine Prod.ext rfl ?_
    show Response.mk (m.controller.disarm 0).2 .none = _
    rw [hstatus]
  refine ⟨(call L m (.disarm 0)).1, .cons (verify_step L) (.cons (challenge_step L)
    (hrun.snoc hlast)), hfault, ?_⟩
  have hregisters := hkept.trans hnonces
  have hout := congrArg Nonces.outstanding hregisters
  have hexpiry := congrArg Nonces.expiryNs hregisters
  refine ⟨hepoch'.symm ▸ hepoch.symm, hout.symm, by decide, ?_⟩
  show (m.controller.disarm 0).1.nowNs ≤ (m.controller.disarm 0).1.outstandingChallengeExpiry
  rw [hnow', hnow]
  exact Nat.zero_le _

/-- A reset is accepted on the authority of a challenge from before the fault:
    the publish that overflowed the ring latched without renewing the nonce. -/
theorem reset_on_old_authority : ∃ es w, (system silentLibrary).Run (standardWorld ℚ) es w ∧
    ∃ before request response after, es = before ++ (.reset request, response) :: after ∧
      response.status = .ok ∧
      ¬ ChallengedSince silentLibrary (standardWorld ℚ) before request.nonce := by
  obtain ⟨m, hrun, hfault, haccept⟩ := overflow_run (F := ℚ) silentLibrary
  have hreset : (m.controller.reset ⟨1, 0x4f50454e41524e⟩).2 = .ok := by
    obtain ⟨hepoch, hnonce, hne, hlive⟩ := haccept
    unfold reset
    rw [if_neg (by simp [hfault]), if_neg (by push Not; exact ⟨hepoch, hnonce, hne, hlive⟩)]
  refine ⟨_, _, hrun.snoc (call_step silentLibrary m (.reset ⟨1, 0x4f50454e41524e⟩)), _, _, _, [],
    rfl, hreset, ?_⟩
  rintro ⟨before, response, after, heq, -, -, hsame⟩
  have hbefore := overflowLabels_challenge heq
  have hlife := hsame after (List.prefix_refl after)
  rw [← heq, worldAfter_run hrun, hfault, hbefore] at hlife
  exact absurd hlife (by decide +kernel)

/-- A reset that presents the next number instead of a nonce it was given is
    accepted too, while the challenge before has not expired. -/
theorem reset_on_guessed_nonce :
    (call silentLibrary (call silentLibrary (standardWorld ℚ) (.setInterlock true true)).1
      (.reset ⟨0, 0x4f50454e41524e⟩)).2.status = .ok := by
  decide +kernel

/-! ## §6. A reset on fresh authority. -/

theorem CarefulRun.nil (L : ModelLibrary F) (w : World F) : CarefulRun L w [] := by
  intro before e after h
  cases before <;> cases h

theorem CarefulRun.snoc {L : ModelLibrary F} {w : World F} {es : List (Label F)} {e : Label F}
    (h : CarefulRun L w es)
    (hlast : Careful (worldAfter L w es).controller (returnedNonces es) e.1) :
    CarefulRun L w (es ++ [e]) := by
  intro before f after heq
  obtain hnil | ⟨rest, last, hafter⟩ := after.eq_nil_or_concat
  · subst hnil
    obtain ⟨rfl, hf⟩ := List.append_inj' heq rfl
    obtain ⟨rfl, -⟩ := List.cons.inj hf
    exact hlast
  · rw [hafter, List.concat_eq_append, ← List.cons_append, ← List.append_assoc] at heq
    obtain ⟨hes, -⟩ := List.append_inj' heq rfl
    exact h before f rest hes

omit [Floating F] in
/-- A call that neither disarms nor resets is careful while the counter lasts. -/
theorem Careful.of_other {c : Controller F} {returned : List Nat} {op : Op F}
    (hcounter : c.nonceCounter < maxU64) (hdisarm : ∀ deadline, op ≠ .disarm deadline)
    (hreset : ∀ request, op ≠ .reset request) : Careful c returned op :=
  ⟨hcounter, fun deadline h => absurd h (hdisarm deadline),
    fun request h => absurd h (hreset request)⟩

/-- The labels of verification, challenge and arming, an E-stop, a new
    challenge, and the reset it authorises. -/
def recoveryLabels : List (Label ℚ) :=
  [] ++ [(.openAndVerify, ⟨.ok, .verified ⟨1, 3, 0⟩⟩)] ++
    [(.challenge, ⟨.ok, .challenge standardChallenge⟩)] ++
      [(.arm standardChallenge, ⟨.ok, .none⟩)] ++
    [(.setInterlock true true, ⟨.eestop, .none⟩)] ++
    [(.challenge, ⟨.ok, .challenge ⟨1, 0x4f50454e415250, 1000000000⟩⟩)] ++
    [(.reset ⟨1, 0x4f50454e415250⟩, ⟨.ok, .none⟩)]

theorem recovery_careful : CarefulRun silentLibrary (standardWorld ℚ) recoveryLabels := by
  unfold recoveryLabels
  refine .snoc (.snoc (.snoc (.snoc (.snoc (.snoc (.nil _ _) ?_) ?_) ?_) ?_) ?_) ?_
  · exact .of_other (by decide +kernel) (fun _ h => by cases h) (fun _ h => by cases h)
  · exact .of_other (by decide +kernel) (fun _ h => by cases h) (fun _ h => by cases h)
  · exact .of_other (by decide +kernel) (fun _ h => by cases h) (fun _ h => by cases h)
  · exact .of_other (by decide +kernel) (fun _ h => by cases h) (fun _ h => by cases h)
  · exact .of_other (by decide +kernel) (fun _ h => by cases h) (fun _ h => by cases h)
  · refine ⟨by decide +kernel, (fun _ h => by cases h), ?_⟩
    rintro request ⟨⟩ - - -
    decide +kernel

/-- The armed world after the E-stop. -/
def stoppedByEstop : World ℚ :=
  (call silentLibrary (armedWorld silentLibrary) (.setInterlock true true)).1

/-- And after the new challenge. -/
def challengedAgain : World ℚ := (call silentLibrary stoppedByEstop .challenge).1

theorem recovery_run :
    ∃ w, (system silentLibrary).Run (standardWorld ℚ) recoveryLabels w := by
  have hestop : ((armedWorld (F := ℚ) silentLibrary).controller.setInterlock true true).2 =
      ControlStatus.eestop := by decide +kernel
  have hchallenge : stoppedByEstop.controller.challenge.2 =
      (.ok, some ⟨1, 0x4f50454e415250, 1000000000⟩) := by decide +kernel
  have hreset : (challengedAgain.controller.reset ⟨1, 0x4f50454e415250⟩).2 = .ok := by
    decide +kernel
  have hlock : (system silentLibrary).step (armedWorld silentLibrary)
      (.setInterlock true true, ⟨.eestop, .none⟩) stoppedByEstop :=
    Prod.ext rfl (congrArg (Response.mk · .none) hestop)
  have hagain : (system silentLibrary).step stoppedByEstop
      (.challenge, ⟨.ok, .challenge ⟨1, 0x4f50454e415250, 1000000000⟩⟩) challengedAgain := by
    refine Prod.ext rfl ?_
    show (withOutput stoppedByEstop stoppedByEstop.controller.challenge .challenge).2 = _
    unfold withOutput
    rw [hchallenge]
    rfl
  have hlast : (system silentLibrary).step challengedAgain
      (.reset ⟨1, 0x4f50454e415250⟩, ⟨.ok, .none⟩)
      (call silentLibrary challengedAgain (.reset ⟨1, 0x4f50454e415250⟩)).1 :=
    Prod.ext rfl (congrArg (Response.mk · .none) hreset)
  exact ⟨_, (((armedWorld_run silentLibrary).snoc hlock).snoc hagain).snoc hlast⟩

/-- The reset after the E-stop presents the nonce of the challenge after it. -/
theorem reset_authority_recovery :
    recoveryLabels.length = 6 ∧ spentNonces recoveryLabels =
        [0x4f50454e41524e, 0x4f50454e415250] ∧
      ChallengedSince silentLibrary (standardWorld ℚ) (recoveryLabels.take 5)
        0x4f50454e415250 := by
  obtain ⟨w, hrun⟩ := recovery_run
  have hauthority := reset_authority silentLibrary standardWorld_initial hrun recovery_careful
  exact ⟨rfl, rfl, hauthority.1 (recoveryLabels.take 5) ⟨1, 0x4f50454e415250⟩ ⟨.ok, .none⟩ [] rfl
    rfl⟩

end OpenArm.Control
