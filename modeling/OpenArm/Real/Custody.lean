/-
  OpenArm.Real.Custody — the custody of commands, as a protocol.

  The session is seen here through five members and the hands of its
  threads.  `Does` lists the steps of that protocol: a reservation is
  made, a command is submitted under it, taken, handed on, published,
  ended, answered and its owner cleared, and the session is closed.

  Main results (`Accounted`, the invariant, is kept by every step that
  `Does` allows):
    * `Accounted.count` — every accepted command is pending, active, in one
      hand, or answered: none is lost and none is answered twice.
    * `Accounted.owned` — a standing owner is an unused reservation or the
      owner of a command that is still under way.
    * `Accounted.settled` — once a close has joined the worker and the other
      callers are idle, nothing is under way.
-/
import OpenArm.Real.Hands
import Mathlib

namespace OpenArm.Real

open OpenArm.Lib OpenArm.Control OpenArm.Model

variable {F : Type} [Rounding F] {C : Type} [DecidableEq C] [Fintype C]

/-! ## §1. Tokens. -/

/-- The members of the session that say where a command is. -/
structure Custody (F : Type) where
  pending : Option (SessionCommand F)
  active : Option (SessionCommand F)
  owner : String
  closing : Bool
  workerFinished : Bool

def Session.custody (s : Session F) : Custody F where
  pending := s.pending
  active := s.active.map Active.command
  owner := s.owner
  closing := s.closing
  workerFinished := s.workerFinished

/-- The command in a hand, until its callback has answered. -/
def Carried.command : Carried F → Option (SessionCommand F)
  | .taken command | .planning command | .ending command _ => some command
  | .empty | .answered _ => none

/-- The owner of what is in a hand. -/
def Carried.owner : Carried F → Option String
  | .taken command | .planning command | .ending command _ => some command.owner
  | .answered owner => some owner
  | .empty => none

/-- One for a command with this terminal callback. -/
def token (k : Callback) (command : Option (SessionCommand F)) : Nat :=
  if command.bind SessionCommand.terminal = some k then 1 else 0

omit [Rounding F] in
@[simp] theorem token_none (k : Callback) : token k (none : Option (SessionCommand F)) = 0 := rfl

omit [Rounding F] in
theorem token_some (k : Callback) (command : SessionCommand F) :
    token k (some command) = if command.terminal = some k then 1 else 0 := rfl

/-- The commands with this callback in the hands of all threads. -/
def inHands (k : Callback) (views : Thread C → View F) : Nat :=
  ∑ t, token k (views t).carried.command

section

omit [Rounding F]

/-- One hand changes. -/
theorem inHands_update (k : Callback) (views : Thread C → View F) (t : Thread C)
    (v : View F) :
    inHands k (Function.update views t v) + token k (views t).carried.command =
      inHands k views + token k v.carried.command := by
  have hall := Finset.add_sum_erase Finset.univ
    (fun u => token k (views u).carried.command) (Finset.mem_univ t)
  have hnew := Finset.add_sum_erase Finset.univ
    (fun u => token k (Function.update views t v u).carried.command) (Finset.mem_univ t)
  have hrest : ∀ u ∈ Finset.univ.erase t,
      token k (Function.update views t v u).carried.command =
        token k (views u).carried.command := by
    intro u hu
    rw [Function.update_of_ne (Finset.ne_of_mem_erase hu)]
  rw [Finset.sum_congr rfl hrest] at hnew
  simp only [Function.update_self] at hnew
  unfold inHands
  omega

/-- A hand whose command stays the same changes nothing. -/
theorem inHands_same (k : Callback) (views : Thread C → View F) (t : Thread C) {v : View F}
    (h : v.carried.command = (views t).carried.command) :
    inHands k (Function.update views t v) = inHands k views := by
  have hu := inHands_update k views t v
  rw [h] at hu
  omega

/-- … in particular when only its stage changes. -/
theorem inHands_stage (k : Callback) (views : Thread C → View F) (t : Thread C) (stage : Stage) :
    inHands k (Function.update views t { views t with stage }) = inHands k views :=
  inHands_same k views t rfl

end

/-! ## §2. What a label says about a command. -/

/-- The label accepts a command with this terminal callback. -/
def accepts (k : Callback) : SessionLabel F C → Bool
  | .act _ (.submit command) (true, _) => command.terminal == some k
  | _ => false

/-- The label calls this terminal callback. -/
def invokes (k : Callback) : SessionLabel F C → Bool
  | .act _ (.terminalCallback callback _) _ => callback == k
  | _ => false

/-- How many accepted commands had this terminal callback. -/
def accepted (k : Callback) (es : List (SessionLabel F C)) : Nat := es.countP (accepts k)

/-- How often this terminal callback was called. -/
def invoked (k : Callback) (es : List (SessionLabel F C)) : Nat := es.countP (invokes k)

/-- Whether the newest reservation of this owner has been neither used by an
    accepted command nor released. -/
def reservation (owner : String) (unused : Bool) : SessionLabel F C → Bool
  | .act _ (.reserve name) (true, _) => if name = owner then true else unused
  | .act _ (.submit command) (true, _) => if command.owner = owner then false else unused
  | .act _ (.release name _) true => if name = owner then false else unused
  | _ => unused

/-- A reservation of this owner was neither used nor released. -/
def unusedReservation (owner : String) (es : List (SessionLabel F C)) : Bool :=
  es.foldl (reservation owner) false

section

omit [Rounding F] [DecidableEq C] [Fintype C]

@[simp] theorem accepted_snoc (k : Callback) (es : List (SessionLabel F C))
    (l : SessionLabel F C) :
    accepted k (es ++ [l]) = accepted k es + if accepts k l then 1 else 0 := by
  simp [accepted, List.countP_singleton]

@[simp] theorem invoked_snoc (k : Callback) (es : List (SessionLabel F C))
    (l : SessionLabel F C) :
    invoked k (es ++ [l]) = invoked k es + if invokes k l then 1 else 0 := by
  simp [invoked, List.countP_singleton]

@[simp] theorem unusedReservation_snoc (owner : String) (es : List (SessionLabel F C))
    (l : SessionLabel F C) :
    unusedReservation owner (es ++ [l]) = reservation owner (unusedReservation owner es) l := by
  simp [unusedReservation]

end

/-- The label says nothing about a command. -/
structure Mute (l : SessionLabel F C) : Prop where
  accepts : ∀ k, accepts k l = false
  invokes : ∀ k, invokes k l = false
  reservation : ∀ owner unused, reservation owner unused l = unused

/-! ## §3. The protocol. -/

/-- What a step does to the custody and to the view of the thread that
    performs it.  No plan is published over an active command, and the
    worker leaves its loop with nothing to do. -/
inductive Does (l : SessionLabel F C) :
    Custody F → View F → Custody F → View F → Prop where
  | nothing {c : Custody F} {v : View F} (mute : Mute l) : Does l c v c v
  | reserved {c : Custody F} {v : View F} (owner : String)
      (label : ∃ t reason, l = .act t (.reserve owner) (true, reason))
      (isOpen : c.closing = false) : Does l c v { c with owner } v
  | submitted {c : Custody F} {v : View F} (command kept : SessionCommand F)
      (label : ∃ t reason, l = .act t (.submit command) (true, reason))
      (isOpen : c.closing = false) (owner : c.owner = command.owner)
      (noPending : c.pending = none)
      (terminal : kept.terminal = command.terminal) (same : kept.owner = command.owner) :
      Does l c v { c with pending := some kept } v
  | released {c : Custody F} {v : View F} (owner : String)
      (label : ∃ t reason, l = .act t (.release owner reason) true)
      (owned : c.owner = owner) : Does l c v { c with owner := "" } v
  | took {c : Custody F} {v v' : View F} (command : SessionCommand F) (mute : Mute l)
      (pending : c.pending = some command) (worker : v.worker = true)
      (empty : v.carried = .empty) (stage : v.stage = .none)
      (after : v' = { v with carried := .taken command }) :
      Does l c v { c with pending := none } v'
  | decided {c : Custody F} {v v' : View F} (mute : Mute l)
      (command : v'.carried.command = v.carried.command)
      (owner : v'.carried.owner = v.carried.owner) (stage : v'.stage = v.stage)
      (worker : v'.worker = v.worker) : Does l c v c v'
  | published {c : Custody F} {v : View F} (command : SessionCommand F) (mute : Mute l)
      (carried : v.carried = .planning command) (worker : v.worker = true)
      (stage : v.stage = .none) (vacant : c.active = none) :
      Does l c v { c with active := some command } v.free
  | ended {c : Custody F} {v v' : View F} (command : SessionCommand F) (outcome : Outcome)
      (mute : Mute l) (active : c.active = some command) (empty : v.carried = .empty)
      (after : v' = { v with carried := .ending command outcome }) :
      Does l c v { c with active := none } v'
  | withdrew {c : Custody F} {v v' : View F} (command : SessionCommand F) (outcome : Outcome)
      (mute : Mute l) (pending : c.pending = some command) (empty : v.carried = .empty)
      (after : v' = { v with carried := .ending command outcome }) :
      Does l c v { c with pending := none } v'
  | answered {c : Custody F} {v v' : View F} (command : SessionCommand F) (outcome : Outcome)
      (callback : Callback) (result : CommandResult) (verdict : Bool)
      (label : ∃ t, l = .act t (.terminalCallback callback result) verdict)
      (carried : v.carried = .ending command outcome)
      (terminal : command.terminal = some callback)
      (after : v' = { v with carried := .answered command.owner }) : Does l c v c v'
  | cleared {c : Custody F} {v : View F} (owner : String) (mute : Mute l)
      (owned : v.carried.owner = some owner)
      (spent : v.carried.command.bind SessionCommand.terminal = none) :
      Does l c v { c with owner := if c.owner = owner then "" else c.owner } v.free
  | left {c : Custody F} {v v' : View F} (mute : Mute l) (worker : v.worker = true)
      (closing : c.closing = true) (empty : v.carried = .empty)
      (idle : c.pending = none ∧ c.active = none)
      (after : v' = { v with stage := .leaving }) : Does l c v c v'
  | exited {c : Custody F} {v : View F} (mute : Mute l) (worker : v.worker = true)
      (stage : v.stage = .leaving) : Does l c v { c with workerFinished := true } v
  | closed {c : Custody F} {v v' : View F} (mute : Mute l)
      (label : ∃ t, l = .act t .beginClose false) (worker : v.worker = false)
      (isOpen : c.closing = false) (after : v' = { v with stage := .closing }) :
      Does l c v { c with closing := true } v'
  | refused {c : Custody F} {v v' : View F} (mute : Mute l) (closing : c.closing = true)
      (worker : v.worker = false) (after : v' = { v with stage := .turnedAway }) : Does l c v c v'
  | begun {c : Custody F} {v v' : View F} (mute : Mute l) (worker : v.worker = false)
      (after : v' = { v with stage := .none }) : Does l c v c v'
  | joined {c : Custody F} {v v' : View F} (mute : Mute l) (finished : c.workerFinished = true)
      (stage : v.stage = .closing) (worker : v.worker = false)
      (after : v' = { v with stage := .joined }) : Does l c v c v'

/-! ## §4. The account. -/

/-- Something under way has this owner. -/
inductive Owned (owner : String) (c : Custody F) (views : Thread C → View F) : Prop where
  | pending (command : SessionCommand F) (h : c.pending = some command)
      (same : command.owner = owner)
  | active (command : SessionCommand F) (h : c.active = some command)
      (same : command.owner = owner)
  | hand (t : Thread C) (h : (views t).carried.owner = some owner)

/-- Every accepted command is accounted for, and so is a standing owner. -/
structure Accounted (c : Custody F) (views : Thread C → View F)
    (es : List (SessionLabel F C)) : Prop where
  worker : ∀ t, (views t).worker = true ↔ t = .worker
  count : ∀ k, accepted k es =
    invoked k es + token k c.pending + token k c.active + inHands k views
  owned : c.owner ≠ "" → unusedReservation c.owner es = true ∨ Owned c.owner c views
  leaving : (views .worker).stage = .leaving →
    c.closing = true ∧ c.pending = none ∧ c.active = none ∧ (views .worker).carried = .empty
  finished : c.workerFinished = true → (views .worker).stage = .leaving
  joined : ∀ t, (views t).stage = .joined → c.workerFinished = true

section Step

variable {l : SessionLabel F C} {c c' : Custody F} {views : Thread C → View F} {t : Thread C}
  {v' : View F} {es : List (SessionLabel F C)}

omit [Rounding F] [DecidableEq C] [Fintype C] in
/-- A label that says nothing about a command keeps the counts. -/
theorem Mute.counts (h : Mute l) (k : Callback) :
    accepted k (es ++ [l]) = accepted k es ∧ invoked k (es ++ [l]) = invoked k es := by
  simp [h.accepts k, h.invokes k]

omit [Rounding F] [DecidableEq C] [Fintype C] in
/-- … and the reservations. -/
theorem Mute.unused (h : Mute l) (owner : String) :
    unusedReservation owner (es ++ [l]) = unusedReservation owner es := by
  rw [unusedReservation_snoc, h.reservation]

omit [Rounding F] in
/-- **Every accepted command stays accounted for.** -/
theorem Does.count (h : Does l c (views t) c' v')
    (hI : ∀ k, accepted k es =
      invoked k es + token k c.pending + token k c.active + inHands k views) (k : Callback) :
    accepted k (es ++ [l]) = invoked k (es ++ [l]) + token k c'.pending + token k c'.active +
      inHands k (Function.update views t v') := by
  have hk := hI k
  have hands := inHands_update k views t v'
  cases h with
  | nothing mute =>
    rw [(mute.counts k).1, (mute.counts k).2]
    omega
  | reserved owner label isOpen =>
    obtain ⟨u, reason, rfl⟩ := label
    simp only [accepted_snoc, invoked_snoc, accepts, invokes]
    simp
    omega
  -- the one step that adds to both sides: the command is accepted and pending
  | submitted command kept label isOpen owner noPending terminal same =>
    obtain ⟨u, reason, rfl⟩ := label
    rw [noPending, token_none] at hk
    simp only [accepted_snoc, invoked_snoc, accepts, invokes, token_some, terminal]
    by_cases hterminal : command.terminal = some k
    · simp [hterminal]
      omega
    · simp [hterminal]
      omega
  | released owner label owned =>
    obtain ⟨u, reason, rfl⟩ := label
    simp only [accepted_snoc, invoked_snoc, accepts, invokes]
    simp
    omega
  -- a token moves between the pending place, the active one and a hand
  | took command mute pending worker empty stage after =>
    subst after
    rw [(mute.counts k).1, (mute.counts k).2]
    rw [pending] at hk
    rw [empty] at hands
    simp only [Carried.command, token_none] at hands ⊢
    omega
  | decided mute command owner stage worker =>
    rw [(mute.counts k).1, (mute.counts k).2]
    rw [command] at hands
    omega
  | published command mute carried worker stage vacant =>
    rw [(mute.counts k).1, (mute.counts k).2]
    rw [vacant, token_none] at hk
    rw [carried] at hands
    simp only [Carried.command, View.free, token_none] at hands ⊢
    omega
  | ended command outcome mute active empty after =>
    subst after
    rw [(mute.counts k).1, (mute.counts k).2]
    rw [active] at hk
    rw [empty] at hands
    simp only [Carried.command, token_none] at hands ⊢
    omega
  | withdrew command outcome mute pending empty after =>
    subst after
    rw [(mute.counts k).1, (mute.counts k).2]
    rw [pending] at hk
    rw [empty] at hands
    simp only [Carried.command, token_none] at hands ⊢
    omega
  -- a token leaves a hand for the invocations
  | answered command outcome callback result verdict label carried terminal after =>
    obtain ⟨u, rfl⟩ := label
    subst after
    rw [carried] at hands
    simp only [Carried.command, token_none, token_some, terminal, Option.some.injEq] at hands
    simp only [accepted_snoc, invoked_snoc, accepts, invokes]
    by_cases hcallback : callback = k
    · simp only [hcallback, if_true, beq_self_eq_true, Bool.false_eq_true, if_false] at hands ⊢
      omega
    · simp only [hcallback, if_false, beq_iff_eq, Bool.false_eq_true] at hands ⊢
      omega
  | cleared owner mute owned spent =>
    rw [(mute.counts k).1, (mute.counts k).2]
    have htoken : token k (views t).carried.command = 0 := by simp [token, spent]
    rw [htoken] at hands
    simp only [Carried.command, View.free, token_none] at hands ⊢
    omega
  | left mute worker closing empty idle after =>
    subst after
    rw [(mute.counts k).1, (mute.counts k).2, inHands_stage]
    omega
  | exited mute worker stage =>
    rw [(mute.counts k).1, (mute.counts k).2]
    show _ = _ + token k c.pending + token k c.active + _
    omega
  | closed mute label worker isOpen after =>
    subst after
    rw [(mute.counts k).1, (mute.counts k).2, inHands_stage]
    omega
  | refused mute closing worker after =>
    subst after
    rw [(mute.counts k).1, (mute.counts k).2, inHands_stage]
    omega
  | begun mute worker after =>
    subst after
    rw [(mute.counts k).1, (mute.counts k).2, inHands_stage]
    omega
  | joined mute finished stage worker after =>
    subst after
    rw [(mute.counts k).1, (mute.counts k).2, inHands_stage]
    omega

section

omit [Rounding F] [Fintype C]

/-- What is under way stays so wherever the step does not touch it. -/
theorem Owned.step {owner : String} (h : Owned owner c views)
    (hpending : ∀ command, c.pending = some command → command.owner = owner →
      Owned owner c' (Function.update views t v'))
    (hactive : ∀ command, c.active = some command → command.owner = owner →
      Owned owner c' (Function.update views t v'))
    (hhand : (views t).carried.owner = some owner →
      Owned owner c' (Function.update views t v')) :
    Owned owner c' (Function.update views t v') := by
  cases h with
  | pending command h same => exact hpending command h same
  | active command h same => exact hactive command h same
  | hand u h =>
    by_cases hu : u = t
    · subst hu
      exact hhand h
    · refine .hand u ?_
      rw [Function.update_of_ne hu]
      exact h

/-- The hand of the stepping thread holds something of this owner. -/
theorem Owned.mine {owner : String} (h : v'.carried.owner = some owner) :
    Owned owner c' (Function.update views t v') := by
  refine .hand t ?_
  rw [Function.update_self]
  exact h

/-- A step that moves no command keeps what is under way. -/
theorem Owned.keep {owner : String} (h : Owned owner c views) (hpending : c'.pending = c.pending)
    (hactive : c'.active = c.active) (hhand : v'.carried.owner = (views t).carried.owner) :
    Owned owner c' (Function.update views t v') := by
  refine h.step ?_ ?_ ?_
  · intro command hcommand same
    exact .pending command (hpending.trans hcommand) same
  · intro command hcommand same
    exact .active command (hactive.trans hcommand) same
  · intro howner
    exact .mine (hhand.trans howner)

/-- **A standing owner stays accounted for.** -/
theorem Does.owned (h : Does l c (views t) c' v')
    (hI : c.owner ≠ "" → unusedReservation c.owner es = true ∨ Owned c.owner c views)
    (howner : c'.owner ≠ "") :
    unusedReservation c'.owner (es ++ [l]) = true ∨
      Owned c'.owner c' (Function.update views t v') := by
  -- a step that leaves owner and commands alone
  have hkeep (mute : Mute l) (hown : c'.owner = c.owner) (hp : c'.pending = c.pending)
      (ha : c'.active = c.active) (hh : v'.carried.owner = (views t).carried.owner) :
      unusedReservation c'.owner (es ++ [l]) = true ∨
        Owned c'.owner c' (Function.update views t v') := by
    rw [mute.unused, hown]
    exact (hI (hown ▸ howner)).imp_right fun h => h.keep hp ha hh
  cases h with
  | nothing mute => exact hkeep mute rfl rfl rfl rfl
  | reserved owner label isOpen =>
    obtain ⟨u, reason, rfl⟩ := label
    left
    simp [reservation]
  | submitted command kept label isOpen owner noPending terminal same =>
    right
    -- the owner of a submitted command owns it while it is pending
    exact .pending kept rfl (same.trans owner.symm)
  | released owner label owned => exact absurd rfl howner
  | took command mute pending worker empty stage after =>
    subst after
    rw [mute.unused]
    refine (hI howner).imp_right fun h => h.step ?_ ?_ ?_
    · intro command' hcommand same
      rw [pending, Option.some.injEq] at hcommand
      exact .mine (by rw [← same, hcommand]; rfl)
    · intro command' hcommand same
      exact .active command' hcommand same
    · intro hhand
      rw [empty] at hhand
      cases hhand
  | decided mute command owner stage worker => exact hkeep mute rfl rfl rfl owner
  | published command mute carried worker stage vacant =>
    rw [mute.unused]
    refine (hI howner).imp_right fun h => h.step ?_ ?_ ?_
    · intro command' hcommand same
      exact .pending command' hcommand same
    · intro command' hcommand same
      rw [vacant] at hcommand
      cases hcommand
    · intro hhand
      rw [carried] at hhand
      exact .active command rfl (Option.some.inj hhand)
  | ended command outcome mute active empty after =>
    subst after
    rw [mute.unused]
    refine (hI howner).imp_right fun h => h.step ?_ ?_ ?_
    · intro command' hcommand same
      exact .pending command' hcommand same
    · intro command' hcommand same
      rw [active, Option.some.injEq] at hcommand
      exact .mine (by rw [← same, hcommand]; rfl)
    · intro hhand
      rw [empty] at hhand
      cases hhand
  | withdrew command outcome mute pending empty after =>
    subst after
    rw [mute.unused]
    refine (hI howner).imp_right fun h => h.step ?_ ?_ ?_
    · intro command' hcommand same
      rw [pending, Option.some.injEq] at hcommand
      exact .mine (by rw [← same, hcommand]; rfl)
    · intro command' hcommand same
      exact .active command' hcommand same
    · intro hhand
      rw [empty] at hhand
      cases hhand
  | answered command outcome callback result verdict label carried terminal after =>
    obtain ⟨u, rfl⟩ := label
    subst after
    rw [unusedReservation_snoc]
    refine (hI howner).imp_right fun h => h.keep rfl rfl ?_
    rw [carried]
    rfl
  | cleared owner mute owned spent =>
    -- an owner is left, so it is not the cleared one
    have hne : c.owner ≠ owner := by
      intro heq
      exact howner (if_pos heq)
    have hsame : (if c.owner = owner then "" else c.owner) = c.owner := if_neg hne
    simp only [hsame] at howner ⊢
    rw [mute.unused]
    refine (hI howner).imp_right fun h => h.step ?_ ?_ ?_
    · intro command' hcommand same
      exact .pending command' hcommand same
    · intro command' hcommand same
      exact .active command' hcommand same
    · intro hhand
      rw [owned] at hhand
      exact absurd (Option.some.inj hhand).symm hne
  | left mute worker closing empty idle after => exact hkeep mute rfl rfl rfl (by rw [after])
  | exited mute worker stage => exact hkeep mute rfl rfl rfl rfl
  | closed mute label worker isOpen after => exact hkeep mute rfl rfl rfl (by rw [after])
  | refused mute closing worker after => exact hkeep mute rfl rfl rfl (by rw [after])
  | begun mute worker after => exact hkeep mute rfl rfl rfl (by rw [after])
  | joined mute finished stage worker after => exact hkeep mute rfl rfl rfl (by rw [after])

end

section

omit [Rounding F] [DecidableEq C] [Fintype C]

/-- No step changes which thread is the worker. -/
theorem Does.worker {v : View F} (h : Does l c v c' v') : v'.worker = v.worker := by
  cases h <;> first | rfl | assumption | (rename_i after; rw [after])

/-- How a step changes the stage of its thread. -/
theorem Does.stage {v : View F} (h : Does l c v c' v') :
    v'.stage = v.stage ∨
      (v'.stage = .leaving ∧ c' = c ∧ c.closing = true ∧ c.pending = none ∧ c.active = none ∧
        v'.carried = .empty) ∨
      (v.worker = false ∧ v'.stage ≠ .leaving ∧ (v'.stage = .joined → c.workerFinished = true)) := by
  cases h with
  | took command mute pending worker empty stage after => exact .inl (by rw [after])
  | decided mute command owner stage worker => exact .inl stage
  | ended command outcome mute active empty after => exact .inl (by rw [after])
  | withdrew command outcome mute pending empty after => exact .inl (by rw [after])
  | answered command outcome callback result verdict label carried terminal after =>
    exact .inl (by rw [after])
  | left mute worker closing empty idle after =>
    subst after
    exact .inr (.inl ⟨rfl, rfl, closing, idle.1, idle.2, empty⟩)
  | closed mute label worker isOpen after =>
    subst after
    exact .inr (.inr ⟨worker, by simp, by simp⟩)
  | refused mute closing worker after =>
    subst after
    exact .inr (.inr ⟨worker, by simp, by simp⟩)
  | begun mute worker after =>
    subst after
    exact .inr (.inr ⟨worker, by simp, by simp⟩)
  | joined mute finished stage worker after =>
    subst after
    exact .inr (.inr ⟨worker, by simp, fun _ => finished⟩)
  | _ => exact .inl rfl

/-- Once the session is closing and nothing rests in it, no step brings
    anything back: a submission needs it open, and the worker has left. -/
theorem Does.rest {v : View F} (h : Does l c v c' v') (hclosing : c.closing = true)
    (hpending : c.pending = none) (hactive : c.active = none)
    (hworker : v.worker = true → v.carried = .empty) :
    c'.closing = true ∧ c'.pending = none ∧ c'.active = none ∧
      (v.carried = .empty → v'.carried = .empty) := by
  cases h with
  | submitted command kept label isOpen =>
    rw [isOpen] at hclosing
    cases hclosing
  | took command mute pending =>
    rw [pending] at hpending
    cases hpending
  | decided mute command owner stage worker =>
    refine ⟨hclosing, hpending, hactive, fun hempty => ?_⟩
    rw [hempty] at owner
    cases hcarried : v'.carried with
    | empty => rfl
    | _ => rw [hcarried] at owner; cases owner
  | published command mute carried worker =>
    rw [hworker worker] at carried
    cases carried
  | ended command outcome mute active =>
    rw [active] at hactive
    cases hactive
  | withdrew command outcome mute pending =>
    rw [pending] at hpending
    cases hpending
  | answered command outcome callback result verdict label carried terminal after =>
    refine ⟨hclosing, hpending, hactive, fun hempty => ?_⟩
    rw [hempty] at carried
    cases carried
  | cleared owner mute owned spent => exact ⟨hclosing, hpending, hactive, fun _ => rfl⟩
  | left mute worker closing empty idle after =>
    exact ⟨hclosing, hpending, hactive, fun hempty => by rw [after]; exact hempty⟩
  | closed mute label worker isOpen after =>
    rw [isOpen] at hclosing
    cases hclosing
  | refused mute closing worker after =>
    exact ⟨hclosing, hpending, hactive, fun hempty => by rw [after]; exact hempty⟩
  | begun mute worker after =>
    exact ⟨hclosing, hpending, hactive, fun hempty => by rw [after]; exact hempty⟩
  | joined mute finished stage worker after =>
    exact ⟨hclosing, hpending, hactive, fun hempty => by rw [after]; exact hempty⟩
  | _ => exact ⟨hclosing, hpending, hactive, id⟩

/-- Only a `close` closes. -/
theorem Does.closing {v : View F} (h : Does l c v c' v') :
    c'.closing = c.closing ∨ ∃ t, l = .act t .beginClose false := by
  cases h with
  | closed mute label worker isOpen after => exact .inr label
  | _ => exact .inl rfl

/-- The worker finishes once, from the end of its loop. -/
theorem Does.finished {v : View F} (h : Does l c v c' v') :
    c'.workerFinished = c.workerFinished ∨
      (c'.workerFinished = true ∧ v.worker = true ∧ v.stage = .leaving ∧ v' = v) := by
  cases h with
  | exited mute worker stage => exact .inr ⟨rfl, worker, stage, rfl⟩
  | _ => exact .inl rfl

end

omit [Rounding F] in
/-- **Every step of the protocol keeps the account.** -/
theorem Accounted.step (hI : Accounted c views es) (h : Does l c (views t) c' v') :
    Accounted c' (Function.update views t v') (es ++ [l]) := by
  have hflag : ∀ u, (Function.update views t v' u).worker = true ↔ u = .worker := by
    intro u
    by_cases hu : u = t
    · subst hu
      rw [Function.update_self, h.worker]
      exact hI.worker u
    · rw [Function.update_of_ne hu]
      exact hI.worker u
  -- a worker that has left its loop stays there
  have hstays : (views .worker).stage = .leaving →
      (Function.update views t v' .worker).stage = .leaving := by
    intro hleaving
    by_cases ht : t = .worker
    · subst ht
      rw [Function.update_self]
      rcases h.stage with hsame | ⟨hstage, -⟩ | ⟨hnot, -⟩
      · rw [hsame, hleaving]
      · exact hstage
      · rw [(hI.worker .worker).mpr rfl] at hnot
        cases hnot
    · rw [Function.update_of_ne (Ne.symm ht)]
      exact hleaving
  refine ⟨hflag, h.count hI.count, h.owned hI.owned, ?_, ?_, ?_⟩
  · intro hleaving
    by_cases hbefore : (views .worker).stage = .leaving
    · obtain ⟨hclosing, hpending, hactive, hempty⟩ := hI.leaving hbefore
      have hrest := h.rest hclosing hpending hactive fun hworker => by
        rw [(hI.worker t).mp hworker, hempty]
      refine ⟨hrest.1, hrest.2.1, hrest.2.2.1, ?_⟩
      by_cases ht : t = .worker
      · subst ht
        rw [Function.update_self]
        exact hrest.2.2.2 hempty
      · rw [Function.update_of_ne (Ne.symm ht)]
        exact hempty
    · -- it leaves now
      by_cases ht : t = .worker
      · subst ht
        rw [Function.update_self] at hleaving ⊢
        rcases h.stage with hsame | ⟨-, rfl, hclosing, hpending, hactive, hempty⟩ | ⟨hnot, -⟩
        · exact absurd (hsame.symm.trans hleaving) hbefore
        · exact ⟨hclosing, hpending, hactive, hempty⟩
        · rw [(hI.worker .worker).mpr rfl] at hnot
          cases hnot
      · rw [Function.update_of_ne (Ne.symm ht)] at hleaving
        exact absurd hleaving hbefore
  · intro hfinished
    rcases h.finished with hsame | ⟨-, hworker, hstage, -⟩
    · exact hstays (hI.finished (hsame ▸ hfinished))
    · refine hstays ?_
      rw [← (hI.worker t).mp hworker]
      exact hstage
  · intro u hjoined
    have hbefore : c.workerFinished = true := by
      by_cases hu : u = t
      · subst hu
        rw [Function.update_self] at hjoined
        rcases h.stage with hsame | ⟨hstage, -⟩ | ⟨-, -, hfinished⟩
        · exact hI.joined u (hsame.symm.trans hjoined)
        · rw [hstage] at hjoined
          cases hjoined
        · exact hfinished hjoined
      · rw [Function.update_of_ne hu] at hjoined
        exact hI.joined u hjoined
    rcases h.finished with hsame | ⟨hfinished, -⟩
    · exact hsame.trans hbefore
    · exact hfinished

omit [Rounding F] [DecidableEq C] in
/-- **A session that has been closed has settled its account.**  Once a
    close has joined the worker and the hands of the callers are empty,
    every accepted command has had its terminal callback once. -/
theorem Accounted.settled (hI : Accounted c views es) {t : Thread C}
    (hjoined : (views t).stage = .joined)
    (hidle : ∀ caller, (views (.caller caller)).carried = .empty) :
    (∀ k, accepted k es = invoked k es) ∧
      (c.owner ≠ "" → unusedReservation c.owner es = true) := by
  obtain ⟨-, hpending, hactive, hworker⟩ := hI.leaving (hI.finished (hI.joined t hjoined))
  have hempty : ∀ u, (views u).carried = .empty := by
    intro u
    cases u with
    | worker => exact hworker
    | caller caller => exact hidle caller
  refine ⟨fun k => ?_, fun howner => ?_⟩
  · have hnone : inHands k views = 0 := by
      refine Finset.sum_eq_zero fun u _ => ?_
      rw [hempty u]
      rfl
    have hcount := hI.count k
    rw [hpending, hactive, hnone] at hcount
    simpa using hcount
  · refine (hI.owned howner).resolve_right fun hunder => ?_
    cases hunder with
    | pending command h _ => rw [hpending] at h; cases h
    | active command h _ => rw [hactive] at h; cases h
    | hand u h => rw [hempty u] at h; cases h

end Step

end OpenArm.Real
