/-
  OpenArm.Transport.Views — what a thread knows of the transports.

  A thread that calls a transport knows which mutexes it holds, whether it
  has found `closed_` clear under the send mutex, what the clock said, which
  grant it has found and which it has erased.  `shots` says what these
  allow: above all, a frame goes to a backend only past `closed_` and, where
  its class is dangerous, for a grant that was erased for it.

  Main results:
    * `conforms_handler` — every call obeys `shots`.
    * `perform_knows`    — what a thread knows of the members stays true.
-/
import OpenArm.Transport.System

namespace OpenArm.Transport

open OpenArm.Lib OpenArm.Can

variable {X : Type} [DecidableEq X]

/-! ## §1. Views. -/

/-- What a proof knows about the position of a thread. -/
structure View (X : Type) where
  holds : Set (X × Mutex)
  /-- `closed_` was clear under the send mutex that is still held. -/
  passed : Set X
  /-- The last reading of a backend's clock. -/
  clock : Option (X × Nat)
  /-- What `grants_` holds under a token, while the authority mutex is held. -/
  found : Option (X × Nat × Option Grant)
  /-- The grant this thread has erased and not yet used. -/
  consumed : Option (X × Nat × Grant)
  /-- `closed_` was set by this thread. -/
  stored : Set X
  /-- … and no operation of the transport was under way after that. -/
  drained : Set X

/-- A thread that has done nothing. -/
def View.fresh : View X where
  holds := ∅
  passed := ∅
  clock := none
  found := none
  consumed := none
  stored := ∅
  drained := ∅

/-- The grant covers a send: it was made for the very frame, and neither the
    reading of the clock nor the deadline is past it. -/
structure Grant.Covers (grant : Grant) (frame : Frame) (frameClass : FrameClass)
    (nowNs deadlineNs : Nat) : Prop where
  frame : grant.exactFrame = frame
  frameClass : grant.frameClass = frameClass
  current : nowNs < grant.expiryNs
  deadline : deadlineNs ≤ grant.expiryNs

/-- What a view allows. -/
def View.allows (v : View X) : Op X → Prop
  | .unlock x mutex => (x, mutex) ∈ v.holds
  | .findGrant x _ | .eraseGrant x _ | .emplaceGrant x _ _ | .clearGrants x =>
    (x, Mutex.authority) ∈ v.holds
  | .backendSend x frame deadlineNs =>
    x ∈ v.passed ∧ ∃ cls, classify frame = .ok cls ∧ cls ≠ .unknown ∧ cls ≠ .motion ∧
      (dangerousClass cls = true → ∃ tokenId grant nowNs, v.consumed = some (x, tokenId, grant) ∧
        v.clock = some (x, nowNs) ∧ grant.Covers frame cls nowNs deadlineNs)
  | _ => True

/-- The grant an erasure takes out. -/
def View.removes (v : View X) (x : X) (tokenId : Nat) : Option (X × Nat × Grant) :=
  match v.found with
  | some (y, id, some grant) => if y = x ∧ id = tokenId then some (x, tokenId, grant) else none
  | _ => none

/-- The view after an action. -/
def View.after (v : View X) : (o : Op X) → o.Reply → View X
  | .lock x mutex, _ => { v with holds := insert (x, mutex) v.holds }
  | .unlock x mutex, _ =>
    { v with
      holds := v.holds \ {(x, mutex)}
      passed := {y | y ∈ v.passed ∧ ¬ (y = x ∧ mutex = .send)}
      found := if mutex = .authority then none else v.found }
  | .lockOperations x, _ =>
    { v with
      holds := insert (x, .receive) (insert (x, .send) v.holds)
      drained := {y | y ∈ v.drained ∨ (y = x ∧ y ∈ v.stored)} }
  | .loadClosed x, closed =>
    { v with
      passed := {y | y ∈ v.passed ∨ (y = x ∧ closed = false ∧ (x, Mutex.send) ∈ v.holds)} }
  | .storeClosed x, _ => { v with stored := insert x v.stored }
  | .backendNow x, (status, nowNs) =>
    { v with clock := if status = .ok then some (x, nowNs) else none }
  | .backendSend .., _ => { v with consumed := none }
  | .findGrant x tokenId, found => { v with found := some (x, tokenId, found) }
  | .eraseGrant x tokenId, _ => { v with found := none, consumed := v.removes x tokenId }
  | .emplaceGrant .., _ => { v with found := none }
  | .clearGrants _, _ => { v with found := none }
  | _, _ => v

/-- The view at the start of a call. -/
def View.begins (v : View X) : View X := { v with clock := none, found := none, consumed := none }

/-- **What a thread may do with what it knows.** -/
def shots (X : Type) [DecidableEq X] : Discipline (transportSig X) (View X) where
  begins := View.begins
  allowed := View.allows
  possible _ _ _ := True
  next := View.after
  expects p v := match p with
    | .drawToken x => (x, Mutex.authority) ∈ v.holds
  leaves _ v _ v' := v'.holds = v.holds

/-- How a call ends: a `close` with the transport drained. -/
def shotEnd (answer : Answer X) (v : View X) : Prop :=
  ∀ x, answer = .closed x → x ∈ v.drained

/-! ## §2. Every call obeys. -/

/-- One action, then the rest from the view it leaves. -/
theorem shot_then {β : Type} {o : Op X} {f : o.Reply → Program X β} {v : View X}
    {Q : β → View X → Prop} (hallowed : v.allows o)
    (hf : ∀ r, Conforms (shots X) (f r) (v.after o r) Q) :
    Conforms (shots X) (op o >>= f) v Q :=
  conforms_bind.mpr ⟨hallowed, fun r _ => hf r⟩

/-- A block under a lock. -/
theorem conforms_guarded {α : Type} {x : X} {mutex : Mutex} {block : Program X α} {v : View X}
    {Q : α → View X → Prop}
    (h : Conforms (shots X) block (v.after (.lock x mutex) ()) fun a w =>
      (x, mutex) ∈ w.holds ∧ Q a (w.after (.unlock x mutex) ())) :
    Conforms (shots X) (guarded x mutex block) v Q := by
  refine shot_then trivial fun _ => Conforms.seq h fun a w hw => ?_
  exact shot_then hw.1 fun _ => hw.2

/-- A thread in the middle of a send. -/
structure View.Sending (v : View X) (x : X) (nowNs : Nat) : Prop where
  holds : (x, Mutex.send) ∈ v.holds
  passed : x ∈ v.passed
  clock : v.clock = some (x, nowNs)

/-- A thread holds the authority mutex in the middle of a send. -/
structure View.Consuming (v : View X) (x : X) (nowNs : Nat) : Prop extends v.Sending x nowNs where
  authority : (x, Mutex.authority) ∈ v.holds

/-- What a send has erased, for what it is about to send. -/
def View.Armed (v : View X) (x : X) (frame : Frame) (frameClass : FrameClass)
    (nowNs deadlineNs : Nat) : Prop :=
  ∃ tokenId grant, v.consumed = some (x, tokenId, grant) ∧
    grant.Covers frame frameClass nowNs deadlineNs

theorem framesEqual_iff {left right : Frame} : framesEqual left right = true ↔ left = right := by
  unfold framesEqual
  rw [Bool.and_eq_true, Bool.and_eq_true, beq_iff_eq, beq_iff_eq, decide_eq_true_eq]
  obtain ⟨canId, dlc, data⟩ := left
  obtain ⟨canId', dlc', data'⟩ := right
  rw [Frame.mk.injEq, and_assoc]

theorem conforms_consumeGrant {v : View X} {x : X} {nowNs : Nat} (hv : v.Consuming x nowNs)
    (tokenId : Nat) (frame : Frame) (frameClass : FrameClass) (deadlineNs : Nat) :
    Conforms (shots X) (consumeGrant x tokenId frame frameClass nowNs deadlineNs) v
      fun status w => w.Consuming x nowNs ∧
        (status = .ok → w.Armed x frame frameClass nowNs deadlineNs) := by
  have hsending := hv.toSending
  refine shot_then hv.authority fun found => ?_
  match found with
  | none => exact ⟨⟨⟨hsending.holds, hsending.passed, hsending.clock⟩, hv.authority⟩, nofun⟩
  | some grant =>
    dsimp only
    split
    · refine shot_then hv.authority fun _ => ?_
      exact ⟨⟨⟨hsending.holds, hsending.passed, hsending.clock⟩, hv.authority⟩, nofun⟩
    rename_i hcurrent
    split
    · exact ⟨⟨⟨hsending.holds, hsending.passed, hsending.clock⟩, hv.authority⟩, nofun⟩
    rename_i hmatch
    refine shot_then hv.authority fun _ => ?_
    refine ⟨⟨⟨hsending.holds, hsending.passed, hsending.clock⟩, hv.authority⟩, fun _ => ?_⟩
    rw [not_or, not_or, not_not, Bool.not_eq_false, framesEqual_iff] at hmatch
    refine ⟨tokenId, grant, ?_, hmatch.2.2, hmatch.2.1, by omega, by omega⟩
    exact if_pos ⟨rfl, rfl⟩

theorem conforms_authorize {v : View X} {x : X} {nowNs : Nat} (hv : v.Sending x nowNs)
    (I : Instances X) (authority : Option Authority) (frame : Frame) (frameClass : FrameClass)
    (deadlineNs : Nat) :
    Conforms (shots X) (authorize I x authority frame frameClass nowNs deadlineNs) v
      fun status w => w.Sending x nowNs ∧ (status = .ok → dangerousClass frameClass = true →
        w.Armed x frame frameClass nowNs deadlineNs) := by
  unfold authorize
  split
  · rename_i hquery
    have hsafe : dangerousClass frameClass = false := by
      rcases hquery with rfl | rfl <;> rfl
    rw [hsafe]
    split
    · exact ⟨hv, nofun⟩
    · exact ⟨hv, nofun⟩
  unfold consumeAuthority
  split
  · exact ⟨hv, nofun⟩
  split
  · exact ⟨hv, nofun⟩
  · rename_i presented _
    have hlocked : (v.after (.lock x .authority) ()).Consuming x nowNs :=
      ⟨⟨.inr hv.holds, hv.passed, hv.clock⟩, .inl rfl⟩
    refine conforms_guarded ((conforms_consumeGrant hlocked presented.tokenId frame frameClass
      deadlineNs).mono fun status w hw => ⟨hw.1.authority, ?_, fun hok _ => hw.2 hok⟩)
    refine ⟨⟨hw.1.holds, ?_⟩, ⟨hw.1.passed, ?_⟩, hw.1.clock⟩
    · exact fun h => by cases h
    · exact fun h => by cases h.2

/-- **A send** uses a backend only past `closed_`, and with a grant where its
    class is dangerous. -/
theorem conforms_send (I : Instances X) (x : X) (frame : Frame) (deadlineNs : Nat)
    (authority : Option Authority) (v : View X) :
    Conforms (shots X) (send I x frame deadlineNs authority) v
      fun a _ => ∀ y, a ≠ .closed y := by
  have hheld : (x, Mutex.send) ∈ (v.after (.lock x .send) ()).holds := .inl rfl
  refine conforms_guarded (shot_then trivial fun closed => ?_)
  match closed with
  | true => exact ⟨hheld, nofun⟩
  | false =>
    rw [if_neg Bool.false_ne_true]
    split
    · exact ⟨hheld, nofun⟩
    rename_i cls hclass
    split
    · exact ⟨hheld, nofun⟩
    rename_i hknown
    rw [not_or] at hknown
    refine shot_then trivial fun reading => ?_
    obtain ⟨status, nowNs⟩ := reading
    dsimp only
    split
    · exact ⟨hheld, nofun⟩
    rename_i hstatus
    split
    · exact ⟨hheld, nofun⟩
    have hread : (((v.after (.lock x .send) ()).after (.loadClosed x) false).after
        (.backendNow x) (status, nowNs)).Sending x nowNs :=
      ⟨hheld, .inr ⟨rfl, rfl, hheld⟩, if_pos (not_not.mp hstatus)⟩
    refine Conforms.seq (conforms_authorize hread I authority frame cls deadlineNs)
      fun permitted w hw => ?_
    obtain ⟨hsending, harmed⟩ := hw
    split
    · exact ⟨hsending.holds, nofun⟩
    rename_i hpermitted
    refine shot_then ⟨hsending.passed, cls, hclass, hknown.1, hknown.2, fun hdangerous => ?_⟩
      fun sent => ⟨hsending.holds, nofun⟩
    obtain ⟨tokenId, grant, hconsumed, hcovers⟩ := harmed (not_not.mp hpermitted) hdangerous
    exact ⟨tokenId, grant, nowNs, hconsumed, hsending.clock, hcovers⟩

theorem conforms_receive (I : Instances X) (x : X) (deadlineNs : Nat) (v : View X) :
    Conforms (shots X) (receive I x deadlineNs) v fun a _ => ∀ y, a ≠ .closed y := by
  have hheld : (x, Mutex.receive) ∈ (v.after (.lock x .receive) ()).holds := .inl rfl
  refine conforms_guarded (shot_then trivial fun closed => ?_)
  match closed with
  | true => exact ⟨hheld, nofun⟩
  | false =>
    refine shot_then trivial fun reading => ?_
    obtain ⟨status, nowNs⟩ := reading
    dsimp only
    split
    · exact ⟨hheld, nofun⟩
    split
    · exact ⟨hheld, nofun⟩
    exact shot_then trivial fun received => ⟨hheld, nofun⟩

/-- The loop keeps the locks. -/
theorem conforms_drawToken {x : X} {v : View X} (hv : (x, Mutex.authority) ∈ v.holds) :
    Conforms (shots X) (drawToken x) v fun _ w => w.holds = v.holds := by
  refine shot_then trivial fun drawn => ?_
  obtain ⟨status, tokenId⟩ := drawn
  dsimp only
  split
  · exact rfl
  refine shot_then hv fun found => ?_
  match found with
  | none => exact rfl
  | some _ => exact ⟨hv, fun _ _ h => h⟩

/-- The bodies of the procedures meet what is said of them. -/
theorem conforms_procBody (p : Proc X) (v : View X) (h : (shots X).expects p v) :
    Conforms (shots X) (procBody p) v ((shots X).leaves p v) := by
  cases p with
  | drawToken x => exact conforms_drawToken h

/-- An issue keeps the authority mutex until it has filed its grant. -/
theorem conforms_issueGrant (I : Instances X) {x : X} {v : View X} (grant : Grant)
    (hv : (x, Mutex.authority) ∈ v.holds) :
    Conforms (shots X) (issueGrant I x grant) v
      fun a w => w.holds = v.holds ∧ ∀ y, a ≠ .closed y := by
  refine ⟨hv, fun drawn w hw => ?_⟩
  have hw : w.holds = v.holds := hw
  have hheld : (x, Mutex.authority) ∈ w.holds := by
    rw [hw]
    exact hv
  match drawn with
  | .error status => exact ⟨hw, nofun⟩
  | .ok tokenId =>
    refine shot_then hheld fun filed => ?_
    match filed with
    | false => exact ⟨hw, nofun⟩
    | true =>
      refine shot_then trivial fun allocated => ?_
      match allocated with
      | true => exact ⟨hw, nofun⟩
      | false => exact shot_then hheld fun _ => ⟨hw, nofun⟩

theorem conforms_issueAuthority (I : Instances X) (x : X) (exactFrame : Frame) (expiryNs : Nat)
    (v : View X) :
    Conforms (shots X) (issueAuthority I x exactFrame expiryNs) v
      fun a _ => ∀ y, a ≠ .closed y := by
  have hheld : (x, Mutex.close) ∈ (v.after (.lock x .close) ()).holds := .inl rfl
  refine conforms_guarded (shot_then trivial fun closed => ?_)
  match closed with
  | true => exact ⟨hheld, nofun⟩
  | false =>
    refine shot_then trivial fun permits => ?_
    match permits with
    | false => exact ⟨hheld, nofun⟩
    | true =>
      rw [if_pos rfl]
      split
      · exact ⟨hheld, nofun⟩
      split
      · exact ⟨hheld, nofun⟩
      refine shot_then trivial fun reading => ?_
      obtain ⟨status, nowNs⟩ := reading
      dsimp only
      split
      · exact ⟨hheld, nofun⟩
      split
      · exact ⟨hheld, nofun⟩
      refine conforms_guarded (Conforms.mono (conforms_issueGrant I _ (.inl rfl)) fun a w hw => ?_)
      obtain ⟨hw, hanswer⟩ := hw
      refine ⟨?_, ⟨?_, fun h => by cases h⟩, hanswer⟩
      · rw [hw]
        exact .inl rfl
      · rw [hw]
        exact .inr hheld

/-- Dropping the grants keeps what a close has done. -/
theorem conforms_clear {x : X} {v : View X} (hheld : (x, Mutex.close) ∈ v.holds)
    (hdrained : x ∈ v.drained) :
    Conforms (shots X) (guarded x .authority (op (.clearGrants x))) v
      fun _ w => (x, Mutex.close) ∈ w.holds ∧ x ∈ w.drained := by
  refine conforms_guarded ⟨.inl rfl, fun _ _ => ⟨.inl rfl, ⟨.inr hheld, ?_⟩, hdrained⟩⟩
  exact fun h => by cases h

/-- **A close** drains its transport: it has set `closed_` when it gets both
    operation mutexes. -/
theorem conforms_close (x : X) (v : View X) :
    Conforms (shots X) (close x) v fun a w => a = .closed x ∧ x ∈ w.drained := by
  have hheld : (x, Mutex.close) ∈ (v.after (.lock x .close) ()).holds := .inl rfl
  refine conforms_guarded ?_
  refine shot_then trivial fun _ => shot_then trivial fun _ => shot_then trivial fun _ => ?_
  refine shot_then (.inl rfl) fun _ => shot_then ⟨.inr (.inl rfl), fun h => by cases h⟩ fun _ => ?_
  refine Conforms.seq (conforms_clear ⟨⟨.inr (.inr hheld), ?_⟩, ?_⟩ (.inr ⟨rfl, .inl rfl⟩))
    fun _ w hw => ⟨hw.1, rfl, hw.2⟩
  · exact fun h => by cases h
  · exact fun h => by cases h

/-- **Every call obeys.** -/
theorem conforms_handler (I : Instances X) (request : Request X) (v : View X) :
    Conforms (shots X) (handler I request) v fun a w => shotEnd a w := by
  have hother : ∀ {p : Program X (Answer X)}, Conforms (shots X) p v
    (fun a _ => ∀ y, a ≠ .closed y) →
      Conforms (shots X) p v fun a w => shotEnd a w :=
    fun h => h.mono fun a _ ha x hx => absurd hx (ha x)
  cases request with
  | send x frame deadlineNs authority =>
    exact hother (conforms_send I x frame deadlineNs authority v)
  | receive x deadlineNs => exact hother (conforms_receive I x deadlineNs v)
  | issueAuthority x exactFrame expiryNs =>
    exact hother (conforms_issueAuthority I x exactFrame expiryNs v)
  | close x =>
    refine (conforms_close x v).mono fun a w h y hy => ?_
    rw [h.1] at hy
    cases hy
    exact h.2

/-! ## §3. The members under an action. -/

variable {T : Type}

namespace Transports

variable (s : Transports X T) (t : T) (x y : X) (mutex m : Mutex) (tokenId id : Nat)
  (grant : Option Grant)

theorem set_eq (members : Members T) : s.set x members y = if y = x then members else s y :=
  Function.update_apply s x members y

/-- What an update leaves alone. -/
theorem set_keeps {α : Type} {members : Members T} {f : Members T → α}
    (h : f members = f (s x)) : f (s.set x members y) = f (s y) := by
  rw [set_eq]
  split
  · rename_i hy
    rw [hy, h]
  · rfl

@[simp] theorem take_holder : ((s.take t x mutex) y).holder m =
    if y = x ∧ m = mutex then some t else (s y).holder m := by
  unfold take
  rw [set_eq]
  by_cases hy : y = x
  · subst hy
    by_cases hm : m = mutex <;> simp [hm]
  · rw [if_neg hy, if_neg fun h => hy h.1]

@[simp] theorem take_closed : ((s.take t x mutex) y).closed = (s y).closed :=
  set_keeps s x y (f := Members.closed) rfl

@[simp] theorem take_grants : ((s.take t x mutex) y).grants = (s y).grants :=
  set_keeps s x y (f := Members.grants) rfl

@[simp] theorem free_holder : ((s.free x mutex) y).holder m =
    if y = x ∧ m = mutex then none else (s y).holder m := by
  unfold free
  rw [set_eq]
  by_cases hy : y = x
  · subst hy
    by_cases hm : m = mutex <;> simp [hm]
  · rw [if_neg hy, if_neg fun h => hy h.1]

@[simp] theorem free_closed : ((s.free x mutex) y).closed = (s y).closed :=
  set_keeps s x y (f := Members.closed) rfl

@[simp] theorem free_grants : ((s.free x mutex) y).grants = (s y).grants :=
  set_keeps s x y (f := Members.grants) rfl

@[simp] theorem shut_holder : ((s.shut x) y).holder = (s y).holder :=
  set_keeps s x y (f := Members.holder) rfl

@[simp] theorem shut_closed : ((s.shut x) y).closed = (decide (y = x) || (s y).closed) := by
  unfold shut
  rw [set_eq]
  by_cases hy : y = x <;> simp [hy]

@[simp] theorem shut_grants : ((s.shut x) y).grants = (s y).grants :=
  set_keeps s x y (f := Members.grants) rfl

@[simp] theorem clear_holder : ((s.clear x) y).holder = (s y).holder :=
  set_keeps s x y (f := Members.holder) rfl

@[simp] theorem clear_closed : ((s.clear x) y).closed = (s y).closed :=
  set_keeps s x y (f := Members.closed) rfl

@[simp] theorem clear_grants : ((s.clear x) y).grants id =
    if y = x then none else (s y).grants id := by
  unfold clear
  rw [set_eq]
  by_cases hy : y = x <;> simp [hy]

@[simp] theorem setGrant_holder : ((s.setGrant x tokenId grant) y).holder = (s y).holder :=
  set_keeps s x y (f := Members.holder) rfl

@[simp] theorem setGrant_closed : ((s.setGrant x tokenId grant) y).closed = (s y).closed :=
  set_keeps s x y (f := Members.closed) rfl

@[simp] theorem setGrant_grants : ((s.setGrant x tokenId grant) y).grants id =
    if y = x ∧ id = tokenId then grant else (s y).grants id := by
  unfold setGrant
  rw [set_eq]
  by_cases hy : y = x
  · subst hy
    by_cases hid : id = tokenId <;> simp [hid]
  · rw [if_neg hy, if_neg fun h => hy h.1]

/-- What an action leaves alone: the other threads' mutexes, a set `closed_`,
    and the grants whose mutex the thread does not hold. -/
structure Beside (s s' : Transports X T) (t : T) : Prop where
  holder : ∀ u, u ≠ t → ∀ x mutex, (s' x).holder mutex = some u ↔ (s x).holder mutex = some u
  closed : ∀ x, (s x).closed = true → (s' x).closed = true
  grants : ∀ x tokenId, (s x).holder .authority = some t ∨
    (s' x).grants tokenId = (s x).grants tokenId

end Transports

/-- What a thread knows of the members is so. -/
structure Knows (s : Transports X T) (t : T) (v : View X) : Prop where
  holds : ∀ x mutex, (s x).holder mutex = some t ↔ (x, mutex) ∈ v.holds
  passed : ∀ x ∈ v.passed, (x, Mutex.send) ∈ v.holds
  found : ∀ x tokenId grant, v.found = some (x, tokenId, grant) →
    (x, Mutex.authority) ∈ v.holds ∧ (s x).grants tokenId = grant
  stored : ∀ x ∈ v.stored, (s x).closed = true

section Perform

variable {s s' : Transports X T} {t : T} {o : Op X} {c : Choice} {r : o.Reply} {v : View X}

omit [DecidableEq X] in
/-- A reading or an answer changes nothing. -/
theorem map_same {α : Type} {answer : Option α} {a : α} {s s' : Transports X T}
    (h : (answer.map fun r => (r, s)) = some (a, s')) : s' = s := by
  obtain ⟨_, -, h⟩ := Option.map_eq_some_iff.mp h
  exact (Prod.mk.inj h).2.symm

omit [DecidableEq X] in
theorem beside_refl (s : Transports X T) (t : T) : s.Beside s t :=
  ⟨fun _ _ _ _ => Iff.rfl, fun _ h => h, fun _ _ => .inr rfl⟩

/-- **An action leaves the others alone.** -/
theorem perform_beside (hk : Knows s t v) (ha : v.allows o)
    (h : s.perform t o c = some (r, s')) : s.Beside s' t := by
  cases o with
  -- a mutex changes hands between `t` and nobody, so the others hold what they held
  | lock x mutex =>
    simp only [Transports.perform] at h
    split at h
    · cases h
    rename_i hfree
    cases h
    refine ⟨fun u hu y m => ?_, fun y hy => by simpa using hy, fun y id => by simp⟩
    rw [Transports.take_holder]
    split
    · rename_i hsame
      rw [hsame.1, hsame.2]
      rw [Bool.not_eq_true, Option.isSome_eq_false_iff, Option.isNone_iff_eq_none] at hfree
      rw [hfree]
      exact ⟨fun h => absurd (Option.some.inj h).symm hu, nofun⟩
    · exact Iff.rfl
  | unlock x mutex =>
    cases h
    have hholder := (hk.holds x mutex).mpr ha
    refine ⟨fun u hu y m => ?_, fun y hy => by simpa using hy, fun y id => by simp⟩
    rw [Transports.free_holder]
    split
    · rename_i hsame
      rw [hsame.1, hsame.2, hholder]
      exact ⟨nofun, fun h => absurd (Option.some.inj h).symm hu⟩
    · exact Iff.rfl
  | lockOperations x =>
    simp only [Transports.perform] at h
    split at h
    · cases h
    rename_i hfree
    cases h
    simp only [not_or, Bool.not_eq_true, Option.isSome_eq_false_iff,
      Option.isNone_iff_eq_none] at hfree
    refine ⟨fun u hu y m => ?_, fun y hy => by simpa using hy, fun y id => by simp⟩
    simp only [Transports.take_holder]
    split
    · rename_i hsame
      rw [hsame.1, hsame.2, hfree.2]
      exact ⟨fun h => absurd (Option.some.inj h).symm hu, nofun⟩
    split
    · rename_i hsame
      rw [hsame.1, hsame.2, hfree.1]
      exact ⟨fun h => absurd (Option.some.inj h).symm hu, nofun⟩
    · exact Iff.rfl
  | loadClosed x =>
    cases h
    exact beside_refl s t
  | storeClosed x =>
    cases h
    exact ⟨fun u hu y m => by simp, fun y hy => by simp [hy], fun y id => by simp⟩
  | backendClose x =>
    cases h
    exact beside_refl s t
  | findGrant x tokenId =>
    cases h
    exact beside_refl s t
  | eraseGrant x tokenId =>
    cases h
    refine ⟨fun u hu y m => by simp, fun y hy => by simpa using hy, fun y id => ?_⟩
    rw [Transports.setGrant_grants]
    split
    · rename_i hsame
      rw [hsame.1]
      -- grants are written under the authority mutex, which `t` holds
      exact .inl ((hk.holds x .authority).mpr ha)
    · exact .inr rfl
  | emplaceGrant x tokenId grant =>
    obtain ⟨ok, -, h⟩ := Option.map_eq_some_iff.mp h
    cases ok with
    | false =>
      cases h
      exact beside_refl s t
    | true =>
      cases h
      refine ⟨fun u hu y m => by simp, fun y hy => by simpa using hy, fun y id => ?_⟩
      rw [if_pos rfl, Transports.setGrant_grants]
      split
      · rename_i hsame
        rw [hsame.1]
        exact .inl ((hk.holds x .authority).mpr ha)
      · exact .inr rfl
  | clearGrants x =>
    cases h
    refine ⟨fun u hu y m => by simp, fun y hy => by simpa using hy, fun y id => ?_⟩
    rw [Transports.clear_grants]
    split
    · rename_i hsame
      rw [hsame]
      exact .inl ((hk.holds x .authority).mpr ha)
    · exact .inr rfl
  -- a question to the backend changes no member
  | backendNow x => exact map_same h ▸ beside_refl s t
  | backendSend x frame deadlineNs => exact map_same h ▸ beside_refl s t
  | backendReceive x deadlineNs => exact map_same h ▸ beside_refl s t
  | permitsAuthorityIssuance x => exact map_same h ▸ beside_refl s t
  | secureRandom64 => exact map_same h ▸ beside_refl s t
  | newAuthority => exact map_same h ▸ beside_refl s t

omit [DecidableEq X] in
/-- What the others know stays true. -/
theorem Knows.beside {u : T} {w : View X} (hu : Knows s u w) (hne : u ≠ t)
    (h : s.Beside s' t) : Knows s' u w := by
  refine ⟨fun x mutex => (h.holder u hne x mutex).trans (hu.holds x mutex), hu.passed,
    fun x id grant hfound => ?_, fun x hx => h.closed x (hu.stored x hx)⟩
  obtain ⟨hheld, hgrant⟩ := hu.found x id grant hfound
  refine ⟨hheld, ?_⟩
  rcases h.grants x id with ht | hsame
  · rw [(hu.holds x .authority).mpr hheld] at ht
    exact absurd (Option.some.inj ht) hne
  · rw [hsame]
    exact hgrant

/-- **What the thread itself knows is so.** -/
theorem perform_knows (hk : Knows s t v) (ha : v.allows o)
    (h : s.perform t o c = some (r, s')) : Knows s' t (v.after o r) := by
  cases o with
  | lock x mutex =>
    simp only [Transports.perform] at h
    split at h
    · cases h
    cases h
    refine ⟨fun y m => ?_, fun y hy => .inr (hk.passed y hy), fun y id grant hfound => ?_,
      fun y hy => by simpa using hk.stored y hy⟩
    · rw [Transports.take_holder]
      show _ ↔ (y, m) = (x, mutex) ∨ (y, m) ∈ v.holds
      rw [← hk.holds, Prod.mk.injEq]
      split
      · rename_i hsame
        exact ⟨fun _ => .inl hsame, fun _ => rfl⟩
      · rename_i hother
        exact ⟨.inr, fun h => h.resolve_left hother⟩
    · obtain ⟨hheld, hgrant⟩ := hk.found y id grant hfound
      exact ⟨.inr hheld, by simpa using hgrant⟩
  | unlock x mutex =>
    cases h
    refine ⟨fun y m => ?_, fun y hy => ⟨hk.passed y hy.1, fun h => hy.2 ?_⟩,
      fun y id grant hfound => ?_, fun y hy => by simpa using hk.stored y hy⟩
    · rw [Transports.free_holder]
      show _ ↔ (y, m) ∈ v.holds ∧ (y, m) ≠ (x, mutex)
      rw [← hk.holds, ne_eq, Prod.mk.injEq]
      split
      · rename_i hsame
        exact ⟨nofun, fun h => absurd hsame h.2⟩
      · rename_i hother
        exact ⟨fun h => ⟨h, hother⟩, fun h => h.1⟩
    · obtain ⟨rfl, rfl⟩ := Prod.mk.inj h
      exact ⟨rfl, rfl⟩
    · -- with the authority mutex goes what was found under it
      by_cases hm : mutex = .authority
      · change (if mutex = .authority then none else v.found) = _ at hfound
        rw [if_pos hm] at hfound
        cases hfound
      · change (if mutex = .authority then none else v.found) = _ at hfound
        rw [if_neg hm] at hfound
        obtain ⟨hheld, hgrant⟩ := hk.found y id grant hfound
        refine ⟨⟨hheld, fun h => hm ?_⟩, by simpa using hgrant⟩
        exact (Prod.mk.inj h).2.symm
  | lockOperations x =>
    simp only [Transports.perform] at h
    split at h
    · cases h
    cases h
    refine ⟨fun y m => ?_, fun y hy => .inr (.inr (hk.passed y hy)), fun y id grant hfound => ?_,
      fun y hy => by simpa using hk.stored y hy⟩
    · simp only [Transports.take_holder]
      show _ ↔ (y, m) = (x, .receive) ∨ (y, m) = (x, .send) ∨ (y, m) ∈ v.holds
      rw [← hk.holds, Prod.mk.injEq, Prod.mk.injEq]
      split
      · rename_i hsame
        exact ⟨fun _ => .inl hsame, fun _ => rfl⟩
      rename_i hother
      split
      · rename_i hsame
        exact ⟨fun _ => .inr (.inl hsame), fun _ => rfl⟩
      · rename_i hthird
        exact ⟨fun h => .inr (.inr h), fun h => (h.resolve_left hother).resolve_left hthird⟩
    · obtain ⟨hheld, hgrant⟩ := hk.found y id grant hfound
      exact ⟨.inr (.inr hheld), by simpa using hgrant⟩
  | loadClosed x =>
    cases h
    refine ⟨hk.holds, fun y hy => ?_, hk.found, hk.stored⟩
    -- `closed_` was found clear, which counts while the send mutex is held
    rcases hy with hy | ⟨rfl, -, hheld⟩
    · exact hk.passed y hy
    · exact hheld
  | storeClosed x =>
    cases h
    refine ⟨fun y m => ?_, hk.passed, fun y id grant hfound => ?_, fun y hy => ?_⟩
    · rw [Transports.shut_holder]
      exact hk.holds y m
    · rw [Transports.shut_grants]
      exact hk.found y id grant hfound
    · rcases hy with rfl | hy
      · simp
      · simp [hk.stored y hy]
  | backendClose x =>
    cases h
    exact hk
  | findGrant x tokenId =>
    cases h
    refine ⟨hk.holds, hk.passed, fun y id grant hfound => ?_, hk.stored⟩
    -- what was found is the grant that stands there
    cases hfound
    exact ⟨ha, rfl⟩
  | eraseGrant x tokenId =>
    cases h
    refine ⟨fun y m => ?_, hk.passed, nofun, fun y hy => by simpa using hk.stored y hy⟩
    rw [Transports.setGrant_holder]
    exact hk.holds y m
  | emplaceGrant x tokenId grant =>
    obtain ⟨ok, -, h⟩ := Option.map_eq_some_iff.mp h
    cases ok with
    | false =>
      cases h
      exact ⟨hk.holds, hk.passed, nofun, hk.stored⟩
    | true =>
      cases h
      refine ⟨fun y m => ?_, hk.passed, nofun, fun y hy => by simpa using hk.stored y hy⟩
      rw [if_pos rfl, Transports.setGrant_holder]
      exact hk.holds y m
  | clearGrants x =>
    cases h
    refine ⟨fun y m => ?_, hk.passed, nofun, fun y hy => by simpa using hk.stored y hy⟩
    rw [Transports.clear_holder]
    exact hk.holds y m
  | backendNow x =>
    rw [map_same h]
    exact ⟨hk.holds, hk.passed, hk.found, hk.stored⟩
  | backendSend x frame deadlineNs =>
    rw [map_same h]
    exact ⟨hk.holds, hk.passed, hk.found, hk.stored⟩
  | backendReceive x deadlineNs => exact map_same h ▸ hk
  | permitsAuthorityIssuance x => exact map_same h ▸ hk
  | secureRandom64 => exact map_same h ▸ hk
  | newAuthority => exact map_same h ▸ hk

end Perform

end OpenArm.Transport
