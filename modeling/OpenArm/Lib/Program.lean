/-
  OpenArm.Lib.Program — programs that interleave at their atomic actions.

  A `Prog` is the rest of a thread: finished, about to perform one atomic
  ACTION on the shared state, or about to enter a PROCEDURE.  Everything
  between two actions is local to the thread, so the actions are exactly
  the points where threads interleave.  Loops without a bound are
  procedures that enter themselves.

  A `Machine` gives the actions their meaning on a shared state and the
  procedures their bodies; `Machine.system` runs any set of threads.

  What a proof needs to know about the position of a thread is a `View`,
  advanced by the actions the thread performs.  A `Discipline` says which
  actions a view allows; `Conforms` checks a program against it.

  Main results:
    * `Conforms.bind`      — the rule of sequential composition.
    * `Conforms.enter`     — the rule of procedures: a body that meets its
      specification may replace the call.
    * `Machine.run_conforms` — the invariant rule of a parallel run: threads
      conform and the shared invariant holds at its end;
      `Machine.run_conforms_history` is the rule with a history variable.
-/
import OpenArm.Lib.Transition
import Mathlib

namespace OpenArm.Lib

/-! ## §1. Programs. -/

/-- The actions and procedures programs are written in, each with the type
    of what it answers. -/
structure Signature where
  Op : Type
  Reply : Op → Type
  Proc : Type
  Result : Proc → Type

/-- The rest of a thread. -/
inductive Prog (sig : Signature) (α : Type) : Type where
  | ret (a : α)
  | act (o : sig.Op) (rest : sig.Reply o → Prog sig α)
  | call (p : sig.Proc) (rest : sig.Result p → Prog sig α)

namespace Prog

variable {sig : Signature} {α β : Type}

/-- Sequential composition. -/
def bind : Prog sig α → (α → Prog sig β) → Prog sig β
  | ret a, f => f a
  | act o rest, f => act o fun r => (rest r).bind f
  | call p rest, f => call p fun a => (rest a).bind f

instance : Monad (Prog sig) where
  pure := ret
  bind := bind

/-- Perform one action. -/
def op (o : sig.Op) : Prog sig (sig.Reply o) := act o ret

/-- Enter one procedure. -/
def enter (p : sig.Proc) : Prog sig (sig.Result p) := call p ret

@[simp] theorem pure_eq (a : α) : (pure a : Prog sig α) = ret a := rfl

@[simp] theorem bind_eq (p : Prog sig α) (f : α → Prog sig β) : (p >>= f) = p.bind f := rfl

@[simp] theorem ret_bind (a : α) (f : α → Prog sig β) : (ret a).bind f = f a := rfl

end Prog

/-! ## §2. Machines: threads over a shared state. -/

/-- The meaning of the actions: `perform s t o c` is the answer and the next
    shared state when thread `t` performs `o` on `s` and the surroundings
    choose `c`; `none` when `t` has to wait or `c` is no possible choice. -/
structure Machine (sig : Signature) (σ T Choice Request Answer Event : Type) where
  initial : σ → (T → Option (Prog sig Answer)) → Prop
  body : (p : sig.Proc) → Prog sig (sig.Result p)
  /-- The program a request runs. -/
  handler : Request → Prog sig Answer
  perform : σ → T → (o : sig.Op) → Choice → Option (sig.Reply o × σ)
  /-- What happens to the shared state on its own. -/
  occurs : σ → Event → Option σ

/-- A shared state and what every thread still has to do; `none` is a thread
    with no call under way. -/
structure Running (sig : Signature) (σ T Answer : Type) where
  shared : σ
  thread : T → Option (Prog sig Answer)

/-- What a step of the system does. -/
inductive Label (sig : Signature) (T Request Answer Event : Type) where
  | start (t : T) (request : Request)
  | act (t : T) (o : sig.Op) (reply : sig.Reply o)
  | enter (t : T) (p : sig.Proc)
  | finish (t : T) (answer : Answer)
  | event (e : Event)

namespace Machine

variable {sig : Signature} {σ T Choice Request Answer Event : Type} [DecidableEq T]
  (M : Machine sig σ T Choice Request Answer Event)

/-- One step: a thread starts a call, performs its next action, enters a
    procedure or returns, or the surroundings act. -/
inductive Step : Running sig σ T Answer → Label sig T Request Answer Event →
    Running sig σ T Answer → Prop where
  | start {m : Running sig σ T Answer} (t : T) (request : Request)
      (idle : m.thread t = none) :
      Step m (.start t request)
        { m with thread := Function.update m.thread t (some (M.handler request)) }
  | act {m : Running sig σ T Answer} {t : T} {o : sig.Op} {rest} {r : sig.Reply o} {s' : σ}
      (c : Choice) (next : m.thread t = some (.act o rest))
      (performed : M.perform m.shared t o c = some (r, s')) :
      Step m (.act t o r)
        { shared := s', thread := Function.update m.thread t (some (rest r)) }
  | enter {m : Running sig σ T Answer} {t : T} {p : sig.Proc} {rest}
      (next : m.thread t = some (.call p rest)) :
      Step m (.enter t p)
        { m with thread := Function.update m.thread t (some ((M.body p).bind rest)) }
  | finish {m : Running sig σ T Answer} {t : T} {a : Answer}
      (next : m.thread t = some (.ret a)) :
      Step m (.finish t a) { m with thread := Function.update m.thread t none }
  | event {m : Running sig σ T Answer} {s' : σ} (e : Event)
      (occurred : M.occurs m.shared e = some s') :
      Step m (.event e) { m with shared := s' }

/-- The interleavings of the threads. -/
def system : Lts (Running sig σ T Answer) (Label sig T Request Answer Event) where
  init m := M.initial m.shared m.thread
  step := M.Step

/-! ## §3. Scheduled runs: a test oracle for single interleavings. -/

/-- What a schedule asks for next. -/
inductive Move (sig : Signature) (T Choice Request Event : Type) where
  | start (t : T) (request : Request)
  /-- Let a thread take its next steps, whatever they are; `choose` is what the
  surroundings choose at each action. -/
  | go (t : T) (steps : Nat) (choose : sig.Op → Choice)
  | event (e : Event)

/-- The next step of a thread; `none` when it has to wait. -/
def advance (m : Running sig σ T Answer) (t : T) (choose : sig.Op → Choice) :
    Option (Label sig T Request Answer Event × Running sig σ T Answer) :=
  match m.thread t with
  | none => none
  | some (.ret a) => some (.finish t a, { m with thread := Function.update m.thread t none })
  | some (.call p rest) => some (.enter t p,
      { m with thread := Function.update m.thread t (some ((M.body p).bind rest)) })
  | some (.act o rest) =>
    match M.perform m.shared t o (choose o) with
    | none => none
    | some (r, s') => some (.act t o r,
        { shared := s', thread := Function.update m.thread t (some (rest r)) })

/-- The next steps of a thread, with the labels performed. -/
def advances (m : Running sig σ T Answer) (t : T) (choose : sig.Op → Choice) :
    Nat → Option (List (Label sig T Request Answer Event) × Running sig σ T Answer)
  | 0 => some ([], m)
  | steps + 1 =>
    match M.advance m t choose with
    | none => none
    | some (l, m') => (advances m' t choose steps).map fun q => (l :: q.1, q.2)

/-- Perform one move; `none` when it is not possible. -/
def moved (m : Running sig σ T Answer) :
    Move sig T Choice Request Event →
    Option (List (Label sig T Request Answer Event) × Running sig σ T Answer)
  | .start t request =>
    match m.thread t with
    | none => some ([.start t request],
        { m with thread := Function.update m.thread t (some (M.handler request)) })
    | some _ => none
  | .go t steps choose => M.advances m t choose steps
  | .event e =>
    match M.occurs m.shared e with
    | none => none
    | some s' => some ([.event e], { m with shared := s' })

/-- Perform the moves in order, with the labels performed. -/
def schedule (m : Running sig σ T Answer) :
    List (Move sig T Choice Request Event) →
    Option (List (Label sig T Request Answer Event) × Running sig σ T Answer)
  | [] => some ([], m)
  | move :: moves =>
    match M.moved m move with
    | none => none
    | some (ls, m') => (schedule m' moves).map fun q => (ls ++ q.1, q.2)

/-- A test of every step of a thread. -/
def advancesPass (ok : Running sig σ T Answer → Label sig T Request Answer Event → Bool)
    (m : Running sig σ T Answer) (t : T) (choose : sig.Op → Choice) : Nat → Bool
  | 0 => true
  | steps + 1 =>
    match M.advance m t choose with
    | none => false
    | some (l, m') => ok m l && advancesPass ok m' t choose steps

/-- A test of every step of a move. -/
def movePasses (ok : Running sig σ T Answer → Label sig T Request Answer Event → Bool)
    (m : Running sig σ T Answer) : Move sig T Choice Request Event → Bool
  | .start t request => ok m (.start t request)
  | .go t steps choose => M.advancesPass ok m t choose steps
  | .event e => ok m (.event e)

/-- A test of every step of a schedule. -/
def schedulePasses (ok : Running sig σ T Answer → Label sig T Request Answer Event → Bool)
    (m : Running sig σ T Answer) : List (Move sig T Choice Request Event) → Bool
  | [] => true
  | move :: moves =>
    M.movePasses ok m move &&
      match M.moved m move with
      | none => false
      | some (_, m') => schedulePasses ok m' moves

variable {M}

theorem advance_step {m m' : Running sig σ T Answer} {t : T} {choose : sig.Op → Choice}
    {l : Label sig T Request Answer Event} (h : M.advance m t choose = some (l, m')) :
    M.Step m l m' := by
  simp only [advance] at h
  split at h
  · cases h
  · rename_i a next
    cases h
    exact .finish next
  · rename_i p rest next
    cases h
    exact .enter next
  · rename_i o rest next
    split at h
    · cases h
    · rename_i r s' performed
      cases h
      exact .act (choose o) next performed

theorem advances_run {steps : Nat} {m m' : Running sig σ T Answer} {t : T}
    {choose : sig.Op → Choice} {es : List (Label sig T Request Answer Event)}
    (h : M.advances m t choose steps = some (es, m')) : M.system.Run m es m' := by
  induction steps generalizing m es with
  | zero =>
    simp only [advances, Option.some.injEq, Prod.mk.injEq] at h
    obtain ⟨rfl, rfl⟩ := h
    exact .nil _
  | succ steps ih =>
    simp only [advances] at h
    split at h
    · cases h
    · rename_i l mid hadvance
      obtain ⟨⟨fs, n⟩, hrest, heq⟩ := Option.map_eq_some_iff.mp h
      cases heq
      exact .cons (advance_step hadvance) (ih hrest)

theorem moved_run {m m' : Running sig σ T Answer} {move : Move sig T Choice Request Event}
    {es : List (Label sig T Request Answer Event)} (h : M.moved m move = some (es, m')) :
    M.system.Run m es m' := by
  cases move with
  | start t request =>
    simp only [moved] at h
    split at h
    · rename_i idle
      cases h
      exact .single (.start t request idle)
    · cases h
  | go t steps choose => exact advances_run h
  | event e =>
    simp only [moved] at h
    split at h
    · cases h
    · rename_i s' occurred
      cases h
      exact .single (.event e occurred)

/-- **A schedule that goes through is a run.** -/
theorem schedule_run {m m' : Running sig σ T Answer}
    {moves : List (Move sig T Choice Request Event)}
    {es : List (Label sig T Request Answer Event)} (h : M.schedule m moves = some (es, m')) :
    M.system.Run m es m' := by
  induction moves generalizing m es with
  | nil =>
    simp only [schedule, Option.some.injEq, Prod.mk.injEq] at h
    obtain ⟨rfl, rfl⟩ := h
    exact .nil _
  | cons move moves ih =>
    simp only [schedule] at h
    split at h
    · cases h
    · rename_i ls mid hmove
      obtain ⟨⟨fs, n⟩, hrest, heq⟩ := Option.map_eq_some_iff.mp h
      cases heq
      exact (moved_run hmove).append (ih hrest)

section Passing

variable {ok : Running sig σ T Answer → Label sig T Request Answer Event → Bool}

theorem advances_passing {steps : Nat} {m m' : Running sig σ T Answer} {t : T}
    {choose : sig.Op → Choice} {es : List (Label sig T Request Answer Event)}
    (h : M.advances m t choose steps = some (es, m'))
    (hok : M.advancesPass ok m t choose steps = true) :
    (M.system.restrict fun a l _ => ok a l = true).Run m es m' := by
  induction steps generalizing m es with
  | zero =>
    simp only [advances, Option.some.injEq, Prod.mk.injEq] at h
    obtain ⟨rfl, rfl⟩ := h
    exact .nil _
  | succ steps ih =>
    simp only [advances] at h
    simp only [advancesPass] at hok
    split at h
    · cases h
    · rename_i l mid hadvance
      obtain ⟨⟨fs, n⟩, hrest, heq⟩ := Option.map_eq_some_iff.mp h
      cases heq
      simp only [hadvance, Bool.and_eq_true] at hok
      exact .cons ⟨advance_step hadvance, hok.1⟩ (ih hrest hok.2)

theorem moved_passing {m m' : Running sig σ T Answer} {move : Move sig T Choice Request Event}
    {es : List (Label sig T Request Answer Event)} (h : M.moved m move = some (es, m'))
    (hok : M.movePasses ok m move = true) :
    (M.system.restrict fun a l _ => ok a l = true).Run m es m' := by
  cases move with
  | start t request =>
    simp only [moved] at h
    split at h
    · rename_i idle
      cases h
      exact .single ⟨.start t request idle, hok⟩
    · cases h
  | go t steps choose => exact advances_passing h hok
  | event e =>
    simp only [moved] at h
    split at h
    · cases h
    · rename_i s' occurred
      cases h
      exact .single ⟨.event e occurred, hok⟩

/-- **A schedule that goes through and passes the test is a restricted run.** -/
theorem schedule_passing {m m' : Running sig σ T Answer}
    {moves : List (Move sig T Choice Request Event)}
    {es : List (Label sig T Request Answer Event)} (h : M.schedule m moves = some (es, m'))
    (hok : M.schedulePasses ok m moves = true) :
    (M.system.restrict fun a l _ => ok a l = true).Run m es m' := by
  induction moves generalizing m es with
  | nil =>
    simp only [schedule, Option.some.injEq, Prod.mk.injEq] at h
    obtain ⟨rfl, rfl⟩ := h
    exact .nil _
  | cons move moves ih =>
    simp only [schedule] at h
    simp only [schedulePasses, Bool.and_eq_true] at hok
    split at h
    · cases h
    · rename_i ls mid hmove
      obtain ⟨⟨fs, n⟩, hrest, heq⟩ := Option.map_eq_some_iff.mp h
      cases heq
      rw [hmove] at hok
      exact (moved_passing hmove hok.1).append (ih hrest hok.2)

end Passing

section Logged

variable {η : Type} {start : η}

variable (M) in
/-- Perform steps of a thread that pass a test, with a history. -/
def stepsLogged (record : η → Running sig σ T Answer → Label sig T Request Answer Event →
      Running sig σ T Answer → η)
    (ok : Running sig σ T Answer × η → Label sig T Request Answer Event → Bool)
    (p : Running sig σ T Answer × η) (t : T) (choose : sig.Op → Choice) :
    Nat → Option (Running sig σ T Answer × η)
  | 0 => some p
  | steps + 1 =>
    match M.advance p.1 t choose with
    | none => none
    | some (l, m') =>
      if ok p l then stepsLogged record ok (m', record p.2 p.1 l m') t choose steps else none

variable (M) in
/-- Perform one move whose steps pass a test, with a history. -/
def movedLogged (record : η → Running sig σ T Answer → Label sig T Request Answer Event →
      Running sig σ T Answer → η)
    (ok : Running sig σ T Answer × η → Label sig T Request Answer Event → Bool)
    (p : Running sig σ T Answer × η) :
    Move sig T Choice Request Event → Option (Running sig σ T Answer × η)
  | .start t request =>
    match p.1.thread t with
    | none =>
      let m' := { p.1 with thread := Function.update p.1.thread t (some (M.handler request)) }
      if ok p (.start t request) then some (m', record p.2 p.1 (.start t request) m') else none
    | some _ => none
  | .go t steps choose => M.stepsLogged record ok p t choose steps
  | .event e =>
    match M.occurs p.1.shared e with
    | none => none
    | some s' =>
      let m' := { p.1 with shared := s' }
      if ok p (.event e) then some (m', record p.2 p.1 (.event e) m') else none

variable (M) in
/-- Perform the moves in order, with a history. -/
def scheduleLogged (record : η → Running sig σ T Answer → Label sig T Request Answer Event →
      Running sig σ T Answer → η)
    (ok : Running sig σ T Answer × η → Label sig T Request Answer Event → Bool)
    (p : Running sig σ T Answer × η) :
    List (Move sig T Choice Request Event) → Option (Running sig σ T Answer × η)
  | [] => some p
  | move :: moves =>
    match M.movedLogged record ok p move with
    | none => none
    | some q => scheduleLogged record ok q moves

variable {record : η → Running sig σ T Answer → Label sig T Request Answer Event →
    Running sig σ T Answer → η}
  {ok : Running sig σ T Answer × η → Label sig T Request Answer Event → Bool}
  {p q : Running sig σ T Answer × η}

/-- The runs of a logged schedule. -/
abbrev LoggedRun (M : Machine sig σ T Choice Request Answer Event) (start : η)
    (record : η → Running sig σ T Answer → Label sig T Request Answer Event →
      Running sig σ T Answer → η)
    (ok : Running sig σ T Answer × η → Label sig T Request Answer Event → Bool)
    (p q : Running sig σ T Answer × η) : Prop :=
  ∃ es, ((M.system.withHistory start record).restrict fun a l _ => ok a l = true).Run p es q

theorem stepsLogged_run {steps : Nat} {t : T} {choose : sig.Op → Choice}
    (h : M.stepsLogged record ok p t choose steps = some q) : LoggedRun M start record ok p q := by
  induction steps generalizing p with
  | zero =>
    cases h
    exact ⟨[], .nil _⟩
  | succ steps ih =>
    simp only [stepsLogged] at h
    split at h
    · cases h
    · rename_i l mid hadvance
      split at h
      · next hok =>
        obtain ⟨es, hrest⟩ := ih h
        exact ⟨l :: es, .cons ⟨⟨advance_step hadvance, rfl⟩, hok⟩ hrest⟩
      · cases h

theorem movedLogged_run {move : Move sig T Choice Request Event}
    (h : M.movedLogged record ok p move = some q) : LoggedRun M start record ok p q := by
  cases move with
  | start t request =>
    simp only [movedLogged] at h
    split at h
    · rename_i idle
      split at h
      · next hok =>
        cases h
        exact ⟨_, .single ⟨⟨.start t request idle, rfl⟩, hok⟩⟩
      · cases h
    · cases h
  | go t steps choose => exact stepsLogged_run h
  | event e =>
    simp only [movedLogged] at h
    split at h
    · cases h
    · rename_i s' occurred
      split at h
      · next hok =>
        cases h
        exact ⟨_, .single ⟨⟨.event e occurred, rfl⟩, hok⟩⟩
      · cases h

/-- **A logged schedule that goes through is a run with a history.** -/
theorem scheduleLogged_run {moves : List (Move sig T Choice Request Event)}
    (h : M.scheduleLogged record ok p moves = some q) : LoggedRun M start record ok p q := by
  induction moves generalizing p with
  | nil =>
    cases h
    exact ⟨[], .nil _⟩
  | cons move moves ih =>
    simp only [scheduleLogged] at h
    split at h
    · cases h
    · rename_i mid hmove
      obtain ⟨es, hfirst⟩ := movedLogged_run hmove
      obtain ⟨fs, hrest⟩ := ih h
      exact ⟨es ++ fs, hfirst.append hrest⟩

end Logged

end Machine

/-! ## §4. Disciplines: what a thread may do where. -/

/-- A discipline over views `V`: the view a call begins with, the actions a
    view allows, the answers it can meet, the view after an action, and what
    each procedure expects and leaves. -/
structure Discipline (sig : Signature) (V : Type) where
  begins : V → V
  allowed : V → sig.Op → Prop
  possible : V → (o : sig.Op) → sig.Reply o → Prop
  next : V → (o : sig.Op) → sig.Reply o → V
  expects : sig.Proc → V → Prop
  leaves : (p : sig.Proc) → V → sig.Result p → V → Prop

section Conformance

variable {sig : Signature} {V : Type} {α β : Type} (D : Discipline sig V)

/-- The program obeys the discipline from view `v` on, and ends in `Q`. -/
def Conforms : Prog sig α → V → (α → V → Prop) → Prop
  | .ret a, v, Q => Q a v
  | .act o rest, v, Q =>
    D.allowed v o ∧ ∀ r, D.possible v o r → Conforms (rest r) (D.next v o r) Q
  | .call p rest, v, Q =>
    D.expects p v ∧ ∀ a v', D.leaves p v a v' → Conforms (rest a) v' Q

variable {D}

@[simp] theorem conforms_ret {a : α} {v : V} {Q : α → V → Prop} :
    Conforms D (.ret a) v Q ↔ Q a v := Iff.rfl

@[simp] theorem conforms_pure {a : α} {v : V} {Q : α → V → Prop} :
    Conforms D (pure a : Prog sig α) v Q ↔ Q a v := Iff.rfl

@[simp] theorem conforms_op {o : sig.Op} {v : V} {Q : sig.Reply o → V → Prop} :
    Conforms D (Prog.op o) v Q ↔
      D.allowed v o ∧ ∀ r, D.possible v o r → Q r (D.next v o r) := Iff.rfl

@[simp] theorem conforms_enter {p : sig.Proc} {v : V} {Q : sig.Result p → V → Prop} :
    Conforms D (Prog.enter p) v Q ↔
      D.expects p v ∧ ∀ a v', D.leaves p v a v' → Q a v' := Iff.rfl

/-- A weaker end condition. -/
theorem Conforms.mono {p : Prog sig α} {v : V} {Q R : α → V → Prop}
    (h : Conforms D p v Q) (hQ : ∀ a v', Q a v' → R a v') : Conforms D p v R := by
  induction p generalizing v with
  | ret a => exact hQ a v h
  | act o rest ih => exact ⟨h.1, fun r hr => ih r (h.2 r hr)⟩
  | call p rest ih => exact ⟨h.1, fun a v' ha => ih a (h.2 a v' ha)⟩

/-- **Sequential composition**: the first part ends where the second begins. -/
theorem Conforms.bind {p : Prog sig α} {f : α → Prog sig β} {v : V} {Q : β → V → Prop} :
    Conforms D (p.bind f) v Q ↔ Conforms D p v fun a v' => Conforms D (f a) v' Q := by
  induction p generalizing v with
  | ret a => exact Iff.rfl
  | act o rest ih =>
    exact and_congr_right fun _ => forall_congr' fun r => imp_congr_right fun _ => ih r
  | call p rest ih =>
    exact and_congr_right fun _ => forall_congr' fun a => forall_congr' fun v' =>
      imp_congr_right fun _ => ih a

@[simp] theorem conforms_bind {p : Prog sig α} {f : α → Prog sig β} {v : V}
    {Q : β → V → Prop} :
    Conforms D (p >>= f) v Q ↔ Conforms D p v fun a v' => Conforms D (f a) v' Q :=
  Conforms.bind

/-- Run a first part under its own end condition, then the rest. -/
theorem Conforms.seq {p : Prog sig α} {f : α → Prog sig β} {v : V} {R : α → V → Prop}
    {Q : β → V → Prop} (h : Conforms D p v R)
    (hf : ∀ a v', R a v' → Conforms D (f a) v' Q) : Conforms D (p >>= f) v Q :=
  conforms_bind.mpr (h.mono hf)

/-- **Procedures**: a body that meets its specification replaces the call. -/
theorem Conforms.enter {p : sig.Proc} {body : Prog sig (sig.Result p)}
    {rest : sig.Result p → Prog sig α} {v : V} {Q : α → V → Prop}
    (hbody : D.expects p v → Conforms D body v (D.leaves p v))
    (h : Conforms D (.call p rest) v Q) : Conforms D (body.bind rest) v Q :=
  Conforms.bind.mpr ((hbody h.1).mono h.2)

/-! Most of a program does nothing a given discipline cares about. -/

/-- Every action of the program satisfies `A`, and every procedure it enters
    satisfies `B`. -/
def Uses (A : sig.Op → Prop) (B : sig.Proc → Prop) : Prog sig α → Prop
  | .ret _ => True
  | .act o rest => A o ∧ ∀ r, Uses A B (rest r)
  | .call p rest => B p ∧ ∀ a, Uses A B (rest a)

variable {A : sig.Op → Prop} {B : sig.Proc → Prop}

@[simp] theorem uses_ret {a : α} : Uses A B (.ret a : Prog sig α) := trivial

@[simp] theorem uses_pure {a : α} : Uses A B (pure a : Prog sig α) := trivial

@[simp] theorem uses_op {o : sig.Op} : Uses A B (Prog.op o) ↔ A o :=
  ⟨fun h => h.1, fun h => ⟨h, fun _ => trivial⟩⟩

@[simp] theorem uses_enter {p : sig.Proc} : Uses A B (Prog.enter p) ↔ B p :=
  ⟨fun h => h.1, fun h => ⟨h, fun _ => trivial⟩⟩

theorem Uses.bind {p : Prog sig α} {f : α → Prog sig β} (h : Uses A B p)
    (hf : ∀ a, Uses A B (f a)) : Uses A B (p >>= f) := by
  show Uses A B (p.bind f)
  induction p with
  | ret a => exact hf a
  | act o rest ih => exact ⟨h.1, fun r => ih r (h.2 r)⟩
  | call p rest ih => exact ⟨h.1, fun a => ih a (h.2 a)⟩

/-- **Invariant rule of a program**: what every action and procedure of the
    program keeps, the program keeps. -/
theorem Uses.conforms_inv {P : V → Prop} {p : Prog sig α} (h : Uses A B p)
    (hA : ∀ o v, A o → P v → D.allowed v o ∧ ∀ r, D.possible v o r → P (D.next v o r))
    (hB : ∀ q v, B q → P v → D.expects q v ∧ ∀ a v', D.leaves q v a v' → P v') {v : V}
    (hv : P v) : Conforms D p v fun _ v' => P v' := by
  induction p generalizing v with
  | ret a => exact hv
  | act o rest ih =>
    obtain ⟨hallowed, hnext⟩ := hA o v h.1 hv
    exact ⟨hallowed, fun r hr => ih r (h.2 r) (hnext r hr)⟩
  | call q rest ih =>
    obtain ⟨hexpects, hleaves⟩ := hB q v h.1 hv
    exact ⟨hexpects, fun a v' ha => ih a (h.2 a) (hleaves a v' ha)⟩

/-- **Frame rule**: a program of actions and procedures that leave the view
    alone leaves the view alone. -/
theorem Uses.conforms {p : Prog sig α} (h : Uses A B p)
    (hA : ∀ o v, A o → D.allowed v o ∧ ∀ r, D.next v o r = v)
    (hB : ∀ q v, B q → D.expects q v ∧ ∀ a v', D.leaves q v a v' → v' = v) (v : V) :
    Conforms D p v fun _ v' => v' = v := by
  refine h.conforms_inv (P := fun w => w = v) (fun o w ho hw => ?_) (fun q w hq hw => ?_) rfl
  · exact ⟨(hA o w ho).1, fun r _ => ((hA o w ho).2 r).trans hw⟩
  · exact ⟨(hB q w hq).1, fun a w' ha => ((hB q w hq).2 a w' ha).trans hw⟩

end Conformance

/-! ## §5. The views of a run, and its invariant rule. -/

section Views

variable {sig : Signature} {σ T Choice Request Answer Event V : Type} [DecidableEq T]
  {M : Machine sig σ T Choice Request Answer Event} {D : Discipline sig V}

/-- The view of each thread after a label. -/
def Discipline.seen (D : Discipline sig V) (views : T → V) :
    Label sig T Request Answer Event → T → V
  | .start t _ => Function.update views t (D.begins (views t))
  | .act t o r => Function.update views t (D.next (views t) o r)
  | _ => views

/-- The views after a run that started with `views`. -/
def Discipline.views (D : Discipline sig V) (views : T → V)
    (es : List (Label sig T Request Answer Event)) : T → V :=
  es.foldl D.seen views

@[simp] theorem Discipline.views_nil (views : T → V) :
    D.views views ([] : List (Label sig T Request Answer Event)) = views := rfl

@[simp] theorem Discipline.views_snoc (views : T → V)
    (es : List (Label sig T Request Answer Event)) (l : Label sig T Request Answer Event) :
    D.views views (es ++ [l]) = D.seen (D.views views es) l := by
  simp [Discipline.views]

/-- Every thread with a call under way obeys the discipline, and ends it as
    `E` says. -/
def Obeys (D : Discipline sig V) (E : T → Answer → V → Prop) (views : T → V)
    (thread : T → Option (Prog sig Answer)) : Prop :=
  ∀ t p, thread t = some p → Conforms D p (views t) (E t)

/-- One thread moves on, the others keep program and view. -/
theorem Obeys.update {E : T → Answer → V → Prop} {views views' : T → V}
    {thread : T → Option (Prog sig Answer)} (h : Obeys D E views thread) {t : T}
    {p : Option (Prog sig Answer)} (hothers : ∀ u, u ≠ t → views' u = views u)
    (hself : ∀ q, p = some q → Conforms D q (views' t) (E t)) :
    Obeys D E views' (Function.update thread t p) := by
  intro u q hq
  by_cases hu : u = t
  · subst hu
    rw [Function.update_self] at hq
    exact hself q hq
  · rw [Function.update_of_ne hu] at hq
    rw [hothers u hu]
    exact h u q hq

section History

variable {η : Type} {start : η}
  {record : η → Running sig σ T Answer → Label sig T Request Answer Event →
    Running sig σ T Answer → η}

/-- **Invariant rule of a parallel run with a history.**  Bodies meet their
    specifications; where the invariant holds a call starts in a view from which
    its program conforms, and every action a view allows keeps the invariant and
    is answered as the view expects.  Then the invariant holds at the end of
    every run and every thread conforms.  The invariant may speak of the labels
    and the history so far; `G` is a side condition on the steps of the run. -/
theorem Machine.run_conforms_history
    {G : Running sig σ T Answer × η → Label sig T Request Answer Event →
      Running sig σ T Answer × η → Prop}
    {I : List (Label sig T Request Answer Event) → Running sig σ T Answer × η → Prop}
    {E : T → Answer → V → Prop} {views : T → V}
    (hbody : ∀ p v, D.expects p v → Conforms D (M.body p) v (D.leaves p v))
    (hstart : ∀ es m t request m', I es m → G m (.start t request) m' →
      m.1.thread t = none →
      Conforms D (M.handler request) (D.begins (D.views views es t)) (E t))
    (hstep : ∀ es m l m', M.Step m.1 l m'.1 → m'.2 = record m.2 m.1 l m'.1 → G m l m' → I es m →
      Obeys D E (D.views views es) m.1.thread →
      (∀ t o r, l = .act t o r → D.allowed (D.views views es t) o) →
      (∀ t o r, l = .act t o r → D.possible (D.views views es t) o r) ∧ I (es ++ [l]) m')
    {m m' : Running sig σ T Answer × η} {es : List (Label sig T Request Answer Event)}
    (h₀ : I [] m) (hobeys : Obeys D E views m.1.thread)
    (hrun : ((M.system.withHistory start record).restrict G).Run m es m') :
    I es m' ∧ Obeys D E (D.views views es) m'.1.thread := by
  induction hrun with
  | nil => exact ⟨h₀, hobeys⟩
  | @snoc mid m' es l _ last ih =>
    obtain ⟨hI, hO⟩ := ih
    obtain ⟨⟨hlast, hrecord⟩, hG⟩ := last
    obtain ⟨mid, past⟩ := mid
    obtain ⟨m', past'⟩ := m'
    dsimp only at hlast hrecord hO
    have hallowed : ∀ t o r, l = .act t o r → D.allowed (D.views views es t) o := by
      intro t o r hl
      cases hlast <;> cases hl
      rename_i rest' s' c next performed
      exact (hO t _ next).1
    obtain ⟨hpossible, hI'⟩ := hstep es (mid, past) l (m', past') hlast hrecord hG hI hO
      hallowed
    refine ⟨hI', ?_⟩
    rw [Discipline.views_snoc]
    cases hlast with
    | start t request idle =>
      refine hO.update (fun u hu => ?_) fun q hq => ?_
      · simp only [Discipline.seen, Function.update_of_ne hu]
      · cases hq
        simp only [Discipline.seen, Function.update_self]
        exact hstart es (mid, past) t request (_, past') hI hG idle
    | act c next performed =>
      rename_i t o rest' r s'
      refine hO.update (fun u hu => ?_) fun q hq => ?_
      · simp only [Discipline.seen, Function.update_of_ne hu]
      · cases hq
        simp only [Discipline.seen, Function.update_self]
        exact (hO t _ next).2 r (hpossible t o r rfl)
    | enter next =>
      refine hO.update (fun _ _ => rfl) fun q hq => ?_
      cases hq
      exact (hO _ _ next).enter (hbody _ _)
    | finish next =>
      refine hO.update (fun _ _ => rfl) fun q hq => ?_
      cases hq
    | event e occurred => exact hO

end History

/-- **Invariant rule of a parallel run**: the rule without a history. -/
theorem Machine.run_conforms
    {G : Running sig σ T Answer → Label sig T Request Answer Event →
      Running sig σ T Answer → Prop}
    {I : List (Label sig T Request Answer Event) → Running sig σ T Answer → Prop}
    {E : T → Answer → V → Prop} {views : T → V}
    (hbody : ∀ p v, D.expects p v → Conforms D (M.body p) v (D.leaves p v))
    (hstart : ∀ es m t request m', I es m → G m (.start t request) m' →
      m.thread t = none →
      Conforms D (M.handler request) (D.begins (D.views views es t)) (E t))
    (hstep : ∀ es m l m', M.Step m l m' → G m l m' → I es m →
      Obeys D E (D.views views es) m.thread →
      (∀ t o r, l = .act t o r → D.allowed (D.views views es t) o) →
      (∀ t o r, l = .act t o r → D.possible (D.views views es t) o r) ∧ I (es ++ [l]) m')
    {m m' : Running sig σ T Answer} {es : List (Label sig T Request Answer Event)}
    (h₀ : I [] m) (hobeys : Obeys D E views m.thread)
    (hrun : (M.system.restrict G).Run m es m') :
    I es m' ∧ Obeys D E (D.views views es) m'.thread := by
  have hpast : ((M.system.withHistory () fun _ _ _ _ => ()).restrict
      fun p l q => G p.1 l q.1).Run (m, ()) es (m', ()) := by
    clear h₀ hobeys
    induction hrun with
    | nil => exact .nil _
    | snoc _ last ih => exact ih.snoc ⟨⟨last.1, rfl⟩, last.2⟩
  exact Machine.run_conforms_history (I := fun es p => I es p.1)
    (G := fun p l q => G p.1 l q.1) hbody
    (fun es p t request q => hstart es p.1 t request q.1)
    (fun es p l q hlast _ => hstep es p.1 l q.1 hlast) h₀ hobeys hpast

end Views

end OpenArm.Lib
