/-
  OpenArm.Lib.Transition — labelled transition systems and their runs.

  A run is the list of labels it performs together with its end points;
  it grows at the END, so that an induction on a run peels its LAST step.
  A label carries what the environment chose and what the system answered.

  Main results:
    * `Lts.Run.invariant`       — initial ∧ preserved ⇒ holds at the end.
    * `Lts.Run.invariant_under` — the same where every step also meets a
      side condition (`Lts.restrict`).
    * `Lts.Run.append` / `Lts.Run.split` — runs compose and decompose.
    * `Lts.Run.with_history` — a history variable constrains no run.
-/
import Mathlib

namespace OpenArm.Lib

universe u v

/-- A labelled transition system: initial states and a step relation. -/
structure Lts (σ : Type u) (ε : Type v) where
  init : σ → Prop
  step : σ → ε → σ → Prop

namespace Lts

variable {σ : Type u} {ε : Type v} {T : Lts σ ε}

/-! ## §1. Runs. -/

/-- `T.Run s es s'`: performing the labels `es` in order leads from `s`
    to `s'`. -/
inductive Run (T : Lts σ ε) : σ → List ε → σ → Prop where
  | nil (s : σ) : Run T s [] s
  | snoc {s m s' : σ} {es : List ε} {e : ε}
      (front : Run T s es m) (last : T.step m e s') : Run T s (es ++ [e]) s'

/-- `s` ends some run from an initial state. -/
def Reachable (T : Lts σ ε) (s : σ) : Prop :=
  ∃ s₀ es, T.init s₀ ∧ T.Run s₀ es s

theorem Run.single {s s' : σ} {e : ε} (h : T.step s e s') : T.Run s [e] s' :=
  Run.snoc (Run.nil s) h

theorem Run.append {s m s' : σ} {es fs : List ε}
    (h : T.Run s es m) (k : T.Run m fs s') : T.Run s (es ++ fs) s' := by
  induction k with
  | nil => simpa using h
  | snoc _ last ih =>
    rw [← List.append_assoc]
    exact ih.snoc last

theorem Run.cons {s m s' : σ} {e : ε} {es : List ε}
    (h : T.step s e m) (k : T.Run m es s') : T.Run s (e :: es) s' :=
  (Run.single h).append k

theorem Run.nil_inv {s s' : σ} (h : T.Run s [] s') : s' = s := by
  generalize hes : ([] : List ε) = es at h
  cases h with
  | nil => rfl
  | snoc _ _ => simp at hes

/-- The last step of a non-empty run. -/
theorem Run.snoc_inv {s s' : σ} {es : List ε} {e : ε} (h : T.Run s (es ++ [e]) s') :
    ∃ m, T.Run s es m ∧ T.step m e s' := by
  generalize hfs : es ++ [e] = fs at h
  cases h with
  | nil => simp at hfs
  | snoc front last =>
    obtain ⟨rfl, hlast⟩ := List.append_inj' hfs rfl
    obtain rfl : e = _ := by simpa using hlast
    exact ⟨_, front, last⟩

/-- A run over a concatenation stops at an intermediate state. -/
theorem Run.split {s s' : σ} {es fs : List ε} (h : T.Run s (es ++ fs) s') :
    ∃ m, T.Run s es m ∧ T.Run m fs s' := by
  induction fs using List.reverseRecOn generalizing s' with
  | nil => exact ⟨s', by simpa using h, Run.nil s'⟩
  | append_singleton fs e ih =>
    rw [← List.append_assoc] at h
    obtain ⟨m, hfront, hlast⟩ := h.snoc_inv
    obtain ⟨k, hk, hkm⟩ := ih hfront
    exact ⟨k, hk, hkm.snoc hlast⟩

/-- A label of a run is that of a step on the way. -/
theorem Run.step_of_mem {s s' : σ} {es : List ε} {e : ε} (h : T.Run s es s') (he : e ∈ es) :
    ∃ a b, T.step a e b := by
  obtain ⟨before, after, rfl⟩ := List.append_of_mem he
  have hsplit : T.Run s ((before ++ [e]) ++ after) s' := by simpa using h
  obtain ⟨b, hfront, -⟩ := hsplit.split
  obtain ⟨a, -, hstep⟩ := hfront.snoc_inv
  exact ⟨a, b, hstep⟩

/-- A system with more steps has more runs. -/
theorem Run.mono {T' : Lts σ ε} {s s' : σ} {es : List ε} (h : T.Run s es s')
    (hstep : ∀ a e b, T.step a e b → T'.step a e b) : T'.Run s es s' := by
  induction h with
  | nil => exact Run.nil _
  | snoc _ last ih => exact ih.snoc (hstep _ _ _ last)

theorem Reachable.of_init {s : σ} (h : T.init s) : T.Reachable s :=
  ⟨s, [], h, Run.nil s⟩

theorem Reachable.run {s s' : σ} {es : List ε}
    (h : T.Reachable s) (k : T.Run s es s') : T.Reachable s' := by
  obtain ⟨s₀, fs, h₀, hfs⟩ := h
  exact ⟨s₀, fs ++ es, h₀, hfs.append k⟩

/-! ## §2. The invariant rule. -/

/-- **Invariant rule**: what holds at the start of a run and is preserved
    by every step holds at its end. -/
theorem Run.invariant {I : σ → Prop} {s s' : σ} {es : List ε} (h : T.Run s es s')
    (h₀ : I s) (hstep : ∀ a e b, T.step a e b → I a → I b) : I s' := by
  induction h with
  | nil => exact h₀
  | snoc _ last ih => exact hstep _ _ _ last ih

theorem Reachable.invariant {I : σ → Prop} {s : σ} (h : T.Reachable s)
    (h₀ : ∀ a, T.init a → I a) (hstep : ∀ a e b, T.step a e b → I a → I b) : I s := by
  obtain ⟨s₀, es, hinit, hrun⟩ := h
  exact hrun.invariant (h₀ s₀ hinit) hstep

/-! ## §3. Runs whose steps all meet a condition. -/

/-- The sub-system of the steps that meet `G`. -/
def restrict (T : Lts σ ε) (G : σ → ε → σ → Prop) : Lts σ ε where
  init := T.init
  step a e b := T.step a e b ∧ G a e b

/-- The sub-system of the steps that start and end in `P`. -/
def within (T : Lts σ ε) (P : σ → Prop) : Lts σ ε :=
  T.restrict fun a _ b => P a ∧ P b

theorem Run.of_restrict {G : σ → ε → σ → Prop} {s s' : σ} {es : List ε}
    (h : (T.restrict G).Run s es s') : T.Run s es s' :=
  h.mono fun _ _ _ hstep => hstep.1

theorem Reachable.of_restrict {G : σ → ε → σ → Prop} {s : σ}
    (h : (T.restrict G).Reachable s) : T.Reachable s := by
  obtain ⟨s₀, es, h₀, hrun⟩ := h
  exact ⟨s₀, es, h₀, hrun.of_restrict⟩

/-- The invariant rule where preservation may use the side condition. -/
theorem Run.invariant_under {G : σ → ε → σ → Prop} {I : σ → Prop} {s s' : σ} {es : List ε}
    (h : (T.restrict G).Run s es s') (h₀ : I s)
    (hstep : ∀ a e b, T.step a e b → G a e b → I a → I b) : I s' :=
  h.invariant h₀ fun a e b hab => hstep a e b hab.1 hab.2

/-! ## §4. History variables. -/

section History

variable {η : Type*}

/-- The system with a history variable: every step records what it did, and
    no step depends on the record. -/
def withHistory (T : Lts σ ε) (start : η) (record : η → σ → ε → σ → η) :
    Lts (σ × η) ε where
  init p := T.init p.1 ∧ p.2 = start
  step p e q := T.step p.1 e q.1 ∧ q.2 = record p.2 p.1 e q.1

variable {start : η} {record : η → σ → ε → σ → η}

/-- A history variable forgets to a run of the system. -/
theorem Run.of_history {p q : σ × η} {es : List ε}
    (h : (T.withHistory start record).Run p es q) : T.Run p.1 es q.1 := by
  induction h with
  | nil => exact Run.nil _
  | snoc _ last ih => exact ih.snoc last.1

/-- Every run has a history. -/
theorem Run.with_history {s s' : σ} {es : List ε} (h : T.Run s es s') (past : η) :
    ∃ past', (T.withHistory start record).Run (s, past) es (s', past') := by
  induction h with
  | nil => exact ⟨past, Run.nil _⟩
  | @snoc m _ _ e _ last ih =>
    obtain ⟨mid, hmid⟩ := ih
    exact ⟨record mid m e _, hmid.snoc ⟨last, rfl⟩⟩

end History

end Lts

end OpenArm.Lib
