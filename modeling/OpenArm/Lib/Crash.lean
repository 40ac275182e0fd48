/-
  OpenArm.Lib.Crash — programs over a store that may fail, and that may die.

  A `Store` says what each action may answer and what it leaves behind; a
  program that runs on it returns, or it dies between two actions and leaves
  the store as it is.  `Spec` is the condition under which every execution
  returns what is wanted and every state a death can leave is acceptable.

  Main results:
    * `Spec.bind`    — the rule of sequential composition.
    * `Spec.returns` — what an execution returns.
-/
import OpenArm.Lib.Program

namespace OpenArm.Lib

variable {sig : Signature} {σ α β : Type}

/-- `store s o r s'`: performing `o` on `s` may answer `r` and leave `s'`. -/
abbrev Store (sig : Signature) (σ : Type) := σ → (o : sig.Op) → sig.Reply o → σ → Prop

/-- The store that answers anything. -/
def anyReply (sig : Signature) : Store sig Unit := fun _ _ _ _ => True

/-! ## §1. Executions. -/

/-- An execution of a program: it returns a value, or it dies (`none`). -/
inductive Exec (store : Store sig σ) : Prog sig α → σ → Option α → σ → Prop where
  | died (p : Prog sig α) (s : σ) : Exec store p s none s
  | ret (a : α) (s : σ) : Exec store (.ret a) s (some a) s
  | act {o : sig.Op} {rest : sig.Reply o → Prog sig α} {s s' s'' : σ} {r : sig.Reply o}
      {out : Option α} (answered : store s o r s') (further : Exec store (rest r) s' out s'') :
      Exec store (.act o rest) s out s''

/-- An execution of a sequential composition. -/
theorem Exec.bind {store : Store sig σ} {p : Prog sig α} {f : α → Prog sig β} {s s' s'' : σ}
    {a : α} {out : Option β} (h : Exec store p s (some a) s')
    (hf : Exec store (f a) s' out s'') : Exec store (p.bind f) s out s'' := by
  generalize hreturned : some a = returned at h
  induction h with
  | died p s => exact absurd hreturned (by simp)
  | ret b s =>
    cases hreturned
    exact hf
  | act answered _ ih => exact .act answered (ih hf hreturned)

/-! ## §2. Specifications. -/

/-- Every execution of `p` from `s` that returns meets `Q`, and every action
    leaves a state in `I`.  Procedures have no meaning here. -/
def Spec (store : Store sig σ) (I : σ → Prop) : Prog sig α → (α → σ → Prop) → σ → Prop
  | .ret a, Q, s => Q a s
  | .act o rest, Q, s => ∀ r s', store s o r s' → I s' ∧ Spec store I (rest r) Q s'
  | .call _ _, _, _ => False

variable {store : Store sig σ} {I : σ → Prop}

@[simp] theorem spec_ret (a : α) (Q : α → σ → Prop) (s : σ) :
    Spec store I (.ret a) Q s ↔ Q a s := Iff.rfl

/-- A weaker postcondition is easier to meet. -/
theorem Spec.mono {p : Prog sig α} {Q R : α → σ → Prop} {s : σ} (h : Spec store I p Q s)
    (hQR : ∀ a s', Q a s' → R a s') : Spec store I p R s := by
  induction p generalizing s with
  | ret a => exact hQR a s h
  | act o rest ih =>
    intro r s' hr
    obtain ⟨hI, hrest⟩ := h r s' hr
    exact ⟨hI, ih r hrest⟩
  | call p rest ih => exact h.elim

/-- **The rule of sequential composition.** -/
theorem Spec.bind {p : Prog sig α} {f : α → Prog sig β} {Q : α → σ → Prop}
    {R : β → σ → Prop} {s : σ} (h : Spec store I p Q s)
    (hf : ∀ a s', Q a s' → Spec store I (f a) R s') : Spec store I (p.bind f) R s := by
  induction p generalizing s with
  | ret a => exact hf a s h
  | act o rest ih =>
    intro r s' hr
    obtain ⟨hI, hrest⟩ := h r s' hr
    exact ⟨hI, ih r hrest⟩
  | call p rest ih => exact h.elim

/-- **What an execution returns.** -/
theorem Spec.returns {p : Prog sig α} {Q : α → σ → Prop} {s s' : σ} {a : α}
    (h : Spec store I p Q s) (hexec : Exec store p s (some a) s') : Q a s' := by
  generalize hout : some a = out at hexec
  induction hexec with
  | died p s => exact absurd hout (by simp)
  | ret b s =>
    cases hout
    exact h
  | act answered _ ih => exact ih (h _ _ answered).2 hout

end OpenArm.Lib
