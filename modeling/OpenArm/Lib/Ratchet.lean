/-
  OpenArm.Lib.Ratchet — guards that compare a sample with the one before it.

  A guard lets a sample pass when it is at least a floor, or when it is not
  worse than the previous sample by more than a slack.  One step loses at
  most the slack, but the guard forgets where it started, so the losses add
  up: a run that passes may come down as far as it likes.  A run that only
  loses from the level `low` or above loses the slack once.

  Main results:
    * `Guard.run_steady` — the bound for such runs.
-/
import OpenArm.Lib.Transition

namespace OpenArm.Lib

/-- A floor, and what a sample may be at least after a given one. -/
structure Guard (F : Type) where
  le : F → F → Prop
  floor : F
  slack : F → F

namespace Guard

variable {F : Type} (g : Guard F)

/-- A sample passes after the one before it. -/
def Passes (previous sample : F) : Prop := g.le g.floor sample ∨ g.le (g.slack previous) sample

/-- Below the floor a sample does not lose anything, unless the one before it
    was at `low` or above. -/
def Steady (low previous sample : F) : Prop :=
  g.le g.floor sample ∨ g.le previous sample ∨ g.le low previous

/-- The guard: its state is the last sample. -/
def system : Lts F F where
  init _ := True
  step previous sample next := g.Passes previous sample ∧ next = sample

/-- What the bound rests on. -/
structure Lawful : Prop where
  trans {a b c : F} : g.le a b → g.le b c → g.le a c
  self {a b : F} : g.le a b → g.le a a
  slack_mono {a b : F} : g.le a b → g.le (g.slack a) (g.slack b)
  slack_le {a : F} : g.le a a → g.le (g.slack a) a

variable {g} {low start last : F} {samples : List F}

/-- What a run has come to: every sample is at the floor, or has lost at most
    the slack from `low`. -/
def Above (g : Guard F) (low sample : F) : Prop := g.le g.floor sample ∨ g.le (g.slack low) sample

/-- **One step.** -/
theorem above_step (h : g.Lawful) (hlow : g.le low g.floor) {previous sample : F}
    (hprevious : Above g low previous) (hpass : g.Passes previous sample)
    (hsteady : g.Steady low previous sample) : Above g low sample := by
  have hslack : g.le (g.slack low) low := h.slack_le (h.self hlow)
  rcases hsteady with hfloor | hkept | hhigh
  · exact .inl hfloor
  · rcases hprevious with hfloor | hbound
    · exact .inl (h.trans hfloor hkept)
    · exact .inr (h.trans hbound hkept)
  · rcases hpass with hfloor | htolerated
    · exact .inl hfloor
    · exact .inr (h.trans (h.slack_mono hhigh) htolerated)

/-- **The slack is lost once**, in a run whose steps are all steady. -/
theorem run_steady (h : g.Lawful) (hlow : g.le low g.floor) (hstart : g.le low start)
    (hrun : (g.system.restrict fun previous sample _ => g.Steady low previous sample).Run
      start samples last) :
    (∀ sample ∈ samples, Above g low sample) ∧ Above g low last := by
  induction hrun with
  | nil =>
    refine ⟨fun _ hmem => (List.not_mem_nil hmem).elim, .inr ?_⟩
    exact h.trans (h.slack_le (h.self hstart)) hstart
  | snoc _ step ih =>
    obtain ⟨hbefore, hprevious⟩ := ih
    obtain ⟨⟨hpass, rfl⟩, hsteady⟩ := step
    have hnext := above_step h hlow hprevious hpass hsteady
    refine ⟨fun x hx => ?_, hnext⟩
    rcases List.mem_append.mp hx with hx | hx
    · exact hbefore x hx
    · obtain rfl := List.mem_singleton.mp hx
      exact hnext

end Guard

end OpenArm.Lib
