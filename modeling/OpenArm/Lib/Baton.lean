/-
  OpenArm.Lib.Baton — one activity at a time, marked by a flag.

  A flag says that an activity is under way.  The activity changes hands: a
  thread hands it to a timer, a timer to a callback, a callback to another
  thread.  What holds it at the moment is not written down anywhere; it is
  what WOULD go on with it.

  Main result:
    * `Baton` — at most one holder, and the flag is set while there is one;
      with a rule for each way the baton can move.
-/
import Mathlib

namespace OpenArm.Lib

universe u

variable {H : Type u}

/-- **The baton**: at most one holder, and the flag is set while there is one. -/
structure Baton (holds : H → Prop) (busy : Bool) : Prop where
  one : ∀ a b, holds a → holds b → a = b
  flagged : ∀ a, holds a → busy = true

namespace Baton

variable {holds holds' : H → Prop} {busy busy' : Bool}

/-- Nobody holds it. -/
theorem free (h : ∀ a, ¬ holds a) : Baton holds busy :=
  ⟨fun a _ ha => absurd ha (h a), fun a ha => absurd ha (h a)⟩

/-- While the flag is down nobody holds it. -/
theorem idle (h : Baton holds busy) (hbusy : busy = false) (a : H) : ¬ holds a := fun ha => by
  rw [h.flagged a ha] at hbusy
  cases hbusy

/-- The holders stay what they are, or some disappear. -/
theorem keep (h : Baton holds busy) (hless : ∀ a, holds' a → holds a) (hbusy : busy' = busy) :
    Baton holds' busy' := by
  refine ⟨fun a b ha hb => h.one a b (hless a ha) (hless b hb), fun a ha => ?_⟩
  rw [hbusy]
  exact h.flagged a (hless a ha)

/-- The holder hands it on: nobody else but the new holder appears. -/
theorem pass (h : Baton holds busy) {old new : H} (hold : holds old)
    (hother : ∀ a, holds' a → a = new ∨ (a ≠ old ∧ holds a)) (hbusy : busy' = true) :
    Baton holds' busy' := by
  have hnew : ∀ a, holds' a → a = new := by
    intro a ha
    rcases hother a ha with hsame | ⟨hne, hheld⟩
    · exact hsame
    · exact absurd (h.one a old hheld hold) hne
  exact ⟨fun a b ha hb => (hnew a ha).trans (hnew b hb).symm, fun _ _ => hbusy⟩

/-- The holder lets it go; what becomes of the flag does not matter. -/
theorem drop (h : Baton holds busy) {old : H} (hold : holds old)
    (hother : ∀ a, holds' a → a ≠ old ∧ holds a) : Baton holds' busy' :=
  free fun a ha => (hother a ha).1 (h.one a old (hother a ha).2 hold)

/-- While the flag is down somebody may take it. -/
theorem take (h : Baton holds busy) (hidle : busy = false) (new : H)
    (hother : ∀ a, holds' a → a = new ∨ holds a) (hbusy : busy' = true) : Baton holds' busy' := by
  have hnew : ∀ a, holds' a → a = new := fun a ha =>
    (hother a ha).resolve_right (h.idle hidle a)
  exact ⟨fun a b ha hb => (hnew a ha).trans (hnew b hb).symm, fun _ _ => hbusy⟩

end Baton

end OpenArm.Lib
