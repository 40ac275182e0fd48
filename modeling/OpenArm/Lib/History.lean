/-
  OpenArm.Lib.History — what has happened so far.

  A run leaves a list of labels.  `SinceAt hold start es i` says that label
  `i` is a `start` and that every label after it is a `hold`: the past-time
  operator "hold since start", with the position of the start.  What a state
  remembers of a run is such a fact, and it is maintained label by label.

  Main results:
    * `SinceAt.snoc`, `SinceAt.now` — the two ways to maintain it.
    * `SinceAt.ends`  — the first label that does not hold determines how far
      a history reaches.
-/
import Mathlib

namespace OpenArm.Lib

variable {L : Type} {hold start : L → Prop} {es : List L} {l : L} {i j k : Nat}

/-- Label `i` starts, and every later label holds. -/
def SinceAt (hold start : L → Prop) (es : List L) (i : Nat) : Prop :=
  (∃ l, es[i]? = some l ∧ start l) ∧ ∀ j l, i < j → es[j]? = some l → hold l

/-- One more label, read at some position. -/
theorem getElem?_snoc {l' : L} (h : (es ++ [l])[k]? = some l') :
    es[k]? = some l' ∨ (k = es.length ∧ l' = l) := by
  by_cases hk : k < es.length
  · rw [List.getElem?_append_left hk] at h
    exact .inl h
  · have hlt := (List.getElem?_eq_some_iff.mp h).1
    rw [List.length_append, List.length_singleton] at hlt
    have hlast : k = es.length := by omega
    subst hlast
    rw [List.getElem?_concat_length] at h
    exact .inr ⟨rfl, (Option.some.inj h).symm⟩

/-- A label of a history stays where it is. -/
theorem getElem?_left {l' : L} (h : es[k]? = some l') (fs : List L) :
    (es ++ fs)[k]? = some l' := by
  rw [List.getElem?_append_left (List.getElem?_eq_some_iff.mp h).1]
  exact h

/-- **The history goes on** with a label that holds. -/
theorem SinceAt.snoc (h : SinceAt hold start es i) (hl : hold l) :
    SinceAt hold start (es ++ [l]) i := by
  obtain ⟨⟨first, hfirst, hstart⟩, hrest⟩ := h
  refine ⟨⟨first, getElem?_left hfirst _, hstart⟩, fun j l' hij hj => ?_⟩
  rcases getElem?_snoc hj with hj | ⟨-, rfl⟩
  · exact hrest j l' hij hj
  · exact hl

/-- **A history begins** with its newest label. -/
theorem SinceAt.now (hl : start l) : SinceAt hold start (es ++ [l]) es.length := by
  refine ⟨⟨l, List.getElem?_concat_length, hl⟩, fun j l' hij hj => ?_⟩
  have hlt := (List.getElem?_eq_some_iff.mp hj).1
  rw [List.length_append, List.length_singleton] at hlt
  omega

/-- The start lies in the history. -/
theorem SinceAt.lt (h : SinceAt hold start es i) : i < es.length := by
  obtain ⟨⟨l, hl, -⟩, -⟩ := h
  exact (List.getElem?_eq_some_iff.mp hl).1

/-- Where a history of the first `k` labels starts. -/
theorem SinceAt.begins (h : SinceAt hold start (es.take k) i) :
    ∃ l, es[i]? = some l ∧ start l ∧ i < k := by
  obtain ⟨⟨l, hl, hstart⟩, -⟩ := h
  rw [List.getElem?_take] at hl
  split at hl
  · rename_i hik
    exact ⟨l, hl, hstart, hik⟩
  · cases hl

/-- A label that does not hold lies outside. -/
theorem SinceAt.ends (h : SinceAt hold start (es.take k) i) (hl : es[j]? = some l)
    (hij : i < j) (hnot : ¬ hold l) : k ≤ j := by
  by_contra hlt
  refine hnot (h.2 j l hij ?_)
  rw [List.getElem?_take, if_pos (Nat.lt_of_not_le hlt)]
  exact hl

end OpenArm.Lib
