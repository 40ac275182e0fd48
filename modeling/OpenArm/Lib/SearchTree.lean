/-
  OpenArm.Lib.SearchTree — the tree a search grows, and the way back.

  A search keeps what it discovered as a list of numbered nodes, newest
  first; a node names the one it was reached from, which was discovered
  before it.  Following these names from a node leads back to a root, and
  the nodes on the way, in order, form a path of links without repetition.

  Main result:
    * `Grown.path` — the way back from any discovered node.
-/
import Mathlib

namespace OpenArm.Lib

variable {ι ν : Type} [DecidableEq ι]

/-- The nodes from a root to `cursor`, for at most this many steps. -/
def pathTo (predecessor : ν → Option ι) (find : ι → Option ν) :
    Nat → Option ι → List (ι × ν)
  | 0, _ => []
  | _ + 1, none => []
  | steps + 1, some index =>
    match find index with
    | none => []
    | some node => pathTo predecessor find steps (predecessor node) ++ [(index, node)]

/-- `link parent index node`: the node was reached from its parent, `none` for
    the place the search started from. -/
abbrev Link (ι ν : Type) := Option (ι × ν) → ι → ν → Prop

/-- A list of discovered nodes, newest first. -/
inductive Grown (predecessor : ν → Option ι) (link : Link ι ν) : List (ι × ν) → Prop where
  | nil : Grown predecessor link []
  | root {nodes : List (ι × ν)} {index : ι} {node : ν} (before : Grown predecessor link nodes)
      (fresh : nodes.lookup index = none) (origin : predecessor node = none)
      (reached : link none index node) : Grown predecessor link ((index, node) :: nodes)
  | under {nodes : List (ι × ν)} {index parent : ι} {node above : ν}
      (before : Grown predecessor link nodes) (fresh : nodes.lookup index = none)
      (origin : predecessor node = some parent) (found : nodes.lookup parent = some above)
      (reached : link (some (parent, above)) index node) :
      Grown predecessor link ((index, node) :: nodes)

/-- Every entry of a list was reached from the one before it. -/
def Linked (link : Link ι ν) : Option (ι × ν) → List (ι × ν) → Prop
  | _, [] => True
  | parent, entry :: rest => link parent entry.1 entry.2 ∧ Linked link (some entry) rest

variable {predecessor : ν → Option ι} {link : Link ι ν} {find : ι → Option ν}
  {nodes : List (ι × ν)}

omit [DecidableEq ι] in
theorem Linked.snoc {parent : Option (ι × ν)} {path : List (ι × ν)} {index : ι} {node : ν}
    (h : Linked link parent path)
    (last : link (path.getLast?.or parent) index node) :
    Linked link parent (path ++ [(index, node)]) := by
  induction path generalizing parent with
  | nil => exact ⟨last, trivial⟩
  | cons entry rest ih =>
    refine ⟨h.1, ih h.2 ?_⟩
    cases rest with
    | nil => exact last
    | cons next rest =>
      rw [List.getLast?_cons_cons] at last
      cases hlast : (next :: rest).getLast? with
      | none => simp at hlast
      | some found =>
        rw [hlast] at last
        exact last

omit [DecidableEq ι] in
/-- Every entry of a linked list was reached from somewhere. -/
theorem Linked.mem {parent : Option (ι × ν)} {path : List (ι × ν)} (h : Linked link parent path)
    {entry : ι × ν} (hmem : entry ∈ path) : ∃ before, link before entry.1 entry.2 := by
  induction path generalizing parent with
  | nil => exact (List.not_mem_nil hmem).elim
  | cons head rest ih =>
    rcases List.mem_cons.mp hmem with rfl | hlater
    · exact ⟨parent, h.1⟩
    · exact ih h.2 hlater

theorem lookup_cons_ne {index j : ι} (node : ν) (hne : j ≠ index) :
    ((index, node) :: nodes).lookup j = nodes.lookup j := by
  simp [List.lookup_cons, beq_false_of_ne hne]

/-- What was discovered before has another number. -/
theorem lookup_fresh {index j : ι} {node found : ν} (fresh : nodes.lookup index = none)
    (h : nodes.lookup j = some found) : ((index, node) :: nodes).lookup j = some found := by
  have hne : j ≠ index := by
    intro heq
    rw [heq, fresh] at h
    cases h
  rw [lookup_cons_ne node hne]
  exact h

/-- **The way back** from a discovered node is a path of links that ends at the
    node and passes every node at most once. -/
theorem Grown.path (h : Grown predecessor link nodes)
    (hfind : ∀ j found, nodes.lookup j = some found → find j = some found)
    {index : ι} {node : ν} (hnode : nodes.lookup index = some node) {steps : Nat}
    (hsteps : nodes.length ≤ steps) :
    Linked link none (pathTo predecessor find steps (some index)) ∧
      (pathTo predecessor find steps (some index)).getLast? = some (index, node) ∧
        ((pathTo predecessor find steps (some index)).map Prod.fst).Nodup ∧
          ∀ entry ∈ pathTo predecessor find steps (some index), entry ∈ nodes := by
  induction h generalizing index node steps with
  | nil => cases hnode
  | @root nodes newest added before fresh origin reached ih =>
    have hbefore : ∀ j found, nodes.lookup j = some found → find j = some found :=
      fun j found hj => hfind j found (lookup_fresh fresh hj)
    by_cases hnew : index = newest
    · obtain rfl := hnew
      obtain rfl : added = node := by simpa using hnode
      obtain ⟨steps, rfl⟩ : ∃ n, steps = n + 1 := ⟨steps - 1, by simp at hsteps; omega⟩
      have hself : pathTo predecessor find (steps + 1) (some index) = [(index, added)] := by
        simp only [pathTo, hfind index added hnode, origin]
        cases steps <;> rfl
      rw [hself]
      exact ⟨⟨reached, trivial⟩, rfl, by simp, by simp⟩
    · have hold : nodes.lookup index = some node := by
        rwa [lookup_cons_ne added hnew] at hnode
      obtain ⟨hlinked, hlast, hnodup, hmem⟩ := ih hbefore hold
        (Nat.le_trans (Nat.le_succ _) hsteps)
      exact ⟨hlinked, hlast, hnodup, fun e he => List.mem_cons_of_mem _ (hmem e he)⟩
  | @under nodes newest parent added above before fresh origin found reached ih =>
    have hbefore : ∀ j found, nodes.lookup j = some found → find j = some found :=
      fun j found hj => hfind j found (lookup_fresh fresh hj)
    by_cases hnew : index = newest
    · obtain rfl := hnew
      obtain rfl : added = node := by simpa using hnode
      obtain ⟨steps, rfl⟩ : ∃ n, steps = n + 1 := ⟨steps - 1, by simp at hsteps; omega⟩
      have hlength : nodes.length ≤ steps := by simpa using hsteps
      obtain ⟨hlinked, hlast, hnodup, hmem⟩ := ih hbefore found hlength
      have hself : pathTo predecessor find (steps + 1) (some index) =
          pathTo predecessor find steps (some parent) ++ [(index, added)] := by
        simp only [pathTo, hfind index added hnode, origin]
      rw [hself]
      refine ⟨hlinked.snoc (by rw [hlast]; exact reached), by simp, ?_, ?_⟩
      · rw [List.map_append, List.nodup_append]
        refine ⟨hnodup, by simp, ?_⟩
        intro a ha b hb
        obtain ⟨entry, hentry, rfl⟩ := List.mem_map.mp ha
        obtain rfl : b = index := by simpa using hb
        -- an entry of the old list does not have the fresh number
        intro heq
        have hnone := List.lookup_eq_none_iff.mp fresh entry (hmem entry hentry)
        simp [heq] at hnone
      · intro entry hentry
        rcases List.mem_append.mp hentry with hentry | hentry
        · exact List.mem_cons_of_mem _ (hmem entry hentry)
        · rw [List.mem_singleton.mp hentry]
          exact List.mem_cons_self
    · have hold : nodes.lookup index = some node := by
        rwa [lookup_cons_ne added hnew] at hnode
      obtain ⟨hlinked, hlast, hnodup, hmem⟩ := ih hbefore hold
        (Nat.le_trans (Nat.le_succ _) hsteps)
      exact ⟨hlinked, hlast, hnodup, fun e he => List.mem_cons_of_mem _ (hmem e he)⟩

/-- Every discovered node was reached from somewhere, and no number is used
    twice. -/
theorem Grown.keys (h : Grown predecessor link nodes) :
    (nodes.map Prod.fst).Nodup ∧ ∀ entry ∈ nodes, ∃ parent, link parent entry.1 entry.2 := by
  have hnew : ∀ {rest : List (ι × ν)} {index : ι}, rest.lookup index = none →
      index ∉ rest.map Prod.fst := by
    intro rest index fresh hmem
    obtain ⟨entry, hentry, rfl⟩ := List.mem_map.mp hmem
    have hnone := List.lookup_eq_none_iff.mp fresh entry hentry
    simp at hnone
  induction h with
  | nil => exact ⟨List.nodup_nil, fun _ h => (List.not_mem_nil h).elim⟩
  | root before fresh origin reached ih =>
    refine ⟨List.nodup_cons.mpr ⟨hnew fresh, ih.1⟩, fun entry hentry => ?_⟩
    rcases List.mem_cons.mp hentry with rfl | hold
    · exact ⟨none, reached⟩
    · exact ih.2 entry hold
  | under before fresh origin found reached ih =>
    refine ⟨List.nodup_cons.mpr ⟨hnew fresh, ih.1⟩, fun entry hentry => ?_⟩
    rcases List.mem_cons.mp hentry with rfl | hold
    · exact ⟨_, reached⟩
    · exact ih.2 entry hold

end OpenArm.Lib
