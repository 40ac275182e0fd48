/-
  OpenArm.Lib.Ring — a bounded FIFO over a circular array.

  The occupied slots are the `count` slots from `head` on, wrapping at the
  capacity.  The bounds on `head` and `count` are fields, so a ring that
  indexes outside its array cannot be built.

  Main results:
    * `Ring.toList_push` — a push on a ring with room appends.
    * `Ring.toList_pop`  — a pop removes the head of the FIFO.
    * `Ring.toList_pushEvicting` — a push on a full ring loses exactly the
      oldest element.
    * `Ring.received_pushAll` — fewer pushes than the capacity can be read
      back from the two rings.
    * `Ring.History.fifo`, `Ring.History.kept` — what a ring gives up over any
      sequence of pushes and pops.
-/
import Mathlib

namespace OpenArm.Lib

/-- A circular array of `cap` slots, `count` of them occupied from `head`. -/
structure Ring (α : Type*) (cap : Nat) where
  slot : Nat → α
  head : Nat
  count : Nat
  head_lt : head < cap
  count_le : count ≤ cap

namespace Ring

variable {α : Type*} {cap : Nat}

/-! ## §1. Operations. -/

/-- The ring with every slot holding `a` and none of them occupied. -/
def empty (a : α) (h : 0 < cap) : Ring α cap where
  slot := fun _ => a
  head := 0
  count := 0
  head_lt := h
  count_le := Nat.zero_le _

def isEmpty (r : Ring α cap) : Bool := r.count == 0

def isFull (r : Ring α cap) : Bool := r.count == cap

/-- The index one past the last occupied slot. -/
def tail (r : Ring α cap) : Nat := (r.head + r.count) % cap

/-- The oldest element. -/
def front (r : Ring α cap) : α := r.slot r.head

/-- Write at the tail; a full ring is left as it is. -/
def push (r : Ring α cap) (a : α) : Ring α cap :=
  if h : r.count < cap then
    { r with
      slot := Function.update r.slot r.tail a
      count := r.count + 1
      count_le := h }
  else r

/-- Drop the oldest element; an empty ring is left as it is. -/
def pop (r : Ring α cap) : Ring α cap :=
  if 0 < r.count then
    { r with
      head := (r.head + 1) % cap
      count := r.count - 1
      head_lt := Nat.mod_lt _ (Nat.zero_lt_of_lt r.head_lt)
      count_le := (Nat.sub_le _ _).trans r.count_le }
  else r

/-- Write at the tail, dropping the oldest element of a full ring first. -/
def pushEvicting (r : Ring α cap) (a : α) : Ring α cap :=
  (if r.isFull then r.pop else r).push a

/-- Forget every element; the slots keep their contents. -/
def clear (r : Ring α cap) : Ring α cap where
  slot := r.slot
  head := 0
  count := 0
  head_lt := Nat.zero_lt_of_lt r.head_lt
  count_le := Nat.zero_le _

/-- The occupied slots, oldest first. -/
def toList (r : Ring α cap) : List α :=
  (List.range r.count).map fun i => r.slot ((r.head + i) % cap)

/-! ## §2. What the operations do to the FIFO. -/

@[simp] theorem length_toList (r : Ring α cap) : r.toList.length = r.count := by
  simp [toList]

theorem isFull_iff (r : Ring α cap) : r.isFull = true ↔ r.count = cap := by
  simp [isFull]

theorem isEmpty_iff (r : Ring α cap) : r.isEmpty = true ↔ r.toList = [] := by
  simp [isEmpty, toList]

@[simp] theorem toList_empty (a : α) (h : 0 < cap) : (empty a h).toList = [] := rfl

@[simp] theorem toList_clear (r : Ring α cap) : r.clear.toList = [] := rfl

@[simp] theorem count_clear (r : Ring α cap) : r.clear.count = 0 := rfl

/-- Distinct offsets below the capacity name distinct slots. -/
theorem slot_index_ne (head : Nat) {i j : Nat} (hi : i < cap) (hj : j < cap) (hij : i ≠ j) :
    (head + i) % cap ≠ (head + j) % cap := by
  intro h
  have hmod : i ≡ j [MOD cap] := Nat.ModEq.add_left_cancel' head h
  exact hij (hmod.eq_of_lt_of_lt hi hj)

theorem count_push (r : Ring α cap) (a : α) (h : r.count < cap) :
    (r.push a).count = r.count + 1 := by
  simp [push, h]

theorem toList_push (r : Ring α cap) (a : α) (h : r.count < cap) :
    (r.push a).toList = r.toList ++ [a] := by
  have hpush : r.push a =
      { r with
        slot := Function.update r.slot r.tail a
        count := r.count + 1
        count_le := h } := by simp [push, h]
  rw [hpush]
  simp only [toList, List.range_succ, List.map_append, List.map_cons, List.map_nil]
  congr 1
  · refine List.map_congr_left fun i hi => ?_
    have hi' : i < r.count := List.mem_range.mp hi
    exact Function.update_of_ne (slot_index_ne r.head (hi'.trans h) h (by omega)) _ _
  · simp [tail]

/-- An element pushed on an empty ring is the next one out. -/
theorem front_push_of_empty (r : Ring α cap) (a : α) (h : r.count = 0) : (r.push a).front = a := by
  have hcap : 0 < cap := Nat.zero_lt_of_lt r.head_lt
  have htail : r.tail = r.head := by
    rw [tail, h, Nat.add_zero, Nat.mod_eq_of_lt r.head_lt]
  unfold push
  rw [dif_pos (by omega)]
  show Function.update r.slot r.tail a r.head = a
  rw [htail, Function.update_self]

theorem count_pop (r : Ring α cap) : r.pop.count = r.count - 1 := by
  unfold pop
  split
  · rfl
  · omega

/-- A pop removes the head of the FIFO, which is `front`. -/
theorem toList_pop (r : Ring α cap) (h : 0 < r.count) :
    r.toList = r.front :: r.pop.toList := by
  have hpop : r.pop =
      { r with
        head := (r.head + 1) % cap
        count := r.count - 1
        head_lt := Nat.mod_lt _ (Nat.zero_lt_of_lt r.head_lt)
        count_le := (Nat.sub_le _ _).trans r.count_le } := by simp [pop, h]
  obtain ⟨n, hn⟩ : ∃ n, r.count = n + 1 := ⟨r.count - 1, by omega⟩
  rw [hpop]
  simp only [toList, hn, List.range_succ_eq_map, List.map_cons, List.map_map,
    Nat.add_sub_cancel]
  congr 1
  · simp [front, Nat.mod_eq_of_lt r.head_lt]
  · refine List.map_congr_left fun i _ => ?_
    simp only [Function.comp, Nat.mod_add_mod]
    congr 2
    omega

/-- A push on a full ring loses exactly the oldest element. -/
theorem toList_pushEvicting (r : Ring α cap) (a : α) :
    (r.pushEvicting a).toList =
      (if r.count = cap then r.toList.tail else r.toList) ++ [a] := by
  have hcap : 0 < cap := Nat.zero_lt_of_lt r.head_lt
  have hle := r.count_le
  by_cases h : r.count = cap
  · have hpop : r.pop.count < cap := by rw [count_pop]; omega
    have hfull : r.isFull = true := (isFull_iff r).mpr h
    rw [pushEvicting, if_pos hfull, toList_push _ _ hpop, if_pos h,
      toList_pop r (by omega), List.tail_cons]
  · have hroom : r.count < cap := by omega
    have hnot : ¬ r.isFull = true := fun hf => h ((isFull_iff r).mp hf)
    rw [pushEvicting, if_neg hnot, toList_push _ _ hroom, if_neg h]

/-! ## §3. What a ring received. -/

/-- Push the elements in order, dropping the oldest ones of a full ring. -/
def pushAll (r : Ring α cap) (as : List α) : Ring α cap := as.foldl pushEvicting r

/-- The elements `r'` received since it was `r`, when these are fewer than the
    capacity: the newest ones, as many as the tail moved on. -/
def received (r r' : Ring α cap) : List α :=
  r'.toList.drop (r'.count - (r'.tail + cap - r.tail) % cap)

@[simp] theorem pushAll_nil (r : Ring α cap) : r.pushAll [] = r := rfl

theorem pushAll_append (r : Ring α cap) (as bs : List α) :
    r.pushAll (as ++ bs) = (r.pushAll as).pushAll bs :=
  List.foldl_append

theorem tail_pushEvicting (r : Ring α cap) (a : α) :
    (r.pushEvicting a).tail = (r.tail + 1) % cap := by
  have hle := r.count_le
  have hhead := r.head_lt
  by_cases h : r.count = cap
  · have hpos : 0 < r.count := by omega
    have hfull : r.isFull = true := (isFull_iff r).mpr h
    have hroom : r.pop.count < cap := by
      rw [count_pop]
      omega
    have hpop : r.pop.head = (r.head + 1) % cap := by simp [pop, hpos]
    rw [pushEvicting, if_pos hfull, push, dif_pos hroom]
    simp only [tail, hpop, count_pop, Nat.mod_add_mod]
    congr 1
    omega
  · have hroom : r.count < cap := by omega
    have hnot : ¬ r.isFull = true := fun hf => h ((isFull_iff r).mp hf)
    rw [pushEvicting, if_neg hnot, push, dif_pos hroom]
    simp only [tail, Nat.mod_add_mod]
    congr 1

theorem tail_pushAll (r : Ring α cap) (as : List α) :
    (r.pushAll as).tail = (r.tail + as.length) % cap := by
  have hlt : r.tail < cap := Nat.mod_lt _ (Nat.zero_lt_of_lt r.head_lt)
  induction as generalizing r with
  | nil => exact (Nat.mod_eq_of_lt hlt).symm
  | cons a as ih =>
    have hnext : (r.pushEvicting a).tail < cap := Nat.mod_lt _ (Nat.zero_lt_of_lt r.head_lt)
    calc ((r.pushEvicting a).pushAll as).tail
        = ((r.pushEvicting a).tail + as.length) % cap := ih _ hnext
      _ = (r.tail + 1 + as.length) % cap := by rw [tail_pushEvicting, Nat.mod_add_mod]
      _ = (r.tail + (a :: as).length) % cap := by
        rw [List.length_cons, Nat.add_right_comm, Nat.add_assoc]

/-- No more pushes than the capacity end up as the newest elements. -/
theorem toList_pushAll (r : Ring α cap) (as : List α) (h : as.length ≤ cap) :
    ∃ old, (r.pushAll as).toList = old ++ as := by
  -- the last push is split off, so that the elements before it are known
  induction as using List.reverseRecOn with
  | nil => exact ⟨r.toList, (List.append_nil _).symm⟩
  | append_singleton as a ih =>
    rw [List.length_append, List.length_singleton] at h
    obtain ⟨old, hold⟩ := ih (by omega)
    have hpush : r.pushAll (as ++ [a]) = (r.pushAll as).pushEvicting a := pushAll_append r as [a]
    rw [hpush, toList_pushEvicting]
    split
    · rename_i hfull
      have hlength : old.length + as.length = cap := by
        rw [← List.length_append, ← hold, length_toList, hfull]
      have hne : old ≠ [] := by
        intro hnil
        rw [hnil, List.length_nil] at hlength
        omega
      exact ⟨old.tail, by rw [hold, List.tail_append_of_ne_nil hne, List.append_assoc]⟩
    · exact ⟨old, by rw [hold, List.append_assoc]⟩

/-- **The pushes between two rings can be read back from them.** -/
theorem received_pushAll (r : Ring α cap) (as : List α) (h : as.length < cap) :
    r.received (r.pushAll as) = as := by
  have hlt : r.tail < cap := Nat.mod_lt _ (Nat.zero_lt_of_lt r.head_lt)
  obtain ⟨old, hold⟩ := r.toList_pushAll as (Nat.le_of_lt h)
  have hcount : (r.pushAll as).count = old.length + as.length := by
    rw [← length_toList, hold, List.length_append]
  have hmoved : ((r.pushAll as).tail + cap - r.tail) % cap = as.length := by
    rw [tail_pushAll]
    by_cases hwrap : r.tail + as.length < cap
    · rw [Nat.mod_eq_of_lt hwrap]
      have hsum : r.tail + as.length + cap - r.tail = as.length + cap := by omega
      rw [hsum, Nat.add_mod_right, Nat.mod_eq_of_lt h]
    · have hback : (r.tail + as.length) % cap = r.tail + as.length - cap := by
        rw [Nat.mod_eq_sub_mod (by omega)]
        exact Nat.mod_eq_of_lt (by omega)
      have hsum : r.tail + as.length - cap + cap - r.tail = as.length := by omega
      rw [hback, hsum, Nat.mod_eq_of_lt h]
  rw [received, hold, hcount, hmoved, Nat.add_sub_cancel, List.drop_left]

/-! ## §4. Histories. -/

/-- What a ring saw: an element stored, the oldest one dropped for room, the
    oldest one taken by a reader. -/
inductive Entry (α : Type*) where
  | stored (a : α)
  | evicted (a : α)
  | taken (a : α)

namespace Entry

variable {log : List (Entry α)}

/-- The element an entry put into the ring. -/
def added : Entry α → Option α
  | .stored a => some a
  | _ => none

/-- The element an entry took out of the ring. -/
def removed : Entry α → Option α
  | .stored _ => none
  | .evicted a => some a
  | .taken a => some a

/-- The element an entry handed to a reader. -/
def returned : Entry α → Option α
  | .taken a => some a
  | _ => none

def isEviction : Entry α → Bool
  | .evicted _ => true
  | _ => false

/-- What left a ring that evicted nothing was taken. -/
theorem removed_eq_returned (h : log.any isEviction = false) :
    log.filterMap removed = log.filterMap returned := by
  refine List.filterMap_congr fun entry hmem => ?_
  rw [List.any_eq_false] at h
  cases entry with
  | stored a => rfl
  | evicted a => exact absurd rfl (h _ hmem)
  | taken a => rfl

/-- Where an entry stands in a log that has one more at its end. -/
theorem snoc_eq {before after : List (Entry α)} {x e : Entry α}
    (h : log ++ [x] = before ++ e :: after) :
    after = [] ∧ log = before ∧ x = e ∨
      ∃ front, after = front ++ [x] ∧ log = before ++ e :: front := by
  obtain rfl | ⟨front, last, rfl⟩ := after.eq_nil_or_concat'
  · obtain ⟨hlog, hlast⟩ := List.append_inj' h rfl
    exact .inl ⟨rfl, hlog, (List.cons.inj hlast).1⟩
  · rw [← List.cons_append, ← List.append_assoc] at h
    obtain ⟨hlog, hlast⟩ := List.append_inj' h rfl
    obtain ⟨rfl, -⟩ := List.cons.inj hlast
    exact .inr ⟨front, rfl, hlog⟩

end Entry

/-- From `r` the ring came to a state by the operations of a log: pushes, which
    evict on a full ring, and pops. -/
inductive History (r : Ring α cap) : List (Entry α) → Ring α cap → Prop where
  | start : History r [] r
  | push {log : List (Entry α)} {m : Ring α cap} (front : History r log m) (a : α)
      (room : m.isFull = false) : History r (log ++ [.stored a]) (m.push a)
  | evict {log : List (Entry α)} {m : Ring α cap} (front : History r log m) (a : α)
      (full : m.isFull = true) :
      History r (log ++ [.evicted m.front, .stored a]) (m.pop.push a)
  | pop {log : List (Entry α)} {m : Ring α cap} (front : History r log m)
      (some : m.isEmpty = false) : History r (log ++ [.taken m.front]) m.pop

theorem count_lt_of_room {r : Ring α cap} (h : r.isFull = false) : r.count < cap := by
  have hle := r.count_le
  rw [Bool.eq_false_iff, ne_eq, isFull_iff] at h
  omega

theorem count_pos_of_some {r : Ring α cap} (h : r.isEmpty = false) : 0 < r.count := by
  have hne : r.count ≠ 0 := fun hzero => by simp [isEmpty, hzero] at h
  omega

/-- A full ring makes room for one element by dropping its front. -/
theorem toList_evict {r : Ring α cap} (a : α) (h : r.isFull = true) :
    ∃ rest, r.toList = r.front :: rest ∧ (r.pop.push a).toList = rest ++ [a] := by
  have hcap : 0 < cap := Nat.zero_lt_of_lt r.head_lt
  have hcount : r.count = cap := (isFull_iff r).mp h
  refine ⟨r.pop.toList, toList_pop r (by omega), toList_push _ _ ?_⟩
  rw [count_pop]
  omega

namespace History

variable {r m r' : Ring α cap} {log log' : List (Entry α)}

theorem trans (h : History r log m) (h' : History m log' r') : History r (log ++ log') r' := by
  induction h' with
  | start => rwa [List.append_nil]
  | push front a room ih =>
    rw [← List.append_assoc]
    exact ih.push a room
  | evict front a full ih =>
    rw [← List.append_assoc]
    exact ih.evict a full
  | pop front some ih =>
    rw [← List.append_assoc]
    exact ih.pop some

/-- **A ring is a FIFO**: what it held and then stored, in order, is what it
    gave up, in order, and then holds. -/
theorem fifo (h : History r log r') :
    r.toList ++ log.filterMap Entry.added = log.filterMap Entry.removed ++ r'.toList := by
  induction h with
  | start => exact List.append_nil _
  | push front a room ih =>
    rw [toList_push _ _ (count_lt_of_room room)]
    simp only [List.filterMap_append, List.filterMap_cons, Entry.added, Entry.removed,
      List.filterMap_nil, List.append_nil]
    rw [← List.append_assoc, ih, List.append_assoc]
  | evict front a full ih =>
    obtain ⟨rest, hold, hnew⟩ := toList_evict a full
    rw [hnew]
    rw [hold] at ih
    simp only [List.filterMap_append, List.filterMap_cons, Entry.added, Entry.removed,
      List.filterMap_nil]
    rw [← List.append_assoc, ih]
    simp
  | pop front some ih =>
    rw [toList_pop _ (count_pos_of_some some)] at ih
    simp only [List.filterMap_append, List.filterMap_cons, Entry.added, Entry.removed,
      List.filterMap_nil, List.append_nil]
    rw [ih]
    simp

/-- An evicting push is one entry, or two on a full ring. -/
theorem pushEvicting (r : Ring α cap) (a : α) :
    ∃ log, History r log (r.pushEvicting a) ∧ log.filterMap Entry.returned = [] ∧
      log.filterMap Entry.added = [a] := by
  by_cases hfull : r.isFull = true
  · rw [Ring.pushEvicting, if_pos hfull]
    exact ⟨[.evicted r.front, .stored a], History.start.evict a hfull, rfl, rfl⟩
  · rw [Ring.pushEvicting, if_neg hfull]
    exact ⟨[.stored a], History.start.push a (by simpa using hfull), rfl, rfl⟩

/-- The ring right after one of its pushes. -/
theorem split_stored (h : History r log r') {before after : List (Entry α)} {a : α}
    (hlog : log = before ++ .stored a :: after) :
    ∃ m older, m.toList = older ++ [a] ∧ History m after r' := by
  induction h generalizing after with
  | start => simp at hlog
  | push front b room ih =>
    rename_i m
    obtain ⟨rfl, -, heq⟩ | ⟨front, rfl, hfront⟩ := Entry.snoc_eq hlog
    · cases heq
      exact ⟨_, m.toList, toList_push m _ (count_lt_of_room room), .start⟩
    · obtain ⟨k, older, hk, hback⟩ := ih hfront
      exact ⟨k, older, hk, hback.push b room⟩
  | evict front b full ih =>
    rename_i m
    rw [List.append_cons] at hlog
    obtain ⟨rfl, -, heq⟩ | ⟨front, rfl, hfront⟩ := Entry.snoc_eq hlog
    · cases heq
      obtain ⟨rest, -, hnew⟩ := toList_evict a full
      exact ⟨_, rest, hnew, .start⟩
    · -- the entry before the last one is the eviction, not a push
      obtain ⟨-, -, heq⟩ | ⟨first, rfl, hfirst⟩ := Entry.snoc_eq hfront
      · cases heq
      · obtain ⟨k, older, hk, hback⟩ := ih hfirst
        refine ⟨k, older, hk, ?_⟩
        rw [List.append_assoc]
        exact hback.evict b full
  | pop front some ih =>
    obtain ⟨-, -, heq⟩ | ⟨front, rfl, hfront⟩ := Entry.snoc_eq hlog
    · cases heq
    · obtain ⟨k, older, hk, hback⟩ := ih hfront
      exact ⟨k, older, hk, hback.pop some⟩

/-- The newest element stays until it is taken, or until a capacity of newer
    ones was stored. -/
theorem stays {older : List α} {a : α} (h : History r log r') (hr : r.toList = older ++ [a])
    (hfew : (log.filterMap Entry.added).length < cap) :
    (∃ old, r'.toList = old ++ a :: log.filterMap Entry.added) ∨ .taken a ∈ log := by
  induction h with
  | start => exact .inl ⟨older, hr⟩
  | push front b room ih =>
    rename_i log m
    have hnew : (log ++ [Entry.stored b]).filterMap Entry.added = log.filterMap Entry.added ++ [b] := by
      simp [Entry.added]
    rw [hnew, List.length_append, List.length_singleton] at hfew
    obtain ⟨old, hold⟩ | htaken := ih (by omega)
    · refine .inl ⟨old, ?_⟩
      rw [toList_push _ _ (count_lt_of_room room), hold, hnew]
      simp
    · exact .inr (List.mem_append_left _ htaken)
  | evict front b full ih =>
    rename_i log m
    have hnew : (log ++ [Entry.evicted m.front, .stored b]).filterMap Entry.added =
        log.filterMap Entry.added ++ [b] := by
      rw [List.filterMap_append]
      rfl
    rw [hnew, List.length_append, List.length_singleton] at hfew
    obtain ⟨old, hold⟩ | htaken := ih (by omega)
    · obtain ⟨rest, hfront, hpushed⟩ := toList_evict b full
      have hlength : m.toList.length = cap := by
        rw [length_toList]
        exact (isFull_iff m).mp full
      -- fewer than a capacity are newer, so the dropped one is older than `a`
      cases old with
      | nil =>
        rw [hold, List.nil_append, List.length_cons] at hlength
        omega
      | cons first old =>
        rw [hold, List.cons_append] at hfront
        obtain ⟨-, hrest⟩ := List.cons.inj hfront
        refine .inl ⟨old, ?_⟩
        rw [hpushed, ← hrest, hnew]
        simp
    · exact .inr (List.mem_append_left _ htaken)
  | pop front some ih =>
    rename_i log m
    have hnew : (log ++ [Entry.taken m.front]).filterMap Entry.added = log.filterMap Entry.added := by
      simp [Entry.added]
    rw [hnew] at hfew ⊢
    obtain ⟨old, hold⟩ | htaken := ih hfew
    · have hfront := toList_pop m (count_pos_of_some some)
      cases old with
      | nil =>
        rw [hfront, List.nil_append] at hold
        obtain ⟨rfl, -⟩ := List.cons.inj hold
        exact .inr (List.mem_append_right _ (List.mem_singleton.mpr rfl))
      | cons first old =>
        rw [hfront, List.cons_append] at hold
        obtain ⟨-, hrest⟩ := List.cons.inj hold
        exact .inl ⟨old, hrest⟩
    · exact .inr (List.mem_append_left _ htaken)

/-- **What is stored stays until it is taken**, or until a capacity of newer
    elements was stored. -/
theorem kept (h : History r log r') {before after : List (Entry α)} {a : α}
    (hlog : log = before ++ .stored a :: after)
    (hfew : (after.filterMap Entry.added).length < cap) :
    (∃ old, r'.toList = old ++ a :: after.filterMap Entry.added) ∨ .taken a ∈ after := by
  obtain ⟨m, older, hm, hback⟩ := h.split_stored hlog
  exact hback.stays hm hfew

end History

end Ring

end OpenArm.Lib
