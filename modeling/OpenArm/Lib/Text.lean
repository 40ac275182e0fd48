/-
  OpenArm.Lib.Text — texts made of lines and fields, and searches in them.

  A text is a list of characters of any type.  LINES end with a separator,
  FIELDS stand between separators.  `findAt` and `rfindAt` give the first and
  the last position of a pattern.

  Main results:
    * `lines_unlines` / `unlines_lines` — lines read back.
    * `findAt_unlines` — the first line with a given opening.
    * `marker_occurs` — where a marker that ends with the separator can stand
      in text with separators: at the end of a field or behind it.
    * `collect_eq_some` — a table whose entries may fail.
-/
import Mathlib

namespace OpenArm.Lib

variable {α : Type} [DecidableEq α]

/-! ## §1. Lines. -/

/-- Every line followed by the separator. -/
def unlines (sep : α) : List (List α) → List α
  | [] => []
  | line :: rest => line ++ sep :: unlines sep rest

/-- The lines of a text that ends with the separator. -/
def lines (sep : α) (s : List α) : List (List α) := (s.splitOn sep).dropLast

section

omit [DecidableEq α]

@[simp] theorem unlines_nil (sep : α) : unlines sep ([] : List (List α)) = [] := rfl

@[simp] theorem unlines_cons (sep : α) (line : List α) (rest : List (List α)) :
    unlines sep (line :: rest) = line ++ sep :: unlines sep rest := rfl

theorem unlines_append (sep : α) (ls ms : List (List α)) :
    unlines sep (ls ++ ms) = unlines sep ls ++ unlines sep ms := by
  induction ls with
  | nil => rfl
  | cons line rest ih => simp [ih]

theorem unlines_ne_nil {sep : α} {ls : List (List α)} (h : ls ≠ []) : unlines sep ls ≠ [] := by
  obtain ⟨line, rest, rfl⟩ := List.exists_cons_of_ne_nil h
  simp

theorem mem_unlines {sep a : α} {ls : List (List α)} {line : List α} (hline : line ∈ ls)
    (ha : a ∈ line) : a ∈ unlines sep ls := by
  induction ls with
  | nil => exact absurd hline List.not_mem_nil
  | cons first rest ih =>
    rw [unlines_cons]
    rcases List.mem_cons.mp hline with rfl | hmem
    · exact List.mem_append_left _ ha
    · exact List.mem_append_right _ (List.mem_cons_of_mem _ (ih hmem))

theorem mem_of_mem_unlines {sep a : α} {ls : List (List α)} (h : a ∈ unlines sep ls)
    (ha : a ≠ sep) : ∃ line ∈ ls, a ∈ line := by
  induction ls with
  | nil => exact absurd h List.not_mem_nil
  | cons first rest ih =>
    rw [unlines_cons] at h
    rcases List.mem_append.mp h with hmem | hmem
    · exact ⟨first, List.mem_cons_self, hmem⟩
    · rcases List.mem_cons.mp hmem with heq | hmem
      · exact absurd heq ha
      · obtain ⟨line, hline, hin⟩ := ih hmem
        exact ⟨line, List.mem_cons_of_mem _ hline, hin⟩

/-- A text of lines ends with the separator. -/
theorem getLast?_unlines {sep : α} {ls : List (List α)} (h : ls ≠ []) :
    (unlines sep ls).getLast? = some sep := by
  induction ls with
  | nil => exact absurd rfl h
  | cons line rest ih =>
    cases rest with
    | nil => simp
    | cons next rest =>
      rw [unlines_cons, List.getLast?_append, List.getLast?_cons,
        ih (List.cons_ne_nil next rest)]
      rfl

/-- A text of lines is its lines and an empty rest between separators. -/
theorem unlines_eq_intercalate (sep : α) (ls : List (List α)) :
    unlines sep ls = [sep].intercalate (ls ++ [[]]) := by
  induction ls with
  | nil => rfl
  | cons line rest ih =>
    have hne : rest ++ [[]] ≠ [] := by simp
    rw [List.cons_append, List.intercalate_cons_of_ne_nil hne, ← ih]
    simp

end

theorem splitOn_unlines (sep : α) (ls : List (List α)) (h : ∀ line ∈ ls, sep ∉ line) :
    (unlines sep ls).splitOn sep = ls ++ [[]] := by
  rw [unlines_eq_intercalate]
  apply List.splitOn_intercalate
  · intro line hline
    rcases List.mem_append.mp hline with hmem | hmem
    · exact h line hmem
    · simp only [List.mem_singleton] at hmem
      rw [hmem]
      exact List.not_mem_nil
  · simp

/-- **Lines read back.** -/
theorem lines_unlines (sep : α) (ls : List (List α)) (h : ∀ line ∈ ls, sep ∉ line) :
    lines sep (unlines sep ls) = ls := by
  unfold lines
  rw [splitOn_unlines sep ls h, List.dropLast_concat]

omit [DecidableEq α] in
/-- The first field is determined by the text. -/
theorem append_sep_inj {a b c d : List α} {sep : α} (ha : sep ∉ a) (hb : sep ∉ b)
    (h : a ++ sep :: c = b ++ sep :: d) : a = b ∧ c = d := by
  induction a generalizing b with
  | nil =>
    cases b with
    | nil => exact ⟨rfl, by simpa using h⟩
    | cons y b =>
      simp only [List.nil_append, List.cons_append, List.cons.injEq] at h
      exact absurd (by simp [h.1]) hb
  | cons x a ih =>
    cases b with
    | nil =>
      simp only [List.nil_append, List.cons_append, List.cons.injEq] at h
      exact absurd (by simp [h.1]) ha
    | cons y b =>
      simp only [List.cons_append, List.cons.injEq] at h
      obtain ⟨hab, hcd⟩ := ih (fun hm => ha (by simp [hm])) (fun hm => hb (by simp [hm])) h.2
      exact ⟨by rw [h.1, hab], hcd⟩

/-- The number of separators in a text of lines. -/
theorem count_unlines (sep : α) (ls : List (List α)) :
    (unlines sep ls).count sep = ls.length + (ls.map (List.count sep)).sum := by
  induction ls with
  | nil => rfl
  | cons line rest ih =>
    rw [unlines_cons, List.count_append, List.count_cons_self, ih, List.map_cons, List.sum_cons,
      List.length_cons]
    omega

/-- **Lines that are not fewer than the lines read are the lines read.** -/
theorem unlines_inj {sep : α} {ls ms : List (List α)} (hls : ∀ line ∈ ls, sep ∉ line)
    (hlength : ls.length ≤ ms.length) (h : unlines sep ls = unlines sep ms) : ls = ms := by
  have hcount : ms.length + (ms.map (List.count sep)).sum =
      ls.length + (ls.map (List.count sep)).sum := by
    rw [← count_unlines, ← count_unlines, h]
  have hzero : (ls.map (List.count sep)).sum = 0 := by
    rw [List.sum_eq_zero_iff_forall_eq_nat]
    intro n hn
    obtain ⟨line, hline, rfl⟩ := List.mem_map.mp hn
    exact List.count_eq_zero.mpr (hls line hline)
  have hnone : (ms.map (List.count sep)).sum = 0 := by omega
  have hms : ∀ line ∈ ms, sep ∉ line := by
    intro line hline
    rw [List.sum_eq_zero_iff_forall_eq_nat] at hnone
    exact List.count_eq_zero.mp (hnone _ (List.mem_map_of_mem hline))
  rw [← lines_unlines sep ls hls, h, lines_unlines sep ms hms]

/-- No field of a split text holds the separator. -/
theorem not_mem_of_mem_splitOn (sep : α) (s : List α) :
    ∀ field ∈ s.splitOn sep, sep ∉ field := by
  induction s with
  | nil => simp
  | cons a s ih =>
    intro field hfield
    by_cases ha : a = sep
    · have hsplit : (a :: s).splitOn sep = [] :: s.splitOn sep := by
        rw [List.splitOn_cons_eq_if_modifyHead]
        simp [ha]
      rw [hsplit] at hfield
      rcases List.mem_cons.mp hfield with rfl | hmem
      · exact List.not_mem_nil
      · exact ih field hmem
    · have hsplit : (a :: s).splitOn sep = (s.splitOn sep).modifyHead (a :: ·) := by
        rw [List.splitOn_cons_eq_if_modifyHead]
        simp [ha]
      rw [hsplit] at hfield
      obtain ⟨first, rest, hcons⟩ := List.exists_cons_of_ne_nil (List.splitOn_ne_nil sep s)
      rw [hcons] at hfield ih
      simp only [List.modifyHead_cons, List.mem_cons] at hfield
      rcases hfield with rfl | hmem
      · have hfirst := ih first (by simp)
        simp [Ne.symm ha, hfirst]
      · exact ih field (by simp [hmem])

theorem not_mem_of_mem_lines (sep : α) (s : List α) : ∀ line ∈ lines sep s, sep ∉ line :=
  fun line hline => not_mem_of_mem_splitOn sep s line (List.mem_of_mem_dropLast hline)

/-- A text that ends with the separator is the text of its lines. -/
theorem unlines_lines (sep : α) (s : List α) (h : s.getLast? = some sep) :
    unlines sep (lines sep s) = s := by
  obtain ⟨front, rfl⟩ := List.getLast?_eq_some_iff.mp h
  have hsplit : (front ++ [sep]).splitOn sep = front.splitOn sep ++ [[]] := by
    rw [List.splitOn_append_cons_self]
    simp
  unfold lines
  rw [hsplit, List.dropLast_concat, unlines_eq_intercalate, ← hsplit,
    List.intercalate_splitOn]

/-! ## §2. Searching. -/

/-- `find`: the first position of `pat`. -/
def findAt (pat : List α) : List α → Option Nat
  | [] => if pat <+: [] then some 0 else none
  | a :: s => if pat <+: a :: s then some 0 else (findAt pat s).map (· + 1)

/-- `rfind`: the last position of `pat`. -/
def rfindAt (pat : List α) : List α → Option Nat
  | [] => if pat <+: [] then some 0 else none
  | a :: s =>
    match rfindAt pat s with
    | some i => some (i + 1)
    | none => if pat <+: a :: s then some 0 else none

theorem rfindAt_eq_none {pat s : List α} : rfindAt pat s = none ↔ ¬ pat <:+: s := by
  induction s with
  | nil => simp [rfindAt]
  | cons a s ih =>
    unfold rfindAt
    rw [List.infix_cons_iff]
    cases hr : rfindAt pat s with
    | some i =>
      have hin : pat <:+: s := by
        by_contra hnot
        rw [ih.mpr hnot] at hr
        exact absurd hr (by simp)
      simp [hin]
    | none =>
      have hnot : ¬ pat <:+: s := ih.mp hr
      by_cases h : pat <+: a :: s
      · simp [h]
      · simp [h, hnot]

/-- A backward search stops at a place where the pattern stands and behind
    which it does not. -/
theorem rfindAt_append {pat front back : List α} (h : pat <+: back)
    (hlast : ¬ pat <:+: back.tail) (hne : back ≠ []) :
    rfindAt pat (front ++ back) = some front.length := by
  induction front with
  | nil =>
    obtain ⟨a, rest, rfl⟩ := List.exists_cons_of_ne_nil hne
    simp only [List.tail_cons] at hlast
    simp only [List.nil_append, rfindAt, rfindAt_eq_none.mpr hlast, if_pos h, List.length_nil]
  | cons a front ih =>
    simp only [List.cons_append, rfindAt, ih, List.length_cons]

/-! ## §3. Searching line by line. -/

omit [DecidableEq α] in
/-- A pattern without the separator opens a line or nothing. -/
theorem prefix_line {p line rest : List α} {sep : α} (hp : sep ∉ p) :
    p <+: line ++ sep :: rest ↔ p <+: line := by
  induction p generalizing line with
  | nil => simp
  | cons c p ih =>
    have hc : c ≠ sep := fun h => hp (by simp [h])
    have hrest : sep ∉ p := fun h => hp (by simp [h])
    cases line with
    | nil => simp [hc]
    | cons d line =>
      rw [List.cons_append, List.cons_prefix_cons, List.cons_prefix_cons, ih hrest]

/-- A search for the start of a line either stops at the end of the first line
    or goes on behind it. -/
theorem findAt_line {p line rest : List α} {sep : α} (hline : sep ∉ line) :
    findAt (sep :: p) (line ++ sep :: rest) =
      if p <+: rest then some line.length
      else (findAt (sep :: p) rest).map (line.length + 1 + ·) := by
  induction line with
  | nil =>
    simp only [List.nil_append, findAt, List.cons_prefix_cons, true_and, List.length_nil]
    by_cases h : p <+: rest
    · simp [h]
    · simp only [h, if_false]
      congr 1
      funext i
      omega
  | cons c line ih =>
    have hc : sep ≠ c := fun h => hline (by simp [h])
    have hrest : sep ∉ line := fun h => hline (by simp [h])
    have hno : ¬ sep :: p <+: c :: (line ++ sep :: rest) := by
      rw [List.cons_prefix_cons]
      exact fun h => hc h.1
    rw [List.cons_append, findAt, if_neg hno, ih hrest]
    by_cases h : p <+: rest
    · simp [h]
    · simp only [h, if_false, Option.map_map, List.length_cons]
      congr 1
      funext i
      simp only [Function.comp_apply]
      omega

/-- **The first line with a given opening**, behind a first line that is not
    looked at. -/
theorem findAt_unlines {p first target : List α} {mid rest : List (List α)} {sep : α}
    (hp : sep ∉ p) (hfirst : sep ∉ first) (hmid : ∀ line ∈ mid, sep ∉ line ∧ ¬ p <+: line)
    (htarget : p <+: target) :
    findAt (sep :: p) (unlines sep (first :: mid ++ target :: rest)) =
      some ((unlines sep (first :: mid)).length - 1) := by
  induction mid generalizing first with
  | nil =>
    simp only [List.cons_append, List.nil_append, unlines_cons, unlines_nil]
    rw [findAt_line hfirst, if_pos ((prefix_line hp).mpr htarget)]
    simp
  | cons line mid ih =>
    obtain ⟨hline, hno⟩ := hmid line (by simp)
    have hrest := ih hline fun l hl => hmid l (by simp [hl])
    have hskip : ¬ p <+: unlines sep (line :: mid ++ target :: rest) := by
      rw [List.cons_append, unlines_cons, prefix_line hp]
      exact hno
    rw [List.cons_append, unlines_cons, findAt_line hfirst, if_neg hskip, hrest, Option.map_some]
    simp only [unlines_cons, List.length_append, List.length_cons, Option.some.injEq]
    omega

/-! ## §4. Markers that end with the separator. -/

section

omit [DecidableEq α]

/-- A marker opens a text exactly when it is the text's first field. -/
theorem marker_opens {stem a b : List α} {sep : α} (hstem : sep ∉ stem) (ha : sep ∉ a) :
    stem ++ [sep] <+: a ++ sep :: b ↔ stem = a := by
  induction stem generalizing a with
  | nil =>
    cases a with
    | nil => simp
    | cons c a =>
      have hc : sep ≠ c := fun h => ha (by simp [h])
      simp [hc]
  | cons c stem ih =>
    have hc : sep ≠ c := fun h => hstem (by simp [h])
    have hrest : sep ∉ stem := fun h => hstem (by simp [h])
    cases a with
    | nil => simp [Ne.symm hc]
    | cons d a =>
      have had : sep ∉ a := fun h => ha (by simp [h])
      rw [List.cons_append, List.cons_append, List.cons_prefix_cons, ih hrest had,
        List.cons.injEq]

/-- A marker needs its separator. -/
theorem marker_absent {stem b : List α} {sep : α} (hb : sep ∉ b) :
    ¬ stem ++ [sep] <:+: b :=
  fun h => hb (h.subset (by simp))

/-- **Where a marker can stand**: it ends the field before the first
    separator, or it stands behind that separator. -/
theorem marker_occurs {stem a b : List α} {sep : α} (hstem : sep ∉ stem) (ha : sep ∉ a) :
    stem ++ [sep] <:+: a ++ sep :: b ↔ stem <:+ a ∨ stem ++ [sep] <:+: b := by
  induction a with
  | nil =>
    rw [List.nil_append, List.infix_cons_iff, ← List.nil_append (sep :: b),
      marker_opens hstem List.not_mem_nil, List.suffix_nil]
  | cons c a ih =>
    have hrest : sep ∉ a := fun h => ha (by simp [h])
    rw [List.cons_append, List.infix_cons_iff, ← List.cons_append, marker_opens hstem ha,
      ih hrest, List.suffix_cons_iff, or_assoc]

end

/-! ## §5. Tables whose entries may fail. -/

/-- All entries of a table, when none fails. -/
def collect {ι β : Type} [Fintype ι] (f : ι → Option β) : Option (ι → β) :=
  if h : ∀ i, (f i).isSome = true then some fun i => (f i).get (h i) else none

theorem collect_eq_some {ι β : Type} [Fintype ι] {f : ι → Option β} {g : ι → β} :
    collect f = some g ↔ ∀ i, f i = some (g i) := by
  unfold collect
  split
  · rename_i h
    constructor
    · intro hg i
      cases hg
      simp
    · intro hg
      congr
      funext i
      simp [hg i]
  · rename_i h
    constructor
    · intro hg
      exact absurd hg (by simp)
    · intro hg
      exact absurd (fun i => by simp [hg i]) h

end OpenArm.Lib
