/-
  OpenArm.Lib.Fields — separated fields of a text with quoted parts.

  `splitOutside` cuts a text at the separators outside quotes, `strip` takes
  padding off both ends and `splitOnce` cuts at the only separator.

  Main results:
    * `splitOutside_join` — the fields joined are the text.
    * `join_splitOutside` — fields that do not hide a separator are found again.
    * `strip_pad`         — what stands between paddings.
    * `splitOnce_eq_some` — a text with one separator.
-/
import Mathlib

namespace OpenArm.Lib

variable {α : Type} [DecidableEq α]

/-! ## §1. Splitting outside quotes. -/

/-- An element in front of the first field. -/
def pushFirst (a : α) : List (List α) → List (List α)
  | [] => [[a]]
  | field :: fields => (a :: field) :: fields

/-- The fields between the separators that stand outside quotes. -/
def splitOutside (quote sep : α) : Bool → List α → List (List α)
  | _, [] => [[]]
  | quoted, a :: rest =>
    if a = quote then pushFirst a (splitOutside quote sep (!quoted) rest)
    else if a = sep ∧ quoted = false then [] :: splitOutside quote sep quoted rest
    else pushFirst a (splitOutside quote sep quoted rest)

theorem splitOutside_cons (quote sep : α) (quoted : Bool) (a : α) (rest : List α) :
    splitOutside quote sep quoted (a :: rest) =
      if a = quote then pushFirst a (splitOutside quote sep (!quoted) rest)
      else if a = sep ∧ quoted = false then [] :: splitOutside quote sep quoted rest
      else pushFirst a (splitOutside quote sep quoted rest) := rfl

omit [DecidableEq α] in
theorem pushFirst_ne_nil (a : α) (fields : List (List α)) : pushFirst a fields ≠ [] := by
  unfold pushFirst
  split <;> simp

theorem splitOutside_ne_nil (quote sep : α) (quoted : Bool) (text : List α) :
    splitOutside quote sep quoted text ≠ [] := by
  cases text with
  | nil => simp [splitOutside]
  | cons a rest =>
    unfold splitOutside
    split
    · exact pushFirst_ne_nil _ _
    · split
      · simp
      · exact pushFirst_ne_nil _ _

omit [DecidableEq α] in
theorem intercalate_pushFirst {sep : List α} {a : α} {fields : List (List α)} (h : fields ≠ []) :
    sep.intercalate (pushFirst a fields) = a :: sep.intercalate fields := by
  obtain ⟨field, fields, rfl⟩ := List.exists_cons_of_ne_nil h
  cases fields with
  | nil => simp [pushFirst]
  | cons next fields => simp [pushFirst, List.intercalate_cons_cons]

/-- **The fields joined are the text.** -/
theorem splitOutside_join (quote sep : α) (quoted : Bool) (text : List α) :
    [sep].intercalate (splitOutside quote sep quoted text) = text := by
  induction text generalizing quoted with
  | nil => simp [splitOutside]
  | cons a rest ih =>
    unfold splitOutside
    split
    · rw [intercalate_pushFirst (splitOutside_ne_nil _ _ _ _), ih]
    · split
      · next hsep =>
        rw [List.intercalate_cons_of_ne_nil (splitOutside_ne_nil _ _ _ _), ih, hsep.1]
        rfl
      · rw [intercalate_pushFirst (splitOutside_ne_nil _ _ _ _), ih]

/-- The state of the quotes behind a text. -/
def quotedAfter (quote : α) (quoted : Bool) (text : List α) : Bool :=
  text.foldl (fun quoted a => if a = quote then !quoted else quoted) quoted

theorem quotedAfter_append (quote : α) (quoted : Bool) (a b : List α) :
    quotedAfter quote quoted (a ++ b) = quotedAfter quote (quotedAfter quote quoted a) b :=
  List.foldl_append

theorem quotedAfter_plain {quote : α} (quoted : Bool) {text : List α} (h : quote ∉ text) :
    quotedAfter quote quoted text = quoted := by
  induction text with
  | nil => rfl
  | cons a rest ih =>
    have hne : a ≠ quote := fun heq => h (by rw [heq]; exact List.mem_cons_self)
    unfold quotedAfter
    rw [List.foldl_cons, if_neg hne]
    exact ih fun hmem => h (List.mem_cons_of_mem _ hmem)

/-- A field without separators goes into the first one found. -/
theorem splitOutside_append {quote sep : α} {quoted : Bool} {field rest : List α}
    (hsep : sep ∉ field) :
    splitOutside quote sep quoted (field ++ rest) =
      (splitOutside quote sep (quotedAfter quote quoted field) rest).modifyHead (field ++ ·) := by
  induction field generalizing quoted with
  | nil =>
    obtain ⟨first, more, hfields⟩ :=
      List.exists_cons_of_ne_nil (splitOutside_ne_nil quote sep quoted rest)
    show splitOutside quote sep quoted rest = (splitOutside quote sep quoted rest).modifyHead _
    rw [hfields]
    rfl
  | cons a field ih =>
    have hne : ¬ (a = sep ∧ quoted = false) :=
      fun heq => hsep (by rw [heq.1]; exact List.mem_cons_self)
    have hrest : sep ∉ field := fun hmem => hsep (List.mem_cons_of_mem _ hmem)
    have hpush : ∀ fields : List (List α), fields ≠ [] →
        pushFirst a (fields.modifyHead (field ++ ·)) = fields.modifyHead ((a :: field) ++ ·) := by
      intro fields hfields
      obtain ⟨first, more, rfl⟩ := List.exists_cons_of_ne_nil hfields
      rfl
    rw [List.cons_append, splitOutside_cons]
    by_cases hquote : a = quote
    · have hstate : quotedAfter quote quoted (a :: field) = quotedAfter quote (!quoted) field := by
        unfold quotedAfter
        rw [List.foldl_cons, if_pos hquote]
      rw [if_pos hquote, hstate, ih hrest, hpush _ (splitOutside_ne_nil _ _ _ _)]
    · have hstate : quotedAfter quote quoted (a :: field) = quotedAfter quote quoted field := by
        unfold quotedAfter
        rw [List.foldl_cons, if_neg hquote]
      rw [if_neg hquote, if_neg hne, hstate, ih hrest, hpush _ (splitOutside_ne_nil _ _ _ _)]

/-- A field that hides no separator: it has none, and its quotes are closed. -/
structure Plain (quote sep : α) (field : List α) : Prop where
  sep : sep ∉ field
  closed : quotedAfter quote false field = false

/-- **Fields that hide no separator are found again.** -/
theorem join_splitOutside {quote sep : α} (hne : sep ≠ quote) {fields : List (List α)}
    (hsome : fields ≠ []) (h : ∀ field ∈ fields, Plain quote sep field) :
    splitOutside quote sep false ([sep].intercalate fields) = fields := by
  induction fields with
  | nil => exact absurd rfl hsome
  | cons field fields ih =>
    have hfield := h field List.mem_cons_self
    by_cases hlast : fields = []
    · subst hlast
      have happend : splitOutside quote sep false (field ++ []) = _ :=
        splitOutside_append hfield.sep
      rw [List.append_nil, hfield.closed] at happend
      rw [List.intercalate_singleton, happend]
      simp [splitOutside]
    · rw [List.intercalate_cons_of_ne_nil hlast, List.append_assoc,
        splitOutside_append hfield.sep, hfield.closed]
      have hcut : splitOutside quote sep false ([sep] ++ [sep].intercalate fields) =
          [] :: splitOutside quote sep false ([sep].intercalate fields) := by
        show splitOutside quote sep false (sep :: [sep].intercalate fields) = _
        rw [splitOutside_cons, if_neg hne, if_pos ⟨rfl, rfl⟩]
      rw [hcut, ih hlast fun other hother => h other (List.mem_cons_of_mem _ hother)]
      simp

/-! ## §2. Padding. -/

/-- A text without its padding. -/
def strip (pad : α → Bool) (text : List α) : List α :=
  ((text.dropWhile pad).reverse.dropWhile pad).reverse

/-- Padding only. -/
def Padding (pad : α → Bool) (text : List α) : Prop := ∀ a ∈ text, pad a = true

/-- A text that neither begins nor ends with padding. -/
structure Solid (pad : α → Bool) (text : List α) : Prop where
  first : ∀ a ∈ text.head?, pad a = false
  last : ∀ a ∈ text.getLast?, pad a = false

section

omit [DecidableEq α]

theorem dropWhile_solid {pad : α → Bool} {text : List α} (h : ∀ a ∈ text.head?, pad a = false) :
    text.dropWhile pad = text := by
  cases text with
  | nil => rfl
  | cons a rest =>
    have ha : pad a = false := h a rfl
    rw [List.dropWhile_cons_of_neg (by simp [ha])]

/-- **What stands between paddings.** -/
theorem strip_pad {pad : α → Bool} {before text after : List α} (hbefore : Padding pad before)
    (hafter : Padding pad after) (h : Solid pad text) :
    strip pad (before ++ (text ++ after)) = text := by
  unfold strip
  rw [List.dropWhile_append_of_pos hbefore]
  have hback : (text ++ after).reverse.dropWhile pad = text.reverse := by
    rw [List.reverse_append, List.dropWhile_append_of_pos fun a ha =>
      hafter a (List.mem_reverse.mp ha)]
    refine dropWhile_solid fun a ha => h.last a ?_
    rwa [List.head?_reverse] at ha
  cases text with
  | nil =>
    -- only the padding behind is left
    have hall : ([] ++ after).dropWhile pad = [] :=
      List.dropWhile_eq_nil_iff.mpr fun a ha => hafter a ha
    rw [hall]
    rfl
  | cons a rest =>
    have ha : pad a = false := h.first a rfl
    rw [List.cons_append, List.dropWhile_cons_of_neg (by simp [ha]), ← List.cons_append, hback,
      List.reverse_reverse]

/-- A text is what `strip` leaves, between paddings. -/
theorem strip_split (pad : α → Bool) (text : List α) : ∃ before after,
    Padding pad before ∧ Padding pad after ∧ text = before ++ (strip pad text ++ after) := by
  refine ⟨text.takeWhile pad, ((text.dropWhile pad).reverse.takeWhile pad).reverse, ?_, ?_, ?_⟩
  · intro a ha
    exact List.mem_takeWhile_imp ha
  · intro a ha
    exact List.mem_takeWhile_imp (List.mem_reverse.mp ha)
  · have hback := congrArg List.reverse
      (List.takeWhile_append_dropWhile (p := pad) (l := (text.dropWhile pad).reverse))
    rw [List.reverse_append, List.reverse_reverse] at hback
    unfold strip
    rw [hback, List.takeWhile_append_dropWhile]

theorem head?_dropWhile {pad : α → Bool} (text : List α) :
    ∀ a ∈ (text.dropWhile pad).head?, pad a = false := by
  intro a ha
  have hhead := List.head?_dropWhile_not pad text
  rw [ha] at hhead
  exact hhead

/-- What `strip` leaves has no padding left. -/
theorem strip_solid (pad : α → Bool) (text : List α) : Solid pad (strip pad text) where
  first := by
    intro a ha
    -- the first element is still that behind the padding in front
    have hfront : text.dropWhile pad =
        strip pad text ++ ((text.dropWhile pad).reverse.takeWhile pad).reverse := by
      have hback := congrArg List.reverse
        (List.takeWhile_append_dropWhile (p := pad) (l := (text.dropWhile pad).reverse))
      rw [List.reverse_append, List.reverse_reverse] at hback
      exact hback.symm
    refine head?_dropWhile text a ?_
    rw [hfront]
    obtain ⟨rest, hrest⟩ := List.head?_eq_some_iff.mp ha
    rw [hrest]
    rfl
  last := by
    intro a ha
    unfold strip at ha
    rw [List.getLast?_reverse] at ha
    exact head?_dropWhile _ a ha

end

/-! ## §3. One separator. -/

/-- The two sides of the only separator. -/
def splitOnce (sep : α) (text : List α) : Option (List α × List α) :=
  if text.count sep = 1 then
    some (text.takeWhile (· ≠ sep), (text.dropWhile (· ≠ sep)).drop 1)
  else none

/-- **A text with one separator.** -/
theorem splitOnce_eq_some {sep : α} {text a b : List α} :
    splitOnce sep text = some (a, b) ↔ text = a ++ sep :: b ∧ sep ∉ a ∧ sep ∉ b := by
  unfold splitOnce
  constructor
  · intro h
    split at h
    · next hcount =>
      obtain ⟨ha, hb⟩ := Prod.mk.inj (Option.some.inj h)
      have hmem : sep ∈ text := List.count_pos_iff.mp (by omega)
      have hfront : sep ∉ a := by
        rw [← ha]
        intro hin
        simpa using List.mem_takeWhile_imp hin
      have hsplit : text = a ++ sep :: b := by
        have happend := List.takeWhile_append_dropWhile (p := fun x => decide (x ≠ sep)) (l := text)
        cases hdrop : text.dropWhile (fun x => decide (x ≠ sep)) with
        | nil =>
          have hall := List.dropWhile_eq_nil_iff.mp hdrop sep hmem
          simp at hall
        | cons c rest =>
          have hc : c = sep := by
            have hhead := List.head?_dropWhile_not (fun x => decide (x ≠ sep)) text
            rw [hdrop] at hhead
            simpa using hhead
          rw [hdrop] at happend hb
          rw [← happend, ha, hc, ← hb]
          rfl
      refine ⟨hsplit, hfront, fun hin => ?_⟩
      rw [hsplit, List.count_append, List.count_eq_zero.mpr hfront, List.count_cons_self] at hcount
      have hpos := List.count_pos_iff.mpr hin
      omega
    · cases h
  · rintro ⟨rfl, ha, hb⟩
    have hcount : (a ++ sep :: b).count sep = 1 := by
      rw [List.count_append, List.count_cons_self, List.count_eq_zero.mpr ha,
        List.count_eq_zero.mpr hb]
    have hfront : ∀ x ∈ a, decide (x ≠ sep) = true := by
      intro x hx
      simp only [decide_eq_true_eq]
      rintro rfl
      exact ha hx
    rw [if_pos hcount, List.takeWhile_append_of_pos hfront, List.dropWhile_append_of_pos hfront]
    simp

end OpenArm.Lib
