/-
  OpenArm.Lib.Tally — two ways to hold values against a requirement.

  `scan` stops at the first value that is too small.  A `Tally` goes through
  all values; it keeps the smallest one, and apart from it the worst of
  those that were too small, with the key it belongs to.  A NaN is too small
  and is read as minus infinity.

  Main results:
    * `scan_clear`  — what a scan that finds nothing has seen.
    * `Tally.total` — what a tally says at the end: it is clear exactly when
                      no value was too small, its minimum is the least
                      reading, and its key belongs to that reading.
    * `Tally.scan_all` — the two agree.
-/
import OpenArm.Lib.FloatOrder

namespace OpenArm.Lib

variable {κ F : Type} [Floating F]

/-! ## §1. Values and readings. -/

/-- A value that does not meet the requirement. -/
def tooSmall (required value : F) : Bool := Floating.isNan value || decide (value < required)

/-- A NaN counts as minus infinity. -/
def reading (value : F) : F := if Floating.isNan value then Floating.negInfinity else value

/-- What the comparisons say of a value that is not too small. -/
theorem tooSmall_eq_false {required value : F} :
    tooSmall required value = false ↔ value ≤ value ∧ ¬ value < required := by
  simp [tooSmall, Floating.isNan_eq_false]

theorem reading_of_number {value : F} (h : value ≤ value) : reading value = value := by
  unfold reading
  rw [if_neg (by simp [Floating.isNan_eq_false.mpr h])]

/-! ## §2. The scan. -/

/-- Go through the values up to the first that is too small: the smallest value
    seen, from `least` on, and the key of the one that ended the scan. -/
def scan (required : F) : List (κ × F) → F → F × Option κ
  | [], least => (least, none)
  | (key, value) :: rest, least =>
    let least := if value < least then value else least
    if tooSmall required value then (least, some key) else scan required rest least

/-- The smallest of `least` and the values. -/
def smallest (least : F) (entries : List (κ × F)) : F :=
  entries.foldl (fun least entry => Floating.min least entry.2) least

/-- **A scan that finds nothing** has seen every value. -/
theorem scan_clear {required least : F} {entries : List (κ × F)} :
    (scan required entries least).2 = none ↔ ∀ e ∈ entries, tooSmall required e.2 = false := by
  induction entries generalizing least with
  | nil => simp [scan]
  | cons entry rest ih =>
    obtain ⟨key, value⟩ := entry
    by_cases hsmall : tooSmall required value = true
    · simp [scan, hsmall]
    · simp [scan, hsmall, ih]

theorem scan_least {required least : F} {entries : List (κ × F)}
    (h : ∀ e ∈ entries, tooSmall required e.2 = false) :
    (scan required entries least).1 = smallest least entries := by
  induction entries generalizing least with
  | nil => rfl
  | cons entry rest ih =>
    obtain ⟨key, value⟩ := entry
    have hvalue : tooSmall required value = false := h (key, value) List.mem_cons_self
    unfold scan
    rw [hvalue]
    exact ih fun e he => h e (List.mem_cons_of_mem _ he)

/-! ## §3. The tally. -/

/-- The smallest value, and the worst of those that were too small. -/
structure Tally (κ F : Type) where
  minimum : F
  worst : F
  key : Option κ

namespace Tally

/-- One value more. -/
def count (required : F) (t : Tally κ F) (key : κ) (value : F) : Tally κ F :=
  let minimum :=
    if Floating.isNan value then Floating.negInfinity
    else if value < t.minimum then value else t.minimum
  if Floating.isNan value || (decide (value < required) && decide (value < t.worst)) then
    { minimum, worst := if Floating.isNan value then Floating.negInfinity else value
      key := some key }
  else { t with minimum }

/-- What a tally knows: without a key nothing was too small, and a key is that of
    the minimum. -/
structure Sound (required : F) (t : Tally κ F) : Prop where
  number : t.minimum ≤ t.minimum
  clear : t.key = none → ¬ t.minimum < required ∧ t.worst = Floating.infinity
  found : t.key ≠ none → t.worst = t.minimum ∧ t.minimum < required

/-- A tally of all entries. -/
def all (required : F) (t : Tally κ F) (entries : List (κ × F)) : Tally κ F :=
  entries.foldl (fun t entry => t.count required entry.1 entry.2) t

/-- Values that are large enough leave the key as it was. -/
theorem all_key {required : F} {t : Tally κ F} {entries : List (κ × F)}
    (h : ∀ e ∈ entries, tooSmall required e.2 = false) : (t.all required entries).key = t.key := by
  induction entries generalizing t with
  | nil => rfl
  | cons entry rest ih =>
    obtain ⟨key, value⟩ := entry
    have hvalue := h (key, value) List.mem_cons_self
    have hcount : (t.count required key value).key = t.key := by
      simp only [tooSmall, Bool.or_eq_false_iff] at hvalue
      simp [count, hvalue.1, hvalue.2]
    exact (ih fun e he => h e (List.mem_cons_of_mem _ he)).trans hcount

section Order

variable [InfinityOrder F] {required : F} {t : Tally κ F}

/-- **Everything one value can do**: it becomes the minimum under its own key,
    changes nothing, or becomes the minimum of a tally that stays clear. -/
theorem count_cases (hrequired : Floating.isFinite required = true) (h : t.Sound required)
    (key : κ) (value : F) :
    (tooSmall required value = true ∧ t.count required key value =
        { minimum := reading value, worst := reading value, key := some key } ∧
          reading value ≤ t.minimum) ∨
      (t.count required key value = t ∧ t.minimum ≤ reading value ∧
        (tooSmall required value = true → t.key ≠ none)) ∨
      (tooSmall required value = false ∧ t.key = none ∧
        t.count required key value = { t with minimum := value } ∧ value ≤ t.minimum) := by
  have hself : required ≤ required := FloatOrder.le_self_of_isFinite hrequired
  by_cases hnan : Floating.isNan value = true
  · left
    have hreading : reading value = Floating.negInfinity := by simp [reading, hnan]
    refine ⟨by simp [tooSmall, hnan], by simp [count, hnan, hreading], ?_⟩
    rw [hreading]
    exact InfinityOrder.negInfinity_le h.number
  have hnan : Floating.isNan value = false := by simpa using hnan
  have hvalue : value ≤ value := Floating.isNan_eq_false.mp hnan
  have hreading : reading value = value := reading_of_number hvalue
  rw [hreading]
  by_cases hsmall : value < required
  · have hbad : tooSmall required value = true := by simp [tooSmall, hsmall]
    by_cases hkey : t.key = none
    · -- the first value that is too small is below everything seen before
      obtain ⟨hclear, hworst⟩ := h.clear hkey
      have hbelow : value < t.minimum := by
        refine Floating.lt_of_not_le hvalue h.number fun hle => ?_
        have hge : required ≤ t.minimum := Floating.le_of_not_lt h.number hself hclear
        exact Floating.not_le_of_lt hsmall (FloatOrder.le_trans hge hle)
      have hinfinite : value < Floating.infinity := by
        refine Floating.lt_of_not_le hvalue
          (FloatOrder.le_self_right (InfinityOrder.le_infinity hself)) fun hle => ?_
        exact Floating.not_le_of_lt hsmall
          (FloatOrder.le_trans (InfinityOrder.le_infinity hself) hle)
      left
      refine ⟨hbad, ?_, Floating.le_of_lt hbelow⟩
      simp [count, hnan, hsmall, hbelow, hworst, hinfinite]
    · obtain ⟨hworst, hfound⟩ := h.found hkey
      by_cases hbelow : value < t.minimum
      · left
        refine ⟨hbad, ?_, Floating.le_of_lt hbelow⟩
        simp [count, hnan, hsmall, hbelow, hworst]
      · right
        left
        have hworse : ¬ value < t.worst := by
          rw [hworst]
          exact hbelow
        refine ⟨?_, Floating.le_of_not_lt hvalue h.number hbelow, fun _ => hkey⟩
        simp [count, hnan, hsmall, hbelow, hworse]
  · have hgood : tooSmall required value = false := by simp [tooSmall, hnan, hsmall]
    by_cases hbelow : value < t.minimum
    · right
      right
      have hclear : t.key = none := by
        by_contra hkey
        obtain ⟨-, hfound⟩ := h.found hkey
        -- below a minimum that is too small is too small
        have hle := FloatOrder.le_trans (Floating.le_of_lt hbelow) (Floating.le_of_lt hfound)
        refine hsmall (FloatOrder.lt_iff.mpr ⟨hle, fun hge => ?_⟩)
        exact Floating.not_le_of_lt hfound (FloatOrder.le_trans hge (Floating.le_of_lt hbelow))
      refine ⟨hgood, hclear, ?_, Floating.le_of_lt hbelow⟩
      simp [count, hnan, hsmall, hbelow]
    · right
      left
      refine ⟨?_, Floating.le_of_not_lt hvalue h.number hbelow, fun hbad => ?_⟩
      · simp [count, hnan, hsmall, hbelow]
      · rw [hgood] at hbad
        cases hbad

theorem Sound.count (hrequired : Floating.isFinite required = true) (h : t.Sound required)
    (key : κ) (value : F) : (t.count required key value).Sound required := by
  rcases count_cases hrequired h key value with ⟨hbad, heq, hle⟩ | ⟨heq, -⟩ |
    ⟨hgood, hkey, heq, hle⟩
  · rw [heq]
    have hlow : reading value < required := by
      unfold reading
      split
      · exact InfinityOrder.negInfinity_lt hrequired
      · rename_i hnan
        simpa [tooSmall, hnan] using hbad
    refine ⟨FloatOrder.le_self_left hle, fun hnone => ?_, fun _ => ⟨rfl, hlow⟩⟩
    cases hnone
  · rw [heq]
    exact h
  · rw [heq]
    obtain ⟨hvalue, hnot⟩ := tooSmall_eq_false.mp hgood
    exact ⟨hvalue, fun _ => ⟨hnot, (h.clear hkey).2⟩, fun hsome => absurd hkey hsome⟩

/-- **What a tally says at the end.** -/
structure Total (required : F) (start t : Tally κ F) (entries : List (κ × F)) : Prop where
  sound : t.Sound required
  clear : t.key = none ↔ start.key = none ∧ ∀ e ∈ entries, tooSmall required e.2 = false
  le_start : t.minimum ≤ start.minimum
  least : ∀ e ∈ entries, t.minimum ≤ reading e.2
  attained : (t.minimum = start.minimum ∧ t.key = start.key) ∨
    ∃ e ∈ entries, t.minimum = reading e.2 ∧ (t.key ≠ none → t.key = some e.1)

theorem total (hrequired : Floating.isFinite required = true) (h : t.Sound required)
    (entries : List (κ × F)) : Total required t (t.all required entries) entries := by
  induction entries generalizing t with
  | nil =>
    refine ⟨h, ?_, h.number, fun _ hmem => (List.not_mem_nil hmem).elim, .inl ⟨rfl, rfl⟩⟩
    exact ⟨fun hkey => ⟨hkey, fun _ hmem => (List.not_mem_nil hmem).elim⟩, fun hboth => hboth.1⟩
  | cons entry rest ih =>
    obtain ⟨key, value⟩ := entry
    have hnext := ih (h.count hrequired key value)
    have hcases := count_cases hrequired h key value
    show Total required t ((t.count required key value).all required rest) _
    have hstart : (t.count required key value).minimum ≤ t.minimum ∧
        (t.count required key value).minimum ≤ reading value ∧
          ((t.count required key value).key = none ↔
            t.key = none ∧ tooSmall required value = false) := by
      rcases hcases with ⟨hbad, heq, hle⟩ | ⟨heq, hle, hkey⟩ | ⟨hgood, hkey, heq, hle⟩
      · rw [heq]
        exact ⟨hle, FloatOrder.le_self_left hle, by simp [hbad]⟩
      · rw [heq]
        refine ⟨h.number, hle, fun hnone => ⟨hnone, ?_⟩, fun hboth => hboth.1⟩
        by_contra hbad
        exact hkey (by simpa using hbad) hnone
      · rw [heq]
        have hvalue := (tooSmall_eq_false.mp hgood).1
        rw [reading_of_number hvalue]
        exact ⟨hle, hvalue, by simp [hkey, hgood]⟩
    refine ⟨hnext.sound, ?_, FloatOrder.le_trans hnext.le_start hstart.1, ?_, ?_⟩
    · rw [hnext.clear, hstart.2.2]
      simp [and_assoc]
    · intro e he
      rcases List.mem_cons.mp he with rfl | hlater
      · exact FloatOrder.le_trans hnext.le_start hstart.2.1
      · exact hnext.least e hlater
    · rcases hnext.attained with ⟨hminimum, hkey⟩ | ⟨e, he, hminimum, hkey⟩
      · rcases hcases with ⟨-, heq, -⟩ | ⟨heq, -⟩ | ⟨hgood, hnone, heq, -⟩
        · rw [heq] at hminimum hkey ⊢
          exact .inr ⟨(key, value), List.mem_cons_self, hminimum, fun _ => hkey⟩
        · rw [heq] at hminimum hkey ⊢
          exact .inl ⟨hminimum, hkey⟩
        · rw [heq] at hminimum hkey ⊢
          have hvalue := (tooSmall_eq_false.mp hgood).1
          refine .inr ⟨(key, value), List.mem_cons_self,
            hminimum.trans (reading_of_number hvalue).symm, fun hsome => ?_⟩
          exact absurd (hkey.trans hnone) hsome
      · exact .inr ⟨e, List.mem_cons_of_mem _ he, hminimum, hkey⟩

omit [InfinityOrder F] in
/-- A clear tally has the smallest value. -/
theorem all_minimum {entries : List (κ × F)}
    (hclear : ∀ e ∈ entries, tooSmall required e.2 = false) :
    (t.all required entries).minimum = smallest t.minimum entries := by
  induction entries generalizing t with
  | nil => rfl
  | cons entry rest ih =>
    obtain ⟨key, value⟩ := entry
    obtain ⟨hvalue, hnot⟩ := tooSmall_eq_false.mp (hclear (key, value) List.mem_cons_self)
    have hcount : (t.count required key value).minimum = Floating.min t.minimum value := by
      simp [count, Floating.isNan_eq_false.mpr hvalue, hnot, Floating.min]
    show ((t.count required key value).all required rest).minimum = smallest _ rest
    rw [ih fun e he => hclear e (List.mem_cons_of_mem _ he), hcount]

/-- **The two agree**: a scan finds nothing exactly when a tally is clear, and
    then with the same minimum. -/
theorem scan_all (hrequired : Floating.isFinite required = true) {start : F}
    (entries : List (κ × F)) (h : (⟨start, Floating.infinity, none⟩ : Tally κ F).Sound required) :
    ((scan required entries start).2 = none ↔
      ((⟨start, Floating.infinity, none⟩ : Tally κ F).all required entries).key = none) ∧
      ((scan required entries start).2 = none → (scan required entries start).1 =
        ((⟨start, Floating.infinity, none⟩ : Tally κ F).all required entries).minimum) := by
  have htotal := total hrequired h entries
  refine ⟨?_, fun hclear => ?_⟩
  · rw [scan_clear, htotal.clear]
    exact ⟨fun hall => ⟨rfl, hall⟩, fun hboth => hboth.2⟩
  · have hall := scan_clear.mp hclear
    rw [scan_least hall, all_minimum hall]

end Order

end Tally

end OpenArm.Lib
