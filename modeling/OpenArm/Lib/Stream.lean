/-
  OpenArm.Lib.Stream — formatted extraction from a text stream.

  `stream >> value` skips white space and takes as many characters as spell a
  value.  A failed extraction may still have written its variable.  Extraction
  of whole numbers is defined here; for other values a reader is described by
  what it takes back of a printed text (`Reads`).

  Main results:
    * `readUnsigned_digit` / `readSigned_unit` — small whole numbers read back.
    * `readAll_spells`    — a text that spells some values is read as them.
-/
import Mathlib

namespace OpenArm.Lib

/-- What `stream >> value` leaves: the value and the rest of the text, or the
    failed state, with what was written if anything was. -/
inductive Extraction (α : Type) where
  | value (a : α) (rest : List Char)
  | failure (written : Option α)

/-! ## §1. White space. -/

/-- `std::isspace` in the classic locale. -/
def isSpace (c : Char) : Bool :=
  c == ' ' || c == '\t' || c == '\n' || c == '\x0b' || c == '\x0c' || c == '\r'

/-- The text after its leading white space. -/
def skipSpace (text : List Char) : List Char := text.dropWhile isSpace

theorem skipSpace_spaces {spaces text : List Char} (h : ∀ c ∈ spaces, isSpace c = true) :
    skipSpace (spaces ++ text) = skipSpace text := by
  unfold skipSpace
  induction spaces with
  | nil => rfl
  | cons c spaces ih =>
    rw [List.cons_append, List.dropWhile_cons, if_pos (h c (by simp))]
    exact ih fun d hd => h d (by simp [hd])

theorem skipSpace_solid {c : Char} {text : List Char} (h : isSpace c = false) :
    skipSpace (c :: text) = c :: text := by
  unfold skipSpace
  rw [List.dropWhile_cons, if_neg (by simp [h])]

theorem spaces_singleton {c : Char} (h : isSpace c = true) : ∀ d ∈ [c], isSpace d = true := by
  intro d hd
  rw [List.mem_singleton.mp hd]
  exact h

/-- A text that no longer belongs to the value before it. -/
def Ends (text : List Char) : Prop := ∀ c ∈ text.head?, isSpace c = true

/-! ## §2. Whole numbers. -/

/-- The value of some decimal digits. -/
def digitsValue (digits : List Char) : Nat :=
  digits.foldl (fun value c => 10 * value + (c.toNat - '0'.toNat)) 0

/-- A sign and the digits that follow it. -/
def readSignDigits (text : List Char) : Bool × List Char × List Char :=
  match skipSpace text with
  | '-' :: rest => (true, rest.takeWhile Char.isDigit, rest.dropWhile Char.isDigit)
  | '+' :: rest => (false, rest.takeWhile Char.isDigit, rest.dropWhile Char.isDigit)
  | rest => (false, rest.takeWhile Char.isDigit, rest.dropWhile Char.isDigit)

/-- Extraction of an unsigned integer of this many bits: a minus sign negates
    modulo their power. -/
def readUnsigned (bits : Nat) (text : List Char) : Extraction Nat :=
  match skipSpace text with
  | [] => .failure none
  | _ =>
    match readSignDigits text with
    | (_, [], _) => .failure (some 0)
    | (negative, digits, rest) =>
      if 2 ^ bits ≤ digitsValue digits then .failure (some (2 ^ bits - 1))
      else if negative then .value ((2 ^ bits - digitsValue digits) % 2 ^ bits) rest
      else .value (digitsValue digits) rest

/-- Extraction of a signed integer of this many bits. -/
def readSigned (bits : Nat) (text : List Char) : Extraction Int :=
  match skipSpace text with
  | [] => .failure none
  | _ =>
    match readSignDigits text with
    | (_, [], _) => .failure (some 0)
    | (true, digits, rest) =>
      if 2 ^ (bits - 1) < digitsValue digits then .failure (some (-2 ^ (bits - 1)))
      else .value (-digitsValue digits) rest
    | (false, digits, rest) =>
      if 2 ^ (bits - 1) ≤ digitsValue digits then .failure (some (2 ^ (bits - 1) - 1))
      else .value (digitsValue digits) rest

/-- The digit of a number below ten. -/
def digitChar (n : Nat) : Char := Char.ofNat ('0'.toNat + n)

theorem ends_cons {c : Char} {text : List Char} (h : isSpace c = true) : Ends (c :: text) := by
  intro d hd
  cases hd
  exact h

theorem takeWhile_ends {text : List Char} (h : Ends text) :
    text.takeWhile Char.isDigit = [] ∧ text.dropWhile Char.isDigit = text := by
  have hspace : ∀ c : Char, isSpace c = true → Char.isDigit c = false := by
    intro c hc
    simp only [isSpace, Bool.or_eq_true, beq_iff_eq] at hc
    obtain ((((rfl | rfl) | rfl) | rfl) | rfl) | rfl := hc <;> decide
  cases text with
  | nil => exact ⟨rfl, rfl⟩
  | cons c text =>
    have hc := hspace c (h c rfl)
    rw [List.takeWhile_cons, List.dropWhile_cons, hc]
    exact ⟨rfl, rfl⟩

/-- **A digit that stands alone** is read as its number. -/
theorem readUnsigned_digit {n bits : Nat} {spaces rest : List Char} (hn : n < 10)
    (hbits : 4 ≤ bits) (hspaces : ∀ c ∈ spaces, isSpace c = true) (h : Ends rest) :
    readUnsigned bits (spaces ++ digitChar n :: rest) = .value n rest := by
  have hbound : ¬ 2 ^ bits ≤ n := by
    have hpow : 2 ^ 4 ≤ 2 ^ bits := Nat.pow_le_pow_right (by decide) hbits
    omega
  obtain ⟨htake, hdrop⟩ := takeWhile_ends h
  unfold readUnsigned readSignDigits
  rw [skipSpace_spaces hspaces]
  interval_cases n <;>
  · rw [skipSpace_solid (by decide)]
    simp [digitChar, htake, hdrop, digitsValue] at hbound ⊢
    try omega

/-- **The units** are read as such. -/
theorem readSigned_unit {bits : Nat} {spaces rest : List Char} (hbits : 4 ≤ bits)
    (hspaces : ∀ c ∈ spaces, isSpace c = true) (h : Ends rest) :
    readSigned bits (spaces ++ '1' :: rest) = .value 1 rest ∧
      readSigned bits (spaces ++ '-' :: '1' :: rest) = .value (-1) rest := by
  have hbound : 2 ^ 3 ≤ 2 ^ (bits - 1) := Nat.pow_le_pow_right (by decide) (by omega)
  obtain ⟨htake, hdrop⟩ := takeWhile_ends h
  unfold readSigned readSignDigits
  rw [skipSpace_spaces hspaces, skipSpace_spaces hspaces, skipSpace_solid (by decide),
    skipSpace_solid (by decide)]
  constructor
  · simp [htake, hdrop, digitsValue]
    omega
  · simp [htake, hdrop, digitsValue]

/-! ## §3. Printed values. -/

section Printed

variable {α : Type} {read : List Char → Extraction α} {print : α → List Char} {good : α → Bool}

/-- A reader takes back what is printed of the good values, and skips white
    space before them. -/
structure ReadsBack (read : List Char → Extraction α) (print : α → List Char)
    (good : α → Bool) : Prop where
  back : ∀ a rest, good a = true → Ends rest → read (print a ++ rest) = .value a rest
  skips : ∀ c text, isSpace c = true → read (c :: text) = read text

/-- A text that spells good values, each after white space, up to a rest. -/
inductive Spells (print : α → List Char) (good : α → Bool) :
    List α → List Char → List Char → Prop where
  | nil (rest : List Char) : Spells print good [] rest rest
  | cons {a : α} {values : List α} {spaces text rest : List Char}
      (hspaces : ∀ c ∈ spaces, isSpace c = true) (hgood : good a = true) (hends : Ends text)
      (h : Spells print good values text rest) :
      Spells print good (a :: values) (spaces ++ (print a ++ text)) rest

/-- Several extractions in a row; `none` when one fails. -/
def readAll (read : List Char → Extraction α) : Nat → List Char → Option (List α × List Char)
  | 0, text => some ([], text)
  | count + 1, text =>
    match read text with
    | .failure _ => none
    | .value a rest => (readAll read count rest).map fun (values, rest) => (a :: values, rest)

theorem ReadsBack.spaces (h : ReadsBack read print good) {spaces text : List Char}
    (hspaces : ∀ c ∈ spaces, isSpace c = true) : read (spaces ++ text) = read text := by
  induction spaces with
  | nil => rfl
  | cons c spaces ih =>
    rw [List.cons_append, h.skips c _ (hspaces c (by simp))]
    exact ih fun d hd => hspaces d (by simp [hd])

theorem spells_good {values : List α} {text rest : List Char}
    (h : Spells print good values text rest) : ∀ a ∈ values, good a = true := by
  induction h with
  | nil => simp
  | cons _ hgood _ _ ih => simpa [hgood] using ih

/-- **A text that spells some values is read as them.** -/
theorem readAll_spells (h : ReadsBack read print good) {values : List α} {text rest : List Char}
    (hspells : Spells print good values text rest) :
    readAll read values.length text = some (values, rest) := by
  induction hspells with
  | nil rest => rfl
  | @cons a values spaces text rest hspaces hgood hends _ ih =>
    show readAll read (values.length + 1) _ = _
    unfold readAll
    rw [h.spaces hspaces, h.back a text hgood hends]
    dsimp only
    rw [ih]
    rfl

end Printed

end OpenArm.Lib
