/-
  OpenArm.Lib.Decimal — decimal numbers in texts.

  A `Literal` is the written form of a number: sign, digits, fraction and
  exponent.  Two grammars are told apart: the GENERAL one of C and C++, and the
  one of JSON.  `fromChars` is the conversion to the nearest binary64 number.

  Main results:
    * `scan_text`        — what is read of a text stands in it.
    * `scan_general`     — a general decimal is read whole.
    * `fromChars_finite` — the texts that convert to a finite number.
-/
import OpenArm.Lib.Binary32
import OpenArm.Lib.Stream
import Mathlib

namespace OpenArm.Lib

/-! ## §1. Written numbers. -/

/-- The exponent of a decimal. -/
structure Exponent where
  letter : Char
  sign : List Char
  digits : List Char
  deriving DecidableEq

/-- A decimal number as it is written. -/
structure Literal where
  negative : Bool
  whole : List Char
  fraction : Option (List Char)
  exponent : Option Exponent
  deriving DecidableEq

/-- The characters of an exponent. -/
def Exponent.text (e : Exponent) : List Char := e.letter :: (e.sign ++ e.digits)

/-- Its value. -/
def Exponent.value (e : Exponent) : Int :=
  if e.sign = ['-'] then -digitsValue e.digits else digitsValue e.digits

namespace Literal

variable (d : Literal)

/-- The characters of the fraction. -/
def fractionText : List Char := d.fraction.elim [] ('.' :: ·)

/-- The characters of the exponent. -/
def exponentText : List Char := d.exponent.elim [] Exponent.text

/-- The text of a decimal. -/
def text : List Char :=
  (if d.negative then ['-'] else []) ++ (d.whole ++ (d.fractionText ++ d.exponentText))

/-- The number a decimal stands for. -/
def value : ℚ :=
  (if d.negative then -1 else 1) * digitsValue (d.whole ++ d.fraction.getD []) *
    10 ^ (d.exponent.elim 0 Exponent.value - (d.fraction.getD []).length)

end Literal

/-- Digits only. -/
def Digits (text : List Char) : Prop := ∀ c ∈ text, Char.isDigit c = true

/-- An exponent as both grammars have it. -/
structure Exponent.Written (e : Exponent) : Prop where
  letter : e.letter = 'e' ∨ e.letter = 'E'
  sign : e.sign = [] ∨ e.sign = ['+'] ∨ e.sign = ['-']
  digits : Digits e.digits
  some_digit : e.digits ≠ []

/-- The general grammar: digits on either side of the point. -/
structure Literal.General (d : Literal) : Prop where
  whole : Digits d.whole
  fraction : Digits (d.fraction.getD [])
  some_digit : d.whole ≠ [] ∨ d.fraction.getD [] ≠ []
  exponent : ∀ e ∈ d.exponent, e.Written

/-- The grammar of JSON: no redundant zero, and digits on both sides of a point. -/
structure Literal.Json (d : Literal) : Prop extends Literal.General d where
  int : d.whole = ['0'] ∨ d.whole.head?.any (· != '0')
  frac : d.fraction ≠ some []

/-! ## §2. Reading. -/

/-- A minus sign. -/
def scanMinus : List Char → Bool × List Char
  | '-' :: rest => (true, rest)
  | text => (false, text)

/-- A point and the digits that follow it. -/
def scanFraction : List Char → Option (List Char) × List Char
  | '.' :: rest => (some (rest.takeWhile Char.isDigit), rest.dropWhile Char.isDigit)
  | text => (none, text)

/-- The sign of an exponent. -/
def scanSign : List Char → List Char × List Char
  | '+' :: rest => (['+'], rest)
  | '-' :: rest => (['-'], rest)
  | text => ([], text)

/-- An exponent, if it is complete. -/
def scanExponent : List Char → Option Exponent × List Char
  | [] => (none, [])
  | letter :: rest =>
    if letter = 'e' ∨ letter = 'E' then
      let (sign, rest') := scanSign rest
      let digits := rest'.takeWhile Char.isDigit
      if digits = [] then (none, letter :: rest)
      else (some ⟨letter, sign, digits⟩, rest'.dropWhile Char.isDigit)
    else (none, letter :: rest)

/-- The decimal at the beginning of a text and what follows it. -/
def scanDecimal (text : List Char) : Literal × List Char :=
  let (negative, rest) := scanMinus text
  let whole := rest.takeWhile Char.isDigit
  let (fraction, rest) := scanFraction (rest.dropWhile Char.isDigit)
  let (exponent, rest) := scanExponent rest
  (⟨negative, whole, fraction, exponent⟩, rest)

theorem digits_takeWhile (text : List Char) : Digits (text.takeWhile Char.isDigit) := by
  intro c hc
  exact List.mem_takeWhile_imp hc

theorem scanMinus_text (text : List Char) :
    (if (scanMinus text).1 then ['-'] else []) ++ (scanMinus text).2 = text := by
  unfold scanMinus
  split <;> rfl

theorem scanFraction_text (text : List Char) :
    (scanFraction text).1.elim [] ('.' :: ·) ++ (scanFraction text).2 = text := by
  unfold scanFraction
  split
  · simp
  · rfl

theorem scanSign_text (text : List Char) : (scanSign text).1 ++ (scanSign text).2 = text := by
  unfold scanSign
  split <;> rfl

theorem scanSign_cases (text : List Char) :
    (scanSign text).1 = [] ∨ (scanSign text).1 = ['+'] ∨ (scanSign text).1 = ['-'] := by
  unfold scanSign
  split <;> simp

theorem scanExponent_text (text : List Char) :
    (scanExponent text).1.elim [] Exponent.text ++ (scanExponent text).2 = text := by
  unfold scanExponent
  split
  · rfl
  · split
    · dsimp only
      split
      · rfl
      · next letter rest _ _ =>
        have hsign := scanSign_text rest
        simp [Exponent.text, hsign]
    · rfl

theorem scanExponent_written {text : List Char} {e : Exponent}
    (h : (scanExponent text).1 = some e) : e.Written := by
  unfold scanExponent at h
  split at h
  · cases h
  · split at h
    · next hletter =>
      dsimp only at h
      split at h
      · cases h
      · next hdigits =>
        cases h
        exact ⟨hletter, scanSign_cases _, digits_takeWhile _, hdigits⟩
    · cases h

/-- **What is read stands in the text.** -/
theorem scan_text (text : List Char) : (scanDecimal text).1.text ++ (scanDecimal text).2 = text := by
  have hminus := scanMinus_text text
  have hwhole := List.takeWhile_append_dropWhile (p := Char.isDigit) (l := (scanMinus text).2)
  have hfraction := scanFraction_text ((scanMinus text).2.dropWhile Char.isDigit)
  have hexponent := scanExponent_text
    (scanFraction ((scanMinus text).2.dropWhile Char.isDigit)).2
  show (_ ++ (_ ++ (_ ++ _))) ++ _ = text
  calc _ = (if (scanMinus text).1 then ['-'] else []) ++
        ((scanMinus text).2.takeWhile Char.isDigit ++
          ((scanFraction ((scanMinus text).2.dropWhile Char.isDigit)).1.elim [] ('.' :: ·) ++
            ((scanExponent (scanFraction ((scanMinus text).2.dropWhile Char.isDigit)).2).1.elim
              [] Exponent.text ++
            (scanExponent (scanFraction ((scanMinus text).2.dropWhile Char.isDigit)).2).2))) := by
        simp only [List.append_assoc]
        rfl
    _ = text := by rw [hexponent, hfraction, hwhole, hminus]

/-- What is read is general as soon as there is a digit. -/
theorem scan_general_of_digit {text : List Char}
    (h : (scanDecimal text).1.whole ≠ [] ∨ (scanDecimal text).1.fraction.getD [] ≠ []) :
    (scanDecimal text).1.General where
  whole := digits_takeWhile _
  fraction := by
    show Digits ((scanFraction ((scanMinus text).2.dropWhile Char.isDigit)).1.getD [])
    unfold scanFraction
    split
    · exact digits_takeWhile _
    · intro c hc
      cases hc
  some_digit := h
  exponent := fun _ he => scanExponent_written he

/-! ## §3. A general decimal is read whole. -/

/-- A text that goes on with no digit. -/
def NoDigit (text : List Char) : Prop := ∀ c ∈ text.head?, Char.isDigit c = false

theorem take_digits {digits rest : List Char} (h : Digits digits) (hrest : NoDigit rest) :
    (digits ++ rest).takeWhile Char.isDigit = digits ∧
      (digits ++ rest).dropWhile Char.isDigit = rest := by
  rw [List.takeWhile_append_of_pos h, List.dropWhile_append_of_pos h]
  cases rest with
  | nil => simp
  | cons c rest =>
    have hc : Char.isDigit c = false := hrest c rfl
    rw [List.takeWhile_cons_of_neg (by simp [hc]), List.dropWhile_cons_of_neg (by simp [hc])]
    simp

namespace Literal

variable {d : Literal} (h : d.General)

include h

theorem noDigit_exponentText : NoDigit d.exponentText := by
  unfold exponentText
  cases he : d.exponent with
  | none =>
    intro c hc
    cases hc
  | some e =>
    intro c hc
    cases hc
    obtain hl | hl := (h.exponent e he).letter
    · rw [hl]
      decide
    · rw [hl]
      decide

theorem noDigit_fraction : NoDigit (d.fractionText ++ d.exponentText) := by
  unfold fractionText
  cases hf : d.fraction with
  | none => exact noDigit_exponentText h
  | some digits =>
    intro c hc
    cases hc
    decide

theorem scanFraction_general :
    scanFraction (d.fractionText ++ d.exponentText) = (d.fraction, d.exponentText) := by
  unfold fractionText
  cases hf : d.fraction with
  | none =>
    -- an exponent begins with no point
    show scanFraction d.exponentText = _
    unfold exponentText
    cases he : d.exponent with
    | none => rfl
    | some e =>
      obtain hl | hl := (h.exponent e he).letter
      all_goals
        simp only [Option.elim_some, Exponent.text, hl]
        rfl
  | some digits =>
    have hdigits : Digits digits := by
      have hall := h.fraction
      rwa [hf] at hall
    obtain ⟨htake, hdrop⟩ := take_digits hdigits (noDigit_exponentText h)
    show (some ((digits ++ d.exponentText).takeWhile Char.isDigit),
      (digits ++ d.exponentText).dropWhile Char.isDigit) = _
    rw [htake, hdrop]

/-- Behind its sign a decimal begins with a digit or a point. -/
theorem first_general : ∃ c rest, d.whole ++ (d.fractionText ++ d.exponentText) = c :: rest ∧
    (Char.isDigit c = true ∨ c = '.') := by
  cases hw : d.whole with
  | cons c more =>
    refine ⟨c, _, rfl, Or.inl (h.whole c ?_)⟩
    rw [hw]
    exact List.mem_cons_self
  | nil =>
    cases hf : d.fraction with
    | none =>
      obtain hdigit | hdigit := h.some_digit
      · exact absurd hw hdigit
      · exact absurd (by rw [hf]; rfl) hdigit
    | some digits =>
      refine ⟨'.', digits ++ d.exponentText, ?_, Or.inr rfl⟩
      unfold fractionText
      rw [hf]
      rfl

theorem scanExponent_general : scanExponent d.exponentText = (d.exponent, []) := by
  unfold exponentText
  cases he : d.exponent with
  | none => rfl
  | some e =>
    have hw := h.exponent e he
    have hsign : scanSign (e.sign ++ e.digits) = (e.sign, e.digits) := by
      obtain hs | hs | hs := hw.sign
      · rw [hs]
        cases hd : e.digits with
        | nil => exact absurd hd hw.some_digit
        | cons c rest =>
          have hc : Char.isDigit c = true := hw.digits c (by rw [hd]; exact List.mem_cons_self)
          show scanSign (c :: rest) = _
          unfold scanSign
          split
          · next heq =>
            rw [(List.cons.inj heq).1] at hc
            exact absurd hc (by decide)
          · next heq =>
            rw [(List.cons.inj heq).1] at hc
            exact absurd hc (by decide)
          · rfl
      · rw [hs]
        rfl
      · rw [hs]
        rfl
    have hnone : NoDigit [] := fun c hc => absurd hc (Option.not_mem_none c)
    have hall := take_digits hw.digits hnone
    rw [List.append_nil] at hall
    show scanExponent (e.letter :: (e.sign ++ e.digits)) = _
    unfold scanExponent
    dsimp only
    rw [if_pos hw.letter, hsign]
    dsimp only
    rw [hall.1, hall.2, if_neg hw.some_digit]

theorem scanMinus_general :
    scanMinus d.text = (d.negative, d.whole ++ (d.fractionText ++ d.exponentText)) := by
  unfold text
  cases hn : d.negative with
  | true => rfl
  | false =>
    obtain ⟨c, rest, hrest, hc⟩ := first_general h
    show scanMinus (d.whole ++ (d.fractionText ++ d.exponentText)) = _
    rw [hrest]
    unfold scanMinus
    split
    · next heq =>
      -- neither a digit nor a point is a minus
      rw [(List.cons.inj heq).1] at hc
      exact absurd hc (by decide)
    · rfl

/-- **A general decimal is read whole.** -/
theorem scan_general : scanDecimal d.text = (d, []) := by
  obtain ⟨htake, hdrop⟩ := take_digits h.whole (noDigit_fraction h)
  unfold scanDecimal
  rw [scanMinus_general h]
  dsimp only
  rw [htake, hdrop, scanFraction_general h]
  dsimp only
  rw [scanExponent_general h]

omit h in
/-- A text writes one decimal only. -/
theorem text_injective {d e : Literal} (hd : d.General) (he : e.General) (h : d.text = e.text) :
    d = e := by
  have hscan := scan_general hd
  rw [h, scan_general he] at hscan
  exact (Prod.mk.inj hscan).1.symm

end Literal

/-! ## §4. Conversion. -/

/-- The binary64 number nearest to a number, with an unbounded exponent above;
    ties go to even. -/
def nearestBinary64 (x : ℚ) : ℚ :=
  let scale := max (Int.log 2 |x|) (-1022)
  let magnitude := (Binary32.roundEven (|x| * 2 ^ (52 - scale)) : ℚ) * 2 ^ (scale - 52)
  if x < 0 then -magnitude else magnitude

/-- The nearest number is too large for a finite one. -/
def Overflows (x : ℚ) : Prop := 2 ^ 1024 ≤ |nearestBinary64 x|

/-- The nearest number is zero, and the number itself is not. -/
def Underflows (x : ℚ) : Prop := x ≠ 0 ∧ nearestBinary64 x = 0

instance (x : ℚ) : Decidable (Overflows x) := by unfold Overflows; infer_instance

instance (x : ℚ) : Decidable (Underflows x) := by unfold Underflows; infer_instance

/-- What a conversion leaves. -/
inductive FromChars where
  | invalid
  | outOfRange (rest : List Char)
  /-- An infinity or a NaN. -/
  | special (rest : List Char)
  | finite (x : ℚ) (rest : List Char)

/-- The text after a word, if the text begins with it in either case. -/
def afterWord (word text : List Char) : Option (List Char) :=
  if (text.take word.length).map Char.toLower = word then some (text.drop word.length) else none

/-- The text after a spelled infinity or NaN. -/
def afterSpecial (text : List Char) : Option (List Char) :=
  match afterWord "infinity".toList text with
  | some rest => some rest
  | none =>
    match afterWord "inf".toList text with
    | some rest => some rest
    | none =>
      match afterWord "nan".toList text with
      | some ('(' :: rest) =>
        match rest.dropWhile fun c => c.isAlphanum || c == '_' with
        | ')' :: rest' => some rest'
        | _ => some ('(' :: rest)
      | other => other

/-- `std::from_chars` with the general format. -/
def fromChars (text : List Char) : FromChars :=
  match afterSpecial (scanMinus text).2 with
  | some rest => .special rest
  | none =>
    let (d, rest) := scanDecimal text
    if d.whole = [] ∧ d.fraction.getD [] = [] then .invalid
    else if Overflows d.value ∨ Underflows d.value then .outOfRange rest
    else .finite (nearestBinary64 d.value) rest

theorem afterWord_other {word text : List Char} {first c : Char} (hword : word.head? = some first)
    (htext : text.head? = some c) (hne : c.toLower ≠ first) : afterWord word text = none := by
  unfold afterWord
  obtain ⟨more, rfl⟩ := List.head?_eq_some_iff.mp hword
  obtain ⟨rest, rfl⟩ := List.head?_eq_some_iff.mp htext
  rw [if_neg]
  intro heq
  exact hne (List.cons.inj heq).1

theorem digit_cases {c : Char} (h : Char.isDigit c = true) : ∃ k < 10, c = digitChar k := by
  unfold Char.isDigit at h
  simp only [Bool.and_eq_true, decide_eq_true_eq] at h
  have hlow : 48 ≤ c.toNat := h.1
  have hhigh : c.toNat ≤ 57 := h.2
  refine ⟨c.toNat - 48, by omega, ?_⟩
  unfold digitChar
  rw [show '0'.toNat + (c.toNat - 48) = c.toNat from Nat.add_sub_cancel' hlow]
  exact (Char.ofNat_toNat c).symm

/-- No decimal begins like an infinity or a NaN. -/
theorem afterSpecial_general {d : Literal} (h : d.General) :
    afterSpecial (scanMinus d.text).2 = none := by
  obtain ⟨c, rest, hrest, hc⟩ := Literal.first_general h
  have hhead : (scanMinus d.text).2.head? = some c := by
    rw [Literal.scanMinus_general h, hrest]
    rfl
  have hlower : c.toLower ≠ 'i' ∧ c.toLower ≠ 'n' := by
    obtain hdigit | rfl := hc
    · obtain ⟨k, hk, rfl⟩ := digit_cases hdigit
      interval_cases k <;> decide
    · decide
  obtain ⟨hi, hn⟩ := hlower
  unfold afterSpecial
  rw [afterWord_other (show "infinity".toList.head? = some 'i' by decide +kernel) hhead hi,
    afterWord_other (show "inf".toList.head? = some 'i' by decide +kernel) hhead hi,
    afterWord_other (show "nan".toList.head? = some 'n' by decide +kernel) hhead hn]

/-- **The texts that convert to a finite number** are the general decimals in range. -/
theorem fromChars_finite {text : List Char} {x : ℚ} :
    fromChars text = .finite x [] ↔ ∃ d : Literal, d.General ∧ d.text = text ∧
      ¬ Overflows d.value ∧ ¬ Underflows d.value ∧ nearestBinary64 d.value = x := by
  constructor
  · intro h
    unfold fromChars at h
    split at h
    · cases h
    · dsimp only at h
      split at h
      · cases h
      · next hdigit =>
        split at h
        · cases h
        · next hrange =>
          obtain ⟨hx, hrest⟩ := FromChars.finite.inj h
          have htext := scan_text text
          rw [hrest, List.append_nil] at htext
          exact ⟨(scanDecimal text).1, scan_general_of_digit (not_and_or.mp hdigit), htext,
            fun ho => hrange (Or.inl ho), fun hu => hrange (Or.inr hu), hx⟩
  · rintro ⟨d, hd, rfl, hover, hunder, rfl⟩
    unfold fromChars
    rw [afterSpecial_general hd, Literal.scan_general hd]
    dsimp only
    rw [if_neg (not_and_or.mpr hd.some_digit), if_neg (not_or.mpr ⟨hover, hunder⟩)]

end OpenArm.Lib
