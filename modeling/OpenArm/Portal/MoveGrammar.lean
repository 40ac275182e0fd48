/-
  OpenArm.Portal.MoveGrammar — which bodies the move parsers accept.

  A body is an object whose members are given as pairs of tokens with padding
  around them.  What counts as a number is a parameter of the grammar: the
  numbers of JSON, or those the parsers take.

  Main results:
    * `parse_eq_ok`     — a parser accepts its grammar over the numbers it takes.
    * `decode_perm`     — the order of the members does not matter.
    * `moves_parsed`    — the four parsers accept the same over JSON's numbers,
      apart from two kinds of bodies.
    * `loose_number`    — one of the first kind.
-/
import OpenArm.Portal.StrictJson
import Mathlib

namespace OpenArm.Portal

open OpenArm.Lib

/-! ## §1. The grammar. -/

/-- A member of an object: a key, a colon and a value, with their padding. -/
structure Member where
  lead : Text
  key : Text
  gap : Text
  mid : Text
  value : Text
  tail : Text

namespace Member

/-- Key and value. -/
def pair (m : Member) : Text × Text := (m.key, m.value)

/-- The text of a member. -/
def text (m : Member) : Text :=
  (m.lead ++ (m.key ++ m.gap)) ++ ':' :: (m.mid ++ (m.value ++ m.tail))

/-- Only padding stands around the tokens. -/
structure Spaced (m : Member) : Prop where
  lead : Padding isPad m.lead
  gap : Padding isPad m.gap
  mid : Padding isPad m.mid
  tail : Padding isPad m.tail

end Member

/-- A number of JSON, short and of a finite value. -/
def JsonNumber (valid : ℚ → Bool) (text : Text) : Prop :=
  text.length ≤ 32 ∧ ∃ d : Literal, d.Json ∧ d.text = text ∧
    ¬ Overflows d.value ∧ valid (nearestBinary64 d.value) = true

variable {σ : Type}

/-- The values a rule admits, for a notion of numbers. -/
def Rule.Admits (Num : (ℚ → Bool) → Text → Prop) (rule : Rule σ) (value : Text) : Prop :=
  match rule.kind with
  | .word options => value ∈ options.map Prod.fst
  | .number valid _ => Num valid value

/-- The rule wants a number. -/
def Rule.Numeric (rule : Rule σ) : Prop :=
  match rule.kind with
  | .word _ => False
  | .number _ _ => True

namespace Schema

variable (S : Schema σ)

/-- A body is the object of these members, each key once. -/
structure Renders (members : List Member) (body : Text) : Prop where
  short : body.length ≤ 512
  shape : ∃ before after, Padding isPad before ∧ Padding isPad after ∧
    body = before ++ (('\x7b' :: ([','].intercalate (members.map Member.text) ++ ['\x7d'])) ++ after)
  spaced : ∀ m ∈ members, m.Spaced
  keys : (members.map Member.key).Perm (S.rules.map Rule.key)

/-- Every value is one its key admits. -/
def Admitted (Num : (ℚ → Bool) → Text → Prop) (members : List Member) : Prop :=
  ∀ m ∈ members, ∀ rule ∈ S.rules, rule.key = m.key → rule.Admits Num m.value

/-- The grammar of a schema, for a notion of numbers. -/
def Object (Num : (ℚ → Bool) → Text → Prop) (body : Text) : Prop :=
  ∃ members, S.Renders members body ∧ S.Admitted Num members

/-- Some value is a number in the general grammar, but not in that of JSON,
    and the others are taken: a redundant zero, or no digit before or behind
    the point. -/
def Loosens (body : Text) : Prop :=
  ∃ members, S.Renders members body ∧ S.Admitted Taken members ∧
    ∃ m ∈ members, ∃ rule ∈ S.rules, rule.key = m.key ∧ rule.Numeric ∧
      ∃ d : Literal, d.General ∧ d.text = m.value ∧ ¬ d.Json

/-- Some value is a number of JSON other than zero whose nearest binary64
    number is zero. -/
def Vanishes (body : Text) : Prop :=
  ∃ members, S.Renders members body ∧ S.Admitted JsonNumber members ∧
    ∃ m ∈ members, ∃ rule ∈ S.rules, rule.key = m.key ∧ rule.Numeric ∧
      ∃ d : Literal, d.General ∧ d.text = m.value ∧ Underflows d.value

end Schema

/-! ## §2. Tokens. -/

/-- A token: no padding, no comma and no colon, and its quotes are closed. -/
structure Token (text : Text) : Prop where
  plain : ∀ c ∈ text, c ≠ ',' ∧ c ≠ ':' ∧ isPad c = false
  closed : quotedAfter quoteMark false text = false

/-- A text that writes a number. -/
def Numeral (text : Text) : Prop := ∃ d : Literal, d.General ∧ d.text = text

theorem taken_numeral {valid : ℚ → Bool} {text : Text} (h : Taken valid text) : Numeral text := by
  obtain ⟨_, d, hd, htext, _⟩ := h
  exact ⟨d, hd, htext⟩

theorem jsonNumber_numeral {valid : ℚ → Bool} {text : Text} (h : JsonNumber valid text) :
    Numeral text := by
  obtain ⟨_, d, hd, htext, _⟩ := h
  exact ⟨d, hd.toGeneral, htext⟩

/-- The characters of numbers. -/
def isNumeral (c : Char) : Bool :=
  c.isDigit || c == '-' || c == '+' || c == '.' || c == 'e' || c == 'E'

theorem isNumeral_plain {c : Char} (h : isNumeral c = true) :
    c ≠ ',' ∧ c ≠ ':' ∧ isPad c = false ∧ c ≠ quoteMark := by
  unfold isNumeral at h
  simp only [Bool.or_eq_true, beq_iff_eq] at h
  obtain ((((hdigit | rfl) | rfl) | rfl) | rfl) | rfl := h
  · obtain ⟨k, hk, rfl⟩ := digit_cases hdigit
    interval_cases k <;> decide
  all_goals decide

theorem digit_isNumeral {c : Char} (h : Char.isDigit c = true) : isNumeral c = true := by
  unfold isNumeral
  rw [h]
  rfl

theorem exponent_isNumeral {e : Exponent} (h : e.Written) : ∀ c ∈ e.text, isNumeral c = true := by
  intro c hc
  obtain rfl | hc := List.mem_cons.mp hc
  · obtain hl | hl := h.letter <;> rw [hl] <;> decide
  · obtain hc | hc := List.mem_append.mp hc
    · obtain hs | hs | hs := h.sign <;> rw [hs] at hc
      · cases hc
      · rw [List.mem_singleton.mp hc]
        decide
      · rw [List.mem_singleton.mp hc]
        decide
    · exact digit_isNumeral (h.digits c hc)

/-- A written number has only characters of numbers. -/
theorem general_isNumeral {d : Literal} (h : d.General) : ∀ c ∈ d.text, isNumeral c = true := by
  intro c hc
  unfold Literal.text at hc
  obtain hc | hc := List.mem_append.mp hc
  · split at hc
    · rw [List.mem_singleton.mp hc]
      decide
    · cases hc
  · obtain hc | hc := List.mem_append.mp hc
    · exact digit_isNumeral (h.whole c hc)
    · obtain hc | hc := List.mem_append.mp hc
      · unfold Literal.fractionText at hc
        cases hf : d.fraction with
        | none =>
          rw [hf] at hc
          cases hc
        | some digits =>
          rw [hf] at hc
          obtain rfl | hc := List.mem_cons.mp hc
          · decide
          · exact digit_isNumeral (h.fraction c (by rw [hf]; exact hc))
      · unfold Literal.exponentText at hc
        cases he : d.exponent with
        | none =>
          rw [he] at hc
          cases hc
        | some e =>
          rw [he] at hc
          exact exponent_isNumeral (h.exponent e he) c hc

theorem numeral_token {text : Text} (h : Numeral text) : Token text := by
  obtain ⟨d, hd, rfl⟩ := h
  have hall := general_isNumeral hd
  refine ⟨fun c hc => ?_, quotedAfter_plain _ fun hc => (isNumeral_plain (hall _ hc)).2.2.2 rfl⟩
  obtain ⟨hcomma, hcolon, hpad, _⟩ := isNumeral_plain (hall c hc)
  exact ⟨hcomma, hcolon, hpad⟩

namespace Token

variable {text : Text} (h : Token text)

include h

theorem solid : Solid isPad text where
  first := fun c hc => (h.plain c (List.mem_of_mem_head? hc)).2.2
  last := fun c hc => (h.plain c (List.mem_of_mem_getLast? hc)).2.2

theorem trim_pad {before after : Text} (hbefore : Padding isPad before)
    (hafter : Padding isPad after) : trim (before ++ (text ++ after)) = text :=
  strip_pad hbefore hafter h.solid

end Token

theorem padding_token {text : Text} (h : Padding isPad text) :
    ',' ∉ text ∧ ':' ∉ text ∧ quoteMark ∉ text := by
  refine ⟨fun hc => ?_, fun hc => ?_, fun hc => ?_⟩
  · exact absurd (h _ hc) (by decide)
  · exact absurd (h _ hc) (by decide)
  · exact absurd (h _ hc) (by decide)

/-! ## §3. Members. -/

/-- A member of two tokens. -/
structure Member.Good (m : Member) : Prop where
  spaced : m.Spaced
  key : Token m.key
  value : Token m.value

namespace Member.Good

variable {m : Member} (h : m.Good)

include h

/-- **The tokens of a member are found again.** -/
theorem split : splitOnce ':' m.text =
    some (m.lead ++ (m.key ++ m.gap), m.mid ++ (m.value ++ m.tail)) := by
  refine splitOnce_eq_some.mpr ⟨rfl, ?_, ?_⟩
  · intro hc
    obtain hc | hc := List.mem_append.mp hc
    · exact (padding_token h.spaced.lead).2.1 hc
    · obtain hc | hc := List.mem_append.mp hc
      · exact (h.key.plain _ hc).2.1 rfl
      · exact (padding_token h.spaced.gap).2.1 hc
  · intro hc
    obtain hc | hc := List.mem_append.mp hc
    · exact (padding_token h.spaced.mid).2.1 hc
    · obtain hc | hc := List.mem_append.mp hc
      · exact (h.value.plain _ hc).2.1 rfl
      · exact (padding_token h.spaced.tail).2.1 hc

theorem trim_key : trim (m.lead ++ (m.key ++ m.gap)) = m.key :=
  h.key.trim_pad h.spaced.lead h.spaced.gap

theorem trim_value : trim (m.mid ++ (m.value ++ m.tail)) = m.value :=
  h.value.trim_pad h.spaced.mid h.spaced.tail

/-- A member hides no comma. -/
theorem plain : Plain quoteMark ',' m.text where
  sep := by
    intro hc
    have hpad := fun {t : Text} (ht : Padding isPad t) => (padding_token ht).1
    simp only [Member.text, List.mem_append, List.mem_cons] at hc
    obtain (hc | hc | hc) | hc | hc | hc | hc := hc
    · exact hpad h.spaced.lead hc
    · exact (h.key.plain _ hc).1 rfl
    · exact hpad h.spaced.gap hc
    · exact absurd hc (by decide)
    · exact hpad h.spaced.mid hc
    · exact (h.value.plain _ hc).1 rfl
    · exact hpad h.spaced.tail hc
  closed := by
    have hpad := fun {t : Text} (ht : Padding isPad t) => (padding_token ht).2.2
    unfold Member.text
    rw [show ':' :: (m.mid ++ (m.value ++ m.tail)) = [':'] ++
      (m.mid ++ (m.value ++ m.tail)) from rfl]
    simp only [quotedAfter_append]
    rw [quotedAfter_plain _ (hpad h.spaced.lead), h.key.closed,
      quotedAfter_plain _ (hpad h.spaced.gap), show quotedAfter quoteMark false [':'] = false from rfl,
      quotedAfter_plain _ (hpad h.spaced.mid), h.value.closed,
      quotedAfter_plain _ (hpad h.spaced.tail)]

end Member.Good

/-- A field with one colon is a member of what is trimmed. -/
theorem exists_member {field k v : Text} (h : splitOnce ':' field = some (k, v)) :
    ∃ m : Member, m.Spaced ∧ m.text = field ∧ m.key = trim k ∧ m.value = trim v := by
  obtain ⟨hfield, _, _⟩ := splitOnce_eq_some.mp h
  obtain ⟨lead, gap, hlead, hgap, hk⟩ := strip_split isPad k
  obtain ⟨mid, tail, hmid, htail, hv⟩ := strip_split isPad v
  refine ⟨⟨lead, strip isPad k, gap, mid, strip isPad v, tail⟩, ⟨hlead, hgap, hmid, htail⟩, ?_,
    rfl, rfl⟩
  rw [hfield]
  unfold Member.text
  dsimp only
  rw [← hk, ← hv]

/-! ## §4. Values. -/

/-- The words of a rule are tokens. -/
def Rule.Proper (rule : Rule σ) : Prop :=
  Token rule.key ∧
    match rule.kind with
    | .word options => ∀ option ∈ options, Token option.1
    | .number _ _ => True

/-- The keys of a schema are different tokens, and there are some. -/
structure Schema.Proper (S : Schema σ) : Prop where
  some_rule : S.rules ≠ []
  distinct : (S.rules.map Rule.key).Nodup
  proper : ∀ rule ∈ S.rules, rule.Proper

theorem admits_token {Num : (ℚ → Bool) → Text → Prop}
    (hnum : ∀ {valid text}, Num valid text → Numeral text) {rule : Rule σ} (hrule : rule.Proper)
    {value : Text} (h : rule.Admits Num value) : Token value := by
  obtain ⟨_, hkind⟩ := hrule
  unfold Rule.Admits at h
  cases hk : rule.kind with
  | word options =>
    rw [hk] at h hkind
    obtain ⟨option, hoption, rfl⟩ := List.mem_map.mp h
    exact hkind option hoption
  | number valid store =>
    rw [hk] at h
    exact numeral_token (hnum h)

/-- **A value is read exactly if it is admitted.** -/
theorem read_isSome {rule : Rule σ} {value : Text} (h : Solid isPad value) (parsed : σ) :
    (∃ parsed', rule.read value parsed = some parsed') ↔ rule.Admits Taken value := by
  unfold Rule.read Rule.Admits
  cases rule.kind with
  | word options =>
    dsimp only
    constructor
    · rintro ⟨parsed', hread⟩
      obtain ⟨option, hfind, _⟩ := Option.map_eq_some_iff.mp hread
      have hvalue := List.find?_some hfind
      simp only [decide_eq_true_eq] at hvalue
      exact List.mem_map.mpr ⟨option, List.mem_of_find?_eq_some hfind, hvalue⟩
    · intro hmem
      obtain ⟨option, hoption, hvalue⟩ := List.mem_map.mp hmem
      have hfound : (options.find? fun option => decide (option.1 = value)).isSome = true :=
        List.find?_isSome.mpr ⟨option, hoption, by simpa using hvalue⟩
      obtain ⟨found, hfind⟩ := Option.isSome_iff_exists.mp hfound
      exact ⟨found.2 parsed, by rw [hfind]; rfl⟩
  | number valid store =>
    dsimp only
    constructor
    · rintro ⟨parsed', hread⟩
      cases hparse : parseNumber value with
      | none =>
        rw [hparse] at hread
        cases hread
      | some x =>
        rw [hparse] at hread
        dsimp only at hread
        split at hread
        · next hvalid =>
          obtain ⟨hlength, d, hd, htext, hover, hunder, hx⟩ := (parseNumber_eq_some h).mp hparse
          exact ⟨hlength, d, hd, htext, hover, hunder, by rw [hx]; exact hvalid⟩
        · cases hread
    · rintro ⟨hlength, d, hd, htext, hover, hunder, hvalid⟩
      have hparse := (parseNumber_eq_some h).mpr ⟨hlength, d, hd, htext, hover, hunder, rfl⟩
      exact ⟨store (nearestBinary64 d.value) parsed, by rw [hparse]; exact if_pos hvalid⟩

namespace Schema

variable (S : Schema σ)

/-- What a pair of key and value stores. -/
def store (parsed : σ) (pair : Text × Text) : σ :=
  ((S.ruleOf pair.1).bind fun rule => rule.read pair.2 parsed).getD parsed

/-- The request of some members. -/
def decode (members : List Member) (parsed : σ) : σ :=
  (members.map Member.pair).foldl S.store parsed

variable {S}

theorem ruleOf_eq_some (hS : S.Proper) {key : Text} {rule : Rule σ} :
    S.ruleOf key = some rule ↔ rule ∈ S.rules ∧ rule.key = key := by
  unfold ruleOf
  constructor
  · intro h
    have hkey := List.find?_some h
    exact ⟨List.mem_of_find?_eq_some h, by simpa using hkey⟩
  · rintro ⟨hmem, hkey⟩
    have hfound : (S.rules.find? fun rule => decide (rule.key = key)).isSome = true :=
      List.find?_isSome.mpr ⟨rule, hmem, by simpa using hkey⟩
    obtain ⟨found, hfind⟩ := Option.isSome_iff_exists.mp hfound
    have hkey' := List.find?_some hfind
    simp only [decide_eq_true_eq] at hkey'
    rw [hfind, List.inj_on_of_nodup_map hS.distinct (List.mem_of_find?_eq_some hfind) hmem
      (hkey'.trans hkey.symm)]

/-- Members with known keys, each once, that were not seen before. -/
structure Fresh (S : Schema σ) (members : List Member) (seen : List Text) : Prop where
  known : ∀ m ∈ members, ∃ rule ∈ S.rules, rule.key = m.key
  once : (members.map Member.key).Nodup
  unseen : ∀ m ∈ members, m.key ∉ seen

/-- **The loop accepts members only.** -/
theorem parseFields_sound (hS : S.Proper) : ∀ (fields seen : List Text) (parsed : σ)
    {seen' : List Text} {parsed' : σ},
    S.parseFields fields seen parsed = .ok (seen', parsed') →
      ∃ members : List Member, members.map Member.text = fields ∧ (∀ m ∈ members, m.Spaced) ∧
        S.Admitted Taken members ∧ S.Fresh members seen ∧
        seen' = (members.map Member.key).reverse ++ seen ∧ parsed' = S.decode members parsed := by
  intro fields
  induction fields with
  | nil =>
    intro seen parsed seen' parsed' h
    cases h
    exact ⟨[], rfl, by simp, (fun m hm => absurd hm List.not_mem_nil),
      ⟨by simp, by simp, by simp⟩, rfl, rfl⟩
  | cons field fields ih =>
    intro seen parsed seen' parsed' h
    unfold parseFields at h
    split at h
    · cases h
    · next k v hsplit =>
      split at h
      · cases h
      · next rule hrule =>
        split at h
        · cases h
        · next hunseen =>
          split at h
          · cases h
          · next stored hread =>
            obtain ⟨hmem, hkey⟩ := (ruleOf_eq_some hS).mp hrule
            obtain ⟨m, hspaced, htext, hmkey, hmvalue⟩ := exists_member hsplit
            obtain ⟨members, hfields, hall, hadmitted, hfresh, hseen, hdecode⟩ := ih _ _ h
            -- the key was not seen before, and the later ones avoid it
            have hnew : m.key ∉ members.map Member.key := by
              intro hin
              obtain ⟨other, hother, hsame⟩ := List.mem_map.mp hin
              exact hfresh.unseen other hother
                (by rw [hsame, hmkey, hkey]; exact List.mem_cons_self)
            -- what the parser stores is what the member means
            have hstore : S.store parsed m.pair = stored := by
              show ((S.ruleOf m.key).bind fun rule => rule.read m.value parsed).getD parsed = _
              rw [hmkey, hmvalue, hrule]
              show (rule.read (trim v) parsed).getD parsed = _
              rw [hread]
              rfl
            refine ⟨m :: members, by rw [List.map_cons, htext, hfields], ?_, ?_, ⟨?_, ?_, ?_⟩, ?_, ?_⟩
            · intro other hother
              obtain rfl | hother := List.mem_cons.mp hother
              · exact hspaced
              · exact hall other hother
            · intro other hother rule' hrule' hkey'
              obtain rfl | hother := List.mem_cons.mp hother
              · have hsame : rule' = rule := List.inj_on_of_nodup_map hS.distinct hrule' hmem
                  (by rw [hkey', hmkey, hkey])
                rw [hsame, hmvalue]
                exact (read_isSome (strip_solid isPad v) parsed).mp ⟨stored, hread⟩
              · exact hadmitted other hother rule' hrule' hkey'
            · intro other hother
              obtain rfl | hother := List.mem_cons.mp hother
              · exact ⟨rule, hmem, by rw [hmkey, hkey]⟩
              · exact hfresh.known other hother
            · rw [List.map_cons]
              exact List.nodup_cons.mpr ⟨hnew, hfresh.once⟩
            · intro other hother
              obtain rfl | hother := List.mem_cons.mp hother
              · rw [hmkey, ← hkey]
                exact hunseen
              · exact fun hin => hfresh.unseen other hother (List.mem_cons_of_mem _ hin)
            · rw [hseen, List.map_cons, List.reverse_cons, List.append_assoc, hmkey, hkey]
              rfl
            · rw [hdecode]
              unfold decode
              rw [List.map_cons, List.foldl_cons, hstore]

/-- **The loop accepts all members.** -/
theorem parseFields_complete (hS : S.Proper) : ∀ (members : List Member) (seen : List Text)
    (parsed : σ), (∀ m ∈ members, m.Spaced) → S.Admitted Taken members → S.Fresh members seen →
      S.parseFields (members.map Member.text) seen parsed =
        .ok ((members.map Member.key).reverse ++ seen, S.decode members parsed) := by
  intro members
  induction members with
  | nil =>
    intro seen parsed _ _ _
    rfl
  | cons m members ih =>
    intro seen parsed hspaced hadmitted hfresh
    obtain ⟨rule, hmem, hkey⟩ := hfresh.known m List.mem_cons_self
    have hadmits := hadmitted m List.mem_cons_self rule hmem hkey
    have hgood : m.Good :=
      ⟨hspaced m List.mem_cons_self, by rw [← hkey]; exact (hS.proper rule hmem).1,
        admits_token taken_numeral (hS.proper rule hmem) hadmits⟩
    obtain ⟨stored, hread⟩ := (read_isSome hgood.value.solid parsed).mpr hadmits
    have hrule := (ruleOf_eq_some hS).mpr ⟨hmem, hkey⟩
    have hunseen : rule.key ∉ seen := by
      rw [hkey]
      exact hfresh.unseen m List.mem_cons_self
    obtain ⟨hnew, honce⟩ := List.nodup_cons.mp
      (show (m.key :: members.map Member.key).Nodup from hfresh.once)
    have hrest : S.Fresh members (rule.key :: seen) := by
      refine ⟨fun other hother => hfresh.known other (List.mem_cons_of_mem _ hother), honce,
        fun other hother hin => ?_⟩
      obtain heq | hin := List.mem_cons.mp hin
      · exact hnew (List.mem_map.mpr ⟨other, hother, heq.trans hkey⟩)
      · exact hfresh.unseen other (List.mem_cons_of_mem _ hother) hin
    have hstore : S.store parsed m.pair = stored := by
      show ((S.ruleOf m.key).bind fun rule => rule.read m.value parsed).getD parsed = _
      rw [hrule]
      show (rule.read m.value parsed).getD parsed = _
      rw [hread]
      rfl
    rw [List.map_cons]
    unfold parseFields
    rw [hgood.split]
    dsimp only
    rw [hgood.trim_key, hrule]
    dsimp only
    rw [if_neg hunseen, hgood.trim_value, hread]
    dsimp only
    rw [ih (rule.key :: seen) stored (fun other hother =>
      hspaced other (List.mem_cons_of_mem _ hother))
      (fun other hother => hadmitted other (List.mem_cons_of_mem _ hother)) hrest]
    unfold decode
    rw [List.map_cons, List.map_cons, List.foldl_cons, List.reverse_cons, List.append_assoc, hstore,
      hkey]
    rfl

/-! ## §5. Bodies. -/

/-- Good members, from a rendering and what its values are. -/
theorem Renders.good (hS : S.Proper) {Num : (ℚ → Bool) → Text → Prop}
    (hnum : ∀ {valid text}, Num valid text → Numeral text) {members : List Member} {body : Text}
    (h : S.Renders members body) (hadmitted : S.Admitted Num members) :
    ∀ m ∈ members, m.Good := by
  intro m hm
  obtain ⟨rule, hrule, hkey⟩ := List.mem_map.mp
    (h.keys.mem_iff.mp (List.mem_map.mpr ⟨m, hm, rfl⟩))
  exact ⟨h.spaced m hm, by rw [← hkey]; exact (hS.proper rule hrule).1,
    admits_token hnum (hS.proper rule hrule) (hadmitted m hm rule hrule hkey)⟩

theorem Renders.fresh (hS : S.Proper) {members : List Member} {body : Text}
    (h : S.Renders members body) : S.Fresh members [] where
  known := by
    intro m hm
    exact List.mem_map.mp (h.keys.mem_iff.mp (List.mem_map.mpr ⟨m, hm, rfl⟩))
  once := h.keys.nodup_iff.mpr hS.distinct
  unseen := fun _ _ => List.not_mem_nil

theorem Renders.ne_nil (hS : S.Proper) {members : List Member} {body : Text}
    (h : S.Renders members body) : members ≠ [] := by
  rintro rfl
  have hlength := h.keys.length_eq
  rw [List.length_map, List.length_map, List.length_nil] at hlength
  exact hS.some_rule (List.length_eq_zero_iff.mp hlength.symm)

/-- **The fields of a rendered body** are the texts of its members. -/
theorem Renders.fields (hS : S.Proper) {members : List Member} {body : Text}
    (h : S.Renders members body) (hgood : ∀ m ∈ members, m.Good) :
    (trim body).length ≥ 2 ∧ (trim body).head? = some '{' ∧
      (trim body).getLast? = some '}' ∧
      splitFields ((trim body).drop 1).dropLast = members.map Member.text := by
  obtain ⟨before, after, hbefore, hafter, hbody⟩ := h.shape
  have hsolid : Solid isPad
      ('{' :: ([','].intercalate (members.map Member.text) ++ ['}'])) := by
    constructor
    · intro c hc
      cases hc
      rfl
    · intro c hc
      rw [← List.cons_append, List.getLast?_concat] at hc
      cases hc
      rfl
  have htrim : trim body = '{' :: ([','].intercalate (members.map Member.text) ++ ['}']) := by
    rw [hbody]
    exact strip_pad hbefore hafter hsolid
  have hjoin : splitFields ([','].intercalate (members.map Member.text)) =
      members.map Member.text := by
    refine join_splitOutside (by decide) (by simpa using h.ne_nil hS) fun field hfield => ?_
    obtain ⟨m, hm, rfl⟩ := List.mem_map.mp hfield
    exact (hgood m hm).plain
  rw [htrim]
  refine ⟨by simp, rfl, ?_, ?_⟩
  · rw [← List.cons_append, List.getLast?_concat]
  · rw [List.drop_one, List.tail_cons, List.dropLast_concat, hjoin]

/-- **A parser accepts its grammar**, over the numbers it takes. -/
theorem parse_eq_ok (hS : S.Proper) {body : Text} {r : σ} :
    S.parse body = .ok r ↔
      ∃ members, S.Renders members body ∧ S.Admitted Taken members ∧
        r = S.decode members S.initial := by
  constructor
  · intro h
    unfold parse at h
    split at h
    · cases h
    · next hlength =>
      split at h
      · cases h
      · next hbraces =>
        split at h
        · cases h
        · next seen parsed hfields =>
          split at h
          · next hseen =>
            cases h
            obtain ⟨members, htexts, hspaced, hadmitted, hfresh, hkeys, hdecode⟩ :=
              parseFields_sound hS _ _ _ hfields
            simp only [ne_eq, not_or, not_not, Nat.not_lt] at hbraces hlength
            obtain ⟨htwo, hopen, hclose⟩ := hbraces
            -- the trimmed body is its braces and the joined fields
            have hinner : trim body =
                '{' :: ([','].intercalate (members.map Member.text) ++ ['}']) := by
              rw [htexts]
              unfold splitFields
              rw [splitOutside_join]
              obtain ⟨rest, hrest⟩ := List.head?_eq_some_iff.mp hopen
              rw [hrest] at htwo hclose ⊢
              have hne : rest ≠ [] := by
                rintro rfl
                simp at htwo
              rw [List.getLast?_cons_of_ne_nil hne] at hclose
              have hlast := List.dropLast_append_getLast? '}' hclose
              rw [List.drop_one, List.tail_cons, hlast]
            obtain ⟨before, after, hbefore, hafter, hbody⟩ := strip_split isPad body
            have hperm : (members.map Member.key).Perm (S.rules.map Rule.key) := by
              refine (List.perm_ext_iff_of_nodup hfresh.once hS.distinct).mpr fun key => ?_
              constructor
              · intro hkey
                obtain ⟨m, hm, rfl⟩ := List.mem_map.mp hkey
                exact List.mem_map.mpr (hfresh.known m hm)
              · intro hkey
                obtain ⟨rule, hrule, rfl⟩ := List.mem_map.mp hkey
                have hin := List.all_eq_true.mp hseen rule hrule
                rw [hkeys] at hin
                simpa using hin
            refine ⟨members, ⟨hlength.2, ⟨before, after, hbefore, hafter, ?_⟩, hspaced, hperm⟩,
              hadmitted, hdecode⟩
            rw [← hinner]
            exact hbody
          · cases h
  · rintro ⟨members, hrenders, hadmitted, rfl⟩
    have hgood := hrenders.good hS taken_numeral hadmitted
    obtain ⟨htwo, hopen, hclose, hfields⟩ := hrenders.fields hS hgood
    have hlength : ¬ (body.length < 2 ∨ 512 < body.length) := by
      have hshort := hrenders.short
      have htrim : (trim body).length ≤ body.length := by
        obtain ⟨before, after, _, _, hbody⟩ := strip_split isPad body
        have hall := congrArg List.length hbody
        simp only [List.length_append] at hall
        show (strip isPad body).length ≤ body.length
        omega
      omega
    have hbraces : ¬ ((trim body).length < 2 ∨ (trim body).head? ≠ some '{' ∨
        (trim body).getLast? ≠ some '}') := by
      rw [hopen, hclose]
      simp only [ne_eq, not_true_eq_false, or_false]
      omega
    unfold parse
    rw [if_neg hlength, if_neg hbraces, hfields,
      parseFields_complete hS members [] S.initial hrenders.spaced hadmitted (hrenders.fresh hS)]
    dsimp only
    rw [if_pos]
    refine List.all_eq_true.mpr fun rule hrule => ?_
    have hin := hrenders.keys.mem_iff.mpr (List.mem_map.mpr ⟨rule, hrule, rfl⟩)
    simpa using hin

/-- The pairs of a field. -/
def pairOf (field : Text) : Option (Text × Text) :=
  (splitOnce ':' field).map fun (key, value) => (trim key, trim value)

/-- **A body has one rendering** into pairs. -/
theorem Renders.unique (hS : S.Proper) {members members' : List Member} {body : Text}
    (h : S.Renders members body) (hgood : ∀ m ∈ members, m.Good)
    (h' : S.Renders members' body) (hgood' : ∀ m ∈ members', m.Good) :
    members.map Member.pair = members'.map Member.pair := by
  have hpairs : ∀ ms : List Member, (∀ m ∈ ms, m.Good) →
      (ms.map Member.text).map pairOf = (ms.map Member.pair).map some := by
    intro ms hms
    rw [List.map_map, List.map_map]
    refine List.map_congr_left fun m hm => ?_
    have hm' := hms m hm
    show pairOf m.text = some m.pair
    unfold pairOf
    rw [hm'.split]
    show some (trim _, trim _) = _
    rw [hm'.trim_key, hm'.trim_value]
    rfl
  have hfields := (h.fields hS hgood).2.2.2
  rw [(h'.fields hS hgood').2.2.2] at hfields
  have hmap := congrArg (List.map pairOf) hfields
  rw [hpairs members hgood, hpairs members' hgood'] at hmap
  exact (List.map_injective_iff.mpr (Option.some_injective _) hmap).symm

/-! ## §6. JSON's numbers. -/

theorem object_taken (hS : S.Proper) {body : Text} :
    S.Object Taken body ↔ ∃ r, S.parse body = .ok r := by
  constructor
  · rintro ⟨members, hrenders, hadmitted⟩
    exact ⟨_, (parse_eq_ok hS).mpr ⟨members, hrenders, hadmitted, rfl⟩⟩
  · rintro ⟨r, hparse⟩
    obtain ⟨members, hrenders, hadmitted, _⟩ := (parse_eq_ok hS).mp hparse
    exact ⟨members, hrenders, hadmitted⟩

/-- A value in one rendering has its place in every other. -/
theorem Renders.same_value (hS : S.Proper) {Num Num' : (ℚ → Bool) → Text → Prop}
    (hnum : ∀ {valid text}, Num valid text → Numeral text)
    (hnum' : ∀ {valid text}, Num' valid text → Numeral text) {members members' : List Member}
    {body : Text} (h : S.Renders members body) (hadmitted : S.Admitted Num members)
    (h' : S.Renders members' body) (hadmitted' : S.Admitted Num' members') {m : Member}
    (hm : m ∈ members) {rule : Rule σ} (hrule : rule ∈ S.rules) (hkey : rule.key = m.key) :
    rule.Admits Num' m.value := by
  have hpairs := h.unique hS (h.good hS hnum hadmitted) h' (h'.good hS hnum' hadmitted')
  have hin : m.pair ∈ members'.map Member.pair := by
    rw [← hpairs]
    exact List.mem_map.mpr ⟨m, hm, rfl⟩
  obtain ⟨m', hm', hsame⟩ := List.mem_map.mp hin
  have hkey' : m'.key = m.key := congrArg Prod.fst hsame
  have hvalue' : m'.value = m.value := congrArg Prod.snd hsame
  rw [← hvalue']
  exact hadmitted' m' hm' rule hrule (hkey.trans hkey'.symm)

theorem admits_number {Num : (ℚ → Bool) → Text → Prop} {rule : Rule σ} {value : Text}
    (hnumeric : rule.Numeric) (h : rule.Admits Num value) : ∃ valid, Num valid value := by
  unfold Rule.Numeric at hnumeric
  unfold Rule.Admits at h
  cases hk : rule.kind with
  | word options =>
    rw [hk] at hnumeric
    exact hnumeric.elim
  | number valid store =>
    rw [hk] at h
    exact ⟨valid, h⟩

/-- **Taken and JSON's numbers accept the same**, but for two kinds of bodies. -/
theorem object_agree (hS : S.Proper) (body : Text) :
    (S.Object Taken body ↔ S.Object JsonNumber body) ↔ ¬ (S.Loosens body ∨ S.Vanishes body) := by
  constructor
  · intro hagree hkind
    obtain ⟨members, hrenders, hadmitted, m, hm, rule, hrule, hkey, hnumeric, d, hd, htext, hbad⟩ |
      ⟨members, hrenders, hadmitted, m, hm, rule, hrule, hkey, hnumeric, d, hd, htext, hbad⟩ := hkind
    · obtain ⟨members', hrenders', hadmitted'⟩ := hagree.mp ⟨members, hrenders, hadmitted⟩
      obtain ⟨_, _, d', hd', htext', _⟩ := admits_number hnumeric
        (hrenders.same_value hS taken_numeral jsonNumber_numeral hadmitted hrenders' hadmitted'
          hm hrule hkey)
      rw [Literal.text_injective hd hd'.toGeneral (htext.trans htext'.symm)] at hbad
      exact hbad hd'
    · obtain ⟨members', hrenders', hadmitted'⟩ := hagree.mpr ⟨members, hrenders, hadmitted⟩
      obtain ⟨_, _, d', hd', htext', _, hunder, _⟩ := admits_number hnumeric
        (hrenders.same_value hS jsonNumber_numeral taken_numeral hadmitted hrenders' hadmitted'
          hm hrule hkey)
      rw [Literal.text_injective hd hd' (htext.trans htext'.symm)] at hbad
      exact hunder hbad
  · intro hkind
    rw [not_or] at hkind
    constructor
    · rintro ⟨members, hrenders, hadmitted⟩
      refine ⟨members, hrenders, fun m hm rule hrule hkey => ?_⟩
      have hadmits := hadmitted m hm rule hrule hkey
      unfold Rule.Admits at hadmits ⊢
      cases hk : rule.kind with
      | word options =>
        rw [hk] at hadmits
        exact hadmits
      | number valid store =>
        rw [hk] at hadmits
        obtain ⟨hlength, d, hd, htext, hover, _, hvalid⟩ := hadmits
        have hjson : d.Json := by
          by_contra hbad
          refine hkind.1 ⟨members, hrenders, hadmitted, m, hm, rule, hrule, hkey, ?_, d, hd, htext, hbad⟩
          unfold Rule.Numeric
          rw [hk]
          trivial
        exact ⟨hlength, d, hjson, htext, hover, hvalid⟩
    · rintro ⟨members, hrenders, hadmitted⟩
      refine ⟨members, hrenders, fun m hm rule hrule hkey => ?_⟩
      have hadmits := hadmitted m hm rule hrule hkey
      unfold Rule.Admits at hadmits ⊢
      cases hk : rule.kind with
      | word options =>
        rw [hk] at hadmits
        exact hadmits
      | number valid store =>
        rw [hk] at hadmits
        obtain ⟨hlength, d, hd, htext, hover, hvalid⟩ := hadmits
        have hunder : ¬ Underflows d.value := by
          intro hbad
          refine hkind.2 ⟨members, hrenders, hadmitted, m, hm, rule, hrule, hkey, ?_, d,
            hd.toGeneral, htext, hbad⟩
          unfold Rule.Numeric
          rw [hk]
          trivial
        exact ⟨hlength, d, hd.toGeneral, htext, hover, hunder, hvalid⟩

/-! ## §7. The order of members. -/

end Schema

/-- What a value read under a rule makes of a request; nothing if it cannot be
    read. -/
def Rule.set (rule : Rule σ) (value : Text) (parsed : σ) : σ := (rule.read value parsed).getD parsed

/-- A rule does no more than store one of these. -/
def Rule.Stores {ι : Type} (rule : Rule σ) (store : ι → σ → σ) : Prop :=
  ∀ value, (∀ parsed, rule.set value parsed = parsed) ∨
    ∃ a, ∀ parsed, rule.set value parsed = store a parsed

theorem word_stores {ι : Type} {key : Text} {reason : String} (words : List (Text × ι))
    {store : ι → σ → σ} :
    (⟨key, .word (words.map fun word => (word.1, store word.2)), reason⟩ : Rule σ).Stores store := by
  intro value
  unfold Rule.set Rule.read
  dsimp only
  cases hfind : (words.map fun word => (word.1, store word.2)).find?
      fun option => option.1 = value with
  | none => exact Or.inl fun _ => rfl
  | some found =>
    obtain ⟨word, _, rfl⟩ := List.mem_map.mp (List.mem_of_find?_eq_some hfind)
    exact Or.inr ⟨word.2, fun _ => rfl⟩

theorem number_stores {key : Text} {reason : String} {valid : ℚ → Bool} {store : ℚ → σ → σ} :
    (⟨key, .number valid store, reason⟩ : Rule σ).Stores store := by
  intro value
  unfold Rule.set Rule.read
  dsimp only
  cases parseNumber value with
  | none => exact Or.inl fun _ => rfl
  | some x =>
    cases hvalid : valid x with
    | false =>
      refine Or.inl fun parsed => ?_
      show (if valid x = true then some (store x parsed) else none).getD parsed = parsed
      rw [hvalid]
      rfl
    | true =>
      refine Or.inr ⟨x, fun parsed => ?_⟩
      show (if valid x = true then some (store x parsed) else none).getD parsed = _
      rw [hvalid]
      rfl

theorem sideRule_stores {store : Side → σ → σ} : (sideRule store).Stores store :=
  word_stores [(quoted "left", Side.left), (quoted "right", Side.right)]

theorem unitRule_stores {store : LengthUnit → σ → σ} : (unitRule store).Stores store :=
  word_stores [(quoted "m", LengthUnit.metres), (quoted "cm", LengthUnit.centimetres),
    (quoted "in", LengthUnit.inches)]

/-- Values of two rules can be stored in either order. -/
def Rule.Commutes (a b : Rule σ) : Prop :=
  ∀ v w parsed, a.set v (b.set w parsed) = b.set w (a.set v parsed)

theorem Rule.Stores.commutes {ι κ : Type} {a b : Rule σ} {f : ι → σ → σ} {g : κ → σ → σ}
    (ha : a.Stores f) (hb : b.Stores g)
    (h : ∀ x y parsed, f x (g y parsed) = g y (f x parsed)) : a.Commutes b := by
  intro v w parsed
  obtain hv | ⟨x, hv⟩ := ha v
  · rw [hv, hv]
  · obtain hw | ⟨y, hw⟩ := hb w
    · rw [hw, hw]
    · rw [hv, hw, hw, hv]
      exact h x y parsed

namespace Schema

variable {S : Schema σ}

/-- **The order of the members does not matter.** -/
theorem decode_perm (hS : S.Proper) (hcomm : S.rules.Pairwise Rule.Commutes)
    {members members' : List Member} (honce : (members.map Member.key).Nodup)
    (h : (members.map Member.pair).Perm (members'.map Member.pair)) (parsed : σ) :
    S.decode members parsed = S.decode members' parsed := by
  have hstore : ∀ parsed pair, S.store parsed pair =
      (S.ruleOf pair.1).elim parsed fun rule => rule.set pair.2 parsed := by
    intro parsed pair
    unfold store
    cases S.ruleOf pair.1 <;> rfl
  refine h.foldl_eq' (fun x hx y hy z => ?_) parsed
  by_cases hsame : x.1 = y.1
  · -- one key, one member
    obtain ⟨m, hm, rfl⟩ := List.mem_map.mp hx
    obtain ⟨m', hm', rfl⟩ := List.mem_map.mp hy
    rw [List.inj_on_of_nodup_map honce hm hm' hsame]
  · rw [hstore, hstore, hstore, hstore]
    cases hrx : S.ruleOf x.1 with
    | none => rfl
    | some a =>
      cases hry : S.ruleOf y.1 with
      | none => rfl
      | some b =>
        obtain ⟨ha, hax⟩ := (ruleOf_eq_some hS).mp hrx
        obtain ⟨hb, hby⟩ := (ruleOf_eq_some hS).mp hry
        have hne : a ≠ b := by
          rintro rfl
          exact hsame (hax.symm.trans hby)
        have : Std.Symm (Rule.Commutes (σ := σ)) := ⟨fun _ _ hab v w z => (hab w v z).symm⟩
        show b.set y.2 (a.set x.2 z) = a.set x.2 (b.set y.2 z)
        exact (hcomm.forall ha hb hne x.2 y.2 z).symm

end Schema

/-! ## §8. The four schemas. -/

/-- The characters of a plain word. -/
def isWord (word : String) : Bool :=
  word.toList.all fun c => c != ',' && c != ':' && !isPad c && c != quoteMark

theorem quoted_token {word : String} (h : isWord word = true) : Token (quoted word) := by
  have hall : ∀ c ∈ word.toList, (c ≠ ',' ∧ c ≠ ':' ∧ isPad c = false) ∧ c ≠ quoteMark := by
    intro c hc
    have hplain := List.all_eq_true.mp h c hc
    simp only [Bool.and_eq_true, bne_iff_ne, ne_eq, Bool.not_eq_true'] at hplain
    exact ⟨⟨hplain.1.1.1, hplain.1.1.2, hplain.1.2⟩, hplain.2⟩
  have hmark : quoteMark ≠ ',' ∧ quoteMark ≠ ':' ∧ isPad quoteMark = false := by decide
  constructor
  · intro c hc
    obtain rfl | hc := List.mem_cons.mp hc
    · exact hmark
    · obtain hc | hc := List.mem_append.mp hc
      · exact (hall c hc).1
      · rw [List.mem_singleton.mp hc]
        exact hmark
  · show quotedAfter quoteMark false ([quoteMark] ++ (word.toList ++ [quoteMark])) = false
    rw [quotedAfter_append, quotedAfter_append,
      quotedAfter_plain _ fun hc => (hall quoteMark hc).2 rfl]
    rfl

theorem sideRule_proper {store : Side → σ → σ} : (sideRule store).Proper := by
  refine ⟨quoted_token rfl, fun option hoption => ?_⟩
  simp only [List.mem_cons, List.not_mem_nil, or_false] at hoption
  obtain rfl | rfl := hoption
  · exact quoted_token rfl
  · exact quoted_token rfl

theorem unitRule_proper {store : LengthUnit → σ → σ} : (unitRule store).Proper := by
  refine ⟨quoted_token rfl, fun option hoption => ?_⟩
  simp only [List.mem_cons, List.not_mem_nil, or_false] at hoption
  obtain rfl | rfl | rfl := hoption
  · exact quoted_token rfl
  · exact quoted_token rfl
  · exact quoted_token rfl

theorem scaleRule_proper {store : ℚ → σ → σ} : (scaleRule store).Proper :=
  ⟨quoted_token rfl, trivial⟩

theorem axisRule_proper {key reason : String} {store : ℚ → σ → σ} (h : isWord key = true) :
    (axisRule key reason store).Proper := ⟨quoted_token h, trivial⟩

theorem moveSchema_proper : moveSchema.Proper where
  some_rule := by simp [moveSchema]
  distinct := by decide
  proper := by
    unfold moveSchema
    simp only [List.forall_mem_cons]
    exact ⟨sideRule_proper, axisRule_proper rfl, axisRule_proper rfl,
      axisRule_proper rfl, by simp⟩

theorem moveV2Schema_proper : moveV2Schema.Proper where
  some_rule := by simp [moveV2Schema]
  distinct := by decide
  proper := by
    unfold moveV2Schema
    simp only [List.forall_mem_cons]
    exact ⟨sideRule_proper, unitRule_proper, axisRule_proper rfl,
      axisRule_proper rfl, axisRule_proper rfl, by simp⟩

theorem moveV3Schema_proper : moveV3Schema.Proper where
  some_rule := by simp [moveV3Schema]
  distinct := by decide
  proper := by
    unfold moveV3Schema
    simp only [List.forall_mem_cons]
    exact ⟨sideRule_proper, unitRule_proper, scaleRule_proper, axisRule_proper rfl,
      axisRule_proper rfl, axisRule_proper rfl, by simp⟩

theorem moveBothSchema_proper : moveBothSchema.Proper where
  some_rule := by simp [moveBothSchema]
  distinct := by decide
  proper := by
    unfold moveBothSchema
    simp only [List.forall_mem_cons]
    exact ⟨unitRule_proper, scaleRule_proper, axisRule_proper rfl,
      axisRule_proper rfl, axisRule_proper rfl,
      axisRule_proper rfl, axisRule_proper rfl,
      axisRule_proper rfl, by simp⟩

theorem MoveRequest.axis_comm {i j : Fin 3} (h : i ≠ j) (x y : ℚ) (parsed : MoveRequest) :
    (parsed.axis j y).axis i x = (parsed.axis i x).axis j y := by
  unfold MoveRequest.axis
  dsimp only
  rw [Function.update_comm h]

theorem UnitMoveRequest.axis_comm {i j : Fin 3} (h : i ≠ j) (x y : ℚ) (parsed : UnitMoveRequest) :
    (parsed.axis j y).axis i x = (parsed.axis i x).axis j y := by
  unfold UnitMoveRequest.axis
  dsimp only
  rw [Function.update_comm h]

theorem axisRule_stores {key reason : String} {store : ℚ → σ → σ} :
    (axisRule key reason store).Stores store := number_stores

theorem scaleRule_stores {store : ℚ → σ → σ} : (scaleRule store).Stores store := number_stores

theorem moveSchema_commutes : moveSchema.rules.Pairwise Rule.Commutes := by
  have haxes : ∀ i j : Fin 3, i ≠ j → ∀ key key' : String,
      (axisRule key axisReason (MoveRequest.axis i)).Commutes
        (axisRule key' axisReason (MoveRequest.axis j)) := by
    intro i j hne key key'
    exact axisRule_stores.commutes axisRule_stores (MoveRequest.axis_comm hne)
  unfold moveSchema
  simp only [List.pairwise_cons, List.forall_mem_cons, List.not_mem_nil, false_implies,
    implies_true, and_true, List.Pairwise.nil]
  refine ⟨⟨?_, ?_, ?_⟩, ⟨?_, ?_⟩, ?_⟩
  -- the side against the coordinates, then the coordinates
  · exact sideRule_stores.commutes axisRule_stores fun _ _ _ => rfl
  · exact sideRule_stores.commutes axisRule_stores fun _ _ _ => rfl
  · exact sideRule_stores.commutes axisRule_stores fun _ _ _ => rfl
  all_goals exact haxes _ _ (by decide) _ _

theorem UnitMoveRequest.axes_commute {i j : Fin 3} (h : i ≠ j) (key key' : String) :
    (axisRule key axisReason (UnitMoveRequest.axis i)).Commutes
      (axisRule key' axisReason (UnitMoveRequest.axis j)) :=
  axisRule_stores.commutes axisRule_stores (UnitMoveRequest.axis_comm h)

theorem moveV2Schema_commutes : moveV2Schema.rules.Pairwise Rule.Commutes := by
  unfold moveV2Schema
  simp only [List.pairwise_cons, List.forall_mem_cons, List.not_mem_nil, false_implies,
    implies_true, and_true, List.Pairwise.nil]
  refine ⟨⟨?_, ?_, ?_, ?_⟩, ⟨?_, ?_, ?_⟩, ⟨?_, ?_⟩, ?_⟩
  · exact sideRule_stores.commutes unitRule_stores fun _ _ _ => rfl
  iterate 3 exact sideRule_stores.commutes axisRule_stores fun _ _ _ => rfl
  iterate 3 exact unitRule_stores.commutes axisRule_stores fun _ _ _ => rfl
  all_goals exact UnitMoveRequest.axes_commute (by decide) _ _

theorem moveV3Schema_commutes : moveV3Schema.rules.Pairwise Rule.Commutes := by
  unfold moveV3Schema
  simp only [List.pairwise_cons, List.forall_mem_cons, List.not_mem_nil, false_implies,
    implies_true, and_true, List.Pairwise.nil]
  refine ⟨⟨?_, ?_, ?_, ?_, ?_⟩, ⟨?_, ?_, ?_, ?_⟩, ⟨?_, ?_, ?_⟩, ⟨?_, ?_⟩, ?_⟩
  · exact sideRule_stores.commutes unitRule_stores fun _ _ _ => rfl
  · exact sideRule_stores.commutes scaleRule_stores fun _ _ _ => rfl
  iterate 3 exact sideRule_stores.commutes axisRule_stores fun _ _ _ => rfl
  · exact unitRule_stores.commutes scaleRule_stores fun _ _ _ => rfl
  iterate 3 exact unitRule_stores.commutes axisRule_stores fun _ _ _ => rfl
  iterate 3 exact scaleRule_stores.commutes axisRule_stores fun _ _ _ => rfl
  all_goals exact UnitMoveRequest.axes_commute (by decide) _ _

theorem moveBothSchema_commutes : moveBothSchema.rules.Pairwise Rule.Commutes := by
  have hleft : ∀ i j : Fin 3, i ≠ j → ∀ key key' : String,
      (axisRule key bothReason fun x (parsed : UnitMoveRequest × (Fin 3 → ℚ)) =>
          (parsed.1.axis i x, parsed.2)).Commutes
        (axisRule key' bothReason fun x parsed => (parsed.1.axis j x, parsed.2)) := by
    intro i j hne key key'
    exact axisRule_stores.commutes axisRule_stores fun x y parsed =>
      Prod.ext (UnitMoveRequest.axis_comm hne x y parsed.1) rfl
  have hright : ∀ i j : Fin 3, i ≠ j → ∀ key key' : String,
      (axisRule key bothReason fun x (parsed : UnitMoveRequest × (Fin 3 → ℚ)) =>
          (parsed.1, Function.update parsed.2 i x)).Commutes
        (axisRule key' bothReason fun x parsed => (parsed.1, Function.update parsed.2 j x)) := by
    intro i j hne key key'
    exact axisRule_stores.commutes axisRule_stores fun x y parsed =>
      Prod.ext rfl (Function.update_comm hne.symm y x parsed.2)
  unfold moveBothSchema
  simp only [List.pairwise_cons, List.forall_mem_cons, List.not_mem_nil, false_implies,
    implies_true, and_true, List.Pairwise.nil]
  refine ⟨⟨?_, ?_, ?_, ?_, ?_, ?_, ?_⟩, ⟨?_, ?_, ?_, ?_, ?_, ?_⟩, ⟨?_, ?_, ?_, ?_, ?_⟩,
    ⟨?_, ?_, ?_, ?_⟩, ⟨?_, ?_, ?_⟩, ⟨?_, ?_⟩, ?_⟩
  · exact unitRule_stores.commutes scaleRule_stores fun _ _ _ => rfl
  iterate 6 exact unitRule_stores.commutes axisRule_stores fun _ _ _ => rfl
  iterate 6 exact scaleRule_stores.commutes axisRule_stores fun _ _ _ => rfl
  -- left against left, and against right
  iterate 2 exact hleft _ _ (by decide) _ _
  iterate 3 exact axisRule_stores.commutes axisRule_stores fun _ _ _ => rfl
  · exact hleft _ _ (by decide) _ _
  iterate 6 exact axisRule_stores.commutes axisRule_stores fun _ _ _ => rfl
  all_goals exact hright _ _ (by decide) _ _

/-! ## §9. The contract of the parsers. -/

/-- What a parser promises about a body. -/
structure Schema.Contract (S : Schema σ) (parse : Text → σ → String → σ × String × Bool)
    (body : Text) : Prop where
  /-- It accepts the grammar over JSON's numbers, but for two kinds of bodies. -/
  exact : ∀ out reason, ((parse body out reason).2.2 = true ↔ S.Object JsonNumber body) ↔
    ¬ (S.Loosens body ∨ S.Vanishes body)
  /-- A failure leaves the request as it was. -/
  kept : ∀ out reason, (parse body out reason).2.2 = false → (parse body out reason).1 = out
  /-- The same members in another order are the same request. -/
  ordered : ∀ body' members members' out out' reason reason', S.Renders members body →
    S.Admitted Taken members → S.Renders members' body' →
    (members.map Member.pair).Perm (members'.map Member.pair) →
    (parse body out reason).2.2 = true ∧ (parse body' out' reason').2.2 = true ∧
      (parse body out reason).1 = (parse body' out' reason').1

theorem assign_contract {S : Schema σ} (hS : S.Proper) (hcomm : S.rules.Pairwise Rule.Commutes)
    (body : Text) : S.Contract S.assign body where
  exact := by
    intro out reason
    have haccept : (S.assign body out reason).2.2 = true ↔ S.Object Taken body := by
      rw [Schema.object_taken hS]
      unfold Schema.assign
      constructor
      · intro h
        split at h
        · next parsed hparse => exact ⟨parsed, hparse⟩
        · cases h
      · rintro ⟨parsed, hparse⟩
        rw [hparse]
    rw [haccept]
    exact Schema.object_agree hS body
  kept := by
    intro out reason h
    unfold Schema.assign at h ⊢
    split at h
    · cases h
    · rfl
  ordered := by
    intro body' members members' out out' reason reason' hrenders hadmitted hrenders' hperm
    have hadmitted' : S.Admitted Taken members' := by
      intro m' hm' rule hrule hkey
      obtain ⟨m, hm, hsame⟩ := List.mem_map.mp
        (hperm.mem_iff.mpr (List.mem_map.mpr ⟨m', hm', rfl⟩))
      have hmkey : m.key = m'.key := congrArg Prod.fst hsame
      have hmvalue : m.value = m'.value := congrArg Prod.snd hsame
      rw [← hmvalue]
      exact hadmitted m hm rule hrule (hkey.trans hmkey.symm)
    have hparse := (Schema.parse_eq_ok hS).mpr ⟨members, hrenders, hadmitted, rfl⟩
    have hparse' := (Schema.parse_eq_ok hS).mpr ⟨members', hrenders', hadmitted', rfl⟩
    unfold Schema.assign
    rw [hparse, hparse']
    exact ⟨rfl, rfl, Schema.decode_perm hS hcomm (hrenders.fresh hS).once hperm S.initial⟩

/-- **The move parsers.**  Each accepts exactly the objects of its keys over
    JSON's numbers, unless the body has a number that only C++ takes or one
    that vanishes; the order of the members does not matter, and a failure
    changes no request. -/
theorem moves_parsed (body : Text) :
    moveSchema.Contract StrictJson.parseMove body ∧
      moveV2Schema.Contract StrictJson.parseMoveV2 body ∧
      moveV3Schema.Contract StrictJson.parseMoveV3 body ∧
      moveBothSchema.Contract StrictJson.parseMoveBoth body :=
  ⟨assign_contract moveSchema_proper moveSchema_commutes body,
    assign_contract moveV2Schema_proper moveV2Schema_commutes body,
    assign_contract moveV3Schema_proper moveV3Schema_commutes body,
    assign_contract moveBothSchema_proper moveBothSchema_commutes body⟩

/-- A member without padding. -/
def Member.tight (key value : Text) : Member := ⟨[], key, [], [], value, []⟩

/-- A move with a redundant zero. -/
def looseMembers : List Member :=
  [.tight (quoted "side") (quoted "left"), .tight (quoted "x") ['0', '1'],
    .tight (quoted "y") ['0'], .tight (quoted "z") ['0']]

/-- Its body. -/
def looseBody : Text := '\x7b' :: ([','].intercalate (looseMembers.map Member.text) ++ ['\x7d'])

theorem looseBody_renders : moveSchema.Renders looseMembers looseBody where
  short := by decide
  shape := ⟨[], [], List.forall_mem_nil _, List.forall_mem_nil _, by rw [List.append_nil]; rfl⟩
  spaced := by
    unfold looseMembers
    simp only [List.forall_mem_cons]
    refine ⟨?_, ?_, ?_, ?_, by simp⟩
    all_goals
      exact ⟨List.forall_mem_nil _, List.forall_mem_nil _, List.forall_mem_nil _,
        List.forall_mem_nil _⟩
  keys := List.Perm.refl _

theorem digits_numeral {digits : Text} (h : digits.all Char.isDigit = true) (hne : digits ≠ []) :
    Numeral digits := by
  refine ⟨⟨false, digits, none, none⟩, ⟨List.all_eq_true.mp h, List.forall_mem_nil _, Or.inl hne,
    by simp⟩, ?_⟩
  unfold Literal.text Literal.fractionText Literal.exponentText
  simp

/-- **A redundant zero is taken**, and the body is no JSON. -/
theorem loose_number : (StrictJson.parseMove looseBody .initial "").2.2 = true ∧
    ¬ moveSchema.Object JsonNumber looseBody := by
  refine ⟨by decide +kernel, ?_⟩
  rintro ⟨members, hrenders, hadmitted⟩
  have hgood : ∀ m ∈ looseMembers, m.Good := by
    intro m hm
    have hspaced := looseBody_renders.spaced m hm
    unfold looseMembers at hm
    simp only [List.mem_cons, List.not_mem_nil, or_false] at hm
    obtain rfl | rfl | rfl | rfl := hm
    · exact ⟨hspaced, quoted_token rfl, quoted_token rfl⟩
    · exact ⟨hspaced, quoted_token rfl, numeral_token (digits_numeral rfl (by decide))⟩
    · exact ⟨hspaced, quoted_token rfl, numeral_token (digits_numeral rfl (by decide))⟩
    · exact ⟨hspaced, quoted_token rfl, numeral_token (digits_numeral rfl (by decide))⟩
  have hpairs := looseBody_renders.unique moveSchema_proper hgood hrenders
    (hrenders.good moveSchema_proper jsonNumber_numeral hadmitted)
  have hin : (quoted "x", ['0', '1']) ∈ members.map Member.pair := by
    rw [← hpairs]
    exact List.mem_cons_of_mem _ List.mem_cons_self
  obtain ⟨m, hm, hsame⟩ := List.mem_map.mp hin
  have hkey : m.key = quoted "x" := congrArg Prod.fst hsame
  have hvalue : m.value = ['0', '1'] := congrArg Prod.snd hsame
  have hadmits := hadmitted m hm (axisRule "x" axisReason (.axis 0))
    (List.mem_cons_of_mem _ List.mem_cons_self) hkey.symm
  rw [hvalue] at hadmits
  obtain ⟨_, d, hd, htext, _⟩ := hadmits
  -- only one decimal has this text, and it begins with a zero
  have hscan := Literal.scan_general hd.toGeneral
  rw [htext] at hscan
  have hwhole : d.whole = ['0', '1'] := congrArg (fun r => r.1.whole) hscan.symm
  obtain hzero | hfirst := hd.int
  · rw [hwhole] at hzero
    exact absurd hzero (by decide)
  · rw [hwhole] at hfirst
    exact absurd hfirst (by decide)

end OpenArm.Portal
