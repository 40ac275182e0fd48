/-
  OpenArm.Portal.StrictJson — the parsers of move requests.

  `StrictJson::parse_move`, `parse_move_v2`, `parse_move_v3` and
  `parse_move_both` are one loop over the fields of an object.  A `Schema` says
  which keys it knows, how their values are read and where they are stored.  A
  byte is the character with its code.

  Main results:
    * `parseNumber_eq_some` — the numbers the parsers take.
-/
import OpenArm.Lib.Decimal
import OpenArm.Lib.Fields
import Mathlib

namespace OpenArm.Portal

open OpenArm.Lib

/-- A `std::string_view`. -/
abbrev Text := List Char

/-! ## §1. Requests. -/

/-- `MoveRequest::Side`. -/
inductive Side where
  | left
  | right
  deriving DecidableEq

/-- `oa_length_unit`. -/
inductive LengthUnit where
  | metres
  | centimetres
  | inches
  deriving DecidableEq

/-- `kLegacyMotionLimitScale`. -/
def kLegacyMotionLimitScale : ℚ := 1 / 2

/-- `valid_motion_limit_scale`. -/
def validMotionLimitScale (value : ℚ) : Bool := decide (1 / 2 ≤ value ∧ value ≤ 1)

/-- `MoveRequest`. -/
structure MoveRequest where
  side : Side
  target : Fin 3 → ℚ
  motionLimitScale : ℚ
  dual : Bool
  dualTarget : Fin 2 → Fin 3 → ℚ

/-- `UnitMoveRequest`. -/
structure UnitMoveRequest where
  side : Side
  coordinateUnit : LengthUnit
  target : Fin 3 → ℚ
  motionLimitScale : ℚ

/-- The members' initial values. -/
def MoveRequest.initial : MoveRequest :=
  ⟨.left, fun _ => 0, kLegacyMotionLimitScale, false, fun _ _ => 0⟩

/-- The members' initial values. -/
def UnitMoveRequest.initial : UnitMoveRequest :=
  ⟨.left, .metres, fun _ => 0, kLegacyMotionLimitScale⟩

/-! ## §2. Fields. -/

/-- The quotation mark. -/
def quoteMark : Char := '\x22'

/-- A word in quotation marks. -/
def quoted (word : String) : Text := quoteMark :: (word.toList ++ [quoteMark])

/-- The white space of JSON. -/
def isPad (c : Char) : Bool := c == ' ' || c == '\t' || c == '\r' || c == '\n'

/-- `split_fields`. -/
def splitFields (body : Text) : List Text := splitOutside quoteMark ',' false body

/-- `trim`. -/
def trim (value : Text) : Text := strip isPad value

/-- `parse_number`. -/
def parseNumber (value : Text) : Option ℚ :=
  let value := trim value
  if value = [] ∨ 32 < value.length then none
  else
    match fromChars value with
    | .finite out rest => if rest = [] then some out else none
    -- a spelled infinity or NaN is not finite
    | .special _ => none
    | .outOfRange _ => none
    | .invalid => none

/-- What a key expects. -/
inductive Kind (σ : Type) where
  /-- One of some words. -/
  | word (options : List (Text × (σ → σ)))
  /-- A number that passes a check. -/
  | number (valid : ℚ → Bool) (store : ℚ → σ → σ)

/-- A key, what it expects, and the reason given when it is refused. -/
structure Rule (σ : Type) where
  key : Text
  kind : Kind σ
  reason : String

/-- What a value read under a rule makes of the request. -/
def Rule.read {σ : Type} (rule : Rule σ) (value : Text) (parsed : σ) : Option σ :=
  match rule.kind with
  | .word options => (options.find? fun option => option.1 = value).map fun option =>
    option.2 parsed
  | .number valid store =>
    match parseNumber value with
    | none => none
    | some x => if valid x then some (store x parsed) else none

/-- The rules of a parser, its reasons for unknown and missing keys, and the
    request it starts from. -/
structure Schema (σ : Type) where
  rules : List (Rule σ)
  unknown : String
  missing : String
  initial : σ

namespace Schema

variable {σ : Type} (S : Schema σ)

/-- The rule of a key. -/
def ruleOf (key : Text) : Option (Rule σ) := S.rules.find? fun rule => rule.key = key

/-- The loop over the fields; `seen` are the keys so far. -/
def parseFields : List Text → List Text → σ → Except String (List Text × σ)
  | [], seen, parsed => .ok (seen, parsed)
  | field :: fields, seen, parsed =>
    match splitOnce ':' field with
    | none => .error "malformed JSON field"
    | some (key, value) =>
      match S.ruleOf (trim key) with
      | none => .error S.unknown
      | some rule =>
        if rule.key ∈ seen then .error rule.reason
        else
          match rule.read (trim value) parsed with
          | none => .error rule.reason
          | some parsed => parseFields fields (rule.key :: seen) parsed

/-- The request in a body, or the reason why there is none. -/
def parse (body : Text) : Except String σ :=
  if body.length < 2 ∨ 512 < body.length then .error "JSON body length is invalid"
  else if (trim body).length < 2 ∨ (trim body).head? ≠ some '\x7b' ∨
      (trim body).getLast? ≠ some '\x7d' then .error "JSON object required"
  else
    match S.parseFields (splitFields ((trim body).drop 1).dropLast) [] S.initial with
    | .error reason => .error reason
    | .ok (seen, parsed) =>
      if S.rules.all fun rule => decide (rule.key ∈ seen) then .ok parsed else .error S.missing

end Schema

/-! ## §3. The four parsers. -/

section Rules

variable {σ : Type}

/-- `side`, by `parse_side`. -/
def sideRule (store : Side → σ → σ) : Rule σ :=
  ⟨quoted "side", .word [(quoted "left", store .left), (quoted "right", store .right)],
    "side must be unique and left or right"⟩

/-- `unit`, by `parse_length_unit`. -/
def unitRule (store : LengthUnit → σ → σ) : Rule σ :=
  ⟨quoted "unit",
    .word [(quoted "m", store .metres), (quoted "cm", store .centimetres),
      (quoted "in", store .inches)],
    "unit must be unique and m, cm, or in"⟩

/-- `motion_limit_scale`. -/
def scaleRule (store : ℚ → σ → σ) : Rule σ :=
  ⟨quoted "motion_limit_scale", .number validMotionLimitScale store,
    "motion_limit_scale must be unique, finite, and in [0.5, 1.0]"⟩

/-- A coordinate. -/
def axisRule (key reason : String) (store : ℚ → σ → σ) : Rule σ :=
  ⟨quoted key, .number (fun _ => true) store, reason⟩

end Rules

/-- The reason given for a bad coordinate and for an unknown key. -/
def axisReason : String := "only unique finite numeric x, y, z fields are allowed"

/-- The same of two arms. -/
def bothReason : String := "only unique finite numeric left_/right_ x, y, z fields are allowed"

/-- The coordinate of a `MoveRequest`. -/
def MoveRequest.axis (axis : Fin 3) (x : ℚ) (parsed : MoveRequest) : MoveRequest :=
  { parsed with target := Function.update parsed.target axis x }

/-- The coordinate of a `UnitMoveRequest`. -/
def UnitMoveRequest.axis (axis : Fin 3) (x : ℚ) (parsed : UnitMoveRequest) : UnitMoveRequest :=
  { parsed with target := Function.update parsed.target axis x }

/-- What `parse_move` expects. -/
def moveSchema : Schema MoveRequest where
  rules :=
    [sideRule fun side parsed => { parsed with side }, axisRule "x" axisReason (.axis 0),
      axisRule "y" axisReason (.axis 1), axisRule "z" axisReason (.axis 2)]
  unknown := axisReason
  missing := "side, x, y, and z are required"
  initial := .initial

/-- What `parse_move_v2` expects. -/
def moveV2Schema : Schema UnitMoveRequest where
  rules :=
    [sideRule fun side parsed => { parsed with side },
      unitRule fun coordinateUnit parsed => { parsed with coordinateUnit },
      axisRule "x" axisReason (.axis 0), axisRule "y" axisReason (.axis 1),
      axisRule "z" axisReason (.axis 2)]
  unknown := axisReason
  missing := "side, unit, x, y, and z are required"
  initial := .initial

/-- What `parse_move_v3` expects. -/
def moveV3Schema : Schema UnitMoveRequest where
  rules :=
    [sideRule fun side parsed => { parsed with side },
      unitRule fun coordinateUnit parsed => { parsed with coordinateUnit },
      scaleRule fun motionLimitScale parsed => { parsed with motionLimitScale },
      axisRule "x" axisReason (.axis 0), axisRule "y" axisReason (.axis 1),
      axisRule "z" axisReason (.axis 2)]
  unknown := axisReason
  missing := "side, unit, x, y, z, and motion_limit_scale are required"
  initial := .initial

/-- What `parse_move_both` expects; the second part is `right`. -/
def moveBothSchema : Schema (UnitMoveRequest × (Fin 3 → ℚ)) where
  rules :=
    [unitRule fun coordinateUnit parsed => ({ parsed.1 with coordinateUnit }, parsed.2),
      scaleRule fun motionLimitScale parsed => ({ parsed.1 with motionLimitScale }, parsed.2),
      axisRule "left_x" bothReason fun x parsed => (parsed.1.axis 0 x, parsed.2),
      axisRule "left_y" bothReason fun x parsed => (parsed.1.axis 1 x, parsed.2),
      axisRule "left_z" bothReason fun x parsed => (parsed.1.axis 2 x, parsed.2),
      axisRule "right_x" bothReason fun x parsed => (parsed.1, Function.update parsed.2 0 x),
      axisRule "right_y" bothReason fun x parsed => (parsed.1, Function.update parsed.2 1 x),
      axisRule "right_z" bothReason fun x parsed => (parsed.1, Function.update parsed.2 2 x)]
  unknown := bothReason
  missing := "unit, motion_limit_scale, and all six left_/right_ coordinates are required"
  initial := (.initial, fun _ => 0)

/-- What a parser leaves in its arguments, and what it returns: a request is
    assigned on success only, a reason on failure only. -/
def Schema.assign {σ : Type} (S : Schema σ) (body : Text) (out : σ) (reason : String) :
    σ × String × Bool :=
  match S.parse body with
  | .ok parsed => (parsed, reason, true)
  | .error reason => (out, reason, false)

namespace StrictJson

/-- `StrictJson::parse_move`. -/
def parseMove (body : Text) (out : MoveRequest) (reason : String) :
    MoveRequest × String × Bool := moveSchema.assign body out reason

/-- `StrictJson::parse_move_v2`. -/
def parseMoveV2 (body : Text) (out : UnitMoveRequest) (reason : String) :
    UnitMoveRequest × String × Bool := moveV2Schema.assign body out reason

/-- `StrictJson::parse_move_v3`. -/
def parseMoveV3 (body : Text) (out : UnitMoveRequest) (reason : String) :
    UnitMoveRequest × String × Bool := moveV3Schema.assign body out reason

/-- `StrictJson::parse_move_both`: the request keeps the left side it starts
    with. -/
def parseMoveBoth (body : Text) (out : UnitMoveRequest × (Fin 3 → ℚ)) (reason : String) :
    (UnitMoveRequest × (Fin 3 → ℚ)) × String × Bool := moveBothSchema.assign body out reason

end StrictJson

/-! ## §4. Numbers. -/

/-- A number the parsers take: general, short and in range. -/
def Taken (valid : ℚ → Bool) (text : Text) : Prop :=
  text.length ≤ 32 ∧ ∃ d : Literal, d.General ∧ d.text = text ∧
    ¬ Overflows d.value ∧ ¬ Underflows d.value ∧ valid (nearestBinary64 d.value) = true

/-- **The numbers the parsers take**, out of a text without padding. -/
theorem parseNumber_eq_some {text : Text} (h : Solid isPad text) {x : ℚ} :
    parseNumber text = some x ↔ text.length ≤ 32 ∧ ∃ d : Literal, d.General ∧ d.text = text ∧
      ¬ Overflows d.value ∧ ¬ Underflows d.value ∧ nearestBinary64 d.value = x := by
  have htrim : trim text = text := by
    have hnone : Padding isPad [] := List.forall_mem_nil _
    have hstrip := strip_pad hnone hnone h
    rwa [List.nil_append, List.append_nil] at hstrip
  unfold parseNumber
  dsimp only
  rw [htrim]
  constructor
  · intro hparse
    split at hparse
    · cases hparse
    · next hsize =>
      split at hparse
      · next out rest hfrom =>
        split at hparse
        · next hrest =>
          cases hparse
          rw [hrest] at hfrom
          exact ⟨Nat.le_of_not_lt (not_or.mp hsize).2, fromChars_finite.mp hfrom⟩
        · cases hparse
      · cases hparse
      · cases hparse
      · cases hparse
  · rintro ⟨hlength, d, hd, htext, hrange⟩
    have hnonempty : text ≠ [] := by
      rintro rfl
      obtain ⟨c, rest, hfirst, _⟩ := Literal.first_general hd
      unfold Literal.text at htext
      rw [hfirst] at htext
      simp at htext
    rw [if_neg (not_or.mpr ⟨hnonempty, Nat.not_lt.mpr hlength⟩),
      fromChars_finite.mpr ⟨d, hd, htext, hrange⟩]
    rfl

end OpenArm.Portal
