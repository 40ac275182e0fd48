/-
  OpenArm.Can.NetlinkGrammar — which datagrams the link parser accepts.

  The grammar has a level for each loop of the parser: messages, the attributes
  of a link, those of its link information and those of its CAN data.  Each
  level is a row of aligned records.

  Main results:
    * `attributeLoop_ok`     — a loop over attributes, against its grammar.
    * `parseLink_ok`         — a link message.
    * `datagram_parsed`      — the datagrams accepted, and what is stored.
    * `empty_refused`        — an empty datagram is not.
-/
import OpenArm.Can.Netlink

namespace OpenArm.Can

open OpenArm.Lib

/-! ## §1. Attributes. -/

/-- The bytes of an attribute. -/
structure Attribute.Encodes (a : Attribute) (record : List UInt8) : Prop where
  size : rtattrSize ≤ record.length
  length : word16 record 0 = record.length
  type : attributeType record = a.type
  payload : record.drop rtattrSize = a.payload

/-- Zeros that are too few for an attribute. -/
def ZeroTail (rest : List UInt8) : Prop := rest.length < rtattrSize ∧ ∀ b ∈ rest, b = 0

/-- A nest of attributes. -/
def Attributes (attrs : List Attribute) (bytes : List UInt8) : Prop :=
  Aligned Attribute.Encodes ZeroTail attrs bytes

theorem zeroTail_nil : ZeroTail [] := ⟨by decide, by simp⟩

theorem attributes_short {attrs : List Attribute} {bytes : List UInt8}
    (h : bytes.length < rtattrSize) : Attributes attrs bytes ↔ attrs = [] ∧ ∀ b ∈ bytes, b = 0 := by
  constructor
  · intro hattrs
    cases hattrs with
    | tail htail => exact ⟨rfl, htail.2⟩
    | last hrecord _ =>
      have hsize := hrecord.size
      omega
    | cons hrecord hpadding hrest =>
      have hsize := hrecord.size
      rw [List.length_append] at h
      omega
  · rintro ⟨rfl, hzero⟩
    exact .tail ⟨h, hzero⟩

/-- Where an attribute ends: behind its padding, or with the data. -/
inductive Follows (data record : List UInt8) (offset : Nat) : Nat → Prop where
  | padded {padding rest : List UInt8} (hdata : data.drop offset = record ++ (padding ++ rest))
      (hpadding : padding.length = paddingSize record.length) :
      Follows data record offset (offset + alignFour record.length)
  | last (hdata : data.drop offset = record)
      (hshort : record.length < alignFour record.length) :
      Follows data record offset (offset + record.length)

theorem Follows.starts {data record : List UInt8} {offset next : Nat}
    (h : Follows data record offset next) : ∃ rest, data.drop offset = record ++ rest := by
  cases h with
  | padded hdata _ => exact ⟨_, hdata⟩
  | last hdata _ => exact ⟨[], by rw [hdata, List.append_nil]⟩

theorem follows_iff {data record : List UInt8} {offset next : Nat}
    (hstart : ∃ rest, data.drop offset = record ++ rest) :
    Follows data record offset next ↔
      ∃ n, advance record.length (data.length - offset) = some n ∧ next = offset + n := by
  obtain ⟨rest, hdata⟩ := hstart
  have hlength : data.length - offset = record.length + rest.length := by
    have hall := congrArg List.length hdata
    rwa [List.length_drop, List.length_append] at hall
  have hgap := size_add_paddingSize record.length
  constructor
  · intro h
    cases h with
    | padded hdata' hpadding =>
      refine ⟨_, advance_eq_some.mpr (Or.inl ⟨?_, rfl⟩), rfl⟩
      have hall := congrArg List.length hdata'
      simp only [List.length_drop, List.length_append] at hall
      omega
    | last hdata' hshort =>
      refine ⟨_, advance_eq_some.mpr (Or.inr ⟨?_, ?_, rfl⟩), rfl⟩
      · have hall := congrArg List.length hdata'
        rw [List.length_drop] at hall
        omega
      · have hall := congrArg List.length hdata'
        rw [List.length_drop] at hall
        omega
  · rintro ⟨n, hn, rfl⟩
    obtain ⟨hfits, rfl⟩ | ⟨hshort, hall, rfl⟩ := advance_eq_some.mp hn
    · have hsplit : rest = rest.take (paddingSize record.length) ++
        rest.drop (paddingSize record.length) :=
        (List.take_append_drop _ _).symm
      rw [hsplit] at hdata
      refine .padded hdata ?_
      rw [List.length_take]
      omega
    · have hrest : rest = [] := List.length_eq_zero_iff.mp (by omega)
      rw [hrest, List.append_nil] at hdata
      exact .last hdata (by omega)

/-- What follows an attribute in its data. -/
theorem Follows.rest {data record : List UInt8} {offset next : Nat}
    (h : Follows data record offset next) :
    (∃ padding, padding.length = paddingSize record.length ∧
      data.drop offset = record ++ (padding ++ data.drop next)) ∨
      (data.drop offset = record ∧ data.drop next = []) := by
  cases h with
  | @padded padding rest hdata hpadding =>
    refine Or.inl ⟨padding, hpadding, ?_⟩
    have hdrop : data.drop (offset + alignFour record.length) = rest := by
      have hlength : record.length + padding.length = alignFour record.length := by
        rw [hpadding, size_add_paddingSize]
      rw [← List.drop_drop, hdata, ← List.append_assoc, ← hlength, ← List.length_append,
        List.drop_left]
    rw [hdrop]
    exact hdata
  | last hdata _ =>
    refine Or.inr ⟨hdata, ?_⟩
    rw [← List.drop_drop, hdata, List.drop_length]

/-- **An attribute is found where it stands.** -/
theorem nextAttribute_ok {data : List UInt8} {offset next : Nat} {a : Attribute} :
    nextAttribute data offset = .ok (a, next) ↔
      ∃ record, a.Encodes record ∧ Follows data record offset next := by
  constructor
  · intro h
    unfold nextAttribute at h
    split at h
    · cases h
    · next hroom =>
      unfold rtattrSize at hroom h
      rw [readAt_of_le (by omega)] at h
      dsimp only at h
      split at h
      · cases h
      · next hlength =>
        split at h
        · cases h
        · next n hn =>
          rw [readAt_of_le (by omega)] at h
          cases h
          rw [word16_take (by decide)] at hn hlength
          have hrecord : ((data.drop offset).take (word16 (data.drop offset) 0)).length =
              word16 (data.drop offset) 0 := by
            rw [List.length_take, List.length_drop]
            omega
          refine ⟨(data.drop offset).take (word16 (data.drop offset) 0), ⟨?_, ?_, ?_, ?_⟩, ?_⟩
          · rw [hrecord]
            exact Nat.le_of_not_lt (not_or.mp hlength).1
          · rw [hrecord, word16_take (by omega)]
          · unfold attributeType
            rw [word16_take (by omega), word16_take (by decide)]
          · rw [List.drop_take, List.drop_drop, word16_take (by decide)]
            rfl
          · rw [follows_iff ⟨_, (List.take_append_drop _ _).symm⟩, hrecord]
            exact ⟨n, hn, rfl⟩
  · rintro ⟨record, hencodes, hfollows⟩
    obtain ⟨rest, hrest⟩ := hfollows.starts
    obtain ⟨n, hn, rfl⟩ := (follows_iff ⟨rest, hrest⟩).mp hfollows
    have hsize := hencodes.size
    have hlength : data.length - offset = record.length + rest.length := by
      have hall := congrArg List.length hrest
      rwa [List.length_drop, List.length_append] at hall
    unfold nextAttribute
    unfold rtattrSize at hsize ⊢
    rw [if_neg (by omega), readAt_of_le (by omega)]
    dsimp only
    have hword : word16 ((data.drop offset).take 4) 0 = record.length := by
      rw [word16_take (by decide), hrest, word16_append (by omega), hencodes.length]
    rw [hword, if_neg (by omega), hn]
    dsimp only
    rw [readAt_of_le (by omega)]
    dsimp only
    have hpayload : (data.drop (offset + 4)).take (record.length - 4) = a.payload := by
      rw [← hencodes.payload, ← List.drop_drop, hrest, ← List.drop_take, List.take_left]
      rfl
    have htype : attributeType ((data.drop offset).take 4) = a.type := by
      rw [← hencodes.type]
      unfold attributeType
      rw [word16_take (by decide), hrest, word16_append (by omega)]
    rw [hpayload, htype]

/-! ## §2. Loops over attributes. -/

section Loop

variable {σ : Type} {step : σ → Attribute → Except Halt σ}

theorem foldlM_cons_ok {a : Attribute} {attrs : List Attribute} {s s' : σ} :
    (a :: attrs).foldlM step s = .ok s' ↔
      ∃ m, step s a = .ok m ∧ attrs.foldlM step m = .ok s' := by
  rw [List.foldlM_cons]
  cases hstep : step s a with
  | error e =>
    constructor
    · intro h
      cases h
    · rintro ⟨m, hm, _⟩
      cases hm
  | ok m =>
    constructor
    · intro h
      exact ⟨m, rfl, h⟩
    · rintro ⟨m', hm, h⟩
      cases hm
      exact h

/-- **A loop over attributes, against its grammar**: it handles the attributes
    of a nest one after the other. -/
theorem attributeLoop_rest (data : List UInt8) : ∀ (fuel offset : Nat) (s s' : σ),
    data.length ≤ offset + fuel →
    (whileBelow data.length (attributeTurn step data) (fun _ => Halt.endless) fuel offset s = .ok s' ↔
      ∃ attrs, Attributes attrs (data.drop offset) ∧ attrs.foldlM step s = .ok s') := by
  intro fuel
  -- at the end of the data no attribute is left
  have hend : ∀ (fuel offset : Nat) (s s' : σ), data.length ≤ offset →
      (whileBelow data.length (attributeTurn step data) (fun _ => Halt.endless) fuel offset s =
        .ok s' ↔ ∃ attrs, Attributes attrs (data.drop offset) ∧ attrs.foldlM step s = .ok s') := by
    intro fuel offset s s' hoffset
    rw [whileBelow_end hoffset, List.drop_eq_nil_of_le hoffset]
    constructor
    · intro h
      exact ⟨[], (attributes_short (by decide)).mpr ⟨rfl, by simp⟩, h⟩
    · rintro ⟨attrs, hattrs, hfold⟩
      rw [((attributes_short (by decide)).mp hattrs).1] at hfold
      exact hfold
  induction fuel with
  | zero =>
    intro offset s s' hfuel
    exact hend 0 offset s s' (by omega)
  | succ fuel ih =>
    intro offset s s' hfuel
    by_cases hbelow : offset < data.length
    case neg => exact hend (fuel + 1) offset s s' (by omega)
    rw [whileBelow_succ hbelow]
    have hlength : (data.drop offset).length = data.length - offset := List.length_drop
    unfold attributeTurn
    by_cases hshort : data.length - offset < rtattrSize
    · -- what is left is padding
      rw [if_pos hshort, readAt_of_le (by omega), List.take_of_length_le (by omega)]
      dsimp only
      constructor
      · intro h
        split at h
        · cases h
        · next hturn =>
          split at hturn
          · next hzero =>
            cases hturn
            cases h
            refine ⟨[], (attributes_short (by omega)).mpr ⟨rfl, fun b hb => ?_⟩, rfl⟩
            simpa using List.all_eq_true.mp hzero b hb
          · cases hturn
        · next hturn =>
          split at hturn
          · cases hturn
          · cases hturn
      · rintro ⟨attrs, hattrs, hfold⟩
        obtain ⟨rfl, hzero⟩ := (attributes_short (by omega)).mp hattrs
        rw [if_pos (List.all_eq_true.mpr fun b hb => by simpa using hzero b hb)]
        exact hfold
    · rw [if_neg hshort]
      constructor
      · intro h
        split at h
        · cases h
        · next hturn =>
          split at hturn
          · cases hturn
          · split at hturn
            · cases hturn
            · cases hturn
        · next m next hturn =>
          split at hturn
          · cases hturn
          · next a n hnext =>
            split at hturn
            · cases hturn
            · next m' hstep =>
              cases hturn
              have hgrows := (nextAttribute_bounds data offset).2 _ _ hnext
              obtain ⟨attrs, hattrs, hfold⟩ := (ih next m s' (by omega)).mp h
              obtain ⟨record, hencodes, hfollows⟩ := nextAttribute_ok.mp hnext
              refine ⟨a :: attrs, ?_, foldlM_cons_ok.mpr ⟨m, hstep, hfold⟩⟩
              obtain ⟨padding, hpadding, hdata⟩ | ⟨hdata, hrest⟩ := hfollows.rest
              · rw [hdata]
                exact .cons hencodes hpadding hattrs
              · rw [hrest] at hattrs
                rw [hdata, ((attributes_short (by decide)).mp hattrs).1]
                exact .last hencodes zeroTail_nil
      · rintro ⟨attrs, hattrs, hfold⟩
        have hfirst : ∃ a rest next, attrs = a :: rest ∧ nextAttribute data offset = .ok (a, next) ∧
            Attributes rest (data.drop next) := by
          generalize hbytes : data.drop offset = bytes at hattrs
          cases hattrs with
          | tail htail =>
            have hfew := htail.1
            rw [← hbytes] at hfew
            omega
          | @last a record hencodes _ =>
            have hall : bytes.length = data.length - offset := by rw [← hbytes, hlength]
            have hfollows : Follows data bytes offset (offset + bytes.length) := by
              refine (follows_iff ⟨[], by rw [hbytes, List.append_nil]⟩).mpr ⟨_, ?_, rfl⟩
              rw [← hall]
              exact advance_all _
            refine ⟨a, [], _, rfl, nextAttribute_ok.mpr ⟨bytes, hencodes, hfollows⟩, ?_⟩
            rw [List.drop_eq_nil_of_le (by omega)]
            exact (attributes_short (by decide)).mpr ⟨rfl, by simp⟩
          | @cons a rest record padding tail hencodes hpadding hrest =>
            have hfollows : Follows data record offset (offset + alignFour record.length) :=
              .padded hbytes hpadding
            refine ⟨a, rest, _, rfl, nextAttribute_ok.mpr ⟨record, hencodes, hfollows⟩, ?_⟩
            have hdrop : data.drop (offset + alignFour record.length) = tail := by
              rw [← List.drop_drop, hbytes, ← List.append_assoc, ← size_add_paddingSize, ← hpadding,
                ← List.length_append, List.drop_left]
            rw [hdrop]
            exact hrest
        obtain ⟨a, rest, next, rfl, hnext, hrest⟩ := hfirst
        obtain ⟨m, hstep, hfold⟩ := foldlM_cons_ok.mp hfold
        have hgrows := (nextAttribute_bounds data offset).2 _ _ hnext
        rw [hnext]
        dsimp only
        rw [hstep]
        dsimp only
        exact (ih next m s' (by omega)).mpr ⟨rest, hrest, hfold⟩

theorem attributeLoop_ok {data : List UInt8} {offset : Nat} {s s' : σ} :
    attributeLoop step data offset s = .ok s' ↔
      ∃ attrs, Attributes attrs (data.drop offset) ∧ attrs.foldlM step s = .ok s' :=
  attributeLoop_rest data data.length offset s s' (by omega)

/-- A step that checks an attribute and then applies it. -/
theorem foldlM_fits {Fits : Attribute → Prop} {apply : σ → Attribute → σ}
    (hstep : ∀ s a s', step s a = .ok s' ↔ Fits a ∧ s' = apply s a) :
    ∀ (attrs : List Attribute) (s s' : σ), attrs.foldlM step s = .ok s' ↔
      (∀ a ∈ attrs, Fits a) ∧ s' = attrs.foldl apply s := by
  intro attrs
  induction attrs with
  | nil =>
    intro s s'
    constructor
    · intro h
      cases h
      exact ⟨by simp, rfl⟩
    · rintro ⟨_, rfl⟩
      rfl
  | cons a attrs ih =>
    intro s s'
    rw [foldlM_cons_ok, List.forall_mem_cons, List.foldl_cons]
    constructor
    · rintro ⟨m, hm, hfold⟩
      obtain ⟨hfits, rfl⟩ := (hstep _ _ _).mp hm
      obtain ⟨hall, hs⟩ := (ih _ _).mp hfold
      exact ⟨⟨hfits, hall⟩, hs⟩
    · rintro ⟨⟨hfits, hall⟩, hs⟩
      exact ⟨_, (hstep _ _ _).mpr ⟨hfits, rfl⟩, (ih _ _).mpr ⟨hall, hs⟩⟩

end Loop

/-! ## §3. CAN data. -/

/-- The sizes CAN data must have. -/
def CanDataFits (a : Attribute) : Prop :=
  ((a.type = 1 ∨ a.type = 9) → 32 ≤ a.payload.length) ∧ (a.type = 5 → 8 ≤ a.payload.length)

/-- What an attribute of CAN data says. -/
def canDataApply (item : LinuxInterface) (a : Attribute) : LinuxInterface :=
  if a.type = 1 then { item with bitrate := word32 a.payload 0 }
  else if a.type = 9 then { item with dataBitrate := word32 a.payload 0 }
  else if a.type = 5 then { item with fdEnabled := decide (word32 a.payload 4 &&& 0x20 ≠ 0) }
  else item

/-- CAN data that says this of an item. -/
def CanData (bytes : List UInt8) (item item' : LinuxInterface) : Prop :=
  ∃ attrs, Attributes attrs bytes ∧ (∀ a ∈ attrs, CanDataFits a) ∧
    item' = attrs.foldl canDataApply item

theorem canDataStep_ok (item : LinuxInterface) (a : Attribute) (item' : LinuxInterface) :
    canDataStep item a = .ok item' ↔ CanDataFits a ∧ item' = canDataApply item a := by
  unfold canDataStep CanDataFits canDataApply
  by_cases h1 : a.type = 1
  · rw [if_pos h1, if_pos h1, map_readStruct_ok, word32_take (by decide)]
    exact and_congr_left fun _ => ⟨fun h => ⟨fun _ => h, by omega⟩, fun h => h.1 (Or.inl h1)⟩
  · by_cases h9 : a.type = 9
    · rw [if_neg h1, if_pos h9, if_neg h1, if_pos h9, map_readStruct_ok, word32_take (by decide)]
      exact and_congr_left fun _ => ⟨fun h => ⟨fun _ => h, by omega⟩, fun h => h.1 (Or.inr h9)⟩
    · by_cases h5 : a.type = 5
      · rw [if_neg h1, if_neg h9, if_pos h5, if_neg h1, if_neg h9, if_pos h5, map_readStruct_ok,
          word32_take (by decide)]
        exact and_congr_left fun _ => ⟨fun h => ⟨by omega, fun _ => h⟩, fun h => h.2 h5⟩
      · rw [if_neg h1, if_neg h9, if_neg h5, if_neg h1, if_neg h9, if_neg h5]
        constructor
        · intro h
          cases h
          exact ⟨⟨by omega, by omega⟩, rfl⟩
        · rintro ⟨_, rfl⟩
          rfl

/-- **CAN data.** -/
theorem parseCanData_ok {bytes : List UInt8} {item item' : LinuxInterface} :
    parseCanData bytes item = .ok item' ↔ CanData bytes item item' := by
  unfold parseCanData CanData
  rw [attributeLoop_ok, List.drop_zero]
  simp only [foldlM_fits canDataStep_ok]

/-! ## §4. Link information. -/

/-- An attribute that names the kind of the link as CAN. -/
def Attribute.NamesCan (a : Attribute) : Prop := a.type = 1 ∧ cString a.payload = some canKind

instance (a : Attribute) : Decidable a.NamesCan := by
  unfold Attribute.NamesCan
  infer_instance

/-- The last data of the link information. -/
def lastInfoData (attrs : List Attribute) : Option (List UInt8) :=
  (attrs.filter fun a => a.type = 2).getLast?.map Attribute.payload

/-- Link information that says this of an item: every kind is terminated, one of
    them says whether it is a CAN link, and the data is read for such a link
    only. -/
def LinkInformation (bytes : List UInt8) (item item' : LinuxInterface) (isCan : Bool) : Prop :=
  ∃ attrs, Attributes attrs bytes ∧ (∀ a ∈ attrs, a.type = 1 → 0 ∈ a.payload) ∧
    (isCan = true ↔ ∃ a ∈ attrs, a.NamesCan) ∧
      (∀ infoData, isCan = true → lastInfoData attrs = some infoData →
        CanData infoData item item') ∧
      (isCan = false ∨ lastInfoData attrs = none → item' = item)

/-- What an attribute of link information adds. -/
def linkInfoApply (s : LinkInfo) (a : Attribute) : LinkInfo :=
  if a.type = 1 then if a.NamesCan then { s with isCan := true } else s
  else if a.type = 2 then { s with infoData := some a.payload }
  else s

theorem linkInfoStep_ok (s : LinkInfo) (a : Attribute) (s' : LinkInfo) :
    linkInfoStep s a = .ok s' ↔ (a.type = 1 → 0 ∈ a.payload) ∧ s' = linkInfoApply s a := by
  unfold linkInfoStep linkInfoApply
  by_cases h1 : a.type = 1
  · rw [if_pos h1, if_pos h1]
    by_cases hzero : 0 ∈ a.payload
    · have hkind : cString a.payload = some (a.payload.takeWhile (· ≠ 0)) := if_pos hzero
      have hcan : a.NamesCan ↔ a.payload.takeWhile (· ≠ 0) = canKind := by
        unfold Attribute.NamesCan
        rw [hkind, Option.some_inj]
        exact and_iff_right h1
      rw [hkind]
      dsimp only
      constructor
      · intro h
        rw [← Except.ok.inj h]
        exact ⟨fun _ => hzero, (if_congr hcan rfl rfl).symm⟩
      · rintro ⟨_, rfl⟩
        rw [if_congr hcan rfl rfl]
    · have hkind : cString a.payload = none := if_neg hzero
      rw [hkind]
      constructor
      · intro h
        cases h
      · rintro ⟨h, _⟩
        exact absurd (h h1) hzero
  · rw [if_neg h1, if_neg h1]
    by_cases h2 : a.type = 2
    · rw [if_pos h2, if_pos h2]
      constructor
      · intro h
        exact ⟨fun h => absurd h h1, (Except.ok.inj h).symm⟩
      · rintro ⟨_, rfl⟩
        rfl
    · rw [if_neg h2, if_neg h2]
      constructor
      · intro h
        exact ⟨fun h => absurd h h1, (Except.ok.inj h).symm⟩
      · rintro ⟨_, rfl⟩
        rfl

/-- What a whole nest of link information adds up to. -/
theorem linkInfo_fold (attrs : List Attribute) :
    ((attrs.foldl linkInfoApply ⟨false, none⟩).isCan = true ↔ ∃ a ∈ attrs, a.NamesCan) ∧
      (attrs.foldl linkInfoApply ⟨false, none⟩).infoData = lastInfoData attrs := by
  induction attrs using List.reverseRecOn with
  | nil => exact ⟨by simp, rfl⟩
  | append_singleton attrs a ih =>
    obtain ⟨hcan, hdata⟩ := ih
    rw [List.foldl_append, List.foldl_cons, List.foldl_nil]
    unfold lastInfoData at hdata ⊢
    rw [List.filter_append]
    generalize attrs.foldl linkInfoApply ⟨false, none⟩ = s at hcan hdata ⊢
    unfold linkInfoApply
    by_cases h1 : a.type = 1
    · have h2 : ¬ a.type = 2 := by omega
      rw [if_pos h1]
      constructor
      · by_cases hnames : a.NamesCan
        · rw [if_pos hnames]
          exact iff_of_true rfl ⟨a, by simp, hnames⟩
        · rw [if_neg hnames]
          simpa [hnames] using hcan
      · rw [List.filter_cons_of_neg (by simpa using h2), List.filter_nil, List.append_nil, ← hdata]
        split <;> rfl
    · have hnames : ¬ a.NamesCan := fun h => h1 h.1
      rw [if_neg h1]
      by_cases h2 : a.type = 2
      · rw [if_pos h2, List.filter_cons_of_pos (by simpa using h2), List.filter_nil,
          List.getLast?_concat]
        exact ⟨by simpa [hnames] using hcan, rfl⟩
      · rw [if_neg h2, List.filter_cons_of_neg (by simpa using h2), List.filter_nil,
          List.append_nil]
        exact ⟨by simpa [hnames] using hcan, hdata⟩

/-- **Link information.** -/
theorem parseLinkInfo_ok {bytes : List UInt8} {item item' : LinuxInterface} {isCan : Bool} :
    parseLinkInfo bytes item = .ok (item', isCan) ↔ LinkInformation bytes item item' isCan := by
  have hloop : ∀ s', attributeLoop linkInfoStep bytes 0 ⟨false, none⟩ = .ok s' ↔
      ∃ attrs, Attributes attrs bytes ∧ (∀ a ∈ attrs, a.type = 1 → 0 ∈ a.payload) ∧
        s' = attrs.foldl linkInfoApply ⟨false, none⟩ := by
    intro s'
    rw [attributeLoop_ok, List.drop_zero]
    simp only [foldlM_fits linkInfoStep_ok]
  unfold parseLinkInfo LinkInformation
  constructor
  · intro h
    split at h
    · cases h
    · next infoData hs =>
      obtain ⟨attrs, hattrs, hkinds, hs⟩ := (hloop _).mp hs
      obtain ⟨hcan, hdata⟩ := linkInfo_fold attrs
      rw [← hs] at hcan hdata
      split at h
      · cases h
      · next item'' hparse =>
        cases h
        refine ⟨attrs, hattrs, hkinds, hcan, fun d _ hd => ?_, fun hnone => ?_⟩
        · rw [← hdata] at hd
          cases hd
          exact parseCanData_ok.mp hparse
        · rw [← hdata] at hnone
          obtain hnone | hnone := hnone <;> cases hnone
    · next s hnot hs =>
      obtain ⟨attrs, hattrs, hkinds, hs'⟩ := (hloop _).mp hs
      obtain ⟨hcan, hdata⟩ := linkInfo_fold attrs
      rw [← hs'] at hcan hdata
      cases h
      refine ⟨attrs, hattrs, hkinds, hcan, fun d htrue hd => ?_, fun _ => rfl⟩
      rw [← hdata] at hd
      obtain ⟨c, i⟩ := s
      dsimp only at htrue hd
      subst htrue hd
      exact absurd rfl (hnot d)
  · rintro ⟨attrs, hattrs, hkinds, hcan', hwith, hwithout⟩
    have hs := (hloop _).mpr ⟨attrs, hattrs, hkinds, rfl⟩
    obtain ⟨hcan, hdata⟩ := linkInfo_fold attrs
    rw [hs]
    generalize attrs.foldl linkInfoApply ⟨false, none⟩ = s at hcan hdata
    obtain ⟨c, i⟩ := s
    dsimp only at hcan hdata
    have hc : c = isCan := Bool.eq_iff_iff.mpr (hcan.trans hcan'.symm)
    subst hc
    cases c with
    | false => rw [hwithout (Or.inl rfl)]
    | true =>
      cases i with
      | none => rw [hwithout (Or.inr hdata.symm)]
      | some d =>
        dsimp only
        rw [parseCanData_ok.mpr (hwith d rfl hdata.symm)]

/-! ## §5. Links. -/

/-- What an attribute of a link does to the item and to whether it is a CAN
    link. -/
structure LinkAttribute (a : Attribute) (s s' : LinuxInterface × Bool) : Prop where
  name : a.type = 3 → ∃ name, cString a.payload = some name ∧ name ≠ [] ∧
    name.length < nameSize ∧ s' = ({ s.1 with name }, s.2)
  mtu : a.type = 4 → 4 ≤ a.payload.length ∧
    s' = ({ s.1 with mtu := word32 a.payload 0 }, s.2)
  info : a.type = 18 → LinkInformation a.payload s.1 s'.1 s'.2
  other : a.type ≠ 3 → a.type ≠ 4 → a.type ≠ 18 → s' = s

/-- What the attributes of a link do, one after the other. -/
inductive LinkAttributes : List Attribute → LinuxInterface × Bool → LinuxInterface × Bool →
    Prop where
  | nil (s : LinuxInterface × Bool) : LinkAttributes [] s s
  | cons {a : Attribute} {attrs : List Attribute} {s m s' : LinuxInterface × Bool}
      (first : LinkAttribute a s m) (rest : LinkAttributes attrs m s') :
      LinkAttributes (a :: attrs) s s'

/-- A link message that describes this item: a header with a positive index and
    a nest of attributes; a CAN link has a name. -/
def Link (message : List UInt8) (item : LinuxInterface) (isCan : Bool) : Prop :=
  ifinfomsgSize ≤ message.length ∧ positiveIndex message ∧
    (∃ attrs, Attributes attrs (message.drop ifinfomsgSize) ∧
      LinkAttributes attrs (linkHeader message, false) (item, isCan)) ∧
    (isCan = true → item.name ≠ [])

theorem linkStep_ok {s s' : LinuxInterface × Bool} {a : Attribute} :
    linkStep s a = .ok s' ↔ LinkAttribute a s s' := by
  unfold linkStep
  by_cases h3 : a.type = 3
  · rw [if_pos h3]
    have hother : LinkAttribute a s s' ↔ ∃ name, cString a.payload = some name ∧ name ≠ [] ∧
        name.length < nameSize ∧ s' = ({ s.1 with name }, s.2) :=
      ⟨fun h => h.name h3, fun h => ⟨fun _ => h, by omega, by omega, by omega⟩⟩
    rw [hother]
    cases hname : cString a.payload with
    | none =>
      constructor
      · intro h
        cases h
      · rintro ⟨name, hsome, _⟩
        cases hsome
    | some name =>
      dsimp only
      constructor
      · intro h
        split at h
        · cases h
        · next hgood =>
          rw [not_or, Nat.not_le] at hgood
          exact ⟨name, rfl, hgood.1, hgood.2, (Except.ok.inj h).symm⟩
      · rintro ⟨name', hsome, hne, hlength, rfl⟩
        cases hsome
        rw [if_neg (not_or.mpr ⟨hne, Nat.not_le.mpr hlength⟩)]
  · rw [if_neg h3]
    by_cases h4 : a.type = 4
    · rw [if_pos h4, map_readStruct_ok, word32_take (by decide)]
      exact ⟨fun h => ⟨by omega, fun _ => h, by omega, by omega⟩, fun h => h.mtu h4⟩
    · rw [if_neg h4]
      by_cases h18 : a.type = 18
      · rw [if_pos h18, show s' = (s'.1, s'.2) from rfl, parseLinkInfo_ok]
        exact ⟨fun h => ⟨by omega, by omega, fun _ => h, by omega⟩, fun h => h.info h18⟩
      · rw [if_neg h18]
        constructor
        · intro h
          cases h
          exact ⟨by omega, by omega, by omega, fun _ _ _ => rfl⟩
        · intro h
          rw [h.other h3 h4 h18]

theorem linkAttributes_ok : ∀ (attrs : List Attribute) (s s' : LinuxInterface × Bool),
    attrs.foldlM linkStep s = .ok s' ↔ LinkAttributes attrs s s' := by
  intro attrs
  induction attrs with
  | nil =>
    intro s s'
    constructor
    · intro h
      cases h
      exact .nil s
    · intro h
      cases h
      rfl
  | cons a attrs ih =>
    intro s s'
    rw [foldlM_cons_ok]
    constructor
    · rintro ⟨m, hm, hrest⟩
      exact .cons (linkStep_ok.mp hm) ((ih m s').mp hrest)
    · intro h
      obtain _ | ⟨hfirst, hrest⟩ := h
      exact ⟨_, linkStep_ok.mpr hfirst, (ih _ s').mpr hrest⟩

theorem positiveIndex_take {message : List UInt8} :
    positiveIndex (message.take ifinfomsgSize) ↔ positiveIndex message := by
  unfold positiveIndex ifinfomsgSize
  rw [word32_take (by decide)]

theorem linkHeader_take {message : List UInt8} :
    linkHeader (message.take ifinfomsgSize) = linkHeader message := by
  unfold linkHeader ifinfomsgSize
  rw [word32_take (by decide), word32_take (by decide)]

/-- **A link message.** -/
theorem parseLink_ok {message : List UInt8} {item : LinuxInterface} {isCan : Bool} :
    parseLink message = .ok (item, isCan) ↔ Link message item isCan := by
  have halign : alignFour ifinfomsgSize = ifinfomsgSize := rfl
  have hloop : ∀ s', attributeLoop linkStep message ifinfomsgSize (linkHeader message, false) =
      .ok s' ↔ ∃ attrs, Attributes attrs (message.drop ifinfomsgSize) ∧
        LinkAttributes attrs (linkHeader message, false) s' := by
    intro s'
    rw [attributeLoop_ok]
    simp only [linkAttributes_ok]
  unfold parseLink Link
  rw [readStruct_eq, halign]
  by_cases hsize : message.length < ifinfomsgSize
  · rw [if_pos hsize]
    constructor
    · intro h
      cases h
    · rintro ⟨hlarge, _⟩
      omega
  · rw [if_neg hsize]
    dsimp only
    rw [linkHeader_take]
    by_cases hindex : positiveIndex message
    · rw [if_neg (not_not.mpr (positiveIndex_take.mpr hindex)), if_neg hsize]
      constructor
      · intro h
        split at h
        · cases h
        · next item' isCan' hs =>
          split at h
          · cases h
          · next hnamed =>
            cases h
            exact ⟨by omega, hindex, (hloop _).mp hs, fun hcan hname => hnamed ⟨hcan, hname⟩⟩
      · rintro ⟨_, _, hattrs, hnamed⟩
        rw [(hloop _).mpr hattrs]
        dsimp only
        rw [if_neg fun h => hnamed h.1 h.2]
    · rw [if_pos fun h => hindex (positiveIndex_take.mp h)]
      constructor
      · intro h
        cases h
      · rintro ⟨_, hpositive, _⟩
        exact absurd hpositive hindex

/-! ## §6. Messages. -/

/-- A message of the dump. -/
structure Message where
  type : Nat
  body : List UInt8

/-- The bytes of a message: of the expected sequence, and of a dump that was not
    interrupted. -/
structure Message.Encodes (expectedSequence : Nat) (m : Message) (record : List UInt8) : Prop where
  size : nlmsghdrSize ≤ record.length
  length : word32 record 0 = record.length
  sequence : word32 record 8 = expectedSequence
  whole : word16 record 6 &&& 0x10 = 0
  type : word16 record 4 = m.type
  body : record.drop nlmsghdrSize = m.body

/-- A message behind which the dump goes on: neither DONE nor an error nor an
    overrun. -/
structure Message.Continues (expectedSequence : Nat) (m : Message) (record : List UInt8) : Prop
    extends Message.Encodes expectedSequence m record where
  notDone : m.type ≠ 3
  notError : m.type ≠ 2 ∧ m.type ≠ 4

/-- How a dump ends: with the data, or with DONE and whatever follows. -/
def DumpTail (expectedSequence : Nat) (done : Bool) (text : List UInt8) : Prop :=
  (done = false ∧ text = []) ∨
    (done = true ∧ ∃ m record rest, text = record ++ rest ∧
      Message.Encodes expectedSequence m record ∧ m.type = 3)

/-- The messages of a datagram. -/
def Dump (expectedSequence : Nat) (messages : List Message) (done : Bool)
    (bytes : List UInt8) : Prop :=
  Aligned (Message.Continues expectedSequence) (DumpTail expectedSequence done) messages bytes

/-- The CAN links that messages report, in order; every link is well formed. -/
inductive Reports : List Message → List LinuxInterface → Prop where
  | nil : Reports [] []
  | other {m : Message} {messages : List Message} {items : List LinuxInterface}
      (h : m.type ≠ 16) (rest : Reports messages items) : Reports (m :: messages) items
  | can {m : Message} {messages : List Message} {item : LinuxInterface}
      {items : List LinuxInterface} (h : m.type = 16) (link : Link m.body item true)
      (rest : Reports messages items) : Reports (m :: messages) (item :: items)
  | link {m : Message} {messages : List Message} {item : LinuxInterface}
      {items : List LinuxInterface} (h : m.type = 16) (link : Link m.body item false)
      (rest : Reports messages items) : Reports (m :: messages) items

/-- A datagram that reports these CAN links. -/
def Datagram (expectedSequence : Nat) (bytes : List UInt8) (items : List LinuxInterface)
    (done : Bool) : Prop :=
  ∃ messages, Dump expectedSequence messages done bytes ∧ Reports messages items

/-! ## §7. Storing. -/

/-- The slots after some links have been stored. -/
def storedItems (capacity found : Nat) (interfaces : Nat → LinuxInterface)
    (items : List LinuxInterface) (i : Nat) : LinuxInterface :=
  if found ≤ i ∧ i < capacity then (items[i - found]?).getD (interfaces i) else interfaces i

/-- Room for some more links: the count does not overflow, and the slots that
    are filled are initialised. -/
structure Room (capacity : Nat) (s : Progress) (items : List LinuxInterface) : Prop where
  count : ∀ k < items.length, s.found + k ≠ sizeMax
  slots : ∀ k < items.length, s.found + k < capacity → (s.interfaces (s.found + k)).Initialised

/-- What storing one link does. -/
def stored (capacity : Nat) (s : Progress) (item : LinuxInterface) : Progress :=
  { s with
    interfaces :=
      if s.found < capacity then Function.update s.interfaces s.found item else s.interfaces
    found := s.found + 1 }

theorem storeLink_ok {capacity : Nat} {s s' : Progress} {item : LinuxInterface} :
    storeLink capacity s item true = .ok s' ↔
      s.found ≠ sizeMax ∧ (s.found < capacity → (s.interfaces s.found).Initialised) ∧
        s' = stored capacity s item := by
  unfold storeLink stored
  rw [if_pos rfl]
  by_cases hmax : s.found = sizeMax
  · rw [if_pos hmax]
    constructor
    · intro h
      cases h
    · rintro ⟨hne, _⟩
      exact absurd hmax hne
  · rw [if_neg hmax]
    by_cases hroom : s.found < capacity
    · rw [if_pos hroom]
      by_cases hslot : (s.interfaces s.found).Initialised
      · rw [if_neg (not_not.mpr hslot), if_pos hroom]
        constructor
        · intro h
          exact ⟨hmax, fun _ => hslot, (Except.ok.inj h).symm⟩
        · rintro ⟨_, _, rfl⟩
          rfl
      · rw [if_pos hslot]
        constructor
        · intro h
          cases h
        · rintro ⟨_, hinit, _⟩
          exact absurd (hinit hroom) hslot
    · rw [if_neg hroom, if_neg hroom]
      constructor
      · intro h
        exact ⟨hmax, fun h => absurd h hroom, (Except.ok.inj h).symm⟩
      · rintro ⟨_, _, rfl⟩
        rfl

theorem stored_slot (capacity : Nat) (s : Progress) (item : LinuxInterface) (i : Nat) :
    (stored capacity s item).interfaces i =
      if i = s.found ∧ s.found < capacity then item else s.interfaces i := by
  unfold stored
  dsimp only
  by_cases hroom : s.found < capacity
  · rw [if_pos hroom]
    by_cases hthis : i = s.found
    · rw [if_pos ⟨hthis, hroom⟩, hthis, Function.update_self]
    · rw [if_neg fun h => hthis h.1, Function.update_of_ne hthis]
  · rw [if_neg hroom, if_neg fun h => hroom h.2]

/-- **Links are stored in order while there is capacity.** -/
theorem stored_foldl {capacity : Nat} (items : List LinuxInterface) (s : Progress) :
    items.foldl (stored capacity) s =
      ⟨storedItems capacity s.found s.interfaces items, s.found + items.length, s.done⟩ := by
  induction items generalizing s with
  | nil =>
    rw [List.foldl_nil]
    have hsame : storedItems capacity s.found s.interfaces [] = s.interfaces := by
      funext i
      unfold storedItems
      split <;> rfl
    rw [hsame]
    rfl
  | cons item items ih =>
    rw [List.foldl_cons, ih]
    have hslots : storedItems capacity (s.found + 1) (stored capacity s item).interfaces items =
        storedItems capacity s.found s.interfaces (item :: items) := by
      funext i
      unfold storedItems
      rw [stored_slot]
      by_cases hcap : i < capacity
      · by_cases hthis : i = s.found
        · have hlater : ¬ (s.found + 1 ≤ i ∧ i < capacity) := by omega
          rw [if_neg hlater, if_pos ⟨hthis, by omega⟩, if_pos ⟨by omega, hcap⟩, hthis, Nat.sub_self]
          rfl
        · have hother : ¬ (i = s.found ∧ s.found < capacity) := fun h => hthis h.1
          rw [if_neg hother]
          by_cases hlater : s.found < i
          · rw [if_pos ⟨by omega, hcap⟩, if_pos ⟨by omega, hcap⟩,
              show i - s.found = i - (s.found + 1) + 1 by omega, List.getElem?_cons_succ]
          · have hbefore : ¬ (s.found + 1 ≤ i ∧ i < capacity) := by omega
            have hbefore' : ¬ (s.found ≤ i ∧ i < capacity) := by omega
            rw [if_neg hbefore, if_neg hbefore']
      · have hpast : ¬ (s.found + 1 ≤ i ∧ i < capacity) := fun h => hcap h.2
        have hpast' : ¬ (s.found ≤ i ∧ i < capacity) := fun h => hcap h.2
        have hother : ¬ (i = s.found ∧ s.found < capacity) := by omega
        rw [if_neg hpast, if_neg hpast', if_neg hother]
    show (⟨storedItems capacity (s.found + 1) (stored capacity s item).interfaces items,
      s.found + 1 + items.length, s.done⟩ : Progress) = _
    rw [hslots, List.length_cons, show s.found + 1 + items.length = s.found + (items.length + 1) by
      omega]

theorem room_cons {capacity : Nat} {s : Progress} {item : LinuxInterface}
    {items : List LinuxInterface} :
    Room capacity s (item :: items) ↔
      s.found ≠ sizeMax ∧ (s.found < capacity → (s.interfaces s.found).Initialised) ∧
        Room capacity (stored capacity s item) items := by
  have hslot : ∀ k, (stored capacity s item).interfaces (s.found + 1 + k) =
      s.interfaces (s.found + (k + 1)) := by
    intro k
    rw [stored_slot, if_neg (by omega), show s.found + 1 + k = s.found + (k + 1) by omega]
  constructor
  · intro h
    refine ⟨h.count 0 (by simp), h.slots 0 (by simp), fun k hk => ?_, fun k hk hcap => ?_⟩
    · have hcount := h.count (k + 1) (by simpa using hk)
      show s.found + 1 + k ≠ sizeMax
      omega
    · have hinit := h.slots (k + 1) (by simpa using hk) (by
        have hcap' : s.found + 1 + k < capacity := hcap
        omega)
      show ((stored capacity s item).interfaces (s.found + 1 + k)).Initialised
      rw [hslot]
      exact hinit
  · rintro ⟨hmax, hinit, h⟩
    constructor
    · intro k hk
      cases k with
      | zero => exact hmax
      | succ k =>
        have hcount := h.count k (by simpa using hk)
        have hcount' : s.found + 1 + k ≠ sizeMax := hcount
        omega
    · intro k hk hcap
      cases k with
      | zero => exact hinit hcap
      | succ k =>
        have hlater := h.slots k (by simpa using hk) (show s.found + 1 + k < capacity by omega)
        rw [← hslot]
        exact hlater

/-! ## §8. The loop over messages. -/

/-- What is left of a dump of no bytes. -/
theorem dump_short {expectedSequence : Nat} {messages : List Message} {done : Bool}
    {bytes : List UInt8} (h : bytes.length < nlmsghdrSize) :
    Dump expectedSequence messages done bytes ↔ bytes = [] ∧ messages = [] ∧ done = false := by
  constructor
  · intro hdump
    cases hdump with
    | tail htail =>
      obtain ⟨hdone, rfl⟩ | ⟨_, m, record, rest, rfl, hencodes, _⟩ := htail
      · exact ⟨rfl, rfl, hdone⟩
      · have hsize := hencodes.size
        rw [List.length_append] at h
        omega
    | last hrecord _ =>
      have hsize := hrecord.size
      omega
    | cons hrecord hpadding hrest =>
      have hsize := hrecord.size
      rw [List.length_append] at h
      omega
  · rintro ⟨rfl, rfl, rfl⟩
    exact .tail (Or.inl ⟨rfl, rfl⟩)

theorem handleMessage_ok {capacity : Nat} {s s' : Progress} {m : Message} :
    handleMessage capacity s m.type (.ok m.body) = .ok s' ↔
      ∃ items, Reports [m] items ∧ Room capacity s items ∧
        s' = items.foldl (stored capacity) s := by
  have hnone : Room capacity s [] := ⟨fun k hk => absurd hk (by simp), fun k hk => absurd hk (by simp)⟩
  unfold handleMessage
  by_cases htype : m.type = 16
  · rw [if_pos htype]
    dsimp only
    constructor
    · intro h
      split at h
      · cases h
      · next item isCan hlink =>
        cases isCan with
        | true =>
          obtain ⟨hmax, hslot, rfl⟩ := storeLink_ok.mp h
          refine ⟨[item], .can htype (parseLink_ok.mp hlink) .nil,
            room_cons.mpr ⟨hmax, hslot, ⟨fun k hk => absurd hk (by simp),
              fun k hk => absurd hk (by simp)⟩⟩, rfl⟩
        | false =>
          cases h
          exact ⟨[], .link htype (parseLink_ok.mp hlink) .nil, hnone, rfl⟩
    · rintro ⟨items, hreports, hroom, rfl⟩
      cases hreports with
      | other hother _ => exact absurd htype hother
      | can _ hlink hrest =>
        cases hrest
        rw [parseLink_ok.mpr hlink]
        obtain ⟨hmax, hslot, _⟩ := room_cons.mp hroom
        exact storeLink_ok.mpr ⟨hmax, hslot, rfl⟩
      | link _ hlink hrest =>
        cases hrest
        rw [parseLink_ok.mpr hlink]
        rfl
  · rw [if_neg htype]
    constructor
    · intro h
      cases h
      exact ⟨[], .other htype .nil, hnone, rfl⟩
    · rintro ⟨items, hreports, _, rfl⟩
      cases hreports with
      | other _ hrest =>
        cases hrest
        rfl
      | can h _ _ => exact absurd h htype
      | link h _ _ => exact absurd h htype

section Turn

variable {data : List UInt8} {expectedSequence capacity offset : Nat} {s s' : Progress}

/-- The record that a header announces. -/
def recordAt (data : List UInt8) (offset : Nat) : List UInt8 :=
  (data.drop offset).take (word32 (data.drop offset) 0)

theorem recordAt_encodes (hsize : nlmsghdrSize ≤ word32 (data.drop offset) 0)
    (hfits : word32 (data.drop offset) 0 ≤ data.length - offset)
    (hsequence : word32 (data.drop offset) 8 = expectedSequence)
    (hwhole : word16 (data.drop offset) 6 &&& 0x10 = 0) :
    Message.Encodes expectedSequence
      ⟨word16 (data.drop offset) 4,
        (data.drop (offset + nlmsghdrSize)).take (word32 (data.drop offset) 0 - nlmsghdrSize)⟩
      (recordAt data offset) ∧ (recordAt data offset).length = word32 (data.drop offset) 0 := by
  unfold nlmsghdrSize at hsize
  have hlength : (recordAt data offset).length = word32 (data.drop offset) 0 := by
    unfold recordAt
    rw [List.length_take, List.length_drop]
    omega
  refine ⟨⟨?_, ?_, ?_, ?_, ?_, ?_⟩, hlength⟩
  · rw [hlength]
    exact hsize
  · rw [hlength]
    exact word32_take (by omega)
  · rw [← hsequence]
    exact word32_take (by omega)
  · rw [← hwhole]
    unfold recordAt
    rw [word16_take (by omega)]
  · exact word16_take (by omega)
  · unfold recordAt
    rw [List.drop_take, List.drop_drop]

/-- What the round reads of a message that stands at the offset. -/
theorem header_of_encodes {m : Message} {record rest : List UInt8}
    (hdata : data.drop offset = record ++ rest) (h : m.Encodes expectedSequence record) :
    nlmsghdrSize ≤ record.length ∧ record.length ≤ data.length - offset ∧
      word32 ((data.drop offset).take nlmsghdrSize) 0 = record.length ∧
      word32 ((data.drop offset).take nlmsghdrSize) 8 = expectedSequence ∧
      word16 ((data.drop offset).take nlmsghdrSize) 6 &&& 0x10 = 0 ∧
      word16 ((data.drop offset).take nlmsghdrSize) 4 = m.type ∧
      (data.drop (offset + nlmsghdrSize)).take (record.length - nlmsghdrSize) = m.body := by
  have hsize := h.size
  have hlength := congrArg List.length hdata
  rw [List.length_drop, List.length_append] at hlength
  unfold nlmsghdrSize at hsize ⊢
  rw [word32_take (by decide), word32_take (by decide), word16_take (by decide),
    word16_take (by decide), hdata, word32_append (by omega), word32_append (by omega),
    word16_append (by omega), word16_append (by omega)]
  refine ⟨hsize, by omega, h.length, h.sequence, h.whole, h.type, ?_⟩
  rw [← h.body, ← List.drop_drop, hdata, ← List.drop_take, List.take_left]
  rfl

/-- **A round that returns** has found DONE. -/
theorem messageTurn_returned :
    messageTurn data expectedSequence capacity offset s = .ok (.returned s') ↔
      (∃ m record rest, data.drop offset = record ++ rest ∧
        Message.Encodes expectedSequence m record ∧ m.type = 3) ∧ s' = { s with done := true } := by
  constructor
  · intro h
    unfold messageTurn at h
    split at h
    · cases h
    · next hroom =>
      unfold nlmsghdrSize at hroom
      rw [readAt_of_le (by unfold nlmsghdrSize; omega)] at h
      dsimp only at h
      unfold nlmsghdrSize at h
      rw [word32_take (by decide), word32_take (by decide), word16_take (by decide),
        word16_take (by decide)] at h
      split at h
      · cases h
      · next hheader =>
        simp only [not_or, not_not, Nat.not_lt] at hheader
        obtain ⟨hsize, hfits, hsequence, hwhole⟩ := hheader
        split at h
        · next htype =>
          cases h
          exact ⟨⟨_, _, _, (List.take_append_drop _ _).symm,
            (recordAt_encodes hsize hfits hsequence hwhole).1, htype⟩, rfl⟩
        · split at h
          · cases h
          · split at h
            · cases h
            · split at h
              · cases h
              · cases h
  · rintro ⟨⟨m, record, rest, hdata, hencodes, htype⟩, rfl⟩
    obtain ⟨hsize, hfits, hlength, hsequence, hwhole, hmtype, _⟩ := header_of_encodes hdata hencodes
    unfold nlmsghdrSize at hsize
    unfold messageTurn
    rw [if_neg (by unfold nlmsghdrSize; omega), readAt_of_le (by unfold nlmsghdrSize; omega)]
    dsimp only
    rw [hlength, hsequence, hwhole, hmtype, if_neg (by unfold nlmsghdrSize; omega), if_pos htype]

/-- **A round that goes on** has handled one message. -/
theorem messageTurn_advanced {next : Nat} :
    messageTurn data expectedSequence capacity offset s = .ok (.advanced s' next) ↔
      ∃ m record, Message.Continues expectedSequence m record ∧ Follows data record offset next ∧
        ∃ items, Reports [m] items ∧ Room capacity s items ∧
          s' = items.foldl (stored capacity) s := by
  constructor
  · intro h
    unfold messageTurn at h
    split at h
    · cases h
    · next hroom =>
      unfold nlmsghdrSize at hroom
      rw [readAt_of_le (by unfold nlmsghdrSize; omega)] at h
      dsimp only at h
      unfold nlmsghdrSize at h
      rw [word32_take (by decide), word32_take (by decide), word16_take (by decide),
        word16_take (by decide)] at h
      split at h
      · cases h
      · next hheader =>
        simp only [not_or, not_not, Nat.not_lt] at hheader
        obtain ⟨hsize, hfits, hsequence, hwhole⟩ := hheader
        split at h
        · cases h
        · next hdone =>
          split at h
          · cases h
          · next herror =>
            rw [readAt_of_le (by omega)] at h
            split at h
            · cases h
            · next m hhandle =>
              split at h
              · cases h
              · next n hn =>
                cases h
                obtain ⟨hencodes, hlength⟩ := recordAt_encodes hsize hfits hsequence hwhole
                refine ⟨_, recordAt data offset, ⟨hencodes, hdone, not_or.mp herror⟩, ?_,
                  handleMessage_ok.mp hhandle⟩
                refine (follows_iff ⟨_, (List.take_append_drop _ _).symm⟩).mpr ⟨n, ?_, rfl⟩
                show advance (recordAt data offset).length _ = _
                rw [hlength]
                exact hn
  · rintro ⟨m, record, hcontinues, hfollows, hitems⟩
    obtain ⟨rest, hdata⟩ := hfollows.starts
    obtain ⟨n, hn, rfl⟩ := (follows_iff ⟨rest, hdata⟩).mp hfollows
    obtain ⟨hsize, hfits, hlength, hsequence, hwhole, hmtype, hbody⟩ :=
      header_of_encodes hdata hcontinues.toEncodes
    unfold nlmsghdrSize at hsize
    unfold messageTurn
    rw [if_neg (by unfold nlmsghdrSize; omega), readAt_of_le (by unfold nlmsghdrSize; omega)]
    dsimp only
    rw [hlength, hsequence, hwhole, hmtype, if_neg (by unfold nlmsghdrSize; omega),
      if_neg hcontinues.notDone, if_neg (not_or.mpr hcontinues.notError),
      readAt_of_le (by unfold nlmsghdrSize; omega), hbody, handleMessage_ok.mpr hitems]
    dsimp only
    rw [hn]

end Turn

theorem reports_cons {m : Message} {messages : List Message} {items : List LinuxInterface} :
    Reports (m :: messages) items ↔
      ∃ first rest, Reports [m] first ∧ Reports messages rest ∧ items = first ++ rest := by
  constructor
  · intro h
    cases h with
    | other h rest => exact ⟨[], _, .other h .nil, rest, rfl⟩
    | @can _ _ item _ h link rest => exact ⟨[item], _, .can h link .nil, rest, rfl⟩
    | link h link rest => exact ⟨[], _, .link h link .nil, rest, rfl⟩
  · rintro ⟨first, rest, hfirst, hrest, rfl⟩
    cases hfirst with
    | other h hnil =>
      cases hnil
      exact .other h hrest
    | can h link hnil =>
      cases hnil
      exact .can h link hrest
    | link h link hnil =>
      cases hnil
      exact .link h link hrest

theorem room_append {capacity : Nat} {first rest : List LinuxInterface} {s : Progress} :
    Room capacity s (first ++ rest) ↔
      Room capacity s first ∧ Room capacity (first.foldl (stored capacity) s) rest := by
  induction first generalizing s with
  | nil =>
    refine (and_iff_right ?_).symm
    exact ⟨fun k hk => absurd hk (by simp), fun k hk => absurd hk (by simp)⟩
  | cons item first ih =>
    rw [List.cons_append, room_cons, room_cons, ih, List.foldl_cons]
    tauto

/-- `done` is not touched by storing. -/
theorem stored_done {capacity : Nat} (items : List LinuxInterface) (s : Progress) :
    (items.foldl (stored capacity) s).done = s.done := by
  rw [stored_foldl]

/-- **The loop over messages, against its grammar.** -/
theorem messageLoop_rest (data : List UInt8) (expectedSequence capacity : Nat) :
    ∀ (fuel offset : Nat) (s s' : Progress), data.length ≤ offset + fuel →
    (whileBelow data.length (messageTurn data expectedSequence capacity)
        (fun s => (Halt.endless, s)) fuel offset s = .ok s' ↔
      ∃ items done, Datagram expectedSequence (data.drop offset) items done ∧
        Room capacity s items ∧
        s' = { items.foldl (stored capacity) s with done := s.done || done }) := by
  intro fuel
  have hend : ∀ (fuel offset : Nat) (s s' : Progress), data.length ≤ offset →
      (whileBelow data.length (messageTurn data expectedSequence capacity)
          (fun s => (Halt.endless, s)) fuel offset s = .ok s' ↔
        ∃ items done, Datagram expectedSequence (data.drop offset) items done ∧
          Room capacity s items ∧
          s' = { items.foldl (stored capacity) s with done := s.done || done }) := by
    intro fuel offset s s' hoffset
    rw [whileBelow_end hoffset, List.drop_eq_nil_of_le hoffset]
    constructor
    · intro h
      cases h
      exact ⟨[], false, ⟨[], (dump_short (by decide)).mpr ⟨rfl, rfl, rfl⟩, .nil⟩,
        ⟨fun k hk => absurd hk (by simp), fun k hk => absurd hk (by simp)⟩, by simp⟩
    · rintro ⟨items, done, ⟨messages, hdump, hreports⟩, _, rfl⟩
      obtain ⟨_, rfl, rfl⟩ := (dump_short (by decide)).mp hdump
      cases hreports
      simp
  induction fuel with
  | zero =>
    intro offset s s' hfuel
    exact hend 0 offset s s' (by omega)
  | succ fuel ih =>
    intro offset s s' hfuel
    by_cases hbelow : offset < data.length
    case neg => exact hend (fuel + 1) offset s s' (by omega)
    rw [whileBelow_succ hbelow]
    have hlength : (data.drop offset).length = data.length - offset := List.length_drop
    constructor
    · intro h
      split at h
      · cases h
      · next m hturn =>
        -- DONE ends the dump
        obtain ⟨hdone, rfl⟩ := messageTurn_returned.mp hturn
        cases h
        exact ⟨[], true, ⟨[], .tail (Or.inr ⟨rfl, hdone⟩), .nil⟩,
          ⟨fun k hk => absurd hk (by simp), fun k hk => absurd hk (by simp)⟩, by simp⟩
      · next m next hturn =>
        have hgrows := messageTurn_grows hturn
        obtain ⟨msg, record, hcontinues, hfollows, first, hfirst, hroom, rfl⟩ :=
          messageTurn_advanced.mp hturn
        obtain ⟨rest, done, ⟨messages, hdump, hrest⟩, hroom', rfl⟩ := (ih next _ s' (by omega)).mp h
        refine ⟨first ++ rest, done, ⟨msg :: messages, ?_,
          reports_cons.mpr ⟨first, rest, hfirst, hrest, rfl⟩⟩, room_append.mpr ⟨hroom, hroom'⟩, ?_⟩
        · obtain ⟨padding, hpadding, hdata⟩ | ⟨hdata, hnone⟩ := hfollows.rest
          · rw [hdata]
            exact .cons hcontinues hpadding hdump
          · rw [hnone] at hdump
            obtain ⟨_, rfl, rfl⟩ := (dump_short (by decide)).mp hdump
            rw [hdata]
            exact .last hcontinues (Or.inl ⟨rfl, rfl⟩)
        · rw [List.foldl_append, stored_done]
    · rintro ⟨items, done, ⟨messages, hdump, hreports⟩, hroom, rfl⟩
      generalize hbytes : data.drop offset = bytes at hdump
      cases hdump with
      | tail htail =>
        cases hreports
        obtain ⟨_, rfl⟩ | ⟨rfl, hdone⟩ := htail
        · rw [hbytes, List.length_nil] at hlength
          omega
        · rw [← hbytes] at hdone
          rw [messageTurn_returned.mpr ⟨hdone, rfl⟩]
          simp
      | @last m _ hcontinues htail =>
        -- the last message may go without its padding
        have hdump : Dump expectedSequence [] done [] := .tail htail
        obtain ⟨_, _, rfl⟩ := (dump_short (by decide)).mp hdump
        have hrecord : bytes.length = data.length - offset := by rw [← hbytes, hlength]
        have hfollows : Follows data bytes offset (offset + bytes.length) := by
          refine (follows_iff ⟨[], by rw [hbytes, List.append_nil]⟩).mpr ⟨_, ?_, rfl⟩
          rw [← hrecord]
          exact advance_all _
        have hpast : data.length ≤ offset + bytes.length := by omega
        rw [messageTurn_advanced.mpr ⟨m, bytes, hcontinues, hfollows, items, hreports, hroom, rfl⟩]
        dsimp only
        have hdone : (items.foldl (stored capacity) s).done = s.done := stored_done items s
        rw [whileBelow_end hpast, ← hdone]
        simp
      | @cons m messages record padding tail hcontinues hpadding hrest =>
        obtain ⟨first, rest, hfirst, hreports', rfl⟩ := reports_cons.mp hreports
        obtain ⟨hroom₁, hroom₂⟩ := room_append.mp hroom
        have hfollows : Follows data record offset (offset + alignFour record.length) :=
          .padded hbytes hpadding
        have hturn := messageTurn_advanced.mpr
          ⟨m, record, hcontinues, hfollows, first, hfirst, hroom₁, rfl⟩
        have hgrows := messageTurn_grows hturn
        have hdrop : data.drop (offset + alignFour record.length) = tail := by
          rw [← List.drop_drop, hbytes, ← List.append_assoc, ← size_add_paddingSize, ← hpadding,
            ← List.length_append, List.drop_left]
        rw [hturn]
        dsimp only
        refine (ih _ _ _ (by omega)).mpr ⟨rest, done, ⟨messages, ?_, hreports'⟩, hroom₂, ?_⟩
        · rw [hdrop]
          exact hrest
        · rw [List.foldl_append, stored_done]

/-! ## §9. The parser. -/

/-- The progress a call begins with. -/
def ParseCall.start (call : ParseCall) : Progress := ⟨call.interfaces, call.count, false⟩

/-- **A datagram reports one list of links.** -/
theorem datagram_unique {expectedSequence : Nat} {bytes : List UInt8}
    {items items' : List LinuxInterface} {done done' : Bool}
    (h : Datagram expectedSequence bytes items done)
    (h' : Datagram expectedSequence bytes items' done') : items = items' ∧ done = done' := by
  -- slots without end, and a count past the bound
  let slot : LinuxInterface := ⟨interfaceSize, linuxAbiVersion, [], 0, 0, 0, 0, 0, false, false⟩
  let capacity := sizeMax + 1 + items.length + items'.length
  let s : Progress := ⟨fun _ => slot, sizeMax + 1, false⟩
  have hroom : ∀ items : List LinuxInterface, Room capacity s items := by
    intro items
    refine ⟨fun k _ => ?_, fun k _ _ => ⟨le_refl _, rfl⟩⟩
    show sizeMax + 1 + k ≠ sizeMax
    omega
  have hloop := messageLoop_rest bytes expectedSequence capacity bytes.length 0 s
  rw [List.drop_zero] at hloop
  have hrun := (hloop _ (by omega)).mpr ⟨items, done, h, hroom items, rfl⟩
  have hrun' := (hloop _ (by omega)).mpr ⟨items', done', h', hroom items', rfl⟩
  rw [hrun] at hrun'
  have hsame := Except.ok.inj hrun'
  rw [stored_foldl, stored_foldl] at hsame
  have hdone : done = done' := by
    have hflags := congrArg Progress.done hsame
    rwa [show s.done = false from rfl, Bool.false_or, Bool.false_or] at hflags
  have hlength : items.length = items'.length := by
    have hfound : sizeMax + 1 + items.length = sizeMax + 1 + items'.length :=
      congrArg Progress.found hsame
    omega
  refine ⟨List.ext_getElem hlength fun k hk hk' => ?_, hdone⟩
  have hslot : storedItems capacity (sizeMax + 1) (fun _ => slot) items (sizeMax + 1 + k) =
      storedItems capacity (sizeMax + 1) (fun _ => slot) items' (sizeMax + 1 + k) :=
    congrFun (congrArg Progress.interfaces hsame) _
  unfold storedItems at hslot
  have hcap : sizeMax + 1 ≤ sizeMax + 1 + k ∧ sizeMax + 1 + k < capacity := by
    show sizeMax + 1 ≤ sizeMax + 1 + k ∧
      sizeMax + 1 + k < sizeMax + 1 + items.length + items'.length
    omega
  rw [if_pos hcap, if_pos hcap, show sizeMax + 1 + k - (sizeMax + 1) = k by omega,
    List.getElem?_eq_getElem hk, List.getElem?_eq_getElem hk'] at hslot
  exact hslot

theorem parse_loop {call : ParseCall} {data : List UInt8} {s' : Progress} :
    whileBelow data.length (messageTurn data call.expectedSequence call.capacity)
        (fun s => (Halt.endless, s)) data.length 0 call.start = .ok s' ↔
      ∃ items done, Datagram call.expectedSequence data items done ∧
        Room call.capacity call.start items ∧
        s' = ⟨storedItems call.capacity call.count call.interfaces items,
          call.count + items.length, done⟩ := by
  rw [messageLoop_rest data _ _ _ _ _ _ (by omega), List.drop_zero]
  simp only [stored_foldl]
  exact Iff.rfl

/-- **The parser of the link dump** ends inside its datagram.  It succeeds
    exactly if its arguments are good, the datagram is one of the grammar and
    there is room for the links it reports; then these are stored in order and
    counted, and otherwise the count is as it was. -/
theorem datagram_parsed (call : ParseCall) (data : List UInt8) :
    ∃ parsed, parseDatagram call data = .ok parsed ∧
      (parsed.status = .ok ↔ ¬ call.Refused data ∧
        ∃ items done, Datagram call.expectedSequence data items done ∧
          Room call.capacity call.start items) ∧
      (∀ items done, parsed.status = .ok → Datagram call.expectedSequence data items done →
        parsed.count = call.count + items.length ∧ parsed.done = done ∧
          parsed.interfaces = storedItems call.capacity call.count call.interfaces items) ∧
      (parsed.status ≠ .ok → parsed.count = call.count) := by
  obtain ⟨parsed, hparsed⟩ := parseDatagram_total call data
  refine ⟨parsed, hparsed, ?_⟩
  unfold parseDatagram at hparsed
  split at hparsed
  · next hrefused =>
    cases hparsed
    refine ⟨⟨fun h => ?_, fun h => absurd hrefused h.1⟩, fun _ _ h => ?_, fun _ => rfl⟩
    · cases h
    · cases h
  · next haccepted =>
    split at hparsed
    · next s hloop =>
      cases hparsed
      obtain ⟨items, done, hdatagram, hroom, rfl⟩ := parse_loop.mp hloop
      refine ⟨iff_of_true rfl ⟨haccepted, items, done, hdatagram, hroom⟩,
        fun items' done' _ hdatagram' => ?_, fun h => absurd rfl h⟩
      obtain ⟨rfl, rfl⟩ := datagram_unique hdatagram hdatagram'
      exact ⟨rfl, rfl, rfl⟩
    · next status s hloop =>
      cases hparsed
      have hfailed : ¬ ∃ items done, Datagram call.expectedSequence data items done ∧
          Room call.capacity call.start items := by
        rintro ⟨items, done, hdatagram, hroom⟩
        have hok := parse_loop.mpr ⟨items, done, hdatagram, hroom, rfl⟩
        exact absurd (hok.symm.trans hloop) (by simp)
      obtain ⟨status', hbad, heq⟩ := messageLoop_proper hloop
      cases heq
      exact ⟨iff_of_false hbad fun h => hfailed h.2, fun _ _ h => absurd h hbad, fun _ => rfl⟩
    · cases hparsed

/-- The call of a caller whose one slot is this one. -/
def oneSlot (slot : LinuxInterface) : ParseCall := ⟨7, 0, false, false, fun _ => slot, 1, 0, false⟩

/-- A slot that has not been initialised. -/
def blankSlot : LinuxInterface := ⟨0, 0, [], 0, 0, 0, 0, 0, false, false⟩

/-- One that has. -/
def readySlot : LinuxInterface :=
  { blankSlot with
    structSize := interfaceSize
    abiVersion := linuxAbiVersion }

/-- A datagram that reports the CAN link `can0`. -/
def canDatagram : List UInt8 :=
  [56, 0, 0, 0, 16, 0, 0, 0, 7, 0, 0, 0, 0, 0,
    0, 0, 0, 0, 0, 0, 7, 0, 0, 0, 64, 0, 0, 0,
    0, 0, 0, 0, 9, 0, 3, 0, 99, 97, 110, 48, 0, 0,
    0, 0, 12, 0, 18, 0, 8, 0, 1, 0, 99, 97, 110, 0]

theorem canDatagram_reports : ∃ items, Datagram 7 canDatagram items false ∧ items.length = 1 := by
  have hrun : (whileBelow canDatagram.length (messageTurn canDatagram 7 1)
      (fun s => (Halt.endless, s)) canDatagram.length 0 (oneSlot readySlot).start).toOption.map
        (fun s => (s.found, s.done)) = some (1, false) := by
    decide +kernel
  cases hloop : whileBelow canDatagram.length (messageTurn canDatagram 7 1)
      (fun s => (Halt.endless, s)) canDatagram.length 0 (oneSlot readySlot).start with
  | error e =>
    rw [hloop] at hrun
    cases hrun
  | ok s =>
    rw [hloop] at hrun
    have hend : (s.found, s.done) = (1, false) := Option.some.inj hrun
    obtain ⟨items, done, hdatagram, _, rfl⟩ :=
      (show _ ↔ _ from @parse_loop (oneSlot readySlot) canDatagram s).mp hloop
    obtain ⟨hfound, rfl⟩ := Prod.mk.inj hend
    refine ⟨items, hdatagram, ?_⟩
    have hcount : 0 + items.length = 1 := hfound
    omega

/-- **An empty datagram is refused**, though nothing in it is malformed, and so
    is one whose link finds a slot that is not initialised. -/
theorem empty_refused :
    (Datagram 7 [] [] false ∧
      (parseDatagram (oneSlot blankSlot) []).map Parsed.status = .ok .eframe) ∧
    ((∃ items, Datagram 7 canDatagram items false ∧ items.length = 1) ∧
      (parseDatagram (oneSlot blankSlot) canDatagram).map Parsed.status = .ok .einval) := by
  exact ⟨⟨⟨[], .tail (Or.inl ⟨rfl, rfl⟩), .nil⟩, by decide +kernel⟩, canDatagram_reports,
    by decide +kernel⟩

end OpenArm.Can
