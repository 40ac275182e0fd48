/-
  OpenArm.Can.Netlink — the parser of the kernel's link dump.

  `oa_can_linux_parse_datagram` and what it calls.  Data is what a pointer and
  a length give; every access is checked and one outside its data is a result
  of its own (`Halt.outside`), as is a loop that does not end.  Numbers are
  little-endian.

  Main results:
    * `attributeLoop_proper`, `messageLoop_proper` — neither happens in a loop.
    * `parseDatagram_total` — nor in a call of the parser.
-/
import OpenArm.Can.Types
import OpenArm.Lib.Records

namespace OpenArm.Can

open OpenArm.Lib

/-! ## §1. Reading. -/

/-- Why a function stops: a status, or what must not happen. -/
inductive Halt where
  | outside
  | endless
  | status (s : CanStatus)
  deriving DecidableEq

/-- The bytes at an offset. -/
def readAt (data : List UInt8) (offset size : Nat) : Except Halt (List UInt8) :=
  if offset + size ≤ data.length then .ok ((data.drop offset).take size) else .error .outside

/-- A structure at the beginning of a payload, which may be longer. -/
def readStruct (payload : List UInt8) (size : Nat) : Except Halt (List UInt8) :=
  if payload.length < size then .error (.status .eframe) else readAt payload 0 size

/-- The text before the terminator, if there is one. -/
def cString (payload : List UInt8) : Option (List UInt8) :=
  if 0 ∈ payload then some (payload.takeWhile (· ≠ 0)) else none

/-! ## §2. Attributes. -/

/-- `sizeof(struct rtattr)`. -/
def rtattrSize : Nat := 4

/-- An attribute without its flags. -/
structure Attribute where
  type : Nat
  payload : List UInt8

/-- `rta_type & NLA_TYPE_MASK`. -/
def attributeType (header : List UInt8) : Nat := word16 header 2 &&& 0x3fff

/-- `oa_next_attribute`: the attribute and the offset of the next one. -/
def nextAttribute (data : List UInt8) (offset : Nat) : Except Halt (Attribute × Nat) :=
  if data.length < offset ∨ data.length - offset < rtattrSize then .error (.status .eframe)
  else
    match readAt data offset rtattrSize with
    | .error e => .error e
    | .ok header =>
      let attributeLength := word16 header 0
      if attributeLength < rtattrSize ∨ data.length - offset < attributeLength then
        .error (.status .eframe)
      else
        match advance attributeLength (data.length - offset) with
        | none => .error (.status .eframe)
        | some n =>
          match readAt data (offset + rtattrSize) (attributeLength - rtattrSize) with
          | .error e => .error e
          | .ok payload => .ok (⟨attributeType header, payload⟩, offset + n)

section Loop

variable {σ : Type} (step : σ → Attribute → Except Halt σ) (data : List UInt8)

/-- One round of a loop over attributes; too few bytes for one must be zero. -/
def attributeTurn (offset : Nat) (s : σ) : Except Halt (Turn σ) :=
  if data.length - offset < rtattrSize then
    match readAt data offset (data.length - offset) with
    | .error e => .error e
    | .ok tail =>
      if tail.all (· == 0) then .ok (.returned s) else .error (.status .eframe)
  else
    match nextAttribute data offset with
    | .error e => .error e
    | .ok (attr, next) =>
      match step s attr with
      | .error e => .error e
      | .ok s => .ok (.advanced s next)

/-- The loop over the attributes from an offset on. -/
def attributeLoop (offset : Nat) (s : σ) : Except Halt σ :=
  whileBelow data.length (attributeTurn step data) (fun _ => .endless) data.length offset s

end Loop

/-! ## §3. Links. -/

/-- `oa_can_linux_interface`; the name is the text before its terminator. -/
structure LinuxInterface where
  structSize : Nat
  abiVersion : Nat
  name : List UInt8
  ifindex : Nat
  flags : Nat
  mtu : Nat
  bitrate : Nat
  dataBitrate : Nat
  linkUp : Bool
  fdEnabled : Bool
  deriving DecidableEq

/-- `sizeof(oa_can_linux_interface)`. -/
def interfaceSize : Nat := 48

/-- `OA_CAN_ABI_VERSION`. -/
def linuxAbiVersion : Nat := 2

/-- `sizeof(item->name)`. -/
def nameSize : Nat := 16

/-- The loop body of `oa_parse_can_data`. -/
def canDataStep (item : LinuxInterface) (attr : Attribute) : Except Halt LinuxInterface :=
  -- IFLA_CAN_BITTIMING
  if attr.type = 1 then
    (readStruct attr.payload 32).map fun timing => { item with bitrate := word32 timing 0 }
  -- IFLA_CAN_DATA_BITTIMING
  else if attr.type = 9 then
    (readStruct attr.payload 32).map fun timing => { item with dataBitrate := word32 timing 0 }
  -- IFLA_CAN_CTRLMODE
  else if attr.type = 5 then
    (readStruct attr.payload 8).map fun mode =>
      { item with fdEnabled := decide (word32 mode 4 &&& 0x20 ≠ 0) }
  else .ok item

/-- `oa_parse_can_data`. -/
def parseCanData (data : List UInt8) (item : LinuxInterface) : Except Halt LinuxInterface :=
  attributeLoop canDataStep data 0 item

/-- What `oa_parse_linkinfo` collects: `is_can` and `info_data`. -/
structure LinkInfo where
  isCan : Bool
  infoData : Option (List UInt8)

/-- The kind of a CAN link. -/
def canKind : List UInt8 := [0x63, 0x61, 0x6e]

/-- The loop body of `oa_parse_linkinfo`. -/
def linkInfoStep (s : LinkInfo) (attr : Attribute) : Except Halt LinkInfo :=
  -- IFLA_INFO_KIND
  if attr.type = 1 then
    match cString attr.payload with
    | none => .error (.status .eframe)
    | some kind => .ok (if kind = canKind then { s with isCan := true } else s)
  -- IFLA_INFO_DATA
  else if attr.type = 2 then .ok { s with infoData := some attr.payload }
  else .ok s

/-- `oa_parse_linkinfo`. -/
def parseLinkInfo (data : List UInt8) (item : LinuxInterface) :
    Except Halt (LinuxInterface × Bool) :=
  match attributeLoop linkInfoStep data 0 ⟨false, none⟩ with
  | .error e => .error e
  | .ok ⟨true, some infoData⟩ =>
    match parseCanData infoData item with
    | .error e => .error e
    | .ok item => .ok (item, true)
  | .ok s => .ok (item, s.isCan)

/-- The loop body of `oa_parse_link`, over the item and `*out_is_can`. -/
def linkStep (s : LinuxInterface × Bool) (attr : Attribute) :
    Except Halt (LinuxInterface × Bool) :=
  -- IFLA_IFNAME
  if attr.type = 3 then
    match cString attr.payload with
    | none => .error (.status .eframe)
    | some name =>
      if name = [] ∨ nameSize ≤ name.length then .error (.status .eframe)
      else .ok ({ s.1 with name }, s.2)
  -- IFLA_MTU
  else if attr.type = 4 then
    (readStruct attr.payload 4).map fun mtu => ({ s.1 with mtu := word32 mtu 0 }, s.2)
  -- IFLA_LINKINFO
  else if attr.type = 18 then parseLinkInfo attr.payload s.1
  else .ok s

/-- `sizeof(struct ifinfomsg)`. -/
def ifinfomsgSize : Nat := 16

/-- The item of a link before its attributes are read. -/
def linkHeader (info : List UInt8) : LinuxInterface where
  structSize := interfaceSize
  abiVersion := linuxAbiVersion
  name := []
  ifindex := word32 info 4
  flags := word32 info 8
  mtu := 0
  bitrate := 0
  dataBitrate := 0
  -- IFF_RUNNING
  linkUp := decide (word32 info 8 &&& 0x40 ≠ 0)
  fdEnabled := false

/-- `ifi_index > 0`, of a signed number. -/
def positiveIndex (info : List UInt8) : Prop := 0 < word32 info 4 ∧ word32 info 4 < 2 ^ 31

instance (info : List UInt8) : Decidable (positiveIndex info) := by
  unfold positiveIndex
  infer_instance

/-- `oa_parse_link`. -/
def parseLink (message : List UInt8) : Except Halt (LinuxInterface × Bool) :=
  match readStruct message ifinfomsgSize with
  | .error e => .error e
  | .ok info =>
    if ¬ positiveIndex info then .error (.status .eframe)
    else if message.length < alignFour ifinfomsgSize then .error (.status .eframe)
    else
      match attributeLoop linkStep message (alignFour ifinfomsgSize) (linkHeader info, false) with
      | .error e => .error e
      | .ok (item, isCan) =>
        if isCan = true ∧ item.name = [] then .error (.status .eframe) else .ok (item, isCan)

/-! ## §4. Datagrams. -/

/-- `sizeof(struct nlmsghdr)`. -/
def nlmsghdrSize : Nat := 16

/-- `SIZE_MAX`. -/
def sizeMax : Nat := 2 ^ 64 - 1

/-- The caller's slots, `found`, and `*out_done`. -/
structure Progress where
  interfaces : Nat → LinuxInterface
  found : Nat
  done : Bool

/-- The caller has initialised a slot. -/
def LinuxInterface.Initialised (slot : LinuxInterface) : Prop :=
  interfaceSize ≤ slot.structSize ∧ slot.abiVersion = linuxAbiVersion

instance (slot : LinuxInterface) : Decidable slot.Initialised := by
  unfold LinuxInterface.Initialised
  infer_instance

/-- What is done with a link that has been parsed. -/
def storeLink (capacity : Nat) (s : Progress) (item : LinuxInterface) (isCan : Bool) :
    Except (Halt × Progress) Progress :=
  if isCan = true then
    if s.found = sizeMax then .error (.status .erange, s)
    else if s.found < capacity then
      if ¬ (s.interfaces s.found).Initialised then .error (.status .einval, s)
      else
        .ok { s with
          interfaces := Function.update s.interfaces s.found item
          found := s.found + 1 }
    else .ok { s with found := s.found + 1 }
  else .ok s

/-- `RTM_NEWLINK`, which alone is looked into. -/
def handleMessage (capacity : Nat) (s : Progress) (type : Nat)
    (body : Except Halt (List UInt8)) : Except (Halt × Progress) Progress :=
  if type = 16 then
    match body with
    | .error e => .error (e, s)
    | .ok body =>
      match parseLink body with
      | .error e => .error (e, s)
      | .ok (item, isCan) => storeLink capacity s item isCan
  else .ok s

/-- One round of the loop over the messages. -/
def messageTurn (data : List UInt8) (expectedSequence capacity offset : Nat) (s : Progress) :
    Except (Halt × Progress) (Turn Progress) :=
  if data.length - offset < nlmsghdrSize then .error (.status .eframe, s)
  else
    match readAt data offset nlmsghdrSize with
    | .error e => .error (e, s)
    | .ok header =>
      let messageLength := word32 header 0
      let type := word16 header 4
      -- NLM_F_DUMP_INTR
      if messageLength < nlmsghdrSize ∨ data.length - offset < messageLength ∨
          word32 header 8 ≠ expectedSequence ∨ word16 header 6 &&& 0x10 ≠ 0 then
        .error (.status .eframe, s)
      -- NLMSG_DONE
      else if type = 3 then .ok (.returned { s with done := true })
      -- NLMSG_ERROR and NLMSG_OVERRUN
      else if type = 2 ∨ type = 4 then .error (.status .eio, s)
      else
        match handleMessage capacity s type
            (readAt data (offset + nlmsghdrSize) (messageLength - nlmsghdrSize)) with
        | .error e => .error e
        | .ok s =>
          match advance messageLength (data.length - offset) with
          | none => .error (.status .eframe, s)
          | some n => .ok (.advanced s (offset + n))

/-- What a call leaves. -/
structure Parsed where
  status : CanStatus
  interfaces : Nat → LinuxInterface
  count : Nat
  done : Bool

/-- The arguments of a call besides the data; `nullPointer` when a pointer that
    is needed is null. -/
structure ParseCall where
  expectedSequence : Nat
  senderPortId : Nat
  wasTruncated : Bool
  nullPointer : Bool
  interfaces : Nat → LinuxInterface
  capacity : Nat
  count : Nat
  done : Bool

/-- The arguments are refused. -/
def ParseCall.Refused (call : ParseCall) (data : List UInt8) : Prop :=
  call.nullPointer = true ∨ call.senderPortId ≠ 0 ∨ call.wasTruncated = true ∨ data = []

instance (call : ParseCall) (data : List UInt8) : Decidable (call.Refused data) := by
  unfold ParseCall.Refused
  infer_instance

/-- `oa_can_linux_parse_datagram`. -/
def parseDatagram (call : ParseCall) (data : List UInt8) : Except Halt Parsed :=
  if call.Refused data then .ok ⟨.eframe, call.interfaces, call.count, call.done⟩
  else
    match whileBelow data.length (messageTurn data call.expectedSequence call.capacity)
        (fun s => (.endless, s)) data.length 0 ⟨call.interfaces, call.count, false⟩ with
    | .ok s => .ok ⟨.ok, s.interfaces, s.found, s.done⟩
    | .error (.status status, s) => .ok ⟨status, s.interfaces, call.count, false⟩
    | .error (e, _) => .error e

/-! ## §5. Bounds and termination. -/

/-- An error status, not an access outside and not an endless loop. -/
def Halt.Proper (e : Halt) : Prop := ∃ s, s ≠ .ok ∧ e = .status s

theorem readAt_of_le {data : List UInt8} {offset size : Nat} (h : offset + size ≤ data.length) :
    readAt data offset size = .ok ((data.drop offset).take size) := if_pos h

theorem readStruct_eq {payload : List UInt8} {size : Nat} :
    readStruct payload size =
      if payload.length < size then .error (.status .eframe) else .ok (payload.take size) := by
  unfold readStruct
  split
  · rfl
  · rw [readAt_of_le (by omega), List.drop_zero]

theorem Halt.proper_status {s : CanStatus} (h : s ≠ .ok) : (Halt.status s).Proper := ⟨s, h, rfl⟩

theorem readStruct_proper {payload : List UInt8} {size : Nat} {e : Halt}
    (h : readStruct payload size = .error e) : e.Proper := by
  rw [readStruct_eq] at h
  split at h
  · cases h
    exact Halt.proper_status (by decide)
  · cases h

section Map

variable {α : Type} {payload : List UInt8} {size : Nat} {f : List UInt8 → α}

theorem map_readStruct_proper {e : Halt} (h : (readStruct payload size).map f = .error e) :
    e.Proper := by
  cases hread : readStruct payload size with
  | error e' =>
    rw [hread] at h
    cases h
    exact readStruct_proper hread
  | ok bytes =>
    rw [hread] at h
    cases h

theorem map_readStruct_ok {a : α} : (readStruct payload size).map f = .ok a ↔
    size ≤ payload.length ∧ a = f (payload.take size) := by
  rw [readStruct_eq]
  by_cases h : payload.length < size
  · rw [if_pos h]
    constructor
    · intro hmap
      cases hmap
    · rintro ⟨hsize, _⟩
      omega
  · rw [if_neg h]
    constructor
    · intro hmap
      exact ⟨by omega, (Except.ok.inj hmap).symm⟩
    · rintro ⟨_, rfl⟩
      rfl

end Map

/-- **An attribute is read inside its data**, and the next one stands behind it. -/
theorem nextAttribute_bounds (data : List UInt8) (offset : Nat) :
    (∀ e, nextAttribute data offset = .error e → e.Proper) ∧
      ∀ a next, nextAttribute data offset = .ok (a, next) → offset < next := by
  have hframe : (∀ e, (.error (.status .eframe) : Except Halt (Attribute × Nat)) = .error e →
      e.Proper) ∧ ∀ a next, (.error (.status .eframe) : Except Halt (Attribute × Nat)) =
        .ok (a, next) → offset < next := by
    constructor
    · intro e h
      cases h
      exact Halt.proper_status (by decide)
    · intro a next h
      cases h
  unfold nextAttribute
  split
  · exact hframe
  · next hroom =>
    unfold rtattrSize at hroom ⊢
    rw [readAt_of_le (by omega)]
    dsimp only
    split
    · exact hframe
    · next hlength =>
      split
      · exact hframe
      · next n hn =>
        rw [readAt_of_le (by omega)]
        have hpos := advance_pos (by omega) hn
        constructor
        · intro e h
          cases h
        · intro a next h
          cases h
          omega

section Loop

variable {σ : Type} {step : σ → Attribute → Except Halt σ}
  (hstep : ∀ s a e, step s a = .error e → e.Proper) {data : List UInt8}

include hstep in
theorem attributeTurn_proper {offset : Nat} {s : σ} {e : Halt}
    (h : attributeTurn step data offset s = .error e) (hoffset : offset ≤ data.length) :
    e.Proper := by
  unfold attributeTurn at h
  split at h
  · rw [readAt_of_le (by omega)] at h
    dsimp only at h
    split at h
    · cases h
    · cases h
      exact Halt.proper_status (by decide)
  · split at h
    · next e' hnext =>
      cases h
      exact (nextAttribute_bounds data offset).1 _ hnext
    · split at h
      · next e' hbody =>
        cases h
        exact hstep _ _ _ hbody
      · cases h

theorem attributeTurn_grows {offset next : Nat} {s s' : σ}
    (h : attributeTurn step data offset s = .ok (.advanced s' next)) : offset < next := by
  unfold attributeTurn at h
  split at h
  · split at h
    · cases h
    · split at h
      · cases h
      · cases h
  · split at h
    · cases h
    · next a n hnext =>
      split at h
      · cases h
      · cases h
        exact (nextAttribute_bounds data offset).2 _ _ hnext

include hstep in
/-- **A loop over attributes stays inside its data and ends**, if its body does. -/
theorem attributeLoop_proper {offset : Nat} {s : σ} {e : Halt}
    (h : attributeLoop step data offset s = .error e) : e.Proper :=
  whileBelow_error (fun _ _ _ hbelow hturn => attributeTurn_proper hstep hturn hbelow.le)
    (fun _ _ _ _ hturn => attributeTurn_grows hturn) data.length offset s e (by omega) h

end Loop

theorem canDataStep_proper (item : LinuxInterface) (attr : Attribute) (e : Halt)
    (h : canDataStep item attr = .error e) : e.Proper := by
  unfold canDataStep at h
  split at h
  · exact map_readStruct_proper h
  · split at h
    · exact map_readStruct_proper h
    · split at h
      · exact map_readStruct_proper h
      · cases h

theorem linkInfoStep_proper (s : LinkInfo) (attr : Attribute) (e : Halt)
    (h : linkInfoStep s attr = .error e) : e.Proper := by
  unfold linkInfoStep at h
  split at h
  · split at h
    · cases h
      exact Halt.proper_status (by decide)
    · cases h
  · split at h
    · cases h
    · cases h

theorem parseLinkInfo_proper {data : List UInt8} {item : LinuxInterface} {e : Halt}
    (h : parseLinkInfo data item = .error e) : e.Proper := by
  unfold parseLinkInfo at h
  split at h
  · next hloop =>
    cases h
    exact attributeLoop_proper linkInfoStep_proper hloop
  · split at h
    · next hdata =>
      cases h
      exact attributeLoop_proper canDataStep_proper hdata
    · cases h
  · cases h

theorem linkStep_proper (s : LinuxInterface × Bool) (attr : Attribute) (e : Halt)
    (h : linkStep s attr = .error e) : e.Proper := by
  unfold linkStep at h
  split at h
  · split at h
    · cases h
      exact Halt.proper_status (by decide)
    · split at h
      · cases h
        exact Halt.proper_status (by decide)
      · cases h
  · split at h
    · exact map_readStruct_proper h
    · split at h
      · exact parseLinkInfo_proper h
      · cases h

theorem parseLink_proper {message : List UInt8} {e : Halt} (h : parseLink message = .error e) :
    e.Proper := by
  unfold parseLink at h
  split at h
  · next hread =>
    cases h
    exact readStruct_proper hread
  · split at h
    · cases h
      exact Halt.proper_status (by decide)
    · split at h
      · cases h
        exact Halt.proper_status (by decide)
      · split at h
        · next hloop =>
          cases h
          exact attributeLoop_proper linkStep_proper hloop
        · split at h
          · cases h
            exact Halt.proper_status (by decide)
          · cases h

theorem storeLink_proper {capacity : Nat} {s s' : Progress} {item : LinuxInterface} {isCan : Bool}
    {e : Halt} (h : storeLink capacity s item isCan = .error (e, s')) : e.Proper := by
  unfold storeLink at h
  split at h
  · split at h
    · cases h
      exact Halt.proper_status (by decide)
    · split at h
      · split at h
        · cases h
          exact Halt.proper_status (by decide)
        · cases h
      · cases h
  · cases h

theorem messageTurn_proper {data : List UInt8} {expectedSequence capacity offset : Nat}
    {s s' : Progress} {e : Halt} (hoffset : offset ≤ data.length)
    (h : messageTurn data expectedSequence capacity offset s = .error (e, s')) : e.Proper := by
  unfold messageTurn at h
  split at h
  · cases h
    exact Halt.proper_status (by decide)
  · next hroom =>
    unfold nlmsghdrSize at hroom h
    rw [readAt_of_le (by omega)] at h
    dsimp only at h
    split at h
    · cases h
      exact Halt.proper_status (by decide)
    · next hheader =>
      split at h
      · cases h
      · split at h
        · cases h
          exact Halt.proper_status (by decide)
        · rw [readAt_of_le (by omega)] at h
          split at h
          · next hmessage =>
            cases h
            unfold handleMessage at hmessage
            split at hmessage
            · dsimp only at hmessage
              split at hmessage
              · next hlink =>
                cases hmessage
                exact parseLink_proper hlink
              · exact storeLink_proper hmessage
            · cases hmessage
          · split at h
            · cases h
              exact Halt.proper_status (by decide)
            · cases h

theorem messageTurn_grows {data : List UInt8} {expectedSequence capacity offset next : Nat}
    {s s' : Progress}
    (h : messageTurn data expectedSequence capacity offset s = .ok (.advanced s' next)) :
    offset < next := by
  unfold messageTurn at h
  split at h
  · cases h
  · split at h
    · cases h
    · dsimp only at h
      split at h
      · cases h
      · next hheader =>
        split at h
        · cases h
        · split at h
          · cases h
          · split at h
            · cases h
            · split at h
              · cases h
              · next n hn =>
                have hpos := advance_pos (by unfold nlmsghdrSize at hheader; omega) hn
                cases h
                omega

/-- A loop over messages fails as its rounds do. -/
theorem messageLoop_proper {data : List UInt8} {expectedSequence capacity : Nat} {s s' : Progress}
    {e : Halt}
    (h : whileBelow data.length (messageTurn data expectedSequence capacity)
      (fun s => (Halt.endless, s)) data.length 0 s = .error (e, s')) : e.Proper := by
  have herror := whileBelow_error (P := fun e : Halt × Progress => e.1.Proper)
    (fun _ _ e hbelow hturn => messageTurn_proper hbelow.le hturn)
    (fun _ _ _ _ hturn => messageTurn_grows hturn) data.length 0 _ _ (by omega) h
  exact herror

/-- **The parser stays inside the datagram and ends.** -/
theorem parseDatagram_total (call : ParseCall) (data : List UInt8) :
    ∃ parsed, parseDatagram call data = .ok parsed := by
  unfold parseDatagram
  split
  · exact ⟨_, rfl⟩
  · split
    · exact ⟨_, rfl⟩
    · exact ⟨_, rfl⟩
    · next e s hcrash hloop =>
      obtain ⟨status, _, rfl⟩ := messageLoop_proper hloop
      exact absurd rfl (hcrash status)

end OpenArm.Can
