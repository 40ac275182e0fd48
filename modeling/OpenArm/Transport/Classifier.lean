/-
  OpenArm.Transport.Classifier — `classify` of `transport.cpp`.

  The transport sends a frame only when it knows which request the frame is.
  It reads that from the bytes, and for a register write by building the
  write again and comparing.  The shared id is no motor for it: a frame to
  motor 0x7FF, and a query of a register it does not know, stay UNKNOWN
  although the builders make them.

  Main results:
    * `classify_exact`        — the classes are the images of the builders,
      for motors below the shared id and known registers.
    * `classify_misses_motor` — an enable frame that stays UNKNOWN.
-/
import OpenArm.Can.Families

namespace OpenArm.Transport

open OpenArm.Lib OpenArm.Can

/-! ## §1. The classifier. -/

/-- `oa_transport_status`. -/
inductive Status where
  | ok | einval | eabi | erange | epermission | etimeout | eclosed | eio | elink | eframe
  | enomem | eunsupported
  deriving DecidableEq, Repr

/-- `oa_transport_frame_class`. -/
inductive FrameClass where
  | registerQuery | statusQuery | disable | enable | motion | registerWrite | setZero
  | clearError | saveParameters | unknown
  deriving DecidableEq, Repr

/-- `allBytes`: the bytes from `first` up to `last` are `value`. -/
def allBytes (frame : Frame) (first last : Nat) (value : BitVec 8) : Bool :=
  (List.finRange 8).all fun i =>
    !(decide (first ≤ i.val) && decide (i.val < last)) || frame.data i == value

/-- `validMotorTarget`. -/
def validMotorTarget (target : Nat) : Bool := decide (0 < target) && decide (target < sffMask)

/-- `knownRegister`. -/
def knownRegister (rid : Nat) : Bool := (registerMetadata rid).isSome

/-- `validRegisterWrite`. -/
def validRegisterWrite (frame : Frame) : Bool :=
  if !validMotorTarget frame.target then false
  else match registerMetadata (frame.data 3).toNat with
    | none => false
    | some info =>
      if !info.writable then false
      else match makeRegisterWrite (.ofRaw frame.target (frame.data 3).toNat info.valueType
          (BitVec.ofNat 32 frame.value)) with
        | .error _ => false
        | .ok expected => expected == frame

/-- `classify`. -/
def classify (frame : Frame) : Except Status FrameClass :=
  if frame.dlc ≠ 8 ∨ sffMask < frame.canId then .error .eframe
  else if frame.canId = 0 then .ok .unknown
  else if frame.canId = sffMask then
    if frame.data 2 == 0x33 && validMotorTarget frame.target &&
        knownRegister (frame.data 3).toNat && allBytes frame 4 8 0 then .ok .registerQuery
    else if frame.data 2 == 0xcc && validMotorTarget frame.target && allBytes frame 3 8 0 then
      .ok .statusQuery
    else if frame.data 2 == 0x55 && validRegisterWrite frame then .ok .registerWrite
    else if frame.data 2 == 0xaa && validMotorTarget frame.target && allBytes frame 3 8 0 then
      .ok .saveParameters
    else .ok .unknown
  else if allBytes frame 0 7 0xff then
    if frame.data 7 = 0xfc then .ok .enable
    else if frame.data 7 = 0xfd then .ok .disable
    else if frame.data 7 = 0xfe then .ok .setZero
    else if frame.data 7 = 0xfb then .ok .clearError
    else .ok .unknown
  else .ok .unknown

/-! ## §2. The images of the builders. -/

/-- The frames of each class, by the builder that makes them: to a motor
    below the shared id and, for a query, of a known register. -/
inductive Built : FrameClass → Frame → Prop where
  | enable {frame : Frame} (sendId : Nat) (below : sendId < sffMask)
      (made : makeEnable sendId = .ok frame) : Built .enable frame
  | disable {frame : Frame} (sendId : Nat) (below : sendId < sffMask)
      (made : makeDisable sendId = .ok frame) : Built .disable frame
  | setZero {frame : Frame} (sendId : Nat) (below : sendId < sffMask)
      (made : makeSetZero sendId = .ok frame) : Built .setZero frame
  | clearError {frame : Frame} (sendId : Nat) (below : sendId < sffMask)
      (made : makeClearError sendId = .ok frame) : Built .clearError frame
  | saveParameters {frame : Frame} (sendId : Nat) (below : sendId < sffMask)
      (made : makeSaveParameters sendId = .ok frame) : Built .saveParameters frame
  | statusQuery {frame : Frame} (sendId : Nat) (below : sendId < sffMask)
      (made : makeRefreshStatus sendId = .ok frame) : Built .statusQuery frame
  | registerQuery {frame : Frame} (sendId : Nat) (rid : BitVec 8) (below : sendId < sffMask)
      (known : knownRegister rid.toNat = true)
      (made : makeRegisterQuery sendId rid = .ok frame) : Built .registerQuery frame
  | registerQueryTyped {frame : Frame} (request : RegisterRequest)
      (below : request.sendId < sffMask)
      (made : makeRegisterQueryTyped request = .ok frame) : Built .registerQuery frame
  | registerWrite {frame : Frame} (write : RegisterWrite) (below : write.sendId < sffMask)
      (made : makeRegisterWrite write = .ok frame) : Built .registerWrite frame

theorem validMotorTarget_iff {target : Nat} :
    validMotorTarget target = true ↔ validStandardId target = true ∧ target < sffMask := by
  unfold validMotorTarget validStandardId
  simp only [Bool.and_eq_true, decide_eq_true_eq]
  omega

theorem allBytes_iff {frame : Frame} {first last : Nat} {value : BitVec 8} :
    allBytes frame first last value = true ↔
      ∀ i : Fin 8, first ≤ i.val → i.val < last → frame.data i = value := by
  unfold allBytes
  simp only [List.all_eq_true, List.mem_finRange, true_implies, Bool.or_eq_true,
    Bool.not_eq_true', Bool.and_eq_false_iff, decide_eq_false_iff_not, beq_iff_eq]
  refine forall_congr' fun i => ?_
  constructor
  · rintro (h | h) hfirst hlast
    · omega
    · exact h
  · intro h
    by_cases hin : first ≤ i.val ∧ i.val < last
    · exact .inr (h hin.1 hin.2)
    · exact .inl (by omega)

/-- The value of a payload that ends in zeros. -/
theorem value_of_zeros {frame : Frame} (h : allBytes frame 4 8 0 = true) : frame.value = 0 := by
  have hzero := allBytes_iff.mp h
  unfold Frame.value
  rw [hzero 4 (by decide) (by decide), hzero 5 (by decide) (by decide),
    hzero 6 (by decide) (by decide), hzero 7 (by decide) (by decide)]
  rfl

theorem zeros_of_value {frame : Frame} (h : frame.value = 0) : allBytes frame 4 8 0 = true := by
  rw [allBytes_iff]
  unfold Frame.value at h
  intro i hfirst _
  rw [← BitVec.toNat_inj]
  show (frame.data i).toNat = 0
  fin_cases i
  · simp at hfirst
  · simp at hfirst
  · simp at hfirst
  · simp at hfirst
  · show (frame.data 4).toNat = 0
    omega
  · show (frame.data 5).toNat = 0
    omega
  · show (frame.data 6).toNat = 0
    omega
  · show (frame.data 7).toNat = 0
    omega

/-- Zeros from the register number on. -/
theorem zeros_from_three {frame : Frame} :
    allBytes frame 3 8 0 = true ↔ (frame.data 3).toNat = 0 ∧ frame.value = 0 := by
  constructor
  · intro h
    have hzero := allBytes_iff.mp h
    refine ⟨?_, value_of_zeros (allBytes_iff.mpr fun i hfirst hlast => hzero i (by omega) hlast)⟩
    rw [hzero 3 (by decide) (by decide)]
    rfl
  · rintro ⟨hrid, hvalue⟩
    have hzero := allBytes_iff.mp (zeros_of_value hvalue)
    refine allBytes_iff.mpr fun i hfirst hlast => ?_
    by_cases hthree : i.val = 3
    · have hi : i = 3 := Fin.ext hthree
      rw [hi, ← BitVec.toNat_inj]
      exact hrid
    · exact hzero i (by omega) hlast

/-- Seven bytes of ones. -/
theorem ones_iff {frame : Frame} :
    allBytes frame 0 7 0xff = true ↔
      frame.data = ![0xff, 0xff, 0xff, 0xff, 0xff, 0xff, 0xff, frame.data 7] := by
  rw [data_eq_iff, allBytes_iff]
  constructor
  · intro h
    exact ⟨h 0 (by decide) (by decide), h 1 (by decide) (by decide), h 2 (by decide) (by decide),
      h 3 (by decide) (by decide), h 4 (by decide) (by decide), h 5 (by decide) (by decide),
      h 6 (by decide) (by decide), rfl⟩
  · rintro ⟨h₀, h₁, h₂, h₃, h₄, h₅, h₆, -⟩ i - hlast
    fin_cases i
    · exact h₀
    · exact h₁
    · exact h₂
    · exact h₃
    · exact h₄
    · exact h₅
    · exact h₆
    · simp at hlast

/-! ## §3. What the classifier recognises. -/

/-- The parts of a frame at the shared id. -/
theorem says_of {frame : Frame} (hcan : frame.canId = sffMask) (hdlc : frame.dlc = 8) :
    frame.Says frame.target (frame.data 2).toNat (frame.data 3).toNat frame.value :=
  ⟨hcan, hdlc, rfl, rfl, rfl, rfl⟩

theorem validRegisterWrite_iff {frame : Frame} (hcan : frame.canId = sffMask)
    (hdlc : frame.dlc = 8) (hop : frame.data 2 = 0x55) :
    validRegisterWrite frame = true ↔
      validMotorTarget frame.target = true ∧
        WritableValue (frame.data 3).toNat frame.value := by
  have hsaid := says_of hcan hdlc
  rw [hop] at hsaid
  unfold validRegisterWrite
  constructor
  · intro h
    split at h
    · cases h
    rename_i htarget
    have htarget : validMotorTarget frame.target = true := by simpa using htarget
    split at h
    · cases h
    rename_i info hmeta
    split at h
    · cases h
    rename_i hwritable
    split at h
    · cases h
    rename_i expected hmade
    rw [beq_iff_eq] at h
    subst h
    obtain ⟨target, rid, value, ⟨-, -, -, -, hrid, hvalue⟩, -, hok⟩ :=
      registerWrite_iff.mp ⟨_, hmade⟩
    rw [hrid, hvalue]
    exact ⟨htarget, hok⟩
  · rintro ⟨htarget, info, hmeta, hwritable, hok⟩
    have hmade := makeRegisterWrite_ofRaw hsaid (validMotorTarget_iff.mp htarget).1 hmeta
      hwritable hok
    rw [if_neg (by simp [htarget]), hmeta]
    dsimp only
    rw [if_neg (by simp [hwritable]), hmade]
    exact beq_self_eq_true frame

/-- A request that checks the id only is built by its parts. -/
theorem built_of_says {frame : Frame} {opcode rid : BitVec 8} (hcan : frame.canId = sffMask)
    (hdlc : frame.dlc = 8) (hop : frame.data 2 = opcode) (hrid : (frame.data 3).toNat = rid.toNat)
    (hvalue : frame.value = 0) (htarget : validMotorTarget frame.target = true) :
    frame.target < sffMask ∧
      (if !validStandardId frame.target then .error .einval
        else .ok (serviceFrame frame.target opcode rid 0) : Except CanStatus Frame) = .ok frame := by
  obtain ⟨hid, hbelow⟩ := validMotorTarget_iff.mp htarget
  refine ⟨hbelow, idChecked_ok_iff.mpr ⟨hid, ?_⟩⟩
  have hlt : frame.target < 65536 := by
    unfold sffMask at hbelow
    omega
  exact (says_iff hlt (by decide)).mpr ⟨hcan, hdlc, rfl, by rw [hop], hrid, hvalue⟩

/-- A class the classifier answers is that of a builder. -/
theorem classify_sound {frame : Frame} {cls : FrameClass} (h : classify frame = .ok cls)
    (hknown : cls ≠ .unknown) : Built cls frame := by
  unfold classify at h
  split at h
  · cases h
  rename_i hclean
  rw [not_or, not_not] at hclean
  obtain ⟨hdlc, hmask⟩ := hclean
  split at h
  · exact absurd (Except.ok.inj h).symm hknown
  rename_i hzero
  split at h
  · -- service frames: the four operations, in the order of the source
    rename_i hcan
    split at h
    · rename_i hquery
      simp only [Bool.and_eq_true, beq_iff_eq] at hquery
      obtain ⟨⟨⟨hop, htarget⟩, hregister⟩, hzeros⟩ := hquery
      cases h
      obtain ⟨hbelow, hmade⟩ := built_of_says hcan hdlc hop rfl (value_of_zeros hzeros) htarget
      exact .registerQuery frame.target (frame.data 3) hbelow hregister hmade
    split at h
    · rename_i hstatus
      simp only [Bool.and_eq_true, beq_iff_eq] at hstatus
      obtain ⟨⟨hop, htarget⟩, hzeros⟩ := hstatus
      obtain ⟨hrid, hvalue⟩ := zeros_from_three.mp hzeros
      cases h
      have hrid : (frame.data 3).toNat = (0 : BitVec 8).toNat := hrid
      obtain ⟨hbelow, hmade⟩ := built_of_says hcan hdlc hop hrid hvalue htarget
      exact .statusQuery frame.target hbelow hmade
    split at h
    · rename_i hwrite
      simp only [Bool.and_eq_true, beq_iff_eq] at hwrite
      obtain ⟨hop, hwrite⟩ := hwrite
      cases h
      obtain ⟨htarget, info, hmeta, hwritable, hok⟩ :=
        (validRegisterWrite_iff hcan hdlc hop).mp hwrite
      obtain ⟨hid, hbelow⟩ := validMotorTarget_iff.mp htarget
      have hsaid := says_of hcan hdlc
      rw [hop] at hsaid
      exact .registerWrite _ hbelow (makeRegisterWrite_ofRaw hsaid hid hmeta hwritable hok)
    split at h
    · rename_i hsave
      simp only [Bool.and_eq_true, beq_iff_eq] at hsave
      obtain ⟨⟨hop, htarget⟩, hzeros⟩ := hsave
      obtain ⟨hrid, hvalue⟩ := zeros_from_three.mp hzeros
      cases h
      have hrid : (frame.data 3).toNat = (0 : BitVec 8).toNat := hrid
      obtain ⟨hbelow, hmade⟩ := built_of_says hcan hdlc hop hrid hvalue htarget
      exact .saveParameters frame.target hbelow hmade
    · exact absurd (Except.ok.inj h).symm hknown
  rename_i hcan
  -- a frame of a motor: seven bytes of ones and a last byte that says which
  have hid : validStandardId frame.canId = true ∧ frame.canId < sffMask := by
    refine ⟨?_, by omega⟩
    unfold validStandardId
    rw [Bool.and_eq_true, decide_eq_true_eq, decide_eq_true_eq]
    omega
  split at h
  · rename_i hones
    have hdata := ones_iff.mp hones
    have hmade : ∀ last, frame.data 7 = last → makeSpecial frame.canId last = .ok frame := by
      rintro last rfl
      exact makeSpecial_ok_iff.mpr ⟨hid.1, rfl, hdlc, hdata⟩
    split at h
    · rename_i hlast
      cases h
      exact .enable frame.canId hid.2 (hmade _ hlast)
    split at h
    · rename_i hlast
      cases h
      exact .disable frame.canId hid.2 (hmade _ hlast)
    split at h
    · rename_i hlast
      cases h
      exact .setZero frame.canId hid.2 (hmade _ hlast)
    split at h
    · rename_i hlast
      cases h
      exact .clearError frame.canId hid.2 (hmade _ hlast)
    · exact absurd (Except.ok.inj h).symm hknown
  · exact absurd (Except.ok.inj h).symm hknown

/-- A special frame to a motor reaches the test of its last byte. -/
theorem classify_special {sendId : Nat} {last : BitVec 8} {frame : Frame}
    (hmade : makeSpecial sendId last = .ok frame) (hbelow : sendId < sffMask) :
    frame.data 7 = last ∧ classify frame =
      if frame.data 7 = 0xfc then .ok .enable
      else if frame.data 7 = 0xfd then .ok .disable
      else if frame.data 7 = 0xfe then .ok .setZero
      else if frame.data 7 = 0xfb then .ok .clearError
      else .ok .unknown := by
  obtain ⟨hid, hcan, hdlc, hdata⟩ := makeSpecial_ok_iff.mp hmade
  have hlast : frame.data 7 = last := by
    rw [hdata]
    rfl
  have hpos := (validStandardId_iff.mp hid).1
  refine ⟨hlast, ?_⟩
  have hones : allBytes frame 0 7 0xff = true := ones_iff.mpr (by rw [hlast]; exact hdata)
  unfold classify
  rw [if_neg (by omega), if_neg (by omega), if_neg (by omega), if_pos hones]

/-- A request to the shared id reaches the test of its opcode. -/
theorem classify_shared {frame : Frame} (hcan : frame.canId = sffMask) (hdlc : frame.dlc = 8) :
    classify frame =
      if frame.data 2 == 0x33 && validMotorTarget frame.target &&
          knownRegister (frame.data 3).toNat && allBytes frame 4 8 0 then .ok .registerQuery
      else if frame.data 2 == 0xcc && validMotorTarget frame.target && allBytes frame 3 8 0 then
        .ok .statusQuery
      else if frame.data 2 == 0x55 && validRegisterWrite frame then .ok .registerWrite
      else if frame.data 2 == 0xaa && validMotorTarget frame.target && allBytes frame 3 8 0 then
        .ok .saveParameters
      else .ok .unknown := by
  have hne : ¬ frame.canId = 0 := by
    rw [hcan]
    decide
  unfold classify
  rw [if_neg (by omega), if_neg hne, if_pos hcan]

/-- The parts of a request that checks the id only. -/
theorem parts_of_built {sendId : Nat} {frame : Frame} {opcode rid : BitVec 8}
    (hbelow : sendId < sffMask)
    (hmade : (if !validStandardId sendId then .error .einval
      else .ok (serviceFrame sendId opcode rid 0) : Except CanStatus Frame) = .ok frame) :
    frame.canId = sffMask ∧ frame.dlc = 8 ∧ frame.data 2 = opcode ∧ frame.data 3 = rid ∧
      frame.value = 0 ∧ validMotorTarget frame.target = true := by
  obtain ⟨hid, hf⟩ := idChecked_ok_iff.mp hmade
  have hlt : sendId < 65536 := by
    unfold sffMask at hbelow
    omega
  obtain ⟨hcan, hdlc, htarget, hop, hrid, hvalue⟩ := (eq_serviceFrame_iff hlt (by decide)).mp hf
  refine ⟨hcan, hdlc, hop, hrid, hvalue, ?_⟩
  rw [htarget]
  exact validMotorTarget_iff.mpr ⟨hid, hbelow⟩

/-- A frame of a builder is recognised. -/
theorem classify_complete {frame : Frame} {cls : FrameClass} (h : Built cls frame) :
    classify frame = .ok cls := by
  -- a query by its parts, from either query builder
  have hquery : ∀ {sendId : Nat} {rid : BitVec 8}, sendId < sffMask →
      knownRegister rid.toNat = true →
      (if !validStandardId sendId then .error .einval
        else .ok (serviceFrame sendId 0x33 rid 0) : Except CanStatus Frame) = .ok frame →
      classify frame = .ok .registerQuery := by
    intro sendId rid hbelow hknown hmade
    obtain ⟨hcan, hdlc, hop, hrid, hvalue, htarget⟩ := parts_of_built hbelow hmade
    rw [classify_shared hcan hdlc, hop, hrid, htarget, hknown, zeros_of_value hvalue]
    rfl
  cases h with
  | enable sendId below made =>
    obtain ⟨hlast, hclass⟩ := classify_special made below
    rw [hclass, hlast]
    rfl
  | disable sendId below made =>
    obtain ⟨hlast, hclass⟩ := classify_special made below
    rw [hclass, hlast]
    rfl
  | setZero sendId below made =>
    obtain ⟨hlast, hclass⟩ := classify_special made below
    rw [hclass, hlast]
    rfl
  | clearError sendId below made =>
    obtain ⟨hlast, hclass⟩ := classify_special made below
    rw [hclass, hlast]
    rfl
  | saveParameters sendId below made =>
    obtain ⟨hcan, hdlc, hop, hrid, hvalue, htarget⟩ := parts_of_built below made
    have hzeros : allBytes frame 3 8 0 = true :=
      zeros_from_three.mpr ⟨by rw [hrid]; rfl, hvalue⟩
    rw [classify_shared hcan hdlc, hop, htarget, hzeros]
    rfl
  | statusQuery sendId below made =>
    obtain ⟨hcan, hdlc, hop, hrid, hvalue, htarget⟩ := parts_of_built below made
    have hzeros : allBytes frame 3 8 0 = true :=
      zeros_from_three.mpr ⟨by rw [hrid]; rfl, hvalue⟩
    rw [classify_shared hcan hdlc, hop, htarget, hzeros]
    rfl
  | registerQuery sendId rid below known made => exact hquery below known made
  | registerQueryTyped request below made =>
    obtain ⟨hid, hf⟩ := registerQueryTyped_ok made
    obtain ⟨info, hmeta⟩ := registerQueryTyped_known made
    refine hquery below ?_ (idChecked_ok_iff.mpr ⟨hid, hf⟩)
    have hlt := registerMetadata_lt hmeta
    rw [toNat_byte, Nat.mod_eq_of_lt hlt]
    unfold knownRegister
    rw [hmeta]
    rfl
  | registerWrite write below made =>
    obtain ⟨target, rid, value, ⟨hcan, hdlc, htarget, hop, hrid, hvalue⟩, hid, hok⟩ :=
      registerWrite_iff.mp ⟨write, made⟩
    have hop : frame.data 2 = 0x55 := BitVec.toNat_inj.mp hop
    have hmotor : validMotorTarget frame.target = true := by
      rw [registerWrite_target made]
      rw [registerWrite_target made] at htarget
      exact validMotorTarget_iff.mpr ⟨htarget ▸ hid, below⟩
    have hwrite : validRegisterWrite frame = true := by
      rw [validRegisterWrite_iff hcan hdlc hop, hrid, hvalue]
      exact ⟨hmotor, hok⟩
    rw [classify_shared hcan hdlc, hop, hwrite]
    rfl

/-- **The classifier is the inverse of the builders**, for motors below the
    shared id and known registers. -/
theorem classify_exact {frame : Frame} (hdlc : frame.dlc = 8) (hid : frame.canId ≤ sffMask) :
    (∀ cls, cls ≠ .unknown → (classify frame = .ok cls ↔ Built cls frame)) ∧
      (classify frame = .ok .unknown ↔ ∀ cls, ¬ Built cls frame) := by
  refine ⟨fun cls hknown => ⟨fun h => classify_sound h hknown, classify_complete⟩, ?_, ?_⟩
  · intro hunknown cls hbuilt
    have hclass := classify_complete hbuilt
    rw [hunknown] at hclass
    cases hclass
    cases hbuilt
  · intro hnone
    cases hclass : classify frame with
    | error status =>
      unfold classify at hclass
      rw [if_neg (by omega)] at hclass
      split at hclass
      · cases hclass
      split at hclass
      · repeat' (split at hclass)
        all_goals cases hclass
      · repeat' (split at hclass)
        all_goals cases hclass
    | ok cls =>
      by_cases hknown : cls = .unknown
      · rw [hknown]
      · exact absurd (classify_sound hclass hknown) (hnone cls)

/-- The rule at a status query of motor 7. -/
theorem classify_exact_status :
    (∀ cls, cls ≠ .unknown →
      (classify (serviceFrame 7 0xcc 0 0) = .ok cls ↔ Built cls (serviceFrame 7 0xcc 0 0))) ∧
      (classify (serviceFrame 7 0xcc 0 0) = .ok .unknown ↔
        ∀ cls, ¬ Built cls (serviceFrame 7 0xcc 0 0)) :=
  classify_exact rfl (by decide)

/-- The enable frame of motor 0x7FF. -/
def sharedEnable : Frame := fillFrame 0x7ff ![0xff, 0xff, 0xff, 0xff, 0xff, 0xff, 0xff, 0xfc]

/-- A frame a builder makes that stays UNKNOWN. -/
theorem classify_misses_motor :
    makeEnable 0x7ff = .ok sharedEnable ∧ classify sharedEnable = .ok .unknown :=
  ⟨by decide +kernel, by decide +kernel⟩

end OpenArm.Transport
