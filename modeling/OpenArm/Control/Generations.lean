/-
  OpenArm.Control.Generations — what the feedback of an arm has published.

  A log runs along with an arm: the generations captured, those still queued
  and those published, each with the delay in force when it was captured.
  The seven measured records of an arm are always those of the last
  publication.  A forced state is a generation captured and published at once.

  Main results:
    * `publishDueLoop_spec`   — what a call of `publish_due` consumes.
    * `logFits_step`          — every operation keeps arm and log together.
    * `generations_coherent`  — order, delays, timestamps and sequence numbers
      over all runs.
    * `forced_early`          — a forced state waits for no delay.
-/
import OpenArm.Lib.Transition
import OpenArm.Control.ArmRuntime
import OpenArm.Control.Standard

namespace OpenArm.Control

open OpenArm.Lib

variable {F : Type} [Floating F]

/-! ## §1. Operations. -/

/-- An operation of `ArmRuntime`. -/
inductive ArmOp (F : Type) where
  | setEnabled (enabled : Bool)
  | setFaultMask (mask : JointMask) (status : Nat)
  | setInjection (freezeMask dropMask faultMask : JointMask) (faultStatus : Nat)
      (commandFailMask : JointMask) (feedbackDelayNs : Nat)
  | commandAndStep (qReference dqReference : JointVector F) (nowNs : Nat) (dtS : F)
  | forceState (q dq : JointVector F) (nowNs : Nat)
  | materializeStop (enabledHold : Bool) (nowNs : Nat)
  | retirePendingFeedback
  | setBlocked (blocked : Bool) (gain : F)
  | clearContact

namespace ArmOp

/-- What an operation does to the arm. -/
def apply (op : ArmOp F) (r : ArmRuntime F) : ArmRuntime F :=
  match op with
  | .setEnabled enabled => r.setEnabled enabled
  | .setFaultMask mask status => r.setFaultMask mask status
  | .setInjection freeze drop fault status commandFail delay =>
    r.setInjection freeze drop fault status commandFail delay
  | .commandAndStep q dq nowNs dtS => (r.commandAndStep q dq nowNs dtS).1
  | .forceState q dq nowNs => r.forceState q dq nowNs
  | .materializeStop hold nowNs => r.materializeStop hold nowNs
  | .retirePendingFeedback => r.retirePendingFeedback
  | .setBlocked blocked gain => r.setBlocked blocked gain
  | .clearContact => r.clearContact

/-- The time an operation is given, or that of the operation before it. -/
def nowNs (op : ArmOp F) (clockNs : Nat) : Nat :=
  match op with
  | .commandAndStep _ _ nowNs _ | .forceState _ _ nowNs | .materializeStop _ nowNs => nowNs
  | _ => clockNs

end ArmOp

/-- An arm and the latest time it was given. -/
structure ClockedArm (F : Type) where
  arm : ArmRuntime F
  clockNs : Nat

/-- An arm under any sequence of operations whose times do not decrease. -/
def armSystem (config : Joint → MotorConfig F) : Lts (ClockedArm F) (ArmOp F) where
  init c := c = ⟨.create config, 0⟩
  step c op c' := c.clockNs ≤ op.nowNs c.clockNs ∧ c' = ⟨op.apply c.arm, op.nowNs c.clockNs⟩

/-! ## §2. The log. -/

/-- A generation with all seven joints. -/
def FeedbackGeneration.complete (g : FeedbackGeneration) : Bool := g.memberMask == kAllJoints

/-- A generation captured, and the delay in force at that moment. -/
structure GenerationCapture where
  generation : FeedbackGeneration
  delayNs : Nat
  forced : Bool

/-- A generation published, and when. -/
structure Publication where
  capture : GenerationCapture
  atNs : Nat

/-- What has been captured, what of it is queued, and what was published. -/
structure FeedbackLog where
  captures : List GenerationCapture
  pending : List GenerationCapture
  publications : List Publication

namespace FeedbackLog

def empty : FeedbackLog := ⟨[], [], []⟩

/-- A generation joins the queue. -/
def capture (log : FeedbackLog) (c : GenerationCapture) : FeedbackLog :=
  { log with captures := log.captures ++ [c], pending := log.pending ++ [c] }

/-- The complete generations among the first of the queue. -/
def due (log : FeedbackLog) (count : Nat) : List GenerationCapture :=
  (log.pending.take count).filter fun c => c.generation.complete

/-- Some generations leave the queue; the complete ones are published. -/
def consume (log : FeedbackLog) (count nowNs : Nat) : FeedbackLog :=
  { log with
    pending := log.pending.drop count
    publications := log.publications ++ (log.due count).map fun c => ⟨c, nowNs⟩ }

/-- The queue is dropped. -/
def retire (log : FeedbackLog) : FeedbackLog := { log with pending := [] }

/-- The queue is dropped and a generation published as it is captured. -/
def force (log : FeedbackLog) (c : GenerationCapture) (nowNs : Nat) : FeedbackLog where
  captures := log.captures ++ [c]
  pending := []
  publications := log.publications ++ [⟨c, nowNs⟩]

theorem captures_consume (log : FeedbackLog) (count nowNs : Nat) :
    (log.consume count nowNs).publications.map (·.capture) =
      log.publications.map (·.capture) ++ log.due count := by
  simp [consume, Function.comp_def]

theorem generations_consume (log : FeedbackLog) (count nowNs : Nat) :
    (log.consume count nowNs).publications.map (·.capture.generation) =
      log.publications.map (·.capture.generation) ++ (log.due count).map (·.generation) := by
  simp [consume, Function.comp_def]

end FeedbackLog

/-- The frame `force_state` publishes. -/
def DamiaoMotorSimulator.forcedFrame (m : DamiaoMotorSimulator F) (qModel dqModel : F)
    (feedbackNs : Nat) : FeedbackFrame :=
  let q := (qModel - m.config.qOffsetRad) / m.config.qScale
  let dq := dqModel / m.config.qScale
  ({ m with plantRawQ := q, plantRawDq := dq, commandRawQ := q, commandRawDq := dq }.capture
    (Floating.lit 0) feedbackNs true).2

namespace ArmRuntime

/-- The generation a cycle captures. -/
def cycleGeneration (r : ArmRuntime F) (qReference dqReference : JointVector F) (nowNs : Nat)
    (dtS : F) : FeedbackGeneration where
  frame := fun joint =>
    (((r.motor joint).command (qReference joint) (dqReference joint)).capture dtS nowNs
      (hasJoint r.freezeMask joint)).2
  captureNs := nowNs
  readyNs := nowNs + r.feedbackDelayNs
  memberMask := kAllJoints &&& ~~~r.dropMask

/-- The generation a cycle adds to the queue, if it does. -/
def capturedBy (r : ArmRuntime F) (qReference dqReference : JointVector F) (nowNs : Nat)
    (dtS : F) : Option FeedbackGeneration :=
  if r.commandFailMask != 0 then none
  else if maxU64 - nowNs < r.feedbackDelayNs then none
  else if r.feedbackQueue.isFull then none
  else some (r.cycleGeneration qReference dqReference nowNs dtS)

/-- The generation a forced state is. -/
def forcedBy (r : ArmRuntime F) (q dq : JointVector F) (nowNs : Nat) : FeedbackGeneration where
  frame := fun joint => (r.motor joint).forcedFrame (q joint) (dq joint) nowNs
  captureNs := nowNs
  readyNs := nowNs
  memberMask := kAllJoints

end ArmRuntime

/-- How the log goes on with an operation. -/
def recordFeedback (log : FeedbackLog) (c : ClockedArm F) (op : ArmOp F) (c' : ClockedArm F) :
    FeedbackLog :=
  match op with
  | .commandAndStep q dq nowNs dtS =>
    match c.arm.capturedBy q dq nowNs dtS with
    | none => log
    | some generation =>
      (log.capture ⟨generation, c.arm.feedbackDelayNs, false⟩).consume
        (c.arm.feedbackQueue.count + 1 - c'.arm.feedbackQueue.count) nowNs
  | .forceState q dq nowNs =>
    log.force ⟨c.arm.forcedBy q dq nowNs, c.arm.feedbackDelayNs, true⟩ nowNs
  | .materializeStop hold nowNs =>
    log.force
      ⟨(c.arm.setEnabled hold).forcedBy c.arm.measuredQ ArmRuntime.zeroVector nowNs,
        c.arm.feedbackDelayNs, true⟩ nowNs
  | .retirePendingFeedback => log.retire
  | _ => log

/-- An arm with its log. -/
def loggedSystem (config : Joint → MotorConfig F) :
    Lts (ClockedArm F × FeedbackLog) (ArmOp F) :=
  (armSystem config).withHistory .empty recordFeedback

/-! ## §3. What a motor measures. -/

/-- The record `publish` decodes from a frame. -/
def DamiaoMotorSimulator.reading (config : MotorConfig F) (frame : FeedbackFrame) :
    MeasuredMotor F where
  rawQ := decodeField ((frame.data 1 <<< 8) ||| frame.data 2) config.pmaxRad 65535
  rawDq := decodeField ((frame.data 3 <<< 4) ||| (frame.data 4 >>> 4)) config.vmaxRadS 4095
  rawTau := decodeField (((frame.data 4 &&& 0x0f) <<< 8) ||| frame.data 5) config.tmaxNm 4095
  status := frame.data 0 >>> 4
  mosC := frame.data 6
  coilC := frame.data 7
  tNs := frame.tNs
  valid := true

namespace DamiaoMotorSimulator

@[simp] theorem measured_publish (m : DamiaoMotorSimulator F) (frame : FeedbackFrame) :
    (m.publish frame).measured = reading m.config frame := rfl

@[simp] theorem config_publish (m : DamiaoMotorSimulator F) (frame : FeedbackFrame) :
    (m.publish frame).config = m.config := rfl

theorem measured_forceState (m : DamiaoMotorSimulator F) (q dq : F) (feedbackNs : Nat) :
    (m.forceState q dq feedbackNs).measured =
      reading m.config (m.forcedFrame q dq feedbackNs) := rfl

/-- Capturing neither publishes nor reconfigures. -/
theorem capture_keeps (m : DamiaoMotorSimulator F) (dtS : F) (captureNs : Nat) (frozen : Bool) :
    (m.capture dtS captureNs frozen).1.measured = m.measured ∧
      (m.capture dtS captureNs frozen).1.config = m.config := by
  unfold capture
  dsimp only
  split
  · exact ⟨rfl, rfl⟩
  · exact ⟨rfl, rfl⟩

@[simp] theorem tNs_capture (m : DamiaoMotorSimulator F) (dtS : F) (captureNs : Nat)
    (frozen : Bool) : (m.capture dtS captureNs frozen).2.tNs = captureNs := rfl

end DamiaoMotorSimulator

/-- The records of an arm are those of a generation, or none was published yet. -/
def ShowsGeneration (config : Joint → MotorConfig F) (r : ArmRuntime F) :
    Option FeedbackGeneration → Prop
  | none => r.generationTimestamp = 0 ∧ ∀ j, (r.motor j).measured.tNs = 0
  | some generation =>
    r.generationTimestamp = generation.captureNs ∧
      ∀ j, (r.motor j).measured = DamiaoMotorSimulator.reading (config j) (generation.frame j)

/-! ## §4. What `publish_due` consumes. -/

/-- `popped` left the queue by `nowNs`, and its complete generations were
    published. -/
structure Consumed (nowNs : Nat) (r : ArmRuntime F) (popped : List FeedbackGeneration)
    (r' : ArmRuntime F) : Prop where
  queue : r.feedbackQueue.toList = popped ++ r'.feedbackQueue.toList
  due : ∀ g ∈ popped, g.readyNs ≤ nowNs
  config : ∀ j, (r'.motor j).config = (r.motor j).config
  seq : r'.feedbackSeq = r.feedbackSeq + (popped.filter (·.complete)).length
  shows : ∀ published : List FeedbackGeneration,
    ShowsGeneration (fun j => (r.motor j).config) r published.getLast? →
      ShowsGeneration (fun j => (r.motor j).config) r'
        (published ++ popped.filter (·.complete)).getLast?

theorem Consumed.none (nowNs : Nat) (r : ArmRuntime F) : Consumed nowNs r [] r where
  queue := rfl
  due _ h := (List.not_mem_nil h).elim
  config _ := rfl
  seq := rfl
  shows published h := by simpa using h

/-- One due generation leaves the queue, then the rest. -/
theorem Consumed.cons {nowNs : Nat} {r mid r' : ArmRuntime F} {g : FeedbackGeneration}
    {popped : List FeedbackGeneration} (h : Consumed nowNs r [g] mid)
    (k : Consumed nowNs mid popped r') : Consumed nowNs r (g :: popped) r' where
  queue := by rw [h.queue, k.queue, List.singleton_append, List.cons_append]
  due x hx := by
    rcases List.mem_cons.mp hx with rfl | hx
    · exact h.due _ (List.mem_singleton_self _)
    · exact k.due x hx
  config j := (k.config j).trans (h.config j)
  seq := by
    have hsplit : (g :: popped).filter (·.complete) =
        [g].filter (·.complete) ++ popped.filter (·.complete) := by
      rw [← List.filter_append, List.singleton_append]
    rw [hsplit, List.length_append, k.seq, h.seq]
    omega
  shows published hshows := by
    have hmid := h.shows published hshows
    have hconfig : (fun j => (r.motor j).config) = fun j => (mid.motor j).config :=
      funext fun j => (h.config j).symm
    rw [hconfig] at hmid ⊢
    have hend := k.shows _ hmid
    rw [List.append_assoc, ← List.filter_append, List.singleton_append] at hend
    exact hend

namespace ArmRuntime

/-- The loop body consumes the head of the queue, due as it is. -/
theorem publishOne_consumed {r r' : ArmRuntime F} {nowNs : Nat}
    (hsome : r.feedbackQueue.isEmpty = false) (hdue : r.feedbackQueue.front.readyNs ≤ nowNs)
    (h : r.publishOne r.feedbackQueue.front = some r') :
    Consumed nowNs r [r.feedbackQueue.front] r' := by
  have hcount : 0 < r.feedbackQueue.count := by
    simp only [Ring.isEmpty, beq_eq_false_iff_ne] at hsome
    omega
  have hpop := r.feedbackQueue.toList_pop hcount
  have hall : ∀ g ∈ [r.feedbackQueue.front], g.readyNs ≤ nowNs := by
    intro g hg
    rw [List.mem_singleton.mp hg]
    exact hdue
  unfold publishOne at h
  split at h
  · rename_i hcomplete
    have hfilter : [r.feedbackQueue.front].filter (·.complete) = [r.feedbackQueue.front] := by
      exact List.filter_cons_of_pos hcomplete
    split at h
    · cases h
    · cases h
      refine ⟨hpop, hall, fun _ => rfl, by rw [hfilter]; rfl, fun published _ => ?_⟩
      rw [hfilter, List.getLast?_append, List.getLast?_singleton]
      exact ⟨rfl, fun _ => rfl⟩
  · rename_i hpartial
    have hfilter : [r.feedbackQueue.front].filter (·.complete) = [] := by
      exact List.filter_cons_of_neg hpartial
    cases h
    refine ⟨hpop, hall, fun _ => rfl, by rw [hfilter]; rfl,
      fun published hshows => ?_⟩
    rw [hfilter, List.append_nil]
    cases hlast : published.getLast? with
    | none =>
      rw [hlast] at hshows
      exact hshows
    | some g =>
      rw [hlast] at hshows
      exact hshows

/-- **What `publish_due` does**: it consumes a front of the queue that is due,
    and publishes the complete generations of it in their order. -/
theorem publishDueLoop_spec (nowNs fuel : Nat) (r : ArmRuntime F) :
    ∃ popped, Consumed nowNs r popped (publishDueLoop nowNs fuel r).1 := by
  induction fuel generalizing r with
  | zero => exact ⟨[], .none nowNs r⟩
  | succ fuel ih =>
    unfold publishDueLoop
    split
    · exact ⟨[], .none nowNs r⟩
    rename_i hsome
    dsimp only
    split
    · exact ⟨[], .none nowNs r⟩
    rename_i hdue
    split
    · exact ⟨[], .none nowNs r⟩
    rename_i r' hone
    have hhead := publishOne_consumed (by simpa using hsome) (Nat.not_lt.mp hdue) hone
    split
    · obtain ⟨popped, hrest⟩ := ih r'
      exact ⟨_, hhead.cons hrest⟩
    · exact ⟨_, hhead⟩

end ArmRuntime

/-! ## §5. What a cycle does. -/

/-- Nothing is published. -/
structure Silent (r r' : ArmRuntime F) : Prop where
  measured : ∀ j, (r'.motor j).measured = (r.motor j).measured
  config : ∀ j, (r'.motor j).config = (r.motor j).config
  stamp : r'.generationTimestamp = r.generationTimestamp
  seq : r'.feedbackSeq = r.feedbackSeq

theorem Silent.shows {r r' : ArmRuntime F} (h : Silent r r') {config : Joint → MotorConfig F}
    {latest : Option FeedbackGeneration} (hshows : ShowsGeneration config r latest) :
    ShowsGeneration config r' latest := by
  cases latest with
  | none => exact ⟨h.stamp.trans hshows.1, fun j => by rw [h.measured j]; exact hshows.2 j⟩
  | some g => exact ⟨h.stamp.trans hshows.1, fun j => (h.measured j).trans (hshows.2 j)⟩

namespace ArmRuntime

/-- The arm with the captured generation in its queue. -/
def queuedBy (r : ArmRuntime F) (qReference dqReference : JointVector F) (nowNs : Nat)
    (dtS : F) : ArmRuntime F :=
  { r with
    motor := fun joint =>
      (((r.motor joint).command (qReference joint) (dqReference joint)).capture dtS nowNs
        (hasJoint r.freezeMask joint)).1
    feedbackQueue := r.feedbackQueue.push (r.cycleGeneration qReference dqReference nowNs dtS) }

/-- **What a cycle does**: nothing to the feedback, or it adds the generation
    it captured to the queue and then publishes what is due. -/
theorem commandAndStep_spec (r : ArmRuntime F) (q dq : JointVector F) (nowNs : Nat) (dtS : F) :
    (r.capturedBy q dq nowNs dtS = none ∧ Silent r (r.commandAndStep q dq nowNs dtS).1 ∧
        (r.commandAndStep q dq nowNs dtS).1.feedbackQueue.toList = r.feedbackQueue.toList) ∨
      ∃ mid popped,
        r.capturedBy q dq nowNs dtS = some (r.cycleGeneration q dq nowNs dtS) ∧ Silent r mid ∧
          mid.feedbackQueue.toList =
            r.feedbackQueue.toList ++ [r.cycleGeneration q dq nowNs dtS] ∧
          Consumed nowNs mid popped (r.commandAndStep q dq nowNs dtS).1 := by
  have hkeeps := fun j => ((r.motor j).command (q j) (dq j)).capture_keeps dtS nowNs
    (hasJoint r.freezeMask j)
  unfold capturedBy commandAndStep
  split
  · exact .inl ⟨rfl, ⟨fun _ => rfl, fun _ => rfl, rfl, rfl⟩, rfl⟩
  split
  · exact .inl ⟨rfl, ⟨fun _ => rfl, fun _ => rfl, rfl, rfl⟩, rfl⟩
  dsimp only
  split
  · exact .inl ⟨rfl, ⟨fun j => (hkeeps j).1, fun j => (hkeeps j).2, rfl, rfl⟩, rfl⟩
  · rename_i hroom
    have hcount : r.feedbackQueue.count < kFeedbackQueueCapacity := by
      have hle := r.feedbackQueue.count_le
      have hne : r.feedbackQueue.count ≠ kFeedbackQueueCapacity := fun hfull =>
        hroom ((r.feedbackQueue.isFull_iff).mpr hfull)
      omega
    obtain ⟨popped, hconsumed⟩ := publishDueLoop_spec nowNs
      (r.queuedBy q dq nowNs dtS).feedbackQueue.count (r.queuedBy q dq nowNs dtS)
    refine .inr ⟨r.queuedBy q dq nowNs dtS, popped, rfl,
      ⟨fun j => (hkeeps j).1, fun j => (hkeeps j).2, rfl, rfl⟩,
      r.feedbackQueue.toList_push _ hcount, ?_⟩
    split
    · rename_i published heq
      have hpublished : (publishDueLoop nowNs (r.queuedBy q dq nowNs dtS).feedbackQueue.count
        (r.queuedBy q dq nowNs dtS)).1 = published := congrArg Prod.fst heq
      rw [hpublished] at hconsumed
      exact ⟨hconsumed.queue, hconsumed.due, hconsumed.config, hconsumed.seq, hconsumed.shows⟩
    · rename_i published heq
      have hpublished : (publishDueLoop nowNs (r.queuedBy q dq nowNs dtS).feedbackQueue.count
        (r.queuedBy q dq nowNs dtS)).1 = published := congrArg Prod.fst heq
      rw [hpublished] at hconsumed
      exact hconsumed

end ArmRuntime

/-! ## §6. Arm and log together. -/

/-- The log tells what the arm holds and has published. -/
structure LogFits (config : Joint → MotorConfig F) (c : ClockedArm F) (log : FeedbackLog) :
    Prop where
  config_eq : (fun j => (c.arm.motor j).config) = config
  pending : log.pending.map (·.generation) = c.arm.feedbackQueue.toList
  queued : ∀ x ∈ log.pending, x.forced = false
  order : (log.publications.map (·.capture) ++ log.pending).Sublist log.captures
  sorted : log.captures.Pairwise fun a b => a.generation.captureNs ≤ b.generation.captureNs
  captured : ∀ x ∈ log.captures, x.generation.captureNs ≤ c.clockNs ∧
    (∀ j, (x.generation.frame j).tNs = x.generation.captureNs) ∧
    (x.forced = false → x.generation.readyNs = x.generation.captureNs + x.delayNs)
  published : ∀ p ∈ log.publications, p.capture.generation.complete = true ∧
    (p.capture.forced = false → p.capture.generation.readyNs ≤ p.atNs) ∧
    (p.capture.forced = true → p.atNs = p.capture.generation.captureNs)
  shows : ShowsGeneration config c.arm (log.publications.map (·.capture.generation)).getLast?
  seq : log.publications.length < 2 ^ 64 → c.arm.feedbackSeq = log.publications.length

theorem logFits_create (config : Joint → MotorConfig F) :
    LogFits config ⟨.create config, 0⟩ .empty where
  config_eq := rfl
  pending := rfl
  queued _ h := (List.not_mem_nil h).elim
  order := List.Sublist.refl _
  sorted := List.Pairwise.nil
  captured _ h := (List.not_mem_nil h).elim
  published _ h := (List.not_mem_nil h).elim
  shows := ⟨rfl, fun _ => rfl⟩
  seq _ := rfl

section Steps

variable {config : Joint → MotorConfig F} {c : ClockedArm F} {log : FeedbackLog}

/-- An operation that touches neither the feedback nor the queue. -/
theorem LogFits.silent {c' : ClockedArm F} (h : LogFits config c log)
    (hsilent : Silent c.arm c'.arm)
    (hqueue : c'.arm.feedbackQueue.toList = c.arm.feedbackQueue.toList)
    (hclock : c.clockNs ≤ c'.clockNs) : LogFits config c' log where
  config_eq := (funext hsilent.config).trans h.config_eq
  pending := h.pending.trans hqueue.symm
  queued := h.queued
  order := h.order
  sorted := h.sorted
  captured x hx := ⟨Nat.le_trans (h.captured x hx).1 hclock, (h.captured x hx).2⟩
  published := h.published
  shows := hsilent.shows h.shows
  seq hlength := hsilent.seq.trans (h.seq hlength)

/-- A new capture is the latest. -/
theorem captures_snoc (h : LogFits config c log) {x : GenerationCapture}
    (hclock : c.clockNs ≤ x.generation.captureNs) :
    (log.captures ++ [x]).Pairwise
      fun a b => a.generation.captureNs ≤ b.generation.captureNs := by
  rw [List.pairwise_append]
  refine ⟨h.sorted, List.pairwise_singleton .., fun a ha b hb => ?_⟩
  rw [List.mem_singleton.mp hb]
  exact Nat.le_trans (h.captured a ha).1 hclock

/-- Dropping the queue loses nothing that was published. -/
theorem LogFits.retire (h : LogFits config c log) {c' : ClockedArm F}
    (hsilent : Silent c.arm c'.arm) (hqueue : c'.arm.feedbackQueue.toList = [])
    (hclock : c'.clockNs = c.clockNs) : LogFits config c' log.retire where
  config_eq := (funext hsilent.config).trans h.config_eq
  pending := hqueue.symm
  queued _ h := (List.not_mem_nil h).elim
  order := by
    have hfront : (log.publications.map (·.capture)).Sublist log.captures :=
      (List.sublist_append_left _ _).trans h.order
    simpa [FeedbackLog.retire] using hfront
  sorted := h.sorted
  captured x hx := by
    rw [hclock]
    exact h.captured x hx
  published := h.published
  shows := hsilent.shows h.shows
  seq hlength := hsilent.seq.trans (h.seq hlength)

/-- A forced state is captured and published at once. -/
theorem LogFits.force (h : LogFits config c log) {base : ArmRuntime F} (q dq : JointVector F)
    {nowNs : Nat} (hclock : c.clockNs ≤ nowNs) (hsilent : Silent c.arm base) :
    LogFits config ⟨base.forceState q dq nowNs, nowNs⟩
      (log.force ⟨base.forcedBy q dq nowNs, c.arm.feedbackDelayNs, true⟩ nowNs) where
  config_eq := (funext hsilent.config).trans h.config_eq
  pending := rfl
  queued _ h := (List.not_mem_nil h).elim
  order := by
    have hfront : (log.publications.map (·.capture)).Sublist log.captures :=
      (List.sublist_append_left _ _).trans h.order
    have hforced := hfront.append (List.Sublist.refl
      [GenerationCapture.mk (base.forcedBy q dq nowNs) c.arm.feedbackDelayNs true])
    simpa [FeedbackLog.force] using hforced
  sorted := captures_snoc h hclock
  captured x hx := by
    rcases List.mem_append.mp hx with hx | hx
    · exact ⟨Nat.le_trans (h.captured x hx).1 hclock, (h.captured x hx).2⟩
    · rw [List.mem_singleton.mp hx]
      exact ⟨Nat.le_refl _, fun _ => rfl, nofun⟩
  published p hp := by
    rcases List.mem_append.mp hp with hp | hp
    · exact h.published p hp
    · rw [List.mem_singleton.mp hp]
      exact ⟨rfl, nofun, fun _ => rfl⟩
  shows := by
    have hconfig : ∀ j, (base.motor j).config = config j := fun j =>
      (hsilent.config j).trans (congrFun h.config_eq j)
    rw [FeedbackLog.force, List.map_append, List.getLast?_append]
    refine ⟨rfl, fun j => ?_⟩
    show ((base.motor j).forceState (q j) (dq j) nowNs).measured = _
    exact (DamiaoMotorSimulator.measured_forceState ..).trans (by rw [hconfig]; rfl)
  seq hlength := by
    simp only [FeedbackLog.force, List.length_append, List.length_singleton] at hlength ⊢
    have hseq : base.feedbackSeq = log.publications.length :=
      hsilent.seq.trans (h.seq (by omega))
    show wrap64 (base.feedbackSeq + 1) = _
    rw [hseq, wrap64_of_lt hlength]

/-- A cycle captures a generation, then publishes what is due. -/
theorem LogFits.cycle (h : LogFits config c log) {mid r' : ArmRuntime F}
    {x : GenerationCapture} {popped : List FeedbackGeneration} {nowNs : Nat}
    (hclock : c.clockNs ≤ nowNs) (hsilent : Silent c.arm mid)
    (hcapture : x.generation.captureNs = nowNs) (hforced : x.forced = false)
    (hframes : ∀ j, (x.generation.frame j).tNs = nowNs)
    (hready : x.generation.readyNs = nowNs + x.delayNs)
    (hqueue : mid.feedbackQueue.toList = c.arm.feedbackQueue.toList ++ [x.generation])
    (hconsumed : Consumed nowNs mid popped r') :
    LogFits config ⟨r', nowNs⟩ ((log.capture x).consume
      (c.arm.feedbackQueue.count + 1 - r'.feedbackQueue.count) nowNs) := by
  have hconfig : (fun j => (mid.motor j).config) = config :=
    (funext hsilent.config).trans h.config_eq
  -- what was queued is what left the queue, and then what is still in it
  have hall : (log.pending ++ [x]).map (·.generation) = popped ++ r'.feedbackQueue.toList := by
    rw [List.map_append, h.pending, ← hconsumed.queue, hqueue]
    rfl
  have hcount : c.arm.feedbackQueue.count + 1 - r'.feedbackQueue.count = popped.length := by
    have hlength := congrArg List.length (hqueue.symm.trans hconsumed.queue)
    simp only [List.length_append, List.length_singleton, Ring.length_toList] at hlength
    omega
  rw [hcount]
  have htake : ((log.pending ++ [x]).take popped.length).map (·.generation) = popped := by
    rw [List.map_take, hall, List.take_left]
  have hdrop : ((log.pending ++ [x]).drop popped.length).map (·.generation) =
      r'.feedbackQueue.toList := by
    rw [List.map_drop, hall, List.drop_left]
  have hdue : ((log.capture x).due popped.length).map (·.generation) =
      popped.filter (·.complete) := by
    rw [← htake, List.filter_map, htake]
    rfl
  -- every capture is an old one or the one of this cycle
  have hmember : ∀ y ∈ log.captures ++ [x], y ∈ log.captures ∨ y = x := fun y hy =>
    (List.mem_append.mp hy).imp_right List.mem_singleton.mp
  have hpending : (log.pending ++ [x]).Sublist (log.captures ++ [x]) :=
    ((List.sublist_append_right _ _).trans h.order).append (List.Sublist.refl _)
  have hcaptured : ∀ y ∈ log.captures ++ [x], y.generation.captureNs ≤ nowNs ∧
      (∀ j, (y.generation.frame j).tNs = y.generation.captureNs) ∧
        (y.forced = false → y.generation.readyNs = y.generation.captureNs + y.delayNs) := by
    intro y hy
    rcases hmember y hy with hy | rfl
    · exact ⟨Nat.le_trans (h.captured y hy).1 hclock, (h.captured y hy).2⟩
    · exact ⟨Nat.le_of_eq hcapture, fun j => (hframes j).trans hcapture.symm,
        fun _ => by rw [hready, hcapture]⟩
  have hqueued : ∀ y ∈ log.pending ++ [x], y.forced = false := by
    intro y hy
    rcases List.mem_append.mp hy with hy | hy
    · exact h.queued y hy
    · rw [List.mem_singleton.mp hy]
      exact hforced
  refine ⟨?_, hdrop, fun y hy => hqueued y (List.mem_of_mem_drop hy), ?_,
    captures_snoc h (by omega), hcaptured, ?_, ?_, ?_⟩
  · exact (funext hconsumed.config).trans hconfig
  · -- leaving the queue keeps the order of what is published and what is queued
    have hsplit : (log.publications.map (·.capture) ++ (log.pending ++ [x])).Sublist
        (log.captures ++ [x]) := by
      rw [← List.append_assoc]
      exact h.order.append (List.Sublist.refl _)
    have hparts : ((log.capture x).due popped.length ++
        (log.pending ++ [x]).drop popped.length).Sublist (log.pending ++ [x]) := by
      have hfiltered := (List.filter_sublist (p := fun c => c.generation.complete)
        (l := (log.pending ++ [x]).take popped.length)).append
          (List.Sublist.refl ((log.pending ++ [x]).drop popped.length))
      rwa [List.take_append_drop] at hfiltered
    rw [FeedbackLog.captures_consume, List.append_assoc]
    exact ((List.Sublist.refl _).append hparts).trans hsplit
  · intro p hp
    rcases List.mem_append.mp hp with hp | hp
    · exact h.published p hp
    · obtain ⟨y, hy, rfl⟩ := List.mem_map.mp hp
      obtain ⟨hytake, hycomplete⟩ := List.mem_filter.mp hy
      have hypopped : y.generation ∈ popped := by
        rw [← htake]
        exact List.mem_map_of_mem hytake
      -- only complete generations are published, and only when they are due
      refine ⟨hycomplete, fun _ => hconsumed.due _ hypopped, fun hyforced => ?_⟩
      rw [hqueued y (List.mem_of_mem_take hytake)] at hyforced
      cases hyforced
  · rw [FeedbackLog.generations_consume, hdue]
    have hshows := hconsumed.shows _ (by rw [hconfig]; exact hsilent.shows h.shows)
    rw [hconfig] at hshows
    exact hshows
  · intro hlength
    have hsame : ((log.capture x).consume popped.length nowNs).publications.length =
        log.publications.length + (popped.filter (·.complete)).length := by
      rw [← hdue, List.length_map]
      simp [FeedbackLog.consume, FeedbackLog.capture]
    have hseq : mid.feedbackSeq = log.publications.length :=
      hsilent.seq.trans (h.seq (by omega))
    rw [hsame]
    show r'.feedbackSeq = _
    rw [hconsumed.seq, hseq]

/-- **Every operation keeps arm and log together.** -/
theorem logFits_step {op : ArmOp F} {c' : ClockedArm F} (h : LogFits config c log)
    (hstep : (armSystem config).step c op c') :
    LogFits config c' (recordFeedback log c op c') := by
  obtain ⟨hclock, rfl⟩ := hstep
  have hkept (r' : ArmRuntime F) (hsilent : Silent c.arm r')
      (hqueue : r'.feedbackQueue.toList = c.arm.feedbackQueue.toList) :
      LogFits config ⟨r', c.clockNs⟩ log := h.silent hsilent hqueue (Nat.le_refl _)
  cases op with
  | setEnabled enabled => exact hkept _ ⟨fun _ => rfl, fun _ => rfl, rfl, rfl⟩ rfl
  | setFaultMask mask status => exact hkept _ ⟨fun _ => rfl, fun _ => rfl, rfl, rfl⟩ rfl
  | setInjection freeze drop fault status commandFail delay =>
    exact hkept _ ⟨fun _ => rfl, fun _ => rfl, rfl, rfl⟩ rfl
  | setBlocked blocked gain => exact hkept _ ⟨fun _ => rfl, fun _ => rfl, rfl, rfl⟩ rfl
  | clearContact => exact hkept _ ⟨fun _ => rfl, fun _ => rfl, rfl, rfl⟩ rfl
  | retirePendingFeedback =>
    exact h.retire ⟨fun _ => rfl, fun _ => rfl, rfl, rfl⟩ rfl rfl
  | forceState q dq nowNs =>
    exact h.force q dq hclock ⟨fun _ => rfl, fun _ => rfl, rfl, rfl⟩
  | materializeStop hold nowNs =>
    exact h.force _ _ hclock ⟨fun _ => rfl, fun _ => rfl, rfl, rfl⟩
  | commandAndStep q dq nowNs dtS =>
    rcases c.arm.commandAndStep_spec q dq nowNs dtS with
      ⟨hnone, hsilent, hqueue⟩ | ⟨mid, popped, hsome, hsilent, hqueue, hconsumed⟩
    · simp only [recordFeedback, hnone]
      exact h.silent hsilent hqueue hclock
    · simp only [recordFeedback, hsome]
      exact h.cycle hclock hsilent rfl rfl (fun _ => rfl) rfl hqueue hconsumed

/-- An arm and its log fit along every run. -/
theorem logFits_run {ops : List (ArmOp F)}
    (h : (loggedSystem config).Run (⟨.create config, 0⟩, .empty) ops (c, log)) :
    LogFits config c log := by
  have hinvariant : ∀ p, (loggedSystem config).Run (⟨.create config, 0⟩, .empty) ops p →
      LogFits config p.1 p.2 := by
    intro p hrun
    refine hrun.invariant (I := fun p => LogFits config p.1 p.2) (logFits_create config)
      fun a op b hstep ha => ?_
    obtain ⟨hmove, hrecord⟩ := hstep
    rw [hrecord]
    exact logFits_step ha hmove
  exact hinvariant _ h

/-- Logs only grow. -/
theorem record_grows (c' : ClockedArm F) (op : ArmOp F) :
    ∃ more, (recordFeedback log c op c').publications = log.publications ++ more := by
  cases op with
  | commandAndStep q dq nowNs dtS =>
    simp only [recordFeedback]
    split
    · exact ⟨[], (List.append_nil _).symm⟩
    · exact ⟨_, rfl⟩
  | forceState q dq nowNs => exact ⟨_, rfl⟩
  | materializeStop hold nowNs => exact ⟨_, rfl⟩
  | _ => exact ⟨[], (List.append_nil _).symm⟩

/-- The generation timestamp is not above a later one. -/
theorem LogFits.stamp_le (h : LogFits config c log) {c' : ClockedArm F} {log' : FeedbackLog}
    (h' : LogFits config c' log')
    (hmore : ∃ more, log'.publications = log.publications ++ more) :
    c.arm.generationTimestamp ≤ c'.arm.generationTimestamp := by
  obtain ⟨more, hmore⟩ := hmore
  have hshows := h.shows
  have hshows' := h'.shows
  cases hlast : (log.publications.map (·.capture.generation)).getLast? with
  | none =>
    rw [hlast] at hshows
    rw [hshows.1]
    exact Nat.zero_le _
  | some g =>
    rw [hlast] at hshows
    by_cases hempty : more = []
    · rw [hmore, hempty, List.append_nil, hlast] at hshows'
      rw [hshows.1, hshows'.1]
    · obtain ⟨front, p, rfl⟩ := List.eq_nil_or_concat more |>.resolve_left hempty
      rw [List.concat_eq_append] at hmore
      have hnewest : (log'.publications.map (·.capture.generation)).getLast? =
          some p.capture.generation := by
        rw [hmore, ← List.append_assoc, List.map_append, List.getLast?_append]
        rfl
      rw [hnewest] at hshows'
      rw [hshows.1, hshows'.1]
      have hsorted : (log'.publications.map (·.capture)).Pairwise
          fun a b => a.generation.captureNs ≤ b.generation.captureNs :=
        h'.sorted.sublist ((List.sublist_append_left _ _).trans h'.order)
      rw [hmore, ← List.append_assoc, List.map_append, List.pairwise_append] at hsorted
      obtain ⟨q, hq, rfl⟩ := List.mem_map.mp (List.mem_of_getLast? hlast)
      refine hsorted.2.2 q.capture ?_ p.capture (by simp)
      exact List.mem_map_of_mem (List.mem_append_left _ hq)

end Steps

/-! ## §7. All runs. -/

/-- Later logs extend the log. -/
theorem run_grows {config : Joint → MotorConfig F} {p p' : ClockedArm F × FeedbackLog}
    {ops : List (ArmOp F)} (h : (loggedSystem config).Run p ops p') :
    ∃ more, p'.2.publications = p.2.publications ++ more := by
  induction h with
  | nil => exact ⟨[], (List.append_nil _).symm⟩
  | @snoc mid _ _ op _ last ih =>
    obtain ⟨more, hmore⟩ := ih
    obtain ⟨later, hlater⟩ : ∃ later, (recordFeedback mid.2 mid.1 op _).publications =
        mid.2.publications ++ later := record_grows _ op
    refine ⟨more ++ later, ?_⟩
    rw [last.2, hlater, hmore, List.append_assoc]

/-- **Coherent feedback generations.**  Along every run the seven records are
    those of the last publication, with its capture time; publications follow
    the order of capture, each capture once; every publication counts one in
    the sequence number; a queued generation waits for the delay in force when
    it was captured, a forced state is published as it is captured; and the
    generation timestamp never decreases. -/
theorem generations_coherent {config : Joint → MotorConfig F} {ops : List (ArmOp F)}
    {c : ClockedArm F} {log : FeedbackLog}
    (hrun : (loggedSystem config).Run (⟨.create config, 0⟩, .empty) ops (c, log)) :
    (∀ j, (c.arm.motor j).measured.tNs = c.arm.generationTimestamp) ∧
      ShowsGeneration config c.arm (log.publications.map (·.capture.generation)).getLast? ∧
      (log.publications.map (·.capture)).Sublist log.captures ∧
      (log.captures.Pairwise fun a b => a.generation.captureNs ≤ b.generation.captureNs) ∧
      (log.publications.length < 2 ^ 64 → c.arm.feedbackSeq = log.publications.length) ∧
      (∀ p ∈ log.publications, p.capture.generation.complete = true ∧
        (p.capture.forced = false →
          p.capture.generation.captureNs + p.capture.delayNs ≤ p.atNs) ∧
        (p.capture.forced = true → p.atNs = p.capture.generation.captureNs)) ∧
      ∀ (later : List (ArmOp F)) (c' : ClockedArm F) (log' : FeedbackLog),
        (loggedSystem config).Run (c, log) later (c', log') →
          c.arm.generationTimestamp ≤ c'.arm.generationTimestamp := by
  have h := logFits_run hrun
  have hcaptured : ∀ p ∈ log.publications, p.capture ∈ log.captures := fun p hp =>
    h.order.subset (List.mem_append_left _ (List.mem_map_of_mem hp))
  refine ⟨?_, h.shows, (List.sublist_append_left _ _).trans h.order, h.sorted, h.seq, ?_, ?_⟩
  · intro j
    have hshows := h.shows
    cases hlast : (log.publications.map (·.capture.generation)).getLast? with
    | none =>
      rw [hlast] at hshows
      rw [hshows.1, hshows.2 j]
    | some g =>
      rw [hlast] at hshows
      obtain ⟨p, hp, rfl⟩ := List.mem_map.mp (List.mem_of_getLast? hlast)
      rw [hshows.1, hshows.2 j]
      exact (h.captured p.capture (hcaptured p hp)).2.1 j
  · intro p hp
    obtain ⟨hcomplete, hready, hforced⟩ := h.published p hp
    refine ⟨hcomplete, fun hqueued => ?_, hforced⟩
    rw [← (h.captured p.capture (hcaptured p hp)).2.2 hqueued]
    exact hready hqueued
  · intro later c' log' hlater
    have h' := logFits_run (hrun.append hlater)
    exact h.stamp_le h' (run_grows hlater)

/-- An operation at the time it is given, with its log. -/
def ArmOp.perform (p : ClockedArm F × FeedbackLog) (op : ArmOp F) : ClockedArm F × FeedbackLog :=
  let c : ClockedArm F := ⟨op.apply p.1.arm, op.nowNs p.1.clockNs⟩
  (c, recordFeedback p.2 p.1 op c)

theorem perform_run {config : Joint → MotorConfig F} {p : ClockedArm F × FeedbackLog}
    {ops : List (ArmOp F)}
    (h : ops.foldr (fun op ok clockNs => clockNs ≤ op.nowNs clockNs ∧ ok (op.nowNs clockNs))
      (fun _ => True) p.1.clockNs) :
    (loggedSystem config).Run p ops (ops.foldl ArmOp.perform p) := by
  induction ops generalizing p with
  | nil => exact Lts.Run.nil p
  | cons op rest ih => exact Lts.Run.cons ⟨⟨h.1, rfl⟩, rfl⟩ (ih h.2)

/-- The left arm of the standard configuration. -/
def standardArm : Joint → MotorConfig ℚ := standardMotor 0

/-- Two cycles ten nanoseconds apart under a delay of five. -/
def delayedOps : List (ArmOp ℚ) :=
  [.setInjection 0 0 0 0 0 5,
    .commandAndStep ArmRuntime.zeroVector ArmRuntime.zeroVector 10 (1 / 100),
    .commandAndStep ArmRuntime.zeroVector ArmRuntime.zeroVector 20 (1 / 100)]

/-- The second cycle publishes what the first has captured. -/
theorem generations_coherent_delayed :
    (delayedOps.foldl ArmOp.perform (⟨.create standardArm, 0⟩, .empty)).2.publications.length = 1 ∧
      ∀ p ∈ (delayedOps.foldl ArmOp.perform (⟨.create standardArm, 0⟩, .empty)).2.publications,
        p.capture.generation.complete = true ∧
          (p.capture.forced = false →
            p.capture.generation.captureNs + p.capture.delayNs ≤ p.atNs) ∧
          (p.capture.forced = true → p.atNs = p.capture.generation.captureNs) := by
  have hclock : delayedOps.foldr
      (fun op ok clockNs => clockNs ≤ op.nowNs clockNs ∧ ok (op.nowNs clockNs))
      (fun _ => True) 0 := by
    simp [delayedOps, ArmOp.nowNs]
  exact ⟨by decide +kernel, (generations_coherent (perform_run hclock)).2.2.2.2.2.1⟩

/-- A state forced under a delay of five nanoseconds. -/
def forcedOps : List (ArmOp ℚ) :=
  [.setInjection 0 0 0 0 0 5, .forceState ArmRuntime.zeroVector ArmRuntime.zeroVector 10]

/-- **A forced state waits for no delay**: it is captured and published in the
    same call, while a delay of five nanoseconds is in force. -/
theorem forced_early :
    ∃ (ops : List (ArmOp ℚ)) (c : ClockedArm ℚ) (log : FeedbackLog),
      (loggedSystem standardArm).Run (⟨.create standardArm, 0⟩, .empty) ops (c, log) ∧
        ¬ ∀ p ∈ log.publications,
          p.capture.generation.captureNs + p.capture.delayNs ≤ p.atNs := by
  have hclock : forcedOps.foldr
      (fun op ok clockNs => clockNs ≤ op.nowNs clockNs ∧ ok (op.nowNs clockNs))
      (fun _ => True) 0 := by
    simp [forcedOps, ArmOp.nowNs]
  have hrun : (loggedSystem standardArm).Run (⟨.create standardArm, 0⟩, .empty) forcedOps _ :=
    perform_run hclock
  refine ⟨_, _, _, hrun, fun hall => ?_⟩
  have hearly := hall _ (List.mem_singleton_self _)
  revert hearly
  decide

end OpenArm.Control
