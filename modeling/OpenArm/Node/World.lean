/-
  OpenArm.Node.World — the portal's threads, its goals and their interleavings.

  One executor thread runs every callback of the node, one at a time; the
  workers of the HTTP server run beside it.  A label of a step names the
  thread that performs its next block, or what reaches the node from outside:
  messages, timers, goal responses and results, a stop.  The values the
  environment chooses are part of the label: clocks, `stop_requested`, whether
  a server is there and whether a call throws.

  `History` remembers what happened; no block reads it.

  Main definition:
    * `portal` — the transition system.
-/
import OpenArm.Lib.Baton
import OpenArm.Lib.Transition
import OpenArm.Node.State

namespace OpenArm.Node

open OpenArm.Lib OpenArm.Control OpenArm.Model OpenArm.Guard PortalNode

variable {F : Type} [Metric F]

/-! ## §1. Threads, goals and history. -/

inductive Thread where
  | executor
  | worker (index : Nat)
  deriving DecidableEq, Repr

/-- A goal that was sent and has neither been rejected nor has a result.  A contact
    goal has no leg. -/
structure Goal (F : Type) where
  leg : Option (Nat × RoutePose F)
  accepted : Bool

/-- A leg that was sent. -/
structure SentLeg (F : Type) where
  /-- The number of its command. -/
  command : Nat
  goal : Nat
  leg : Leg F
  endpoint : RoutePose F
  seen : Handoff F
  /-- How many cancels there had been when the token of its command was reserved, -/
  begun : Nat
  /-- and at the last check before it was sent. -/
  checked : Nat
  /-- Whether the emergency stop was engaged at that check, -/
  engaged : Bool
  /-- and how often it had been, at that check and when the request was admitted. -/
  engagements : Nat
  admitted : Nat

/-- A contact goal that was sent. -/
structure SentContact where
  command : Nat
  goal : Nat
  begun : Nat
  checked : Nat

/-- A route that was reported completed: the endpoint of its last leg, and the
    target and the preserved side of its command. -/
structure Completion (F : Type) where
  command : Nat
  endpoint : RoutePose F
  target : RoutePose F
  preservedSide : Int

/-- What happened so far. -/
structure History (F : Type) where
  cancels : Nat
  engagements : Nat
  /-- The cancels before a token was reserved, -/
  begunAt : Nat → Nat
  /-- and the engagements before a worker's request was admitted. -/
  admittedAt : Thread → Nat
  commands : Nat
  /-- Of the last command: its two marks, and the target the guard accepted. -/
  begun : Nat
  admitted : Nat
  target : RoutePose F
  /-- Of the last check that was passed. -/
  checked : Nat
  engaged : Bool
  engagementsAtCheck : Nat
  legs : List (SentLeg F)
  contacts : List SentContact
  /-- The goals whose cancellation was asked for. -/
  asked : List Nat
  completed : List (Completion F)

structure World (F : Type) where
  node : PortalNode F
  activity : Thread → Activity F
  goals : Nat → Option (Goal F)
  nextGoal : Nat
  /-- `oa_runtime_estop_asserted`. -/
  latch : Bool
  history : History F

/-- What the environment chooses while a thread performs its next block. -/
structure Turn where
  first : Moment
  second : Moment
  available : Bool
  sends : Bool

inductive Event (F : Type) where
  | request (worker : Nat) (job : Job F)
  | advance (thread : Thread) (turn : Turn)
  | cancel
  | beginShutdown
  | engageEstop
  | releaseEstop
  | jointState (moment : Moment) (producerTimeNs : Int) (q : PairQ F)
  | diagnostics (moment : Moment) (producerTimeNs : Int) (statuses : List DiagnosticStatus)
  | fire
  | response (goal : Nat) (accepted : Bool)
  | result (goal : Nat) (completed : Bool)

/-- What a step reads of `stop_requested`, in its first block. -/
def Event.stopRequested : Event F → Bool
  | .advance _ turn => turn.first.stop
  | _ => false

namespace World

/-- A thread goes on with something else. -/
def become (w : World F) (t : Thread) (activity : Activity F) : World F :=
  { w with activity := Function.update w.activity t activity }

/-- Where a submission returns to: the worker still has its token. -/
def afterLeg (token : Option Nat) : Activity F := token.elim .idle .releasing

/-! ## §2. The blocks of a thread. -/

section Source

variable (A : GuardModel F) (R : ArmModel F) (realMode : Bool) (w : World F) (t : Thread)
  (turn : Turn)

def beginsGuard (job : Job F) : World F :=
  (w.node.beginGuard turn.first.stop).elim (w.become t .idle) fun reserved =>
    { w.become t (.reserved reserved.1 job) with
      node := reserved.2
      history := { w.history with
        begunAt := Function.update w.history.begunAt reserved.1 w.history.cancels } }

def judges (token : Nat) (job : Job F) : World F :=
  w.become t (((w.node.state A realMode turn.first).bind (w.node.judge A R job)).elim
    (.releasing token) (.judged token))

/-- A command was entered. -/
def commanded (token : Nat) (guarded : Guarded F) : History F :=
  { w.history with
    commands := w.history.commands + 1
    begun := w.history.begunAt token
    admitted := w.history.admittedAt t
    target := guarded.guard.commandedTcp }

def moves (token : Nat) (guarded : Guarded F) : World F :=
  let (entry, node) := w.node.move A token guarded turn.first turn.second turn.available turn.sends
  match entry with
  | .refused | .dropped => { w.become t (.releasing token) with node }
  | .contact =>
    { w.become t (.releasing token) with
      node
      goals := Function.update w.goals w.nextGoal (some { leg := none, accepted := false })
      nextGoal := w.nextGoal + 1
      history := { w.commanded t token guarded with
        contacts := w.history.contacts ++
          [{ command := w.history.commands + 1
             goal := w.nextGoal
             begun := w.history.begunAt token
             checked := w.history.cancels }] } }
  | .route =>
    { w.become t (.submitting (some token) (.entering 0)) with
      node
      history := w.commanded t token guarded }

/-- A check before a goal was passed. -/
def checks : History F :=
  { w.history with
    checked := w.history.cancels
    engaged := w.latch
    engagementsAtCheck := w.history.engagements }

/-- The record of a leg. -/
def sentLeg (leg : Leg F) (endpoint : RoutePose F) (seen : Handoff F) : SentLeg F where
  command := w.history.commands
  goal := w.nextGoal
  leg
  endpoint
  seen
  begun := w.history.begun
  checked := w.history.checked
  engaged := w.history.engaged
  engagements := w.history.engagementsAtCheck
  admitted := w.history.admitted

/-- The last check before the goal lies behind. -/
def checkedStage : Stage F → Bool
  | .sending _ _ _ => true
  | _ => false

/-- A thread after a block of its leg. -/
def progresses (token : Option Nat) (node : PortalNode F) : Progress F → World F
  | .next stage =>
    { w.become t (.submitting token stage) with
      node
      history := if checkedStage stage then w.checks else w.history }
  | .returned => { w.become t (afterLeg token) with node }
  | .sent leg endpoint seen =>
    { w.become t (afterLeg token) with
      node
      goals := Function.update w.goals w.nextGoal
        (some { leg := some (leg.index, endpoint), accepted := false })
      nextGoal := w.nextGoal + 1
      history := { w.history with
        legs := w.history.legs ++ [w.sentLeg leg endpoint seen] } }

def submits (token : Option Nat) (stage : Stage F) : World F :=
  let (node, progress) := w.node.submitRouteLeg A R turn.first turn.sends stage
  w.progresses t token node progress

def schedules (index : Nat) : World F :=
  let (goes, node) := w.node.scheduleRouteLeg turn.first index
  { w.become t (if goes then .arming index else .idle) with node }

def arms (index : Nat) : World F :=
  { w.become t .idle with node := w.node.keepTimer turn.first index }

def ticks (index : Nat) : World F :=
  let (ready, node) := w.node.resume turn.first index
  { w.become t (if ready then .submitting none (.entering index) else .idle) with node }

/-- The next block of a thread. -/
def advance : Option (World F) :=
  match w.activity t with
  | .idle => none
  | .admitted job => some (w.beginsGuard t turn job)
  | .reserved token job => some (w.judges A R realMode t turn token job)
  | .judged token guarded => some (w.moves A t turn token guarded)
  | .releasing token => some { w.become t .idle with node := w.node.releaseGuard token }
  | .submitting token stage => some (w.submits A R t turn token stage)
  | .scheduling index => some (w.schedules t turn index)
  | .arming index => some (w.arms t turn index)
  | .ticking index => some (w.ticks t turn index)

/-! ## §3. What reaches the node from outside. -/

/-- The executor is not in a callback. -/
def ExecutorIdle : Prop :=
  match w.activity .executor with
  | .idle => True
  | _ => False

instance : Decidable w.ExecutorIdle := by
  unfold ExecutorIdle
  cases w.activity .executor <;> infer_instance

/-- A goal response, of a goal that has had none. -/
def responds (goal : Nat) (accepted : Bool) : Option (World F) :=
  (w.goals goal).bind fun sent =>
    if sent.accepted then none
    else
      let (asks, node) :=
        if sent.leg.isSome then w.node.legResponse goal accepted
        else w.node.contactResponse goal accepted
      some { w with
        node
        goals := Function.update w.goals goal
          (if accepted then some { sent with accepted := true } else none)
        history := { w.history with
          asked := w.history.asked ++ if asks then [goal] else [] } }

/-- A result, of an accepted goal. -/
def concludes (goal : Nat) (completed : Bool) : Option (World F) :=
  (w.goals goal).bind fun sent =>
    if sent.accepted = false then none
    else
      let w' : World F := { w with goals := Function.update w.goals goal none }
      match sent.leg with
      | none => some { w' with node := w.node.contactResult }
      | some (index, endpoint) =>
        let (verdict, node) := w.node.legResult index completed
        match verdict with
        | .stopped => some { w' with node }
        | .continued => some { w'.become .executor (.scheduling (index + 1)) with node }
        | .completed => some { w' with
            node
            history := { w.history with
              completed := w.history.completed ++
                [{ command := w.history.commands
                   endpoint
                   target := w.history.target
                   preservedSide := w.node.routePreservedSide }] } }

/-- One step. -/
def next : Event F → Option (World F)
  | .request worker job =>
    match w.activity (.worker worker) with
    | .idle =>
      if w.latch then none
      else some { w.become (.worker worker) (.admitted job) with
        history := { w.history with
          admittedAt :=
            Function.update w.history.admittedAt (.worker worker) w.history.engagements } }
    | _ => none
  | .advance t turn => w.advance A R realMode t turn
  | .cancel =>
    let (goals, node) := w.node.cancel
    -- the cancellations are asked for as soon as the block has left the mutex
    some { w with
      node
      history := { w.history with
        cancels := w.history.cancels + 1
        asked := w.history.asked ++ goals } }
  | .beginShutdown => some { w with node := w.node.beginShutdown }
  | .engageEstop => some { w with
      latch := true
      history := { w.history with engagements := w.history.engagements + 1 } }
  | .releaseEstop => some { w with latch := false }
  | .jointState moment producerTimeNs q =>
    if w.ExecutorIdle then some { w with node := w.node.updateState moment producerTimeNs q }
    else none
  | .diagnostics moment producerTimeNs statuses =>
    if w.ExecutorIdle then
      some { w with node := w.node.updateDiagnostics realMode moment producerTimeNs statuses }
    else none
  | .fire =>
    if w.ExecutorIdle then
      w.node.routeResumeTimer.map fun index => w.become .executor (.ticking index)
    else none
  | .response goal accepted => if w.ExecutorIdle then w.responds goal accepted else none
  | .result goal completed => if w.ExecutorIdle then w.concludes goal completed else none

end Source

end World

/-! ## §4. The system. -/

/-- `FreshnessEvidence{}`. -/
def noFreshness : FreshnessEvidence := ⟨0, 0⟩

/-- The node as it is constructed. -/
def PortalNode.initial : PortalNode F where
  evidence := {
    measuredQ := fun _ _ => Floating.lit 0.0
    stateSequence := 0
    diagnosticSequence := 0
    stateFreshness := noFreshness
    diagnosticFreshness := noFreshness
    haveState := false
    diagnosticValid := false }
  goalActive := false
  stopping := false
  cancelPending := false
  commandGate := ⟨0, 0⟩
  activeGoal := none
  activeContactGoal := none
  routeWaypoints := []
  routeIndex := 0
  routeMotionLimitScale := Floating.lit 0.5
  routeTerminalRetreat := false
  routePreservedSide := -1
  routeReplanCount := 0
  routeResumeTimer := none
  routeResumeDeadlineSteadyNs := 0

def World.initial : World F where
  node := PortalNode.initial
  activity _ := .idle
  goals _ := none
  nextGoal := 0
  latch := false
  history := {
    cancels := 0
    engagements := 0
    begunAt := fun _ => 0
    admittedAt := fun _ => 0
    commands := 0
    begun := 0
    admitted := 0
    target := fun _ => zeroPoint
    checked := 0
    engaged := false
    engagementsAtCheck := 0
    legs := []
    contacts := []
    asked := []
    completed := [] }

/-- **The portal.** -/
def portal (A : GuardModel F) (R : ArmModel F) (realMode : Bool) : Lts (World F) (Event F) where
  init w := w = World.initial
  step w e w' := w.next A R realMode e = some w'

end OpenArm.Node
