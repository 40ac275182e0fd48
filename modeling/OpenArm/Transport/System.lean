/-
  OpenArm.Transport.System — transports and their one-shot authorities.

  Any number of threads call `send`, `receive`, `issueAuthority` and `close`
  on any set of transports.  A thread interleaves with the others at every
  lock, at every access of `closed_` and `grants_`, and at every call of the
  backend.  The surroundings choose what the backend, the random source and
  the allocator answer.
-/
import OpenArm.Lib.Program
import OpenArm.Transport.Classifier

namespace OpenArm.Transport

open OpenArm.Lib OpenArm.Can

/-! ## §1. Transports. -/

/-- `kMaximumAuthorityLifetimeNs`. -/
def maximumAuthorityLifetimeNs : Nat := 5000000000

/-- `framesEqual`. -/
def framesEqual (left right : Frame) : Bool :=
  left.canId == right.canId && left.dlc == right.dlc && decide (left.data = right.data)

/-- `dangerousClass`. -/
def dangerousClass (frameClass : FrameClass) : Bool :=
  frameClass == .disable || frameClass == .enable || frameClass == .registerWrite ||
    frameClass == .setZero || frameClass == .clearError || frameClass == .saveParameters

/-- `Authority`: what a caller holds of a grant. -/
structure Authority where
  instanceNonce : Nat × Nat
  tokenId : Nat
  deriving DecidableEq

/-- `Transport::Grant`. -/
structure Grant where
  exactFrame : Frame
  frameClass : FrameClass
  expiryNs : Nat
  deriving DecidableEq

/-- `Event`: what a backend receives. -/
structure Event where
  kind : Nat
  flags : Nat
  dequeueMonotonicNs : Nat
  kernelTimestampNs : Nat
  kernelTimestampClock : Nat
  canErrorMask : Nat
  rxOverflowCount : Nat
  rxOverflowDelta : Nat
  linkUp : Bool
  frame : Frame
  deriving DecidableEq

/-- The mutexes of a transport. -/
inductive Mutex where
  | close | send | receive | authority
  deriving DecidableEq, Repr

/-- The members of a transport that change, and who holds each mutex. -/
structure Members (T : Type) where
  closed : Bool
  holder : Mutex → Option T
  grants : Nat → Option Grant

/-- The constant members: transports `X` with distinct nonces. -/
structure Instances (X : Type) where
  instanceNonce : X → Nat × Nat
  maxDeadlineHorizonNs : X → Nat
  distinct : Function.Injective instanceNonce

/-! ## §2. Actions. -/

/-- The atomic actions of a thread. -/
inductive Op (X : Type) where
  | lock (x : X) (mutex : Mutex)
  | unlock (x : X) (mutex : Mutex)
  /-- `std::scoped_lock` of the send and the receive mutex. -/
  | lockOperations (x : X)
  | loadClosed (x : X)
  | storeClosed (x : X)
  | backendNow (x : X)
  | backendSend (x : X) (frame : Frame) (deadlineNs : Nat)
  | backendReceive (x : X) (deadlineNs : Nat)
  | backendClose (x : X)
  | permitsAuthorityIssuance (x : X)
  | findGrant (x : X) (tokenId : Nat)
  | eraseGrant (x : X) (tokenId : Nat)
  | emplaceGrant (x : X) (tokenId : Nat) (grant : Grant)
  | clearGrants (x : X)
  | secureRandom64
  /-- `new Authority`; `false` when it throws. -/
  | newAuthority
  deriving DecidableEq

/-- What an action answers. -/
abbrev Op.Reply {X : Type} : Op X → Type
  | .loadClosed _ => Bool
  | .backendNow _ => Status × Nat
  | .backendSend .. => Status × Nat
  | .backendReceive .. => Status × Event
  | .permitsAuthorityIssuance _ => Bool
  | .findGrant .. => Option Grant
  | .emplaceGrant .. => Bool
  | .secureRandom64 => Status × Nat
  | .newAuthority => Bool
  | _ => Unit

/-- The loop that draws a token. -/
inductive Proc (X : Type) where
  | drawToken (x : X)

/-- The actions and procedures of a transport. -/
def transportSig (X : Type) : Signature where
  Op := Op X
  Reply := Op.Reply
  Proc := Proc X
  Result _ := Except Status Nat

/-- A program of a transport. -/
abbrev Program (X : Type) := Prog (transportSig X)

variable {X : Type}

/-- Perform one action. -/
def op (o : Op X) : Program X o.Reply := @Prog.op (transportSig X) o

/-- Enter one procedure. -/
def enter (p : Proc X) : Program X (Except Status Nat) := @Prog.enter (transportSig X) p

/-! ## §3. Programs. -/

/-- What a call returns: its status and outputs. -/
inductive Answer (X : Type) where
  | sent (status : Status) (outClass : Option FrameClass) (outSentNs : Option Nat)
  | received (status : Status) (outEvent : Option Event)
  | issued (status : Status) (outAuthority : Option Authority)
  | closed (x : X)

/-- A block under a `std::lock_guard`. -/
def guarded {α : Type} (x : X) (mutex : Mutex) (block : Program X α) : Program X α := do
  op (.lock x mutex)
  let a ← block
  op (.unlock x mutex)
  return a

/-- `Transport::validateDeadline`. -/
def validateDeadline (I : Instances X) (x : X) (deadlineNs nowNs : Nat) : Status :=
  if deadlineNs ≤ nowNs then .etimeout
  else if I.maxDeadlineHorizonNs x < deadlineNs - nowNs then .erange
  else .ok

/-- The block of `Transport::consumeAuthority` under the authority mutex. -/
def consumeGrant (x : X) (tokenId : Nat) (frame : Frame) (frameClass : FrameClass)
    (nowNs deadlineNs : Nat) : Program X Status := do
  match ← op (.findGrant x tokenId) with
  | none => return .epermission
  | some grant =>
    if grant.expiryNs ≤ nowNs then
      op (.eraseGrant x tokenId)
      return .epermission
    else if grant.expiryNs < deadlineNs ∨ grant.frameClass ≠ frameClass ∨
        framesEqual grant.exactFrame frame = false then
      return .epermission
    else
      op (.eraseGrant x tokenId)
      return .ok

/-- `Transport::consumeAuthority`. -/
def consumeAuthority (I : Instances X) (x : X) (authority : Option Authority) (frame : Frame)
    (frameClass : FrameClass) (nowNs deadlineNs : Nat) : Program X Status :=
  match authority with
  | none => return .epermission
  | some authority =>
    if authority.instanceNonce ≠ I.instanceNonce x then return .epermission
    else guarded x .authority
      (consumeGrant x authority.tokenId frame frameClass nowNs deadlineNs)

/-- A query needs no authority, and any other class consumes one. -/
def authorize (I : Instances X) (x : X) (authority : Option Authority) (frame : Frame)
    (frameClass : FrameClass) (nowNs deadlineNs : Nat) : Program X Status :=
  if frameClass = .registerQuery ∨ frameClass = .statusQuery then
    if authority.isSome then return .epermission else return .ok
  else consumeAuthority I x authority frame frameClass nowNs deadlineNs

/-- `Transport::send` past its send mutex. -/
def sendBlock (I : Instances X) (x : X) (frame : Frame) (deadlineNs : Nat)
    (authority : Option Authority) : Program X (Answer X) := do
  if ← op (.loadClosed x) then return .sent .eclosed none none
  else match classify frame with
    | .error status => return .sent status none none
    | .ok cls =>
      if cls = .unknown ∨ cls = .motion then return .sent .eframe (some cls) none
      else
        let (status, nowNs) ← op (.backendNow x)
        if status ≠ .ok then return .sent status (some cls) none
        else if validateDeadline I x deadlineNs nowNs ≠ .ok then
          return .sent (validateDeadline I x deadlineNs nowNs) (some cls) none
        else
          let permitted ← authorize I x authority frame cls nowNs deadlineNs
          if permitted ≠ .ok then return .sent permitted (some cls) none
          else
            let (status, sentNs) ← op (.backendSend x frame deadlineNs)
            return .sent status (some cls) (some sentNs)

/-- `Transport::send`. -/
def send (I : Instances X) (x : X) (frame : Frame) (deadlineNs : Nat)
    (authority : Option Authority) : Program X (Answer X) :=
  guarded x .send (sendBlock I x frame deadlineNs authority)

/-- `Transport::receive`. -/
def receive (I : Instances X) (x : X) (deadlineNs : Nat) : Program X (Answer X) :=
  guarded x .receive do
    if ← op (.loadClosed x) then return .received .eclosed none
    else
      let (status, nowNs) ← op (.backendNow x)
      if status ≠ .ok then return .received status none
      else if validateDeadline I x deadlineNs nowNs ≠ .ok then
        return .received (validateDeadline I x deadlineNs nowNs) none
      else
        let (status, event) ← op (.backendReceive x deadlineNs)
        return .received status (some event)

/-- The body of the loop that draws a token until it is new. -/
def drawToken (x : X) : Program X (Except Status Nat) := do
  let (status, tokenId) ← op .secureRandom64
  if status ≠ .ok then return .error status
  else match ← op (.findGrant x tokenId) with
    | some _ => enter (.drawToken x)
    | none => return .ok tokenId

/-- The bodies of the procedures. -/
def procBody : Proc X → Program X (Except Status Nat)
  | .drawToken x => drawToken x

/-- The block of `Transport::issueAuthority` under the authority mutex. -/
def issueGrant (I : Instances X) (x : X) (grant : Grant) : Program X (Answer X) := do
  match ← enter (.drawToken x) with
  | .error status => return .issued status none
  | .ok tokenId =>
    if ← op (.emplaceGrant x tokenId grant) then
      if ← op .newAuthority then
        return .issued .ok (some ⟨I.instanceNonce x, tokenId⟩)
      else
        op (.eraseGrant x tokenId)
        return .issued .enomem none
    else return .issued .enomem none

/-- `Transport::issueAuthority` past its close mutex. -/
def issueBlock (I : Instances X) (x : X) (exactFrame : Frame) (expiryNs : Nat) :
    Program X (Answer X) := do
  if ← op (.loadClosed x) then return .issued .eclosed none
  else if ← op (.permitsAuthorityIssuance x) then
    match classify exactFrame with
    | .error status => return .issued status none
    | .ok cls =>
      if dangerousClass cls = false then return .issued .eframe none
      else
        let (status, nowNs) ← op (.backendNow x)
        if status ≠ .ok then return .issued status none
        else if expiryNs ≤ nowNs ∨ maximumAuthorityLifetimeNs < expiryNs - nowNs then
          return .issued .erange none
        else guarded x .authority (issueGrant I x ⟨exactFrame, cls, expiryNs⟩)
  else return .issued .epermission none

/-- `Transport::issueAuthority`. -/
def issueAuthority (I : Instances X) (x : X) (exactFrame : Frame) (expiryNs : Nat) :
    Program X (Answer X) :=
  guarded x .close (issueBlock I x exactFrame expiryNs)

/-- `Transport::close` past its close mutex. -/
def closeBlock (x : X) : Program X (Answer X) := do
  op (.storeClosed x)
  op (.backendClose x)
  op (.lockOperations x)
  op (.unlock x .receive)
  op (.unlock x .send)
  guarded x .authority (op (.clearGrants x))
  return .closed x

/-- `Transport::close`. -/
def close (x : X) : Program X (Answer X) := guarded x .close (closeBlock x)

/-! ## §4. The system. -/

/-- A call of the interface. -/
inductive Request (X : Type) where
  | send (x : X) (frame : Frame) (deadlineNs : Nat) (authority : Option Authority)
  | receive (x : X) (deadlineNs : Nat)
  | issueAuthority (x : X) (exactFrame : Frame) (expiryNs : Nat)
  | close (x : X)

/-- The programs of the calls. -/
def handler (I : Instances X) : Request X → Program X (Answer X)
  | .send x frame deadlineNs authority => send I x frame deadlineNs authority
  | .receive x deadlineNs => receive I x deadlineNs
  | .issueAuthority x exactFrame expiryNs => issueAuthority I x exactFrame expiryNs
  | .close x => close x

/-- What the surroundings choose at an action. -/
inductive Choice where
  | quiet
  | flag (ok : Bool)
  | reading (status : Status) (value : Nat)
  | event (status : Status) (received : Event)

/-- A backend's answer to `permitsAuthorityIssuance`, or whether an allocation
    succeeds. -/
def Choice.flag? : Choice → Option Bool
  | .flag ok => some ok
  | _ => none

/-- A status with a number. -/
def Choice.reading? : Choice → Option (Status × Nat)
  | .reading status value => some (status, value)
  | _ => none

/-- A status with an event. -/
def Choice.event? : Choice → Option (Status × Event)
  | .event status received => some (status, received)
  | _ => none

variable {T : Type} [DecidableEq X]

/-- The members of all transports. -/
abbrev Transports (X T : Type) := X → Members T

namespace Transports

/-- One transport changes. -/
def set (s : Transports X T) (x : X) (members : Members T) : Transports X T :=
  Function.update s x members

/-- Thread `t` takes a mutex. -/
def take (s : Transports X T) (t : T) (x : X) (mutex : Mutex) : Transports X T :=
  s.set x { s x with holder := Function.update (s x).holder mutex (some t) }

/-- A mutex is free again. -/
def free (s : Transports X T) (x : X) (mutex : Mutex) : Transports X T :=
  s.set x { s x with holder := Function.update (s x).holder mutex none }

/-- `closed_` is set. -/
def shut (s : Transports X T) (x : X) : Transports X T := s.set x { s x with closed := true }

/-- No grant is left. -/
def clear (s : Transports X T) (x : X) : Transports X T :=
  s.set x { s x with grants := fun _ => none }

/-- The grant under a token changes. -/
def setGrant (s : Transports X T) (x : X) (tokenId : Nat) (grant : Option Grant) :
    Transports X T :=
  s.set x { s x with grants := Function.update (s x).grants tokenId grant }

/-- What one action does; `none` where a mutex is taken. -/
def perform (s : Transports X T) (t : T) (o : Op X) (c : Choice) :
    Option (o.Reply × Transports X T) :=
  match o with
  | .lock x mutex =>
    if ((s x).holder mutex).isSome then none else some ((), s.take t x mutex)
  | .unlock x mutex => some ((), s.free x mutex)
  | .lockOperations x =>
    if ((s x).holder .send).isSome ∨ ((s x).holder .receive).isSome then none
    else some ((), (s.take t x .send).take t x .receive)
  | .loadClosed x => some ((s x).closed, s)
  | .storeClosed x => some ((), s.shut x)
  | .backendNow _ => c.reading?.map fun r => (r, s)
  | .backendSend _ _ _ => c.reading?.map fun r => (r, s)
  | .backendReceive _ _ => c.event?.map fun r => (r, s)
  | .backendClose _ => some ((), s)
  | .permitsAuthorityIssuance _ => c.flag?.map fun r => (r, s)
  | .findGrant x tokenId => some ((s x).grants tokenId, s)
  | .eraseGrant x tokenId => some ((), s.setGrant x tokenId none)
  | .emplaceGrant x tokenId grant => c.flag?.map fun ok =>
      (ok, if ok then s.setGrant x tokenId (some grant) else s)
  | .clearGrants x => some ((), s.clear x)
  | .secureRandom64 => c.reading?.map fun r => (r, s)
  | .newAuthority => c.flag?.map fun r => (r, s)

/-- Transports as they are constructed. -/
def initial : Transports X T := fun _ =>
  { closed := false, holder := fun _ => none, grants := fun _ => none }

end Transports

/-- Threads `T` call transports `X`. -/
def transportMachine (T : Type) (I : Instances X) :
    Machine (transportSig X) (Transports X T) T Choice (Request X) (Answer X) Empty where
  initial s thread := s = .initial ∧ ∀ t, thread t = none
  body := procBody
  handler := handler I
  perform := Transports.perform
  occurs _ e := e.elim

/-- The members of the transports and what every thread has to do. -/
abbrev Calls (X T : Type) := Running (transportSig X) (Transports X T) T (Answer X)

/-- What a step does. -/
abbrev TransportLabel (X T : Type) := Label (transportSig X) T (Request X) (Answer X) Empty

/-- The interleavings of the calls. -/
abbrev transportSystem (T : Type) [DecidableEq T] (I : Instances X) :
    Lts (Calls X T) (TransportLabel X T) :=
  (transportMachine T I).system

end OpenArm.Transport
