import MuxConsole.Channel
import MuxConsole.Identity
import MuxConsole.Log

/-!
# Sessions

A session has one channel to one endpoint and at most one request outstanding on
it: a new request is refused until the previous one got its reply or timed out.
A session whose peer failed verification, whose channel failed or that was
closed is of no further use.
-/

namespace MuxConsole

inductive SessionState where
  | opened
  | verified
  | rejected
  | broken
  | closed
deriving DecidableEq, Repr

namespace SessionState

def name : SessionState → String
  | .opened => "Open"
  | .verified => "Verified"
  | .rejected => "Rejected"
  | .broken => "Broken"
  | .closed => "Closed"

def obstacle? : SessionState → Option String
  | .opened | .verified => none
  | .rejected => some "peer failed verification"
  | .broken => some "transport failed"
  | .closed => some "session closed"

end SessionState

structure Session (ω σ : Type) where
  endpoint : Endpoint
  link : Option σ
  state : SessionState
  /-- The command of the request that waits for its reply. -/
  pending : Option String
  identity : Option Identity
  /-- The peers, as far as they have been driven. -/
  peer : ω
  log : Log

abbrev Act (ω σ : Type) := ExceptT Fault (StateM (Session ω σ))

def Act.ofExcept {ω σ α : Type} (result : Except Fault α) : Act ω σ α :=
  ExceptT.mk (pure result)

namespace Session

variable {ω σ : Type}

def ofLink (endpoint : Endpoint) (link : σ) (peer : ω) : Session ω σ where
  endpoint
  link := some link
  state := .opened
  pending := none
  identity := none
  peer
  log := []

def connect [Channel ω σ] (endpoint : Endpoint) (deadline : Nat) (peer : ω) :
    Except (Fault × ω) (Session ω σ) :=
  match Channel.connect endpoint deadline peer with
  | (.ok link, peer) => .ok (ofLink endpoint link peer)
  | (.error fault, peer) => .error (fault, peer)

def isUsable (s : Session ω σ) : Bool := s.state.obstacle?.isNone

/-! ## Steps -/

def note (notice : Notice) : Act ω σ Unit :=
  modify fun s => { s with log := s.log ++ [notice] }

def noteAll (notices : Log) : Act ω σ Unit :=
  modify fun s => { s with log := s.log ++ notices }

def ensureUsable : Act ω σ Unit := do
  match (← get).state.obstacle? with
  | none => return
  | some reason => throw (.unusable reason)

def requireVerified : Act ω σ Unit := do
  ensureUsable
  if (← get).state = .verified then return else throw .notVerified

def takeLink : Act ω σ σ := do
  match (← get).link with
  | some link => return link
  | none => throw (.unusable "session closed")

def putLink (link : σ) (peer : ω) : Act ω σ Unit :=
  modify fun s => { s with link := some link, peer }

def breakDown {α : Type} (fault : Fault) : Act ω σ α := do
  modify fun s => { s with state := .broken }
  throw fault

def markVerified (identity : Option Identity) : Act ω σ Unit :=
  modify fun s => { s with
    state := if s.isUsable then .verified else s.state
    identity := identity.or s.identity }

def reject : Act ω σ Unit := do
  note (.rejecting (← get).endpoint)
  modify fun s => { s with state := .rejected }

def close : Act ω σ Unit :=
  modify fun s => { s with link := none, pending := none, state := .closed }

/-! ## Sending and receiving -/

variable [Channel ω σ]

/-- Sends one request within the limit and returns the time it took, or nothing
if the limit came first.  A request that was dropped is not pending. -/
def sendWithin (frames : Frames) (limit : Option Nat) : Act ω σ (Option Nat) := do
  ensureUsable
  if (← get).pending.isSome then throw .transactionPending
  let link ← takeLink
  let (sending, link, peer) := Channel.send frames limit link (← get).peer
  putLink link peer
  match sending with
  | .failed fault => breakDown fault
  | .dropped => return none
  | .sent took =>
      modify fun s => { s with pending := some frames.command }
      return some took

def send (frames : Frames) : Act ω σ Unit := discard (sendWithin frames none)

/-- Waits for the reply to the pending request.  If nothing comes within the
limit, the request stays pending. -/
def receiveWithin (limit : Nat) : Act ω σ (Option Frames) := do
  ensureUsable
  let command ← match (← get).pending with
    | some command => pure command
    | none => throw .nothingPending
  let link ← takeLink
  let (receiving, link, peer) := Channel.receive limit link (← get).peer
  putLink link peer
  match receiving with
  | .frames reply =>
      modify fun s => { s with pending := none }
      return some reply
  | .failed fault =>
      modify fun s => { s with pending := none }
      note (.transportFailed command fault)
      breakDown fault
  | .nothing => return none

def giveUp (timeout : Nat) : Act ω σ Unit := do
  let s ← get
  modify fun s => { s with pending := none }
  note (.noReply (s.pending.getD "") s.endpoint timeout)
  let link ← takeLink
  let (result, link, peer) := Channel.reset link s.peer
  putLink link peer
  match result with
  | .ok () => return
  | .error fault => breakDown fault

def poll (timeout : Nat) : Act ω σ (Option Frames) := do
  match ← receiveWithin timeout with
  | some reply => return some reply
  | none =>
      giveUp timeout
      return none

def execute (frames : Frames) (timeout : Nat) : Act ω σ Frames := do
  send frames
  match ← poll timeout with
  | some reply => return reply
  | none => throw (.timeout frames.command (1000 * timeout))

/-- One request whose caller loses patience after a while: nothing, if that is
before the reply and before the timeout. -/
def executeUntil (patience : Nat) (frames : Frames) (timeout : Nat) :
    Act ω σ (Option Frames) := do
  match ← sendWithin frames (some patience) with
  | none => return none
  | some took =>
      if timeout ≤ patience - took then
        match ← poll timeout with
        | some reply => return some reply
        | none => throw (.timeout frames.command (1000 * timeout))
      else receiveWithin (patience - took)

end Session

end MuxConsole
