import MuxConsole.Session.Basic
import MuxConsole.Reply

/-!
# Verification

Nothing but a handshake or a ping may be asked of a peer before one of the two
has succeeded.  A verification that fails in any way, a timeout included, rejects
the session.
-/

namespace MuxConsole.Session

variable {ω σ α : Type}

def rejecting (act : Act ω σ α) : Act ω σ α :=
  tryCatch act fun fault => do
    reject
    throw fault

variable [Channel ω σ]

def ping (timeout : Nat) : Act ω σ Unit :=
  rejecting do
    let reply ← execute (.ofTexts ["ping"]) timeout
    if reply = .ofTexts ["ok"] then markVerified none
    else throw (.pingFailed reply.describe)

def queryIdentity (timeout : Nat) : Act ω σ Identity := do
  let reply ← execute (.ofTexts ["info"]) timeout
  match reply with
  | [] => throw (.malformed "info" .empty)
  | first :: _ => Act.ofExcept (Reply.record Identity.schema "info" first)

/-- Asks who the peer is and accepts it if the name of its service begins with
the given text. -/
def handshake (beginning : String) (timeout : Nat) : Act ω σ Identity :=
  rejecting do
    let identity ← queryIdentity timeout
    if identity.matchesName beginning then
      markVerified (some identity)
      return identity
    else throw (.wrongService beginning identity.service)

/-- A handshake, unless one with a fitting name has succeeded before. -/
def validate (beginning : String) (timeout : Nat) : Act ω σ Identity := do
  let s ← get
  match s.identity with
  | some identity =>
      if s.isUsable && identity.matchesName beginning then return identity
      else handshake beginning timeout
  | none => handshake beginning timeout

end MuxConsole.Session
