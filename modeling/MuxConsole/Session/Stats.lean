import MuxConsole.Config.Answer
import MuxConsole.Input.Snapshot
import MuxConsole.Session.Basic

/-!
# The stats server

Statistics, the list of inputs and the running configuration.  The session has
to be verified.
-/

namespace MuxConsole.Session

variable {ω σ : Type} [Channel ω σ]

def query (command : String) (timeout : Nat) : Act ω σ Bytes := do
  requireVerified
  let reply ← execute (.ofTexts [command]) timeout
  Act.ofExcept (Reply.body (← get).endpoint.wire command reply)

def values (timeout : Nat) : Act ω σ Input.Snapshot := do
  let (result, log) := Input.Snapshot.decode (← query "values" timeout)
  noteAll log
  Act.ofExcept result

def config (timeout : Nat) : Act ω σ Config.Answer := do
  Act.ofExcept (Config.Answer.decode (← query "config" timeout))

def readTree (timeout : Nat) : Act ω σ Config.Tree := do
  Act.ofExcept (Config.Tree.decode "getptree" (← query "getptree" timeout))

def writeAccepted : Frames := .ofTexts ["OK"]

/-- Replaces the running configuration.  A refusal is no fault: whether it has
changed anything shows only when the configuration is read back. -/
def writeTree (tree : Config.Tree) (timeout : Nat) : Act ω σ Bool := do
  requireVerified
  let reply ← execute [Utf8.encode "setptree", tree.encode] timeout
  if reply = writeAccepted then return true
  else
    note (.writeRefused reply)
    return false

end MuxConsole.Session
