import MuxConsole.Remote.Module
import MuxConsole.Reply
import MuxConsole.Session.Basic

/-!
# The remote control server

Modules are listed, and their parameters shown, read and changed.  The session
has to be verified.
-/

namespace MuxConsole.Session

variable {ω σ : Type} [Channel ω σ]

def listModules (timeout : Nat) : Act ω σ (List String) := do
  requireVerified
  let reply ← execute (.ofTexts ["list"]) timeout
  Act.ofExcept (Reply.texts "list" reply)

def showParameters (module : String) (timeout : Nat) : Act ω σ (List String) := do
  requireVerified
  let reply ← execute (.ofTexts ["show", module]) timeout
  Act.ofExcept (Reply.texts "show" reply)

/-! ## Loading everything -/

/-- The parameters on the lines of a module.  A line that is none is noted and
left out. -/
def readParameters (module : String) : List String → List Remote.Parameter × Log
  | [] => ([], [])
  | line :: rest =>
      let (parameters, log) := readParameters module rest
      match Remote.Parameter.ofLine line with
      | .ok parameter => (parameter :: parameters, log)
      | .error fault => (parameters, .parameterSkipped module fault :: log)

def loadModule (timeout : Nat) (name : String) : Act ω σ Remote.Module := do
  let lines ← showParameters name timeout
  let (parameters, log) := readParameters name lines
  noteAll log
  return ⟨name, parameters⟩

def loadModules (timeout : Nat) : Act ω σ (List Remote.Module) := do
  (← listModules timeout).mapM (loadModule timeout)

/-! ## Single parameters -/

def refusal? (reply : Frames) : Option String :=
  match reply with
  | [status, message] =>
      if status = Utf8.encode "fail" then some (Utf8.lenient message) else none
  | _ => none

def accepted (module parameter : String) (reply : Frames) : Except Fault Frames :=
  match refusal? reply with
  | some message => .error (.refused module parameter message)
  | none => .ok reply

def valueOf (reply : Frames) : Except Fault String :=
  match reply with
  | [value] => Reply.text "get" value
  | _ => .error (.malformed "get" (.unexpected reply))

def getParameter (module parameter : String) (timeout : Nat) : Act ω σ String := do
  requireVerified
  let reply ← execute (.ofTexts ["get", module, parameter]) timeout
  Act.ofExcept (accepted module parameter reply >>= valueOf)

def acknowledged (reply : Frames) : Except Fault Unit :=
  if reply = .ofTexts ["ok"] then .ok ()
  else .error (.malformed "set" (.unexpected reply))

def setParameter (module parameter value : String) (timeout : Nat) : Act ω σ Unit := do
  requireVerified
  let reply ← execute (.ofTexts ["set", module, parameter, value]) timeout
  Act.ofExcept (accepted module parameter reply >>= acknowledged)

end MuxConsole.Session
