import MuxConsole.Fault

/-!
# The log

Warnings and errors that the operator may want to see, besides the results.
-/

namespace MuxConsole

inductive Severity where
  | warning
  | error
deriving DecidableEq, Repr

inductive Notice where
  | unreadableState (state ident : String)
  | unknownSetting (path key : String)
  | rejecting (endpoint : Endpoint)
  | noReply (command : String) (endpoint : Endpoint) (millis : Nat)
  | transportFailed (command : String) (fault : Fault)
  | writeRefused (reply : Frames)
  | parameterSkipped (module : String) (fault : Fault)

namespace Notice

def severity : Notice → Severity
  | .rejecting _ | .transportFailed .. => .error
  | .unreadableState .. | .unknownSetting .. | .noReply .. | .writeRefused _
  | .parameterSkipped .. => .warning

def message : Notice → String
  | .unreadableState state ident => s!"Cannot parse state '{state}' of input {ident}"
  | .unknownSetting path key => s!"Unknown settings field in {path}: {key}"
  | .rejecting endpoint => s!"Rejecting session to {endpoint.display}"
  | .noReply command endpoint millis =>
      s!"No reply to '{command}' from {endpoint.display} within {millis} ms"
  | .transportFailed command fault =>
      s!"Transport failed while waiting for '{command}': {fault.message}"
  | .writeRefused reply => s!"Configuration write refused: {reply.describe}"
  | .parameterSkipped module fault =>
      s!"Skipping parameter of {module}: {fault.message}"

end Notice

abbrev Log := List Notice

end MuxConsole
