import MuxConsole.Endpoint
import MuxConsole.Frames
import MuxConsole.Json.Problem

/-!
# Faults

What can go wrong between the console and the multiplexer: the server is not
there, is another one, does not answer, or answers with something that cannot
be understood.  A fatal fault ends the session it occurs on.
-/

namespace MuxConsole

inductive Defect where
  | stated (reason : String)
  | json (problem : Json.Problem)
  | input (ident : String) (problem : Json.Problem)
  | notText (fault : Utf8.Fault)
  | empty
  | frameCount (count : Nat)
  | streamFrameCount (count : Nat)
  | frameCountOf (frames : Frames)
  | unexpected (frames : Frames)
  | noSeparator (line : String)
  | notATree
  | inputIsNoText (item : Json)
  | configValue (value : Json)
  | neitherShape

def Defect.message : Defect → String
  | .stated reason => reason
  | .json problem => problem.message
  | .input ident problem => s!"input '{ident}': {problem.message}"
  | .notText fault => s!"invalid UTF-8: {fault.message}"
  | .empty => "empty reply"
  | .frameCount count => s!"expected 1 frame, got {count}"
  | .streamFrameCount count => s!"expected 1 or 2 frames, got {count}"
  | .frameCountOf frames =>
      s!"expected 1 frame, got {frames.length}: {frames.describe}"
  | .unexpected frames => frames.describe
  | .noSeparator line => s!"no ': ' in {Text.quoted line}"
  | .notATree => "configuration is not a JSON object"
  | .inputIsNoText item => s!"input identifier is not a string: {item.compact}"
  | .configValue value => s!"unexpected 'config' value: {value.compact}"
  | .neitherShape => "neither an input list nor a configuration tree"

inductive Fault where
  | connect (endpoint message : String)
  | wrongService (expected found : String)
  /-- The time waited, in microseconds. -/
  | timeout (command : String) (micros : Nat)
  | malformed (command : String) (defect : Defect)
  | transport (message : String)
  | io (message : String)
  | json (problem : Json.Problem)
  | transactionPending
  | nothingPending
  | unusable (reason : String)
  | notVerified
  | missingSection (name : String)
  | refused (module parameter message : String)
  | pingFailed (reply : String)
  | settings (message : String)

namespace Fault

def message : Fault → String
  | .connect endpoint message => s!"Cannot connect to {endpoint}: {message}"
  | .wrongService expected found =>
      s!"Expected service '{expected}', but the endpoint is '{found}'"
  | .timeout command micros => s!"No reply to '{command}' within {micros / 1000} ms"
  | .malformed command defect => s!"Malformed reply to '{command}': {defect.message}"
  | .transport message => s!"Transport error: {message}"
  | .io message => s!"IO error: {message}"
  | .json problem => s!"JSON error: {problem.message}"
  | .transactionPending => "A transaction is already pending on this session"
  | .nothingPending => "No transaction is pending on this session"
  | .unusable reason => s!"Session is unusable: {reason}"
  | .notVerified => "Session has not been verified by a handshake or ping"
  | .missingSection name => s!"Configuration has no '{name}' section"
  | .refused module parameter message =>
      s!"Remote control rejected {module}.{parameter}: {message}"
  | .pingFailed reply => s!"Unexpected ping reply: {reply}"
  | .settings message => s!"Settings error: {message}"

/-- Whether the fault ends the session it occurred on. -/
def isFatal : Fault → Bool
  | .connect .. | .wrongService .. | .transport _ | .io _ | .unusable _ | .pingFailed _ => true
  | .timeout .. | .malformed .. | .json _ | .transactionPending | .nothingPending
  | .notVerified | .missingSection _ | .refused .. | .settings _ => false

def source? : Fault → Option String
  | .io message => some message
  | .json problem => some problem.message
  | _ => none

end Fault

end MuxConsole
