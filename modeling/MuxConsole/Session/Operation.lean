import MuxConsole.Session.Remote
import MuxConsole.Session.Stats
import MuxConsole.Session.Verify

/-!
# Runs of operations

Everything that can be done with a session, as data, so that whole runs can be
carried out and spoken about.  An operation whose caller does not wait for its end
is, as far as it gets, what it has completed and then a request, its sending or the
wait for its reply with as much patience as is left.
-/

namespace MuxConsole

inductive Operation where
  | send (frames : Frames)
  | poll (timeout : Nat)
  | execute (frames : Frames) (timeout : Nat)
  | executeUntil (patience : Nat) (frames : Frames) (timeout : Nat)
  | sendUntil (patience : Nat) (frames : Frames)
  | pollUntil (patience : Nat)
  | ping (timeout : Nat)
  | validate (beginning : String) (timeout : Nat)
  | requireVerified
  | values (timeout : Nat)
  | config (timeout : Nat)
  | readTree (timeout : Nat)
  | writeTree (tree : Config.Tree) (timeout : Nat)
  | listModules (timeout : Nat)
  | showParameters (module : String) (timeout : Nat)
  | loadModules (timeout : Nat)
  | getParameter (module parameter : String) (timeout : Nat)
  | setParameter (module parameter value : String) (timeout : Nat)
  | close

inductive Outcome where
  | done
  | frames (reply : Frames)
  | timedOut
  | abandoned
  | identity (identity : Identity)
  | snapshot (snapshot : Input.Snapshot)
  | config (answer : Config.Answer)
  | tree (tree : Config.Tree)
  | written (accepted : Bool)
  | texts (texts : List String)
  | modules (modules : List Remote.Module)
  | value (text : String)

namespace Operation

variable {ω σ : Type} [Channel ω σ]

open Session in
def perform : Operation → Act ω σ Outcome
  | .send frames => do
      Session.send frames
      return .done
  | .poll timeout => return (← Session.poll timeout).elim .timedOut .frames
  | .execute frames timeout => return .frames (← Session.execute frames timeout)
  | .executeUntil patience frames timeout =>
      return (← Session.executeUntil patience frames timeout).elim .abandoned .frames
  | .sendUntil patience frames =>
      return (← Session.sendWithin frames (some patience)).elim .abandoned fun _ => .done
  | .pollUntil patience =>
      return (← Session.receiveWithin patience).elim .abandoned .frames
  | .ping timeout => do
      Session.ping timeout
      return .done
  | .validate beginning timeout => return .identity (← Session.validate beginning timeout)
  | .requireVerified => do
      Session.requireVerified
      return .done
  | .values timeout => return .snapshot (← Session.values timeout)
  | .config timeout => return .config (← Session.config timeout)
  | .readTree timeout => return .tree (← Session.readTree timeout)
  | .writeTree tree timeout => return .written (← Session.writeTree tree timeout)
  | .listModules timeout => return .texts (← Session.listModules timeout)
  | .showParameters module timeout => return .texts (← Session.showParameters module timeout)
  | .loadModules timeout => return .modules (← Session.loadModules timeout)
  | .getParameter module parameter timeout =>
      return .value (← Session.getParameter module parameter timeout)
  | .setParameter module parameter value timeout => do
      Session.setParameter module parameter value timeout
      return .done
  | .close => do
      Session.close
      return .done

def step (operation : Operation) (s : Session ω σ) : Except Fault Outcome × Session ω σ :=
  (perform operation).run s

def run : List Operation → Session ω σ → List (Except Fault Outcome) × Session ω σ
  | [], s => ([], s)
  | operation :: rest, s =>
      let (result, s) := step operation s
      let (results, s) := run rest s
      (result :: results, s)

end Operation

end MuxConsole
