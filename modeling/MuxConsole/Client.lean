import MuxConsole.Session.Operation
import MuxConsole.Settings

/-!
# Clients

A client has one session whose peer has been verified, and the timeouts of the
settings: the short one for handshakes, pings, statistics and remote control, the
long one for whole configurations.
-/

namespace MuxConsole

inductive ServerKind where
  | stats
  | legacy
  | remoteControl
deriving DecidableEq, Repr

namespace ServerKind

def endpoint (settings : Settings) : ServerKind → Endpoint
  | .stats => settings.statsEndpoint
  | .legacy => settings.legacyEndpoint
  | .remoteControl => settings.remoteEndpoint

end ServerKind

namespace Settings

def connectTimeout (s : Settings) : Nat := s.connectMillis.toNat

def livenessTimeout (s : Settings) : Nat := s.livenessMillis.toNat

def bulkTimeout (s : Settings) : Nat := s.bulkMillis.toNat

end Settings

namespace Client

variable {ω σ : Type} [Channel ω σ]

/-- Verifies a server for statistics and configuration, and learns who it is. -/
def greetStats (settings : Settings) : Act ω σ Identity :=
  Session.validate settings.expectedService settings.livenessTimeout

def greetRemote (settings : Settings) : Act ω σ Unit :=
  Session.ping settings.livenessTimeout

inductive Request where
  | values
  | config
  | readTree
  | writeTree (tree : Config.Tree)
  | listModules
  | loadModules
  | getParameter (module parameter : String)
  | setParameter (module parameter value : String)

def Request.operation (settings : Settings) : Request → Operation
  | .values => .values settings.livenessTimeout
  | .config => .config settings.bulkTimeout
  | .readTree => .readTree settings.bulkTimeout
  | .writeTree tree => .writeTree tree settings.bulkTimeout
  | .listModules => .listModules settings.livenessTimeout
  | .loadModules => .loadModules settings.livenessTimeout
  | .getParameter module parameter =>
      .getParameter module parameter settings.livenessTimeout
  | .setParameter module parameter value =>
      .setParameter module parameter value settings.livenessTimeout

end Client

end MuxConsole
