import MuxConsole.Log
import MuxConsole.Json.Schema

/-!
# Settings

Where the servers listen and how long to wait for them.  A settings file holds
any of the fields; the others have their defaults.  Fields of other names are
noted and left alone.
-/

namespace MuxConsole

inductive FileState where
  | missing
  | unreadable (reason : String)
  | content (bytes : Bytes)

namespace FileState

def missingReason : String := "No such file or directory (os error 2)"

def directoryReason : String := "Is a directory (os error 21)"

def text : FileState → Except String Bytes
  | .missing => .error missingReason
  | .unreadable reason => .error reason
  | .content bytes =>
      match Utf8.decode bytes with
      | .ok _ => .ok bytes
      | .error _ => .error "stream did not contain valid UTF-8"

end FileState

structure Settings where
  host : String
  statsPort : UInt16
  remotePort : UInt16
  /-- The stream server of old releases listens in the place of the stats server. -/
  legacyPort : UInt16
  expectedService : String
  connectMillis : UInt64
  /-- For pings, handshakes and statistics. -/
  livenessMillis : UInt64
  /-- For whole configurations. -/
  bulkMillis : UInt64
deriving DecidableEq, Repr

namespace Settings

/-! ## Defaults -/

def defaultHost : String := "localhost"

def defaultStatsPort : UInt16 := Endpoint.statsPort

def defaultRemotePort : UInt16 := Endpoint.remotePort

def defaultService : String := "ODR-DabMux"

def defaultConnectMillis : UInt64 := 1000

def defaultLivenessMillis : UInt64 := 1000

def defaultBulkMillis : UInt64 := 5000

def default : Settings where
  host := defaultHost
  statsPort := defaultStatsPort
  remotePort := defaultRemotePort
  legacyPort := defaultStatsPort
  expectedService := defaultService
  connectMillis := defaultConnectMillis
  livenessMillis := defaultLivenessMillis
  bulkMillis := defaultBulkMillis

instance : Inhabited Settings := ⟨default⟩

def statsEndpoint (s : Settings) : Endpoint := ⟨s.host, s.statsPort, .queue⟩

def remoteEndpoint (s : Settings) : Endpoint := ⟨s.host, s.remotePort, .queue⟩

def legacyEndpoint (s : Settings) : Endpoint := ⟨s.host, s.legacyPort, .stream⟩

/-! ## As JSON -/

open Json in
def slots : List (Slot Settings) := [
  .allows "host" .string fun host s => { s with host },
  .allows "statsPort" .word fun statsPort s => { s with statsPort },
  .allows "rcPort" .word fun remotePort s => { s with remotePort },
  .allows "legacyPort" .word fun legacyPort s => { s with legacyPort },
  .allows "expectedService" .string fun expectedService s => { s with expectedService },
  .allows "connectTimeoutMs" .word fun connectMillis s => { s with connectMillis },
  .allows "livenessTimeoutMs" .word fun livenessMillis s => { s with livenessMillis },
  .allows "bulkTimeoutMs" .word fun bulkMillis s => { s with bulkMillis }]

/-- The settings of a file with none of the fields: what stands for each field if it is not
there. -/
def unset : Settings where
  host := defaultHost
  statsPort := defaultStatsPort
  remotePort := defaultRemotePort
  legacyPort := defaultStatsPort
  expectedService := defaultService
  connectMillis := defaultConnectMillis
  livenessMillis := defaultLivenessMillis
  bulkMillis := defaultBulkMillis

def schema : Json.Schema Settings := .record "ClientSettings" unset slots

def toJson (s : Settings) : Json :=
  .object [
    ("host", .text s.host),
    ("statsPort", .ofWord s.statsPort),
    ("rcPort", .ofWord s.remotePort),
    ("legacyPort", .ofWord s.legacyPort),
    ("expectedService", .text s.expectedService),
    ("connectTimeoutMs", .ofWord s.connectMillis),
    ("livenessTimeoutMs", .ofWord s.livenessMillis),
    ("bulkTimeoutMs", .ofWord s.bulkMillis)]

/-! ## Settings files -/

def knownKeys : List String := [
  "host", "statsPort", "rcPort", "legacyPort", "expectedService", "connectTimeoutMs",
  "livenessTimeoutMs", "bulkTimeoutMs"]

def unknownKeys (path : String) (content : Bytes) : Log :=
  match Json.parse content with
  | .ok (.object members) =>
      ((Json.Members.names members).filter fun key => !knownKeys.contains key).map
        (.unknownSetting path)
  | _ => []

def checkTimeouts (s : Settings) : Except Fault Settings :=
  if s.connectMillis = 0 ∨ s.livenessMillis = 0 ∨ s.bulkMillis = 0 then
    .error (.settings "timeouts must be at least 1 ms")
  else .ok s

def ofText (path : String) (content : Bytes) : Except Fault Settings :=
  match schema.parse content with
  | .error problem => .error (.settings s!"{path}: {problem.message}")
  | .ok s => checkTimeouts s

def load (path : String) (file : FileState) : Except Fault Settings × Log :=
  match file with
  | .missing => (.ok default, [])
  | file =>
      match file.text with
      | .error reason => (.error (.io reason), [])
      | .ok content => (ofText path content, unknownKeys path content)

end Settings

end MuxConsole
