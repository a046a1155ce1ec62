import MuxConsole.Client
import MuxConsole.Command.Arguments
import MuxConsole.Report.Columns
import MuxConsole.Report.Graph

/-!
# Running a command

A command loads the settings, connects, asks its questions and prints.  It prints
nothing unless all of that has succeeded; what has failed is reported with the
circumstances, outermost first.
-/

namespace MuxConsole.Command

/-! ## Failures -/

/-- What was being done, and the causes of its failure. -/
structure Failure where
  message : String
  causes : List String
deriving DecidableEq, Repr

namespace Failure

def ofFault (fault : Fault) : Failure := ⟨fault.message, fault.source?.toList⟩

def during (context : String) (failure : Failure) : Failure :=
  ⟨context, failure.message :: failure.causes⟩

def indented (first rest : String) (cause : String) : String :=
  first ++ ("\n" ++ rest).intercalate (cause.splitOn "\n")

def numbered (number : Nat) (cause : String) : String :=
  indented (Text.rightIn 5 (toString number) ++ ": ") "       " cause

def report (failure : Failure) : String :=
  s!"Error: {failure.message}\n" ++
    match failure.causes with
    | [] => ""
    | [cause] => "\nCaused by:\n" ++ indented "    " "    " cause ++ "\n"
    | causes =>
        "\nCaused by:\n" ++
          Text.unlines (causes.mapIdx fun number cause => numbered number cause)

end Failure

/-! ## Tasks -/

variable {ω σ α : Type}

/-- What a command does on one session. -/
abbrev Task (ω σ : Type) := ExceptT Failure (StateM (Session ω σ))

namespace Task

def ofExcept (result : Except Failure α) : Task ω σ α := ExceptT.mk (pure result)

def during (context : String) (act : Act ω σ α) : Task ω σ α :=
  ExceptT.mk do
    return (← act.run).mapError fun fault => (Failure.ofFault fault).during context

end Task

def inContext (context : String) (result : Except Fault α) : Except Failure α :=
  result.mapError fun fault => (Failure.ofFault fault).during context

def bare (result : Except Fault α) : Except Failure α := result.mapError Failure.ofFault

variable [Channel ω σ]

def onSession (σ : Type) [Channel ω σ] (context : String) (endpoint : Endpoint)
    (settings : Settings) (task : Task ω σ α) (peer : ω) : Except Failure α × ω :=
  match Session.connect endpoint settings.connectTimeout peer with
  | .error (fault, peer) => (.error ((Failure.ofFault fault).during context), peer)
  | .ok session =>
      let (result, session) := task.run session
      (result, session.peer)

def statsContext : String :=
  "Failed to connect to the stats server. Is ODR-DabMux running?"

def remoteContext : String :=
  "Failed to connect to the remote control server. Is it enabled?"

/-- A task on a verified session with the stats server, or with the stream server
of old releases in its place. -/
def onStats (σ : Type) [Channel ω σ] (settings : Settings) (legacy : Bool)
    (task : Identity → Task ω σ α) (peer : ω) : Except Failure α × ω :=
  let kind := if legacy then ServerKind.legacy else ServerKind.stats
  onSession σ statsContext (kind.endpoint settings) settings
    (do task (← Task.during statsContext (Client.greetStats settings))) peer

def onRemote (σ : Type) [Channel ω σ] (settings : Settings) (task : Task ω σ α) (peer : ω) :
    Except Failure α × ω :=
  onSession σ remoteContext settings.remoteEndpoint settings
    (do
      Task.during remoteContext (Client.greetRemote settings)
      task) peer

/-! ## Statistics -/

def infoTask (identity : Identity) : Task ω σ String := do
  return Text.unlines [
    s!"Service: {identity.service}",
    s!"Version: {identity.version}",
    s!"Endpoint: {(← get).endpoint.display}"]

def readStatistics (settings : Settings) : Task ω σ Input.Snapshot :=
  Task.during "Failed to read statistics" (Session.values settings.livenessTimeout)

def inputIdents (settings : Settings) : Task ω σ (List String) := do
  match ← Task.during "Failed to read input list" (Session.config settings.bulkTimeout) with
  | .inputs idents => return idents
  | .tree tree =>
      let subchannels ← Task.ofExcept
        (inContext "Configuration has no subchannels" tree.subchannels)
      return subchannels.map (·.name)

/-! ## Configuration -/

def readConfiguration (settings : Settings) : Task ω σ Config.Tree :=
  Task.during "Failed to read configuration" (Session.readTree settings.bulkTimeout)

def viewTask (settings : Settings) (view : Config.Tree → Except Fault α)
    (print : α → String) : Task ω σ String := do
  let tree ← readConfiguration settings
  return print (← Task.ofExcept (bare (view tree)))

def treeOfFile (path : String) (file : FileState) : Except Failure Config.Tree :=
  match file.text with
  | .error reason => .error ⟨s!"Failed to read {path}", [reason]⟩
  | .ok content =>
      match Json.parse content with
      | .error problem => .error ⟨s!"Invalid JSON in {path}", [problem.message]⟩
      | .ok value =>
          inContext s!"{path} does not hold a configuration tree" (Config.Tree.ofJson value)

def notAccepted : Failure :=
  ⟨"The multiplexer did not accept the configuration; " ++
    "run 'config dump' to see the active one", []⟩

def writeTask (settings : Settings) (path : String) (file : FileState) : Task ω σ String := do
  let tree ← Task.ofExcept (treeOfFile path file)
  if ← Task.during "Failed to send configuration"
      (Session.writeTree tree settings.bulkTimeout) then
    return "Configuration accepted\n"
  else throw notAccepted

/-! ## Remote control -/

def listTask (settings : Settings) : Task ω σ String := do
  let modules ← Task.during "Failed to list modules"
    (Session.loadModules settings.livenessTimeout)
  return Report.modules modules

def getTask (settings : Settings) (module parameter : String) : Task ω σ String := do
  let value ← Task.during s!"Failed to read {module}.{parameter}"
    (Session.getParameter module parameter settings.livenessTimeout)
  return value ++ "\n"

def setTask (settings : Settings) (module parameter value : String) : Task ω σ String := do
  Task.during s!"Failed to set {module}.{parameter}"
    (Session.setParameter module parameter value settings.livenessTimeout)
  return s!"{module}.{parameter} = {value}\n"

/-! ## Monitoring -/

def expiryTask (settings : Settings) : Task ω σ (Option String) :=
  ExceptT.mk do
    let asking := Session.getParameter "clocktai" "expiry" settings.livenessTimeout
    match ← asking.run with
    | .ok value => return .ok (some value)
    | .error fault =>
        if fault.isFatal then
          return .error ((Failure.ofFault fault).during "Failed to read clocktai expiry")
        else return .ok none

def fetchGraphs (σ : Type) [Channel ω σ] (settings : Settings) (legacy : Bool) (peer : ω) :
    Except Failure String × ω :=
  match onRemote σ settings (expiryTask settings) peer with
  | (.error failure, peer) => (.error failure, peer)
  | (.ok expiry, peer) =>
      onStats σ settings legacy (fun _ => do
        let snapshot ← readStatistics settings
        return Report.graphValues expiry snapshot ++ "\n") peer

/-! ## Commands -/

def resolve (options : Options) (files : String → FileState) : Except Failure Settings := do
  let settings ← match options.settingsPath with
    | none => pure Settings.default
    | some path =>
        inContext s!"Failed to load settings from {path}" (Settings.load path (files path)).1
  return { settings with
    host := options.host.getD settings.host
    statsPort := options.statsPort.getD settings.statsPort
    legacyPort := options.statsPort.getD settings.legacyPort
    remotePort := options.remotePort.getD settings.remotePort }

/-- What a command prints, or why it fails, and the peers after it. -/
def run (σ : Type) [Channel ω σ] (command : Command) (settings : Settings)
    (legacy : Bool) (files : String → FileState) (peer : ω) : Except Failure String × ω :=
  match command with
  | .info => onStats σ settings legacy infoTask peer
  | .stats =>
      onStats σ settings legacy
        (fun _ => do return Report.snapshot (← readStatistics settings)) peer
  | .inputs =>
      onStats σ settings legacy
        (fun _ => do return Text.unlines (← inputIdents settings)) peer
  | .dump =>
      onStats σ settings legacy
        (fun _ => do return (← readConfiguration settings).toJson.pretty ++ "\n") peer
  | .services =>
      onStats σ settings legacy
        (fun _ => viewTask settings Config.Tree.services Report.services) peer
  | .subchannels =>
      onStats σ settings legacy
        (fun _ => viewTask settings Config.Tree.subchannels Report.subchannels) peer
  | .components =>
      onStats σ settings legacy
        (fun _ => viewTask settings Config.Tree.components Report.components) peer
  | .general =>
      onStats σ settings legacy
        (fun _ => viewTask settings Config.Tree.general Report.general) peer
  | .write path => onStats σ settings legacy (fun _ => writeTask settings path (files path)) peer
  | .remoteList => onRemote σ settings (listTask settings) peer
  | .remoteGet module parameter => onRemote σ settings (getTask settings module parameter) peer
  | .remoteSet module parameter value =>
      onRemote σ settings (setTask settings module parameter value) peer
  | .graphValues => fetchGraphs σ settings legacy peer
  | .graphConfig =>
      onStats σ settings legacy
        (fun _ => do return Report.graphConfig (← inputIdents settings) ++ "\n") peer

/-! ## The program -/

structure Exit where
  code : UInt8
  stdout : String
  stderr : String
deriving DecidableEq, Repr

def versionLine : String := "odr-mgmt 0.3.0\n"

def Exit.ofResult : Except Failure String → Exit
  | .ok output => ⟨0, output, ""⟩
  | .error failure => ⟨1, "", failure.report⟩

def Invocation.run (σ : Type) [Channel ω σ] (invocation : Invocation)
    (files : String → FileState) (peer : ω) : Exit × ω :=
  match resolve invocation.options files with
  | .error failure => (.ofResult (.error failure), peer)
  | .ok settings =>
      let (result, peer) :=
        invocation.command.run σ settings invocation.options.legacy files peer
      (.ofResult result, peer)

/-- The whole program, on the words of its command line. -/
def runProgram (σ : Type) [Channel ω σ] (words : List String) (files : String → FileState)
    (peer : ω) : Exit × ω :=
  match Invocation.ofWords words with
  | .error .usage => (⟨2, "", "usage"⟩, peer)
  | .error .version => (⟨0, versionLine, ""⟩, peer)
  | .ok invocation => invocation.run σ files peer

end MuxConsole.Command
