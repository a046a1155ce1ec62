import MuxConsole.Config.View
import MuxConsole.Input.Snapshot
import MuxConsole.Remote.Module
import MuxConsole.Text.Columns
import MuxConsole.Text.Lines

/-!
# Reports for the terminal

Statistics in columns, and one line or a few for every service, subchannel,
component and module.
-/

namespace MuxConsole.Report

/-! ## Statistics -/

def statColumns : List (String × Nat) := [
  ("max", 8), ("min", 8), ("under", 8), ("over", 8), ("audio L", 8), ("audio R", 8),
  ("peak L", 8), ("peak R", 8), ("state", 16), ("version", 48), ("uptime", 10),
  ("offset", 8)]

def row (first : String) (cells : List String) : String :=
  Text.leftIn 20 first ++
    String.join (List.zipWith (fun column cell => Text.rightIn column.2 cell) statColumns cells)

def orDash : Option String → String
  | some text => text
  | none => "-"

def numberText (n : Number) : String := String.ofList (Json.renderNumber n)

def statCells (stat : Input.Stat) : List String := [
  toString stat.maxFill.toInt,
  toString stat.minFill.toInt,
  toString stat.underruns.toNat,
  toString stat.overruns.toNat,
  toString stat.peakLeft.toInt,
  toString stat.peakRight.toInt,
  orDash (stat.peakLeftSlow.map fun peak => toString peak.toInt),
  orDash (stat.peakRightSlow.map fun peak => toString peak.toInt),
  stat.report,
  stat.version,
  stat.uptime.display,
  orDash (stat.offset.map numberText)]

def snapshot (snapshot : Input.Snapshot) : String :=
  Text.unlines (row "id" (statColumns.map (·.1)) ::
    snapshot.entries.map fun (ident, stat) => row ident (statCells stat))

/-! ## The configuration -/

open Text in
def service (s : Config.Service) : String :=
  s!"{s.name}: id={s.id} label={quoted s.label} shortlabel={quoted s.shortLabel} " ++
    s!"pty={s.pty} language={s.language}"

def services (services : List Config.Service) : String := Text.unlines (services.map service)

def subchannel (s : Config.Subchannel) : List String :=
  [s!"{s.name}: type={s.kind} id={s.id} bitrate={s.bitrate} " ++
    s!"protection={s.protection} inputfile={s.inputFile}"] ++
  (if s.zmqBuffer = "" ∧ s.zmqPrebuffering = "" then []
    else [s!"    zmq-buffer={s.zmqBuffer} zmq-prebuffering={s.zmqPrebuffering}"]) ++
  (if s.encryption = "" then []
    else [s!"    encryption={s.encryption} secret-key={s.secretKey} " ++
      s!"public-key={s.publicKey} encoder-key={s.encoderKey}"])

def subchannels (subchannels : List Config.Subchannel) : String :=
  Text.unlines (subchannels.flatMap subchannel)

open Text in
def component (c : Config.Component) : String :=
  s!"{c.name}: service={c.service} subchannel={c.subchannel} label={quoted c.label} " ++
    s!"shortlabel={quoted c.shortLabel} figtype={c.figType}"

def components (components : List Config.Component) : String :=
  Text.unlines (components.map component)

def general (g : Config.General) : String :=
  Text.unlines ([("dabmode", g.dabMode), ("nbframes", g.nbFrames),
    ("statsserverport", g.statsServerPort), ("telnetport", g.telnetPort),
    ("writescca", g.writeScca), ("tist", g.tist), ("syslog", g.syslog)].map
      fun (name, value) => Text.leftIn 16 name ++ value)

/-! ## Remote control -/

def moduleLines (module : Remote.Module) : List String :=
  module.name :: module.parameters.map fun parameter => "    " ++ parameter.line

def modules (modules : List Remote.Module) : String := Text.unlines (modules.flatMap moduleLines)

end MuxConsole.Report
