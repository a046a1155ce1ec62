import MuxConsole.Config.Field
import MuxConsole.Config.Tree

/-!
# Views of a configuration

Services, subchannels, components and general options as records.  Every known
field is filled in and an absent one is empty.  Only a missing section is a
fault: it means that the configuration is laid out in an unknown way.
-/

namespace MuxConsole.Config

/-! ## Services -/

structure Service where
  name : String
  id : String
  label : String
  shortLabel : String
  pty : String
  language : String
deriving DecidableEq, Repr

namespace Service

def named (name : String) : Service := ⟨name, "", "", "", "", ""⟩

def options : List (Field Service) := [
  ⟨"id", "id", id, fun id s => { s with id }⟩,
  ⟨"label", "label", label, fun label s => { s with label }⟩,
  ⟨"shortlabel", "shortlabel", shortLabel, fun shortLabel s => { s with shortLabel }⟩,
  ⟨"pty", "pty", pty, fun pty s => { s with pty }⟩,
  ⟨"language", "language", language, fun language s => { s with language }⟩]

def layout : Layout Service where
  type := "Service"
  start := named ""
  fields := ⟨"name", "name", name, fun name s => { s with name }⟩ :: options

end Service

/-! ## Subchannels -/

structure Subchannel where
  name : String
  kind : String
  inputFile : String
  zmqBuffer : String
  zmqPrebuffering : String
  bitrate : String
  id : String
  protection : String
  encryption : String
  secretKey : String
  publicKey : String
  encoderKey : String
deriving DecidableEq, Repr

namespace Subchannel

def named (name : String) : Subchannel := ⟨name, "", "", "", "", "", "", "", "", "", "", ""⟩

def options : List (Field Subchannel) := [
  ⟨"type", "type", kind, fun kind s => { s with kind }⟩,
  ⟨"inputfile", "inputfile", inputFile, fun inputFile s => { s with inputFile }⟩,
  ⟨"zmq_buffer", "zmq-buffer", zmqBuffer, fun zmqBuffer s => { s with zmqBuffer }⟩,
  ⟨"zmq_prebuffering", "zmq-prebuffering", zmqPrebuffering,
    fun zmqPrebuffering s => { s with zmqPrebuffering }⟩,
  ⟨"bitrate", "bitrate", bitrate, fun bitrate s => { s with bitrate }⟩,
  ⟨"id", "id", id, fun id s => { s with id }⟩,
  ⟨"protection", "protection", protection, fun protection s => { s with protection }⟩,
  ⟨"encryption", "encryption", encryption, fun encryption s => { s with encryption }⟩,
  ⟨"secret_key", "secret-key", secretKey, fun secretKey s => { s with secretKey }⟩,
  ⟨"public_key", "public-key", publicKey, fun publicKey s => { s with publicKey }⟩,
  ⟨"encoder_key", "encoder-key", encoderKey, fun encoderKey s => { s with encoderKey }⟩]

def layout : Layout Subchannel where
  type := "Subchannel"
  start := named ""
  fields := ⟨"name", "name", name, fun name s => { s with name }⟩ :: options

end Subchannel

/-! ## Components -/

structure Component where
  name : String
  label : String
  shortLabel : String
  service : String
  subchannel : String
  figType : String
deriving DecidableEq, Repr

namespace Component

def named (name : String) : Component := ⟨name, "", "", "", "", ""⟩

def options : List (Field Component) := [
  ⟨"label", "label", label, fun label c => { c with label }⟩,
  ⟨"shortlabel", "shortlabel", shortLabel, fun shortLabel c => { c with shortLabel }⟩,
  ⟨"service", "service", service, fun service c => { c with service }⟩,
  ⟨"subchannel", "subchannel", subchannel, fun subchannel c => { c with subchannel }⟩,
  ⟨"figtype", "figtype", figType, fun figType c => { c with figType }⟩]

def layout : Layout Component where
  type := "Component"
  start := named ""
  fields := ⟨"name", "name", name, fun name c => { c with name }⟩ :: options

end Component

/-! ## General options -/

structure General where
  nbFrames : String
  statsServerPort : String
  writeScca : String
  tist : String
  dabMode : String
  syslog : String
  telnetPort : String
deriving DecidableEq, Repr

namespace General

def blank : General := ⟨"", "", "", "", "", "", ""⟩

def options : List (Field General) := [
  ⟨"nbframes", "nbframes", nbFrames, fun nbFrames g => { g with nbFrames }⟩,
  ⟨"statsserverport", "statsserverport", statsServerPort,
    fun statsServerPort g => { g with statsServerPort }⟩,
  ⟨"writescca", "writescca", writeScca, fun writeScca g => { g with writeScca }⟩,
  ⟨"tist", "tist", tist, fun tist g => { g with tist }⟩,
  ⟨"dabmode", "dabmode", dabMode, fun dabMode g => { g with dabMode }⟩,
  ⟨"syslog", "syslog", syslog, fun syslog g => { g with syslog }⟩]

def remoteOptions : List (Field General) := [
  ⟨"telnetport", "telnetport", telnetPort, fun telnetPort g => { g with telnetPort }⟩]

def layout : Layout General where
  type := "GeneralOptions"
  start := blank
  fields := options ++ remoteOptions

end General

/-! ## From a tree -/

namespace Tree

variable {ρ : Type}

def view (tree : Tree) (name : String) (named : String → ρ) (options : List (Field ρ)) :
    Except Fault (List ρ) := do
  let members ← tree.sectionMembers name
  return members.map fun (key, entry) => fill options entry (named key)

def services (tree : Tree) : Except Fault (List Service) :=
  tree.view "services" Service.named Service.options

def subchannels (tree : Tree) : Except Fault (List Subchannel) :=
  tree.view "subchannels" Subchannel.named Subchannel.options

def components (tree : Tree) : Except Fault (List Component) :=
  tree.view "components" Component.named Component.options

def general (tree : Tree) : Except Fault General := do
  let general ← tree.sectionMembers "general"
  let remote ← tree.sectionMembers "remotecontrol"
  return fill General.remoteOptions (.object remote)
    (fill General.options (.object general) General.blank)

end Tree

end MuxConsole.Config
