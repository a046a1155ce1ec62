/-!
# Endpoints

Where a server of the multiplexer listens, and how frames travel to it: as
multi-part messages of a queue, or as the lines of a stream.
-/

namespace MuxConsole

inductive Wire where
  | queue
  | stream
deriving DecidableEq, Repr

structure Endpoint where
  host : String
  port : UInt16
  wire : Wire
deriving DecidableEq, Repr

namespace Endpoint

def statsPort : UInt16 := 12720

def remotePort : UInt16 := 12722

def stats (host : String) : Endpoint := ⟨host, statsPort, .queue⟩

def remoteControl (host : String) : Endpoint := ⟨host, remotePort, .queue⟩

def legacy (host : String) : Endpoint := ⟨host, statsPort, .stream⟩

def url (e : Endpoint) : String := s!"tcp://{e.host}:{e.port}"

def display (e : Endpoint) : String :=
  match e.wire with
  | .queue => e.url
  | .stream => s!"{e.host}:{e.port} (stream)"

end Endpoint

end MuxConsole
