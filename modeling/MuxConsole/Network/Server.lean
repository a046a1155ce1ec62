import MuxConsole.Network.Intake

/-!
# Servers

The servers of a network, by the number they listen on.  A server follows a script and keeps
a record: a queue server of the exchanges on its sockets, a stream server of the
connections made to it.  What is written to it may take its time, fail, or reach it in
part only.
-/

namespace MuxConsole.Network

/-! ## Writing -/

/-- How a write to a server goes.  If the server does not read, it takes longer than
anybody waits. -/
structure Uptake where
  after : Nat
  problem : Option String
  /-- How much of it reaches the server even if it fails or is dropped: bytes on a stream,
  frames on a queue, where a message that does not come whole does not count. -/
  arrives : Nat
deriving DecidableEq, Repr

def Uptake.atOnce : Uptake := ⟨0, none, 0⟩

def Uptake.sending (fault : String → Fault) (limit : Option Nat) (start : Nat)
    (uptake : Uptake) : Sending :=
  if Within limit (start + uptake.after) then
    match uptake.problem with
    | none => .sent (start + uptake.after)
    | some message => .failed (fault message)
  else .dropped

/-! ## Queue servers -/

inductive QueueItem where
  | reply (frames : Frames)
  /-- A reply that comes only some time after the request. -/
  | late (delay : Nat) (frames : Frames)
  | silent
  | hangUp
  /-- No reply, and nobody listens any more. -/
  | vanish
deriving DecidableEq, Repr

structure Exchange where
  /-- The number of the socket it took place on. -/
  socket : Nat
  request : Frames
  item : QueueItem
deriving DecidableEq, Repr

structure QueueServer where
  script : List QueueItem
  /-- How the next writes go; those after them go at once. -/
  uptakes : List Uptake
  listening : Bool
  sockets : Nat
  exchanges : List Exchange
deriving DecidableEq, Repr

namespace QueueServer

def ofScript (script : List QueueItem) : QueueServer := ⟨script, [], true, 0, []⟩

def take (server : QueueServer) (socket : Nat) (request : Frames) : QueueServer :=
  let item := server.script.headD .silent
  { server with
    script := server.script.tail
    listening := server.listening && item ≠ .vanish
    exchanges := server.exchanges ++ [⟨socket, request, item⟩] }

end QueueServer

/-! ## Stream servers -/

/-- What a stream server does on a connection: what it writes, after how long it
ends its side, if at all, and whether it stops listening once it has been sent
something. -/
structure StreamItem where
  segments : List Segment
  ends : Option Nat
  vanishes : Bool
deriving DecidableEq, Repr

namespace StreamItem

def atOnce (bytes : Bytes) : StreamItem := ⟨[⟨0, bytes⟩], some 0, false⟩

def exhausted : StreamItem := ⟨[], some 0, false⟩

end StreamItem

/-- A request that has been written, if only in part, and the bytes of it that the server
has got. -/
structure Portion where
  request : Frames
  arrived : Bytes
deriving DecidableEq, Repr

structure Connection where
  item : StreamItem
  portions : List Portion
deriving DecidableEq, Repr

namespace Connection

/-- A frame as it is written: with a newline, unless it ends in one. -/
def line (frame : Bytes) : Bytes :=
  if frame.getLast? = some Ascii.newline then frame else frame ++ [Ascii.newline]

def lines (frames : Frames) : Bytes := frames.flatMap line

def received (connection : Connection) : Bytes := connection.portions.flatMap (·.arrived)

end Connection

structure StreamServer where
  script : List StreamItem
  uptakes : List Uptake
  listening : Bool
  connections : List Connection
deriving DecidableEq, Repr

namespace StreamServer

def ofScript (script : List StreamItem) : StreamServer := ⟨script, [], true, []⟩

def accept (server : StreamServer) : StreamServer :=
  { server with
    script := server.script.tail
    connections := server.connections ++ [⟨server.script.headD .exhausted, []⟩] }

def take (server : StreamServer) (index : Nat) (portion : Portion) : StreamServer :=
  let vanishes := portion.arrived ≠ [] && server.connections[index]?.any (·.item.vanishes)
  { server with
    listening := server.listening && !vanishes
    connections := server.connections.modify index fun connection =>
      { connection with portions := connection.portions ++ [portion] } }

end StreamServer

/-! ## Networks -/

inductive Server where
  | queue (server : QueueServer)
  | stream (server : StreamServer)
  | closed
  /-- Nobody answers there. -/
  | mute
deriving DecidableEq, Repr

end MuxConsole.Network

namespace MuxConsole

structure Network where
  /-- Whether the own machine can be reached; no other machine ever can. -/
  online : Bool
  servers : List (UInt16 × Network.Server)
deriving DecidableEq, Repr

namespace Network

def offline : Network := ⟨false, []⟩

def loopback : String := "127.0.0.1"

def server? (net : Network) (number : UInt16) : Option Server :=
  (net.servers.find? fun entry => entry.1 = number).map (·.2)

def setServer (net : Network) (number : UInt16) (server : Server) : Network :=
  { net with servers := net.servers.map fun entry =>
      if entry.1 = number then (number, server) else entry }

def queue? (net : Network) (number : UInt16) : Option QueueServer :=
  match net.server? number with
  | some (.queue server) => some server
  | _ => none

def stream? (net : Network) (number : UInt16) : Option StreamServer :=
  match net.server? number with
  | some (.stream server) => some server
  | _ => none

/-! ## Connecting -/

inductive Attempt (α : Type) where
  | success (link : α) (net : Network)
  | failure (message : String)
  | waiting

def deadlineFault (endpoint : Endpoint) (deadline : Nat) : Fault :=
  .connect endpoint.display s!"no connection within {deadline} ms"

def Attempt.toExcept {α : Type} (endpoint : Endpoint) (deadline : Nat) (net : Network) :
    Attempt α → Except Fault α × Network
  | .success link net => (.ok link, net)
  | .failure message => (.error (.connect endpoint.display message), net)
  | .waiting => (.error (deadlineFault endpoint deadline), net)

end Network

end MuxConsole
