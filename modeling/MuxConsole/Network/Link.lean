import MuxConsole.Network.Queue
import MuxConsole.Network.Stream

/-!
# Links of both kinds

The channel to a server of a network, of the kind that its endpoint asks for.
-/

namespace MuxConsole.Network

inductive Link where
  | queue (link : QueueLink)
  | stream (link : StreamLink)
deriving DecidableEq, Repr

namespace Link

def connect (endpoint : Endpoint) (deadline : Nat) (net : Network) :
    Except Fault Link × Network :=
  match endpoint.wire with
  | .queue =>
      let (result, net) := QueueLink.connect endpoint deadline net
      (result.map .queue, net)
  | .stream =>
      let (result, net) := StreamLink.connect endpoint deadline net
      (result.map .stream, net)

def send (frames : Frames) (limit : Option Nat) (link : Link) (net : Network) :
    Sending × Link × Network :=
  match link with
  | .queue link =>
      let (sending, link, net) := link.send frames limit net
      (sending, .queue link, net)
  | .stream link =>
      let (sending, link, net) := link.send frames limit net
      (sending, .stream link, net)

def receive (limit : Nat) (link : Link) (net : Network) : Receiving × Link × Network :=
  match link with
  | .queue link =>
      let (receiving, link, net) := link.receive limit net
      (receiving, .queue link, net)
  | .stream link =>
      let (receiving, link, net) := link.receive limit net
      (receiving, .stream link, net)

def reset (link : Link) (net : Network) : Except Fault Unit × Link × Network :=
  match link with
  | .queue link => (.ok (), .queue link.reset, net)
  | .stream link => (.ok (), .stream link.reset, net)

instance : Channel Network Link where
  connect := connect
  send := send
  receive := receive
  reset := reset

end Link

end MuxConsole.Network
