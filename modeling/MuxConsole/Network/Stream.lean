import MuxConsole.Network.Server

/-!
# Stream links

There is one connection per request: the first one is opened in advance, and
receiving a reply uses a connection up, as does a send that does not come to its end.
The frames of a request are written line by line, with a pause between them so that the
server reads them one at a time.
-/

namespace MuxConsole.Network

structure StreamLink where
  endpoint : Endpoint
  deadline : Nat
  /-- The open connection, by its place in the record of the server. -/
  connection : Option Nat
deriving DecidableEq, Repr

namespace StreamLink

def frameGap : Nat := 50

def attempt (endpoint : Endpoint) (net : Network) : Attempt Nat :=
  if endpoint.host ≠ loopback ∨ !net.online then
    .failure "Network is unreachable (os error 101)"
  else
    match net.server? endpoint.port with
    | some (.stream server) =>
        if server.listening then
          .success server.connections.length
            (net.setServer endpoint.port (.stream server.accept))
        else .failure "Connection refused (os error 111)"
    | some (.queue _) | some .mute => .waiting
    | some .closed | none => .failure "Connection refused (os error 111)"

def connect (endpoint : Endpoint) (deadline : Nat) (net : Network) :
    Except Fault StreamLink × Network :=
  match (attempt endpoint net).toExcept endpoint deadline net with
  | (.ok connection, net) => (.ok ⟨endpoint, deadline, some connection⟩, net)
  | (.error fault, net) => (.error fault, net)

/-- Writes frames from some time on, with a pause before the first: how that ends, what of
it reaches the server, and how the writes after it will go. -/
def write (limit : Option Nat) :
    (pause time : Nat) → Frames → List Uptake → Sending × Bytes × List Uptake
  | _, time, [], uptakes => (.sent time, [], uptakes)
  | pause, time, frame :: rest, uptakes =>
      if Within limit (time + pause) then
        let uptake := uptakes.headD .atOnce
        match uptake.sending .io limit (time + pause) with
        | .sent time =>
            let (sending, arrived, uptakes) := write limit frameGap time rest uptakes.tail
            (sending, Connection.line frame ++ arrived, uptakes)
        | interrupted =>
            (interrupted, (Connection.line frame).take uptake.arrives, uptakes.tail)
      else (.dropped, [], uptakes)

def sendOn (frames : Frames) (limit : Option Nat) (connection : Nat) (link : StreamLink)
    (net : Network) : Sending × StreamLink × Network :=
  match net.stream? link.endpoint.port with
  | none =>
      (.failed (.io "Broken pipe (os error 32)"), { link with connection := none }, net)
  | some server =>
      let (sending, arrived, uptakes) := write limit 0 0 frames server.uptakes
      (sending, { link with connection := sending.putBack connection },
        net.setServer link.endpoint.port
          (.stream ({ server with uptakes }.take connection ⟨frames, arrived⟩)))

def send (frames : Frames) (limit : Option Nat) (link : StreamLink) (net : Network) :
    Sending × StreamLink × Network :=
  match frames with
  | [] => (.failed (.transport "refusing to send an empty message"), link, net)
  | _ :: _ =>
      match link.connection with
      | some connection => sendOn frames limit connection link net
      | none =>
          match attempt link.endpoint net with
          | .success connection net => sendOn frames limit connection link net
          | .failure message =>
              (.failed (.connect link.endpoint.display message), link, net)
          | .waiting =>
              if Within limit link.deadline then
                (.failed (deadlineFault link.endpoint link.deadline), link, net)
              else (.dropped, link, net)

def item? (connection : Nat) (link : StreamLink) (net : Network) : Option StreamItem := do
  let server ← net.stream? link.endpoint.port
  let connection ← server.connections[connection]?
  return connection.item

/-- Receiving takes the connection away, whether or not the caller waits. -/
def receive (limit : Nat) (link : StreamLink) (net : Network) :
    Receiving × StreamLink × Network :=
  match link.connection with
  | none => (.failed (.transport "no command was sent"), link, net)
  | some connection =>
      let item := (link.item? connection net).getD .exhausted
      (Intake.receive link.endpoint item.ends limit .start item.segments,
        { link with connection := none }, net)

def reset (link : StreamLink) : StreamLink := { link with connection := none }

end StreamLink

end MuxConsole.Network
