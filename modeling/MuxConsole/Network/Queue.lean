import MuxConsole.Network.Server

/-!
# Queue links

A socket takes one request at a time, and replies come on it in the order of the
requests.  It is lost in a send that does not come to its end, and after a reset there
is none; the next request opens one.  Connecting is tried again and again until the
deadline, so a server that is not there shows only when the deadline has passed.
-/

namespace MuxConsole.Network

structure QueueSocket where
  number : Nat
  inProgress : Bool
  /-- The requests that have reached the server on it and whose replies have not been
  taken, by their places in the record of the server. -/
  unanswered : List Nat
  hungUp : Bool
deriving DecidableEq, Repr

structure QueueLink where
  endpoint : Endpoint
  deadline : Nat
  socket : Option QueueSocket
deriving DecidableEq, Repr

namespace QueueSocket

def attempt (endpoint : Endpoint) (net : Network) : Attempt QueueSocket :=
  if endpoint.host = "" then
    .failure "Endpoint Error: Invalid Syntax: Could not parse host and port"
  else if endpoint.host ≠ loopback ∨ !net.online then
    .failure "Network Error: Network is unreachable (os error 101)"
  else
    match net.queue? endpoint.port with
    | none => .waiting
    | some server =>
        if server.listening then
          .success ⟨server.sockets, false, [], false⟩
            (net.setServer endpoint.port
              (.queue { server with sockets := server.sockets + 1 }))
        else .waiting

/-- A message that has reached the server is answered even if its send was dropped. -/
def send (frames : Frames) (limit : Option Nat) (port : UInt16) (socket : QueueSocket)
    (net : Network) : Sending × QueueSocket × Network :=
  if socket.inProgress then
    (.failed (.transport ("Failed to deliver message cause of " ++
      "Unable to send message. Request already in progress")), socket, net)
  else if socket.hungUp then
    (.failed (.transport "Codec Error: Broken pipe (os error 32)"), socket, net)
  else
    match net.queue? port with
    | none => (.failed (.transport "Codec Error: Broken pipe (os error 32)"), socket, net)
    | some server =>
        let uptake := server.uptakes.headD .atOnce
        let server := { server with uptakes := server.uptakes.tail }
        let unanswered := socket.unanswered ++ [server.exchanges.length]
        let taken := net.setServer port (.queue (server.take socket.number frames))
        match uptake.sending .transport limit 0 with
        | .sent took => (.sent took, { socket with inProgress := true, unanswered }, taken)
        | interrupted =>
            if frames.length ≤ uptake.arrives then
              (interrupted, { socket with unanswered }, taken)
            else (interrupted, socket, net.setServer port (.queue server))

end QueueSocket

namespace QueueLink

def connect (endpoint : Endpoint) (deadline : Nat) (net : Network) :
    Except Fault QueueLink × Network :=
  match (QueueSocket.attempt endpoint net).toExcept endpoint deadline net with
  | (.ok socket, net) => (.ok ⟨endpoint, deadline, some socket⟩, net)
  | (.error fault, net) => (.error fault, net)

def sendOn (frames : Frames) (limit : Option Nat) (socket : QueueSocket) (link : QueueLink)
    (net : Network) : Sending × QueueLink × Network :=
  let (sending, socket, net) := socket.send frames limit link.endpoint.port net
  (sending, { link with socket := sending.putBack socket }, net)

def send (frames : Frames) (limit : Option Nat) (link : QueueLink) (net : Network) :
    Sending × QueueLink × Network :=
  match frames with
  | [] => (.failed (.transport "refusing to send an empty message"), link, net)
  | _ :: _ =>
      match link.socket with
      | some socket => sendOn frames limit socket link net
      | none =>
          match QueueSocket.attempt link.endpoint net with
          | .success socket net => sendOn frames limit socket link net
          | .failure message =>
              (.failed (.connect link.endpoint.display message), link, net)
          | .waiting =>
              if Within limit link.deadline then
                (.failed (deadlineFault link.endpoint link.deadline), link, net)
              else (.dropped, link, net)

def answer? (number : Nat) (link : QueueLink) (net : Network) : Option QueueItem := do
  let server ← net.queue? link.endpoint.port
  let exchange ← server.exchanges[number]?
  return exchange.item

/-- What the server does about the first of these requests that it does not pass over in
silence, and the requests after that one. -/
def coming (link : QueueLink) (net : Network) : List Nat → Option (QueueItem × List Nat)
  | [] => none
  | number :: rest =>
      match link.answer? number net with
      | some .silent | some .vanish | none => coming link net rest
      | some item => some (item, rest)

/-- Receiving ends the request in progress, whether or not the caller waits.  What comes
may be a reply to an older request. -/
def receive (limit : Nat) (link : QueueLink) (net : Network) :
    Receiving × QueueLink × Network :=
  match link.socket with
  | none => (.failed (.transport "no request was sent"), link, net)
  | some socket =>
      if socket.inProgress then
        let idle := { socket with inProgress := false }
        match link.coming net socket.unanswered with
        | some (.reply frames, unanswered) =>
            (.frames frames, { link with socket := some { idle with unanswered } }, net)
        | some (.late delay frames, unanswered) =>
            if delay ≤ limit then
              (.frames frames, { link with socket := some { idle with unanswered } }, net)
            else (.nothing, { link with socket := some idle }, net)
        | some (.hangUp, _) =>
            (.failed (.transport "No message received"),
              { link with socket := some { idle with hungUp := true } }, net)
        | some (.silent, _) | some (.vanish, _) | none =>
            (.nothing, { link with socket := some idle }, net)
      else (.failed (.transport "Unable to recv. No request in progress"), link, net)

def reset (link : QueueLink) : QueueLink := { link with socket := none }

end QueueLink

end MuxConsole.Network
