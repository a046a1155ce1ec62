import MuxConsole.Proofs.Network.Places

/-!
# What links do to the record

A link is ready when nothing is in progress on it and no reply is to come: then a
request goes to a place of its own, where the reply to it is taken from.  Receiving leaves
nothing in progress.  A send that is dropped and a reset leave no socket and no connection.
-/

namespace MuxConsole.Network

namespace Link

def endpoint : Link → Endpoint
  | .queue link => link.endpoint
  | .stream link => link.endpoint

def IsLost : Link → Prop
  | .queue link => link.socket = none
  | .stream link => link.connection = none

def IsIdle : Link → Prop
  | .queue link => ∀ socket ∈ link.socket, socket.inProgress = false
  | .stream link => link.connection = none

/-- No request is in progress, and no reply is to come any more: a connection that is
there has not been written on. -/
def Ready (net : Network) : Link → Prop
  | .queue link => ∀ socket ∈ link.socket, socket.inProgress = false ∧ socket.unanswered = []
  | .stream link => ∀ place ∈ link.connection, ∃ server,
      net.server? link.endpoint.port = some (.stream server) ∧
        place < server.connections.length ∧ carried link.endpoint place net = []

/-- The request has been written at the place, on the very socket or connection of
the link, and nothing else has that is still to be replied to. -/
def Holds (place : Nat) (request : Frames) (net : Network) : Link → Prop
  | .queue link => ∃ server socket exchange,
      net.server? link.endpoint.port = some (.queue server) ∧ link.socket = some socket ∧
        socket.inProgress = true ∧ socket.unanswered = [place] ∧
        server.exchanges[place]? = some exchange ∧ exchange.socket = socket.number ∧
        exchange.request = request
  | .stream link => ∃ server connection,
      net.server? link.endpoint.port = some (.stream server) ∧ link.connection = some place ∧
        server.connections[place]? = some connection ∧
        connection.portions = [⟨request, Connection.lines request⟩]

def Gives (place : Nat) (reply : Frames) (net : Network) : Link → Prop
  | .queue link => ∃ server exchange,
      net.server? link.endpoint.port = some (.queue server) ∧
        server.exchanges[place]? = some exchange ∧
        (exchange.item = .reply reply ∨ ∃ delay, exchange.item = .late delay reply)
  | .stream link => ∃ server connection limit,
      net.server? link.endpoint.port = some (.stream server) ∧
        server.connections[place]? = some connection ∧
        Intake.receive link.endpoint connection.item.ends limit .start
          connection.item.segments = .frames reply

theorem IsLost.isIdle {link : Link} (h : link.IsLost) : link.IsIdle := by
  cases link with
  | queue link =>
      intro socket member
      rw [show link.socket = none from h] at member
      cases member
  | stream link => exact h

theorem IsLost.ready {link : Link} (h : link.IsLost) (net : Network) : link.Ready net := by
  cases link with
  | queue link =>
      intro socket member
      rw [show link.socket = none from h] at member
      cases member
  | stream link =>
      intro place member
      rw [show link.connection = none from h] at member
      cases member

/-- What sending comes to.  A request that has been sent has a place, and so has what is
written of one whose sending has failed or been dropped; then the link is lost. -/
def Sends (link : Link) (frames : Frames) (net : Network) (sending : Sending) (link' : Link)
    (net' : Network) : Prop :=
  link'.endpoint = link.endpoint ∧
    match sending with
    | .sent _ =>
        ∃ place, WritesAt link.endpoint place frames net net' ∧ link'.Holds place frames net'
    | .dropped => link'.IsLost ∧ Progress link.endpoint net net'
    | .failed _ => Progress link.endpoint net net'

/-- What receiving comes to: nothing is in progress any more, and a reply is what
the server gives to the request that was, with none to come after it. -/
structure Receives (link : Link) (net : Network) (receiving : Receiving) (link' : Link)
    (net' : Network) : Prop where
  same : net' = net
  endpoint : link'.endpoint = link.endpoint
  idle : link'.IsIdle
  nothing : link.IsIdle → ∀ reply, receiving ≠ .frames reply
  gives : ∀ place request, link.Holds place request net → ∀ reply,
    receiving = .frames reply → link.Gives place reply net ∧ link'.Ready net

theorem Sends.of_unwritten {link link' : Link} {frames : Frames} {first net net' : Network}
    {sending : Sending} (h : Unwritten link.endpoint first net)
    (sends : link.Sends frames net sending link' net') :
    link.Sends frames first sending link' net' := by
  obtain ⟨same, sends⟩ := sends
  refine ⟨same, ?_⟩
  cases sending with
  | sent took =>
      obtain ⟨place, writes, holds⟩ := sends
      exact ⟨place, writes.of_unwritten h, holds⟩
  | failed fault => exact sends.of_unwritten h
  | dropped => exact ⟨sends.1, sends.2.of_unwritten h⟩

end Link

/-! ## Queues -/

variable {endpoint : Endpoint} {net net' : Network}

namespace QueueSocket

theorem attempt_success {socket : QueueSocket}
    (h : attempt endpoint net = .success socket net') :
    (socket.inProgress = false ∧ socket.unanswered = []) ∧ Unwritten endpoint net net' := by
  unfold attempt at h
  split at h
  · cases h
  · split at h
    · cases h
    · split at h
      · cases h
      · rename_i server hserver
        split at h
        · cases h
          refine ⟨⟨rfl, rfl⟩, ?_⟩
          intro place
          rw [queue?_eq_some] at hserver
          rw [carried_queue hserver, carried_queue (server?_setServer hserver)]
        · cases h

theorem send_progress (frames : Frames) (limit : Option Nat) (socket : QueueSocket)
    (net : Network) : Progress endpoint net (socket.send frames limit endpoint.port net).2.2 := by
  unfold send
  split
  · exact .inl (.refl _ _)
  split
  · exact .inl (.refl _ _)
  cases hserver : net.queue? endpoint.port with
  | none => exact .inl (.refl _ _)
  | some server =>
      rw [queue?_eq_some] at hserver
      have writes := writesAt_exchange server.uptakes.tail socket.number hserver frames
      have skips := unwritten_uptakes server.uptakes.tail hserver
      dsimp only
      cases (server.uptakes.headD .atOnce).sending .transport limit 0 with
      | sent took => exact .inr ⟨_, _, writes⟩
      | _ =>
          dsimp only
          split
          · exact .inr ⟨_, _, writes⟩
          · exact .inl skips

theorem send_sent {frames : Frames} {limit : Option Nat} {socket socket' : QueueSocket}
    {took : Nat} (h : socket.send frames limit endpoint.port net = (.sent took, socket', net')) :
    ∃ server, net.server? endpoint.port = some (.queue server) ∧
      socket' = { socket with
        inProgress := true
        unanswered := socket.unanswered ++ [server.exchanges.length] } ∧
      net' = net.setServer endpoint.port
        (.queue ({ server with uptakes := server.uptakes.tail }.take socket.number frames)) := by
  unfold send at h
  split at h
  · cases h
  split at h
  · cases h
  cases hserver : net.queue? endpoint.port with
  | none =>
      rw [hserver] at h
      cases h
  | some server =>
      rw [hserver] at h
      dsimp only at h
      cases hsending : (server.uptakes.headD .atOnce).sending .transport limit 0 with
      | sent took =>
          rw [hsending] at h
          cases h
          exact ⟨server, queue?_eq_some.mp hserver, rfl, rfl⟩
      | _ =>
          simp only [hsending] at h
          split at h <;> cases h

end QueueSocket

namespace QueueLink

variable {link : QueueLink} {socket : QueueSocket}

theorem sendOn_sends (frames : Frames) (limit : Option Nat) (link : QueueLink)
    (ready : socket.inProgress = false ∧ socket.unanswered = []) :
    Link.Sends (.queue link) frames net (sendOn frames limit socket link net).1
      (.queue (sendOn frames limit socket link net).2.1)
      (sendOn frames limit socket link net).2.2 := by
  have progress : Progress link.endpoint net
      (socket.send frames limit link.endpoint.port net).2.2 :=
    QueueSocket.send_progress frames limit socket net
  unfold sendOn
  cases hsend : socket.send frames limit link.endpoint.port net with
  | mk sending rest =>
      obtain ⟨socket', net'⟩ := rest
      rw [hsend] at progress
      refine ⟨rfl, ?_⟩
      cases sending with
      | sent took =>
          obtain ⟨server, hserver, rfl, rfl⟩ := QueueSocket.send_sent hsend
          refine ⟨_, writesAt_exchange server.uptakes.tail socket.number hserver frames, ?_⟩
          refine ⟨_, _, ⟨socket.number, frames, server.script.headD .silent⟩,
            server?_setServer hserver, rfl, rfl, ?_, ?_, rfl, rfl⟩
          · rw [ready.2, List.nil_append]
          · simp [QueueServer.take]
      | failed fault => exact progress
      | dropped => exact ⟨rfl, progress⟩

theorem send_sends (frames : Frames) (limit : Option Nat)
    (ready : (Link.queue link).Ready net) :
    Link.Sends (.queue link) frames net (link.send frames limit net).1
      (.queue (link.send frames limit net).2.1) (link.send frames limit net).2.2 := by
  unfold send
  cases frames with
  | nil => exact ⟨rfl, .inl (.refl _ _)⟩
  | cons frame rest =>
      dsimp only
      cases hsocket : link.socket with
      | some socket => exact sendOn_sends _ limit link (ready socket hsocket)
      | none =>
          dsimp only
          cases hattempt : QueueSocket.attempt link.endpoint net with
          | success socket net' =>
              obtain ⟨ready, unwritten⟩ := QueueSocket.attempt_success hattempt
              exact (sendOn_sends _ limit link ready).of_unwritten unwritten
          | failure message => exact ⟨rfl, .inl (.refl _ _)⟩
          | waiting =>
              dsimp only
              split
              · exact ⟨rfl, .inl (.refl _ _)⟩
              · exact ⟨rfl, hsocket, .inl (.refl _ _)⟩

theorem answer?_eq {server : QueueServer} {place : Nat} {exchange : Exchange}
    (hserver : net.server? link.endpoint.port = some (.queue server))
    (hexchange : server.exchanges[place]? = some exchange) :
    link.answer? place net = some exchange.item := by
  simp [answer?, queue?_eq_some.mpr hserver, hexchange]

theorem receive_idle {limit : Nat} {reply : Frames} (idle : (Link.queue link).IsIdle) :
    (receive limit link net).1 ≠ .frames reply := by
  unfold receive
  cases hsocket : link.socket with
  | none => nofun
  | some socket =>
      simp only [idle socket hsocket, Bool.false_eq_true, if_false]
      nofun

theorem receive_leaves (limit : Nat) (link : QueueLink) (net : Network) :
    (receive limit link net).2.2 = net ∧
      (receive limit link net).2.1.endpoint = link.endpoint ∧
      (Link.queue (receive limit link net).2.1).IsIdle := by
  unfold receive
  cases hsocket : link.socket with
  | none => exact ⟨rfl, rfl, by simp [Link.IsIdle, hsocket]⟩
  | some socket =>
      by_cases inProgress : socket.inProgress = true
      · dsimp only
        rw [if_pos inProgress]
        repeat' split
        all_goals exact ⟨rfl, rfl, by simp [Link.IsIdle]⟩
      · dsimp only
        rw [if_neg inProgress]
        exact ⟨rfl, rfl, by simpa [Link.IsIdle, hsocket] using inProgress⟩

theorem receive_gives {limit place : Nat} {reply : Frames} {exchange : Exchange}
    (inProgress : socket.inProgress = true) (unanswered : socket.unanswered = [place])
    (hsocket : link.socket = some socket)
    (hanswer : link.answer? place net = some exchange.item)
    (hreply : (receive limit link net).1 = .frames reply) :
    (exchange.item = .reply reply ∨ ∃ delay, exchange.item = .late delay reply) ∧
      (Link.queue (receive limit link net).2.1).Ready net := by
  unfold receive at hreply ⊢
  simp only [hsocket, if_pos inProgress, unanswered, coming, hanswer] at hreply ⊢
  cases hitem : exchange.item with
  | reply frames =>
      rw [hitem] at hreply
      cases hreply
      exact ⟨.inl rfl, by simp [Link.Ready]⟩
  | late delay frames =>
      rw [hitem] at hreply
      dsimp only at hreply ⊢
      split at hreply
      · cases hreply
        rename_i inTime
        rw [if_pos inTime]
        exact ⟨.inr ⟨delay, rfl⟩, by simp [Link.Ready]⟩
      · cases hreply
  | _ =>
      rw [hitem] at hreply
      cases hreply

theorem receive_receives (limit : Nat) (link : QueueLink) (net : Network) :
    Link.Receives (.queue link) net (receive limit link net).1
      (.queue (receive limit link net).2.1) (receive limit link net).2.2 := by
  obtain ⟨same, endpoint, idle⟩ := receive_leaves limit link net
  refine ⟨same, endpoint, idle, fun idle reply => receive_idle idle, ?_⟩
  rintro place request ⟨server, socket, exchange, hserver, hsocket, inProgress, unanswered,
    hexchange, _⟩ reply hreply
  obtain ⟨given, ready⟩ := receive_gives inProgress unanswered hsocket
    (answer?_eq hserver hexchange) hreply
  exact ⟨⟨server, exchange, hserver, hexchange, given⟩, ready⟩

end QueueLink

/-! ## Streams -/

namespace StreamLink

variable {link : StreamLink} {place : Nat}

theorem attempt_success (h : attempt endpoint net = .success place net') :
    Unwritten endpoint net net' ∧ ∃ server,
      net'.server? endpoint.port = some (.stream server) ∧
        place < server.connections.length ∧ carried endpoint place net' = [] := by
  unfold attempt at h
  split at h
  · cases h
  · split at h
    · rename_i server hserver
      split at h
      · cases h
        have unwritten := unwritten_accept hserver
        refine ⟨unwritten, server.accept, server?_setServer hserver, ?_, ?_⟩
        · simp [StreamServer.accept]
        · rw [unwritten, carried_stream hserver]
          simp
      · cases h
    · cases h
    · cases h
    · cases h
    · cases h

theorem write_sent {limit : Option Nat} {pause time took : Nat} {frames : Frames}
    {uptakes : List Uptake} (h : (write limit pause time frames uptakes).1 = .sent took) :
    (write limit pause time frames uptakes).2.1 = Connection.lines frames := by
  induction frames generalizing pause time uptakes with
  | nil => rfl
  | cons frame rest ih =>
      simp only [write] at h ⊢
      split at h
      · rename_i inTime
        rw [if_pos inTime]
        cases hsending : (uptakes.headD .atOnce).sending .io limit (time + pause) with
        | sent time =>
            rw [hsending] at h
            exact congrArg (Connection.line frame ++ ·) (ih h)
        | failed fault =>
            rw [hsending] at h
            cases h
        | dropped =>
            rw [hsending] at h
            cases h
      · cases h

theorem sendOn_eq {server : StreamServer} (frames : Frames) (limit : Option Nat) (place : Nat)
    (hserver : net.server? link.endpoint.port = some (.stream server)) :
    sendOn frames limit place link net =
      let (sending, arrived, uptakes) := write limit 0 0 frames server.uptakes
      (sending, { link with connection := sending.putBack place },
        net.setServer link.endpoint.port
          (.stream ({ server with uptakes }.take place ⟨frames, arrived⟩))) := by
  rw [sendOn, stream?_eq_some.mpr hserver]

theorem sendOn_sends {server : StreamServer} (frames : Frames) (limit : Option Nat)
    (link : StreamLink) (hserver : net.server? link.endpoint.port = some (.stream server))
    (bound : place < server.connections.length)
    (fresh : carried link.endpoint place net = []) :
    Link.Sends (.stream link) frames net (sendOn frames limit place link net).1
      (.stream (sendOn frames limit place link net).2.1)
      (sendOn frames limit place link net).2.2 := by
  rw [sendOn_eq frames limit place hserver]
  cases hwrite : write limit 0 0 frames server.uptakes with
  | mk sending rest =>
      obtain ⟨arrived, uptakes⟩ := rest
      have writes := writesAt_connection uptakes hserver bound fresh ⟨frames, arrived⟩
      refine ⟨rfl, ?_⟩
      cases sending with
      | sent took =>
          have whole := write_sent (congrArg Prod.fst hwrite)
          rw [hwrite] at whole
          obtain rfl : arrived = Connection.lines frames := whole
          refine ⟨place, writes, ?_⟩
          rw [carried_stream hserver, List.getElem?_eq_getElem bound] at fresh
          have unused : server.connections[place].portions = [] := List.map_eq_nil_iff.mp fresh
          refine ⟨_, ⟨server.connections[place].item, [⟨frames, Connection.lines frames⟩]⟩,
            server?_setServer hserver, rfl, ?_, rfl⟩
          simp [StreamServer.take, List.getElem?_eq_getElem bound, unused]
      | failed fault => exact .inr ⟨place, _, writes⟩
      | dropped => exact ⟨rfl, .inr ⟨place, _, writes⟩⟩

theorem send_sends (frames : Frames) (limit : Option Nat)
    (ready : (Link.stream link).Ready net) :
    Link.Sends (.stream link) frames net (link.send frames limit net).1
      (.stream (link.send frames limit net).2.1) (link.send frames limit net).2.2 := by
  unfold send
  cases frames with
  | nil => exact ⟨rfl, .inl (.refl _ _)⟩
  | cons frame rest =>
      dsimp only
      cases hconnection : link.connection with
      | some place =>
          obtain ⟨server, hserver, bound, fresh⟩ := ready place hconnection
          exact sendOn_sends _ limit link hserver bound fresh
      | none =>
          dsimp only
          cases hattempt : attempt link.endpoint net with
          | success place net' =>
              obtain ⟨unwritten, server, hserver, bound, fresh⟩ := attempt_success hattempt
              exact (sendOn_sends _ limit link hserver bound fresh).of_unwritten unwritten
          | failure message => exact ⟨rfl, .inl (.refl _ _)⟩
          | waiting =>
              dsimp only
              split
              · exact ⟨rfl, .inl (.refl _ _)⟩
              · exact ⟨rfl, hconnection, .inl (.refl _ _)⟩

theorem item?_eq {server : StreamServer} (place : Nat)
    (hserver : net.server? link.endpoint.port = some (.stream server)) :
    link.item? place net = server.connections[place]?.map (·.item) := by
  rw [item?, stream?_eq_some.mpr hserver]
  cases hconnection : server.connections[place]? with
  | none => simp [hconnection]
  | some connection => simp [hconnection]

theorem receive_receives (limit : Nat) (link : StreamLink) (net : Network) :
    Link.Receives (.stream link) net (receive limit link net).1
      (.stream (receive limit link net).2.1) (receive limit link net).2.2 := by
  cases hplace : link.connection with
  | none =>
      simp only [receive, hplace]
      refine ⟨rfl, rfl, hplace, nofun, ?_⟩
      rintro place request ⟨server, connection, _, hconnection, _⟩
      rw [hplace] at hconnection
      cases hconnection
  | some place =>
      simp only [receive, hplace]
      have lost : (Link.stream { link with connection := none }).IsLost := rfl
      refine ⟨rfl, rfl, lost.isIdle, ?_, ?_⟩
      · intro idle
        rw [show link.connection = none from idle] at hplace
        cases hplace
      · rintro place' request ⟨server, connection, hserver, hplace', hconnection, _⟩ reply hreply
        obtain rfl : place = place' := Option.some.inj (hplace.symm.trans hplace')
        rw [item?_eq place hserver, hconnection] at hreply
        exact ⟨⟨server, connection, limit, hserver, hconnection, hreply⟩, lost.ready net⟩

end StreamLink

/-! ## Both kinds -/

namespace Link

section

variable {frames : Frames} {limit : Option Nat} {time : Nat} {sending : Sending}
  {receiving : Receiving} {net net' : Network}

theorem send_queue {link link' : QueueLink} (h : link.send frames limit net = (sending, link', net')) :
    Channel.send frames limit (Link.queue link) net = (sending, Link.queue link', net') := by
  change send frames limit (.queue link) net = _
  rw [send, h]

theorem send_stream {link link' : StreamLink}
    (h : link.send frames limit net = (sending, link', net')) :
    Channel.send frames limit (Link.stream link) net = (sending, Link.stream link', net') := by
  change send frames limit (.stream link) net = _
  rw [send, h]

theorem receive_queue {link link' : QueueLink}
    (h : link.receive time net = (receiving, link', net')) :
    Channel.receive time (Link.queue link) net = (receiving, Link.queue link', net') := by
  change receive time (.queue link) net = _
  rw [receive, h]

theorem receive_stream {link link' : StreamLink}
    (h : link.receive time net = (receiving, link', net')) :
    Channel.receive time (Link.stream link) net = (receiving, Link.stream link', net') := by
  change receive time (.stream link) net = _
  rw [receive, h]

end

theorem send_sends {link : Link} {net : Network} (ready : link.Ready net) (frames : Frames)
    (limit : Option Nat) :
    link.Sends frames net (send frames limit link net).1 (send frames limit link net).2.1
      (send frames limit link net).2.2 := by
  cases link with
  | queue link => exact QueueLink.send_sends frames limit ready
  | stream link => exact StreamLink.send_sends frames limit ready

theorem receive_receives (limit : Nat) (link : Link) (net : Network) :
    link.Receives net (receive limit link net).1 (receive limit link net).2.1
      (receive limit link net).2.2 := by
  cases link with
  | queue link => exact QueueLink.receive_receives limit link net
  | stream link => exact StreamLink.receive_receives limit link net

theorem reset_lost (link : Link) (net : Network) :
    (reset link net).2.2 = net ∧ (reset link net).2.1.endpoint = link.endpoint ∧
      (reset link net).2.1.IsLost := by
  cases link <;> exact ⟨rfl, rfl, rfl⟩

theorem connect_ready {endpoint : Endpoint} {deadline : Nat} {net net' : Network} {link : Link}
    (h : connect endpoint deadline net = (.ok link, net')) :
    link.endpoint = endpoint ∧ link.Ready net' ∧ Unwritten endpoint net net' := by
  unfold connect at h
  cases hwire : endpoint.wire with
  | queue =>
      simp only [hwire, QueueLink.connect] at h
      cases hattempt : QueueSocket.attempt endpoint net with
      | success socket net'' =>
          obtain ⟨ready, unwritten⟩ := QueueSocket.attempt_success hattempt
          rw [hattempt] at h
          cases h
          refine ⟨rfl, ?_, unwritten⟩
          intro other member
          cases member
          exact ready
      | failure message =>
          rw [hattempt] at h
          cases h
      | waiting =>
          rw [hattempt] at h
          cases h
  | stream =>
      simp only [hwire, StreamLink.connect] at h
      cases hattempt : StreamLink.attempt endpoint net with
      | success place net'' =>
          obtain ⟨unwritten, server, hserver, bound, fresh⟩ :=
            StreamLink.attempt_success hattempt
          rw [hattempt] at h
          cases h
          refine ⟨rfl, ?_, unwritten⟩
          intro other member
          cases member
          exact ⟨server, hserver, bound, fresh⟩
      | failure message =>
          rw [hattempt] at h
          cases h
      | waiting =>
          rw [hattempt] at h
          cases h

end Link

end MuxConsole.Network
