import MuxConsole.Proofs.Config.Tree
import MuxConsole.Proofs.Json.Unambiguous
import MuxConsole.Proofs.Network.Pairing
import MuxConsole.Proofs.Session.Replies

/-!
# Requests on a stream

A stream server reads by lines.  Frames without a newline arrive as one line each, so the
server can tell them apart again.  A tree is written on a line of its own whatever is in
it, so a session writes it as two lines: the command, and a text of the tree.
-/

namespace MuxConsole.Network

variable {endpoint : Endpoint} {place : Nat} {net net' : Network} {frames : Frames}

/-! ## Lines -/

def lined (frames : Frames) : Bytes := frames.flatMap (· ++ [Ascii.newline])

def AreLines (frames : Frames) : Prop := ∀ frame ∈ frames, Ascii.newline ∉ frame

theorem line_eq {frame : Bytes} (h : Ascii.newline ∉ frame) :
    Connection.line frame = frame ++ [Ascii.newline] :=
  if_neg fun last => h (List.mem_of_getLast? last)

theorem lined_eq_intercalate (frames : Frames) :
    lined frames = [Ascii.newline].intercalate (frames ++ [[]]) := by
  induction frames with
  | nil => rfl
  | cons frame rest ih =>
      rw [List.cons_append, List.intercalate_cons_of_ne_nil (by simp), ← ih]
      rfl

theorem splitOn_lined (h : AreLines frames) :
    (lined frames).splitOn Ascii.newline = frames ++ [[]] := by
  rw [lined_eq_intercalate, List.splitOn_intercalate]
  · exact List.forall_mem_append.mpr ⟨h, List.forall_mem_singleton.mpr List.not_mem_nil⟩
  · exact List.append_ne_nil_of_right_ne_nil _ (List.cons_ne_nil _ _)

/-! ## What a server has got -/

def received (endpoint : Endpoint) (place : Nat) (net : Network) : Bytes :=
  match net.server? endpoint.port with
  | some (.stream server) => (server.connections[place]?.map Connection.received).getD []
  | _ => []

/-- Some bytes more have been written on one connection, and none on any other. -/
structure Adds (endpoint : Endpoint) (place : Nat) (bytes : Bytes) (net net' : Network) :
    Prop where
  here : received endpoint place net' = received endpoint place net ++ bytes
  apart : ∀ other, other ≠ place → received endpoint other net' = received endpoint other net

theorem received_stream {server : StreamServer}
    (h : net.server? endpoint.port = some (.stream server)) (place : Nat) :
    received endpoint place net =
      (server.connections[place]?.map Connection.received).getD [] := by
  rw [received, h]

theorem received_eq_nil {server : StreamServer}
    (h : net.server? endpoint.port = some (.stream server))
    (fresh : carried endpoint place net = []) : received endpoint place net = [] := by
  rw [carried_stream h] at fresh
  rw [received_stream h]
  cases hconnection : server.connections[place]? with
  | none => rfl
  | some connection =>
      rw [hconnection] at fresh
      have none : connection.portions = [] := List.map_eq_nil_iff.mp fresh
      simp [Connection.received, none]

theorem adds_take {server : StreamServer} (uptakes : List Uptake)
    (h : net.server? endpoint.port = some (.stream server))
    (bound : place < server.connections.length) (portion : Portion) :
    Adds endpoint place portion.arrived net
      (net.setServer endpoint.port (.stream ({ server with uptakes }.take place portion))) where
  here := by
    rw [received_stream h, received_stream (server?_setServer h)]
    simp [StreamServer.take, Connection.received, List.getElem?_eq_getElem bound]
  apart := by
    intro other different
    rw [received_stream h, received_stream (server?_setServer h)]
    simp [StreamServer.take, different.symm]

theorem received_accept {server : StreamServer}
    (h : net.server? endpoint.port = some (.stream server)) (place : Nat) :
    received endpoint place (net.setServer endpoint.port (.stream server.accept)) =
      received endpoint place net := by
  rw [received_stream h, received_stream (server?_setServer h)]
  rcases Nat.lt_trichotomy place server.connections.length with less | same | greater
  · simp [StreamServer.accept, List.getElem?_append_left less]
  · simp [StreamServer.accept, same, Connection.received]
  · rw [List.getElem?_eq_none (by simp [StreamServer.accept]; omega),
      List.getElem?_eq_none (by omega)]

/-! ## Writing -/

def uptakes (endpoint : Endpoint) (net : Network) : List Uptake :=
  match net.stream? endpoint.port with
  | some server => server.uptakes
  | none => []

def Unfailing (endpoint : Endpoint) (net : Network) : Prop :=
  ∀ uptake ∈ uptakes endpoint net, uptake.problem = none

/-- Some whole lines, and of the line after them no more than the server takes in of a write
that does not come to its end. -/
def IsCut (frames : Frames) (uptakes : List Uptake) (bytes : Bytes) : Prop :=
  ∃ count part, bytes = lined (frames.take count) ++ part ∧
    part <+: lined (frames.drop count) ∧
    (part = [] ∨ ∃ uptake ∈ uptakes, part.length ≤ uptake.arrives)

/-- What has reached the server when writing the frames has ended in this way. -/
def Wrote (frames : Frames) (uptakes : List Uptake) (bytes : Bytes) : Sending → Prop
  | .sent _ => bytes = lined frames
  | .dropped => IsCut frames uptakes bytes
  | .failed fault => IsCut frames uptakes bytes ∧
      ∃ uptake ∈ uptakes, ∃ message, uptake.problem = some message ∧ fault = .io message

theorem uptakes_stream {server : StreamServer}
    (h : net.server? endpoint.port = some (.stream server)) :
    uptakes endpoint net = server.uptakes := by
  rw [uptakes, stream?_eq_some.mpr h]

theorem IsCut.nil (frames : Frames) (uptakes : List Uptake) : IsCut frames uptakes [] :=
  ⟨0, [], rfl, List.nil_prefix, .inl rfl⟩

theorem Wrote.cons {frame bytes : Bytes} {uptakes : List Uptake} {sending : Sending}
    (isLine : Ascii.newline ∉ frame) (h : Wrote frames uptakes.tail bytes sending) :
    Wrote (frame :: frames) uptakes (Connection.line frame ++ bytes) sending := by
  rw [line_eq isLine]
  have cut (h : IsCut frames uptakes.tail bytes) :
      IsCut (frame :: frames) uptakes (frame ++ [Ascii.newline] ++ bytes) := by
    obtain ⟨count, part, rfl, isPrefix, short⟩ := h
    refine ⟨count + 1, part, by simp [lined], isPrefix, short.imp_right ?_⟩
    exact fun ⟨uptake, isUptake, short⟩ => ⟨uptake, List.mem_of_mem_tail isUptake, short⟩
  cases sending with
  | sent took => exact congrArg (frame ++ [Ascii.newline] ++ ·) h
  | dropped => exact cut h
  | failed fault =>
      obtain ⟨isCut, uptake, isUptake, failed⟩ := h
      exact ⟨cut isCut, uptake, List.mem_of_mem_tail isUptake, failed⟩

theorem isCut_take {frame : Bytes} (isLine : Ascii.newline ∉ frame) (rest : Frames)
    (uptakes : List Uptake) :
    IsCut (frame :: rest) uptakes
      ((Connection.line frame).take (uptakes.headD .atOnce).arrives) := by
  cases uptakes with
  | nil => exact .nil _ _
  | cons uptake uptakes =>
      refine ⟨0, _, rfl, ?_, .inr ⟨uptake, List.mem_cons_self, List.length_take_le _ _⟩⟩
      rw [line_eq isLine]
      exact (List.take_prefix _ _).trans (List.prefix_append _ _)

namespace StreamLink

variable {link : StreamLink}

theorem write_wrote (lines : AreLines frames) (limit : Option Nat) (pause time : Nat)
    (uptakes : List Uptake) :
    Wrote frames uptakes (write limit pause time frames uptakes).2.1
      (write limit pause time frames uptakes).1 := by
  induction frames generalizing pause time uptakes with
  | nil => rfl
  | cons frame rest ih =>
      obtain ⟨isLine, lines⟩ := List.forall_mem_cons.mp lines
      have part := isCut_take isLine rest uptakes
      unfold write
      by_cases inTime : Within limit (time + pause)
      · rw [if_pos inTime]
        dsimp only
        cases hsending : (uptakes.headD .atOnce).sending .io limit (time + pause) with
        | sent time => exact (ih lines frameGap time uptakes.tail).cons isLine
        | dropped => exact part
        | failed fault =>
            obtain ⟨message, hmessage, rfl⟩ := Uptake.problem_of_failed hsending
            cases uptakes with
            | nil => cases hmessage
            | cons uptake uptakes =>
                exact ⟨part, uptake, List.mem_cons_self, message, hmessage, rfl⟩
      · rw [if_neg inTime]
        exact .nil _ _

theorem write_none (frames : Frames) (pause time : Nat) (uptakes : List Uptake) :
    (write none pause time frames uptakes).1 ≠ .dropped := by
  induction frames generalizing pause time uptakes with
  | nil => rintro ⟨⟩
  | cons frame rest ih =>
      have inTime : Within none (time + pause) := nofun
      unfold write
      rw [if_pos inTime]
      dsimp only
      cases hsending : (uptakes.headD .atOnce).sending .io none (time + pause) with
      | sent time => exact ih frameGap time uptakes.tail
      | failed fault => rintro ⟨⟩
      | dropped => exact absurd hsending (Uptake.sending_ne_dropped _ _ _)

/-! ## Sending -/

/-- The connection of the link, if it has one, is one of the stream server of its endpoint. -/
def Attached (net : Network) (link : StreamLink) : Prop :=
  ∀ place ∈ link.connection, ∃ server,
    net.server? link.endpoint.port = some (.stream server) ∧ place < server.connections.length

/-- There is a connection to send on, or one can be made. -/
def Opens (net : Network) (link : StreamLink) : Prop :=
  link.connection ≠ none ∨ ∃ place net', attempt link.endpoint net = .success place net'

/-- What sending frames on a connection of the link, or a new one, writes there: as much as
there is to show for how it ends.  The link keeps the connection if they have been sent. -/
def WritesOn (place : Nat) (frames : Frames) (net : Network) (link : StreamLink) :
    Sending × StreamLink × Network → Prop
  | (sending, link', net') => ∃ bytes, link'.connection = sending.putBack place ∧
      (link.connection = some place ∨
        link.connection = none ∧ received link.endpoint place net = []) ∧
      Wrote frames (uptakes link.endpoint net) bytes sending ∧
      Adds link.endpoint place bytes net net'

/-- What sending frames writes: nothing, which is not sending them, or what is written of them
on a connection. -/
def Writes (frames : Frames) (net : Network) (link : StreamLink)
    (result : Sending × StreamLink × Network) : Prop :=
  (result.2.2 = net ∧ ∀ took, result.1 ≠ .sent took) ∨
    ∃ place, link.WritesOn place frames net result

theorem sendOn_writes {first : Network} {server : StreamServer}
    (same : ∀ place, received link.endpoint place net = received link.endpoint place first)
    (sameUptakes : uptakes link.endpoint net = uptakes link.endpoint first)
    (h : net.server? link.endpoint.port = some (.stream server))
    (bound : place < server.connections.length)
    (fresh : link.connection = some place ∨
      link.connection = none ∧ received link.endpoint place first = [])
    (lines : AreLines frames) (limit : Option Nat) :
    link.WritesOn place frames first (sendOn frames limit place link net) := by
  rw [sendOn_eq frames limit place h]
  have adds := adds_take (write limit 0 0 frames server.uptakes).2.2 h bound
    ⟨frames, (write limit 0 0 frames server.uptakes).2.1⟩
  refine ⟨_, rfl, fresh, ?_, adds.here.trans (by rw [same]), ?_⟩
  · rw [← sameUptakes, uptakes_stream h]
    exact write_wrote lines limit 0 0 server.uptakes
  · exact fun other different => (adds.apart other different).trans (same other)

theorem sendOn_none {server : StreamServer} (frames : Frames) (place : Nat)
    (h : net.server? link.endpoint.port = some (.stream server)) :
    (sendOn frames none place link net).1 ≠ .dropped := by
  rw [sendOn_eq frames none place h]
  exact write_none frames 0 0 server.uptakes

theorem attempt_received (h : attempt link.endpoint net = .success place net') :
    (∀ place, received link.endpoint place net' = received link.endpoint place net) ∧
      uptakes link.endpoint net' = uptakes link.endpoint net ∧
      received link.endpoint place net = [] ∧ ∃ server,
        net'.server? link.endpoint.port = some (.stream server) ∧
          place < server.connections.length := by
  unfold attempt at h
  split at h
  · cases h
  · split at h
    · rename_i server hserver
      split at h
      · cases h
        refine ⟨received_accept hserver, ?_, ?_, server.accept, server?_setServer hserver, ?_⟩
        · rw [uptakes_stream hserver, uptakes_stream (server?_setServer hserver)]
          rfl
        · rw [received_stream hserver]
          simp
        · simp [StreamServer.accept]
      · cases h
    · cases h
    · cases h
    · cases h
    · cases h

/-- If there is anything to send on, frames are written on it, and never dropped without a
limit. -/
theorem send_writesOn (attached : link.Attached net) (opens : link.Opens net)
    (nonempty : frames ≠ []) (lines : AreLines frames) (limit : Option Nat) :
    (∃ place, link.WritesOn place frames net (link.send frames limit net)) ∧
      (limit = none → (link.send frames limit net).1 ≠ .dropped) := by
  obtain ⟨frame, rest, rfl⟩ := List.exists_cons_of_ne_nil nonempty
  unfold send
  dsimp only
  cases hconnection : link.connection with
  | some place =>
      obtain ⟨server, hserver, bound⟩ := attached place hconnection
      refine ⟨⟨place, ?_⟩, ?_⟩
      · exact sendOn_writes (fun _ => rfl) rfl hserver bound (.inl hconnection) lines limit
      · rintro rfl
        exact sendOn_none _ place hserver
  | none =>
      obtain ⟨place, opened, hattempt⟩ := opens.resolve_left (· hconnection)
      obtain ⟨same, sameUptakes, fresh, server, hserver, bound⟩ := attempt_received hattempt
      simp only [hattempt]
      refine ⟨⟨place, ?_⟩, ?_⟩
      · exact sendOn_writes same sameUptakes hserver bound (.inr ⟨hconnection, fresh⟩) lines limit
      · rintro rfl
        exact sendOn_none _ place hserver

theorem send_unopened (unopened : ¬ link.Opens net) (frames : Frames) (limit : Option Nat) :
    (∃ fault, link.send frames limit net = (.failed fault, link, net)) ∨
      limit ≠ none ∧ link.send frames limit net = (.dropped, link, net) := by
  obtain ⟨noConnection, noAttempt⟩ := not_or.mp unopened
  have hconnection := not_not.mp noConnection
  cases frames with
  | nil => exact .inl ⟨_, rfl⟩
  | cons frame rest =>
      cases hattempt : attempt link.endpoint net with
      | success place net' => exact absurd ⟨place, net', hattempt⟩ noAttempt
      | failure message =>
          exact .inl ⟨.connect link.endpoint.display message, by
            simp only [send, hconnection, hattempt]⟩
      | waiting =>
          by_cases inTime : Within limit link.deadline
          · exact .inl ⟨deadlineFault link.endpoint link.deadline, by
              simp only [send, hconnection, hattempt, if_pos inTime]⟩
          · refine .inr ⟨?_, by simp only [send, hconnection, hattempt, if_neg inTime]⟩
            rintro rfl
            exact inTime nofun

theorem send_writes (attached : link.Attached net) (nonempty : frames ≠ [])
    (lines : AreLines frames) (limit : Option Nat) :
    link.Writes frames net (link.send frames limit net) := by
  by_cases opens : link.Opens net
  · exact .inr (send_writesOn attached opens nonempty lines limit).1
  · obtain ⟨fault, hsend⟩ | ⟨_, hsend⟩ := send_unopened opens frames limit
    all_goals
      rw [hsend]
      exact .inl ⟨rfl, nofun⟩

theorem send_opens (attached : link.Attached net) (opens : link.Opens net)
    (unfailing : Unfailing link.endpoint net) (nonempty : frames ≠ []) (lines : AreLines frames) :
    ∃ took, (link.send frames none net).1 = .sent took := by
  obtain ⟨⟨place, writes⟩, undropped⟩ := send_writesOn attached opens nonempty lines none
  cases hsend : link.send frames none net with
  | mk sending rest =>
      obtain ⟨link', net'⟩ := rest
      rw [hsend] at writes undropped
      obtain ⟨bytes, _, _, wrote, _⟩ := writes
      cases sending with
      | sent took => exact ⟨took, rfl⟩
      | dropped => exact absurd rfl (undropped rfl)
      | failed fault =>
          obtain ⟨_, uptake, isUptake, message, hmessage, _⟩ := wrote
          rw [unfailing uptake isUptake] at hmessage
          cases hmessage

end StreamLink

/-! ## Sessions -/

section

open Act Session

variable {s : Session Network Link} {link : Link}

theorem peer_receiveWithin (limit : Nat) (s : Session Network Link) :
    ((receiveWithin limit).run s).2.peer = s.peer := by
  by_cases usable : s.isUsable = true
  · cases pending : s.pending with
    | none => rw [run_receiveWithin_idle usable pending]
    | some command =>
        cases hlink : s.link with
        | none => rw [run_receiveWithin_unlinked usable pending hlink]
        | some link =>
            rw [run_receiveWithin usable pending hlink]
            exact (Link.receive_receives limit link s.peer).same
  · obtain ⟨reason, dead⟩ := exists_obstacle usable
    rw [run_receiveWithin_dead dead]

theorem peer_poll (timeout : Nat) (s : Session Network Link) :
    ((poll timeout).run s).2.peer = s.peer := by
  have received := peer_receiveWithin timeout s
  refine bind_induction (P := fun after => after.2.peer = s.peer) ?_ ?_
  · intro result t hreceive
    rw [hreceive] at received
    cases result with
    | some reply => exact received
    | none =>
        obtain ⟨command, link, _, pending, hlink⟩ := receiveWithin_ok_none hreceive
        have given : ((giveUp timeout).run t).2.peer = t.peer := by
          rw [run_giveUp pending hlink]
          exact (Link.reset_lost link t.peer).1
        refine bind_induction (P := fun after => after.2.peer = s.peer) ?_ ?_
        · intro _ u hgiveUp
          rw [hgiveUp] at given
          exact given.trans received
        · intro fault u hgiveUp
          rw [hgiveUp] at given
          exact given.trans received
  · intro fault t hreceive
    rw [hreceive] at received
    exact received

theorem run_send_link (usable : s.isUsable = true) (idle : s.pending = none)
    (hlink : s.link = some link) (frames : Frames) :
    (Session.send frames).run s =
      ((s.sendOn frames none link).1.toExcept.map fun _ => (), (s.sendOn frames none link).2) := by
  rw [Session.send, run_discard, run_sendWithin usable idle hlink]

theorem peer_execute (usable : s.isUsable = true) (idle : s.pending = none)
    (hlink : s.link = some link) (frames : Frames) (timeout : Nat) :
    ((execute frames timeout).run s).2.peer = (Link.send frames none link s.peer).2.2 := by
  have sent : ((Session.send frames).run s).2.peer = (Link.send frames none link s.peer).2.2 := by
    rw [run_send_link usable idle hlink]
    rfl
  refine bind_induction (P := fun after => after.2.peer = _) ?_ ?_
  · intro _ t hsend
    rw [hsend] at sent
    have polled := peer_poll timeout t
    refine bind_induction (P := fun after => after.2.peer = _) ?_ ?_
    · intro result u hpoll
      rw [hpoll] at polled
      cases result <;> exact polled.trans sent
    · intro fault u hpoll
      rw [hpoll] at polled
      exact polled.trans sent
  · intro fault t hsend
    rw [hsend] at sent
    exact sent

def setTree (tree : Config.Tree) : Frames := [Utf8.encode "setptree", tree.encode]

theorem areLines_setTree (tree : Config.Tree) : AreLines (setTree tree) := by
  refine List.forall_mem_cons.mpr ⟨by decide, List.forall_mem_singleton.mpr ?_⟩
  exact (Json.printable_rendered tree.toJson).newline_not_mem

theorem proper_of_decode {command : String} {frame : Bytes} {tree : Config.Tree}
    (h : Config.Tree.decode command frame = .ok tree) :
    Json.Proper tree.toJson ∧ ∀ name value, Json.Proper value →
      Json.Proper (tree.put name value).toJson := by
  unfold Config.Tree.decode Reply.json at h
  cases hparse : Json.parse frame with
  | error problem =>
      rw [hparse] at h
      cases h
  | ok j =>
      rw [hparse] at h
      obtain rfl := Config.Tree.ofJson_eq_ok.mp h
      have proper := Json.proper_of_parse hparse
      exact ⟨proper, fun name value => proper.put⟩

theorem step_writeTree_eq (tree : Config.Tree) (timeout : Nat) (s : Session Network Link) :
    (Operation.step (.writeTree tree timeout) s).1 =
        ((writeTree tree timeout).run s).1.map Outcome.written ∧
      (Operation.step (.writeTree tree timeout) s).2 = ((writeTree tree timeout).run s).2 := by
  have step := run_bind_pure (writeTree tree timeout) Outcome.written s
  exact ⟨congrArg Prod.fst step, congrArg Prod.snd step⟩

theorem peer_writeTree (verified : s.state = .verified) (idle : s.pending = none)
    (hlink : s.link = some link) (tree : Config.Tree) (timeout : Nat) :
    (Operation.step (.writeTree tree timeout) s).2.peer =
      (Link.send (setTree tree) none link s.peer).2.2 := by
  have usable : s.isUsable = true := isUsable_iff.mpr (.inr verified)
  have executed := peer_execute usable idle hlink (setTree tree) timeout
  rw [(step_writeTree_eq tree timeout s).2, writeTree, run_bind_ok (run_requireVerified verified)]
  refine bind_induction (P := fun after => after.2.peer = _) ?_ ?_
  · intro reply t hexecute
    rw [setTree, hexecute] at executed
    split <;> exact executed
  · intro fault t hexecute
    rw [setTree, hexecute] at executed
    exact executed

theorem step_writeTree_error {fault : Fault} {t : Session Network Link} {tree : Config.Tree}
    (verified : s.state = .verified) (timeout : Nat)
    (h : (execute (setTree tree) timeout).run s = (.error fault, t)) :
    Operation.step (.writeTree tree timeout) s = (.error fault, t) := by
  refine run_bind_error ?_
  rw [writeTree, run_bind_ok (run_requireVerified verified)]
  exact run_bind_error h

structure CanWrite (s : Session Network Link) : Prop where
  verified : s.state = .verified
  idle : s.pending = none
  opens : ∃ link, s.link = some (.stream link) ∧ link.Opens s.peer

theorem step_writeTree_refused (streams : ∀ link ∈ s.link, ∃ stream, link = .stream stream)
    (cannot : ¬ CanWrite s) (tree : Config.Tree) (timeout : Nat) :
    ∃ fault, (Operation.step (.writeTree tree timeout) s).1 = .error fault ∧
      (Operation.step (.writeTree tree timeout) s).2.peer = s.peer := by
  have barred {fault : Fault} (bars : s.Bars fault) :
      ∃ fault, (Operation.step (.writeTree tree timeout) s).1 = .error fault ∧
        (Operation.step (.writeTree tree timeout) s).2.peer = s.peer := by
    have step : Operation.step (.writeTree tree timeout) s = (.error fault, s) :=
      Operation.step_bars rfl bars
    exact ⟨fault, congrArg Prod.fst step, by rw [step]⟩
  by_cases verified : s.state = .verified
  · by_cases idle : s.pending = none
    · have usable : s.isUsable = true := isUsable_iff.mpr (.inr verified)
      cases hlink : s.link with
      | none =>
          have refused := run_sendWithin_unlinked usable idle hlink (setTree tree) none
          have step := step_writeTree_error verified timeout (run_execute_error timeout refused)
          exact ⟨_, congrArg Prod.fst step, by rw [step]⟩
      | some link =>
          obtain ⟨stream, rfl⟩ := streams link hlink
          have unopened : ¬ stream.Opens s.peer :=
            fun opens => cannot ⟨verified, idle, stream, hlink, opens⟩
          obtain ⟨fault, failed⟩ :=
            (stream.send_unopened unopened (setTree tree) none).resolve_right (·.1 rfl)
          have sent := run_send_link usable idle hlink (setTree tree)
          rw [sendOn_eq (Link.send_stream failed)] at sent
          have step := step_writeTree_error verified timeout (run_bind_error sent)
          exact ⟨fault, congrArg Prod.fst step, by rw [step]; rfl⟩
    · exact barred (bars_of_pending verified idle)
  · obtain ⟨fault, bars, _⟩ := bars_of_unverified verified
    exact barred bars

/-- A tree is written as a request of its own, on a connection that has not been used, and
an operation that does not get it written fails with what the write has failed with. -/
theorem step_writeTree_adds (ready : ∀ link ∈ s.link, link.Ready s.peer) (can : CanWrite s)
    (tree : Config.Tree) (timeout : Nat) :
    ∃ link ∈ s.link, ∃ place bytes, received link.endpoint place s.peer = [] ∧
      Adds link.endpoint place bytes s.peer
        (Operation.step (.writeTree tree timeout) s).2.peer ∧
      (bytes = lined (setTree tree) ∨
        IsCut (setTree tree) (uptakes link.endpoint s.peer) bytes ∧
          ∃ uptake ∈ uptakes link.endpoint s.peer, ∃ message, uptake.problem = some message ∧
            (Operation.step (.writeTree tree timeout) s).1 = .error (.io message)) := by
  obtain ⟨verified, idle, stream, hlink, opens⟩ := can
  have usable : s.isUsable = true := isUsable_iff.mpr (.inr verified)
  have unused := ready _ hlink
  have attached : stream.Attached s.peer := by
    intro place hplace
    obtain ⟨server, hserver, bound, _⟩ := unused place hplace
    exact ⟨server, hserver, bound⟩
  have nonempty : setTree tree ≠ [] := List.cons_ne_nil _ _
  obtain ⟨⟨place, writes⟩, undropped⟩ :=
    StreamLink.send_writesOn attached opens nonempty (areLines_setTree tree) none
  cases hsend : stream.send (setTree tree) none s.peer with
  | mk sending rest =>
      obtain ⟨link', net'⟩ := rest
      rw [hsend] at writes undropped
      obtain ⟨bytes, _, fresh, wrote, adds⟩ := writes
      rw [peer_writeTree verified idle hlink, Link.send, hsend]
      refine ⟨_, hlink, place, bytes, ?_, adds, ?_⟩
      · rcases fresh with hplace | ⟨_, none⟩
        · obtain ⟨server, hserver, _, fresh⟩ := unused place hplace
          exact received_eq_nil hserver fresh
        · exact none
      · cases sending with
        | sent took => exact .inl wrote
        | dropped => exact absurd rfl (undropped rfl)
        | failed fault =>
            obtain ⟨isCut, uptake, isUptake, message, hmessage, rfl⟩ := wrote
            have sent := run_send_link usable idle hlink (setTree tree)
            rw [sendOn_eq (Link.send_stream hsend)] at sent
            have step := step_writeTree_error verified timeout (run_bind_error sent)
            exact .inr ⟨isCut, uptake, isUptake, message, hmessage, congrArg Prod.fst step⟩

theorem streams_invariant : Session.Invariant fun (s : Session Network Link) _ =>
    ∀ link ∈ s.link, ∃ stream, link = .stream stream where
  event := by
    intro s events event streams _ makes
    cases makes with
    | send _ hlink =>
        obtain ⟨stream, rfl⟩ := streams _ hlink
        rintro _ ⟨⟩
        exact ⟨_, rfl⟩
    | receive _ hlink =>
        obtain ⟨stream, rfl⟩ := streams _ hlink
        rintro _ ⟨⟩
        exact ⟨_, rfl⟩
    | reset _ hlink =>
        obtain ⟨stream, rfl⟩ := streams _ hlink
        rintro _ ⟨⟩
        exact ⟨_, rfl⟩
  noting streams _ := streams
  verified streams _ _ := streams
  rejected streams := streams
  closed _ := nofun

theorem streams_connect {deadline : Nat} (wire : endpoint.wire = .stream)
    (h : Session.connect endpoint deadline net = .ok s) :
    ∀ link ∈ s.link, ∃ stream, link = .stream stream := by
  unfold Session.connect at h
  split at h
  · rename_i link net' hconnect
    cases h
    change Link.connect endpoint deadline net = _ at hconnect
    rw [Link.connect, wire] at hconnect
    obtain ⟨stream, _, rfl⟩ := Json.exists_of_map_ok (congrArg Prod.fst hconnect)
    rintro _ ⟨⟩
    exact ⟨stream, rfl⟩
  · cases h

/-- What a session at work on a stream writes of a tree: the two lines, unless a write fails
and the operation with it, or, if it may not write or has nothing to write on, nothing at all. -/
def WritesTree (endpoint : Endpoint) (tree : Config.Tree) (timeout : Nat)
    (s : Session Network Link) : Prop :=
  let after := Operation.step (.writeTree tree timeout) s
  (CanWrite s → ∃ place bytes, received endpoint place s.peer = [] ∧
    Adds endpoint place bytes s.peer after.2.peer ∧
    (bytes = lined (setTree tree) ∨ IsCut (setTree tree) (uptakes endpoint s.peer) bytes ∧
      ∃ uptake ∈ uptakes endpoint s.peer, ∃ message, uptake.problem = some message ∧
        after.1 = .error (.io message))) ∧
  (¬ CanWrite s → ∃ fault, after.1 = .error fault ∧ after.2.peer = s.peer)

theorem writesTree_of_connect {deadline : Nat} (wire : endpoint.wire = .stream)
    (h : Session.connect endpoint deadline net = .ok s) (operations : List Operation)
    (tree : Config.Tree) (timeout : Nat) :
    WritesTree endpoint tree timeout (Operation.run operations s).2 := by
  have streams := Operation.run_keeps streams_invariant operations (streams_connect wire h)
  have tidy := Operation.run_invariant (tidy_invariant endpoint net) operations (tidy_connect h)
  refine ⟨fun can => ?_, fun cannot => step_writeTree_refused streams cannot tree timeout⟩
  have usable : (Operation.run operations s).2.isUsable = true :=
    isUsable_iff.mpr (.inr can.verified)
  obtain ⟨link, hlink, written⟩ :=
    step_writeTree_adds (tidy.ready usable can.idle) can tree timeout
  rwa [tidy.target link hlink] at written

end

/-! ## Requests are unambiguous -/

/-- Frames without a newline are written on a stream as lines and can be told apart again.
A tree is written on a single line whatever is in it, so a session that gets it written
writes it as the two lines of the command and of a text that means the tree and nothing else;
and a tree that is not too deep and has whole numbers only is read from it by the program
itself.  Trees that have been read, edited or not, are among those that are meant. -/
theorem stream_requests_unambiguous :
    (∀ (link : StreamLink) (net : Network) (frames : Frames), link.Attached net → frames ≠ [] →
      AreLines frames →
        (∀ limit, link.Writes frames net (link.send frames limit net)) ∧
        (link.Opens net → Unfailing link.endpoint net →
          ∃ took, (link.send frames none net).1 = .sent took) ∧
        (lined frames).splitOn Ascii.newline = frames ++ [[]]) ∧
    (∀ tree : Config.Tree, (∀ b ∈ tree.encode, 0x20 ≤ b) ∧
      (lined (setTree tree)).splitOn Ascii.newline =
        [Utf8.encode "setptree", tree.encode, []]) ∧
    (∀ (endpoint : Endpoint) (deadline : Nat) (net : Network) (s : Session Network Link),
      endpoint.wire = .stream → Session.connect endpoint deadline net = .ok s →
        ∀ operations tree timeout,
          WritesTree endpoint tree timeout (Operation.run operations s).2) ∧
    (∀ tree : Config.Tree,
      (Json.Proper tree.toJson → ∀ j, Json.Means tree.encode j ↔ j = tree.toJson) ∧
      (tree.Portable → ∀ command, Config.Tree.decode command tree.encode = .ok tree)) ∧
    ∀ command frame tree, Config.Tree.decode command frame = .ok tree →
      Json.Proper tree.toJson ∧ ∀ name value, Json.Proper value →
        Json.Proper (tree.put name value).toJson := by
  refine ⟨?_, ?_, ?_, ?_, fun command frame tree => proper_of_decode⟩
  · intro link net frames attached nonempty lines
    exact ⟨StreamLink.send_writes attached nonempty lines, fun opens unfailing =>
      StreamLink.send_opens attached opens unfailing nonempty lines, splitOn_lined lines⟩
  · intro tree
    exact ⟨Json.printable_rendered tree.toJson, splitOn_lined (areLines_setTree tree)⟩
  · intro endpoint deadline net s wire connected operations tree timeout
    exact writesTree_of_connect wire connected operations tree timeout
  · intro tree
    refine ⟨fun proper j => ?_, Config.Tree.decode_encode⟩
    have means : Json.Means tree.encode tree.toJson := Json.means_rendered proper
    constructor
    · exact fun other => other.unique means
    · rintro rfl
      exact means

/-- After a ping a tree with line ends in its texts, and with a tenth, is written as two lines. -/
theorem tree_written_after_ping :
    let endpoint : Endpoint := .legacy "127.0.0.1"
    let pong : StreamItem := .atOnce (Utf8.encode "ok\n")
    let s : Session Network Link := .ofLink endpoint (.stream ⟨endpoint, 1000, some 0⟩)
      ⟨true, [(12720, .stream ⟨[], [], true, [⟨pong, []⟩]⟩)]⟩
    let verified := (Operation.run [.ping 5] s).2
    let tenth : Json := .number (.double ⟨0x3FB999999999999A⟩)
    let tree : Config.Tree := ⟨[("a\n", .list [.text "\n", tenth])]⟩
    let whole : Config.Tree := ⟨[("a\n", .list [.text "\n"])]⟩
    (∃ took, ((⟨endpoint, 1000, some 0⟩ : StreamLink).send [[97], [98]] none s.peer).1 =
        .sent took) ∧
      (∃ place, received endpoint place (Operation.step (.writeTree tree 5) verified).2.peer =
        lined [Utf8.encode "setptree", tree.encode]) ∧
      (∀ j, Json.Means tree.encode j ↔ j = tree.toJson) ∧
      Config.Tree.decode "getptree" whole.encode = .ok whole := by
  intro endpoint pong s verified tenth tree whole
  obtain ⟨links, _, sessions, trees, _⟩ := stream_requests_unambiguous
  have attached : (⟨endpoint, 1000, some 0⟩ : StreamLink).Attached s.peer := by
    rintro _ ⟨⟩
    exact ⟨_, rfl, by decide⟩
  have connected : Session.connect endpoint 1000
      ⟨true, [(12720, .stream (.ofScript [pong]))]⟩ = .ok s := rfl
  have can : CanWrite verified := ⟨rfl, rfl, _, rfl, .inr ⟨_, _, rfl⟩⟩
  have proper : Json.Proper tree.toJson :=
    .object (by decide) (List.forall_mem_singleton.mpr
      (.list (List.forall_mem_cons.mpr ⟨.text _, List.forall_mem_singleton.mpr
        (.double (by unfold Decimal.Double.IsFinite; decide))⟩)))
  have portable : whole.Portable :=
    ⟨.object (by decide) (List.forall_mem_singleton.mpr (.list (List.forall_mem_singleton.mpr
        (.text _)))),
      .object (List.forall_mem_singleton.mpr (.list (List.forall_mem_singleton.mpr (.text _))))⟩
  refine ⟨?_, ?_, (trees tree).1 proper, (trees whole).2 portable _⟩
  · exact (links _ s.peer [[97], [98]] attached (by decide)
      (by unfold AreLines; decide)).2.1 (.inl nofun) nofun
  · obtain ⟨place, bytes, fresh, adds, rfl | ⟨_, uptake, isUptake, _⟩⟩ :=
      (sessions endpoint 1000 _ s rfl connected [.ping 5] tree 5).1 can
    · refine ⟨place, adds.here.trans ?_⟩
      rw [fresh, List.nil_append]
      rfl
    · cases isUptake

end MuxConsole.Network
