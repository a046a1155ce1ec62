import MuxConsole.Network.Link

/-!
# Places in the record of a server

A request is written somewhere: on a queue it takes place in an exchange of its
own, on a stream on a connection.  Both are called places here and go by their
number in the record of the server.  A link that is used as a session uses it
writes each request, or what it gets to write of it, to a place where nothing has been
written before.
-/

namespace MuxConsole.Network

/-! ## Writes -/

namespace Uptake

variable {fault : String → Fault} {limit : Option Nat} {start : Nat} {uptake : Uptake}

theorem sending_none (fault : String → Fault) (start : Nat) (smooth : uptake.problem = none) :
    uptake.sending fault none start = .sent (start + uptake.after) := by
  rw [sending, if_pos nofun, smooth]

theorem sending_ne_dropped (fault : String → Fault) (start : Nat) (uptake : Uptake) :
    uptake.sending fault none start ≠ .dropped := by
  rw [sending, if_pos nofun]
  cases uptake.problem <;> nofun

theorem problem_of_failed {found : Fault}
    (h : uptake.sending fault limit start = .failed found) :
    ∃ message, uptake.problem = some message ∧ found = fault message := by
  unfold sending at h
  split at h
  · cases hproblem : uptake.problem with
    | none =>
        rw [hproblem] at h
        cases h
    | some message =>
        rw [hproblem] at h
        cases h
        exact ⟨message, rfl, rfl⟩
  · cases h

end Uptake

/-! ## Records -/

/-- The requests that the server of the endpoint has got at a place, in part at least. -/
def carried (endpoint : Endpoint) (place : Nat) (net : Network) : List Frames :=
  match net.server? endpoint.port with
  | some (.queue server) => (server.exchanges[place]?.map (·.request)).toList
  | some (.stream server) =>
      (server.connections[place]?.map fun connection =>
        connection.portions.map (·.request)).getD []
  | _ => []

/-- One request is written, at a place where nothing was. -/
structure WritesAt (endpoint : Endpoint) (place : Nat) (request : Frames)
    (net net' : Network) : Prop where
  before : carried endpoint place net = []
  after : carried endpoint place net' = [request]
  frame : ∀ other, other ≠ place → carried endpoint other net' = carried endpoint other net

def Unwritten (endpoint : Endpoint) (net net' : Network) : Prop :=
  ∀ place, carried endpoint place net' = carried endpoint place net

variable {endpoint : Endpoint} {net net' : Network} {place : Nat} {request : Frames}

theorem Unwritten.refl (endpoint : Endpoint) (net : Network) : Unwritten endpoint net net :=
  fun _ => rfl

/-- At most one request is written, where nothing was. -/
def Progress (endpoint : Endpoint) (net net' : Network) : Prop :=
  Unwritten endpoint net net' ∨ ∃ place request, WritesAt endpoint place request net net'

theorem Unwritten.trans {first : Network} (h : Unwritten endpoint first net)
    (h' : Unwritten endpoint net net') : Unwritten endpoint first net' :=
  fun place => (h' place).trans (h place)

theorem WritesAt.of_unwritten {first : Network} (h : Unwritten endpoint first net)
    (writes : WritesAt endpoint place request net net') :
    WritesAt endpoint place request first net' where
  before := (h place).symm.trans writes.before
  after := writes.after
  frame other different := (writes.frame other different).trans (h other)

theorem Progress.of_unwritten {first : Network} (h : Unwritten endpoint first net)
    (progress : Progress endpoint net net') : Progress endpoint first net' := by
  obtain unwritten | ⟨place, request, writes⟩ := progress
  · exact .inl (h.trans unwritten)
  · exact .inr ⟨place, request, writes.of_unwritten h⟩

/-! ## Servers -/

theorem server?_setServer {number : UInt16} {old new : Server}
    (h : net.server? number = some old) : (net.setServer number new).server? number = some new := by
  obtain ⟨online, servers⟩ := net
  simp only [server?, setServer] at h ⊢
  induction servers with
  | nil => simp at h
  | cons entry rest ih =>
      by_cases here : entry.1 = number
      · simp [here]
      · simp only [List.find?_cons, here, decide_false, List.map_cons, if_false] at h ⊢
        exact ih h

theorem queue?_eq_some {number : UInt16} {server : QueueServer} :
    net.queue? number = some server ↔ net.server? number = some (.queue server) := by
  unfold queue?
  split <;> simp_all

theorem stream?_eq_some {number : UInt16} {server : StreamServer} :
    net.stream? number = some server ↔ net.server? number = some (.stream server) := by
  unfold stream?
  split <;> simp_all

theorem carried_queue {server : QueueServer} (h : net.server? endpoint.port = some (.queue server))
    (place : Nat) :
    carried endpoint place net = (server.exchanges[place]?.map (·.request)).toList := by
  rw [carried, h]

theorem carried_stream {server : StreamServer}
    (h : net.server? endpoint.port = some (.stream server)) (place : Nat) :
    carried endpoint place net = (server.connections[place]?.map fun connection =>
      connection.portions.map (·.request)).getD [] := by
  rw [carried, h]

theorem unwritten_uptakes {server : QueueServer} (uptakes : List Uptake)
    (h : net.server? endpoint.port = some (.queue server)) :
    Unwritten endpoint net (net.setServer endpoint.port (.queue { server with uptakes })) := by
  intro place
  rw [carried_queue h, carried_queue (server?_setServer h)]

theorem writesAt_exchange {server : QueueServer} (uptakes : List Uptake) (socket : Nat)
    (h : net.server? endpoint.port = some (.queue server)) (request : Frames) :
    WritesAt endpoint server.exchanges.length request net
      (net.setServer endpoint.port (.queue ({ server with uptakes }.take socket request))) where
  before := by
    rw [carried_queue h]
    simp
  after := by
    rw [carried_queue (server?_setServer h)]
    simp [QueueServer.take]
  frame := by
    intro other different
    rw [carried_queue h, carried_queue (server?_setServer h)]
    rcases Nat.lt_or_gt_of_ne different with less | greater
    · simp [QueueServer.take, List.getElem?_append_left less]
    · rw [List.getElem?_eq_none (by simp [QueueServer.take]; omega),
        List.getElem?_eq_none (by omega)]

theorem unwritten_accept {server : StreamServer}
    (h : net.server? endpoint.port = some (.stream server)) :
    Unwritten endpoint net (net.setServer endpoint.port (.stream server.accept)) := by
  intro place
  rw [carried_stream h, carried_stream (server?_setServer h)]
  rcases Nat.lt_trichotomy place server.connections.length with less | same | greater
  · simp [StreamServer.accept, List.getElem?_append_left less]
  · simp [StreamServer.accept, same]
  · rw [List.getElem?_eq_none (by simp [StreamServer.accept]; omega),
      List.getElem?_eq_none (by omega)]

theorem writesAt_connection {server : StreamServer} (uptakes : List Uptake)
    (h : net.server? endpoint.port = some (.stream server))
    (bound : place < server.connections.length) (fresh : carried endpoint place net = [])
    (portion : Portion) :
    WritesAt endpoint place portion.request net
      (net.setServer endpoint.port (.stream ({ server with uptakes }.take place portion))) where
  before := fresh
  after := by
    rw [carried_stream h] at fresh
    rw [carried_stream (server?_setServer h)]
    simp only [StreamServer.take, List.getElem?_modify_eq, List.getElem?_eq_getElem bound] at fresh ⊢
    simpa using fresh
  frame := by
    intro other different
    rw [carried_stream h, carried_stream (server?_setServer h)]
    simp [StreamServer.take, different.symm]

end MuxConsole.Network
