import MuxConsole.Proofs.Network.Intake
import MuxConsole.Proofs.Network.Links
import MuxConsole.Proofs.Session.Questions

/-!
# The same answer on both wires

A question to a verified server comes back with the same over a stream as over a
queue, however the stream is cut.  There is one exception: when the answer on the
stream is empty, the welcome line is the only frame, and it is read in its place.
-/

namespace MuxConsole.Network

variable {net : Network} {frame : Bytes} {limit : Nat}

/-! ## One exchange -/

/-- The next request is written, without a failure, on a connection on which the server
does this. -/
def StreamLink.Reaches (item : StreamItem) (net : Network) (link : StreamLink) : Prop :=
  ∃ place net' server, (link.connection = some place ∧ net' = net ∨
      link.connection = none ∧ attempt link.endpoint net = .success place net') ∧
    net'.server? link.endpoint.port = some (.stream server) ∧
    server.connections[place]?.map (·.item) = some item ∧
    (server.uptakes.headD .atOnce).problem = none

theorem StreamLink.Reaches.exchange {item : StreamItem} {link : StreamLink}
    (reaches : link.Reaches item net) (frame : Bytes) (limit : Nat) :
    ∃ took link' net', link.send [frame] none net = (.sent took, link', net') ∧
      receive limit link' net' =
        (Intake.receive link.endpoint item.ends limit .start item.segments,
          { link' with connection := none }, net') := by
  obtain ⟨place, opened, server, hopen, hserver, hitem, smooth⟩ := reaches
  let server' := { server with uptakes := server.uptakes.tail }.take place
    ⟨[frame], Connection.line frame ++ []⟩
  let net' := opened.setServer link.endpoint.port (.stream server')
  let took := 0 + 0 + (server.uptakes.headD .atOnce).after
  have hwrite : write none 0 0 [frame] server.uptakes =
      (.sent took, Connection.line frame ++ [], server.uptakes.tail) := by
    have inTime : Within none (0 + 0) := nofun
    simp only [write, if_pos inTime, Uptake.sending_none _ _ smooth, took]
  have hsendOn := sendOn_eq [frame] none place hserver
  rw [hwrite] at hsendOn
  let link' : StreamLink := { link with connection := some place }
  have hsend : link.send [frame] none net = (.sent took, link', net') := by
    rcases hopen with ⟨hconnection, rfl⟩ | ⟨hconnection, hattempt⟩
    · simp only [send, hconnection]
      exact hsendOn
    · simp only [send, hconnection, hattempt]
      exact hsendOn
  refine ⟨_, _, _, hsend, ?_⟩
  have hserver' : net'.server? link'.endpoint.port = some (.stream server') :=
    server?_setServer hserver
  have hitem' : link'.item? place net' = some item := by
    rw [item?_eq place hserver']
    simpa [server', StreamServer.take, Function.comp_def] using hitem
  simp [receive, link', hitem']

def QueueLink.Reaches (item : QueueItem) (net : Network) (link : QueueLink) : Prop :=
  ∃ socket net' server, (link.socket = some socket ∧ net' = net ∨
      link.socket = none ∧ QueueSocket.attempt link.endpoint net = .success socket net') ∧
    socket.inProgress = false ∧ socket.unanswered = [] ∧ socket.hungUp = false ∧
    net'.server? link.endpoint.port = some (.queue server) ∧
    server.script.head? = some item ∧ (server.uptakes.headD .atOnce).problem = none

def QueueItem.Gives (reply : Frames) (limit : Nat) : QueueItem → Prop
  | .reply frames => frames = reply
  | .late delay frames => frames = reply ∧ delay ≤ limit
  | _ => False

theorem QueueLink.Reaches.exchange {item : QueueItem} {link : QueueLink} {reply : Frames}
    (reaches : link.Reaches item net) (gives : item.Gives reply limit) (frame : Bytes) :
    ∃ took link' link'' net', link.send [frame] none net = (.sent took, link', net') ∧
      receive limit link' net' = (.frames reply, link'', net') := by
  obtain ⟨socket, opened, server, hopen, idle, answered, up, hserver, hitem, smooth⟩ := reaches
  let server' := { server with uptakes := server.uptakes.tail }.take socket.number [frame]
  let socket' : QueueSocket := ⟨socket.number, true, [server.exchanges.length], false⟩
  let link' : QueueLink := { link with socket := some socket' }
  let net' := opened.setServer link.endpoint.port (.queue server')
  let took := 0 + (server.uptakes.headD .atOnce).after
  have hsendOn : sendOn [frame] none socket link opened = (.sent took, link', net') := by
    simp only [sendOn, QueueSocket.send, idle, answered, up, queue?_eq_some.mpr hserver,
      Uptake.sending_none _ _ smooth, Bool.false_eq_true, if_false]
    rfl
  have hsend : link.send [frame] none net = (.sent took, link', net') := by
    rcases hopen with ⟨hsocket, rfl⟩ | ⟨hsocket, hattempt⟩
    · simp only [send, hsocket]
      exact hsendOn
    · simp only [send, hsocket, hattempt]
      exact hsendOn
  have hanswer : link'.answer? server.exchanges.length net' = some item := by
    have hexchange : server'.exchanges[server.exchanges.length]? =
        some ⟨socket.number, [frame], item⟩ := by
      simp [server', QueueServer.take, List.headD_eq_head?_getD, hitem]
    exact answer?_eq (server?_setServer hserver) hexchange
  let idle' : QueueSocket := ⟨socket.number, false, [], false⟩
  refine ⟨_, link', { link' with socket := some idle' }, net', hsend, ?_⟩
  cases item with
  | reply frames =>
      obtain rfl : frames = reply := gives
      simp [receive, link', socket', idle', coming, hanswer]
  | late delay frames =>
      obtain ⟨rfl, inTime⟩ := gives
      simp [receive, link', socket', idle', coming, hanswer, inTime]
  | _ => cases gives

/-! ## Questions on both wires -/

/-- A verified session whose next question a stream server answers in time, with a
welcome line and then this answer. -/
structure AnsweredByStream (timeout : Nat) (line answer : Bytes) (s : Session Network Link) :
    Prop where
  verified : s.state = .verified
  idle : s.pending = none
  wire : s.endpoint.wire = .stream
  server : ∃ link item after, s.link = some (.stream link) ∧ link.Reaches item s.peer ∧
    item.ends = some after ∧ Segment.duration item.segments + after ≤ timeout ∧
    Segment.joined item.segments = line ++ Ascii.newline :: answer

structure AnsweredByQueue (timeout : Nat) (answer : Bytes) (s : Session Network Link) :
    Prop where
  verified : s.state = .verified
  idle : s.pending = none
  wire : s.endpoint.wire = .queue
  server : ∃ link item, s.link = some (.queue link) ∧ link.Reaches item s.peer ∧
    item.Gives [answer] timeout

variable {s t : Session Network Link} {timeout : Nat} {line answer : Bytes} {text : String}

theorem AnsweredByStream.step (h : AnsweredByStream timeout line answer s)
    (oneLine : Ascii.newline ∉ line)
    (valid : Utf8.decode (line ++ [Ascii.newline]) = .ok text) (question : Question) :
    (Operation.step (question.ask timeout) s).1 =
      question.decode (if answer = [] then Intake.welcomeFrame text else answer) := by
  obtain ⟨link, item, after, hlink, reaches, ends, inTime, joined⟩ := h.server
  obtain ⟨took, link', net', hsend, hreceive⟩ :=
    reaches.exchange (Utf8.encode question.command) timeout
  rw [ends, Intake.receive_frames link.endpoint oneLine valid joined inTime] at hreceive
  have usable : s.isUsable = true := Session.isUsable_iff.mpr (.inr h.verified)
  have hexecute := Session.run_execute usable h.idle hlink
    (Link.send_stream hsend) (Link.receive_stream hreceive)
  rw [Session.step_ask h.verified hexecute, h.wire]
  by_cases empty : answer = []
  · rw [Intake.frames, if_pos empty, if_pos empty]
    rfl
  · rw [Intake.frames, if_neg empty, if_neg empty]
    rfl

theorem AnsweredByQueue.step (h : AnsweredByQueue timeout answer t) (question : Question) :
    (Operation.step (question.ask timeout) t).1 = question.decode answer := by
  obtain ⟨link, item, hlink, reaches, gives⟩ := h.server
  obtain ⟨took, link', link'', net', hsend, hreceive⟩ :=
    reaches.exchange gives (Utf8.encode question.command)
  have usable : t.isUsable = true := Session.isUsable_iff.mpr (.inr h.verified)
  have hexecute := Session.run_execute usable h.idle hlink
    (Link.send_queue hsend) (Link.receive_queue hreceive)
  rw [Session.step_ask h.verified hexecute, h.wire]
  rfl

def streamSession (bytes : Bytes) : Session Network Link :=
  { Session.ofLink (.legacy loopback) (.stream ⟨.legacy loopback, 1000, none⟩)
      ⟨true, [(12720, .stream (.ofScript [.atOnce bytes]))]⟩ with state := .verified }

def queueSession (answer : Bytes) : Session Network Link :=
  { Session.ofLink (.stats loopback) (.queue ⟨.stats loopback, 1000, none⟩)
      ⟨true, [(12720, .queue (.ofScript [.reply [answer]]))]⟩ with state := .verified }

theorem answeredByStream (line answer : Bytes) :
    AnsweredByStream 1 line answer (streamSession (line ++ Ascii.newline :: answer)) where
  verified := rfl
  idle := rfl
  wire := rfl
  server := by
    refine ⟨_, .atOnce (line ++ Ascii.newline :: answer), 0, rfl, ?_, rfl, ?_, ?_⟩
    · exact ⟨_, _, _, .inr ⟨rfl, rfl⟩, rfl, rfl, rfl⟩
    · simp [StreamItem.atOnce, Segment.duration]
    · simp [StreamItem.atOnce, Segment.joined]

theorem answeredByQueue (answer : Bytes) :
    AnsweredByQueue 1 answer (queueSession answer) where
  verified := rfl
  idle := rfl
  wire := rfl
  server := by
    refine ⟨_, .reply [answer], rfl, ?_, rfl⟩
    exact ⟨_, _, _, .inr ⟨rfl, rfl⟩, rfl, rfl, rfl, rfl, rfl, rfl⟩

/-- The same value, or a malformed reply on both sides. -/
def Alike (left right : Except Fault Outcome) : Prop :=
  (∃ outcome, left = .ok outcome ∧ right = .ok outcome) ∨
    (∃ command defect, left = .error (.malformed command defect)) ∧
      ∃ command defect, right = .error (.malformed command defect)

/-- A question comes back alike over a stream and over a queue unless the answer is
empty and the welcome line can be read in its place. -/
theorem alike_on_both_wires_iff (question : Question)
    (stream : AnsweredByStream timeout line answer s) (oneLine : Ascii.newline ∉ line)
    (valid : Utf8.decode (line ++ [Ascii.newline]) = .ok text)
    (queue : AnsweredByQueue timeout answer t) :
    Alike (Operation.step (question.ask timeout) s).1
        (Operation.step (question.ask timeout) t).1 ↔
      (answer = [] → ∀ outcome,
        question.decode (Intake.welcomeFrame text) ≠ .ok outcome) := by
  rw [stream.step oneLine valid, queue.step]
  by_cases empty : answer = []
  · subst empty
    obtain ⟨fault, hempty⟩ := question.decode_nil
    rw [if_pos rfl, hempty]
    constructor
    · rintro (⟨outcome, _, hright⟩ | ⟨⟨command, defect, hleft⟩, _⟩) _ outcome' hread
      · cases hright
      · rw [hleft] at hread
        cases hread
    · intro unread
      -- Both sides fail now, and an answer that cannot be read is always malformed.
      obtain ⟨command, defect, rfl⟩ := question.decode_orMalformed [] fault hempty
      cases hread : question.decode (Intake.welcomeFrame text) with
      | ok outcome => exact absurd hread (unread rfl outcome)
      | error fault =>
          obtain ⟨command', defect', rfl⟩ := question.decode_orMalformed _ fault hread
          exact .inr ⟨⟨command', defect', rfl⟩, command, defect, rfl⟩
  · rw [if_neg empty]
    refine ⟨fun _ nothing => absurd nothing empty, fun _ => ?_⟩
    cases hread : question.decode answer with
    | ok outcome => exact .inl ⟨outcome, rfl, rfl⟩
    | error fault =>
        obtain ⟨command, defect, rfl⟩ := question.decode_orMalformed answer fault hread
        exact .inr ⟨⟨command, defect, rfl⟩, command, defect, rfl⟩

theorem alike_on_both_wires_empty_object :
    Alike (Operation.step (.readTree 1) (streamSession [123, 125, 10, 123, 125])).1
      (Operation.step (.readTree 1) (queueSession [123, 125])).1 := by
  have valid : Utf8.decode ([123, 125] ++ [Ascii.newline]) = .ok "\x7b\x7d\n" := rfl
  exact (alike_on_both_wires_iff .tree (answeredByStream [123, 125] [123, 125]) (by decide)
    valid (answeredByQueue [123, 125])).mpr nofun

/-- After the welcome line and nothing else, the tree is read from the welcome line,
while an empty frame on a queue is malformed. -/
theorem welcome_read_for_empty_answer :
    (∃ tree, (Operation.step (.readTree 1) (streamSession [123, 125, 10])).1 = .ok (.tree tree)) ∧
      ∃ defect, (Operation.step (.readTree 1) (queueSession [])).1 =
        .error (.malformed "getptree" defect) :=
  ⟨⟨_, rfl⟩, _, rfl⟩

end MuxConsole.Network
