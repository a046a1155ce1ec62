import MuxConsole.Proofs.Session.Parallel

/-!
# What a session does on its channel

A channel can be observed: the uses that are made of it are recorded, with both
of its ends before and after.  Observation changes nothing, so the record of a
run belongs to the run itself.  What is kept by every use of the channel holds
between the session and the record throughout a run.
-/

namespace MuxConsole

variable {ω σ : Type}

/-! ## Events -/

structure Event (ω σ : Type) where
  use : Use
  link : σ
  peer : ω
  linkAfter : σ
  peerAfter : ω

namespace Event

variable [Channel ω σ]

def send (frames : Frames) (limit : Option Nat) (link : σ) (peer : ω) : Event ω σ :=
  let (sending, linkAfter, peerAfter) := Channel.send frames limit link peer
  ⟨.send frames sending, link, peer, linkAfter, peerAfter⟩

def receive (limit : Nat) (link : σ) (peer : ω) : Event ω σ :=
  let (receiving, linkAfter, peerAfter) := Channel.receive limit link peer
  ⟨.receive receiving, link, peer, linkAfter, peerAfter⟩

def reset (link : σ) (peer : ω) : Event ω σ :=
  let (result, linkAfter, peerAfter) := Channel.reset link peer
  ⟨.reset result, link, peer, linkAfter, peerAfter⟩

theorem send_eq {frames : Frames} {limit : Option Nat} {link link' : σ} {peer peer' : ω}
    {sending : Sending} (h : Channel.send frames limit link peer = (sending, link', peer')) :
    send frames limit link peer = ⟨.send frames sending, link, peer, link', peer'⟩ := by
  rw [send, h]

theorem receive_eq {limit : Nat} {link link' : σ} {peer peer' : ω} {receiving : Receiving}
    (h : Channel.receive limit link peer = (receiving, link', peer')) :
    receive limit link peer = ⟨.receive receiving, link, peer, link', peer'⟩ := by
  rw [receive, h]

end Event

namespace Session

variable [Channel ω σ]

def follow (s : Session ω σ) (event : Event ω σ) : Session ω σ :=
  s.after event.use event.linkAfter event.peerAfter

/-- The events that a usable session may bring about next: it sends when nothing
is pending, and it receives or resets when something is. -/
inductive Makes (s : Session ω σ) : Event ω σ → Prop
  | send {link : σ} (idle : s.pending = none) (hlink : s.link = some link)
      (frames : Frames) (limit : Option Nat) :
      Makes s (.send frames limit link s.peer)
  | receive {link : σ} (pending : s.pending ≠ none) (hlink : s.link = some link)
      (limit : Nat) : Makes s (.receive limit link s.peer)
  | reset {link : σ} (pending : s.pending ≠ none) (hlink : s.link = some link) :
      Makes s (.reset link s.peer)

end Session

/-! ## Observed channels -/

structure Recorded (ω σ : Type) where
  peer : ω
  events : List (Event ω σ)

namespace Recorded

def add (recorded : Recorded ω σ) (event : Event ω σ) : Recorded ω σ :=
  ⟨event.peerAfter, recorded.events ++ [event]⟩

instance [Channel ω σ] : Channel (Recorded ω σ) σ where
  connect endpoint deadline recorded :=
    let (result, peer) := Channel.connect endpoint deadline recorded.peer
    (result, { recorded with peer })
  send frames limit link recorded :=
    let event := Event.send frames limit link recorded.peer
    ((Channel.send frames limit link recorded.peer).1, event.linkAfter, recorded.add event)
  receive limit link recorded :=
    let event := Event.receive limit link recorded.peer
    ((Channel.receive limit link recorded.peer).1, event.linkAfter, recorded.add event)
  reset link recorded :=
    let event := Event.reset link recorded.peer
    ((Channel.reset link recorded.peer).1, event.linkAfter, recorded.add event)

end Recorded

namespace Session

def recording (s : Session ω σ) (events : List (Event ω σ)) : Session (Recorded ω σ) σ where
  endpoint := s.endpoint
  link := s.link
  state := s.state
  pending := s.pending
  identity := s.identity
  peer := ⟨s.peer, events⟩
  log := s.log

def unobserved (t : Session (Recorded ω σ) σ) : Session ω σ where
  endpoint := t.endpoint
  link := t.link
  state := t.state
  pending := t.pending
  identity := t.identity
  peer := t.peer.peer
  log := t.log

theorem agree_recording (s : Session ω σ) (events : List (Event ω σ)) :
    Agree s (s.recording events) :=
  ⟨rfl, rfl, rfl, rfl, rfl⟩

variable [Channel ω σ]

theorem sendOn_recording (s : Session ω σ) (events : List (Event ω σ)) (frames : Frames)
    (limit : Option Nat) (link : σ) :
    (s.recording events).sendOn frames limit link =
      ((s.sendOn frames limit link).1, (s.follow (.send frames limit link s.peer)).recording
        (events ++ [.send frames limit link s.peer])) := rfl

theorem receiveOn_recording (s : Session ω σ) (events : List (Event ω σ)) (limit : Nat)
    (link : σ) :
    (s.recording events).receiveOn limit link =
      ((s.receiveOn limit link).1, (s.follow (.receive limit link s.peer)).recording
        (events ++ [.receive limit link s.peer])) := rfl

theorem resetOn_recording (s : Session ω σ) (events : List (Event ω σ)) (link : σ) :
    (s.recording events).resetOn link =
      ((s.resetOn link).1, (s.follow (.reset link s.peer)).recording
        (events ++ [.reset link s.peer])) := rfl

/-- What transactions keep between a session and the record of its events. -/
structure Kept (I : Session ω σ → List (Event ω σ) → Prop) : Prop where
  event {s events event} : I s events → s.isUsable = true → s.Makes event →
    I (s.follow event) (events ++ [event])
  noting {s events} : I s events → ∀ log, I (s.noting log) events

structure Invariant (I : Session ω σ → List (Event ω σ) → Prop) : Prop extends Kept I where
  verified {s events} : I s events → s.isUsable = true → ∀ identity,
    I (s.verifiedAs identity) events
  rejected {s events} : I s events → I s.rejected events
  closed {s events} : I s events → I s.closed events

variable {I : Session ω σ → List (Event ω σ) → Prop}

theorem Kept.parallel (h : Kept I) :
    Parallel fun s t => ∃ events, t = s.recording events ∧ I s events where
  agree := by
    rintro s _ ⟨events, rfl, _⟩
    exact s.agree_recording events
  noting := by
    rintro s _ ⟨events, rfl, holds⟩ log
    exact ⟨events, rfl, h.noting holds log⟩
  sendOn := by
    rintro s _ link link' ⟨events, rfl, holds⟩ usable idle hs ht frames limit
    obtain rfl : link = link' := Option.some.inj (hs.symm.trans ht)
    rw [sendOn_recording]
    exact ⟨rfl, _, rfl, h.event holds usable (.send idle hs frames limit)⟩
  receiveOn := by
    rintro s _ link link' ⟨events, rfl, holds⟩ usable pending hs ht limit
    obtain rfl : link = link' := Option.some.inj (hs.symm.trans ht)
    rw [receiveOn_recording]
    exact ⟨rfl, _, rfl, h.event holds usable (.receive pending hs limit)⟩
  resetOn := by
    rintro s _ link link' ⟨events, rfl, holds⟩ usable pending hs ht
    obtain rfl : link = link' := Option.some.inj (hs.symm.trans ht)
    rw [resetOn_recording]
    exact ⟨rfl, _, rfl, h.event holds usable (.reset pending hs)⟩

theorem Invariant.lockstep (h : Invariant I) :
    Lockstep fun s t => ∃ events, t = s.recording events ∧ I s events where
  toParallel := h.parallel
  verified := by
    rintro s _ ⟨events, rfl, holds⟩ usable identity
    exact ⟨events, rfl, h.verified holds usable identity⟩
  rejected := by
    rintro s _ ⟨events, rfl, holds⟩
    exact ⟨events, rfl, h.rejected holds⟩
  closed := by
    rintro s _ ⟨events, rfl, holds⟩
    exact ⟨events, rfl, h.closed holds⟩

theorem lockstep_earlier (earlier : List (Event ω σ)) :
    Lockstep fun t t' => ∃ (s : Session ω σ) (events : List (Event ω σ)),
      t = s.recording events ∧ t' = s.recording (earlier ++ events) where
  agree := by
    rintro _ _ ⟨s, events, rfl, rfl⟩
    exact ⟨rfl, rfl, rfl, rfl, rfl⟩
  noting := by
    rintro _ _ ⟨s, events, rfl, rfl⟩ log
    exact ⟨s.noting log, events, rfl, rfl⟩
  sendOn := by
    rintro _ _ link link' ⟨s, events, rfl, rfl⟩ _ _ hs ht frames limit
    obtain rfl : link = link' := Option.some.inj (hs.symm.trans ht)
    rw [sendOn_recording, sendOn_recording, List.append_assoc]
    exact ⟨rfl, _, _, rfl, rfl⟩
  receiveOn := by
    rintro _ _ link link' ⟨s, events, rfl, rfl⟩ _ _ hs ht limit
    obtain rfl : link = link' := Option.some.inj (hs.symm.trans ht)
    rw [receiveOn_recording, receiveOn_recording, List.append_assoc]
    exact ⟨rfl, _, _, rfl, rfl⟩
  resetOn := by
    rintro _ _ link link' ⟨s, events, rfl, rfl⟩ _ _ hs ht
    obtain rfl : link = link' := Option.some.inj (hs.symm.trans ht)
    rw [resetOn_recording, resetOn_recording, List.append_assoc]
    exact ⟨rfl, _, _, rfl, rfl⟩
  verified := by
    rintro _ _ ⟨s, events, rfl, rfl⟩ _ identity
    exact ⟨s.verifiedAs identity, events, rfl, rfl⟩
  rejected := by
    rintro _ _ ⟨s, events, rfl, rfl⟩
    exact ⟨s.rejected, events, rfl, rfl⟩
  closed := by
    rintro _ _ ⟨s, events, rfl, rfl⟩
    exact ⟨s.closed, events, rfl, rfl⟩

end Session

/-! ## Records of runs -/

structure Episode (ω σ : Type) where
  operation : Operation
  result : Except Fault Outcome
  events : List (Event ω σ)

namespace Operation

variable [Channel ω σ]

def events (operation : Operation) (s : Session ω σ) : List (Event ω σ) :=
  (step operation (s.recording [])).2.peer.events

def episode (operation : Operation) (s : Session ω σ) : Episode ω σ :=
  ⟨operation, (step operation s).1, events operation s⟩

def history : List Operation → Session ω σ → List (Episode ω σ)
  | [], _ => []
  | operation :: rest, s => episode operation s :: history rest (step operation s).2

def trace (operations : List Operation) (s : Session ω σ) : List (Event ω σ) :=
  (history operations s).flatMap Episode.events

theorem step_recording_nil (operation : Operation) (s : Session ω σ) :
    step operation (s.recording []) =
      ((step operation s).1, (step operation s).2.recording (events operation s)) := by
  -- The lockstep of a session with its recording needs no invariant of its own.
  have trivial : Session.Invariant fun (_ : Session ω σ) (_ : List (Event ω σ)) => True :=
    ⟨⟨fun _ _ _ => True.intro, fun _ _ => True.intro⟩, fun _ _ _ => True.intro,
      fun _ => True.intro, fun _ => True.intro⟩
  obtain ⟨same, events, after, _⟩ :=
    step_lockstep trivial.lockstep operation ⟨[], rfl, True.intro⟩
  rw [Operation.events, after]
  exact Prod.ext same.symm after

/-- Observation changes nothing, and an operation adds its events to the record. -/
theorem step_recording (operation : Operation) (s : Session ω σ)
    (earlier : List (Event ω σ)) :
    step operation (s.recording earlier) =
      ((step operation s).1,
        (step operation s).2.recording (earlier ++ events operation s)) := by
  -- Two recordings run side by side, one of which begins with nothing.
  obtain ⟨same, t, new, hnil, hearlier⟩ :=
    step_lockstep (Session.lockstep_earlier earlier) operation
      ⟨s, [], rfl, by rw [List.append_nil]⟩
  rw [step_recording_nil] at same hnil
  have hsession : (step operation s).2 = t := congrArg Session.unobserved hnil
  have hevents : events operation s = new :=
    congrArg (fun t : Session (Recorded ω σ) σ => t.peer.events) hnil
  rw [hsession, hevents]
  exact Prod.ext same.symm hearlier

theorem of_step_recording {I : Session ω σ → List (Event ω σ) → Prop}
    {operation : Operation} {s : Session ω σ} {earlier : List (Event ω σ)}
    (h : ∃ events, (step operation (s.recording earlier)).2 =
      (step operation s).2.recording events ∧ I (step operation s).2 events) :
    I (step operation s).2 (earlier ++ events operation s) := by
  obtain ⟨recorded, hafter, holds⟩ := h
  rw [step_recording] at hafter
  have hrecorded : earlier ++ events operation s = recorded :=
    congrArg (fun t : Session (Recorded ω σ) σ => t.peer.events) hafter
  rwa [hrecorded]

variable {I : Session ω σ → List (Event ω σ) → Prop} {s : Session ω σ}
  {earlier : List (Event ω σ)}

theorem step_kept (h : Session.Kept I) {operation : Operation}
    (transacts : operation.decides = false) (earlier : List (Event ω σ))
    (holds : I s earlier) : I (step operation s).2 (earlier ++ events operation s) :=
  of_step_recording (perform_parallel h.parallel transacts _ _ ⟨earlier, rfl, holds⟩).2

theorem step_invariant (h : Session.Invariant I) (operation : Operation)
    (holds : I s earlier) : I (step operation s).2 (earlier ++ events operation s) :=
  of_step_recording (step_lockstep h.lockstep operation ⟨earlier, rfl, holds⟩).2

theorem step_keeps {P : Session ω σ → Prop} (h : Session.Invariant fun s _ => P s)
    (operation : Operation) (holds : P s) : P (step operation s).2 :=
  @step_invariant ω σ _ (fun s _ => P s) s [] h operation holds

@[simp] theorem trace_nil (s : Session ω σ) : trace [] s = [] := rfl

@[simp] theorem trace_cons (operation : Operation) (rest : List Operation)
    (s : Session ω σ) :
    trace (operation :: rest) s =
      events operation s ++ trace rest (step operation s).2 := rfl

theorem run_invariant (h : Session.Invariant I) (operations : List Operation)
    (holds : I s earlier) : I (run operations s).2 (earlier ++ trace operations s) := by
  induction operations generalizing s earlier with
  | nil => simpa [run] using holds
  | cons operation rest ih =>
      rw [trace_cons, ← List.append_assoc]
      exact ih (step_invariant h operation holds)

theorem run_keeps {P : Session ω σ → Prop} (h : Session.Invariant fun s _ => P s)
    (operations : List Operation) (holds : P s) : P (run operations s).2 :=
  @run_invariant ω σ _ (fun s _ => P s) s [] h operations holds

end Operation

end MuxConsole
