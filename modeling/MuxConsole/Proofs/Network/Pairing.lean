import MuxConsole.Proofs.Network.Links
import MuxConsole.Proofs.Session.Turns

/-!
# Requests and replies on a network

On the links to real servers a reply that arrives was given where the request
sent last was written, and nothing else has ever been written there.  So whatever
a server says about a request that has timed out, or that was dropped on its way to the
server, goes unheard.
-/

namespace MuxConsole.Network

/-! ## One request for each place -/

/-- Since the first of the two networks no place has got a second request. -/
def OneEach (endpoint : Endpoint) (first net : Network) : Prop :=
  ∀ place, carried endpoint place net = carried endpoint place first ∨
    carried endpoint place first = [] ∧ ∃ request, carried endpoint place net = [request]

variable {endpoint : Endpoint} {first net net' : Network}

theorem OneEach.progress (h : OneEach endpoint first net) (progress : Progress endpoint net net') :
    OneEach endpoint first net' := by
  intro place
  rcases progress with unwritten | ⟨place', request, writes⟩
  · rw [unwritten place]
    exact h place
  · by_cases here : place = place'
    · subst here
      -- Nothing was there before the new request, so an older one cannot have been.
      rcases h place with same | ⟨_, request', old⟩
      · exact .inr ⟨same.symm.trans writes.before, request, writes.after⟩
      · rw [writes.before] at old
        cases old
    · rw [writes.frame place here]
      exact h place

theorem Progress.carried_eq_nil (progress : Progress endpoint net net') {place : Nat}
    (h : carried endpoint place net' = []) : carried endpoint place net = [] := by
  rcases progress with unwritten | ⟨place', request, writes⟩
  · rwa [unwritten place] at h
  · by_cases here : place = place'
    · subst here
      exact writes.before
    · rwa [writes.frame place here] at h

theorem Link.Sends.progress {link link' : Link} {frames : Frames} {sending : Sending}
    (h : link.Sends frames net sending link' net') : Progress link.endpoint net net' := by
  obtain ⟨_, h⟩ := h
  cases sending with
  | sent took =>
      obtain ⟨place, writes, _⟩ := h
      exact .inr ⟨place, frames, writes⟩
  | failed fault => exact h
  | dropped => exact h.2

/-! ## Sessions -/

def Untouched (endpoint : Endpoint) (place : Nat) (first : Network)
    (events : List (Event Network Link)) : Prop :=
  carried endpoint place first = [] ∧
    ∀ event ∈ events, carried endpoint place event.peerAfter = []

def SentLast (endpoint : Endpoint) (place : Nat) (request : Frames) (first : Network)
    (events : List (Event Network Link)) : Prop :=
  ∃ earlier sent took, events = earlier ++ [sent] ∧
    sent.use = .send request (.sent took) ∧ Untouched endpoint place first earlier

structure Tidy (endpoint : Endpoint) (first : Network) (s : Session Network Link)
    (events : List (Event Network Link)) : Prop where
  target : ∀ link ∈ s.link, link.endpoint = endpoint
  ready : s.isUsable = true → s.pending = none → ∀ link ∈ s.link, link.Ready s.peer
  waiting : s.isUsable = true → s.pending ≠ none → ∀ link ∈ s.link, link.IsIdle ∨
    ∃ place request, SentLast endpoint place request first events ∧
      link.Holds place request s.peer
  untouched : ∀ place, carried endpoint place s.peer = [] →
    Untouched endpoint place first events
  one : OneEach endpoint first s.peer
  ones : ∀ event ∈ events, OneEach endpoint first event.peerAfter
  lost : ∀ event ∈ events, ∀ request, event.use = .send request .dropped →
    event.linkAfter.IsLost
  replies : Throughout (fun before event => ∀ reply,
    event.use = .receive (.frames reply) →
      ∃ place request, SentLast endpoint place request first before ∧
        event.link.endpoint = endpoint ∧ event.link.Holds place request event.peer ∧
        event.link.Gives place reply event.peer) events

variable {s : Session Network Link} {events : List (Event Network Link)} {link : Link}

theorem Untouched.concat {place : Nat} {event : Event Network Link}
    (h : Untouched endpoint place first events)
    (last : carried endpoint place event.peerAfter = []) :
    Untouched endpoint place first (events ++ [event]) := by
  refine ⟨h.1, ?_⟩
  simpa [or_imp, forall_and, last] using h.2

theorem Tidy.records (h : Tidy endpoint first s events) {e : Event Network Link}
    (progress : Progress endpoint s.peer e.peerAfter) :
    (∀ place, carried endpoint place e.peerAfter = [] →
        Untouched endpoint place first (events ++ [e])) ∧
      OneEach endpoint first e.peerAfter ∧
      ∀ event ∈ events ++ [e], OneEach endpoint first event.peerAfter := by
  have one := h.one.progress progress
  refine ⟨?_, one, ?_⟩
  · intro place fresh
    exact (h.untouched place (progress.carried_eq_nil fresh)).concat fresh
  · simpa [or_imp, forall_and, one] using h.ones

theorem Tidy.send (h : Tidy endpoint first s events) (usable : s.isUsable = true)
    (idle : s.pending = none) (hlink : s.link = some link) (frames : Frames)
    (limit : Option Nat) :
    Tidy endpoint first (s.follow (.send frames limit link s.peer))
      (events ++ [.send frames limit link s.peer]) := by
  have same := h.target link hlink
  have sends := Link.send_sends (h.ready usable idle link hlink) frames limit
  cases hsend : Link.send frames limit link s.peer with
  | mk sending rest =>
      obtain ⟨link', net'⟩ := rest
      have hevent : Event.send frames limit link s.peer =
          ⟨.send frames sending, link, s.peer, link', net'⟩ := Event.send_eq hsend
      rw [hsend] at sends
      rw [hevent]
      have progress : Progress endpoint s.peer net' := same ▸ sends.progress
      obtain ⟨untouched, one, ones⟩ :=
        Tidy.records (e := ⟨.send frames sending, link, s.peer, link', net'⟩) h progress
      obtain ⟨same', sends⟩ := sends
      refine ⟨?_, ?_, ?_, untouched, one, ones, ?_, h.replies.concat nofun⟩
      · rintro _ ⟨⟩
        exact same'.trans same
      · rintro usable' idle' _ ⟨⟩
        cases sending with
        | sent took => cases idle'
        | failed fault => cases (Session.isUsable_follow usable').2
        | dropped => exact sends.1.ready net'
      · rintro usable' pending' _ ⟨⟩
        cases sending with
        | sent took =>
            obtain ⟨place, writes, holds⟩ := sends
            rw [same] at writes
            exact .inr ⟨place, frames,
              ⟨events, _, took, rfl, rfl, h.untouched place writes.before⟩, holds⟩
        | failed fault => cases (Session.isUsable_follow usable').2
        | dropped => exact absurd idle pending'
      · refine List.forall_mem_append.mpr ⟨h.lost, List.forall_mem_singleton.mpr ?_⟩
        rintro _ ⟨⟩
        exact sends.1

theorem Tidy.quiet (h : Tidy endpoint first s events) {event : Event Network Link}
    (hlink : s.link = some link) (same : event.peerAfter = s.peer)
    (endpoint' : event.linkAfter.endpoint = link.endpoint) (idle : event.linkAfter.IsIdle)
    (unsent : ∀ request sending, event.use ≠ .send request sending)
    (ready : (s.follow event).isUsable = true → (s.follow event).pending = none →
      event.linkAfter.Ready event.peerAfter)
    (replies : ∀ reply, event.use = .receive (.frames reply) →
      ∃ place request, SentLast endpoint place request first events ∧
        event.link.endpoint = endpoint ∧ event.link.Holds place request event.peer ∧
        event.link.Gives place reply event.peer) :
    Tidy endpoint first (s.follow event) (events ++ [event]) := by
  have progress : Progress endpoint s.peer event.peerAfter :=
    .inl (same ▸ Unwritten.refl endpoint s.peer)
  obtain ⟨untouched, one, ones⟩ := h.records progress
  refine ⟨?_, ?_, ?_, untouched, one, ones, ?_, h.replies.concat replies⟩
  · rintro _ ⟨⟩
    exact endpoint'.trans (h.target link hlink)
  · rintro usable' idle' _ ⟨⟩
    exact ready usable' idle'
  · rintro _ _ _ ⟨⟩
    exact .inl idle
  · refine List.forall_mem_append.mpr ⟨h.lost, List.forall_mem_singleton.mpr ?_⟩
    exact fun request sends => absurd sends (unsent request _)

theorem Tidy.receive (h : Tidy endpoint first s events) (usable : s.isUsable = true)
    (pending : s.pending ≠ none) (hlink : s.link = some link) (limit : Nat) :
    Tidy endpoint first (s.follow (.receive limit link s.peer))
      (events ++ [.receive limit link s.peer]) := by
  have receives := Link.receive_receives limit link s.peer
  cases hreceive : Link.receive limit link s.peer with
  | mk receiving rest =>
      obtain ⟨link', net'⟩ := rest
      have hevent : Event.receive limit link s.peer =
          ⟨.receive receiving, link, s.peer, link', net'⟩ := Event.receive_eq hreceive
      rw [hreceive] at receives
      rw [hevent]
      -- A link with nothing in progress, after waiting in vain, has no reply any more.
      have given (reply : Frames) (hreply : receiving = .frames reply) :
          ∃ place request, SentLast endpoint place request first events ∧
            link.Holds place request s.peer ∧ link.Gives place reply s.peer ∧
            link'.Ready s.peer := by
        obtain idle | ⟨place, request, sentLast, holds⟩ := h.waiting usable pending link hlink
        · exact absurd hreply (receives.nothing idle reply)
        · obtain ⟨gives, ready⟩ := receives.gives place request holds reply hreply
          exact ⟨place, request, sentLast, holds, gives, ready⟩
      obtain rfl : net' = s.peer := receives.same
      refine h.quiet hlink rfl receives.endpoint receives.idle (fun _ _ => nofun) ?_ ?_
      · intro usable' idle'
        cases receiving with
        | frames reply =>
            obtain ⟨_, _, _, _, _, ready⟩ := given reply rfl
            exact ready
        | failed fault => cases (Session.isUsable_follow usable').2
        | nothing => exact absurd idle' pending
      · rintro reply ⟨⟩
        obtain ⟨place, request, sentLast, holds, gives, _⟩ := given reply rfl
        exact ⟨place, request, sentLast, h.target link hlink, holds, gives⟩

theorem Tidy.reset (h : Tidy endpoint first s events) (hlink : s.link = some link) :
    Tidy endpoint first (s.follow (.reset link s.peer)) (events ++ [.reset link s.peer]) := by
  obtain ⟨same, endpoint', lost⟩ := Link.reset_lost link s.peer
  exact h.quiet hlink same endpoint' lost.isIdle (fun _ _ => nofun) (fun _ _ => lost.ready _) nofun

theorem tidy_invariant (endpoint : Endpoint) (first : Network) :
    Session.Invariant (Tidy endpoint first) where
  event := by
    intro s events event h usable makes
    cases makes with
    | send idle hlink frames limit => exact h.send usable idle hlink frames limit
    | receive pending hlink limit => exact h.receive usable pending hlink limit
    | reset _ hlink => exact h.reset hlink
  noting h _ :=
    ⟨h.target, h.ready, h.waiting, h.untouched, h.one, h.ones, h.lost, h.replies⟩
  verified h usable _ :=
    ⟨h.target, fun _ => h.ready usable, fun _ => h.waiting usable, h.untouched, h.one,
      h.ones, h.lost, h.replies⟩
  rejected h := ⟨h.target, nofun, nofun, h.untouched, h.one, h.ones, h.lost, h.replies⟩
  closed h := ⟨nofun, nofun, nofun, h.untouched, h.one, h.ones, h.lost, h.replies⟩

theorem tidy_connect {deadline : Nat} {net : Network}
    (h : Session.connect endpoint deadline net = .ok s) : Tidy endpoint net s [] := by
  unfold Session.connect at h
  split at h
  · rename_i link net' hconnect
    cases h
    obtain ⟨same, ready, unwritten⟩ := Link.connect_ready hconnect
    refine ⟨?_, ?_, ?_, ?_, fun place => .inl (unwritten place), by simp, by simp, .nil⟩
    · rintro _ ⟨⟩
      exact same
    · rintro _ _ _ ⟨⟩
      exact ready
    · rintro _ pending
      exact absurd rfl pending
    · intro place fresh
      exact ⟨(unwritten place).symm.trans fresh, by simp⟩
  · cases h

/-! ## Pairing -/

open Operation

end MuxConsole.Network
