import MuxConsole.Proofs.Session.Recording

/-!
# Sessions that are ready for a question

A peer that answers at once leaves our end of the channel at rest whenever nothing is
pending.  On a verified session that is at rest an exchange changes nothing but the
peer.
-/

namespace MuxConsole.Session

variable {ω σ : Type}

structure Ready (rest : σ) (s : Session ω σ) : Prop where
  verified : s.state = .verified
  idle : s.pending = none
  linked : s.link = some rest

namespace Ready

variable {rest : σ} {s : Session ω σ}

theorem isUsable (h : s.Ready rest) : s.isUsable = true := isUsable_iff.mpr (.inr h.verified)

theorem with_peer (h : s.Ready rest) (peer : ω) : Ready rest { s with peer } :=
  ⟨h.verified, h.idle, h.linked⟩

variable [Channel ω σ]

theorem run_execute (h : s.Ready rest) {request answer : Frames} {timeout took : Nat}
    {link : σ} {peer peer' : ω}
    (sent : Channel.send request none rest s.peer = (.sent took, link, peer))
    (received : Channel.receive timeout link peer = (.frames answer, rest, peer')) :
    (execute request timeout).run s = (.ok answer, { s with peer := peer' }) := by
  rw [Session.run_execute h.isUsable h.idle h.linked sent received, ← h.idle, ← h.linked]

end Ready

/-! ## Peers that answer at once -/

variable [Channel ω σ]

/-- Whatever is sent is sent, and after receiving or a reset our end is at rest. -/
structure Rests (ω : Type) {σ : Type} [Channel ω σ] (rest : σ) : Prop where
  send (frames : Frames) (limit : Option Nat) (link : σ) (peer : ω) :
    ∃ took, (Channel.send frames limit link peer).1 = .sent took
  receive (limit : Nat) (link : σ) (peer : ω) : (Channel.receive limit link peer).2.1 = rest
  reset (link : σ) (peer : ω) : (Channel.reset link peer).2.1 = rest

theorem rests_invariant {rest : σ} (h : Rests ω rest) :
    Invariant fun (s : Session ω σ) (_ : List (Event ω σ)) =>
      s.isUsable = true → s.pending = none → s.link = some rest where
  event := by
    intro s events event _ _ makes _ idle
    cases makes with
    | @send link _ _ frames limit =>
        obtain ⟨took, sent⟩ := h.send frames limit link s.peer
        simp [follow, after, Event.send, Use.pendingAfter, sent] at idle
    | receive _ _ limit => exact congrArg some (h.receive limit _ s.peer)
    | reset => exact congrArg some (h.reset _ s.peer)
  noting h _ := h
  verified h usable _ := fun _ => h usable
  rejected _ := nofun
  closed _ := nofun

theorem endpoint_invariant (endpoint : Endpoint) :
    Invariant fun (s : Session ω σ) (_ : List (Event ω σ)) => s.endpoint = endpoint where
  event h _ _ := h
  noting h _ := h
  verified h _ _ := h
  rejected h := h
  closed h := h

theorem ready_of_run {rest : σ} (h : Rests ω rest) {endpoint : Endpoint} {peer : ω}
    {before : List Operation}
    (verified : (Operation.run before (ofLink endpoint rest peer)).2.state = .verified)
    (idle : (Operation.run before (ofLink endpoint rest peer)).2.pending = none) :
    (Operation.run before (ofLink endpoint rest peer)).2.Ready rest := by
  have linked := Operation.run_keeps (rests_invariant h) before (s := ofLink endpoint rest peer)
    fun _ _ => rfl
  exact ⟨verified, idle, linked (isUsable_iff.mpr (.inr verified)) idle⟩

end MuxConsole.Session
