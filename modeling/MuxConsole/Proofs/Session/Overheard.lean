import MuxConsole.Proofs.Session.Act

/-!
# Overheard channels

Whoever overhears a channel keeps a talk for every connection that is made: the endpoint,
and all the uses that are made of the channel, in order.  A session is overheard without
being changed by it.
-/

namespace MuxConsole

variable {ω σ : Type}

structure Talk where
  endpoint : Endpoint
  uses : List Use

structure Overheard (ω : Type) where
  peer : ω
  talks : List Talk

structure Tapped (σ : Type) where
  link : σ
  place : Nat

namespace Overheard

def hear (overheard : Overheard ω) (place : Nat) (use : Use) (peer : ω) : Overheard ω where
  peer
  talks := overheard.talks.modify place fun talk => { talk with uses := talk.uses ++ [use] }

instance [Channel ω σ] : Channel (Overheard ω) (Tapped σ) where
  connect endpoint deadline overheard :=
    match Channel.connect endpoint deadline overheard.peer with
    | (.ok link, peer) =>
        (.ok ⟨link, overheard.talks.length⟩, ⟨peer, overheard.talks ++ [⟨endpoint, []⟩]⟩)
    | (.error fault, peer) => (.error fault, { overheard with peer })
  send frames limit tapped overheard :=
    let (sending, link, peer) := Channel.send frames limit tapped.link overheard.peer
    (sending, { tapped with link }, overheard.hear tapped.place (.send frames sending) peer)
  receive limit tapped overheard :=
    let (receiving, link, peer) := Channel.receive limit tapped.link overheard.peer
    (receiving, { tapped with link }, overheard.hear tapped.place (.receive receiving) peer)
  reset tapped overheard :=
    let (result, link, peer) := Channel.reset tapped.link overheard.peer
    (result, { tapped with link }, overheard.hear tapped.place (.reset result) peer)

theorem hear_last (earlier : List Talk) (endpoint : Endpoint) (uses : List Use) (use : Use)
    (peer after : ω) :
    (⟨peer, earlier ++ [⟨endpoint, uses⟩]⟩ : Overheard ω).hear earlier.length use after =
      ⟨after, earlier ++ [⟨endpoint, uses ++ [use]⟩]⟩ := by
  simp [hear, List.modify_eq_take_cons_drop]

end Overheard

namespace Session

/-- The session on a channel whose talk, after earlier ones, has come to these uses. -/
def overheard (s : Session ω σ) (earlier : List Talk) (endpoint : Endpoint) (uses : List Use) :
    Session (Overheard ω) (Tapped σ) where
  endpoint := s.endpoint
  link := s.link.map fun link => ⟨link, earlier.length⟩
  state := s.state
  pending := s.pending
  identity := s.identity
  peer := ⟨s.peer, earlier ++ [⟨endpoint, uses⟩]⟩
  log := s.log

variable (earlier : List Talk) (endpoint : Endpoint) (uses : List Use) {s : Session ω σ} {link : σ}

theorem overheard_link (hlink : s.link = some link) :
    (s.overheard earlier endpoint uses).link = some ⟨link, earlier.length⟩ := by
  simp [overheard, hlink]

theorem after_overheard (s : Session ω σ) (use : Use) (link : σ) (peer : ω) :
    (s.overheard earlier endpoint uses).after use ⟨link, earlier.length⟩
      ((s.overheard earlier endpoint uses).peer.hear earlier.length use peer) =
    (s.after use link peer).overheard earlier endpoint (uses ++ [use]) := by
  simp [overheard, after, Overheard.hear_last]

variable [Channel ω σ]

theorem sendOn_overheard (s : Session ω σ) (frames : Frames) (limit : Option Nat) (link : σ) :
    (s.overheard earlier endpoint uses).sendOn frames limit ⟨link, earlier.length⟩ =
      ((s.sendOn frames limit link).1, (s.sendOn frames limit link).2.overheard earlier endpoint
        (uses ++ [.send frames (s.sendOn frames limit link).1])) :=
  Prod.ext rfl (after_overheard earlier endpoint uses s _ _ _)

theorem receiveOn_overheard (s : Session ω σ) (limit : Nat) (link : σ) :
    (s.overheard earlier endpoint uses).receiveOn limit ⟨link, earlier.length⟩ =
      ((s.receiveOn limit link).1, (s.receiveOn limit link).2.overheard earlier endpoint
        (uses ++ [.receive (s.receiveOn limit link).1])) :=
  Prod.ext rfl (after_overheard earlier endpoint uses s _ _ _)

theorem resetOn_overheard (s : Session ω σ) (link : σ) :
    (s.overheard earlier endpoint uses).resetOn ⟨link, earlier.length⟩ =
      ((s.resetOn link).1, (s.resetOn link).2.overheard earlier endpoint
        (uses ++ [.reset (s.resetOn link).1])) :=
  Prod.ext rfl (after_overheard earlier endpoint uses s _ _ _)

theorem connect_overheard (endpoint : Endpoint) (deadline : Nat) (peer : ω)
    (earlier : List Talk) :
    (Session.connect endpoint deadline (⟨peer, earlier⟩ : Overheard ω) :
        Except (Fault × Overheard ω) (Session (Overheard ω) (Tapped σ))) =
      match (Session.connect endpoint deadline peer : Except (Fault × ω) (Session ω σ)) with
      | .ok opened => .ok (opened.overheard earlier endpoint [])
      | .error (fault, after) => .error (fault, ⟨after, earlier⟩) := by
  have connect_eq : (Channel.connect endpoint deadline (⟨peer, earlier⟩ : Overheard ω) :
      Except Fault (Tapped σ) × Overheard ω) =
    match (Channel.connect endpoint deadline peer : Except Fault σ × ω) with
    | (.ok link, after) => (.ok ⟨link, earlier.length⟩, ⟨after, earlier ++ [⟨endpoint, []⟩]⟩)
    | (.error fault, after) => (.error fault, ⟨after, earlier⟩) := rfl
  unfold Session.connect
  rw [connect_eq]
  rcases (Channel.connect endpoint deadline peer : Except Fault σ × ω) with ⟨_ | link, after⟩
  · rfl
  · rfl

end Session

end MuxConsole
