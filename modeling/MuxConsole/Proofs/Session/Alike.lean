import MuxConsole.Proofs.Session.Parallel

/-!
# Peers that answer alike

Two servers answer alike if nobody can tell them apart by what is sent to them and what
comes back.  Whatever is done with the one has the same outcome as with the other.
-/

namespace MuxConsole

variable {ω σ ω' σ' : Type} [Channel ω σ] [Channel ω' σ']

/-- Every use of two channels that are so related has the same outcome, and they are so
related again after it. -/
structure Channel.Bisimulates (R : σ × ω → σ' × ω' → Prop) : Prop where
  send {x y} : R x y → ∀ frames limit,
    (Channel.send frames limit x.1 x.2).1 = (Channel.send frames limit y.1 y.2).1 ∧
      R (Channel.send frames limit x.1 x.2).2 (Channel.send frames limit y.1 y.2).2
  receive {x y} : R x y → ∀ limit,
    (Channel.receive limit x.1 x.2).1 = (Channel.receive limit y.1 y.2).1 ∧
      R (Channel.receive limit x.1 x.2).2 (Channel.receive limit y.1 y.2).2
  reset {x y} : R x y →
    (Channel.reset x.1 x.2).1 = (Channel.reset y.1 y.2).1 ∧
      R (Channel.reset x.1 x.2).2 (Channel.reset y.1 y.2).2

/-- At this endpoint either nobody can connect, for the same reason, or whoever connects
finds the same behaviour. -/
def Channel.ServesAlike (σ σ' : Type) [Channel ω σ] [Channel ω' σ'] (endpoint : Endpoint)
    (deadline : Nat) (peer : ω) (peer' : ω') : Prop :=
  ∃ R : σ × ω → σ' × ω' → Prop, Channel.Bisimulates R ∧
    match Channel.connect endpoint deadline peer, Channel.connect endpoint deadline peer' with
    | (.ok link, after), (.ok link', after') => R (link, after) (link', after')
    | (.error fault, _), (.error fault', _) => fault = fault'
    | _, _ => False

namespace Session

structure OnAlike (R : σ × ω → σ' × ω' → Prop) (s : Session ω σ) (t : Session ω' σ') : Prop where
  agree : Agree s t
  alike {link link'} : s.link = some link → t.link = some link' → R (link, s.peer) (link', t.peer)

variable {R : σ × ω → σ' × ω' → Prop} {s : Session ω σ} {t : Session ω' σ'}

omit [Channel ω σ] [Channel ω' σ'] in
theorem OnAlike.after (h : OnAlike R s t) (use : Use) {x : σ × ω} {y : σ' × ω'} (alike : R x y) :
    OnAlike R (s.after use x.1 x.2) (t.after use y.1 y.2) where
  agree := ⟨h.agree.endpoint, by simp only [Session.after, h.agree.state],
    by simp only [Session.after, h.agree.pending], h.agree.identity, rfl⟩
  alike := by
    rintro _ _ ⟨⟩ ⟨⟩
    exact alike

theorem onAlike_lockstep (h : Channel.Bisimulates R) : Lockstep (OnAlike R) where
  agree := OnAlike.agree
  noting h _ := ⟨⟨h.agree.endpoint, h.agree.state, h.agree.pending, h.agree.identity,
    h.agree.linked⟩, h.alike⟩
  sendOn := by
    intro s t link link' related _ _ hs ht frames limit
    obtain ⟨same, alike⟩ := h.send (related.alike hs ht) frames limit
    refine ⟨same, ?_⟩
    simp only [sendOn, same]
    exact related.after _ alike
  receiveOn := by
    intro s t link link' related _ _ hs ht limit
    obtain ⟨same, alike⟩ := h.receive (related.alike hs ht) limit
    refine ⟨same, ?_⟩
    simp only [receiveOn, same]
    exact related.after _ alike
  resetOn := by
    intro s t link link' related _ _ hs ht
    obtain ⟨same, alike⟩ := h.reset (related.alike hs ht)
    refine ⟨same, ?_⟩
    simp only [resetOn, same]
    exact related.after _ alike
  verified h _ identity := ⟨⟨h.agree.endpoint, rfl, h.agree.pending,
    congrArg identity.or h.agree.identity, h.agree.linked⟩, h.alike⟩
  rejected h := ⟨⟨h.agree.endpoint, rfl, h.agree.pending, h.agree.identity, h.agree.linked⟩,
    h.alike⟩
  closed h := ⟨⟨h.agree.endpoint, rfl, rfl, h.agree.identity, rfl⟩, nofun⟩

omit [Channel ω σ] [Channel ω' σ'] in
theorem onAlike_ofLink (endpoint : Endpoint) {x : σ × ω} {y : σ' × ω'} (alike : R x y) :
    OnAlike R (ofLink endpoint x.1 x.2) (ofLink endpoint y.1 y.2) where
  agree := ⟨rfl, rfl, rfl, rfl, rfl⟩
  alike := by
    rintro _ _ ⟨⟩ ⟨⟩
    exact alike

end Session

end MuxConsole
