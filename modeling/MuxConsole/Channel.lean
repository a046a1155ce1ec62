import MuxConsole.Fault

/-!
# Channels

A channel moves lists of frames to one endpoint and back.  What happens on it is
decided by the peers on the other side, of type `ω`; our end of the channel is a
link, of type `σ`.  Times are in milliseconds.  A caller may stop waiting: an
operation that would take longer than its limit is dropped there, and what it
has done until then stays done.
-/

namespace MuxConsole

inductive Sending where
  | sent (took : Nat)
  | failed (fault : Fault)
  /-- The limit came first. -/
  | dropped

/-- What is taken out to send on is put back once the request has been sent, and lost
otherwise. -/
def Sending.putBack {α : Type} (link : α) : Sending → Option α
  | .sent _ => some link
  | .failed _ | .dropped => none

inductive Receiving where
  | frames (reply : Frames)
  | failed (fault : Fault)
  /-- Nothing came within the limit. -/
  | nothing

class Channel (ω σ : Type) where
  connect : (endpoint : Endpoint) → (deadline : Nat) → ω → Except Fault σ × ω
  /-- Without a limit, sending ends by itself. -/
  send : Frames → (limit : Option Nat) → σ → ω → Sending × σ × ω
  receive : (limit : Nat) → σ → ω → Receiving × σ × ω
  /-- Drops a half-finished exchange, without touching the network. -/
  reset : σ → ω → Except Fault Unit × σ × ω

/-- Whether something that takes `time` is over when the limit comes. -/
def Within (limit : Option Nat) (time : Nat) : Prop := ∀ l ∈ limit, time ≤ l

instance (limit : Option Nat) (time : Nat) : Decidable (Within limit time) :=
  match limit with
  | none => isTrue fun _ h => nomatch h
  | some l =>
      if h : time ≤ l then isTrue fun _ hl => by cases hl; exact h
      else isFalse fun within => h (within l rfl)

end MuxConsole
