import Mathlib.Data.List.Induction
import MuxConsole.Proofs.Session.Recording

/-!
# Taking turns

On whatever channel, a session has at most one request outstanding.  Each message
that it sends is resolved before the next one, by a reply, by giving up or by a
failure, and after a failure nothing happens any more.
-/

namespace MuxConsole

variable {ω σ : Type}

/-! ## Points of a record -/

/-- A property of each event with those before it. -/
def Throughout (P : List (Event ω σ) → Event ω σ → Prop) (events : List (Event ω σ)) : Prop :=
  ∀ before event after, events = before ++ event :: after → P before event

namespace Throughout

variable {P : List (Event ω σ) → Event ω σ → Prop} {events : List (Event ω σ)}

theorem nil : Throughout P [] := by
  intro before event after h
  simp at h

theorem concat {event : Event ω σ} (h : Throughout P events) (last : P events event) :
    Throughout P (events ++ [event]) := by
  intro before e after split
  -- The split is at the new event when nothing comes after it, else at an old one.
  induction after using List.reverseRecOn with
  | nil =>
      obtain ⟨rfl, hlast⟩ := List.append_inj' split rfl
      obtain rfl : event = e := by simpa using hlast
      exact last
  | append_singleton rest b _ =>
      have hsplit : events ++ [event] = (before ++ e :: rest) ++ [b] := by simpa using split
      obtain ⟨hevents, _⟩ := List.append_inj' hsplit rfl
      exact h before e rest hevents

theorem earlier {before after : List (Event ω σ)} (h : Throughout P (before ++ after)) :
    Throughout P before := by
  intro first event rest split
  subst split
  exact h first event (rest ++ after) (by simp)

end Throughout

def lastUse? (events : List (Event ω σ)) : Option Use := events.getLast?.map Event.use

@[simp] theorem lastUse?_concat (events : List (Event ω σ)) (event : Event ω σ) :
    lastUse? (events ++ [event]) = some event.use := by
  simp [lastUse?]

/-! ## Messages and what becomes of them -/

namespace Use

def isSend : Use → Bool
  | .send .. => true
  | _ => false

/-- Whether no message waits for its reply afterwards. -/
def resolves : Use → Bool
  | .send _ (.sent _) | .receive .nothing => false
  | _ => true

end Use

def messages (events : List (Event ω σ)) : Nat := events.countP (·.use.isSend)

/-- The number of messages that have been replied to, given up, or lost. -/
def resolutions (events : List (Event ω σ)) : Nat := events.countP (·.use.resolves)

@[simp] theorem messages_concat (events : List (Event ω σ)) (event : Event ω σ) :
    messages (events ++ [event]) = messages events + event.use.isSend.toNat := by
  cases h : event.use.isSend <;> simp [messages, h]

@[simp] theorem resolutions_concat (events : List (Event ω σ)) (event : Event ω σ) :
    resolutions (events ++ [event]) = resolutions events + event.use.resolves.toNat := by
  cases h : event.use.resolves <;> simp [resolutions, h]

/-! ## Sessions -/

namespace Session

variable {s : Session ω σ} {event : Event ω σ}

@[simp] theorem follow_peer : (s.follow event).peer = event.peerAfter := rfl

@[simp] theorem follow_pending :
    (s.follow event).pending = event.use.pendingAfter s.pending := rfl

theorem isUsable_follow (h : (s.follow event).isUsable = true) :
    s.isUsable = true ∧ event.use.fails = false := by
  cases fails : event.use.fails with
  | true => simp [follow, after, isUsable, fails, SessionState.obstacle?] at h
  | false => exact ⟨by simpa [follow, after, isUsable, fails] using h, rfl⟩

theorem Makes.balance [Channel ω σ] (h : s.Makes event) :
    event.use.isSend.toNat + s.pending.isSome.toNat =
      event.use.resolves.toNat + (event.use.pendingAfter s.pending).isSome.toNat := by
  cases h with
  | @send link idle _ frames limit =>
      simp only [Event.send, Use.isSend, idle]
      cases (Channel.send frames limit link s.peer).1 <;> rfl
  | @receive link pending _ limit =>
      obtain ⟨command, hcommand⟩ := Option.ne_none_iff_exists'.mp pending
      simp only [Event.receive, Use.isSend, hcommand]
      cases (Channel.receive limit link s.peer).1 <;> rfl
  | reset pending _ =>
      obtain ⟨command, hcommand⟩ := Option.ne_none_iff_exists'.mp pending
      simp only [Event.reset, Use.isSend, hcommand]
      rfl

theorem Makes.idle [Channel ω σ] (h : s.Makes event) (sends : event.use.isSend = true) :
    s.pending = none := by
  cases h with
  | send idle => exact idle
  | receive => cases sends
  | reset => cases sends

/-! ## The life of a session -/

structure Alive (start s : Session ω σ) (events : List (Event ω σ)) : Prop where
  sound : s.isUsable = true →
    start.isUsable = true ∧ ∀ event ∈ events, event.use.fails = false
  /-- Nothing happens after a failure. -/
  last : Throughout (fun before _ => ∀ earlier ∈ before, earlier.use.fails = false) events

theorem alive_nil (s : Session ω σ) : Alive s s [] where
  sound usable := ⟨usable, by simp⟩
  last := .nil

theorem alive_invariant [Channel ω σ] (start : Session ω σ) : Invariant (Alive start) where
  event := by
    intro s events event h usable makes
    obtain ⟨began, sound⟩ := h.sound usable
    refine ⟨?_, h.last.concat sound⟩
    intro usable'
    refine ⟨began, ?_⟩
    intro e he
    rcases List.mem_append.mp he with earlier | latest
    · exact sound e earlier
    · rw [List.mem_singleton.mp latest]
      exact (isUsable_follow usable').2
  noting h _ := ⟨h.sound, h.last⟩
  verified h usable _ := ⟨fun _ => h.sound usable, h.last⟩
  rejected h := ⟨nofun, h.last⟩
  closed h := ⟨nofun, h.last⟩

/-! ## One message at a time -/

structure TakesTurns (s : Session ω σ) (events : List (Event ω σ)) : Prop where
  balance : s.isUsable = true →
    messages events = resolutions events + s.pending.isSome.toNat
  /-- A message is sent once those before it have been resolved. -/
  turns : Throughout (fun before event => event.use.isSend = true →
    messages before = resolutions before) events

theorem takesTurns_nil (idle : s.pending = none) : s.TakesTurns [] where
  balance _ := by simp [messages, resolutions, idle]
  turns := .nil

theorem takesTurns_invariant [Channel ω σ] :
    Invariant (TakesTurns : Session ω σ → List (Event ω σ) → Prop) where
  event := by
    intro s events event h usable makes
    have balance := h.balance usable
    refine ⟨?_, h.turns.concat ?_⟩
    · intro _
      -- The balance of the event is what the balance of the record goes up by.
      have step := makes.balance
      rw [messages_concat, resolutions_concat, follow_pending]
      omega
    · intro sends
      rw [makes.idle sends] at balance
      simpa using balance
  noting h _ := ⟨h.balance, h.turns⟩
  verified h usable _ := ⟨fun _ => h.balance usable, h.turns⟩
  rejected h := ⟨nofun, h.turns⟩
  closed h := ⟨nofun, h.turns⟩

theorem messages_le_of_turns {events : List (Event ω σ)}
    (turns : Throughout (fun before event => event.use.isSend = true →
      messages before = resolutions before) events) :
    messages events ≤ resolutions events + 1 := by
  induction events using List.reverseRecOn with
  | nil => simp [messages]
  | append_singleton before event ih =>
      have hbefore := ih turns.earlier
      have hevent := turns before event [] rfl
      rw [messages_concat, resolutions_concat]
      cases sends : event.use.isSend with
      | true =>
          rw [hevent sends]
          simp
      | false =>
          simp only [Bool.toNat_false]
          omega

namespace TakesTurns

variable {events before after : List (Event ω σ)}

/-- At no point are there two messages without a resolution. -/
theorem messages_le (h : s.TakesTurns events) (split : events = before ++ after) :
    messages before ≤ resolutions before + 1 := by
  have turns := h.turns
  rw [split] at turns
  exact messages_le_of_turns turns.earlier

theorem pending (h : s.TakesTurns events) (usable : s.isUsable = true)
    (unresolved : resolutions events < messages events) : s.pending ≠ none := by
  intro idle
  have balance := h.balance usable
  rw [idle, Option.isSome_none, Bool.toNat_false] at balance
  omega

end TakesTurns

end Session

end MuxConsole
