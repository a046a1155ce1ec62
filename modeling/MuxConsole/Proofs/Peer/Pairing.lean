import MuxConsole.Peer.Scripted
import MuxConsole.Proofs.Session.Faults

/-!
# Requests and replies on a scripted channel

The items of a script are taken one by one, by the messages in the order in which
they are sent.  A reply that arrives is the one that the script has for the
message sent just before.
-/

namespace MuxConsole.Peer.Scripted

def session (endpoint : Endpoint) (script : List Item) : Session Scripted ScriptedLink :=
  .ofLink endpoint ⟨none, none⟩ (ofScript script)

/-! ## One use of the channel -/

variable {link : ScriptedLink} {peer : Scripted}

theorem send_cases (frames : Frames) (link : ScriptedLink) (peer : Scripted) :
    (∃ message, send frames link peer =
      (.failed (.transport message), link, { peer with script := peer.script.tail })) ∨
    send frames link peer = (.sent 0, { link with current := some peer.next },
      { peer with script := peer.script.tail, sent := peer.sent ++ [frames] }) := by
  cases hnext : peer.next with
  | sendFailure message => exact .inl ⟨message, by simp [send, hnext]⟩
  | _ => exact .inr (by simp [send, hnext])

theorem receive_current (limit : Nat) (link : ScriptedLink) (peer : Scripted) :
    (receive limit link peer).2.1.current = none := by
  unfold receive
  split <;> rfl

theorem receive_peer (limit : Nat) (link : ScriptedLink) (peer : Scripted) :
    (receive limit link peer).2.2 = peer := by
  unfold receive
  split <;> rfl

theorem receive_frames {limit : Nat} {reply : Frames}
    (h : (receive limit link peer).1 = .frames reply) :
    ∃ delay, link.current = some (.reply delay reply) := by
  unfold receive at h
  split at h
  · rename_i delay frames hcurrent
    dsimp only at h
    split at h
    · cases h
      exact ⟨delay, hcurrent⟩
    · cases h
  · dsimp only at h
    split at h <;> cases h
  · dsimp only at h
    split at h <;> cases h
  all_goals cases h

theorem reset_current (link : ScriptedLink) (peer : Scripted) :
    (reset link peer).2.1.current = none := by
  unfold reset
  split <;> rfl

theorem reset_script (link : ScriptedLink) (peer : Scripted) :
    (reset link peer).2.2.script = peer.script := by
  unfold reset
  split <;> rfl

theorem isOfChannel_of_reports {fault : Fault}
    (h : Channel.Reports Scripted ScriptedLink fault) : fault.isOfChannel = true := by
  cases h with
  | @send frames limit link peer _ h =>
      change (send frames link peer).1 = _ at h
      unfold send at h
      split at h
      · cases h
        rfl
      · cases h
  | @receive limit link peer _ h =>
      change (receive limit link peer).1 = _ at h
      unfold receive at h
      split at h
      · dsimp only at h
        split at h <;> cases h
      · dsimp only at h
        split at h
        · cases h
          rfl
        · cases h
      · dsimp only at h
        split at h
        · cases h
          rfl
        · cases h
      all_goals cases h
  | @reset link peer _ h =>
      change (reset link peer).1 = _ at h
      unfold reset at h
      dsimp only at h
      split at h
      · cases h
        rfl
      · cases h

/-! ## Runs -/

variable {script : List Item} {s : Session Scripted ScriptedLink}
  {events : List (Event Scripted ScriptedLink)}

/-- The message sent last, which nothing has happened to since, has taken the
item of the script with this number. -/
def Awaits (script : List Item) (events : List (Event Scripted ScriptedLink))
    (number : Nat) (item : Item) : Prop :=
  (∃ request took, lastUse? events = some (.send request (.sent took))) ∧
    messages events = number + 1 ∧ script[number]?.getD .silent = item

structure Paired (script : List Item) (s : Session Scripted ScriptedLink)
    (events : List (Event Scripted ScriptedLink)) : Prop where
  rest : s.isUsable = true → s.peer.script = script.drop (messages events)
  current : s.isUsable = true → ∀ link item, s.link = some link →
    link.current = some item → ∃ number, Awaits script events number item
  replies : Throughout (fun before event => ∀ reply,
    event.use = .receive (.frames reply) →
      ∃ delay number, Awaits script before number (.reply delay reply)) events

theorem next_eq {number : Nat} (h : peer.script = script.drop number) :
    peer.next = script[number]?.getD .silent := by
  rw [next, h, List.headD_eq_head?_getD, List.head?_drop]

theorem paired_nil (endpoint : Endpoint) (script : List Item) :
    Paired script (session endpoint script) [] where
  rest _ := rfl
  current := by
    rintro _ link item hlink hcurrent
    cases hlink
    cases hcurrent
  replies := .nil

theorem Paired.send {frames : Frames} {limit : Option Nat} (h : Paired script s events)
    (usable : s.isUsable = true) :
    Paired script (s.follow (.send frames limit link s.peer))
      (events ++ [.send frames limit link s.peer]) := by
  have hrest := h.rest usable
  rcases send_cases frames link s.peer with ⟨message, hsend⟩ | hsend
  · have hevent : Event.send frames limit link s.peer = _ := Event.send_eq hsend
    rw [hevent]
    refine ⟨?_, ?_, h.replies.concat nofun⟩
    · intro usable'
      cases (Session.isUsable_follow usable').2
    · intro usable'
      cases (Session.isUsable_follow usable').2
  · have hevent : Event.send frames limit link s.peer = _ := Event.send_eq hsend
    rw [hevent]
    refine ⟨?_, ?_, h.replies.concat nofun⟩
    · intro _
      rw [messages_concat, Session.follow_peer, hrest, List.tail_drop]
      rfl
    · intro _ link' item hlink hcurrent
      cases hlink
      cases hcurrent
      refine ⟨messages events, ⟨frames, 0, by rw [lastUse?_concat]⟩, ?_, ?_⟩
      · rw [messages_concat]
        rfl
      · exact (next_eq hrest).symm

theorem Paired.receive {limit : Nat} (h : Paired script s events)
    (usable : s.isUsable = true) (hlink : s.link = some link) :
    Paired script (s.follow (.receive limit link s.peer))
      (events ++ [.receive limit link s.peer]) := by
  refine ⟨?_, ?_, h.replies.concat ?_⟩
  · intro _
    rw [messages_concat]
    change (Scripted.receive limit link s.peer).2.2.script = _
    rw [receive_peer, h.rest usable]
    rfl
  · intro _ link' item hlink' hcurrent
    cases hlink'
    change (Scripted.receive limit link s.peer).2.1.current = _ at hcurrent
    rw [receive_current] at hcurrent
    cases hcurrent
  · intro reply hreply
    obtain ⟨delay, hcurrent⟩ := receive_frames (Use.receive.inj hreply)
    obtain ⟨number, awaits⟩ := h.current usable link _ hlink hcurrent
    exact ⟨delay, number, awaits⟩

theorem Paired.reset (h : Paired script s events) (usable : s.isUsable = true) :
    Paired script (s.follow (.reset link s.peer)) (events ++ [.reset link s.peer]) := by
  refine ⟨?_, ?_, h.replies.concat nofun⟩
  · intro _
    rw [messages_concat]
    change (Scripted.reset link s.peer).2.2.script = _
    rw [reset_script, h.rest usable]
    rfl
  · intro _ link' item hlink hcurrent
    cases hlink
    change (Scripted.reset link s.peer).2.1.current = _ at hcurrent
    rw [reset_current] at hcurrent
    cases hcurrent

theorem paired_invariant (script : List Item) : Session.Invariant (Paired script) where
  event := by
    intro s events event h usable makes
    cases makes with
    | send _ _ frames limit => exact h.send usable
    | receive _ hlink limit => exact h.receive usable hlink
    | reset => exact h.reset usable
  noting h _ := ⟨h.rest, h.current, h.replies⟩
  verified h usable _ := ⟨fun _ => h.rest usable, fun _ => h.current usable, h.replies⟩
  rejected h := ⟨nofun, nofun, h.replies⟩
  closed h := ⟨nofun, nofun, h.replies⟩

/-! ## Pairing -/

open Operation

theorem run_paired (endpoint : Endpoint) (script : List Item) (operations : List Operation) :
    Paired script (run operations (session endpoint script)).2
      (trace operations (session endpoint script)) := by
  have h := run_invariant (paired_invariant script) operations (paired_nil endpoint script)
  rwa [List.nil_append] at h

theorem run_takesTurns (endpoint : Endpoint) (script : List Item)
    (operations : List Operation) :
    (run operations (session endpoint script)).2.TakesTurns
      (trace operations (session endpoint script)) := by
  have h := run_invariant Session.takesTurns_invariant operations
    (Session.takesTurns_nil (s := session endpoint script) rfl)
  rwa [List.nil_append] at h

theorem Paired.reply (h : Paired script s events)
    {before after : List (Event Scripted ScriptedLink)} {event : Event Scripted ScriptedLink}
    {reply : Frames} (split : events = before ++ event :: after)
    (received : event.use = .receive (.frames reply)) :
    ∃ request took delay number, lastUse? before = some (.send request (.sent took)) ∧
      messages before = number + 1 ∧ script[number]? = some (.reply delay reply) := by
  obtain ⟨delay, number, ⟨request, took, last⟩, count, item⟩ :=
    h.replies before event after split reply received
  refine ⟨request, took, delay, number, last, count, ?_⟩
  cases hitem : script[number]? with
  | none => simp [hitem] at item
  | some found => simpa [hitem] using item

theorem Paired.exists_send (h : Paired script s events)
    {before between after : List (Event Scripted ScriptedLink)}
    {first second : Event Scripted ScriptedLink} {reply reply' : Frames}
    (split : events = before ++ first :: between ++ second :: after)
    (received : first.use = .receive (.frames reply))
    (received' : second.use = .receive (.frames reply')) :
    ∃ event ∈ between, event.use.isSend = true := by
  -- The event just before the second reply is a message, so it is not the first reply.
  obtain ⟨request, took, _, _, last, _⟩ := h.reply split received'
  induction between using List.reverseRecOn with
  | nil =>
      rw [lastUse?_concat, received] at last
      cases last
  | append_singleton rest event _ =>
      rw [← List.cons_append, ← List.append_assoc, lastUse?_concat] at last
      have sent : event.use = .send request (.sent took) := Option.some.inj last
      exact ⟨event, by simp, by rw [sent]; rfl⟩

/-- Requests and replies are paired.  A reply that arrives is what the script has
for the message sent last, to which nothing has happened since; no message is sent
while another one is unresolved, and none can be; and what an operation hands back
has just arrived. -/
theorem replies_answer_last_message (endpoint : Endpoint) (script : List Item)
    (operations : List Operation) :
    let events := trace operations (session endpoint script)
    let s := (run operations (session endpoint script)).2
    (∀ before event after reply, events = before ++ event :: after →
      event.use = .receive (.frames reply) →
        ∃ request took delay number, lastUse? before = some (.send request (.sent took)) ∧
          messages before = number + 1 ∧ script[number]? = some (.reply delay reply)) ∧
    (∀ before first between second after reply reply',
      events = before ++ first :: between ++ second :: after →
      first.use = .receive (.frames reply) → second.use = .receive (.frames reply') →
        ∃ event ∈ between, event.use.isSend = true) ∧
    (∀ before after, events = before ++ after → messages before ≤ resolutions before + 1) ∧
    (∀ before event after, events = before ++ event :: after →
      event.use.isSend = true → messages before = resolutions before) ∧
    (s.isUsable = true → resolutions events < messages events →
      (∀ frames limit,
        (Session.sendWithin frames limit).run s = (.error .transactionPending, s)) ∧
      ∀ operation, operation.isPoll = false → Operation.events operation s = []) ∧
    ∀ operation reply, (step operation s).1 = .ok (.frames reply) →
      lastUse? (Operation.events operation s) = some (.receive (.frames reply)) := by
  intro events s
  have paired := run_paired endpoint script operations
  have turns := run_takesTurns endpoint script operations
  refine ⟨?_, ?_, ?_, turns.turns, ?_, fun _ _ => lastUse?_of_frames⟩
  · intro before event after reply split received
    exact paired.reply split received
  · intro before first between second after reply reply' split received received'
    exact paired.exists_send split received received'
  · intro before after split
    exact turns.messages_le split
  · intro usable unresolved
    have pending : s.pending ≠ none := turns.pending usable unresolved
    refine ⟨Session.run_sendWithin_pending usable pending, ?_⟩
    intro operation otherwise
    exact events_of_pending usable pending otherwise

end MuxConsole.Peer.Scripted
