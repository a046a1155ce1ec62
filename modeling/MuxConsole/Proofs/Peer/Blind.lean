import MuxConsole.Proofs.Peer.Pairing

/-!
# Operations do not see what they leave of a script

An operation on a scripted channel takes some items off the front of the script.
With anything else in the place of the items that it leaves, it does the same.
-/

namespace MuxConsole.Peer.Scripted

variable {α β : Type} {s : Session Scripted ScriptedLink}

def reading (script : List Item) (s : Session Scripted ScriptedLink) :
    Session Scripted ScriptedLink :=
  { s with peer := { s.peer with script } }

/-! ## One use of the channel -/

theorem send_uniform (frames : Frames) (link : ScriptedLink) (script : List Item) :
    ∃ sending link' asked, ∀ peer : Scripted, peer.script = script →
      send frames link peer =
        (sending, link', { peer with script := script.tail, sent := peer.sent ++ asked }) := by
  cases hitem : script.headD .silent with
  | sendFailure message =>
      refine ⟨.failed (.transport message), link, [], ?_⟩
      rintro peer rfl
      rw [send, next, hitem, List.append_nil]
  | _ =>
      refine ⟨.sent 0, { link with current := some (script.headD .silent) }, [frames], ?_⟩
      rintro peer rfl
      rw [send, next, hitem]

theorem receive_uniform (limit : Nat) (link : ScriptedLink) :
    ∃ receiving link', ∀ peer, receive limit link peer = (receiving, link', peer) := by
  refine ⟨(receive limit link (ofScript [])).1, (receive limit link (ofScript [])).2.1, ?_⟩
  intro peer
  unfold receive
  split <;> rfl

theorem reset_uniform (link : ScriptedLink) :
    ∃ result, ∀ peer : Scripted,
      reset link peer = (result, ⟨none, none⟩, { peer with resets := peer.resets + 1 }) := by
  cases hfault : link.resetFault with
  | none => exact ⟨.ok (), fun peer => by rw [reset, hfault]⟩
  | some message => exact ⟨.error (.transport message), fun peer => by rw [reset, hfault]⟩

/-! ## Blindness -/

/-- Past its end a script is silent, so what comes after the items that are taken
can be replaced by something only if there is something. -/
def Blindly (f : Session Scripted ScriptedLink → β × Session Scripted ScriptedLink) : Prop :=
  ∀ s, ∃ used, s.peer.script = used ++ (f s).2.peer.script ∧
    ∀ rest, ((f s).2.peer.script = [] → rest = []) →
      f (reading (used ++ rest) s) = ((f s).1, reading rest (f s).2)

theorem blindly_mk (b : β) : Blindly (fun s => (b, s)) :=
  fun _ => ⟨[], rfl, fun _ _ => rfl⟩

theorem Blindly.andThen
    {f : Session Scripted ScriptedLink → α × Session Scripted ScriptedLink}
    {g : α → Session Scripted ScriptedLink → β × Session Scripted ScriptedLink}
    (first : Blindly f) (second : ∀ a, Blindly (g a)) :
    Blindly fun s => g (f s).1 (f s).2 := by
  intro s
  obtain ⟨used, split, same⟩ := first s
  obtain ⟨used', split', same'⟩ := second (f s).1 (f s).2
  refine ⟨used ++ used', ?_, ?_⟩
  · rw [List.append_assoc, ← split', ← split]
  · intro rest room
    -- What the second part takes is, to the first part, among what it leaves.
    have left : (f s).2.peer.script = [] → used' ++ rest = [] := by
      intro empty
      obtain ⟨none, rest_nil⟩ := List.append_eq_nil_iff.mp (split'.symm.trans empty)
      rw [none, room rest_nil, List.append_nil]
    have taken : f (reading (used ++ (used' ++ rest)) s) = _ := same (used' ++ rest) left
    dsimp only
    rw [List.append_assoc, taken]
    exact same' rest room

def Blind (act : Act Scripted ScriptedLink α) : Prop := Blindly act.run

/-- Whatever the script, it is left as it is and makes no difference. -/
def Oblivious (act : Act Scripted ScriptedLink α) : Prop :=
  ∀ s script, act.run (reading script s) = ((act.run s).1, reading script (act.run s).2)

theorem Oblivious.script {act : Act Scripted ScriptedLink α} (h : Oblivious act)
    (s : Session Scripted ScriptedLink) : (act.run s).2.peer.script = s.peer.script :=
  congrArg (fun result => result.2.peer.script) (h s s.peer.script)

theorem Oblivious.blind {act : Act Scripted ScriptedLink α} (h : Oblivious act) :
    Blind act := by
  intro s
  exact ⟨[], (h.script s).symm, fun rest _ => h s rest⟩

theorem Blind.bind {act : Act Scripted ScriptedLink α} {next : α → Act Scripted ScriptedLink β}
    (first : Blind act) (second : ∀ a, Blind (next a)) : Blind (act >>= next) := by
  let rest : Except Fault α → Session Scripted ScriptedLink →
      Except Fault β × Session Scripted ScriptedLink
    | .ok a => (next a).run
    | .error fault => fun t => (.error fault, t)
  have split : (act >>= next).run = fun s => rest (act.run s).1 (act.run s).2 := by
    funext s
    cases hact : act.run s with
    | mk result t =>
        cases result with
        | ok a => exact Act.run_bind_ok hact
        | error fault => exact Act.run_bind_error hact
  rw [Blind, split]
  refine first.andThen fun result => ?_
  cases result with
  | ok a => exact second a
  | error fault => exact blindly_mk _

theorem Oblivious.bind {act : Act Scripted ScriptedLink α}
    {next : α → Act Scripted ScriptedLink β} (first : Oblivious act)
    (second : ∀ a, Oblivious (next a)) : Oblivious (act >>= next) := by
  intro s script
  have same := first s script
  cases hact : act.run s with
  | mk result t =>
      rw [hact] at same
      cases result with
      | ok a =>
          rw [Act.run_bind_ok hact, Act.run_bind_ok same]
          exact second a t script
      | error fault => rw [Act.run_bind_error hact, Act.run_bind_error same]

theorem oblivious_ofExcept (result : Except Fault α) :
    Oblivious (Act.ofExcept result) :=
  fun _ _ => rfl

theorem oblivious_pure (a : α) : Oblivious (pure a) := fun _ _ => rfl

theorem Blind.get {next : Session Scripted ScriptedLink → Act Scripted ScriptedLink α}
    (h : ∀ s, Blind (next s)) (same : ∀ s script, next (reading script s) = next s) :
    Blind (MonadState.get >>= next) := by
  intro s
  obtain ⟨used, split, rest⟩ := h s s
  refine ⟨used, split, fun other room => ?_⟩
  rw [Act.run_get_bind, Act.run_get_bind, same]
  exact rest other room

/-! ## Parts of operations -/

open Session

theorem oblivious_ensureUsable : Oblivious ensureUsable := by
  intro s script
  cases dead : s.state.obstacle? with
  | none =>
      have usable : s.isUsable = true := by simp [isUsable, dead]
      rw [run_ensureUsable usable, run_ensureUsable (s := reading script s) usable]
  | some reason =>
      rw [run_ensureUsable_dead dead, run_ensureUsable_dead (s := reading script s) dead]

theorem oblivious_requireVerified : Oblivious requireVerified := by
  refine oblivious_ensureUsable.bind fun _ s script => ?_
  simp only [Act.run_get_bind, reading]
  split <;> rfl

theorem receiveOn_reading (limit : Nat) (link : ScriptedLink) (script : List Item) :
    (reading script s).receiveOn limit link =
      ((s.receiveOn limit link).1, reading script (s.receiveOn limit link).2) := by
  obtain ⟨receiving, link', same⟩ := receive_uniform limit link
  have hreceive (peer : Scripted) :
      Channel.receive limit link peer = (receiving, link', peer) := same peer
  simp only [receiveOn, hreceive]
  rfl

theorem oblivious_receiveWithin (limit : Nat) : Oblivious (receiveWithin limit) := by
  intro s script
  by_cases usable : s.isUsable = true
  · cases pending : s.pending with
    | none =>
        rw [run_receiveWithin_idle usable pending,
          run_receiveWithin_idle (s := reading script s) usable pending]
    | some command =>
        cases hlink : s.link with
        | none =>
            rw [run_receiveWithin_unlinked usable pending hlink,
              run_receiveWithin_unlinked (s := reading script s) usable pending hlink]
        | some link =>
            rw [run_receiveWithin usable pending hlink,
              run_receiveWithin (s := reading script s) usable pending hlink,
              receiveOn_reading]
            rfl
  · obtain ⟨reason, dead⟩ := exists_obstacle usable
    rw [run_receiveWithin_dead dead, run_receiveWithin_dead (s := reading script s) dead]

theorem oblivious_giveUp (timeout : Nat) : Oblivious (giveUp timeout) := by
  intro s script
  obtain ⟨endpoint, link, state, pending, identity, peer, log⟩ := s
  cases link with
  | none => rfl
  | some link =>
      obtain ⟨current, resetFault⟩ := link
      cases resetFault <;> rfl

theorem oblivious_poll (timeout : Nat) : Oblivious (poll timeout) := by
  refine (oblivious_receiveWithin timeout).bind fun result => ?_
  cases result with
  | some reply => exact oblivious_pure _
  | none => exact (oblivious_giveUp timeout).bind fun _ => oblivious_pure _

theorem sendOn_reading (s : Session Scripted ScriptedLink) (frames : Frames)
    (limit : Option Nat) (link : ScriptedLink) :
    ∃ used, s.peer.script = used ++ (s.sendOn frames limit link).2.peer.script ∧
      ∀ rest, ((s.sendOn frames limit link).2.peer.script = [] → rest = []) →
        (reading (used ++ rest) s).sendOn frames limit link =
          ((s.sendOn frames limit link).1, reading rest (s.sendOn frames limit link).2) := by
  obtain ⟨endpoint, _, state, pending, identity, ⟨unreachable, script, sent, resets⟩, log⟩ := s
  cases script with
  | nil =>
      refine ⟨[], rfl, fun rest room => ?_⟩
      rw [room rfl]
      rfl
  | cons item script =>
      refine ⟨[item], ?_, fun rest _ => ?_⟩
      · cases item <;> rfl
      · cases item <;> rfl

theorem blind_sendWithin (frames : Frames) (limit : Option Nat) :
    Blind (sendWithin frames limit) := by
  intro s
  by_cases usable : s.isUsable = true
  · by_cases idle : s.pending = none
    · cases hlink : s.link with
      | none =>
          have hrun (script : List Item) :=
            run_sendWithin_unlinked (s := reading script s) usable idle hlink frames limit
          rw [run_sendWithin_unlinked usable idle hlink]
          exact ⟨[], rfl, fun rest _ => hrun rest⟩
      | some link =>
          have hrun (script : List Item) :=
            run_sendWithin (s := reading script s) usable idle hlink frames limit
          obtain ⟨used, split, same⟩ := sendOn_reading s frames limit link
          rw [run_sendWithin usable idle hlink]
          refine ⟨used, split, fun rest room => ?_⟩
          rw [hrun, same rest room]
    · have hrun (script : List Item) :=
        run_sendWithin_pending (s := reading script s) usable idle frames limit
      rw [run_sendWithin_pending usable idle]
      exact ⟨[], rfl, fun rest _ => hrun rest⟩
  · obtain ⟨reason, dead⟩ := exists_obstacle usable
    have hrun (script : List Item) :=
      run_sendWithin_dead (s := reading script s) dead frames limit
    rw [run_sendWithin_dead dead]
    exact ⟨[], rfl, fun rest _ => hrun rest⟩

theorem blind_send (frames : Frames) : Blind (Session.send frames) := by
  intro s
  obtain ⟨used, split, same⟩ := blind_sendWithin frames none s
  unfold Session.send
  rw [Act.run_discard]
  refine ⟨used, split, fun rest room => ?_⟩
  rw [Act.run_discard, same rest room]

theorem blind_execute (frames : Frames) (timeout : Nat) : Blind (execute frames timeout) := by
  refine (blind_send frames).bind fun _ => (oblivious_poll timeout).blind.bind fun result => ?_
  cases result with
  | some reply => exact (oblivious_pure reply).blind
  | none => exact (oblivious_ofExcept (.error _)).blind

theorem blind_executeUntil (patience : Nat) (frames : Frames) (timeout : Nat) :
    Blind (executeUntil patience frames timeout) := by
  refine (blind_sendWithin frames (some patience)).bind fun sent => ?_
  cases sent with
  | none => exact (oblivious_pure none).blind
  | some took =>
      dsimp only
      split
      · refine (oblivious_poll timeout).blind.bind fun result => ?_
        cases result with
        | some reply => exact (oblivious_pure (some reply)).blind
        | none => exact (oblivious_ofExcept (.error _)).blind
      · exact (oblivious_receiveWithin _).blind

theorem blind_of_dialogue {act : Act Scripted ScriptedLink α}
    {act' : Act Scripted ScriptedLink α} (dialogue : Dialogue act act') : Blind act := by
  induction dialogue with
  | ofExcept result => exact (oblivious_ofExcept result).blind
  | noteAll log => exact Oblivious.blind fun _ _ => rfl
  | requireVerified => exact oblivious_requireVerified.blind
  | execute frames timeout => exact blind_execute frames timeout
  | wire _ ih => exact .get (fun _ => ih _) fun _ _ => rfl
  | bind _ _ first second => exact first.bind second

/-! ## Verification -/

theorem Blind.rejecting {act : Act Scripted ScriptedLink α} (h : Blind act) :
    Blind (rejecting act) := by
  intro s
  obtain ⟨used, split, same⟩ := h s
  unfold Session.rejecting
  cases hact : act.run s with
  | mk result t =>
      rw [hact] at split same
      cases result with
      | ok a =>
          rw [Act.run_tryCatch_ok hact]
          exact ⟨used, split, fun rest room => Act.run_tryCatch_ok (same rest room)⟩
      | error fault =>
          rw [Act.run_tryCatch_error hact]
          refine ⟨used, split, fun rest room => ?_⟩
          rw [Act.run_tryCatch_error (same rest room)]
          rfl

theorem blind_ping (timeout : Nat) : Blind (Session.ping timeout) := by
  refine Blind.rejecting ((blind_execute _ timeout).bind fun reply => ?_)
  split
  · exact Oblivious.blind fun _ _ => rfl
  · exact (oblivious_ofExcept (.error _)).blind

theorem blind_handshake (beginning : String) (timeout : Nat) :
    Blind (handshake beginning timeout) := by
  refine Blind.rejecting (Blind.bind ?_ fun identity => ?_)
  · refine (blind_execute _ timeout).bind fun reply => ?_
    cases reply with
    | nil => exact (oblivious_ofExcept (.error _)).blind
    | cons first rest => exact (oblivious_ofExcept _).blind
  · split
    · exact Oblivious.blind fun _ _ => rfl
    · exact (oblivious_ofExcept (.error _)).blind

theorem blind_validate (beginning : String) (timeout : Nat) :
    Blind (Session.validate beginning timeout) := by
  refine .get (fun s => ?_) fun _ _ => rfl
  cases s.identity with
  | none => exact blind_handshake beginning timeout
  | some identity =>
      dsimp only
      split
      · exact (oblivious_pure identity).blind
      · exact blind_handshake beginning timeout

/-! ## Operations -/

open Operation

theorem blind_perform (operation : Operation) : Blind operation.perform := by
  have wrapped {α : Type} {act : Act Scripted ScriptedLink α} (h : Blind act)
      (f : α → Outcome) : Blind (act >>= fun a => pure (f a)) :=
    h.bind fun _ => (oblivious_pure _).blind
  cases gated : operation.isGated with
  | true => exact blind_of_dialogue (dialogue gated)
  | false =>
      cases operation with
      | send frames => exact wrapped (blind_send frames) _
      | poll timeout => exact wrapped (oblivious_poll timeout).blind _
      | execute frames timeout => exact wrapped (blind_execute frames timeout) _
      | executeUntil patience frames timeout =>
          exact wrapped (blind_executeUntil patience frames timeout) _
      | sendUntil patience frames => exact wrapped (blind_sendWithin frames _) _
      | pollUntil patience => exact wrapped (oblivious_receiveWithin patience).blind _
      | ping timeout => exact wrapped (blind_ping timeout) _
      | validate beginning timeout => exact wrapped (blind_validate beginning timeout) _
      | requireVerified => exact wrapped oblivious_requireVerified.blind _
      | close => exact Oblivious.blind fun _ _ => rfl
      | _ => cases gated

end MuxConsole.Peer.Scripted
