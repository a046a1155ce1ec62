import MuxConsole.Proofs.Peer.Blind
import MuxConsole.Proofs.Session.Idle

/-!
# Failures of single transactions

An exchange that times out, whose reply cannot be read or is a refusal leaves no
trace but in the counts of the peer.  A run without it, and without the items of the
script that it took, goes as the run with it does.
-/

namespace MuxConsole

variable {ω σ ω' σ' α : Type} [Channel ω σ] [Channel ω' σ']

/-! ## Observations -/

/-- What a caller sees of an operation and of the session after it. -/
structure Observation where
  result : Except Fault Outcome
  state : SessionState
  usable : Bool
  pending : Option String
  identity : Option Identity

namespace Operation

def observe (operation : Operation) (s : Session ω σ) : Observation :=
  let (result, t) := step operation s
  ⟨result, t.state, t.isUsable, t.pending, t.identity⟩

def observations : List Operation → Session ω σ → List Observation
  | [], _ => []
  | operation :: rest, s => observe operation s :: observations rest (step operation s).2

theorem run_append (before after : List Operation) (s : Session ω σ) :
    (run (before ++ after) s).2 = (run after (run before s).2).2 := by
  induction before generalizing s with
  | nil => rfl
  | cons operation rest ih => exact ih (step operation s).2

theorem observations_append (before after : List Operation) (s : Session ω σ) :
    observations (before ++ after) s =
      observations before s ++ observations after (run before s).2 := by
  induction before generalizing s with
  | nil => rfl
  | cons operation rest ih => exact congrArg (observe operation s :: ·) (ih _)

theorem length_observations (operations : List Operation) (s : Session ω σ) :
    (observations operations s).length = operations.length := by
  induction operations generalizing s with
  | nil => rfl
  | cons operation rest ih => exact congrArg (· + 1) (ih _)

theorem observe_lockstep {R : Session ω σ → Session ω' σ' → Prop} (h : Session.Lockstep R)
    (operation : Operation) {s : Session ω σ} {t : Session ω' σ'} (related : R s t) :
    observe operation s = observe operation t := by
  obtain ⟨same, after⟩ := step_lockstep h operation related
  have agree := h.agree after
  simp only [observe, same, agree.state, agree.isUsable, agree.pending, agree.identity]

theorem observations_lockstep {R : Session ω σ → Session ω' σ' → Prop}
    (h : Session.Lockstep R) (operations : List Operation) {s : Session ω σ}
    {t : Session ω' σ'} (related : R s t) :
    observations operations s = observations operations t := by
  induction operations generalizing s t with
  | nil => rfl
  | cons operation rest ih =>
      rw [observations, observations, observe_lockstep h operation related,
        ih (step_lockstep h operation related).2]

end Operation

namespace Peer.Scripted

open Operation

/-! ## Runs on a script -/

theorem blindly_observe (operation : Operation) :
    Blindly fun s => (observe operation s, (step operation s).2) := by
  intro s
  obtain ⟨used, split, same⟩ := blind_perform operation s
  refine ⟨used, split, fun rest room => ?_⟩
  have after : step operation (reading (used ++ rest) s) = _ := same rest room
  dsimp only
  rw [observe, after]
  rfl

theorem blindly_run (operations : List Operation) :
    Blindly fun s => (observations operations s, (run operations s).2) := by
  induction operations with
  | nil => exact blindly_mk []
  | cons operation rest ih =>
      exact (blindly_observe operation).andThen
        (g := fun own s => (own :: observations rest s, (run rest s).2))
        fun own => ih.andThen (g := fun others s => (own :: others, s)) fun _ => blindly_mk _

/-! ## Links between transactions -/

variable {s t : Session Scripted ScriptedLink}

structure Clean (s : Session Scripted ScriptedLink) : Prop where
  linked : s.isUsable = true → ∃ link, s.link = some link
  idle : s.isUsable = true → s.pending = none → s.link = some ⟨none, none⟩
  sound : s.isUsable = true → ∀ link, s.link = some link → link.current ≠ none →
    link.resetFault = none

theorem clean_session (endpoint : Endpoint) (script : List Item) :
    Clean (session endpoint script) where
  linked _ := ⟨_, rfl⟩
  idle _ _ := rfl
  sound := by
    rintro _ link ⟨⟩ _
    rfl

variable {link : ScriptedLink}

theorem Clean.send {frames : Frames} {limit : Option Nat} (h : Clean s)
    (usable : s.isUsable = true) (idle : s.pending = none) (hlink : s.link = some link) :
    Clean (s.follow (.send frames limit link s.peer)) := by
  have fresh : link.resetFault = none := by
    obtain rfl := Option.some.inj (hlink.symm.trans (h.idle usable idle))
    rfl
  rcases send_cases frames link s.peer with ⟨message, hsend⟩ | hsend
  · have hevent : Event.send frames limit link s.peer = _ := Event.send_eq hsend
    rw [hevent]
    exact ⟨nofun, nofun, nofun⟩
  · have hevent : Event.send frames limit link s.peer = _ := Event.send_eq hsend
    rw [hevent]
    refine ⟨fun _ => ⟨_, rfl⟩, nofun, ?_⟩
    rintro _ _ ⟨⟩ _
    exact fresh

theorem receive_link_of_frames {limit : Nat} {reply : Frames} {peer : Scripted}
    (h : (receive limit link peer).1 = .frames reply) :
    (receive limit link peer).2.1 = ⟨none, link.resetFault⟩ ∧ link.current ≠ none := by
  obtain ⟨delay, current⟩ := receive_frames h
  simp [receive, current]

theorem Clean.receive {limit : Nat} (h : Clean s) (usable : s.isUsable = true)
    (pending : s.pending ≠ none) (hlink : s.link = some link) :
    Clean (s.follow (.receive limit link s.peer)) := by
  have current := receive_current limit link s.peer
  refine ⟨fun _ => ⟨_, rfl⟩, ?_, ?_⟩
  · intro usable' idle
    obtain ⟨_, sound⟩ := Session.isUsable_follow usable'
    rw [Session.follow_pending] at idle
    change (Use.receive (Scripted.receive limit link s.peer).1).pendingAfter _ = none at idle
    change (Use.receive (Scripted.receive limit link s.peer).1).fails = false at sound
    change some (Scripted.receive limit link s.peer).2.1 = _
    cases hreceiving : (Scripted.receive limit link s.peer).1 with
    | nothing =>
        rw [hreceiving] at idle
        exact absurd idle pending
    | failed fault =>
        rw [hreceiving] at sound
        cases sound
    | frames reply =>
        obtain ⟨after, busy⟩ := receive_link_of_frames hreceiving
        rw [after, h.sound usable link hlink busy]
  · rintro _ _ ⟨⟩ busy
    exact absurd current busy

theorem clean_reset (s : Session Scripted ScriptedLink) (link : ScriptedLink) :
    Clean (s.follow (.reset link s.peer)) := by
  refine ⟨fun _ => ⟨_, rfl⟩, fun _ _ => ?_, ?_⟩
  · change some (Scripted.reset link s.peer).2.1 = _
    unfold Scripted.reset
    split <;> rfl
  · rintro _ _ ⟨⟩ busy
    exact absurd (reset_current link s.peer) busy

theorem clean_invariant :
    Session.Invariant fun s (_ : List (Event Scripted ScriptedLink)) => Clean s where
  event := by
    intro s events event h usable makes
    cases makes with
    | send idle hlink frames limit => exact h.send usable idle hlink
    | receive pending hlink limit => exact h.receive usable pending hlink
    | @reset link => exact clean_reset s link
  noting h _ := ⟨h.linked, h.idle, h.sound⟩
  verified h usable _ :=
    ⟨fun _ => h.linked usable, fun _ => h.idle usable, fun _ => h.sound usable⟩
  rejected h := ⟨nofun, nofun, nofun⟩
  closed h := ⟨nofun, nofun, nofun⟩

theorem clean_run (endpoint : Endpoint) (script : List Item) (operations : List Operation) :
    Clean (run operations (session endpoint script)).2 :=
  run_keeps clean_invariant operations (clean_session endpoint script)

/-! ## Counts -/

def Counts (peer peer' : Scripted) (asked : List Frames) (resets : Nat) : Prop :=
  peer'.sent = peer.sent ++ asked ∧ peer'.resets = peer.resets + resets

theorem Counts.sent {start peer : Scripted} {asked : List Frames} {resets : Nat}
    (h : Counts start peer asked resets) (script : List Item) (more : List Frames) :
    Counts start { peer with script, sent := peer.sent ++ more } (asked ++ more) resets :=
  ⟨by rw [h.1, List.append_assoc], h.2⟩

theorem Counts.reset {start peer : Scripted} {asked : List Frames} {resets : Nat}
    (h : Counts start peer asked resets) :
    Counts start { peer with resets := peer.resets + 1 } asked (resets + 1) :=
  ⟨h.1, by rw [h.2, Nat.add_assoc]⟩

/-- Two sessions that differ at most in their logs and in what their peers have
counted, where they have counted the same since they began. -/
structure Abreast (start start' : Scripted) (s t : Session Scripted ScriptedLink) : Prop where
  endpoint : s.endpoint = t.endpoint
  link : s.link = t.link
  state : s.state = t.state
  pending : s.pending = t.pending
  identity : s.identity = t.identity
  script : s.peer.script = t.peer.script
  counts : ∃ asked resets,
    Counts start s.peer asked resets ∧ Counts start' t.peer asked resets

variable {start start' : Scripted}

theorem Abreast.after (h : Abreast start start' s t) (use : Use) (link : ScriptedLink)
    {peer peer' : Scripted} (script : peer.script = peer'.script)
    (counts : ∃ asked resets, Counts start peer asked resets ∧ Counts start' peer' asked resets) :
    Abreast start start' (s.after use link peer) (t.after use link peer') where
  endpoint := h.endpoint
  link := rfl
  state := by simp only [Session.after, h.state]
  pending := by simp only [Session.after, h.pending]
  identity := h.identity
  script := script
  counts := counts

theorem abreast_lockstep (start start' : Scripted) :
    Session.Lockstep (Abreast start start') where
  agree h := ⟨h.endpoint, h.state, h.pending, h.identity, by rw [h.link]⟩
  noting h _ := ⟨h.endpoint, h.link, h.state, h.pending, h.identity, h.script, h.counts⟩
  sendOn := by
    intro s t link link' h _ _ hs ht frames limit
    obtain rfl : link = link' := Option.some.inj (hs.symm.trans (h.link.trans ht))
    obtain ⟨sending, link', asked, same⟩ := send_uniform frames link s.peer.script
    obtain ⟨earlier, resets, counts, counts'⟩ := h.counts
    have hsend : Channel.send frames limit link s.peer = _ := same s.peer rfl
    have hsend' : Channel.send frames limit link t.peer = _ := same t.peer h.script.symm
    rw [Session.sendOn, Session.sendOn, hsend, hsend']
    exact ⟨rfl, h.after _ link' rfl ⟨_, _, counts.sent _ asked, counts'.sent _ asked⟩⟩
  receiveOn := by
    intro s t link link' h _ _ hs ht limit
    obtain rfl : link = link' := Option.some.inj (hs.symm.trans (h.link.trans ht))
    obtain ⟨receiving, link', same⟩ := receive_uniform limit link
    have hreceive (peer : Scripted) : Channel.receive limit link peer = _ := same peer
    rw [Session.receiveOn, Session.receiveOn, hreceive, hreceive]
    exact ⟨rfl, h.after _ link' h.script h.counts⟩
  resetOn := by
    intro s t link link' h _ _ hs ht
    obtain rfl : link = link' := Option.some.inj (hs.symm.trans (h.link.trans ht))
    obtain ⟨result, same⟩ := reset_uniform link
    obtain ⟨asked, resets, counts, counts'⟩ := h.counts
    have hreset (peer : Scripted) : Channel.reset link peer = _ := same peer
    rw [Session.resetOn, Session.resetOn, hreset, hreset]
    exact ⟨rfl, h.after _ _ h.script ⟨_, _, counts.reset, counts'.reset⟩⟩
  verified h _ _ :=
    ⟨h.endpoint, h.link, rfl, h.pending, by simp only [Session.verifiedAs, h.identity],
      h.script, h.counts⟩
  rejected h := ⟨h.endpoint, h.link, rfl, h.pending, h.identity, h.script, h.counts⟩
  closed h := ⟨h.endpoint, rfl, rfl, rfl, h.identity, h.script, h.counts⟩

theorem abreast_self (s : Session Scripted ScriptedLink) : Abreast s.peer s.peer s s :=
  ⟨rfl, rfl, rfl, rfl, rfl, rfl, [], 0, ⟨(List.append_nil _).symm, rfl⟩,
    (List.append_nil _).symm, rfl⟩

theorem step_counts (operation : Operation) (s : Session Scripted ScriptedLink) :
    ∃ asked resets, Counts s.peer (step operation s).2.peer asked resets := by
  obtain ⟨_, after⟩ := step_lockstep (abreast_lockstep s.peer s.peer) operation (abreast_self s)
  obtain ⟨asked, resets, counts, _⟩ := after.counts
  exact ⟨asked, resets, counts⟩

/-! ## Leaving a failed exchange out -/

/-- After an exchange that failed on its own account a session is what it was, but for
the items that are gone and what the peer has counted. -/
theorem abreast_of_isLocal {operation : Operation} {fault : Fault} (clean : Clean s)
    (cleanAfter : Clean (step operation s).2) (exchanges : operation.exchanges = true)
    (failed : (step operation s).1 = .error fault) (own : fault.isLocal = true) :
    Abreast (step operation s).2.peer s.peer (step operation s).2
      (reading (step operation s).2.peer.script s) := by
  obtain ⟨usable, idle, stays, idleAfter⟩ :=
    stays_of_isLocal exchanges (fun _ => isOfChannel_of_reports) clean.linked failed own
  have usableAfter := stays.isUsable usable
  have link := (cleanAfter.idle usableAfter idleAfter).trans (clean.idle usable idle).symm
  exact ⟨stays.endpoint, link, stays.state, idleAfter.trans idle.symm, stays.identity, rfl,
    [], 0, ⟨(List.append_nil _).symm, rfl⟩, (List.append_nil _).symm, rfl⟩

/-- An exchange that failed on its own account can be left out of a run, with the items
that it took.  All else goes as it does with it, and the peer has got fewer messages
and its channel fewer resets by those of the exchange alone. -/
theorem local_faults_leave_no_trace (endpoint : Endpoint) (script : List Item)
    (before after : List Operation) (operation : Operation) (fault : Fault)
    (exchanges : operation.exchanges = true)
    (failed : (step operation (run before (session endpoint script)).2).1 = .error fault)
    (own : fault.isLocal = true) :
    let s := (run before (session endpoint script)).2
    let t := (step operation s).2
    ∃ taken consumed left, script = taken ++ consumed ++ left ∧
      s.peer.script = consumed ++ left ∧ t.peer.script = left ∧
      let whole := session endpoint script
      let without := session endpoint (taken ++ left)
      observations (before ++ after) without =
        (observations (before ++ operation :: after) whole).eraseIdx before.length ∧
      ∃ asked resets later more, Counts s.peer t.peer asked resets ∧
        Counts t.peer (run (before ++ operation :: after) whole).2.peer later more ∧
        Counts s.peer (run (before ++ after) without).2.peer later more := by
  intro s t
  obtain ⟨taken, splitBefore, sameBefore⟩ := blindly_run before (session endpoint script)
  obtain ⟨consumed, split, _⟩ := blind_perform operation s
  obtain ⟨asked, resets, counts⟩ := step_counts operation s
  have clean : Clean s := clean_run endpoint script before
  have cleanAfter : Clean t := step_keeps clean_invariant operation clean
  have room : s.peer.script = [] → t.peer.script = [] := by
    intro empty
    exact (List.append_eq_nil_iff.mp (split.symm.trans empty)).2
  obtain ⟨sameBefore, upTo⟩ := Prod.mk.inj (sameBefore t.peer.script room)
  change (run before (session endpoint (taken ++ t.peer.script))).2 =
    reading t.peer.script s at upTo
  change observations before (session endpoint (taken ++ t.peer.script)) = _ at sameBefore
  have related : Abreast t.peer s.peer t (reading t.peer.script s) :=
    abreast_of_isLocal clean cleanAfter exchanges failed own
  have lockstep := abreast_lockstep t.peer s.peer
  obtain ⟨later, more, last, last'⟩ := (run_lockstep lockstep after related).2.counts
  refine ⟨taken, consumed, t.peer.script, ?_, split, rfl, ?_, asked, resets, later, more,
    counts, ?_, ?_⟩
  · rw [List.append_assoc]
    exact splitBefore.trans (congrArg (taken ++ ·) split)
  · rw [observations_append, observations_append, sameBefore, upTo,
      ← observations_lockstep lockstep after related,
      ← length_observations before (session endpoint script),
      List.eraseIdx_append_of_length_le (Nat.le_refl _), Nat.sub_self]
    rfl
  · rw [run_append]
    exact last
  · rw [run_append, upTo]
    exact last'

/-- Loading all modules fails at the second one, and the next question is answered as
if it had been the first. -/
theorem timeout_among_modules_leaves_no_trace :
    let endpoint : Endpoint := .remoteControl "127.0.0.1"
    let script : List Item := [.reply 0 (.ofTexts ["ok"]), .reply 0 (.ofTexts ["a", "b"]),
      .reply 0 (.ofTexts ["gain: 1"]), .silent, .reply 0 (.ofTexts ["a"])]
    let whole := session endpoint script
    (step (.loadModules 5) (run [.ping 5] whole).2).1 = .error (.timeout "show" 5000) ∧
      ∃ taken consumed left, script = taken ++ consumed ++ left ∧
        observations [.ping 5, .listModules 5] (session endpoint (taken ++ left)) =
          (observations [.ping 5, .loadModules 5, .listModules 5] whole).eraseIdx 1 := by
  intro endpoint script whole
  have failed : (step (.loadModules 5) (run [.ping 5] whole).2).1 =
      .error (.timeout "show" 5000) := rfl
  obtain ⟨taken, consumed, left, split, _, _, same, _⟩ :=
    local_faults_leave_no_trace endpoint script [.ping 5] [.listModules 5] (.loadModules 5) _
      rfl failed rfl
  exact ⟨failed, taken, consumed, left, split, same⟩

end Peer.Scripted

end MuxConsole
