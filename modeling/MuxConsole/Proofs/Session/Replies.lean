import MuxConsole.Proofs.Session.Turns

/-!
# What operations hand back and what they are refused

A reply that an operation hands back as it is has just been received.  While a
request is pending nothing but a poll reaches the channel, and a question to a
server that has not been verified does not either.
-/

namespace MuxConsole

variable {ω σ α : Type} [Channel ω σ]

/-! ## Replies -/

namespace Session

theorem executeUntil_ok_some {patience timeout : Nat} {frames reply : Frames}
    {s t : Session ω σ} (h : (executeUntil patience frames timeout).run s = (.ok (some reply), t)) :
    ∃ limit u, (receiveWithin limit).run u = (.ok (some reply), t) := by
  obtain ⟨sent, u, _, hrest⟩ := Act.exists_of_bind_ok h
  cases sent with
  | none => cases hrest
  | some took =>
      dsimp only at hrest
      split at hrest
      · obtain ⟨result, _, hpoll, hresult⟩ := Act.exists_of_bind_ok hrest
        cases result with
        | none => cases hresult
        | some reply =>
            cases hresult
            exact ⟨timeout, u, poll_ok_some hpoll⟩
      · exact ⟨_, u, hrest⟩

end Session

open Session

theorem Operation.perform_frames {operation : Operation} {reply : Frames}
    {s t : Session ω σ} (h : operation.perform.run s = (.ok (.frames reply), t)) :
    ∃ limit u, (receiveWithin limit).run u = (.ok (some reply), t) := by
  cases operation with
  | poll timeout =>
      obtain ⟨result, u, hpoll, hresult⟩ := Act.exists_of_bind_ok h
      cases result with
      | none => cases hresult
      | some reply =>
          cases hresult
          exact ⟨timeout, s, poll_ok_some hpoll⟩
  | execute frames timeout =>
      obtain ⟨reply, u, hexecute, hresult⟩ := Act.exists_of_bind_ok h
      cases hresult
      obtain ⟨_, u, _, hreceive⟩ := execute_ok hexecute
      exact ⟨timeout, u, hreceive⟩
  | executeUntil patience frames timeout =>
      obtain ⟨result, u, hexecute, hresult⟩ := Act.exists_of_bind_ok h
      cases result with
      | none => cases hresult
      | some reply =>
          cases hresult
          exact executeUntil_ok_some hexecute
  | pollUntil patience =>
      obtain ⟨result, u, hreceive, hresult⟩ := Act.exists_of_bind_ok h
      cases result with
      | none => cases hresult
      | some reply =>
          cases hresult
          exact ⟨patience, s, hreceive⟩
  | sendUntil patience frames =>
      obtain ⟨took, _, _, hresult⟩ := Act.exists_of_bind_ok h
      cases took <;> cases hresult
  | _ =>
      obtain ⟨_, _, _, hresult⟩ := Act.exists_of_bind_ok h
      cases hresult

theorem Session.lastUse?_of_receiveWithin {limit : Nat} {reply : Frames}
    {t u : Session (Recorded ω σ) σ}
    (h : (receiveWithin limit).run t = (.ok (some reply), u)) :
    lastUse? u.peer.events = some (.receive (.frames reply)) := by
  obtain ⟨_, link, _, _, _, hreceive⟩ := receiveWithin_ok h
  obtain ⟨hreply, rfl⟩ := Prod.mk.inj hreceive
  change lastUse? (t.peer.events ++ [Event.receive limit link t.peer.peer]) = _
  rw [lastUse?_concat]
  exact congrArg (fun receiving => some (Use.receive receiving)) hreply

theorem Operation.lastUse?_of_frames {operation : Operation} {reply : Frames}
    {s : Session ω σ} (h : (step operation s).1 = .ok (.frames reply)) :
    lastUse? (events operation s) = some (.receive (.frames reply)) := by
  have hrecorded := step_recording_nil operation s
  rw [h] at hrecorded
  obtain ⟨limit, u, hreceive⟩ := perform_frames hrecorded
  have hlast := lastUse?_of_receiveWithin hreceive
  exact hlast

/-! ## Refusals -/

namespace Session

variable {s : Session ω σ} {fault : Fault}

theorem run_send_error {frames : Frames}
    (h : (sendWithin frames none).run s = (.error fault, s)) :
    (send frames).run s = (.error fault, s) := by
  rw [send, Act.run_discard, h]
  rfl

theorem run_execute_error {frames : Frames} (timeout : Nat)
    (h : (sendWithin frames none).run s = (.error fault, s)) :
    (execute frames timeout).run s = (.error fault, s) :=
  Act.run_bind_error (run_send_error h)

theorem run_executeUntil_error {patience : Nat} {frames : Frames} (timeout : Nat)
    (h : (sendWithin frames (some patience)).run s = (.error fault, s)) :
    (executeUntil patience frames timeout).run s = (.error fault, s) :=
  Act.run_bind_error h

/-- Whatever a verified server would be asked next, the session refuses. -/
def Bars (s : Session ω σ) (fault : Fault) : Prop :=
  ∀ (α : Type) (frames : Frames) (timeout : Nat) (next : Frames → Act ω σ α),
    (requireVerified >>= fun _ => execute frames timeout >>= next).run s = (.error fault, s)

theorem bars_of_unverified (unverified : s.state ≠ .verified) :
    ∃ fault, s.Bars fault ∧ (fault = .notVerified ∨ ∃ reason, fault = .unusable reason) := by
  obtain ⟨fault, hfault, kind⟩ := run_requireVerified_error unverified
  exact ⟨fault, fun _ _ _ _ => Act.run_bind_error hfault, kind⟩

theorem bars_of_pending (verified : s.state = .verified) (pending : s.pending ≠ none) :
    s.Bars .transactionPending := by
  intro α frames timeout next
  have usable : s.isUsable = true := isUsable_iff.mpr (.inr verified)
  rw [Act.run_bind_ok (run_requireVerified verified)]
  exact Act.run_bind_error
    (run_execute_error timeout (run_sendWithin_pending usable pending frames none))

end Session

namespace Operation

variable {s : Session ω σ} {fault : Fault}

def isPoll : Operation → Bool
  | .poll _ | .pollUntil _ => true
  | _ => false

theorem step_bars {operation : Operation} (gated : operation.isGated = true)
    (bars : s.Bars fault) : step operation s = (.error fault, s) := by
  cases operation with
  | values timeout =>
      exact Act.run_bind_error (Act.run_bind_error (bars _ _ timeout _))
  | config timeout =>
      exact Act.run_bind_error (Act.run_bind_error (bars _ _ timeout _))
  | readTree timeout =>
      exact Act.run_bind_error (Act.run_bind_error (bars _ _ timeout _))
  | writeTree tree timeout => exact Act.run_bind_error (bars _ _ timeout _)
  | listModules timeout => exact Act.run_bind_error (bars _ _ timeout _)
  | showParameters module timeout => exact Act.run_bind_error (bars _ _ timeout _)
  | loadModules timeout =>
      exact Act.run_bind_error (Act.run_bind_error (bars _ _ timeout _))
  | getParameter module parameter timeout =>
      exact Act.run_bind_error (bars _ _ timeout _)
  | setParameter module parameter value timeout =>
      exact Act.run_bind_error (bars _ _ timeout _)
  | _ => cases gated

theorem events_eq_nil {operation : Operation} {s : Session ω σ}
    {t : Session (Recorded ω σ) σ} {result : Except Fault Outcome}
    (h : step operation (s.recording []) = (result, t)) (quiet : t.peer.events = []) :
    events operation s = [] := by
  rw [events, h]
  exact quiet

end Operation

namespace Session

omit [Channel ω σ] in
theorem run_rejecting_error {act : Act ω σ α} {s : Session ω σ} {fault : Fault}
    (h : act.run s = (.error fault, s)) :
    (rejecting act).run s =
      (.error fault, (s.noting [.rejecting s.endpoint]).rejected) := by
  rw [rejecting, Act.run_tryCatch_error h]
  rfl

theorem run_ping_error {s : Session ω σ} {fault : Fault} (timeout : Nat)
    (h : ∀ frames, (sendWithin frames none).run s = (.error fault, s)) :
    (ping timeout).run s = (.error fault, (s.noting [.rejecting s.endpoint]).rejected) :=
  run_rejecting_error (Act.run_bind_error (run_execute_error timeout (h _)))

theorem run_handshake_error {s : Session ω σ} {fault : Fault} (beginning : String)
    (timeout : Nat) (h : ∀ frames, (sendWithin frames none).run s = (.error fault, s)) :
    (handshake beginning timeout).run s =
      (.error fault, (s.noting [.rejecting s.endpoint]).rejected) :=
  run_rejecting_error
    (Act.run_bind_error (Act.run_bind_error (run_execute_error timeout (h _))))

theorem run_validate_eq (beginning : String) (timeout : Nat) (s : Session ω σ) :
    (validate beginning timeout).run s =
      (s.identity.filter fun identity => s.isUsable && identity.matchesName beginning).elim
        ((handshake beginning timeout).run s) fun identity => (.ok identity, s) := by
  unfold validate
  rw [Act.run_get_bind]
  cases s.identity with
  | none => rfl
  | some identity =>
      cases known : s.isUsable && identity.matchesName beginning with
      | true => simp [Option.filter, known]
      | false => simp [Option.filter, known]

theorem run_validate (beginning : String) (timeout : Nat) (s : Session ω σ) :
    (∃ identity, s.identity = some identity ∧ s.isUsable = true ∧
      identity.matchesName beginning = true ∧
      (validate beginning timeout).run s = (.ok identity, s)) ∨
    (validate beginning timeout).run s = (handshake beginning timeout).run s := by
  rw [run_validate_eq]
  cases hknown : s.identity.filter fun identity =>
      s.isUsable && identity.matchesName beginning with
  | none => exact .inr rfl
  | some identity =>
      obtain ⟨known, fits⟩ := Option.filter_eq_some_iff.mp hknown
      obtain ⟨usable, fits⟩ := Bool.and_eq_true_iff.mp fits
      exact .inl ⟨identity, known, usable, fits, rfl⟩

end Session

namespace Operation

def beginsWithMessage : Operation → Bool
  | .send _ | .sendUntil .. | .execute .. | .executeUntil .. | .ping _ | .validate .. => true
  | _ => false

theorem step_refused {operation : Operation} {s : Session ω σ} {fault : Fault}
    (begins : operation.beginsWithMessage = true)
    (refused : ∀ frames limit, (sendWithin frames limit).run s = (.error fault, s)) :
    step operation s = (.error fault, s) ∨
      step operation s = (.error fault, (s.noting [.rejecting s.endpoint]).rejected) ∨
      s.isUsable = true ∧ ∃ identity, step operation s = (.ok (.identity identity), s) := by
  cases operation with
  | send frames => exact .inl (Act.run_bind_error (run_send_error (refused frames none)))
  | sendUntil patience frames => exact .inl (Act.run_bind_error (refused frames _))
  | execute frames timeout =>
      exact .inl (Act.run_bind_error (run_execute_error timeout (refused frames none)))
  | executeUntil patience frames timeout =>
      exact .inl (Act.run_bind_error (run_executeUntil_error timeout (refused frames _)))
  | ping timeout =>
      have hping := run_ping_error timeout fun frames => refused frames none
      exact .inr (.inl (Act.run_bind_error hping))
  | validate beginning timeout =>
      rcases run_validate beginning timeout s with ⟨identity, _, usable, _, known⟩ | fresh
      · exact .inr (.inr ⟨usable, identity, Act.run_bind_ok known⟩)
      · rw [run_handshake_error beginning timeout fun frames => refused frames none] at fresh
        exact .inr (.inl (Act.run_bind_error fresh))
  | _ => cases begins

/-- While a request is pending, nothing but a poll reaches the channel. -/
theorem events_of_pending {operation : Operation} {s : Session ω σ}
    (usable : s.isUsable = true) (pending : s.pending ≠ none)
    (otherwise : operation.isPoll = false) : events operation s = [] := by
  cases gated : operation.isGated with
  | true =>
      by_cases verified : s.state = .verified
      · exact events_eq_nil (step_bars gated (bars_of_pending verified pending)) rfl
      · obtain ⟨fault, bars, _⟩ := bars_of_unverified (s := s.recording []) verified
        exact events_eq_nil (step_bars gated bars) rfl
  | false =>
      cases begins : operation.beginsWithMessage with
      | true =>
          have refused : ∀ frames limit, (sendWithin frames limit).run (s.recording []) =
              (.error .transactionPending, s.recording []) := fun frames limit =>
            run_sendWithin_pending (s := s.recording []) usable pending frames limit
          rcases step_refused begins refused with h | h | ⟨_, identity, h⟩
          · exact events_eq_nil h rfl
          · exact events_eq_nil h rfl
          · exact events_eq_nil h rfl
      | false =>
          have plain : (operation.isGated || operation.beginsWithMessage) = false := by
            rw [gated, begins, Bool.or_self]
          cases operation with
          | requireVerified =>
              by_cases verified : s.state = .verified
              · exact events_eq_nil (Act.run_bind_ok (run_requireVerified verified)) rfl
              · obtain ⟨fault, herror, _⟩ :=
                  run_requireVerified_error (s := s.recording []) verified
                exact events_eq_nil (Act.run_bind_error herror) rfl
          | close => rfl
          | poll => cases otherwise
          | pollUntil => cases otherwise
          | _ => cases plain

end Operation

end MuxConsole
