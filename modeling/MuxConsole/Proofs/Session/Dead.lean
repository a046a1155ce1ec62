import MuxConsole.Proofs.Session.Faults

/-!
# Dead sessions

A session that has been rejected, broken or closed is of no further use: whatever
it is asked to do it refuses, and its channel is left alone.  A session that can
still be used has its channel, and it has been verified if it knows its peer.
-/

namespace MuxConsole

variable {ω σ α β : Type} [Channel ω σ] {s : Session ω σ} {reason : String}

namespace Session

/-! ## Refusals of a dead session -/

omit [Channel ω σ] in
theorem run_requireVerified_dead (dead : s.state.obstacle? = some reason) :
    (requireVerified : Act ω σ Unit).run s = (.error (.unusable reason), s) :=
  Act.run_bind_error (run_ensureUsable_dead dead)

theorem bars_of_dead (dead : s.state.obstacle? = some reason) : s.Bars (.unusable reason) :=
  fun _ _ _ _ => Act.run_bind_error (run_requireVerified_dead dead)

omit [Channel ω σ] in
theorem not_isUsable_of_obstacle (dead : s.state.obstacle? = some reason) :
    ¬ s.isUsable = true := by
  simp [isUsable, dead]

end Session

open Session

namespace Operation

variable {operation : Operation}

theorem step_dead (dead : s.state.obstacle? = some reason) (stays : operation ≠ .close) :
    step operation s = (.error (.unusable reason), s) ∨
      step operation s =
        (.error (.unusable reason), (s.noting [.rejecting s.endpoint]).rejected) := by
  cases gated : operation.isGated with
  | true => exact .inl (step_bars gated (bars_of_dead dead))
  | false =>
      cases begins : operation.beginsWithMessage with
      | true =>
          rcases step_refused begins (run_sendWithin_dead dead) with h | h | ⟨usable, _⟩
          · exact .inl h
          · exact .inr h
          · exact absurd usable (not_isUsable_of_obstacle dead)
      | false =>
          have plain : (operation.isGated || operation.beginsWithMessage) = false := by
            rw [gated, begins, Bool.or_self]
          cases operation with
          | poll timeout =>
              have hpoll : (Session.poll timeout).run s = (.error (.unusable reason), s) :=
                Act.run_bind_error (run_receiveWithin_dead dead timeout)
              exact .inl (Act.run_bind_error hpoll)
          | pollUntil patience =>
              exact .inl (Act.run_bind_error (run_receiveWithin_dead dead patience))
          | requireVerified => exact .inl (Act.run_bind_error (run_requireVerified_dead dead))
          | close => exact absurd rfl stays
          | _ => cases plain

theorem refusal_of_dead (dead : s.state.obstacle? = some reason)
    (stays : operation ≠ .close) : (step operation s).1 = .error (.unusable reason) := by
  rcases step_dead dead stays with h | h
  · exact congrArg Prod.fst h
  · exact congrArg Prod.fst h

/-- Nothing is done with the channel of a dead session, which stays dead. -/
theorem step_dead_silent (dead : ¬ s.isUsable = true) (operation : Operation) :
    ¬ (step operation s).2.isUsable = true ∧ events operation s = [] ∧
      (step operation s).2.peer = s.peer := by
  obtain ⟨reason, hreason⟩ := exists_obstacle dead
  by_cases closes : operation = .close
  · subst closes
    exact ⟨nofun, rfl, rfl⟩
  · have silent : events operation s = [] := by
      rcases step_dead (s := s.recording []) hreason closes with h | h
      · exact events_eq_nil h rfl
      · exact events_eq_nil h rfl
    rcases step_dead hreason closes with h | h
    · rw [h]
      exact ⟨dead, silent, rfl⟩
    · rw [h]
      exact ⟨nofun, silent, rfl⟩

theorem run_dead_silent (dead : ¬ s.isUsable = true) (operations : List Operation) :
    ¬ (run operations s).2.isUsable = true ∧ trace operations s = [] ∧
      (run operations s).2.peer = s.peer := by
  induction operations generalizing s with
  | nil => exact ⟨dead, rfl, rfl⟩
  | cons operation rest ih =>
      obtain ⟨deadAfter, silent, untouched⟩ := step_dead_silent dead operation
      obtain ⟨deadLast, silentRest, untouchedRest⟩ := ih deadAfter
      refine ⟨deadLast, ?_, untouchedRest.trans untouched⟩
      rw [trace_cons, silent, silentRest]
      rfl

end Operation

/-! ## Usable sessions -/

namespace Session

structure Intact (s : Session ω σ) : Prop where
  linked : s.isUsable = true → ∃ link, s.link = some link
  verified : s.isUsable = true → s.identity ≠ none → s.state = .verified

omit [Channel ω σ] in
theorem intact_ofLink (endpoint : Endpoint) (link : σ) (peer : ω) :
    (ofLink endpoint link peer).Intact where
  linked _ := ⟨link, rfl⟩
  verified _ known := absurd rfl known

theorem intact_invariant :
    Invariant fun (s : Session ω σ) (_ : List (Event ω σ)) => s.Intact where
  event := by
    intro s events event h usable makes
    refine ⟨fun _ => ⟨_, rfl⟩, ?_⟩
    intro usable' known
    obtain ⟨_, sound⟩ := isUsable_follow usable'
    have verified := h.verified usable known
    simpa [follow, after, sound] using verified
  noting h _ := ⟨h.linked, h.verified⟩
  verified h usable _ := ⟨fun _ => h.linked usable, fun _ _ => rfl⟩
  rejected h := ⟨nofun, nofun⟩
  closed h := ⟨nofun, nofun⟩

theorem intact_run (endpoint : Endpoint) (link : σ) (peer : ω) (operations : List Operation) :
    (Operation.run operations (ofLink endpoint link peer)).2.Intact :=
  Operation.run_keeps intact_invariant operations (intact_ofLink endpoint link peer)

/-! ## Where `unusable` comes from -/

omit [Channel ω σ] in
theorem rejecting_fst (act : Act ω σ α) (s : Session ω σ) :
    ((rejecting act).run s).1 = (act.run s).1 := by
  unfold rejecting
  cases hact : act.run s with
  | mk result t =>
      cases result with
      | ok a => rw [Act.run_tryCatch_ok hact]
      | error fault =>
          rw [Act.run_tryCatch_error hact]
          rfl

/-- Only the channel can make a usable session fail as an unusable one does. -/
theorem Ends.reports {t : Session ω σ} {result : Except Fault α} (h : s.Ends result t)
    (unusable : result = .error (.unusable reason)) : Channel.Reports ω σ (.unusable reason) := by
  cases h with
  | done => cases unusable
  | mild mild =>
      cases unusable
      cases mild
  | broken reported =>
      cases unusable
      exact reported

theorem reports_of_bind {act : Act ω σ α} {next : α → Act ω σ β} (first : act.EndsOn s)
    (own : ∀ a t, ((next a).run t).1 ≠ .error (.unusable reason))
    (unusable : ((act >>= next).run s).1 = .error (.unusable reason)) :
    Channel.Reports ω σ (.unusable reason) := by
  cases hact : act.run s with
  | mk result t =>
      cases result with
      | ok a =>
          rw [Act.run_bind_ok hact] at unusable
          exact absurd unusable (own a t)
      | error fault =>
          rw [Act.run_bind_error hact] at unusable
          obtain rfl : fault = .unusable reason := Except.error.inj unusable
          rw [Act.EndsOn, hact] at first
          exact first.reports rfl

theorem queryIdentity_sound (timeout : Nat) :
    (queryIdentity timeout : Act ω σ Identity).Sound := by
  refine (execute_sound _ timeout).bind fun reply => ?_
  cases reply with
  | nil => exact .ofExcept (.error (.malformed "info" .empty)) (by rintro _ ⟨⟩; rfl)
  | cons first rest =>
      refine .ofExcept _ fun fault h => Fault.isFatal_of_isLocal ?_
      exact OrMalformed.isLocal (.mapError _ _ _) fault h

theorem reports_of_ping {link : σ} (usable : s.isUsable = true) (hlink : s.link = some link)
    {timeout : Nat} (h : ((Session.ping timeout).run s).1 = .error (.unusable reason)) :
    Channel.Reports ω σ (.unusable reason) := by
  rw [Session.ping, rejecting_fst] at h
  refine reports_of_bind (execute_sound _ timeout s link usable hlink) ?_ h
  intro reply t
  split
  · rintro ⟨⟩
  · rintro ⟨⟩

theorem reports_of_validate {link : σ} (usable : s.isUsable = true)
    (hlink : s.link = some link) {beginning : String} {timeout : Nat}
    (h : ((Session.validate beginning timeout).run s).1 = .error (.unusable reason)) :
    Channel.Reports ω σ (.unusable reason) := by
  rcases run_validate beginning timeout s with ⟨identity, _, _, _, known⟩ | fresh
  · rw [known] at h
    cases h
  · rw [fresh, handshake, rejecting_fst] at h
    refine reports_of_bind (queryIdentity_sound timeout s link usable hlink) ?_ h
    intro identity t
    split
    · rintro ⟨⟩
    · rintro ⟨⟩

end Session

namespace Operation

theorem reports_of_unusable {link : σ} (usable : s.isUsable = true)
    (hlink : s.link = some link) {operation : Operation}
    (h : (step operation s).1 = .error (.unusable reason)) :
    Channel.Reports ω σ (.unusable reason) := by
  cases transacts : operation.decides with
  | false => exact (perform_sound transacts s link usable hlink).reports h
  | true =>
      cases operation with
      | ping timeout =>
          rw [step_ping] at h
          cases hping : ((Session.ping timeout).run s).1 with
          | ok done => rw [hping] at h; cases h
          | error fault =>
              rw [hping] at h
              cases h
              exact reports_of_ping usable hlink hping
      | validate beginning timeout =>
          rw [step_validate] at h
          cases hvalidate : ((Session.validate beginning timeout).run s).1 with
          | ok identity => rw [hvalidate] at h; cases h
          | error fault =>
              rw [hvalidate] at h
              cases h
              exact reports_of_validate usable hlink hvalidate
      | close => cases h
      | _ => cases transacts

/-- Once a session is of no use it stays so.  Whatever it is asked to do then, other
than to be closed, fails for that reason, and no use is made of its channel.  As
long as a session can be used it owns its link, so that nothing it is asked to do
fails for that reason unless the channel says so, and if it knows its peer it has
been verified. -/
theorem dead_stays_dead (endpoint : Endpoint) (link : σ) (peer : ω)
    (before : List Operation) :
    let s := (run before (.ofLink endpoint link peer)).2
    (¬ s.isUsable = true → ∀ after,
      ¬ (run after s).2.isUsable = true ∧ trace after s = [] ∧
        (run after s).2.peer = s.peer ∧
        ∀ operation, operation ≠ .close →
          ∃ reason, (step operation (run after s).2).1 = .error (.unusable reason)) ∧
    (s.isUsable = true →
      (∃ link, s.link = some link) ∧
        (∀ operation reason, (step operation s).1 = .error (.unusable reason) →
          Channel.Reports ω σ (.unusable reason)) ∧
        (s.identity ≠ none → s.state = .verified)) := by
  intro s
  have intact : s.Intact := intact_run endpoint link peer before
  constructor
  · intro dead after
    obtain ⟨deadAfter, silent, untouched⟩ := run_dead_silent dead after
    refine ⟨deadAfter, silent, untouched, ?_⟩
    intro operation stays
    obtain ⟨reason, hreason⟩ := exists_obstacle deadAfter
    rcases step_dead hreason stays with h | h
    · exact ⟨reason, congrArg Prod.fst h⟩
    · exact ⟨reason, congrArg Prod.fst h⟩
  · intro usable
    obtain ⟨link', hlink'⟩ := intact.linked usable
    exact ⟨⟨link', hlink'⟩, fun _ _ => reports_of_unusable usable hlink',
      intact.verified usable⟩

end Operation

end MuxConsole
