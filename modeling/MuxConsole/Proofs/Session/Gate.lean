import MuxConsole.Peer.Scripted
import MuxConsole.Proofs.Session.Replies

/-!
# The verification gate

A server is asked nothing that needs a verified session unless a verification has
succeeded before and neither a verification nor the channel has failed since.
-/

namespace MuxConsole

variable {ω σ α : Type}

/-! ## Episodes -/

namespace Episode

/-- Whether the episode verifies the peer: by a ping that the peer has answered as
it should, or by a validation that it has answered with a fitting identity. -/
def Verifies (episode : Episode ω σ) : Prop :=
  match episode.operation with
  | .ping _ =>
      episode.result = .ok .done ∧
        lastUse? episode.events = some (.receive (.frames (.ofTexts ["ok"])))
  | .validate beginning _ =>
      ∃ identity first rest, episode.result = .ok (.identity identity) ∧
        lastUse? episode.events = some (.receive (.frames (first :: rest))) ∧
        Reply.record Identity.schema "info" first = .ok identity ∧
        identity.matchesName beginning = true
  | _ => False

/-- Whether a verification or the channel fails in the episode, or the session is
closed. -/
def Fails (episode : Episode ω σ) : Prop :=
  (∃ event ∈ episode.events, event.use.fails = true) ∨
    match episode.operation with
    | .ping _ | .validate .. => ∃ fault, episode.result = .error fault
    | .close => True
    | _ => False

end Episode

/-! ## Verifications -/

namespace Session

theorem rejecting_error {act : Act ω σ α} {s t : Session ω σ} {fault : Fault}
    (h : (rejecting act).run s = (.error fault, t)) : t.state = .rejected := by
  unfold rejecting at h
  cases hact : act.run s with
  | mk result u =>
      cases result with
      | ok a =>
          rw [Act.run_tryCatch_ok hact] at h
          cases h
      | error fault =>
          rw [Act.run_tryCatch_error hact] at h
          cases h
          rfl

theorem rejecting_ok {act : Act ω σ α} {s t : Session ω σ} {a : α}
    (h : (rejecting act).run s = (.ok a, t)) : act.run s = (.ok a, t) := by
  unfold rejecting at h
  cases hact : act.run s with
  | mk result u =>
      cases result with
      | ok a =>
          rw [Act.run_tryCatch_ok hact] at h
          exact h
      | error fault =>
          rw [Act.run_tryCatch_error hact] at h
          cases h

variable [Channel ω σ] {s t : Session ω σ} {timeout : Nat}

theorem ping_ok (h : (Session.ping timeout).run s = (.ok (), t)) :
    ∃ u, (execute (.ofTexts ["ping"]) timeout).run s = (.ok (.ofTexts ["ok"]), u) ∧
      t = u.verifiedAs none := by
  obtain ⟨reply, u, hexecute, hrest⟩ := Act.exists_of_bind_ok (rejecting_ok h)
  split at hrest
  · rename_i fits
    rw [fits] at hexecute
    rw [run_markVerified (isUsable_of_execute_ok hexecute)] at hrest
    cases hrest
    exact ⟨u, hexecute, rfl⟩
  · cases hrest

theorem handshake_ok {beginning : String} {identity : Identity}
    (h : (handshake beginning timeout).run s = (.ok identity, t)) :
    ∃ first rest u, (execute (.ofTexts ["info"]) timeout).run s = (.ok (first :: rest), u) ∧
      Reply.record Identity.schema "info" first = .ok identity ∧
      identity.matchesName beginning = true ∧ t = u.verifiedAs (some identity) := by
  obtain ⟨found, u, hquery, hrest⟩ := Act.exists_of_bind_ok (rejecting_ok h)
  obtain ⟨first, rest, hexecute, hrecord⟩ := queryIdentity_ok hquery
  split at hrest
  · rename_i fits
    rw [Act.run_bind_ok (run_markVerified (isUsable_of_execute_ok hexecute) _)] at hrest
    cases hrest
    exact ⟨first, rest, u, hexecute, hrecord, fits, rfl⟩
  · cases hrest

theorem lastUse?_of_execute {frames reply : Frames} {t u : Session (Recorded ω σ) σ}
    (h : (execute frames timeout).run t = (.ok reply, u)) :
    lastUse? u.peer.events = some (.receive (.frames reply)) := by
  obtain ⟨_, _, _, hreceive⟩ := execute_ok h
  exact lastUse?_of_receiveWithin hreceive

end Session

namespace Operation

open Session

variable [Channel ω σ] {operation : Operation} {s : Session ω σ}

/-! ## One operation -/

theorem step_ping (timeout : Nat) (s : Session ω σ) :
    step (.ping timeout) s =
      (((Session.ping timeout).run s).1.map fun _ => .done, ((Session.ping timeout).run s).2) :=
  Act.run_bind_pure _ _ s

theorem step_validate (beginning : String) (timeout : Nat) (s : Session ω σ) :
    step (.validate beginning timeout) s =
      (((Session.validate beginning timeout).run s).1.map .identity,
        ((Session.validate beginning timeout).run s).2) :=
  Act.run_bind_pure _ _ s

theorem verifies_ping {timeout : Nat} {outcome : Outcome}
    (h : (step (.ping timeout) s).1 = .ok outcome) : (episode (.ping timeout) s).Verifies := by
  have hrecorded := step_recording_nil (.ping timeout) s
  rw [h, step_ping] at hrecorded
  obtain ⟨hresult, hafter⟩ := Prod.mk.inj hrecorded
  cases hping : (Session.ping timeout).run (s.recording []) with
  | mk result u =>
      rw [hping] at hresult hafter
      cases result with
      | error fault => cases hresult
      | ok done =>
          obtain ⟨v, hexecute, rfl⟩ := ping_ok hping
          have hlast := lastUse?_of_execute hexecute
          dsimp only at hafter
          rw [← verifiedAs_peer none v, hafter] at hlast
          have houtcome : Outcome.done = outcome := Except.ok.inj hresult
          exact ⟨by rw [houtcome]; exact h, hlast⟩

theorem verifies_validate {beginning : String} {timeout : Nat} {outcome : Outcome}
    (fresh : (Session.validate beginning timeout).run (s.recording []) =
      (handshake beginning timeout).run (s.recording []))
    (h : (step (.validate beginning timeout) s).1 = .ok outcome) :
    (episode (.validate beginning timeout) s).Verifies := by
  have hrecorded := step_recording_nil (.validate beginning timeout) s
  rw [h, step_validate, fresh] at hrecorded
  obtain ⟨hresult, hafter⟩ := Prod.mk.inj hrecorded
  cases hhandshake : (handshake beginning timeout).run (s.recording []) with
  | mk result u =>
      rw [hhandshake] at hresult hafter
      cases result with
      | error fault => cases hresult
      | ok identity =>
          obtain ⟨first, rest, v, hexecute, hrecord, fits, rfl⟩ := handshake_ok hhandshake
          have hlast := lastUse?_of_execute hexecute
          dsimp only at hafter
          rw [← verifiedAs_peer (some identity) v, hafter] at hlast
          have houtcome : Outcome.identity identity = outcome := Except.ok.inj hresult
          exact ⟨identity, first, rest, by rw [houtcome]; exact h, hlast, hrecord, fits⟩

theorem rejected_of_ping {timeout : Nat} {fault : Fault}
    (h : (step (.ping timeout) s).1 = .error fault) :
    (step (.ping timeout) s).2.state = .rejected := by
  rw [step_ping] at h ⊢
  cases hping : (Session.ping timeout).run s with
  | mk result t =>
      rw [hping] at h
      cases result with
      | ok done => cases h
      | error fault => exact rejecting_error hping

theorem rejected_of_validate {beginning : String} {timeout : Nat} {fault : Fault}
    (h : (step (.validate beginning timeout) s).1 = .error fault) :
    (step (.validate beginning timeout) s).2.state = .rejected := by
  rw [step_validate] at h ⊢
  rcases run_validate beginning timeout s with ⟨identity, _, _, _, hvalidate⟩ | hvalidate
  · rw [hvalidate] at h
    cases h
  · rw [hvalidate] at h ⊢
    cases hhandshake : (handshake beginning timeout).run s with
    | mk result t =>
        rw [hhandshake] at h
        cases result with
        | ok identity => cases h
        | error fault => exact rejecting_error hhandshake

/-- Transactions leave the state as it is as long as the channel does not fail. -/
theorem kept_state (start : Session ω σ) :
    Kept fun (s : Session ω σ) (events : List (Event ω σ)) => s.state = start.state ∨
      s.state = .broken ∧ ∃ event ∈ events, event.use.fails = true where
  event := by
    rintro s events event (same | ⟨broken, _⟩) usable makes
    · cases fails : event.use.fails with
      | true => exact .inr ⟨by simp [follow, after, fails], event, by simp, fails⟩
      | false => exact .inl (by simpa [follow, after, fails] using same)
    · simp [isUsable, broken, SessionState.obstacle?] at usable
  noting h _ := h

theorem state_of_transaction (transacts : operation.decides = false) (s : Session ω σ) :
    (step operation s).2.state = s.state ∨ (step operation s).2.state = .broken ∧
      ∃ event ∈ events operation s, event.use.fails = true :=
  step_kept (kept_state s) transacts [] (.inl rfl)

theorem verified_of_step (h : (step operation s).2.state = .verified) :
    s.state = .verified ∨ (episode operation s).Verifies := by
  cases transacts : operation.decides with
  | false =>
      rcases state_of_transaction transacts s with same | ⟨broken, _⟩
      · exact .inl (same.symm.trans h)
      · rw [broken] at h
        cases h
  | true =>
      cases operation with
      | ping timeout =>
          cases hresult : (step (.ping timeout) s).1 with
          | ok outcome => exact .inr (verifies_ping hresult)
          | error fault =>
              rw [rejected_of_ping hresult] at h
              cases h
      | validate beginning timeout =>
          cases hresult : (step (.validate beginning timeout) s).1 with
          | ok outcome =>
              rcases run_validate beginning timeout (s.recording []) with
                ⟨identity, _, _, _, known⟩ | fresh
              · -- A known identity leaves the session as it is, so it was verified before.
                have hafter := congrArg (fun after => after.2.state)
                  (step_recording_nil (.validate beginning timeout) s)
                rw [step_validate, known] at hafter
                exact .inl (hafter.trans h)
              · exact .inr (verifies_validate fresh hresult)
          | error fault =>
              rw [rejected_of_validate hresult] at h
              cases h
      | close => cases h
      | _ => cases transacts

theorem not_isUsable_of_fails (h : (episode operation s).Fails) :
    ¬ (step operation s).2.isUsable = true := by
  intro usable
  rcases h with ⟨event, member, fails⟩ | h
  · have alive := step_invariant (alive_invariant s) operation (alive_nil s)
    have sound := (alive.sound usable).2 event member
    rw [fails] at sound
    cases sound
  · cases operation with
    | ping timeout =>
        obtain ⟨fault, hfault⟩ := h
        simp [isUsable, rejected_of_ping hfault, SessionState.obstacle?] at usable
    | validate beginning timeout =>
        obtain ⟨fault, hfault⟩ := h
        simp [isUsable, rejected_of_validate hfault, SessionState.obstacle?] at usable
    | close => cases usable
    | _ => cases h

/-! ## Runs -/

structure Gate (past : List (Episode ω σ)) (s : Session ω σ) : Prop where
  verified : s.state = .verified → ∃ episode ∈ past, episode.Verifies
  usable : s.isUsable = true → ∀ episode ∈ past, ¬ episode.Fails

omit [Channel ω σ] in
theorem gate_nil (h : s.state ≠ .verified) : Gate [] s where
  verified verified := absurd verified h
  usable _ := by simp

theorem Gate.step {past : List (Episode ω σ)} (h : Gate past s) (operation : Operation) :
    Gate (past ++ [episode operation s]) (step operation s).2 where
  verified verified := by
    rcases verified_of_step verified with before | verifies
    · obtain ⟨episode, member, earlier⟩ := h.verified before
      exact ⟨episode, List.mem_append_left _ member, earlier⟩
    · exact ⟨_, List.mem_append_right _ (List.mem_singleton_self _), verifies⟩
  usable usable := by
    have alive := step_invariant (alive_invariant s) operation (alive_nil s)
    intro e member
    rcases List.mem_append.mp member with earlier | latest
    · exact h.usable (alive.sound usable).1 e earlier
    · rw [List.mem_singleton.mp latest]
      exact fun fails => not_isUsable_of_fails fails usable

theorem Gate.run {past : List (Episode ω σ)} (h : Gate past s) (operations : List Operation) :
    Gate (past ++ history operations s) (run operations s).2 := by
  induction operations generalizing s past with
  | nil => simpa [history, Operation.run] using h
  | cons operation rest ih =>
      have hrest := ih (h.step operation)
      rwa [List.append_assoc] at hrest

/-- A verified server is asked something only when an earlier episode has verified
it and none has failed; otherwise the question is refused, nothing is sent and the
session stays as it is. -/
theorem verified_of_question (s : Session ω σ) (opened : s.state = .opened)
    (operations : List Operation) (operation : Operation)
    (gated : operation.isGated = true) :
    let past := history operations s
    let t := (run operations s).2
    (∀ before event after, events operation t = before ++ event :: after →
      event.use.isSend = true →
        (∃ episode ∈ past, episode.Verifies) ∧ (∀ episode ∈ past, ¬ episode.Fails) ∧
          ∀ earlier ∈ before, earlier.use.fails = false) ∧
    ((¬ ∃ episode ∈ past, episode.Verifies) ∨ (∃ episode ∈ past, episode.Fails) →
      ∃ fault, step operation t = (.error fault, t) ∧ events operation t = [] ∧
        (fault = .notVerified ∨ ∃ reason, fault = .unusable reason)) := by
  intro past t
  have gate : Gate past t := (gate_nil (by simp [opened])).run operations
  have refused (unverified : t.state ≠ .verified) :
      ∃ fault, step operation t = (.error fault, t) ∧ events operation t = [] ∧
        (fault = .notVerified ∨ ∃ reason, fault = .unusable reason) := by
    obtain ⟨fault, bars, kind⟩ := bars_of_unverified unverified
    obtain ⟨fault', bars', _⟩ := bars_of_unverified (s := t.recording []) unverified
    exact ⟨fault, step_bars gated bars, events_eq_nil (step_bars gated bars') rfl, kind⟩
  constructor
  · intro before event after split sends
    -- A session that is not verified would have refused, with nothing in the record.
    have verified : t.state = .verified := by
      apply Classical.byContradiction
      intro unverified
      obtain ⟨_, _, quiet, _⟩ := refused unverified
      rw [quiet] at split
      simp at split
    have usable : t.isUsable = true := isUsable_iff.mpr (.inr verified)
    have alive := step_invariant (alive_invariant t) operation (alive_nil t)
    exact ⟨gate.verified verified, gate.usable usable,
      alive.last before event after split⟩
  · intro h
    apply refused
    intro verified
    rcases h with never | ⟨episode, member, fails⟩
    · exact never (gate.verified verified)
    · exact gate.usable (isUsable_iff.mpr (.inr verified)) episode member fails

open Peer in
theorem verified_of_question_values :
    let s : Session Scripted ScriptedLink :=
      .ofLink (.stats "127.0.0.1") ⟨none, none⟩ (.ofScript [.reply 0 (.ofTexts ["ok"])])
    (∃ episode ∈ history [.ping 1] s, episode.Verifies) ∧
      ∃ fault, step (.values 1) s = (.error fault, s) := by
  intro s
  constructor
  · exact ((verified_of_question s rfl [.ping 1] (.values 1) rfl).1 [] _ _ rfl rfl).1
  · obtain ⟨fault, refused, _⟩ := (verified_of_question s rfl [] (.values 1) rfl).2
      (.inl (by simp [history]))
    exact ⟨fault, refused⟩

end Operation

end MuxConsole
