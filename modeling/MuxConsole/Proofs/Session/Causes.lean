import MuxConsole.Proofs.Session.Dead

/-!
# What a session has died of

The state of a dead session tells what it has died of, and whatever it refuses it
refuses for that reason.  Closing a session puts a reason on record, and so does a ping
or a validation that fails; with any other operation a session dies of its channel.  A
dead session keeps its reason until an operation puts another one in its place.  A
verification does that as well, since it rejects the session however it fails.
-/

namespace MuxConsole

namespace Operation

/-! ## Reasons on record -/

/-- The reason that an operation puts on record if the session is dead after it. -/
def cause? : Operation → Option SessionState
  | .ping _ | .validate .. => some .rejected
  | .close => some .closed
  | _ => none

def lastCause? : List Operation → Option SessionState
  | [] => none
  | operation :: rest => (lastCause? rest).or operation.cause?

theorem cause?_of_transaction {operation : Operation} (transacts : operation.decides = false) :
    operation.cause? = none := by
  cases operation with
  | ping timeout => cases transacts
  | validate beginning timeout => cases transacts
  | close => cases transacts
  | _ => rfl

theorem lastCause?_getD {cause : SessionState} {operations : List Operation}
    (h : ∀ operation ∈ operations, operation.cause? = none ∨ operation.cause? = some cause) :
    (lastCause? operations).getD cause = cause := by
  induction operations with
  | nil => rfl
  | cons operation rest ih =>
      obtain ⟨first, others⟩ := List.forall_mem_cons.mp h
      have hrest := ih others
      rw [lastCause?]
      cases hlast : lastCause? rest with
      | some last =>
          rw [hlast] at hrest
          exact hrest
      | none =>
          rcases first with none | same
          · rw [none, Option.none_or, Option.getD_none]
          · rw [same, Option.none_or, Option.getD_some]

/-! ## Ways to die -/

open Session

variable {ω σ : Type} [Channel ω σ] {s : Session ω σ} {operation : Operation}

theorem usable_of_ping {timeout : Nat} {outcome : Outcome}
    (h : (step (.ping timeout) s).1 = .ok outcome) :
    (step (.ping timeout) s).2.isUsable = true := by
  rw [step_ping] at h ⊢
  cases hping : (Session.ping timeout).run s with
  | mk result t =>
      rw [hping] at h
      cases result with
      | ok done =>
          obtain ⟨_, _, rfl⟩ := ping_ok hping
          rfl
      | error fault => cases h

theorem usable_of_validate {beginning : String} {timeout : Nat} {outcome : Outcome}
    (h : (step (.validate beginning timeout) s).1 = .ok outcome) :
    (step (.validate beginning timeout) s).2.isUsable = true := by
  rw [step_validate] at h ⊢
  rcases run_validate beginning timeout s with ⟨identity, _, usable, _, known⟩ | fresh
  · rw [known]
    exact usable
  · rw [fresh] at h ⊢
    cases hhandshake : (handshake beginning timeout).run s with
    | mk result t =>
        rw [hhandshake] at h
        cases result with
        | ok identity =>
            obtain ⟨_, _, _, _, _, _, rfl⟩ := handshake_ok hhandshake
            rfl
        | error fault => cases h

/-- A session dies of what fails in the operation, or of being closed. -/
theorem cause_of_death (usable : s.isUsable = true)
    (dead : ¬ (step operation s).2.isUsable = true) :
    (step operation s).2.state = operation.cause?.getD .broken ∧
      (episode operation s).Fails := by
  cases transacts : operation.decides with
  | false =>
      rcases state_of_transaction transacts s with same | ⟨broken, failed⟩
      · exact absurd (by rwa [isUsable, same]) dead
      · rw [broken, cause?_of_transaction transacts]
        exact ⟨rfl, .inl failed⟩
  | true =>
      cases operation with
      | ping timeout =>
          cases hresult : (step (.ping timeout) s).1 with
          | ok outcome => exact absurd (usable_of_ping hresult) dead
          | error fault => exact ⟨rejected_of_ping hresult, .inr ⟨fault, hresult⟩⟩
      | validate beginning timeout =>
          cases hresult : (step (.validate beginning timeout) s).1 with
          | ok outcome => exact absurd (usable_of_validate hresult) dead
          | error fault => exact ⟨rejected_of_validate hresult, .inr ⟨fault, hresult⟩⟩
      | close => exact ⟨rfl, .inr True.intro⟩
      | _ => cases transacts

/-! ## After death -/

theorem state_of_step_dead (dead : ¬ s.isUsable = true) (operation : Operation) :
    (step operation s).2.state = operation.cause?.getD s.state := by
  obtain ⟨reason, hreason⟩ := exists_obstacle dead
  cases transacts : operation.decides with
  | false =>
      rcases state_of_transaction transacts s with same | ⟨_, event, member, _⟩
      · rw [same, cause?_of_transaction transacts, Option.getD_none]
      · -- The channel of a dead session is left alone, so it does not fail.
        rw [(step_dead_silent dead operation).2.1] at member
        cases member
  | true =>
      cases operation with
      | ping timeout => exact rejected_of_ping (refusal_of_dead hreason nofun)
      | validate beginning timeout => exact rejected_of_validate (refusal_of_dead hreason nofun)
      | close => rfl
      | _ => cases transacts

theorem state_of_run_dead (dead : ¬ s.isUsable = true) (operations : List Operation) :
    (run operations s).2.state = (lastCause? operations).getD s.state := by
  induction operations generalizing s with
  | nil => rfl
  | cons operation rest ih =>
      have hrest := ih (step_dead_silent dead operation).1
      rw [state_of_step_dead dead operation] at hrest
      rw [lastCause?, Option.getD_or]
      exact hrest

/-! ## Whole runs -/

/-- A session that can be used dies of something that fails, or of being closed, and
its state tells which.  Once it is dead its state is the last reason put on record,
hence the same as before unless an operation has put another one there, and every
operation but closing it is refused for that reason. -/
theorem causes_kept (endpoint : Endpoint) (link : σ) (peer : ω) (before : List Operation) :
    let s := (run before (.ofLink endpoint link peer)).2
    (s.isUsable = true → ∀ deadly,
      let t := (step deadly s).2
      ¬ t.isUsable = true →
        t.state = deadly.cause?.getD .broken ∧ (episode deadly s).Fails) ∧
    (¬ s.isUsable = true → ∀ after,
      let t := (run after s).2
      t.state = (lastCause? after).getD s.state ∧
        ((∀ operation ∈ after,
            operation.cause? = none ∨ operation.cause? = some s.state) → t.state = s.state) ∧
        ∀ operation, operation ≠ .close →
          ∃ reason, t.state.obstacle? = some reason ∧
            (step operation t).1 = .error (.unusable reason)) := by
  intro s
  constructor
  · intro usable deadly t dead
    exact cause_of_death usable dead
  · intro dead after t
    have state : t.state = (lastCause? after).getD s.state := state_of_run_dead dead after
    refine ⟨state, ?_, ?_⟩
    · intro same
      rw [state, lastCause?_getD same]
    · intro operation stays
      obtain ⟨reason, hreason⟩ := exists_obstacle (run_dead_silent dead after).1
      exact ⟨reason, hreason, refusal_of_dead hreason stays⟩

open Peer in
/-- A session whose channel has failed goes on saying so until its peer is pinged. -/
theorem causes_kept_of_failure :
    let link : ScriptedLink := ⟨none, none⟩
    let peer : Scripted := .ofScript [.transportFailure 0 "connection reset"]
    let s := (run [.execute (.ofTexts ["values"]) 1] (.ofLink (.stats "localhost") link peer)).2
    s.state = .broken ∧
      (step (.values 1) (run [.requireVerified, .poll 1] s).2).1 =
        .error (.unusable "transport failed") ∧
      (run [.poll 1, .ping 1, .values 1] s).2.state = .rejected ∧
      (run [.ping 1, .close, .values 1] s).2.state = .closed := by
  intro link peer s
  have dead : ¬ s.isUsable = true := by decide +kernel
  have broken : s.state = .broken :=
    ((causes_kept (.stats "localhost") link peer []).1 rfl (.execute (.ofTexts ["values"]) 1)
      dead).1
  have kept := (causes_kept (.stats "localhost") link peer
    [.execute (.ofTexts ["values"]) 1]).2 dead
  refine ⟨broken, ?_, (kept [.poll 1, .ping 1, .values 1]).1,
    (kept [.ping 1, .close, .values 1]).1⟩
  obtain ⟨_, same, refused⟩ := kept [.requireVerified, .poll 1]
  obtain ⟨reason, named, refusal⟩ := refused (.values 1) nofun
  rw [same (by decide), broken] at named
  cases named
  exact refusal

open Peer in
/-- A ping that is refused because the session has been closed rejects it all the same,
so that the next refusal is for another reason. -/
theorem ping_replaces_closing :
    let s : Session Scripted ScriptedLink :=
      .ofLink (.stats "localhost") ⟨none, none⟩ (.ofScript [])
    (run [.close] s).2.state = .closed ∧
      (run [.close, .ping 1000] s).2.state = .rejected ∧
      (run [.close, .ping 1000, .requireVerified] s).1 = [.ok .done,
        .error (.unusable "session closed"), .error (.unusable "peer failed verification")] :=
  ⟨rfl, rfl, rfl⟩

end Operation

end MuxConsole
