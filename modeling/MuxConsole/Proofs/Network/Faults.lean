import MuxConsole.Proofs.Network.Places
import MuxConsole.Proofs.Peer.Pairing
import MuxConsole.Proofs.Session.Dead

/-!
# Faults on scripted channels and on networks

Whatever a peer does, a channel to it fails with a fault that is fatal.  So whether
the fault that an operation ends in is fatal tells whether the session can still be
used.
-/

namespace MuxConsole

/-! ## What channels report -/

namespace Network

variable {fault : Fault} {frames : Frames} {limit : Option Nat} {time : Nat} {net : Network}

namespace QueueLink

variable {link : QueueLink}

theorem isOfChannel_of_sendOn {socket : QueueSocket}
    (h : (sendOn frames limit socket link net).1 = .failed fault) :
    fault.isOfChannel = true := by
  unfold sendOn QueueSocket.send at h
  dsimp only at h
  split at h
  · cases h
    rfl
  · split at h
    · cases h
      rfl
    · split at h
      · cases h
        rfl
      · rename_i server _
        cases hsending : (server.uptakes.headD .atOnce).sending .transport limit 0 with
        | sent took =>
            rw [hsending] at h
            cases h
        | failed found =>
            obtain ⟨message, _, rfl⟩ := Uptake.problem_of_failed hsending
            simp only [hsending] at h
            split at h <;> cases h <;> rfl
        | dropped =>
            simp only [hsending] at h
            split at h <;> cases h

theorem isOfChannel_of_send (h : (link.send frames limit net).1 = .failed fault) :
    fault.isOfChannel = true := by
  unfold send at h
  split at h
  · cases h
    rfl
  · split at h
    · exact isOfChannel_of_sendOn h
    · split at h
      · exact isOfChannel_of_sendOn h
      · cases h
        rfl
      · split at h
        · cases h
          rfl
        · cases h

theorem isOfChannel_of_receive (h : (link.receive time net).1 = .failed fault) :
    fault.isOfChannel = true := by
  unfold receive at h
  split at h
  · cases h
    rfl
  · dsimp only at h
    split at h
    · split at h
      · cases h
      · split at h <;> cases h
      · cases h
        rfl
      all_goals cases h
    · cases h
      rfl

end QueueLink

namespace Intake

theorem isOfChannel_of_decodeLine {line : Bytes} (h : decodeLine line = .error fault) :
    fault.isOfChannel = true := by
  unfold decodeLine at h
  cases hline : Utf8.decode line with
  | ok text =>
      rw [hline] at h
      cases h
  | error problem =>
      rw [hline] at h
      cases h
      rfl

theorem isOfChannel_of_feed {bytes : Bytes} {intake : Intake}
    (h : feed bytes intake = .error fault) : fault.isOfChannel = true := by
  unfold feed at h
  split at h
  · split at h
    · cases h
    · rename_i line rest _
      cases hline : decodeLine _ with
      | ok text =>
          rw [hline] at h
          cases h
      | error problem =>
          rw [hline] at h
          cases h
          exact isOfChannel_of_decodeLine hline
  · cases h

theorem isOfChannel_of_finish {endpoint : Endpoint} {intake : Intake}
    (h : finish endpoint intake = .error fault) : fault.isOfChannel = true := by
  unfold finish at h
  split at h
  · cases h
    rfl
  · cases hline : decodeLine _ with
    | ok text =>
        rw [hline] at h
        cases h
    | error problem =>
        rw [hline] at h
        cases h
        exact isOfChannel_of_decodeLine hline
  · cases h
  · cases h

theorem isOfChannel_of_receive {endpoint : Endpoint} {ends : Option Nat} {limit : Nat}
    {intake : Intake} {segments : List Segment}
    (h : receive endpoint ends limit intake segments = .failed fault) :
    fault.isOfChannel = true := by
  induction segments generalizing limit intake with
  | nil =>
      unfold receive at h
      split at h
      · cases h
      · split at h
        · cases hfinish : finish endpoint intake with
          | ok frames =>
              rw [hfinish] at h
              cases h
          | error problem =>
              rw [hfinish] at h
              cases h
              exact isOfChannel_of_finish hfinish
        · cases h
  | cons segment rest ih =>
      unfold receive at h
      split at h
      · split at h
        · rename_i hfeed
          cases h
          exact isOfChannel_of_feed hfeed
        · exact ih h
      · cases h

end Intake

namespace StreamLink

variable {link : StreamLink}

theorem isOfChannel_of_write {pause : Nat} {uptakes : List Uptake}
    (h : (write limit pause time frames uptakes).1 = .failed fault) :
    fault.isOfChannel = true := by
  induction frames generalizing pause time uptakes with
  | nil => cases h
  | cons frame rest ih =>
      unfold write at h
      split at h
      · dsimp only at h
        cases hsending : (uptakes.headD .atOnce).sending .io limit (time + pause) with
        | sent time =>
            rw [hsending] at h
            exact ih h
        | failed found =>
            obtain ⟨message, _, rfl⟩ := Uptake.problem_of_failed hsending
            rw [hsending] at h
            cases h
            rfl
        | dropped =>
            rw [hsending] at h
            cases h
      · cases h

theorem isOfChannel_of_sendOn {connection : Nat}
    (h : (sendOn frames limit connection link net).1 = .failed fault) :
    fault.isOfChannel = true := by
  unfold sendOn at h
  split at h
  · cases h
    rfl
  · exact isOfChannel_of_write h

theorem isOfChannel_of_send (h : (link.send frames limit net).1 = .failed fault) :
    fault.isOfChannel = true := by
  unfold send at h
  split at h
  · cases h
    rfl
  · split at h
    · exact isOfChannel_of_sendOn h
    · split at h
      · exact isOfChannel_of_sendOn h
      · cases h
        rfl
      · split at h
        · cases h
          rfl
        · cases h

theorem isOfChannel_of_receive (h : (link.receive time net).1 = .failed fault) :
    fault.isOfChannel = true := by
  unfold receive at h
  split at h
  · cases h
    rfl
  · exact Intake.isOfChannel_of_receive h

end StreamLink

theorem Link.isOfChannel_of_reports (h : Channel.Reports Network Link fault) :
    fault.isOfChannel = true := by
  cases h with
  | @send _ _ link _ _ h =>
      cases link with
      | queue link => exact QueueLink.isOfChannel_of_send h
      | stream link => exact StreamLink.isOfChannel_of_send h
  | @receive _ link _ _ h =>
      cases link with
      | queue link => exact QueueLink.isOfChannel_of_receive h
      | stream link => exact StreamLink.isOfChannel_of_receive h
  | @reset link _ _ h => cases link <;> cases h

end Network

/-! ## What faults tell -/

namespace Operation

variable {ω σ : Type} [Channel ω σ]

def verifies : Operation → Bool
  | .ping _ | .validate .. => true
  | _ => false

/-- What the fault that an operation has ended in says about the session. -/
structure Tells (operation : Operation) (s : Session ω σ) (fault : Fault) : Prop where
  fatal : operation.verifies = false →
    (fault.isFatal = true ↔ ¬ (step operation s).2.isUsable = true)
  mild : operation.verifies = false → fault.isFatal = false →
    (step operation s).2.state = s.state ∧ (step operation s).2.identity = s.identity
  rejected : operation.verifies = true → (step operation s).2.state = .rejected

variable {s : Session ω σ} {operation : Operation} {fault : Fault}

theorem rejected_of_error (verifies : operation.verifies = true)
    (h : (step operation s).1 = .error fault) : (step operation s).2.state = .rejected := by
  cases operation with
  | ping timeout => exact rejected_of_ping h
  | validate beginning timeout => exact rejected_of_validate h
  | _ => cases verifies

theorem not_close_of_error (h : (step operation s).1 = .error fault) : operation ≠ .close := by
  rintro rfl
  cases h

theorem tells_of_dead (dead : ¬ s.isUsable = true)
    (h : (step operation s).1 = .error fault) : operation.Tells s fault := by
  obtain ⟨reason, hreason⟩ := Session.exists_obstacle dead
  have deadAfter := (step_dead_silent dead operation).1
  have refusal := refusal_of_dead hreason (not_close_of_error h)
  obtain rfl : fault = .unusable reason := Except.error.inj (h.symm.trans refusal)
  exact ⟨fun _ => ⟨fun _ => deadAfter, fun _ => rfl⟩, fun _ mild => (nomatch mild),
    fun verifies => rejected_of_error verifies h⟩

theorem tells_of_usable (sound : ∀ fault, Channel.Reports ω σ fault → fault.isOfChannel = true)
    (intact : s.Intact) (usable : s.isUsable = true)
    (h : (step operation s).1 = .error fault) : operation.Tells s fault := by
  obtain ⟨link, hlink⟩ := intact.linked usable
  cases verifies : operation.verifies with
  | true =>
      have verifying : operation.verifies ≠ false := ne_of_eq_of_ne verifies Bool.noConfusion
      exact ⟨fun no => absurd no verifying, fun no => absurd no verifying,
        fun _ => rejected_of_error verifies h⟩
  | false =>
      have transacts : operation.decides = false := by
        cases operation with
        | ping timeout => cases verifies
        | validate beginning timeout => cases verifies
        | close => cases h
        | _ => rfl
      have ends : s.Ends (step operation s).1 (step operation s).2 :=
        perform_sound transacts s link usable hlink
      have noVerification : operation.verifies ≠ true := ne_of_eq_of_ne verifies Bool.noConfusion
      rw [h] at ends
      refine ⟨fun _ => ?_, fun _ hmild => ?_, fun yes => absurd yes noVerification⟩
      · cases ends with
        | mild mild stays => simp [mild, stays.isUsable usable]
        | broken reported broken =>
            simp [Fault.isFatal_of_isOfChannel (sound fault reported), Session.isUsable, broken,
              SessionState.obstacle?]
      · cases ends with
        | mild _ stays => exact ⟨stays.state, stays.identity⟩
        | broken reported _ =>
            rw [Fault.isFatal_of_isOfChannel (sound fault reported)] at hmild
            cases hmild

theorem tells_of_run (sound : ∀ fault, Channel.Reports ω σ fault → fault.isOfChannel = true)
    (endpoint : Endpoint) (link : σ) (peer : ω) (before : List Operation) :
    let s := (run before (.ofLink endpoint link peer)).2
    ∀ operation fault, (step operation s).1 = .error fault → operation.Tells s fault := by
  intro s operation fault h
  by_cases usable : s.isUsable = true
  · exact tells_of_usable sound (Session.intact_run endpoint link peer before) usable h
  · exact tells_of_dead usable h

open Peer Network in
/-- On a scripted channel and on a network, an operation that does not verify the
peer fails fatally exactly when the session cannot be used any more, and otherwise
leaves its state and its identity as they were.  A verification that fails, fatally
or not, rejects the session. -/
theorem faults_tell_usability :
    (∀ endpoint (link : ScriptedLink) (peer : Scripted) before operation fault,
      let s := (run before (.ofLink endpoint link peer)).2
      (step operation s).1 = .error fault → operation.Tells s fault) ∧
    (∀ endpoint (link : Link) (net : Network) before operation fault,
      let s := (run before (.ofLink endpoint link net)).2
      (step operation s).1 = .error fault → operation.Tells s fault) := by
  constructor
  · intro endpoint link peer before operation fault
    exact tells_of_run (fun _ => Scripted.isOfChannel_of_reports) endpoint link peer before
      operation fault
  · intro endpoint link net before operation fault
    exact tells_of_run (fun _ => Link.isOfChannel_of_reports) endpoint link net before
      operation fault

end Operation

end MuxConsole
