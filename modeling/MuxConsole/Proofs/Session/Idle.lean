import MuxConsole.Proofs.Session.Faults

/-!
# What an exchange leaves behind

An exchange has its request answered, or gives it up.  In either case nothing is
pending when it ends.  An exchange that fails on its own account has begun on a
usable session on which nothing was pending.
-/

namespace MuxConsole

variable {ω σ ω' σ' α : Type} [Channel ω σ] [Channel ω' σ']

namespace Operation

/-! ## Exchanges -/

def exchanges : Operation → Bool
  | .execute .. => true
  | operation => operation.isGated

open Session in
theorem dialogue_of_exchanges {operation : Operation} (h : operation.exchanges = true) :
    Dialogue (operation.perform : Act ω σ Outcome) (operation.perform : Act ω' σ' Outcome) := by
  cases operation with
  | execute frames timeout => exact (Dialogue.execute frames timeout).bind fun _ => .pure _
  | _ => exact dialogue h

end Operation

namespace Act

variable {β : Type}

/-- Begun with nothing pending on a usable session, the operation ends so, whatever it
comes back with. -/
def Settles (act : Act ω σ α) : Prop :=
  ∀ (s : Session ω σ) (link : σ), s.isUsable = true → s.link = some link →
    s.pending = none → (act.run s).2.pending = none

theorem Settles.bind {act : Act ω σ α} {next : α → Act ω σ β} (sound : act.Sound)
    (first : act.Settles) (second : ∀ a, (next a).Settles) : (act >>= next).Settles := by
  intro s link usable hlink idle
  have ends := sound s link usable hlink
  have after := first s link usable hlink idle
  refine bind_induction (P := fun after => after.2.pending = none) ?_ ?_
  · intro a t hact
    rw [EndsOn, hact] at ends
    rw [hact] at after
    cases ends with
    | done stays =>
        obtain ⟨link', hlink'⟩ := stays.linked
        exact second a t link' (stays.isUsable usable) hlink' after
  · intro fault t hact
    rwa [hact] at after

end Act

namespace Session

open Act

variable {s : Session ω σ} {link : σ}

/-! ## What exchanges leave behind -/

theorem send_idle_of_error {frames : Frames} {fault : Fault} {t : Session ω σ}
    (usable : s.isUsable = true) (hlink : s.link = some link) (idle : s.pending = none)
    (h : (send frames).run s = (.error fault, t)) : t.pending = none := by
  rw [send, run_discard, run_sendWithin usable idle hlink, sendOn] at h
  cases hsend : Channel.send frames none link s.peer with
  | mk sending rest =>
      rw [hsend] at h
      cases sending with
      | failed fault =>
          cases h
          exact idle
      | _ => cases h

theorem giveUp_idle {command : String} (pending : s.pending = some command)
    (hlink : s.link = some link) (timeout : Nat) :
    ((giveUp timeout).run s).2.pending = none := by
  rw [run_giveUp pending hlink]
  rfl

theorem pending_receiveOn (s : Session ω σ) (limit : Nat) (link : σ) :
    (s.receiveOn limit link).2.pending =
      (Use.receive (s.receiveOn limit link).1).pendingAfter s.pending := rfl

theorem receiveWithin_idle {limit : Nat} (usable : s.isUsable = true)
    (hlink : s.link = some link) {result : Except Fault (Option Frames)} {t : Session ω σ}
    (h : (receiveWithin limit).run s = (result, t)) :
    result = .ok none ∨ t.pending = none := by
  cases pending : s.pending with
  | none =>
      rw [run_receiveWithin_idle usable pending] at h
      cases h
      exact .inr pending
  | some command =>
      have after := pending_receiveOn s limit link
      rw [run_receiveWithin usable pending hlink] at h
      obtain ⟨rfl, rfl⟩ := Prod.mk.inj h
      cases hreceiving : (s.receiveOn limit link).1 with
      | nothing => exact .inl rfl
      | frames reply =>
          rw [hreceiving] at after
          exact .inr after
      | failed fault =>
          rw [hreceiving] at after
          exact .inr after

theorem poll_idle (usable : s.isUsable = true) (hlink : s.link = some link) (timeout : Nat) :
    ((poll timeout).run s).2.pending = none := by
  refine bind_induction (P := fun after => after.2.pending = none) ?_ ?_
  · intro result t hreceive
    cases result with
    | some reply => exact (receiveWithin_idle usable hlink hreceive).resolve_left nofun
    | none =>
        obtain ⟨command, link', _, pending, hlink'⟩ := receiveWithin_ok_none hreceive
        have idle := giveUp_idle pending hlink' timeout
        refine bind_induction (P := fun after => after.2.pending = none) ?_ ?_
        · intro _ u hgiveUp
          rwa [hgiveUp] at idle
        · intro fault u hgiveUp
          rwa [hgiveUp] at idle
  · intro fault t hreceive
    exact (receiveWithin_idle usable hlink hreceive).resolve_left nofun

theorem execute_settles (frames : Frames) (timeout : Nat) :
    (execute frames timeout : Act ω σ Frames).Settles := by
  intro s link usable hlink idle
  have ends := send_sound frames s link usable hlink
  refine bind_induction (P := fun after => after.2.pending = none) ?_ ?_
  · intro _ t hsend
    rw [EndsOn, hsend] at ends
    cases ends with
    | done stays =>
        obtain ⟨link', hlink'⟩ := stays.linked
        have after := poll_idle (stays.isUsable usable) hlink' timeout
        refine bind_induction (P := fun after => after.2.pending = none) ?_ ?_
        · intro result u hpoll
          rw [hpoll] at after
          cases result <;> exact after
        · intro fault u hpoll
          rwa [hpoll] at after
  · intro fault t hsend
    exact send_idle_of_error usable hlink idle hsend

omit [Channel ω σ] in
theorem requireVerified_settles : (requireVerified : Act ω σ Unit).Settles := by
  intro s _ _ _ idle
  by_cases verified : s.state = .verified
  · rwa [run_requireVerified verified]
  · obtain ⟨_, hfault, _⟩ := run_requireVerified_error verified
    rwa [hfault]

theorem Dialogue.settles {act : Act ω σ α} {act' : Act ω' σ' α} (dialogue : Dialogue act act') :
    act.Settles := by
  induction dialogue with
  | ofExcept result => exact fun _ _ _ _ idle => idle
  | noteAll log => exact fun _ _ _ _ idle => idle
  | requireVerified => exact requireVerified_settles
  | execute frames timeout => exact execute_settles frames timeout
  | wire _ ih => exact fun s link usable hlink idle => ih _ s link usable hlink idle
  | bind first _ settles others => exact .bind first.sound settles others

/-! ## How a local failure begins -/

theorem bars_of_unready (unready : ¬ (s.isUsable = true ∧ s.pending = none)) :
    ∃ fault, s.Bars fault ∧ fault.isLocal = false := by
  by_cases verified : s.state = .verified
  · have usable : s.isUsable = true := isUsable_iff.mpr (.inr verified)
    have pending : s.pending ≠ none := fun idle => unready ⟨usable, idle⟩
    exact ⟨_, bars_of_pending verified pending, rfl⟩
  · obtain ⟨fault, bars, kind⟩ := bars_of_unverified verified
    refine ⟨fault, bars, ?_⟩
    rcases kind with rfl | ⟨reason, rfl⟩
    · rfl
    · rfl

theorem refuses_of_unready (unready : ¬ (s.isUsable = true ∧ s.pending = none)) :
    ∃ fault, (∀ frames limit, (sendWithin frames limit).run s = (.error fault, s)) ∧
      fault.isLocal = false := by
  by_cases usable : s.isUsable = true
  · have pending : s.pending ≠ none := fun idle => unready ⟨usable, idle⟩
    exact ⟨_, run_sendWithin_pending usable pending, rfl⟩
  · obtain ⟨reason, dead⟩ := exists_obstacle usable
    exact ⟨_, run_sendWithin_dead dead, rfl⟩

end Session

namespace Operation

open Session

variable {operation : Operation} {s : Session ω σ} {fault : Fault}

theorem step_unready (exchanges : operation.exchanges = true)
    (unready : ¬ (s.isUsable = true ∧ s.pending = none)) :
    ∃ fault, step operation s = (.error fault, s) ∧ fault.isLocal = false := by
  cases gated : operation.isGated with
  | true =>
      obtain ⟨fault, bars, strange⟩ := bars_of_unready unready
      exact ⟨fault, step_bars gated bars, strange⟩
  | false =>
      cases operation with
      | execute frames timeout =>
          obtain ⟨fault, refused, strange⟩ := refuses_of_unready unready
          exact ⟨fault, Act.run_bind_error (run_execute_error timeout (refused frames none)),
            strange⟩
      | _ => cases exchanges.symm.trans gated

/-- An exchange that fails on its own account begins and ends with nothing pending on
a session that stays as it is. -/
theorem stays_of_isLocal (exchanges : operation.exchanges = true)
    (honest : ∀ fault, Channel.Reports ω σ fault → fault.isOfChannel = true)
    (linked : s.isUsable = true → ∃ link, s.link = some link)
    (failed : (step operation s).1 = .error fault) (own : fault.isLocal = true) :
    s.isUsable = true ∧ s.pending = none ∧ s.Stays (step operation s).2 ∧
      (step operation s).2.pending = none := by
  by_cases ready : s.isUsable = true ∧ s.pending = none
  · obtain ⟨usable, idle⟩ := ready
    have dialogue := @dialogue_of_exchanges ω σ ω σ _ _ operation exchanges
    obtain ⟨link, hlink⟩ := linked usable
    have ends : s.Ends (step operation s).1 (step operation s).2 :=
      dialogue.sound s link usable hlink
    refine ⟨usable, idle, ?_, dialogue.settles s link usable hlink idle⟩
    rw [failed] at ends
    cases ends with
    | mild _ stays => exact stays
    | broken reported =>
        have fatal := Fault.isFatal_of_isOfChannel (honest fault reported)
        rw [Fault.isFatal_of_isLocal own] at fatal
        cases fatal
  · obtain ⟨strange, hstep, isStrange⟩ := step_unready exchanges ready
    rw [hstep] at failed
    cases failed
    rw [own] at isStrange
    cases isStrange

end Operation

end MuxConsole
