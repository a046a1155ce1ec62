import MuxConsole.Proofs.Session.Script

/-!
# Operations speak their scripts

On a session at rest a question is sent, and its reply is waited for.  Overheard or not,
an operation comes back with the same, and what is heard is its script.
-/

namespace MuxConsole

variable {ω σ α β : Type}

namespace Session

/-! ## Overhearing an operation -/

/-- On the session the operation comes to this, and if the session is overheard it comes to
the same, and this is heard. -/
structure Hears (s : Session ω σ) (act : Act ω σ α) (act' : Act (Overheard ω) (Tapped σ) α)
    (heard : List Use) (result : Except Fault α) (t : Session ω σ) : Prop where
  bare : act.run s = (result, t)
  overheard (earlier : List Talk) (endpoint : Endpoint) (uses : List Use) :
    act'.run (s.overheard earlier endpoint uses) =
      (result, t.overheard earlier endpoint (uses ++ heard))

namespace Hears

variable {s t u : Session ω σ} {act : Act ω σ α} {act' : Act (Overheard ω) (Tapped σ) α}
  {next : α → Act ω σ β} {next' : α → Act (Overheard ω) (Tapped σ) β} {heard later : List Use}

theorem bind_ok {a : α} {result : Except Fault β} (first : s.Hears act act' heard (.ok a) t)
    (second : t.Hears (next a) (next' a) later result u) :
    s.Hears (act >>= next) (act' >>= next') (heard ++ later) result u where
  bare := (Act.run_bind_ok first.bare).trans second.bare
  overheard earlier endpoint uses := by
    rw [Act.run_bind_ok (first.overheard earlier endpoint uses), ← List.append_assoc]
    exact second.overheard earlier endpoint _

theorem bind_error {fault : Fault} (first : s.Hears act act' heard (.error fault) t) :
    s.Hears (act >>= next) (act' >>= next') heard (.error fault) t where
  bare := Act.run_bind_error first.bare
  overheard earlier endpoint uses :=
    Act.run_bind_error (first.overheard earlier endpoint uses)

theorem silent {result : Except Fault α} (bare : act.run s = (result, t))
    (overheard : ∀ earlier endpoint uses, act'.run (s.overheard earlier endpoint uses) =
      (result, t.overheard earlier endpoint uses)) :
    s.Hears act act' [] result t where
  bare
  overheard earlier endpoint uses := by
    rw [List.append_nil]
    exact overheard earlier endpoint uses

end Hears

/-! ## One exchange -/

section Exchange

variable [Channel ω σ] {s t u v : Session ω σ} {link link' : σ} {command : String}
  {frames reply : Frames} {fault : Fault}

theorem sendOn_stays {limit : Option Nat} {sending : Sending}
    (sent : s.sendOn frames limit link = (sending, t))
    (sound : (Use.send frames sending).fails = false) :
    s.Stays t ∧ t.pending = (Use.send frames sending).pendingAfter s.pending := by
  obtain ⟨rfl, rfl⟩ := Prod.mk.inj sent
  exact ⟨⟨rfl, by simp [after, sound], rfl, _, rfl⟩, rfl⟩

theorem receiveOn_stays {limit : Nat} {receiving : Receiving}
    (received : s.receiveOn limit link = (receiving, t))
    (sound : (Use.receive receiving).fails = false) :
    s.Stays t ∧ t.pending = (Use.receive receiving).pendingAfter s.pending := by
  obtain ⟨rfl, rfl⟩ := Prod.mk.inj received
  exact ⟨⟨rfl, by simp [after, sound], rfl, _, rfl⟩, rfl⟩

theorem run_poll_answered (usable : s.isUsable = true) (pending : s.pending = some command)
    (hlink : s.link = some link) {timeout : Nat}
    (received : s.receiveOn timeout link = (.frames reply, t)) :
    (poll timeout).run s = (.ok (some reply), t) := by
  have within := run_receiveWithin usable pending hlink timeout
  rw [received, Receiving.notices, noting_nil] at within
  exact Act.run_bind_ok within

theorem run_poll_lost (usable : s.isUsable = true) (pending : s.pending = some command)
    (hlink : s.link = some link) {timeout : Nat}
    (received : s.receiveOn timeout link = (.failed fault, t)) :
    (poll timeout).run s = (.error fault, t.noting [.transportFailed command fault]) := by
  have within := run_receiveWithin usable pending hlink timeout
  rw [received] at within
  exact Act.run_bind_error within

theorem run_poll_silent (usable : s.isUsable = true) (pending : s.pending = some command)
    (hlink : s.link = some link) {timeout : Nat} {result : Except Fault Unit}
    (received : s.receiveOn timeout link = (.nothing, t)) (hlink' : t.link = some link')
    (reset : t.resetOn link' = (result, u)) :
    (poll timeout).run s =
      (result.map fun _ => none, u.noting [.noReply command t.endpoint timeout]) := by
  have within := run_receiveWithin usable pending hlink timeout
  rw [received, Receiving.notices, noting_nil] at within
  have pending' : t.pending = some command := (receiveOn_stays received rfl).2.trans pending
  have given := run_giveUp pending' hlink' timeout
  rw [reset] at given
  unfold poll
  rw [Act.run_bind_ok within]
  cases result with
  | ok => exact Act.run_bind_ok given
  | error fault => exact Act.run_bind_error given

def unsentFault : Sending → Fault
  | .failed fault => fault
  | .sent _ | .dropped => .nothingPending

theorem run_execute_unsent (usable : s.isUsable = true) (idle : s.pending = none)
    (hlink : s.link = some link) {sending : Sending} (timeout : Nat)
    (unsent : ∀ took, sending ≠ .sent took)
    (sent : s.sendOn frames none link = (sending, t)) :
    (execute frames timeout).run s = (.error (unsentFault sending), t) := by
  have within := run_sendWithin usable idle hlink frames none
  rw [sent] at within
  unfold execute send
  cases sending with
  | sent took => exact absurd rfl (unsent took)
  | failed fault => exact Act.run_bind_error (by rw [Act.run_discard, within]; rfl)
  | dropped =>
      obtain ⟨stays, still⟩ := sendOn_stays sent rfl
      rw [Act.run_bind_ok (a := ()) (t := t) (by rw [Act.run_discard, within]; rfl)]
      have nothing := run_receiveWithin_idle (stays.isUsable usable) (still.trans idle) timeout
      exact Act.run_bind_error (Act.run_bind_error nothing)

theorem run_execute_sent (usable : s.isUsable = true) (idle : s.pending = none)
    (hlink : s.link = some link) {took timeout : Nat} {result : Except Fault (Option Frames)}
    (sent : s.sendOn frames none link = (.sent took, t))
    (polled : (poll timeout).run t = (result, u)) :
    (execute frames timeout).run s =
      (result >>= fun reply => reply.elim (.error (.timeout frames.command (1000 * timeout))) .ok,
        u) := by
  have within := run_sendWithin usable idle hlink frames none
  rw [sent] at within
  unfold execute send
  rw [Act.run_bind_ok (a := ()) (t := t) (by rw [Act.run_discard, within]; rfl)]
  cases result with
  | error fault => exact Act.run_bind_error polled
  | ok reply =>
      rw [Act.run_bind_ok polled]
      cases reply <;> rfl

inductive Polled : List Use → Except Fault (Option Frames) → Prop
  | answered (reply : Frames) : Polled [.receive (.frames reply)] (.ok (some reply))
  | lost (fault : Fault) : Polled [.receive (.failed fault)] (.error fault)
  | silent (result : Except Fault Unit) :
      Polled [.receive .nothing, .reset result] (result.map fun _ => none)

theorem poll_hears (usable : s.isUsable = true) (pending : s.pending = some command)
    (hlink : s.link = some link) (timeout : Nat) :
    ∃ heard result t, s.Hears (poll timeout) (poll timeout) heard result t ∧
      Polled heard result ∧ ∀ reply, result = .ok (some reply) → s.Stays t ∧ t.pending = none := by
  have hlink' (earlier : List Talk) (endpoint : Endpoint) (uses : List Use) :=
    overheard_link earlier endpoint uses hlink
  cases received : s.receiveOn timeout link with
  | mk receiving t =>
    have overhears (earlier : List Talk) (endpoint : Endpoint) (uses : List Use) :=
      receiveOn_overheard earlier endpoint uses s timeout link
    simp only [received] at overhears
    cases receiving with
    | frames reply =>
        have bare := run_poll_answered usable pending hlink received
        refine ⟨_, _, _, ⟨bare, ?_⟩, .answered reply, ?_⟩
        · intro earlier endpoint uses
          exact run_poll_answered (s := s.overheard earlier endpoint uses) usable pending
            (hlink' _ _ _) (overhears _ _ _)
        · intro _ _
          exact receiveOn_stays received rfl
    | failed fault =>
        have bare := run_poll_lost usable pending hlink received
        refine ⟨_, _, _, ⟨bare, ?_⟩, .lost fault, nofun⟩
        intro earlier endpoint uses
        exact run_poll_lost (s := s.overheard earlier endpoint uses) usable pending
          (hlink' _ _ _) (overhears _ _ _)
    | nothing =>
        obtain ⟨link', hlinked⟩ := (receiveOn_stays received rfl).1.linked
        cases reset : t.resetOn link' with
        | mk result u =>
          have overhearsReset (earlier : List Talk) (endpoint : Endpoint) (uses : List Use) :=
            resetOn_overheard earlier endpoint uses t link'
          simp only [reset] at overhearsReset
          have bare := run_poll_silent usable pending hlink received hlinked reset
          refine ⟨_, _, _, ⟨bare, ?_⟩, .silent result, ?_⟩
          · intro earlier endpoint uses
            have polled := run_poll_silent (s := s.overheard earlier endpoint uses) usable pending
              (hlink' _ _ _) (overhears _ _ _) (overheard_link _ _ _ hlinked)
              (overhearsReset _ _ _)
            rw [List.append_assoc] at polled
            exact polled
          · cases result <;> nofun

/-- A request on a usable session at rest is answered, and the session is at rest again,
or it remains without a reply. -/
theorem execute_hears (usable : s.isUsable = true) (idle : s.pending = none)
    (hlink : s.link = some link) (frames : Frames) (timeout : Nat) :
    ∃ heard result t, s.Hears (execute frames timeout) (execute frames timeout) heard result t ∧
      Plays (.question frames .ok) heard result ∧
      ∀ reply, result = .ok reply → s.Stays t ∧ t.pending = none := by
  have hlink' (earlier : List Talk) (endpoint : Endpoint) (uses : List Use) :=
    overheard_link earlier endpoint uses hlink
  cases sent : s.sendOn frames none link with
  | mk sending t =>
    have overhears (earlier : List Talk) (endpoint : Endpoint) (uses : List Use) :=
      sendOn_overheard earlier endpoint uses s frames none link
    simp only [sent] at overhears
    by_cases unsent : ∀ took, sending ≠ .sent took
    · have bare := run_execute_unsent usable idle hlink timeout unsent sent
      refine ⟨_, _, _, ⟨bare, ?_⟩, .unanswered (.unsent unsent) _, nofun⟩
      intro earlier endpoint uses
      exact run_execute_unsent (s := s.overheard earlier endpoint uses) usable idle
        (hlink' _ _ _) timeout unsent (overhears _ _ _)
    · obtain ⟨took, rfl⟩ : ∃ took, sending = .sent took := by simpa using unsent
      obtain ⟨stays, pending⟩ := sendOn_stays sent rfl
      obtain ⟨link', hlinked⟩ := stays.linked
      obtain ⟨heard, polled, u, hears, heardPoll, after⟩ :=
        poll_hears (stays.isUsable usable) pending hlinked timeout
      have bare := run_execute_sent usable idle hlink sent hears.bare
      refine ⟨.send frames (.sent took) :: heard, _, _, ⟨bare, ?_⟩, ?_, ?_⟩
      · intro earlier endpoint uses
        have executed := run_execute_sent (s := s.overheard earlier endpoint uses) usable idle
          (hlink' _ _ _) (overhears _ _ _) (hears.overheard _ _ _)
        rw [List.append_assoc] at executed
        exact executed
      · cases heardPoll with
        | answered reply => exact .answered ⟨frames, took, reply⟩ (.result (.ok reply))
        | lost fault => exact .unanswered (.lost took fault) fault
        | silent result =>
            cases result with
            | ok => exact .unanswered (.silent took _) _
            | error fault => exact .unanswered (.silent took _) fault
      · cases heardPoll with
        | answered reply =>
            intro _ _
            obtain ⟨staysAfter, idleAfter⟩ := after reply rfl
            exact ⟨stays.trans staysAfter, idleAfter⟩
        | lost fault => nofun
        | silent result => cases result <;> nofun

end Exchange

end Session

end MuxConsole
