import MuxConsole.Proofs.Command.Outcomes
import MuxConsole.Proofs.Session.Conversations

/-!
# Overhearing a command

A command visits one server, or one after the other, each on a session of its own.  What
is heard of a visit is the greeting, and then the script of what the command asks there.
-/

namespace MuxConsole.Command

open Session

variable {ω σ α β γ : Type}

/-! ## Tasks -/

namespace Task

/-- On a session that is as it should be before it, what is heard of the task is the
script, and being overheard makes no difference to it. -/
def Heard (before : Session ω σ → Prop) (task : Task ω σ α)
    (task' : Task (Overheard ω) (Tapped σ) α) (script : Script β) : Prop :=
  ∀ s, before s → ∃ heard result t outcome, task.run s = (result, t) ∧
    (∀ earlier endpoint uses, task'.run (s.overheard earlier endpoint uses) =
      (result, t.overheard earlier endpoint (uses ++ heard))) ∧
    Plays script heard outcome

variable {P Q : Session ω σ → Prop} {act : Act ω σ α} {act' : Act (Overheard ω) (Tapped σ) α}
  {script : Script α}

theorem run_during_bind {context : String} {next : α → Task ω σ β} {f : α → Except Failure β}
    (silent : ∀ a t, (next a).run t = (f a, t)) (s : Session ω σ) :
    (Task.during context act >>= next).run s =
      (inContext context (act.run s).1 >>= f, (act.run s).2) := by
  cases hact : act.run s with
  | mk result t =>
      cases result with
      | ok a => exact (run_during_bind_ok hact).trans (silent a t)
      | error fault => exact run_during_bind_error hact

theorem Heard.of_run {task : Task ω σ β} {task' : Task (Overheard ω) (Tapped σ) β}
    (h : Speaks P Q act act' script) (report : Except Fault α → Except Failure β)
    (bare : ∀ s, task.run s = (report (act.run s).1, (act.run s).2))
    (overheard : ∀ s, task'.run s = (report (act'.run s).1, (act'.run s).2)) :
    Heard P task task' script := by
  intro s hs
  obtain ⟨heard, result, t, hears, plays, _⟩ := h s hs
  refine ⟨heard, report result, t, result, ?_, fun earlier endpoint uses => ?_, plays⟩
  · rw [bare, hears.bare]
  · rw [overheard, hears.overheard]

theorem Heard.during (h : Speaks P Q act act' script) {context : String}
    {next : α → Task ω σ β} {next' : α → Task (Overheard ω) (Tapped σ) β}
    (f : α → Except Failure β) (silent : ∀ a t, (next a).run t = (f a, t))
    (silent' : ∀ a t, (next' a).run t = (f a, t)) :
    Heard P (Task.during context act >>= next) (Task.during context act' >>= next') script :=
  .of_run h (fun result => inContext context result >>= f) (run_during_bind silent)
    (run_during_bind silent')

theorem Heard.silent {task : Task ω σ α} {task' : Task (Overheard ω) (Tapped σ) α}
    (h : ∀ s, ∃ result, task.run s = (result, s) ∧ ∀ earlier endpoint uses,
      task'.run (s.overheard earlier endpoint uses) =
        (result, s.overheard earlier endpoint uses)) (outcome : Except Fault β) :
    Heard P task task' (.result outcome) := by
  intro s _
  obtain ⟨result, bare, overheard⟩ := h s
  refine ⟨[], result, s, outcome, bare, fun earlier endpoint uses => ?_, .result outcome⟩
  rw [List.append_nil]
  exact overheard earlier endpoint uses

theorem Heard.greeted {context : String} {greeting : Script α} {task : α → Task ω σ β}
    {task' : α → Task (Overheard ω) (Tapped σ) β} {scripts : α → Script γ}
    (greets : Speaks P Q act act' greeting)
    (h : ∀ a, Heard Q (task a) (task' a) (scripts a)) :
    Heard P (Task.during context act >>= task) (Task.during context act' >>= task')
      (greeting.bind scripts) := by
  intro s hs
  obtain ⟨heard, result, t, hears, plays, verified⟩ := greets s hs
  cases result with
  | error fault =>
      refine ⟨heard, _, t, _, run_during_bind_error hears.bare, fun _ _ _ => ?_,
        plays.bind_error scripts⟩
      exact run_during_bind_error (hears.overheard _ _ _)
  | ok a =>
      obtain ⟨heard', result, u, outcome, bare, overheard, plays'⟩ := h a t (verified a rfl)
      refine ⟨heard ++ heard', result, u, outcome, ?_, fun earlier endpoint uses => ?_,
        plays.bind_ok plays'⟩
      · rw [run_during_bind_ok hears.bare, bare]
      · rw [run_during_bind_ok (hears.overheard earlier endpoint uses), overheard,
          List.append_assoc]

end Task

/-! ## Visits -/

/-- A visit to a server, overheard after other talks: the same comes of it, and unless
nobody can connect, it is one talk with the server by the script. -/
def Visits (script : Script γ) (endpoint : Endpoint) (earlier : List Talk)
    (bare : Except Failure α × ω) (overheard : Except Failure α × Overheard ω) : Prop :=
  ∃ talks, overheard = (bare.1, ⟨bare.2, earlier ++ talks⟩) ∧
    ((talks = [] ∧ ∃ failure, bare.1 = .error failure) ∨
      ∃ uses outcome, talks = [⟨endpoint, uses⟩] ∧ Plays script uses outcome)

variable [Channel ω σ] {settings : Settings} {legacy : Bool}

theorem fresh_of_connect {endpoint : Endpoint} {deadline : Nat} {peer : ω} {opened : Session ω σ}
    (h : Session.connect endpoint deadline peer = .ok opened) :
    Speaks.Fresh endpoint.wire opened := by
  unfold Session.connect at h
  split at h
  · obtain rfl := Except.ok.inj h
    exact ⟨⟨rfl, rfl, ⟨_, rfl⟩, rfl⟩, rfl⟩
  · cases h

theorem onSession_visits {context : String} {endpoint : Endpoint} {task : Task ω σ α}
    {task' : Task (Overheard ω) (Tapped σ) α} {script : Script β}
    (h : Task.Heard (Speaks.Fresh endpoint.wire) task task' script) (peer : ω)
    (earlier : List Talk) :
    Visits script endpoint earlier (onSession σ context endpoint settings task peer)
      (onSession (Tapped σ) context endpoint settings task' ⟨peer, earlier⟩) := by
  have connects := Session.connect_overheard (σ := σ) endpoint settings.connectTimeout peer earlier
  cases connected : (Session.connect endpoint settings.connectTimeout peer :
      Except (Fault × ω) (Session ω σ)) with
  | error refusal =>
      rw [connected] at connects
      rw [onSession, onSession, connected, connects]
      refine ⟨[], ?_, .inl ⟨rfl, _, rfl⟩⟩
      rw [List.append_nil]
  | ok opened =>
      rw [connected] at connects
      obtain ⟨heard, result, t, outcome, bare, overheard, plays⟩ :=
        h opened (fresh_of_connect connected)
      refine ⟨[⟨endpoint, heard⟩], ?_, .inr ⟨heard, outcome, rfl, plays⟩⟩
      rw [onSession_connected connected, onSession_connected connects, bare, overheard]
      rfl

theorem onStats_visits {task : Identity → Task ω σ α}
    {task' : Identity → Task (Overheard ω) (Tapped σ) α} {scripts : Identity → Script β}
    (h : ∀ identity, Task.Heard (At .verified ((statsKind legacy).endpoint settings).wire)
      (task identity) (task' identity) (scripts identity)) (peer : ω) (earlier : List Talk) :
    Visits ((Script.question (.ofTexts ["info"]) (welcome settings.expectedService)).bind scripts)
      ((statsKind legacy).endpoint settings) earlier (onStats σ settings legacy task peer)
      (onStats (Tapped σ) settings legacy task' ⟨peer, earlier⟩) :=
  onSession_visits (.greeted (Speaks.validate settings.expectedService _) h) peer earlier

theorem onRemote_visits {task : Task ω σ α} {task' : Task (Overheard ω) (Tapped σ) α}
    {script : Script β} (h : Task.Heard (At .verified .queue) task task' script) (peer : ω)
    (earlier : List Talk) :
    Visits ((Script.question (.ofTexts ["ping"]) pong).bind fun _ => script)
      settings.remoteEndpoint earlier (onRemote σ settings task peer)
      (onRemote (Tapped σ) settings task' ⟨peer, earlier⟩) := by
  refine onSession_visits (.greeted (P := Speaks.Fresh .queue) ?_ fun _ => h) peer earlier
  intro s fresh
  exact Speaks.ping settings.livenessTimeout s fresh.toAt

/-! ## One question on a visit -/

theorem onStats_asks (settings : Settings) (legacy : Bool) {task : Identity → Task ω σ α}
    {task' : Identity → Task (Overheard ω) (Tapped σ) α} {act : Act ω σ β}
    {act' : Act (Overheard ω) (Tapped σ) β} {request : Frames} {read : Frames → Except Fault β}
    (speaks : Speaks (At .verified ((statsKind legacy).endpoint settings).wire)
      (At .verified ((statsKind legacy).endpoint settings).wire) act act'
      (.question request read))
    (report : Except Fault β → Except Failure α)
    (bare : ∀ identity s, (task identity).run s = (report (act.run s).1, (act.run s).2))
    (overheard : ∀ identity s, (task' identity).run s = (report (act'.run s).1, (act'.run s).2))
    (peer : ω) :
    ∃ talks, onStats (Tapped σ) settings legacy task' (⟨peer, []⟩ : Overheard ω) =
        ((onStats σ settings legacy task peer).1,
          ⟨(onStats σ settings legacy task peer).2, talks⟩) ∧
      (((∀ identity s, ¬ MetStats σ settings legacy peer identity s) ∧
          ∀ talk ∈ talks, Talk.requests talk.uses = [.ofTexts ["info"]]) ∨
        ∃ hello heard outcome,
          talks = [⟨(statsKind legacy).endpoint settings, Exchange.uses hello ++ heard⟩] ∧
            hello.request = .ofTexts ["info"] ∧ Plays (.question request read) heard outcome ∧
            (onStats σ settings legacy task peer).1 = report outcome) := by
  have connects := Session.connect_overheard (σ := σ) ((statsKind legacy).endpoint settings)
    settings.connectTimeout peer []
  cases connected : (Session.connect ((statsKind legacy).endpoint settings)
      settings.connectTimeout peer : Except (Fault × ω) (Session ω σ)) with
  | error refusal =>
      rw [connected] at connects
      refine ⟨[], ?_, .inl ⟨?_, nofun⟩⟩
      · rw [onStats_eq, onStats_eq, onSession, onSession, connected, connects]
      · rintro identity s ⟨opened, found, _⟩
        rw [connected] at found
        cases found
  | ok opened =>
      rw [connected] at connects
      obtain ⟨heard, result, t, hears, plays, verified⟩ := Speaks.validate settings.expectedService
        settings.livenessTimeout opened (fresh_of_connect connected)
      cases result with
      | error fault =>
          refine ⟨[⟨(statsKind legacy).endpoint settings, heard⟩], ?_, .inl ⟨?_, ?_⟩⟩
          · rw [onStats_unmet connected hears.bare,
              onStats_unmet connects (hears.overheard [] _ [])]
            rfl
          · rintro identity s ⟨opened', found, greeted⟩
            rw [connected] at found
            cases found
            have same := hears.bare.symm.trans greeted
            cases same
          · rintro _ (_ | ⟨_, ⟨⟩⟩)
            rw [plays.requests_eq, Script.requests_question]
      | ok identity =>
          obtain ⟨heard', outcome, u, hears', plays', -⟩ := speaks t (verified identity rfl)
          obtain ⟨_, _, fails⟩ | ⟨hello, greeting, rfl, -⟩ := plays.of_question
          · cases fails
          · have met : MetStats σ settings legacy peer identity t := ⟨opened, connected, hears.bare⟩
            have met' : MetStats (Tapped σ) settings legacy (⟨peer, []⟩ : Overheard ω) identity _ :=
              ⟨_, connects, hears.overheard [] _ []⟩
            refine ⟨[⟨(statsKind legacy).endpoint settings, hello.uses ++ heard'⟩], ?_,
              .inr ⟨hello, heard', outcome, rfl, greeting, plays', ?_⟩⟩
            · rw [onStats_met met, onStats_met met', bare, overheard, hears'.bare,
                hears'.overheard]
              rfl
            · rw [onStats_met met, bare, hears'.bare]

end MuxConsole.Command
