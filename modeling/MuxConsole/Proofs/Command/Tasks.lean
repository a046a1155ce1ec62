import MuxConsole.Command.Run
import MuxConsole.Proofs.Session.Act

/-!
# Carrying out a task

A task takes a session to what it has to print, or to why it fails, and to the
session after it.  It gives its result only if each of its parts does, and on a new
session only if that has been connected and its peer has been verified.
-/

namespace MuxConsole.Command

variable {ω σ α β : Type}

theorem mapError_eq_ok {ε : Type} {result : Except ε α} {f : ε → Failure} {a : α} :
    result.mapError f = .ok a ↔ result = .ok a := by
  constructor <;> intro h <;> cases result <;> cases h <;> rfl

@[simp] theorem inContext_eq_ok {context : String} {result : Except Fault α} {a : α} :
    inContext context result = .ok a ↔ result = .ok a := mapError_eq_ok

@[simp] theorem bare_eq_ok {result : Except Fault α} {a : α} :
    bare result = .ok a ↔ result = .ok a := mapError_eq_ok

namespace Task

variable {s : Session ω σ}

@[simp] theorem run_pure (a : α) (s : Session ω σ) :
    (pure a : Task ω σ α).run s = (.ok a, s) := rfl

@[simp] theorem run_throw (failure : Failure) (s : Session ω σ) :
    (throw failure : Task ω σ α).run s = (.error failure, s) := rfl

@[simp] theorem run_ofExcept (result : Except Failure α) (s : Session ω σ) :
    (Task.ofExcept result : Task ω σ α).run s = (result, s) := rfl

@[simp] theorem run_get_bind (next : Session ω σ → Task ω σ α) (s : Session ω σ) :
    ((get : Task ω σ (Session ω σ)) >>= next).run s = (next s).run s := rfl

@[simp] theorem run_during (context : String) (act : Act ω σ α) (s : Session ω σ) :
    (Task.during context act).run s = (inContext context (act.run s).1, (act.run s).2) := rfl

theorem run_bind (task : Task ω σ α) (next : α → Task ω σ β) (s : Session ω σ) :
    (task >>= next).run s =
      match task.run s with
      | (.ok a, t) => (next a).run t
      | (.error failure, t) => (.error failure, t) := by
  change (task >>= next) s = match task s with
    | (.ok a, t) => next a t
    | (.error failure, t) => (.error failure, t)
  simp only [bind, ExceptT.bind, ExceptT.mk, StateT.bind]
  rcases task s with ⟨_ | _, t⟩ <;> rfl

theorem run_during_bind_ok {context : String} {act : Act ω σ α} {next : α → Task ω σ β}
    {s t : Session ω σ} {a : α} (h : act.run s = (.ok a, t)) :
    (Task.during context act >>= next).run s = (next a).run t := by
  rw [run_bind, run_during, h]
  rfl

theorem run_during_bind_error {context : String} {act : Act ω σ α} {next : α → Task ω σ β}
    {s t : Session ω σ} {fault : Fault} (h : act.run s = (.error fault, t)) :
    (Task.during context act >>= next).run s =
      (.error ((Failure.ofFault fault).during context), t) := by
  rw [run_bind, run_during, h]
  rfl

theorem run_bind_pure (task : Task ω σ α) (f : α → β) (s : Session ω σ) :
    (task >>= fun a => pure (f a)).run s = ((task.run s).1.map f, (task.run s).2) := by
  rw [run_bind]
  cases task.run s with
  | mk result t => cases result <;> rfl

theorem during_bind_eq_ok {context : String} {act : Act ω σ α} {next : α → Task ω σ β} {b : β} :
    ((Task.during context act >>= next).run s).1 = .ok b ↔
      ∃ a t, act.run s = (.ok a, t) ∧ ((next a).run t).1 = .ok b := by
  constructor
  · intro done
    cases hact : act.run s with
    | mk result t =>
        cases result with
        | error fault =>
            rw [run_during_bind_error hact] at done
            cases done
        | ok a =>
            rw [run_during_bind_ok hact] at done
            exact ⟨a, t, rfl, done⟩
  · rintro ⟨a, t, hact, done⟩
    rwa [run_during_bind_ok hact]

theorem ofExcept_bind_eq_ok {result : Except Failure α} {next : α → Task ω σ β} {b : β} :
    ((Task.ofExcept result >>= next).run s).1 = .ok b ↔
      ∃ a, result = .ok a ∧ ((next a).run s).1 = .ok b := by
  rw [run_bind, run_ofExcept]
  cases result <;> simp

end Task

variable [Channel ω σ] {settings : Settings} {legacy : Bool} {peer : ω}

/-! ## On a new session -/

def statsKind (legacy : Bool) : ServerKind := if legacy then .legacy else .stats

/-- The server for statistics and configuration has said who it is on a new session,
and it is the one expected. -/
def MetStats (σ : Type) [Channel ω σ] (settings : Settings) (legacy : Bool) (peer : ω)
    (identity : Identity) (s : Session ω σ) : Prop :=
  ∃ opened, Session.connect ((statsKind legacy).endpoint settings) settings.connectTimeout peer =
    .ok opened ∧ (Client.greetStats settings).run opened = (.ok identity, s)

def MetRemote (σ : Type) [Channel ω σ] (settings : Settings) (peer : ω) (s : Session ω σ) : Prop :=
  ∃ opened, Session.connect settings.remoteEndpoint settings.connectTimeout peer = .ok opened ∧
    (Client.greetRemote settings).run opened = (.ok (), s)

theorem onSession_connected {context : String} {endpoint : Endpoint} {task : Task ω σ α}
    {opened : Session ω σ}
    (h : Session.connect endpoint settings.connectTimeout peer = .ok opened) :
    onSession σ context endpoint settings task peer =
      ((task.run opened).1, (task.run opened).2.peer) := by
  rw [onSession, h]
  rfl

theorem onSession_eq_ok {context : String} {endpoint : Endpoint} {task : Task ω σ α} {a : α} :
    (onSession σ context endpoint settings task peer).1 = .ok a ↔
      ∃ opened : Session ω σ, Session.connect endpoint settings.connectTimeout peer = .ok opened ∧
        (task.run opened).1 = .ok a := by
  constructor
  · intro done
    unfold onSession at done
    split at done
    · cases done
    · rename_i opened connected
      exact ⟨opened, connected, done⟩
  · rintro ⟨opened, connected, done⟩
    rwa [onSession_connected connected]

theorem onStats_eq_ok {task : Identity → Task ω σ α} {a : α} :
    (onStats σ settings legacy task peer).1 = .ok a ↔
      ∃ identity s, MetStats σ settings legacy peer identity s ∧
        ((task identity).run s).1 = .ok a := by
  unfold onStats MetStats
  simp only [onSession_eq_ok, Task.during_bind_eq_ok]
  constructor
  · rintro ⟨opened, connected, identity, s, greeted, done⟩
    exact ⟨identity, s, ⟨opened, connected, greeted⟩, done⟩
  · rintro ⟨identity, s, ⟨opened, connected, greeted⟩, done⟩
    exact ⟨opened, connected, identity, s, greeted, done⟩

theorem onSession_bind_pure (context : String) (endpoint : Endpoint) (task : Task ω σ α)
    (f : α → β) :
    (onSession σ context endpoint settings (task >>= fun a => pure (f a)) peer).1 =
      (onSession σ context endpoint settings task peer).1.map f := by
  unfold onSession
  split
  · rfl
  · rw [Task.run_bind_pure]
    rfl

theorem onStats_bind_pure (task : Identity → Task ω σ α) (f : α → β) :
    (onStats σ settings legacy (fun identity => do return f (← task identity)) peer).1 =
      (onStats σ settings legacy task peer).1.map f := by
  unfold onStats
  simp only [← bind_assoc]
  exact onSession_bind_pure _ _ _ f

theorem onRemote_eq_ok {task : Task ω σ α} {a : α} :
    (onRemote σ settings task peer).1 = .ok a ↔
      ∃ s, MetRemote σ settings peer s ∧ (task.run s).1 = .ok a := by
  unfold onRemote MetRemote
  simp only [onSession_eq_ok, Task.during_bind_eq_ok]
  constructor
  · rintro ⟨opened, connected, _, s, greeted, done⟩
    exact ⟨s, ⟨opened, connected, greeted⟩, done⟩
  · rintro ⟨s, ⟨opened, connected, greeted⟩, done⟩
    exact ⟨opened, connected, (), s, greeted, done⟩

theorem onStats_eq (settings : Settings) (legacy : Bool) (task : Identity → Task ω σ α)
    (peer : ω) :
    onStats σ settings legacy task peer =
      onSession σ statsContext ((statsKind legacy).endpoint settings) settings
        (Task.during statsContext (Client.greetStats settings) >>= task) peer := rfl

theorem onStats_met {task : Identity → Task ω σ α} {identity : Identity} {s : Session ω σ}
    (met : MetStats σ settings legacy peer identity s) :
    onStats σ settings legacy task peer =
      (((task identity).run s).1, ((task identity).run s).2.peer) := by
  obtain ⟨opened, connected, greeted⟩ := met
  rw [onStats_eq, onSession_connected connected, Task.run_during_bind_ok greeted]

theorem onStats_unmet {task : Identity → Task ω σ α} {opened s : Session ω σ} {fault : Fault}
    (connected : Session.connect ((statsKind legacy).endpoint settings) settings.connectTimeout
      peer = .ok opened)
    (refused : (Client.greetStats settings).run opened = (.error fault, s)) :
    onStats σ settings legacy task peer =
      (.error ((Failure.ofFault fault).during statsContext), s.peer) := by
  rw [onStats_eq, onSession_connected connected, Task.run_during_bind_error refused]

theorem onRemote_met {task : Task ω σ α} {s : Session ω σ} (met : MetRemote σ settings peer s) :
    onRemote σ settings task peer = ((task.run s).1, (task.run s).2.peer) := by
  obtain ⟨opened, connected, greeted⟩ := met
  rw [onRemote, onSession_connected connected, Task.run_during_bind_ok greeted]

end MuxConsole.Command
