import Mathlib
import MuxConsole.Proofs.Command.Outcomes
import MuxConsole.Proofs.Peer.Blind
import MuxConsole.Proofs.Session.Alike

/-!
# Output is all or nothing

The program succeeds, with all that it has to print, exactly if everything that it uses
goes well, and otherwise it prints nothing.  One failure alone is tolerated: the
monitoring values are printed although nothing is known about the expiry of the bulletin,
and what they say about the inputs does not depend on that.
-/

namespace MuxConsole.Command

variable {ω σ : Type} [Channel ω σ] {settings : Settings} {legacy : Bool}
  {files : String → FileState} {peer : ω}

/-! ## The program -/

theorem stdout_of_failure {result : Except Failure String}
    (fails : (Exit.ofResult result).code ≠ 0) : (Exit.ofResult result).stdout = "" := by
  cases result with
  | ok output => exact absurd rfl fails
  | error failure => rfl

theorem ofResult_succeeds {result : Except Failure String} {output : String} :
    (Exit.ofResult result).code = 0 ∧ (Exit.ofResult result).stdout = output ↔
      result = .ok output := by
  cases result with
  | ok printed => simp [Exit.ofResult]
  | error failure => simp [Exit.ofResult]

def Invocation.result (σ : Type) [Channel ω σ] (invocation : Invocation)
    (files : String → FileState) (peer : ω) : Except Failure String := do
  let settings ← resolve invocation.options files
  (invocation.command.run σ settings invocation.options.legacy files peer).1

theorem exit_eq {words : List String} {invocation : Invocation}
    (accepted : Invocation.ofWords words = .ok invocation) (files : String → FileState)
    (peer : ω) :
    (runProgram σ words files peer).1 = .ofResult (invocation.result σ files peer) := by
  rw [runProgram, accepted]
  unfold Invocation.result
  change (invocation.run σ files peer).1 = _
  unfold Invocation.run
  cases resolve invocation.options files <;> rfl

theorem result_eq_ok {invocation : Invocation} {output : String} :
    invocation.result σ files peer = .ok output ↔
      ∃ settings, resolve invocation.options files = .ok settings ∧
        Prints σ settings invocation.options.legacy files peer invocation.command output := by
  unfold Invocation.result
  cases resolve invocation.options files with
  | error failure => simp [bind, Except.bind]
  | ok settings => simp [bind, Except.bind, run_eq_ok]

/-! ## Monitoring values -/

def expiryBlock (expiry : Option String) : String :=
  Text.unlines (Report.Block.lines ⟨Report.expiryGraph.name,
    [("expiry", Report.expiryValue expiry)]⟩)

def inputBlocks (snapshot : Input.Snapshot) : String :=
  Text.unlines ((snapshot.entries.flatMap fun (input, stat) =>
    Report.statBlocks input stat).flatMap (·.lines))

theorem graphValues_eq (expiry : Option String) (snapshot : Input.Snapshot) :
    Report.graphValues expiry snapshot = expiryBlock expiry ++ inputBlocks snapshot := by
  unfold Report.graphValues Report.blocks expiryBlock inputBlocks Text.unlines
  rw [List.flatMap_cons, List.map_append, String.join_append]

def snapshotOf (σ : Type) [Channel ω σ] (settings : Settings) (legacy : Bool) (peer : ω) :
    Except Failure Input.Snapshot :=
  (onStats σ settings legacy (fun _ => readStatistics settings) peer).1

theorem fetchGraphs_told {expiry : Option String} {after : ω}
    (told : Told σ settings peer expiry after) :
    (fetchGraphs σ settings legacy peer).1 =
      (snapshotOf σ settings legacy after).map fun snapshot =>
        expiryBlock expiry ++ inputBlocks snapshot ++ "\n" := by
  unfold fetchGraphs
  rw [onRemote_expiryTask.mpr told]
  refine (onStats_bind_pure _ _).trans ?_
  simp only [graphValues_eq]
  rfl

/-! ## Servers that answer alike -/

def Task.Related {α ω' σ' : Type} (R : Session ω σ → Session ω' σ' → Prop) (task : Task ω σ α)
    (task' : Task ω' σ' α) : Prop :=
  ∀ s t, R s t → (task.run s).1 = (task'.run t).1 ∧ R (task.run s).2 (task'.run t).2

namespace Task.Related

variable {α β ω' σ' : Type} {R : Session ω σ → Session ω' σ' → Prop}

omit [Channel ω σ] in
theorem during {act : Act ω σ α} {act' : Act ω' σ' α} (h : Act.Related R act act')
    (context : String) : Related R (Task.during context act) (Task.during context act') := by
  intro s t related
  obtain ⟨same, after⟩ := h s t related
  rw [Task.run_during, Task.run_during, same]
  exact ⟨rfl, after⟩

omit [Channel ω σ] in
theorem bind {task : Task ω σ α} {task' : Task ω' σ' α} {next : α → Task ω σ β}
    {next' : α → Task ω' σ' β} (first : Related R task task')
    (second : ∀ a, Related R (next a) (next' a)) :
    Related R (task >>= next) (task' >>= next') := by
  intro s t related
  obtain ⟨same, after⟩ := first s t related
  rw [Task.run_bind, Task.run_bind]
  cases htask : task.run s with
  | mk result u =>
      cases htask' : task'.run t with
      | mk result' u' =>
          simp only [htask, htask'] at same after
          subst same
          cases result with
          | ok a => exact second a u u' after
          | error failure => exact ⟨rfl, after⟩

end Task.Related

theorem onSession_alike {α : Type} {context : String} {endpoint : Endpoint} {after after' : ω}
    {task : Task ω σ α}
    (alike : Channel.ServesAlike σ σ endpoint settings.connectTimeout after after')
    (related : ∀ {R : σ × ω → σ × ω → Prop}, Channel.Bisimulates R →
      Task.Related (Session.OnAlike R) task task) :
    (onSession σ context endpoint settings task after).1 =
      (onSession σ context endpoint settings task after').1 := by
  obtain ⟨R, bisimulates, connected⟩ := alike
  unfold onSession Session.connect
  cases hconnect : (Channel.connect endpoint settings.connectTimeout after :
      Except Fault σ × ω) with
  | mk result peer =>
      cases hconnect' : (Channel.connect endpoint settings.connectTimeout after' :
          Except Fault σ × ω) with
      | mk result' peer' =>
          rw [hconnect, hconnect'] at connected
          -- Both can be connected to or neither can.
          cases result with
          | error fault =>
              cases result' with
              | error fault' =>
                  cases connected
                  rfl
              | ok link' => cases connected
          | ok link =>
              cases result' with
              | error fault' => cases connected
              | ok link' =>
                  exact (related bisimulates _ _ (Session.onAlike_ofLink endpoint connected)).1

theorem snapshotOf_alike {after after' : ω}
    (alike : Channel.ServesAlike σ σ ((statsKind legacy).endpoint settings)
      settings.connectTimeout after after') :
    snapshotOf σ settings legacy after = snapshotOf σ settings legacy after' := by
  refine onSession_alike alike fun bisimulates => ?_
  have lockstep := Session.onAlike_lockstep bisimulates
  have greeted := lockstep.validate settings.expectedService settings.livenessTimeout
  have answered := lockstep.dialogue (.values settings.livenessTimeout)
  exact (Task.Related.during greeted _).bind fun _ => .during answered _

end MuxConsole.Command

namespace MuxConsole.Peer.Scripted

theorem servesAlike {peer peer' : Scripted}
    (reachable : peer.unreachable = peer'.unreachable) (script : peer.script = peer'.script)
    (endpoint : Endpoint) (deadline : Nat) :
    Channel.ServesAlike ScriptedLink ScriptedLink endpoint deadline peer peer' := by
  refine ⟨fun x y => x.1 = y.1 ∧ x.2.script = y.2.script, ⟨?_, ?_, ?_⟩, ?_⟩
  · rintro ⟨link, p⟩ ⟨_, q⟩ ⟨rfl, same⟩ frames limit
    obtain ⟨sending, link', asked, sends⟩ := send_uniform frames link p.script
    have hsend : Channel.send frames limit link p = _ := sends p rfl
    have hsend' : Channel.send frames limit link q = _ := sends q same.symm
    dsimp only
    rw [hsend, hsend']
    exact ⟨rfl, rfl, rfl⟩
  · rintro ⟨link, p⟩ ⟨_, q⟩ ⟨rfl, same⟩ limit
    obtain ⟨receiving, link', receives⟩ := receive_uniform limit link
    have hreceive (peer : Scripted) : Channel.receive limit link peer = _ := receives peer
    dsimp only
    rw [hreceive, hreceive]
    exact ⟨rfl, rfl, same⟩
  · rintro ⟨link, p⟩ ⟨_, q⟩ ⟨rfl, same⟩
    obtain ⟨result, resets⟩ := reset_uniform link
    have hreset (peer : Scripted) : Channel.reset link peer = _ := resets peer
    dsimp only
    rw [hreset, hreset]
    exact ⟨rfl, rfl, same⟩
  · have hconnect (peer : Scripted) :
        (Channel.connect endpoint deadline peer : Except Fault ScriptedLink × Scripted) =
          connect endpoint peer := rfl
    rw [hconnect, hconnect, connect, connect, ← reachable]
    cases peer.unreachable with
    | none => exact ⟨rfl, script⟩
    | some message => rfl

end MuxConsole.Peer.Scripted

namespace MuxConsole.Command

open Peer

variable {ω σ : Type} [Channel ω σ]

/-! ## All or nothing -/

/-- For every command line that is accepted, whatever the files and the servers do: a
program that fails prints nothing, and it succeeds, printing what it has to, exactly if
the settings can be loaded and all that the command uses goes well.  The monitoring
values are printed whether or not the remote control server tells the expiry, as long as
its session goes on: what stands before the blocks of the inputs then is that the expiry
is unknown, and if the server for statistics answers alike the blocks are the same. -/
theorem output_all_or_nothing {words : List String} {invocation : Invocation}
    (accepted : Invocation.ofWords words = .ok invocation) (files : String → FileState)
    (peer : ω) :
    let exit := (runProgram σ words files peer).1
    let legacy := invocation.options.legacy
    (exit.code ≠ 0 → exit.stdout = "") ∧
    (∀ output, exit.code = 0 ∧ exit.stdout = output ↔
      ∃ settings, resolve invocation.options files = .ok settings ∧
        Prints σ settings legacy files peer invocation.command output) ∧
    (invocation.command = .graphValues →
      ∀ settings, resolve invocation.options files = .ok settings →
      ∀ (expiry : Option String) (after : ω), Told σ settings peer expiry after →
      ∀ (peer' : ω) (expiry' : Option String) (after' : ω),
      Told σ settings peer' expiry' after' →
      Channel.ServesAlike σ σ ((statsKind legacy).endpoint settings) settings.connectTimeout
        after after' →
      ∃ statistics : Except Failure Input.Snapshot,
        let printed (expiry : Option String) := statistics.map fun snapshot =>
          expiryBlock expiry ++ inputBlocks snapshot ++ "\n"
        exit = .ofResult (printed expiry) ∧
          (runProgram σ words files peer').1 = .ofResult (printed expiry')) ∧
    expiryBlock none = "multigraph clocktai_expiry\nexpiry.value U\n" := by
  intro exit legacy
  have hexit : exit = .ofResult (invocation.result σ files peer) := exit_eq accepted files peer
  refine ⟨?_, ?_, ?_, by decide⟩
  · intro fails
    rw [hexit] at fails ⊢
    exact stdout_of_failure fails
  · intro output
    rw [hexit, ofResult_succeeds]
    exact result_eq_ok
  · intro graphs settings resolved expiry after told peer' expiry' after' told' alike
    have result_eq (peer : ω) :
        invocation.result σ files peer = (fetchGraphs σ settings legacy peer).1 := by
      rw [Invocation.result, resolved, graphs]
      rfl
    refine ⟨snapshotOf σ settings legacy after, ?_, ?_⟩
    · rw [hexit, result_eq, fetchGraphs_told told]
    · rw [exit_eq accepted, result_eq, fetchGraphs_told told', snapshotOf_alike alike]

/-- A server that tells the expiry, and one that never answers about it. -/
theorem output_all_or_nothing_without_expiry :
    let rest : List Item := [.reply 0 [Utf8.encode "\x7b\"service\":\"ODR-DabMux\"\x7d"],
      .reply 0 [Utf8.encode "\x7b\"values\":\x7b\x7d\x7d"]]
    let peer (item : Item) : Scripted :=
      .ofScript (.reply 0 (.ofTexts ["ok"]) :: item :: rest)
    let exit (item : Item) : Exit :=
      (runProgram ScriptedLink ["munin"] (fun _ => .missing) (peer item)).1
    ∃ statistics : Except Failure Input.Snapshot,
      let printed (expiry : Option String) := statistics.map fun snapshot =>
        expiryBlock expiry ++ inputBlocks snapshot ++ "\n"
      exit (.reply 0 (.ofTexts ["12 s"])) = .ofResult (printed (some "12 s")) ∧
        exit .silent = .ofResult (printed none) := by
  intro rest peer exit
  let ping : Frames := .ofTexts ["ping"]
  let get : Frames := .ofTexts ["get", "clocktai", "expiry"]
  let met (item : Item) : Session Scripted ScriptedLink :=
    { Session.ofLink Settings.default.remoteEndpoint ⟨none, none⟩ ⟨none, item :: rest, [ping], 0⟩
      with state := .verified }
  have pinged (item : Item) :
      MetRemote ScriptedLink Settings.default (peer item) (met item) := ⟨_, rfl, rfl⟩
  let after (resets : Nat) : Scripted := ⟨none, rest, [ping, get], resets⟩
  have told : Told ScriptedLink Settings.default (peer (.reply 0 (.ofTexts ["12 s"])))
      (some "12 s") (after 0) := ⟨_, .ok "12 s", _, pinged _, rfl, rfl, rfl⟩
  have untold : Told ScriptedLink Settings.default (peer .silent) none (after 1) :=
    ⟨_, .error (.timeout "get" 1000000), _, pinged _, rfl, rfl, rfl⟩
  have alike : Channel.ServesAlike ScriptedLink ScriptedLink
      (ServerKind.stats.endpoint Settings.default) Settings.default.connectTimeout
      (after 0) (after 1) := by
    apply Scripted.servesAlike
    · rfl
    · rfl
  have accepted : Invocation.ofWords ["munin"] = .ok ⟨.none, .graphValues⟩ := by cbv
  exact (output_all_or_nothing accepted (fun _ => .missing) _).2.2.1 rfl Settings.default rfl
    _ _ told _ _ _ untold alike

end MuxConsole.Command
