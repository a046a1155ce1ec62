import MuxConsole.Proofs.Command.Tasks
import MuxConsole.Proofs.Config.Tree

/-!
# What a command prints

A command prints something exactly if all that it uses goes well: the connection, the
verification of the peer, what it asks the server, the file that it reads and the view
that it builds.
-/

namespace MuxConsole

def Config.Answer.idents (answer : Answer) : Except Fault (List String) :=
  match answer with
  | .inputs idents => .ok idents
  | .tree running => running.subchannels.map fun subchannels => subchannels.map (·.name)

namespace Command

def view? : Command → Option (Config.Tree → Except Fault String)
  | .dump => some fun tree => .ok (tree.toJson.pretty ++ "\n")
  | .services => some fun tree => tree.services.map Report.services
  | .subchannels => some fun tree => tree.subchannels.map Report.subchannels
  | .components => some fun tree => tree.components.map Report.components
  | .general => some fun tree => tree.general.map Report.general
  | _ => none

/-- What is made of the answer about the expiry of the bulletin: a fault that does not
end the session is tolerated. -/
def tolerated : Except Fault String → Except Fault (Option String)
  | .ok value => .ok (some value)
  | .error fault => if fault.isFatal then .error fault else .ok none

variable {ω σ : Type} [Channel ω σ]

/-- The remote control server has been asked about the expiry, with this outcome, which
is none that ends the command. -/
def Told (σ : Type) [Channel ω σ] (settings : Settings) (peer : ω) (expiry : Option String)
    (after : ω) : Prop :=
  ∃ s result t, MetRemote σ settings peer s ∧
    (Session.getParameter "clocktai" "expiry" settings.livenessTimeout).run s = (result, t) ∧
    tolerated result = .ok expiry ∧ t.peer = after

/-- All that a command uses has gone well, and this is what it prints. -/
inductive Prints (σ : Type) [Channel ω σ] (settings : Settings) (legacy : Bool)
    (files : String → FileState) (peer : ω) : Command → String → Prop
  | info {identity : Identity} {s : Session ω σ}
      (met : MetStats σ settings legacy peer identity s) :
      Prints σ settings legacy files peer .info (Text.unlines [s!"Service: {identity.service}",
        s!"Version: {identity.version}", s!"Endpoint: {s.endpoint.display}"])
  | stats {identity : Identity} {s t : Session ω σ} {snapshot : Input.Snapshot}
      (met : MetStats σ settings legacy peer identity s)
      (answered : (Session.values settings.livenessTimeout).run s = (.ok snapshot, t)) :
      Prints σ settings legacy files peer .stats (Report.snapshot snapshot)
  | inputs {identity : Identity} {s t : Session ω σ} {answer : Config.Answer}
      {idents : List String} (met : MetStats σ settings legacy peer identity s)
      (answered : (Session.config settings.bulkTimeout).run s = (.ok answer, t))
      (named : answer.idents = .ok idents) :
      Prints σ settings legacy files peer .inputs (Text.unlines idents)
  | shown {command : Command} {view : Config.Tree → Except Fault String} {identity : Identity}
      {s t : Session ω σ} {tree : Config.Tree} {output : String}
      (shows : command.view? = some view) (met : MetStats σ settings legacy peer identity s)
      (answered : (Session.readTree settings.bulkTimeout).run s = (.ok tree, t))
      (built : view tree = .ok output) :
      Prints σ settings legacy files peer command output
  | written {path : String} {identity : Identity} {s t : Session ω σ} {tree : Config.Tree}
      (met : MetStats σ settings legacy peer identity s)
      (read : treeOfFile path (files path) = .ok tree)
      (answered : (Session.writeTree tree settings.bulkTimeout).run s = (.ok true, t)) :
      Prints σ settings legacy files peer (.write path) "Configuration accepted\n"
  | listed {s t : Session ω σ} {modules : List Remote.Module}
      (met : MetRemote σ settings peer s)
      (answered : (Session.loadModules settings.livenessTimeout).run s = (.ok modules, t)) :
      Prints σ settings legacy files peer .remoteList (Report.modules modules)
  | told {module parameter value : String} {s t : Session ω σ}
      (met : MetRemote σ settings peer s)
      (answered : (Session.getParameter module parameter settings.livenessTimeout).run s =
        (.ok value, t)) :
      Prints σ settings legacy files peer (.remoteGet module parameter) (value ++ "\n")
  | changed {module parameter value : String} {s t : Session ω σ}
      (met : MetRemote σ settings peer s)
      (answered : (Session.setParameter module parameter value settings.livenessTimeout).run s =
        (.ok (), t)) :
      Prints σ settings legacy files peer (.remoteSet module parameter value)
        s!"{module}.{parameter} = {value}\n"
  | graphValues {expiry : Option String} {after : ω} {identity : Identity} {s t : Session ω σ}
      {snapshot : Input.Snapshot} (told : Told σ settings peer expiry after)
      (met : MetStats σ settings legacy after identity s)
      (answered : (Session.values settings.livenessTimeout).run s = (.ok snapshot, t)) :
      Prints σ settings legacy files peer .graphValues
        (Report.graphValues expiry snapshot ++ "\n")
  | graphConfig {identity : Identity} {s t : Session ω σ} {answer : Config.Answer}
      {idents : List String} (met : MetStats σ settings legacy peer identity s)
      (answered : (Session.config settings.bulkTimeout).run s = (.ok answer, t))
      (named : answer.idents = .ok idents) :
      Prints σ settings legacy files peer .graphConfig (Report.graphConfig idents ++ "\n")

/-! ## The tasks -/

variable {settings : Settings} {legacy : Bool} {files : String → FileState} {peer : ω}
  {s : Session ω σ} {output : String}

theorem inputIdents_eq :
    (inputIdents settings : Task ω σ (List String)) =
      Task.during "Failed to read input list" (Session.config settings.bulkTimeout) >>=
        fun answer => Task.ofExcept (inContext "Configuration has no subchannels" answer.idents) := by
  unfold inputIdents
  congr 1
  funext answer
  cases answer with
  | inputs idents => rfl
  | tree tree =>
      change (Task.ofExcept (inContext _ tree.subchannels) >>= fun subchannels =>
        pure (subchannels.map (·.name))) = Task.ofExcept (inContext _ (tree.subchannels.map _))
      cases tree.subchannels <;> rfl

theorem inputIdents_bind_eq_ok {print : List String → String} :
    ((inputIdents settings >>= fun idents => pure (print idents)).run s).1 = .ok output ↔
      ∃ answer t idents, (Session.config settings.bulkTimeout).run s = (.ok answer, t) ∧
        answer.idents = .ok idents ∧ print idents = output := by
  rw [inputIdents_eq, bind_assoc, Task.during_bind_eq_ok]
  simp only [Task.ofExcept_bind_eq_ok, inContext_eq_ok, Task.run_pure, Except.ok.injEq,
    exists_and_left]

theorem viewTask_eq_ok {α : Type} {view : Config.Tree → Except Fault α} {print : α → String} :
    ((viewTask settings view print).run s).1 = .ok output ↔
      ∃ tree t, (Session.readTree settings.bulkTimeout).run s = (.ok tree, t) ∧
        (view tree).map print = .ok output := by
  unfold viewTask readConfiguration
  simp only [Task.during_bind_eq_ok, Task.ofExcept_bind_eq_ok, bare_eq_ok, Task.run_pure,
    Except.ok.injEq]
  constructor
  · rintro ⟨tree, t, answered, a, built, rfl⟩
    exact ⟨tree, t, answered, by rw [built]; rfl⟩
  · rintro ⟨tree, t, answered, built⟩
    cases hview : view tree with
    | error fault =>
        rw [hview] at built
        cases built
    | ok a =>
        rw [hview] at built
        exact ⟨tree, t, answered, a, hview, Except.ok.inj built⟩

theorem treeOfFile_eq_ok {path : String} {file : FileState} {tree : Config.Tree} :
    treeOfFile path file = .ok tree ↔
      ∃ content, file.text = .ok content ∧ Json.parse content = .ok tree.toJson := by
  unfold treeOfFile
  cases file.text with
  | error reason => simp
  | ok content => cases hparse : Json.parse content <;> simp [hparse]

theorem writeTask_eq_ok {path : String} {file : FileState} :
    ((writeTask settings path file).run s).1 = .ok output ↔
      ∃ tree t, treeOfFile path file = .ok tree ∧
        (Session.writeTree tree settings.bulkTimeout).run s = (.ok true, t) ∧
        "Configuration accepted\n" = output := by
  unfold writeTask
  simp only [Task.ofExcept_bind_eq_ok, Task.during_bind_eq_ok]
  constructor
  · rintro ⟨tree, read, accepted, t, answered, done⟩
    cases accepted with
    | false => cases done
    | true => exact ⟨tree, t, read, answered, Except.ok.inj done⟩
  · rintro ⟨tree, t, read, answered, rfl⟩
    exact ⟨tree, read, true, t, answered, rfl⟩

theorem run_expiryTask (settings : Settings) (s : Session ω σ) :
    let asked := (Session.getParameter "clocktai" "expiry" settings.livenessTimeout).run s
    (expiryTask settings).run s =
      (inContext "Failed to read clocktai expiry" (tolerated asked.1), asked.2) := by
  intro asked
  change expiryTask settings s = _
  unfold expiryTask
  cases hasked : asked with
  | mk result t =>
      change Session.getParameter "clocktai" "expiry" settings.livenessTimeout s =
        (result, t) at hasked
      simp only [ExceptT.mk, ExceptT.run, bind, StateT.bind, hasked]
      cases result with
      | ok value => rfl
      | error fault =>
          unfold tolerated
          by_cases fatal : fault.isFatal = true
          · simp only [fatal, if_true]
            rfl
          · simp only [fatal]
            rfl

theorem onRemote_expiryTask {expiry : Option String} {after : ω} :
    onRemote σ settings (expiryTask settings) peer = (.ok expiry, after) ↔
      Told σ settings peer expiry after := by
  constructor
  · intro done
    obtain ⟨s, met, _⟩ := onRemote_eq_ok.mp (congrArg Prod.fst done)
    rw [onRemote_met met, run_expiryTask] at done
    obtain ⟨settled, rfl⟩ := Prod.mk.inj done
    exact ⟨s, _, _, met, rfl, inContext_eq_ok.mp settled, rfl⟩
  · rintro ⟨s, result, t, met, asked, settled, rfl⟩
    rw [onRemote_met met, run_expiryTask, asked, inContext_eq_ok.mpr settled]

theorem fetchGraphs_eq_ok :
    (fetchGraphs σ settings legacy peer).1 = .ok output ↔
      ∃ expiry after, Told σ settings peer expiry after ∧
        (onStats σ settings legacy (fun _ => do
          let snapshot ← readStatistics settings
          return Report.graphValues expiry snapshot ++ "\n") after).1 = .ok output := by
  unfold fetchGraphs
  simp only [← onRemote_expiryTask]
  constructor
  · intro done
    split at done
    · cases done
    · rename_i expiry after visited
      exact ⟨expiry, after, visited, done⟩
  · rintro ⟨expiry, after, visited, done⟩
    rw [visited]
    exact done

/-! ## The commands -/

theorem shown_iff {command : Command} {view : Config.Tree → Except Fault String}
    (shows : command.view? = some view) :
    (command.run σ settings legacy files peer).1 = .ok output ↔
      ∃ identity s, MetStats σ settings legacy peer identity s ∧
        ∃ tree t, (Session.readTree settings.bulkTimeout).run s = (.ok tree, t) ∧
          view tree = .ok output := by
  cases command with
  | dump =>
      cases shows
      simp only [run, onStats_eq_ok, readConfiguration, Task.during_bind_eq_ok, Task.run_pure,
        Except.ok.injEq]
  | services | subchannels | components | general =>
      cases shows
      simp only [run, onStats_eq_ok, viewTask_eq_ok]
  | _ => cases shows

theorem prints_of_run {command : Command}
    (done : (command.run σ settings legacy files peer).1 = .ok output) :
    Prints σ settings legacy files peer command output := by
  cases hview : command.view? with
  | some view =>
      obtain ⟨identity, s, met, tree, t, answered, built⟩ := (shown_iff hview).mp done
      exact .shown hview met answered built
  | none =>
      cases command with
      | info =>
          obtain ⟨identity, s, met, done⟩ := onStats_eq_ok.mp done
          cases done
          exact .info met
      | stats =>
          obtain ⟨identity, s, met, done⟩ := onStats_eq_ok.mp done
          obtain ⟨snapshot, t, answered, done⟩ := Task.during_bind_eq_ok.mp done
          cases done
          exact .stats met answered
      | inputs =>
          obtain ⟨identity, s, met, done⟩ := onStats_eq_ok.mp done
          obtain ⟨answer, t, idents, answered, named, rfl⟩ := inputIdents_bind_eq_ok.mp done
          exact .inputs met answered named
      | write path =>
          obtain ⟨identity, s, met, done⟩ := onStats_eq_ok.mp done
          obtain ⟨tree, t, read, answered, rfl⟩ := writeTask_eq_ok.mp done
          exact .written met read answered
      | remoteList =>
          obtain ⟨s, met, done⟩ := onRemote_eq_ok.mp done
          obtain ⟨modules, t, answered, done⟩ := Task.during_bind_eq_ok.mp done
          cases done
          exact .listed met answered
      | remoteGet module parameter =>
          obtain ⟨s, met, done⟩ := onRemote_eq_ok.mp done
          obtain ⟨value, t, answered, done⟩ := Task.during_bind_eq_ok.mp done
          cases done
          exact .told met answered
      | remoteSet module parameter value =>
          obtain ⟨s, met, done⟩ := onRemote_eq_ok.mp done
          obtain ⟨_, t, answered, done⟩ := Task.during_bind_eq_ok.mp done
          cases done
          exact .changed met answered
      | graphValues =>
          obtain ⟨expiry, after, told, done⟩ := fetchGraphs_eq_ok.mp done
          obtain ⟨identity, s, met, done⟩ := onStats_eq_ok.mp done
          obtain ⟨snapshot, t, answered, done⟩ := Task.during_bind_eq_ok.mp done
          cases done
          exact .graphValues told met answered
      | graphConfig =>
          obtain ⟨identity, s, met, done⟩ := onStats_eq_ok.mp done
          obtain ⟨answer, t, idents, answered, named, rfl⟩ := inputIdents_bind_eq_ok.mp done
          exact .graphConfig met answered named
      | _ => cases hview

theorem run_of_prints {command : Command}
    (prints : Prints σ settings legacy files peer command output) :
    (command.run σ settings legacy files peer).1 = .ok output := by
  cases prints with
  | info met => exact onStats_eq_ok.mpr ⟨_, _, met, rfl⟩
  | stats met answered =>
      exact onStats_eq_ok.mpr ⟨_, _, met, Task.during_bind_eq_ok.mpr ⟨_, _, answered, rfl⟩⟩
  | inputs met answered named =>
      exact onStats_eq_ok.mpr
        ⟨_, _, met, inputIdents_bind_eq_ok.mpr ⟨_, _, _, answered, named, rfl⟩⟩
  | shown shows met answered built =>
      exact (shown_iff shows).mpr ⟨_, _, met, _, _, answered, built⟩
  | written met read answered =>
      exact onStats_eq_ok.mpr ⟨_, _, met, writeTask_eq_ok.mpr ⟨_, _, read, answered, rfl⟩⟩
  | listed met answered =>
      exact onRemote_eq_ok.mpr ⟨_, met, Task.during_bind_eq_ok.mpr ⟨_, _, answered, rfl⟩⟩
  | told met answered =>
      exact onRemote_eq_ok.mpr ⟨_, met, Task.during_bind_eq_ok.mpr ⟨_, _, answered, rfl⟩⟩
  | changed met answered =>
      exact onRemote_eq_ok.mpr ⟨_, met, Task.during_bind_eq_ok.mpr ⟨_, _, answered, rfl⟩⟩
  | graphValues told met answered =>
      exact fetchGraphs_eq_ok.mpr ⟨_, _, told,
        onStats_eq_ok.mpr ⟨_, _, met, Task.during_bind_eq_ok.mpr ⟨_, _, answered, rfl⟩⟩⟩
  | graphConfig met answered named =>
      exact onStats_eq_ok.mpr
        ⟨_, _, met, inputIdents_bind_eq_ok.mpr ⟨_, _, _, answered, named, rfl⟩⟩

theorem run_eq_ok {command : Command} :
    (command.run σ settings legacy files peer).1 = .ok output ↔
      Prints σ settings legacy files peer command output :=
  ⟨prints_of_run, run_of_prints⟩

end Command

end MuxConsole
