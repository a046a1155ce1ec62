import MuxConsole.Peer.Controller
import MuxConsole.Proofs.Remote.Table
import MuxConsole.Proofs.Session.Ready
import MuxConsole.Proofs.Text.Utf8

/-!
# Sessions with a remote control server

On a verified session at rest a question about a parameter is answered from the table
of the server, or refused with what the server says; a value is reported as stored when
it has been stored; and the whole table is loaded as it is, with nothing to notice.
-/

namespace MuxConsole.Peer.Controller

open Remote Session

def session (endpoint : Endpoint) (controller : Controller) : Session Controller DaemonLink :=
  .ofLink endpoint ⟨none⟩ controller

theorem rests : Rests Controller (⟨none⟩ : DaemonLink) where
  send _ _ _ _ := ⟨0, rfl⟩
  receive _ link peer := by
    change (Controller.receive link peer).2.1 = _
    unfold Controller.receive
    split <;> rfl
  reset _ _ := rfl

variable {s : Session Controller DaemonLink}

theorem run_execute (h : s.Ready ⟨none⟩) {texts : List String} {answer : Frames}
    {controller : Controller} (answers : s.peer.answerTexts texts = (some answer, controller))
    (timeout : Nat) :
    (execute (.ofTexts texts) timeout).run s = (.ok answer, { s with peer := controller }) := by
  have sent : Channel.send (.ofTexts texts) none (⟨none⟩ : DaemonLink) s.peer =
      (.sent 0, (⟨some answer⟩ : DaemonLink), controller) := by
    change send (.ofTexts texts) s.peer = _
    rw [send, Controller.answer, Utf8.mapM_ofTexts Utf8.decode_encode]
    dsimp only
    rw [answers]
  exact h.run_execute sent rfl

/-! ## Texts in replies -/

theorem text_encode (command text : String) :
    Reply.text command (Utf8.encode text) = .ok text := by
  rw [Reply.text, Utf8.decode_encode]
  rfl

theorem texts_ofTexts (command : String) (texts : List String) :
    Reply.texts command (.ofTexts texts) = .ok texts :=
  Utf8.mapM_ofTexts (text_encode command) texts

/-! ## Single parameters -/

theorem run_getParameter (h : s.Ready ⟨none⟩) (module parameter : String) (timeout : Nat) :
    (getParameter module parameter timeout).run s =
      (match s.peer.table.value? module parameter with
        | some value => .ok value
        | none => .error (.refused module parameter (Utf8.lenient s.peer.ruling.message)),
        { s with peer := s.peer.ruled }) := by
  have answers : s.peer.answerTexts ["get", module, parameter] =
      (some (s.peer.tell module parameter), s.peer.ruled) := rfl
  unfold getParameter
  rw [Act.run_bind_ok (run_requireVerified h.verified),
    Act.run_bind_ok (run_execute h answers timeout), Act.run_ofExcept]
  unfold tell
  cases s.peer.table.value? module parameter with
  | some value =>
      change (Reply.text "get" (Utf8.encode value), _) = _
      rw [text_encode]
  | none => rfl

theorem run_setParameter (h : s.Ready ⟨none⟩) (module parameter value : String) (timeout : Nat) :
    (setParameter module parameter value timeout).run s =
      if s.peer.stores module parameter then
        (.ok (), { s with peer := { s.peer.ruled with
          table := s.peer.table.assign module parameter value } })
      else (.error (.refused module parameter (Utf8.lenient s.peer.ruling.message)),
        { s with peer := s.peer.ruled }) := by
  have answers : s.peer.answerTexts ["set", module, parameter, value] =
      (some (s.peer.change module parameter value).1,
        (s.peer.change module parameter value).2) := rfl
  unfold setParameter
  rw [Act.run_bind_ok (run_requireVerified h.verified),
    Act.run_bind_ok (run_execute h answers timeout), Act.run_ofExcept]
  unfold change
  split
  · rfl
  · rfl

/-! ## The whole table -/

theorem readParameters_lines (module : String) {parameters : List Parameter}
    (named : ∀ parameter ∈ parameters, IsParameterName parameter.name) :
    readParameters module (parameters.map Parameter.line) = (parameters, []) := by
  induction parameters with
  | nil => rfl
  | cons parameter rest ih =>
      obtain ⟨first, others⟩ := List.forall_mem_cons.mp named
      rw [List.map_cons, readParameters, ih others, Parameter.ofLine_line first]

theorem run_listModules (h : s.Ready ⟨none⟩) (timeout : Nat) :
    (listModules timeout).run s = (.ok (s.peer.table.modules.map (·.name)), s) := by
  have answers : s.peer.answerTexts ["list"] =
      (some (.ofTexts (s.peer.table.modules.map (·.name))), s.peer) := rfl
  unfold listModules
  rw [Act.run_bind_ok (run_requireVerified h.verified),
    Act.run_bind_ok (run_execute h answers timeout), Act.run_ofExcept, texts_ofTexts]

theorem run_showParameters (h : s.Ready ⟨none⟩) {module : Module}
    (member : module ∈ s.peer.table.modules) (timeout : Nat) :
    (showParameters module.name timeout).run s =
      (.ok (module.parameters.map Parameter.line), s) := by
  have answers : s.peer.answerTexts ["show", module.name] =
      (some (.ofTexts (module.parameters.map Parameter.line)), s.peer) := by
    change ((s.peer.lines? module.name).map _, _) = _
    rw [lines?, Table.find?_of_mem member]
    rfl
  unfold showParameters
  rw [Act.run_bind_ok (run_requireVerified h.verified),
    Act.run_bind_ok (run_execute h answers timeout), Act.run_ofExcept, texts_ofTexts]

theorem run_loadModule (h : s.Ready ⟨none⟩) {module : Module}
    (member : module ∈ s.peer.table.modules) (timeout : Nat) :
    (loadModule timeout module.name).run s = (.ok module, s) := by
  have named := (s.peer.table.wellFormed module member).named
  unfold loadModule
  rw [Act.run_bind_ok (run_showParameters h member timeout), readParameters_lines _ named]
  change (Except.ok module, s.noting []) = _
  rw [noting_nil]

theorem run_mapM_loadModule (h : s.Ready ⟨none⟩) (timeout : Nat) {modules : List Module}
    (members : ∀ module ∈ modules, module ∈ s.peer.table.modules) :
    ((modules.map (·.name)).mapM (loadModule timeout)).run s = (.ok modules, s) := by
  induction modules with
  | nil => rfl
  | cons module rest ih =>
      obtain ⟨first, others⟩ := List.forall_mem_cons.mp members
      rw [List.map_cons, List.mapM_cons, Act.run_bind_ok (run_loadModule h first timeout),
        Act.run_bind_ok (ih others)]
      rfl

theorem run_loadModules (h : s.Ready ⟨none⟩) (timeout : Nat) :
    (loadModules timeout).run s = (.ok s.peer.table.modules, s) := by
  unfold loadModules
  rw [Act.run_bind_ok (run_listModules h timeout)]
  exact run_mapM_loadModule h timeout fun _ member => member

end MuxConsole.Peer.Controller
