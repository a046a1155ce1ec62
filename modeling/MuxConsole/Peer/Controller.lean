import MuxConsole.Peer.Daemon
import MuxConsole.Remote.Table

/-!
# Remote control servers

A server that holds a table of parameters.  It lists its modules and shows the
parameters of each, it tells the value of a parameter, and it is sent values to take
its place: it either stores such a value and says so, or keeps its own and says why.
It is pinged, and keeps silent otherwise.
-/

namespace MuxConsole.Peer

open Remote

/-- What a server makes of a request about one parameter: whether it grants a change,
and what it says if it refuses or has no such parameter. -/
structure Ruling where
  grants : Bool
  message : Bytes

structure Controller where
  table : Table
  /-- On the requests about one parameter to come; changes after that are granted. -/
  rulings : List Ruling

namespace Controller

def ruling (controller : Controller) : Ruling := controller.rulings.headD ⟨true, []⟩

def ruled (controller : Controller) : Controller :=
  { controller with rulings := controller.rulings.tail }

def stores (module parameter : String) (controller : Controller) : Bool :=
  (controller.table.value? module parameter).isSome && controller.ruling.grants

def refusal (controller : Controller) : Frames :=
  [Utf8.encode "fail", controller.ruling.message]

def tell (module parameter : String) (controller : Controller) : Frames :=
  match controller.table.value? module parameter with
  | some value => .ofTexts [value]
  | none => controller.refusal

def change (module parameter value : String) (controller : Controller) : Frames × Controller :=
  if controller.stores module parameter then
    (.ofTexts ["ok"],
      { controller.ruled with table := controller.table.assign module parameter value })
  else (controller.refusal, controller.ruled)

def lines? (module : String) (controller : Controller) : Option (List String) :=
  (controller.table.modules.find? fun m => m.name = module).map fun m =>
    m.parameters.map Parameter.line

def answerTexts (controller : Controller) : List String → Option Frames × Controller
  | ["ping"] => (some (.ofTexts ["ok"]), controller)
  | ["list"] => (some (.ofTexts (controller.table.modules.map (·.name))), controller)
  | ["show", module] => ((controller.lines? module).map .ofTexts, controller)
  | ["get", module, parameter] => (some (controller.tell module parameter), controller.ruled)
  | ["set", module, parameter, value] =>
      let (answer, controller) := controller.change module parameter value
      (some answer, controller)
  | _ => (none, controller)

def answer (request : Frames) (controller : Controller) : Option Frames × Controller :=
  match request.mapM Utf8.decode with
  | .ok texts => controller.answerTexts texts
  | .error _ => (none, controller)

def send (request : Frames) (controller : Controller) : Sending × DaemonLink × Controller :=
  let (answer, controller) := controller.answer request
  (.sent 0, ⟨answer⟩, controller)

def receive (link : DaemonLink) (controller : Controller) :
    Receiving × DaemonLink × Controller :=
  match link.answer with
  | some answer => (.frames answer, ⟨none⟩, controller)
  | none => (.nothing, ⟨none⟩, controller)

instance : Channel Controller DaemonLink where
  connect _ _ controller := (.ok ⟨none⟩, controller)
  send request _ _ := send request
  receive _ := receive
  reset _ controller := (.ok (), ⟨none⟩, controller)

end Controller

end MuxConsole.Peer
