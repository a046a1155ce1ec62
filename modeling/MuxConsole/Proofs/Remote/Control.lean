import MuxConsole.Proofs.Peer.Controller

/-!
# The console as a view of a parameter table

What is read and changed through a verified session, in any order and any number of
times, is what the table of the server says: a value or a refusal for each parameter
that is read, the new value or a refusal and no change for each that is set, and the
whole table, in its order, whenever it is loaded.
-/

namespace MuxConsole.Remote

open Peer

/-! ## Requests about parameters -/

inductive Control where
  | get (module parameter : String) (timeout : Nat)
  | set (module parameter value : String) (timeout : Nat)
  | load (timeout : Nat)

def Control.operation : Control → Operation
  | .get module parameter timeout => .getParameter module parameter timeout
  | .set module parameter value timeout => .setParameter module parameter value timeout
  | .load timeout => .loadModules timeout

end MuxConsole.Remote

namespace MuxConsole.Peer.Controller

open Remote Session

def serve (controller : Controller) : Control → Except Fault Outcome × Controller
  | .get module parameter _ =>
      match controller.table.value? module parameter with
      | some value => (.ok (.value value), controller.ruled)
      | none => (.error (.refused module parameter (Utf8.lenient controller.ruling.message)),
          controller.ruled)
  | .set module parameter value _ =>
      if controller.stores module parameter then
        (.ok .done, { controller.ruled with
          table := controller.table.assign module parameter value })
      else (.error (.refused module parameter (Utf8.lenient controller.ruling.message)),
        controller.ruled)
  | .load _ => (.ok (.modules controller.table.modules), controller)

def serveAll (controller : Controller) : List Control → List (Except Fault Outcome) × Controller
  | [] => ([], controller)
  | control :: rest =>
      let (result, controller) := controller.serve control
      let (results, controller) := controller.serveAll rest
      (result :: results, controller)

variable {s : Session Controller DaemonLink}

theorem step_eq (h : s.Ready ⟨none⟩) (control : Control) :
    Operation.step control.operation s =
      ((s.peer.serve control).1, { s with peer := (s.peer.serve control).2 }) := by
  cases control with
  | get module parameter timeout =>
      refine (Act.run_bind_pure (getParameter module parameter timeout) Outcome.value s).trans ?_
      rw [run_getParameter h, serve]
      cases s.peer.table.value? module parameter <;> rfl
  | set module parameter value timeout =>
      refine (Act.run_bind_pure (setParameter module parameter value timeout)
        (fun _ => Outcome.done) s).trans ?_
      rw [run_setParameter h, serve]
      split <;> rfl
  | load timeout =>
      refine (Act.run_bind_pure (loadModules timeout) Outcome.modules s).trans ?_
      rw [run_loadModules h]
      rfl

theorem run_eq (h : s.Ready ⟨none⟩) (controls : List Control) :
    Operation.run (controls.map Control.operation) s =
      ((s.peer.serveAll controls).1, { s with peer := (s.peer.serveAll controls).2 }) := by
  induction controls generalizing s with
  | nil => rfl
  | cons control rest ih =>
      have later := ih (h.with_peer (s.peer.serve control).2)
      rw [List.map_cons, Operation.run, step_eq h]
      dsimp only at later ⊢
      rw [later]
      rfl

/-! ## The table behind the answers -/

theorem load_agrees_with_get (h : s.Ready ⟨none⟩) (module parameter value : String)
    (getTimeout loadTimeout : Nat) :
    (Operation.step (.getParameter module parameter getTimeout) s).1 = .ok (.value value) ↔
      ∃ modules, (Operation.step (.loadModules loadTimeout) s).1 = .ok (.modules modules) ∧
        ∃ m ∈ modules, m.name = module ∧ m.parameter? parameter = some value := by
  have loaded := congrArg Prod.fst (step_eq h (.load loadTimeout))
  have told := congrArg Prod.fst (step_eq h (.get module parameter getTimeout))
  change (Operation.step (.loadModules loadTimeout) s).1 = _ at loaded
  change (Operation.step (.getParameter module parameter getTimeout) s).1 = _ at told
  rw [loaded, told, serve, serve]
  constructor
  · intro answered
    refine ⟨s.peer.table.modules, rfl, Table.value?_eq_some_iff.mp ?_⟩
    split at answered
    · rename_i found
      obtain rfl := Outcome.value.inj (Except.ok.inj answered)
      exact found
    · cases answered
  · rintro ⟨modules, answered, held⟩
    obtain rfl := Outcome.modules.inj (Except.ok.inj answered)
    rw [Table.value?_eq_some_iff.mpr held]

theorem set_stores_or_refuses (h : s.Ready ⟨none⟩) (module parameter value : String)
    (timeout : Nat) :
    let (result, t) := Operation.step (.setParameter module parameter value timeout) s
    (result = .ok .done ∧ ∀ m p, t.peer.table.value? m p =
        if (m, p) = (module, parameter) then some value else s.peer.table.value? m p) ∨
      ∃ message, result = .error (.refused module parameter message) ∧
        t.peer.table = s.peer.table := by
  have answered := step_eq h (.set module parameter value timeout)
  change Operation.step (.setParameter module parameter value timeout) s = _ at answered
  rw [answered, serve]
  cases stored : s.peer.stores module parameter with
  | true =>
      left
      refine ⟨rfl, fun m p => ?_⟩
      rw [stores, Bool.and_eq_true, Option.isSome_iff_exists] at stored
      obtain ⟨⟨old, held⟩, _⟩ := stored
      simp only [if_true, Table.value?_assign]
      split
      · rename_i here
        obtain ⟨rfl, rfl⟩ := Prod.mk.inj here
        rw [held]
        rfl
      · rfl
  | false => exact .inr ⟨_, rfl, rfl⟩

/-- What a console is answered, in any run of requests on a verified session, is what
the table of the server says: each result, and the table afterwards, are those of the
requests carried out on the table itself, and nothing else in the session changes.  At
every point a parameter that is looked up in what has been loaded has the value that it
is read with; a change is reported exactly if it has taken place.  What the server says
when it refuses is passed on as it is, if it is a text. -/
theorem console_refines_table {endpoint : Endpoint} {controller : Controller}
    {before : List Operation}
    (verified : (Operation.run before (session endpoint controller)).2.state = .verified)
    (idle : (Operation.run before (session endpoint controller)).2.pending = none)
    (controls : List Control) :
    let s := (Operation.run before (session endpoint controller)).2
    let (results, after) := s.peer.serveAll controls
    let t := (Operation.run (controls.map Control.operation) s).2
    Operation.run (controls.map Control.operation) s = (results, { s with peer := after }) ∧
    (∀ module parameter value getTimeout loadTimeout,
      (Operation.step (.getParameter module parameter getTimeout) t).1 = .ok (.value value) ↔
        ∃ modules, (Operation.step (.loadModules loadTimeout) t).1 = .ok (.modules modules) ∧
          ∃ m ∈ modules, m.name = module ∧ m.parameter? parameter = some value) ∧
    (∀ module parameter value timeout,
      let (result, u) := Operation.step (.setParameter module parameter value timeout) t
      (result = .ok .done ∧ ∀ m p, u.peer.table.value? m p =
          if (m, p) = (module, parameter) then some value else t.peer.table.value? m p) ∨
        ∃ message, result = .error (.refused module parameter message) ∧
          u.peer.table = t.peer.table) ∧
    ∀ text, Utf8.lenient (Utf8.encode text) = text := by
  intro s
  have ready : s.Ready ⟨none⟩ := ready_of_run rests verified idle
  have ran := run_eq ready controls
  have readyAfter : (Operation.run (controls.map Control.operation) s).2.Ready ⟨none⟩ := by
    rw [ran]
    exact ready.with_peer _
  exact ⟨ran, load_agrees_with_get readyAfter, set_stores_or_refuses readyAfter,
    Utf8.lenient_encode⟩

/-- A value that looks like a line, a module without parameters, and a refusal between
two changes. -/
theorem console_refines_table_of_two_modules :
    let modules : List Module := [⟨"mod", [⟨"gain:", "a: b"⟩, ⟨"fail", ""⟩]⟩, ⟨"empty", []⟩]
    ∃ table : Table, table.modules = modules ∧
      let controller : Controller := ⟨table, [⟨true, []⟩, ⟨false, Utf8.encode "no"⟩]⟩
      let s := (Operation.run [.ping 1] (session (.remoteControl "127.0.0.1") controller)).2
      let controls : List Control := [.load 1, .set "mod" "fail" "ok" 1,
        .set "mod" "fail" "x" 1, .get "mod" "fail" 1, .get "empty" "gain:" 1]
      (Operation.run (controls.map Control.operation) s).1 = [
        .ok (.modules modules), .ok .done, .error (.refused "mod" "fail" "no"),
        .ok (.value "ok"), .error (.refused "empty" "gain:" "")] := by
  intro modules
  have wellFormed : ∀ module ∈ modules, module.WellFormed := by
    simp only [modules, List.forall_mem_cons]
    exact ⟨⟨by decide, by decide⟩, ⟨by decide, by decide⟩, List.forall_mem_nil _⟩
  let table : Table := ⟨modules, by decide, wellFormed⟩
  refine ⟨table, rfl, ?_⟩
  intro controller s controls
  have verified : s.state = .verified := rfl
  have idle : s.pending = none := rfl
  rw [(console_refines_table verified idle controls).1]
  rfl

end MuxConsole.Peer.Controller
