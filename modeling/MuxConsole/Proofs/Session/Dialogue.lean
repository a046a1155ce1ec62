import MuxConsole.Proofs.Session.Questions
import MuxConsole.Session.Operation

/-!
# Dialogues

All that a verified server can be asked is asked in the same way: in whole
requests, each after a look at whether the session is verified, and with nothing
but the replies to go by.  The same dialogue can be had on two kinds of channel.
What a dialogue keeps to is shown once, by induction on how it is put together.
-/

namespace MuxConsole

variable {ω σ ω' σ' : Type} [Channel ω σ] [Channel ω' σ']

/-! ## Faults of a single transaction -/

/-- Whether the fault concerns one transaction only: it took too long, or its
reply cannot be understood or refuses the request. -/
def Fault.isLocal : Fault → Bool
  | .timeout .. | .malformed .. | .refused .. => true
  | _ => false

theorem Fault.isFatal_of_isLocal {fault : Fault} (h : fault.isLocal = true) :
    fault.isFatal = false := by
  cases fault <;> first | rfl | cases h

theorem OrMalformed.isLocal {α : Type} {result : Except Fault α} (h : OrMalformed result) :
    ∀ fault, result = .error fault → fault.isLocal = true := by
  intro fault hfault
  obtain ⟨command, defect, rfl⟩ := h fault hfault
  rfl

namespace Session

/-! ## What a dialogue consists of -/

inductive Dialogue : {α : Type} → Act ω σ α → Act ω' σ' α → Prop
  | ofExcept {α : Type} (result : Except Fault α)
      (own : ∀ fault, result = .error fault → fault.isLocal = true) :
      Dialogue (.ofExcept result) (.ofExcept result)
  | noteAll (log : Log) : Dialogue (noteAll log) (noteAll log)
  | requireVerified : Dialogue requireVerified requireVerified
  | execute (frames : Frames) (timeout : Nat) :
      Dialogue (execute frames timeout) (execute frames timeout)
  /-- How a reply is read may depend on the wire, which never changes. -/
  | wire {α : Type} {next : Wire → Act ω σ α} {next' : Wire → Act ω' σ' α}
      (h : ∀ wire, Dialogue (next wire) (next' wire)) :
      Dialogue (do next (← get).endpoint.wire) (do next' (← get).endpoint.wire)
  | bind {α β : Type} {act : Act ω σ α} {act' : Act ω' σ' α} {next : α → Act ω σ β}
      {next' : α → Act ω' σ' β} (first : Dialogue act act')
      (second : ∀ a, Dialogue (next a) (next' a)) :
      Dialogue (act >>= next) (act' >>= next')

namespace Dialogue

theorem pure {α : Type} (a : α) :
    Dialogue (Pure.pure a : Act ω σ α) (Pure.pure a : Act ω' σ' α) := by
  refine .ofExcept (.ok a) ?_
  rintro _ ⟨⟩

theorem reading {α : Type} {result : Except Fault α} (h : OrMalformed result) :
    Dialogue (.ofExcept result : Act ω σ α) (.ofExcept result : Act ω' σ' α) :=
  .ofExcept result h.isLocal

/-! ## The stats server -/

theorem query (command : String) (timeout : Nat) :
    Dialogue (Session.query command timeout : Act ω σ Bytes)
      (Session.query command timeout : Act ω' σ' Bytes) := by
  have read (reply : Frames) (wire : Wire) :
      Dialogue (.ofExcept (Reply.body wire command reply) : Act ω σ Bytes)
        (.ofExcept (Reply.body wire command reply) : Act ω' σ' Bytes) :=
    reading (Reply.body_orMalformed wire command reply)
  exact requireVerified.bind fun _ => (execute _ timeout).bind fun reply => wire (read reply)

theorem values (timeout : Nat) :
    Dialogue (Session.values timeout : Act ω σ Input.Snapshot)
      (Session.values timeout : Act ω' σ' Input.Snapshot) :=
  (query "values" timeout).bind fun answer => (noteAll _).bind fun _ =>
    .reading (Input.Snapshot.decode_orMalformed answer)

theorem config (timeout : Nat) :
    Dialogue (Session.config timeout : Act ω σ Config.Answer)
      (Session.config timeout : Act ω' σ' Config.Answer) :=
  (query "config" timeout).bind fun answer =>
    .reading (Config.Answer.decode_orMalformed answer)

theorem readTree (timeout : Nat) :
    Dialogue (Session.readTree timeout : Act ω σ Config.Tree)
      (Session.readTree timeout : Act ω' σ' Config.Tree) :=
  (query "getptree" timeout).bind fun answer =>
    .reading (Config.Tree.decode_orMalformed "getptree" answer)

theorem writeTree (tree : Config.Tree) (timeout : Nat) :
    Dialogue (Session.writeTree tree timeout : Act ω σ Bool)
      (Session.writeTree tree timeout : Act ω' σ' Bool) := by
  refine requireVerified.bind fun _ => (execute _ timeout).bind fun reply => ?_
  split
  · exact .pure true
  · exact (noteAll [.writeRefused reply]).bind fun _ => .pure false

/-! ## The remote control server -/

theorem texts (command : String) (frames : Frames) :
    Dialogue (.ofExcept (Reply.texts command frames) : Act ω σ (List String))
      (.ofExcept (Reply.texts command frames) : Act ω' σ' (List String)) :=
  .reading (.mapM (fun _ => .mapError _ _ _) frames)

theorem listModules (timeout : Nat) :
    Dialogue (Session.listModules timeout : Act ω σ (List String))
      (Session.listModules timeout : Act ω' σ' (List String)) :=
  requireVerified.bind fun _ => (execute _ timeout).bind fun reply => texts "list" reply

theorem showParameters (module : String) (timeout : Nat) :
    Dialogue (Session.showParameters module timeout : Act ω σ (List String))
      (Session.showParameters module timeout : Act ω' σ' (List String)) :=
  requireVerified.bind fun _ => (execute _ timeout).bind fun reply => texts "show" reply

theorem loadModule (timeout : Nat) (name : String) :
    Dialogue (Session.loadModule timeout name : Act ω σ Remote.Module)
      (Session.loadModule timeout name : Act ω' σ' Remote.Module) :=
  (showParameters name timeout).bind fun _ => (noteAll _).bind fun _ => .pure _

theorem loadModules (timeout : Nat) :
    Dialogue (Session.loadModules timeout : Act ω σ (List Remote.Module))
      (Session.loadModules timeout : Act ω' σ' (List Remote.Module)) := by
  refine (listModules timeout).bind fun names => ?_
  induction names with
  | nil => exact .pure []
  | cons name names ih =>
      rw [List.mapM_cons, List.mapM_cons]
      exact (loadModule timeout name).bind fun _ => ih.bind fun _ => .pure _

theorem accepted {α : Type} (module parameter : String) (reply : Frames)
    {read : Frames → Except Fault α} (h : ∀ reply, OrMalformed (read reply)) :
    Dialogue (.ofExcept (accepted module parameter reply >>= read) : Act ω σ α)
      (.ofExcept (accepted module parameter reply >>= read) : Act ω' σ' α) := by
  refine .ofExcept _ ?_
  unfold Session.accepted
  cases refusal? reply with
  | some message =>
      rintro _ ⟨⟩
      rfl
  | none => exact (h reply).isLocal

theorem getParameter (module parameter : String) (timeout : Nat) :
    Dialogue (Session.getParameter module parameter timeout : Act ω σ String)
      (Session.getParameter module parameter timeout : Act ω' σ' String) := by
  refine requireVerified.bind fun _ => (execute _ timeout).bind fun reply =>
    accepted module parameter reply fun reply => ?_
  unfold valueOf
  split
  · exact .mapError _ _ _
  · exact .malformed _ _

theorem setParameter (module parameter value : String) (timeout : Nat) :
    Dialogue (Session.setParameter module parameter value timeout : Act ω σ Unit)
      (Session.setParameter module parameter value timeout : Act ω' σ' Unit) := by
  refine requireVerified.bind fun _ => (execute _ timeout).bind fun reply =>
    accepted module parameter reply fun reply => ?_
  unfold acknowledged
  split
  · exact .ok _
  · exact .malformed _ _

end Dialogue

end Session

/-! ## Operations -/

namespace Operation

def isGated : Operation → Bool
  | .values _ | .config _ | .readTree _ | .writeTree .. | .listModules _
  | .showParameters .. | .loadModules _ | .getParameter .. | .setParameter .. => true
  | _ => false

open Session in
theorem dialogue {operation : Operation} (gated : operation.isGated = true) :
    Dialogue (operation.perform : Act ω σ Outcome) (operation.perform : Act ω' σ' Outcome) := by
  cases operation with
  | values timeout => exact (Dialogue.values timeout).bind fun _ => .pure _
  | config timeout => exact (Dialogue.config timeout).bind fun _ => .pure _
  | readTree timeout => exact (Dialogue.readTree timeout).bind fun _ => .pure _
  | writeTree tree timeout => exact (Dialogue.writeTree tree timeout).bind fun _ => .pure _
  | listModules timeout => exact (Dialogue.listModules timeout).bind fun _ => .pure _
  | showParameters module timeout =>
      exact (Dialogue.showParameters module timeout).bind fun _ => .pure _
  | loadModules timeout => exact (Dialogue.loadModules timeout).bind fun _ => .pure _
  | getParameter module parameter timeout =>
      exact (Dialogue.getParameter module parameter timeout).bind fun _ => .pure _
  | setParameter module parameter value timeout =>
      exact (Dialogue.setParameter module parameter value timeout).bind fun _ => .pure _
  | _ => cases gated

end Operation

end MuxConsole
