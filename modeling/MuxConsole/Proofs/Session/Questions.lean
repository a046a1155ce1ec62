import MuxConsole.Proofs.Session.Act

/-!
# Questions to the stats server

Each of the three questions takes the frame with the answer from a reply and reads
it.  An answer that cannot be read is malformed, whatever is wrong with it, and an
empty one never can.
-/

namespace MuxConsole

inductive Question where
  | values
  | config
  | tree

namespace Question

def command : Question → String
  | .values => "values"
  | .config => "config"
  | .tree => "getptree"

def ask (timeout : Nat) : Question → Operation
  | .values => .values timeout
  | .config => .config timeout
  | .tree => .readTree timeout

def decode (answer : Bytes) : Question → Except Fault Outcome
  | .values => (Input.Snapshot.decode answer).1.map .snapshot
  | .config => (Config.Answer.decode answer).map .config
  | .tree => (Config.Tree.decode "getptree" answer).map .tree

end Question

/-! ## Malformed answers -/

def OrMalformed {α : Type} (result : Except Fault α) : Prop :=
  ∀ fault, result = .error fault → ∃ command defect, fault = .malformed command defect

namespace OrMalformed

variable {α β : Type}

theorem ok (a : α) : OrMalformed (.ok a : Except Fault α) := by
  intro fault h
  cases h

theorem malformed (command : String) (defect : Defect) :
    OrMalformed (.error (.malformed command defect) : Except Fault α) := by
  rintro _ ⟨⟩
  exact ⟨command, defect, rfl⟩

theorem map {result : Except Fault α} (h : OrMalformed result) (f : α → β) :
    OrMalformed (result.map f) := by
  cases result with
  | ok a => exact ok (f a)
  | error fault =>
      rintro _ ⟨⟩
      exact h fault rfl

theorem bind {result : Except Fault α} (h : OrMalformed result) {next : α → Except Fault β}
    (hnext : ∀ a, OrMalformed (next a)) : OrMalformed (result >>= next) := by
  cases result with
  | ok a => exact hnext a
  | error fault =>
      rintro _ ⟨⟩
      exact h fault rfl

theorem mapM {f : α → Except Fault β} (h : ∀ a, OrMalformed (f a)) (items : List α) :
    OrMalformed (items.mapM f) := by
  induction items with
  | nil => exact ok []
  | cons item rest ih =>
      rw [List.mapM_cons]
      exact (h item).bind fun _ => ih.bind fun _ => ok _

theorem mapError {ε : Type} (result : Except ε α) (command : String) (defect : ε → Defect) :
    OrMalformed (result.mapError fun problem => .malformed command (defect problem)) := by
  cases result with
  | ok a => exact ok a
  | error problem => exact malformed command (defect problem)

end OrMalformed

theorem Reply.body_orMalformed (wire : Wire) (command : String) (reply : Frames) :
    OrMalformed (Reply.body wire command reply) := by
  unfold body
  split
  · exact .ok _
  · exact .ok _
  · exact .malformed _ _
  · exact .malformed _ _

theorem Input.Snapshot.readEntries_orMalformed (entries : List (String × Json)) :
    OrMalformed (readEntries entries).1 := by
  induction entries with
  | nil => exact .ok []
  | cons entry rest ih =>
      obtain ⟨ident, value⟩ := entry
      unfold readEntries
      split
      · exact .malformed _ _
      · exact ih.map _

theorem Input.Snapshot.decode_orMalformed (answer : Bytes) :
    OrMalformed (Input.Snapshot.decode answer).1 := by
  have record := OrMalformed.mapError (replySchema.parse answer) "values" Defect.json
  unfold decode
  split
  · rename_i fault hfault
    rw [Reply.record] at hfault
    rw [hfault] at record
    obtain ⟨command, defect, rfl⟩ := record fault rfl
    exact .malformed command defect
  · exact (readEntries_orMalformed _).map _

theorem Config.Answer.ofJson_orMalformed (j : Json) : OrMalformed (Config.Answer.ofJson j) := by
  unfold ofJson
  split
  · refine (OrMalformed.mapM (fun item => ?_) _).map _
    cases item <;> first | exact .ok _ | exact .malformed _ _
  · exact .ok _
  · exact .malformed _ _
  · split
    · split
      · exact .ok _
      · exact .malformed _ _
    · exact .malformed _ _

theorem Config.Tree.ofJson_orMalformed (j : Json) : OrMalformed (Config.Tree.ofJson j) := by
  cases j <;> first | exact .ok _ | exact .malformed _ _

theorem Config.Answer.decode_orMalformed (answer : Bytes) :
    OrMalformed (Config.Answer.decode answer) :=
  (OrMalformed.mapError _ _ _).bind ofJson_orMalformed

theorem Config.Tree.decode_orMalformed (command : String) (answer : Bytes) :
    OrMalformed (Config.Tree.decode command answer) :=
  (OrMalformed.mapError _ _ _).bind ofJson_orMalformed

theorem Question.decode_orMalformed (question : Question) (answer : Bytes) :
    OrMalformed (question.decode answer) := by
  cases question with
  | values => exact (Input.Snapshot.decode_orMalformed answer).map _
  | config => exact (Config.Answer.decode_orMalformed answer).map _
  | tree => exact (Config.Tree.decode_orMalformed "getptree" answer).map _

theorem Question.decode_nil (question : Question) :
    ∃ fault, question.decode [] = .error fault := by
  cases question <;> exact ⟨_, rfl⟩

/-! ## Asking -/

namespace Session

variable {ω σ : Type} [Channel ω σ] {s t : Session ω σ}

theorem run_query {command : String} {timeout : Nat} {reply : Frames}
    (verified : s.state = .verified)
    (h : (execute (.ofTexts [command]) timeout).run s = (.ok reply, t)) :
    (query command timeout).run s = (Reply.body t.endpoint.wire command reply, t) := by
  unfold query
  rw [Act.run_bind_ok (run_requireVerified verified), Act.run_bind_ok h]
  rfl

theorem run_values {timeout : Nat} {body : Except Fault Bytes}
    (h : (query "values" timeout).run s = (body, t)) :
    ((values timeout).run s).1 = body >>= fun answer => (Input.Snapshot.decode answer).1 := by
  unfold values
  cases body with
  | error fault => rw [Act.run_bind_error h]; rfl
  | ok answer => rw [Act.run_bind_ok h]; rfl

theorem run_config {timeout : Nat} {body : Except Fault Bytes}
    (h : (query "config" timeout).run s = (body, t)) :
    ((config timeout).run s).1 = body >>= Config.Answer.decode := by
  unfold config
  cases body with
  | error fault => rw [Act.run_bind_error h]; rfl
  | ok answer => rw [Act.run_bind_ok h]; rfl

theorem run_readTree {timeout : Nat} {body : Except Fault Bytes}
    (h : (query "getptree" timeout).run s = (body, t)) :
    (readTree timeout).run s = (body >>= Config.Tree.decode "getptree", t) := by
  unfold readTree
  cases body with
  | error fault => rw [Act.run_bind_error h]; rfl
  | ok answer => rw [Act.run_bind_ok h]; rfl

theorem step_ask {question : Question} {timeout : Nat} {reply : Frames}
    (verified : s.state = .verified)
    (h : (execute (.ofTexts [question.command]) timeout).run s = (.ok reply, t)) :
    (Operation.step (question.ask timeout) s).1 =
      (Reply.body t.endpoint.wire question.command reply >>= fun answer =>
        question.decode answer) := by
  have hquery := run_query verified h
  have hstep {α : Type} (act : Act ω σ α) (f : α → Outcome) :
      ((act >>= fun a => pure (f a)).run s).1 = (act.run s).1.map f := by
    rw [Act.run_bind_pure]
  generalize Reply.body t.endpoint.wire question.command reply = body at hquery ⊢
  cases question with
  | values =>
      refine (hstep (values timeout) .snapshot).trans ?_
      rw [run_values hquery]
      cases body <;> rfl
  | config =>
      refine (hstep (config timeout) .config).trans ?_
      rw [run_config hquery]
      cases body <;> rfl
  | tree =>
      refine (hstep (readTree timeout) .tree).trans ?_
      rw [run_readTree hquery]
      cases body <;> rfl

/-! ## Configuration trees -/

theorem step_readTree {timeout : Nat} {reply : Frames} (verified : s.state = .verified)
    (h : (execute (.ofTexts ["getptree"]) timeout).run s = (.ok reply, t)) :
    Operation.step (.readTree timeout) s =
      ((Reply.body t.endpoint.wire "getptree" reply >>=
        Config.Tree.decode "getptree").map .tree, t) := by
  refine (Act.run_bind_pure (readTree timeout) Outcome.tree s).trans ?_
  rw [run_readTree (run_query verified h)]

theorem step_writeTree {tree : Config.Tree} {timeout : Nat} {reply : Frames}
    (verified : s.state = .verified)
    (h : (execute [Utf8.encode "setptree", tree.encode] timeout).run s = (.ok reply, t)) :
    Operation.step (.writeTree tree timeout) s =
      (.ok (.written (reply = writeAccepted)),
        if reply = writeAccepted then t else t.noting [.writeRefused reply]) := by
  refine (Act.run_bind_pure (writeTree tree timeout) Outcome.written s).trans ?_
  unfold writeTree
  rw [Act.run_bind_ok (run_requireVerified verified), Act.run_bind_ok h]
  by_cases accepted : reply = writeAccepted
  · simp only [accepted, if_true, decide_true]
    rfl
  · simp only [accepted, if_false, decide_false]
    rfl

end Session

end MuxConsole
