import MuxConsole.Proofs.Config.Tree
import MuxConsole.Proofs.Peer.Daemon

/-!
# Editing the configuration of a daemon

An editor reads the configuration of a daemon, assigns members and writes it back,
any number of times and in any order.  What it reads is what the daemon has stored
last, whatever the daemon has refused in between, and the members that nobody has
edited stay where they are.
-/

namespace MuxConsole.Config

open Peer Json

/-! ## Editors -/

inductive Edit where
  | read (timeout : Nat)
  | put (name : String) (value : Json)
  | write (timeout : Nat)

namespace Edit

def name? : Edit → Option String
  | .put name _ => some name
  | _ => none

def IsPortable : Edit → Prop
  | .put _ value => Nested (greatestDepth - 1) value ∧ Integral value
  | _ => True

end Edit

structure Editor (ω σ : Type) where
  session : Session ω σ
  tree : Tree

namespace Editor

variable {ω σ : Type} [Channel ω σ]

def step (editor : Editor ω σ) : Edit → Except Fault Outcome × Editor ω σ
  | .read timeout =>
      let (result, session) := Operation.step (.readTree timeout) editor.session
      let tree := match result with
        | .ok (.tree tree) => tree
        | _ => editor.tree
      (result, ⟨session, tree⟩)
  | .put name value => (.ok .done, { editor with tree := editor.tree.put name value })
  | .write timeout =>
      let (result, session) := Operation.step (.writeTree editor.tree timeout) editor.session
      (result, { editor with session })

def run (editor : Editor ω σ) : List Edit → List (Except Fault Outcome) × Editor ω σ
  | [] => ([], editor)
  | edit :: rest =>
      let (result, editor) := editor.step edit
      let (results, editor) := editor.run rest
      (result :: results, editor)

end Editor

/-- What an editor has in hand and what a daemon has stored, with its verdicts to
come. -/
structure Ledger where
  stored : Tree
  tree : Tree
  verdicts : List Verdict

namespace Ledger

def step (ledger : Ledger) : Edit → Outcome × Ledger
  | .read _ => (.tree ledger.stored, { ledger with tree := ledger.stored })
  | .put name value => (.done, { ledger with tree := ledger.tree.put name value })
  | .write _ =>
      let verdicts := ledger.verdicts.tail
      match ledger.verdicts.headD .stored with
      | .stored => (.written true, { ledger with stored := ledger.tree, verdicts })
      | .refused .. => (.written false, { ledger with verdicts })

def run (ledger : Ledger) : List Edit → List Outcome × Ledger
  | [] => ([], ledger)
  | edit :: rest =>
      let (outcome, ledger) := ledger.step edit
      let (outcomes, ledger) := ledger.run rest
      (outcome :: outcomes, ledger)

theorem run_append (ledger : Ledger) (earlier later : List Edit) :
    (ledger.run (earlier ++ later)).2 = ((ledger.run earlier).2.run later).2 := by
  induction earlier generalizing ledger with
  | nil => rfl
  | cons edit rest ih => exact ih (ledger.step edit).2

/-! ## Members that are not edited -/

/-- The member stands at this place in what is stored and in what is in hand. -/
structure Keeps (ledger : Ledger) (i : Nat) (member : String × Json) : Prop where
  stored : ledger.stored.members[i]? = some member
  tree : ledger.tree.members[i]? = some member

variable {ledger : Ledger} {i : Nat} {member : String × Json}

theorem Keeps.step (h : ledger.Keeps i member) {edit : Edit} (other : edit.name? ≠ some member.1) :
    (ledger.step edit).2.Keeps i member := by
  cases edit with
  | read timeout => exact ⟨h.stored, h.stored⟩
  | put name value =>
      have other : member.1 ≠ name := fun same => other (congrArg some same.symm)
      exact ⟨h.stored, Members.getElem?_put h.tree other⟩
  | write timeout =>
      rw [Ledger.step]
      split
      · exact ⟨h.tree, h.tree⟩
      · exact ⟨h.stored, h.tree⟩

theorem Keeps.run (h : ledger.Keeps i member) {edits : List Edit}
    (others : ∀ edit ∈ edits, edit.name? ≠ some member.1) :
    (ledger.run edits).2.Keeps i member := by
  induction edits generalizing ledger with
  | nil => exact h
  | cons edit rest ih =>
      obtain ⟨first, later⟩ := List.forall_mem_cons.mp others
      exact ih (h.step first) later

theorem keeps_of_read {edits earlier later : List Edit} {timeout : Nat}
    (split : edits = earlier ++ .read timeout :: later)
    (member_at : (ledger.run earlier).2.stored.members[i]? = some member)
    (others : ∀ edit ∈ later, edit.name? ≠ some member.1) :
    (ledger.run edits).2.Keeps i member := by
  rw [split, run_append]
  have kept : ((ledger.run earlier).2.step (.read timeout)).2.Keeps i member :=
    ⟨member_at, member_at⟩
  exact kept.run others

end Ledger

/-! ## The editor keeps the ledger -/

structure Follows (editor : Editor Daemon DaemonLink) (ledger : Ledger) : Prop where
  ready : Daemon.Ready editor.session
  text : IsTextOf editor.session.peer.text ledger.stored.toJson
  verdicts : editor.session.peer.verdicts = ledger.verdicts
  inHand : editor.tree = ledger.tree
  tree : ledger.tree.Portable

variable {editor : Editor Daemon DaemonLink} {ledger : Ledger}

theorem Follows.step (h : Follows editor ledger) {edit : Edit} (portable : edit.IsPortable) :
    (editor.step edit).1 = .ok (ledger.step edit).1 ∧
      Follows (editor.step edit).2 (ledger.step edit).2 := by
  cases edit with
  | read timeout =>
      obtain ⟨t, step, ready, same⟩ := h.ready.step_readTree timeout
      rw [Tree.decode_of_isTextOf h.text] at step
      rw [Editor.step, step]
      exact ⟨rfl, ready, by rw [same]; exact h.text, by rw [same]; exact h.verdicts, rfl,
        Tree.portable_of_isTextOf h.text⟩
  | put name value =>
      have inHand := congrArg (Tree.put · name value) h.inHand
      exact ⟨rfl, h.ready, h.text, h.verdicts, inHand, h.tree.put portable.1 portable.2⟩
  | write timeout =>
      obtain ⟨t, step, ready, judged⟩ := h.ready.step_writeTree editor.tree timeout
      have verdict : editor.session.peer.verdict = ledger.verdicts.headD .stored := by
        rw [Daemon.verdict, h.verdicts]
      rw [Daemon.judge, verdict, h.verdicts, h.inHand] at judged
      rw [Editor.step, step, Ledger.step, verdict]
      cases hverdict : ledger.verdicts.headD .stored with
      | stored =>
          rw [hverdict] at judged
          refine ⟨rfl, ready, ?_, by rw [judged], h.inHand, h.tree⟩
          rw [judged]
          exact h.tree.isTextOf_encode
      | refused answer other =>
          rw [hverdict] at judged
          refine ⟨rfl, ready, ?_, by rw [judged], h.inHand, h.tree⟩
          rw [judged]
          exact h.text

theorem Follows.run (h : Follows editor ledger) {edits : List Edit}
    (portable : ∀ edit ∈ edits, edit.IsPortable) :
    (editor.run edits).1 = (ledger.run edits).1.map .ok ∧
      Follows (editor.run edits).2 (ledger.run edits).2 := by
  induction edits generalizing editor ledger with
  | nil => exact ⟨rfl, h⟩
  | cons edit rest ih =>
      obtain ⟨first, others⟩ := List.forall_mem_cons.mp portable
      obtain ⟨same, after⟩ := h.step first
      obtain ⟨sameRest, afterRest⟩ := ih after others
      refine ⟨?_, afterRest⟩
      change (editor.step edit).1 :: ((editor.step edit).2.run rest).1 =
        .ok (ledger.step edit).1 :: ((ledger.step edit).2.run rest).1.map .ok
      rw [same, sameRest]

/-- Trees survive being read, edited and written.  What an editor of a verified
session reads is what the daemon has stored last; a write tells whether the daemon
has stored the tree; and after a read the members that are not edited keep their
places and values, in hand and with the daemon. -/
theorem trees_survive_editing {endpoint : Endpoint} {daemon : Daemon}
    {before : List Operation} {initial tree : Tree} {edits : List Edit}
    (queue : endpoint.wire = .queue)
    (verified : (Operation.run before (Daemon.session endpoint daemon)).2.state = .verified)
    (idle : (Operation.run before (Daemon.session endpoint daemon)).2.pending = none)
    (text : IsTextOf (Operation.run before (Daemon.session endpoint daemon)).2.peer.text
      initial.toJson)
    (inHand : tree.Portable) (portable : ∀ edit ∈ edits, edit.IsPortable) :
    let editor : Editor Daemon DaemonLink :=
      ⟨(Operation.run before (Daemon.session endpoint daemon)).2, tree⟩
    let ledger : Ledger := ⟨initial, tree, editor.session.peer.verdicts⟩
    let stored := (ledger.run edits).2.stored
    (editor.run edits).1 = (ledger.run edits).1.map .ok ∧
    IsTextOf (editor.run edits).2.session.peer.text stored.toJson ∧
    (editor.run edits).2.tree = (ledger.run edits).2.tree ∧
    (∀ earlier timeout later, edits = earlier ++ .write timeout :: later →
      let writer := (editor.run earlier).2
      (writer.step (.write timeout)).1 =
        .ok (.written writer.session.peer.verdict.isStored)) ∧
    ∀ earlier timeout later, edits = earlier ++ .read timeout :: later →
      ∀ i member, (ledger.run earlier).2.stored.members[i]? = some member →
        (∀ edit ∈ later, edit.name? ≠ some member.1) → (ledger.run edits).2.Keeps i member := by
  intro editor ledger stored
  have follows : Follows editor ledger :=
    ⟨Daemon.ready_of_run queue verified idle, text, rfl, rfl, inHand⟩
  obtain ⟨same, after⟩ := follows.run portable
  refine ⟨same, after.text, after.inHand, ?_, fun _ _ _ split _ _ => Ledger.keeps_of_read split⟩
  intro earlier timeout later split writer
  have portableEarlier : ∀ edit ∈ earlier, edit.IsPortable := by
    intro edit h
    refine portable edit ?_
    rw [split]
    exact List.mem_append_left _ h
  have writing : Daemon.Ready writer.session := (follows.run portableEarlier).2.ready
  obtain ⟨t, step, _⟩ := writing.step_writeTree writer.tree timeout
  rw [Editor.step, step]

/-- After a refusal the old tree is read back, and what is written next is stored. -/
theorem tree_survives_refusal :
    let text := Utf8.encode "\x7b \"a\": 1, \"b\" :[]\x7d"
    let daemon : Daemon := ⟨text, [.refused [] (by decide)]⟩
    let editor : Editor Daemon DaemonLink :=
      ⟨(Operation.run [.ping 1] (Daemon.session (.stats "127.0.0.1") daemon)).2, Tree.empty⟩
    let one : Json := .number (.whole 1 (by decide))
    let edits : List Edit := [.read 1, .put "a" .null, .write 1, .read 1, .put "c" one, .write 1,
      .read 1]
    (editor.run edits).1 = [.ok (.tree ⟨[("a", one), ("b", .list [])]⟩), .ok .done,
      .ok (.written false), .ok (.tree ⟨[("a", one), ("b", .list [])]⟩), .ok .done,
      .ok (.written true), .ok (.tree ⟨[("a", one), ("b", .list []), ("c", one)]⟩)] := by
  intro text daemon editor one edits
  have space : IsBlank [Ascii.space] := List.forall_mem_singleton.mpr rfl
  have nothing : IsBlank [] := List.forall_mem_nil _
  let members : List (Assigned Json) :=
    [⟨.tight (Utf8.encodeChars (renderText "a")) "a", ⟨_, rendered one, _, one, space, nothing⟩⟩,
      ⟨⟨_, Utf8.encodeChars (renderText "b"), _, "b", space, space⟩, tightItem (.list [])⟩]
  have integralOne : Integral one := .number _
  have denotesOne : Denotes 126 (rendered one) one := denotes_rendered (.number _) integralOne
  have denotesEmpty : Denotes 126 (rendered (.list [])) (.list []) :=
    denotes_rendered (.list (List.forall_mem_nil _)) (.list (List.forall_mem_nil _))
  have keys : ∀ member ∈ members, DenotesText member.key.text member.key.content :=
    List.forall_mem_cons.mpr ⟨denotesText_renderText "a",
      List.forall_mem_cons.mpr ⟨denotesText_renderText "b", List.forall_mem_nil _⟩⟩
  have denotes : ∀ member ∈ members, Denotes 126 member.value.text member.value.content :=
    List.forall_mem_cons.mpr ⟨denotesOne,
      List.forall_mem_cons.mpr ⟨denotesEmpty, List.forall_mem_nil _⟩⟩
  have whole : Denotes 127 text (.object [("a", one), ("b", .list [])]) :=
    @Denotes.object 126 _ members space keys denotes
  have isText : IsTextOf text (.object [("a", one), ("b", .list [])]) :=
    ⟨.tight text _, Spaced.bytes_tight _ _, rfl, whole⟩
  have inHand : Tree.empty.Portable :=
    ⟨.object List.Pairwise.nil (List.forall_mem_nil _), .object (List.forall_mem_nil _)⟩
  have portable : ∀ edit ∈ edits, edit.IsPortable := by
    simp only [edits, List.forall_mem_cons]
    exact ⟨True.intro, ⟨.null, .null⟩, True.intro, True.intro, ⟨.number _, integralOne⟩,
      True.intro, True.intro, List.forall_mem_nil _⟩
  have verified : editor.session.state = .verified := rfl
  exact (@trees_survive_editing _ _ _ ⟨[("a", one), ("b", .list [])]⟩ _ _ rfl verified rfl isText
    inHand portable).1

end MuxConsole.Config
