import MuxConsole.Peer.Daemon
import MuxConsole.Proofs.Session.Ready

/-!
# Sessions with a daemon

On a verified session on which nothing is pending, the configuration that a daemon
holds is read as it is, and a write says whether the daemon has stored the new one.
-/

namespace MuxConsole.Peer.Daemon

structure Ready (s : Session Daemon DaemonLink) : Prop where
  verified : s.state = .verified
  idle : s.pending = none
  linked : s.link = some ⟨none⟩
  queue : s.endpoint.wire = .queue

def session (endpoint : Endpoint) (daemon : Daemon) : Session Daemon DaemonLink :=
  .ofLink endpoint ⟨none⟩ daemon

theorem rests : Session.Rests Daemon (⟨none⟩ : DaemonLink) where
  send _ _ _ _ := ⟨0, rfl⟩
  receive _ link peer := by
    change (Daemon.receive link peer).2.1 = _
    unfold Daemon.receive
    split <;> rfl
  reset _ _ := rfl

theorem ready_of_run {endpoint : Endpoint} {daemon : Daemon} {before : List Operation}
    (queue : endpoint.wire = .queue)
    (verified : (Operation.run before (session endpoint daemon)).2.state = .verified)
    (idle : (Operation.run before (session endpoint daemon)).2.pending = none) :
    Ready (Operation.run before (session endpoint daemon)).2 := by
  have ready := Session.ready_of_run rests verified idle
  have same := Operation.run_keeps (s := session endpoint daemon)
    (Session.endpoint_invariant endpoint) before rfl
  exact ⟨verified, idle, ready.linked, by rw [same, queue]⟩

variable {s : Session Daemon DaemonLink}

theorem Ready.run_execute (h : Ready s) {request answer : Frames} {daemon : Daemon}
    (answers : s.peer.answer request = (some answer, daemon)) (timeout : Nat) :
    (Session.execute request timeout).run s =
      (.ok answer, { s with link := some ⟨none⟩, pending := none, peer := daemon }) := by
  have usable := Session.isUsable_iff.mpr (.inr h.verified)
  have sent : Channel.send request none (⟨none⟩ : DaemonLink) s.peer =
      (.sent 0, ⟨some answer⟩, daemon) := by
    change send request s.peer = _
    rw [send, answers]
  exact Session.run_execute usable h.idle h.linked sent rfl

theorem Ready.step_readTree (h : Ready s) (timeout : Nat) :
    ∃ t, Operation.step (.readTree timeout) s =
        ((Config.Tree.decode "getptree" s.peer.text).map .tree, t) ∧ Ready t ∧ t.peer = s.peer := by
  have answers : s.peer.answer (.ofTexts ["getptree"]) = (some [s.peer.text], s.peer) := rfl
  have step := Session.step_readTree h.verified (h.run_execute answers timeout)
  refine ⟨{ s with link := some ⟨none⟩, pending := none, peer := s.peer }, ?_,
    ⟨h.verified, rfl, rfl, h.queue⟩, rfl⟩
  rw [step]
  dsimp only
  rw [h.queue]
  rfl

theorem accepts_iff (daemon : Daemon) (text : Bytes) :
    (daemon.judge text).1 = Session.writeAccepted ↔ daemon.verdict.isStored = true := by
  rw [judge]
  cases daemon.verdict with
  | stored => exact ⟨fun _ => rfl, fun _ => rfl⟩
  | refused answer other => exact ⟨fun same => absurd (List.cons.inj same).1 other, nofun⟩

theorem Ready.step_writeTree (h : Ready s) (tree : Config.Tree) (timeout : Nat) :
    ∃ t, Operation.step (.writeTree tree timeout) s =
        (.ok (.written s.peer.verdict.isStored), t) ∧
      Ready t ∧ t.peer = (s.peer.judge tree.encode).2 := by
  have answers : s.peer.answer [Utf8.encode "setptree", tree.encode] =
      (some (s.peer.judge tree.encode).1, (s.peer.judge tree.encode).2) := rfl
  have step := Session.step_writeTree h.verified (h.run_execute answers timeout)
  simp only [accepts_iff, Bool.decide_eq_true] at step
  refine ⟨_, step, ?_⟩
  split
  · exact ⟨⟨h.verified, rfl, rfl, h.queue⟩, rfl⟩
  · exact ⟨⟨h.verified, rfl, rfl, h.queue⟩, rfl⟩

end MuxConsole.Peer.Daemon
