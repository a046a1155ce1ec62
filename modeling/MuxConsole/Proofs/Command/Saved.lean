import Mathlib
import MuxConsole.Peer.Scripted
import MuxConsole.Proofs.Command.Visits
import MuxConsole.Proofs.Json.Pretty

/-!
# A configuration is saved and written back

What is printed of a configuration is a text of it.  So a file with what has been printed
holds the same configuration, and it is sent to a server just as it was returned.
-/

namespace MuxConsole

open Peer Session

namespace Command

variable {ω σ : Type} [Channel ω σ] {settings : Settings} {legacy : Bool}

/-! ## The program -/

theorem runProgram_eq {words : List String} {invocation : Invocation} {files : String → FileState}
    (accepted : Invocation.ofWords words = .ok invocation)
    (resolved : resolve invocation.options files = .ok settings) (peer : ω) :
    runProgram σ words files peer =
      (.ofResult (invocation.command.run σ settings invocation.options.legacy files peer).1,
        (invocation.command.run σ settings invocation.options.legacy files peer).2) := by
  rw [runProgram, accepted]
  change invocation.run σ files peer = _
  rw [Invocation.run, resolved]

theorem code_eq_zero {result : Except Failure String} :
    (Exit.ofResult result).code = 0 ↔ ∃ output, result = .ok output := by
  cases result <;> simp [Exit.ofResult]

/-- In the only talk the server has said who it is, and then it has returned the tree for
its configuration. -/
def Returned (talks : List Talk) (tree : Config.Tree) : Prop :=
  ∃ (endpoint : Endpoint) (uses : List Use) (introduction answer : Frames) (body : Bytes),
    talks = [⟨endpoint, uses⟩] ∧
      Talk.requests uses = [.ofTexts ["info"], .ofTexts ["getptree"]] ∧
      Talk.replies uses = [introduction, answer] ∧
      Reply.body endpoint.wire "getptree" answer = .ok body ∧
      Json.parse body = .ok tree.toJson

theorem parsed_of_returned {talks : List Talk} {tree : Config.Tree}
    (returned : Returned talks tree) : ∃ body, Json.parse body = .ok tree.toJson := by
  obtain ⟨_, _, _, _, body, _, _, _, _, parsed⟩ := returned
  exact ⟨body, parsed⟩

/-! ## Printing -/

def dumped (asked : Except Fault Config.Tree) : Except Failure String :=
  (inContext "Failed to read configuration" asked).map fun tree => tree.toJson.pretty ++ "\n"

theorem run_dumpTask (settings : Settings) (s : Session ω σ) :
    (do return (← readConfiguration settings).toJson.pretty ++ "\n" : Task ω σ String).run s =
      (dumped ((Session.readTree settings.bulkTimeout).run s).1,
        ((Session.readTree settings.bulkTimeout).run s).2) :=
  Task.run_bind_pure _ _ s

theorem dump_of_returned {files : String → FileState} {peer : ω} {tree : Config.Tree}
    (returned : Returned (Command.dump.run (Tapped σ) settings legacy files
      (⟨peer, []⟩ : Overheard ω)).2.talks tree) :
    (Command.dump.run σ settings legacy files peer).1 = .ok (tree.toJson.pretty ++ "\n") := by
  have asks := onStats_asks settings legacy (Speaks.readTree settings.bulkTimeout) dumped
    (fun _ => run_dumpTask (ω := ω) (σ := σ) settings) (fun _ => run_dumpTask settings) peer
  obtain ⟨talks, same, asked⟩ := asks
  rw [run, same] at returned
  obtain ⟨endpoint, uses, introduction, answer, body, rfl, requests, replies, holds, parsed⟩ :=
    returned
  obtain ⟨-, unmet⟩ | ⟨hello, heard, outcome, talk, -, plays, printed⟩ := asked
  · rw [unmet _ (List.mem_singleton_self _)] at requests
    simp at requests
  · cases talk
    rw [Talk.replies_answered] at replies
    have done : outcome = .ok tree :=
      plays.question_eq_ok.mpr ⟨answer, (List.cons.inj replies).2, by
        rw [holds]
        exact Config.Tree.decode_of_parse parsed _⟩
    rw [run, printed, done]
    rfl

theorem printed_of_returned {words : List String} {dump : Invocation}
    {files : String → FileState} {peer : ω} {tree : Config.Tree}
    (accepted : Invocation.ofWords words = .ok dump) (dumps : dump.command = .dump)
    (returned : Returned
      (runProgram (Tapped σ) words files (⟨peer, []⟩ : Overheard ω)).2.talks tree) :
    (runProgram σ words files peer).1 = .ofResult (.ok (tree.toJson.pretty ++ "\n")) := by
  cases resolved : resolve dump.options files with
  | error failure =>
      have silent : runProgram (Tapped σ) words files (⟨peer, []⟩ : Overheard ω) =
          (.ofResult (.error failure), ⟨peer, []⟩) := by
        rw [runProgram, accepted]
        change dump.run _ _ _ = _
        rw [Invocation.run, resolved]
      rw [silent] at returned
      obtain ⟨_, _, _, _, _, ⟨⟩, _⟩ := returned
  | ok settings =>
      rw [runProgram_eq accepted resolved, dumps] at returned ⊢
      exact congrArg Exit.ofResult (dump_of_returned returned)

/-! ## Writing back -/

theorem treeOfFile_of_saved {path : String} {tree : Config.Tree} {body : Bytes}
    (parsed : Json.parse body = .ok tree.toJson) (integral : Json.Integral tree.toJson) :
    treeOfFile path (.content (Utf8.encode (tree.toJson.pretty ++ "\n"))) = .ok tree := by
  refine treeOfFile_eq_ok.mpr ⟨_, ?_, Json.parse_of_isTextOf
    (Json.isTextOf_pretty (Json.nested_of_parse parsed) integral)⟩
  rw [FileState.text, Utf8.decode_encode]

def written (asked : Except Fault Bool) : Except Failure String :=
  inContext "Failed to send configuration" asked >>= fun accepted =>
    if accepted then .ok "Configuration accepted\n" else .error notAccepted

theorem written_eq_ok {asked : Except Fault Bool} :
    (∃ output, written asked = .ok output) ↔ asked = .ok true := by
  rcases asked with fault | _ | _ <;> simp [written, inContext, Except.mapError, bind, Except.bind]

theorem run_writeTask {path : String} {file : FileState} {tree : Config.Tree}
    (read : treeOfFile path file = .ok tree) (s : Session ω σ) :
    (writeTask settings path file).run s =
      (written ((Session.writeTree tree settings.bulkTimeout).run s).1,
        ((Session.writeTree tree settings.bulkTimeout).run s).2) := by
  unfold writeTask
  rw [read]
  refine Task.run_during_bind (fun accepted _ => ?_) s
  cases accepted <;> rfl

theorem write_of_treeOfFile {files : String → FileState} {path : String} {peer : ω}
    {tree : Config.Tree} {identity : Identity} {s : Session ω σ}
    (read : treeOfFile path (files path) = .ok tree)
    (met : MetStats σ settings legacy peer identity s) :
    ∃ (hello : Exchange) (later : List Use),
      ((Command.write path).run (Tapped σ) settings legacy files
        (⟨peer, []⟩ : Overheard ω)).2.talks =
          [⟨(statsKind legacy).endpoint settings, hello.uses ++ later⟩] ∧
      hello.request = .ofTexts ["info"] ∧
      Talk.requests later = [[Utf8.encode "setptree", tree.encode]] ∧
      ((∃ output, ((Command.write path).run σ settings legacy files peer).1 = .ok output) ↔
        Talk.replies later = [writeAccepted]) := by
  have asks := onStats_asks settings legacy (Speaks.writeTree tree settings.bulkTimeout) written
    (fun _ => run_writeTask (ω := ω) (σ := σ) read) (fun _ => run_writeTask read) peer
  obtain ⟨talks, same, ⟨unmet, -⟩ | ⟨hello, later, outcome, rfl, greeted, plays, result⟩⟩ := asks
  · exact absurd met (unmet identity s)
  · refine ⟨hello, later, congrArg (fun run => run.2.talks) same, greeted, ?_, ?_⟩
    · rw [plays.requests_eq, Script.requests_question]
    · rw [run, result, written_eq_ok, plays.question_eq_ok]
      simp

/-- A configuration that a server returns is printed, and if its numbers are whole, then a
file with what has been printed is sent to any server that is met as one message, with the
compact form of the same configuration.  The program succeeds exactly if the reply to that
is that it has been accepted. -/
theorem dump_write_round_trip {ω' σ' : Type} [Channel ω' σ'] {words words' : List String}
    {dump write : Invocation} {files files' : String → FileState} {path : String} {peer : ω}
    {peer' : ω'} {tree : Config.Tree} {identity : Identity} {s : Session ω' σ'}
    (accepted : Invocation.ofWords words = .ok dump) (dumps : dump.command = .dump)
    (returned : Returned
      (runProgram (Tapped σ) words files (⟨peer, []⟩ : Overheard ω)).2.talks tree)
    (integral : Json.Integral tree.toJson)
    (accepted' : Invocation.ofWords words' = .ok write) (writes : write.command = .write path)
    (saved : files' path = .content (Utf8.encode (runProgram σ words files peer).1.stdout))
    (loaded : resolve write.options files' = .ok settings)
    (met : MetStats σ' settings write.options.legacy peer' identity s) :
    (runProgram σ words files peer).1.code = 0 ∧
      ∃ (hello : Exchange) (later : List Use),
        (runProgram (Tapped σ') words' files' (⟨peer', []⟩ : Overheard ω')).2.talks =
          [⟨(statsKind write.options.legacy).endpoint settings, hello.uses ++ later⟩] ∧
        hello.request = .ofTexts ["info"] ∧
        Talk.requests later = [[Utf8.encode "setptree", Utf8.encode tree.toJson.compact]] ∧
        Json.IsTextOf (Utf8.encode tree.toJson.compact) tree.toJson ∧
        ((runProgram σ' words' files' peer').1.code = 0 ↔
          Talk.replies later = [.ofTexts ["OK"]]) := by
  obtain ⟨body, parsed⟩ := parsed_of_returned returned
  have printed := printed_of_returned accepted dumps returned
  rw [printed] at saved
  have read : treeOfFile path (files' path) = .ok tree := by
    rw [saved]
    exact treeOfFile_of_saved parsed integral
  obtain ⟨hello, later, talks, greeted, requests, succeeds⟩ := write_of_treeOfFile read met
  refine ⟨congrArg Exit.code printed, hello, later, ?_, greeted, ?_, ?_, ?_⟩
  · rw [runProgram_eq accepted' loaded, writes, talks]
  · rw [requests, Config.Tree.encode_eq]
  · rw [← Config.Tree.encode_eq]
    exact Config.Tree.Portable.isTextOf_encode ⟨Json.nested_of_parse parsed, integral⟩
  · rw [runProgram_eq accepted' loaded, writes, code_eq_zero, succeeds]
    rfl

/-- With blanks in the body, and an object in an object. -/
theorem dump_write_round_trip_of_nested :
    let hello : Frames := [Utf8.encode "\x7b\"service\":\"ODR-DabMux\"\x7d"]
    let body := Utf8.encode "\x7b \"a\" :\x7b\"b\":[1, true]\x7d,\"c\":\x7b\x7d\x7d"
    let peer : Scripted := .ofScript [.reply 0 hello, .reply 0 [body]]
    let peer' : Scripted := .ofScript [.reply 0 hello, .reply 0 (.ofTexts ["OK"])]
    let exit := (runProgram ScriptedLink ["config", "dump"] (fun _ => .missing) peer).1
    let files (_ : String) : FileState := .content (Utf8.encode exit.stdout)
    let words := ["config", "write", "saved.json"]
    ∃ tree : Config.Tree, Json.parse body = .ok tree.toJson ∧ exit.code = 0 ∧
      ∃ (greeting : Exchange) (later : List Use),
        (runProgram (Tapped ScriptedLink) words files (⟨peer', []⟩ : Overheard Scripted)).2.talks =
          [⟨Settings.default.statsEndpoint, greeting.uses ++ later⟩] ∧
        greeting.request = .ofTexts ["info"] ∧
        Talk.requests later = [[Utf8.encode "setptree", Utf8.encode tree.toJson.compact]] ∧
        Json.IsTextOf (Utf8.encode tree.toJson.compact) tree.toJson ∧
        ((runProgram ScriptedLink words files peer').1.code = 0 ↔
          Talk.replies later = [.ofTexts ["OK"]]) := by
  intro hello body peer peer' exit files words
  let inner : Json.Members := [("b", .list [.number (.whole 1 (by decide)), .bool true])]
  let tree : Config.Tree := ⟨[("a", .object inner), ("c", .object [])]⟩
  have parsed : Json.parse body = .ok tree.toJson := by
    simp only [body, tree, inner]
    cbv
  have integral : Json.Integral tree.toJson := by
    have list : Json.Integral (.list [.number (.whole 1 (by decide)), .bool true]) :=
      .list (List.forall_mem_cons.mpr ⟨.number _, List.forall_mem_singleton.mpr (.bool true)⟩)
    exact .object (List.forall_mem_cons.mpr ⟨.object (List.forall_mem_singleton.mpr list),
      List.forall_mem_singleton.mpr (.object (List.forall_mem_nil _))⟩)
  have accepted : Invocation.ofWords ["config", "dump"] = .ok ⟨.none, .dump⟩ := by cbv
  have accepted' : Invocation.ofWords words = .ok ⟨.none, .write "saved.json"⟩ := by cbv
  have returned : Returned (runProgram (Tapped ScriptedLink) ["config", "dump"]
      (fun _ => .missing) (⟨peer, []⟩ : Overheard Scripted)).2.talks tree := by
    refine ⟨Settings.default.statsEndpoint, Exchange.uses ⟨.ofTexts ["info"], 0, hello⟩ ++
      Exchange.uses ⟨.ofTexts ["getptree"], 0, [body]⟩, hello, [body], body, ?_, rfl, rfl, rfl,
      parsed⟩
    simp only [peer, hello, body]
    cbv
  have met : MetStats ScriptedLink Settings.default false peer' ⟨"ODR-DabMux", "unknown"⟩
      { Session.ofLink Settings.default.statsEndpoint ⟨none, none⟩
          ⟨none, [.reply 0 (.ofTexts ["OK"])], [.ofTexts ["info"]], 0⟩ with
        state := .verified
        identity := some ⟨"ODR-DabMux", "unknown"⟩ } :=
    ⟨_, rfl, rfl⟩
  have loaded : resolve .none files = .ok Settings.default := rfl
  exact ⟨tree, parsed, dump_write_round_trip accepted rfl returned integral accepted' rfl rfl
    loaded met⟩

end Command

end MuxConsole
