import MuxConsole.Proofs.Command.Plans

/-!
# Nothing is changed by accident

Two requests change something on a server.  Each is sent by one command only, as the last
thing that this command asks, and after the reply to the greeting has verified the server.
-/

namespace MuxConsole.Command

open Session

variable {ω σ : Type} [Channel ω σ] {settings : Settings} {legacy : Bool}

/-! ## What asks for a change -/

/-- The talk is the only one, and the request is the last in it: before it there is nothing
but the greeting, whose reply has verified the server. -/
def AskedLast (settings : Settings) (kind : ServerKind) (talks : List Talk)
    (request : Frames) : Prop :=
  ∃ (hello : Exchange) (sending : Sending) (rest : List Use),
    talks = [⟨kind.endpoint settings, hello.uses ++ .send request sending :: rest⟩] ∧
      hello.request = kind.greeting ∧ kind.Welcomes settings hello.reply ∧
      Talk.requests rest = []

def Changing (request : Frames) : Prop :=
  request.head? = some (Utf8.encode "setptree") ∨ request.head? = some (Utf8.encode "set")

@[simp] theorem changing_ofTexts (text : String) (rest : List String) :
    Changing (.ofTexts (text :: rest)) ↔ text = "setptree" ∨ text = "set" := by
  simp [Changing, Frames.ofTexts]

theorem Changing.ne_greeting {request : Frames} (changing : Changing request)
    (kind : ServerKind) : request ≠ kind.greeting := by
  rintro rfl
  cases kind <;> simp [ServerKind.greeting] at changing

theorem Changing.askedLast {plan : Plan} {talk : Talk} {request : Frames}
    (changing : Changing request) (follows : plan.FollowedBy settings talk)
    (single : ∀ listed, plan.questions listed = [request])
    (asked : request ∈ Talk.requests talk.uses) :
    AskedLast settings plan.kind [talk] request := by
  obtain ⟨before, sending, rest, split⟩ := Talk.split_of_requests asked
  obtain ⟨⟨exchanges, rfl⟩, welcomed⟩ := follows.turns split
  have requests := follows.requests
  rw [split, Talk.requests_exchanges, Plan.requests, single] at requests
  rcases exchanges with _ | ⟨hello, _ | ⟨second, more⟩⟩
  · obtain ⟨same, -⟩ := List.cons_prefix_cons.mp requests
    exact absurd same (changing.ne_greeting _)
  · obtain ⟨greeted, requests⟩ := List.cons_prefix_cons.mp requests
    obtain ⟨-, requests⟩ := List.cons_prefix_cons.mp requests
    refine ⟨hello, sending, rest, ?_, greeted, welcomed _ rfl, List.prefix_nil.mp requests⟩
    rw [← follows.endpoint, ← List.append_nil hello.uses]
    exact congrArg (fun uses => [Talk.mk talk.endpoint uses]) split
  · have short := requests.length_le
    simp [Talk.requests, Use.request?] at short

/-! ## All commands -/

theorem planned_of_heard {plans : List Plan} {talks : List Talk} {talk : Talk}
    (followed : List.Forall₂ (Plan.FollowedBy settings) plans talks) (heard : talk ∈ talks) :
    ∃ plan ∈ plans, plan.FollowedBy settings talk := by
  induction followed with
  | nil => cases heard
  | cons follows _ ih =>
      rcases List.mem_cons.mp heard with rfl | later
      · exact ⟨_, List.mem_cons_self, follows⟩
      · obtain ⟨plan, planned, follows⟩ := ih later
        exact ⟨plan, List.mem_cons_of_mem _ planned, follows⟩

theorem alone_of_heard {plan : Plan} {talks : List Talk} {talk : Talk}
    (followed : List.Forall₂ (Plan.FollowedBy settings) ([plan].take talks.length) talks)
    (heard : talk ∈ talks) : talks = [talk] := by
  have short := followed.length_eq
  rw [List.length_take, List.length_singleton] at short
  match talks with
  | [] => cases heard
  | [_] => rw [List.mem_singleton.mp heard]
  | _ :: _ :: _ => simp at short

theorem change_of_plans {command : Command} {files : String → FileState} {plan : Plan}
    {listed : List String} {request : Frames} (planned : plan ∈ command.plans legacy files)
    (asked : request ∈ plan.requests listed) (changing : Changing request) :
    command.plans legacy files = [plan] ∧ (∀ listed, plan.questions listed = [request]) ∧
      ((∃ path tree, command = .write path ∧ plan.kind = statsKind legacy ∧
          treeOfFile path (files path) = .ok tree ∧
          request = [Utf8.encode "setptree", tree.encode]) ∨
        ∃ module parameter value, command = .remoteSet module parameter value ∧
          plan.kind = .remoteControl ∧
          request = .ofTexts ["set", module, parameter, value]) := by
  rw [Plan.requests, List.mem_cons, or_iff_right (changing.ne_greeting _)] at asked
  cases command with
  | write path =>
      obtain rfl := List.mem_singleton.mp planned
      cases read : treeOfFile path (files path) with
      | error failure =>
          simp only [writing, read] at asked
          cases asked
      | ok tree =>
          have single (listed : List String) :
              (writing (statsKind legacy) path (files path)).questions listed =
                [[Utf8.encode "setptree", tree.encode]] := by
            simp only [writing, read]
          rw [single] at asked
          obtain rfl := List.mem_singleton.mp asked
          exact ⟨rfl, single, .inl ⟨path, tree, rfl, rfl, read, rfl⟩⟩
  | remoteSet module parameter value =>
      obtain rfl := List.mem_singleton.mp planned
      obtain rfl := List.mem_singleton.mp asked
      exact ⟨rfl, fun _ => rfl, .inr ⟨module, parameter, value, rfl, rfl, rfl⟩⟩
  | graphValues =>
      simp only [plans, List.mem_cons, List.not_mem_nil, or_false] at planned
      rcases planned with rfl | rfl <;> obtain rfl := List.mem_singleton.mp asked <;>
        simp at changing
  | remoteList =>
      obtain rfl := List.mem_singleton.mp planned
      rcases List.mem_cons.mp asked with rfl | shown
      · simp at changing
      · obtain ⟨name, -, rfl⟩ := List.mem_map.mp shown
        simp at changing
  | info =>
      obtain rfl := List.mem_singleton.mp planned
      cases asked
  | _ =>
      obtain rfl := List.mem_singleton.mp planned
      obtain rfl := List.mem_singleton.mp asked
      simp at changing

/-- Every command keeps to its plans, whatever the servers do, and one that succeeds has
visited all of its servers.  Only two commands ask for changes, both last, once, and on
verified servers: one of them when its file holds an object. -/
theorem commands_keep_to_plans (command : Command) (settings : Settings) (legacy : Bool)
    (files : String → FileState) (peer : ω) :
    ∃ talks : List Talk,
      command.run (Tapped σ) settings legacy files (⟨peer, []⟩ : Overheard ω) =
        ((command.run σ settings legacy files peer).1,
          ⟨(command.run σ settings legacy files peer).2, talks⟩) ∧
      List.Forall₂ (Plan.FollowedBy settings)
        ((command.plans legacy files).take talks.length) talks ∧
      (∀ output, (command.run σ settings legacy files peer).1 = .ok output →
        talks.length = (command.plans legacy files).length) ∧
      ∀ talk ∈ talks, ∀ request ∈ Talk.requests talk.uses,
        (request.head? = some (Utf8.encode "setptree") →
          ∃ path content tree, command = .write path ∧ (files path).text = .ok content ∧
            Json.parse content = .ok (Config.Tree.toJson tree) ∧
            request = [Utf8.encode "setptree", tree.encode] ∧
            AskedLast settings (statsKind legacy) talks request) ∧
        (request.head? = some (Utf8.encode "set") →
          ∃ module parameter value, command = .remoteSet module parameter value ∧
            request = .ofTexts ["set", module, parameter, value] ∧
            AskedLast settings .remoteControl talks request) := by
  have keeps : KeepsTo settings (command.plans legacy files) []
    (command.run σ settings legacy files peer) _ := run_keepsTo command files peer
  obtain ⟨talks, same, followed, complete⟩ := keeps
  refine ⟨talks, same, followed, complete, fun talk heard request asked => ?_⟩
  obtain ⟨plan, planned, follows⟩ := planned_of_heard followed heard
  have change := change_of_plans (List.mem_of_mem_take planned) (follows.requests.subset asked)
  constructor
  · intro opens
    obtain ⟨alone, single, ⟨path, tree, rfl, kind, read, rfl⟩ | ⟨_, _, _, _, _, rfl⟩⟩ :=
      change (.inl opens)
    · rw [alone] at followed
      rw [alone_of_heard followed heard, ← kind]
      obtain ⟨content, text, parsed⟩ := treeOfFile_eq_ok.mp read
      exact ⟨path, content, tree, rfl, text, parsed, rfl,
        Changing.askedLast (.inl opens) follows single asked⟩
    · simp [Frames.ofTexts] at opens
  · intro opens
    obtain ⟨alone, single, ⟨_, _, _, _, _, rfl⟩ | ⟨module, parameter, value, rfl, kind, rfl⟩⟩ :=
      change (.inr opens)
    · simp at opens
    · rw [alone] at followed
      rw [alone_of_heard followed heard, ← kind]
      exact ⟨module, parameter, value, rfl, rfl,
        Changing.askedLast (.inr opens) follows single asked⟩

end MuxConsole.Command
