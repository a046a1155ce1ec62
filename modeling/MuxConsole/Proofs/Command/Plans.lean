import Mathlib.Data.List.Forall2
import MuxConsole.Proofs.Command.Visits
import MuxConsole.Proofs.Text.Utf8

/-!
# Commands keep to their plans

Every command has a plan: which servers it visits, and what it asks each of them once the
server has been greeted.  Whatever the servers do, what is sent to them is the plan as far
as it gets, one message after the reply to the one before.
-/

namespace MuxConsole

open Session

/-! ## Plans -/

namespace ServerKind

def greeting : ServerKind → Frames
  | .stats | .legacy => .ofTexts ["info"]
  | .remoteControl => .ofTexts ["ping"]

def Welcomes (settings : Settings) (kind : ServerKind) (reply : Frames) : Prop :=
  match kind with
  | .stats | .legacy => ∃ identity, welcome settings.expectedService reply = .ok identity
  | .remoteControl => reply = .ofTexts ["ok"]

end ServerKind

/-- A visit to a server, with what is asked there after the greeting.  This may depend on
the modules that the server lists. -/
structure Plan where
  kind : ServerKind
  questions : (listed : List String) → List Frames

def Plan.requests (plan : Plan) (listed : List String) : List Frames :=
  plan.kind.greeting :: plan.questions listed

namespace Command

def asking (kind : ServerKind) (texts : List String) : Plan := ⟨kind, fun _ => [.ofTexts texts]⟩

def writing (kind : ServerKind) (path : String) (file : FileState) : Plan where
  kind
  questions _ := match treeOfFile path file with
    | .ok tree => [[Utf8.encode "setptree", tree.encode]]
    | .error _ => []

def listing : Plan where
  kind := .remoteControl
  questions listed := .ofTexts ["list"] :: listed.map fun name => .ofTexts ["show", name]

def plans (legacy : Bool) (files : String → FileState) : Command → List Plan
  | .info => [⟨statsKind legacy, fun _ => []⟩]
  | .stats => [asking (statsKind legacy) ["values"]]
  | .inputs | .graphConfig => [asking (statsKind legacy) ["config"]]
  | .dump | .services | .subchannels | .components | .general =>
      [asking (statsKind legacy) ["getptree"]]
  | .write path => [writing (statsKind legacy) path (files path)]
  | .remoteList => [listing]
  | .remoteGet module parameter => [asking .remoteControl ["get", module, parameter]]
  | .remoteSet module parameter value =>
      [asking .remoteControl ["set", module, parameter, value]]
  | .graphValues => [asking .remoteControl ["get", "clocktai", "expiry"],
      asking (statsKind legacy) ["values"]]

end Command

/-! ## Talks that follow a plan -/

def Talk.listed : List Frames → List String
  | _ :: reply :: _ =>
      match Reply.texts "list" reply with
      | .ok names => names
      | .error _ => []
  | _ => []

/-- What is heard in the talk follows the plan as far as it goes. -/
structure Plan.FollowedBy (settings : Settings) (plan : Plan) (talk : Talk) : Prop where
  endpoint : talk.endpoint = plan.kind.endpoint settings
  greeted : (Talk.requests talk.uses).head? = some plan.kind.greeting
  requests : Talk.requests talk.uses <+: plan.requests (Talk.listed (Talk.replies talk.uses))
  /-- All that has been asked before has been answered, and the first reply has verified
  the server. -/
  turns {before after : List Use} {request : Frames} {sending : Sending} :
    talk.uses = before ++ .send request sending :: after →
      Answered before ∧ ∀ reply ∈ (Talk.replies before).head?, plan.kind.Welcomes settings reply

namespace Script

theorem requests_modules (names : List String) (replies : List Frames) :
    (modules names).requests replies <+: names.map fun name => .ofTexts ["show", name] := by
  induction names generalizing replies with
  | nil => exact List.nil_prefix
  | cons name names ih =>
      cases replies with
      | nil => exact List.prefix_cons_inj _ |>.mpr List.nil_prefix
      | cons reply rest =>
          rw [modules, module, requests_question_bind, List.map_cons, List.prefix_cons_inj]
          split
          · rw [requests_bind_result]
            exact ih rest
          · exact List.nil_prefix

end Script

namespace Plan

variable {α β : Type} {settings : Settings} {plan : Plan}

theorem followedBy_of_plays {accept : Frames → Except Fault α} {later : α → Script β}
    {uses : List Use} {outcome : Except Fault β}
    (plays : Plays ((Script.question plan.kind.greeting accept).bind later) uses outcome)
    (welcomes : ∀ reply a, accept reply = .ok a → plan.kind.Welcomes settings reply)
    (asks : ∀ a reply rest,
      (later a).requests rest <+: plan.questions (Talk.listed (reply :: rest))) :
    plan.FollowedBy settings ⟨plan.kind.endpoint settings, uses⟩ where
  endpoint := rfl
  greeted := by
    dsimp only
    rw [plays.requests_eq]
    cases Talk.replies uses <;> rfl
  requests := by
    dsimp only
    rw [plays.requests_eq, requests]
    cases Talk.replies uses with
    | nil => exact (List.prefix_cons_inj _).mpr List.nil_prefix
    | cons reply rest =>
        rw [Script.requests_question_bind, List.prefix_cons_inj]
        split
        · exact asks _ reply rest
        · exact List.nil_prefix
  turns := by
    intro before after request sending split
    refine ⟨plays.answered_before split, ?_⟩
    rcases plays.of_question_bind with ⟨unanswered, _⟩ | ⟨exchange, later, _, rfl, ends⟩
    · rw [unanswered.nothing_before split]
      exact nofun
    · match before with
      | [] => exact nofun
      | [first] => simp [Exchange.uses] at split
      | first :: second :: rest =>
          simp only [Exchange.uses, List.cons_append, List.cons.injEq] at split
          obtain ⟨rfl, rfl, split⟩ := split
          intro reply hreply
          obtain rfl : exchange.reply = reply := Option.some.inj hreply
          rcases ends with ⟨_, _, rfl, _⟩ | ⟨a, accepted, _⟩
          · simp at split
          · exact welcomes _ a accepted

end Plan

namespace Command

variable {ω σ α β : Type} {settings : Settings} {legacy : Bool}

/-- A command and the same command overheard, after other talks: the same comes of both,
and the talks follow the plans one by one, all of them if the command succeeds. -/
def KeepsTo (settings : Settings) (plans : List Plan) (earlier : List Talk)
    (bare : Except Failure α × ω) (overheard : Except Failure α × Overheard ω) : Prop :=
  ∃ talks, overheard = (bare.1, ⟨bare.2, earlier ++ talks⟩) ∧
    List.Forall₂ (Plan.FollowedBy settings) (plans.take talks.length) talks ∧
    ∀ a, bare.1 = .ok a → talks.length = plans.length

theorem Visits.keepsTo {plan : Plan} {accept : Frames → Except Fault α} {later : α → Script β}
    {earlier : List Talk} {γ : Type} {bare : Except Failure γ × ω}
    {overheard : Except Failure γ × Overheard ω}
    (h : Visits ((Script.question plan.kind.greeting accept).bind later)
      (plan.kind.endpoint settings) earlier bare overheard)
    (welcomes : ∀ reply a, accept reply = .ok a → plan.kind.Welcomes settings reply)
    (asks : ∀ a reply rest,
      (later a).requests rest <+: plan.questions (Talk.listed (reply :: rest))) :
    KeepsTo settings [plan] earlier bare overheard := by
  obtain ⟨talks, same, ⟨rfl, failure, fails⟩ | ⟨uses, outcome, rfl, plays⟩⟩ := h
  · refine ⟨[], same, .nil, fun a succeeds => ?_⟩
    rw [fails] at succeeds
    cases succeeds
  · exact ⟨_, same, .cons (Plan.followedBy_of_plays plays welcomes asks) .nil, fun _ _ => rfl⟩

variable [Channel ω σ]

theorem onStats_keepsTo {questions : List String → List Frames} {task : Identity → Task ω σ α}
    {task' : Identity → Task (Overheard ω) (Tapped σ) α} {scripts : Identity → Script β}
    (h : ∀ identity, Task.Heard (At .verified ((statsKind legacy).endpoint settings).wire)
      (task identity) (task' identity) (scripts identity))
    (asks : ∀ identity reply rest,
      (scripts identity).requests rest <+: questions (Talk.listed (reply :: rest)))
    (peer : ω) (earlier : List Talk) :
    KeepsTo settings [⟨statsKind legacy, questions⟩] earlier
      (onStats σ settings legacy task peer)
      (onStats (Tapped σ) settings legacy task' ⟨peer, earlier⟩) := by
  have visits := onStats_visits h peer earlier
  cases legacy with
  | false => exact Visits.keepsTo visits (fun _ identity accepted => ⟨identity, accepted⟩) asks
  | true => exact Visits.keepsTo visits (fun _ identity accepted => ⟨identity, accepted⟩) asks

theorem reply_of_pong {reply : Frames} (h : pong reply = .ok ()) : reply = .ofTexts ["ok"] := by
  unfold pong at h
  split at h
  · assumption
  · cases h

theorem onRemote_keepsTo {questions : List String → List Frames} {task : Task ω σ α}
    {task' : Task (Overheard ω) (Tapped σ) α} {script : Script β}
    (h : Task.Heard (At .verified .queue) task task' script)
    (asks : ∀ reply rest,
      script.requests rest <+: questions (Talk.listed (reply :: rest)))
    (peer : ω) (earlier : List Talk) :
    KeepsTo settings [⟨.remoteControl, questions⟩] earlier (onRemote σ settings task peer)
      (onRemote (Tapped σ) settings task' ⟨peer, earlier⟩) :=
  Visits.keepsTo (onRemote_visits h peer earlier) (fun _ _ accepted => reply_of_pong accepted)
    fun _ => asks

def andThen {ω : Type} (visit : Except Failure α × ω) (next : α → ω → Except Failure β × ω) :
    Except Failure β × ω :=
  match visit with
  | (.error failure, peer) => (.error failure, peer)
  | (.ok a, peer) => next a peer

theorem fetchGraphs_eq (peer : ω) :
    fetchGraphs σ settings legacy peer =
      andThen (onRemote σ settings (expiryTask settings) peer) fun expiry =>
        onStats σ settings legacy fun _ => do
          let snapshot ← readStatistics settings
          return Report.graphValues expiry snapshot ++ "\n" := by
  unfold fetchGraphs andThen
  rcases onRemote σ settings (expiryTask settings) peer with ⟨_ | _, _⟩ <;> rfl

theorem KeepsTo.andThen {plans more : List Plan} {earlier : List Talk}
    {bare : Except Failure α × ω} {overheard : Except Failure α × Overheard ω}
    {next : α → ω → Except Failure β × ω}
    {next' : α → Overheard ω → Except Failure β × Overheard ω}
    (first : KeepsTo settings plans earlier bare overheard)
    (second : ∀ a peer earlier,
      KeepsTo settings more earlier (next a peer) (next' a ⟨peer, earlier⟩)) :
    KeepsTo settings (plans ++ more) earlier (Command.andThen bare next)
      (Command.andThen overheard next') := by
  obtain ⟨talks, rfl, followed, complete⟩ := first
  have short : talks.length ≤ plans.length := by
    have same := followed.length_eq
    rw [List.length_take] at same
    omega
  obtain ⟨result, peer⟩ := bare
  cases result with
  | error failure =>
      refine ⟨talks, rfl, ?_, nofun⟩
      rwa [List.take_append_of_le_length short]
  | ok a =>
      obtain ⟨later, same, followedLater, completeLater⟩ := second a peer (earlier ++ talks)
      have all := complete a rfl
      refine ⟨talks ++ later, ?_, ?_, fun b succeeds => ?_⟩
      · rw [← List.append_assoc]
        exact same
      · rw [all, List.take_length] at followed
        rw [List.length_append, all, List.take_length_add_append]
        exact List.rel_append followed followedLater
      · rw [List.length_append, List.length_append, all, completeLater b succeeds]

/-! ## The commands -/

omit [Channel ω σ] in
theorem infoTask_heard {before : Session ω σ → Prop} (identity : Identity) :
    Task.Heard before (infoTask identity) (infoTask identity) (.result (.ok ())) := by
  refine .silent (fun s => ?_) (.ok ())
  exact ⟨_, rfl, fun _ _ _ => rfl⟩

theorem readStatistics_heard {wire : Wire} (print : Input.Snapshot → String) :
    Task.Heard (At .verified wire)
      (readStatistics settings >>= fun snapshot => pure (print snapshot) : Task ω σ String)
      (readStatistics settings >>= fun snapshot => pure (print snapshot))
      (.question (.ofTexts ["values"]) fun reply =>
        Reply.body wire "values" reply >>= fun answer => (Input.Snapshot.decode answer).1) :=
  .during (Speaks.values _) (fun snapshot => .ok (print snapshot)) (fun _ _ => rfl) fun _ _ => rfl

theorem inputIdents_heard {wire : Wire} (print : List String → String) :
    Task.Heard (At .verified wire)
      (inputIdents settings >>= fun idents => pure (print idents) : Task ω σ String)
      (inputIdents settings >>= fun idents => pure (print idents))
      (.question (.ofTexts ["config"]) fun reply =>
        Reply.body wire "config" reply >>= Config.Answer.decode) := by
  rw [inputIdents_eq, inputIdents_eq, bind_assoc, bind_assoc]
  exact .during (Speaks.config _)
    (fun answer => (inContext "Configuration has no subchannels" answer.idents).map print)
    (fun _ _ => Task.run_bind_pure _ _ _) fun _ _ => Task.run_bind_pure _ _ _

theorem readConfiguration_heard {wire : Wire} (print : Config.Tree → Except Failure String) :
    Task.Heard (At .verified wire)
      (readConfiguration settings >>= fun tree => Task.ofExcept (print tree) : Task ω σ String)
      (readConfiguration settings >>= fun tree => Task.ofExcept (print tree))
      (.question (.ofTexts ["getptree"]) fun reply =>
        Reply.body wire "getptree" reply >>= Config.Tree.decode "getptree") :=
  .during (Speaks.readTree _) print (fun _ _ => rfl) fun _ _ => rfl

theorem viewTask_heard {wire : Wire} (view : Config.Tree → Except Fault α) (print : α → String) :
    Task.Heard (At .verified wire) (viewTask settings view print : Task ω σ String)
      (viewTask settings view print)
      (.question (.ofTexts ["getptree"]) fun reply =>
        Reply.body wire "getptree" reply >>= Config.Tree.decode "getptree") :=
  .during (Speaks.readTree _) (fun tree => (bare (view tree)).map print)
    (fun _ _ => Task.run_bind_pure _ _ _) fun _ _ => Task.run_bind_pure _ _ _

theorem writeTask_heard {wire : Wire} (path : String) (file : FileState) :
    Task.Heard (At .verified wire) (writeTask settings path file : Task ω σ String)
      (writeTask settings path file)
      (match treeOfFile path file with
        | .ok tree => .question [Utf8.encode "setptree", tree.encode] fun reply =>
            .ok (decide (reply = writeAccepted))
        | .error _ => .result (.ok false)) := by
  unfold writeTask
  cases treeOfFile path file with
  | error failure => exact .silent (fun _ => ⟨_, rfl, fun _ _ _ => rfl⟩) (.ok false)
  | ok tree =>
      refine Task.Heard.during (Speaks.writeTree tree settings.bulkTimeout)
        (fun accepted => if accepted then .ok "Configuration accepted\n" else .error notAccepted)
        ?_ ?_
      · intro accepted _
        cases accepted <;> rfl
      · intro accepted _
        cases accepted <;> rfl

theorem expiryTask_heard {wire : Wire} :
    Task.Heard (At .verified wire) (expiryTask settings : Task ω σ (Option String))
      (expiryTask settings)
      (.question (.ofTexts ["get", "clocktai", "expiry"]) fun reply =>
        accepted "clocktai" "expiry" reply >>= valueOf) :=
  .of_run (Speaks.getParameter "clocktai" "expiry" _)
    (fun asked => inContext "Failed to read clocktai expiry" (tolerated asked))
    (run_expiryTask settings) (run_expiryTask settings)

theorem asks_question (request : Frames) (read : Frames → Except Fault α)
    (replies : List Frames) :
    (Script.question request read).requests replies <+: [request] := by
  simp

theorem asks_listing (reply : Frames) (rest : List Frames) :
    Script.listing.requests rest <+: listing.questions (Talk.listed (reply :: rest)) := by
  cases rest with
  | nil => exact (List.prefix_cons_inj _).mpr List.nil_prefix
  | cons listed rest =>
      rw [Script.listing, Script.requests_question_bind, listing, Talk.listed,
        List.prefix_cons_inj]
      cases Reply.texts "list" listed with
      | ok names => exact Script.requests_modules names rest
      | error fault => exact List.nil_prefix

theorem run_keepsTo (command : Command) (files : String → FileState) (peer : ω) :
    KeepsTo settings (command.plans legacy files) []
      (command.run σ settings legacy files peer)
      (command.run (Tapped σ) settings legacy files (⟨peer, []⟩ : Overheard ω)) := by
  cases command with
  | info =>
      exact onStats_keepsTo infoTask_heard (fun _ _ _ => List.nil_prefix) peer []
  | stats =>
      exact onStats_keepsTo (fun _ => readStatistics_heard _) (fun _ _ => asks_question _ _) peer []
  | inputs | graphConfig =>
      exact onStats_keepsTo (fun _ => inputIdents_heard _) (fun _ _ => asks_question _ _) peer []
  | dump =>
      exact onStats_keepsTo (fun _ => readConfiguration_heard fun tree =>
        .ok (tree.toJson.pretty ++ "\n")) (fun _ _ => asks_question _ _) peer []
  | services | subchannels | components | general =>
      exact onStats_keepsTo (fun _ => viewTask_heard _ _) (fun _ _ => asks_question _ _) peer []
  | write path =>
      refine onStats_keepsTo (fun _ => writeTask_heard path (files path)) ?_ peer []
      intro _ reply rest
      cases treeOfFile path (files path) with
      | ok tree => exact asks_question _ _ rest
      | error failure => exact List.nil_prefix
  | remoteList =>
      exact onRemote_keepsTo (.during (Speaks.loadModules _)
        (fun modules => .ok (Report.modules modules)) (fun _ _ => rfl) fun _ _ => rfl)
        asks_listing peer []
  | remoteGet module parameter =>
      exact onRemote_keepsTo (.during (Speaks.getParameter module parameter _)
        (fun value => .ok (value ++ "\n")) (fun _ _ => rfl) fun _ _ => rfl)
        (fun _ => asks_question _ _) peer []
  | remoteSet module parameter value =>
      exact onRemote_keepsTo (.during (Speaks.setParameter module parameter value _)
        (fun _ => .ok s!"{module}.{parameter} = {value}\n") (fun _ _ => rfl) fun _ _ => rfl)
        (fun _ => asks_question _ _) peer []
  | graphValues =>
      have expiry : KeepsTo settings [asking .remoteControl ["get", "clocktai", "expiry"]] []
          (onRemote σ settings (expiryTask settings) peer)
          (onRemote (Tapped σ) settings (expiryTask settings) (⟨peer, []⟩ : Overheard ω)) :=
        onRemote_keepsTo expiryTask_heard (fun _ => asks_question _ _) peer []
      rw [run, run, fetchGraphs_eq, fetchGraphs_eq]
      refine expiry.andThen fun _ peer earlier => ?_
      exact onStats_keepsTo (fun _ => readStatistics_heard _) (fun _ _ => asks_question _ _) peer
        earlier

end Command

end MuxConsole
