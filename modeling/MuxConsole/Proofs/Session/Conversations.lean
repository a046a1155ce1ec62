import MuxConsole.Proofs.Session.Speaking

/-!
# The scripts of the operations

What is heard of each greeting and of each question to a verified server: its one request,
and how the reply to it is read.  Only the whole list of modules takes more: a request for
their names, and then one for each of them.
-/

namespace MuxConsole

variable {ω σ α β : Type}

namespace Script

def module (name : String) : Script Remote.Module :=
  question (.ofTexts ["show", name]) fun reply =>
    Reply.texts "show" reply >>= fun lines => .ok ⟨name, (Session.readParameters name lines).1⟩

def modules : List String → Script (List Remote.Module)
  | [] => .result (.ok [])
  | name :: rest =>
      (module name).bind fun module => (modules rest).bind fun others => .result (.ok (module :: others))

def listing : Script (List Remote.Module) :=
  (question (.ofTexts ["list"]) (Reply.texts "list")).bind modules

end Script

def introduction (reply : Frames) : Except Fault Identity :=
  match reply with
  | [] => .error (.malformed "info" .empty)
  | first :: _ => Reply.record Identity.schema "info" first

def expected (beginning : String) (identity : Identity) : Except Fault Identity :=
  if identity.matchesName beginning then .ok identity
  else .error (.wrongService beginning identity.service)

def welcome (beginning : String) (reply : Frames) : Except Fault Identity :=
  introduction reply >>= expected beginning

def pong (reply : Frames) : Except Fault Unit :=
  if reply = .ofTexts ["ok"] then .ok () else .error (.pingFailed reply.describe)

namespace Session

structure At (state : SessionState) (wire : Wire) (s : Session ω σ) : Prop where
  state : s.state = state
  idle : s.pending = none
  linked : ∃ link, s.link = some link
  wire : s.endpoint.wire = wire

theorem At.of_stays {state : SessionState} {wire : Wire} {s t : Session ω σ} [Channel ω σ]
    (h : s.At state wire) (stays : s.Stays t) (idle : t.pending = none) : t.At state wire where
  state := stays.state.trans h.state
  idle := idle
  linked := stays.linked
  wire := (congrArg Endpoint.wire stays.endpoint).trans h.wire

/-- Begun as it may be, the operation is heard as its script, and if it comes back with
something the session is as it is after it. -/
def Speaks (before after : Session ω σ → Prop) (act : Act ω σ α)
    (act' : Act (Overheard ω) (Tapped σ) α) (script : Script α) : Prop :=
  ∀ s, before s → ∃ heard result t, s.Hears act act' heard result t ∧
    Plays script heard result ∧ ∀ a, result = .ok a → after t

namespace Speaks

variable {P Q R : Session ω σ → Prop} {act : Act ω σ α} {act' : Act (Overheard ω) (Tapped σ) α}
  {state : SessionState} {wire : Wire}

theorem bind {next : α → Act ω σ β} {next' : α → Act (Overheard ω) (Tapped σ) β}
    {script : Script α} {later : α → Script β} (first : Speaks P Q act act' script)
    (second : ∀ a, Speaks Q R (next a) (next' a) (later a)) :
    Speaks P R (act >>= next) (act' >>= next') (script.bind later) := by
  intro s hs
  obtain ⟨heard, result, t, hears, plays, after⟩ := first s hs
  cases result with
  | error fault => exact ⟨_, _, _, hears.bind_error, plays.bind_error later, nofun⟩
  | ok a =>
      obtain ⟨heard', result, u, hears', plays', after'⟩ := second a t (after a rfl)
      exact ⟨_, _, _, hears.bind_ok hears', plays.bind_ok plays', after'⟩

theorem ofExcept (result : Except Fault α) :
    Speaks P P (Act.ofExcept result) (Act.ofExcept result) (.result result) := by
  intro s hs
  exact ⟨_, _, _, .silent rfl fun _ _ _ => rfl, .result result, fun _ _ => hs⟩

theorem throw (fault : Fault) :
    Speaks P Q (MonadExcept.throw fault : Act ω σ α) (MonadExcept.throw fault)
      (.result (.error fault)) := by
  intro s _
  exact ⟨_, _, _, .silent rfl fun _ _ _ => rfl, .result _, nofun⟩

theorem pure (a : α) : Speaks P P (Pure.pure a) (Pure.pure a) (.result (.ok a)) :=
  ofExcept (.ok a)

theorem noteAll (log : Log) :
    Speaks (At state wire) (At state wire) (noteAll log : Act ω σ Unit) (noteAll log)
      (.result (.ok ())) := by
  intro s hs
  exact ⟨_, _, _, .silent rfl fun _ _ _ => rfl, .result _, fun _ _ =>
    ⟨hs.state, hs.idle, hs.linked, hs.wire⟩⟩

theorem onWire {next : Wire → Act ω σ α} {next' : Wire → Act (Overheard ω) (Tapped σ) α}
    {script : Wire → Script α}
    (h : ∀ wire, Speaks (At state wire) (At state wire) (next wire) (next' wire) (script wire)) :
    Speaks (At state wire) (At state wire) (do next (← get).endpoint.wire)
      (do next' (← get).endpoint.wire) (script wire) := by
  intro s hs
  obtain ⟨heard, result, t, hears, plays, after⟩ := h wire s hs
  refine ⟨heard, result, t, ⟨?_, fun earlier endpoint uses => ?_⟩, plays, after⟩
  · rw [Act.run_get_bind, hs.wire]
    exact hears.bare
  · rw [Act.run_get_bind]
    change (next' s.endpoint.wire).run _ = _
    rw [hs.wire]
    exact hears.overheard earlier endpoint uses

theorem of_eq {script script' : Script α} (h : Speaks P Q act act' script)
    (same : script = script') : Speaks P Q act act' script' := same ▸ h

variable [Channel ω σ]

omit [Channel ω σ] in
theorem requireVerified :
    Speaks (At .verified wire) (At .verified wire) (Session.requireVerified : Act ω σ Unit)
      Session.requireVerified (.result (.ok ())) := by
  intro s hs
  have overheard (earlier : List Talk) (endpoint : Endpoint) (uses : List Use) :=
    run_requireVerified (s := s.overheard earlier endpoint uses) hs.state
  exact ⟨_, _, _, .silent (run_requireVerified hs.state) overheard, .result _, fun _ _ => hs⟩

theorem execute (usable : state.obstacle? = none) (frames : Frames) (timeout : Nat) :
    Speaks (At state wire) (At state wire) (Session.execute frames timeout : Act ω σ Frames)
      (Session.execute frames timeout) (.question frames .ok) := by
  intro s hs
  obtain ⟨link, hlink⟩ := hs.linked
  have usable' : s.isUsable = true := by rw [isUsable, hs.state, usable]; rfl
  obtain ⟨heard, result, t, hears, plays, after⟩ :=
    execute_hears usable' hs.idle hlink frames timeout
  refine ⟨heard, result, t, hears, plays, fun reply answered => ?_⟩
  obtain ⟨stays, idle⟩ := after reply answered
  exact hs.of_stays stays idle

/-! ## Questions to a verified server -/

theorem question (frames : Frames) (timeout : Nat) (read : Frames → Except Fault α) :
    Speaks (At .verified wire) (At .verified wire)
      (do
        Session.requireVerified
        Act.ofExcept (read (← Session.execute frames timeout)) : Act ω σ α)
      (do
        Session.requireVerified
        Act.ofExcept (read (← Session.execute frames timeout))) (.question frames read) := by
  have asked : Speaks (At .verified wire) (At .verified wire)
      (Session.execute frames timeout : Act ω σ Frames) (Session.execute frames timeout)
      (.question frames .ok) := execute rfl frames timeout
  exact (requireVerified.bind fun _ => asked.bind fun reply => ofExcept (read reply)).of_eq
    (Script.question_bind_result frames .ok read)

omit [Channel ω σ] in
theorem readOn {frames : Frames} {read : Frames → Except Fault α} {next : α → Act ω σ β}
    {next' : α → Act (Overheard ω) (Tapped σ) β} {on : α → Except Fault β}
    (first : Speaks P Q act act' (.question frames read))
    (second : ∀ a, Speaks Q R (next a) (next' a) (.result (on a))) :
    Speaks P R (act >>= next) (act' >>= next') (.question frames fun reply => read reply >>= on) :=
  (first.bind second).of_eq (Script.question_bind_result frames read on)

theorem query (command : String) (timeout : Nat) :
    Speaks (At .verified wire) (At .verified wire)
      (Session.query command timeout : Act ω σ Bytes) (Session.query command timeout)
      (.question (.ofTexts [command]) (Reply.body wire command)) := by
  have asked : Speaks (At .verified wire) (At .verified wire)
      (Session.execute (.ofTexts [command]) timeout : Act ω σ Frames)
      (Session.execute (.ofTexts [command]) timeout) (.question (.ofTexts [command]) .ok) :=
    execute rfl (.ofTexts [command]) timeout
  have read (reply : Frames) (wire : Wire) : Speaks (At .verified wire) (At .verified wire)
      (Act.ofExcept (Reply.body wire command reply) : Act ω σ Bytes)
      (Act.ofExcept (Reply.body wire command reply)) (.result (Reply.body wire command reply)) :=
    ofExcept _
  refine of_eq ?_ (Script.question_bind_result _ .ok (Reply.body wire command))
  exact requireVerified.bind fun _ => asked.bind fun reply => onWire (read reply)

theorem values (timeout : Nat) :
    Speaks (At .verified wire) (At .verified wire)
      (Session.values timeout : Act ω σ Input.Snapshot) (Session.values timeout)
      (.question (.ofTexts ["values"]) fun reply =>
        Reply.body wire "values" reply >>= fun answer => (Input.Snapshot.decode answer).1) :=
  (query "values" timeout).readOn fun _ => (noteAll _).bind fun _ => ofExcept _

theorem config (timeout : Nat) :
    Speaks (At .verified wire) (At .verified wire)
      (Session.config timeout : Act ω σ Config.Answer) (Session.config timeout)
      (.question (.ofTexts ["config"]) fun reply =>
        Reply.body wire "config" reply >>= Config.Answer.decode) :=
  (query "config" timeout).readOn fun _ => ofExcept _

theorem readTree (timeout : Nat) :
    Speaks (At .verified wire) (At .verified wire)
      (Session.readTree timeout : Act ω σ Config.Tree) (Session.readTree timeout)
      (.question (.ofTexts ["getptree"]) fun reply =>
        Reply.body wire "getptree" reply >>= Config.Tree.decode "getptree") :=
  (query "getptree" timeout).readOn fun _ => ofExcept _

theorem writeTree (tree : Config.Tree) (timeout : Nat) :
    Speaks (At .verified wire) (At .verified wire)
      (Session.writeTree tree timeout : Act ω σ Bool) (Session.writeTree tree timeout)
      (.question [Utf8.encode "setptree", tree.encode] fun reply =>
        .ok (reply = writeAccepted)) := by
  have asked : Speaks (At .verified wire) (At .verified wire)
      (Session.execute [Utf8.encode "setptree", tree.encode] timeout : Act ω σ Frames)
      (Session.execute [Utf8.encode "setptree", tree.encode] timeout)
      (.question [Utf8.encode "setptree", tree.encode] .ok) := execute rfl _ timeout
  refine (requireVerified.bind fun _ => asked.bind fun reply => ?_).of_eq
    (Script.question_bind_result _ .ok fun reply => .ok (decide (reply = writeAccepted)))
  by_cases accepted : reply = writeAccepted
  · simp only [accepted, if_true, decide_true]
    exact pure true
  · simp only [accepted, if_false, decide_false]
    exact (noteAll [.writeRefused reply]).bind fun _ => pure false

theorem getParameter (module parameter : String) (timeout : Nat) :
    Speaks (At .verified wire) (At .verified wire)
      (Session.getParameter module parameter timeout : Act ω σ String)
      (Session.getParameter module parameter timeout)
      (.question (.ofTexts ["get", module, parameter]) fun reply =>
        accepted module parameter reply >>= valueOf) :=
  question _ timeout _

theorem setParameter (module parameter value : String) (timeout : Nat) :
    Speaks (At .verified wire) (At .verified wire)
      (Session.setParameter module parameter value timeout : Act ω σ Unit)
      (Session.setParameter module parameter value timeout)
      (.question (.ofTexts ["set", module, parameter, value]) fun reply =>
        accepted module parameter reply >>= acknowledged) :=
  question _ timeout _

theorem listModules (timeout : Nat) :
    Speaks (At .verified wire) (At .verified wire)
      (Session.listModules timeout : Act ω σ (List String)) (Session.listModules timeout)
      (.question (.ofTexts ["list"]) (Reply.texts "list")) :=
  question _ timeout _

theorem loadModule (timeout : Nat) (name : String) :
    Speaks (At .verified wire) (At .verified wire)
      (Session.loadModule timeout name : Act ω σ Remote.Module) (Session.loadModule timeout name)
      (.module name) := by
  have shown : Speaks (At .verified wire) (At .verified wire)
      (Session.showParameters name timeout : Act ω σ (List String))
      (Session.showParameters name timeout)
      (.question (.ofTexts ["show", name]) (Reply.texts "show")) := question _ timeout _
  exact shown.readOn fun _ => (noteAll _).bind fun _ => pure _

theorem loadModules (timeout : Nat) :
    Speaks (At .verified wire) (At .verified wire)
      (Session.loadModules timeout : Act ω σ (List Remote.Module)) (Session.loadModules timeout)
      .listing := by
  refine (listModules timeout).bind fun names => ?_
  induction names with
  | nil => exact pure []
  | cons name names ih =>
      rw [List.mapM_cons, List.mapM_cons]
      exact (loadModule timeout name).bind fun _ => ih.bind fun _ => pure _

/-! ## Greetings -/

omit [Channel ω σ] in
theorem rejecting {script : Script α} (h : Speaks P Q act act' script) :
    Speaks P Q (Session.rejecting act) (Session.rejecting act') script := by
  intro s hs
  obtain ⟨heard, result, t, hears, plays, after⟩ := h s hs
  cases result with
  | ok a =>
      refine ⟨heard, _, t, ⟨Act.run_tryCatch_ok hears.bare, ?_⟩, plays, after⟩
      intro earlier endpoint uses
      exact Act.run_tryCatch_ok (hears.overheard earlier endpoint uses)
  | error fault =>
      refine ⟨heard, _, _, ⟨Act.run_tryCatch_error hears.bare, ?_⟩, plays, nofun⟩
      intro earlier endpoint uses
      exact Act.run_tryCatch_error (hears.overheard earlier endpoint uses)

omit [Channel ω σ] in
theorem markVerified (identity : Option Identity) :
    Speaks (At .opened wire) (At .verified wire) (Session.markVerified identity : Act ω σ Unit)
      (Session.markVerified identity) (.result (.ok ())) := by
  intro s hs
  have usable : s.isUsable = true := isUsable_iff.mpr (.inl hs.state)
  refine ⟨_, _, _, .silent rfl fun _ _ _ => rfl, .result _, fun _ _ => ?_⟩
  exact ⟨by simp [usable], hs.idle, hs.linked, hs.wire⟩

theorem ping (timeout : Nat) :
    Speaks (At .opened wire) (At .verified wire) (Session.ping timeout : Act ω σ Unit)
      (Session.ping timeout) (.question (.ofTexts ["ping"]) pong) := by
  have asked : Speaks (At .opened wire) (At .opened wire)
      (Session.execute (.ofTexts ["ping"]) timeout : Act ω σ Frames)
      (Session.execute (.ofTexts ["ping"]) timeout) (.question (.ofTexts ["ping"]) .ok) :=
    execute rfl _ timeout
  refine rejecting ?_
  refine of_eq (asked.bind fun reply => ?_) (Script.question_bind_result _ .ok pong)
  unfold pong
  by_cases answered : reply = .ofTexts ["ok"]
  · simp only [answered, if_true]
    exact markVerified none
  · simp only [answered, if_false]
    exact throw _

theorem handshake (beginning : String) (timeout : Nat) :
    Speaks (At .opened wire) (At .verified wire)
      (Session.handshake beginning timeout : Act ω σ Identity)
      (Session.handshake beginning timeout)
      (.question (.ofTexts ["info"]) (welcome beginning)) := by
  have asked : Speaks (At .opened wire) (At .opened wire)
      (Session.execute (.ofTexts ["info"]) timeout : Act ω σ Frames)
      (Session.execute (.ofTexts ["info"]) timeout) (.question (.ofTexts ["info"]) .ok) :=
    execute rfl _ timeout
  have told : Speaks (At .opened wire) (At .opened wire)
      (Session.queryIdentity timeout : Act ω σ Identity) (Session.queryIdentity timeout)
      (.question (.ofTexts ["info"]) introduction) := by
    refine of_eq (asked.bind fun reply => ?_) (Script.question_bind_result _ .ok introduction)
    cases reply with
    | nil => exact throw _
    | cons first rest => exact ofExcept _
  refine rejecting (told.readOn fun identity => ?_)
  unfold expected
  by_cases fits : identity.matchesName beginning = true
  · simp only [fits, if_true]
    exact (markVerified (some identity)).bind fun _ => pure identity
  · simp only [fits]
    exact throw _

structure Fresh (wire : Wire) (s : Session ω σ) : Prop extends At .opened wire s where
  unknown : s.identity = none

theorem run_validate_unknown {beginning : String} {timeout : Nat} {s : Session ω σ}
    (unknown : s.identity = none) :
    (Session.validate beginning timeout).run s = (Session.handshake beginning timeout).run s := by
  rw [run_validate_eq, unknown]
  rfl

theorem validate (beginning : String) (timeout : Nat) :
    Speaks (Fresh wire) (At .verified wire)
      (Session.validate beginning timeout : Act ω σ Identity)
      (Session.validate beginning timeout)
      (.question (.ofTexts ["info"]) (welcome beginning)) := by
  intro s hs
  obtain ⟨heard, result, t, hears, spoken⟩ := handshake beginning timeout s hs.toAt
  refine ⟨heard, result, t, ⟨?_, fun earlier endpoint uses => ?_⟩, spoken⟩
  · rw [run_validate_unknown hs.unknown]
    exact hears.bare
  · rw [run_validate_unknown (s := s.overheard earlier endpoint uses) hs.unknown]
    exact hears.overheard earlier endpoint uses

end Speaks

end Session

end MuxConsole
