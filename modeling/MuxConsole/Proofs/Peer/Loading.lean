import Mathlib.Data.List.Infix
import MuxConsole.Proofs.Peer.Controller
import MuxConsole.Proofs.Peer.Locality
import MuxConsole.Proofs.Session.Speaking
import MuxConsole.Proofs.Text.Validity

/-!
# Loading modules from a scripted peer

The items of a script say what each question of a load comes to.  As long as they are
answers the modules are asked for one after the other and hold the parameters on their
lines; the first item that is none ends the load with its fault.
-/

namespace MuxConsole.Peer

open Session

/-! ## Items -/

theorem ofTexts_or_not (frames : Frames) :
    (∃ texts, frames = .ofTexts texts) ∨
      ∃ before frame after problem, frames = Frames.ofTexts before ++ frame :: after ∧
        Utf8.decode frame = .error problem := by
  induction frames with
  | nil => exact .inl ⟨[], rfl⟩
  | cons frame rest ih =>
      cases decoded : Utf8.decode frame with
      | error problem => exact .inr ⟨[], frame, rest, problem, rfl, decoded⟩
      | ok text =>
          obtain rfl := Utf8.decode_eq_ok_iff.mp decoded
          rcases ih with ⟨texts, rfl⟩ | ⟨before, frame, after, problem, rfl, bad⟩
          · exact .inl ⟨text :: texts, rfl⟩
          · exact .inr ⟨text :: before, frame, after, problem, rfl, bad⟩

namespace Item

def Answers (timeout : Nat) (item : Item) (texts : List String) : Prop :=
  ∃ delay ≤ timeout, item = .reply delay (.ofTexts texts)

inductive Fails (command : String) (timeout : Nat) : Item → Fault → Prop
  | silent : Fails command timeout .silent (.timeout command (1000 * timeout))
  | late {delay : Nat} {frames : Frames} (late : timeout < delay) :
      Fails command timeout (.reply delay frames) (.timeout command (1000 * timeout))
  | lateTransport {delay : Nat} {message : String} (late : timeout < delay) :
      Fails command timeout (.transportFailure delay message)
        (.timeout command (1000 * timeout))
  | lateIo {delay : Nat} {message : String} (late : timeout < delay) :
      Fails command timeout (.ioFailure delay message) (.timeout command (1000 * timeout))
  | transport {delay : Nat} {message : String} (inTime : delay ≤ timeout) :
      Fails command timeout (.transportFailure delay message) (.transport message)
  | io {delay : Nat} {message : String} (inTime : delay ≤ timeout) :
      Fails command timeout (.ioFailure delay message) (.io message)
  | unsent {message : String} :
      Fails command timeout (.sendFailure message) (.transport message)
  | reset {message : String} :
      Fails command timeout (.resetFailure message) (.transport message)
  | notText {delay : Nat} {before : List String} {frame : Bytes} {after : Frames}
      {problem : Utf8.Fault} (inTime : delay ≤ timeout)
      (bad : Utf8.decode frame = .error problem) :
      Fails command timeout (.reply delay (.ofTexts before ++ frame :: after))
        (.malformed command (.notText problem))

def isUnsent : Item → Bool
  | .sendFailure _ => true
  | _ => false

theorem answers_or_fails (command : String) (timeout : Nat) (item : Item) :
    (∃ texts, item.Answers timeout texts) ∨ ∃ fault, item.Fails command timeout fault := by
  cases item with
  | reply delay frames =>
      by_cases inTime : delay ≤ timeout
      · rcases ofTexts_or_not frames with ⟨texts, rfl⟩ | ⟨_, _, _, _, rfl, bad⟩
        · exact .inl ⟨texts, delay, inTime, rfl⟩
        · exact .inr ⟨_, .notText inTime bad⟩
      · exact .inr ⟨_, .late (by omega)⟩
  | transportFailure delay message =>
      by_cases inTime : delay ≤ timeout
      · exact .inr ⟨_, .transport inTime⟩
      · exact .inr ⟨_, .lateTransport (by omega)⟩
  | ioFailure delay message =>
      by_cases inTime : delay ≤ timeout
      · exact .inr ⟨_, .io inTime⟩
      · exact .inr ⟨_, .lateIo (by omega)⟩
  | sendFailure message => exact .inr ⟨_, .unsent⟩
  | silent => exact .inr ⟨_, .silent⟩
  | resetFailure message => exact .inr ⟨_, .reset⟩

end Item

theorem texts_notText (command : String) (before : List String) {frame : Bytes}
    (after : Frames) {problem : Utf8.Fault} (bad : Utf8.decode frame = .error problem) :
    Reply.texts command (.ofTexts before ++ frame :: after) =
      .error (.malformed command (.notText problem)) := by
  induction before with
  | nil =>
      change (frame :: after).mapM (Reply.text command) = _
      rw [List.mapM_cons, Reply.text, bad]
      rfl
  | cons text before ih =>
      change (Utf8.encode text :: (Frames.ofTexts before ++ frame :: after)).mapM
        (Reply.text command) = _
      rw [List.mapM_cons, Controller.text_encode]
      change (Reply.texts command _ >>= _) = _
      rw [ih]
      rfl

/-! ## Lines -/

open Remote in
/-- The module holds what is on these lines, in their order, as far as they have a
separator. -/
def Holds (lines : List String) (module : Module) : Prop :=
  List.Forall₂ (fun line parameter => parameter.line = line ∧ IsParameterName parameter.name)
    (lines.filter fun line => separator <:+: line.toList) module.parameters

def skipped (module : String) (lines : List String) : Log :=
  (lines.filter fun line => ¬ Remote.separator <:+: line.toList).map fun line =>
    .parameterSkipped module (.malformed "show" (.noSeparator line))

def shownModule (name : String) (lines : List String) : Remote.Module :=
  ⟨name, (readParameters name lines).1⟩

theorem holds_shownModule (name : String) (lines : List String) :
    Holds lines (shownModule name lines) := by
  unfold Holds shownModule
  induction lines with
  | nil => exact .nil
  | cons line rest ih =>
      rw [readParameters]
      cases read : Remote.Parameter.ofLine line with
      | ok parameter =>
          obtain ⟨separated, same⟩ := Remote.Parameter.ofLine_eq_ok read
          rw [List.filter_cons_of_pos (by simpa using separated)]
          exact .cons same ih
      | error fault =>
          obtain ⟨whole, _⟩ := Remote.Parameter.ofLine_eq_error read
          rw [List.filter_cons_of_neg (by simpa using whole)]
          exact ih

theorem readParameters_snd (module : String) (lines : List String) :
    (readParameters module lines).2 = skipped module lines := by
  unfold skipped
  induction lines with
  | nil => rfl
  | cons line rest ih =>
      rw [readParameters]
      cases read : Remote.Parameter.ofLine line with
      | ok parameter =>
          obtain ⟨separated, _⟩ := Remote.Parameter.ofLine_eq_ok read
          rw [List.filter_cons_of_neg (by simpa using separated)]
          exact ih
      | error fault =>
          obtain ⟨whole, rfl⟩ := Remote.Parameter.ofLine_eq_error read
          rw [List.filter_cons_of_pos (by simpa using whole)]
          exact congrArg (_ :: ·) ih

/-! ## One question -/

namespace Scripted

variable {s u : Session Scripted ScriptedLink} {item : Item} {timeout : Nat}

/-- The session after these requests, with this left of the script. -/
def asked (s : Session Scripted ScriptedLink) (requests : List (List String))
    (script : List Item) : Session Scripted ScriptedLink :=
  { s with peer := { s.peer with script, sent := s.peer.sent ++ requests.map Frames.ofTexts } }

def taken : Receiving × ScriptedLink × Scripted → Except Fault (Option Frames)
  | (.frames frames, _, _) => .ok (some frames)
  | (.failed fault, _, _) => .error fault
  | (.nothing, link, peer) => (reset link peer).1.map fun _ => none

theorem run_poll {command : String} {link : ScriptedLink} (usable : u.isUsable = true)
    (pending : u.pending = some command) (hlink : u.link = some link) (timeout : Nat) :
    ∃ t, (poll timeout).run u = (taken (receive timeout link u.peer), t) ∧
      t.peer.sent = u.peer.sent := by
  have same := receive_peer timeout link u.peer
  cases received : receive timeout link u.peer with
  | mk receiving rest =>
    obtain ⟨link', peer⟩ := rest
    obtain rfl : peer = u.peer := by rwa [received] at same
    have receivedOn : u.receiveOn timeout link = _ := receiveOn_eq received
    cases receiving with
    | frames reply => exact ⟨_, run_poll_answered usable pending hlink receivedOn, rfl⟩
    | failed fault => exact ⟨_, run_poll_lost usable pending hlink receivedOn, rfl⟩
    | nothing =>
        refine ⟨_, run_poll_silent usable pending hlink receivedOn rfl rfl, ?_⟩
        change (reset link' u.peer).2.2.sent = u.peer.sent
        unfold reset
        split <;> rfl

theorem send_of_unsent (frames : Frames) (link : ScriptedLink) {peer : Scripted}
    {message : String} (next : peer.next = .sendFailure message) :
    send frames link peer =
      (.failed (.transport message), link, { peer with script := peer.script.tail }) := by
  simp [send, next]

theorem send_of_sendable (frames : Frames) (link : ScriptedLink) {peer : Scripted}
    (sendable : peer.next.isUnsent = false) :
    send frames link peer = (.sent 0, { link with current := some peer.next },
      { peer with script := peer.script.tail, sent := peer.sent ++ [frames] }) := by
  unfold send
  cases next : peer.next with
  | sendFailure message =>
      rw [next] at sendable
      cases sendable
  | _ => rfl

theorem run_execute_unsent {message : String} (h : s.Ready ⟨none, none⟩)
    (next : s.peer.next = .sendFailure message) (frames : Frames) (timeout : Nat) :
    ∃ t, (execute frames timeout).run s = (.error (.transport message), t) ∧
      t.peer.sent = s.peer.sent := by
  have sent : s.sendOn frames none ⟨none, none⟩ = _ :=
    sendOn_eq (send_of_unsent frames ⟨none, none⟩ next)
  exact ⟨_, Session.run_execute_unsent h.isUsable h.idle h.linked timeout (by simp) sent, rfl⟩

theorem run_execute_sent (h : s.Ready ⟨none, none⟩) (sendable : s.peer.next.isUnsent = false)
    (frames : Frames) (timeout : Nat) :
    ∃ peer t, (execute frames timeout).run s =
        (taken (receive timeout ⟨some s.peer.next, none⟩ peer) >>= fun reply =>
          reply.elim (.error (.timeout frames.command (1000 * timeout))) .ok, t) ∧
      t.peer.sent = s.peer.sent ++ [frames] := by
  let u := s.after (.send frames (.sent 0)) (⟨some s.peer.next, none⟩ : ScriptedLink)
    { s.peer with script := s.peer.script.tail, sent := s.peer.sent ++ [frames] }
  have sentOn : s.sendOn frames none ⟨none, none⟩ = (.sent 0, u) :=
    sendOn_eq (send_of_sendable frames ⟨none, none⟩ sendable)
  have usable : u.isUsable = true := h.isUsable
  have pending : u.pending = some frames.command := rfl
  obtain ⟨t, polled, same⟩ := run_poll usable pending rfl timeout
  exact ⟨_, t, Session.run_execute_sent h.isUsable h.idle h.linked sentOn polled, same⟩

def inquire (request : List String) (timeout : Nat) : Act Scripted ScriptedLink (List String) := do
  requireVerified
  let reply ← execute (.ofTexts request) timeout
  Act.ofExcept (Reply.texts (request.headD "") reply)

theorem listModules_eq (timeout : Nat) : listModules timeout = inquire ["list"] timeout := rfl

theorem showParameters_eq (module : String) (timeout : Nat) :
    showParameters module timeout = inquire ["show", module] timeout := rfl

theorem run_inquire (h : s.Ready ⟨none, none⟩) (request : List String) (timeout : Nat) :
    (inquire request timeout).run s =
      (((execute (.ofTexts request) timeout).run s).1 >>= Reply.texts (request.headD ""),
        ((execute (.ofTexts request) timeout).run s).2) := by
  unfold inquire
  rw [Act.run_bind_ok (run_requireVerified h.verified)]
  cases executed : (execute (.ofTexts request) timeout).run s with
  | mk result t =>
      cases result with
      | ok reply => exact Act.run_bind_ok executed
      | error fault => exact Act.run_bind_error executed

theorem command_ofTexts (request : List String) :
    (Frames.ofTexts request).command = request.headD "" := by
  cases request with
  | nil => rfl
  | cons first rest => exact Utf8.lenient_encode first

theorem run_inquire_answered {texts : List String} {rest : List Item}
    (h : s.Ready ⟨none, none⟩) (script : s.peer.script = item :: rest)
    (answers : item.Answers timeout texts) (request : List String) :
    (inquire request timeout).run s = (.ok texts, asked s [request] rest) := by
  obtain ⟨delay, inTime, rfl⟩ := answers
  have upcoming : s.peer.next = .reply delay (.ofTexts texts) := by
    rw [next, script]
    rfl
  have sent : Channel.send (.ofTexts request) none (⟨none, none⟩ : ScriptedLink) s.peer =
      (.sent 0, ⟨some (.reply delay (.ofTexts texts)), none⟩,
        (asked s [request] rest).peer) := by
    change send _ _ _ = _
    rw [send_of_sendable _ _ (by rw [upcoming]; rfl), upcoming, script]
    rfl
  have received : Channel.receive timeout
      (⟨some (.reply delay (.ofTexts texts)), none⟩ : ScriptedLink) (asked s [request] rest).peer =
      (.frames (.ofTexts texts), ⟨none, none⟩, (asked s [request] rest).peer) := by
    change receive _ _ _ = _
    simp [receive, inTime]
  rw [run_inquire h, h.run_execute sent received]
  change (Reply.texts _ (.ofTexts texts), _) = _
  rw [Controller.texts_ofTexts]
  rfl

theorem run_inquire_failed {fault : Fault} {request : List String}
    (h : s.Ready ⟨none, none⟩) (fails : s.peer.next.Fails (request.headD "") timeout fault) :
    ∃ t, (inquire request timeout).run s = (.error fault, t) ∧
      t.peer.sent = s.peer.sent ++
        (if s.peer.next.isUnsent then [] else [Frames.ofTexts request]) := by
  rw [run_inquire h]
  cases unsent : s.peer.next.isUnsent with
  | true =>
      cases next : s.peer.next with
      | sendFailure message =>
          obtain ⟨t, executed, same⟩ := run_execute_unsent h next (.ofTexts request) timeout
          rw [next] at fails
          cases fails
          rw [executed]
          exact ⟨t, rfl, by rw [same]; exact (List.append_nil _).symm⟩
      | _ =>
          rw [next] at unsent
          cases unsent
  | false =>
      obtain ⟨peer, t, executed, same⟩ := run_execute_sent h unsent (.ofTexts request) timeout
      rw [executed, command_ofTexts]
      refine ⟨t, ?_, same⟩
      generalize s.peer.next = item at fails unsent
      cases fails with
      | silent => rfl
      | late late | lateTransport late | lateIo late =>
          simp only [receive, taken, reset, if_neg (Nat.not_le.mpr late)]
          rfl
      | transport inTime | io inTime =>
          simp only [receive, taken, if_pos inTime]
          rfl
      | unsent => cases unsent
      | reset => rfl
      | notText inTime bad =>
          simp only [receive, taken, if_pos inTime]
          change (Reply.texts _ _, t) = _
          rw [texts_notText _ _ _ bad]

/-! ## All modules -/

/-- The requests of a load, by the answers so far: for the names, and for each module. -/
def inquiries (answers : List (List String)) : List (List String) :=
  ["list"] :: (answers.headD []).map (["show", ·])

def warnings (names : List String) (shown : List (List String)) : Log :=
  (names.zip shown).flatMap fun (name, lines) => skipped name lines

theorem ready_asked (h : s.Ready ⟨none, none⟩) (requests : List (List String))
    (script : List Item) (log : Log) :
    ((asked s requests script).noting log).Ready ⟨none, none⟩ :=
  ⟨h.verified, h.idle, h.linked⟩

theorem asked_nil {script : List Item} (h : s.peer.script = script) :
    asked s [] script = s := by
  subst h
  simp [asked]

theorem asked_asked (s : Session Scripted ScriptedLink) (first later : List (List String))
    (script rest : List Item) (log log' : Log) :
    (asked ((asked s first script).noting log) later rest).noting log' =
      (asked s (first ++ later) rest).noting (log ++ log') := by
  simp [asked, noting]

theorem run_loadModule {lines : List String} {rest : List Item} (h : s.Ready ⟨none, none⟩)
    (script : s.peer.script = item :: rest) (answers : item.Answers timeout lines)
    (name : String) :
    (loadModule timeout name).run s =
      (.ok (shownModule name lines),
        (asked s [["show", name]] rest).noting (skipped name lines)) := by
  unfold loadModule
  rw [showParameters_eq, Act.run_bind_ok (run_inquire_answered h script answers _),
    ← readParameters_snd]
  rfl

theorem run_mapM_loadModule {items rest : List Item} {shown : List (List String)}
    (answers : List.Forall₂ (Item.Answers timeout) items shown) {names : List String}
    (length : shown.length = names.length) (h : s.Ready ⟨none, none⟩)
    (script : s.peer.script = items ++ rest) :
    (names.mapM (loadModule timeout)).run s =
      (.ok (List.zipWith shownModule names shown),
        (asked s (names.map (["show", ·])) rest).noting (warnings names shown)) := by
  induction answers generalizing s names with
  | nil =>
      obtain rfl : names = [] := List.length_eq_zero_iff.mp length.symm
      have unasked := asked_nil (s := s) (List.nil_append rest ▸ script)
      rw [List.mapM_nil, List.map_nil, unasked]
      exact congrArg (Prod.mk _) (noting_nil s).symm
  | @cons item lines items shown first _ ih =>
      cases names with
      | nil => cases length
      | cons name names =>
          have loaded := run_loadModule h (script.trans (List.cons_append ..)) first name
          have others := ih (Nat.succ.inj length) (ready_asked h [["show", name]] (items ++ rest)
            (skipped name lines)) rfl
          rw [List.mapM_cons, Act.run_bind_ok loaded, Act.run_bind_ok others, asked_asked]
          rfl

theorem run_mapM_loadModule_failed {items rest : List Item} {shown : List (List String)}
    {fault : Fault} (answers : List.Forall₂ (Item.Answers timeout) items shown)
    {before : List String} (length : shown.length = before.length) (h : s.Ready ⟨none, none⟩)
    (script : s.peer.script = items ++ rest)
    (fails : (rest.headD .silent).Fails "show" timeout fault) (name : String)
    (after : List String) :
    ∃ t, ((before ++ name :: after).mapM (loadModule timeout)).run s = (.error fault, t) ∧
      t.peer.sent = s.peer.sent ++ (before.map (["show", ·]) ++
        if (rest.headD .silent).isUnsent then [] else [["show", name]]).map Frames.ofTexts := by
  have loaded := run_mapM_loadModule answers length h script
  have ready := ready_asked h (before.map (["show", ·])) rest (warnings before shown)
  obtain ⟨t, failed, sent⟩ := @run_inquire_failed _ timeout fault ["show", name] ready fails
  refine ⟨t, ?_, ?_⟩
  · rw [List.mapM_append, Act.run_bind_ok loaded, List.mapM_cons]
    exact Act.run_bind_error (Act.run_bind_error (Act.run_bind_error failed))
  · rw [sent]
    change (s.peer.sent ++ _) ++ (if (rest.headD .silent).isUnsent then _ else _) = _
    cases (rest.headD .silent).isUnsent <;> simp

theorem run_loadModules {items rest : List Item} {names : List String}
    {shown : List (List String)}
    (answers : List.Forall₂ (Item.Answers timeout) items (names :: shown))
    (length : shown.length = names.length) (h : s.Ready ⟨none, none⟩)
    (script : s.peer.script = items ++ rest) :
    (loadModules timeout).run s =
      (.ok (List.zipWith shownModule names shown),
        (asked s (inquiries (names :: shown)) rest).noting (warnings names shown)) := by
  obtain _ | @⟨item, _, items, _, first, others⟩ := answers
  have listed := run_inquire_answered h (script.trans (List.cons_append ..)) first ["list"]
  have loaded := run_mapM_loadModule others length (ready_asked h [["list"]] (items ++ rest) []) rfl
  unfold loadModules
  rw [listModules_eq, Act.run_bind_ok listed, ← noting_nil (asked s [["list"]] (items ++ rest)),
    loaded, asked_asked]
  rfl

theorem run_loadModules_failed {items rest : List Item} {answers : List (List String)}
    {request : List String} {fault : Fault}
    (answered : List.Forall₂ (Item.Answers timeout) items answers) (h : s.Ready ⟨none, none⟩)
    (script : s.peer.script = items ++ rest)
    (inquiry : (inquiries answers)[answers.length]? = some request)
    (fails : (rest.headD .silent).Fails (request.headD "") timeout fault) :
    ∃ t, (loadModules timeout).run s = (.error fault, t) ∧
      t.peer.sent = s.peer.sent ++ ((inquiries answers).take
        (if (rest.headD .silent).isUnsent then answers.length
          else answers.length + 1)).map Frames.ofTexts := by
  obtain _ | @⟨item, names, items, shown, first, others⟩ := answered
  · obtain rfl : ["list"] = request := Option.some.inj inquiry
    obtain rfl : s.peer.script = rest := script
    obtain ⟨t, failed, sent⟩ := run_inquire_failed h fails
    refine ⟨t, Act.run_bind_error failed, ?_⟩
    rw [sent]
    change _ = s.peer.sent ++ List.map _ (List.take (if s.peer.next.isUnsent then _ else _) _)
    cases s.peer.next.isUnsent <;> rfl
  · have asks : (names.map (["show", ·]))[shown.length]? = some request := inquiry
    rw [List.getElem?_map] at asks
    obtain ⟨name, found, rfl⟩ := Option.map_eq_some_iff.mp asks
    obtain ⟨before, after, rfl, length⟩ : ∃ before after,
        names = before ++ name :: after ∧ shown.length = before.length := by
      obtain ⟨bound, rfl⟩ := List.getElem?_eq_some_iff.mp found
      refine ⟨names.take shown.length, names.drop (shown.length + 1), ?_, by simp; omega⟩
      simp
    have listed := run_inquire_answered h (script.trans (List.cons_append ..)) first ["list"]
    obtain ⟨t, failed, sent⟩ := run_mapM_loadModule_failed others length
      (ready_asked h [["list"]] (items ++ rest) []) rfl fails name after
    rw [noting_nil] at failed sent
    refine ⟨t, ?_, ?_⟩
    · unfold loadModules
      rw [listModules_eq, Act.run_bind_ok listed, failed]
    · rw [sent]
      change (s.peer.sent ++ _) ++ _ = _
      rw [List.length_cons, length]
      cases (rest.headD .silent).isUnsent <;> simp [inquiries, List.take_append]

/-- A script answers the questions about these modules, or there is a first one that it
does not answer. -/
theorem answered_or_failed (timeout : Nat) (names : List String) (script : List Item) :
    ∃ items rest shown, script = items ++ rest ∧
      List.Forall₂ (Item.Answers timeout) items shown ∧
      (shown.length = names.length ∨
        shown.length < names.length ∧
          ∃ fault, (rest.headD .silent).Fails "show" timeout fault) := by
  induction names generalizing script with
  | nil => exact ⟨[], script, [], rfl, .nil, .inl rfl⟩
  | cons name names ih =>
      rcases (script.headD .silent).answers_or_fails "show" timeout with ⟨lines, answers⟩ | fails
      · cases script with
        | nil =>
            obtain ⟨_, _, silent⟩ := answers
            cases silent
        | cons item script =>
            obtain ⟨items, rest, shown, rfl, others, ends⟩ := ih script
            refine ⟨item :: items, rest, lines :: shown, rfl, .cons answers others, ?_⟩
            rcases ends with all | ⟨less, fails⟩
            · exact .inl (congrArg (· + 1) all)
            · exact .inr ⟨Nat.succ_lt_succ less, fails⟩
      · exact ⟨[], script, [], rfl, .nil, .inr ⟨Nat.succ_pos _, fails⟩⟩

open Operation

/-- What a load comes to, by what the script has for its questions. -/
structure Loads (timeout : Nat) (s : Session Scripted ScriptedLink) : Prop where
  complete (names : List String) (shown : List (List String)) (items rest : List Item) :
    s.peer.script = items ++ rest →
    List.Forall₂ (Item.Answers timeout) items (names :: shown) →
    shown.length = names.length →
    ∃ modules, step (.loadModules timeout) s =
        (.ok (.modules modules),
          (asked s (inquiries (names :: shown)) rest).noting (warnings names shown)) ∧
      modules.map (·.name) = names ∧ List.Forall₂ Holds shown modules ∧
      ∀ notice ∈ warnings names shown, notice.severity = .warning
  aborted (answers : List (List String)) (items rest : List Item) (request : List String)
      (fault : Fault) :
    s.peer.script = items ++ rest → List.Forall₂ (Item.Answers timeout) items answers →
    (inquiries answers)[answers.length]? = some request →
    (rest.headD .silent).Fails (request.headD "") timeout fault →
    (step (.loadModules timeout) s).1 = .error fault ∧
      (step (.loadModules timeout) s).2.peer.sent = s.peer.sent ++
        ((inquiries answers).take (if (rest.headD .silent).isUnsent then answers.length
          else answers.length + 1)).map Frames.ofTexts
  /-- There are no other scripts. -/
  covered : ∃ items rest answers, s.peer.script = items ++ rest ∧
    List.Forall₂ (Item.Answers timeout) items answers ∧
    ((∃ names shown, answers = names :: shown ∧ shown.length = names.length) ∨
      ∃ request fault, (inquiries answers)[answers.length]? = some request ∧
        (rest.headD .silent).Fails (request.headD "") timeout fault)

theorem map_name_shown {names : List String} {shown : List (List String)}
    (length : shown.length = names.length) :
    (List.zipWith shownModule names shown).map (·.name) = names := by
  induction names generalizing shown with
  | nil => rfl
  | cons name names ih =>
      cases shown with
      | nil => cases length
      | cons lines shown => exact congrArg (name :: ·) (ih (Nat.succ.inj length))

theorem forall₂_holds {names : List String} {shown : List (List String)}
    (length : shown.length = names.length) :
    List.Forall₂ Holds shown (List.zipWith shownModule names shown) := by
  induction shown generalizing names with
  | nil =>
      rw [List.zipWith_nil_right]
      exact .nil
  | cons lines shown ih =>
      cases names with
      | nil => cases length
      | cons name names =>
          exact .cons (holds_shownModule name lines) (ih (Nat.succ.inj length))

theorem severity_of_mem_warnings {names : List String} {shown : List (List String)}
    {notice : Notice} (h : notice ∈ warnings names shown) : notice.severity = .warning := by
  obtain ⟨_, _, member⟩ := List.mem_flatMap.mp h
  obtain ⟨line, _, rfl⟩ := List.mem_map.mp member
  rfl

theorem step_loadModules (timeout : Nat) (s : Session Scripted ScriptedLink) :
    step (.loadModules timeout) s =
      (((Session.loadModules timeout).run s).1.map .modules,
        ((Session.loadModules timeout).run s).2) :=
  Act.run_bind_pure _ _ s

theorem loads_of_ready (h : s.Ready ⟨none, none⟩) (timeout : Nat) : Loads timeout s where
  complete names shown items rest script answers length := by
    refine ⟨List.zipWith shownModule names shown, ?_, map_name_shown length,
      forall₂_holds length, fun _ => severity_of_mem_warnings⟩
    rw [step_loadModules, run_loadModules answers length h script]
    rfl
  aborted answers items rest request fault script answered inquiry fails := by
    obtain ⟨t, failed, sent⟩ := run_loadModules_failed answered h script inquiry fails
    rw [step_loadModules, failed]
    exact ⟨rfl, sent⟩
  covered := by
    rcases s.peer.next.answers_or_fails "list" timeout with ⟨names, answers⟩ | ⟨fault, fails⟩
    · cases hscript : s.peer.script with
      | nil =>
          obtain ⟨_, _, silent⟩ := answers
          rw [next, hscript] at silent
          cases silent
      | cons item script =>
          rw [next, hscript] at answers
          obtain ⟨items, rest, shown, rfl, others, ends⟩ := answered_or_failed timeout names script
          refine ⟨item :: items, rest, names :: shown, rfl, .cons answers others, ?_⟩
          rcases ends with all | ⟨less, fault, fails⟩
          · exact .inl ⟨names, shown, rfl, all⟩
          · exact .inr ⟨["show", names[shown.length]], fault, by simp [inquiries, less], fails⟩
    · exact ⟨[], s.peer.script, [], rfl, .nil, .inr ⟨["list"], fault, rfl, fails⟩⟩

/-- Modules are asked for in the order in which the peer lists them, and each one holds the
parameters on its own lines.  Lines that are none leave a warning each.  The load goes on as
long as its questions are answered, and the first one that is not is the last. -/
theorem modules_loaded_in_order (endpoint : Endpoint) (script : List Item)
    (before : List Operation) (timeout : Nat)
    (verified : (run before (session endpoint script)).2.state = .verified)
    (idle : (run before (session endpoint script)).2.pending = none) :
    Loads timeout (run before (session endpoint script)).2 := by
  have usable := isUsable_iff.mpr (.inr verified)
  exact loads_of_ready ⟨verified, idle, (clean_run endpoint script before).idle usable idle⟩ timeout

/-- A module that is listed twice is shown twice, and a line that is none is left out. -/
theorem repeated_module_loaded_twice :
    let endpoint : Endpoint := .remoteControl "127.0.0.1"
    let script : List Item := [.reply 0 (.ofTexts ["ok"]), .reply 0 (.ofTexts ["a", "a"]),
      .reply 5 (.ofTexts ["gain: 1", "?"]), .reply 0 (.ofTexts ["gain: 2"])]
    let s := (run [.ping 5] (session endpoint script)).2
    ∃ modules, (step (.loadModules 5) s).1 = .ok (.modules modules) ∧
      modules.map (·.name) = ["a", "a"] ∧
      List.Forall₂ Holds [["gain: 1", "?"], ["gain: 2"]] modules ∧
      (step (.loadModules 5) s).2.log =
        [.parameterSkipped "a" (.malformed "show" (.noSeparator "?"))] := by
  intro endpoint script s
  obtain ⟨modules, loaded, named, holds, _⟩ :=
    (modules_loaded_in_order endpoint script [.ping 5] 5 rfl rfl).complete ["a", "a"]
      [["gain: 1", "?"], ["gain: 2"]] script.tail [] rfl
      (.cons ⟨0, by decide, rfl⟩ (.cons ⟨5, by decide, rfl⟩ (.cons ⟨0, by decide, rfl⟩ .nil))) rfl
  refine ⟨modules, by rw [loaded], named, holds, ?_⟩
  rw [loaded]
  rfl

end Scripted

end MuxConsole.Peer
