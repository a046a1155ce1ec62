import MuxConsole.Session.Operation

/-!
# Carrying out an operation

An operation takes a session to a result and the session after it.  Every use
that it makes of the channel changes the session in one way, `Session.after`.
There is one equation for each way in which a part of an operation can go, so
that later proofs need not open the definitions.
-/

namespace MuxConsole

variable {ω σ α β : Type}

/-! ## Composition -/

namespace Act

@[simp] theorem run_pure (a : α) (s : Session ω σ) :
    (pure a : Act ω σ α).run s = (.ok a, s) := rfl

@[simp] theorem run_throw (fault : Fault) (s : Session ω σ) :
    (throw fault : Act ω σ α).run s = (.error fault, s) := rfl

@[simp] theorem run_ofExcept (result : Except Fault α) (s : Session ω σ) :
    (Act.ofExcept result : Act ω σ α).run s = (result, s) := rfl

@[simp] theorem run_modify (change : Session ω σ → Session ω σ) (s : Session ω σ) :
    (modify change : Act ω σ PUnit).run s = (.ok (), change s) := rfl

@[simp] theorem run_get_bind (next : Session ω σ → Act ω σ α) (s : Session ω σ) :
    ((get : Act ω σ (Session ω σ)) >>= next).run s = (next s).run s := rfl

@[simp] theorem run_modify_bind (change : Session ω σ → Session ω σ)
    (next : PUnit → Act ω σ α) (s : Session ω σ) :
    ((modify change : Act ω σ PUnit) >>= next).run s = (next ()).run (change s) := rfl

theorem run_bind_ok {act : Act ω σ α} {next : α → Act ω σ β} {s t : Session ω σ} {a : α}
    (h : act.run s = (.ok a, t)) : (act >>= next).run s = (next a).run t := by
  change act s = (.ok a, t) at h
  change (act >>= next) s = next a t
  simp only [bind, ExceptT.bind, ExceptT.mk, StateT.bind, h, ExceptT.bindCont]

theorem run_bind_error {act : Act ω σ α} {next : α → Act ω σ β} {s t : Session ω σ}
    {fault : Fault} (h : act.run s = (.error fault, t)) :
    (act >>= next).run s = (.error fault, t) := by
  change act s = (.error fault, t) at h
  change (act >>= next) s = (.error fault, t)
  simp only [bind, ExceptT.bind, ExceptT.mk, StateT.bind, h, ExceptT.bindCont]
  rfl

/-- What holds of every way for the first part to go on, or not to, holds of both
parts together. -/
theorem bind_induction {act : Act ω σ α} {next : α → Act ω σ β} {s : Session ω σ}
    {P : Except Fault β × Session ω σ → Prop}
    (ok : ∀ a t, act.run s = (.ok a, t) → P ((next a).run t))
    (error : ∀ fault t, act.run s = (.error fault, t) → P (.error fault, t)) :
    P ((act >>= next).run s) := by
  cases hact : act.run s with
  | mk result t =>
      cases result with
      | ok a =>
          rw [run_bind_ok hact]
          exact ok a t hact
      | error fault =>
          rw [run_bind_error hact]
          exact error fault t hact

theorem run_tryCatch_ok {act : Act ω σ α} {handle : Fault → Act ω σ α} {s t : Session ω σ}
    {a : α} (h : act.run s = (.ok a, t)) : (tryCatch act handle).run s = (.ok a, t) := by
  change act s = (.ok a, t) at h
  change ExceptT.tryCatch act handle s = (.ok a, t)
  simp only [ExceptT.tryCatch, ExceptT.mk, bind, StateT.bind, h]
  rfl

theorem run_tryCatch_error {act : Act ω σ α} {handle : Fault → Act ω σ α}
    {s t : Session ω σ} {fault : Fault} (h : act.run s = (.error fault, t)) :
    (tryCatch act handle).run s = (handle fault).run t := by
  change act s = (.error fault, t) at h
  change ExceptT.tryCatch act handle s = handle fault t
  simp only [ExceptT.tryCatch, ExceptT.mk, bind, StateT.bind, h]

theorem run_discard (act : Act ω σ α) (s : Session ω σ) :
    (discard act).run s = ((act.run s).1.map fun _ => (), (act.run s).2) := by
  cases h : act.run s with
  | mk result t =>
      change act s = (result, t) at h
      change ExceptT.map _ act s = _
      simp only [ExceptT.map, ExceptT.mk, bind, StateT.bind, h]
      cases result <;> rfl

theorem exists_of_bind_ok {act : Act ω σ α} {next : α → Act ω σ β} {s u : Session ω σ}
    {b : β} (h : (act >>= next).run s = (.ok b, u)) :
    ∃ a t, act.run s = (.ok a, t) ∧ (next a).run t = (.ok b, u) := by
  cases hact : act.run s with
  | mk result t =>
      cases result with
      | ok a => exact ⟨a, t, rfl, by rwa [run_bind_ok hact] at h⟩
      | error fault =>
          rw [run_bind_error hact] at h
          cases h

theorem run_bind_pure (act : Act ω σ α) (f : α → β) (s : Session ω σ) :
    (act >>= fun a => pure (f a)).run s = ((act.run s).1.map f, (act.run s).2) := by
  cases hact : act.run s with
  | mk result t =>
      cases result with
      | ok a => rw [run_bind_ok hact]; rfl
      | error fault => rw [run_bind_error hact]; rfl

end Act

/-! ## Uses of the channel -/

inductive Use where
  | send (request : Frames) (sending : Sending)
  | receive (receiving : Receiving)
  | reset (result : Except Fault Unit)

namespace Use

def fails : Use → Bool
  | .send _ (.failed _) | .receive (.failed _) | .reset (.error _) => true
  | _ => false

def pendingAfter (pending : Option String) : Use → Option String
  | .send request (.sent _) => some request.command
  | .send _ _ | .receive .nothing => pending
  | .receive _ | .reset _ => none

end Use

namespace Session

def after (s : Session ω σ) (use : Use) (link : σ) (peer : ω) : Session ω σ :=
  { s with
    link := some link
    state := if use.fails then .broken else s.state
    pending := use.pendingAfter s.pending
    peer }

def noting (s : Session ω σ) (log : Log) : Session ω σ := { s with log := s.log ++ log }

@[simp] theorem noting_nil (s : Session ω σ) : s.noting [] = s := by
  simp [noting]

theorem isUsable_iff {s : Session ω σ} :
    s.isUsable = true ↔ s.state = .opened ∨ s.state = .verified := by
  unfold isUsable
  cases s.state <;> simp [SessionState.obstacle?]

theorem obstacle_of_isUsable {s : Session ω σ} (usable : s.isUsable = true) :
    s.state.obstacle? = none := by
  simpa [isUsable] using usable

theorem exists_obstacle {s : Session ω σ} (dead : ¬ s.isUsable = true) :
    ∃ reason, s.state.obstacle? = some reason := by
  cases h : s.state.obstacle? with
  | none => simp [isUsable, h] at dead
  | some reason => exact ⟨reason, rfl⟩

/-! ## Conditions -/

theorem run_ensureUsable {s : Session ω σ} (usable : s.isUsable = true) :
    (ensureUsable : Act ω σ Unit).run s = (.ok (), s) := by
  simp [ensureUsable, obstacle_of_isUsable usable]

theorem run_ensureUsable_dead {s : Session ω σ} {reason : String}
    (dead : s.state.obstacle? = some reason) :
    (ensureUsable : Act ω σ Unit).run s = (.error (.unusable reason), s) := by
  simp [ensureUsable, dead]

theorem run_requireVerified {s : Session ω σ} (verified : s.state = .verified) :
    (requireVerified : Act ω σ Unit).run s = (.ok (), s) := by
  have usable : s.isUsable = true := isUsable_iff.mpr (.inr verified)
  unfold requireVerified
  rw [Act.run_bind_ok (run_ensureUsable usable)]
  simp [verified]

theorem run_requireVerified_error {s : Session ω σ} (unverified : s.state ≠ .verified) :
    ∃ fault, (requireVerified : Act ω σ Unit).run s = (.error fault, s) ∧
      (fault = .notVerified ∨ ∃ reason, fault = .unusable reason) := by
  unfold requireVerified
  by_cases usable : s.isUsable = true
  · refine ⟨.notVerified, ?_, .inl rfl⟩
    rw [Act.run_bind_ok (run_ensureUsable usable)]
    simp [unverified]
  · obtain ⟨reason, hreason⟩ := exists_obstacle usable
    refine ⟨.unusable reason, ?_, .inr ⟨reason, rfl⟩⟩
    exact Act.run_bind_error (run_ensureUsable_dead hreason)

theorem run_takeLink {s : Session ω σ} {link : σ} (hlink : s.link = some link) :
    (takeLink : Act ω σ σ).run s = (.ok link, s) := by
  simp [takeLink, hlink]

theorem run_takeLink_none {s : Session ω σ} (hlink : s.link = none) :
    (takeLink : Act ω σ σ).run s = (.error (.unusable "session closed"), s) := by
  simp [takeLink, hlink]

/-! ## Sending and receiving -/

end Session

def Sending.toExcept : Sending → Except Fault (Option Nat)
  | .sent took => .ok (some took)
  | .dropped => .ok none
  | .failed fault => .error fault

def Receiving.toExcept : Receiving → Except Fault (Option Frames)
  | .frames reply => .ok (some reply)
  | .nothing => .ok none
  | .failed fault => .error fault

def Receiving.notices (command : String) : Receiving → Log
  | .failed fault => [.transportFailed command fault]
  | .frames _ | .nothing => []

namespace Session

variable [Channel ω σ]

def sendOn (s : Session ω σ) (frames : Frames) (limit : Option Nat) (link : σ) :
    Sending × Session ω σ :=
  let (sending, link, peer) := Channel.send frames limit link s.peer
  (sending, s.after (.send frames sending) link peer)

def receiveOn (s : Session ω σ) (limit : Nat) (link : σ) : Receiving × Session ω σ :=
  let (receiving, link, peer) := Channel.receive limit link s.peer
  (receiving, s.after (.receive receiving) link peer)

def resetOn (s : Session ω σ) (link : σ) : Except Fault Unit × Session ω σ :=
  let (result, link, peer) := Channel.reset link s.peer
  (result, s.after (.reset result) link peer)

variable {s : Session ω σ} {link : σ} {command reason : String}

theorem sendOn_eq {frames : Frames} {limit : Option Nat} {sending : Sending} {link' : σ}
    {peer : ω} (h : Channel.send frames limit link s.peer = (sending, link', peer)) :
    s.sendOn frames limit link = (sending, s.after (.send frames sending) link' peer) := by
  rw [sendOn, h]

theorem receiveOn_eq {limit : Nat} {receiving : Receiving} {link' : σ} {peer : ω}
    (h : Channel.receive limit link s.peer = (receiving, link', peer)) :
    s.receiveOn limit link = (receiving, s.after (.receive receiving) link' peer) := by
  rw [receiveOn, h]

theorem run_sendWithin_dead (dead : s.state.obstacle? = some reason) (frames : Frames)
    (limit : Option Nat) :
    (sendWithin frames limit).run s = (.error (.unusable reason), s) := by
  unfold sendWithin
  exact Act.run_bind_error (run_ensureUsable_dead dead)

theorem run_sendWithin_pending (usable : s.isUsable = true) (pending : s.pending ≠ none)
    (frames : Frames) (limit : Option Nat) :
    (sendWithin frames limit).run s = (.error .transactionPending, s) := by
  unfold sendWithin
  rw [Act.run_bind_ok (run_ensureUsable usable)]
  simp [Option.isSome_iff_ne_none, pending]

theorem run_sendWithin_unlinked (usable : s.isUsable = true) (idle : s.pending = none)
    (unlinked : s.link = none) (frames : Frames) (limit : Option Nat) :
    (sendWithin frames limit).run s = (.error (.unusable "session closed"), s) := by
  unfold sendWithin
  rw [Act.run_bind_ok (run_ensureUsable usable)]
  simp [idle, Act.run_bind_error (run_takeLink_none unlinked)]

theorem run_sendWithin (usable : s.isUsable = true) (idle : s.pending = none)
    (hlink : s.link = some link) (frames : Frames) (limit : Option Nat) :
    (sendWithin frames limit).run s =
      ((s.sendOn frames limit link).1.toExcept, (s.sendOn frames limit link).2) := by
  unfold sendWithin sendOn
  rw [Act.run_bind_ok (run_ensureUsable usable)]
  simp only [Act.run_get_bind, idle, Option.isSome_none, Bool.false_eq_true, if_false]
  rw [Act.run_bind_ok (run_takeLink hlink)]
  simp only [Act.run_get_bind, putLink, Act.run_modify_bind]
  cases (Channel.send frames limit link s.peer).1 with
  | sent took => rfl
  | failed fault => rfl
  | dropped =>
      simp [after, Use.fails, Use.pendingAfter, idle, Sending.toExcept]

theorem run_receiveWithin_dead (dead : s.state.obstacle? = some reason) (limit : Nat) :
    (receiveWithin limit).run s = (.error (.unusable reason), s) := by
  unfold receiveWithin
  exact Act.run_bind_error (run_ensureUsable_dead dead)

theorem run_receiveWithin_idle (usable : s.isUsable = true) (idle : s.pending = none)
    (limit : Nat) : (receiveWithin limit).run s = (.error .nothingPending, s) := by
  unfold receiveWithin
  rw [Act.run_bind_ok (run_ensureUsable usable)]
  simp [idle]

theorem run_receiveWithin_unlinked (usable : s.isUsable = true)
    (pending : s.pending = some command) (unlinked : s.link = none) (limit : Nat) :
    (receiveWithin limit).run s = (.error (.unusable "session closed"), s) := by
  unfold receiveWithin
  rw [Act.run_bind_ok (run_ensureUsable usable)]
  simp [pending, Act.run_bind_error (run_takeLink_none unlinked)]

theorem run_receiveWithin (usable : s.isUsable = true) (pending : s.pending = some command)
    (hlink : s.link = some link) (limit : Nat) :
    (receiveWithin limit).run s =
      ((s.receiveOn limit link).1.toExcept,
        (s.receiveOn limit link).2.noting ((s.receiveOn limit link).1.notices command)) := by
  unfold receiveWithin receiveOn
  rw [Act.run_bind_ok (run_ensureUsable usable)]
  simp only [Act.run_get_bind, pending]
  rw [Act.run_bind_ok (Act.run_pure _ _), Act.run_bind_ok (run_takeLink hlink)]
  simp only [Act.run_get_bind, putLink, Act.run_modify_bind]
  cases (Channel.receive limit link s.peer).1 with
  | frames reply =>
      rw [Receiving.notices, noting_nil]
      rfl
  | failed fault => rfl
  | nothing =>
      simp [after, Use.fails, Use.pendingAfter, Receiving.toExcept, Receiving.notices]

theorem run_giveUp (pending : s.pending = some command) (hlink : s.link = some link)
    (timeout : Nat) :
    (giveUp timeout).run s =
      ((s.resetOn link).1,
        (s.resetOn link).2.noting [.noReply command s.endpoint timeout]) := by
  unfold giveUp resetOn note
  simp only [Act.run_get_bind, Act.run_modify_bind, pending, Option.getD_some]
  rw [Act.run_bind_ok (run_takeLink (s := { s with pending := none, log := _ }) hlink)]
  simp only [putLink, Act.run_modify_bind]
  cases (Channel.reset link s.peer).1 with
  | ok => rfl
  | error fault => rfl

/-! ## Success -/

theorem receiveWithin_ok {limit : Nat} {result : Option Frames} {t : Session ω σ}
    (h : (receiveWithin limit).run s = (.ok result, t)) :
    ∃ command link, s.isUsable = true ∧ s.pending = some command ∧ s.link = some link ∧
      s.receiveOn limit link = (result.elim .nothing .frames, t) := by
  by_cases usable : s.isUsable = true
  · cases pending : s.pending with
    | none =>
        rw [run_receiveWithin_idle usable pending] at h
        cases h
    | some command =>
        cases hlink : s.link with
        | none =>
            rw [run_receiveWithin_unlinked usable pending hlink] at h
            cases h
        | some link =>
            refine ⟨command, link, usable, rfl, rfl, ?_⟩
            rw [run_receiveWithin usable pending hlink] at h
            cases hreceive : s.receiveOn limit link with
            | mk receiving u =>
                rw [hreceive] at h
                cases receiving with
                | failed fault => cases h
                | frames reply =>
                    cases h
                    rw [Receiving.notices, noting_nil]
                    rfl
                | nothing =>
                    cases h
                    rw [Receiving.notices, noting_nil]
                    rfl
  · obtain ⟨reason, dead⟩ := exists_obstacle usable
    rw [run_receiveWithin_dead dead] at h
    cases h

theorem receiveWithin_ok_none {limit : Nat} {t : Session ω σ}
    (h : (receiveWithin limit).run s = (.ok none, t)) :
    ∃ command link, t.isUsable = true ∧ t.pending = some command ∧ t.link = some link := by
  obtain ⟨command, link, usable, pending, _, hreceive⟩ := receiveWithin_ok h
  simp only [receiveOn, Prod.mk.injEq, Option.elim_none] at hreceive
  obtain ⟨hnothing, rfl⟩ := hreceive
  refine ⟨command, (Channel.receive limit link s.peer).2.1, ?_, ?_, rfl⟩
  · simpa [isUsable, after, hnothing, Use.fails] using usable
  · simpa [after, hnothing, Use.pendingAfter] using pending

theorem poll_ok_some {timeout : Nat} {reply : Frames} {t : Session ω σ}
    (h : (poll timeout).run s = (.ok (some reply), t)) :
    (receiveWithin timeout).run s = (.ok (some reply), t) := by
  obtain ⟨result, u, hreceive, hrest⟩ := Act.exists_of_bind_ok h
  cases result with
  | some reply =>
      cases hrest
      exact hreceive
  | none =>
      obtain ⟨_, _, _, hnone⟩ := Act.exists_of_bind_ok hrest
      cases hnone

theorem execute_ok {frames reply : Frames} {timeout : Nat} {t : Session ω σ}
    (h : (execute frames timeout).run s = (.ok reply, t)) :
    ∃ took u, (sendWithin frames none).run s = (.ok took, u) ∧
      (receiveWithin timeout).run u = (.ok (some reply), t) := by
  obtain ⟨_, u, hsend, hrest⟩ := Act.exists_of_bind_ok h
  obtain ⟨result, _, hpoll, hresult⟩ := Act.exists_of_bind_ok hrest
  cases result with
  | none => cases hresult
  | some reply =>
      cases hresult
      rw [send, Act.run_discard] at hsend
      cases hwithin : (sendWithin frames none).run s with
      | mk result w =>
          rw [hwithin] at hsend
          cases result with
          | error fault => cases hsend
          | ok took =>
              cases hsend
              exact ⟨took, w, rfl, poll_ok_some hpoll⟩

theorem run_execute {frames reply : Frames} {timeout took : Nat} {link' link'' : σ}
    {peer peer' : ω} (usable : s.isUsable = true) (idle : s.pending = none)
    (hlink : s.link = some link)
    (hsend : Channel.send frames none link s.peer = (.sent took, link', peer))
    (hreceive : Channel.receive timeout link' peer = (.frames reply, link'', peer')) :
    (execute frames timeout).run s =
      (.ok reply, { s with link := some link'', pending := none, peer := peer' }) := by
  let u : Session ω σ := s.after (.send frames (.sent took)) link' peer
  have sent : (send frames).run s = (.ok (), u) := by
    rw [send, Act.run_discard, run_sendWithin usable idle hlink, sendOn_eq hsend]
    rfl
  have received : (receiveWithin timeout).run u =
      (.ok (some reply), u.after (.receive (.frames reply)) link'' peer') := by
    have usable' : u.isUsable = true := usable
    have pending : u.pending = some frames.command := rfl
    have receivedOn : u.receiveOn timeout link' = _ := receiveOn_eq hreceive
    rw [run_receiveWithin usable' pending rfl, receivedOn, Receiving.notices, noting_nil]
    rfl
  have polled : (poll timeout).run u =
      (.ok (some reply), u.after (.receive (.frames reply)) link'' peer') := by
    unfold poll
    rw [Act.run_bind_ok received]
    rfl
  unfold execute
  rw [Act.run_bind_ok sent, Act.run_bind_ok polled]
  rfl

theorem isUsable_receiveOn {limit : Nat} {reply : Frames} {t : Session ω σ}
    (usable : s.isUsable = true) (h : s.receiveOn limit link = (.frames reply, t)) :
    t.isUsable = true := by
  simp only [receiveOn, Prod.mk.injEq] at h
  obtain ⟨hreply, rfl⟩ := h
  simpa [isUsable, after, hreply, Use.fails] using usable

theorem isUsable_of_execute_ok {frames reply : Frames} {timeout : Nat} {t : Session ω σ}
    (h : (execute frames timeout).run s = (.ok reply, t)) : t.isUsable = true := by
  obtain ⟨_, u, _, hreceive⟩ := execute_ok h
  obtain ⟨_, _, usable, _, _, hreceive⟩ := receiveWithin_ok hreceive
  exact isUsable_receiveOn usable hreceive

theorem queryIdentity_ok {timeout : Nat} {identity : Identity} {t : Session ω σ}
    (h : (queryIdentity timeout).run s = (.ok identity, t)) :
    ∃ first rest, (execute (.ofTexts ["info"]) timeout).run s = (.ok (first :: rest), t) ∧
      Reply.record Identity.schema "info" first = .ok identity := by
  obtain ⟨reply, u, hexecute, hrest⟩ := Act.exists_of_bind_ok h
  cases reply with
  | nil => cases hrest
  | cons first rest =>
      obtain ⟨hrecord, rfl⟩ := Prod.mk.inj hrest
      exact ⟨first, rest, hexecute, hrecord⟩

theorem isUsable_of_queryIdentity_ok {timeout : Nat} {identity : Identity}
    {t : Session ω σ} (h : (queryIdentity timeout).run s = (.ok identity, t)) :
    t.isUsable = true := by
  obtain ⟨_, _, hexecute, _⟩ := queryIdentity_ok h
  exact isUsable_of_execute_ok hexecute

end Session

end MuxConsole
