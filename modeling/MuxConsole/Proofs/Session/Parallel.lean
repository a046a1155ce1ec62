import MuxConsole.Proofs.Session.Dialogue

/-!
# Two sessions side by side

Carried out on two sessions, an operation does the same on both as long as the
two agree on what it looks at and their channels answer alike.  The sessions may
have channels of different kinds.  With a session beside itself, this says what
an operation preserves; with a session beside an observed copy of it, it says
that observation changes nothing.
-/

namespace MuxConsole

variable {ω σ ω' σ' α β : Type}

namespace Session

def verifiedAs (identity : Option Identity) (s : Session ω σ) : Session ω σ :=
  { s with state := .verified, identity := identity.or s.identity }

@[simp] theorem verifiedAs_peer (identity : Option Identity) (s : Session ω σ) :
    (s.verifiedAs identity).peer = s.peer := rfl

def rejected (s : Session ω σ) : Session ω σ := { s with state := .rejected }

def closed (s : Session ω σ) : Session ω σ :=
  { s with link := none, pending := none, state := .closed }

theorem run_markVerified {s : Session ω σ} (usable : s.isUsable = true)
    (identity : Option Identity) :
    (markVerified identity).run s = (.ok (), s.verifiedAs identity) := by
  simp [markVerified, verifiedAs, usable]

/-- Two sessions agree on all that an operation looks at. -/
structure Agree (s : Session ω σ) (t : Session ω' σ') : Prop where
  endpoint : s.endpoint = t.endpoint
  state : s.state = t.state
  pending : s.pending = t.pending
  identity : s.identity = t.identity
  linked : s.link.isSome = t.link.isSome

theorem Agree.isUsable {s : Session ω σ} {t : Session ω' σ'} (agree : Agree s t) :
    s.isUsable = t.isUsable := by
  simp [Session.isUsable, agree.state]

variable [Channel ω σ] [Channel ω' σ']

/-- A relation that transactions keep: every use of the channel has the same
outcome on both sides and leads to related sessions again. -/
structure Parallel (R : Session ω σ → Session ω' σ' → Prop) : Prop where
  agree {s t} : R s t → Agree s t
  noting {s t} : R s t → ∀ log, R (s.noting log) (t.noting log)
  sendOn {s t link link'} : R s t → s.isUsable = true → s.pending = none →
    s.link = some link → t.link = some link' → ∀ frames limit,
    (s.sendOn frames limit link).1 = (t.sendOn frames limit link').1 ∧
      R (s.sendOn frames limit link).2 (t.sendOn frames limit link').2
  receiveOn {s t link link'} : R s t → s.isUsable = true → s.pending ≠ none →
    s.link = some link → t.link = some link' → ∀ limit,
    (s.receiveOn limit link).1 = (t.receiveOn limit link').1 ∧
      R (s.receiveOn limit link).2 (t.receiveOn limit link').2
  resetOn {s t link link'} : R s t → s.isUsable = true → s.pending ≠ none →
    s.link = some link → t.link = some link' →
    (s.resetOn link).1 = (t.resetOn link').1 ∧ R (s.resetOn link).2 (t.resetOn link').2

/-- A relation that every operation keeps, those included that decide what
becomes of the session. -/
structure Lockstep (R : Session ω σ → Session ω' σ' → Prop) : Prop extends Parallel R where
  verified {s t} : R s t → s.isUsable = true → ∀ identity,
    R (s.verifiedAs identity) (t.verifiedAs identity)
  rejected {s t} : R s t → R s.rejected t.rejected
  closed {s t} : R s t → R s.closed t.closed

end Session

namespace Act

def Same (R : Session ω σ → Session ω' σ' → Prop) (act : Act ω σ α) (act' : Act ω' σ' α)
    (s : Session ω σ) (t : Session ω' σ') : Prop :=
  (act.run s).1 = (act'.run t).1 ∧ R (act.run s).2 (act'.run t).2

def Related (R : Session ω σ → Session ω' σ' → Prop) (act : Act ω σ α)
    (act' : Act ω' σ' α) : Prop :=
  ∀ s t, R s t → Same R act act' s t

variable {R : Session ω σ → Session ω' σ' → Prop}

theorem Same.bind {act : Act ω σ α} {act' : Act ω' σ' α} {next : α → Act ω σ β}
    {next' : α → Act ω' σ' β} {s : Session ω σ} {t : Session ω' σ'}
    (first : Same R act act' s t)
    (second : ∀ a u u', act.run s = (.ok a, u) → R u u' → Same R (next a) (next' a) u u') :
    Same R (act >>= next) (act' >>= next') s t := by
  obtain ⟨same, after⟩ := first
  cases hact : act.run s with
  | mk result u =>
      cases hact' : act'.run t with
      | mk result' u' =>
          simp only [hact, hact'] at same after
          subst same
          cases result with
          | ok a =>
              rw [Same, run_bind_ok hact, run_bind_ok hact']
              exact second a u u' hact after
          | error fault =>
              rw [Same, run_bind_error hact, run_bind_error hact']
              exact ⟨rfl, after⟩

namespace Related

theorem pure (a : α) : Related R (Pure.pure a) (Pure.pure a) :=
  fun _ _ h => ⟨rfl, h⟩

theorem throw (fault : Fault) :
    Related R (MonadExcept.throw fault : Act ω σ α) (MonadExcept.throw fault) :=
  fun _ _ h => ⟨rfl, h⟩

theorem ofExcept (result : Except Fault α) :
    Related R (Act.ofExcept result) (Act.ofExcept result) :=
  fun _ _ h => ⟨rfl, h⟩

theorem bind {act : Act ω σ α} {act' : Act ω' σ' α} {next : α → Act ω σ β}
    {next' : α → Act ω' σ' β} (first : Related R act act')
    (second : ∀ a, Related R (next a) (next' a)) :
    Related R (act >>= next) (act' >>= next') :=
  fun s t h => (first s t h).bind fun a u u' _ after => second a u u' after

theorem get {next : Session ω σ → Act ω σ α} {next' : Session ω' σ' → Act ω' σ' α}
    (h : ∀ {s t}, R s t → Related R (next s) (next' t)) :
    Related R (MonadState.get >>= next) (MonadState.get >>= next') := by
  intro s t related
  exact h related s t related

end Related

end Act

namespace Session

variable [Channel ω σ] [Channel ω' σ'] {R : Session ω σ → Session ω' σ' → Prop}

namespace Parallel

open Act

theorem note (h : Parallel R) (notice : Notice) :
    Related R (Session.note notice) (Session.note notice) :=
  fun _ _ related => ⟨rfl, h.noting related [notice]⟩

theorem noteAll (h : Parallel R) (log : Log) :
    Related R (Session.noteAll log) (Session.noteAll log) :=
  fun _ _ related => ⟨rfl, h.noting related log⟩

theorem ensureUsable (h : Parallel R) :
    Related R (Session.ensureUsable : Act ω σ Unit) Session.ensureUsable := by
  refine .get fun related => ?_
  rw [(h.agree related).state]
  cases SessionState.obstacle? _ with
  | none => exact .pure ()
  | some reason => exact .throw _

theorem requireVerified (h : Parallel R) :
    Related R (Session.requireVerified : Act ω σ Unit) Session.requireVerified := by
  refine h.ensureUsable.bind fun _ => .get fun related => ?_
  rw [(h.agree related).state]
  split
  · exact .pure ()
  · exact .throw _

theorem links (h : Parallel R) {s : Session ω σ} {t : Session ω' σ'} (related : R s t) :
    (s.link = none ∧ t.link = none) ∨
      ∃ link link', s.link = some link ∧ t.link = some link' := by
  have linked := (h.agree related).linked
  cases hs : s.link with
  | none => exact .inl ⟨rfl, by simpa [hs] using linked⟩
  | some link =>
      obtain ⟨link', ht⟩ := Option.isSome_iff_exists.mp (by simpa [hs] using linked.symm)
      exact .inr ⟨link, link', rfl, ht⟩

theorem sendWithin (h : Parallel R) (frames : Frames) (limit : Option Nat) :
    Related R (Session.sendWithin frames limit) (Session.sendWithin frames limit) := by
  intro s t related
  have agree := h.agree related
  by_cases usable : s.isUsable = true
  · by_cases idle : s.pending = none
    · rcases h.links related with ⟨hs, ht⟩ | ⟨link, link', hs, ht⟩
      · rw [Same, run_sendWithin_unlinked usable idle hs,
          run_sendWithin_unlinked (agree.isUsable ▸ usable) (agree.pending ▸ idle) ht]
        exact ⟨rfl, related⟩
      · rw [Same, run_sendWithin usable idle hs,
          run_sendWithin (agree.isUsable ▸ usable) (agree.pending ▸ idle) ht]
        obtain ⟨same, after⟩ := h.sendOn related usable idle hs ht frames limit
        exact ⟨congrArg Sending.toExcept same, after⟩
    · rw [Same, run_sendWithin_pending usable idle,
        run_sendWithin_pending (agree.isUsable ▸ usable) (agree.pending ▸ idle)]
      exact ⟨rfl, related⟩
  · obtain ⟨reason, dead⟩ := exists_obstacle usable
    rw [Same, run_sendWithin_dead dead, run_sendWithin_dead (agree.state ▸ dead)]
    exact ⟨rfl, related⟩

theorem receiveWithin (h : Parallel R) (limit : Nat) :
    Related R (Session.receiveWithin limit) (Session.receiveWithin limit) := by
  intro s t related
  have agree := h.agree related
  by_cases usable : s.isUsable = true
  · cases pending : s.pending with
    | none =>
        rw [Same, run_receiveWithin_idle usable pending,
          run_receiveWithin_idle (agree.isUsable ▸ usable) (agree.pending ▸ pending)]
        exact ⟨rfl, related⟩
    | some command =>
        rcases h.links related with ⟨hs, ht⟩ | ⟨link, link', hs, ht⟩
        · rw [Same, run_receiveWithin_unlinked usable pending hs,
            run_receiveWithin_unlinked (agree.isUsable ▸ usable) (agree.pending ▸ pending) ht]
          exact ⟨rfl, related⟩
        · rw [Same, run_receiveWithin usable pending hs,
            run_receiveWithin (agree.isUsable ▸ usable) (agree.pending ▸ pending) ht]
          obtain ⟨same, after⟩ :=
            h.receiveOn related usable (by simp [pending]) hs ht limit
          rw [same]
          exact ⟨rfl, h.noting after _⟩
  · obtain ⟨reason, dead⟩ := exists_obstacle usable
    rw [Same, run_receiveWithin_dead dead, run_receiveWithin_dead (agree.state ▸ dead)]
    exact ⟨rfl, related⟩

theorem giveUp (h : Parallel R) {s : Session ω σ} {t : Session ω' σ'} (related : R s t)
    {command : String} {link : σ} (usable : s.isUsable = true)
    (pending : s.pending = some command) (hs : s.link = some link) (timeout : Nat) :
    Same R (Session.giveUp timeout) (Session.giveUp timeout) s t := by
  have agree := h.agree related
  rcases h.links related with ⟨hnone, _⟩ | ⟨_, link', _, ht⟩
  · rw [hs] at hnone
    cases hnone
  · rw [Same, run_giveUp pending hs, run_giveUp (agree.pending ▸ pending) ht,
      agree.endpoint]
    obtain ⟨same, after⟩ := h.resetOn related usable (by simp [pending]) hs ht
    exact ⟨same, h.noting after _⟩

theorem poll (h : Parallel R) (timeout : Nat) :
    Related R (Session.poll timeout) (Session.poll timeout) := by
  intro s t related
  refine (h.receiveWithin timeout s t related).bind fun result u u' hreceive after => ?_
  cases result with
  | some reply => exact ⟨rfl, after⟩
  | none =>
      obtain ⟨command, link, usable, pending, hlink⟩ := receiveWithin_ok_none hreceive
      exact (h.giveUp after usable pending hlink timeout).bind
        fun _ _ _ _ given => ⟨rfl, given⟩

theorem send (h : Parallel R) (frames : Frames) :
    Related R (Session.send frames) (Session.send frames) := by
  intro s t related
  obtain ⟨same, after⟩ := h.sendWithin frames none s t related
  unfold Session.send
  rw [Same, run_discard, run_discard, same]
  exact ⟨rfl, after⟩

theorem execute (h : Parallel R) (frames : Frames) (timeout : Nat) :
    Related R (Session.execute frames timeout) (Session.execute frames timeout) := by
  refine (h.send frames).bind fun _ => (h.poll timeout).bind fun result => ?_
  cases result with
  | some reply => exact .pure reply
  | none => exact .throw _

theorem executeUntil (h : Parallel R) (patience : Nat) (frames : Frames) (timeout : Nat) :
    Related R (Session.executeUntil patience frames timeout)
      (Session.executeUntil patience frames timeout) := by
  refine (h.sendWithin frames (some patience)).bind fun sent => ?_
  cases sent with
  | none => exact .pure none
  | some took =>
      dsimp only
      split
      · refine (h.poll timeout).bind fun result => ?_
        cases result with
        | some reply => exact .pure (some reply)
        | none => exact .throw _
      · exact h.receiveWithin _

/-! ## Questions to a verified server -/

theorem dialogue (h : Parallel R) {act : Act ω σ α} {act' : Act ω' σ' α}
    (dialogue : Dialogue act act') : Related R act act' := by
  induction dialogue with
  | ofExcept result => exact .ofExcept result
  | noteAll log => exact h.noteAll log
  | requireVerified => exact h.requireVerified
  | execute frames timeout => exact h.execute frames timeout
  | wire _ ih =>
      refine .get fun related => ?_
      rw [(h.agree related).endpoint]
      exact ih _
  | bind _ _ first second => exact first.bind second

theorem queryIdentity (h : Parallel R) (timeout : Nat) :
    Related R (Session.queryIdentity timeout : Act ω σ Identity)
      (Session.queryIdentity timeout) := by
  refine (h.execute _ timeout).bind fun reply => ?_
  cases reply with
  | nil => exact .throw _
  | cons first rest => exact .ofExcept _

end Parallel

/-! ## Verification -/

namespace Lockstep

open Act

variable (h : Lockstep R)

include h in
theorem reject : Related R Session.reject Session.reject := by
  refine .get fun related => ?_
  rw [(h.agree related).endpoint]
  exact (h.note _).bind fun _ _ _ related => ⟨rfl, h.rejected related⟩

include h in
theorem rejecting {act : Act ω σ α} {act' : Act ω' σ' α} (related : Related R act act') :
    Related R (Session.rejecting act) (Session.rejecting act') := by
  intro s t hst
  obtain ⟨same, after⟩ := related s t hst
  unfold Session.rejecting
  cases hs : act.run s with
  | mk result u =>
      cases ht : act'.run t with
      | mk result' u' =>
          simp only [hs, ht] at same after
          subst same
          cases result with
          | ok a =>
              rw [Same, run_tryCatch_ok hs, run_tryCatch_ok ht]
              exact ⟨rfl, after⟩
          | error fault =>
              rw [Same, run_tryCatch_error hs, run_tryCatch_error ht]
              exact (h.reject.bind fun _ => .throw fault) u u' after

include h in
theorem markVerified {s : Session ω σ} {t : Session ω' σ'} (related : R s t)
    (usable : s.isUsable = true) (identity : Option Identity) :
    Same R (Session.markVerified identity) (Session.markVerified identity) s t := by
  have usable' : t.isUsable = true := (h.agree related).isUsable ▸ usable
  rw [Same, run_markVerified usable, run_markVerified usable']
  exact ⟨rfl, h.verified related usable identity⟩

include h in
theorem ping (timeout : Nat) : Related R (Session.ping timeout) (Session.ping timeout) := by
  refine h.rejecting fun s t related => ?_
  refine (h.execute _ timeout s t related).bind fun reply u u' hexecute after => ?_
  split
  · exact h.markVerified after (isUsable_of_execute_ok hexecute) none
  · exact Related.throw _ u u' after

include h in
theorem handshake (beginning : String) (timeout : Nat) :
    Related R (Session.handshake beginning timeout)
      (Session.handshake beginning timeout) := by
  refine h.rejecting fun s t related => ?_
  refine (h.queryIdentity timeout s t related).bind fun identity u u' hquery after => ?_
  split
  · have usable := isUsable_of_queryIdentity_ok hquery
    exact (h.markVerified after usable _).bind
      fun _ v v' _ after => Related.pure _ v v' after
  · exact Related.throw _ u u' after

include h in
theorem validate (beginning : String) (timeout : Nat) :
    Related R (Session.validate beginning timeout) (Session.validate beginning timeout) := by
  refine .get fun related => ?_
  rw [(h.agree related).identity, (h.agree related).isUsable]
  split
  · split
    · exact .pure _
    · exact h.handshake beginning timeout
  · exact h.handshake beginning timeout

end Lockstep

end Session

/-! ## Runs -/

namespace Operation

open Act

variable [Channel ω σ] [Channel ω' σ'] {R : Session ω σ → Session ω' σ' → Prop}

def decides : Operation → Bool
  | .ping _ | .validate .. | .close => true
  | _ => false

/-- What transactions keep is kept by every operation that is a transaction, or
a few of them. -/
theorem perform_parallel (h : Session.Parallel R) {operation : Operation}
    (transacts : operation.decides = false) :
    Related R operation.perform operation.perform := by
  cases gated : operation.isGated with
  | true => exact h.dialogue (dialogue gated)
  | false =>
      cases operation with
      | send frames => exact (h.send frames).bind fun _ => .pure _
      | poll timeout => exact (h.poll timeout).bind fun _ => .pure _
      | execute frames timeout => exact (h.execute frames timeout).bind fun _ => .pure _
      | executeUntil patience frames timeout =>
          exact (h.executeUntil patience frames timeout).bind fun _ => .pure _
      | sendUntil patience frames => exact (h.sendWithin frames _).bind fun _ => .pure _
      | pollUntil patience => exact (h.receiveWithin patience).bind fun _ => .pure _
      | requireVerified => exact h.requireVerified.bind fun _ => .pure _
      | ping timeout => cases transacts
      | validate beginning timeout => cases transacts
      | close => cases transacts
      | _ => cases gated

theorem perform_lockstep (h : Session.Lockstep R) (operation : Operation) :
    Related R operation.perform operation.perform := by
  cases transacts : operation.decides with
  | false => exact perform_parallel h.toParallel transacts
  | true =>
      cases operation with
      | ping timeout => exact (h.ping timeout).bind fun _ => .pure _
      | validate beginning timeout =>
          exact (h.validate beginning timeout).bind fun _ => .pure _
      | close => exact fun s t related => ⟨rfl, h.closed related⟩
      | _ => cases transacts

theorem step_lockstep (h : Session.Lockstep R) (operation : Operation) {s : Session ω σ}
    {t : Session ω' σ'} (related : R s t) :
    (step operation s).1 = (step operation t).1 ∧
      R (step operation s).2 (step operation t).2 :=
  perform_lockstep h operation s t related

theorem run_lockstep (h : Session.Lockstep R) (operations : List Operation)
    {s : Session ω σ} {t : Session ω' σ'} (related : R s t) :
    (run operations s).1 = (run operations t).1 ∧
      R (run operations s).2 (run operations t).2 := by
  induction operations generalizing s t with
  | nil => exact ⟨rfl, related⟩
  | cons operation rest ih =>
      obtain ⟨same, after⟩ := step_lockstep h operation related
      obtain ⟨sameRest, afterRest⟩ := ih after
      exact ⟨by simp only [run, same, sameRest], afterRest⟩

end Operation

end MuxConsole
