import MuxConsole.Proofs.Network.Faults
import MuxConsole.Proofs.Session.Conversations

/-!
# What a validation comes to

A validation relies on the identity that the session knows, is refused without a use of
the channel, or asks for an identity once.  It ends with the session verified as the
identity that it returns, or with the session rejected and what it knows of its peer as
it was before.
-/

namespace MuxConsole

variable {ω σ : Type} [Channel ω σ]

/-! ## What is heard and what is recorded -/

namespace Session

theorem lockstep_observed (earlier : List Talk) (endpoint : Endpoint) (before : List Use) :
    Lockstep fun (t : Session (Recorded ω σ) σ) (u : Session (Overheard ω) (Tapped σ)) =>
      ∃ (s : Session ω σ) (events : List (Event ω σ)), t = s.recording events ∧
        u = s.overheard earlier endpoint (before ++ events.map Event.use) where
  agree := by
    rintro _ _ ⟨s, events, rfl, rfl⟩
    exact ⟨rfl, rfl, rfl, rfl, by simp [recording, overheard]⟩
  noting := by
    rintro _ _ ⟨s, events, rfl, rfl⟩ log
    exact ⟨s.noting log, events, rfl, rfl⟩
  sendOn := by
    rintro _ _ link link' ⟨s, events, rfl, rfl⟩ _ _ ht hu frames limit
    obtain rfl : link' = ⟨link, earlier.length⟩ :=
      Option.some.inj (hu.symm.trans (overheard_link _ _ _ ht))
    rw [sendOn_recording, sendOn_overheard, List.append_assoc]
    exact ⟨rfl, _, _, rfl, by rw [List.map_append]; rfl⟩
  receiveOn := by
    rintro _ _ link link' ⟨s, events, rfl, rfl⟩ _ _ ht hu limit
    obtain rfl : link' = ⟨link, earlier.length⟩ :=
      Option.some.inj (hu.symm.trans (overheard_link _ _ _ ht))
    rw [receiveOn_recording, receiveOn_overheard, List.append_assoc]
    exact ⟨rfl, _, _, rfl, by rw [List.map_append]; rfl⟩
  resetOn := by
    rintro _ _ link link' ⟨s, events, rfl, rfl⟩ _ _ ht hu
    obtain rfl : link' = ⟨link, earlier.length⟩ :=
      Option.some.inj (hu.symm.trans (overheard_link _ _ _ ht))
    rw [resetOn_recording, resetOn_overheard, List.append_assoc]
    exact ⟨rfl, _, _, rfl, by rw [List.map_append]; rfl⟩
  verified := by
    rintro _ _ ⟨s, events, rfl, rfl⟩ _ identity
    exact ⟨s.verifiedAs identity, events, rfl, rfl⟩
  rejected := by
    rintro _ _ ⟨s, events, rfl, rfl⟩
    exact ⟨s.rejected, events, rfl, rfl⟩
  closed := by
    rintro _ _ ⟨s, events, rfl, rfl⟩
    exact ⟨s.closed, events, rfl, rfl⟩

end Session

namespace Operation

theorem step_overheard (operation : Operation) (s : Session ω σ) (earlier : List Talk)
    (endpoint : Endpoint) (before : List Use) :
    step operation (s.overheard earlier endpoint before) =
      ((step operation s).1, (step operation s).2.overheard earlier endpoint
        (before ++ (events operation s).map Event.use)) := by
  obtain ⟨same, t, new, hrecorded, hoverheard⟩ :=
    step_lockstep (Session.lockstep_observed earlier endpoint before) operation
      ⟨s, [], rfl, by rw [List.map_nil, List.append_nil]⟩
  rw [step_recording_nil] at same hrecorded
  have hsession : (step operation s).2 = t := congrArg Session.unobserved hrecorded
  have hevents : events operation s = new :=
    congrArg (fun t : Session (Recorded ω σ) σ => t.peer.events) hrecorded
  rw [hsession, hevents]
  exact Prod.ext same.symm hoverheard

theorem uses_of_hears {operation : Operation} {s t : Session ω σ} {heard : List Use}
    {result : Except Fault Outcome}
    (h : s.Hears operation.perform operation.perform heard result t) :
    (events operation s).map Event.use = heard := by
  have hstep := step_overheard operation s [] s.endpoint []
  have hheard := hstep.symm.trans (h.overheard [] s.endpoint [])
  have htalks := congrArg (fun after => after.2.peer.talks) hheard
  simpa [Session.overheard] using htalks

end Operation

/-! ## Handshakes -/

namespace Session

def settled (t : Session ω σ) : Except Fault Identity → Session ω σ
  | .ok identity => t.verifiedAs (some identity)
  | .error _ => (t.noting [.rejecting t.endpoint]).rejected

variable {s t : Session ω σ} {timeout : Nat} {reply : Except Fault Frames}

theorem run_queryIdentity
    (h : (execute (.ofTexts ["info"]) timeout).run s = (reply, t)) :
    (queryIdentity timeout).run s = (reply >>= introduction, t) := by
  unfold queryIdentity
  cases reply with
  | error fault => exact Act.run_bind_error h
  | ok frames =>
      rw [Act.run_bind_ok h]
      cases frames <;> rfl

theorem run_handshake (beginning : String)
    (h : (execute (.ofTexts ["info"]) timeout).run s = (reply, t)) :
    (handshake beginning timeout).run s =
      (reply >>= welcome beginning, t.settled (reply >>= welcome beginning)) := by
  have hquery := run_queryIdentity h
  unfold handshake rejecting
  cases reply with
  | error fault => exact Act.run_tryCatch_error (Act.run_bind_error hquery)
  | ok frames =>
      have usable : t.isUsable = true := isUsable_of_execute_ok h
      change (queryIdentity timeout).run s = (introduction frames, t) at hquery
      change _ = (introduction frames >>= expected beginning,
        t.settled (introduction frames >>= expected beginning))
      cases hintroduction : introduction frames with
      | error fault =>
          rw [hintroduction] at hquery
          exact Act.run_tryCatch_error (Act.run_bind_error hquery)
      | ok identity =>
          rw [hintroduction] at hquery
          change _ = (expected beginning identity, t.settled (expected beginning identity))
          unfold expected
          by_cases fits : identity.matchesName beginning = true
          · rw [if_pos fits]
            refine Act.run_tryCatch_ok ((Act.run_bind_ok hquery).trans ?_)
            rw [if_pos fits]
            exact Act.run_bind_ok (run_markVerified usable (some identity))
          · rw [if_neg fits]
            refine Act.run_tryCatch_error ((Act.run_bind_ok hquery).trans ?_)
            rw [if_neg fits]
            rfl

theorem Hears.handshake (beginning : String) {heard : List Use}
    (h : s.Hears (execute (.ofTexts ["info"]) timeout) (execute (.ofTexts ["info"]) timeout)
      heard reply t) :
    s.Hears (Session.handshake beginning timeout) (Session.handshake beginning timeout) heard
      (reply >>= welcome beginning) (t.settled (reply >>= welcome beginning)) where
  bare := run_handshake beginning h.bare
  overheard earlier endpoint uses := by
    rw [run_handshake beginning (h.overheard earlier endpoint uses)]
    cases reply >>= welcome beginning <;> rfl

theorem Hears.validate {beginning : String} {heard : List Use}
    {result : Except Fault Identity}
    (h : s.Hears (Session.validate beginning timeout) (Session.validate beginning timeout)
      heard result t) :
    s.Hears (Operation.perform (.validate beginning timeout))
      (Operation.perform (.validate beginning timeout)) heard (result.map .identity) t := by
  cases result with
  | error fault => exact h.bind_error
  | ok identity =>
      have told : t.Hears (pure (Outcome.identity identity)) (pure (Outcome.identity identity)) []
          (.ok (.identity identity)) t := .silent rfl fun _ _ _ => rfl
      have answered : s.Hears (Operation.perform (.validate beginning timeout))
          (Operation.perform (.validate beginning timeout)) (heard ++ [])
          (.ok (.identity identity)) t := h.bind_ok told
      rwa [List.append_nil] at answered

/-! ## Validations -/

/-- How a validation goes, with what is heard of it. -/
inductive Validation (s : Session ω σ) (beginning : String) :
    List Use → Except Fault Identity → Session ω σ → Prop
  | known {identity : Identity} (usable : s.isUsable = true)
      (known : s.identity = some identity) (fits : identity.matchesName beginning = true) :
      Validation s beginning [] (.ok identity) s
  | refused {fault : Fault} (foreign : ∀ expected found, fault ≠ .wrongService expected found) :
      Validation s beginning [] (.error fault) (s.settled (.error fault))
  | asked {heard : List Use} {reply : Except Fault Frames} {t : Session ω σ}
      (plays : Plays (.question (.ofTexts ["info"]) .ok) heard reply)
      (identity : t.identity = s.identity)
      (foreign : ∀ expected found, reply ≠ .error (.wrongService expected found)) :
      Validation s beginning heard (reply >>= welcome beginning)
        (t.settled (reply >>= welcome beginning))

theorem identity_execute (s : Session ω σ) (frames : Frames) (timeout : Nat) :
    ((execute frames timeout).run s).2.identity = s.identity := by
  have kept : Kept fun (t : Session ω σ) (_ : List (Event ω σ)) => t.identity = s.identity :=
    ⟨fun same _ _ => same, fun same _ => same⟩
  have same : (Operation.step (.execute frames timeout) s).2.identity = s.identity :=
    Operation.step_kept kept rfl [] rfl
  rwa [show (Operation.step (.execute frames timeout) s).2 = ((execute frames timeout).run s).2
    from congrArg Prod.snd (Act.run_bind_pure _ _ s)] at same

theorem run_validate_known {beginning : String} {identity : Identity}
    (usable : s.isUsable = true) (known : s.identity = some identity)
    (fits : identity.matchesName beginning = true) :
    (validate beginning timeout).run s = (.ok identity, s) := by
  rw [run_validate_eq, known, Option.filter_some, usable, fits]
  rfl

theorem execute_refused {fault : Fault}
    (bare : ∀ frames limit, (sendWithin frames limit).run s = (.error fault, s))
    (overheard : ∀ earlier endpoint uses frames limit,
      (sendWithin frames limit).run (s.overheard earlier endpoint uses) =
        (.error fault, s.overheard earlier endpoint uses)) (frames : Frames) :
    s.Hears (execute frames timeout) (execute frames timeout) [] (.error fault) s :=
  .silent (run_execute_error timeout (bare frames none)) fun earlier endpoint uses =>
    run_execute_error timeout (overheard earlier endpoint uses frames none)

theorem execute_ne_wrongService {link : σ}
    (sound : ∀ fault, Channel.Reports ω σ fault → fault.isOfChannel = true)
    (usable : s.isUsable = true) (hlink : s.link = some link) {frames : Frames}
    (h : (execute frames timeout).run s = (reply, t)) (expected found : String) :
    reply ≠ .error (.wrongService expected found) := by
  rintro rfl
  have ends := execute_sound frames timeout s link usable hlink
  rw [Act.EndsOn, h] at ends
  cases ends with
  | mild mild => cases mild
  | broken reported => cases sound _ reported

theorem validation (intact : s.Intact)
    (sound : ∀ fault, Channel.Reports ω σ fault → fault.isOfChannel = true)
    (beginning : String) (timeout : Nat) :
    ∃ heard result t,
      s.Hears (validate beginning timeout) (validate beginning timeout) heard result t ∧
        Validation s beginning heard result t := by
  have bare := run_validate_eq beginning timeout s
  have overheard (earlier : List Talk) (endpoint : Endpoint) (uses : List Use) :=
    run_validate_eq beginning timeout (s.overheard earlier endpoint uses)
  change ∀ earlier endpoint uses, _ =
    (s.identity.filter fun identity => s.isUsable && identity.matchesName beginning).elim _ _
    at overheard
  cases hknown : s.identity.filter fun identity =>
      s.isUsable && identity.matchesName beginning with
  | some identity =>
      rw [hknown] at bare
      simp only [hknown] at overheard
      obtain ⟨known, fits⟩ := Option.filter_eq_some_iff.mp hknown
      obtain ⟨usable, fits⟩ := Bool.and_eq_true_iff.mp fits
      exact ⟨_, _, _, .silent bare overheard, .known usable known fits⟩
  | none =>
      rw [hknown] at bare
      simp only [hknown] at overheard
      have fresh {heard : List Use} {reply : Except Fault Frames} {t : Session ω σ}
          (h : s.Hears (execute (.ofTexts ["info"]) timeout)
            (execute (.ofTexts ["info"]) timeout) heard reply t) :
          s.Hears (validate beginning timeout) (validate beginning timeout) heard
            (reply >>= welcome beginning) (t.settled (reply >>= welcome beginning)) :=
        ⟨bare.trans (h.handshake beginning).bare, fun earlier endpoint uses =>
          (overheard earlier endpoint uses).trans
            ((h.handshake beginning).overheard earlier endpoint uses)⟩
      by_cases usable : s.isUsable = true
      · by_cases idle : s.pending = none
        · obtain ⟨link, hlink⟩ := intact.linked usable
          obtain ⟨heard, reply, t, hears, plays, _⟩ :=
            execute_hears usable idle hlink (.ofTexts ["info"]) timeout
          have identity := identity_execute s (.ofTexts ["info"]) timeout
          rw [hears.bare] at identity
          exact ⟨_, _, _, fresh hears, .asked plays identity
            (execute_ne_wrongService sound usable hlink hears.bare)⟩
        · refine ⟨_, _, _, fresh (execute_refused (run_sendWithin_pending usable idle) ?_ _),
            .refused nofun⟩
          intro earlier endpoint uses
          exact run_sendWithin_pending (s := s.overheard earlier endpoint uses) usable idle
      · obtain ⟨reason, dead⟩ := exists_obstacle usable
        refine ⟨_, _, _, fresh (execute_refused (run_sendWithin_dead dead) ?_ _),
          .refused nofun⟩
        intro earlier endpoint uses
        exact run_sendWithin_dead (s := s.overheard earlier endpoint uses) dead

end Session

/-! ## What the caller is told -/

/-- The first frame of the reply that has been heard last says that the peer is this. -/
def Introduced (heard : List Use) (identity : Identity) : Prop :=
  ∃ first rest, heard.getLast? = some (.receive (.frames (first :: rest))) ∧
    Reply.record Identity.schema "info" first = .ok identity

theorem Identity.matchesName_iff {identity : Identity} {beginning : String} :
    identity.matchesName beginning = true ↔ beginning.toList <+: identity.service.toList :=
  List.isPrefixOf_iff_prefix

theorem Unanswered.not_introduced {request : Frames} {heard : List Use} {identity : Identity}
    (h : Unanswered request heard) : ¬ Introduced heard identity := by
  rintro ⟨first, rest, last, -⟩
  cases h <;> simp at last

theorem Exchange.introduced_iff {exchange : Exchange} {identity : Identity} :
    Introduced exchange.uses identity ↔ introduction exchange.reply = .ok identity := by
  obtain ⟨request, took, reply⟩ := exchange
  cases reply with
  | nil => simp [Introduced, Exchange.uses, introduction]
  | cons first rest => simp [Introduced, Exchange.uses, introduction]

theorem introduction_ne_wrongService (reply : Frames) (asked found : String) :
    introduction reply ≠ .error (.wrongService asked found) := by
  intro h
  cases reply with
  | nil => cases h
  | cons first rest =>
      obtain ⟨_, _, malformed⟩ := OrMalformed.mapError _ _ _ _ h
      cases malformed

/-- A peer that introduces itself is a foreign one if its name begins otherwise. -/
theorem welcome_eq_wrongService {beginning asked found : String} {reply : Frames} :
    welcome beginning reply = .error (.wrongService asked found) ↔
      asked = beginning ∧ ∃ identity, introduction reply = .ok identity ∧
        identity.service = found ∧ ¬ beginning.toList <+: identity.service.toList := by
  unfold welcome
  cases hintroduction : introduction reply with
  | error fault =>
      have foreign := introduction_ne_wrongService reply asked found
      rw [hintroduction] at foreign
      constructor
      · exact fun h => absurd h foreign
      · rintro ⟨_, identity, h, _⟩
        cases h
  | ok identity =>
      change expected beginning identity = _ ↔ _
      unfold expected
      by_cases fits : identity.matchesName beginning = true
      · rw [if_pos fits]
        constructor
        · nofun
        · rintro ⟨_, _, ⟨⟩, _, foreign⟩
          exact absurd (Identity.matchesName_iff.mp fits) foreign
      · rw [if_neg fits]
        rw [Identity.matchesName_iff] at fits
        constructor
        · rintro ⟨⟩
          exact ⟨rfl, identity, rfl, rfl, fits⟩
        · rintro ⟨rfl, _, ⟨⟩, rfl, _⟩
          rfl

theorem welcome_eq_ok {beginning : String} {reply : Frames} {identity : Identity}
    (h : welcome beginning reply = .ok identity) :
    beginning.toList <+: identity.service.toList := by
  unfold welcome at h
  cases hintroduction : introduction reply with
  | error fault =>
      rw [hintroduction] at h
      cases h
  | ok found =>
      rw [hintroduction] at h
      change expected beginning found = _ at h
      unfold expected at h
      split at h
      · rename_i fits
        cases h
        exact Identity.matchesName_iff.mp fits
      · cases h

namespace Session.Validation

omit [Channel ω σ]

variable {s t : Session ω σ} {beginning : String} {heard : List Use}
  {result : Except Fault Identity}

theorem ok {identity : Identity} (intact : s.Intact)
    (h : s.Validation beginning heard (.ok identity) t) :
    beginning.toList <+: identity.service.toList ∧ t.state = .verified ∧
      t.identity = some identity := by
  generalize hresult : Except.ok identity = result at h
  cases h with
  | known usable known fits =>
      cases hresult
      have verified := intact.verified usable (by rw [known]; nofun)
      exact ⟨Identity.matchesName_iff.mp fits, verified, known⟩
  | refused => cases hresult
  | @asked _ reply u =>
      rw [← hresult]
      cases reply with
      | error fault => cases hresult
      | ok frames => exact ⟨welcome_eq_ok hresult.symm, rfl, rfl⟩

theorem error {fault : Fault} (h : s.Validation beginning heard (.error fault) t) :
    ¬ t.isUsable = true ∧ t.identity = s.identity := by
  generalize hresult : Except.error fault = result at h
  cases h with
  | known => cases hresult
  | refused => exact ⟨nofun, rfl⟩
  | asked _ same =>
      rw [← hresult]
      exact ⟨nofun, same⟩

theorem requests (h : s.Validation beginning heard result t) :
    Talk.requests heard = [] ∨ Talk.requests heard = [.ofTexts ["info"]] := by
  cases h with
  | known => exact .inl rfl
  | refused => exact .inl rfl
  | asked plays => exact .inr (by rw [plays.requests_eq, Script.requests_question])

theorem eq_wrongService (h : s.Validation beginning heard result t) (asked found : String) :
    result = .error (.wrongService asked found) ↔
      asked = beginning ∧ ∃ identity, Introduced heard identity ∧
        identity.service = found ∧ ¬ beginning.toList <+: identity.service.toList := by
  cases h with
  | known => simp [Introduced]
  | refused foreign => simp [Introduced, foreign asked found]
  | asked plays _ foreign =>
      obtain ⟨unanswered, fault, rfl⟩ | ⟨exchange, -, rfl, rfl⟩ := plays.of_question
      · constructor
        · rintro ⟨⟩
          exact absurd rfl (foreign asked found)
        · rintro ⟨_, identity, introduced, _⟩
          exact absurd introduced unanswered.not_introduced
      · simp only [Exchange.introduced_iff]
        exact welcome_eq_wrongService

end Session.Validation

namespace Operation

def uses (operation : Operation) (s : Session ω σ) : List Use :=
  (events operation s).map Event.use

structure Accepted (beginning : String) (identity : Identity) (t : Session ω σ) : Prop where
  fits : beginning.toList <+: identity.service.toList
  verified : t.state = .verified
  known : t.identity = some identity
  again (shorter : String) (timeout : Nat) : shorter.toList <+: identity.service.toList →
    step (.validate shorter timeout) t = (.ok (.identity identity), t) ∧
      events (.validate shorter timeout) t = []

/-- What a validation makes of a session. -/
structure Validates (beginning : String) (timeout : Nat) (s : Session ω σ) : Prop where
  accepted (outcome : Outcome) : (step (.validate beginning timeout) s).1 = .ok outcome →
    ∃ identity, outcome = .identity identity ∧
      Accepted beginning identity (step (.validate beginning timeout) s).2
  asked : Talk.requests (uses (.validate beginning timeout) s) = [] ∨
    Talk.requests (uses (.validate beginning timeout) s) = [.ofTexts ["info"]]
  silent (identity : Identity) : s.isUsable = true → s.identity = some identity →
    beginning.toList <+: identity.service.toList →
    events (.validate beginning timeout) s = []
  rejected (fault : Fault) : (step (.validate beginning timeout) s).1 = .error fault →
    ¬ (step (.validate beginning timeout) s).2.isUsable = true ∧
      (step (.validate beginning timeout) s).2.identity = s.identity
  foreign (asked found : String) :
    (step (.validate beginning timeout) s).1 = .error (.wrongService asked found) ↔
      asked = beginning ∧ ∃ identity, Introduced (uses (.validate beginning timeout) s) identity ∧
        identity.service = found ∧ ¬ beginning.toList <+: identity.service.toList

variable {s t : Session ω σ} {beginning : String} {timeout : Nat}

theorem step_validate_known {identity : Identity} (usable : s.isUsable = true)
    (known : s.identity = some identity) (fits : beginning.toList <+: identity.service.toList) :
    step (.validate beginning timeout) s = (.ok (.identity identity), s) ∧
      events (.validate beginning timeout) s = [] := by
  have fits' := Identity.matchesName_iff.mpr fits
  refine ⟨Act.run_bind_ok (Session.run_validate_known usable known fits'), ?_⟩
  have recorded : (Session.validate beginning timeout).run (s.recording []) =
      (.ok identity, s.recording []) := Session.run_validate_known usable known fits'
  exact events_eq_nil (Act.run_bind_ok recorded) rfl

theorem accepted_of_verified {identity : Identity}
    (fits : beginning.toList <+: identity.service.toList) (verified : t.state = .verified)
    (known : t.identity = some identity) :
    Accepted beginning identity t where
  fits := fits
  verified := verified
  known := known
  again _ _ fits := step_validate_known (Session.isUsable_iff.mpr (.inr verified)) known fits

theorem validates_of_intact (intact : s.Intact)
    (sound : ∀ fault, Channel.Reports ω σ fault → fault.isOfChannel = true)
    (beginning : String) (timeout : Nat) : Validates beginning timeout s := by
  obtain ⟨heard, result, t, hears, validation⟩ :=
    Session.validation intact sound beginning timeout
  have hstep : step (.validate beginning timeout) s = (result.map .identity, t) := by
    rw [step_validate, hears.bare]
  have huses : uses (.validate beginning timeout) s = heard := uses_of_hears hears.validate
  refine ⟨?_, ?_, fun identity usable known fits => (step_validate_known usable known fits).2,
    ?_, ?_⟩
  · rw [hstep]
    intro outcome h
    cases result with
    | error fault => cases h
    | ok identity =>
        cases h
        obtain ⟨fits, verified, known⟩ := validation.ok intact
        exact ⟨identity, rfl, accepted_of_verified fits verified known⟩
  · rw [huses]
    exact validation.requests
  · rw [hstep]
    intro fault h
    cases result with
    | error fault => exact validation.error
    | ok identity => cases h
  · rw [hstep, huses]
    intro asked found
    rw [← validation.eq_wrongService asked found]
    cases result with
    | error fault => simp [Except.map]
    | ok identity => simp [Except.map]

open Peer Network in
/-- On a scripted channel and on a network, a validation that comes back with an
identity has verified the session as it, after a single question or none, and holds for
every shorter beginning.  One that fails has rejected the session, which knows what it
knew before; it fails for a foreign peer exactly if one has introduced itself. -/
theorem validations_verify_or_reject :
    (∀ endpoint (link : ScriptedLink) (peer : Scripted) before beginning timeout,
      Validates beginning timeout (run before (.ofLink endpoint link peer)).2) ∧
    (∀ endpoint (link : Link) (net : Network) before beginning timeout,
      Validates beginning timeout (run before (.ofLink endpoint link net)).2) := by
  constructor
  · intro endpoint link peer before
    exact validates_of_intact (Session.intact_run endpoint link peer before)
      fun _ => Scripted.isOfChannel_of_reports
  · intro endpoint link net before
    exact validates_of_intact (Session.intact_run endpoint link net before)
      fun _ => Link.isOfChannel_of_reports

end Operation

end MuxConsole
