import MuxConsole.Proofs.Session.Gate

/-!
# What faults say about a session

On a usable session an operation that neither verifies nor closes it can end in
three ways.  It comes back with something, or with a fault of the transaction, and
the session is what it was; or it comes back with what the channel has reported,
and the session is broken.
-/

namespace MuxConsole

variable {ω σ ω' σ' α β : Type} [Channel ω σ] [Channel ω' σ']

inductive Channel.Reports (ω σ : Type) [Channel ω σ] : Fault → Prop
  | send {frames : Frames} {limit : Option Nat} {link : σ} {peer : ω} {fault : Fault}
      (h : (Channel.send frames limit link peer).1 = .failed fault) : Reports ω σ fault
  | receive {limit : Nat} {link : σ} {peer : ω} {fault : Fault}
      (h : (Channel.receive limit link peer).1 = .failed fault) : Reports ω σ fault
  | reset {link : σ} {peer : ω} {fault : Fault}
      (h : (Channel.reset link peer).1 = .error fault) : Reports ω σ fault

/-- Whether a channel can fail with it: nobody is there, or what was there is lost. -/
def Fault.isOfChannel : Fault → Bool
  | .connect .. | .transport _ | .io _ => true
  | _ => false

theorem Fault.isFatal_of_isOfChannel {fault : Fault} (h : fault.isOfChannel = true) :
    fault.isFatal = true := by
  cases fault <;> first | rfl | cases h

namespace Session

structure Stays (s t : Session ω σ) : Prop where
  endpoint : t.endpoint = s.endpoint
  state : t.state = s.state
  identity : t.identity = s.identity
  linked : ∃ link, t.link = some link

omit [Channel ω σ] in
theorem Stays.isUsable {s t : Session ω σ} (h : s.Stays t) (usable : s.isUsable = true) :
    t.isUsable = true := by
  rwa [Session.isUsable, h.state]

omit [Channel ω σ] in
theorem Stays.trans {s t u : Session ω σ} (first : s.Stays t) (second : t.Stays u) :
    s.Stays u where
  endpoint := second.endpoint.trans first.endpoint
  state := second.state.trans first.state
  identity := second.identity.trans first.identity
  linked := second.linked

inductive Ends (s : Session ω σ) : Except Fault α → Session ω σ → Prop
  | done {a : α} {t : Session ω σ} (stays : s.Stays t) : Ends s (.ok a) t
  | mild {fault : Fault} {t : Session ω σ} (mild : fault.isFatal = false)
      (stays : s.Stays t) : Ends s (.error fault) t
  | broken {fault : Fault} {t : Session ω σ} (reported : Channel.Reports ω σ fault)
      (broken : t.state = .broken) : Ends s (.error fault) t

omit [Channel ω' σ'] in
theorem Ends.after_stays {s t u : Session ω σ} {result : Except Fault α} (stays : s.Stays t)
    (h : t.Ends result u) : s.Ends result u := by
  cases h with
  | done after => exact .done (stays.trans after)
  | mild mild after => exact .mild mild (stays.trans after)
  | broken reported broken => exact .broken reported broken

end Session

namespace Act

open Session

def EndsOn (act : Act ω σ α) (s : Session ω σ) : Prop := s.Ends (act.run s).1 (act.run s).2

def Sound (act : Act ω σ α) : Prop :=
  ∀ (s : Session ω σ) (link : σ), s.isUsable = true → s.link = some link → act.EndsOn s

theorem EndsOn.bind {act : Act ω σ α} {next : α → Act ω σ β} {s : Session ω σ}
    (first : act.EndsOn s)
    (second : ∀ a t, act.run s = (.ok a, t) → s.Stays t → (next a).EndsOn t) :
    (act >>= next).EndsOn s := by
  refine bind_induction (P := fun after => s.Ends after.1 after.2) ?_ ?_
  · intro a t hact
    rw [EndsOn, hact] at first
    cases first with
    | done stays => exact (second a t hact stays).after_stays stays
  · intro fault t hact
    rw [EndsOn, hact] at first
    cases first with
    | mild mild stays => exact .mild mild stays
    | broken reported broken => exact .broken reported broken

theorem Sound.bind {act : Act ω σ α} {next : α → Act ω σ β} (first : act.Sound)
    (second : ∀ a, (next a).Sound) : (act >>= next).Sound := by
  intro s link usable hlink
  refine (first s link usable hlink).bind fun a t _ stays => ?_
  obtain ⟨link', hlink'⟩ := stays.linked
  exact second a t link' (stays.isUsable usable) hlink'

theorem Sound.ofExcept (result : Except Fault α)
    (own : ∀ fault, result = .error fault → fault.isFatal = false) :
    (Act.ofExcept result : Act ω σ α).Sound := by
  intro s link _ hlink
  rw [EndsOn, run_ofExcept]
  have stays : s.Stays s := ⟨rfl, rfl, rfl, link, hlink⟩
  cases result with
  | ok a => exact .done stays
  | error fault => exact .mild (own fault rfl) stays

theorem Sound.pure (a : α) : (Pure.pure a : Act ω σ α).Sound :=
  .ofExcept (.ok a) fun _ h => nomatch h

end Act

namespace Session

open Act

theorem requireVerified_sound : (requireVerified : Act ω σ Unit).Sound := by
  intro s link usable hlink
  have stays : s.Stays s := ⟨rfl, rfl, rfl, link, hlink⟩
  by_cases verified : s.state = .verified
  · rw [EndsOn, run_requireVerified verified]
    exact .done stays
  · unfold requireVerified
    rw [EndsOn, run_bind_ok (run_ensureUsable usable)]
    simp only [run_get_bind, verified, if_false, run_throw]
    exact .mild rfl stays

theorem sendWithin_sound (frames : Frames) (limit : Option Nat) :
    (sendWithin frames limit : Act ω σ (Option Nat)).Sound := by
  intro s link usable hlink
  by_cases idle : s.pending = none
  · rw [EndsOn, run_sendWithin usable idle hlink, sendOn]
    cases hsend : Channel.send frames limit link s.peer with
    | mk sending rest =>
        cases sending with
        | sent took => exact .done ⟨rfl, rfl, rfl, _, rfl⟩
        | dropped => exact .done ⟨rfl, rfl, rfl, _, rfl⟩
        | failed fault => exact .broken (.send (congrArg Prod.fst hsend)) rfl
  · rw [EndsOn, run_sendWithin_pending usable idle]
    exact .mild rfl ⟨rfl, rfl, rfl, link, hlink⟩

theorem receiveWithin_sound (limit : Nat) :
    (receiveWithin limit : Act ω σ (Option Frames)).Sound := by
  intro s link usable hlink
  cases pending : s.pending with
  | none =>
      rw [EndsOn, run_receiveWithin_idle usable pending]
      exact .mild rfl ⟨rfl, rfl, rfl, link, hlink⟩
  | some command =>
      rw [EndsOn, run_receiveWithin usable pending hlink, receiveOn]
      cases hreceive : Channel.receive limit link s.peer with
      | mk receiving rest =>
          cases receiving with
          | frames reply => exact .done ⟨rfl, rfl, rfl, _, rfl⟩
          | nothing => exact .done ⟨rfl, rfl, rfl, _, rfl⟩
          | failed fault => exact .broken (.receive (congrArg Prod.fst hreceive)) rfl

theorem giveUp_endsOn {s : Session ω σ} {command : String} {link : σ}
    (pending : s.pending = some command) (hlink : s.link = some link) (timeout : Nat) :
    (giveUp timeout).EndsOn s := by
  rw [EndsOn, run_giveUp pending hlink, resetOn]
  cases hreset : Channel.reset link s.peer with
  | mk result rest =>
      cases result with
      | ok => exact .done ⟨rfl, rfl, rfl, _, rfl⟩
      | error fault => exact .broken (.reset (congrArg Prod.fst hreset)) rfl

theorem poll_sound (timeout : Nat) : (poll timeout : Act ω σ (Option Frames)).Sound := by
  intro s link usable hlink
  refine (receiveWithin_sound timeout s link usable hlink).bind fun result t hreceive stays => ?_
  obtain ⟨link', hlink'⟩ := stays.linked
  cases result with
  | some reply => exact Sound.pure _ t link' (stays.isUsable usable) hlink'
  | none =>
      obtain ⟨command, link'', _, pending, hlink''⟩ := receiveWithin_ok_none hreceive
      refine (giveUp_endsOn pending hlink'' timeout).bind fun _ u _ after => ?_
      obtain ⟨link, hlink⟩ := after.linked
      exact Sound.pure none u link ((stays.trans after).isUsable usable) hlink

theorem send_sound (frames : Frames) : (send frames : Act ω σ Unit).Sound := by
  intro s link usable hlink
  have ends := sendWithin_sound frames none s link usable hlink
  unfold send
  rw [EndsOn] at ends ⊢
  rw [run_discard]
  cases hsend : (sendWithin frames none).run s with
  | mk result t =>
      rw [hsend] at ends
      cases ends with
      | done stays => exact .done stays
      | mild mild stays => exact .mild mild stays
      | broken reported broken => exact .broken reported broken

theorem timeout_sound (command : String) (micros : Nat) :
    (throw (.timeout command micros) : Act ω σ α).Sound :=
  .ofExcept (.error (.timeout command micros)) (by rintro _ ⟨⟩; rfl)

theorem execute_sound (frames : Frames) (timeout : Nat) :
    (execute frames timeout : Act ω σ Frames).Sound := by
  refine (send_sound frames).bind fun _ => (poll_sound timeout).bind fun result => ?_
  cases result with
  | some reply => exact .pure reply
  | none => exact timeout_sound _ _

theorem executeUntil_sound (patience : Nat) (frames : Frames) (timeout : Nat) :
    (executeUntil patience frames timeout : Act ω σ (Option Frames)).Sound := by
  refine (sendWithin_sound frames (some patience)).bind fun sent => ?_
  cases sent with
  | none => exact .pure none
  | some took =>
      dsimp only
      split
      · refine (poll_sound timeout).bind fun result => ?_
        cases result with
        | some reply => exact .pure (some reply)
        | none => exact timeout_sound _ _
      · exact receiveWithin_sound _

theorem noteAll_sound (log : Log) : (noteAll log : Act ω σ Unit).Sound :=
  fun _ link _ hlink => .done ⟨rfl, rfl, rfl, link, hlink⟩

theorem Dialogue.sound {act : Act ω σ α} {act' : Act ω' σ' α} (dialogue : Dialogue act act') :
    act.Sound := by
  induction dialogue with
  | ofExcept result own =>
      exact .ofExcept result fun fault h => Fault.isFatal_of_isLocal (own fault h)
  | noteAll log => exact noteAll_sound log
  | requireVerified => exact requireVerified_sound
  | execute frames timeout => exact execute_sound frames timeout
  | wire _ ih => exact fun s link usable hlink => ih s.endpoint.wire s link usable hlink
  | bind _ _ first second => exact first.bind second

end Session

namespace Operation

open Session

theorem perform_sound {operation : Operation} (transacts : operation.decides = false) :
    (operation.perform : Act ω σ Outcome).Sound := by
  cases gated : operation.isGated with
  | true => exact (@dialogue ω σ ω σ _ _ operation gated).sound
  | false =>
      cases operation with
      | send frames => exact (send_sound frames).bind fun _ => .pure _
      | poll timeout => exact (poll_sound timeout).bind fun _ => .pure _
      | execute frames timeout => exact (execute_sound frames timeout).bind fun _ => .pure _
      | executeUntil patience frames timeout =>
          exact (executeUntil_sound patience frames timeout).bind fun _ => .pure _
      | sendUntil patience frames => exact (sendWithin_sound frames _).bind fun _ => .pure _
      | pollUntil patience => exact (receiveWithin_sound patience).bind fun _ => .pure _
      | requireVerified => exact requireVerified_sound.bind fun _ => .pure _
      | ping timeout => cases transacts
      | validate beginning timeout => cases transacts
      | close => cases transacts
      | _ => cases gated

end Operation

end MuxConsole
