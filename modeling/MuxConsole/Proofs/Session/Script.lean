import MuxConsole.Proofs.Session.Idle
import MuxConsole.Proofs.Session.Overheard

/-!
# Scripts

What is asked on a session depends on the replies alone.  A script lays a conversation
down beforehand: each request, and how it goes on after each reply.  Whatever the peer
does, what is heard is the script played to its end, or up to a request that remains
without a reply.
-/

namespace MuxConsole

variable {ω σ α β : Type}

/-! ## What is heard -/

namespace Use

def request? : Use → Option Frames
  | .send request _ => some request
  | _ => none

def reply? : Use → Option Frames
  | .receive (.frames reply) => some reply
  | _ => none

end Use

structure Exchange where
  request : Frames
  took : Nat
  reply : Frames

def Exchange.uses (exchange : Exchange) : List Use :=
  [.send exchange.request (.sent exchange.took), .receive (.frames exchange.reply)]

def Answered (uses : List Use) : Prop :=
  ∃ exchanges : List Exchange, uses = exchanges.flatMap Exchange.uses

/-- How it is heard that a request gets no reply. -/
inductive Unanswered (request : Frames) : List Use → Prop
  | unsent {sending : Sending} (h : ∀ took, sending ≠ .sent took) :
      Unanswered request [.send request sending]
  | lost (took : Nat) (fault : Fault) :
      Unanswered request [.send request (.sent took), .receive (.failed fault)]
  | silent (took : Nat) (result : Except Fault Unit) :
      Unanswered request [.send request (.sent took), .receive .nothing, .reset result]

theorem Unanswered.nothing_before {request asked : Frames} {uses before after : List Use}
    {sending : Sending} (h : Unanswered request uses)
    (split : uses = before ++ .send asked sending :: after) : before = [] := by
  cases h <;> rcases before with _ | ⟨_, _ | ⟨_, _ | ⟨_, _⟩⟩⟩ <;> simp at split ⊢

namespace Talk

def requests (uses : List Use) : List Frames := uses.filterMap Use.request?

def replies (uses : List Use) : List Frames := uses.filterMap Use.reply?

@[simp] theorem requests_answered (exchange : Exchange) (later : List Use) :
    requests (exchange.uses ++ later) = exchange.request :: requests later := rfl

@[simp] theorem replies_answered (exchange : Exchange) (later : List Use) :
    replies (exchange.uses ++ later) = exchange.reply :: replies later := rfl

theorem requests_exchanges (exchanges : List Exchange) (later : List Use) :
    requests (exchanges.flatMap Exchange.uses ++ later) =
      exchanges.map Exchange.request ++ requests later := by
  induction exchanges with
  | nil => rfl
  | cons exchange exchanges ih =>
      rw [List.flatMap_cons, List.append_assoc, requests_answered, ih]
      rfl

theorem split_of_requests {uses : List Use} {request : Frames} (asked : request ∈ requests uses) :
    ∃ before sending after, uses = before ++ .send request sending :: after := by
  obtain ⟨use, heard, isRequest⟩ := List.mem_filterMap.mp asked
  obtain ⟨before, after, split⟩ := List.append_of_mem heard
  cases use with
  | send frames sending =>
      cases isRequest
      exact ⟨before, sending, after, split⟩
  | receive | reset => cases isRequest

end Talk

theorem Unanswered.replies_eq_nil {request : Frames} {uses : List Use}
    (h : Unanswered request uses) : Talk.replies uses = [] := by
  cases h <;> rfl

/-! ## Scripts -/

inductive Script (α : Type) where
  | result (result : Except Fault α)
  | ask (request : Frames) (next : Frames → Script α)

namespace Script

def question (request : Frames) (read : Frames → Except Fault α) : Script α :=
  .ask request fun reply => .result (read reply)

def bind : Script α → (α → Script β) → Script β
  | .result (.ok a), next => next a
  | .result (.error fault), _ => .result (.error fault)
  | .ask request rest, next => .ask request fun reply => (rest reply).bind next

@[simp] theorem result_bind_result (result : Except Fault α) (f : α → Except Fault β) :
    (Script.result result).bind (fun a => .result (f a)) = .result (result >>= f) := by
  cases result <;> rfl

@[simp] theorem question_bind_result (request : Frames) (read : Frames → Except Fault α)
    (f : α → Except Fault β) :
    (question request read).bind (fun a => .result (f a)) =
      question request fun reply => read reply >>= f := by
  simp [question, bind]

def requests : Script α → List Frames → List Frames
  | .result _, _ => []
  | .ask request _, [] => [request]
  | .ask request next, reply :: rest => request :: (next reply).requests rest

theorem requests_bind_result (script : Script α) (f : α → Except Fault β)
    (replies : List Frames) :
    (script.bind fun a => .result (f a)).requests replies = script.requests replies := by
  induction script generalizing replies with
  | result result => cases result <;> rfl
  | ask request next ih =>
      cases replies with
      | nil => rfl
      | cons reply rest => exact congrArg (request :: ·) (ih reply rest)

@[simp] theorem requests_question (request : Frames) (read : Frames → Except Fault α)
    (replies : List Frames) : (question request read).requests replies = [request] := by
  cases replies <;> rfl

theorem requests_question_bind (request : Frames) (read : Frames → Except Fault α)
    (next : α → Script β) (reply : Frames) (rest : List Frames) :
    ((question request read).bind next).requests (reply :: rest) =
      request :: (match read reply with
        | .ok a => (next a).requests rest
        | .error _ => []) := by
  change request :: ((Script.result (read reply)).bind next).requests rest = _
  cases read reply <;> rfl

end Script

/-- What can be heard of a script, and what comes of it. -/
inductive Plays : Script α → List Use → Except Fault α → Prop
  | result (result : Except Fault α) : Plays (.result result) [] result
  | unanswered {request : Frames} {next : Frames → Script α} {uses : List Use}
      (h : Unanswered request uses) (fault : Fault) :
      Plays (.ask request next) uses (.error fault)
  | answered {next : Frames → Script α} {uses : List Use} {result : Except Fault α}
      (exchange : Exchange) (later : Plays (next exchange.reply) uses result) :
      Plays (.ask exchange.request next) (exchange.uses ++ uses) result

namespace Plays

variable {script : Script α} {uses later : List Use}

theorem bind_ok {next : α → Script β} {a : α} {result : Except Fault β}
    (first : Plays script uses (.ok a)) (second : Plays (next a) later result) :
    Plays (script.bind next) (uses ++ later) result := by
  generalize hfirst : Except.ok a = outcome at first
  induction first with
  | result =>
      subst hfirst
      exact second
  | unanswered => cases hfirst
  | answered exchange _ ih =>
      rw [List.append_assoc]
      exact .answered exchange (ih hfirst)

theorem bind_error {fault : Fault} (first : Plays script uses (.error fault))
    (next : α → Script β) : Plays (script.bind next) uses (.error fault) := by
  generalize hfirst : Except.error fault = outcome at first
  induction first with
  | result =>
      subst hfirst
      exact .result _
  | unanswered h => exact .unanswered h fault
  | answered exchange _ ih => exact .answered exchange (ih hfirst)

theorem requests_eq {result : Except Fault α} (h : Plays script uses result) :
    Talk.requests uses = script.requests (Talk.replies uses) := by
  induction h with
  | result => rfl
  | unanswered h => cases h <;> rfl
  | answered exchange _ ih =>
      rw [Talk.requests_answered, Talk.replies_answered, Script.requests, ih]

theorem answered_before {result : Except Fault α} (h : Plays script uses result)
    {before after : List Use} {request : Frames} {sending : Sending}
    (split : uses = before ++ .send request sending :: after) : Answered before := by
  induction h generalizing before with
  | result => simp at split
  | unanswered h => exact ⟨[], h.nothing_before split⟩
  | answered exchange _ ih =>
      match before with
      | [] => exact ⟨[], rfl⟩
      | [first] => simp [Exchange.uses] at split
      | first :: second :: rest =>
          simp only [Exchange.uses, List.cons_append, List.cons.injEq] at split
          obtain ⟨rfl, rfl, split⟩ := split
          obtain ⟨exchanges, rfl⟩ := ih split
          exact ⟨exchange :: exchanges, rfl⟩

theorem of_question {request : Frames} {read : Frames → Except Fault α} {result : Except Fault α}
    (h : Plays (.question request read) uses result) :
    (Unanswered request uses ∧ ∃ fault, result = .error fault) ∨
      ∃ exchange : Exchange, exchange.request = request ∧ uses = exchange.uses ∧
        result = read exchange.reply := by
  cases h with
  | unanswered h fault => exact .inl ⟨h, fault, rfl⟩
  | answered exchange played =>
      cases played
      exact .inr ⟨exchange, rfl, List.append_nil _, rfl⟩

theorem question_eq_ok {request : Frames} {read : Frames → Except Fault α}
    {result : Except Fault α} {a : α} (h : Plays (.question request read) uses result) :
    result = .ok a ↔ ∃ reply, Talk.replies uses = [reply] ∧ read reply = .ok a := by
  obtain ⟨unanswered, fault, rfl⟩ | ⟨exchange, -, rfl, rfl⟩ := h.of_question
  · simp [unanswered.replies_eq_nil]
  · have answered : Talk.replies exchange.uses = [exchange.reply] := rfl
    simp [answered]

theorem of_question_bind {request : Frames} {read : Frames → Except Fault α}
    {next : α → Script β} {result : Except Fault β}
    (h : Plays ((Script.question request read).bind next) uses result) :
    (Unanswered request uses ∧ ∃ fault, result = .error fault) ∨
      ∃ (exchange : Exchange) (later : List Use), exchange.request = request ∧ uses = exchange.uses ++ later ∧
        ((∃ fault, read exchange.reply = .error fault ∧ later = [] ∧ result = .error fault) ∨
          ∃ a, read exchange.reply = .ok a ∧ Plays (next a) later result) := by
  cases h with
  | unanswered h fault => exact .inl ⟨h, fault, rfl⟩
  | @answered _ later _ exchange played =>
      refine .inr ⟨exchange, later, rfl, rfl, ?_⟩
      dsimp only at played
      cases hread : read exchange.reply with
      | error fault =>
          rw [hread] at played
          cases played
          exact .inl ⟨fault, rfl, rfl, rfl⟩
      | ok a =>
          rw [hread] at played
          exact .inr ⟨a, rfl, played⟩

end Plays

end MuxConsole
