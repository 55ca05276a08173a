import Guac.Node.Entry

/-!
Owns one call of a user operation or of an inbound request from start to end:
the answers the peer and the chain give, in turn, to what it waits for. It is the
replay of the operation on an idle entry, with the answers as the only other
inputs.
-/

set_option autoImplicit false

namespace Guac

open Foundation

def Next.value : Next → Option Value
  | .resolved (.ok value) => some value
  | .resolved (.error _) => none
  | .suspended _ _ => none

theorem value_eq_some {next : Next} {value : Value} :
    next.value = some value ↔ next = .resolved (.ok value) := by
  cases next with
  | resolved result => cases result <;> simp [Next.value]
  | suspended call closure => simp [Next.value]

section Definitions

variable (crypto : Crypto) (theirAddress : Address)

/-- Hand the answers to a poll, one for each call it waits for; `none` where it
has resolved before the last of them, or an answer has another type. What is
signed on the way adds up. -/
def Poll.drive : Poll → List (Result Value) → Option Poll
  | poll, [] => some poll
  | poll, answer :: rest =>
      match poll.next with
      | .resolved _ => none
      | .suspended _ closure =>
          match closure.resume crypto theirAddress poll.entry answer with
          | none => none
          | some next => drive { next with signed := poll.signed ++ next.signed } rest

/-- The calls that were answered, each with its answer. -/
def Poll.answered : Poll → List (Result Value) → List (Call × Result Value)
  | _, [] => []
  | poll, answer :: rest =>
      match poll.next with
      | .resolved _ => []
      | .suspended call closure =>
          (call, answer) ::
            match closure.resume crypto theirAddress poll.entry answer with
            | none => []
            | some next => answered { next with signed := poll.signed ++ next.signed } rest

/-- One call of a user operation on a stored entry, against these answers. -/
def UserOp.call (op : UserOp) (entry : Option Counterparty) (answers : List (Result Value)) :
    Option Poll :=
  (op.start crypto theirAddress entry).drive crypto theirAddress answers

/-- One call of an inbound request on a stored entry, against these answers. -/
def Request.call (request : Request) (entry : Option Counterparty)
    (answers : List (Result Value)) : Option Poll :=
  (request.start crypto theirAddress entry).drive crypto theirAddress answers

def UserOp.answered (op : UserOp) (entry : Option Counterparty)
    (answers : List (Result Value)) : List (Call × Result Value) :=
  (op.start crypto theirAddress entry).answered crypto theirAddress answers

end Definitions

section Drive

variable {crypto : Crypto} {theirAddress : Address}

theorem Poll.drive_resolved {poll last : Poll} {result : Result Value}
    {answers : List (Result Value)} (resolved : poll.next = .resolved result)
    (driven : poll.drive crypto theirAddress answers = some last) :
    answers = [] ∧ poll = last := by
  cases answers with
  | nil => exact ⟨rfl, Option.some.inj driven⟩
  | cons answer rest =>
      rw [Poll.drive, resolved] at driven
      cases driven

theorem Poll.answered_resolved {poll : Poll} {result : Result Value}
    (resolved : poll.next = .resolved result) (answers : List (Result Value)) :
    poll.answered crypto theirAddress answers = [] := by
  cases answers with
  | nil => rfl
  | cons answer rest => rw [Poll.answered, resolved]

theorem Poll.drive_suspended {poll last : Poll} {call : Call} {closure : Closure}
    {answer : Result Value} {rest : List (Result Value)}
    (suspended : poll.next = .suspended call closure)
    (driven : poll.drive crypto theirAddress (answer :: rest) = some last) :
    ∃ next, closure.resume crypto theirAddress poll.entry answer = some next ∧
      Poll.drive crypto theirAddress { next with signed := poll.signed ++ next.signed } rest =
        some last := by
  rw [Poll.drive, suspended] at driven
  cases resumed : closure.resume crypto theirAddress poll.entry answer with
  | none =>
      simp only [resumed] at driven
      cases driven
  | some next =>
      simp only [resumed] at driven
      exact ⟨next, rfl, driven⟩

/-- In a call that succeeds, a suspended poll is answered with a value, and the poll that
takes it does not fail. -/
theorem Poll.drive_succeeds {poll last : Poll} {call : Call} {closure : Closure}
    {answers : List (Result Value)} {value : Value}
    (suspended : poll.next = .suspended call closure)
    (driven : poll.drive crypto theirAddress answers = some last)
    (succeeds : last.next = .resolved (.ok value)) :
    ∃ given rest next, closure.apply crypto theirAddress poll.entry given = some next ∧
      (∀ fault, next.next ≠ .resolved (.error fault)) ∧
      Poll.drive crypto theirAddress { next with signed := poll.signed ++ next.signed } rest =
        some last ∧
      poll.answered crypto theirAddress answers = (call, .ok given) ::
        Poll.answered crypto theirAddress { next with signed := poll.signed ++ next.signed }
          rest := by
  cases answers with
  | nil =>
      obtain rfl := Option.some.inj driven
      cases suspended.symm.trans succeeds
  | cons answer rest =>
      obtain ⟨next, resumed, onward⟩ := Poll.drive_suspended suspended driven
      have continues : ∀ fault, next.next ≠ .resolved (.error fault) := by
        intro fault failed
        obtain ⟨-, rfl⟩ := Poll.drive_resolved (by exact failed) onward
        cases failed.symm.trans succeeds
      cases answer with
      | error fault =>
          obtain rfl := Option.some.inj resumed
          exact absurd rfl (continues fault)
      | ok given =>
          refine ⟨given, rest, next, resumed, continues, onward, ?_⟩
          rw [Poll.answered, suspended]
          simp only [resumed]

theorem replay_drive (node : Node) (operation : Operation) (poll : Poll)
    (answers : List (Result Value)) :
    (entryMachine crypto theirAddress).replay (node.after operation poll)
        (answers.map .resume) =
      (poll.drive crypto theirAddress answers).map (node.after operation) := by
  induction answers generalizing poll with
  | nil => rfl
  | cons answer rest inductionHypothesis =>
      obtain ⟨entry, signed, next⟩ := poll
      cases next with
      | resolved result => rfl
      | suspended call closure =>
          rw [List.map_cons, Machine.replay, Poll.drive]
          have step : (entryMachine crypto theirAddress).step
              (node.after operation ⟨entry, signed, .suspended call closure⟩) (.resume answer) =
              (closure.resume crypto theirAddress entry answer).map fun next =>
                node.after operation { next with signed := signed ++ next.signed } := by
            change Node.step crypto theirAddress _ _ = _
            unfold Node.step Node.poll
            simp only [Node.after, Poll.running]
            cases closure.resume crypto theirAddress entry answer with
            | none => rfl
            | some next => simp [List.append_assoc]
          rw [step]
          cases resumed : closure.resume crypto theirAddress entry answer with
          | none => simp only [resumed, Option.map_none]
          | some next => simp only [resumed, Option.map_some, inductionHypothesis]

/-- One call is the replay of the operation and its answers on an idle node. -/
theorem replay_call (entry : Option Counterparty) (signed : List SignedTx) (op : UserOp)
    (answers : List (Result Value)) :
    (entryMachine crypto theirAddress).replay ⟨entry, none, signed⟩
        (.start op :: answers.map .resume) =
      (op.call crypto theirAddress entry answers).map
        (Node.after ⟨entry, none, signed⟩ (.user op)) :=
  replay_drive ⟨entry, none, signed⟩ (.user op) (op.start crypto theirAddress entry) answers

theorem replay_request {node after : Node} {request : Request} {answers : List (Result Value)}
    (replayed : (entryMachine crypto theirAddress).replay node
      (.request request :: answers.map .resume) = some after) :
    ∃ poll, request.call crypto theirAddress node.entry answers = some poll ∧
      after = node.after (.handler request) poll := by
  obtain ⟨next, stepped, replayed⟩ := Machine.replay_cons.mp replayed
  obtain ⟨operation, first, polled, rfl⟩ := step_eq_some.mp stepped
  obtain ⟨-, rfl, rfl⟩ := poll_request polled
  rw [replay_drive] at replayed
  obtain ⟨poll, driven, rfl⟩ := Option.map_eq_some_iff.mp replayed
  exact ⟨poll, driven, rfl⟩

end Drive

end Guac
