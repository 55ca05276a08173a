import Guac.Foundation.Handover
import Guac.Network.Sound

/-!
Owns what one poll of a node is in the handover of the channel's total: the
phase its entry is in, and the turn the poll takes. A pending transaction of its
own makes a node a leader, one of its peer's makes it a follower, and otherwise
it holds the total of its channel, or nothing.

It does not own what the wires and the chain add to it.
-/

set_option autoImplicit false

namespace Guac

open Foundation

/-- The total a transaction leaves locked. -/
def Deal.outcome : Deal → Nat
  | .opening tx => tx.total
  | .reDraw tx => tx.newTotal

def Chain.carriedOut (chain : Chain) : Deal → Prop
  | .opening tx => ∃ channelId, chain.hasOpened tx.address0 tx.address1 channelId
  | .reDraw tx => tx ∈ chain.reDrawn ∧ .reDraw tx ∉ chain.submitted

/-- The transaction a request proposes. -/
def Request.deal : Request → Option Deal
  | .proposeChannel tx => some (.opening tx.unsigned)
  | .proposeReDraw tx => some (.reDraw tx.unsigned)
  | _ => none

/-- Whether the request gives notice of a transaction carried out. -/
def Request.notifies : Request → Bool
  | .notifyChannelOpened => true
  | .notifyReDraw => true
  | _ => false

namespace Closure

/-- The closure waits for the chain to carry its transaction out. -/
def submitted : Closure → Bool
  | .fillNewDeposited .. => true
  | .reDrawSubmitted .. => true
  | _ => false

/-- The closure waits for the acknowledgement of a notice. -/
def notified : Closure → Bool
  | .fillNewNotified .. => true
  | .reDrawNotified .. => true
  | _ => false

/-- The closure acts on a notice. -/
def checked : Closure → Bool
  | .checkedOpen .. => true
  | .checkedReDraw .. => true
  | _ => false

/-- The transaction the closure waits for a signature of. -/
def asks : Closure → Option Deal
  | .fillNewSignature _ _ tx => some (.opening tx.unsigned)
  | .reDrawSignature _ _ _ _ _ tx => some (.reDraw tx.unsigned)
  | _ => none

end Closure

/-- Whether a leader is done waiting for the chain. -/
def told (running : Option Running) : Bool :=
  !running.any fun running => running.closure.submitted

/-- The phase of an entry. -/
def phase (entry : Option Counterparty) (running : Option Running) : Phase Nat Deal :=
  match entry with
  | none => .stable 0
  | some (.new _) => .stable 0
  | some (.creating tx _) => .leading (.opening tx.unsigned) (told running)
  | some (.otherCreating tx _) => .following (.opening tx.unsigned)
  | some (.reDrawing tx _) => .leading (.reDraw tx.unsigned) (told running)
  | some (.otherReDrawing tx _) => .following (.reDraw tx.unsigned)
  | some (.opened channel) => .stable channel.total

def Node.phase (node : Node) : Phase Nat Deal := Guac.phase node.entry node.running

theorem Node.phase_of_opened {node : Node} {channel : Channel}
    (opened : node.entry = some (.opened channel)) : node.phase = .stable channel.total := by
  rw [Node.phase, opened]
  rfl

/-- The notices on a wire. -/
def Wire.notices : Wire → Nat
  | .sent request => if request.notifies then 1 else 0
  | _ => 0

/-- The notices a node is acting on. -/
def checking (running : Option Running) : Nat :=
  if running.any fun running => running.closure.checked then 1 else 0

/-- A poll that submits nothing, gives no notice, acts on none, and answers the
peer with no signature and no acknowledgement. -/
structure Quiet (operation : Operation) (poll : Poll) : Prop where
  submission : poll.next.submission = []
  silent : poll.next.wire.notices = 0
  unchecked : checking (poll.running operation) = 0
  reply : ∀ value, poll.next = .resolved (.ok value) →
    (∃ op, operation = .user op) ∨ ∃ sequenceNumber, value = .maybeSeq sequenceNumber

/-- The turn a poll takes in the handover. -/
inductive Turn (node : Node) (input : Input) (operation : Operation) (poll : Poll) : Prop
  | stay (kept : (node.after operation poll).phase = node.phase) (quiet : Quiet operation poll)
  | abandon {deal : Deal} (leading : node.phase = .leading deal false)
      (leads : (node.after operation poll).phase = .leading deal true)
      (quiet : Quiet operation poll)
  | lead {value : Nat} {deal : Deal} {signature : Signature} {op : UserOp}
      (stable : node.phase = .stable value)
      (answer : input = .resume (.ok (.signature signature))) (mine : operation = .user op)
      (asks : node.running.bind (fun running => running.closure.asks) = some deal)
      (leads : (node.after operation poll).phase = .leading deal false)
      (submission : poll.next.submission = [deal]) (silent : poll.next.wire.notices = 0)
  | notify {deal : Deal} {op : UserOp} {call : ChainCall} {answer : Result Value}
      (leading : node.phase = .leading deal false) (answers : input = .resume answer)
      (holds : node.running.map Running.call = some (.chain call))
      (mine : operation = .user op)
      (carriedOut : ∀ chain : Chain, chain.mayAnswer call answer = true → chain.carriedOut deal)
      (leads : (node.after operation poll).phase = .leading deal true)
      (submission : poll.next.submission = [])
  | finish {deal : Deal} {op : UserOp} (leading : node.phase = .leading deal true)
      (answer : input = .resume (.ok .unit)) (mine : operation = .user op)
      (notified : node.running.any (fun running => running.closure.notified) = true)
      (holds : (node.after operation poll).phase = .stable deal.outcome)
      (quiet : Quiet operation poll)
  | follow {value : Nat} {deal : Deal} {request : Request} {signature : Signature}
      (stable : node.phase = .stable value)
      (asked : input = .request request) (proposes : request.deal = some deal)
      (follows : (node.after operation poll).phase = .following deal)
      (resolved : poll.next = .resolved (.ok (.signature signature)))
  | listen {request : Request} {call : Call} {closure : Closure}
      (kept : (node.after operation poll).phase = node.phase)
      (asked : input = .request request) (notifies : request.notifies = true)
      (waits : poll.next = .suspended call closure)
  | conclude {deal : Deal} {request : Request} {answer : Result Value}
      (following : node.phase = .following deal)
      (theirs : operation = .handler request) (answers : input = .resume answer)
      (checks : checking node.running = 1)
      (holds : (node.after operation poll).phase = .stable deal.outcome)
      (resolved : poll.next = .resolved (.ok .unit))

section Turns

variable {crypto : Crypto} {theirAddress : Address}

theorem quiet_fail {entry : Option Counterparty} {operation : Operation} {fault : Fault} :
    Quiet operation (.fail entry fault) :=
  ⟨rfl, rfl, rfl, nofun⟩

theorem quiet_succeed {entry : Option Counterparty} {operation : Operation} {value : Value}
    (reply : (∃ op, operation = .user op) ∨ ∃ sequenceNumber, value = .maybeSeq sequenceNumber) :
    Quiet operation (.succeed entry value) := by
  refine ⟨rfl, rfl, rfl, fun other resolved => ?_⟩
  obtain rfl := Except.ok.inj (Next.resolved.inj resolved)
  exact reply

theorem carriedOut_of_reDraw {kind : ReDrawKind} {amount : Uint256} {tx : ReDrawTx}
    {signature0 signature1 : Option Signature} {chain : Chain}
    (confirms : chain.mayAnswer (reDrawSubmission kind amount { tx with signature0, signature1 })
      (.ok .unit) = true) : chain.carriedOut (.reDraw tx.unsigned) := by
  cases kind <;>
  · have mined : chain.hasReDrawn { tx with signature0, signature1 } := by
      simpa [reDrawSubmission, Chain.mayAnswer] using confirms
    exact mined

theorem submission_of_reDraw {kind : ReDrawKind} {amount : Uint256} {tx : ReDrawTx}
    {signature0 signature1 : Option Signature} {closure : Closure} :
    (Next.suspended (.chain (reDrawSubmission kind amount { tx with signature0, signature1 }))
      closure).submission = [.reDraw tx.unsigned] := by
  cases kind <;> rfl

theorem carriedOut_of_opening {amount : Uint256} {tx : NewChannelTx}
    {signature0 signature1 : Option Signature} {channelId : Bytes32} {chain : Chain}
    (confirms : chain.mayAnswer
      (.depositThenNewChannel amount { tx with signature0, signature1 })
      (.ok (.channelId channelId)) = true) : chain.carriedOut (.opening tx.unsigned) := by
  have mined := Chain.hasOpened_of_deposit confirms
  exact ⟨channelId, mined⟩

theorem phase_of_new {myAddress : Address} {entry : Option Counterparty} {iAm0 : Bool}
    (found : makeCounterpartyIfNone theirAddress myAddress entry = .new iAm0) :
    phase entry none = .stable 0 := by
  cases entry with
  | none => rfl
  | some counterparty =>
      obtain rfl : counterparty = .new iAm0 := found
      rfl

/-- Every poll of an entry takes a turn of the handover. -/
theorem Coherent.turn {node : Node} {input : Input} {operation : Operation} {poll : Poll}
    (coherent : Coherent crypto theirAddress node)
    (polled : node.poll crypto theirAddress input = some (operation, poll)) :
    Turn node input operation poll := by
  obtain ⟨entry, closure, found, suspended, move, same, resumes⟩ := coherent.moved polled
  have phase_eq : ∀ running, node.running = running → node.phase = phase entry running := by
    rintro _ rfl
    rw [Node.phase, found]
  have idle : closure = none → node.phase = phase entry none := fun none =>
    phase_eq _ (Option.map_eq_none_iff.mp (suspended.trans none))
  cases move with
  | refused kept =>
      refine .stay ?_ quiet_fail
      rw [idle rfl]
      rcases kept with rfl | ⟨rfl, rfl⟩ <;> rfl
  | failed =>
      obtain ⟨_, _, rfl, holds, held⟩ := resumes _ rfl
      have before := phase_eq _ holds
      cases held with
      | fillNewDeposited | reDrawSubmitted => exact .abandon before rfl quiet_fail
      | _ => exact .stay before.symm quiet_fail
  | fillNew opens =>
      obtain rfl := Option.some.inj same
      refine .stay ?_ ⟨rfl, rfl, rfl, nofun⟩
      rw [idle rfl, phase_of_new opens]
      rfl
  | proposeNew | proposeReDraw | retryPayment =>
      obtain ⟨_, _, rfl, holds, held⟩ := resumes _ rfl
      cases held
      exact .stay (phase_eq _ holds).symm ⟨rfl, rfl, rfl, nofun⟩
  | signNew =>
      obtain ⟨_, _, rfl, holds, held⟩ := resumes _ rfl
      cases held
      exact .lead (phase_eq _ holds) rfl rfl (by rw [holds]; rfl) rfl rfl rfl
  | deposited =>
      obtain ⟨_, _, rfl, holds, held⟩ := resumes _ rfl
      cases held with
      | fillNewDeposited =>
          exact .notify (phase_eq _ holds) rfl (by rw [holds]; rfl) rfl
            (fun chain confirms => carriedOut_of_opening confirms) rfl rfl
  | openedAsProposer =>
      obtain ⟨_, _, rfl, holds, held⟩ := resumes _ rfl
      cases held
      exact .finish (phase_eq _ holds) rfl rfl (by rw [holds]; rfl) rfl
        (quiet_succeed (.inl ⟨_, rfl⟩))
  | startReDraw | pay =>
      obtain rfl := Option.some.inj same
      exact .stay (idle rfl).symm ⟨rfl, rfl, rfl, nofun⟩
  | signReDraw =>
      obtain ⟨_, _, rfl, holds, held⟩ := resumes _ rfl
      cases held with
      | reDrawSignature =>
          exact .lead (phase_eq _ holds) rfl rfl (by rw [holds]; rfl) rfl submission_of_reDraw rfl
  | submitted =>
      obtain ⟨_, _, rfl, holds, held⟩ := resumes _ rfl
      cases held with
      | reDrawSubmitted kind =>
          refine .notify (phase_eq _ holds) rfl (by rw [holds]; rfl) rfl ?_ rfl rfl
          intro chain confirms
          exact carriedOut_of_reDraw confirms
  | reDrawnAsProposer =>
      obtain ⟨_, _, rfl, holds, held⟩ := resumes _ rfl
      cases held with
      | reDrawNotified _ _ _ _ proposes =>
          refine .finish (phase_eq _ holds) rfl rfl (by rw [holds]; rfl) ?_
            (quiet_succeed (.inl ⟨_, rfl⟩))
          rw [Deal.outcome, ReDrawTx.unsigned_newTotal, ReDrawTx.newTotal,
            proposes.newBalance0, proposes.newBalance1]
          rfl
  | savePayment =>
      obtain ⟨_, _, rfl, holds, held⟩ := resumes _ rfl
      cases held with
      | paymentReply _ _ pays =>
          refine .stay ?_ (quiet_succeed (.inl ⟨_, rfl⟩))
          rw [phase_eq _ holds]
          exact congrArg Phase.stable pays.total
  | retryAccepted =>
      obtain ⟨_, _, rfl, holds, held⟩ := resumes _ rfl
      cases held
      exact .stay (phase_eq _ holds).symm (quiet_succeed (.inl ⟨_, rfl⟩))
  | accrue accrued =>
      obtain rfl := Option.some.inj same
      refine .stay ?_ (quiet_succeed (.inl ⟨_, rfl⟩))
      rw [idle rfl]
      cases accrued <;> rfl
  | acceptChannel opens =>
      exact .follow ((idle rfl).trans (phase_of_new opens)) rfl rfl rfl rfl
  | acceptReDraw => exact .follow (idle rfl) rfl rfl rfl rfl
  | checkOpen | checkReDraw => exact .listen (idle rfl).symm rfl rfl rfl
  | openedAsResponder | reDrawnAsResponder =>
      obtain ⟨_, _, rfl, holds, held⟩ := resumes _ rfl
      cases held
      exact .conclude (phase_eq _ holds) rfl rfl (by rw [holds]; rfl) rfl rfl
  | stalePayment => exact .stay (idle rfl).symm (quiet_succeed (.inr ⟨_, rfl⟩))
  | acceptPayment accepts =>
      refine .stay ?_ (quiet_succeed (.inr ⟨_, rfl⟩))
      rw [idle rfl]
      exact congrArg Phase.stable accepts.total

theorem Held.asks {counterparty : Counterparty} {running : Running} {deal : Deal}
    (held : Held crypto theirAddress counterparty running)
    (asks : running.closure.asks = some deal) :
    ∃ request value, running.call = .peer request ∧ request.deal = some deal ∧
      phase (some counterparty) (some running) = .stable value := by
  cases held with
  | fillNewSignature | reDrawSignature => exact ⟨_, _, rfl, asks, rfl⟩
  | _ => cases asks

theorem Held.notified {counterparty : Counterparty} {running : Running}
    (held : Held crypto theirAddress counterparty running)
    (notified : running.closure.notified = true) : ∃ request, running.call = .peer request := by
  cases held with
  | fillNewNotified | reDrawNotified => exact ⟨_, rfl⟩
  | _ => cases notified

theorem Held.unchecked {counterparty : Counterparty} {op : UserOp} {call : Call}
    {closure : Closure} (held : Held crypto theirAddress counterparty ⟨.user op, call, closure⟩) :
    closure.checked = false := by
  cases held <;> rfl

/-- An opening is submitted by a node that signed nothing before. -/
theorem Coherent.submits_opening {node : Node} {input : Input} {operation : Operation}
    {poll : Poll} {tx : NewChannelTx} (coherent : Coherent crypto theirAddress node)
    (polled : node.poll crypto theirAddress input = some (operation, poll))
    (submits : .opening tx ∈ poll.next.submission) : node.signed = [] := by
  obtain ⟨entry, closure, found, -, move, -, resumes⟩ := coherent.moved polled
  have backed := coherent.backed
  rw [found] at backed
  cases move with
  | signNew =>
      obtain ⟨_, _, rfl, -, held⟩ := resumes _ rfl
      cases held
      exact backed.2
  | signReDraw =>
      rw [submission_of_reDraw, List.mem_singleton] at submits
      cases submits
  | _ => cases submits

end Turns

end Guac
