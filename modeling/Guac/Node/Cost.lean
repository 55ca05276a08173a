import Guac.Node.Entry

/-!
Owns what an operation costs from its first poll to its last: a step for every poll, and
for what a poll sends or signs whatever price that has. The prices are parameters: they are
nothing where only the polls of an entry count, and the steps of the other node and of the
contract where those count too.
-/

set_option autoImplicit false

namespace Guac

open Foundation

/-- The price of a request of each kind, and of a transaction the contract can mine. -/
structure Prices where
  proposeChannel : Nat
  proposeReDraw : Nat
  notifyChannelOpened : Nat
  notifyReDraw : Nat
  receivePayment : Nat
  mining : Nat

section Definitions

variable (prices : Prices)

@[simp] def Request.price : Request → Nat
  | .proposeChannel _ => prices.proposeChannel
  | .proposeReDraw _ => prices.proposeReDraw
  | .notifyChannelOpened => prices.notifyChannelOpened
  | .notifyReDraw => prices.notifyReDraw
  | .receivePayment _ => prices.receivePayment

@[simp] def Request.cost : Request → Nat
  | .proposeChannel _ => 1 + prices.mining
  | .proposeReDraw _ => 1
  | .notifyChannelOpened => 2
  | .notifyReDraw => 2
  | .receivePayment _ => 1

/-- The cost of a suspended operation, without the price of the request it waits for. -/
@[simp] def Closure.cost : Closure → Nat
  | .fillNewBlock _ _ =>
      4 + prices.proposeChannel + prices.mining + prices.notifyChannelOpened
  | .fillNewSignature _ _ _ => 3 + prices.mining + prices.notifyChannelOpened
  | .fillNewDeposited _ _ _ => 2 + prices.notifyChannelOpened
  | .fillNewNotified _ _ _ _ => 1
  | .reDrawBlock _ _ _ _ _ => 4 + prices.proposeReDraw + prices.mining + prices.notifyReDraw
  | .reDrawSignature _ _ _ _ _ _ => 3 + prices.mining + prices.notifyReDraw
  | .reDrawSubmitted _ _ _ => 2 + prices.notifyReDraw
  | .reDrawNotified _ _ _ => 1
  | .paymentReply _ _ => 2 + prices.receivePayment
  | .retryReply => 1
  | .checkedOpen _ _ => 1
  | .checkedReDraw _ _ => 1

/-- The cost of a call of the user. A fill opens a channel or redraws one. -/
@[simp] def UserOp.cost : UserOp → Nat
  | .fillChannel _ =>
      5 + prices.mining + max (prices.proposeChannel + prices.notifyChannelOpened)
        (prices.proposeReDraw + prices.notifyReDraw)
  | .withdraw _ => 5 + prices.proposeReDraw + prices.mining + prices.notifyReDraw
  | .makePayment _ => 3 + 2 * prices.receivePayment
  | .checkAccrual => 1

@[simp] def Call.price : Call → Nat
  | .peer request => request.price prices
  | .chain _ => 0

@[simp] def Next.cost : Next → Nat
  | .resolved _ => 0
  | .suspended call closure => call.price prices + closure.cost prices

/-- The redraws a poll hands to the contract. -/
@[simp] def Next.reDraws : Next → Nat
  | .suspended (.chain (.depositThenReDraw _ _)) _ => 1
  | .suspended (.chain (.reDrawThenWithdraw _ _)) _ => 1
  | _ => 0

@[simp] def SignedTx.isOpening : SignedTx → Bool
  | .newChannel _ => true
  | .reDraw _ => false
  | .update _ => false

/-- The cost of what follows a poll: its operation, and the mining of the openings it signs
and of the redraws it submits. -/
def Poll.cost (poll : Poll) : Nat :=
  poll.next.cost prices +
    prices.mining * (poll.next.reDraws + poll.signed.countP SignedTx.isOpening)

/-- The cost of the operation that holds an entry. -/
def Node.cost (node : Node) : Nat :=
  (node.running.map fun running => running.closure.cost prices).getD 0

@[simp] def Input.cost : Input → Nat
  | .start op => op.cost prices
  | .request asked => asked.cost prices
  | .resume _ => 0

end Definitions

section Polls

variable {prices : Prices} {crypto : Crypto} {theirAddress : Address} {node : Node}
  {input : Input} {operation : Operation} {poll : Poll}

theorem cost_of_fail (entry : Option Counterparty) (fault : Fault) :
    (Poll.fail entry fault).cost prices = 0 := rfl

theorem one_le_cost_of_closure (closure : Closure) : 1 ≤ closure.cost prices := by
  cases closure <;> simp <;> omega

theorem one_le_cost_of_op (op : UserOp) : 1 ≤ op.cost prices := by
  cases op <;> simp <;> omega

theorem one_le_cost_of_request (request : Request) : 1 ≤ request.cost prices := by
  cases request <;> simp

theorem one_le_cost_of_idle
    (polled : node.poll crypto theirAddress input = some (operation, poll))
    (idle : node.running = none) : 1 ≤ input.cost prices := by
  cases input with
  | start op => exact one_le_cost_of_op op
  | request request => exact one_le_cost_of_request request
  | resume answer =>
      obtain ⟨running, holds, -⟩ := poll_resume polled
      cases idle.symm.trans holds

/-- A poll takes one step of the cost it finds. -/
theorem cost_of_poll (polled : node.poll crypto theirAddress input = some (operation, poll)) :
    poll.cost prices + 1 ≤ node.cost prices + input.cost prices := by
  have move := move_of_poll polled
  have first := @one_le_cost_of_idle prices crypto theirAddress node input operation poll polled
  generalize node.entry = entry at move
  generalize held : node.running.map Running.closure = closure at move
  have cost : node.cost prices = (closure.map (Closure.cost prices)).getD 0 := by
    rw [← held, Node.cost, Option.map_map]
    rfl
  rw [cost]
  cases move with
  | refused =>
      have paid := first (Option.map_eq_none_iff.mp held)
      rw [cost_of_fail]
      omega
  | @failed _ closure =>
      have paid := @one_le_cost_of_closure prices closure
      rw [cost_of_fail]
      exact Nat.le_add_right_of_le paid
  | @startReDraw kind | @signReDraw _ kind =>
      cases kind with
      | fill | withdraw =>
          simp only [Poll.cost, Poll.await, reDrawSubmission, ReDrawKind.op, Next.cost,
            Next.reDraws, Call.price, Closure.cost, Input.cost, UserOp.cost, SignedTx.isOpening,
            Bool.false_eq_true, not_false_eq_true, List.countP_cons_of_neg, List.countP_nil,
            Option.map_some, Option.map_none, Option.getD_some, Option.getD_none]
          omega
  | fillNew | proposeNew | signNew | deposited | proposeReDraw | submitted | pay | savePayment
  | retryPayment | acceptChannel =>
      simp only [Poll.cost, Poll.await, Poll.succeed, sendPayment, Next.cost, Next.reDraws,
        Call.price, Request.price, Closure.cost, Input.cost, UserOp.cost, Request.cost,
        SignedTx.isOpening, Bool.false_eq_true, not_false_eq_true, reduceIte,
        List.countP_cons_of_neg, List.countP_singleton, List.countP_nil,
        Option.map_some, Option.map_none, Option.getD_some, Option.getD_none]
      omega
  | openedAsProposer | reDrawnAsProposer | retryAccepted | accrue | acceptReDraw | checkOpen
  | openedAsResponder | checkReDraw | reDrawnAsResponder | stalePayment | acceptPayment =>
      simp [Poll.await, Poll.succeed, Poll.cost]

end Polls

end Guac
