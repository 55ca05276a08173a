import Guac.Node.Accrual
import Guac.Node.Wallet

/-!
Owns the node's own balance over the runs of an entry, as `check_my_balance` reads it, and
the books its user can keep from what the calls returned: what was filled, withdrawn and
paid, and the payments taken in. The two agree up to the payments that succeeded by their
second attempt, which no entry records.

It does not own what the balance is worth on the chain: `Solvency` does.
-/

set_option autoImplicit false

namespace Guac

open Foundation

/-- `Guac::check_my_balance`. Its error names the action of its neighbour. -/
def checkMyBalance (entry : Option Counterparty) : Result Uint256 := do
  let counterparty ← checkForCounterparty entry
  match counterparty with
  | .opened channel => .ok channel.myBalance
  | .reDrawing _ channel => .ok channel.myBalance
  | .otherReDrawing _ channel => .ok channel.myBalance
  | other => .error (.guac (.wrongState "check_accrual" other "Open"))

def getState (entry : Option Counterparty) : Result Counterparty := checkForCounterparty entry

theorem storedBalance_of_checked {entry : Option Counterparty} {balance : Uint256}
    (checked : checkMyBalance entry = .ok balance) : storedBalance entry = balance.toNat := by
  unfold checkMyBalance at checked
  obtain ⟨counterparty, found, checked⟩ := bind_eq_ok.mp checked
  obtain rfl := okOr_eq_ok.mp found
  cases counterparty with
  | opened channel | reDrawing tx channel | otherReDrawing tx channel =>
      obtain rfl := Except.ok.inj checked
      rfl
  | new | creating | otherCreating => cases checked

/-- What a call adds to the channel when it succeeds. -/
def UserOp.filled : UserOp → Nat
  | .fillChannel amount => amount.toNat
  | _ => 0

def UserOp.withdrawn : UserOp → Nat
  | .withdraw amount => amount.toNat
  | _ => 0

def UserOp.paid : UserOp → Nat
  | .makePayment amount => amount.toNat
  | _ => 0

section Definitions

variable (crypto : Crypto) (theirAddress : Address)

/-- An amount of the call that a transition ends with success. -/
def booked (amount : UserOp → Nat) (taken : Transition Node Input) : Nat :=
  match taken.before.returned crypto theirAddress taken.event with
  | some (.user op, .ok _) => amount op
  | _ => 0

/-- The payment that a transition ends with success by its second attempt. -/
def retried (taken : Transition Node Input) : Nat :=
  match taken.before.running with
  | some ⟨_, _, .retryReply⟩ => booked crypto theirAddress UserOp.paid taken
  | _ => 0

/-- What an accepted update states for the node above what was stored. -/
def received (taken : Transition Node Input) : Nat :=
  match taken.event with
  | .request (.receivePayment updateTx) =>
      if acceptsPayment crypto theirAddress taken then
        (updateTx.myBalance (crypto.role theirAddress)).toNat - storedBalance taken.before.entry
      else 0
  | _ => 0

end Definitions

section Polls

variable {crypto : Crypto} {theirAddress : Address} {node : Node} {input : Input}
  {operation : Operation} {poll : Poll} {after : Node}

theorem booked_of_poll (amount : UserOp → Nat)
    (polled : node.poll crypto theirAddress input = some (operation, poll)) :
    booked crypto theirAddress amount ⟨node, input, after⟩ =
      match operation, poll.next with
      | .user op, .resolved (.ok _) => amount op
      | _, _ => 0 := by
  unfold booked
  rw [returned_of_poll polled]
  cases poll.next with
  | suspended => cases operation <;> rfl
  | resolved result => cases operation <;> cases result <;> rfl

theorem storedBalance_of_new {entry : Option Counterparty} {iAm0 : Bool}
    (found : makeCounterpartyIfNone theirAddress crypto.ownAddress entry = .new iAm0) :
    storedBalance entry = 0 := by
  cases entry with
  | none => rfl
  | some counterparty =>
      obtain rfl : counterparty = .new iAm0 := found
      rfl

theorem books_nothing (polled : node.poll crypto theirAddress input = some (operation, poll))
    (quiet : ∀ op value, operation = .user op → poll.next ≠ .resolved (.ok value)) :
    (∀ amount, booked crypto theirAddress amount ⟨node, input, after⟩ = 0) ∧
      retried crypto theirAddress ⟨node, input, after⟩ = 0 := by
  have nothing : ∀ amount, booked crypto theirAddress amount ⟨node, input, after⟩ = 0 := by
    intro amount
    rw [booked_of_poll amount polled]
    split
    next ends => exact absurd ends (quiet _ _ rfl)
    next => rfl
  refine ⟨nothing, ?_⟩
  unfold retried
  split
  · exact nothing _
  · rfl

theorem received_nothing (polled : node.poll crypto theirAddress input = some (operation, poll))
    (noPayment : poll.next ≠ .resolved (.ok (.maybeSeq none))) :
    received crypto theirAddress ⟨node, input, after⟩ = 0 := by
  unfold received
  split
  · rw [acceptsPayment_of_poll polled noPayment]
    rfl
  · rfl

/-- The balance a poll leaves that ends no call of the user and takes in no payment. -/
theorem Coherent.keepsBalance (coherent : Coherent crypto theirAddress node)
    (polled : node.poll crypto theirAddress input = some (operation, poll))
    (quiet : ∀ op value, operation = .user op → poll.next ≠ .resolved (.ok value))
    (noPayment : poll.next ≠ .resolved (.ok (.maybeSeq none))) :
    storedBalance poll.entry = storedBalance node.entry := by
  obtain ⟨entry, closure, found, -, move, same, resumes⟩ := coherent.moved polled
  have backed := coherent.backed
  rw [found] at backed ⊢
  cases move with
  | refused kept =>
      rcases kept with rfl | ⟨rfl, rfl⟩
      · rfl
      · rfl
  | failed | proposeNew | deposited | startReDraw | proposeReDraw | submitted | checkOpen
  | checkReDraw | stalePayment | pay | retryPayment | acceptReDraw => rfl
  | fillNew found => exact (storedBalance_of_new found).symm
  | acceptChannel found => exact (storedBalance_of_new found).symm
  | signNew | signReDraw =>
      obtain ⟨_, _, rfl, -, held⟩ := resumes _ rfl
      cases held
      rfl
  | openedAsProposer | reDrawnAsProposer | savePayment | retryAccepted =>
      obtain ⟨_, _, -, -, held⟩ := resumes _ rfl
      cases held
      exact absurd rfl (quiet _ _ rfl)
  | accrue => exact absurd rfl (quiet _ _ (Option.some.inj same).symm)
  | acceptPayment => exact absurd rfl noPayment
  | openedAsResponder =>
      obtain ⟨_, _, rfl, -, held⟩ := resumes _ rfl
      cases held
      -- a responder has nothing in the channel it signed
      exact congrArg Uint256.toNat backed.2.2.mine
  | reDrawnAsResponder =>
      obtain ⟨_, _, rfl, -, held⟩ := resumes _ rfl
      cases held
      exact congrArg Uint256.toNat backed.2.2.mine

theorem Coherent.settles (coherent : Coherent crypto theirAddress node) {op : UserOp}
    {value : Value} (polled : node.poll crypto theirAddress input = some (.user op, poll))
    (ends : poll.next = .resolved (.ok value)) :
    storedBalance poll.entry + op.withdrawn + op.paid =
      storedBalance node.entry + op.filled +
        retried crypto theirAddress ⟨node, input, after⟩ := by
  have books := fun amount =>
    @booked_of_poll crypto theirAddress node input _ poll after amount polled
  rw [ends] at books
  obtain ⟨entry, closure, found, suspended, move, same, resumes⟩ := coherent.moved polled
  unfold retried
  rw [found]
  cases move with
  | @openedAsProposer _ iAm0 =>
      obtain ⟨_, _, rfl, holds, held⟩ := resumes _ rfl
      simp only [holds]
      cases held with
      | fillNewNotified _ amount expiration _ proposed =>
          subst proposed
          cases iAm0 <;>
            simp [Poll.succeed, storedBalance, Counterparty.channel, Channel.myBalance,
              proposedChannel, UserOp.withdrawn, UserOp.paid, UserOp.filled]
  | reDrawnAsProposer =>
      obtain ⟨_, _, rfl, holds, held⟩ := resumes _ rfl
      simp only [holds]
      cases held with
      | reDrawNotified kind amount channel balances proposes =>
          have change := reDrawBalances_change balances
          simp only [Poll.succeed, storedBalance, Counterparty.channel, Option.bind_some]
          cases kind with
          | fill | withdraw =>
              simp only [ReDrawKind.op, UserOp.change, UserOp.withdrawn, UserOp.paid,
                UserOp.filled] at change ⊢
              omega
  | savePayment =>
      obtain ⟨_, _, rfl, holds, held⟩ := resumes _ rfl
      simp only [holds]
      cases held with
      | paymentReply amount channel pays =>
          have mine := pays.mine
          simp only [Poll.succeed, storedBalance, Counterparty.channel, Option.bind_some,
            UserOp.withdrawn, UserOp.paid, UserOp.filled]
          omega
  | retryAccepted =>
      obtain ⟨_, _, rfl, holds, held⟩ := resumes _ rfl
      simp only [holds]
      cases held with
      | retryReply =>
          rw [books]
          simp [Poll.succeed, UserOp.withdrawn, UserOp.filled]
  | accrue accrued =>
      obtain rfl := Operation.user.inj (Option.some.inj same)
      have idle := Option.map_eq_none_iff.mp suspended
      simp only [idle]
      cases accrued <;> rfl
  | acceptChannel | acceptReDraw | stalePayment | acceptPayment => cases Option.some.inj same
  | openedAsResponder | reDrawnAsResponder =>
      obtain ⟨_, _, -, -, held⟩ := resumes _ rfl
      cases held
  | refused | failed | fillNew | proposeNew | signNew | deposited | startReDraw | proposeReDraw
  | signReDraw | submitted | pay | retryPayment | checkOpen | checkReDraw => cases ends

/-- What a transition leaves and what it spent is what it found and what it gained. -/
theorem Coherent.balances (coherent : Coherent crypto theirAddress node)
    (stepped : node.step crypto theirAddress input = some after) :
    storedBalance after.entry +
        (booked crypto theirAddress UserOp.withdrawn ⟨node, input, after⟩ +
          booked crypto theirAddress UserOp.paid ⟨node, input, after⟩) =
      storedBalance node.entry +
        (booked crypto theirAddress UserOp.filled ⟨node, input, after⟩ +
          received crypto theirAddress ⟨node, input, after⟩ +
          retried crypto theirAddress ⟨node, input, after⟩) := by
  obtain ⟨operation, poll, polled, rfl⟩ := step_eq_some.mp stepped
  by_cases success : ∃ op value, operation = .user op ∧ poll.next = .resolved (.ok value)
  · obtain ⟨op, value, rfl, ends⟩ := success
    have settled := @Coherent.settles crypto theirAddress node input poll
      (node.after (.user op) poll) coherent op value polled ends
    have nothing : received crypto theirAddress ⟨node, input, node.after (.user op) poll⟩ = 0 := by
      unfold received
      split
      next asked =>
        obtain rfl : input = _ := asked
        cases Option.some.inj (operation_of_poll polled)
      next => rfl
    rw [booked_of_poll _ polled, booked_of_poll _ polled, booked_of_poll _ polled, nothing, ends]
    simp only [Node.after]
    simp only [Node.after] at settled
    omega
  · have quiet : ∀ op value, operation = .user op → poll.next ≠ .resolved (.ok value) :=
      fun op value user ends => success ⟨op, value, user, ends⟩
    obtain ⟨nothing, notRetried⟩ :=
      @books_nothing crypto theirAddress node input operation poll (node.after operation poll)
        polled quiet
    rw [nothing, nothing, nothing, notRetried]
    by_cases returns : poll.next = .resolved (.ok (.maybeSeq none))
    · obtain ⟨channel, after, updateTx, accepts, rfl, found, left⟩ :=
        (move_of_poll polled).accepts returns
      have accepted : acceptsPayment crypto theirAddress
          ⟨node, .request (.receivePayment updateTx), node.after operation poll⟩ = true := by
        simp only [acceptsPayment, returned_of_poll polled, returns]
      have role : channel.iAm0 = crypto.role theirAddress := by
        have backed := coherent.backed
        rw [found] at backed
        exact backed
      have gains := accepts.keepsMine
      have mine : after.myBalance = updateTx.myBalance channel.iAm0 := by
        unfold Channel.myBalance UpdateTx.myBalance
        rw [accepts.iAm0, accepts.balance0, accepts.balance1]
      have taken : received crypto theirAddress
          ⟨node, .request (.receivePayment updateTx), node.after operation poll⟩ =
            (updateTx.myBalance (crypto.role theirAddress)).toNat - storedBalance node.entry :=
        if_pos accepted
      rw [taken, ← role]
      simp only [Node.after, left, found, storedBalance, Option.bind_some, Counterparty.channel,
        mine]
      omega
    · rw [received_nothing polled returns]
      have kept := coherent.keepsBalance polled quiet returns
      simp only [Node.after, kept]

end Polls

/-- The books of an entry, after every run against any peer and chain: the balance that
`check_my_balance` reads, with everything the user was told is withdrawn and paid, is
everything it was told is filled, what the counterparty's updates added, and once more
every payment that succeeded by its second attempt. -/
theorem balance_ledger {crypto : Crypto} {theirAddress : Address}
    {taken : List (Transition Node Input)} {node : Node} {balance : Uint256}
    (run : (entryMachine crypto theirAddress).Run .fresh taken node)
    (checked : checkMyBalance node.entry = .ok balance) :
    balance.toNat + (taken.map (booked crypto theirAddress UserOp.withdrawn)).sum +
        (taken.map (booked crypto theirAddress UserOp.paid)).sum =
      (taken.map (booked crypto theirAddress UserOp.filled)).sum +
        (taken.map (received crypto theirAddress)).sum +
        (taken.map (retried crypto theirAddress)).sum := by
  have coherent := run.before (Coherent crypto theirAddress) coherent_fresh
    fun _ _ _ coherent stepped => coherent.step stepped
  have balance := run.balance (fun node => storedBalance node.entry)
    (fun taken => booked crypto theirAddress UserOp.filled taken +
      received crypto theirAddress taken + retried crypto theirAddress taken)
    (fun taken => booked crypto theirAddress UserOp.withdrawn taken +
      booked crypto theirAddress UserOp.paid taken)
    fun transition member =>
      (coherent transition member).balances (run.step_of_mem transition member)
  have empty : storedBalance Node.fresh.entry = 0 := rfl
  rw [empty, storedBalance_of_checked checked] at balance
  simp only [List.sum_map_add] at balance
  omega

namespace Sample

/-- Node 1 opens the channel with 10, pays 4, is paid 3, and pays 2 by its second attempt. -/
def ledger : List Input :=
  opens ++ [.start (.makePayment 4), .resume (.ok (.maybeSeq none)), payment 2 9 1,
    .start (.makePayment 2), .resume (.ok (.maybeSeq (some 5))), .resume (.ok (.maybeSeq none))]

end Sample

/-- The entry still states the 2 that were paid by the second attempt. -/
theorem balance_ledger_sample :
    ∃ node ∈ (entryMachine (Sample.crypto 1) 2).replay .fresh Sample.ledger,
      checkMyBalance node.entry = .ok 9 ∧
        9 + (((entryMachine (Sample.crypto 1) 2).trace .fresh Sample.ledger).map
              (booked (Sample.crypto 1) 2 UserOp.withdrawn)).sum +
            (((entryMachine (Sample.crypto 1) 2).trace .fresh Sample.ledger).map
              (booked (Sample.crypto 1) 2 UserOp.paid)).sum =
          (((entryMachine (Sample.crypto 1) 2).trace .fresh Sample.ledger).map
              (booked (Sample.crypto 1) 2 UserOp.filled)).sum +
            (((entryMachine (Sample.crypto 1) 2).trace .fresh Sample.ledger).map
              (received (Sample.crypto 1) 2)).sum +
            (((entryMachine (Sample.crypto 1) 2).trace .fresh Sample.ledger).map
              (retried (Sample.crypto 1) 2)).sum := by
  obtain ⟨node, reached, checked⟩ :
      ∃ node ∈ (entryMachine (Sample.crypto 1) 2).replay .fresh Sample.ledger,
        checkMyBalance node.entry = .ok 9 := by
    decide +kernel
  have ledger := balance_ledger (Machine.run_of_replay reached) checked
  have stored : (9 : Uint256).toNat = 9 := rfl
  rw [stored] at ledger
  exact ⟨node, reached, checked, ledger⟩

end Guac
