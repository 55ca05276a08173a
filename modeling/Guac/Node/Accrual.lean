import Guac.Node.Provenance
import Guac.Node.Signing

/-!
Owns the accrual of one entry over its runs: what `check_accrual` returned and
what is stored now add up to what the accepted payments brought. Every operation
works on a copy of the channel and writes it back later, in six states; the
`Guard` is what keeps the copies fresh.
-/

set_option autoImplicit false

namespace Guac

open Foundation

/-- The accrual stored in an entry; none before the channel is open. -/
def storedAccrual (entry : Option Counterparty) : Nat :=
  match entry.bind Counterparty.channel with
  | some channel => channel.accrual.toNat
  | none => 0

/-- The balance of the node itself in an entry. -/
def storedBalance (entry : Option Counterparty) : Nat :=
  match entry.bind Counterparty.channel with
  | some channel => channel.myBalance.toNat
  | none => 0

section Definitions

variable (crypto : Crypto) (theirAddress : Address)

/-- What the `check_accrual` of a transition returned. -/
def accrualRead (taken : Transition Node Input) : Nat :=
  match taken.event, taken.before.returned crypto theirAddress taken.event with
  | .start .checkAccrual, some (_, .ok (.accrual amount)) => amount.toNat
  | _, _ => 0

/-- The `receive_payment` of a transition was accepted. -/
def acceptsPayment (taken : Transition Node Input) : Bool :=
  match taken.event, taken.before.returned crypto theirAddress taken.event with
  | .request (.receivePayment _), some (_, .ok (.maybeSeq none)) => true
  | _, _ => false

/-- What an accepted payment added to the node's own balance. -/
def accrualEarned (taken : Transition Node Input) : Nat :=
  if acceptsPayment crypto theirAddress taken then
    storedBalance taken.after.entry - storedBalance taken.before.entry
  else 0

end Definitions

variable {crypto : Crypto} {theirAddress : Address}

theorem returned_of_poll {node : Node} {input : Input} {operation : Operation} {poll : Poll}
    (polled : node.poll crypto theirAddress input = some (operation, poll)) :
    node.returned crypto theirAddress input =
      match poll.next with
      | .resolved result => some (operation, result)
      | .suspended _ _ => none := by
  obtain ⟨entry, signed, next⟩ := poll
  unfold Node.returned
  rw [polled]
  cases next <;> rfl

theorem checkAccrual_accrues (entry : Option Counterparty) :
    storedAccrual (checkAccrual entry).entry +
        (match (checkAccrual entry).next with
          | .resolved (.ok (.accrual amount)) => amount.toNat
          | _ => 0) = storedAccrual entry := by
  cases entry with
  | none => rfl
  | some counterparty =>
      cases counterparty with
      | opened channel => exact Nat.zero_add _
      | reDrawing tx channel => exact Nat.zero_add _
      | otherReDrawing tx channel => exact Nat.zero_add _
      | new | creating | otherCreating => rfl

theorem accrualRead_of_poll {node after : Node} {input : Input} {operation : Operation}
    {poll : Poll} (polled : node.poll crypto theirAddress input = some (operation, poll))
    (silent : ∀ amount, poll.next ≠ .resolved (.ok (.accrual amount))) :
    accrualRead crypto theirAddress ⟨node, input, after⟩ = 0 := by
  unfold accrualRead
  rw [returned_of_poll polled]
  split
  next returns =>
    split at returns
    next result resolved =>
      obtain ⟨rfl, rfl⟩ := Prod.mk.inj (Option.some.inj returns)
      exact absurd resolved (silent _)
    next => cases returns
  next => rfl

theorem acceptsPayment_of_poll {node after : Node} {input : Input} {operation : Operation}
    {poll : Poll} (polled : node.poll crypto theirAddress input = some (operation, poll))
    (silent : poll.next ≠ .resolved (.ok (.maybeSeq none))) :
    acceptsPayment crypto theirAddress ⟨node, input, after⟩ = false := by
  unfold acceptsPayment
  rw [returned_of_poll polled]
  split
  next returns =>
    split at returns
    next result resolved =>
      obtain ⟨rfl, rfl⟩ := Prod.mk.inj (Option.some.inj returns)
      exact absurd resolved silent
    next => cases returns
  next => rfl

theorem storedAccrual_of_new {entry : Option Counterparty} {iAm0 : Bool}
    (found : makeCounterpartyIfNone theirAddress crypto.ownAddress entry = .new iAm0) :
    storedAccrual entry = 0 := by
  cases entry with
  | none => rfl
  | some counterparty =>
      obtain rfl : counterparty = .new iAm0 := found
      rfl

theorem Move.reads {entry : Option Counterparty} {closure : Option Closure} {input : Input}
    {poll : Poll} {amount : Uint256} (move : Move crypto theirAddress entry closure input poll)
    (returns : poll.next = .resolved (.ok (.accrual amount))) : input = .start .checkAccrual := by
  cases move with
  | accrue => rfl
  | _ => cases returns

/-- Only an accepted payment is answered without a sequence number. -/
theorem Move.accepts {entry : Option Counterparty} {closure : Option Closure} {input : Input}
    {poll : Poll} (move : Move crypto theirAddress entry closure input poll)
    (returns : poll.next = .resolved (.ok (.maybeSeq none))) :
    ∃ channel received updateTx, Channel.Accepted channel updateTx received ∧
      input = .request (.receivePayment updateTx) ∧ entry = some (.opened channel) ∧
      poll.entry = some (.opened received) := by
  cases move with
  | acceptPayment accepts => exact ⟨_, _, _, accepts, rfl, rfl, rfl⟩
  | _ => cases returns

theorem Coherent.keepsAccrual {node : Node} {input : Input} {operation : Operation}
    {poll : Poll} (coherent : Coherent crypto theirAddress node)
    (polled : node.poll crypto theirAddress input = some (operation, poll))
    (noRead : ∀ amount, poll.next ≠ .resolved (.ok (.accrual amount)))
    (noPayment : poll.next ≠ .resolved (.ok (.maybeSeq none))) :
    storedAccrual poll.entry = storedAccrual node.entry := by
  obtain ⟨entry, closure, found, -, move, same, resumes⟩ := coherent.moved polled
  rw [found]
  cases move with
  | refused kept =>
      rcases kept with rfl | ⟨rfl, rfl⟩
      · rfl
      · rfl
  | failed | proposeNew | deposited | startReDraw | proposeReDraw | submitted | retryAccepted
  | checkOpen | checkReDraw | stalePayment | pay | retryPayment | acceptReDraw => rfl
  | fillNew found => exact (storedAccrual_of_new found).symm
  | signNew | openedAsProposer | openedAsResponder | signReDraw | reDrawnAsProposer
  | reDrawnAsResponder =>
      obtain ⟨_, _, rfl, -, held⟩ := resumes _ rfl
      cases held
      rfl
  | savePayment =>
      obtain ⟨_, _, rfl, -, held⟩ := resumes _ rfl
      cases held with
      | paymentReply _ _ pays => exact congrArg Uint256.toNat pays.accrual
  | accrue => exact absurd rfl (noRead _)
  | acceptChannel found => exact (storedAccrual_of_new found).symm
  | acceptPayment => exact absurd rfl noPayment

/-- What a transition reads and leaves is what it found and earned. -/
theorem Coherent.accrues {node after : Node} {input : Input}
    (coherent : Coherent crypto theirAddress node)
    (stepped : node.step crypto theirAddress input = some after) :
    storedAccrual after.entry + accrualRead crypto theirAddress ⟨node, input, after⟩ =
      storedAccrual node.entry + accrualEarned crypto theirAddress ⟨node, input, after⟩ := by
  obtain ⟨operation, poll, polled, rfl⟩ := step_eq_some.mp stepped
  have move := move_of_poll polled
  unfold accrualEarned
  by_cases reads : ∃ amount, poll.next = .resolved (.ok (.accrual amount))
  · obtain ⟨amount, returns⟩ := reads
    have noPayment : poll.next ≠ .resolved (.ok (.maybeSeq none)) := by
      rw [returns]
      exact nofun
    rw [acceptsPayment_of_poll polled noPayment]
    obtain rfl := move.reads returns
    have hands := checkAccrual_accrues node.entry
    obtain ⟨-, -, rfl⟩ := poll_start polled
    simp only [accrualRead, returned_of_poll polled, returns]
    rw [show checkAccrual node.entry = UserOp.start crypto theirAddress node.entry .checkAccrual
      from rfl, returns] at hands
    exact hands
  · have noRead : ∀ amount, poll.next ≠ .resolved (.ok (.accrual amount)) := fun amount returns =>
      reads ⟨amount, returns⟩
    rw [accrualRead_of_poll polled noRead]
    by_cases returns : poll.next = .resolved (.ok (.maybeSeq none))
    · obtain ⟨channel, received, updateTx, accepts, rfl, found, left⟩ := move.accepts returns
      have accepted : acceptsPayment crypto theirAddress
          ⟨node, .request (.receivePayment updateTx), node.after operation poll⟩ = true := by
        simp only [acceptsPayment, returned_of_poll polled, returns]
      rw [accepted, if_pos rfl]
      simp only [Node.after, found, left]
      exact accepts.gains.2
    · rw [acceptsPayment_of_poll polled returns]
      exact coherent.keepsAccrual polled noRead returns

/-- No accrual is lost or counted twice: after every run of an entry, what
`check_accrual` returned and what is stored now are what the accepted payments
added to the node's own balance, and none of them lowered it. -/
theorem accrual_conserved {taken : List (Transition Node Input)} {node : Node}
    (run : (entryMachine crypto theirAddress).Run .fresh taken node) :
    (taken.map (accrualRead crypto theirAddress)).sum + storedAccrual node.entry =
        (taken.map (accrualEarned crypto theirAddress)).sum ∧
      ∀ transition ∈ taken, acceptsPayment crypto theirAddress transition = true →
        storedBalance transition.before.entry ≤ storedBalance transition.after.entry := by
  have coherent := run.before (Coherent crypto theirAddress) coherent_fresh
    fun _ _ _ coherent stepped => coherent.step stepped
  have stepped := run.step_of_mem
  constructor
  · have balance := run.balance (fun node => storedAccrual node.entry)
      (accrualEarned crypto theirAddress) (accrualRead crypto theirAddress)
      fun transition member => (coherent transition member).accrues (stepped transition member)
    rw [Nat.add_comm, balance]
    exact Nat.zero_add _
  · intro transition member accepted
    obtain ⟨operation, poll, polled, left⟩ := step_eq_some.mp (stepped transition member)
    by_cases returns : poll.next = .resolved (.ok (.maybeSeq none))
    · obtain ⟨channel, received, updateTx, accepts, -, found, paid⟩ :=
        (move_of_poll polled).accepts returns
      rw [left, found, Node.after, paid]
      exact accepts.gains.1
    · have declined : acceptsPayment crypto theirAddress transition = false :=
        acceptsPayment_of_poll polled returns
      rw [declined] at accepted
      cases accepted

namespace Sample

def payment (sequenceNumber balance0 balance1 : Uint256) : Input :=
  let updateTx : UpdateTx := ⟨7, sequenceNumber, balance0, balance1, none, none⟩
  .request (.receivePayment
    (updateTx.setSignature false
      ((Sample.crypto 2).ethSign (updateTx.fingerprint (Sample.crypto 2)))))

/-- Node 1 opens the channel, pays 4, is paid 3, reads the accrual and is paid 1. -/
def accrues : List Input :=
  opens ++ [.start (.makePayment 4), .resume (.ok (.maybeSeq none)), payment 2 9 1,
    .start .checkAccrual, payment 3 10 0]

end Sample

theorem accrual_conserved_sample :
    ∃ node ∈ (entryMachine (Sample.crypto 1) 2).replay .fresh Sample.accrues,
      node.entry = some (.opened ⟨7, 3, 10, 0, 1, true⟩) ∧
        (((entryMachine (Sample.crypto 1) 2).trace .fresh Sample.accrues).map
            (accrualRead (Sample.crypto 1) 2)).sum + 1 =
          (((entryMachine (Sample.crypto 1) 2).trace .fresh Sample.accrues).map
            (accrualEarned (Sample.crypto 1) 2)).sum := by
  obtain ⟨node, reached, entry⟩ :
      ∃ node ∈ (entryMachine (Sample.crypto 1) 2).replay .fresh Sample.accrues,
        node.entry = some (.opened ⟨7, 3, 10, 0, 1, true⟩) := by
    decide +kernel
  have conserved := (accrual_conserved (Machine.run_of_replay reached)).1
  have stored : storedAccrual (some (.opened ⟨7, 3, 10, 0, 1, true⟩)) = 1 := rfl
  rw [entry, stored] at conserved
  exact ⟨node, reached, entry, conserved⟩

end Guac
