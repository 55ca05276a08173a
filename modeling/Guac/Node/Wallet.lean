import Mathlib.Algebra.BigOperators.Group.List.Basic
import Mathlib.Algebra.Ring.Int.Defs
import Guac.Node.Amount
import Guac.Node.Payment
import Guac.Node.Slots

/-!
Owns the money of one successful call of `fill_channel` or `withdraw`: what its
submission attaches to the transaction and asks the contract to pay out, against what
the call adds to the balance the node stores. The amount is passed on unchanged from the
operation to the submission, so the sum closes or not in the client.
-/

set_option autoImplicit false

namespace Guac

/-- What a call of the chain moves out of the wallet of the node, in wei. -/
def Call.outflow (client : BlockchainClient) : Call → Int
  | .chain call =>
      match client.submission call with
      | some (.ok submission) => submission.call.netOutflow
      | some (.error _) => 0
      | none => 0
  | .peer _ => 0

/-- What the answered calls of an operation moved out of the wallet together. -/
def netOutflow (client : BlockchainClient) (answered : List (Call × Result Value)) : Int :=
  (answered.map fun call => call.1.outflow client).sum

/-- The own balance in the stored channel; an entry without one has nothing in it. -/
def ownBalance : Option Counterparty → Nat
  | some (.opened channel) => channel.myBalance.toNat
  | _ => 0

/-- What an operation is to add to the own balance. -/
def UserOp.change : UserOp → Int
  | .fillChannel amount => amount.toNat
  | .withdraw amount => -amount.toNat
  | .makePayment _ => 0
  | .checkAccrual => 0

/-- The operations that move money between the wallet and the channel. -/
def UserOp.movesMoney : UserOp → Bool
  | .fillChannel _ => true
  | .withdraw _ => true
  | .makePayment _ => false
  | .checkAccrual => false

/-- A call that took the entry `before` to `after` balances: what left the wallet is what
came into the channel, and both are the amount of the operation. -/
structure Balances (client : BlockchainClient) (op : UserOp) (before after : Option Counterparty)
    (answered : List (Call × Result Value)) : Prop where
  wallet : netOutflow client answered = op.change
  channel : (ownBalance after : Int) - ownBalance before = op.change

section Submissions

variable {client : BlockchainClient} {amount : Uint256} {signature0 signature1 : Signature}

theorem outflow_newChannel {tx : NewChannelTx} :
    (Call.chain (.depositThenNewChannel amount
      { tx with signature0 := some signature0, signature1 := some signature1 })).outflow client =
      amount.toNat := by
  simp [Call.outflow, BlockchainClient.submission, BlockchainClient.depositThenNewChannel, expect,
    okOr, bind, Except.bind, RawCall.netOutflow, Payload.paysOut, BlockchainClient.withdrawFunction]

/-- A fill attaches its amount; a withdrawal attaches what it asks for. -/
def ReDrawKind.outflow (amount : Uint256) : ReDrawKind → Int
  | .fill => amount.toNat
  | .withdraw => 0

theorem outflow_reDraw {kind : ReDrawKind} {tx : ReDrawTx} :
    (Call.chain (reDrawSubmission kind amount
      { tx with signature0 := some signature0, signature1 := some signature1 })).outflow client =
      kind.outflow amount := by
  cases kind with
  | fill =>
      simp [Call.outflow, reDrawSubmission, BlockchainClient.submission,
        BlockchainClient.depositThenReDraw, expect, okOr, bind, Except.bind, RawCall.netOutflow,
        Payload.paysOut, BlockchainClient.withdrawFunction, ReDrawKind.outflow]
  | withdraw =>
      simp [Call.outflow, reDrawSubmission, BlockchainClient.submission,
        BlockchainClient.reDrawThenWithdraw, expect, okOr, bind, Except.bind, RawCall.netOutflow,
        Payload.paysOut, ReDrawKind.outflow]

end Submissions

@[simp] theorem netOutflow_nil (client : BlockchainClient) : netOutflow client [] = 0 := rfl

@[simp] theorem netOutflow_cons (client : BlockchainClient) (call : Call)
    (answer : Result Value) (rest : List (Call × Result Value)) :
    netOutflow client ((call, answer) :: rest) =
      call.outflow client + netOutflow client rest := by
  simp [netOutflow]

@[simp] theorem outflow_peer (client : BlockchainClient) (request : Request) :
    (Call.peer request).outflow client = 0 := rfl

@[simp] theorem outflow_getCurrentBlock (client : BlockchainClient) :
    (Call.chain .getCurrentBlock).outflow client = 0 := rfl

/-! ### The polls of a call that goes on -/

section Continues

variable {crypto : Crypto} {theirAddress : Address} {entry : Option Counterparty}
  {amount : Uint256}

theorem fillNewOnBlock_continues {iAm0 : Bool} {block : Uint256}
    (continues : ∀ fault, (fillNewOnBlock crypto theirAddress entry iAm0 amount block).next ≠
      .resolved (.error fault)) :
    ∃ expiration, let tx := proposedChannel crypto theirAddress iAm0 amount expiration
      (fillNewOnBlock crypto theirAddress entry iAm0 amount block).next =
        .suspended (.peer (.proposeChannel tx)) (.fillNewSignature iAm0 amount tx) := by
  unfold fillNewOnBlock at continues ⊢
  cases added : block.add 40 with
  | error fault =>
      rw [added] at continues
      exact absurd rfl (continues fault)
  | ok expiration => exact ⟨expiration, rfl⟩

theorem fillNewOnSignature_continues {iAm0 : Bool} {tx : NewChannelTx} {signature : Signature}
    (continues : ∀ fault,
      (fillNewOnSignature crypto theirAddress entry iAm0 amount tx signature).next ≠
        .resolved (.error fault)) :
    ∃ signature0 signature1,
      (fillNewOnSignature crypto theirAddress entry iAm0 amount tx signature).next =
        .suspended (.chain (.depositThenNewChannel amount
          { tx with signature0 := some signature0, signature1 := some signature1 }))
          (.fillNewDeposited iAm0 tx.balance0 tx.balance1) := by
  unfold fillNewOnSignature at continues ⊢
  simp only at continues ⊢
  split
  next fault failed =>
    simp only [failed] at continues
    exact absurd rfl (continues fault)
  next recovered checked =>
    simp only [checked] at continues
    split
    next different =>
      rw [if_pos different] at continues
      exact absurd rfl (continues _)
    next => exact ⟨_, _, rfl⟩

theorem reDrawOnBlock_continues {kind : ReDrawKind} {channel : Channel}
    {newBalance0 newBalance1 block : Uint256}
    (continues : ∀ fault,
      (reDrawOnBlock entry kind amount channel newBalance0 newBalance1 block).next ≠
        .resolved (.error fault)) :
    ∃ tx, (reDrawOnBlock entry kind amount channel newBalance0 newBalance1 block).next =
      .suspended (.peer (.proposeReDraw tx))
        (.reDrawSignature kind amount channel newBalance0 newBalance1 tx) := by
  unfold reDrawOnBlock at continues ⊢
  split
  next fault failed =>
    simp only [failed] at continues
    exact absurd rfl (continues fault)
  next => exact ⟨_, rfl⟩

theorem reDrawOnSignature_continues {kind : ReDrawKind} {channel : Channel}
    {newBalance0 newBalance1 : Uint256} {tx : ReDrawTx} {signature : Signature}
    (continues : ∀ fault, (reDrawOnSignature crypto theirAddress entry kind amount channel
      newBalance0 newBalance1 tx signature).next ≠ .resolved (.error fault)) :
    ∃ signature0 signature1, (reDrawOnSignature crypto theirAddress entry kind amount channel
      newBalance0 newBalance1 tx signature).next =
        .suspended (.chain (reDrawSubmission kind amount
          { tx with signature0 := some signature0, signature1 := some signature1 }))
          (.reDrawSubmitted channel newBalance0 newBalance1) := by
  unfold reDrawOnSignature at continues ⊢
  simp only at continues ⊢
  split
  next fault failed =>
    simp only [failed] at continues
    exact absurd rfl (continues fault)
  next recovered checked =>
    simp only [checked] at continues
    split
    next different =>
      rw [if_pos different] at continues
      exact absurd rfl (continues _)
    next => exact ⟨_, _, rfl⟩

end Continues

/-! ### Whole calls -/

section Calls

variable {crypto : Crypto} {theirAddress : Address} {client : BlockchainClient}
  {amount : Uint256} {poll last : Poll} {answers : List (Result Value)} {value : Value}

theorem deposited_succeeds {call : Call} {iAm0 : Bool} {balance0 balance1 : Uint256}
    (waits : poll.next = .suspended call (.fillNewDeposited iAm0 balance0 balance1))
    (driven : poll.drive crypto theirAddress answers = some last)
    (succeeds : last.next = .resolved (.ok value)) :
    netOutflow client (poll.answered crypto theirAddress answers) = call.outflow client ∧
      ∃ channelId, last.entry = some (.opened
        { channelId, sequenceNumber := 0, balance0, balance1, accrual := 0, iAm0 }) := by
  obtain ⟨given, answers, next, applied, -, driven, answered⟩ :=
    Poll.drive_succeeds waits driven succeeds
  cases given with
  | channelId channelId =>
      obtain rfl := Option.some.inj applied
      obtain ⟨given, answers, next, applied, -, driven, notified⟩ :=
        Poll.drive_succeeds rfl driven succeeds
      cases given with
      | unit =>
          obtain rfl := Option.some.inj applied
          obtain ⟨rfl, rfl⟩ := Poll.drive_resolved rfl driven
          rw [answered, notified]
          exact ⟨by simp [Poll.answered], channelId, rfl⟩
      | _ => cases applied
  | _ => cases applied

theorem submitted_succeeds {call : Call} {channel : Channel} {newBalance0 newBalance1 : Uint256}
    (waits : poll.next = .suspended call (.reDrawSubmitted channel newBalance0 newBalance1))
    (driven : poll.drive crypto theirAddress answers = some last)
    (succeeds : last.next = .resolved (.ok value)) :
    netOutflow client (poll.answered crypto theirAddress answers) = call.outflow client ∧
      last.entry = some (.opened
        { channel with balance0 := newBalance0, balance1 := newBalance1 }) := by
  obtain ⟨given, answers, next, applied, -, driven, answered⟩ :=
    Poll.drive_succeeds waits driven succeeds
  cases given with
  | unit =>
      obtain rfl := Option.some.inj applied
      obtain ⟨given, answers, next, applied, -, driven, notified⟩ :=
        Poll.drive_succeeds rfl driven succeeds
      cases given with
      | unit =>
          obtain rfl := Option.some.inj applied
          obtain ⟨rfl, rfl⟩ := Poll.drive_resolved rfl driven
          rw [answered, notified]
          exact ⟨by simp [Poll.answered], rfl⟩
      | _ => cases applied
  | _ => cases applied

theorem fillNew_succeeds {iAm0 : Bool}
    (waits : poll.next = .suspended (.chain .getCurrentBlock) (.fillNewBlock iAm0 amount))
    (driven : poll.drive crypto theirAddress answers = some last)
    (succeeds : last.next = .resolved (.ok value)) :
    netOutflow client (poll.answered crypto theirAddress answers) = amount.toNat ∧
      ownBalance last.entry = amount.toNat := by
  obtain ⟨given, answers, next, applied, continues, driven, answered⟩ :=
    Poll.drive_succeeds waits driven succeeds
  cases given with
  | block block =>
      obtain rfl := Option.some.inj applied
      obtain ⟨expiration, waits⟩ := fillNewOnBlock_continues continues
      obtain ⟨given, answers, next, applied, continues, driven, proposed⟩ :=
        Poll.drive_succeeds (by exact waits) driven succeeds
      cases given with
      | signature signature =>
          obtain rfl := Option.some.inj applied
          obtain ⟨signature0, signature1, waits⟩ := fillNewOnSignature_continues continues
          obtain ⟨submitted, channelId, stored⟩ :=
            @deposited_succeeds _ _ client _ _ _ _ _ _ _ _ (by exact waits) driven succeeds
          rw [answered, netOutflow_cons, proposed, netOutflow_cons, submitted, outflow_newChannel,
            stored]
          constructor
          · simp
          · cases iAm0 <;> simp [ownBalance, Channel.myBalance, proposedChannel]
      | _ => cases applied
  | _ => cases applied

/-- A redraw that succeeds moves what its submission does, and stores the new balances. -/
theorem reDraw_succeeds {kind : ReDrawKind} {channel : Channel} {newBalance0 newBalance1 : Uint256}
    (waits : poll.next = .suspended (.chain .getCurrentBlock)
      (.reDrawBlock kind amount channel newBalance0 newBalance1))
    (driven : poll.drive crypto theirAddress answers = some last)
    (succeeds : last.next = .resolved (.ok value)) :
    netOutflow client (poll.answered crypto theirAddress answers) = kind.outflow amount ∧
      last.entry = some (.opened
        { channel with balance0 := newBalance0, balance1 := newBalance1 }) := by
  obtain ⟨given, answers, next, applied, continues, driven, answered⟩ :=
    Poll.drive_succeeds waits driven succeeds
  cases given with
  | block block =>
      obtain rfl := Option.some.inj applied
      obtain ⟨tx, waits⟩ := reDrawOnBlock_continues continues
      obtain ⟨given, answers, next, applied, continues, driven, proposed⟩ :=
        Poll.drive_succeeds (by exact waits) driven succeeds
      cases given with
      | signature signature =>
          obtain rfl := Option.some.inj applied
          obtain ⟨signature0, signature1, waits⟩ := reDrawOnSignature_continues continues
          obtain ⟨submitted, stored⟩ :=
            @submitted_succeeds _ _ client _ _ _ _ _ _ _ _ (by exact waits) driven succeeds
          rw [answered, netOutflow_cons, proposed, netOutflow_cons, submitted, outflow_reDraw]
          exact ⟨by simp, stored⟩
      | _ => cases applied
  | _ => cases applied

theorem reDrawBalances_change {kind : ReDrawKind} {channel : Channel}
    {newBalance0 newBalance1 : Uint256}
    (balances : reDrawBalances kind channel amount = .ok (newBalance0, newBalance1)) :
    ((Channel.myBalance
        { channel with balance0 := newBalance0, balance1 := newBalance1 }).toNat : Int) -
      channel.myBalance.toNat = (kind.op amount).change := by
  obtain ⟨mine, computed, same⟩ := reDrawBalances_ok.mp balances
  have stored : (Channel.myBalance
      { channel with balance0 := newBalance0, balance1 := newBalance1 }) = mine := by
    unfold Channel.myBalance
    simp only
    cases role : channel.iAm0 with
    | false =>
        rw [role] at same
        exact (Prod.mk.inj same).2.symm
    | true =>
        rw [role] at same
        exact (Prod.mk.inj same).1.symm
  rw [stored]
  cases kind with
  | fill =>
      have sum := Uint256.add_eq_ok.mp computed
      simp only [ReDrawKind.op, UserOp.change]
      omega
  | withdraw =>
      have difference := Uint256.sub_eq_ok.mp computed
      simp only [ReDrawKind.op, UserOp.change]
      omega

theorem not_succeeds_of_fail {entry : Option Counterparty} {fault : Fault}
    (driven : (Poll.fail entry fault).drive crypto theirAddress answers = some last)
    (succeeds : last.next = .resolved (.ok value)) : False := by
  obtain ⟨-, rfl⟩ := Poll.drive_resolved rfl driven
  cases succeeds

/-- A redraw that succeeds balances exactly if its submission moves the amount of the
user. -/
theorem reDraw_balances_iff {kind : ReDrawKind} {channel : Channel}
    (called : (kind.op amount).call crypto theirAddress (some (.opened channel)) answers =
      some last)
    (succeeds : last.next = .resolved (.ok value)) :
    Balances client (kind.op amount) (some (.opened channel)) last.entry
        ((kind.op amount).answered crypto theirAddress (some (.opened channel)) answers) ↔
      kind.outflow amount = (kind.op amount).change := by
  unfold UserOp.call at called
  unfold UserOp.answered
  rw [start_eq_reDrawStart] at called ⊢
  cases computed : reDrawBalances kind channel amount with
  | error fault =>
      rw [reDrawStart, computed] at called
      exact (not_succeeds_of_fail called succeeds).elim
  | ok balances =>
      obtain ⟨newBalance0, newBalance1⟩ := balances
      simp only [reDrawStart, computed] at called ⊢
      obtain ⟨moved, stored⟩ := @reDraw_succeeds _ _ client _ _ _ _ _ _ _ _ _ rfl called succeeds
      have change := reDrawBalances_change computed
      rw [stored]
      constructor
      · intro balances
        rw [← moved, balances.wallet]
      · intro same
        exact ⟨moved.trans same, change⟩

/-- A fill or a withdrawal that succeeds keeps wallet and channel in balance exactly if it
withdraws nothing. -/
theorem money_balances_iff {op : UserOp} {entry : Option Counterparty}
    (called : op.call crypto theirAddress entry answers = some last)
    (succeeds : last.next = .resolved (.ok value)) (moves : op.movesMoney = true) :
    Balances client op entry last.entry (op.answered crypto theirAddress entry answers) ↔
      ∀ amount, op = .withdraw amount → amount = 0 := by
  cases op with
  | makePayment | checkAccrual => cases moves
  | withdraw amount =>
      cases entry with
      | none => exact (not_succeeds_of_fail called succeeds).elim
      | some counterparty =>
          cases counterparty with
          | opened channel =>
              have balances :=
                @reDraw_balances_iff _ _ client _ _ _ _ .withdraw channel called succeeds
              refine balances.trans ⟨?_, fun nothing => by rw [nothing amount rfl]; rfl⟩
              rintro same _ ⟨⟩
              have nothing : (0 : Int) = -amount.toNat := same
              exact (Uint256.eq_iff _ _).mpr (by rw [Uint256.toNat_zero]; omega)
          | new | creating | otherCreating | reDrawing | otherReDrawing =>
              exact (not_succeeds_of_fail called succeeds).elim
  | fillChannel amount =>
      refine iff_of_true ?_ nofun
      have opens : ∀ iAm0 before, ownBalance before = 0 →
          (UserOp.fillChannel amount).start crypto theirAddress before =
            .await (some (.new iAm0)) (.chain .getCurrentBlock) (.fillNewBlock iAm0 amount) →
          (UserOp.fillChannel amount).call crypto theirAddress before answers = some last →
          Balances client (.fillChannel amount) before last.entry
            ((UserOp.fillChannel amount).answered crypto theirAddress before answers) := by
        intro iAm0 before empty starts called
        unfold UserOp.call at called
        unfold UserOp.answered
        rw [starts] at called ⊢
        obtain ⟨moved, stored⟩ := @fillNew_succeeds _ _ client _ _ _ _ _ _ rfl called succeeds
        exact ⟨moved, by simp [stored, empty, UserOp.change]⟩
      cases entry with
      | none => exact opens _ none rfl rfl called
      | some counterparty =>
          cases counterparty with
          | new iAm0 => exact opens iAm0 _ rfl rfl called
          | opened channel =>
              exact (@reDraw_balances_iff _ _ client _ _ _ _ .fill channel called succeeds).mpr rfl
          | creating | otherCreating | reDrawing | otherReDrawing =>
              exact (not_succeeds_of_fail called succeeds).elim

end Calls

namespace Sample

def reDrawAnswers (tx : ReDrawTx) : List (Result Value) :=
  [.ok (.block 1),
    .ok (.signature ((Sample.crypto 2).ethSign (tx.fingerprint (Sample.crypto 2)))), .ok .unit,
    .ok .unit]

end Sample

/-- A fill of 5 on a channel with 10. -/
theorem money_balances_iff_sample :
    let answers := Sample.reDrawAnswers ⟨7, 1, 10, 0, 15, 0, 41, none, none⟩
    ∃ last ∈ (UserOp.fillChannel 5).call (Sample.crypto 1) 2 (some (.opened Sample.stored)) answers,
      last.entry = some (.opened ⟨7, 0, 15, 0, 0, true⟩) ∧
        Balances Sample.chainClient (.fillChannel 5) (some (.opened Sample.stored)) last.entry
          ((UserOp.fillChannel 5).answered (Sample.crypto 1) 2 (some (.opened Sample.stored))
            answers) := by
  intro answers
  obtain ⟨last, called, entry, succeeds⟩ :
      ∃ last ∈ (UserOp.fillChannel 5).call (Sample.crypto 1) 2 (some (.opened Sample.stored))
          answers,
        last.entry = some (.opened ⟨7, 0, 15, 0, 0, true⟩) ∧ last.next.value = some .unit := by
    decide +kernel
  exact ⟨last, called, entry,
    (money_balances_iff called (value_eq_some.mp succeeds) rfl).mpr nofun⟩

/-- A withdrawal of 4 out of 10 attaches the 4 it asks for. -/
theorem withdrawal_unbalanced :
    let answers := Sample.reDrawAnswers ⟨7, 1, 10, 0, 6, 0, 41, none, none⟩
    ∃ last ∈ (UserOp.withdraw 4).call (Sample.crypto 1) 2 (some (.opened Sample.stored)) answers,
      last.next = .resolved (.ok .unit) ∧ last.entry = some (.opened ⟨7, 0, 6, 0, 0, true⟩) ∧
        ¬ Balances Sample.chainClient (.withdraw 4) (some (.opened Sample.stored)) last.entry
          ((UserOp.withdraw 4).answered (Sample.crypto 1) 2 (some (.opened Sample.stored))
            answers) := by
  intro answers
  obtain ⟨last, called, entry, succeeds⟩ :
      ∃ last ∈ (UserOp.withdraw 4).call (Sample.crypto 1) 2 (some (.opened Sample.stored)) answers,
        last.entry = some (.opened ⟨7, 0, 6, 0, 0, true⟩) ∧ last.next.value = some .unit := by
    decide +kernel
  have succeeds := value_eq_some.mp succeeds
  refine ⟨last, called, succeeds, entry, fun balances => ?_⟩
  exact absurd ((@reDraw_balances_iff _ _ Sample.chainClient 4 _ _ _ .withdraw Sample.stored called
    succeeds).mp balances) (by decide)

end Guac
