import Guac.Foundation.Machine
import Guac.Core.CounterpartyApi

/-!
Owns one counterparty entry of a node as a transition system: the stored
entry, the operation that holds its `Guard`, and the log of what the node
signed for this counterparty. `Move` says once what a poll can do; every
invariant of an entry is proved by cases on it.

An operation or an inbound request starts only while the `Guard` is free. An
operation that is dropped while it waits leaves the entry as an error does.
-/

set_option autoImplicit false

namespace Guac

open Foundation

/-- Who started the operation that holds the `Guard`. -/
inductive Operation where
  | user (op : UserOp)
  | handler (request : Request)
  deriving DecidableEq

/-- A suspended operation. -/
structure Running where
  operation : Operation
  call : Call
  closure : Closure
  deriving DecidableEq

/-- One entry of the storage, its `Guard`, and the signatures made for it. -/
structure Node where
  entry : Option Counterparty
  running : Option Running
  signed : List SignedTx
  deriving DecidableEq

/-- What can happen to an entry. -/
inductive Input where
  | start (op : UserOp)
  | request (request : Request)
  | resume (answer : Result Value)

/-- The operation a poll of the input belongs to, and the poll; `none` while
the `Guard` is held by another operation, or where there is nothing to resume. -/
def Node.poll (crypto : Crypto) (theirAddress : Address) (node : Node) :
    Input → Option (Operation × Poll)
  | .start op =>
      match node.running with
      | none => some (.user op, op.start crypto theirAddress node.entry)
      | some _ => none
  | .request request =>
      match node.running with
      | none => some (.handler request, request.start crypto theirAddress node.entry)
      | some _ => none
  | .resume answer =>
      match node.running with
      | none => none
      | some running =>
          match running.closure.resume crypto theirAddress node.entry answer with
          | none => none
          | some poll => some (running.operation, poll)

def Node.operation (node : Node) : Input → Option Operation
  | .start op => some (.user op)
  | .request request => some (.handler request)
  | .resume _ => node.running.map Running.operation

def Poll.running (operation : Operation) (poll : Poll) : Option Running :=
  match poll.next with
  | .resolved _ => none
  | .suspended call closure => some ⟨operation, call, closure⟩

def Node.after (node : Node) (operation : Operation) (poll : Poll) : Node where
  entry := poll.entry
  running := poll.running operation
  signed := node.signed ++ poll.signed

def Node.step (crypto : Crypto) (theirAddress : Address) (node : Node) (input : Input) :
    Option Node :=
  match node.poll crypto theirAddress input with
  | none => none
  | some (operation, poll) => some (node.after operation poll)

/-- A node that has never heard of the counterparty. -/
def Node.fresh : Node := ⟨none, none, []⟩

/-- One entry against an arbitrary peer, network and chain. -/
def entryMachine (crypto : Crypto) (theirAddress : Address) : Machine Node Input :=
  ⟨Node.step crypto theirAddress⟩

/-! ### What a poll can do -/

def ReDrawKind.op (kind : ReDrawKind) (amount : Uint256) : UserOp :=
  match kind with
  | .fill => .fillChannel amount
  | .withdraw => .withdraw amount

/-- The redraw a node proposes from its copy of the channel. -/
structure Proposes (channel : Channel) (newBalance0 newBalance1 : Uint256) (tx : ReDrawTx) :
    Prop where
  channelId : tx.channelId = channel.channelId
  sequenceNumber : tx.sequenceNumber.toNat = channel.sequenceNumber.toNat + 1
  oldBalance0 : tx.oldBalance0 = channel.balance0
  oldBalance1 : tx.oldBalance1 = channel.balance1
  newBalance0 : tx.newBalance0 = newBalance0
  newBalance1 : tx.newBalance1 = newBalance1
  unsigned : tx.unsigned = tx

/-- An entry of a channel after `check_accrual`. -/
inductive Accrued : Counterparty → Counterparty → Prop
  | opened (channel : Channel) : Accrued (.opened channel) (.opened channel.checkAccrual.1)
  | reDrawing (tx : ReDrawTx) (channel : Channel) :
      Accrued (.reDrawing tx channel) (.reDrawing tx channel.checkAccrual.1)
  | otherReDrawing (tx : ReDrawTx) (channel : Channel) :
      Accrued (.otherReDrawing tx channel) (.otherReDrawing tx channel.checkAccrual.1)

/-- Everything a poll can do: the entry and the closure it starts from, its
input, and the poll. -/
inductive Move (crypto : Crypto) (theirAddress : Address) :
    Option Counterparty → Option Closure → Input → Poll → Prop
  | refused {entry after : Option Counterparty} {input : Input} {fault : Fault}
      (kept : after = entry ∨
        entry = none ∧ after = some (makeCounterpartyIfNone theirAddress crypto.ownAddress none)) :
      Move crypto theirAddress entry none input (.fail after fault)
  | failed {entry : Option Counterparty} {closure : Closure} {answer : Result Value}
      {fault : Fault} :
      Move crypto theirAddress entry (some closure) (.resume answer) (.fail entry fault)
  | fillNew {entry : Option Counterparty} {iAm0 : Bool} {amount : Uint256}
      (found : makeCounterpartyIfNone theirAddress crypto.ownAddress entry = .new iAm0) :
      Move crypto theirAddress entry none (.start (.fillChannel amount))
        (.await (some (.new iAm0)) (.chain .getCurrentBlock) (.fillNewBlock iAm0 amount))
  | proposeNew {entry : Option Counterparty} {iAm0 : Bool} {amount block expiration : Uint256} :
      Move crypto theirAddress entry (some (.fillNewBlock iAm0 amount))
        (.resume (.ok (.block block)))
        (.await entry
          (.peer (.proposeChannel (proposedChannel crypto theirAddress iAm0 amount expiration)))
          (.fillNewSignature iAm0 amount
            (proposedChannel crypto theirAddress iAm0 amount expiration)))
  | signNew {entry : Option Counterparty} {iAm0 : Bool} {amount : Uint256} {tx : NewChannelTx}
      {signature : Signature} {signature0 signature1 : Option Signature}
      (recovers : signature.recover crypto (tx.fingerprint crypto) = .ok theirAddress) :
      Move crypto theirAddress entry (some (.fillNewSignature iAm0 amount tx))
        (.resume (.ok (.signature signature)))
        ⟨some (.creating tx iAm0), [.newChannel tx.unsigned],
          .suspended (.chain (.depositThenNewChannel amount { tx with signature0, signature1 }))
            (.fillNewDeposited iAm0 tx.balance0 tx.balance1)⟩
  | deposited {entry : Option Counterparty} {iAm0 : Bool} {balance0 balance1 : Uint256}
      {channelId : Bytes32} :
      Move crypto theirAddress entry (some (.fillNewDeposited iAm0 balance0 balance1))
        (.resume (.ok (.channelId channelId)))
        (.await entry (.peer .notifyChannelOpened)
          (.fillNewNotified iAm0 balance0 balance1 channelId))
  | openedAsProposer {entry : Option Counterparty} {iAm0 : Bool} {balance0 balance1 : Uint256}
      {channelId : Bytes32} :
      Move crypto theirAddress entry (some (.fillNewNotified iAm0 balance0 balance1 channelId))
        (.resume (.ok .unit))
        (.succeed (some (.opened
          { channelId, sequenceNumber := 0, balance0, balance1, accrual := 0, iAm0 })) .unit)
  | startReDraw {kind : ReDrawKind} {amount : Uint256} {channel : Channel}
      {newBalance0 newBalance1 : Uint256}
      (balances : reDrawBalances kind channel amount = .ok (newBalance0, newBalance1)) :
      Move crypto theirAddress (some (.opened channel)) none (.start (kind.op amount))
        (.await (some (.opened channel)) (.chain .getCurrentBlock)
          (.reDrawBlock kind amount channel newBalance0 newBalance1))
  | proposeReDraw {entry : Option Counterparty} {kind : ReDrawKind} {amount : Uint256}
      {channel : Channel} {newBalance0 newBalance1 block : Uint256} {tx : ReDrawTx}
      (proposes : Proposes channel newBalance0 newBalance1 tx) :
      Move crypto theirAddress entry
        (some (.reDrawBlock kind amount channel newBalance0 newBalance1))
        (.resume (.ok (.block block)))
        (.await entry (.peer (.proposeReDraw tx))
          (.reDrawSignature kind amount channel newBalance0 newBalance1 tx))
  | signReDraw {entry : Option Counterparty} {kind : ReDrawKind} {amount : Uint256}
      {channel : Channel} {newBalance0 newBalance1 : Uint256} {tx : ReDrawTx}
      {signature : Signature} {signature0 signature1 : Option Signature}
      (recovers : signature.recover crypto (tx.fingerprint crypto) = .ok theirAddress) :
      Move crypto theirAddress entry
        (some (.reDrawSignature kind amount channel newBalance0 newBalance1 tx))
        (.resume (.ok (.signature signature)))
        ⟨some (.reDrawing tx channel), [.reDraw tx.unsigned],
          .suspended (.chain (reDrawSubmission kind amount { tx with signature0, signature1 }))
            (.reDrawSubmitted channel newBalance0 newBalance1)⟩
  | submitted {entry : Option Counterparty} {channel : Channel}
      {newBalance0 newBalance1 : Uint256} :
      Move crypto theirAddress entry (some (.reDrawSubmitted channel newBalance0 newBalance1))
        (.resume (.ok .unit))
        (.await entry (.peer .notifyReDraw) (.reDrawNotified channel newBalance0 newBalance1))
  | reDrawnAsProposer {entry : Option Counterparty} {channel : Channel}
      {newBalance0 newBalance1 : Uint256} :
      Move crypto theirAddress entry (some (.reDrawNotified channel newBalance0 newBalance1))
        (.resume (.ok .unit))
        (.succeed (some (.opened
          { channel with balance0 := newBalance0, balance1 := newBalance1 })) .unit)
  | pay {amount : Uint256} {channel paid : Channel}
      (pays : Channel.Paid channel amount none paid) :
      Move crypto theirAddress (some (.opened channel)) none (.start (.makePayment amount))
        (sendPayment crypto (some (.opened channel)) paid paid.toUpdate
          (.paymentReply amount paid))
  | savePayment {entry : Option Counterparty} {amount : Uint256} {paid : Channel} :
      Move crypto theirAddress entry (some (.paymentReply amount paid))
        (.resume (.ok (.maybeSeq none))) (.succeed (some (.opened paid)) .unit)
  | retryPayment {entry : Option Counterparty} {amount currentSeq : Uint256}
      {paid retried : Channel} (pays : Channel.Paid paid amount (some currentSeq) retried) :
      Move crypto theirAddress entry (some (.paymentReply amount paid))
        (.resume (.ok (.maybeSeq (some currentSeq))))
        (sendPayment crypto entry retried retried.toUpdate .retryReply)
  | retryAccepted {entry : Option Counterparty} :
      Move crypto theirAddress entry (some .retryReply) (.resume (.ok (.maybeSeq none)))
        (.succeed entry .unit)
  | accrue {before after : Counterparty} {amount : Uint256} (accrued : Accrued before after) :
      Move crypto theirAddress (some before) none (.start .checkAccrual)
        (.succeed (some after) (.accrual amount))
  | acceptChannel {entry : Option Counterparty} {iAm0 : Bool} {tx : NewChannelTx}
      (found : makeCounterpartyIfNone theirAddress crypto.ownAddress entry = .new iAm0)
      (checked : ProposalOk crypto theirAddress iAm0 tx) :
      Move crypto theirAddress entry none (.request (.proposeChannel tx))
        ⟨some (.otherCreating tx iAm0), [.newChannel tx.unsigned],
          .resolved (.ok (.signature (crypto.ethSign (tx.fingerprint crypto))))⟩
  | acceptReDraw {channel : Channel} {tx : ReDrawTx}
      (checked : ReDrawOk channel tx) :
      Move crypto theirAddress (some (.opened channel)) none (.request (.proposeReDraw tx))
        ⟨some (.otherReDrawing tx channel), [.reDraw tx.unsigned],
          .resolved (.ok (.signature (crypto.ethSign (tx.fingerprint crypto))))⟩
  | checkOpen {iAm0 : Bool} {tx : NewChannelTx} :
      Move crypto theirAddress (some (.otherCreating tx iAm0)) none
        (.request .notifyChannelOpened)
        (.await (some (.otherCreating tx iAm0))
          (.chain (.checkForOpen (if iAm0 then crypto.ownAddress else theirAddress)
            (if iAm0 then theirAddress else crypto.ownAddress)))
          (.checkedOpen iAm0 tx))
  | openedAsResponder {entry : Option Counterparty} {iAm0 : Bool} {tx : NewChannelTx}
      {channelId : Bytes32} :
      Move crypto theirAddress entry (some (.checkedOpen iAm0 tx))
        (.resume (.ok (.maybeChannelId (some channelId))))
        (.succeed (some (.opened
          { channelId, sequenceNumber := 0, balance0 := tx.balance0, balance1 := tx.balance1,
            accrual := 0, iAm0 })) .unit)
  | checkReDraw {tx : ReDrawTx} {channel : Channel} :
      Move crypto theirAddress (some (.otherReDrawing tx channel)) none (.request .notifyReDraw)
        (.await (some (.otherReDrawing tx channel)) (.chain (.checkForReDraw channel.channelId))
          (.checkedReDraw tx channel))
  | reDrawnAsResponder {entry : Option Counterparty} {tx : ReDrawTx} {channel : Channel} :
      Move crypto theirAddress entry (some (.checkedReDraw tx channel)) (.resume (.ok .unit))
        (.succeed (some (.opened
          { channel with
            balance0 := tx.newBalance0
            balance1 := tx.newBalance1
            sequenceNumber := tx.sequenceNumber })) .unit)
  | stalePayment {channel : Channel} {updateTx : UpdateTx}
      (old : updateTx.sequenceNumber.toNat ≤ channel.sequenceNumber.toNat) :
      Move crypto theirAddress (some (.opened channel)) none (.request (.receivePayment updateTx))
        (.succeed (some (.opened channel)) (.maybeSeq (some channel.sequenceNumber)))
  | acceptPayment {channel received : Channel} {updateTx : UpdateTx}
      (accepts : Channel.Accepted channel updateTx received) :
      Move crypto theirAddress (some (.opened channel)) none (.request (.receivePayment updateTx))
        (.succeed (some (.opened received)) (.maybeSeq none))

section Moves

variable {crypto : Crypto} {theirAddress : Address}

private theorem move_of_reDrawStart (kind : ReDrawKind) {amount : Uint256}
    {channel : Channel} :
    Move crypto theirAddress (some (.opened channel)) none (.start (kind.op amount))
      (reDrawStart kind amount channel) := by
  unfold reDrawStart
  split
  · exact .refused (.inl rfl)
  next balances => exact .startReDraw balances

private theorem move_of_fillChannel {amount : Uint256} {entry : Option Counterparty} :
    Move crypto theirAddress entry none (.start (.fillChannel amount))
      (fillChannel crypto theirAddress amount entry) := by
  cases entry with
  | none => exact .fillNew rfl
  | some counterparty =>
      cases counterparty with
      | new iAm0 => exact .fillNew rfl
      | opened channel => exact move_of_reDrawStart .fill
      | creating | otherCreating | reDrawing | otherReDrawing => exact .refused (.inl rfl)

private theorem move_of_withdraw {amount : Uint256} {entry : Option Counterparty} :
    Move crypto theirAddress entry none (.start (.withdraw amount)) (withdraw amount entry) := by
  cases entry with
  | none => exact .refused (.inl rfl)
  | some counterparty =>
      cases counterparty with
      | opened channel => exact move_of_reDrawStart .withdraw
      | new | creating | otherCreating | reDrawing | otherReDrawing => exact .refused (.inl rfl)

private theorem move_of_makePayment {amount : Uint256} {entry : Option Counterparty} :
    Move crypto theirAddress entry none (.start (.makePayment amount))
      (makePayment crypto amount entry) := by
  cases entry with
  | none => exact .refused (.inl rfl)
  | some counterparty =>
      cases counterparty with
      | opened channel =>
          cases made : channel.makePayment amount none with
          | error fault =>
              simp only [makePayment, withCounterparty, checkForCounterparty, okOr, made]
              exact .refused (.inl rfl)
          | ok result =>
              obtain ⟨paid, updateTx⟩ := result
              obtain ⟨pays, rfl⟩ := Channel.makePayment_ok made
              simp only [makePayment, withCounterparty, checkForCounterparty, okOr, made]
              exact .pay pays
      | new | creating | otherCreating | reDrawing | otherReDrawing => exact .refused (.inl rfl)

private theorem move_of_checkAccrual {entry : Option Counterparty} :
    Move crypto theirAddress entry none (.start .checkAccrual) (checkAccrual entry) := by
  cases entry with
  | none => exact .refused (.inl rfl)
  | some counterparty =>
      cases counterparty with
      | opened channel => exact .accrue (.opened channel)
      | reDrawing tx channel => exact .accrue (.reDrawing tx channel)
      | otherReDrawing tx channel => exact .accrue (.otherReDrawing tx channel)
      | new | creating | otherCreating => exact .refused (.inl rfl)

private theorem move_of_proposeChannel {tx : NewChannelTx} {entry : Option Counterparty} :
    Move crypto theirAddress entry none (.request (.proposeChannel tx))
      (proposeChannel crypto theirAddress tx entry) := by
  unfold proposeChannel
  split
  next iAm0 found =>
    split
    next fault _ =>
      refine .refused ?_
      cases entry with
      | none => exact .inr ⟨rfl, by rw [found]⟩
      | some counterparty => exact .inl (congrArg some found.symm)
    next checked => exact .acceptChannel found (checkNewChannelTx_ok.mp checked)
  next other notNew =>
    cases entry with
    | none => exact absurd rfl (notNew _)
    | some counterparty => exact .refused (.inl rfl)

private theorem move_of_proposeReDraw {tx : ReDrawTx} {entry : Option Counterparty} :
    Move crypto theirAddress entry none (.request (.proposeReDraw tx))
      (proposeReDraw crypto tx entry) := by
  cases entry with
  | none => exact .refused (.inl rfl)
  | some counterparty =>
      cases counterparty with
      | opened channel =>
          cases checked : checkReDrawTx channel tx with
          | error fault =>
              simp only [proposeReDraw, withCounterparty, checkForCounterparty, okOr, checked]
              exact .refused (.inl rfl)
          | ok passed =>
              simp only [proposeReDraw, withCounterparty, checkForCounterparty, okOr, checked]
              exact .acceptReDraw (checkReDrawTx_ok.mp checked)
      | new | creating | otherCreating | reDrawing | otherReDrawing => exact .refused (.inl rfl)

private theorem move_of_notifyChannelOpened {entry : Option Counterparty} :
    Move crypto theirAddress entry none (.request .notifyChannelOpened)
      (notifyChannelOpened crypto theirAddress entry) := by
  cases entry with
  | none => exact .refused (.inl rfl)
  | some counterparty =>
      cases counterparty with
      | otherCreating tx iAm0 => exact .checkOpen
      | new | creating | reDrawing | otherReDrawing | opened => exact .refused (.inl rfl)

private theorem move_of_notifyReDraw {entry : Option Counterparty} :
    Move crypto theirAddress entry none (.request .notifyReDraw) (notifyReDraw entry) := by
  cases entry with
  | none => exact .refused (.inl rfl)
  | some counterparty =>
      cases counterparty with
      | otherReDrawing tx channel => exact .checkReDraw
      | new | creating | otherCreating | reDrawing | opened => exact .refused (.inl rfl)

theorem receiveUpdate_ok {channel received : Channel} {updateTx : UpdateTx}
    {reply : Option Uint256}
    (answered : receiveUpdate crypto theirAddress channel updateTx = .ok (received, reply)) :
    (∃ signature, theirSignature channel.iAm0 updateTx = some signature ∧
        signature.recover crypto (updateTx.fingerprint crypto) = .ok theirAddress) ∧
      channel.receivePayment updateTx = .ok (received, reply) := by
  unfold receiveUpdate at answered
  obtain ⟨signature, slot, answered⟩ := bind_eq_ok.mp answered
  obtain ⟨recovered, recovers, answered⟩ := bind_eq_ok.mp answered
  by_cases same : recovered = theirAddress
  · subst same
    rw [if_neg (not_not.mpr rfl)] at answered
    exact ⟨⟨signature, okOr_eq_ok.mp slot, recovers⟩, answered⟩
  · rw [if_pos same] at answered
    cases answered

private theorem move_of_receivePayment {updateTx : UpdateTx} {entry : Option Counterparty} :
    Move crypto theirAddress entry none (.request (.receivePayment updateTx))
      (receivePayment crypto theirAddress updateTx entry) := by
  cases entry with
  | none => exact .refused (.inl rfl)
  | some counterparty =>
      cases counterparty with
      | opened channel =>
          cases answered : receiveUpdate crypto theirAddress channel updateTx with
          | error fault =>
              simp only [receivePayment, withCounterparty, checkForCounterparty, okOr, answered]
              exact .refused (.inl rfl)
          | ok result =>
              obtain ⟨received, reply⟩ := result
              simp only [receivePayment, withCounterparty, checkForCounterparty, okOr, answered]
              obtain ⟨old, rfl, rfl⟩ | ⟨rfl, accepts⟩ :=
                Channel.receivePayment_ok (receiveUpdate_ok answered).2
              · exact .stalePayment old
              · exact .acceptPayment accepts
      | new | creating | otherCreating | reDrawing | otherReDrawing => exact .refused (.inl rfl)

private theorem move_of_fillNewOnBlock {entry : Option Counterparty} {iAm0 : Bool}
    {amount block : Uint256} :
    Move crypto theirAddress entry (some (.fillNewBlock iAm0 amount))
      (.resume (.ok (.block block)))
      (fillNewOnBlock crypto theirAddress entry iAm0 amount block) := by
  unfold fillNewOnBlock
  split
  · exact .failed
  · exact .proposeNew

private theorem move_of_fillNewOnSignature {entry : Option Counterparty} {iAm0 : Bool}
    {amount : Uint256} {tx : NewChannelTx} {signature : Signature} :
    Move crypto theirAddress entry (some (.fillNewSignature iAm0 amount tx))
      (.resume (.ok (.signature signature)))
      (fillNewOnSignature crypto theirAddress entry iAm0 amount tx signature) := by
  unfold fillNewOnSignature
  simp only
  split
  · exact .failed
  next address recovered =>
    split
    · exact .failed
    next same =>
      obtain rfl := not_not.mp same
      exact .signNew recovered

private theorem move_of_reDrawOnBlock {entry : Option Counterparty} {kind : ReDrawKind}
    {amount : Uint256} {channel : Channel} {newBalance0 newBalance1 block : Uint256} :
    Move crypto theirAddress entry
      (some (.reDrawBlock kind amount channel newBalance0 newBalance1))
      (.resume (.ok (.block block)))
      (reDrawOnBlock entry kind amount channel newBalance0 newBalance1 block) := by
  unfold reDrawOnBlock
  split
  · exact .failed
  next counted =>
    obtain ⟨sequenceNumber, added, counted⟩ := bind_eq_ok.mp counted
    obtain ⟨expiration, -, counted⟩ := bind_eq_ok.mp counted
    obtain ⟨rfl, rfl⟩ := Prod.mk.inj (Except.ok.inj counted)
    exact .proposeReDraw ⟨rfl, Uint256.add_eq_ok.mp added, rfl, rfl, rfl, rfl, rfl⟩

private theorem move_of_reDrawOnSignature {entry : Option Counterparty} {kind : ReDrawKind}
    {amount : Uint256} {channel : Channel} {newBalance0 newBalance1 : Uint256} {tx : ReDrawTx}
    {signature : Signature} :
    Move crypto theirAddress entry
      (some (.reDrawSignature kind amount channel newBalance0 newBalance1 tx))
      (.resume (.ok (.signature signature)))
      (reDrawOnSignature crypto theirAddress entry kind amount channel newBalance0 newBalance1 tx
        signature) := by
  unfold reDrawOnSignature
  simp only
  split
  · exact .failed
  next address recovered =>
    split
    · exact .failed
    next same =>
      obtain rfl := not_not.mp same
      exact .signReDraw recovered

private theorem move_of_makePaymentOnReply {entry : Option Counterparty} {amount : Uint256}
    {channel : Channel} {reply : Option Uint256} :
    Move crypto theirAddress entry (some (.paymentReply amount channel))
      (.resume (.ok (.maybeSeq reply)))
      (makePaymentOnReply crypto entry amount channel reply) := by
  cases reply with
  | none => exact .savePayment
  | some currentSeq =>
      cases made : channel.makePayment amount (some currentSeq) with
      | error fault =>
          simp only [makePaymentOnReply, made]
          exact .failed
      | ok result =>
          obtain ⟨paid, updateTx⟩ := result
          obtain ⟨pays, rfl⟩ := Channel.makePayment_ok made
          simp only [makePaymentOnReply, made]
          exact .retryPayment pays

private theorem move_of_apply {entry : Option Counterparty} {closure : Closure} {value : Value}
    {poll : Poll} (applied : closure.apply crypto theirAddress entry value = some poll) :
    Move crypto theirAddress entry (some closure) (.resume (.ok value)) poll := by
  unfold Closure.apply at applied
  split at applied <;> cases applied
  · exact move_of_fillNewOnBlock
  · exact move_of_fillNewOnSignature
  · exact .deposited
  · exact .openedAsProposer
  · exact move_of_reDrawOnBlock
  · exact move_of_reDrawOnSignature
  · exact .submitted
  · exact .reDrawnAsProposer
  · exact move_of_makePaymentOnReply
  next reply =>
    cases reply with
    | none => exact .retryAccepted
    | some => exact .failed
  next maybeChannelId =>
    cases maybeChannelId with
    | none => exact .failed
    | some => exact .openedAsResponder
  · exact .reDrawnAsResponder

theorem poll_start {node : Node} {op : UserOp} {operation : Operation} {poll : Poll}
    (polled : node.poll crypto theirAddress (.start op) = some (operation, poll)) :
    node.running = none ∧ operation = .user op ∧
      poll = op.start crypto theirAddress node.entry := by
  unfold Node.poll at polled
  cases idle : node.running with
  | some running => simp [idle] at polled
  | none =>
      simp only [idle, Option.some.injEq, Prod.mk.injEq] at polled
      exact ⟨rfl, polled.1.symm, polled.2.symm⟩

theorem poll_request {node : Node} {request : Request} {operation : Operation} {poll : Poll}
    (polled : node.poll crypto theirAddress (.request request) = some (operation, poll)) :
    node.running = none ∧ operation = .handler request ∧
      poll = request.start crypto theirAddress node.entry := by
  unfold Node.poll at polled
  cases idle : node.running with
  | some running => simp [idle] at polled
  | none =>
      simp only [idle, Option.some.injEq, Prod.mk.injEq] at polled
      exact ⟨rfl, polled.1.symm, polled.2.symm⟩

theorem poll_resume {node : Node} {answer : Result Value} {operation : Operation} {poll : Poll}
    (polled : node.poll crypto theirAddress (.resume answer) = some (operation, poll)) :
    ∃ running, node.running = some running ∧ operation = running.operation ∧
      running.closure.resume crypto theirAddress node.entry answer = some poll := by
  unfold Node.poll at polled
  cases held : node.running with
  | none => simp [held] at polled
  | some running =>
      simp only [held] at polled
      cases resumed : running.closure.resume crypto theirAddress node.entry answer with
      | none => simp [resumed] at polled
      | some resumedPoll =>
          simp only [resumed, Option.some.injEq, Prod.mk.injEq] at polled
          obtain ⟨rfl, rfl⟩ := polled
          exact ⟨running, rfl, rfl, resumed⟩

theorem resume_error {node : Node} {running : Running} {fault : Fault}
    (holds : node.running = some running) :
    node.poll crypto theirAddress (.resume (.error fault)) =
      some (running.operation, .fail node.entry fault) := by
  unfold Node.poll
  simp only [holds, Closure.resume]

theorem operation_of_poll {node : Node} {input : Input} {operation : Operation} {poll : Poll}
    (polled : node.poll crypto theirAddress input = some (operation, poll)) :
    node.operation input = some operation := by
  cases input with
  | start op => rw [(poll_start polled).2.1, Node.operation]
  | request request => rw [(poll_request polled).2.1, Node.operation]
  | resume answer =>
      obtain ⟨running, holds, rfl, -⟩ := poll_resume polled
      simp [Node.operation, holds]

/-- While an operation holds the `Guard`, every poll is one of that operation. -/
theorem operation_of_held {node : Node} {input : Input} {operation held : Operation}
    {poll : Poll} {call : Call} {closure : Closure}
    (polled : node.poll crypto theirAddress input = some (operation, poll))
    (holds : node.running = some ⟨held, call, closure⟩) : operation = held := by
  cases input with
  | start => cases holds.symm.trans (poll_start polled).1
  | request => cases holds.symm.trans (poll_request polled).1
  | resume =>
      obtain ⟨running, same, rfl, -⟩ := poll_resume polled
      exact congrArg Running.operation (Option.some.inj (same.symm.trans holds))

theorem move_of_start (op : UserOp) (entry : Option Counterparty) :
    Move crypto theirAddress entry none (.start op) (op.start crypto theirAddress entry) := by
  cases op with
  | fillChannel => exact move_of_fillChannel
  | withdraw => exact move_of_withdraw
  | makePayment => exact move_of_makePayment
  | checkAccrual => exact move_of_checkAccrual

theorem move_of_resume {entry : Option Counterparty} {closure : Closure} {answer : Result Value}
    {poll : Poll} (resumed : closure.resume crypto theirAddress entry answer = some poll) :
    Move crypto theirAddress entry (some closure) (.resume answer) poll := by
  cases answer with
  | error fault =>
      obtain rfl := Option.some.inj resumed
      exact .failed
  | ok value => exact move_of_apply resumed

/-- The inversion rule of an entry: a poll is one of the moves. -/
theorem move_of_poll {node : Node} {input : Input} {operation : Operation} {poll : Poll}
    (polled : node.poll crypto theirAddress input = some (operation, poll)) :
    Move crypto theirAddress node.entry (node.running.map Running.closure) input poll := by
  cases input with
  | start op =>
      obtain ⟨idle, -, rfl⟩ := poll_start polled
      rw [idle]
      exact move_of_start op node.entry
  | request request =>
      obtain ⟨idle, -, rfl⟩ := poll_request polled
      rw [idle]
      cases request with
      | proposeChannel => exact move_of_proposeChannel
      | proposeReDraw => exact move_of_proposeReDraw
      | notifyChannelOpened => exact move_of_notifyChannelOpened
      | notifyReDraw => exact move_of_notifyReDraw
      | receivePayment => exact move_of_receivePayment
  | resume answer =>
      obtain ⟨running, holds, -, resumed⟩ := poll_resume polled
      rw [holds]
      exact move_of_resume resumed

theorem step_eq_some {node after : Node} {input : Input} :
    node.step crypto theirAddress input = some after ↔
      ∃ operation poll, node.poll crypto theirAddress input = some (operation, poll) ∧
        after = node.after operation poll := by
  unfold Node.step
  cases polled : node.poll crypto theirAddress input with
  | none => simp
  | some result =>
      obtain ⟨operation, poll⟩ := result
      constructor
      · intro stepped
        exact ⟨operation, poll, rfl, (Option.some.inj stepped).symm⟩
      · rintro ⟨_, _, same, rfl⟩
        obtain ⟨rfl, rfl⟩ := Prod.mk.inj (Option.some.inj same)
        rfl

end Moves

namespace Sample

/-- Node 1 opens channel 7 with node 2, with 10 of its own. -/
def opens : List Input :=
  let tx := proposedChannel (Sample.crypto 1) 2 true 10 41
  [.start (.fillChannel 10), .resume (.ok (.block 1)),
    .resume (.ok (.signature ((Sample.crypto 2).ethSign (tx.fingerprint (Sample.crypto 2))))),
    .resume (.ok (.channelId 7)), .resume (.ok .unit)]

end Sample

end Guac
