import Guac.Core.Future

/-!
Owns the user operations of `channel_manager.rs`: `fill_channel`, `withdraw`,
`make_payment` and `check_accrual`, cut into the polls between their waits.
Each closure is named after the operation and the answer it takes.

`fill_channel` on an open channel and `withdraw` are the same chain of closures
in the source, up to the sign of the amount and the submission they make; they
share the closures named `reDraw`.
-/

set_option autoImplicit false

namespace Guac

/-! ### `fill_channel` on a new entry -/

/-- The transaction `fill_channel` proposes from a new entry. -/
def proposedChannel (crypto : Crypto) (theirAddress : Address) (iAm0 : Bool)
    (amount expiration : Uint256) : NewChannelTx where
  address0 := if iAm0 then crypto.ownAddress else theirAddress
  address1 := if iAm0 then theirAddress else crypto.ownAddress
  balance0 := if iAm0 then amount else 0
  balance1 := if iAm0 then 0 else amount
  expiration := expiration
  settlingPeriodLength := 5000
  signature0 := none
  signature1 := none

/-- With the current block: propose the channel. -/
def fillNewOnBlock (crypto : Crypto) (theirAddress : Address) (entry : Option Counterparty)
    (iAm0 : Bool) (amount block : Uint256) : Poll :=
  match block.add 40 with
  | .error fault => .fail entry fault
  | .ok expiration =>
      let newChannelTx := proposedChannel crypto theirAddress iAm0 amount expiration
      .await entry (.peer (.proposeChannel newChannelTx))
        (.fillNewSignature iAm0 amount newChannelTx)

/-- With the signature of the peer: check it, sign, go to `Creating`, submit. -/
def fillNewOnSignature (crypto : Crypto) (theirAddress : Address)
    (entry : Option Counterparty) (iAm0 : Bool) (amount : Uint256)
    (newChannelTx : NewChannelTx) (theirSignature : Signature) : Poll :=
  let fingerprint := newChannelTx.fingerprint crypto
  match theirSignature.recover crypto fingerprint with
  | .error fault => .fail entry fault
  | .ok recoveredAddress =>
      if recoveredAddress ≠ theirAddress then
        .fail entry (.guac (.error "Their signature is incorrect"))
      else
        let mySignature := crypto.ethSign fingerprint
        let signedTx := { newChannelTx with
          signature0 := some (if iAm0 then mySignature else theirSignature)
          signature1 := some (if iAm0 then theirSignature else mySignature) }
        { entry := some (.creating newChannelTx iAm0)
          signed := [.newChannel newChannelTx.unsigned]
          next := .suspended (.chain (.depositThenNewChannel amount signedTx))
            (.fillNewDeposited iAm0 newChannelTx.balance0 newChannelTx.balance1) }

/-- With the channel id: notify the peer. -/
def fillNewOnDeposited (entry : Option Counterparty) (iAm0 : Bool)
    (balance0 balance1 : Uint256) (channelId : Bytes32) : Poll :=
  .await entry (.peer .notifyChannelOpened) (.fillNewNotified iAm0 balance0 balance1 channelId)

/-- With the acknowledgement of the peer: go to `Open`. -/
def fillNewOnNotified (iAm0 : Bool) (balance0 balance1 : Uint256) (channelId : Bytes32) :
    Poll :=
  .succeed (some (.opened
    { channelId, sequenceNumber := 0, balance0, balance1, accrual := 0, iAm0 })) .unit

/-! ### The redraw of an open channel -/

/-- The new balances: the node's own balance plus or minus the amount. -/
def reDrawBalances (kind : ReDrawKind) (channel : Channel) (amount : Uint256) :
    Result (Uint256 × Uint256) := do
  let mine ← match kind with
    | .fill => channel.myBalance.add amount
    | .withdraw => channel.myBalance.sub amount
  .ok (if channel.iAm0 then (mine, channel.balance1) else (channel.balance0, mine))

/-- The start of a redraw: compute the new balances, ask for the block. -/
def reDrawStart (kind : ReDrawKind) (amount : Uint256) (channel : Channel) : Poll :=
  match reDrawBalances kind channel amount with
  | .error fault => .fail (some (.opened channel)) fault
  | .ok (newBalance0, newBalance1) =>
      .await (some (.opened channel)) (.chain .getCurrentBlock)
        (.reDrawBlock kind amount channel newBalance0 newBalance1)

/-- With the current block: propose the redraw. -/
def reDrawOnBlock (entry : Option Counterparty) (kind : ReDrawKind) (amount : Uint256)
    (channel : Channel) (newBalance0 newBalance1 block : Uint256) : Poll :=
  match (do
    let sequenceNumber ← channel.sequenceNumber.add 1
    let expiration ← block.add 40
    .ok (sequenceNumber, expiration) : Result (Uint256 × Uint256)) with
  | .error fault => .fail entry fault
  | .ok (sequenceNumber, expiration) =>
      let reDrawTx : ReDrawTx :=
        { channelId := channel.channelId
          sequenceNumber
          oldBalance0 := channel.balance0
          oldBalance1 := channel.balance1
          newBalance0
          newBalance1
          expiration
          signature0 := none
          signature1 := none }
      .await entry (.peer (.proposeReDraw reDrawTx))
        (.reDrawSignature kind amount channel newBalance0 newBalance1 reDrawTx)

/-- The submission of the two redraws. -/
def reDrawSubmission (kind : ReDrawKind) (amount : Uint256) (reDrawTx : ReDrawTx) : ChainCall :=
  match kind with
  | .fill => .depositThenReDraw amount reDrawTx
  | .withdraw => .reDrawThenWithdraw amount reDrawTx

/-- With the signature of the peer: check it, go to `ReDrawing`, sign, submit. -/
def reDrawOnSignature (crypto : Crypto) (theirAddress : Address)
    (entry : Option Counterparty) (kind : ReDrawKind) (amount : Uint256) (channel : Channel)
    (newBalance0 newBalance1 : Uint256) (reDrawTx : ReDrawTx) (theirSignature : Signature) :
    Poll :=
  let fingerprint := reDrawTx.fingerprint crypto
  match theirSignature.recover crypto fingerprint with
  | .error fault => .fail entry fault
  | .ok recoveredAddress =>
      if recoveredAddress ≠ theirAddress then
        .fail entry (.guac (.error "Their signature is incorrect"))
      else
        let mySignature := crypto.ethSign fingerprint
        let signedTx := { reDrawTx with
          signature0 := some (if channel.iAm0 then mySignature else theirSignature)
          signature1 := some (if channel.iAm0 then theirSignature else mySignature) }
        { entry := some (.reDrawing reDrawTx channel)
          signed := [.reDraw reDrawTx.unsigned]
          next := .suspended (.chain (reDrawSubmission kind amount signedTx))
            (.reDrawSubmitted channel newBalance0 newBalance1) }

/-- With the confirmation of the chain: notify the peer. -/
def reDrawOnSubmitted (entry : Option Counterparty) (channel : Channel)
    (newBalance0 newBalance1 : Uint256) : Poll :=
  .await entry (.peer .notifyReDraw) (.reDrawNotified channel newBalance0 newBalance1)

/-- With the acknowledgement of the peer: go to `Open` with the new balances.
The sequence number of the redraw is not taken over. -/
def reDrawOnNotified (channel : Channel) (newBalance0 newBalance1 : Uint256) : Poll :=
  .succeed (some (.opened
    { channel with balance0 := newBalance0, balance1 := newBalance1 })) .unit

/-! ### The operations -/

def fillChannel (crypto : Crypto) (theirAddress : Address) (amount : Uint256)
    (entry : Option Counterparty) : Poll :=
  match makeCounterpartyIfNone theirAddress crypto.ownAddress entry with
  | .new iAm0 =>
      .await (some (.new iAm0)) (.chain .getCurrentBlock) (.fillNewBlock iAm0 amount)
  | .opened channel => reDrawStart .fill amount channel
  | counterparty => .fail (some counterparty) (.guac .tryAgainLater)

def withdraw (amount : Uint256) (entry : Option Counterparty) : Poll :=
  withCounterparty entry fun counterparty =>
    match counterparty with
    | .opened channel => reDrawStart .withdraw amount channel
    | _ => .fail entry (.guac .tryAgainLater)

/-- One attempt of a payment: sign the update of `paid` and send it. -/
def sendPayment (crypto : Crypto) (entry : Option Counterparty) (paid : Channel)
    (updateTx : UpdateTx) (closure : Closure) : Poll where
  entry := entry
  signed := [.update updateTx.unsigned]
  next := .suspended
    (.peer (.receivePayment
      (updateTx.setSignature paid.iAm0 (crypto.ethSign (updateTx.fingerprint crypto)))))
    closure

/-- `Guac::make_payment`. The payment is made on a copy of the channel. -/
def makePayment (crypto : Crypto) (amount : Uint256) (entry : Option Counterparty) : Poll :=
  withCounterparty entry fun counterparty =>
    match counterparty with
    | .opened channel =>
        match channel.makePayment amount none with
        | .error fault => .fail entry fault
        | .ok (paid, updateTx) =>
            sendPayment crypto entry paid updateTx (.paymentReply amount paid)
    | other => .fail entry (.guac (.wrongState "make payment" other "Open"))

/-- With the reply of the peer: save the copy, or pay again above the sequence
number the peer named. The second payment starts from the copy, which has
already paid once. -/
def makePaymentOnReply (crypto : Crypto) (entry : Option Counterparty) (amount : Uint256)
    (channel : Channel) (reply : Option Uint256) : Poll :=
  match reply with
  | none => .succeed (some (.opened channel)) .unit
  | some currentSeq =>
      match channel.makePayment amount (some currentSeq) with
      | .error fault => .fail entry fault
      | .ok (paid, updateTx) => sendPayment crypto entry paid updateTx .retryReply

/-- With the reply to the second attempt. The copy is dropped. -/
def makePaymentOnRetryReply (entry : Option Counterparty) (reply : Option Uint256) : Poll :=
  match reply with
  | some _ => .fail entry (.guac (.error "Sequence number disagreement"))
  | none => .succeed entry .unit

def checkAccrual (entry : Option Counterparty) : Poll :=
  withCounterparty entry fun counterparty =>
    match counterparty with
    | .opened channel =>
        .succeed (some (.opened channel.checkAccrual.1)) (.accrual channel.checkAccrual.2)
    | .reDrawing reDrawTx channel =>
        .succeed (some (.reDrawing reDrawTx channel.checkAccrual.1))
          (.accrual channel.checkAccrual.2)
    | .otherReDrawing reDrawTx channel =>
        .succeed (some (.otherReDrawing reDrawTx channel.checkAccrual.1))
          (.accrual channel.checkAccrual.2)
    | other => .fail entry (.guac (.wrongState "check_accrual" other "Open"))

def UserOp.start (crypto : Crypto) (theirAddress : Address) (entry : Option Counterparty) :
    UserOp → Poll
  | .fillChannel amount => Guac.fillChannel crypto theirAddress amount entry
  | .withdraw amount => Guac.withdraw amount entry
  | .makePayment amount => Guac.makePayment crypto amount entry
  | .checkAccrual => Guac.checkAccrual entry

end Guac
