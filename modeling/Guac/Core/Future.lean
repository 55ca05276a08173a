import Guac.Core.Crypto
import Guac.Core.Channel

/-!
Owns the shape of one operation of a node. In the source each operation is a
chain of futures that holds the `Guard` of one counterparty entry from
`get_counterparty` to its end; a chain is cut where it waits for the peer or
for the chain. Here an operation is a sequence of polls: each poll reads the
entry, may write it and sign, and either resolves or suspends with the call it
waits for and the closure that takes the answer.

It does not own what the operations do: `ChannelManager` and `CounterpartyApi`
define the polls.
-/

set_option autoImplicit false

namespace Guac

/-- What `eth_sign` was applied to, without the signature slots. -/
inductive SignedTx where
  | newChannel (tx : NewChannelTx)
  | reDraw (tx : ReDrawTx)
  | update (tx : UpdateTx)
  deriving DecidableEq

/-- The user operations of `Guac`. -/
inductive UserOp where
  | fillChannel (amount : Uint256)
  | withdraw (amount : Uint256)
  | makePayment (amount : Uint256)
  | checkAccrual
  deriving DecidableEq

/-- The calls of `CounterpartyApi`. -/
inductive Request where
  | proposeChannel (newChannelTx : NewChannelTx)
  | proposeReDraw (reDrawTx : ReDrawTx)
  | notifyChannelOpened
  | notifyReDraw
  | receivePayment (updateTx : UpdateTx)
  deriving DecidableEq

/-- The calls of `BlockchainApi` an operation waits for. -/
inductive ChainCall where
  | getCurrentBlock
  | depositThenNewChannel (amount : Uint256) (newChannelTx : NewChannelTx)
  | depositThenReDraw (amount : Uint256) (reDrawTx : ReDrawTx)
  | reDrawThenWithdraw (amount : Uint256) (reDrawTx : ReDrawTx)
  | checkForOpen (address0 address1 : Address)
  | checkForReDraw (channelId : Bytes32)
  deriving DecidableEq

/-- A call an operation is suspended on. -/
inductive Call where
  | peer (request : Request)
  | chain (call : ChainCall)
  deriving DecidableEq

/-- What a call or an operation resolves to. -/
inductive Value where
  | unit
  | block (number : Uint256)
  | signature (signature : Signature)
  | channelId (channelId : Bytes32)
  | maybeChannelId (channelId : Option Bytes32)
  | maybeSeq (sequenceNumber : Option Uint256)
  | accrual (amount : Uint256)
  deriving DecidableEq

/-- The two operations that redraw an open channel. -/
inductive ReDrawKind where
  | fill
  | withdraw
  deriving DecidableEq

/-- The closures of the source, each with the variables it captured. -/
inductive Closure where
  | fillNewBlock (iAm0 : Bool) (amount : Uint256)
  | fillNewSignature (iAm0 : Bool) (amount : Uint256) (newChannelTx : NewChannelTx)
  | fillNewDeposited (iAm0 : Bool) (balance0 balance1 : Uint256)
  | fillNewNotified (iAm0 : Bool) (balance0 balance1 : Uint256) (channelId : Bytes32)
  | reDrawBlock (kind : ReDrawKind) (amount : Uint256) (channel : Channel)
      (newBalance0 newBalance1 : Uint256)
  | reDrawSignature (kind : ReDrawKind) (amount : Uint256) (channel : Channel)
      (newBalance0 newBalance1 : Uint256) (reDrawTx : ReDrawTx)
  | reDrawSubmitted (channel : Channel) (newBalance0 newBalance1 : Uint256)
  | reDrawNotified (channel : Channel) (newBalance0 newBalance1 : Uint256)
  | paymentReply (amount : Uint256) (channel : Channel)
  | retryReply
  | checkedOpen (iAm0 : Bool) (newChannelTx : NewChannelTx)
  | checkedReDraw (reDrawTx : ReDrawTx) (channel : Channel)
  deriving DecidableEq

/-- How a poll ends. -/
inductive Next where
  | resolved (result : Result Value)
  | suspended (call : Call) (closure : Closure)

/-- One poll: the entry it leaves, what it signed, and how it ends. -/
structure Poll where
  entry : Option Counterparty
  signed : List SignedTx
  next : Next

namespace Poll

def fail (entry : Option Counterparty) (fault : Fault) : Poll :=
  ⟨entry, [], .resolved (.error fault)⟩

def succeed (entry : Option Counterparty) (value : Value) : Poll :=
  ⟨entry, [], .resolved (.ok value)⟩

def await (entry : Option Counterparty) (call : Call) (closure : Closure) : Poll :=
  ⟨entry, [], .suspended call closure⟩

end Poll

/-- `check_for_counterparty`: the entry, or an error where there is none. -/
def checkForCounterparty (entry : Option Counterparty) : Result Counterparty :=
  okOr entry (.guac (.error "Cannot find counterparty"))

/-- `make_counterparty_if_none`. -/
def makeCounterpartyIfNone (theirAddress myAddress : Address) (entry : Option Counterparty) :
    Counterparty :=
  match entry with
  | some counterparty => counterparty
  | none => .new (decide (myAddress < theirAddress))

/-- Run `body` on the entry `check_for_counterparty` finds. -/
def withCounterparty (entry : Option Counterparty) (body : Counterparty → Poll) : Poll :=
  match checkForCounterparty entry with
  | .ok counterparty => body counterparty
  | .error fault => .fail entry fault

end Guac
