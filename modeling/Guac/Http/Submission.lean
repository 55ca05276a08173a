import Guac.Core.Future
import Guac.Http.BlockchainClient

/-!
Owns what `blockchain_client.rs` submits: the payload and the value of the three
submission functions and of `quick_deposit`, the event each of the three waits for,
and the transaction `send_raw_transaction` builds from them.

The encoding of a payload, the signature of a transaction and its bytes belong to
the crate `clarity`; a payload is kept as the function name and the tokens that
`encode_call` is given. It does not own the order of the requests: `EventWatch`
and `Nonce` do.
-/

set_option autoImplicit false

namespace Guac

/-- `clarity::abi::Token`, as the client builds them. -/
inductive Token where
  | address (address : Address)
  | uint (value : Uint256)
  | bytes (bytes : List UInt8)
  | signature (signature : Signature)
  deriving DecidableEq

/-- The arguments of `encode_call`. -/
structure Payload where
  function : String
  tokens : List Token
  deriving DecidableEq

/-- The arguments of `send_raw_transaction`. -/
structure RawCall where
  toAddress : Address
  payload : Payload
  value : Uint256
  deriving DecidableEq

/-- `clarity::Transaction`, before it is signed. -/
structure Transaction where
  toAddress : Address
  nonce : Nat
  gasPrice : Uint256
  gasLimit : Uint256
  value : Uint256
  payload : Payload
  deriving DecidableEq

/-- The transaction `send_raw_transaction` signs once it has the gas price and the
transaction count. -/
def RawCall.transaction (call : RawCall) (gasPrice : Uint256) (nonce : Nat) : Transaction where
  toAddress := call.toAddress
  nonce
  gasPrice
  gasLimit := 6721975
  value := call.value
  payload := call.payload

/-- What a submission function joins: the event it waits for, and its transaction. -/
structure Submission where
  event : NewFilter
  call : RawCall

def expect {α : Type} (value : Option α) : Result α := okOr value .panic

namespace BlockchainClient

/-- `wait_for_event`: the filter it installs. -/
def waitForEvent (client : BlockchainClient) (event : String)
    (topic1 topic2 : Option (List Bytes32)) : NewFilter :=
  client.eventFilter event topic1 topic2

def depositThenNewChannel (client : BlockchainClient) (amount : Uint256)
    (newChannelTx : NewChannelTx) : Result Submission := do
  let event := client.waitForEvent "ChannelOpened(address,address,bytes32)"
    (some [newChannelTx.address0.zeroExtend 256]) (some [newChannelTx.address1.zeroExtend 256])
  let signature0 ← expect newChannelTx.signature0
  let signature1 ← expect newChannelTx.signature1
  let payload : Payload :=
    { function :=
        "depositThenNewChannel(address,address,uint256,uint256,uint256,uint256,bytes,bytes)"
      tokens := [.address newChannelTx.address0, .address newChannelTx.address1,
        .uint newChannelTx.balance0, .uint newChannelTx.balance1, .uint newChannelTx.expiration,
        .uint newChannelTx.settlingPeriodLength, .signature signature0, .signature signature1] }
  .ok { event, call := { toAddress := client.contractAddress, payload, value := amount } }

/-- The tokens of a redraw, the same in both functions that submit one. -/
def reDrawTokens (reDrawTx : ReDrawTx) (signature0 signature1 : Signature) : List Token :=
  [.bytes (wordBytes reDrawTx.channelId), .uint reDrawTx.sequenceNumber,
    .uint reDrawTx.oldBalance0, .uint reDrawTx.oldBalance1, .uint reDrawTx.newBalance0,
    .uint reDrawTx.newBalance1, .uint reDrawTx.expiration, .signature signature0,
    .signature signature1]

def depositThenReDraw (client : BlockchainClient) (amount : Uint256) (reDrawTx : ReDrawTx) :
    Result Submission := do
  let event := client.waitForEvent "ChannelReDrawn(bytes32)" (some [reDrawTx.channelId]) none
  let signature0 ← expect reDrawTx.signature0
  let signature1 ← expect reDrawTx.signature1
  let payload : Payload :=
    { function :=
        "depositThenRedraw(bytes32,uint256,uint256,uint256,uint256,uint256,uint256,bytes,bytes)"
      tokens := reDrawTokens reDrawTx signature0 signature1 }
  .ok { event, call := { toAddress := client.contractAddress, payload, value := amount } }

def withdrawFunction : String :=
  "redrawThenWithdraw(uint256,bytes32,uint256,uint256,uint256,uint256,uint256,uint256,bytes,bytes)"

/-- `re_draw_then_withdraw`. The amount is both the first argument and the value of the
transaction. -/
def reDrawThenWithdraw (client : BlockchainClient) (amount : Uint256) (reDrawTx : ReDrawTx) :
    Result Submission := do
  let event := client.waitForEvent "ChannelReDrawn(bytes32)" (some [reDrawTx.channelId]) none
  let signature0 ← expect reDrawTx.signature0
  let signature1 ← expect reDrawTx.signature1
  let payload : Payload :=
    { function := withdrawFunction
      tokens := .uint amount :: reDrawTokens reDrawTx signature0 signature1 }
  .ok { event, call := { toAddress := client.contractAddress, payload, value := amount } }

def quickDeposit (client : BlockchainClient) (value : Uint256) : RawCall where
  toAddress := client.contractAddress
  payload := { function := "quickDeposit()", tokens := [] }
  value

/-- What a call of the `BlockchainApi` submits. -/
def submission (client : BlockchainClient) : ChainCall → Option (Result Submission)
  | .depositThenNewChannel amount newChannelTx =>
      some (client.depositThenNewChannel amount newChannelTx)
  | .depositThenReDraw amount reDrawTx => some (client.depositThenReDraw amount reDrawTx)
  | .reDrawThenWithdraw amount reDrawTx => some (client.reDrawThenWithdraw amount reDrawTx)
  | .getCurrentBlock => none
  | .checkForOpen _ _ => none
  | .checkForReDraw _ => none

end BlockchainClient

/-- The amount a payload asks the contract to pay out: the first argument of
`redrawThenWithdraw`. The other functions pay nothing out. -/
def Payload.paysOut (payload : Payload) : Nat :=
  if payload.function = BlockchainClient.withdrawFunction then
    match payload.tokens with
    | .uint amount :: _ => amount.toNat
    | _ => 0
  else 0

/-- What a transaction attaches, less what it asks the contract to pay out. -/
def RawCall.netOutflow (call : RawCall) : Int := call.value.toNat - call.payload.paysOut

end Guac
