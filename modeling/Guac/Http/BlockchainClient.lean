import Guac.Core.Types

/-!
Owns the event lookups of `blockchain_client.rs` and the `eth_getLogs` they
rest on. A lookup filters by contract, event signature and up to two topics; it
sets no block range, which `eth_getLogs` reads as the latest block alone.

`DATA` strings are kept as the bytes they print. The signature hash of an event
comes from the crate `clarity` and is a field of the client.
-/

set_option autoImplicit false

namespace Guac

/-- `Log`: what the contract at `address` emitted. -/
structure Log where
  address : Address
  topics : List Bytes32
  data : List UInt8
  deriving DecidableEq

/-- The logs of one block, in order. -/
abbrev Block := List Log

/-- `NewFilter`. A topic position is free, or a list of alternatives of which a
`none` matches anything. -/
structure NewFilter where
  fromBlock : Option Nat
  toBlock : Option Nat
  address : List Address
  topics : List (Option (List (Option Bytes32)))

/-- `NewFilter::default`. -/
def NewFilter.default : NewFilter := ⟨none, none, [], []⟩

/-- Whether the topics of a log match the positions of a filter. -/
def topicsMatch : List (Option (List (Option Bytes32))) → List Bytes32 → Bool
  | [], _ => true
  | none :: rest, [] => topicsMatch rest []
  | none :: rest, _ :: topics => topicsMatch rest topics
  | some _ :: _, [] => false
  | some alternatives :: rest, topic :: topics =>
      alternatives.any (fun alternative => alternative == none || alternative == some topic) &&
        topicsMatch rest topics

/-- Whether a filter selects a log. -/
def NewFilter.selects (filter : NewFilter) (log : Log) : Bool :=
  (filter.address.isEmpty || filter.address.contains log.address) &&
    topicsMatch filter.topics log.topics

/-- `eth_getLogs` over the blocks so far: both ends of the range default to the
latest block. -/
def ethGetLogs (blocks : List Block) (filter : NewFilter) : List Log :=
  let latest := blocks.length - 1
  let first := filter.fromBlock.getD latest
  let last := filter.toBlock.getD latest
  ((blocks.take (last + 1)).drop first).flatten.filter filter.selects

/-- `BlockchainClient`. -/
structure BlockchainClient where
  contractAddress : Address
  deriveSignature : String → Bytes32

namespace BlockchainClient

/-- The filter `check_for_event` builds. -/
def eventFilter (client : BlockchainClient) (event : String)
    (topic1 topic2 : Option (List Bytes32)) : NewFilter :=
  { NewFilter.default with
    address := [client.contractAddress]
    topics := [some [some (client.deriveSignature event)],
      topic1.map fun values => values.map some, topic2.map fun values => values.map some] }

def checkForEvent (client : BlockchainClient) (getLogs : NewFilter → Result (List Log))
    (event : String) (topic1 topic2 : Option (List Bytes32)) : Result (Option Log) := do
  let logs ← getLogs (client.eventFilter event topic1 topic2)
  .ok logs.head?

/-- The number 32 bytes stand for. -/
def wordOfBytes (bytes : List UInt8) : Bytes32 :=
  BitVec.ofNat 256 (bytes.foldl (fun value byte => value * 256 + byte.toNat) 0)

def checkForOpen (client : BlockchainClient) (getLogs : NewFilter → Result (List Log))
    (address0 address1 : Address) : Result (Option Bytes32) := do
  let response ← client.checkForEvent getLogs "ChannelOpened(address,address,bytes32)"
    (some [address0.zeroExtend 256]) (some [address1.zeroExtend 256])
  match response with
  | none => .ok none
  | some log =>
      if log.data.length = 32 then .ok (some (wordOfBytes log.data))
      else .error (.failure "Invalid data length in ChannelOpened event")

theorem checkForOpen_of_none {client : BlockchainClient}
    {getLogs : NewFilter → Result (List Log)} {address0 address1 : Address} {logs : List Log}
    (answered : getLogs (client.eventFilter "ChannelOpened(address,address,bytes32)"
      (some [address0.zeroExtend 256]) (some [address1.zeroExtend 256])) = .ok logs)
    (missing : logs.head? = none) : client.checkForOpen getLogs address0 address1 = .ok none := by
  unfold checkForOpen checkForEvent
  simp only [answered, bind, Except.bind, missing]

theorem checkForOpen_of_some {client : BlockchainClient}
    {getLogs : NewFilter → Result (List Log)} {address0 address1 : Address} {logs : List Log}
    {log : Log} (answered : getLogs (client.eventFilter "ChannelOpened(address,address,bytes32)"
      (some [address0.zeroExtend 256]) (some [address1.zeroExtend 256])) = .ok logs)
    (first : logs.head? = some log) (width : log.data.length = 32) :
    client.checkForOpen getLogs address0 address1 = .ok (some (wordOfBytes log.data)) := by
  unfold checkForOpen checkForEvent
  simp only [answered, bind, Except.bind, first, width, if_true]

def reDrawFilter (client : BlockchainClient) (channelId : Bytes32) : NewFilter :=
  client.eventFilter "ChannelReDrawn(bytes32)" (some [channelId]) none

/-- `check_for_re_draw`. Whatever the lookup finds, it answers `()`. -/
def checkForReDraw (client : BlockchainClient) (getLogs : NewFilter → Result (List Log))
    (channelId : Bytes32) : Result Unit := do
  let _ ← client.checkForEvent getLogs "ChannelReDrawn(bytes32)" (some [channelId]) none
  .ok ()

end BlockchainClient

namespace Sample

def chainClient : BlockchainClient := ⟨99, fun event => BitVec.ofNat 256 event.length⟩

end Sample

end Guac
