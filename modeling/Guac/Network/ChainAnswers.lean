import Guac.Http.Joining
import Guac.Http.Lookup
import Guac.Network.System

/-!
Owns the answers about openings, from the log the contract emits to what an operation is
told: the network of two nodes lets the chain name only channels it has opened, and this is
what the polls of `blockchain_client.rs` make of the logs.

That the contract emits its event for what it has opened, and in the shape of its interface,
are hypotheses.
-/

set_option autoImplicit false

namespace Guac

open Foundation

/-- The tail of `deposit_then_new_channel`: the id in the log its event resolved with. -/
def depositedChannel (log : Log) : Result Bytes32 :=
  if log.data.length = 32 then .ok (BlockchainClient.wordOfBytes log.data)
  else .error (.failure "Invalid data length in ChannelOpened event")

namespace BlockchainClient

/-- The contract has opened every channel it emits the event of. -/
def TellsOpened (client : BlockchainClient) (chain : Chain) (logs : List Log) : Prop :=
  ∀ log ∈ logs, ∀ address0 address1 channelId,
    client.openedId address0 address1 log = some channelId →
      chain.hasOpened address0 address1 channelId

variable {client : BlockchainClient} {chain : Chain}

theorem event_of_deposit {amount : Uint256} {tx : NewChannelTx} {submission : Submission}
    (submits : client.depositThenNewChannel amount tx = .ok submission) :
    submission.event = client.eventFilter "ChannelOpened(address,address,bytes32)"
      (some [tx.address0.zeroExtend 256]) (some [tx.address1.zeroExtend 256]) := by
  unfold depositThenNewChannel at submits
  obtain ⟨signature0, -, submits⟩ := bind_eq_ok.mp submits
  obtain ⟨signature1, -, submits⟩ := bind_eq_ok.mp submits
  obtain rfl := Except.ok.inj submits
  rfl

theorem mem_of_reported {submission : Submission} {events : List JoinEvent} {log : Log}
    (member : log ∈ reported submission events) :
    log ∈ events.flatMap JoinEvent.logs ∧ submission.event.selects log = true := by
  unfold reported at member
  obtain ⟨inside, selected⟩ := List.mem_filter.mp member
  refine ⟨?_, selected⟩
  obtain ⟨event, within, emitted⟩ := List.mem_flatMap.mp inside
  exact List.mem_flatMap.mpr ⟨event, (List.dropWhile_sublist _).mem within, emitted⟩

/-- The filter of a deposit selects openings of its pair. -/
theorem opened_of_selected {logs : List Log} (emits : client.EmitsOpened logs)
    (tells : client.TellsOpened chain logs) {address0 address1 : Address} {log : Log}
    (member : log ∈ logs)
    (selected : (client.eventFilter "ChannelOpened(address,address,bytes32)"
      (some [address0.zeroExtend 256]) (some [address1.zeroExtend 256])).selects log = true) :
    chain.hasOpened address0 address1 (wordOfBytes log.data) := by
  rw [selects_eq emits member] at selected
  obtain ⟨channelId, opened⟩ := Option.isSome_iff_exists.mp selected
  obtain ⟨-, -, rfl⟩ := openedId_eq_some opened
  exact tells log member address0 address1 _ opened

/-- What the client makes of the logs of the contract, the network lets the chain answer:
a deposit that is confirmed and a lookup that finds a channel name one that is opened
between the two addresses. -/
theorem opening_answers_allowed {logs : List Log} (emits : client.EmitsOpened logs)
    (tells : client.TellsOpened chain logs) :
    (∀ amount tx submission events joining log,
      client.depositThenNewChannel amount tx = .ok submission →
      events.flatMap JoinEvent.logs ⊆ logs →
      (joinMachine submission).replay .start events = some joining →
      joining.result = some (.ok log) →
        chain.mayAnswer (.depositThenNewChannel amount tx)
          ((depositedChannel log).map .channelId) = true) ∧
      ∀ blocks address0 address1, blocks.flatten ⊆ logs →
        chain.mayAnswer (.checkForOpen address0 address1)
          ((client.checkForOpen (fun filter => .ok (ethGetLogs blocks filter)) address0
            address1).map .maybeChannelId) = true := by
  constructor
  · intro amount tx submission events joining log submits within replayed succeeded
    obtain ⟨follows, -, resolved⟩ := Joining.reached_of_replay replayed
    rw [(resolved log succeeded).1] at follows
    generalize events.any JoinEvent.installs = flag at follows
    generalize joining.filter = filter at follows
    cases follows with
    | ready first =>
        obtain ⟨emitted, selected⟩ := mem_of_reported (List.mem_of_head? first)
        rw [event_of_deposit submits] at selected
        have opened := opened_of_selected emits tells (within emitted) selected
        unfold depositedChannel
        split
        · simpa [Except.map, Chain.mayAnswer] using opened
        · rfl
  · intro blocks address0 address1 within
    rw [checkForOpen_eq fun log member => emits log (within member)]
    cases found : (client.openings address0 address1 (newest blocks)).head? with
    | none => rfl
    | some channelId =>
        obtain ⟨log, member, opened⟩ := List.mem_filterMap.mp (List.mem_of_head? found)
        have inside : log ∈ blocks.flatten := by
          rw [flatten_eq_newest]
          exact List.mem_append_right _ member
        have tells := tells log (within inside) address0 address1 channelId opened
        simpa [Except.map, Chain.mayAnswer] using tells

end BlockchainClient

namespace Sample

def openedChain : Chain where
  opened := [(signedOpening.unsigned, BlockchainClient.wordOfBytes openingLog.data)]
  submitted := []
  reDrawn := []
  locked _ := 10

end Sample

/-- The answer to the deposit that opened it is one the network knows. -/
theorem opening_answers_allowed_sample :
    Sample.openedChain.mayAnswer (.depositThenNewChannel 10 Sample.signedOpening)
      ((depositedChannel Sample.openingLog).map .channelId) = true := by
  have emits : Sample.chainClient.EmitsOpened [Sample.openingLog] := by
    unfold BlockchainClient.EmitsOpened
    decide +kernel
  have tells : Sample.chainClient.TellsOpened Sample.openedChain [Sample.openingLog] := by
    intro log member address0 address1 channelId opened
    obtain rfl := List.mem_singleton.mp member
    unfold BlockchainClient.openedId at opened
    split at opened <;> cases opened
    next shape =>
      have topics := shape.2
      simp only [Sample.openingLog, List.cons.injEq] at topics
      obtain ⟨-, second, third, -⟩ := topics
      have first : address0 = 1 := by
        simpa using (congrArg (BitVec.setWidth 160) second).symm
      have other : address1 = 2 := by
        simpa using (congrArg (BitVec.setWidth 160) third).symm
      subst first other
      exact ⟨_, List.mem_singleton.mpr rfl, rfl, rfl, rfl⟩
  exact (BlockchainClient.opening_answers_allowed emits tells).1 10 Sample.signedOpening _
    Sample.confirms _ Sample.openingLog rfl (by simp [Sample.confirms, JoinEvent.logs]) rfl rfl

end Guac
