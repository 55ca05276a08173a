import Guac.Network.Solvency

/-!
Owns what the signatures of two nodes name: an opening names their addresses in their
order, and any other transaction names a channel that is opened between them. A node has
one key for all its entries; this is what keeps its signatures apart.
-/

set_option autoImplicit false

namespace Guac

open Foundation

/-- The channel a transaction is about, once there is one. -/
def SignedTx.channelId : SignedTx → Option Bytes32
  | .newChannel _ => none
  | .reDraw tx => some tx.channelId
  | .update tx => some tx.channelId

section Polls

variable {crypto : Crypto} {theirAddress : Address} {node : Node} {input : Input}
  {operation : Operation} {poll : Poll}

/-- A poll signs an opening for the two addresses only. -/
theorem Coherent.names_parties {tx : NewChannelTx} (coherent : Coherent crypto theirAddress node)
    (polled : node.poll crypto theirAddress input = some (operation, poll))
    (signs : .newChannel tx ∈ poll.signed) :
    tx.address0 = (if crypto.role theirAddress then crypto.ownAddress else theirAddress) ∧
      tx.address1 = if crypto.role theirAddress then theirAddress else crypto.ownAddress := by
  obtain ⟨entry, closure, found, -, move, -, resumes⟩ := coherent.moved polled
  have backed := coherent.backed
  cases move with
  | signNew =>
      obtain rfl := SignedTx.newChannel.inj (List.mem_singleton.mp signs)
      obtain ⟨_, _, rfl, -, held⟩ := resumes _ rfl
      rw [found] at backed
      cases held with
      | fillNewSignature _ _ _ proposed =>
          rw [proposed, ← backed.1]
          exact ⟨rfl, rfl⟩
  | acceptChannel opens checked =>
      obtain rfl := SignedTx.newChannel.inj (List.mem_singleton.mp signs)
      obtain ⟨rfl, -⟩ := coherent.of_new _ (found ▸ opens)
      exact ⟨checked.address0, checked.address1⟩
  | signReDraw | pay | retryPayment | acceptReDraw => cases List.mem_singleton.mp signs
  | refused | failed | fillNew | proposeNew | deposited | openedAsProposer | startReDraw
  | proposeReDraw | submitted | reDrawnAsProposer | savePayment | retryAccepted | accrue
  | checkOpen | openedAsResponder | checkReDraw | reDrawnAsResponder | stalePayment
  | acceptPayment => cases signs

theorem Coherent.names_channel {tx : SignedTx} {channelId : Bytes32}
    (coherent : Coherent crypto theirAddress node)
    (polled : node.poll crypto theirAddress input = some (operation, poll))
    (signs : tx ∈ poll.signed) (names : tx.channelId = some channelId) :
    ∃ channel, (node.after operation poll).channel = some channel ∧
      channel.channelId = channelId := by
  obtain ⟨entry, closure, found, -, move, -, resumes⟩ := coherent.moved polled
  cases move with
  | signNew | acceptChannel =>
      obtain rfl := List.mem_singleton.mp signs
      cases names
  | signReDraw =>
      obtain rfl := List.mem_singleton.mp signs
      obtain ⟨_, _, rfl, -, held⟩ := resumes _ rfl
      cases held with
      | reDrawSignature _ _ _ _ proposes =>
          exact ⟨_, rfl, proposes.channelId.symm.trans (Option.some.inj names)⟩
  | acceptReDraw checked =>
      obtain rfl := List.mem_singleton.mp signs
      exact ⟨_, rfl, checked.channelId.symm.trans (Option.some.inj names)⟩
  | pay pays =>
      obtain rfl := List.mem_singleton.mp signs
      exact ⟨_, rfl, pays.channelId.symm.trans (Option.some.inj names)⟩
  | retryPayment again =>
      obtain rfl := List.mem_singleton.mp signs
      obtain ⟨_, _, rfl, -, held⟩ := resumes _ rfl
      cases held with
      | paymentReply _ _ pays =>
          have same := again.channelId.trans pays.channelId
          exact ⟨_, rfl, same.symm.trans (Option.some.inj names)⟩
  | refused | failed | fillNew | proposeNew | deposited | openedAsProposer | startReDraw
  | proposeReDraw | submitted | reDrawnAsProposer | savePayment | retryAccepted | accrue
  | checkOpen | openedAsResponder | checkReDraw | reDrawnAsResponder | stalePayment
  | acceptPayment => cases signs

end Polls

namespace Network

variable {parties : Side → Crypto} {before after network : Network} {event : NetworkEvent}

/-- What the signatures of the two nodes name. -/
structure Named (parties : Side → Crypto) (network : Network) : Prop where
  opening : ∀ side tx, .newChannel tx ∈ (network.node side).signed →
    tx.address0 = (if (parties side).role (parties side.other).ownAddress then
        (parties side).ownAddress else (parties side.other).ownAddress) ∧
      tx.address1 = if (parties side).role (parties side.other).ownAddress then
        (parties side.other).ownAddress else (parties side).ownAddress
  channel : ∀ side tx channelId, tx ∈ (network.node side).signed →
    tx.channelId = some channelId → ∃ opening, (opening, channelId) ∈ network.chain.opened

theorem named_fresh : Named parties fresh where
  opening := by simp [fresh, Node.fresh]
  channel := by simp [fresh, Node.fresh]

theorem Named.step (named : Named parties before) (sound : Sound parties before)
    (chained : Chained after) (stepped : before.step parties event = some after) :
    Named parties after := by
  have grows : ∀ opening ∈ before.chain.opened, opening ∈ after.chain.opened := by
    intro opening member
    rcases opened_of_step stepped with same | ⟨_, _, _, _, changed⟩
    · rwa [same]
    · rw [changed]
      exact List.mem_append_left _ member
  constructor
  · intro side tx signed
    rcases sound.node_of_step stepped side with same | ⟨_, _, poll, polls, changed⟩
    · rw [same] at signed
      exact named.opening side tx signed
    · rw [changed] at signed
      rcases List.mem_append.mp signed with earlier | signs
      · exact named.opening side tx earlier
      · exact (sound.coherent side).names_parties polls.polled signs
  · intro side tx channelId signed names
    rcases sound.node_of_step stepped side with same | ⟨_, _, poll, polls, changed⟩
    · rw [same] at signed
      obtain ⟨opening, opened⟩ := named.channel side tx channelId signed names
      exact ⟨opening, grows _ opened⟩
    · rw [changed] at signed
      rcases List.mem_append.mp signed with earlier | signs
      · obtain ⟨opening, opened⟩ := named.channel side tx channelId earlier names
        exact ⟨opening, grows _ opened⟩
      · obtain ⟨channel, stored, rfl⟩ :=
          (sound.coherent side).names_channel polls.polled signs names
        exact chained.channels side channel (changed ▸ stored)

end Network

end Guac
