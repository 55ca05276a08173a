import Guac.Node.Coherent

/-!
Owns where the channel of an entry comes from: a poll keeps the channel id, or
opens the channel as the proposer or as the responder of the opening both nodes
signed.
-/

set_option autoImplicit false

namespace Guac

def Counterparty.channel : Counterparty → Option Channel
  | .reDrawing _ channel => some channel
  | .otherReDrawing _ channel => some channel
  | .opened channel => some channel
  | _ => none

def Node.channel (node : Node) : Option Channel := node.entry.bind Counterparty.channel

theorem Node.channel_of_opened {node : Node} {channel : Channel}
    (opened : node.entry = some (.opened channel)) : node.channel = some channel := by
  rw [Node.channel, opened]
  rfl

/-- The channel a transaction opens under an id. -/
def NewChannelTx.channel (tx : NewChannelTx) (channelId : Bytes32) (iAm0 : Bool) : Channel where
  channelId
  sequenceNumber := 0
  balance0 := tx.balance0
  balance1 := tx.balance1
  accrual := 0
  iAm0

/-- Where the channel after a poll comes from. -/
inductive ChannelFrom (node : Node) (input : Input) (operation : Operation) : Channel → Prop
  | kept {channel next : Channel} (had : node.channel = some channel)
      (same : next.channelId = channel.channelId) : ChannelFrom node input operation next
  | proposer {tx : NewChannelTx} {iAm0 : Bool} {amount : Uint256} {channelId : Bytes32}
      (entry : node.entry = some (.creating tx iAm0))
      (holds : node.running = some ⟨.user (.fillChannel amount), .peer .notifyChannelOpened,
        .fillNewNotified iAm0 tx.balance0 tx.balance1 channelId⟩)
      (acknowledged : input = .resume (.ok .unit))
      (belongs : operation = .user (.fillChannel amount)) :
      ChannelFrom node input operation (tx.channel channelId iAm0)
  | responder {tx : NewChannelTx} {iAm0 : Bool} {channelId : Bytes32}
      {address0 address1 : Address} (entry : node.entry = some (.otherCreating tx iAm0))
      (holds : node.running = some ⟨.handler .notifyChannelOpened,
        .chain (.checkForOpen address0 address1), .checkedOpen iAm0 tx⟩)
      (found : input = .resume (.ok (.maybeChannelId (some channelId))))
      (belongs : operation = .handler .notifyChannelOpened) :
      ChannelFrom node input operation (tx.channel channelId iAm0)

variable {crypto : Crypto} {theirAddress : Address}

theorem Coherent.channelFrom {node : Node} {input : Input} {operation : Operation}
    {poll : Poll} {channel : Channel} (coherent : Coherent crypto theirAddress node)
    (polled : node.poll crypto theirAddress input = some (operation, poll))
    (stored : (node.after operation poll).channel = some channel) :
    ChannelFrom node input operation channel := by
  have keeps : ∀ {counterparty : Counterparty} {old : Channel},
      node.entry = some counterparty → counterparty.channel = some old →
      channel.channelId = old.channelId → ChannelFrom node input operation channel := by
    intro counterparty old entry had same
    exact .kept (by rw [Node.channel, entry]; exact had) same
  have kept : poll.entry = node.entry → ChannelFrom node input operation channel := by
    intro unchanged
    have had : node.channel = some channel := by
      rw [← stored, Node.channel, Node.channel, Node.after, unchanged]
    exact .kept had rfl
  change poll.entry.bind Counterparty.channel = some channel at stored
  obtain ⟨entry, closure, found, -, move, -, resumes⟩ := coherent.moved polled
  rw [found] at kept
  cases move with
  | failed | proposeNew | deposited | startReDraw | proposeReDraw | submitted | retryAccepted
  | checkOpen | checkReDraw | stalePayment | pay | retryPayment => exact kept rfl
  | refused unchanged =>
      rcases unchanged with rfl | ⟨rfl, rfl⟩
      · exact kept rfl
      · cases stored
  | fillNew | signNew | acceptChannel => cases stored
  | openedAsProposer =>
      obtain rfl := Option.some.inj stored
      obtain ⟨_, _, rfl, holds, held⟩ := resumes _ rfl
      cases held
      exact .proposer found holds rfl rfl
  | signReDraw =>
      obtain rfl := Option.some.inj stored
      obtain ⟨_, _, rfl, -, held⟩ := resumes _ rfl
      cases held
      exact keeps found rfl rfl
  | reDrawnAsProposer =>
      obtain rfl := Option.some.inj stored
      obtain ⟨_, _, rfl, -, held⟩ := resumes _ rfl
      cases held
      exact keeps found rfl rfl
  | savePayment =>
      obtain rfl := Option.some.inj stored
      obtain ⟨_, _, rfl, -, held⟩ := resumes _ rfl
      cases held with
      | paymentReply _ _ pays => exact keeps found rfl pays.channelId
  | accrue accrued =>
      cases accrued <;>
      · obtain rfl := Option.some.inj stored
        exact keeps found rfl rfl
  | acceptReDraw =>
      obtain rfl := Option.some.inj stored
      exact keeps found rfl rfl
  | openedAsResponder =>
      obtain rfl := Option.some.inj stored
      obtain ⟨_, _, rfl, holds, held⟩ := resumes _ rfl
      cases held
      exact .responder found holds rfl rfl
  | reDrawnAsResponder =>
      obtain rfl := Option.some.inj stored
      obtain ⟨_, _, rfl, -, held⟩ := resumes _ rfl
      cases held
      exact keeps found rfl rfl
  | acceptPayment accepts =>
      obtain rfl := Option.some.inj stored
      exact keeps found rfl accepts.channelId

theorem Coherent.deposited {node : Node} {input : Input} {operation : Operation} {poll : Poll}
    {iAm0 : Bool} {balance0 balance1 : Uint256} {channelId : Bytes32}
    (coherent : Coherent crypto theirAddress node)
    (polled : node.poll crypto theirAddress input = some (operation, poll))
    (suspended : (poll.running operation).map Running.closure =
      some (.fillNewNotified iAm0 balance0 balance1 channelId)) :
    ∃ tx amount signature0 signature1, node.entry = some (.creating tx iAm0) ∧
      poll.entry = node.entry ∧ input = .resume (.ok (.channelId channelId)) ∧
      node.running.map Running.call =
        some (.chain (.depositThenNewChannel amount { tx with signature0, signature1 })) := by
  obtain ⟨entry, closure, found, -, move, -, resumes⟩ := coherent.moved polled
  cases move with
  | deposited =>
      cases suspended
      obtain ⟨_, _, rfl, holds, held⟩ := resumes _ rfl
      cases held with
      | fillNewDeposited _ amount _ signature0 signature1 =>
          exact ⟨_, amount, signature0, signature1, found, found.symm, rfl,
            by rw [holds]; rfl⟩
  | _ => cases suspended

theorem Coherent.opens_first {node : Node} {input : Input} {operation : Operation} {poll : Poll}
    {channel : Channel} (coherent : Coherent crypto theirAddress node)
    (polled : node.poll crypto theirAddress input = some (operation, poll))
    (unstored : node.channel = none)
    (stored : (node.after operation poll).channel = some channel) :
    (node.after operation poll).entry = some (.opened channel) := by
  change poll.entry.bind Counterparty.channel = some channel at stored
  change poll.entry = some (.opened channel)
  obtain ⟨entry, closure, found, -, move, -, resumes⟩ := coherent.moved polled
  rw [Node.channel, found] at unstored
  cases move with
  | failed | proposeNew | deposited | startReDraw | proposeReDraw | submitted | retryAccepted
  | checkOpen | checkReDraw | stalePayment | pay | retryPayment =>
      exact nomatch unstored.symm.trans stored
  | refused unchanged =>
      rcases unchanged with rfl | ⟨rfl, rfl⟩
      · exact nomatch unstored.symm.trans stored
      · cases stored
  | fillNew | signNew | acceptChannel => cases stored
  | openedAsProposer | reDrawnAsProposer | savePayment | openedAsResponder
  | reDrawnAsResponder | acceptPayment =>
      obtain rfl := Option.some.inj stored
      rfl
  | signReDraw =>
      obtain ⟨_, _, rfl, -, held⟩ := resumes _ rfl
      cases held
      cases unstored
  | accrue accrued => cases accrued <;> cases unstored
  | acceptReDraw => cases unstored

/-- A node that signed an opening waits for it until it stores a channel. -/
theorem Coherent.awaits_opening {node : Node} {input : Input} {operation : Operation}
    {poll : Poll} {counterparty : Counterparty} (coherent : Coherent crypto theirAddress node)
    (polled : node.poll crypto theirAddress input = some (operation, poll))
    (stored : node.entry = some counterparty) (signed : ∀ iAm0, counterparty ≠ .new iAm0)
    (waits : (node.after operation poll).channel = none) :
    (node.after operation poll).entry = some counterparty := by
  change poll.entry.bind Counterparty.channel = none at waits
  change poll.entry = some counterparty
  obtain ⟨entry, closure, found, -, move, -, resumes⟩ := coherent.moved polled
  rw [found] at stored
  cases move with
  | failed | proposeNew | deposited | startReDraw | proposeReDraw | submitted | retryAccepted
  | checkOpen | checkReDraw | stalePayment | pay | retryPayment => exact stored
  | refused unchanged =>
      rcases unchanged with rfl | ⟨rfl, -⟩
      · exact stored
      · cases stored
  | fillNew opens | acceptChannel opens =>
      cases stored
      exact absurd opens (signed _)
  | signNew =>
      obtain ⟨_, _, rfl, -, held⟩ := resumes _ rfl
      cases stored
      cases held
      exact absurd rfl (signed _)
  | openedAsProposer | reDrawnAsProposer | savePayment | openedAsResponder
  | reDrawnAsResponder | acceptPayment | signReDraw | acceptReDraw => cases waits
  | accrue accrued => cases accrued <;> cases waits

end Guac
