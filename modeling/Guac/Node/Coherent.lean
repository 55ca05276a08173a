import Guac.Node.Entry

/-!
Owns what an entry knows between polls: a suspended operation agrees with the
entry whose `Guard` it holds, the role of the entry is the order of the two
addresses, a pending transaction was checked and signed, and nothing was signed
before the entry left `New`. All of it holds after every run of the entry
against an arbitrary peer.

It does not own what two nodes know of each other.
-/

set_option autoImplicit false

namespace Guac

open Foundation

def Crypto.role (crypto : Crypto) (theirAddress : Address) : Bool :=
  decide (crypto.ownAddress < theirAddress)

def Counterparty.role : Counterparty → Bool
  | .new iAm0 => iAm0
  | .creating _ iAm0 => iAm0
  | .otherCreating _ iAm0 => iAm0
  | .reDrawing _ channel => channel.iAm0
  | .otherReDrawing _ channel => channel.iAm0
  | .opened channel => channel.iAm0

def SignedTx.opens : SignedTx → Bool
  | .newChannel _ => true
  | .reDraw _ => false
  | .update _ => false

/-- The request of one attempt of a payment. -/
def paymentRequest (crypto : Crypto) (paid : Channel) : Request :=
  .receivePayment (paid.toUpdate.setSignature paid.iAm0
    (crypto.ethSign (paid.toUpdate.fingerprint crypto)))

section Definitions

variable (crypto : Crypto) (theirAddress : Address)

/-- What a suspended operation knows of the entry it holds: one rule for each
closure. -/
inductive Held : Counterparty → Running → Prop
  | fillNewBlock (iAm0 : Bool) (amount : Uint256) :
      Held (.new iAm0)
        ⟨.user (.fillChannel amount), .chain .getCurrentBlock, .fillNewBlock iAm0 amount⟩
  | fillNewSignature (iAm0 : Bool) (amount expiration : Uint256) {tx : NewChannelTx}
      (proposed : tx = proposedChannel crypto theirAddress iAm0 amount expiration) :
      Held (.new iAm0)
        ⟨.user (.fillChannel amount), .peer (.proposeChannel tx),
          .fillNewSignature iAm0 amount tx⟩
  | fillNewDeposited (iAm0 : Bool) (amount expiration : Uint256) {tx : NewChannelTx}
      (signature0 signature1 : Option Signature)
      (proposed : tx = proposedChannel crypto theirAddress iAm0 amount expiration) :
      Held (.creating tx iAm0)
        ⟨.user (.fillChannel amount),
          .chain (.depositThenNewChannel amount { tx with signature0, signature1 }),
          .fillNewDeposited iAm0 tx.balance0 tx.balance1⟩
  | fillNewNotified (iAm0 : Bool) (amount expiration : Uint256) {tx : NewChannelTx}
      (channelId : Bytes32)
      (proposed : tx = proposedChannel crypto theirAddress iAm0 amount expiration) :
      Held (.creating tx iAm0)
        ⟨.user (.fillChannel amount), .peer .notifyChannelOpened,
          .fillNewNotified iAm0 tx.balance0 tx.balance1 channelId⟩
  | reDrawBlock (kind : ReDrawKind) (amount : Uint256) (channel : Channel)
      {newBalance0 newBalance1 : Uint256}
      (balances : reDrawBalances kind channel amount = .ok (newBalance0, newBalance1)) :
      Held (.opened channel)
        ⟨.user (kind.op amount), .chain .getCurrentBlock,
          .reDrawBlock kind amount channel newBalance0 newBalance1⟩
  | reDrawSignature (kind : ReDrawKind) (amount : Uint256) (channel : Channel)
      {newBalance0 newBalance1 : Uint256} {tx : ReDrawTx}
      (balances : reDrawBalances kind channel amount = .ok (newBalance0, newBalance1))
      (proposes : Proposes channel newBalance0 newBalance1 tx) :
      Held (.opened channel)
        ⟨.user (kind.op amount), .peer (.proposeReDraw tx),
          .reDrawSignature kind amount channel newBalance0 newBalance1 tx⟩
  | reDrawSubmitted (kind : ReDrawKind) (amount : Uint256) (channel : Channel)
      {newBalance0 newBalance1 : Uint256} {tx : ReDrawTx}
      (signature0 signature1 : Option Signature)
      (balances : reDrawBalances kind channel amount = .ok (newBalance0, newBalance1))
      (proposes : Proposes channel newBalance0 newBalance1 tx) :
      Held (.reDrawing tx channel)
        ⟨.user (kind.op amount),
          .chain (reDrawSubmission kind amount { tx with signature0, signature1 }),
          .reDrawSubmitted channel newBalance0 newBalance1⟩
  | reDrawNotified (kind : ReDrawKind) (amount : Uint256) (channel : Channel)
      {newBalance0 newBalance1 : Uint256} {tx : ReDrawTx}
      (balances : reDrawBalances kind channel amount = .ok (newBalance0, newBalance1))
      (proposes : Proposes channel newBalance0 newBalance1 tx) :
      Held (.reDrawing tx channel)
        ⟨.user (kind.op amount), .peer .notifyReDraw,
          .reDrawNotified channel newBalance0 newBalance1⟩
  | paymentReply (amount : Uint256) (channel : Channel) {paid : Channel}
      (pays : Channel.Paid channel amount none paid) :
      Held (.opened channel)
        ⟨.user (.makePayment amount), .peer (paymentRequest crypto paid),
          .paymentReply amount paid⟩
  | retryReply (amount currentSeq : Uint256) (channel : Channel) {paid retried : Channel}
      (pays : Channel.Paid channel amount none paid)
      (again : Channel.Paid paid amount (some currentSeq) retried) :
      Held (.opened channel)
        ⟨.user (.makePayment amount), .peer (paymentRequest crypto retried), .retryReply⟩
  | checkedOpen (tx : NewChannelTx) (iAm0 : Bool) :
      Held (.otherCreating tx iAm0)
        ⟨.handler .notifyChannelOpened,
          .chain (.checkForOpen (if iAm0 then crypto.ownAddress else theirAddress)
            (if iAm0 then theirAddress else crypto.ownAddress)),
          .checkedOpen iAm0 tx⟩
  | checkedReDraw (tx : ReDrawTx) (channel : Channel) :
      Held (.otherReDrawing tx channel)
        ⟨.handler .notifyReDraw, .chain (.checkForReDraw channel.channelId),
          .checkedReDraw tx channel⟩

/-- What stands behind an entry, by its state. -/
def Backed (signed : List SignedTx) : Option Counterparty → Prop
  | none => signed = []
  | some (.new iAm0) => iAm0 = crypto.role theirAddress ∧ signed = []
  | some (.creating tx iAm0) =>
      iAm0 = crypto.role theirAddress ∧ signed.getLast? = some (.newChannel tx.unsigned) ∧
        ∃ amount expiration, tx = proposedChannel crypto theirAddress iAm0 amount expiration
  | some (.otherCreating tx iAm0) =>
      iAm0 = crypto.role theirAddress ∧ signed.getLast? = some (.newChannel tx.unsigned) ∧
        ProposalOk crypto theirAddress iAm0 tx
  | some (.reDrawing tx channel) =>
      channel.iAm0 = crypto.role theirAddress ∧ signed.getLast? = some (.reDraw tx.unsigned) ∧
        ∃ newBalance0 newBalance1, Proposes channel newBalance0 newBalance1 tx
  | some (.otherReDrawing tx channel) =>
      channel.iAm0 = crypto.role theirAddress ∧ signed.getLast? = some (.reDraw tx.unsigned) ∧
        ReDrawOk channel tx
  | some (.opened channel) => channel.iAm0 = crypto.role theirAddress

/-- The invariant of an entry. -/
structure Coherent (node : Node) : Prop where
  held : ∀ running, node.running = some running →
    ∃ counterparty, node.entry = some counterparty ∧
      Held crypto theirAddress counterparty running
  backed : Backed crypto theirAddress node.signed node.entry
  once : (node.signed.filter SignedTx.opens).length ≤ 1

end Definitions

variable {crypto : Crypto} {theirAddress : Address}

theorem coherent_fresh : Coherent crypto theirAddress .fresh where
  held := by simp [Node.fresh]
  backed := rfl
  once := by simp [Node.fresh]

/-- The move of a poll: the entry and the closure it starts from, and what the
operation it resumes knows of that entry. -/
theorem Coherent.moved {node : Node} {input : Input} {operation : Operation} {poll : Poll}
    (coherent : Coherent crypto theirAddress node)
    (polled : node.poll crypto theirAddress input = some (operation, poll)) :
    ∃ entry closure, node.entry = entry ∧ node.running.map Running.closure = closure ∧
      Move crypto theirAddress entry closure input poll ∧
      node.operation input = some operation ∧
      ∀ known, closure = some known → ∃ call counterparty, entry = some counterparty ∧
        node.running = some ⟨operation, call, known⟩ ∧
        Held crypto theirAddress counterparty ⟨operation, call, known⟩ := by
  refine ⟨_, _, rfl, rfl, move_of_poll polled, operation_of_poll polled, ?_⟩
  intro known suspended
  obtain ⟨⟨_, call, _⟩, holds, rfl⟩ := Option.map_eq_some_iff.mp suspended
  obtain ⟨counterparty, entry, knows⟩ := coherent.held _ holds
  obtain rfl := operation_of_held polled holds
  exact ⟨call, counterparty, entry, holds, knows⟩

theorem Coherent.of_new {node : Node} (coherent : Coherent crypto theirAddress node)
    (iAm0 : Bool)
    (found : makeCounterpartyIfNone theirAddress crypto.ownAddress node.entry = .new iAm0) :
    iAm0 = crypto.role theirAddress ∧ node.signed = [] := by
  have backed := coherent.backed
  cases entry : node.entry with
  | none =>
      rw [entry] at found backed
      exact ⟨(Counterparty.new.inj found).symm, backed⟩
  | some counterparty =>
      rw [entry] at found backed
      obtain rfl : counterparty = .new iAm0 := found
      exact backed

theorem Coherent.held_after {node : Node} {input : Input} {operation : Operation} {poll : Poll}
    (coherent : Coherent crypto theirAddress node)
    (polled : node.poll crypto theirAddress input = some (operation, poll)) :
    ∀ running, poll.running operation = some running →
      ∃ counterparty, poll.entry = some counterparty ∧
        Held crypto theirAddress counterparty running := by
  obtain ⟨entry, closure, -, -, move, same, resumes⟩ := coherent.moved polled
  intro running suspended
  cases move with
  | refused | failed | openedAsProposer | reDrawnAsProposer | savePayment | retryAccepted
  | accrue | acceptChannel | acceptReDraw | openedAsResponder | reDrawnAsResponder
  | stalePayment | acceptPayment => cases suspended
  | fillNew found =>
      obtain rfl := Option.some.inj same
      obtain rfl := Option.some.inj suspended
      exact ⟨_, rfl, .fillNewBlock _ _⟩
  | proposeNew =>
      obtain ⟨_, _, rfl, -, held⟩ := resumes _ rfl
      obtain rfl := Option.some.inj suspended
      cases held
      exact ⟨_, rfl, .fillNewSignature _ _ _ rfl⟩
  | signNew =>
      obtain ⟨_, _, rfl, -, held⟩ := resumes _ rfl
      obtain rfl := Option.some.inj suspended
      cases held with
      | fillNewSignature _ _ expiration proposed =>
          exact ⟨_, rfl, .fillNewDeposited _ _ expiration _ _ proposed⟩
  | deposited =>
      obtain ⟨_, _, rfl, -, held⟩ := resumes _ rfl
      obtain rfl := Option.some.inj suspended
      cases held with
      | fillNewDeposited _ _ expiration _ _ proposed =>
          exact ⟨_, rfl, .fillNewNotified _ _ expiration _ proposed⟩
  | startReDraw balances =>
      obtain rfl := Option.some.inj same
      obtain rfl := Option.some.inj suspended
      exact ⟨_, rfl, .reDrawBlock _ _ _ balances⟩
  | proposeReDraw proposes =>
      obtain ⟨_, _, rfl, -, held⟩ := resumes _ rfl
      obtain rfl := Option.some.inj suspended
      cases held with
      | reDrawBlock _ _ _ balances => exact ⟨_, rfl, .reDrawSignature _ _ _ balances proposes⟩
  | signReDraw =>
      obtain ⟨_, _, rfl, -, held⟩ := resumes _ rfl
      obtain rfl := Option.some.inj suspended
      cases held with
      | reDrawSignature _ _ _ balances proposes =>
          exact ⟨_, rfl, .reDrawSubmitted _ _ _ _ _ balances proposes⟩
  | submitted =>
      obtain ⟨_, _, rfl, -, held⟩ := resumes _ rfl
      obtain rfl := Option.some.inj suspended
      cases held with
      | reDrawSubmitted kind amount _ _ _ balances proposes =>
          exact ⟨_, rfl, .reDrawNotified kind amount _ balances proposes⟩
  | pay pays =>
      obtain rfl := Option.some.inj same
      obtain rfl := Option.some.inj suspended
      exact ⟨_, rfl, .paymentReply _ _ pays⟩
  | retryPayment again =>
      obtain ⟨_, _, rfl, -, held⟩ := resumes _ rfl
      obtain rfl := Option.some.inj suspended
      cases held with
      | paymentReply _ channel pays => exact ⟨_, rfl, .retryReply _ _ _ pays again⟩
  | checkOpen =>
      obtain rfl := Option.some.inj same
      obtain rfl := Option.some.inj suspended
      exact ⟨_, rfl, .checkedOpen _ _⟩
  | checkReDraw =>
      obtain rfl := Option.some.inj same
      obtain rfl := Option.some.inj suspended
      exact ⟨_, rfl, .checkedReDraw _ _⟩

theorem Coherent.backed_after {node : Node} {input : Input} {operation : Operation}
    {poll : Poll} (coherent : Coherent crypto theirAddress node)
    (polled : node.poll crypto theirAddress input = some (operation, poll)) :
    Backed crypto theirAddress (node.signed ++ poll.signed) poll.entry := by
  obtain ⟨entry, closure, found, -, move, -, resumes⟩ := coherent.moved polled
  have ofNew := coherent.of_new
  have backed := coherent.backed
  rw [found] at ofNew backed
  have unchanged := backed
  rw [← List.append_nil node.signed] at unchanged
  cases move with
  | failed | proposeNew | deposited | startReDraw | proposeReDraw | submitted | retryAccepted
  | checkOpen | checkReDraw | stalePayment => exact unchanged
  | refused kept =>
      rcases kept with rfl | ⟨rfl, rfl⟩
      · exact unchanged
      · exact ⟨rfl, unchanged⟩
  | fillNew found => exact ⟨(ofNew _ found).1, by simp [Poll.await, (ofNew _ found).2]⟩
  | signNew =>
      obtain ⟨_, _, rfl, -, held⟩ := resumes _ rfl
      cases held with
      | fillNewSignature _ _ expiration proposed =>
          exact ⟨backed.1, by simp, _, expiration, proposed⟩
  | openedAsProposer =>
      obtain ⟨_, _, rfl, -, held⟩ := resumes _ rfl
      cases held
      exact backed.1
  | signReDraw =>
      obtain ⟨_, _, rfl, -, held⟩ := resumes _ rfl
      cases held with
      | reDrawSignature _ _ _ _ proposes => exact ⟨backed, by simp, _, _, proposes⟩
  | reDrawnAsProposer =>
      obtain ⟨_, _, rfl, -, held⟩ := resumes _ rfl
      cases held
      exact backed.1
  | pay => exact backed
  | savePayment =>
      obtain ⟨_, _, rfl, -, held⟩ := resumes _ rfl
      cases held with
      | paymentReply _ _ pays => exact pays.iAm0.trans backed
  | retryPayment =>
      obtain ⟨_, _, rfl, -, held⟩ := resumes _ rfl
      cases held
      exact backed
  | accrue accrued =>
      cases accrued with
      | opened => exact backed
      | reDrawing =>
          obtain ⟨role, logged, _, _, proposes⟩ := backed
          exact ⟨role, (List.append_nil node.signed).symm ▸ logged, _, _,
            ⟨proposes.1, proposes.2, proposes.3, proposes.4, proposes.5, proposes.6, proposes.7⟩⟩
      | otherReDrawing =>
          obtain ⟨role, logged, checked⟩ := backed
          exact ⟨role, (List.append_nil node.signed).symm ▸ logged,
            ⟨checked.1, checked.2, checked.3, checked.4, checked.5⟩⟩
  | acceptChannel found checked => exact ⟨(ofNew _ found).1, by simp, checked⟩
  | acceptReDraw checked => exact ⟨backed, by simp, checked⟩
  | openedAsResponder =>
      obtain ⟨_, _, rfl, -, held⟩ := resumes _ rfl
      cases held
      exact backed.1
  | reDrawnAsResponder =>
      obtain ⟨_, _, rfl, -, held⟩ := resumes _ rfl
      cases held
      exact backed.1
  | acceptPayment accepts => exact accepts.iAm0.trans backed

/-- A poll that signs the opening of a channel starts from an entry that signed
nothing. -/
theorem Coherent.opens_after {node : Node} {input : Input} {operation : Operation}
    {poll : Poll} (coherent : Coherent crypto theirAddress node)
    (polled : node.poll crypto theirAddress input = some (operation, poll)) :
    poll.signed.filter SignedTx.opens = [] ∨
      node.signed = [] ∧ (poll.signed.filter SignedTx.opens).length = 1 := by
  obtain ⟨entry, closure, found, -, move, -, resumes⟩ := coherent.moved polled
  have ofNew := coherent.of_new
  have backed := coherent.backed
  rw [found] at ofNew backed
  cases move with
  | refused | failed | proposeNew | deposited | startReDraw | proposeReDraw | submitted
  | retryAccepted | checkOpen | checkReDraw | stalePayment | fillNew | openedAsProposer
  | signReDraw | reDrawnAsProposer | pay | savePayment | retryPayment | accrue | acceptReDraw
  | openedAsResponder | reDrawnAsResponder | acceptPayment => exact .inl rfl
  | signNew =>
      obtain ⟨_, _, rfl, -, held⟩ := resumes _ rfl
      cases held
      exact .inr ⟨backed.2, rfl⟩
  | acceptChannel found => exact .inr ⟨(ofNew _ found).2, rfl⟩

/-- The invariant is kept by every poll. -/
theorem Coherent.step {node after : Node} {input : Input}
    (coherent : Coherent crypto theirAddress node)
    (stepped : node.step crypto theirAddress input = some after) :
    Coherent crypto theirAddress after := by
  obtain ⟨operation, poll, polled, rfl⟩ := step_eq_some.mp stepped
  refine ⟨coherent.held_after polled, coherent.backed_after polled, ?_⟩
  change ((node.signed ++ poll.signed).filter SignedTx.opens).length ≤ 1
  rw [List.filter_append, List.length_append]
  have once := coherent.once
  rcases coherent.opens_after polled with none | ⟨fresh, one⟩
  · rw [none, List.length_nil]
    omega
  · rw [fresh, one]
    simp

theorem coherent_of_run {taken : List (Transition Node Input)} {node : Node}
    (run : (entryMachine crypto theirAddress).Run .fresh taken node) :
    Coherent crypto theirAddress node :=
  run.invariant (Coherent crypto theirAddress) coherent_fresh fun _ _ _ coherent stepped =>
    coherent.step stepped

end Guac
