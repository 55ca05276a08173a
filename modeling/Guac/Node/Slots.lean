import Guac.Http.Submission
import Guac.Node.Coherent
import Guac.Node.Enforceability
import Guac.Node.Rollback

/-!
Owns which signature stands in which slot of what an operation of the user sends:
the transactions it hands to the blockchain client, and the updates of a payment.
The role of the entry decides the slots, in five places of the source; here it is
one predicate on the call an operation is suspended on, kept from poll to poll.
-/

set_option autoImplicit false

namespace Guac

section Definitions

variable (crypto : Crypto) (theirAddress : Address) (iAm0 : Bool)

def party0 : Address := if iAm0 then crypto.ownAddress else theirAddress

def party1 : Address := if iAm0 then theirAddress else crypto.ownAddress

/-- Both slots hold a signature of their party over the fingerprint. -/
structure Slots (fingerprint : Bytes32) (signature0 signature1 : Option Signature) : Prop where
  slot0 : ∃ signature, signature0 = some signature ∧
    signature.recover crypto fingerprint = .ok (party0 crypto theirAddress iAm0)
  slot1 : ∃ signature, signature1 = some signature ∧
    signature.recover crypto fingerprint = .ok (party1 crypto theirAddress iAm0)

/-- A call of the chain carries the signatures of both parties, over exactly what it
submits, each in its slot. -/
def ChainCall.InSlots : ChainCall → Prop
  | .depositThenNewChannel _ newChannelTx =>
      Slots crypto theirAddress iAm0 (newChannelTx.fingerprint crypto) newChannelTx.signature0
        newChannelTx.signature1 ∧
      newChannelTx.address0 = party0 crypto theirAddress iAm0 ∧
      newChannelTx.address1 = party1 crypto theirAddress iAm0
  | .depositThenReDraw _ reDrawTx =>
      Slots crypto theirAddress iAm0 (reDrawTx.fingerprint crypto) reDrawTx.signature0
        reDrawTx.signature1
  | .reDrawThenWithdraw _ reDrawTx =>
      Slots crypto theirAddress iAm0 (reDrawTx.fingerprint crypto) reDrawTx.signature0
        reDrawTx.signature1
  | .getCurrentBlock => True
  | .checkForOpen _ _ => True
  | .checkForReDraw _ => True

/-- A call of the peer that pays is signed where a peer of the opposite role looks. -/
def Call.InSlots : Call → Prop
  | .chain call => call.InSlots crypto theirAddress iAm0
  | .peer (.receivePayment updateTx) => SignedByThem crypto crypto.ownAddress (!iAm0) updateTx
  | .peer _ => True

/-- A closure captured the role, and a pending proposal the parties in role order. -/
def Closure.Knows : Closure → Prop
  | .fillNewBlock role _ => role = iAm0
  | .fillNewSignature role _ newChannelTx =>
      role = iAm0 ∧ newChannelTx.address0 = party0 crypto theirAddress iAm0 ∧
        newChannelTx.address1 = party1 crypto theirAddress iAm0
  | .reDrawBlock _ _ channel _ _ => channel.iAm0 = iAm0
  | .reDrawSignature _ _ channel _ _ _ => channel.iAm0 = iAm0
  | .paymentReply _ channel => channel.iAm0 = iAm0
  | _ => True

/-- What a poll waits for is signed in its slots, and so will be what its closure sends. -/
def Poll.InSlots (poll : Poll) : Prop :=
  ∀ call closure, poll.next = .suspended call closure →
    call.InSlots crypto theirAddress iAm0 ∧ closure.Knows crypto theirAddress iAm0

end Definitions

def Next.chainCall : Next → Option ChainCall
  | .suspended (.chain call) _ => some call
  | .suspended (.peer _) _ => none
  | .resolved _ => none

theorem chainCall_eq_some {next : Next} {call : ChainCall} :
    next.chainCall = some call ↔ ∃ closure, next = .suspended (.chain call) closure := by
  cases next with
  | resolved result => simp [Next.chainCall]
  | suspended waits closure => cases waits <;> simp [Next.chainCall]

section Polls

variable {crypto : Crypto} {theirAddress : Address} {iAm0 : Bool} {entry : Option Counterparty}

theorem inSlots_of_resolved {signed : List SignedTx} {result : Result Value} :
    Poll.InSlots crypto theirAddress iAm0 ⟨entry, signed, .resolved result⟩ := by
  intro call closure suspended
  cases suspended

theorem inSlots_of_suspended {signed : List SignedTx} {call : Call} {closure : Closure}
    (slots : call.InSlots crypto theirAddress iAm0)
    (knows : closure.Knows crypto theirAddress iAm0) :
    Poll.InSlots crypto theirAddress iAm0 ⟨entry, signed, .suspended call closure⟩ := by
  rintro _ _ ⟨⟩
  exact ⟨slots, knows⟩

theorem Poll.InSlots.resign {poll : Poll} (slots : poll.InSlots crypto theirAddress iAm0)
    (signed : List SignedTx) : Poll.InSlots crypto theirAddress iAm0 { poll with signed } := slots

/-- The own signature and a checked one of the peer, by role, fill both slots. -/
theorem slots_of_signatures {fingerprint : Bytes32} {theirSignature : Signature}
    (recovers : ∀ data, (crypto.ethSign data).recover crypto data = .ok crypto.ownAddress)
    (checked : theirSignature.recover crypto fingerprint = .ok theirAddress) :
    Slots crypto theirAddress iAm0 fingerprint
      (some (if iAm0 then crypto.ethSign fingerprint else theirSignature))
      (some (if iAm0 then theirSignature else crypto.ethSign fingerprint)) := by
  cases iAm0 with
  | false => exact ⟨⟨_, rfl, checked⟩, ⟨_, rfl, recovers fingerprint⟩⟩
  | true => exact ⟨⟨_, rfl, recovers fingerprint⟩, ⟨_, rfl, checked⟩⟩

theorem inSlots_of_sendPayment {paid : Channel} {closure : Closure}
    (recovers : ∀ data, (crypto.ethSign data).recover crypto data = .ok crypto.ownAddress)
    (role : paid.iAm0 = iAm0) (knows : closure.Knows crypto theirAddress iAm0) :
    Poll.InSlots crypto theirAddress iAm0
      (sendPayment crypto entry paid paid.toUpdate closure) := by
  refine inSlots_of_suspended ⟨crypto.ethSign (paid.toUpdate.fingerprint crypto), ?_, ?_⟩ knows
  · subst role
    cases role : paid.iAm0 <;> rfl
  · rw [← UpdateTx.unsigned_fingerprint (UpdateTx.setSignature _ _ _),
      UpdateTx.setSignature_unsigned]
    exact recovers _

theorem inSlots_of_start
    (recovers : ∀ data, (crypto.ethSign data).recover crypto data = .ok crypto.ownAddress)
    (op : UserOp) :
    Poll.InSlots crypto theirAddress
      (makeCounterpartyIfNone theirAddress crypto.ownAddress entry).role
      (op.start crypto theirAddress entry) := by
  have move := @move_of_start crypto theirAddress op entry
  generalize op.start crypto theirAddress entry = poll at move
  generalize shape : Input.start op = input at move
  generalize idle : (none : Option Closure) = closure at move
  cases move with
  | refused => exact inSlots_of_resolved
  | accrue => exact inSlots_of_resolved
  | fillNew found =>
      rw [found]
      exact inSlots_of_suspended trivial rfl
  | startReDraw => exact inSlots_of_suspended trivial rfl
  | pay pays => exact inSlots_of_sendPayment recovers pays.iAm0 pays.iAm0
  | acceptChannel => cases shape
  | acceptReDraw => cases shape
  | checkOpen => cases shape
  | checkReDraw => cases shape
  | stalePayment => cases shape
  | acceptPayment => cases shape
  | _ => cases idle

theorem inSlots_of_fillNewOnSignature {amount : Uint256} {tx : NewChannelTx}
    {signature : Signature}
    (recovers : ∀ data, (crypto.ethSign data).recover crypto data = .ok crypto.ownAddress)
    (address0 : tx.address0 = party0 crypto theirAddress iAm0)
    (address1 : tx.address1 = party1 crypto theirAddress iAm0) :
    Poll.InSlots crypto theirAddress iAm0
      (fillNewOnSignature crypto theirAddress entry iAm0 amount tx signature) := by
  unfold fillNewOnSignature
  simp only
  split
  · exact inSlots_of_resolved
  next recovered checked =>
    split
    · exact inSlots_of_resolved
    next same =>
      obtain rfl := not_not.mp same
      exact inSlots_of_suspended ⟨slots_of_signatures recovers checked, address0, address1⟩ trivial

theorem inSlots_of_reDrawOnSignature {kind : ReDrawKind} {amount : Uint256} {channel : Channel}
    {newBalance0 newBalance1 : Uint256} {tx : ReDrawTx} {signature : Signature}
    (recovers : ∀ data, (crypto.ethSign data).recover crypto data = .ok crypto.ownAddress) :
    Poll.InSlots crypto theirAddress channel.iAm0
      (reDrawOnSignature crypto theirAddress entry kind amount channel newBalance0 newBalance1 tx
        signature) := by
  unfold reDrawOnSignature
  simp only
  split
  · exact inSlots_of_resolved
  next recovered checked =>
    split
    · exact inSlots_of_resolved
    next same =>
      obtain rfl := not_not.mp same
      have slots := @slots_of_signatures crypto recovered channel.iAm0 _ _ recovers checked
      cases kind with
      | fill => exact inSlots_of_suspended slots trivial
      | withdraw => exact inSlots_of_suspended slots trivial

theorem inSlots_of_makePaymentOnReply {amount : Uint256} {paid : Channel}
    {reply : Option Uint256}
    (recovers : ∀ data, (crypto.ethSign data).recover crypto data = .ok crypto.ownAddress)
    (role : paid.iAm0 = iAm0) :
    Poll.InSlots crypto theirAddress iAm0 (makePaymentOnReply crypto entry amount paid reply) := by
  cases reply with
  | none => exact inSlots_of_resolved
  | some currentSeq =>
      cases made : paid.makePayment amount (some currentSeq) with
      | error fault =>
          simp only [makePaymentOnReply, made]
          exact inSlots_of_resolved
      | ok result =>
          obtain ⟨again, updateTx⟩ := result
          obtain ⟨pays, rfl⟩ := Channel.makePayment_ok made
          simp only [makePaymentOnReply, made]
          exact inSlots_of_sendPayment recovers (pays.iAm0.trans role) trivial

theorem inSlots_of_resume
    (recovers : ∀ data, (crypto.ethSign data).recover crypto data = .ok crypto.ownAddress)
    {closure : Closure} {answer : Result Value} {next : Poll}
    (knows : closure.Knows crypto theirAddress iAm0)
    (resumed : closure.resume crypto theirAddress entry answer = some next) :
    Poll.InSlots crypto theirAddress iAm0 next := by
  cases answer with
  | error fault =>
      obtain rfl := Option.some.inj resumed
      exact inSlots_of_resolved
  | ok value =>
      change closure.apply crypto theirAddress entry value = some next at resumed
      unfold Closure.apply at resumed
      split at resumed <;> cases resumed
      · obtain rfl := knows
        unfold fillNewOnBlock
        split
        · exact inSlots_of_resolved
        · exact inSlots_of_suspended trivial ⟨rfl, rfl, rfl⟩
      · obtain ⟨rfl, address0, address1⟩ := knows
        exact inSlots_of_fillNewOnSignature recovers address0 address1
      · exact inSlots_of_suspended trivial trivial
      · exact inSlots_of_resolved
      · obtain rfl := knows
        unfold reDrawOnBlock
        split
        · exact inSlots_of_resolved
        · exact inSlots_of_suspended trivial rfl
      · obtain rfl := knows
        exact inSlots_of_reDrawOnSignature recovers
      · exact inSlots_of_suspended trivial trivial
      · exact inSlots_of_resolved
      next paid reply => exact inSlots_of_makePaymentOnReply recovers knows
      next reply => cases reply <;> exact inSlots_of_resolved
      next maybeChannelId => cases maybeChannelId <;> exact inSlots_of_resolved
      · exact inSlots_of_resolved

theorem Poll.InSlots.drive
    (recovers : ∀ data, (crypto.ethSign data).recover crypto data = .ok crypto.ownAddress)
    {poll last : Poll} {answers : List (Result Value)}
    (slots : poll.InSlots crypto theirAddress iAm0)
    (driven : poll.drive crypto theirAddress answers = some last) :
    last.InSlots crypto theirAddress iAm0 := by
  induction answers generalizing poll with
  | nil =>
      obtain rfl := Option.some.inj driven
      exact slots
  | cons answer rest inductionHypothesis =>
      cases shape : poll.next with
      | resolved result => cases (Poll.drive_resolved shape driven).1
      | suspended call closure =>
          obtain ⟨next, resumed, driven⟩ := Poll.drive_suspended shape driven
          have onward := inSlots_of_resume recovers (slots call closure shape).2 resumed
          exact inductionHypothesis (onward.resign _) driven

theorem ChainCall.InSlots.submits {call : ChainCall} (slots : call.InSlots crypto theirAddress iAm0)
    {client : BlockchainClient} {submitted : Result Submission}
    (submits : client.submission call = some submitted) :
    ∃ submission, submitted = .ok submission := by
  cases call with
  | depositThenNewChannel amount newChannelTx =>
      obtain ⟨⟨⟨signature0, slot0, -⟩, ⟨signature1, slot1, -⟩⟩, -⟩ := slots
      obtain rfl := Option.some.inj submits
      exact ⟨_, by simp only [BlockchainClient.depositThenNewChannel, slot0, slot1]; rfl⟩
  | depositThenReDraw amount reDrawTx =>
      obtain ⟨⟨signature0, slot0, -⟩, ⟨signature1, slot1, -⟩⟩ := slots
      obtain rfl := Option.some.inj submits
      exact ⟨_, by simp only [BlockchainClient.depositThenReDraw, slot0, slot1]; rfl⟩
  | reDrawThenWithdraw amount reDrawTx =>
      obtain ⟨⟨signature0, slot0, -⟩, ⟨signature1, slot1, -⟩⟩ := slots
      obtain rfl := Option.some.inj submits
      exact ⟨_, by simp only [BlockchainClient.reDrawThenWithdraw, slot0, slot1]; rfl⟩
  | getCurrentBlock | checkForOpen | checkForReDraw => cases submits

/-- An update signed for the opposite role passes the signature checks of
`receive_payment`. -/
theorem receiveUpdate_of_inSlots {updateTx : UpdateTx} {peer : Crypto} {channel : Channel}
    (signed : SignedByThem crypto crypto.ownAddress (!iAm0) updateTx)
    (primitives : peer.primitives = crypto.primitives)
    (contract : peer.contractAddress = crypto.contractAddress) (opposite : channel.iAm0 = !iAm0) :
    receiveUpdate peer crypto.ownAddress channel updateTx = channel.receivePayment updateTx := by
  obtain ⟨signature, slot, recovered⟩ := signed
  apply receiveUpdate_eq
  refine ⟨signature, opposite ▸ slot, ?_⟩
  unfold Signature.recover UpdateTx.fingerprint at recovered ⊢
  rw [primitives, contract]
  exact recovered

/-- Everything an operation of the user submits or sends is signed in the right slots:
what it hands to the blockchain client carries the signature of each party in its slot and
is submitted without a panic, and what it pays passes the signature checks of a peer with
the opposite role. -/
theorem sent_in_slots
    (recovers : ∀ data, (crypto.ethSign data).recover crypto data = .ok crypto.ownAddress)
    {op : UserOp} {answers : List (Result Value)} {poll : Poll}
    (called : op.call crypto theirAddress entry answers = some poll)
    (role : (makeCounterpartyIfNone theirAddress crypto.ownAddress entry).role = iAm0) :
    (∀ call closure, poll.next = .suspended (.chain call) closure →
      call.InSlots crypto theirAddress iAm0 ∧
        ∀ client submitted, BlockchainClient.submission client call = some submitted →
          ∃ submission, submitted = .ok submission) ∧
      ∀ updateTx closure, poll.next = .suspended (.peer (.receivePayment updateTx)) closure →
        ∀ (peer : Crypto) (channel : Channel), peer.primitives = crypto.primitives →
          peer.contractAddress = crypto.contractAddress → channel.iAm0 = !iAm0 →
          receiveUpdate peer crypto.ownAddress channel updateTx =
            channel.receivePayment updateTx := by
  subst role
  have slots := (inSlots_of_start recovers op).drive recovers called
  constructor
  · intro call closure suspended
    have inSlots := (slots _ closure suspended).1
    exact ⟨inSlots, fun client submitted submits => ChainCall.InSlots.submits inSlots submits⟩
  · intro updateTx closure suspended peer channel primitives contract opposite
    exact receiveUpdate_of_inSlots (slots _ closure suspended).1 primitives contract opposite

end Polls

/-- Node 1 fills a new entry with 10, and hands the opening to its client. -/
theorem sent_in_slots_sample :
    ∃ poll ∈ (UserOp.fillChannel 10).call (Sample.crypto 1) 2 none
        ((Sample.fillAnswers (.ok .unit)).take 2),
      ∃ call ∈ poll.next.chainCall, (Call.chain call).submits = true ∧
        call.InSlots (Sample.crypto 1) 2 true := by
  obtain ⟨poll, called, call, waits, submits⟩ :
      ∃ poll ∈ (UserOp.fillChannel 10).call (Sample.crypto 1) 2 none
          ((Sample.fillAnswers (.ok .unit)).take 2),
        ∃ call ∈ poll.next.chainCall, (Call.chain call).submits = true := by
    decide +kernel
  obtain ⟨closure, suspended⟩ := chainCall_eq_some.mp waits
  have recovers : ∀ data, ((Sample.crypto 1).ethSign data).recover (Sample.crypto 1) data =
      .ok (Sample.crypto 1).ownAddress := fun data => if_pos rfl
  exact ⟨poll, called, call, waits, submits,
    ((sent_in_slots recovers called (by decide)).1 call closure suspended).1⟩

end Guac
