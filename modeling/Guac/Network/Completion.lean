import Guac.Foundation.Countdown
import Guac.Network.Undisturbed
import Guac.Node.Amount
import Guac.Node.Enforceability

/-!
Owns the course of a payment and of a redraw from start to end, undisturbed, on two
copies of a channel between which they are in order: the stages each goes through,
and that they count down to an `Ok`.
-/

set_option autoImplicit false

namespace Guac

open Foundation

/-! ### The polls of an operation in order -/

section Polls

variable {crypto : Crypto} {theirAddress : Address} {kind : ReDrawKind} {amount : Uint256}
  {mine theirs : Channel} {newBalance0 newBalance1 : Uint256} {tx : ReDrawTx}

theorem start_reDraw (balances : reDrawBalances kind mine amount = .ok (newBalance0, newBalance1)) :
    (kind.op amount).start crypto theirAddress (some (.opened mine)) =
      .await (some (.opened mine)) (.chain .getCurrentBlock)
        (.reDrawBlock kind amount mine newBalance0 newBalance1) := by
  rw [start_eq_reDrawStart, reDrawStart, balances]

theorem reDrawOnBlock_eq {entry : Option Counterparty} {block : Uint256}
    (counts : mine.sequenceNumber.toNat + 1 < Uint256.size)
    (room : block.toNat + 40 < Uint256.size) :
    ∃ tx, Proposes mine newBalance0 newBalance1 tx ∧
      reDrawOnBlock entry kind amount mine newBalance0 newBalance1 block =
        .await entry (.peer (.proposeReDraw tx))
          (.reDrawSignature kind amount mine newBalance0 newBalance1 tx) := by
  obtain ⟨sequenceNumber, counted⟩ := @Uint256.add_succeeds _ 1 counts
  obtain ⟨expiration, expires⟩ := @Uint256.add_succeeds _ 40 room
  refine ⟨⟨mine.channelId, sequenceNumber, mine.balance0, mine.balance1, newBalance0,
    newBalance1, expiration, none, none⟩,
    ⟨rfl, Uint256.add_eq_ok.mp counted, rfl, rfl, rfl, rfl, rfl⟩, ?_⟩
  simp only [reDrawOnBlock, counted, expires, bind, Except.bind]

theorem proposeReDraw_eq (checked : ReDrawOk theirs tx) :
    proposeReDraw crypto tx (some (.opened theirs)) =
      ⟨some (.otherReDrawing tx theirs), [.reDraw tx.unsigned],
        .resolved (.ok (.signature (crypto.ethSign (tx.fingerprint crypto))))⟩ := by
  simp only [proposeReDraw, withCounterparty, checkForCounterparty, okOr,
    checkReDrawTx_ok.mpr checked]

theorem reDrawOnSignature_eq {entry : Option Counterparty} {signature : Signature}
    (recovers : signature.recover crypto (tx.fingerprint crypto) = .ok theirAddress) :
    ∃ signature0 signature1,
      reDrawOnSignature crypto theirAddress entry kind amount mine newBalance0 newBalance1 tx
        signature =
      ⟨some (.reDrawing tx mine), [.reDraw tx.unsigned],
        .suspended (.chain (reDrawSubmission kind amount { tx with signature0, signature1 }))
          (.reDrawSubmitted mine newBalance0 newBalance1)⟩ := by
  simp only [reDrawOnSignature, recovers, ne_eq, not_true_eq_false, if_false]
  exact ⟨_, _, rfl⟩

theorem makePayment_eq {paid : Channel}
    (made : mine.makePayment amount none = .ok (paid, paid.toUpdate)) :
    makePayment crypto amount (some (.opened mine)) =
      ⟨some (.opened mine), [.update paid.toUpdate],
        .suspended (.peer (paymentRequest crypto paid)) (.paymentReply amount paid)⟩ := by
  simp only [makePayment, withCounterparty, checkForCounterparty, okOr, made]
  rfl

theorem receivePayment_eq {received : Channel} {updateTx : UpdateTx}
    (signed : SignedByThem crypto theirAddress theirs.iAm0 updateTx)
    (accepts : theirs.receivePayment updateTx = .ok (received, none)) :
    receivePayment crypto theirAddress updateTx (some (.opened theirs)) =
      .succeed (some (.opened received)) (.maybeSeq none) := by
  simp only [receivePayment, withCounterparty, checkForCounterparty, okOr, receiveUpdate_eq signed,
    accepts]

end Polls

/-! ### The answers of a chain that does not fail -/

section Answers

variable {chain : Chain} {side : Side} {answer : Result Value}

theorem block_of_answer (answers : chain.mayAnswer .getCurrentBlock answer = true)
    (undisturbed : (NetworkEvent.answerChain side answer).undisturbed = true) :
    ∃ block : Uint256, answer = .ok (.block block) ∧ block.toNat + 40 < Uint256.size := by
  match answer with
  | .error _ => cases undisturbed
  | .ok (.block block) =>
      refine ⟨block, rfl, ?_⟩
      simpa [NetworkEvent.undisturbed, NetworkEvent.faultless, NetworkEvent.starts] using
        undisturbed
  | .ok .unit | .ok (.signature _) | .ok (.channelId _) | .ok (.maybeChannelId none)
  | .ok (.maybeChannelId (some _)) | .ok (.maybeSeq _) | .ok (.accrual _) => cases answers

theorem unit_of_submission {kind : ReDrawKind} {amount : Uint256} {tx : ReDrawTx}
    (answers : chain.mayAnswer (reDrawSubmission kind amount tx) answer = true)
    (undisturbed : (NetworkEvent.answerChain side answer).undisturbed = true) :
    answer = .ok .unit ∧ chain.hasReDrawn tx := by
  match answer with
  | .error _ => cases undisturbed
  | .ok .unit => cases kind <;> exact ⟨rfl, of_decide_eq_true answers⟩
  | .ok (.block _) | .ok (.signature _) | .ok (.channelId _) | .ok (.maybeChannelId none)
  | .ok (.maybeChannelId (some _)) | .ok (.maybeSeq _) | .ok (.accrual _) =>
      cases kind <;> cases answers

theorem unit_of_check {channelId : Bytes32}
    (answers : chain.mayAnswer (.checkForReDraw channelId) answer = true)
    (undisturbed : (NetworkEvent.answerChain side answer).undisturbed = true) :
    answer = .ok .unit := by
  match answer with
  | .error _ => cases undisturbed
  | .ok .unit => rfl
  | .ok (.block _) | .ok (.signature _) | .ok (.channelId _) | .ok (.maybeChannelId none)
  | .ok (.maybeChannelId (some _)) | .ok (.maybeSeq _) | .ok (.accrual _) => cases answers

end Answers

theorem Channel.Credits.of_unsigned {channel : Channel} {updateTx stated : UpdateTx}
    (credits : channel.Credits stated) (same : updateTx.unsigned = stated.unsigned) :
    channel.Credits updateTx := by
  obtain ⟨-, sequenceNumber, balance0, balance1, -, -⟩ := UpdateTx.mk.inj same
  have mine : updateTx.myBalance channel.iAm0 = stated.myBalance channel.iAm0 := by
    rw [UpdateTx.myBalance, UpdateTx.myBalance, balance0, balance1]
  obtain ⟨newer, sameTotal, inRange, keepsMine, accrues⟩ := credits
  refine ⟨?_, ?_, inRange, ?_, ?_⟩
  · rw [sequenceNumber]
    exact newer
  · rw [balance0, balance1]
    exact sameTotal
  · rw [mine]
    exact keepsMine
  · rw [mine]
    exact accrues

theorem Compatible.signed {parties : Side → Crypto} {side : Side} {paid theirs : Channel}
    (compatible : Compatible parties) (roles : paid.iAm0 = !theirs.iAm0) :
    SignedByThem (parties side.other) (parties side).ownAddress theirs.iAm0
      (paid.toUpdate.setSignature paid.iAm0
        ((parties side).ethSign (paid.toUpdate.fingerprint (parties side)))) := by
  refine ⟨(parties side).ethSign (paid.toUpdate.fingerprint (parties side)), ?_, ?_⟩
  · rw [roles]
    cases theirs.iAm0 <;> rfl
  · have recovers := compatible.recovers_other side.other
      (paid.toUpdate.fingerprint (parties side))
    rw [Side.other_other] at recovers
    rw [← (paid.toUpdate.setSignature _ _).unsigned_fingerprint, UpdateTx.setSignature_unsigned,
      UpdateTx.unsigned_fingerprint, compatible.fingerprint_update]
    exact recovers

namespace Network

variable {parties : Side → Crypto} {side : Side} {kind : ReDrawKind} {amount : Uint256}
  {mine theirs paid : Channel} {newBalance0 newBalance1 : Uint256} {rank : ℕ}
  {network after : Network} {event : NetworkEvent}

/-! ### Payments -/

/-- A payment the payer can make and the payee credits. -/
structure PaymentInOrder (mine theirs : Channel) (amount : Uint256) (paid : Channel) : Prop where
  made : mine.makePayment amount none = .ok (paid, paid.toUpdate)
  credits : theirs.Credits paid.toUpdate
  roles : mine.iAm0 = !theirs.iAm0

/-- The payee's copy after the payment. -/
structure Receives (theirs paid received : Channel) : Prop where
  channelId : received.channelId = theirs.channelId
  balance0 : received.balance0 = paid.balance0
  balance1 : received.balance1 = paid.balance1

/-- The stages of a payment in order. -/
inductive Paying (parties : Side → Crypto) (side : Side) (amount : Uint256)
    (mine theirs paid : Channel) : ℕ → Network → Prop
  | sent {network : Network}
      (shows : network.Shows side (.makePayment amount) (some (.opened mine))
        (some (.opened theirs))
        (.sent (paymentRequest (parties side) paid) (.paymentReply amount paid))) :
      Paying parties side amount mine theirs paid 2 network
  | accepted {network : Network} {received : Channel} (receives : Receives theirs paid received)
      (shows : network.Shows side (.makePayment amount) (some (.opened mine))
        (some (.opened received))
        (.answered (paymentRequest (parties side) paid) (.paymentReply amount paid)
          (.ok (.maybeSeq none)))) :
      Paying parties side amount mine theirs paid 1 network
  | done {network : Network} {received : Channel} (receives : Receives theirs paid received)
      (shows : network.Shows side (.makePayment amount) (some (.opened paid))
        (some (.opened received)) .atRest) :
      Paying parties side amount mine theirs paid 0 network

/-- The peer accepts a payment in order. -/
theorem PaymentInOrder.accepted (inOrder : PaymentInOrder mine theirs amount paid)
    (compatible : Compatible parties) (side : Side) :
    ∃ received, Receives theirs paid received ∧
      (paymentRequest (parties side) paid).start (parties side.other) (parties side).ownAddress
        (some (.opened theirs)) = .succeed (some (.opened received)) (.maybeSeq none) := by
  have pays := (Channel.makePayment_ok inOrder.made).1
  have same := UpdateTx.setSignature_unsigned paid.toUpdate paid.iAm0
    ((parties side).ethSign (paid.toUpdate.fingerprint (parties side)))
  obtain ⟨received, receives⟩ :=
    Channel.receivePayment_succeeds (inOrder.credits.of_unsigned same)
  obtain ⟨-, -, impossible⟩ | ⟨-, accepts⟩ := Channel.receivePayment_ok receives
  · cases impossible
  obtain ⟨-, -, balance0, balance1, -, -⟩ := UpdateTx.mk.inj same
  exact ⟨received, ⟨accepts.channelId, accepts.balance0.trans balance0,
    accepts.balance1.trans balance1⟩,
    receivePayment_eq (compatible.signed (pays.iAm0.trans inOrder.roles)) receives⟩

/-- A payment in order counts down to its `Ok`. -/
theorem PaymentInOrder.countdown (inOrder : PaymentInOrder mine theirs amount paid)
    (compatible : Compatible parties) :
    (machine parties).Countdown (fun event => event.undisturbed = true) (returns parties side)
      (.ok .unit) fun rank network =>
        Solvent parties network ∧ Paying parties side amount mine theirs paid rank network where
  closer := by
    rintro rank network after event ⟨solvent, stage⟩ undisturbed stepped
    have next := solvent.step stepped
    cases stage with
    | sent shows =>
        cases solvent.takes_open shows undisturbed stepped with
        | delivered started =>
            obtain ⟨received, receives, accepts⟩ := inOrder.accepted compatible side
            obtain rfl := started.symm.trans accepts
            exact ⟨1, by omega, ⟨next, .accepted receives (shows.served _ rfl rfl rfl)⟩, rfl⟩
    | accepted receives shows =>
        cases solvent.takes_open shows undisturbed stepped with
        | replied resumed returned =>
            obtain rfl := Option.some.inj resumed
            exact ⟨0, by omega, ⟨next, .done receives (shows.own rfl)⟩, returned⟩
    | done receives shows => cases solvent.takes_open shows undisturbed stepped
  enabled := by
    rintro rank network ⟨solvent, stage⟩ going
    cases stage with
    | sent shows =>
        exact ⟨.deliver side, _, rfl, shows.deliver parties rfl⟩
    | accepted receives shows =>
        exact ⟨.reply side, _, rfl, (shows.reply parties rfl).1⟩
    | done => exact absurd rfl going

/-! ### Redraws -/

/-- A redraw the proposer can propose and the peer signs. -/
structure ReDrawInOrder (mine theirs : Channel) (kind : ReDrawKind) (amount : Uint256)
    (newBalance0 newBalance1 : Uint256) : Prop where
  balances : reDrawBalances kind mine amount = .ok (newBalance0, newBalance1)
  counts : mine.sequenceNumber.toNat + 1 < Uint256.size
  checked : ∀ tx, Proposes mine newBalance0 newBalance1 tx → ReDrawOk theirs tx

/-- The stages of a redraw in order. -/
inductive ReDrawing (parties : Side → Crypto) (side : Side) (kind : ReDrawKind)
    (amount : Uint256) (mine theirs : Channel) (newBalance0 newBalance1 : Uint256) :
    ℕ → Network → Prop
  | block {network : Network}
      (shows : network.Shows side (kind.op amount) (some (.opened mine)) (some (.opened theirs))
        (.asking .getCurrentBlock (.reDrawBlock kind amount mine newBalance0 newBalance1))) :
      ReDrawing parties side kind amount mine theirs newBalance0 newBalance1 8 network
  | proposed {network : Network} {tx : ReDrawTx}
      (proposes : Proposes mine newBalance0 newBalance1 tx)
      (shows : network.Shows side (kind.op amount) (some (.opened mine)) (some (.opened theirs))
        (.sent (.proposeReDraw tx)
          (.reDrawSignature kind amount mine newBalance0 newBalance1 tx))) :
      ReDrawing parties side kind amount mine theirs newBalance0 newBalance1 7 network
  | consented {network : Network} {tx : ReDrawTx}
      (shows : network.Shows side (kind.op amount) (some (.opened mine))
        (some (.otherReDrawing tx theirs))
        (.answered (.proposeReDraw tx)
          (.reDrawSignature kind amount mine newBalance0 newBalance1 tx)
          (.ok (.signature
            ((parties side.other).ethSign (tx.fingerprint (parties side.other))))))) :
      ReDrawing parties side kind amount mine theirs newBalance0 newBalance1 6 network
  | submitted {network : Network} {tx : ReDrawTx} {signature0 signature1 : Option Signature}
      (shows : network.Shows side (kind.op amount) (some (.reDrawing tx mine))
        (some (.otherReDrawing tx theirs))
        (.asking (reDrawSubmission kind amount { tx with signature0, signature1 })
          (.reDrawSubmitted mine newBalance0 newBalance1)))
      (pending : network.chain.submitted = [.reDraw tx.unsigned]) :
      ReDrawing parties side kind amount mine theirs newBalance0 newBalance1 5 network
  | mined {network : Network} {tx : ReDrawTx} {signature0 signature1 : Option Signature}
      (shows : network.Shows side (kind.op amount) (some (.reDrawing tx mine))
        (some (.otherReDrawing tx theirs))
        (.asking (reDrawSubmission kind amount { tx with signature0, signature1 })
          (.reDrawSubmitted mine newBalance0 newBalance1)))
      (idle : network.chain.submitted = []) (done : tx.unsigned ∈ network.chain.reDrawn) :
      ReDrawing parties side kind amount mine theirs newBalance0 newBalance1 4 network
  | notified {network : Network} {tx : ReDrawTx}
      (shows : network.Shows side (kind.op amount) (some (.reDrawing tx mine))
        (some (.otherReDrawing tx theirs))
        (.sent .notifyReDraw (.reDrawNotified mine newBalance0 newBalance1)))
      (idle : network.chain.submitted = []) :
      ReDrawing parties side kind amount mine theirs newBalance0 newBalance1 3 network
  | checking {network : Network} {tx : ReDrawTx}
      (shows : network.Shows side (kind.op amount) (some (.reDrawing tx mine))
        (some (.otherReDrawing tx theirs))
        (.serving .notifyReDraw (.reDrawNotified mine newBalance0 newBalance1)
          (.checkForReDraw theirs.channelId) (.checkedReDraw tx theirs)))
      (idle : network.chain.submitted = []) :
      ReDrawing parties side kind amount mine theirs newBalance0 newBalance1 2 network
  | acknowledged {network : Network} {tx : ReDrawTx} {reDrawn : Channel}
      (shows : network.Shows side (kind.op amount) (some (.reDrawing tx mine))
        (some (.opened reDrawn))
        (.answered .notifyReDraw (.reDrawNotified mine newBalance0 newBalance1) (.ok .unit)))
      (idle : network.chain.submitted = []) :
      ReDrawing parties side kind amount mine theirs newBalance0 newBalance1 1 network
  | done {network : Network} {myReDrawn reDrawn : Channel}
      (shows : network.Shows side (kind.op amount) (some (.opened myReDrawn))
        (some (.opened reDrawn)) .atRest) :
      ReDrawing parties side kind amount mine theirs newBalance0 newBalance1 0 network

theorem Shows.stored_reDrawing {op : UserOp} {tx : ReDrawTx} {entry : Option Counterparty}
    {activity : Activity}
    (shows : network.Shows side op (some (.reDrawing tx mine)) entry activity) :
    (network.node side).channel = some mine := by
  rw [Node.channel, shows.mine]
  rfl

/-- Every step of a redraw in order brings it closer to its `Ok`. -/
theorem ReDrawInOrder.closer
    (inOrder : ReDrawInOrder mine theirs kind amount newBalance0 newBalance1)
    (compatible : Compatible parties) (solvent : Solvent parties network)
    (stage : ReDrawing parties side kind amount mine theirs newBalance0 newBalance1 rank network)
    (undisturbed : event.undisturbed = true)
    (stepped : network.step parties event = some after) :
    ∃ lower < rank,
      ReDrawing parties side kind amount mine theirs newBalance0 newBalance1 lower after ∧
        network.returns parties side event = if lower = 0 then some (.ok .unit) else none := by
  cases stage with
  | block shows =>
      cases solvent.takes_open shows undisturbed stepped with
      | confirmed answers resumed returned =>
          obtain ⟨block, rfl, room⟩ := block_of_answer answers undisturbed
          obtain ⟨tx, proposes, polled⟩ := @reDrawOnBlock_eq kind amount mine newBalance0
            newBalance1 (some (.opened mine)) block inOrder.counts room
          obtain rfl := polled.symm.trans (Option.some.inj resumed)
          exact ⟨7, by omega, .proposed proposes (shows.own rfl), returned⟩
  | proposed proposes shows =>
      cases solvent.takes_open shows undisturbed stepped with
      | delivered started =>
          obtain rfl := started.symm.trans (proposeReDraw_eq (inOrder.checked _ proposes))
          exact ⟨6, by omega, .consented (shows.served _ rfl rfl rfl), rfl⟩
  | @consented _ tx shows =>
      cases solvent.takes_open shows undisturbed stepped with
      | replied resumed returned =>
          have recovers := compatible.recovers_other side (tx.fingerprint (parties side))
          rw [compatible.fingerprint_reDraw] at resumed
          obtain ⟨signature0, signature1, polled⟩ := @reDrawOnSignature_eq (parties side)
            (parties side.other).ownAddress kind amount mine newBalance0 newBalance1 tx
            (some (.opened mine)) _ recovers
          obtain rfl := polled.symm.trans (Option.some.inj resumed)
          refine ⟨5, by omega, .submitted (shows.own rfl) ?_, returned⟩
          change network.chain.submitted ++ _ = _
          rw [solvent.idle_of_open shows.mine, submission_of_reDraw, List.nil_append]
  | @submitted _ tx _ _ shows pending =>
      rcases shows.advance undisturbed stepped with mines | takes
      · cases mines with
        | opened signed once => exact (solvent.unopenable shows.stored_reDrawing signed once).elim
        | reDrawn submitted =>
            rw [pending, List.mem_singleton] at submitted
            obtain rfl := Deal.reDraw.inj submitted
            refine ⟨4, by omega, .mined ⟨shows.mine, shows.theirs, shows.running, shows.serves,
              shows.wire, shows.otherWire⟩ ?_ ?_, rfl⟩
            · change network.chain.submitted.erase _ = []
              rw [pending, List.erase_cons_head]
            · exact List.mem_append_right _ (List.mem_singleton.mpr rfl)
      · cases takes with
        | confirmed answers =>
            obtain ⟨-, -, unsubmitted⟩ := unit_of_submission answers undisturbed
            rw [pending] at unsubmitted
            exact absurd (List.mem_singleton.mpr rfl) unsubmitted
  | mined shows idle done =>
      cases solvent.takes shows shows.stored_reDrawing idle undisturbed stepped with
      | confirmed answers resumed returned =>
          obtain ⟨rfl, -⟩ := unit_of_submission answers undisturbed
          obtain rfl := Option.some.inj resumed
          refine ⟨3, by omega, .notified (shows.own rfl) ?_, returned⟩
          change network.chain.submitted ++ [] = []
          rw [idle, List.append_nil]
  | notified shows idle =>
      cases solvent.takes shows shows.stored_reDrawing idle undisturbed stepped with
      | delivered started =>
          subst started
          exact ⟨2, by omega, .checking (shows.looking _ rfl rfl) idle, rfl⟩
  | checking shows idle =>
      cases solvent.takes shows shows.stored_reDrawing idle undisturbed stepped with
      | lookedUp answers resumed =>
          obtain rfl := unit_of_check answers undisturbed
          obtain rfl := Option.some.inj resumed
          exact ⟨1, by omega, .acknowledged (shows.served _ rfl rfl rfl) idle,
            returns_other (if_neg side.other_ne)⟩
  | acknowledged shows idle =>
      cases solvent.takes shows shows.stored_reDrawing idle undisturbed stepped with
      | replied resumed returned =>
          obtain rfl := Option.some.inj resumed
          exact ⟨0, by omega, .done (shows.own rfl), returned⟩
  | done shows => cases solvent.takes_open shows undisturbed stepped

theorem Shows.signed_reDraw {op : UserOp} {tx : ReDrawTx} {activity : Activity}
    (shows : network.Shows side op (some (.reDrawing tx mine)) (some (.otherReDrawing tx theirs))
      activity) (sound : Sound parties network) : network.bothSigned (.reDraw tx.unsigned) := by
  refine bothSigned_iff.mpr ((side.forall_iff).mpr ⟨?_, ?_⟩)
  · have backed := (sound.coherent side).backed
    rw [shows.mine] at backed
    exact List.mem_of_getLast? backed.2.1
  · have backed := (sound.coherent side.other).backed
    rw [shows.theirs] at backed
    exact List.mem_of_getLast? backed.2.1

theorem ReDrawing.enabled (solvent : Solvent parties network)
    (stage : ReDrawing parties side kind amount mine theirs newBalance0 newBalance1 rank network)
    (going : rank ≠ 0) :
    ∃ event after, event.undisturbed = true ∧ network.step parties event = some after := by
  cases stage with
  | block shows =>
      exact ⟨.answerChain side (.ok (.block 0)), _, rfl, (shows.confirm parties _ rfl rfl).1⟩
  | proposed _ shows => exact ⟨.deliver side, _, rfl, shows.deliver parties rfl⟩
  | consented shows => exact ⟨.reply side, _, rfl, (shows.reply parties rfl).1⟩
  | @submitted _ tx _ _ shows pending =>
      refine ⟨.mineReDraw tx.unsigned, _, rfl, if_pos ⟨?_, shows.signed_reDraw solvent.sound⟩⟩
      rw [pending]
      exact List.mem_singleton.mpr rfl
  | @mined _ tx signature0 signature1 shows idle done =>
      refine ⟨.answerChain side (.ok .unit), _, rfl, (shows.confirm parties _ ?_ rfl).1⟩
      have reDrawn : network.chain.hasReDrawn { tx with signature0, signature1 } :=
        ⟨done, by rw [idle]; exact List.not_mem_nil⟩
      cases kind <;> exact decide_eq_true reDrawn
  | notified shows => exact ⟨.deliver side, _, rfl, shows.deliver parties rfl⟩
  | checking shows =>
      have answers :
          network.chain.mayAnswer (.checkForReDraw theirs.channelId) (.ok .unit) = true := rfl
      exact ⟨.answerChain side.other (.ok .unit), _, rfl, shows.lookUp parties _ answers rfl⟩
  | acknowledged shows => exact ⟨.reply side, _, rfl, (shows.reply parties rfl).1⟩
  | done => exact absurd rfl going

/-- A redraw in order counts down to its `Ok`. -/
theorem ReDrawInOrder.countdown
    (inOrder : ReDrawInOrder mine theirs kind amount newBalance0 newBalance1)
    (compatible : Compatible parties) :
    (machine parties).Countdown (fun event => event.undisturbed = true) (returns parties side)
      (.ok .unit) fun rank network => Solvent parties network ∧
        ReDrawing parties side kind amount mine theirs newBalance0 newBalance1 rank network where
  closer := by
    rintro rank network after event ⟨solvent, stage⟩ undisturbed stepped
    obtain ⟨lower, below, reached, emission⟩ :=
      inOrder.closer compatible solvent stage undisturbed stepped
    exact ⟨lower, below, ⟨solvent.step stepped, reached⟩, emission⟩
  enabled := by
    rintro rank network ⟨solvent, stage⟩ going
    exact stage.enabled solvent going

end Network

end Guac
