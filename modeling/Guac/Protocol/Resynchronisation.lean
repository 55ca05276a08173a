import Guac.Protocol.BalanceLiveness

/-!
Owns the exchange that brings two channels back together: a payment, the
sequence number that answers it if it was too old, and the payment of nothing
under the next number. It works from every state that payments, losses and
reordering can lead to, as long as the additions stay in range.
-/

set_option autoImplicit false

namespace Guac

open Foundation

/-- The receiver holds the state of the payer. -/
structure Channel.SameState (received paid : Channel) : Prop where
  sequenceNumber : received.sequenceNumber = paid.sequenceNumber
  balance0 : received.balance0 = paid.balance0
  balance1 : received.balance1 = paid.balance1

theorem Channel.Paid.keepsBalances {channel paid : Channel} {currentSeq : Option Uint256}
    (pays : Channel.Paid channel 0 currentSeq paid) :
    paid.balance0 = channel.balance0 ∧ paid.balance1 = channel.balance1 := by
  have mine := pays.mine
  have theirs := pays.theirs
  unfold Channel.myBalance at mine
  unfold Channel.theirBalance at theirs
  rw [pays.iAm0] at mine theirs
  rw [Uint256.eq_iff, Uint256.eq_iff]
  cases role : channel.iAm0 <;> simp_all

namespace Pair

section Exchange

variable {pair : Pair} {payer : Side} {amount : Uint256} {currentSeq : Option Uint256}
  {paid : Channel} {total : Nat}

/-- A payment newer than both copies is accepted, and the receiver holds its
balances. -/
theorem Linked.delivers (linked : pair.Linked total) (inRange : total < Uint256.size)
    (pays : Channel.Paid (pair.link payer).channel amount currentSeq paid)
    (counts : (pair.link payer).channel.sequenceNumber.toNat < paid.sequenceNumber.toNat)
    (newer : (pair.link payer.other).channel.sequenceNumber.toNat < paid.sequenceNumber.toNat)
    (accrues : (pair.link payer.other).channel.accrual.toNat +
      ((paid.toUpdate.myBalance (pair.link payer.other).channel.iAm0).toNat -
        (pair.link payer.other).channel.myBalance.toNat) < Uint256.size) :
    ∃ received, (pair.link payer.other).channel.receivePayment paid.toUpdate =
        .ok (received, none) ∧ received.SameState paid := by
  have sent := linked.sent pays counts
  have made : paid.toUpdate ∈
      ((pair.sent payer paid paid.toUpdate).link payer.other.other).made := by
    rw [Side.other_other, sent_self]
    simp
  obtain ⟨⟨received, reply⟩, answered⟩ := sent.answers_honest inRange made (by rwa [sent_other])
  rw [sent_other] at answered
  rcases Channel.receivePayment_ok answered with ⟨old, -, -⟩ | ⟨rfl, accepts⟩
  · exact absurd newer (Nat.not_lt.mpr old)
  · exact ⟨received, answered, accepts.sequenceNumber, accepts.balance0, accepts.balance1⟩

/-- The receiver held a number at least as high: it answers it, and the payment of
nothing numbered from that answer is accepted. -/
theorem Linked.redelivers (linked : pair.Linked total) (inRange : total < Uint256.size)
    (pays : Channel.Paid (pair.link payer).channel amount currentSeq paid)
    (counts : (pair.link payer).channel.sequenceNumber.toNat < paid.sequenceNumber.toNat)
    (old : paid.sequenceNumber.toNat ≤ (pair.link payer.other).channel.sequenceNumber.toNat)
    (next : (pair.link payer.other).channel.sequenceNumber.toNat + 1 < Uint256.size)
    (accrues : (pair.link payer.other).channel.accrual.toNat +
      ((paid.toUpdate.myBalance (pair.link payer.other).channel.iAm0).toNat -
        (pair.link payer.other).channel.myBalance.toNat) < Uint256.size) :
    ∃ again received,
      paid.makePayment 0 (some (pair.link payer.other).channel.sequenceNumber) =
          .ok (again, again.toUpdate) ∧
        (pair.link payer.other).channel.receivePayment again.toUpdate = .ok (received, none) ∧
        received.SameState again ∧ again.balance0 = paid.balance0 ∧
        again.balance1 = paid.balance1 := by
  have sent := linked.sent pays counts
  obtain ⟨again, made⟩ := @Channel.makePayment_succeeds paid 0
    (some (pair.link payer.other).channel.sequenceNumber) (Nat.zero_le _) next
    paid.theirBalance.toNat_lt
  have repays := (Channel.makePayment_ok made).1
  obtain ⟨same0, same1⟩ := repays.keepsBalances
  have number := repays.sequenceNumber
  rw [Option.getD_some] at number
  have update : again.toUpdate.myBalance (pair.link payer.other).channel.iAm0 =
      paid.toUpdate.myBalance (pair.link payer.other).channel.iAm0 := by
    unfold UpdateTx.myBalance Channel.toUpdate
    rw [same0, same1]
  have delivered := @Linked.delivers (pair.sent payer paid paid.toUpdate) payer 0
    (some (pair.link payer.other).channel.sequenceNumber) again total sent inRange
  rw [sent_self, sent_other] at delivered
  rw [update] at delivered
  obtain ⟨received, accepted, sameState⟩ := delivered repays
    (show paid.sequenceNumber.toNat < again.sequenceNumber.toNat by omega) (by omega) accrues
  exact ⟨again, received, made, accepted, sameState, same0, same1⟩

end Exchange

/-- The receiver takes the payer's state from this update, or from the payment of
nothing that follows its answer. -/
def Resynchronises (paid receiver : Channel) (updateTx : UpdateTx) : Prop :=
  (∃ received, receiver.receivePayment updateTx = .ok (received, none) ∧
    received.SameState paid) ∨
  ∃ seq again retry received,
    receiver.receivePayment updateTx = .ok (receiver, some seq) ∧
      paid.makePayment 0 (some seq) = .ok (again, retry) ∧
      receiver.receivePayment retry = .ok (received, none) ∧
      received.SameState again ∧ again.balance0 = paid.balance0 ∧ again.balance1 = paid.balance1

/-- One exchange resynchronises: in every state that payments, losses and reordering
lead to, a payment that reaches the other side leaves it with the payer's state. -/
theorem exchange_resynchronises {start pair : Pair} {taken : List (Transition Pair PairEvent)}
    (agreed : start.Agreed) (run : machine.Run start taken pair) {payer : Side}
    {amount : Uint256} {paid : Channel} {updateTx : UpdateTx}
    (made : (pair.link payer).channel.makePayment amount none = .ok (paid, updateTx))
    (accrues : (pair.link payer.other).channel.accrual.toNat +
      ((updateTx.myBalance (pair.link payer.other).channel.iAm0).toNat -
        (pair.link payer.other).channel.myBalance.toNat) < Uint256.size)
    (next : paid.sequenceNumber ≤ (pair.link payer.other).channel.sequenceNumber →
      (pair.link payer.other).channel.sequenceNumber.toNat + 1 < Uint256.size) :
    Resynchronises paid (pair.link payer.other).channel updateTx := by
  have linked :=
    run.invariant (Linked _) agreed.linked fun _ _ _ linked stepped => linked.step stepped
  obtain ⟨pays, rfl⟩ := Channel.makePayment_ok made
  have counts : (pair.link payer).channel.sequenceNumber.toNat < paid.sequenceNumber.toNat := by
    rw [pays.sequenceNumber, Option.getD_none]
    exact Nat.lt_succ_self _
  by_cases old : paid.sequenceNumber.toNat ≤
      (pair.link payer.other).channel.sequenceNumber.toNat
  · obtain ⟨again, received, remade, accepted, same, same0, same1⟩ :=
      linked.redelivers agreed.inRange pays counts old (next old) accrues
    exact .inr ⟨_, again, _, received, Channel.receivePayment_stale old, remade, accepted, same,
      same0, same1⟩
  · exact .inl
      (linked.delivers agreed.inRange pays counts (Nat.lt_of_not_le old) accrues)

/-- The other side paid twice and both updates were lost. -/
theorem exchange_resynchronises_after_losses :
    ∃ pair ∈ machine.replay sample [.pay .b 1, .pay .b 1],
      Resynchronises ⟨7, 1, 4, 6, 0, true⟩ (pair.link .b).channel ⟨7, 1, 4, 6, none, none⟩ := by
  obtain ⟨pair, reached, made, accrues, next⟩ :
      ∃ pair ∈ machine.replay sample [.pay .b 1, .pay .b 1],
        (pair.link .a).channel.makePayment 1 none =
            .ok (⟨7, 1, 4, 6, 0, true⟩, ⟨7, 1, 4, 6, none, none⟩) ∧
          (pair.link .b).channel.accrual.toNat +
              (((⟨7, 1, 4, 6, none, none⟩ : UpdateTx).myBalance
                (pair.link .b).channel.iAm0).toNat -
                (pair.link .b).channel.myBalance.toNat) < Uint256.size ∧
          (pair.link .b).channel.sequenceNumber.toNat + 1 < Uint256.size := by
    decide +kernel
  exact ⟨pair, reached, exchange_resynchronises sample_agreed (Machine.run_of_replay reached) made
    accrues fun _ => next⟩

/-- Two channels that agree, with an accrual that can grow no more. -/
def brimming : Pair where
  link side := ⟨⟨7, 0, 5, 5, Sample.largest, is0 side⟩, [], none⟩
  answers _ := []

/-- The payment of one unit to a brimming accrual panics. -/
theorem brimming_accrual_panics :
    brimming.Agreed ∧ ∃ paid,
      (brimming.link .a).channel.makePayment 1 none = .ok (paid, paid.toUpdate) ∧
        ¬ Resynchronises paid (brimming.link .b).channel paid.toUpdate := by
  refine ⟨⟨rfl, rfl, rfl, rfl, rfl, rfl, by decide, fun _ => ⟨rfl, rfl, rfl⟩⟩,
    ⟨7, 1, 4, 6, Sample.largest, true⟩, by decide +kernel, ?_⟩
  have panics : (brimming.link .b).channel.receivePayment ⟨7, 1, 4, 6, none, none⟩ =
      .error .panic := by
    decide +kernel
  rintro (⟨received, accepted, -⟩ | ⟨seq, again, retry, received, answered, -⟩)
  · cases panics.symm.trans accepted
  · cases panics.symm.trans answered

end Pair

end Guac
