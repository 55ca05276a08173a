import Guac.Node.Coherent
import Guac.Node.OneCall

/-!
Owns one call of `Guac::make_payment` on an open channel, against every reply:
what it signs, and what it stores. `PaymentCall` says once how a call can go.

The second attempt starts from the copy that has already paid once, and pays the
amount again; the copy it leaves is dropped.
-/

set_option autoImplicit false

namespace Guac

open Foundation

/-- How a call of `make_payment` can go: the replies it took, and the poll they
led to. -/
inductive PaymentCall (crypto : Crypto) (channel : Channel) (amount : Uint256) :
    List (Result Value) → Poll → Prop
  | refused {fault : Fault} (unpaid : channel.makePayment amount none = .error fault) :
      PaymentCall crypto channel amount [] (.fail (some (.opened channel)) fault)
  | sent {paid : Channel} (pays : Channel.Paid channel amount none paid) :
      PaymentCall crypto channel amount []
        ⟨some (.opened channel), [.update paid.toUpdate],
          .suspended (.peer (paymentRequest crypto paid)) (.paymentReply amount paid)⟩
  | failed {paid : Channel} {fault : Fault} (pays : Channel.Paid channel amount none paid) :
      PaymentCall crypto channel amount [.error fault]
        ⟨some (.opened channel), [.update paid.toUpdate], .resolved (.error fault)⟩
  | saved {paid : Channel} (pays : Channel.Paid channel amount none paid) :
      PaymentCall crypto channel amount [.ok (.maybeSeq none)]
        ⟨some (.opened paid), [.update paid.toUpdate], .resolved (.ok .unit)⟩
  | notRetried {paid : Channel} {currentSeq : Uint256} {fault : Fault}
      (pays : Channel.Paid channel amount none paid)
      (unpaid : paid.makePayment amount (some currentSeq) = .error fault) :
      PaymentCall crypto channel amount [.ok (.maybeSeq (some currentSeq))]
        ⟨some (.opened channel), [.update paid.toUpdate], .resolved (.error fault)⟩
  | retried {paid again : Channel} {currentSeq : Uint256} {replies : List (Result Value)}
      {next : Next} (pays : Channel.Paid channel amount none paid)
      (repays : Channel.Paid paid amount (some currentSeq) again)
      (ends : ∀ value, next = .resolved (.ok value) → replies = [.ok (.maybeSeq none)]) :
      PaymentCall crypto channel amount (.ok (.maybeSeq (some currentSeq)) :: replies)
        ⟨some (.opened channel), [.update paid.toUpdate, .update again.toUpdate], next⟩

section Calls

variable {crypto : Crypto} {theirAddress : Address} {channel : Channel} {amount : Uint256}
  {answers : List (Result Value)} {poll : Poll}

theorem drive_retryReply {entry : Option Counterparty} {first second : SignedTx} {call : Call}
    (driven : Poll.drive crypto theirAddress
      ⟨entry, [first, second], .suspended call .retryReply⟩ answers = some poll) :
    ∃ next, poll = ⟨entry, [first, second], next⟩ ∧
      ∀ value, next = .resolved (.ok value) → answers = [.ok (.maybeSeq none)] := by
  cases answers with
  | nil =>
      obtain rfl := Option.some.inj driven
      exact ⟨_, rfl, fun _ impossible => nomatch impossible⟩
  | cons reply rest =>
      obtain ⟨next, resumed, driven⟩ := Poll.drive_suspended rfl driven
      cases reply with
      | error fault =>
          obtain rfl := Option.some.inj resumed
          obtain ⟨rfl, rfl⟩ := Poll.drive_resolved rfl driven
          exact ⟨_, rfl, fun _ impossible => nomatch impossible⟩
      | ok value =>
          cases value with
          | maybeSeq currentSeq =>
              obtain rfl := Option.some.inj resumed
              cases currentSeq with
              | none =>
                  obtain ⟨rfl, rfl⟩ := Poll.drive_resolved rfl driven
                  exact ⟨_, rfl, fun _ _ => rfl⟩
              | some currentSeq =>
                  obtain ⟨rfl, rfl⟩ := Poll.drive_resolved rfl driven
                  exact ⟨_, rfl, fun _ impossible => nomatch impossible⟩
          | _ => cases resumed

theorem drive_paymentReply {paid : Channel} (pays : Channel.Paid channel amount none paid)
    (driven : Poll.drive crypto theirAddress
      (sendPayment crypto (some (.opened channel)) paid paid.toUpdate (.paymentReply amount paid))
      answers = some poll) : PaymentCall crypto channel amount answers poll := by
  cases answers with
  | nil =>
      obtain rfl := Option.some.inj driven
      exact .sent pays
  | cons reply rest =>
      obtain ⟨next, resumed, driven⟩ := Poll.drive_suspended rfl driven
      cases reply with
      | error fault =>
          obtain rfl := Option.some.inj resumed
          obtain ⟨rfl, rfl⟩ := Poll.drive_resolved rfl driven
          exact .failed pays
      | ok value =>
          cases value with
          | maybeSeq currentSeq =>
              obtain rfl := Option.some.inj resumed
              cases currentSeq with
              | none =>
                  obtain ⟨rfl, rfl⟩ := Poll.drive_resolved rfl driven
                  exact .saved pays
              | some currentSeq =>
                  cases made : paid.makePayment amount (some currentSeq) with
                  | error fault =>
                      simp only [makePaymentOnReply, made] at driven
                      obtain ⟨rfl, rfl⟩ := Poll.drive_resolved rfl driven
                      exact .notRetried pays made
                  | ok result =>
                      obtain ⟨again, updateTx⟩ := result
                      obtain ⟨repays, rfl⟩ := Channel.makePayment_ok made
                      simp only [makePaymentOnReply, made] at driven
                      obtain ⟨last, rfl, ends⟩ := drive_retryReply driven
                      exact .retried pays repays ends
          | _ => cases resumed

/-- Every call goes one of these ways. -/
theorem paymentCall_of_call
    (called : (UserOp.makePayment amount).call crypto theirAddress (some (.opened channel))
      answers = some poll) : PaymentCall crypto channel amount answers poll := by
  have driven : Poll.drive crypto theirAddress (makePayment crypto amount (some (.opened channel)))
      answers = some poll := called
  cases made : channel.makePayment amount none with
  | error fault =>
      simp only [makePayment, withCounterparty, checkForCounterparty, okOr, made] at driven
      obtain ⟨rfl, rfl⟩ := Poll.drive_resolved rfl driven
      exact .refused made
  | ok result =>
      obtain ⟨paid, updateTx⟩ := result
      obtain ⟨pays, rfl⟩ := Channel.makePayment_ok made
      simp only [makePayment, withCounterparty, checkForCounterparty, okOr, made] at driven
      exact drive_paymentReply pays driven

/-! ### What a call signs -/

/-- The update gives the payer its balance less the amount, and the counterparty its
balance and the amount. -/
structure Authorises (channel : Channel) (amount : Uint256) (updateTx : UpdateTx) : Prop where
  mine : (updateTx.myBalance channel.iAm0).toNat + amount.toNat = channel.myBalance.toNat
  theirs : (updateTx.theirBalance channel.iAm0).toNat =
    channel.theirBalance.toNat + amount.toNat

/-- The channel affords the amount twice, the second time under the number above
`currentSeq`. -/
structure AffordsTwice (channel : Channel) (amount currentSeq : Uint256) : Prop where
  mine : 2 * amount.toNat ≤ channel.myBalance.toNat
  theirs : channel.theirBalance.toNat + 2 * amount.toNat < Uint256.size
  counts : currentSeq.toNat + 1 < Uint256.size

theorem Channel.Paid.states {paid : Channel} {currentSeq : Option Uint256}
    (pays : Channel.Paid channel amount currentSeq paid) :
    paid.toUpdate.myBalance channel.iAm0 = paid.myBalance ∧
      paid.toUpdate.theirBalance channel.iAm0 = paid.theirBalance := by
  unfold UpdateTx.myBalance UpdateTx.theirBalance Channel.myBalance Channel.theirBalance
  rw [pays.iAm0]
  exact ⟨rfl, rfl⟩

theorem Channel.Paid.authorises {paid : Channel} {currentSeq : Option Uint256}
    (pays : Channel.Paid channel amount currentSeq paid) :
    Authorises channel amount paid.toUpdate := by
  obtain ⟨mine, theirs⟩ := pays.states
  refine ⟨?_, ?_⟩
  · rw [mine]
    exact pays.mine
  · rw [theirs]
    exact pays.theirs

/-- The second update of a retried payment is twice the amount away. -/
theorem Channel.Paid.repays {paid again : Channel} {currentSeq : Uint256}
    (pays : Channel.Paid channel amount none paid)
    (repays : Channel.Paid paid amount (some currentSeq) again) :
    AffordsTwice channel amount currentSeq ∧
      (Authorises channel amount again.toUpdate ↔ amount.toNat = 0) := by
  obtain ⟨mine, theirs⟩ := repays.states
  rw [pays.iAm0] at mine theirs
  have first := pays.mine
  have second := repays.mine
  have given := pays.theirs
  have givenAgain := repays.theirs
  have number := repays.sequenceNumber
  have bound := again.theirBalance.toNat_lt
  have numberBound := again.sequenceNumber.toNat_lt
  rw [Option.getD_some] at number
  refine ⟨⟨by omega, by omega, by omega⟩, ?_⟩
  constructor
  · intro authorises
    have exactly := authorises.mine
    rw [mine] at exactly
    omega
  · intro nothing
    refine ⟨?_, ?_⟩
    · rw [mine]
      omega
    · rw [theirs]
      omega

/-- What a paid channel cannot pay again, it could not have afforded twice. -/
theorem Channel.Paid.not_affordsTwice {paid : Channel} {currentSeq : Uint256} {fault : Fault}
    (pays : Channel.Paid channel amount none paid)
    (unpaid : paid.makePayment amount (some currentSeq) = .error fault) :
    ¬ AffordsTwice channel amount currentSeq := by
  intro affords
  have mine := pays.mine
  have theirs := pays.theirs
  have enough := affords.mine
  have fits := affords.theirs
  obtain ⟨again, made⟩ := @Channel.makePayment_succeeds paid amount (some currentSeq) (by omega)
    affords.counts (by omega)
  cases unpaid.symm.trans made

/-- A payment authorises what was asked, and no more, exactly if nothing was asked,
or the counterparty does not answer the first attempt with a sequence number, or the
channel cannot afford the amount twice. -/
theorem payment_authorises_iff
    (called : (UserOp.makePayment amount).call crypto theirAddress (some (.opened channel))
      answers = some poll) :
    (∀ updateTx, SignedTx.update updateTx ∈ poll.signed → Authorises channel amount updateTx) ↔
      ∀ currentSeq, answers.head? = some (.ok (.maybeSeq (some currentSeq))) →
        amount.toNat = 0 ∨ ¬ AffordsTwice channel amount currentSeq := by
  cases paymentCall_of_call called with
  | refused => simp [Poll.fail]
  | sent pays => simp [pays.authorises]
  | failed pays => simp [pays.authorises]
  | saved pays => simp [pays.authorises]
  | notRetried pays unpaid =>
      simp [pays.authorises, pays.not_affordsTwice unpaid]
  | retried pays repays =>
      have twice := pays.repays repays
      simp [pays.authorises, twice]

end Calls

namespace Sample

def stored : Channel := ⟨7, 0, 10, 0, 0, true⟩

/-- Node 1 pays node 2 an amount of 4, against these replies. -/
def pays4 (replies : List (Result Value)) : Option Poll :=
  (UserOp.makePayment 4).call (Sample.crypto 1) 2 (some (.opened stored)) replies

end Sample

theorem payment_authorises_iff_sample :
    ∃ poll ∈ Sample.pays4 [.ok (.maybeSeq none)], ∀ updateTx,
      SignedTx.update updateTx ∈ poll.signed → Authorises Sample.stored 4 updateTx := by
  obtain ⟨poll, called⟩ : ∃ poll, Sample.pays4 [.ok (.maybeSeq none)] = some poll := ⟨_, rfl⟩
  exact ⟨poll, called, (payment_authorises_iff called).mpr (by simp)⟩

/-- The counterparty replies that its sequence number is 5, and 4 is paid twice. -/
theorem payment_authorises_twice :
    ∃ poll ∈ Sample.pays4 [.ok (.maybeSeq (some 5)), .ok (.maybeSeq none)],
      SignedTx.update ⟨7, 6, 2, 8, none, none⟩ ∈ poll.signed ∧
        ¬ Authorises Sample.stored 4 ⟨7, 6, 2, 8, none, none⟩ := by
  refine ⟨_, rfl, by decide +kernel, ?_⟩
  intro authorises
  exact absurd authorises.mine (by decide)

section Calls

variable {crypto : Crypto} {theirAddress : Address} {channel : Channel} {amount : Uint256}
  {answers : List (Result Value)} {poll : Poll}

/-! ### What a call stores -/

/-- The entry is open with the state of the last update the call signed, which the
counterparty acknowledged. -/
def Recorded (answers : List (Result Value)) (poll : Poll) : Prop :=
  ∃ stored updateTx, poll.entry = some (.opened stored) ∧
    poll.signed.getLast? = some (.update updateTx) ∧
    answers.getLast? = some (.ok (.maybeSeq none)) ∧
    stored.sequenceNumber = updateTx.sequenceNumber ∧
    stored.balance0 = updateTx.balance0 ∧ stored.balance1 = updateTx.balance1

/-- The channel of before is the state of the second update only where nothing was
paid under the number the channel already has. -/
theorem Channel.Paid.unmoved_iff {paid again : Channel} {currentSeq : Uint256}
    (pays : Channel.Paid channel amount none paid)
    (repays : Channel.Paid paid amount (some currentSeq) again) :
    (channel.sequenceNumber = again.sequenceNumber ∧ channel.balance0 = again.balance0 ∧
        channel.balance1 = again.balance1) ↔
      amount.toNat = 0 ∧ currentSeq.toNat + 1 = channel.sequenceNumber.toNat := by
  have first := pays.mine
  have second := repays.mine
  have given := pays.theirs
  have givenAgain := repays.theirs
  have number := repays.sequenceNumber
  rw [Option.getD_some] at number
  have balances : (channel.balance0 = again.balance0 ∧ channel.balance1 = again.balance1) ↔
      channel.myBalance.toNat = again.myBalance.toNat ∧
        channel.theirBalance.toNat = again.theirBalance.toNat := by
    unfold Channel.myBalance Channel.theirBalance
    rw [repays.iAm0, pays.iAm0, Uint256.eq_iff, Uint256.eq_iff]
    cases channel.iAm0 <;> simp [and_comm]
  rw [balances, Uint256.eq_iff]
  omega

/-- A payment that returns `Ok` is recorded exactly if the counterparty accepted the
first attempt, or nothing was paid and the second attempt only repeated the number
the channel already has. -/
theorem payment_recorded_iff {value : Value}
    (called : (UserOp.makePayment amount).call crypto theirAddress (some (.opened channel))
      answers = some poll) (succeeded : poll.next = .resolved (.ok value)) :
    Recorded answers poll ↔
      ∀ currentSeq, answers.head? = some (.ok (.maybeSeq (some currentSeq))) →
        amount.toNat = 0 ∧ currentSeq.toNat + 1 = channel.sequenceNumber.toNat := by
  cases paymentCall_of_call called with
  | refused => cases succeeded
  | sent => cases succeeded
  | failed => cases succeeded
  | notRetried => cases succeeded
  | @saved paid pays =>
      have recorded : Recorded [.ok (.maybeSeq none)]
          ⟨some (.opened paid), [.update paid.toUpdate], .resolved (.ok .unit)⟩ :=
        ⟨paid, paid.toUpdate, rfl, rfl, rfl, rfl, rfl, rfl⟩
      simp [recorded]
  | @retried paid again currentSeq replies next pays repays ends =>
      obtain rfl := ends value succeeded
      have unmoved := pays.unmoved_iff repays
      simp [Recorded, Channel.toUpdate, unmoved]

end Calls

theorem payment_recorded_iff_sample :
    ∃ poll ∈ Sample.pays4 [.ok (.maybeSeq none)], Recorded [.ok (.maybeSeq none)] poll := by
  obtain ⟨poll, called, resolved⟩ : ∃ poll, Sample.pays4 [.ok (.maybeSeq none)] = some poll ∧
      poll.next = .resolved (.ok .unit) := ⟨_, rfl, rfl⟩
  exact ⟨poll, called, (payment_recorded_iff called resolved).mpr (by simp)⟩

/-- The second attempt is accepted, and the entry keeps the channel of before. -/
theorem retried_payment_not_recorded :
    ∃ poll ∈ Sample.pays4 [.ok (.maybeSeq (some 5)), .ok (.maybeSeq none)],
      poll.next = .resolved (.ok .unit) ∧
        poll.entry = some (.opened Sample.stored) ∧
        ¬ Recorded [.ok (.maybeSeq (some 5)), .ok (.maybeSeq none)] poll := by
  obtain ⟨poll, called, resolved, entry, signed⟩ :
      ∃ poll ∈ Sample.pays4 [.ok (.maybeSeq (some 5)), .ok (.maybeSeq none)],
        poll.next = .resolved (.ok .unit) ∧ poll.entry = some (.opened Sample.stored) ∧
          poll.signed.getLast? = some (.update ⟨7, 6, 2, 8, none, none⟩) :=
    ⟨_, rfl, rfl, rfl, by decide +kernel⟩
  refine ⟨poll, called, resolved, entry, ?_⟩
  rintro ⟨stored, updateTx, held, last, -, number, -, -⟩
  obtain rfl := Counterparty.opened.inj (Option.some.inj (entry.symm.trans held))
  obtain rfl := SignedTx.update.inj (Option.some.inj (signed.symm.trans last))
  exact absurd number (by decide)

end Guac
