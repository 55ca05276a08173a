import Guac.Core.Types

/-!
Owns `channel.rs`: `make_payment`, `receive_payment` and `check_accrual` as the
code computes them, and one specification for each in terms of the payer's and
the receiver's own balance, so that no later proof splits on the role again.

The Rust methods assign to `self` only after their last check, so a call that
answers `Err` leaves the channel as it was.
-/

set_option autoImplicit false

namespace Guac

namespace Channel

def myBalance (channel : Channel) : Uint256 :=
  if channel.iAm0 then channel.balance0 else channel.balance1

def theirBalance (channel : Channel) : Uint256 :=
  if channel.iAm0 then channel.balance1 else channel.balance0

/-- Everything in the channel. -/
def total (channel : Channel) : Nat := channel.balance0.toNat + channel.balance1.toNat

theorem total_eq (channel : Channel) :
    channel.total = channel.myBalance.toNat + channel.theirBalance.toNat := by
  unfold total myBalance theirBalance
  cases channel.iAm0 <;> simp [Nat.add_comm]

/-- The unsigned update that states the channel's own balances. -/
def toUpdate (channel : Channel) : UpdateTx where
  channelId := channel.channelId
  sequenceNumber := channel.sequenceNumber
  balance0 := channel.balance0
  balance1 := channel.balance1
  signature0 := none
  signature1 := none

/-- The number the next update carries: one above the counterparty's if it gave
one, else one above the stored one. -/
def nextSequenceNumber (channel : Channel) (currentSeq : Option Uint256) : Result Uint256 :=
  match currentSeq with
  | some seq => seq.add 1
  | none => channel.sequenceNumber.add 1

def makePayment (channel : Channel) (amount : Uint256) (currentSeq : Option Uint256) :
    Result (Channel × UpdateTx) := do
  let sequenceNumber ← channel.nextSequenceNumber currentSeq
  let myBalance ←
    okOr (channel.myBalance.checkedSub amount) (.guac (.notEnough "money in channel."))
  let theirBalance ← channel.theirBalance.add amount
  let balance0 := if channel.iAm0 then myBalance else theirBalance
  let balance1 := if channel.iAm0 then theirBalance else myBalance
  .ok ({ channel with balance0, balance1, sequenceNumber },
    { channelId := channel.channelId, sequenceNumber, balance0, balance1,
      signature0 := none, signature1 := none })

/-- The body of `Channel::receive_payment` for an update newer than the channel. -/
def acceptPayment (channel : Channel) (updateTx : UpdateTx) : Result Channel := do
  let myOldBalance := channel.myBalance
  let theirOldBalance := channel.theirBalance
  let myBalance := updateTx.myBalance channel.iAm0
  let theirBalance := updateTx.theirBalance channel.iAm0
  let oldTotal ← myOldBalance.add theirOldBalance
  let newTotal ← myBalance.add theirBalance
  if oldTotal ≠ newTotal then
    .error (.guac (.forbidden "Total amount in channel does not stay the same"))
  else if myBalance < myOldBalance then
    .error (.guac (.forbidden "This reduces my balance"))
  else do
    let gain ← myBalance.sub myOldBalance
    let accrual ← channel.accrual.add gain
    .ok { channel with
      balance0 := updateTx.balance0
      balance1 := updateTx.balance1
      sequenceNumber := updateTx.sequenceNumber
      accrual }

/-- `Channel::receive_payment`: the stored sequence number when the update is
not newer, nothing when the update was accepted. -/
def receivePayment (channel : Channel) (updateTx : UpdateTx) :
    Result (Channel × Option Uint256) :=
  if updateTx.sequenceNumber ≤ channel.sequenceNumber then
    .ok (channel, some channel.sequenceNumber)
  else do
    let accepted ← channel.acceptPayment updateTx
    .ok (accepted, none)

/-- `Channel::check_accrual`: the accrual so far, which starts again at zero. -/
def checkAccrual (channel : Channel) : Channel × Uint256 :=
  ({ channel with accrual := 0 }, channel.accrual)

/-! ### What the three calls do -/

theorem nextSequenceNumber_eq (channel : Channel) (currentSeq : Option Uint256) :
    channel.nextSequenceNumber currentSeq =
      (currentSeq.getD channel.sequenceNumber).add 1 := by
  cases currentSeq <;> rfl

/-- The channel after a successful payment of `amount`, with the sequence
number taken from `currentSeq` if the counterparty gave one. -/
structure Paid (channel : Channel) (amount : Uint256) (currentSeq : Option Uint256)
    (paid : Channel) : Prop where
  channelId : paid.channelId = channel.channelId
  iAm0 : paid.iAm0 = channel.iAm0
  accrual : paid.accrual = channel.accrual
  sequenceNumber :
    paid.sequenceNumber.toNat = (currentSeq.getD channel.sequenceNumber).toNat + 1
  mine : paid.myBalance.toNat + amount.toNat = channel.myBalance.toNat
  theirs : paid.theirBalance.toNat = channel.theirBalance.toNat + amount.toNat

theorem Paid.total {channel paid : Channel} {amount : Uint256} {currentSeq : Option Uint256}
    (pays : Paid channel amount currentSeq paid) : paid.total = channel.total := by
  have mine := pays.mine
  have theirs := pays.theirs
  rw [total_eq, total_eq]
  omega

theorem makePayment_ok {channel paid : Channel} {amount : Uint256}
    {currentSeq : Option Uint256} {updateTx : UpdateTx}
    (made : channel.makePayment amount currentSeq = .ok (paid, updateTx)) :
    Paid channel amount currentSeq paid ∧ updateTx = paid.toUpdate := by
  unfold makePayment at made
  obtain ⟨next, counted, made⟩ := bind_eq_ok.mp made
  obtain ⟨mine, subtracted, made⟩ := bind_eq_ok.mp made
  obtain ⟨theirs, added, made⟩ := bind_eq_ok.mp made
  rw [nextSequenceNumber_eq] at counted
  have counts := Uint256.add_eq_ok.mp counted
  have takes := Uint256.checkedSub_eq_some.mp (okOr_eq_ok.mp subtracted)
  have gives := Uint256.add_eq_ok.mp added
  obtain ⟨rfl, rfl⟩ := Prod.mk.inj (Except.ok.inj made)
  refine ⟨⟨rfl, rfl, rfl, counts, ?_, ?_⟩, rfl⟩
  · rw [← takes]
    cases channel.iAm0 <;> simp [myBalance]
  · rw [← gives]
    cases channel.iAm0 <;> simp [theirBalance]

theorem makePayment_succeeds {channel : Channel} {amount : Uint256}
    {currentSeq : Option Uint256} (enough : amount.toNat ≤ channel.myBalance.toNat)
    (counts : (currentSeq.getD channel.sequenceNumber).toNat + 1 < Uint256.size)
    (fits : channel.theirBalance.toNat + amount.toNat < Uint256.size) :
    ∃ paid, channel.makePayment amount currentSeq = .ok (paid, paid.toUpdate) := by
  obtain ⟨next, counted⟩ := @Uint256.add_succeeds _ 1 counts
  obtain ⟨mine, subtracted⟩ := Uint256.checkedSub_isSome_of_le enough
  obtain ⟨theirs, added⟩ := Uint256.add_succeeds fits
  rw [← nextSequenceNumber_eq] at counted
  simp only [makePayment, counted, subtracted, okOr, added, bind, Except.bind]
  exact ⟨_, rfl⟩

theorem makePayment_error {channel : Channel} {amount : Uint256} {currentSeq : Option Uint256}
    {fault : Fault} (failed : channel.makePayment amount currentSeq = .error fault) :
    fault = .panic ∨ fault = .guac (.notEnough "money in channel.") ∧
      channel.myBalance.toNat < amount.toNat := by
  unfold makePayment at failed
  rcases bind_eq_error.mp failed with overflow | ⟨next, -, failed⟩
  · rw [nextSequenceNumber_eq] at overflow
    exact .inl (Uint256.add_error overflow).1
  rcases bind_eq_error.mp failed with missing | ⟨mine, -, failed⟩
  · right
    cases subtracted : channel.myBalance.checkedSub amount with
    | some difference =>
        rw [subtracted] at missing
        cases missing
    | none =>
        rw [subtracted] at missing
        refine ⟨(Except.error.inj missing).symm, ?_⟩
        by_contra enough
        obtain ⟨difference, found⟩ :=
          Uint256.checkedSub_isSome_of_le (Nat.le_of_not_lt enough)
        cases subtracted.symm.trans found
  rcases bind_eq_error.mp failed with overflow | ⟨theirs, -, failed⟩
  · exact .inl (Uint256.add_error overflow).1
  · cases failed

/-- The channel after an accepted update. -/
structure Accepted (channel : Channel) (updateTx : UpdateTx) (accepted : Channel) : Prop where
  newer : channel.sequenceNumber.toNat < updateTx.sequenceNumber.toNat
  sameTotal : updateTx.balance0.toNat + updateTx.balance1.toNat = channel.total
  keepsMine : channel.myBalance.toNat ≤ (updateTx.myBalance channel.iAm0).toNat
  channelId : accepted.channelId = channel.channelId
  iAm0 : accepted.iAm0 = channel.iAm0
  sequenceNumber : accepted.sequenceNumber = updateTx.sequenceNumber
  balance0 : accepted.balance0 = updateTx.balance0
  balance1 : accepted.balance1 = updateTx.balance1
  accrual : accepted.accrual.toNat + channel.myBalance.toNat =
    channel.accrual.toNat + (updateTx.myBalance channel.iAm0).toNat

theorem Accepted.total {channel accepted : Channel} {updateTx : UpdateTx}
    (accepts : Accepted channel updateTx accepted) : accepted.total = channel.total := by
  rw [← accepts.sameTotal, Channel.total, accepts.balance0, accepts.balance1]

theorem Accepted.mine {channel accepted : Channel} {updateTx : UpdateTx}
    (accepts : Accepted channel updateTx accepted) :
    accepted.myBalance = updateTx.myBalance channel.iAm0 := by
  unfold myBalance UpdateTx.myBalance
  rw [accepts.iAm0, accepts.balance0, accepts.balance1]

/-- What an accepted update adds to the accrual is what the own balance gains. -/
theorem Accepted.gains {channel accepted : Channel} {updateTx : UpdateTx}
    (accepts : Accepted channel updateTx accepted) :
    channel.myBalance.toNat ≤ accepted.myBalance.toNat ∧
      accepted.accrual.toNat =
        channel.accrual.toNat + (accepted.myBalance.toNat - channel.myBalance.toNat) := by
  have keeps := accepts.keepsMine
  have accrual := accepts.accrual
  rw [accepts.mine]
  omega

theorem acceptPayment_ok {channel accepted : Channel} {updateTx : UpdateTx}
    (newer : channel.sequenceNumber.toNat < updateTx.sequenceNumber.toNat)
    (accepts : channel.acceptPayment updateTx = .ok accepted) :
    Accepted channel updateTx accepted := by
  unfold acceptPayment at accepts
  obtain ⟨oldTotal, oldSum, accepts⟩ := bind_eq_ok.mp accepts
  obtain ⟨newTotal, newSum, accepts⟩ := bind_eq_ok.mp accepts
  split at accepts
  · cases accepts
  split at accepts
  · cases accepts
  next same notLess =>
  obtain ⟨gain, difference, accepts⟩ := bind_eq_ok.mp accepts
  obtain ⟨accrual, sum, accepts⟩ := bind_eq_ok.mp accepts
  obtain rfl := Except.ok.inj accepts
  rw [Uint256.add_eq_ok] at oldSum newSum sum
  rw [Uint256.sub_eq_ok] at difference
  rw [ne_eq, not_not, Uint256.eq_iff] at same
  rw [Uint256.lt_def] at notLess
  have oldTotals := channel.total_eq
  have newTotals := updateTx.total_eq channel.iAm0
  refine ⟨newer, ?_, ?_, rfl, rfl, rfl, rfl, rfl, ?_⟩
  · omega
  · omega
  · simp only
    omega

/-- An answered `receive_payment` either names the stored sequence number and
changes nothing, or accepts the update. -/
theorem receivePayment_ok {channel received : Channel} {updateTx : UpdateTx}
    {reply : Option Uint256}
    (answered : channel.receivePayment updateTx = .ok (received, reply)) :
    (updateTx.sequenceNumber.toNat ≤ channel.sequenceNumber.toNat ∧ received = channel ∧
        reply = some channel.sequenceNumber) ∨
      (reply = none ∧ Accepted channel updateTx received) := by
  unfold receivePayment at answered
  split at answered
  next old =>
    obtain ⟨rfl, rfl⟩ := Prod.mk.inj (Except.ok.inj answered)
    exact .inl ⟨old, rfl, rfl⟩
  next newer =>
    obtain ⟨accepted, accepts, answered⟩ := bind_eq_ok.mp answered
    obtain ⟨rfl, rfl⟩ := Prod.mk.inj (Except.ok.inj answered)
    exact .inr ⟨rfl, acceptPayment_ok (Nat.lt_of_not_le newer) accepts⟩

theorem receivePayment_stale {channel : Channel} {updateTx : UpdateTx}
    (old : updateTx.sequenceNumber.toNat ≤ channel.sequenceNumber.toNat) :
    channel.receivePayment updateTx = .ok (channel, some channel.sequenceNumber) := by
  rw [receivePayment, if_pos ((Uint256.le_def _ _).mpr old)]

/-- `receive_payment` fails by a panic, for another total or for a lower balance of
the receiver. -/
theorem receivePayment_error {channel : Channel} {updateTx : UpdateTx} {fault : Fault}
    (failed : channel.receivePayment updateTx = .error fault) :
    fault = .panic ∨
      fault = .guac (.forbidden "Total amount in channel does not stay the same") ∧
        updateTx.balance0.toNat + updateTx.balance1.toNat ≠ channel.total ∨
      fault = .guac (.forbidden "This reduces my balance") ∧
        (updateTx.myBalance channel.iAm0).toNat < channel.myBalance.toNat := by
  unfold receivePayment at failed
  split at failed
  · cases failed
  rcases bind_eq_error.mp failed with failed | ⟨_, -, failed⟩
  swap
  · cases failed
  unfold acceptPayment at failed
  rcases bind_eq_error.mp failed with overflow | ⟨oldTotal, oldSum, failed⟩
  · exact .inl (Uint256.add_error overflow).1
  rcases bind_eq_error.mp failed with overflow | ⟨newTotal, newSum, failed⟩
  · exact .inl (Uint256.add_error overflow).1
  split at failed
  next differs =>
    refine .inr (.inl ⟨(Except.error.inj failed).symm, ?_⟩)
    rw [ne_eq, Uint256.eq_iff, Uint256.add_eq_ok.mp oldSum, Uint256.add_eq_ok.mp newSum] at differs
    have oldTotals := channel.total_eq
    have newTotals := updateTx.total_eq channel.iAm0
    omega
  split at failed
  next less => exact .inr (.inr ⟨(Except.error.inj failed).symm, less⟩)
  rcases bind_eq_error.mp failed with overflow | ⟨gain, -, failed⟩
  · exact .inl (Uint256.sub_error overflow).1
  rcases bind_eq_error.mp failed with overflow | ⟨accrual, -, failed⟩
  · exact .inl (Uint256.add_error overflow).1
  · cases failed

theorem receivePayment_reduces {channel : Channel} {updateTx : UpdateTx}
    (refused : channel.receivePayment updateTx =
      .error (.guac (.forbidden "This reduces my balance"))) :
    (updateTx.myBalance channel.iAm0).toNat < channel.myBalance.toNat := by
  rcases receivePayment_error refused with impossible | ⟨impossible, -⟩ | ⟨-, less⟩
  · cases impossible
  · simp at impossible
  · exact less

/-- When `receive_payment` accepts an update. -/
structure Credits (channel : Channel) (updateTx : UpdateTx) : Prop where
  newer : channel.sequenceNumber.toNat < updateTx.sequenceNumber.toNat
  sameTotal : updateTx.balance0.toNat + updateTx.balance1.toNat = channel.total
  inRange : channel.total < Uint256.size
  keepsMine : channel.myBalance.toNat ≤ (updateTx.myBalance channel.iAm0).toNat
  accrues : channel.accrual.toNat +
    ((updateTx.myBalance channel.iAm0).toNat - channel.myBalance.toNat) < Uint256.size

theorem acceptPayment_succeeds {channel : Channel} {updateTx : UpdateTx}
    (credits : channel.Credits updateTx) :
    ∃ accepted, channel.acceptPayment updateTx = .ok accepted := by
  obtain ⟨-, sameTotal, inRange, keepsMine, accrues⟩ := credits
  have oldTotals := channel.total_eq
  have newTotals := updateTx.total_eq channel.iAm0
  obtain ⟨oldTotal, oldSum⟩ := Uint256.add_succeeds
    (show channel.myBalance.toNat + channel.theirBalance.toNat < Uint256.size by omega)
  obtain ⟨newTotal, newSum⟩ := Uint256.add_succeeds
    (show (updateTx.myBalance channel.iAm0).toNat +
      (updateTx.theirBalance channel.iAm0).toNat < Uint256.size by omega)
  obtain ⟨gain, difference⟩ := Uint256.sub_succeeds keepsMine
  have gains := Uint256.sub_eq_ok.mp difference
  obtain ⟨accrual, sum⟩ := Uint256.add_succeeds
    (show channel.accrual.toNat + gain.toNat < Uint256.size by omega)
  have same : oldTotal = newTotal := by
    rw [Uint256.eq_iff, Uint256.add_eq_ok.mp oldSum, Uint256.add_eq_ok.mp newSum]
    omega
  have notLess : ¬ updateTx.myBalance channel.iAm0 < channel.myBalance := by
    rw [Uint256.lt_def]
    omega
  simp only [acceptPayment, oldSum, newSum, bind, Except.bind, ne_eq, same, not_true_eq_false,
    if_false, notLess, difference, sum]
  exact ⟨_, rfl⟩

theorem receivePayment_succeeds {channel : Channel} {updateTx : UpdateTx}
    (credits : channel.Credits updateTx) :
    ∃ accepted, channel.receivePayment updateTx = .ok (accepted, none) := by
  obtain ⟨accepted, accepts⟩ := acceptPayment_succeeds credits
  have newer : ¬ updateTx.sequenceNumber ≤ channel.sequenceNumber := by
    rw [Uint256.le_def]
    exact Nat.not_le.mpr credits.newer
  rw [receivePayment, if_neg newer, accepts]
  exact ⟨accepted, rfl⟩

theorem acceptPayment_credits {channel accepted : Channel} {updateTx : UpdateTx}
    (newer : channel.sequenceNumber.toNat < updateTx.sequenceNumber.toNat)
    (accepts : channel.acceptPayment updateTx = .ok accepted) : channel.Credits updateTx := by
  have spec := acceptPayment_ok newer accepts
  have accrual := spec.accrual
  have bound := accepted.accrual.toNat_lt
  have keepsMine := spec.keepsMine
  refine ⟨newer, spec.sameTotal, ?_, keepsMine, by omega⟩
  obtain ⟨oldTotal, oldSum, -⟩ := bind_eq_ok.mp accepts
  rw [Channel.total_eq, ← Uint256.add_eq_ok.mp oldSum]
  exact oldTotal.toNat_lt

theorem receivePayment_credits {channel received : Channel} {updateTx : UpdateTx}
    (answered : channel.receivePayment updateTx = .ok (received, none)) :
    channel.Credits updateTx := by
  unfold receivePayment at answered
  split at answered
  · cases answered
  next newer =>
    obtain ⟨accepted, accepts, answered⟩ := bind_eq_ok.mp answered
    exact acceptPayment_credits (Nat.lt_of_not_le newer) accepts

/-! ### Two copies of one channel -/

/-- The two copies of a channel agree on all the contract knows of it. -/
structure Agrees (mine theirs : Channel) : Prop where
  channelId : mine.channelId = theirs.channelId
  sequenceNumber : mine.sequenceNumber = theirs.sequenceNumber
  balance0 : mine.balance0 = theirs.balance0
  balance1 : mine.balance1 = theirs.balance1

theorem Agrees.refl (channel : Channel) : channel.Agrees channel := ⟨rfl, rfl, rfl, rfl⟩

theorem Agrees.symm {mine theirs : Channel} (agrees : mine.Agrees theirs) :
    theirs.Agrees mine :=
  ⟨agrees.channelId.symm, agrees.sequenceNumber.symm, agrees.balance0.symm,
    agrees.balance1.symm⟩

theorem Agrees.trans {first second third : Channel} (left : first.Agrees second)
    (right : second.Agrees third) : first.Agrees third :=
  ⟨left.channelId.trans right.channelId, left.sequenceNumber.trans right.sequenceNumber,
    left.balance0.trans right.balance0, left.balance1.trans right.balance1⟩

section Payments

variable {mine theirs paid received : Channel} {amount : Uint256} {updateTx : UpdateTx}

theorem Agrees.newer (agrees : mine.Agrees theirs) (pays : Paid mine amount none paid)
    (sent : updateTx.unsigned = paid.toUpdate) :
    theirs.sequenceNumber.toNat < updateTx.sequenceNumber.toNat := by
  have counted : updateTx.sequenceNumber = paid.sequenceNumber :=
    congrArg UpdateTx.sequenceNumber sent
  have next := pays.sequenceNumber
  rw [Option.getD_none, agrees.sequenceNumber] at next
  rw [counted]
  omega

theorem Agrees.accepted (agrees : mine.Agrees theirs) (pays : Paid mine amount none paid)
    (sent : updateTx.unsigned = paid.toUpdate) (accepts : Accepted theirs updateTx received) :
    paid.Agrees received where
  channelId := pays.channelId.trans (agrees.channelId.trans accepts.channelId.symm)
  sequenceNumber :=
    (congrArg UpdateTx.sequenceNumber sent).symm.trans accepts.sequenceNumber.symm
  balance0 := (congrArg UpdateTx.balance0 sent).symm.trans accepts.balance0.symm
  balance1 := (congrArg UpdateTx.balance1 sent).symm.trans accepts.balance1.symm

end Payments

end Channel

end Guac
