import Guac.Core.ChannelManager

/-!
Owns where the 256-bit arithmetic of a channel leaves its range. A sum or a
difference of `num256` panics there; `make_payment` alone checks one of its
subtractions first. Each call is given the exact inputs on which it panics, for
a channel whose balances sum below `2^256`.
-/

set_option autoImplicit false

namespace Guac

namespace Uint256

theorem add_eq_panic {left right : Uint256} :
    left.add right = .error .panic ↔ size ≤ left.toNat + right.toNat := by
  constructor
  · intro overflow
    exact (add_error overflow).2
  · intro large
    cases added : left.add right with
    | ok sum =>
        have bound := sum.toNat_lt
        rw [add_eq_ok.mp added] at bound
        omega
    | error fault => rw [(add_error added).1]

end Uint256

namespace Channel

/-- A channel on which the next payment can be counted and its balances added. -/
structure InRange (channel : Channel) : Prop where
  total : channel.total < Uint256.size
  counts : channel.sequenceNumber.toNat + 1 < Uint256.size

/-- No payment within the own balance makes the arithmetic fail. -/
def Payable (channel : Channel) : Prop :=
  ∀ amount : Uint256, amount.toNat ≤ channel.myBalance.toNat →
    channel.makePayment amount none ≠ .error .panic

theorem makePayment_panics_iff {channel : Channel} {amount : Uint256}
    {currentSeq : Option Uint256} (inRange : channel.total < Uint256.size) :
    channel.makePayment amount currentSeq = .error .panic ↔
      Uint256.size ≤ (currentSeq.getD channel.sequenceNumber).toNat + 1 := by
  constructor
  · intro failed
    by_contra counts
    rcases Nat.lt_or_ge channel.myBalance.toNat amount.toNat with less | enough
    · obtain ⟨next, counted⟩ := @Uint256.add_succeeds _ 1 (Nat.lt_of_not_le counts)
      rw [← nextSequenceNumber_eq] at counted
      have short : channel.myBalance.checkedSub amount = none := by
        rw [Uint256.checkedSub, if_neg (Nat.not_le_of_lt less)]
      simp only [makePayment, counted, short, okOr, bind, Except.bind] at failed
      cases failed
    · have fits : channel.theirBalance.toNat + amount.toNat < Uint256.size := by
        have total := channel.total_eq
        omega
      obtain ⟨paid, made⟩ := makePayment_succeeds enough (Nat.lt_of_not_le counts) fits
      cases made.symm.trans failed
  · intro large
    have overflow := (@Uint256.add_eq_panic _ 1).mpr large
    rw [← nextSequenceNumber_eq] at overflow
    simp only [makePayment, overflow, bind, Except.bind]

/-- Exactly the channels in range can pay whatever they hold. -/
theorem payable_iff {channel : Channel} : channel.Payable ↔ channel.InRange := by
  constructor
  · intro payable
    have counts : channel.sequenceNumber.toNat + 1 < Uint256.size := by
      by_contra large
      have overflow := (@Uint256.add_eq_panic _ 1).mpr (Nat.le_of_not_lt large)
      refine payable 0 (Nat.zero_le _) ?_
      simp only [makePayment, nextSequenceNumber, overflow, bind, Except.bind]
    refine ⟨?_, counts⟩
    by_contra large
    obtain ⟨next, counted⟩ := @Uint256.add_succeeds _ 1 counts
    obtain ⟨mine, subtracted⟩ :=
      Uint256.checkedSub_isSome_of_le (Nat.le_refl channel.myBalance.toNat)
    have overflow : channel.theirBalance.add channel.myBalance = .error .panic := by
      rw [Uint256.add_eq_panic, Nat.add_comm, ← total_eq]
      exact Nat.le_of_not_lt large
    refine payable channel.myBalance (Nat.le_refl _) ?_
    simp only [makePayment, nextSequenceNumber, counted, subtracted, okOr, overflow, bind,
      Except.bind]
  · intro inRange amount _ failed
    exact Nat.not_le_of_lt inRange.counts ((makePayment_panics_iff inRange.total).mp failed)

/-- A newer update that leaves the total and does not lower the receiver. -/
structure Gains (channel : Channel) (updateTx : UpdateTx) : Prop where
  sameTotal : updateTx.balance0.toNat + updateTx.balance1.toNat = channel.total
  keepsMine : channel.myBalance.toNat ≤ (updateTx.myBalance channel.iAm0).toNat

/-- A newer update is added up without a panic: its balances sum below `2^256`, and
so do the accrual and what it gains. -/
structure Sums (channel : Channel) (updateTx : UpdateTx) : Prop where
  total : updateTx.balance0.toNat + updateTx.balance1.toNat < Uint256.size
  accrual : channel.Gains updateTx → channel.accrual.toNat +
    ((updateTx.myBalance channel.iAm0).toNat - channel.myBalance.toNat) < Uint256.size

theorem Sums.acceptPayment {channel : Channel} {updateTx : UpdateTx} (sums : channel.Sums updateTx)
    (inRange : channel.total < Uint256.size) :
    channel.acceptPayment updateTx ≠ .error .panic := by
  have oldTotals := channel.total_eq
  have newTotals := updateTx.total_eq channel.iAm0
  obtain ⟨oldTotal, oldSum⟩ := Uint256.add_succeeds (oldTotals ▸ inRange)
  obtain ⟨newTotal, newSum⟩ := Uint256.add_succeeds (newTotals ▸ sums.total)
  simp only [Channel.acceptPayment, oldSum, newSum, bind, Except.bind]
  split
  · simp
  split
  · simp
  next same notLess =>
  have totals := (Uint256.eq_iff _ _).mp (not_not.mp same)
  rw [Uint256.add_eq_ok.mp oldSum, Uint256.add_eq_ok.mp newSum] at totals
  have keeps := Nat.le_of_not_lt notLess
  have gains : channel.Gains updateTx := ⟨by omega, keeps⟩
  obtain ⟨gain, difference⟩ := Uint256.sub_succeeds keeps
  have gained := Uint256.sub_eq_ok.mp difference
  have fits := sums.accrual gains
  obtain ⟨accrual, sum⟩ := @Uint256.add_succeeds channel.accrual gain (by omega)
  simp [difference, sum]

theorem acceptPayment_panics {channel : Channel} {updateTx : UpdateTx}
    (inRange : channel.total < Uint256.size) (overflows : ¬ channel.Sums updateTx) :
    channel.acceptPayment updateTx = .error .panic := by
  have oldTotals := channel.total_eq
  have newTotals := updateTx.total_eq channel.iAm0
  obtain ⟨oldTotal, oldSum⟩ := Uint256.add_succeeds (oldTotals ▸ inRange)
  rcases Nat.lt_or_ge (updateTx.balance0.toNat + updateTx.balance1.toNat) Uint256.size with
    fits | large
  swap
  · have overflow := Uint256.add_eq_panic.mpr (newTotals ▸ large)
    simp only [acceptPayment, oldSum, overflow, bind, Except.bind]
  obtain ⟨newTotal, newSum⟩ := Uint256.add_succeeds (newTotals ▸ fits)
  have accrues : channel.Gains updateTx ∧ Uint256.size ≤ channel.accrual.toNat +
      ((updateTx.myBalance channel.iAm0).toNat - channel.myBalance.toNat) := by
    by_contra within
    exact overflows ⟨fits, fun gains => Nat.lt_of_not_le fun large => within ⟨gains, large⟩⟩
  obtain ⟨gains, large⟩ := accrues
  have same : oldTotal = newTotal := by
    have totals := gains.sameTotal
    rw [Uint256.eq_iff, Uint256.add_eq_ok.mp oldSum, Uint256.add_eq_ok.mp newSum]
    omega
  have notLess : ¬ updateTx.myBalance channel.iAm0 < channel.myBalance :=
    Nat.not_lt_of_le gains.keepsMine
  obtain ⟨gain, difference⟩ := Uint256.sub_succeeds gains.keepsMine
  have gained := Uint256.sub_eq_ok.mp difference
  have overflow : channel.accrual.add gain = .error .panic :=
    Uint256.add_eq_panic.mpr (by omega)
  simp only [acceptPayment, oldSum, newSum, bind, Except.bind, same, ne_eq, not_true_eq_false,
    if_false, notLess, difference, overflow]

/-- `receive_payment` panics on a newer update that does not add up, and on no other. -/
theorem receivePayment_panics_iff {channel : Channel} {updateTx : UpdateTx}
    (inRange : channel.total < Uint256.size) :
    channel.receivePayment updateTx = .error .panic ↔
      channel.sequenceNumber.toNat < updateTx.sequenceNumber.toNat ∧ ¬ channel.Sums updateTx := by
  rcases Nat.lt_or_ge channel.sequenceNumber.toNat updateTx.sequenceNumber.toNat with newer | old
  · have notOld : ¬ updateTx.sequenceNumber ≤ channel.sequenceNumber := Nat.not_le_of_lt newer
    rw [receivePayment, if_neg notOld, bind_eq_error]
    constructor
    · rintro (failed | ⟨accepted, -, impossible⟩)
      · exact ⟨newer, fun sums => sums.acceptPayment inRange failed⟩
      · cases impossible
    · rintro ⟨-, overflows⟩
      exact .inl (acceptPayment_panics inRange overflows)
  · rw [receivePayment_stale old]
    simp [Nat.not_lt_of_le old]

end Channel

/-! ### The polls of a payment -/

section Payments

variable {crypto : Crypto}

theorem makePayment_ne_panic {amount : Uint256} {entry : Option Counterparty}
    (inRange : ∀ channel, entry = some (.opened channel) → channel.InRange) :
    (makePayment crypto amount entry).next ≠ .resolved (.error .panic) := by
  intro panics
  cases entry with
  | none => cases panics
  | some counterparty =>
      cases counterparty with
      | opened channel =>
          cases made : channel.makePayment amount none with
          | error fault =>
              simp only [makePayment, withCounterparty, checkForCounterparty, okOr, made] at panics
              obtain rfl := Except.error.inj (Next.resolved.inj panics)
              have counts := (inRange channel rfl).counts
              exact Nat.not_le_of_lt counts
                ((Channel.makePayment_panics_iff (inRange channel rfl).total).mp made)
          | ok result =>
              simp only [makePayment, withCounterparty, checkForCounterparty, okOr, made] at panics
              cases panics
      | new | creating | otherCreating | reDrawing | otherReDrawing => cases panics

theorem makePaymentOnReply_panics_iff {amount : Uint256} {paid : Channel}
    {reply : Option Uint256} {entry : Option Counterparty} (inRange : paid.total < Uint256.size) :
    (makePaymentOnReply crypto entry amount paid reply).next = .resolved (.error .panic) ↔
      ∃ currentSeq, reply = some currentSeq ∧ Uint256.size ≤ currentSeq.toNat + 1 := by
  cases reply with
  | none => exact iff_of_false nofun nofun
  | some currentSeq =>
      have panics := @Channel.makePayment_panics_iff paid amount (some currentSeq) inRange
      simp only [Option.getD_some] at panics
      simp only [makePaymentOnReply, Option.some.injEq, exists_eq_left', ← panics]
      cases made : paid.makePayment amount (some currentSeq) with
      | error fault => simp [Poll.fail]
      | ok result => simp [sendPayment]

theorem makePaymentOnReply_entry {amount currentSeq : Uint256} {paid : Channel}
    {entry : Option Counterparty} :
    (makePaymentOnReply crypto entry amount paid (some currentSeq)).entry = entry := by
  simp only [makePaymentOnReply]
  cases paid.makePayment amount (some currentSeq) with
  | error fault => rfl
  | ok result => rfl

end Payments

namespace Sample

theorem recover_answers (signature : Signature) (data : Bytes32) :
    (Sample.crypto 1).primitives.recover signature data ≠ .error .panic := by
  change recover signature data ≠ _
  unfold recover
  split <;> simp

end Sample

end Guac
