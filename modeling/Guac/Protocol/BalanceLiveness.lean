import Mathlib.Data.Nat.Basic
import Guac.Core.Channel
import Guac.Foundation.Machine
import Guac.Foundation.Replica

/-!
Owns the bare payment protocol of `channel.rs`: two channels, everything each
of them ever sent, and a network that delivers any of it in any order, any
number of times or never. It proves the balance liveness that the head of that
file claims, by the two copies of the payer's balance that never cross.

It does not own the node, which makes payments on a copy of its channel.
-/

set_option autoImplicit false

namespace Guac

open Foundation

/-- One side: its channel, every update it made, and its last update while it
has taken no step since. -/
structure Link where
  channel : Channel
  made : List UpdateTx
  pending : Option UpdateTx

/-- Both sides, and the sequence numbers that answered the updates of each. -/
structure Pair where
  link : Side → Link
  answers : Side → List (UpdateTx × Uint256)

inductive PairEvent where
  | pay (side : Side) (amount : Uint256)
  | retry (side : Side) (amount currentSeq : Uint256)
  | receive (side : Side) (updateTx : UpdateTx)

namespace Pair

def sent (pair : Pair) (side : Side) (channel : Channel) (updateTx : UpdateTx) : Pair :=
  { pair with
    link := Function.update pair.link side
      ⟨channel, (pair.link side).made ++ [updateTx], some updateTx⟩ }

def received (pair : Pair) (side : Side) (channel : Channel) (updateTx : UpdateTx)
    (reply : Option Uint256) : Pair where
  link := Function.update pair.link side ⟨channel, (pair.link side).made, none⟩
  answers := Function.update pair.answers side.other
    (pair.answers side.other ++ (reply.map fun seq => (updateTx, seq)).toList)

/-- One call of `channel.rs`. A payment that fails changes nothing. -/
def step (pair : Pair) : PairEvent → Option Pair
  | .pay side amount =>
      match (pair.link side).channel.makePayment amount none with
      | .error _ => none
      | .ok (paid, updateTx) => some (pair.sent side paid updateTx)
  | .retry side amount currentSeq =>
      match (pair.link side).pending with
      | none => none
      | some last =>
          if (last, currentSeq) ∈ pair.answers side then
            match (pair.link side).channel.makePayment amount (some currentSeq) with
            | .error _ => none
            | .ok (paid, updateTx) => some (pair.sent side paid updateTx)
          else none
  | .receive side updateTx =>
      if updateTx ∈ (pair.link side.other).made then
        match (pair.link side).channel.receivePayment updateTx with
        | .error _ => none
        | .ok (channel, reply) => some (pair.received side channel updateTx reply)
      else none

def machine : Machine Pair PairEvent := ⟨step⟩

/-- Two channels in the same state with nothing sent. -/
structure Agreed (pair : Pair) : Prop where
  a : (pair.link .a).channel.iAm0 = true
  b : (pair.link .b).channel.iAm0 = false
  channelId : (pair.link .a).channel.channelId = (pair.link .b).channel.channelId
  sequenceNumber :
    (pair.link .a).channel.sequenceNumber = (pair.link .b).channel.sequenceNumber
  balance0 : (pair.link .a).channel.balance0 = (pair.link .b).channel.balance0
  balance1 : (pair.link .a).channel.balance1 = (pair.link .b).channel.balance1
  inRange : (pair.link .a).channel.total < Uint256.size
  silent : ∀ side, (pair.link side).made = [] ∧ (pair.link side).pending = none ∧
    pair.answers side = []

/-- The message of an update, in terms of the balance of party 1. -/
def message (updateTx : UpdateTx) : Message Nat :=
  ⟨updateTx.sequenceNumber.toNat, updateTx.balance1.toNat⟩

/-- The two copies of the balance of party 1. -/
def copies (pair : Pair) : Copies Nat where
  value side := (pair.link side).channel.balance1.toNat
  clock side := (pair.link side).channel.sequenceNumber.toNat
  sent side := (pair.link side).made.map message

def is0 : Side → Bool
  | .a => true
  | .b => false

/-- The invariant of the protocol over channels of this total. -/
structure Linked (total : Nat) (pair : Pair) : Prop where
  roles : ∀ side, (pair.link side).channel.iAm0 = is0 side
  totals : ∀ side, (pair.link side).channel.total = total
  made : ∀ side, ∀ updateTx ∈ (pair.link side).made,
    updateTx.balance0.toNat + updateTx.balance1.toNat = total
  pending : ∀ side updateTx, (pair.link side).pending = some updateTx →
    updateTx.sequenceNumber = (pair.link side).channel.sequenceNumber
  answers : ∀ side, ∀ answer ∈ pair.answers side,
    answer.1.sequenceNumber.toNat ≤ answer.2.toNat
  apart : pair.copies.Apart

theorem Agreed.linked {pair : Pair} (agreed : pair.Agreed) :
    pair.Linked (pair.link .a).channel.total where
  roles side := by
    cases side
    · exact agreed.a
    · exact agreed.b
  totals side := by
    cases side
    · rfl
    · rw [Channel.total, Channel.total, agreed.balance0, agreed.balance1]
  made side := by simp [(agreed.silent side).1]
  pending side := by simp [(agreed.silent side).2.1]
  answers side := by simp [(agreed.silent side).2.2]
  apart := Copies.apart_start
    (fun side => by
      cases side
      · exact congrArg Uint256.toNat agreed.balance1.symm
      · exact congrArg Uint256.toNat agreed.balance1)
    (fun side => by simp [copies, (agreed.silent side).1])

/-! ### One call -/

section Calls

variable {pair : Pair} {side : Side} {channel : Channel} {updateTx : UpdateTx}
  {reply : Option Uint256} {total : Nat}

@[simp] theorem sent_self : (pair.sent side channel updateTx).link side =
    ⟨channel, (pair.link side).made ++ [updateTx], some updateTx⟩ := Function.update_self ..

@[simp] theorem sent_other :
    (pair.sent side channel updateTx).link side.other = pair.link side.other :=
  Function.update_of_ne side.other_ne ..

@[simp] theorem received_self : (pair.received side channel updateTx reply).link side =
    ⟨channel, (pair.link side).made, none⟩ := Function.update_self ..

@[simp] theorem received_other :
    (pair.received side channel updateTx reply).link side.other = pair.link side.other :=
  Function.update_of_ne side.other_ne ..

@[simp] theorem received_answers :
    (pair.received side channel updateTx reply).answers side = pair.answers side :=
  Function.update_of_ne side.ne_other ..

@[simp] theorem received_answers_other :
    (pair.received side channel updateTx reply).answers side.other =
      pair.answers side.other ++ (reply.map fun seq => (updateTx, seq)).toList :=
  Function.update_self ..

theorem copies_sent : (pair.sent side channel channel.toUpdate).copies =
    pair.copies.give side channel.sequenceNumber.toNat channel.balance1.toNat := by
  simp only [copies, Copies.give, Copies.mk.injEq]
  refine ⟨funext ((side.forall_iff).mpr ⟨?_, ?_⟩), funext ((side.forall_iff).mpr ⟨?_, ?_⟩),
    funext ((side.forall_iff).mpr ⟨?_, ?_⟩)⟩
  all_goals simp [Function.update_of_ne side.other_ne, message, Channel.toUpdate]

theorem copies_accepted {accepted : Channel}
    (accepts : Channel.Accepted (pair.link side).channel updateTx accepted) :
    (pair.received side accepted updateTx reply).copies =
      pair.copies.take side (message updateTx) := by
  simp only [copies, Copies.take, Copies.mk.injEq]
  refine ⟨funext ((side.forall_iff).mpr ⟨?_, ?_⟩), funext ((side.forall_iff).mpr ⟨?_, ?_⟩),
    funext ((side.forall_iff).mpr ⟨?_, ?_⟩)⟩
  all_goals
    simp [Function.update_of_ne side.other_ne, message, accepts.balance1,
      accepts.sequenceNumber]

theorem copies_stale :
    (pair.received side (pair.link side).channel updateTx reply).copies = pair.copies := by
  simp only [copies, Copies.mk.injEq]
  refine ⟨funext ((side.forall_iff).mpr ⟨?_, ?_⟩), funext ((side.forall_iff).mpr ⟨?_, ?_⟩),
    funext ((side.forall_iff).mpr ⟨?_, ?_⟩)⟩
  all_goals simp

/-- Paying gives: the payer's copy of the balances moves in the other's favour. -/
theorem Linked.gives (linked : pair.Linked total) {amount : Uint256}
    {currentSeq : Option Uint256} {paid : Channel}
    (pays : Channel.Paid (pair.link side).channel amount currentSeq paid) :
    side.le (pair.copies.value side) paid.balance1.toNat := by
  have role := linked.roles side
  have mine := pays.mine
  have theirs := pays.theirs
  unfold Channel.myBalance at mine
  unfold Channel.theirBalance at theirs
  rw [pays.iAm0, role] at mine theirs
  cases side with
  | a =>
      change (pair.link .a).channel.balance1.toNat ≤ paid.balance1.toNat
      simp only [is0, if_true] at theirs
      omega
  | b =>
      change paid.balance1.toNat ≤ (pair.link .b).channel.balance1.toNat
      simp only [is0, Bool.false_eq_true, if_false] at mine
      omega

/-- A payment numbered above the payer's own sequence number keeps the invariant. -/
theorem Linked.sent (linked : pair.Linked total) {amount : Uint256}
    {currentSeq : Option Uint256} {paid : Channel}
    (pays : Channel.Paid (pair.link side).channel amount currentSeq paid)
    (counts : (pair.link side).channel.sequenceNumber.toNat < paid.sequenceNumber.toNat) :
    (pair.sent side paid paid.toUpdate).Linked total := by
  have paidTotal : paid.total = total := pays.total.trans (linked.totals side)
  refine ⟨(side.forall_iff).mpr ⟨?_, ?_⟩, (side.forall_iff).mpr ⟨?_, ?_⟩,
    (side.forall_iff).mpr ⟨?_, ?_⟩, (side.forall_iff).mpr ⟨?_, ?_⟩, linked.answers, ?_⟩
  · rw [sent_self]
    exact pays.iAm0.trans (linked.roles side)
  · rw [sent_other]
    exact linked.roles side.other
  · rw [sent_self]
    exact paidTotal
  · rw [sent_other]
    exact linked.totals side.other
  · rw [sent_self]
    intro updateTx member
    rcases List.mem_append.mp member with before | last
    · exact linked.made side updateTx before
    · obtain rfl := List.mem_singleton.mp last
      exact paidTotal
  · rw [sent_other]
    exact linked.made side.other
  · rw [sent_self]
    rintro updateTx ⟨⟩
    rfl
  · rw [sent_other]
    exact linked.pending side.other
  · rw [copies_sent]
    exact linked.apart.give counts (linked.gives pays)

theorem Linked.received (linked : pair.Linked total)
    (made : updateTx ∈ (pair.link side.other).made)
    (answered : (pair.link side).channel.receivePayment updateTx = .ok (channel, reply)) :
    (pair.received side channel updateTx reply).Linked total := by
  have kept : channel.iAm0 = (pair.link side).channel.iAm0 ∧
      channel.total = (pair.link side).channel.total ∧
      (pair.received side channel updateTx reply).copies.Apart ∧
      ∀ seq, reply = some seq → updateTx.sequenceNumber.toNat ≤ seq.toNat := by
    rcases Channel.receivePayment_ok answered with ⟨old, rfl, rfl⟩ | ⟨rfl, accepts⟩
    · refine ⟨rfl, rfl, ?_, ?_⟩
      · rw [copies_stale]
        exact linked.apart
      · rintro seq ⟨⟩
        exact old
    · refine ⟨accepts.iAm0, accepts.total, ?_, nofun⟩
      rw [copies_accepted accepts]
      exact linked.apart.take (List.mem_map_of_mem made) accepts.newer
  obtain ⟨role, sameTotal, apart, answers⟩ := kept
  refine ⟨(side.forall_iff).mpr ⟨?_, ?_⟩, (side.forall_iff).mpr ⟨?_, ?_⟩,
    (side.forall_iff).mpr ⟨?_, ?_⟩, (side.forall_iff).mpr ⟨?_, ?_⟩,
    (side.forall_iff).mpr ⟨?_, ?_⟩, apart⟩
  · rw [received_self]
    exact role.trans (linked.roles side)
  · rw [received_other]
    exact linked.roles side.other
  · rw [received_self]
    exact sameTotal.trans (linked.totals side)
  · rw [received_other]
    exact linked.totals side.other
  · rw [received_self]
    exact linked.made side
  · rw [received_other]
    exact linked.made side.other
  · rw [received_self]
    exact nofun
  · rw [received_other]
    exact linked.pending side.other
  · rw [received_answers]
    exact linked.answers side
  · rw [received_answers_other]
    intro answer member
    rcases List.mem_append.mp member with before | last
    · exact linked.answers side.other answer before
    · obtain ⟨seq, rfl, rfl⟩ : ∃ seq, reply = some seq ∧ (updateTx, seq) = answer := by
        cases reply <;> simp_all
      exact answers seq rfl

theorem Linked.step {after : Pair} {event : PairEvent} (linked : pair.Linked total)
    (stepped : pair.step event = some after) : after.Linked total := by
  cases event with
  | pay side amount =>
      simp only [Pair.step] at stepped
      split at stepped
      · cases stepped
      next paid updateTx made =>
        obtain rfl := Option.some.inj stepped
        obtain ⟨pays, rfl⟩ := Channel.makePayment_ok made
        exact linked.sent pays (Nat.lt_of_lt_of_eq (Nat.lt_succ_self _) pays.sequenceNumber.symm)
  | retry side amount currentSeq =>
      simp only [Pair.step] at stepped
      split at stepped
      · cases stepped
      next last pending =>
        split at stepped
        next answered =>
          split at stepped
          · cases stepped
          next paid updateTx made =>
            obtain rfl := Option.some.inj stepped
            obtain ⟨pays, rfl⟩ := Channel.makePayment_ok made
            have counted := linked.answers side _ answered
            have number := pays.sequenceNumber
            rw [linked.pending side last pending] at counted
            exact linked.sent pays (by simpa [number] using Nat.lt_succ_of_le counted)
        next => cases stepped
  | receive side updateTx =>
      simp only [Pair.step] at stepped
      split at stepped
      next made =>
        split at stepped
        · cases stepped
        next channel reply answered =>
          obtain rfl := Option.some.inj stepped
          exact linked.received made answered
      next => cases stepped

/-- An honest update is answered, as long as the accrual fits. -/
theorem Linked.answers_honest (linked : pair.Linked total) (inRange : total < Uint256.size)
    (made : updateTx ∈ (pair.link side.other).made)
    (accrues : (pair.link side).channel.accrual.toNat +
      ((updateTx.myBalance (pair.link side).channel.iAm0).toNat -
        (pair.link side).channel.myBalance.toNat) < Uint256.size) :
    ∃ result, (pair.link side).channel.receivePayment updateTx = .ok result := by
  by_cases newer : (pair.link side).channel.sequenceNumber.toNat < updateTx.sequenceNumber.toNat
  · have total := linked.totals side
    have sameTotal := linked.made side.other updateTx made
    have between := (linked.apart.between side (message updateTx)
      (List.mem_map_of_mem made) newer).2
    have keepsMine : (pair.link side).channel.myBalance.toNat ≤
        (updateTx.myBalance (pair.link side).channel.iAm0).toNat := by
      unfold Channel.myBalance UpdateTx.myBalance
      unfold Channel.total at total
      rw [linked.roles side]
      cases side with
      | a =>
          change updateTx.balance1.toNat ≤ (pair.link .a).channel.balance1.toNat at between
          simp only [is0, if_true]
          omega
      | b =>
          change (pair.link .b).channel.balance1.toNat ≤ updateTx.balance1.toNat at between
          simpa only [is0, Bool.false_eq_true, if_false] using between
    obtain ⟨accepted, accepts⟩ := Channel.receivePayment_succeeds
      ⟨newer, sameTotal.trans total.symm, total ▸ inRange, keepsMine, accrues⟩
    exact ⟨_, accepts⟩
  · exact ⟨_, Channel.receivePayment_stale (Nat.le_of_not_lt newer)⟩

end Calls

/-- Balance liveness: in every reachable state each side's copy of the other's
balance is at least the other's own, and no update an honest side ever made is
refused. -/
theorem balance_liveness {start pair : Pair} {taken : List (Transition Pair PairEvent)}
    (agreed : start.Agreed) (run : machine.Run start taken pair) :
    (pair.link .b).channel.balance1 ≤ (pair.link .a).channel.balance1 ∧
      (pair.link .a).channel.balance0 ≤ (pair.link .b).channel.balance0 ∧
      ∀ side, ∀ updateTx ∈ (pair.link side.other).made,
        (pair.link side).channel.accrual.toNat +
            ((updateTx.myBalance (pair.link side).channel.iAm0).toNat -
              (pair.link side).channel.myBalance.toNat) < Uint256.size →
          ∃ result, (pair.link side).channel.receivePayment updateTx = .ok result := by
  have linked :=
    run.invariant (Linked _) agreed.linked fun _ _ _ linked stepped => linked.step stepped
  have crossed : (pair.link .b).channel.balance1.toNat ≤ (pair.link .a).channel.balance1.toNat :=
    linked.apart.values .a
  have totalA := linked.totals .a
  have totalB := linked.totals .b
  refine ⟨crossed, ?_, fun side updateTx made accrues =>
    linked.answers_honest agreed.inRange made accrues⟩
  rw [Uint256.le_def]
  unfold Channel.total at totalA totalB
  omega

def sample : Pair where
  link side := ⟨⟨7, 0, 5, 5, 0, is0 side⟩, [], none⟩
  answers _ := []

theorem sample_agreed : sample.Agreed :=
  ⟨rfl, rfl, rfl, rfl, rfl, rfl, by decide, fun _ => ⟨rfl, rfl, rfl⟩⟩

/-- Payments cross, the answer to one of them is retried, and the other arrives
late. -/
theorem balance_liveness_crossing :
    ∃ pair ∈ machine.replay sample
        [.pay .a 2, .pay .b 1, .receive .b ⟨7, 1, 3, 7, none, none⟩, .retry .a 2 1,
          .receive .b ⟨7, 2, 1, 9, none, none⟩, .receive .a ⟨7, 1, 6, 4, none, none⟩],
      (pair.link .a).channel = ⟨7, 2, 1, 9, 0, true⟩ ∧
        (pair.link .b).channel.balance1 ≤ (pair.link .a).channel.balance1 := by
  obtain ⟨pair, reached, channel⟩ : ∃ pair ∈ machine.replay sample
      [.pay .a 2, .pay .b 1, .receive .b ⟨7, 1, 3, 7, none, none⟩, .retry .a 2 1,
        .receive .b ⟨7, 2, 1, 9, none, none⟩, .receive .a ⟨7, 1, 6, 4, none, none⟩],
      (pair.link .a).channel = ⟨7, 2, 1, 9, 0, true⟩ := by
    decide +kernel
  exact ⟨pair, reached, channel,
    (balance_liveness sample_agreed (Machine.run_of_replay reached)).1⟩

end Pair

end Guac
