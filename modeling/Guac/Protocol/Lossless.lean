import Guac.Core.ChannelMethods
import Guac.Core.Range
import Guac.Foundation.Side

/-!
Owns the payment protocol without losses: two channels, each payment taken at
once by the other side. It proves that the two copies stay in step and that the
accrual of each side counts what the other paid, to the last unit.
-/

set_option autoImplicit false

namespace Guac

open Foundation

abbrev Channels := Side → Channel

inductive LosslessEvent where
  | pay (payer : Side) (amount : Uint256)
  | checkAccrual (side : Side)

namespace Lossless

/-- One side pays, and the other at once receives the payment. -/
def pay (channels : Channels) (payer : Side) (amount : Uint256) : Option Channels :=
  match (channels payer).call (.makePayment amount none) with
  | (.error .panic, _) => none
  | (.ok (.made updateTx), paid) =>
      match (channels payer.other).call (.receivePayment updateTx) with
      | (.error .panic, _) => none
      | (_, received) =>
          some (Function.update (Function.update channels payer paid) payer.other received)
  | (_, left) => some (Function.update channels payer left)

/-- One step. A call that panics is none. -/
def step (channels : Channels) : LosslessEvent → Option Channels
  | .pay payer amount => pay channels payer amount
  | .checkAccrual side =>
      some (Function.update channels side ((channels side).call .checkAccrual).2)

def machine : Machine Channels LosslessEvent := ⟨step⟩

def makes (channels : Channels) (payer : Side) (amount : Uint256) : Result ChannelReply :=
  ((channels payer).call (.makePayment amount none)).1

/-- What a side successfully paid in a transition. -/
def paidBy (side : Side) (taken : Transition Channels LosslessEvent) : Nat :=
  match taken.event with
  | .pay payer amount =>
      if payer = side then
        match makes taken.before payer amount with
        | .ok _ => amount.toNat
        | .error _ => 0
      else 0
  | .checkAccrual _ => 0

/-- What `check_accrual` returned to a side in a transition. -/
def readBy (side : Side) (taken : Transition Channels LosslessEvent) : Nat :=
  match taken.event with
  | .checkAccrual reader =>
      if reader = side then
        match ((taken.before side).call .checkAccrual).1 with
        | .ok (.accrued amount) => amount.toNat
        | _ => 0
      else 0
  | .pay .. => 0

/-- The two channels have opposite roles and agree. -/
structure Mirrored (channels : Channels) : Prop where
  roles : ∀ side, (channels side.other).iAm0 = !(channels side).iAm0
  agrees : ∀ side, (channels side).Agrees (channels side.other)

/-- The sums that a step computes stay below `2^256`. -/
def Fits (channels : Channels) : LosslessEvent → Prop
  | .pay payer amount =>
      (channels payer).total < Uint256.size ∧
        (channels payer).sequenceNumber.toNat + 1 < Uint256.size ∧
        (amount ≤ (channels payer).myBalance →
          (channels payer.other).accrual.toNat + amount.toNat < Uint256.size)
  | .checkAccrual _ => True

/-- What one payment does. -/
inductive Pays (before : Channels) (payer : Side) (amount : Uint256) : Channels → Prop
  | notEnough : (before payer).myBalance < amount →
      makes before payer amount = .error (.guac (.notEnough "money in channel.")) →
      Pays before payer amount before
  | accepted {paid received : Channel} :
      Channel.Paid (before payer) amount none paid →
      makes before payer amount = .ok (.made paid.toUpdate) →
      Channel.Accepted (before payer.other) paid.toUpdate received →
      ((before payer.other).call (.receivePayment paid.toUpdate)).1 = .ok (.answered none) →
      Pays before payer amount
        (Function.update (Function.update before payer paid) payer.other received)

theorem Mirrored.credits {channels : Channels} {payer : Side} {amount : Uint256}
    {paid : Channel} (mirrored : Mirrored channels)
    (pays : Channel.Paid (channels payer) amount none paid) :
    (paid.toUpdate.myBalance (channels payer.other).iAm0).toNat =
      (channels payer.other).myBalance.toNat + amount.toNat := by
  have agrees := mirrored.agrees payer
  have theirs := pays.theirs
  unfold Channel.theirBalance at theirs
  unfold Channel.myBalance UpdateTx.myBalance Channel.toUpdate
  rw [pays.iAm0, agrees.balance0, agrees.balance1] at theirs
  rw [mirrored.roles payer]
  cases role : (channels payer).iAm0 <;> simpa [role] using theirs

/-- A payment reaches a copy that agrees, which accepts it. -/
theorem Mirrored.accepts {channels : Channels} {payer : Side} {amount : Uint256}
    {paid received : Channel} {result : Result ChannelReply} (mirrored : Mirrored channels)
    (pays : Channel.Paid (channels payer) amount none paid)
    (outcome : (channels payer.other).call (.receivePayment paid.toUpdate) = (result, received))
    (noPanic : result ≠ .error .panic) :
    Channel.Accepted (channels payer.other) paid.toUpdate received ∧
      result = .ok (.answered none) := by
  have agrees := mirrored.agrees payer
  have sameTotal : paid.total = (channels payer.other).total := by
    rw [pays.total, Channel.total, Channel.total, agrees.balance0, agrees.balance1]
  have credited := mirrored.credits pays
  have called := Channel.called_of_call outcome noPanic
  cases called with
  | accepted accepts => exact ⟨accepts, rfl⟩
  | stale old => exact absurd (agrees.newer pays rfl) (Nat.not_lt.mpr old)
  | refused refusal =>
      rcases refusal with differs | less
      · exact absurd sameTotal differs
      · omega

theorem Mirrored.pays {before after : Channels} {payer : Side} {amount : Uint256}
    (mirrored : Mirrored before) (paid : pay before payer amount = some after) :
    Pays before payer amount after := by
  unfold pay at paid
  generalize outcome : (before payer).call (.makePayment amount none) = answer at paid
  obtain ⟨result, left⟩ := answer
  have noPanic : result ≠ .error .panic := by
    rintro rfl
    cases paid
  have called := Channel.called_of_call outcome noPanic
  have answers : makes before payer amount = result := congrArg Prod.fst outcome
  cases called with
  | notEnough tooMuch =>
      obtain rfl := Option.some.inj paid
      rw [Function.update_eq_self]
      exact .notEnough tooMuch answers
  | paid pays =>
      generalize receipt :
        (before payer.other).call (.receivePayment left.toUpdate) = answer at paid
      obtain ⟨reply, received⟩ := answer
      have noPanic : reply ≠ .error .panic := by
        rintro rfl
        simp [receipt] at paid
      obtain ⟨accepts, rfl⟩ := mirrored.accepts pays receipt noPanic
      simp only [receipt] at paid
      obtain rfl := Option.some.inj paid
      exact .accepted pays answers accepts (congrArg Prod.fst receipt)

/-- A payment whose sums stay in range is no panic: the payer makes it or has not enough, and
the other side takes what is made. -/
theorem Mirrored.enabled {channels : Channels} {payer : Side} {amount : Uint256}
    (mirrored : Mirrored channels) (fits : Fits channels (.pay payer amount)) :
    ∃ after, pay channels payer amount = some after := by
  obtain ⟨total, counts, accrues⟩ := fits
  have made := Method.on_makePayment (channels payer) amount none
  rcases Nat.lt_or_ge (channels payer).myBalance.toNat amount.toNat with less | enough
  · have short : (channels payer).makePayment amount none =
        .error (.guac (.notEnough "money in channel.")) := by
      cases outcome : (channels payer).makePayment amount none with
      | ok result =>
          have mine := (Channel.makePayment_ok outcome).1.mine
          omega
      | error fault =>
          rcases Channel.makePayment_error outcome with rfl | ⟨rfl, -⟩
          · exact absurd ((Channel.makePayment_panics_iff total).mp outcome)
              (Nat.not_le.mpr counts)
          · rfl
    rw [short] at made
    simp only [pay, Channel.call, ChannelCall.method, Method.on_bind, made]
    exact ⟨_, rfl⟩
  · have totals := (channels payer).total_eq
    obtain ⟨paid, pays⟩ := @Channel.makePayment_succeeds _ amount none enough counts (by omega)
    obtain ⟨moves, -⟩ := Channel.makePayment_ok pays
    have agrees := mirrored.agrees payer
    have same : (channels payer).total = (channels payer.other).total := by
      rw [Channel.total, Channel.total, agrees.balance0, agrees.balance1]
    have credited := mirrored.credits moves
    have inRange := accrues enough
    obtain ⟨received, accepts⟩ := @Channel.receivePayment_succeeds (channels payer.other)
      paid.toUpdate ⟨agrees.newer moves rfl, moves.total.trans same, same ▸ total, by omega,
        by omega⟩
    have receipt := Method.on_receivePayment (channels payer.other) paid.toUpdate
    rw [pays] at made
    rw [accepts] at receipt
    simp only [pay, Channel.call, ChannelCall.method, Method.on_bind, made, receipt,
      Method.on_pure]
    exact ⟨_, rfl⟩

theorem read_agrees {mine theirs : Channel} (agrees : mine.Agrees theirs) :
    (mine.call .checkAccrual).2.Agrees theirs :=
  ⟨agrees.channelId, agrees.sequenceNumber, agrees.balance0, agrees.balance1⟩

theorem Mirrored.step {before after : Channels} {event : LosslessEvent}
    (mirrored : Mirrored before) (stepped : Lossless.step before event = some after) :
    Mirrored after := by
  cases event with
  | pay payer amount =>
      cases mirrored.pays stepped with
      | notEnough => exact mirrored
      | @accepted paid received pays _ accepts =>
          have agrees : paid.Agrees received := (mirrored.agrees payer).accepted pays rfl accepts
          have role : received.iAm0 = !paid.iAm0 := by
            rw [accepts.iAm0, mirrored.roles payer, pays.iAm0]
          refine ⟨(payer.forall_iff).mpr ⟨?_, ?_⟩, (payer.forall_iff).mpr ⟨?_, ?_⟩⟩
          all_goals
            simp only [Side.other_other, Function.update_self,
              Function.update_of_ne payer.ne_other]
          · exact role
          · rw [role, Bool.not_not]
          · exact agrees
          · exact agrees.symm
  | checkAccrual side =>
      obtain rfl := Option.some.inj stepped
      refine ⟨(side.forall_iff).mpr ⟨?_, ?_⟩, (side.forall_iff).mpr ⟨?_, ?_⟩⟩
      all_goals
        simp only [Side.other_other, Function.update_self, Function.update_of_ne side.other_ne]
      · exact mirrored.roles side
      · have roles := mirrored.roles side.other
        rw [Side.other_other] at roles
        exact roles
      · exact read_agrees (mirrored.agrees side)
      · exact (read_agrees (mirrored.agrees side)).symm

/-- What a step adds to the accrual of a side is what the other paid. -/
theorem Mirrored.accrues {before after : Channels} {event : LosslessEvent}
    (mirrored : Mirrored before) (stepped : Lossless.step before event = some after)
    (side : Side) :
    (after side).accrual.toNat + readBy side ⟨before, event, after⟩ =
      (before side).accrual.toNat + paidBy side.other ⟨before, event, after⟩ := by
  cases event with
  | pay payer amount =>
      cases mirrored.pays stepped with
      | notEnough _ answers => simp [readBy, paidBy, answers]
      | @accepted paid received pays answers accepts _ =>
          have credited := mirrored.credits pays
          have accrual := accepts.accrual
          rcases side.eq_or_eq_other payer with rfl | rfl
          · simp only [readBy, paidBy, Function.update_of_ne payer.ne_other, Function.update_self,
              pays.accrual, if_neg payer.ne_other]
          · simp only [Side.other_other] at accrual credited
            simp only [readBy, paidBy, answers, Side.other_other, Function.update_self, if_true]
            omega
  | checkAccrual reader =>
      obtain rfl := Option.some.inj stepped
      rcases reader.eq_or_eq_other side with rfl | rfl
      · simp only [readBy, paidBy, Function.update_self, if_true]
        exact Nat.zero_add _
      · simp only [readBy, paidBy, Function.update_of_ne reader.other_ne, if_neg reader.ne_other]

section Runs

variable {start channels : Channels} {taken : List (Transition Channels LosslessEvent)}

theorem Mirrored.before (mirrored : Mirrored start) (run : machine.Run start taken channels) :
    ∀ transition ∈ taken, Mirrored transition.before :=
  run.before Mirrored mirrored fun _ _ _ kept stepped => kept.step stepped

theorem mirrored_of_agrees (a : (start .a).iAm0 = true) (b : (start .b).iAm0 = false)
    (agrees : (start .a).Agrees (start .b)) : Mirrored start where
  roles side := by
    cases side
    · exact b.trans (congrArg (!·) a).symm
    · exact a.trans (congrArg (!·) b).symm
  agrees side := by
    cases side
    · exact agrees
    · exact agrees.symm

/-- Lossless payments: a payment above the balance is refused and changes nothing,
every other one is accepted, the copies agree after each step, the accrual of
each side, read or not, is exactly what the other paid, and no step panics whose sums
stay below `2^256`. -/
theorem lossless_payments (a : (start .a).iAm0 = true) (b : (start .b).iAm0 = false)
    (agrees : (start .a).Agrees (start .b)) (run : machine.Run start taken channels) :
    (∀ transition ∈ taken, ∀ payer amount, transition.event = .pay payer amount →
      (transition.before payer).myBalance < amount →
        makes transition.before payer amount = .error (.guac (.notEnough "money in channel.")) ∧
          transition.after = transition.before) ∧
      (∀ transition ∈ taken, ∀ payer amount, transition.event = .pay payer amount →
        amount ≤ (transition.before payer).myBalance →
          ∃ updateTx, makes transition.before payer amount = .ok (.made updateTx) ∧
            ((transition.before payer.other).call (.receivePayment updateTx)).1 =
              .ok (.answered none)) ∧
      (∀ transition ∈ taken, (transition.after .a).Agrees (transition.after .b)) ∧
      (∀ side, (channels side).accrual.toNat + (taken.map (readBy side)).sum =
        (start side).accrual.toNat + (taken.map (paidBy side.other)).sum) ∧
      ∀ event, Fits channels event → ∃ after, machine.step channels event = some after := by
  have initial := mirrored_of_agrees a b agrees
  have before := initial.before run
  have stepped := run.step_of_mem
  refine ⟨?_, ?_, ?_, ?_, ?_⟩
  · intro transition member payer amount event tooMuch
    have paid := stepped transition member
    rw [event] at paid
    generalize transition.after = after at paid ⊢
    cases (before transition member).pays paid with
    | notEnough _ answers => exact ⟨answers, rfl⟩
    | accepted pays =>
        have mine := pays.mine
        rw [Uint256.lt_def] at tooMuch
        omega
  · intro transition member payer amount event enough
    have paid := stepped transition member
    rw [event] at paid
    generalize transition.after = after at paid
    cases (before transition member).pays paid with
    | notEnough tooMuch => exact absurd enough (Nat.not_le.mpr tooMuch)
    | accepted _ answers _ accepted => exact ⟨_, answers, accepted⟩
  · intro transition member
    exact ((before transition member).step (stepped transition member)).agrees .a
  · intro side
    apply run.balance (fun state => (state side).accrual.toNat) (paidBy side.other) (readBy side)
    intro transition member
    exact (before transition member).accrues (stepped transition member) side
  · intro event fits
    have reached := run.invariant Mirrored initial fun _ _ _ kept stepped => kept.step stepped
    cases event with
    | pay payer amount => exact reached.enabled fits
    | checkAccrual side => exact ⟨_, rfl⟩

def sample : Channels := fun side => ⟨7, 0, 5, 5, 0, decide (side = .a)⟩

/-- Payments in both directions, one of them too large, with reads between. -/
def sampleEvents : List LosslessEvent :=
  [.pay .a 2, .pay .b 4, .checkAccrual .a, .pay .a 9, .pay .b 1]

theorem lossless_payments_both_ways :
    ∃ channels ∈ machine.replay sample sampleEvents,
      channels .a = ⟨7, 3, 8, 2, 1, true⟩ ∧ channels .b = ⟨7, 3, 8, 2, 2, false⟩ ∧
        1 + ((machine.trace sample sampleEvents).map (readBy .a)).sum =
          ((machine.trace sample sampleEvents).map (paidBy .b)).sum ∧
        ∃ after, machine.step channels (.pay .b 2) = some after := by
  obtain ⟨channels, reached, a, b⟩ : ∃ channels ∈ machine.replay sample sampleEvents,
      channels .a = ⟨7, 3, 8, 2, 1, true⟩ ∧ channels .b = ⟨7, 3, 8, 2, 2, false⟩ := by
    decide +kernel
  obtain ⟨-, -, -, accrues, enabled⟩ := lossless_payments rfl rfl ⟨rfl, rfl, rfl, rfl⟩
    (Machine.run_of_replay reached)
  have accrued := accrues .a
  rw [a] at accrued
  refine ⟨channels, reached, a, b, accrued.trans (Nat.zero_add _), enabled _ ?_⟩
  simp only [Fits, Side.other, a, b]
  decide

end Runs

end Lossless

end Guac
