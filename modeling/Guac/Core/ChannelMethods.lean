import Guac.Core.Channel
import Guac.Foundation.Machine

/-!
Owns the methods of `channel.rs` as they run on `&mut self`, with their
assignments in the order of the source, and the machine of one channel whose
owner calls them in any order with any arguments. Each method is shown to leave
the channel that the functions of `Guac.Core.Channel` compute, and to leave it
as it was wherever it answers an error.

A call that panics ends the task that made it: it is no step of the machine.
-/

set_option autoImplicit false

namespace Guac

open Foundation

/-- A method on `&mut self`: what it assigned before it failed stays assigned. -/
abbrev Method := ExceptT Fault (StateM Channel)

namespace Method

/-- The result of a call, and the channel it leaves. -/
def on {α : Type} (method : Method α) (channel : Channel) : Result α × Channel :=
  (StateT.run (ExceptT.run method) channel).run

/-- A computation that assigns nothing. -/
def check {α : Type} (result : Result α) : Method α := ExceptT.mk (pure result)

def makePayment (amount : Uint256) (currentSeq : Option Uint256) : Method UpdateTx := do
  let channel ← get
  let sequenceNumber ← check (channel.nextSequenceNumber currentSeq)
  let myBalance ←
    check (okOr (channel.myBalance.checkedSub amount) (.guac (.notEnough "money in channel.")))
  let theirBalance ← check (channel.theirBalance.add amount)
  let balance0 := if channel.iAm0 then myBalance else theirBalance
  let balance1 := if channel.iAm0 then theirBalance else myBalance
  modify fun self => { self with balance0 }
  modify fun self => { self with balance1 }
  modify fun self => { self with sequenceNumber }
  return { channelId := channel.channelId, sequenceNumber, balance0, balance1,
           signature0 := none, signature1 := none }

/-- `Channel::receive_payment`. The accrual is added last: if that panics, the
balances and the sequence number are assigned already. -/
def receivePayment (updateTx : UpdateTx) : Method (Option Uint256) := do
  let channel ← get
  if updateTx.sequenceNumber ≤ channel.sequenceNumber then
    return some channel.sequenceNumber
  else
    let myOldBalance := channel.myBalance
    let theirOldBalance := channel.theirBalance
    let myBalance := updateTx.myBalance channel.iAm0
    let theirBalance := updateTx.theirBalance channel.iAm0
    let oldTotal ← check (myOldBalance.add theirOldBalance)
    let newTotal ← check (myBalance.add theirBalance)
    if oldTotal ≠ newTotal then
      throw (.guac (.forbidden "Total amount in channel does not stay the same"))
    else if myBalance < myOldBalance then
      throw (.guac (.forbidden "This reduces my balance"))
    else
      modify fun self => { self with balance0 := updateTx.balance0 }
      modify fun self => { self with balance1 := updateTx.balance1 }
      modify fun self => { self with sequenceNumber := updateTx.sequenceNumber }
      let gain ← check (myBalance.sub myOldBalance)
      let accrual ← check ((← get).accrual.add gain)
      modify fun self => { self with accrual }
      return none

def checkAccrual : Method Uint256 := do
  let accrual := (← get).accrual
  modify fun self => { self with accrual := 0 }
  return accrual

/-! ### The methods leave what the functions compute -/

theorem on_bind {α β : Type} (first : Method α) (next : α → Method β) (channel : Channel) :
    (first >>= next).on channel =
      match first.on channel with
      | (.ok value, left) => (next value).on left
      | (.error fault, left) => (.error fault, left) := by
  unfold on ExceptT.run StateT.run Id.run
  simp only [bind, ExceptT.bind, ExceptT.mk, StateT.bind]
  cases first channel with
  | mk result left => cases result <;> rfl

@[simp] theorem on_check {α : Type} (result : Result α) (channel : Channel) :
    (check result).on channel = (result, channel) := rfl

@[simp] theorem on_pure {α : Type} (value : α) (channel : Channel) :
    (pure value : Method α).on channel = (.ok value, channel) := rfl

@[simp] theorem on_throw {α : Type} (fault : Fault) (channel : Channel) :
    (throw fault : Method α).on channel = (.error fault, channel) := rfl

@[simp] theorem on_get (channel : Channel) :
    (get : Method Channel).on channel = (.ok channel, channel) := rfl

@[simp] theorem on_modify (assign : Channel → Channel) (channel : Channel) :
    (modify assign : Method PUnit).on channel = (.ok ⟨⟩, assign channel) := rfl

theorem on_makePayment (channel : Channel) (amount : Uint256) (currentSeq : Option Uint256) :
    (makePayment amount currentSeq).on channel =
      match channel.makePayment amount currentSeq with
      | .ok (paid, updateTx) => (.ok updateTx, paid)
      | .error fault => (.error fault, channel) := by
  simp only [makePayment, Channel.makePayment, on_bind, on_get, on_check]
  cases channel.nextSequenceNumber currentSeq with
  | error => rfl
  | ok sequenceNumber =>
      cases okOr (channel.myBalance.checkedSub amount) (.guac (.notEnough "money in channel.")) with
      | error => rfl
      | ok myBalance =>
          cases channel.theirBalance.add amount with
          | error => rfl
          | ok => rfl

/-- `receive_payment` assigns nothing before it refuses an update; only a panic
comes after its first assignment. -/
theorem on_receivePayment (channel : Channel) (updateTx : UpdateTx) :
    match channel.receivePayment updateTx with
    | .ok (received, reply) => (receivePayment updateTx).on channel = (.ok reply, received)
    | .error fault => ∃ left, (receivePayment updateTx).on channel = (.error fault, left) ∧
        (fault ≠ .panic → left = channel) := by
  simp only [receivePayment, Channel.receivePayment, on_bind, on_get]
  by_cases old : updateTx.sequenceNumber ≤ channel.sequenceNumber
  · rw [if_pos old, if_pos old]
    rfl
  rw [if_neg old, if_neg old]
  simp only [Channel.acceptPayment, on_bind, on_check]
  cases channel.myBalance.add channel.theirBalance with
  | error => exact ⟨channel, rfl, fun _ => rfl⟩
  | ok oldTotal =>
  cases (updateTx.myBalance channel.iAm0).add (updateTx.theirBalance channel.iAm0) with
  | error => exact ⟨channel, rfl, fun _ => rfl⟩
  | ok newTotal =>
  simp only [ok_bind]
  by_cases differs : oldTotal ≠ newTotal
  · rw [if_pos differs, if_pos differs]
    exact ⟨channel, rfl, fun _ => rfl⟩
  by_cases less : updateTx.myBalance channel.iAm0 < channel.myBalance
  · rw [if_neg differs, if_neg differs, if_pos less, if_pos less]
    exact ⟨channel, rfl, fun _ => rfl⟩
  rw [if_neg differs, if_neg differs, if_neg less, if_neg less]
  simp only [on_bind, on_modify, on_get, on_check]
  cases difference : (updateTx.myBalance channel.iAm0).sub channel.myBalance with
  | error fault => exact ⟨_, rfl, fun noPanic => absurd (Uint256.sub_error difference).1 noPanic⟩
  | ok gain =>
  simp only [ok_bind]
  cases sum : channel.accrual.add gain with
  | error fault => exact ⟨_, rfl, fun noPanic => absurd (Uint256.add_error sum).1 noPanic⟩
  | ok accrual => rfl

end Method

/-- A call of one of the methods. -/
inductive ChannelCall where
  | makePayment (amount : Uint256) (currentSeq : Option Uint256)
  | receivePayment (updateTx : UpdateTx)
  | checkAccrual

/-- What a call returns. -/
inductive ChannelReply where
  | made (updateTx : UpdateTx)
  | answered (currentSeq : Option Uint256)
  | accrued (amount : Uint256)
  deriving DecidableEq

def ChannelCall.method : ChannelCall → Method ChannelReply
  | .makePayment amount currentSeq => do return .made (← Method.makePayment amount currentSeq)
  | .receivePayment updateTx => do return .answered (← Method.receivePayment updateTx)
  | .checkAccrual => do return .accrued (← Method.checkAccrual)

namespace Channel

def call (channel : Channel) (called : ChannelCall) : Result ChannelReply × Channel :=
  called.method.on channel

/-- One call that does not panic. -/
def callStep (channel : Channel) (called : ChannelCall) : Option Channel :=
  match channel.call called with
  | (.error .panic, _) => none
  | (_, left) => some left

def callMachine : Machine Channel ChannelCall := ⟨callStep⟩

/-- What a call that does not panic does: it pays, it accepts an update, it reads
the accrual, or it leaves the channel as it was. -/
inductive Called (before : Channel) : ChannelCall → Result ChannelReply → Channel → Prop
  | paid {amount : Uint256} {currentSeq : Option Uint256} {after : Channel} :
      Paid before amount currentSeq after →
      Called before (.makePayment amount currentSeq) (.ok (.made after.toUpdate)) after
  | notEnough {amount : Uint256} {currentSeq : Option Uint256} :
      before.myBalance.toNat < amount.toNat →
      Called before (.makePayment amount currentSeq)
        (.error (.guac (.notEnough "money in channel."))) before
  | accepted {updateTx : UpdateTx} {after : Channel} : Accepted before updateTx after →
      Called before (.receivePayment updateTx) (.ok (.answered none)) after
  | stale {updateTx : UpdateTx} :
      updateTx.sequenceNumber.toNat ≤ before.sequenceNumber.toNat →
      Called before (.receivePayment updateTx) (.ok (.answered (some before.sequenceNumber)))
        before
  | refused {updateTx : UpdateTx} {fault : Fault} :
      updateTx.balance0.toNat + updateTx.balance1.toNat ≠ before.total ∨
        (updateTx.myBalance before.iAm0).toNat < before.myBalance.toNat →
      Called before (.receivePayment updateTx) (.error fault) before
  | read : Called before .checkAccrual (.ok (.accrued before.accrual)) before.checkAccrual.1

theorem called_makePayment {channel after : Channel} {amount : Uint256}
    {currentSeq : Option Uint256} {result : Result ChannelReply}
    (called : channel.call (.makePayment amount currentSeq) = (result, after))
    (noPanic : result ≠ .error .panic) :
    Called channel (.makePayment amount currentSeq) result after := by
  simp only [call, ChannelCall.method, Method.on_bind, Method.on_makePayment] at called
  cases made : channel.makePayment amount currentSeq with
  | error fault =>
      rw [made] at called
      obtain ⟨rfl, rfl⟩ := Prod.mk.inj called
      rcases makePayment_error made with rfl | ⟨rfl, tooMuch⟩
      · exact absurd rfl noPanic
      · exact .notEnough tooMuch
  | ok payment =>
      obtain ⟨paid, updateTx⟩ := payment
      rw [made] at called
      obtain ⟨rfl, rfl⟩ := Prod.mk.inj called
      obtain ⟨pays, rfl⟩ := makePayment_ok made
      exact .paid pays

theorem called_receivePayment {channel after : Channel} {updateTx : UpdateTx}
    {result : Result ChannelReply}
    (called : channel.call (.receivePayment updateTx) = (result, after))
    (noPanic : result ≠ .error .panic) :
    Called channel (.receivePayment updateTx) result after := by
  simp only [call, ChannelCall.method, Method.on_bind] at called
  have spec := Method.on_receivePayment channel updateTx
  cases answered : channel.receivePayment updateTx with
  | error fault =>
      rw [answered] at spec
      obtain ⟨left, answer, kept⟩ := spec
      rw [answer] at called
      obtain ⟨rfl, rfl⟩ := Prod.mk.inj called
      have sane : fault ≠ .panic := fun panics => noPanic (panics ▸ rfl)
      rw [kept sane]
      rcases receivePayment_error answered with rfl | ⟨-, differs⟩ | ⟨-, less⟩
      · exact absurd rfl sane
      · exact .refused (.inl differs)
      · exact .refused (.inr less)
  | ok answer =>
      obtain ⟨received, reply⟩ := answer
      rw [answered] at spec
      rw [spec] at called
      obtain ⟨rfl, rfl⟩ := Prod.mk.inj called
      rcases receivePayment_ok answered with ⟨old, rfl, rfl⟩ | ⟨rfl, accepts⟩
      · exact .stale old
      · exact .accepted accepts

theorem called_of_call {channel after : Channel} {called : ChannelCall}
    {result : Result ChannelReply}
    (outcome : channel.call called = (result, after)) (noPanic : result ≠ .error .panic) :
    Called channel called result after := by
  cases called with
  | makePayment amount currentSeq => exact called_makePayment outcome noPanic
  | receivePayment updateTx => exact called_receivePayment outcome noPanic
  | checkAccrual =>
      obtain ⟨rfl, rfl⟩ := Prod.mk.inj outcome
      exact .read

theorem callStep_eq_some {before after : Channel} {called : ChannelCall} :
    before.callStep called = some after ↔
      (before.call called).1 ≠ .error .panic ∧ (before.call called).2 = after := by
  unfold callStep
  generalize before.call called = answer
  obtain ⟨result, left⟩ := answer
  cases result with
  | ok => simp
  | error fault => cases fault <;> simp

theorem called_of_step {before after : Channel} {called : ChannelCall}
    (stepped : before.callStep called = some after) :
    Called before called (before.call called).1 after := by
  obtain ⟨noPanic, rfl⟩ := callStep_eq_some.mp stepped
  exact called_of_call rfl noPanic

end Channel

end Guac
