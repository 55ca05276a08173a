import Mathlib.Data.Nat.Basic
import Guac.Core.ChannelMethods

/-!
Owns the runs of one channel against a counterparty that sends anything: what
stays fixed, how the own balance adds up, and when the sequence number guards
against taking an update twice.

The guard of `receive_payment` is the stored sequence number, and `make_payment`
overwrites it with one above whatever number the counterparty replied. A reply
below the stored number takes the guard back.
-/

set_option autoImplicit false

namespace Guac

open Foundation

namespace ChannelCall

def paid : ChannelCall → Result ChannelReply → Nat
  | .makePayment amount _, .ok _ => amount.toNat
  | _, _ => 0

def made : ChannelCall → Result ChannelReply → Option UpdateTx
  | .makePayment _ _, .ok (.made updateTx) => some updateTx
  | _, _ => none

def accepted : ChannelCall → Result ChannelReply → Option UpdateTx
  | .receivePayment updateTx, .ok (.answered none) => some updateTx
  | _, _ => none

end ChannelCall

/-- The call answered an error or the stored sequence number. -/
def ChannelReply.declines : Result ChannelReply → Bool
  | .error _ => true
  | .ok (.answered (some _)) => true
  | _ => false

namespace Channel

def replyOf (taken : Transition Channel ChannelCall) : Result ChannelReply :=
  (taken.before.call taken.event).1

def paidBy (taken : Transition Channel ChannelCall) : Nat := taken.event.paid (replyOf taken)

def madeBy (taken : Transition Channel ChannelCall) : Option UpdateTx :=
  taken.event.made (replyOf taken)

def acceptedBy (taken : Transition Channel ChannelCall) : Option UpdateTx :=
  taken.event.accepted (replyOf taken)

/-- What the call of a transition added to the own balance by accepting an update. -/
def creditedBy (taken : Transition Channel ChannelCall) : Nat :=
  match acceptedBy taken with
  | some _ => taken.after.myBalance.toNat - taken.before.myBalance.toNat
  | none => 0

/-! ### One call -/

section Calls

variable {before after : Channel} {call : ChannelCall} {reply : Result ChannelReply}

theorem Called.total (called : Called before call reply after) : after.total = before.total := by
  cases called with
  | paid pays => exact pays.total
  | accepted accepts => exact accepts.total
  | _ => rfl

theorem Called.channelId (called : Called before call reply after) :
    after.channelId = before.channelId := by
  cases called with
  | paid pays => exact pays.channelId
  | accepted accepts => exact accepts.channelId
  | _ => rfl

theorem Called.iAm0 (called : Called before call reply after) : after.iAm0 = before.iAm0 := by
  cases called with
  | paid pays => exact pays.iAm0
  | accepted accepts => exact accepts.iAm0
  | _ => rfl

/-- Only a payment of its own lowers the balance of a node. -/
theorem Called.keepsMine (called : Called before call reply after) :
    before.myBalance.toNat ≤ after.myBalance.toNat + call.paid reply := by
  cases called with
  | paid pays => exact Nat.le_of_eq pays.mine.symm
  | accepted accepts =>
      rw [accepts.mine]
      exact accepts.keepsMine
  | _ => exact Nat.le_add_right _ _

theorem Called.balance (called : Called before call reply after) :
    after.myBalance.toNat + call.paid reply = before.myBalance.toNat +
      if (call.accepted reply).isSome then after.myBalance.toNat - before.myBalance.toNat
      else 0 := by
  have keeps := called.keepsMine
  cases called with
  | paid pays => exact pays.mine
  | accepted accepts =>
      simp only [ChannelCall.paid, ChannelCall.accepted, Option.isSome_some, if_true] at keeps ⊢
      omega
  | _ => rfl

theorem Called.unchanged (called : Called before call reply after)
    (declines : ChannelReply.declines reply = true) : after = before := by
  cases called with
  | paid => cases declines
  | accepted => cases declines
  | read => cases declines
  | _ => rfl

end Calls

section Runs

variable {start channel : Channel} {taken : List (Transition Channel ChannelCall)}

theorem called_of_mem (run : callMachine.Run start taken channel) :
    ∀ transition ∈ taken,
      Called transition.before transition.event (replyOf transition) transition.after :=
  fun transition member => called_of_step (run.step_of_mem transition member)

/-- Value safety: against a counterparty that sends anything, the total, the id and
the role never change, the own balance changes by the own payments and by
increments only, and a call that declines changes nothing. -/
theorem value_safety (run : callMachine.Run start taken channel) :
    channel.total = start.total ∧ channel.channelId = start.channelId ∧
      channel.iAm0 = start.iAm0 ∧
      channel.myBalance.toNat + (taken.map paidBy).sum =
        start.myBalance.toNat + (taken.map creditedBy).sum ∧
      (∀ transition ∈ taken, ∀ updateTx, transition.event = .receivePayment updateTx →
        transition.before.myBalance.toNat ≤ transition.after.myBalance.toNat) ∧
      ∀ transition ∈ taken, ChannelReply.declines (replyOf transition) = true →
        transition.after = transition.before := by
  have called := called_of_mem run
  have fixed := run.invariant
    (fun state => state.total = start.total ∧ state.channelId = start.channelId ∧
      state.iAm0 = start.iAm0) ⟨rfl, rfl, rfl⟩ fun before event after kept stepped => by
    have step := called_of_step stepped
    exact ⟨step.total.trans kept.1, step.channelId.trans kept.2.1, step.iAm0.trans kept.2.2⟩
  refine ⟨fixed.1, fixed.2.1, fixed.2.2, ?_, ?_, ?_⟩
  · apply run.balance (fun state => state.myBalance.toNat) creditedBy paidBy
    intro transition member
    have balance := (called transition member).balance
    unfold creditedBy acceptedBy paidBy
    rw [balance]
    cases transition.event.accepted (replyOf transition) <;> rfl
  · intro transition member updateTx received
    have keeps := (called transition member).keepsMine
    rw [received] at keeps
    exact keeps
  · intro transition member
    exact (called transition member).unchanged

/-- A payment, an update that is too old, one that is accepted, and the accrual. -/
theorem value_safety_sample :
    ∃ channel ∈ callMachine.replay ⟨7, 0, 5, 5, 0, true⟩
        [.makePayment 2 none, .receivePayment ⟨7, 1, 6, 4, none, none⟩,
          .receivePayment ⟨7, 2, 6, 4, none, none⟩, .checkAccrual],
      channel = ⟨7, 2, 6, 4, 0, true⟩ ∧ channel.total = 10 := by
  obtain ⟨channel, reached, final⟩ : ∃ channel ∈ callMachine.replay ⟨7, 0, 5, 5, 0, true⟩
      [.makePayment 2 none, .receivePayment ⟨7, 1, 6, 4, none, none⟩,
        .receivePayment ⟨7, 2, 6, 4, none, none⟩, .checkAccrual],
      channel = ⟨7, 2, 6, 4, 0, true⟩ := by
    decide +kernel
  exact ⟨channel, reached, final, (value_safety (Machine.run_of_replay reached)).1⟩

end Runs

/-! ### The sequence number as a guard -/

/-- Sequence numbers only grow, and no update is accepted twice. -/
structure Guarded (taken : List (Transition Channel ChannelCall)) : Prop where
  grows : ∀ transition ∈ taken,
    transition.before.sequenceNumber.toNat ≤ transition.after.sequenceNumber.toNat
  made : ∀ transition ∈ taken, (madeBy transition).isSome →
    transition.before.sequenceNumber.toNat < transition.after.sequenceNumber.toNat
  accepted : ∀ transition ∈ taken, (acceptedBy transition).isSome →
    transition.before.sequenceNumber.toNat < transition.after.sequenceNumber.toNat
  once : taken.Pairwise fun earlier later =>
    (acceptedBy earlier).isSome → acceptedBy later ≠ acceptedBy earlier

/-- The payment is not numbered below the stored sequence number. -/
def KeepsNumber (before : Channel) : ChannelCall → Prop
  | .makePayment amount (some currentSeq) =>
      amount ≤ before.myBalance → before.sequenceNumber ≤ currentSeq
  | _ => True

instance (before : Channel) (call : ChannelCall) : Decidable (KeepsNumber before call) :=
  match call with
  | .makePayment amount (some currentSeq) =>
      inferInstanceAs
        (Decidable (amount ≤ before.myBalance → before.sequenceNumber ≤ currentSeq))
  | .makePayment _ none | .receivePayment _ | .checkAccrual => inferInstanceAs (Decidable True)

section Numbers

variable {before after : Channel} {call : ChannelCall} {reply : Result ChannelReply}

theorem Paid.grows {amount : Uint256} {currentSeq : Option Uint256}
    (pays : Paid before amount currentSeq after)
    (keeps : KeepsNumber before (.makePayment amount currentSeq)) :
    before.sequenceNumber.toNat < after.sequenceNumber.toNat := by
  have number := pays.sequenceNumber
  cases currentSeq with
  | none =>
      rw [Option.getD_none] at number
      omega
  | some currentSeq =>
      have enough : amount ≤ before.myBalance := by
        rw [Uint256.le_def]
        have mine := pays.mine
        omega
      have above := keeps enough
      rw [Uint256.le_def] at above
      rw [Option.getD_some] at number
      omega

theorem Called.grows (called : Called before call reply after) (keeps : KeepsNumber before call) :
    before.sequenceNumber.toNat ≤ after.sequenceNumber.toNat := by
  cases called with
  | paid pays => exact Nat.le_of_lt (pays.grows keeps)
  | accepted accepts =>
      rw [accepts.sequenceNumber]
      exact Nat.le_of_lt accepts.newer
  | _ => exact Nat.le_refl _

theorem Called.made (called : Called before call reply after)
    (makes : (call.made reply).isSome) (keeps : KeepsNumber before call) :
    before.sequenceNumber.toNat < after.sequenceNumber.toNat := by
  cases called with
  | paid pays => exact pays.grows keeps
  | _ => cases makes

/-- An accepted update is newer than the channel was and as new as the channel is. -/
theorem Called.takes {updateTx : UpdateTx} (called : Called before call reply after)
    (accepts : call.accepted reply = some updateTx) :
    before.sequenceNumber.toNat < updateTx.sequenceNumber.toNat ∧
      after.sequenceNumber = updateTx.sequenceNumber := by
  cases called with
  | accepted spec =>
      obtain rfl := Option.some.inj accepts
      exact ⟨spec.newer, spec.sequenceNumber⟩
  | _ => cases accepts

theorem Called.made_of_enough {amount : Uint256} {currentSeq : Option Uint256}
    (called : Called before (.makePayment amount currentSeq) reply after)
    (enough : amount ≤ before.myBalance) :
    Paid before amount currentSeq after ∧ reply = .ok (.made after.toUpdate) := by
  cases called with
  | paid pays => exact ⟨pays, rfl⟩
  | notEnough tooMuch => exact absurd enough (Nat.not_le.mpr tooMuch)

end Numbers

/-- The guard holds of a run exactly if no payment in it is numbered from a reply
below the stored sequence number. -/
theorem sequence_guard_iff {start channel : Channel} {taken : List (Transition Channel ChannelCall)}
    (run : callMachine.Run start taken channel) :
    Guarded taken ↔ ∀ transition ∈ taken, KeepsNumber transition.before transition.event := by
  have called := called_of_mem run
  constructor
  · intro guarded transition member
    have step := called transition member
    generalize shape : transition.event = call at step ⊢
    cases call with
    | makePayment amount currentSeq =>
        cases currentSeq with
        | none => trivial
        | some currentSeq =>
            intro enough
            obtain ⟨pays, made⟩ := step.made_of_enough enough
            have number := pays.sequenceNumber
            have newer := guarded.made transition member (by rw [madeBy, shape, made]; rfl)
            rw [Uint256.le_def]
            rw [Option.getD_some] at number
            omega
    | _ => trivial
  · intro keeps
    have grows := fun transition member =>
      (called transition member).grows (keeps transition member)
    refine ⟨grows, ?_, ?_, ?_⟩
    · intro transition member makes
      exact (called transition member).made makes (keeps transition member)
    · intro transition member accepts
      obtain ⟨updateTx, accepted⟩ := Option.isSome_iff_exists.mp accepts
      obtain ⟨newer, same⟩ := (called transition member).takes accepted
      rwa [same]
    · -- what was accepted is stored from then on, and what is stored is not newer
      have ordered := run.pairwise_grows (fun state => state.sequenceNumber.toNat) grows
      refine ordered.imp_of_mem ?_
      intro earlier later first second above accepts again
      obtain ⟨updateTx, accepted⟩ := Option.isSome_iff_exists.mp accepts
      have stored := ((called earlier first).takes accepted).2
      have newer := ((called later second).takes (again.trans accepted)).1
      rw [stored] at above
      exact Nat.not_lt.mpr above newer

/-- A payment numbered from a reply above the stored number keeps the guard. -/
theorem sequence_guard_iff_sample :
    Guarded (callMachine.trace ⟨7, 0, 5, 5, 0, true⟩
      [.receivePayment ⟨7, 2, 8, 2, none, none⟩, .makePayment 3 none,
        .makePayment 0 (some 5), .receivePayment ⟨7, 2, 8, 2, none, none⟩]) := by
  have reached : callMachine.replay ⟨7, 0, 5, 5, 0, true⟩
      [.receivePayment ⟨7, 2, 8, 2, none, none⟩, .makePayment 3 none,
        .makePayment 0 (some 5), .receivePayment ⟨7, 2, 8, 2, none, none⟩] =
      some ⟨7, 6, 5, 5, 3, true⟩ := by
    decide +kernel
  exact (sequence_guard_iff (Machine.run_of_replay reached)).mpr (by decide +kernel)

/-- A payment numbered from a low reply takes the guard back, and the update of
before is accepted a second time. -/
theorem update_accepted_twice :
    callMachine.replay ⟨7, 0, 5, 5, 0, true⟩
        [.receivePayment ⟨7, 2, 8, 2, none, none⟩, .makePayment 3 none,
          .makePayment 0 (some 0), .receivePayment ⟨7, 2, 8, 2, none, none⟩] =
        some ⟨7, 2, 8, 2, 6, true⟩ ∧
      ¬ Guarded (callMachine.trace ⟨7, 0, 5, 5, 0, true⟩
        [.receivePayment ⟨7, 2, 8, 2, none, none⟩, .makePayment 3 none,
          .makePayment 0 (some 0), .receivePayment ⟨7, 2, 8, 2, none, none⟩]) :=
  ⟨by decide +kernel, fun guarded => absurd guarded.once (by decide +kernel)⟩

end Channel

end Guac
