import Mathlib.Data.List.Pairwise
import Guac.Node.Coherent

/-!
Owns the sequence numbers a node signs under. A node that saves every balance
it signed before it signs again signs strictly increasing numbers, so it never
equivocates. Two places of the source sign without saving: a payment whose
reply is an error or a sequence number, and the redraw of its proposer, which
keeps the old number.
-/

set_option autoImplicit false

namespace Guac

open Foundation

/-- The channel and the sequence number a signature commits under. -/
def SignedTx.slot : SignedTx → Option (Bytes32 × Uint256)
  | .newChannel _ => none
  | .reDraw tx => some (tx.channelId, tx.sequenceNumber)
  | .update tx => some (tx.channelId, tx.sequenceNumber)

/-- Two signatures under one channel and sequence number are for one transaction. -/
def NoEquivocation (signed : List SignedTx) : Prop :=
  ∀ first ∈ signed, ∀ second ∈ signed, first.slot ≠ none → first.slot = second.slot →
    first = second

instance (signed : List SignedTx) : Decidable (NoEquivocation signed) :=
  inferInstanceAs (Decidable (∀ first ∈ signed, ∀ second ∈ signed, _ → _ → _))

/-- The step saves what the node signed: the reply to the first attempt of a
payment is `None`, and no redraw the node proposed is completed. -/
def saves : Option Closure → Input → Bool
  | some (.paymentReply _ _), .resume (.ok (.maybeSeq none)) => true
  | some (.paymentReply _ _), _ => false
  | some (.reDrawNotified _ _ _), .resume (.ok _) => false
  | _, _ => true

theorem reply_of_saves {amount : Uint256} {paid : Channel} {answer : Result Value}
    (saved : saves (some (.paymentReply amount paid)) (.resume answer) = true) :
    answer = .ok (.maybeSeq none) := by
  unfold saves at saved
  split at saved <;> simp_all

def SignedTx.number (tx : SignedTx) : Option Nat := tx.slot.map fun slot => slot.2.toNat

def stored : Option Counterparty → Nat
  | some (.reDrawing tx _) => tx.sequenceNumber.toNat
  | some (.otherReDrawing tx _) => tx.sequenceNumber.toNat
  | some (.opened channel) => channel.sequenceNumber.toNat
  | _ => 0

/-- The number a node has reached: while a payment waits for its first reply,
the one of the copy it will save. -/
def reached (closure : Option Closure) (entry : Option Counterparty) : Nat :=
  match closure with
  | some (.paymentReply _ paid) => paid.sequenceNumber.toNat
  | _ => stored entry

/-- The numbers signed so far increase, up to a bound. -/
structure Ascending (signed : List SignedTx) (bound : Nat) : Prop where
  sorted : signed.Pairwise fun earlier later =>
    ∀ n ∈ earlier.number, ∀ m ∈ later.number, n < m
  bounded : ∀ tx ∈ signed, ∀ n ∈ tx.number, n ≤ bound

variable {crypto : Crypto} {theirAddress : Address}

namespace Ascending

variable {signed : List SignedTx} {bound next : Nat}

theorem fresh (bound : Nat) : Ascending [] bound := ⟨.nil, by simp⟩

theorem mono (ascending : Ascending signed bound) (le : bound ≤ next) :
    Ascending (signed ++ []) next := by
  rw [List.append_nil]
  exact ⟨ascending.sorted, fun tx member n number =>
    Nat.le_trans (ascending.bounded tx member n number) le⟩

theorem signOpening {tx : NewChannelTx} (ascending : Ascending signed bound)
    (le : bound ≤ next) : Ascending (signed ++ [.newChannel tx]) next := by
  refine ⟨List.pairwise_append.mpr ⟨ascending.sorted, List.pairwise_singleton _ _, ?_⟩, ?_⟩
  · intro earlier _ later last _ _ m number
    obtain rfl := List.mem_singleton.mp last
    cases number
  · intro other member n number
    rcases List.mem_append.mp member with before | last
    · exact Nat.le_trans (ascending.bounded other before n number) le
    · obtain rfl := List.mem_singleton.mp last
      cases number

/-- A signature above the bound becomes the bound. -/
theorem sign {tx : SignedTx} (ascending : Ascending signed bound)
    (number : tx.number = some next) (above : bound < next) :
    Ascending (signed ++ [tx]) next := by
  refine ⟨List.pairwise_append.mpr ⟨ascending.sorted, List.pairwise_singleton _ _, ?_⟩, ?_⟩
  · intro earlier member later last n signedNumber m laterNumber
    obtain rfl := List.mem_singleton.mp last
    obtain rfl := Option.some.inj (number.symm.trans laterNumber)
    exact Nat.lt_of_le_of_lt (ascending.bounded earlier member n signedNumber) above
  · intro other member n signedNumber
    rcases List.mem_append.mp member with before | last
    · exact Nat.le_trans (ascending.bounded other before n signedNumber) (Nat.le_of_lt above)
    · obtain rfl := List.mem_singleton.mp last
      exact Nat.le_of_eq (Option.some.inj (signedNumber.symm.trans number))

/-- Increasing numbers leave no room for equivocation. -/
theorem noEquivocation (ascending : Ascending signed bound) : NoEquivocation signed := by
  let Agree := fun first second : SignedTx =>
    first.slot ≠ none → first.slot = second.slot → first = second
  have symmetric : Std.Symm Agree :=
    ⟨fun left right agree some same => (agree (same ▸ some) same.symm).symm⟩
  have distinct : signed.Pairwise Agree := by
    refine ascending.sorted.imp fun {first second} before some same => ?_
    obtain ⟨slot, found⟩ := Option.ne_none_iff_exists'.mp some
    have number : slot.2.toNat ∈ first.number := by simp [SignedTx.number, found]
    have numbered : slot.2.toNat ∈ second.number := by simp [SignedTx.number, ← same, found]
    exact absurd (before _ number _ numbered) (Nat.lt_irrefl _)
  intro first firstMember second secondMember
  exact distinct.forall_of_forall (fun _ _ _ _ => rfl) firstMember secondMember

end Ascending

/-- A saving poll keeps the signed numbers increasing. -/
theorem Coherent.ascending_after {node : Node} {input : Input} {operation : Operation}
    {poll : Poll} (coherent : Coherent crypto theirAddress node)
    (ascending : Ascending node.signed (reached (node.running.map Running.closure) node.entry))
    (saved : saves (node.running.map Running.closure) input = true)
    (polled : node.poll crypto theirAddress input = some (operation, poll)) :
    Ascending (node.signed ++ poll.signed)
      (reached ((poll.running operation).map Running.closure) poll.entry) := by
  obtain ⟨entry, closure, found, suspended, move, -, resumes⟩ := coherent.moved polled
  have ofNew := coherent.of_new
  have resumed := fun answer (isResume : input = .resume answer) =>
    poll_resume (isResume ▸ polled)
  rw [suspended, found] at ascending
  rw [suspended] at saved
  rw [found] at ofNew resumed
  cases move with
  | refused kept =>
      rcases kept with rfl | ⟨rfl, rfl⟩
      · exact ascending.mono (Nat.le_refl _)
      · exact ascending.mono (Nat.le_refl _)
  | deposited | startReDraw | proposeReDraw | submitted | retryAccepted | checkOpen | checkReDraw
  | proposeNew | stalePayment | savePayment => exact ascending.mono (Nat.le_refl _)
  | @failed _ closure answer _ =>
      refine ascending.mono ?_
      cases closure with
      | paymentReply amount paid =>
          obtain rfl := reply_of_saves saved
          obtain ⟨_, _, -, holds, -⟩ := resumes _ rfl
          obtain ⟨running, again, -, applied⟩ := resumed _ rfl
          obtain rfl := Option.some.inj (holds.symm.trans again)
          cases applied
      | _ => exact Nat.le_refl _
  | fillNew fresh =>
      rw [(ofNew _ fresh).2]
      exact .fresh _
  | signNew =>
      obtain ⟨_, _, rfl, -, held⟩ := resumes _ rfl
      cases held
      exact ascending.signOpening (Nat.le_refl _)
  | openedAsProposer | openedAsResponder | reDrawnAsResponder =>
      obtain ⟨_, _, rfl, -, held⟩ := resumes _ rfl
      cases held
      exact ascending.mono (Nat.le_refl _)
  | signReDraw =>
      obtain ⟨_, _, rfl, -, held⟩ := resumes _ rfl
      cases held with
      | reDrawSignature _ _ _ _ proposes =>
          exact ascending.sign rfl (Nat.lt_of_lt_of_eq (Nat.lt_succ_self _)
            proposes.sequenceNumber.symm)
  | reDrawnAsProposer => cases saved
  | pay pays =>
      exact ascending.sign rfl (Nat.lt_of_lt_of_eq (Nat.lt_succ_self _) pays.sequenceNumber.symm)
  | retryPayment => cases saved
  | accrue accrued => cases accrued <;> exact ascending.mono (Nat.le_refl _)
  | acceptChannel fresh =>
      rw [(ofNew _ fresh).2]
      exact Ascending.signOpening (.fresh 0) (Nat.le_refl _)
  | acceptReDraw checked => exact ascending.sign rfl checked.newer
  | acceptPayment accepts =>
      have newer := accepts.newer
      rw [← accepts.sequenceNumber] at newer
      exact ascending.mono (Nat.le_of_lt newer)

section Runs

variable {taken : List (Transition Node Input)} {node : Node}

theorem ascending_of_run (run : (entryMachine crypto theirAddress).Run .fresh taken node)
    (saved : ∀ transition ∈ taken,
      saves (transition.before.running.map Running.closure) transition.event = true) :
    Ascending node.signed (reached (node.running.map Running.closure) node.entry) := by
  have kept := run.invariant_of_guard
    (fun node => Coherent crypto theirAddress node ∧
      Ascending node.signed (reached (node.running.map Running.closure) node.entry))
    (fun before event => saves (before.running.map Running.closure) event = true)
    ⟨coherent_fresh, .fresh _⟩ ?_ saved
  · exact kept.2
  · rintro before event after ⟨coherent, ascending⟩ saved stepped
    refine ⟨coherent.step stepped, ?_⟩
    obtain ⟨operation, poll, polled, rfl⟩ := step_eq_some.mp stepped
    exact coherent.ascending_after ascending saved polled

/-- In every run in which a node saves what it signs, it never equivocates. -/
theorem no_equivocation (run : (entryMachine crypto theirAddress).Run .fresh taken node)
    (saved : ∀ transition ∈ taken,
      saves (transition.before.running.map Running.closure) transition.event = true) :
    NoEquivocation node.signed :=
  (ascending_of_run run saved).noEquivocation

end Runs

namespace Sample

/-- Node 1 opens channel 7, pays 5, gets this reply, and pays 2. -/
def paysTwice (reply : Result Value) : List Input :=
  opens ++ [.start (.makePayment 5), .resume reply, .start (.makePayment 2)]

end Sample

/-- Two payments, the first of them answered. -/
theorem no_equivocation_sample :
    ∃ node ∈ (entryMachine (Sample.crypto 1) 2).replay .fresh
        (Sample.paysTwice (.ok (.maybeSeq none))),
      node.signed.drop 1 = [.update ⟨7, 1, 5, 5, none, none⟩, .update ⟨7, 2, 3, 7, none, none⟩] ∧
        NoEquivocation node.signed := by
  obtain ⟨node, reached, signed⟩ : ∃ node ∈ (entryMachine (Sample.crypto 1) 2).replay .fresh
      (Sample.paysTwice (.ok (.maybeSeq none))),
      node.signed.drop 1 =
        [.update ⟨7, 1, 5, 5, none, none⟩, .update ⟨7, 2, 3, 7, none, none⟩] := by
    decide +kernel
  exact ⟨node, reached, signed, no_equivocation (Machine.run_of_replay reached) (by decide +kernel)⟩

/-- A payment whose reply is lost, then another one: two balances under
sequence number 1. -/
theorem lost_reply_equivocates :
    ∃ taken node, (entryMachine (Sample.crypto 1) 2).Run .fresh taken node ∧
      ¬ NoEquivocation node.signed := by
  obtain ⟨node, reached, equivocates⟩ : ∃ node ∈ (entryMachine (Sample.crypto 1) 2).replay .fresh
      (Sample.paysTwice (.error (.failure "timeout"))), ¬ NoEquivocation node.signed := by
    decide +kernel
  exact ⟨_, node, Machine.run_of_replay reached, equivocates⟩

end Guac
