import Guac.Core.Preimage
import Guac.Node.Equivocation

/-!
Owns what the signatures of a node commit it to. Whoever checks a signature sees a digest,
so a node can be held to every transaction with the digest of one it signed. Without
collisions these are the ones it signed and no other; and a node that saves what it signs
can be held to one transaction only under each sequence number of a channel.
-/

set_option autoImplicit false

namespace Guac

open Foundation

/-- The node can be held to a transaction: it signed its digest. -/
def Commits (crypto : Crypto) (signed : List SignedTx) (tx : SignedTx) : Prop :=
  ∃ own ∈ signed, own.fingerprint crypto = tx.fingerprint crypto

instance (crypto : Crypto) (signed : List SignedTx) (tx : SignedTx) :
    Decidable (Commits crypto signed tx) :=
  inferInstanceAs (Decidable (∃ own ∈ signed, _))

@[simp] theorem SignedTx.slot_unsigned (tx : SignedTx) : tx.unsigned.slot = tx.slot := by
  cases tx <;> rfl

section Runs

variable {crypto : Crypto} {theirAddress : Address} {entry : Option Counterparty}
  {closure : Option Closure} {input : Input} {poll : Poll}

theorem Move.signed_unsigned (move : Move crypto theirAddress entry closure input poll) :
    ∀ own ∈ poll.signed, own.unsigned = own := by
  cases move with
  | signNew | signReDraw | pay | retryPayment | acceptChannel | acceptReDraw =>
      intro own member
      obtain rfl := List.mem_singleton.mp member
      rfl
  | _ => exact List.forall_mem_nil _

variable {taken : List (Transition Node Input)} {node : Node} {messages : Set (List UInt8)}
  {tx first second : SignedTx}

theorem signed_unsigned_of_run (run : (entryMachine crypto theirAddress).Run .fresh taken node) :
    ∀ own ∈ node.signed, own.unsigned = own := by
  refine run.invariant (fun node => ∀ own ∈ node.signed, own.unsigned = own)
    (List.forall_mem_nil _) ?_
  intro before event after kept stepped
  obtain ⟨operation, poll, polled, rfl⟩ := step_eq_some.mp stepped
  exact List.forall_mem_append.mpr ⟨kept, (move_of_poll polled).signed_unsigned⟩

/-- A node can be held to what it signed, and to nothing else. -/
theorem commits_iff (run : (entryMachine crypto theirAddress).Run .fresh taken node)
    (collisionFree : crypto.primitives.CollisionFree messages)
    (signedHashed : ∀ own ∈ node.signed, own.preimage crypto.contractAddress ∈ messages)
    (hashed : tx.preimage crypto.contractAddress ∈ messages) :
    Commits crypto node.signed tx ↔ tx.unsigned ∈ node.signed := by
  have reads : ∀ own ∈ node.signed,
      own.fingerprint crypto = tx.fingerprint crypto ↔ own = tx.unsigned := by
    intro own member
    rw [SignedTx.fingerprint_eq_iff rfl collisionFree (signedHashed own member) hashed,
      signed_unsigned_of_run run own member]
    exact and_iff_left rfl
  constructor
  · rintro ⟨own, member, same⟩
    exact (reads own member).mp same ▸ member
  · intro member
    exact ⟨_, member, (reads _ member).mpr rfl⟩

/-- A node that saves what it signs can be held to one state of a channel under each
sequence number, by whatever signatures it gave. -/
theorem commits_once (run : (entryMachine crypto theirAddress).Run .fresh taken node)
    (saved : ∀ transition ∈ taken,
      saves (transition.before.running.map Running.closure) transition.event = true)
    (collisionFree : crypto.primitives.CollisionFree messages)
    (signedHashed : ∀ own ∈ node.signed, own.preimage crypto.contractAddress ∈ messages)
    (firstHashed : first.preimage crypto.contractAddress ∈ messages)
    (secondHashed : second.preimage crypto.contractAddress ∈ messages)
    (firstShown : Commits crypto node.signed first)
    (secondShown : Commits crypto node.signed second)
    (numbered : first.slot ≠ none) (sameSlot : first.slot = second.slot) :
    first.unsigned = second.unsigned := by
  have firstSigned := (commits_iff run collisionFree signedHashed firstHashed).mp firstShown
  have secondSigned := (commits_iff run collisionFree signedHashed secondHashed).mp secondShown
  apply (ascending_of_run run saved).noEquivocation _ firstSigned _ secondSigned
  · rwa [first.slot_unsigned]
  · rw [first.slot_unsigned, second.slot_unsigned, sameSlot]

end Runs

namespace Sample

/-- The state that node 1 pays node 2 to under number 1, and another one. -/
def paidState : SignedTx := .update ⟨7, 1, 5, 5, none, none⟩

def otherState : SignedTx := .update ⟨7, 1, 6, 4, none, none⟩

end Sample

/-- Node 1 can be held to the state it paid to, and so not to another one under its number. -/
theorem commits_once_sample :
    ∃ node ∈ (entryMachine (Sample.crypto 1) 2).replay .fresh
        (Sample.paysTwice (.ok (.maybeSeq none))),
      Commits (Sample.crypto 1) node.signed Sample.paidState ∧
        ¬ Commits (Sample.crypto 1) node.signed Sample.otherState := by
  obtain ⟨node, reached, signed⟩ : ∃ node ∈ (entryMachine (Sample.crypto 1) 2).replay .fresh
      (Sample.paysTwice (.ok (.maybeSeq none))),
      node.signed = [.newChannel ⟨1, 2, 10, 0, 41, 5000, none, none⟩, Sample.paidState,
        .update ⟨7, 2, 3, 7, none, none⟩] := by
    decide +kernel
  have collisionFree : Sample.primitives.CollisionFree
      { message | message ∈
        (Sample.otherState :: node.signed).map fun own => own.preimage 99 } := by
    have apart : ∀ first ∈ (Sample.otherState :: node.signed).map fun own => own.preimage 99,
        ∀ second ∈ (Sample.otherState :: node.signed).map fun own => own.preimage 99,
          Sample.keccak256 first = Sample.keccak256 second → first = second := by
      rw [signed]
      decide +kernel
    exact fun first inFirst second inSecond => apart first inFirst second inSecond
  have shown : Commits (Sample.crypto 1) node.signed Sample.paidState :=
    ⟨Sample.paidState, by rw [signed]; simp, rfl⟩
  refine ⟨node, reached, shown, fun other => ?_⟩
  have same := commits_once (Machine.run_of_replay reached) (by decide +kernel) collisionFree
    (fun own member => List.mem_map_of_mem (List.mem_cons_of_mem _ member))
    (List.mem_map_of_mem (List.mem_cons_of_mem _ (by rw [signed]; simp)))
    (List.mem_map_of_mem List.mem_cons_self) shown other (by decide) rfl
  cases same

end Guac
