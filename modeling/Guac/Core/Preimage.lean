import Mathlib.Data.Set.Function
import Guac.Core.Future
import Guac.Foundation.Format

/-!
Owns what a fingerprint binds: the byte string of a transaction as a text of one format for
all three kinds, with one reading, and what follows for its signatures as far as Keccak has
no collision. The kinds differ in the names in front, and already in their total widths of
198, 250 and 154 bytes, which is all that the reading needs.

A `SignedTx` stands here for any transaction of the three kinds, its signature slots filled
or not.
-/

set_option autoImplicit false

namespace Guac

open Foundation

/-- The kinds of transactions two nodes sign. -/
inductive TxKind where
  | newChannel
  | reDraw
  | update
  deriving DecidableEq

/-- The widths of the buffers of a kind: the function name, the contract, the fields. -/
def TxKind.widths : TxKind → List Nat
  | .newChannel => [10, 20, 20, 20, 32, 32, 32, 32]
  | .reDraw => [6, 20, 32, 32, 32, 32, 32, 32, 32]
  | .update => [6, 20, 32, 32, 32, 32]

theorem TxKind.apart : Function.Injective fun kind : TxKind => kind.widths.sum := by
  intro first second same
  cases first <;> cases second <;> first | rfl | cases same

namespace SignedTx

def kind : SignedTx → TxKind
  | .newChannel _ => .newChannel
  | .reDraw _ => .reDraw
  | .update _ => .update

def unsigned : SignedTx → SignedTx
  | .newChannel tx => .newChannel tx.unsigned
  | .reDraw tx => .reDraw tx.unsigned
  | .update tx => .update tx.unsigned

def buffers (contractAddress : Address) : SignedTx → List (List UInt8)
  | .newChannel tx => tx.buffers contractAddress
  | .reDraw tx => tx.buffers contractAddress
  | .update tx => tx.buffers contractAddress

def fingerprint (crypto : Crypto) : SignedTx → Bytes32
  | .newChannel tx => tx.fingerprint crypto
  | .reDraw tx => tx.fingerprint crypto
  | .update tx => tx.fingerprint crypto

/-- The byte string that `hash_bytes` feeds to Keccak. -/
def preimage (contractAddress : Address) (tx : SignedTx) : List UInt8 :=
  (tx.buffers contractAddress).flatten

theorem fingerprint_eq (crypto : Crypto) (tx : SignedTx) :
    tx.fingerprint crypto =
      crypto.primitives.keccak256 (tx.preimage crypto.contractAddress) := by
  cases tx <;> rfl

theorem buffers_fit (contractAddress : Address) (tx : SignedTx) :
    (tx.buffers contractAddress).map List.length = tx.kind.widths := by
  cases tx with
  | newChannel tx => simp [buffers, NewChannelTx.buffers, nameBytes, kind, TxKind.widths]
  | reDraw tx => simp [buffers, ReDrawTx.buffers, nameBytes, kind, TxKind.widths]
  | update tx => simp [buffers, UpdateTx.buffers, nameBytes, kind, TxKind.widths]

end SignedTx

/-- A transaction with the contract it is for, as it is hashed. -/
def signedFormat : Format (Address × SignedTx) TxKind UInt8 where
  kind message := message.2.kind
  widths := TxKind.widths
  fields message := message.2.buffers message.1
  fits message := message.2.buffers_fit message.1
  apart := TxKind.apart

section Reading

variable {contract otherContract : Address}

theorem NewChannelTx.buffers_eq_iff {first second : NewChannelTx} :
    first.buffers contract = second.buffers otherContract ↔
      first.unsigned = second.unsigned ∧ contract = otherContract := by
  simp only [buffers, unsigned, List.cons.injEq, addressBytes_inj, Uint256.bytes_inj,
    NewChannelTx.mk.injEq, true_and, and_true]
  tauto

theorem ReDrawTx.buffers_eq_iff {first second : ReDrawTx} :
    first.buffers contract = second.buffers otherContract ↔
      first.unsigned = second.unsigned ∧ contract = otherContract := by
  simp only [buffers, unsigned, List.cons.injEq, addressBytes_inj, wordBytes_inj,
    Uint256.bytes_inj, ReDrawTx.mk.injEq, true_and, and_true]
  tauto

theorem UpdateTx.buffers_eq_iff {first second : UpdateTx} :
    first.buffers contract = second.buffers otherContract ↔
      first.unsigned = second.unsigned ∧ contract = otherContract := by
  simp only [buffers, unsigned, List.cons.injEq, addressBytes_inj, wordBytes_inj,
    Uint256.bytes_inj, UpdateTx.mk.injEq, true_and, and_true]
  tauto

namespace SignedTx

variable {first second : SignedTx}

/-- Within a kind the buffers hold every field but the signatures. -/
theorem buffers_eq_iff (sameKind : first.kind = second.kind) :
    first.buffers contract = second.buffers otherContract ↔
      first.unsigned = second.unsigned ∧ contract = otherContract := by
  cases first with
  | newChannel first =>
      cases second with
      | newChannel second => simp [buffers, unsigned, NewChannelTx.buffers_eq_iff]
      | reDraw | update => cases sameKind
  | reDraw first =>
      cases second with
      | reDraw second => simp [buffers, unsigned, ReDrawTx.buffers_eq_iff]
      | newChannel | update => cases sameKind
  | update first =>
      cases second with
      | update second => simp [buffers, unsigned, UpdateTx.buffers_eq_iff]
      | newChannel | reDraw => cases sameKind

@[simp] theorem unsigned_kind (tx : SignedTx) : tx.unsigned.kind = tx.kind := by
  cases tx <;> rfl

/-- The byte string of a transaction tells its kind, its contract and its fields. -/
theorem preimage_eq_iff :
    first.preimage contract = second.preimage otherContract ↔
      first.unsigned = second.unsigned ∧ contract = otherContract := by
  change signedFormat.write (contract, first) = signedFormat.write (otherContract, second) ↔ _
  constructor
  · intro same
    have sameKind : first.kind = second.kind := signedFormat.kind_eq_of_write_eq same
    exact (buffers_eq_iff sameKind).mp (signedFormat.write_eq_iff.mp same)
  · rintro ⟨same, sameContract⟩
    have sameKind : first.kind = second.kind := by
      rw [← first.unsigned_kind, same, second.unsigned_kind]
    exact signedFormat.write_eq_iff.mpr ((buffers_eq_iff sameKind).mpr ⟨same, sameContract⟩)

end SignedTx

end Reading

/-! ### What a signature is good for

Keccak maps all byte strings to 32 bytes, so it cannot be free of collisions on all of
them; it is assumed to be on the messages that are hashed. -/

/-- No two of these messages have one digest. -/
def Primitives.CollisionFree (primitives : Primitives) (messages : Set (List UInt8)) : Prop :=
  Set.InjOn primitives.keccak256 messages

/-- A signature recovers to a signer over at most one of the digests of these messages. -/
def Primitives.OneDigest (primitives : Primitives) (messages : Set (List UInt8)) : Prop :=
  ∀ signature signer, ∀ first ∈ messages, ∀ second ∈ messages,
    primitives.recover signature (primitives.keccak256 first) = .ok signer →
    primitives.recover signature (primitives.keccak256 second) = .ok signer →
    primitives.keccak256 first = primitives.keccak256 second

section Binding

variable {first second : SignedTx} {one other : Crypto} {messages : Set (List UInt8)}

/-- Where Keccak does not collide, a digest tells what a byte string tells. -/
theorem SignedTx.fingerprint_eq_iff (samePrimitives : other.primitives = one.primitives)
    (collisionFree : one.primitives.CollisionFree messages)
    (firstHashed : first.preimage one.contractAddress ∈ messages)
    (secondHashed : second.preimage other.contractAddress ∈ messages) :
    first.fingerprint one = second.fingerprint other ↔
      first.unsigned = second.unsigned ∧ one.contractAddress = other.contractAddress := by
  rw [first.fingerprint_eq, second.fingerprint_eq, samePrimitives,
    collisionFree.eq_iff firstHashed secondHashed, SignedTx.preimage_eq_iff]

end Binding

/-- The byte strings of two transactions are equal exactly if the two are of one kind, for
one contract, and equal but for their signatures. Where Keccak does not collide, so are
their fingerprints, and a signature accepted for both is over one transaction. -/
theorem signature_binds_one_transaction (first second : SignedTx) :
    (∀ contract otherContract, first.preimage contract = second.preimage otherContract ↔
      first.unsigned = second.unsigned ∧ contract = otherContract) ∧
    ∀ (one other : Crypto) messages, other.primitives = one.primitives →
      one.primitives.CollisionFree messages →
      first.preimage one.contractAddress ∈ messages →
      second.preimage other.contractAddress ∈ messages →
      (first.fingerprint one = second.fingerprint other ↔
        first.unsigned = second.unsigned ∧ one.contractAddress = other.contractAddress) ∧
      (one.primitives.OneDigest messages → ∀ (signature : Signature) signer,
        signature.recover one (first.fingerprint one) = .ok signer →
        signature.recover other (second.fingerprint other) = .ok signer →
        first.unsigned = second.unsigned ∧ one.contractAddress = other.contractAddress) := by
  refine ⟨fun _ _ => SignedTx.preimage_eq_iff, ?_⟩
  intro one other messages samePrimitives collisionFree firstHashed secondHashed
  have binds : first.fingerprint one = second.fingerprint other ↔ _ :=
    SignedTx.fingerprint_eq_iff samePrimitives collisionFree firstHashed secondHashed
  refine ⟨binds, ?_⟩
  intro oneDigest signature signer showsFirst showsSecond
  apply binds.mp
  rw [Signature.recover, first.fingerprint_eq] at showsFirst
  rw [Signature.recover, second.fingerprint_eq, samePrimitives] at showsSecond
  rw [first.fingerprint_eq, second.fingerprint_eq, samePrimitives]
  exact oneDigest signature signer _ firstHashed _ secondHashed showsFirst showsSecond

namespace Sample

theorem word_inj {first second : Bytes32} : word first = word second ↔ first = second := by
  rw [Uint256.eq_iff]
  exact BitVec.toNat_inj

theorem oneDigest (messages : Set (List UInt8)) : primitives.OneDigest messages := by
  intro signature signer first _ second _ showsFirst showsSecond
  simp only [primitives, recover] at showsFirst showsSecond ⊢
  split at showsFirst
  · split at showsSecond
    next namesFirst namesSecond => exact word_inj.mp (namesFirst.symm.trans namesSecond)
    next => cases showsSecond
  · cases showsFirst

end Sample

/-- No signature is good for an update and for a redraw of one channel and number. -/
theorem signature_binds_one_transaction_sample :
    ¬ ∃ (signature : Signature) (signer : Address),
      signature.recover (Sample.crypto 1)
          (SignedTx.fingerprint (Sample.crypto 1) (.update ⟨7, 1, 5, 5, none, none⟩)) =
        .ok signer ∧
      signature.recover (Sample.crypto 2)
          (SignedTx.fingerprint (Sample.crypto 2) (.reDraw ⟨7, 1, 5, 5, 3, 5, 41, none, none⟩)) =
        .ok signer := by
  let update : SignedTx := .update ⟨7, 1, 5, 5, none, none⟩
  let reDraw : SignedTx := .reDraw ⟨7, 1, 5, 5, 3, 5, 41, none, none⟩
  rintro ⟨signature, signer, showsUpdate, showsReDraw⟩
  have differ : Sample.keccak256 (update.preimage 99) ≠ Sample.keccak256 (reDraw.preimage 99) := by
    decide +kernel
  have collisionFree : Sample.primitives.CollisionFree {update.preimage 99, reDraw.preimage 99} :=
    Set.injOn_pair.mpr fun same => absurd same differ
  have binds := (signature_binds_one_transaction update reDraw).2 (Sample.crypto 1)
    (Sample.crypto 2) _ rfl collisionFree (.inl rfl) (.inr rfl)
  cases (binds.2 (Sample.oneDigest _) signature signer showsUpdate showsReDraw).1

end Guac
