import Guac.Core.Types

/-!
Owns `crypto.rs` and the fingerprints of `types.rs`: the byte string each kind
of transaction feeds to Keccak, field by field. Keccak, signing and signature
recovery belong to the crates `sha3` and `clarity` and stay parameters.
-/

set_option autoImplicit false

namespace Guac

/-- What the node calls in `sha3` and `clarity`. -/
structure Primitives where
  keccak256 : List UInt8 → Bytes32
  signHash : Bytes32 → Bytes32 → Signature
  recover : Signature → Bytes32 → Result Address
  addressToString : Address → String

/-- `Crypto`: the node's identity. -/
structure Crypto where
  primitives : Primitives
  contractAddress : Address
  ownAddress : Address
  secret : Bytes32

/-- The `length` low bytes of a number, most significant first. -/
def bytesBE : Nat → Nat → List UInt8
  | 0, _ => []
  | length + 1, value => bytesBE length (value / 256) ++ [UInt8.ofNat (value % 256)]

@[simp] theorem bytesBE_length (length value : Nat) : (bytesBE length value).length = length := by
  induction length generalizing value with
  | zero => rfl
  | succ length inductionHypothesis => simp [bytesBE, inductionHypothesis]

theorem bytesBE_inj {length first second : Nat} (firstFits : first < 256 ^ length)
    (secondFits : second < 256 ^ length) :
    bytesBE length first = bytesBE length second ↔ first = second := by
  induction length generalizing first second with
  | zero =>
      rw [Nat.pow_zero, Nat.lt_one_iff] at firstFits secondFits
      simp [firstFits, secondFits]
  | succ length inductionHypothesis =>
      rw [Nat.pow_succ'] at firstFits secondFits
      constructor
      · intro same
        obtain ⟨high, low⟩ := List.append_inj' same rfl
        have quotient : first / 256 = second / 256 :=
          (inductionHypothesis (Nat.div_lt_of_lt_mul firstFits)
            (Nat.div_lt_of_lt_mul secondFits)).mp high
        have remainder : first % 256 = second % 256 := by
          simpa [← UInt8.toNat_inj] using low
        omega
      · intro same
        rw [same]

def addressBytes (address : Address) : List UInt8 := bytesBE 20 address.toNat

@[simp] theorem addressBytes_length (address : Address) : (addressBytes address).length = 20 :=
  bytesBE_length 20 _

@[simp] theorem addressBytes_inj {first second : Address} :
    addressBytes first = addressBytes second ↔ first = second := by
  have firstFits : first.toNat < 256 ^ 20 := first.isLt
  have secondFits : second.toNat < 256 ^ 20 := second.isLt
  rw [addressBytes, addressBytes, bytesBE_inj firstFits secondFits, BitVec.toNat_inj]

def wordBytes (word : Bytes32) : List UInt8 := bytesBE 32 word.toNat

@[simp] theorem wordBytes_length (word : Bytes32) : (wordBytes word).length = 32 :=
  bytesBE_length 32 _

@[simp] theorem wordBytes_inj {first second : Bytes32} :
    wordBytes first = wordBytes second ↔ first = second := by
  have firstFits : first.toNat < 256 ^ 32 := first.isLt
  have secondFits : second.toNat < 256 ^ 32 := second.isLt
  rw [wordBytes, wordBytes, bytesBE_inj firstFits secondFits, BitVec.toNat_inj]

namespace Uint256

def bytes (value : Uint256) : List UInt8 := bytesBE 32 value.toNat

@[simp] theorem bytes_length (value : Uint256) : value.bytes.length = 32 := bytesBE_length 32 _

@[simp] theorem bytes_inj {first second : Uint256} :
    first.bytes = second.bytes ↔ first = second := by
  have firstFits : first.toNat < 256 ^ 32 := first.isLt
  have secondFits : second.toNat < 256 ^ 32 := second.isLt
  rw [bytes, bytes, bytesBE_inj firstFits secondFits, eq_iff]

end Uint256

/-- The bytes of a function name (its characters are ASCII). -/
def nameBytes (name : List Char) : List UInt8 := name.map fun letter => UInt8.ofNat letter.toNat

def hashBytes (primitives : Primitives) (buffers : List (List UInt8)) : Bytes32 :=
  primitives.keccak256 buffers.flatten

namespace NewChannelTx

def buffers (tx : NewChannelTx) (contractAddress : Address) : List (List UInt8) :=
  [nameBytes ['n', 'e', 'w', 'C', 'h', 'a', 'n', 'n', 'e', 'l'],
    addressBytes contractAddress,
    addressBytes tx.address0,
    addressBytes tx.address1,
    tx.balance0.bytes,
    tx.balance1.bytes,
    tx.expiration.bytes,
    tx.settlingPeriodLength.bytes]

def fingerprint (tx : NewChannelTx) (crypto : Crypto) : Bytes32 :=
  hashBytes crypto.primitives (tx.buffers crypto.contractAddress)

@[simp] theorem unsigned_fingerprint (tx : NewChannelTx) (crypto : Crypto) :
    tx.unsigned.fingerprint crypto = tx.fingerprint crypto := rfl

end NewChannelTx

namespace ReDrawTx

def buffers (tx : ReDrawTx) (contractAddress : Address) : List (List UInt8) :=
  [nameBytes ['r', 'e', 'D', 'r', 'a', 'w'],
    addressBytes contractAddress,
    wordBytes tx.channelId,
    tx.sequenceNumber.bytes,
    tx.oldBalance0.bytes,
    tx.oldBalance1.bytes,
    tx.newBalance0.bytes,
    tx.newBalance1.bytes,
    tx.expiration.bytes]

def fingerprint (tx : ReDrawTx) (crypto : Crypto) : Bytes32 :=
  hashBytes crypto.primitives (tx.buffers crypto.contractAddress)

@[simp] theorem unsigned_fingerprint (tx : ReDrawTx) (crypto : Crypto) :
    tx.unsigned.fingerprint crypto = tx.fingerprint crypto := rfl

end ReDrawTx

namespace UpdateTx

def buffers (tx : UpdateTx) (contractAddress : Address) : List (List UInt8) :=
  [nameBytes ['U', 'p', 'd', 'a', 't', 'e'],
    addressBytes contractAddress,
    wordBytes tx.channelId,
    tx.sequenceNumber.bytes,
    tx.balance0.bytes,
    tx.balance1.bytes]

def fingerprint (tx : UpdateTx) (crypto : Crypto) : Bytes32 :=
  hashBytes crypto.primitives (tx.buffers crypto.contractAddress)

@[simp] theorem unsigned_fingerprint (tx : UpdateTx) (crypto : Crypto) :
    tx.unsigned.fingerprint crypto = tx.fingerprint crypto := rfl

end UpdateTx

def Crypto.ethSign (crypto : Crypto) (data : Bytes32) : Signature :=
  crypto.primitives.signHash crypto.secret data

def Signature.recover (signature : Signature) (crypto : Crypto) (data : Bytes32) :
    Result Address :=
  crypto.primitives.recover signature data

/-! ### A small instance

For concrete runs: a polynomial hash, and a signature that names its signer and
what it signs. -/

namespace Sample

def keccak256 (bytes : List UInt8) : Bytes32 :=
  BitVec.ofNat 256 (bytes.foldl (fun hash byte => (hash * 257 + byte.toNat + 1) % 2 ^ 256) 0)

def word (value : Bytes32) : Uint256 := ⟨value.toNat, value.isLt⟩

def signHash (secret data : Bytes32) : Signature := ⟨27, word secret, word data⟩

def recover (signature : Signature) (data : Bytes32) : Result Address :=
  if signature.s = word data then .ok (BitVec.ofNat 160 signature.r.toNat)
  else .error (.failure "Invalid signature")

def primitives : Primitives where
  keccak256
  signHash
  recover
  addressToString := fun address => toString address.toNat

/-- The node whose secret is its address. -/
def crypto (ownAddress : Address) : Crypto where
  primitives
  contractAddress := 99
  ownAddress
  secret := ownAddress.zeroExtend 256

end Sample

end Guac
