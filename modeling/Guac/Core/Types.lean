import Guac.Core.Uint256

/-!
Owns the data of `types.rs` and the `Channel` record of `channel.rs`: the six
states of a counterparty entry, the three transactions two nodes sign, and the
errors an operation can end in.

An `UpdateTx` built by a node carries no signature until the node has signed
it; `unsigned` forgets the signatures of a transaction, which no fingerprint
reads.
-/

set_option autoImplicit false

namespace Guac

/-- `clarity::Signature`. -/
structure Signature where
  v : Uint256
  r : Uint256
  s : Uint256
  deriving DecidableEq

/-- `NewChannelTx`: opens a channel with the two balances. -/
structure NewChannelTx where
  address0 : Address
  address1 : Address
  balance0 : Uint256
  balance1 : Uint256
  expiration : Uint256
  settlingPeriodLength : Uint256
  signature0 : Option Signature
  signature1 : Option Signature
  deriving DecidableEq

/-- `ReDrawTx`: moves an open channel from the old balances to the new ones. -/
structure ReDrawTx where
  channelId : Bytes32
  sequenceNumber : Uint256
  oldBalance0 : Uint256
  oldBalance1 : Uint256
  newBalance0 : Uint256
  newBalance1 : Uint256
  expiration : Uint256
  signature0 : Option Signature
  signature1 : Option Signature
  deriving DecidableEq

/-- `UpdateTx`: one off-chain state of a channel. -/
structure UpdateTx where
  channelId : Bytes32
  sequenceNumber : Uint256
  balance0 : Uint256
  balance1 : Uint256
  signature0 : Option Signature
  signature1 : Option Signature
  deriving DecidableEq

namespace NewChannelTx

def unsigned (tx : NewChannelTx) : NewChannelTx :=
  { tx with signature0 := none, signature1 := none }

/-- The amount the transaction locks. -/
def total (tx : NewChannelTx) : Nat := tx.balance0.toNat + tx.balance1.toNat

@[simp] theorem unsigned_unsigned (tx : NewChannelTx) : tx.unsigned.unsigned = tx.unsigned := rfl

end NewChannelTx

namespace ReDrawTx

def unsigned (tx : ReDrawTx) : ReDrawTx :=
  { tx with signature0 := none, signature1 := none }

/-- The total the redraw leaves in the channel. -/
def newTotal (tx : ReDrawTx) : Nat := tx.newBalance0.toNat + tx.newBalance1.toNat

@[simp] theorem unsigned_unsigned (tx : ReDrawTx) : tx.unsigned.unsigned = tx.unsigned := rfl

@[simp] theorem unsigned_newTotal (tx : ReDrawTx) : tx.unsigned.newTotal = tx.newTotal := rfl

end ReDrawTx

namespace UpdateTx

def unsigned (tx : UpdateTx) : UpdateTx :=
  { tx with signature0 := none, signature1 := none }

/-- The signature slot of party 0 or of party 1. -/
def setSignature (tx : UpdateTx) (slot0 : Bool) (signature : Signature) : UpdateTx :=
  if slot0 then { tx with signature0 := some signature }
  else { tx with signature1 := some signature }

def myBalance (tx : UpdateTx) (iAm0 : Bool) : Uint256 :=
  if iAm0 then tx.balance0 else tx.balance1

def theirBalance (tx : UpdateTx) (iAm0 : Bool) : Uint256 :=
  if iAm0 then tx.balance1 else tx.balance0

@[simp] theorem unsigned_unsigned (tx : UpdateTx) : tx.unsigned.unsigned = tx.unsigned := rfl

theorem total_eq (tx : UpdateTx) (iAm0 : Bool) :
    (tx.myBalance iAm0).toNat + (tx.theirBalance iAm0).toNat =
      tx.balance0.toNat + tx.balance1.toNat := by
  cases iAm0 <;> simp [myBalance, theirBalance, Nat.add_comm]

@[simp] theorem setSignature_unsigned (tx : UpdateTx) (slot0 : Bool) (signature : Signature) :
    (tx.setSignature slot0 signature).unsigned = tx.unsigned := by
  unfold setSignature
  cases slot0 <;> rfl

end UpdateTx

/-- `Channel`: one node's copy of an open channel. -/
structure Channel where
  channelId : Bytes32
  sequenceNumber : Uint256
  balance0 : Uint256
  balance1 : Uint256
  accrual : Uint256
  iAm0 : Bool
  deriving DecidableEq

/-- `Counterparty`: the state of the entry a node stores for one peer. -/
inductive Counterparty where
  | new (iAm0 : Bool)
  | creating (newChannelTx : NewChannelTx) (iAm0 : Bool)
  | otherCreating (newChannelTx : NewChannelTx) (iAm0 : Bool)
  | reDrawing (reDrawTx : ReDrawTx) (channel : Channel)
  | otherReDrawing (reDrawTx : ReDrawTx) (channel : Channel)
  | opened (channel : Channel)
  deriving DecidableEq

/-- `GuacError`. The text of `wrongState` prints the entry with `{:?}`; here
the error carries the entry itself. -/
inductive GuacError where
  | tryAgainLater
  | wrongState (action : String) (currentState : Counterparty) (correctState : String)
  | forbidden (message : String)
  | updateTooOld (correctSeq : Uint256)
  | notEnough (stuff : String)
  | error (message : String)
  deriving DecidableEq

/-- How a computation can end other than with a value: a `GuacError`, another
`failure::Error`, or a panic of the task that runs it. -/
inductive Fault where
  | guac (error : GuacError)
  | failure (message : String)
  | panic
  deriving DecidableEq

/-- `Result<_, Error>`, with panics. -/
abbrev Result := Except Fault

/-- `Option::ok_or_else`. -/
def okOr {α : Type} (value : Option α) (fault : Fault) : Result α :=
  match value with
  | some inner => .ok inner
  | none => .error fault

theorem ok_bind {α β : Type} (value : α) (next : α → Result β) :
    (.ok value >>= next) = next value := rfl

theorem bind_eq_ok {α β : Type} {first : Result α} {next : α → Result β} {result : β} :
    (first >>= next) = .ok result ↔ ∃ value, first = .ok value ∧ next value = .ok result := by
  cases first <;> simp [bind, Except.bind]

theorem bind_eq_error {α β : Type} {first : Result α} {next : α → Result β} {fault : Fault} :
    (first >>= next) = .error fault ↔
      first = .error fault ∨ ∃ value, first = .ok value ∧ next value = .error fault := by
  cases first <;> simp [bind, Except.bind]

theorem okOr_eq_ok {α : Type} {value : Option α} {fault : Fault} {inner : α} :
    okOr value fault = .ok inner ↔ value = some inner := by
  cases value <;> simp [okOr]

namespace Uint256

/-- `+`: panics from `2^256` on. -/
def add (left right : Uint256) : Result Uint256 :=
  match left.checkedAdd right with
  | some sum => .ok sum
  | none => .error .panic

/-- `-`: panics below zero. -/
def sub (left right : Uint256) : Result Uint256 :=
  match left.checkedSub right with
  | some difference => .ok difference
  | none => .error .panic

theorem add_eq_ok {left right sum : Uint256} :
    left.add right = .ok sum ↔ sum.toNat = left.toNat + right.toNat := by
  rw [← checkedAdd_eq_some]
  unfold add
  cases left.checkedAdd right <;> simp

theorem sub_eq_ok {left right difference : Uint256} :
    left.sub right = .ok difference ↔ difference.toNat + right.toNat = left.toNat := by
  rw [← checkedSub_eq_some]
  unfold sub
  cases left.checkedSub right <;> simp

theorem add_succeeds {left right : Uint256} (fits : left.toNat + right.toNat < size) :
    ∃ sum, left.add right = .ok sum := by
  obtain ⟨sum, added⟩ := checkedAdd_isSome_of_lt fits
  exact ⟨sum, by rw [add, added]⟩

theorem sub_succeeds {left right : Uint256} (enough : right.toNat ≤ left.toNat) :
    ∃ difference, left.sub right = .ok difference := by
  obtain ⟨difference, subtracted⟩ := checkedSub_isSome_of_le enough
  exact ⟨difference, by rw [sub, subtracted]⟩

theorem add_error {left right : Uint256} {fault : Fault}
    (failed : left.add right = .error fault) :
    fault = .panic ∧ size ≤ left.toNat + right.toNat := by
  unfold add at failed
  split at failed
  next => cases failed
  next missing =>
    refine ⟨(Except.error.inj failed).symm, ?_⟩
    by_contra fits
    obtain ⟨sum, added⟩ := checkedAdd_isSome_of_lt (Nat.lt_of_not_le fits)
    cases missing.symm.trans added

theorem sub_error {left right : Uint256} {fault : Fault}
    (failed : left.sub right = .error fault) :
    fault = .panic ∧ left.toNat < right.toNat := by
  unfold sub at failed
  split at failed
  next => cases failed
  next missing =>
    refine ⟨(Except.error.inj failed).symm, ?_⟩
    by_contra enough
    obtain ⟨difference, subtracted⟩ := checkedSub_isSome_of_le (Nat.le_of_not_lt enough)
    cases missing.symm.trans subtracted

end Uint256

end Guac
