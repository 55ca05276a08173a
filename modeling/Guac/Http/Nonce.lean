import Guac.Foundation.Machine
import Guac.Foundation.Ticket
import Guac.Http.Submission

/-!
Owns the transactions one node signs: any number of `send_raw_transaction` calls, whose
requests the node of the chain answers in any order, and the transactions it mines at any
later time. A nonce is the number of transactions mined when it was asked for.

`mined` holds the transactions of the account in the order of their nonces; `base` counts
those of earlier sessions. The account is not used by anybody else.
-/

set_option autoImplicit false

namespace Guac

open Foundation

/-- A signed transaction, with the call that signed it. -/
abbrev Sent (ι : Type*) := ι × Transaction

def Sent.nonce {ι : Type*} (sent : Sent ι) : Nat := sent.2.nonce

/-- The account of a node: what each call was answered, what was signed and what was mined.
`counted` is what `eth_getTransactionCount` counted for a call. -/
structure Account (ι : Type*) where
  gasPrice : ι → Option Uint256
  counted : ι → Option (List (Sent ι))
  signed : List (Sent ι)
  mined : List (Sent ι)

/-- The answers of the node of the chain, the poll that signs and sends, and mining. -/
inductive AccountEvent (ι : Type*) where
  | gasPrice (caller : ι) (price : Uint256)
  | transactionCount (caller : ι)
  | sendRawTransaction (caller : ι)
  | mine (sent : Sent ι)

section Definitions

variable {ι : Type*} [DecidableEq ι] (call : ι → RawCall) (base : Nat)

/-- `eth_getTransactionCount` with `latest`. -/
def transactionCount (mined : List (Sent ι)) : Nat := base + mined.length

/-- The poll of `send_raw_transaction` that has both answers. -/
def sendRawTransaction (account : Account ι) (caller : ι) : Option (Account ι) :=
  match account.gasPrice caller, account.counted caller with
  | some gasPrice, some mined =>
      if account.signed.all (fun sent => sent.1 ≠ caller) then
        let transaction := (call caller).transaction gasPrice (transactionCount base mined)
        some { account with signed := account.signed ++ [(caller, transaction)] }
      else none
  | _, _ => none

def accountStep (account : Account ι) : AccountEvent ι → Option (Account ι)
  | .gasPrice caller price =>
      if account.gasPrice caller = none then
        some { account with gasPrice := Function.update account.gasPrice caller (some price) }
      else none
  | .transactionCount caller =>
      if account.counted caller = none then
        some { account with counted := Function.update account.counted caller (some account.mined) }
      else none
  | .sendRawTransaction caller => sendRawTransaction call base account caller
  | .mine sent =>
      if sent ∈ account.signed ∧ sent.nonce = transactionCount base account.mined then
        some { account with mined := account.mined ++ [sent] }
      else none

def accountMachine : Machine (Account ι) (AccountEvent ι) := ⟨accountStep call base⟩

def Account.fresh : Account ι := ⟨fun _ => none, fun _ => none, [], []⟩

end Definitions

variable {ι : Type*}

/-- No two transactions the node signed carry the same nonce. -/
def NoncesUnique (account : Account ι) : Prop := (account.signed.map Sent.nonce).Nodup

instance (account : Account ι) : Decidable (NoncesUnique account) :=
  inferInstanceAs (Decidable (account.signed.map Sent.nonce).Nodup)

/-- A call signs only after everything signed before it was mined when its nonce was asked
for. -/
def WaitsForMining (account : Account ι) (event : AccountEvent ι) : Prop :=
  ∀ caller mined, event = .sendRawTransaction caller → account.counted caller = some mined →
    ∀ sent ∈ account.signed, sent ∈ mined

/-- The invariant of an account: the transactions are numbered by what was mined, and what
was counted is a beginning of what is mined. -/
structure Account.Numbers (base : Nat) (account : Account ι) : Prop where
  numbered : Numbered Sent.nonce base account.signed account.mined
  counted : ∀ caller mined, account.counted caller = some mined → mined <+: account.mined

theorem Account.numbers_fresh (base : Nat) : (Account.fresh : Account ι).Numbers base where
  numbered := .empty _ base
  counted := nofun

section Steps

variable [DecidableEq ι] {call : ι → RawCall} {base : Nat} {before after account : Account ι}
  {event : AccountEvent ι} {taken : List (Transition (Account ι) (AccountEvent ι))}

theorem sendRawTransaction_eq_some {caller : ι}
    (sends : sendRawTransaction call base before caller = some after) :
    ∃ gasPrice mined, before.counted caller = some mined ∧ after =
      { before with
        signed := before.signed ++
          [(caller, (call caller).transaction gasPrice (transactionCount base mined))] } := by
  unfold sendRawTransaction at sends
  split at sends
  next gasPrice mined _ counted =>
    split at sends <;> cases sends
    exact ⟨gasPrice, mined, counted, rfl⟩
  next => cases sends

theorem Account.Numbers.step (numbers : before.Numbers base)
    (stepped : accountStep call base before event = some after) : after.Numbers base := by
  unfold accountStep at stepped
  split at stepped
  next caller price =>
    split at stepped <;> cases stepped
    exact ⟨numbers.numbered, numbers.counted⟩
  next caller =>
    split at stepped <;> cases stepped
    refine ⟨numbers.numbered, ?_⟩
    intro other mined counts
    change Function.update before.counted caller (some before.mined) other = some mined at counts
    rcases eq_or_ne other caller with rfl | different
    · rw [Function.update_self] at counts
      obtain rfl := Option.some.inj counts
      exact List.prefix_rfl
    · rw [Function.update_of_ne different] at counts
      exact numbers.counted other mined counts
  next caller =>
    obtain ⟨gasPrice, mined, counted, rfl⟩ := sendRawTransaction_eq_some stepped
    exact ⟨numbers.numbered.issue (numbers.counted caller mined counted) rfl, numbers.counted⟩
  next sent =>
    split at stepped <;> cases stepped
    next turn =>
      refine ⟨numbers.numbered.serve turn.1 turn.2, ?_⟩
      intro caller mined counts
      exact (numbers.counted caller mined counts).trans (List.prefix_append _ _)

theorem signed_of_step (stepped : accountStep call base before event = some after)
    (other : ∀ caller, event ≠ .sendRawTransaction caller) : after.signed = before.signed := by
  cases event with
  | sendRawTransaction caller => exact absurd rfl (other caller)
  | gasPrice | transactionCount | mine =>
      unfold accountStep at stepped
      simp only at stepped
      split at stepped <;> cases stepped
      rfl

/-- A step keeps the nonces unique exactly if it waits for mining. -/
theorem Account.Numbers.unique_step (numbers : before.Numbers base)
    (stepped : accountStep call base before event = some after) :
    NoncesUnique after ↔ NoncesUnique before ∧ WaitsForMining before event := by
  by_cases sending : ∃ caller, event = .sendRawTransaction caller
  · obtain ⟨caller, rfl⟩ := sending
    obtain ⟨gasPrice, mined, counted, rfl⟩ := sendRawTransaction_eq_some stepped
    have earlier := numbers.counted caller mined counted
    have waits : WaitsForMining before (.sendRawTransaction caller) ↔
        ∀ sent ∈ before.signed, sent ∈ mined := by
      constructor
      · intro waits
        exact waits caller mined rfl counted
      · rintro allMined _ same ⟨⟩ counts
        rwa [← Option.some.inj (counted.symm.trans counts)]
    unfold NoncesUnique
    rw [waits, List.map_append, List.map_singleton, List.nodup_append_comm, List.singleton_append,
      List.nodup_cons, and_comm]
    exact and_congr_right fun unique => numbers.numbered.fresh_iff unique earlier
  · have other : ∀ caller, event ≠ .sendRawTransaction caller := fun caller same =>
      sending ⟨caller, same⟩
    have waits : WaitsForMining before event := fun caller _ same => absurd same (other caller)
    unfold NoncesUnique
    rw [signed_of_step stepped other]
    exact (and_iff_left waits).symm

/-- The nonces of a run are unique exactly if every call signs only after everything
signed before it was mined when its nonce was asked for. -/
theorem nonces_unique_iff (run : (accountMachine call base).Run .fresh taken account) :
    NoncesUnique account ↔
      ∀ transition ∈ taken, WaitsForMining transition.before transition.event := by
  induction run with
  | nil => simp [NoncesUnique, Account.fresh]
  | snoc earlier stepped inductionHypothesis =>
      have numbers := earlier.invariant (Account.Numbers base) (Account.numbers_fresh base)
        fun _ _ _ numbers stepped => numbers.step stepped
      rw [numbers.unique_step stepped, inductionHypothesis, List.forall_mem_append,
        List.forall_mem_singleton]

end Steps

namespace Sample

def deposits (second : Bool) : RawCall :=
  BlockchainClient.quickDeposit ⟨99, fun _ => 0⟩ (if second then 5 else 3)

def minesBetween : List (AccountEvent Bool) :=
  [.gasPrice false 1, .transactionCount false, .sendRawTransaction false,
    .mine (false, (deposits false).transaction 1 0), .transactionCount true, .gasPrice true 1,
    .sendRawTransaction true]

def overlaps : List (AccountEvent Bool) :=
  [.gasPrice false 1, .transactionCount false, .gasPrice true 1, .transactionCount true,
    .sendRawTransaction false, .sendRawTransaction true]

end Sample

/-- One after the other the deposits carry the nonces 0 and 1. -/
theorem nonces_unique_iff_sample :
    let machine := accountMachine Sample.deposits 0
    ∃ account ∈ machine.replay .fresh Sample.minesBetween,
      account.signed.map Sent.nonce = [0, 1] ∧
        ∀ transition ∈ machine.trace .fresh Sample.minesBetween,
          WaitsForMining transition.before transition.event := by
  intro machine
  obtain ⟨account, reached, nonces, unique⟩ :
      ∃ account ∈ machine.replay .fresh Sample.minesBetween,
        account.signed.map Sent.nonce = [0, 1] ∧ NoncesUnique account := by
    decide +kernel
  exact ⟨account, reached, nonces, (nonces_unique_iff (Machine.run_of_replay reached)).mp unique⟩

/-- At the same time both carry the nonce 0. -/
theorem nonce_reused :
    ∃ account ∈ (accountMachine Sample.deposits 0).replay .fresh Sample.overlaps,
      account.signed.map Sent.nonce = [0, 0] ∧ ¬ NoncesUnique account := by
  decide +kernel

end Guac
