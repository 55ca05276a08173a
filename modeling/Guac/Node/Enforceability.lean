import Guac.Node.Coherent

/-!
Owns what a node can enforce of the payments it credits: the update a node
accepts against what the contract will check of it. `receive_payment` compares
every field of an update but the channel id, so exactly the updates of another
channel are credited without being enforceable.
-/

set_option autoImplicit false

namespace Guac

open Foundation

section Definitions

variable (crypto : Crypto) (theirAddress : Address)

/-- The counterparty's slot holds its signature over the update. -/
def SignedByThem (iAm0 : Bool) (updateTx : UpdateTx) : Prop :=
  ∃ signature, theirSignature iAm0 updateTx = some signature ∧
    signature.recover crypto (updateTx.fingerprint crypto) = .ok theirAddress

/-- The update is one the contract would settle this channel with. -/
structure Enforceable (stored : Channel) (updateTx : UpdateTx) : Prop where
  channelId : updateTx.channelId = stored.channelId
  sequenceNumber : updateTx.sequenceNumber = stored.sequenceNumber
  balance0 : updateTx.balance0 = stored.balance0
  balance1 : updateTx.balance1 = stored.balance1
  signed : SignedByThem crypto theirAddress stored.iAm0 updateTx

/-- A payment that changes the stored channel leaves an enforceable one. -/
def Enforced (transition : Transition Node Input) : Prop :=
  ∀ channel updateTx, transition.before.entry = some (.opened channel) →
    transition.event = .request (.receivePayment updateTx) →
    transition.after.entry ≠ transition.before.entry →
    ∃ stored, transition.after.entry = some (.opened stored) ∧
      stored.channelId = channel.channelId ∧ stored.iAm0 = channel.iAm0 ∧
      Enforceable crypto theirAddress stored updateTx

/-- An update the counterparty signed that `receive_payment` accepts. -/
structure Creditable (channel : Channel) (updateTx : UpdateTx) : Prop where
  signed : SignedByThem crypto theirAddress channel.iAm0 updateTx
  credits : channel.Credits updateTx

/-- A creditable payment names the stored channel. -/
def NamesChannel (transition : Transition Node Input) : Prop :=
  ∀ channel updateTx, transition.before.entry = some (.opened channel) →
    transition.event = .request (.receivePayment updateTx) →
    Creditable crypto theirAddress channel updateTx → updateTx.channelId = channel.channelId

end Definitions

variable {crypto : Crypto} {theirAddress : Address}

theorem receiveUpdate_eq {channel : Channel} {updateTx : UpdateTx}
    (signed : SignedByThem crypto theirAddress channel.iAm0 updateTx) :
    receiveUpdate crypto theirAddress channel updateTx = channel.receivePayment updateTx := by
  obtain ⟨signature, slot, recovers⟩ := signed
  simp only [receiveUpdate, slot, okOr, recovers, bind, Except.bind, ne_eq, not_true_eq_false,
    if_false]

theorem receivePayment_entry {channel : Channel} {updateTx : UpdateTx} {node after : Node}
    (entry : node.entry = some (.opened channel))
    (stepped : node.step crypto theirAddress (.request (.receivePayment updateTx)) = some after) :
    after.entry = some (.opened channel) ∧
        ¬ Creditable crypto theirAddress channel updateTx ∨
      Creditable crypto theirAddress channel updateTx ∧
        ∃ stored, after.entry = some (.opened stored) ∧
          Channel.Accepted channel updateTx stored := by
  obtain ⟨operation, poll, polled, rfl⟩ := step_eq_some.mp stepped
  obtain ⟨-, -, rfl⟩ := poll_request polled
  simp only [Node.after, Request.start, receivePayment, entry, withCounterparty,
    checkForCounterparty, okOr]
  cases answered : receiveUpdate crypto theirAddress channel updateTx with
  | error fault =>
      refine .inl ⟨rfl, fun creditable => ?_⟩
      obtain ⟨accepted, accepts⟩ := Channel.receivePayment_succeeds creditable.credits
      rw [receiveUpdate_eq creditable.signed, accepts] at answered
      cases answered
  | ok result =>
      obtain ⟨received, reply⟩ := result
      obtain ⟨signed, receives⟩ := receiveUpdate_ok answered
      rcases Channel.receivePayment_ok receives with ⟨old, rfl, rfl⟩ | ⟨rfl, accepts⟩
      · exact .inl ⟨rfl, fun creditable => Nat.not_lt.mpr old creditable.credits.newer⟩
      · exact .inr ⟨⟨signed, Channel.receivePayment_credits receives⟩, received, rfl, accepts⟩

/-- One payment is enforced if and only if a creditable one names the channel. -/
theorem enforced_iff_namesChannel {transition : Transition Node Input}
    (stepped : transition.before.step crypto theirAddress transition.event =
      some transition.after) :
    Enforced crypto theirAddress transition ↔ NamesChannel crypto theirAddress transition := by
  obtain ⟨before, event, after⟩ := transition
  constructor
  · intro enforced channel updateTx entry rfl creditable
    rcases receivePayment_entry entry stepped with ⟨-, refused⟩ | ⟨-, stored, received, accepts⟩
    · exact absurd creditable refused
    · have changed : after.entry ≠ before.entry := by
        rw [entry, received, ne_eq, Option.some.injEq, Counterparty.opened.injEq]
        rintro rfl
        exact absurd accepts.newer (by rw [accepts.sequenceNumber]; exact Nat.lt_irrefl _)
      obtain ⟨_, same, channelId, -, enforceable⟩ := enforced channel updateTx entry rfl changed
      obtain rfl := Counterparty.opened.inj (Option.some.inj (received.symm.trans same))
      rw [enforceable.channelId, channelId]
  · intro names channel updateTx entry rfl changed
    rcases receivePayment_entry entry stepped with
      ⟨same, -⟩ | ⟨creditable, stored, received, accepts⟩
    · exact absurd (same.trans entry.symm) changed
    · have channelId := names channel updateTx entry rfl creditable
      refine ⟨stored, received, accepts.channelId, accepts.iAm0, ?_⟩
      exact ⟨channelId.trans accepts.channelId.symm, accepts.sequenceNumber.symm,
        accepts.balance0.symm, accepts.balance1.symm, accepts.iAm0 ▸ creditable.signed⟩

/-- Every credited payment of a run is enforceable if and only if every
creditable payment of the run names the stored channel. -/
theorem every_payment_enforced_iff {taken : List (Transition Node Input)} {node : Node}
    (run : (entryMachine crypto theirAddress).Run .fresh taken node) :
    (∀ transition ∈ taken, Enforced crypto theirAddress transition) ↔
      ∀ transition ∈ taken, NamesChannel crypto theirAddress transition :=
  forall₂_congr fun transition member =>
    enforced_iff_namesChannel (run.step_of_mem transition member)

namespace Sample

def updateFrom2 (channelId : Bytes32) : UpdateTx :=
  let updateTx : UpdateTx := ⟨channelId, 1, 2, 3, none, none⟩
  updateTx.setSignature false ((Sample.crypto 2).ethSign (updateTx.fingerprint (Sample.crypto 2)))

/-- Node 2 opens channel 7 with node 1 and pays it over channel `channelId`. -/
def paysOver (channelId : Bytes32) : List Input :=
  [.request (.proposeChannel ⟨1, 2, 0, 5, 40, 5000, none, none⟩),
    .request .notifyChannelOpened, .resume (.ok (.maybeChannelId (some 7))),
    .request (.receivePayment (updateFrom2 channelId))]

end Sample

/-- A payment over channel 7 is credited to channel 7. -/
theorem every_payment_enforced_iff_sample :
    ∃ node ∈ (entryMachine (Sample.crypto 1) 2).replay .fresh (Sample.paysOver 7),
      node.entry = some (.opened ⟨7, 1, 2, 3, 2, true⟩) ∧
        ((∀ transition ∈ (entryMachine (Sample.crypto 1) 2).trace .fresh (Sample.paysOver 7),
            Enforced (Sample.crypto 1) 2 transition) ↔
          ∀ transition ∈ (entryMachine (Sample.crypto 1) 2).trace .fresh (Sample.paysOver 7),
            NamesChannel (Sample.crypto 1) 2 transition) := by
  obtain ⟨node, reached, entry⟩ :
      ∃ node ∈ (entryMachine (Sample.crypto 1) 2).replay .fresh (Sample.paysOver 7),
        node.entry = some (.opened ⟨7, 1, 2, 3, 2, true⟩) := by
    decide +kernel
  exact ⟨node, reached, entry, every_payment_enforced_iff (Machine.run_of_replay reached)⟩

/-- A payment over channel 8 is credited to channel 7. -/
theorem unenforceable_payment_credited :
    ∃ taken node, (entryMachine (Sample.crypto 1) 2).Run .fresh taken node ∧
      ¬ ∀ transition ∈ taken, Enforced (Sample.crypto 1) 2 transition := by
  obtain ⟨opened, reached, entry, after, stepped, credited⟩ :
      ∃ opened ∈ (entryMachine (Sample.crypto 1) 2).replay .fresh ((Sample.paysOver 8).take 3),
        opened.entry = some (.opened ⟨7, 0, 0, 5, 0, true⟩) ∧
        ∃ after ∈ opened.step (Sample.crypto 1) 2
            (.request (.receivePayment (Sample.updateFrom2 8))),
          after.entry = some (.opened ⟨7, 1, 2, 3, 2, true⟩) := by
    decide +kernel
  refine ⟨_, after, .snoc (Machine.run_of_replay reached) stepped, fun enforced => ?_⟩
  obtain ⟨stored, same, -, -, enforceable⟩ :=
    enforced _ (List.mem_append_right _ (List.mem_singleton.mpr rfl)) _ _ entry rfl
      (by rw [credited, entry]; decide)
  obtain rfl := Counterparty.opened.inj (Option.some.inj (credited.symm.trans same))
  exact absurd enforceable.channelId (by decide)

end Guac
