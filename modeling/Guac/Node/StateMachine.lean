import Guac.Node.Amount
import Guac.Node.Provenance
import Guac.Node.Signing

/-!
Owns the state machine of an entry: the six states of `Counterparty`, the eight edges
between them, and what the pending transaction of a state says of the stored channel.
It holds of every entry of a node, whatever its users and peers do and wherever an
operation stops.

It does not own the expiry of `Creating` and `ReDrawing`: the source has none.
-/

set_option autoImplicit false

namespace Guac

open Foundation

/-- The states of a counterparty entry. -/
inductive Variant where
  | new
  | creating
  | otherCreating
  | reDrawing
  | otherReDrawing
  | opened
  deriving DecidableEq

def Counterparty.variant : Counterparty → Variant
  | .new _ => .new
  | .creating _ _ => .creating
  | .otherCreating _ _ => .otherCreating
  | .reDrawing _ _ => .reDrawing
  | .otherReDrawing _ _ => .otherReDrawing
  | .opened _ => .opened

/-- The state of an entry. An address without an entry gets a `New` one before anything
else happens to it. -/
def variantOf : Option Counterparty → Variant
  | none => .new
  | some counterparty => counterparty.variant

/-- The edges of the state machine. -/
inductive Edge : Variant → Variant → Prop
  | signedNew : Edge .new .creating
  | acceptedNew : Edge .new .otherCreating
  | openedAsProposer : Edge .creating .opened
  | openedAsResponder : Edge .otherCreating .opened
  | signedReDraw : Edge .opened .reDrawing
  | acceptedReDraw : Edge .opened .otherReDrawing
  | reDrawnAsProposer : Edge .reDrawing .opened
  | reDrawnAsResponder : Edge .otherReDrawing .opened

/-- The states that store a channel. -/
def Variant.storesChannel : Variant → Bool
  | .new => false
  | .creating => false
  | .otherCreating => false
  | .reDrawing => true
  | .otherReDrawing => true
  | .opened => true

theorem storesChannel_eq (entry : Option Counterparty) :
    (variantOf entry).storesChannel = (entry.bind Counterparty.channel).isSome := by
  cases entry with
  | none => rfl
  | some counterparty => cases counterparty <;> rfl

theorem Edge.keepsChannel {before after : Variant} (edge : Edge before after)
    (stores : before.storesChannel = true) : after.storesChannel = true := by
  cases edge <;> first | rfl | exact stores

section Definitions

variable (crypto : Crypto) (theirAddress : Address)

/-- An opening names the two parties in role order and gives the responder nothing. -/
structure OpensFor (tx : NewChannelTx) (responderIs0 : Bool) : Prop where
  address0 : tx.address0 =
    if crypto.ownAddress < theirAddress then crypto.ownAddress else theirAddress
  address1 : tx.address1 =
    if crypto.ownAddress < theirAddress then theirAddress else crypto.ownAddress
  responder : (if responderIs0 then tx.balance0 else tx.balance1) = 0

/-- A redraw is one of the stored channel, newer than it, and leaves the responder what it
has. -/
structure ReDrawsFor (channel : Channel) (tx : ReDrawTx) (responderIs0 : Bool) : Prop where
  channelId : tx.channelId = channel.channelId
  newer : channel.sequenceNumber < tx.sequenceNumber
  oldBalance0 : tx.oldBalance0 = channel.balance0
  oldBalance1 : tx.oldBalance1 = channel.balance1
  responder : if responderIs0 then tx.newBalance0 = channel.balance0
    else tx.newBalance1 = channel.balance1

/-- What the state of an entry says. The responder of `Creating` and `ReDrawing` is the
counterparty, that of `OtherCreating` and `OtherReDrawing` the node. -/
structure StateCoherent (counterparty : Counterparty) : Prop where
  role : counterparty.role = decide (crypto.ownAddress < theirAddress)
  creating : ∀ tx iAm0, counterparty = .creating tx iAm0 →
    OpensFor crypto theirAddress tx (!iAm0)
  otherCreating : ∀ tx iAm0, counterparty = .otherCreating tx iAm0 →
    OpensFor crypto theirAddress tx iAm0
  reDrawing : ∀ tx channel, counterparty = .reDrawing tx channel →
    ReDrawsFor channel tx (!channel.iAm0)
  otherReDrawing : ∀ tx channel, counterparty = .otherReDrawing tx channel →
    ReDrawsFor channel tx channel.iAm0

/-- A pending redraw of the node leaves the counterparty what it has. -/
def Spares (node : Node) : Prop :=
  ∀ tx channel, node.entry = some (.reDrawing tx channel) →
    if channel.iAm0 then tx.newBalance1 = channel.balance1 else tx.newBalance0 = channel.balance0

end Definitions

section Polls

variable {crypto : Crypto} {theirAddress : Address} {node : Node} {input : Input}
  {operation : Operation} {poll : Poll}

theorem variantOf_new {entry : Option Counterparty} {iAm0 : Bool}
    (found : makeCounterpartyIfNone theirAddress crypto.ownAddress entry = .new iAm0) :
    variantOf entry = .new := by
  cases entry with
  | none => rfl
  | some counterparty =>
      obtain rfl : counterparty = .new iAm0 := found
      rfl

/-- Every change of state is an edge. -/
theorem Coherent.edge (coherent : Coherent crypto theirAddress node)
    (polled : node.poll crypto theirAddress input = some (operation, poll)) :
    variantOf poll.entry = variantOf node.entry ∨
      Edge (variantOf node.entry) (variantOf poll.entry) := by
  obtain ⟨entry, closure, found, -, move, -, resumes⟩ := coherent.moved polled
  rw [found]
  cases move with
  | failed | proposeNew | deposited | startReDraw | proposeReDraw | submitted | retryPayment
  | retryAccepted | checkOpen | checkReDraw | stalePayment | pay | acceptPayment => exact .inl rfl
  | refused kept =>
      rcases kept with rfl | ⟨rfl, rfl⟩
      · exact .inl rfl
      · exact .inl rfl
  | fillNew new => exact .inl (variantOf_new new).symm
  | acceptChannel new =>
      rw [variantOf_new new]
      exact .inr .acceptedNew
  | acceptReDraw => exact .inr .acceptedReDraw
  | accrue accrued => cases accrued <;> exact .inl rfl
  | signNew =>
      obtain ⟨_, _, rfl, -, held⟩ := resumes _ rfl
      cases held
      exact .inr .signedNew
  | openedAsProposer =>
      obtain ⟨_, _, rfl, -, held⟩ := resumes _ rfl
      cases held
      exact .inr .openedAsProposer
  | signReDraw =>
      obtain ⟨_, _, rfl, -, held⟩ := resumes _ rfl
      cases held
      exact .inr .signedReDraw
  | reDrawnAsProposer =>
      obtain ⟨_, _, rfl, -, held⟩ := resumes _ rfl
      cases held
      exact .inr .reDrawnAsProposer
  | savePayment =>
      obtain ⟨_, _, rfl, -, held⟩ := resumes _ rfl
      cases held
      exact .inl rfl
  | openedAsResponder =>
      obtain ⟨_, _, rfl, -, held⟩ := resumes _ rfl
      cases held
      exact .inr .openedAsResponder
  | reDrawnAsResponder =>
      obtain ⟨_, _, rfl, -, held⟩ := resumes _ rfl
      cases held
      exact .inr .reDrawnAsResponder

/-- A poll keeps what a pending redraw of the node spares. -/
theorem Coherent.spares_after (coherent : Coherent crypto theirAddress node)
    (spares : Spares node)
    (polled : node.poll crypto theirAddress input = some (operation, poll)) :
    Spares (node.after operation poll) := by
  obtain ⟨entry, closure, found, -, move, -, resumes⟩ := coherent.moved polled
  unfold Spares at spares ⊢
  rw [found] at spares
  intro tx channel pending
  change poll.entry = some (.reDrawing tx channel) at pending
  cases move with
  | failed | proposeNew | deposited | proposeReDraw | submitted | retryPayment
  | retryAccepted => exact spares tx channel pending
  | refused kept =>
      rcases kept with rfl | ⟨rfl, rfl⟩
      · exact spares tx channel pending
      · cases pending
  | accrue accrued =>
      cases accrued with
      | opened => cases pending
      | reDrawing tx before =>
          cases pending
          exact spares tx before rfl
      | otherReDrawing => cases pending
  | signReDraw =>
      obtain ⟨_, _, rfl, -, held⟩ := resumes _ rfl
      cases pending
      cases held with
      | reDrawSignature _ _ _ balances proposes =>
          rw [proposes.newBalance0, proposes.newBalance1]
          exact reDrawBalances_other balances
  | _ => cases pending

theorem Coherent.keeps_channel {channel : Channel} (coherent : Coherent crypto theirAddress node)
    (had : node.channel = some channel)
    (polled : node.poll crypto theirAddress input = some (operation, poll)) :
    ∃ next, (node.after operation poll).channel = some next ∧
      next.channelId = channel.channelId := by
  have stores : (variantOf node.entry).storesChannel = true := by
    rw [storesChannel_eq]
    exact Option.isSome_iff_exists.mpr ⟨channel, had⟩
  have stillStores : (variantOf poll.entry).storesChannel = true := by
    rcases coherent.edge polled with same | edge
    · rw [same, stores]
    · exact edge.keepsChannel stores
  rw [storesChannel_eq] at stillStores
  obtain ⟨next, stored⟩ := Option.isSome_iff_exists.mp stillStores
  refine ⟨next, stored, ?_⟩
  cases coherent.channelFrom polled stored with
  | kept had' same => rw [same, Option.some.inj (had'.symm.trans had)]
  | proposer entry | responder entry =>
      rw [Node.channel, entry] at had
      cases had

theorem Coherent.state {counterparty : Counterparty} (coherent : Coherent crypto theirAddress node)
    (spares : Spares node) (stored : node.entry = some counterparty) :
    StateCoherent crypto theirAddress counterparty := by
  have backed := coherent.backed
  rw [stored] at backed
  cases counterparty with
  | new iAm0 => exact ⟨backed.1, by simp, by simp, by simp, by simp⟩
  | creating tx iAm0 =>
      obtain ⟨rfl, -, amount, expiration, rfl⟩ := backed
      refine ⟨rfl, ?_, by simp, by simp, by simp⟩
      rintro _ _ ⟨⟩
      refine ⟨by simp [proposedChannel, Crypto.role], by simp [proposedChannel, Crypto.role], ?_⟩
      cases crypto.role theirAddress <;> rfl
  | otherCreating tx iAm0 =>
      obtain ⟨rfl, -, checked⟩ := backed
      refine ⟨rfl, by simp, ?_, by simp, by simp⟩
      rintro _ _ ⟨⟩
      exact ⟨by simp [checked.address0, Crypto.role], by simp [checked.address1, Crypto.role],
        checked.mine⟩
  | reDrawing tx channel =>
      obtain ⟨role, -, newBalance0, newBalance1, proposes⟩ := backed
      refine ⟨role, by simp, by simp, ?_, by simp⟩
      rintro _ _ ⟨⟩
      have newer : channel.sequenceNumber < tx.sequenceNumber := by
        rw [Uint256.lt_def, proposes.sequenceNumber]
        exact Nat.lt_succ_self _
      refine ⟨proposes.channelId, newer, proposes.oldBalance0, proposes.oldBalance1, ?_⟩
      have spared := spares tx channel stored
      cases iAm0 : channel.iAm0 <;> simpa [iAm0] using spared
  | otherReDrawing tx channel =>
      obtain ⟨role, -, checked⟩ := backed
      refine ⟨role, by simp, by simp, by simp, ?_⟩
      rintro _ _ ⟨⟩
      refine ⟨checked.channelId, checked.newer, checked.oldBalance0, checked.oldBalance1, ?_⟩
      have mine := checked.mine
      unfold Channel.myBalance at mine
      cases iAm0 : channel.iAm0 <;> simpa [iAm0] using mine
  | opened channel => exact ⟨backed, by simp, by simp, by simp, by simp⟩

end Polls

/-! ### Whole runs -/

section Runs

variable {crypto : Crypto} {start before after state : Storage} {event : Address × Input}
  {taken : List (Transition Storage (Address × Input))}

theorem storageStep_entry (stepped : storageStep crypto before event = some after)
    (address : Address) :
    after address = before address ∨
      ∃ operation poll,
        (before address).poll crypto address event.2 = some (operation, poll) ∧
          after address = (before address).after operation poll := by
  obtain ⟨node, moved, rfl⟩ := storageStep_eq_some.mp stepped
  by_cases same : address = event.1
  · subst same
    obtain ⟨operation, poll, polled, rfl⟩ := step_eq_some.mp moved
    exact .inr ⟨operation, poll, polled, Function.update_self ..⟩
  · exact .inl (Function.update_of_ne same ..)

/-- Every pending redraw of the node spares the counterparty. -/
theorem Storage.spares_of_run (run : (storageMachine crypto).Run .fresh taken state)
    (address : Address) : Spares (state address) := by
  have kept := run.invariant
    (fun storage => storage.Coherent crypto ∧ ∀ address, Spares (storage address))
    ⟨Storage.coherent_fresh, fun _ _ _ pending => nomatch pending⟩ ?_
  · exact kept.2 address
  · rintro before event after ⟨coherent, spares⟩ stepped
    refine ⟨coherent.step stepped, fun address => ?_⟩
    rcases storageStep_entry stepped address with same | ⟨operation, poll, polled, moved⟩
    · rw [same]
      exact spares address
    · rw [moved]
      exact (coherent address).spares_after (spares address) polled

theorem Storage.channel_fixed {address : Address} {channel : Channel}
    (run : (storageMachine crypto).Run start taken state) (coherent : start.Coherent crypto)
    (stored : (start address).channel = some channel) :
    ∃ last, (state address).channel = some last ∧ last.channelId = channel.channelId := by
  have kept := run.invariant
    (fun storage => storage.Coherent crypto ∧
      ∃ last, (storage address).channel = some last ∧ last.channelId = channel.channelId)
    ⟨coherent, channel, stored, rfl⟩ ?_
  · exact kept.2
  · rintro before event after ⟨coherent, last, had, sameId⟩ stepped
    refine ⟨coherent.step stepped, ?_⟩
    rcases storageStep_entry stepped address with same | ⟨operation, poll, polled, moved⟩
    · rw [same]
      exact ⟨last, had, sameId⟩
    · rw [moved]
      obtain ⟨next, has, kept⟩ := (coherent address).keeps_channel had polled
      exact ⟨next, has, kept.trans sameId⟩

/-- The state machine of the entries of a node: what every stored entry says of itself,
how its state changes, and that a channel keeps its id. -/
theorem entries_coherent (run : (storageMachine crypto).Run .fresh taken state) :
    (∀ address counterparty, (state address).entry = some counterparty →
        StateCoherent crypto address counterparty) ∧
      (∀ transition ∈ taken, ∀ address,
        variantOf (transition.after address).entry = variantOf (transition.before address).entry ∨
          Edge (variantOf (transition.before address).entry)
            (variantOf (transition.after address).entry)) ∧
      ∀ transition ∈ taken, ∀ address channel,
        (transition.after address).channel = some channel →
          ∃ last, (state address).channel = some last ∧ last.channelId = channel.channelId := by
  have coherentBefore := Storage.coherent_before run
  refine ⟨?_, ?_, ?_⟩
  · intro address counterparty stored
    exact (Storage.coherent_of_run run address).state (Storage.spares_of_run run address) stored
  · intro transition member address
    have stepped := run.step_of_mem transition member
    rcases storageStep_entry stepped address with same | ⟨operation, poll, polled, moved⟩
    · rw [same]
      exact .inl rfl
    · rw [moved]
      exact (coherentBefore transition member address).edge polled
  · intro transition member address channel stored
    obtain ⟨front, rest, rfl⟩ := List.append_of_mem member
    obtain ⟨-, stepped, onward⟩ := run.split
    have coherent := (coherentBefore transition member).step stepped
    exact Storage.channel_fixed onward coherent stored

end Runs

namespace Sample

def pendingReDraw : ReDrawTx := ⟨7, 1, 10, 0, 15, 0, 41, none, none⟩

/-- Node 1 fills a new channel with 10 and stops half-way through a fill of 5. -/
def stopsHalfway : List (Address × Input) :=
  let signature := (Sample.crypto 2).ethSign (pendingReDraw.fingerprint (Sample.crypto 2))
  let answers : List (Result Value) := Sample.fillAnswers (.ok (.channelId 7)) ++ [.ok .unit]
  (2, .start (.fillChannel 10)) :: answers.map (fun answer => (2, .resume answer)) ++
    [(2, .start (.fillChannel 5)), (2, .resume (.ok (.block 1))),
      (2, .resume (.ok (.signature signature))), (2, .resume (.error (.failure "reverted")))]

end Sample

/-- The entry is left in `ReDrawing`, with a redraw of the channel it stores. -/
theorem entries_coherent_sample :
    let entry := Counterparty.reDrawing Sample.pendingReDraw ⟨7, 0, 10, 0, 0, true⟩
    ∃ state ∈ (storageMachine (Sample.crypto 1)).replay .fresh Sample.stopsHalfway,
      (state 2).entry = some entry ∧ StateCoherent (Sample.crypto 1) 2 entry := by
  obtain ⟨state, reached, stored⟩ :
      ∃ state ∈ (storageMachine (Sample.crypto 1)).replay .fresh Sample.stopsHalfway,
        (state 2).entry =
          some (.reDrawing Sample.pendingReDraw ⟨7, 0, 10, 0, 0, true⟩) := by
    decide +kernel
  have run := Machine.run_of_replay reached
  exact ⟨state, reached, stored, (entries_coherent run).1 2 _ stored⟩

end Guac
