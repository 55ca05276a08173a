import Guac.Foundation.Simulation
import Guac.Network.Named
import Guac.Node.Signing

/-!
Owns any number of nodes that share one contract. A node has an entry for every other one
and one key for all of them; the contract knows a channel by its id and a signer by its
address. What two nodes see of all this is the network of the two, and what the others do
changes nothing of it. Accounts and nonces are not told apart: any transaction that both
signed may be mined at any time, which is more than one account per node allows.
-/

set_option autoImplicit false

namespace Guac

open Foundation

/-- The nodes of a mesh, each with a key of its own. -/
structure Members where
  addresses : List Address
  crypto : Address → Crypto
  owns : ∀ address, (crypto address).ownAddress = address

/-- Two nodes, by the order of their addresses. -/
structure Ends where
  first : Address
  second : Address
  ordered : first < second
  deriving DecidableEq

/-- Nodes with their storages, the wires and the abandoned requests from one node to
another, and the contract. -/
structure Mesh where
  storage : Address → Storage
  wire : Address → Address → Wire
  orphans : Address → Address → List Request
  chain : Chain

/-- What happens between two nodes, and what the contract mines. A redraw is mined with the
opening of its channel. -/
inductive MeshEvent where
  | between (pair : Ends) (event : NetworkEvent)
  | mineNewChannel (tx : NewChannelTx) (channelId : Bytes32)
  | mineReDraw (opening : NewChannelTx) (tx : ReDrawTx)

def NetworkEvent.mines : NetworkEvent → Bool
  | .mineNewChannel _ _ => true
  | .mineReDraw _ => true
  | _ => false

namespace Ends

def address (pair : Ends) : Side → Address
  | .a => pair.first
  | .b => pair.second

variable (pair : Ends)

def parties (members : Members) (side : Side) : Crypto := members.crypto (pair.address side)

/-- The opening is one between these two. -/
def names (tx : NewChannelTx) : Prop := tx.address0 = pair.first ∧ tx.address1 = pair.second

instance (tx : NewChannelTx) : Decidable (pair.names tx) := inferInstanceAs (Decidable (_ ∧ _))

def Within (members : Members) : Prop :=
  (∃ address ∈ members.addresses, address = pair.first) ∧
    ∃ address ∈ members.addresses, address = pair.second

instance (members : Members) : Decidable (pair.Within members) :=
  @instDecidableAnd _ _ (List.decidableBEx ..) (List.decidableBEx ..)

/-- Replace what is from one of the two to the other. -/
def spread {α : Type} (old : Address → Address → α) (new : Side → α) (own their : Address) : α :=
  if own = pair.first ∧ their = pair.second then new .a
  else if own = pair.second ∧ their = pair.first then new .b
  else old own their

end Ends

/-- The part of the contract that concerns two nodes. -/
def Chain.concerns (chain : Chain) (pair : Ends) : Deal → Prop
  | .opening tx => pair.names tx
  | .reDraw tx => chain.hasOpened pair.first pair.second tx.channelId

instance (chain : Chain) (pair : Ends) : DecidablePred (chain.concerns pair)
  | .opening tx => inferInstanceAs (Decidable (pair.names tx))
  | .reDraw tx =>
      inferInstanceAs (Decidable (chain.hasOpened pair.first pair.second tx.channelId))

def Chain.share (chain : Chain) (pair : Ends) : Chain where
  opened := chain.opened.filter fun opening => pair.names opening.1
  submitted := chain.submitted.filter fun deal => chain.concerns pair deal
  reDrawn := chain.reDrawn.filter fun tx => chain.hasOpened pair.first pair.second tx.channelId
  locked channelId :=
    if chain.hasOpened pair.first pair.second channelId then chain.locked channelId else 0

def Chain.opens (chain : Chain) (tx : NewChannelTx) (channelId : Bytes32) : Chain :=
  { chain with
    opened := chain.opened ++ [(tx, channelId)]
    submitted := chain.submitted.erase (.opening tx)
    locked := Function.update chain.locked channelId tx.total }

def Chain.reDraws (chain : Chain) (tx : ReDrawTx) : Chain :=
  { chain with
    submitted := chain.submitted.erase (.reDraw tx)
    reDrawn := chain.reDrawn ++ [tx]
    locked := Function.update chain.locked tx.channelId tx.newTotal }

namespace Mesh

def view (mesh : Mesh) (pair : Ends) : Network where
  node side := mesh.storage (pair.address side) (pair.address side.other)
  wire side := mesh.wire (pair.address side) (pair.address side.other)
  orphans side := mesh.orphans (pair.address side) (pair.address side.other)
  chain := mesh.chain

/-- The network of two nodes. -/
def seen (mesh : Mesh) (pair : Ends) : Network :=
  { mesh.view pair with chain := mesh.chain.share pair }

def put (mesh : Mesh) (pair : Ends) (network : Network) : Mesh where
  storage := pair.spread mesh.storage network.node
  wire := pair.spread mesh.wire network.wire
  orphans := pair.spread mesh.orphans network.orphans
  chain := network.chain

section Step

variable (members : Members)

/-- The node with this address signed the transaction, in whichever entry. -/
def signedBy (mesh : Mesh) (own : Address) (tx : SignedTx) : Prop :=
  ∃ their ∈ members.addresses, tx ∈ (mesh.storage own their).signed

instance (mesh : Mesh) (own : Address) (tx : SignedTx) :
    Decidable (mesh.signedBy members own tx) :=
  List.decidableBEx ..

/-- The contract checks the signatures of the two addresses an opening names, and for a
redraw those of the opening of its channel. -/
def step (mesh : Mesh) : MeshEvent → Option Mesh
  | .between pair event =>
      if event.mines = false ∧ pair.Within members then
        ((mesh.view pair).step (pair.parties members) event).map (mesh.put pair)
      else none
  | .mineNewChannel tx channelId =>
      if mesh.signedBy members tx.address0 (.newChannel tx) ∧
          mesh.signedBy members tx.address1 (.newChannel tx) ∧
          ∀ opening ∈ mesh.chain.opened, opening.1 ≠ tx ∧ opening.2 ≠ channelId then
        some { mesh with chain := mesh.chain.opens tx channelId }
      else none
  | .mineReDraw opening tx =>
      if .reDraw tx ∈ mesh.chain.submitted ∧
          (∃ opened ∈ mesh.chain.opened, opened.1 = opening ∧ opened.2 = tx.channelId) ∧
          mesh.signedBy members opening.address0 (.reDraw tx) ∧
          mesh.signedBy members opening.address1 (.reDraw tx) then
        some { mesh with chain := mesh.chain.reDraws tx }
      else none

def machine : Machine Mesh MeshEvent := ⟨step members⟩

end Step

def fresh : Mesh where
  storage _ := .fresh
  wire _ _ := .idle
  orphans _ _ := []
  chain := ⟨[], [], [], fun _ => 0⟩

end Mesh

/-- What an event is to two nodes. -/
def MeshEvent.seenBy (pair : Ends) : MeshEvent → Option NetworkEvent
  | .between other event => if other = pair then some event else none
  | .mineNewChannel tx channelId =>
      if pair.names tx then some (.mineNewChannel tx channelId) else none
  | .mineReDraw opening tx => if pair.names opening then some (.mineReDraw tx) else none

/-! ### Steps and the contract -/

namespace Network

variable {parties : Side → Crypto} {network after : Network} {event : NetworkEvent}

/-- A step other than mining uses the contract for its answers only, and hands something to
it: it goes alike with any other contract that gives these answers. -/
theorem step_frame (stepped : network.step parties event = some after)
    (quiet : event.mines = false) :
    ∃ handed, after.chain =
        { network.chain with submitted := network.chain.submitted ++ handed } ∧
      ∀ chain : Chain,
        (∀ side call answer,
          (network.node side).running.map Running.call = some (.chain call) →
          network.chain.mayAnswer call answer = true → chain.mayAnswer call answer = true) →
        Network.step parties { network with chain } event =
          some { after with chain := { chain with submitted := chain.submitted ++ handed } } := by
  have nothing (chain : Chain) : { chain with submitted := chain.submitted ++ [] } = chain := by
    rw [List.append_nil]
  cases change_of_step stepped with
  | started polled =>
      exact ⟨_, rfl, fun _ _ => step_of_change (.started polled)⟩
  | chainAnswered holds answers polled =>
      exact ⟨_, rfl, fun _ agrees => step_of_change
        (.chainAnswered holds (agrees _ _ _ (by rw [holds]; rfl) answers) polled)⟩
  | replied answered polled =>
      exact ⟨_, rfl, fun _ _ => step_of_change (.replied answered polled)⟩
  | gaveUp waiting polled =>
      exact ⟨_, rfl, fun _ _ => step_of_change (.gaveUp waiting polled)⟩
  | lookedUp holds answers polled =>
      refine ⟨[], (nothing _).symm, fun chain agrees => ?_⟩
      rw [nothing]
      exact step_of_change
        (.lookedUp holds (agrees _ _ _ (by rw [holds]; rfl) answers) polled)
  | delivered sent polled =>
      refine ⟨[], (nothing _).symm, fun chain _ => ?_⟩
      rw [nothing]
      exact step_of_change (.delivered sent polled)
  | orphanDelivered found polled =>
      refine ⟨[], (nothing _).symm, fun chain _ => ?_⟩
      rw [nothing]
      exact step_of_change (.orphanDelivered found polled)
  | opened | reDrawn => cases quiet

end Network

/-! ### Two nodes among all -/

namespace Ends

variable {pair other : Ends} {members : Members} {side : Side}

theorem first_ne : pair.first ≠ pair.second := by
  intro same
  have ordered := pair.ordered
  rw [same] at ordered
  exact BitVec.lt_irrefl _ ordered

theorem address_ne (side : Side) : pair.address side ≠ pair.address side.other := by
  cases side with
  | a => exact first_ne
  | b => exact first_ne.symm

theorem eq_of_ends {second : Side} (own : pair.address side = other.address second)
    (their : pair.address side.other = other.address second.other) : pair = other := by
  have ordered := pair.ordered
  have otherOrdered := other.ordered
  obtain ⟨first, last, _⟩ := pair
  obtain ⟨otherFirst, otherLast, _⟩ := other
  cases side <;> cases second <;> cases own <;> cases their
  · rfl
  · exact absurd otherOrdered (BitVec.lt_asymm ordered)
  · exact absurd otherOrdered (BitVec.lt_asymm ordered)
  · rfl

theorem names_unique {tx : NewChannelTx} (names : pair.names tx) (otherNames : other.names tx) :
    pair = other :=
  @eq_of_ends pair other .a .a (names.1.symm.trans otherNames.1) (names.2.symm.trans otherNames.2)

theorem exists_of_ne {own their : Address} (different : own ≠ their) :
    ∃ (pair : Ends) (side : Side), pair.address side = own ∧ pair.address side.other = their := by
  rcases Nat.lt_or_gt_of_ne (fun same => different (BitVec.eq_of_toNat_eq same)) with less | more
  · exact ⟨⟨own, their, less⟩, .a, rfl, rfl⟩
  · exact ⟨⟨their, own, more⟩, .b, rfl, rfl⟩

section Spread

variable {α : Type} {old : Address → Address → α} {new : Side → α}

@[simp] theorem spread_self :
    pair.spread old new (pair.address side) (pair.address side.other) = new side := by
  cases side with
  | a => exact if_pos ⟨rfl, rfl⟩
  | b => exact (if_neg fun same => first_ne same.2).trans (if_pos ⟨rfl, rfl⟩)

theorem spread_of_ne {own their : Address}
    (apart : ∀ side, ¬ (own = pair.address side ∧ their = pair.address side.other)) :
    pair.spread old new own their = old own their :=
  (if_neg (apart .a)).trans (if_neg (apart .b))

theorem spread_other (different : other ≠ pair) :
    pair.spread old new (other.address side) (other.address side.other) =
      old (other.address side) (other.address side.other) :=
  spread_of_ne fun _ same => different (eq_of_ends same.1 same.2)

end Spread

theorem party0 (members : Members) (side : Side) :
    (if (pair.parties members side).role (pair.parties members side.other).ownAddress then
        (pair.parties members side).ownAddress
      else (pair.parties members side.other).ownAddress) = pair.first := by
  have ordered := pair.ordered
  have reversed : ¬ pair.second < pair.first := BitVec.lt_asymm ordered
  cases side <;>
    simp [parties, Crypto.role, members.owns, address, Side.other, ordered, reversed]

theorem party1 (members : Members) (side : Side) :
    (if (pair.parties members side).role (pair.parties members side.other).ownAddress then
        (pair.parties members side.other).ownAddress
      else (pair.parties members side).ownAddress) = pair.second := by
  have ordered := pair.ordered
  have reversed : ¬ pair.second < pair.first := BitVec.lt_asymm ordered
  cases side <;>
    simp [parties, Crypto.role, members.owns, address, Side.other, ordered, reversed]

end Ends

theorem Network.Named.names {pair : Ends} {members : Members} {network : Network} {side : Side}
    {tx : NewChannelTx} (named : Network.Named (pair.parties members) network)
    (signed : .newChannel tx ∈ (network.node side).signed) : pair.names tx := by
  obtain ⟨address0, address1⟩ := named.opening side tx signed
  exact ⟨address0.trans (Ends.party0 members side), address1.trans (Ends.party1 members side)⟩

namespace Mesh

variable {mesh : Mesh} {pair other : Ends} {network : Network}

@[simp] theorem seen_put : (mesh.put pair network).seen pair =
    { network with chain := network.chain.share pair } := by
  unfold seen view put
  simp

theorem seen_put_other (different : other ≠ pair) : (mesh.put pair network).seen other =
    { mesh.seen other with chain := network.chain.share other } := by
  unfold seen view put
  simp [Ends.spread_other different]

end Mesh

/-! ### The part of the contract that concerns two nodes -/

section Share

variable {chain : Chain} {pair other : Ends}

@[simp] theorem mem_share_opened {opening : NewChannelTx × Bytes32} :
    opening ∈ (chain.share pair).opened ↔ opening ∈ chain.opened ∧ pair.names opening.1 := by
  simp [Chain.share]

@[simp] theorem mem_share_submitted {deal : Deal} :
    deal ∈ (chain.share pair).submitted ↔ deal ∈ chain.submitted ∧ chain.concerns pair deal := by
  simp [Chain.share]

theorem hasOpened_share {channelId : Bytes32} :
    (chain.share pair).hasOpened pair.first pair.second channelId ↔
      chain.hasOpened pair.first pair.second channelId := by
  unfold Chain.hasOpened
  simp only [mem_share_opened, Ends.names]
  constructor
  · rintro ⟨opening, ⟨opened, -⟩, names⟩
    exact ⟨opening, opened, names⟩
  · rintro ⟨opening, opened, first, second, same⟩
    exact ⟨opening, ⟨opened, first, second⟩, first, second, same⟩

theorem share_submit {deals : List Deal} :
    Chain.share { chain with submitted := chain.submitted ++ deals } pair =
      { chain.share pair with
        submitted := (chain.share pair).submitted ++
          deals.filter fun deal => chain.concerns pair deal } := by
  unfold Chain.share
  rw [List.filter_append]
  rfl

/-- A call of an operation between the two. -/
def ChainCall.Concerns (chain : Chain) (pair : Ends) : ChainCall → Prop
  | .depositThenNewChannel _ tx => pair.names tx
  | .depositThenReDraw _ tx => chain.hasOpened pair.first pair.second tx.channelId
  | .reDrawThenWithdraw _ tx => chain.hasOpened pair.first pair.second tx.channelId
  | .checkForOpen address0 address1 => address0 = pair.first ∧ address1 = pair.second
  | _ => True

theorem hasReDrawn_share {tx : ReDrawTx}
    (concerns : chain.hasOpened pair.first pair.second tx.channelId) :
    (chain.share pair).hasReDrawn tx ↔ chain.hasReDrawn tx := by
  have pending : chain.concerns pair (.reDraw tx.unsigned) := concerns
  have named : chain.hasOpened pair.first pair.second tx.unsigned.channelId := concerns
  unfold Chain.hasReDrawn
  rw [mem_share_submitted]
  simp [Chain.share, pending, named]

/-- The contract answers a call as the part of it does that concerns the two. -/
theorem mayAnswer_share {call : ChainCall} {answer : Result Value}
    (concerns : call.Concerns chain pair) :
    (chain.share pair).mayAnswer call answer = chain.mayAnswer call answer := by
  rcases answer with _ | (_ | _ | _ | _ | (_ | _) | _ | _) <;> cases call
  case ok.unit.depositThenReDraw | ok.unit.reDrawThenWithdraw =>
    simp only [Chain.mayAnswer, hasReDrawn_share concerns]
  case ok.channelId.depositThenNewChannel =>
    obtain ⟨first, second⟩ := concerns
    simp only [Chain.mayAnswer, first, second, hasOpened_share]
  case ok.maybeChannelId.some.checkForOpen =>
    obtain ⟨rfl, rfl⟩ := concerns
    simp only [Chain.mayAnswer, hasOpened_share]
  all_goals rfl

end Share

namespace Sample

def members : Members where
  addresses := [1, 2, 3]
  crypto := crypto
  owns _ := rfl

def oneTwo : Ends := ⟨1, 2, by decide⟩

def oneThree : Ends := ⟨1, 3, by decide⟩

/-- Node 1 fills a channel with node 3, which has signed its opening. -/
def filling : List NetworkEvent :=
  [.start .a (.fillChannel 20), .answerChain .a (.ok (.block 1)), .deliver .a, .reply .a]

def filled : List NetworkEvent :=
  [.answerChain .a (.ok (.channelId 8)), .deliver .a,
    .answerChain .b (.ok (.maybeChannelId (some 8))), .reply .a]

/-- Node 1 opens channel 7 with node 2, while it fills one with node 3. -/
def openingTwo : List MeshEvent :=
  filling.map (.between oneThree) ++ (opening.take 4).map (.between oneTwo) ++
    [.mineNewChannel (proposedChannel (crypto 1) 2 true 10 41) 7] ++
    (opening.drop 5).map (.between oneTwo)

/-- And then channel 8 with node 3. -/
def openingThree : List MeshEvent :=
  .mineNewChannel (proposedChannel (crypto 1) 3 true 20 41) 8 :: filled.map (.between oneThree)

end Sample

end Guac
