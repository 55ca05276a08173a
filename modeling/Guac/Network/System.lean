import Guac.Node.Coherent
import Guac.Foundation.Side

/-!
Owns two nodes, the network between them and the chain. A call to the peer is a
wire: the request travels, waits for the `Guard` of the other node's entry, is
served, and the result travels back. A caller that gives up frees its wire; its
request may still arrive. The chain opens a channel and redraws one on
transactions both nodes signed, and answers each call with a success only for
what it has mined.

`Change` says once what a step can do.
-/

set_option autoImplicit false

namespace Guac

open Foundation

/-- A transaction of the contract, without its signatures. -/
inductive Deal where
  | opening (tx : NewChannelTx)
  | reDraw (tx : ReDrawTx)
  deriving DecidableEq

/-- The call a node's operation makes to the other node. -/
inductive Wire where
  | idle
  | sent (request : Request)
  | serving
  | answered (result : Result Value)

/-- The contract: the channels opened so far, the transactions submitted and
not mined, the redraws mined so far, and what each channel locks. -/
structure Chain where
  opened : List (NewChannelTx × Bytes32)
  submitted : List Deal
  reDrawn : List ReDrawTx
  locked : Bytes32 → Nat

/-- Two nodes, the wire of each, the requests each of them has abandoned, and
the chain. -/
structure Network where
  node : Side → Node
  wire : Side → Wire
  orphans : Side → List Request
  chain : Chain

inductive NetworkEvent where
  | start (side : Side) (op : UserOp)
  | answerChain (side : Side) (answer : Result Value)
  | deliver (side : Side)
  | deliverOrphan (side : Side) (index : Nat)
  | reply (side : Side)
  | giveUp (side : Side) (arrives : Bool)
  | mineNewChannel (tx : NewChannelTx) (channelId : Bytes32)
  | mineReDraw (tx : ReDrawTx)

/-- What a poll hands to the contract. -/
def Next.submission : Next → List Deal
  | .suspended (.chain (.depositThenNewChannel _ tx)) _ => [.opening tx.unsigned]
  | .suspended (.chain (.depositThenReDraw _ tx)) _ => [.reDraw tx.unsigned]
  | .suspended (.chain (.reDrawThenWithdraw _ tx)) _ => [.reDraw tx.unsigned]
  | _ => []

/-- The wire of a node after a poll of its own operation. -/
def Next.wire : Next → Wire
  | .suspended (.peer request) _ => .sent request
  | _ => .idle

/-- A result as the caller sees it: an error has become an HTTP status. -/
def overHttp : Result Value → Result Value
  | .ok value => .ok value
  | .error _ => .error (.failure "HTTP error")

/-- The wire of the caller after a poll of the handler that serves it. -/
def Next.outcome : Next → Wire
  | .resolved result => .answered (overHttp result)
  | .suspended _ _ => .serving

/-- The request on a wire that no handler has taken up. -/
def Wire.request : Wire → Option Request
  | .sent request => some request
  | _ => none

/-- The wire of the caller after a later poll of a handler: the result goes to
the caller only if it still waits. -/
def Wire.served (wire : Wire) (next : Next) : Wire :=
  match wire with
  | .serving => next.outcome
  | _ => wire

/-- The contract opened a channel between these addresses under this id. -/
def Chain.hasOpened (chain : Chain) (address0 address1 : Address) (channelId : Bytes32) : Prop :=
  ∃ opening ∈ chain.opened, opening.1.address0 = address0 ∧ opening.1.address1 = address1 ∧
    opening.2 = channelId

instance (chain : Chain) (address0 address1 : Address) (channelId : Bytes32) :
    Decidable (chain.hasOpened address0 address1 channelId) :=
  inferInstanceAs (Decidable (∃ opening ∈ chain.opened, _))

/-- The redraw is mined, and is not waiting to be mined again. -/
def Chain.hasReDrawn (chain : Chain) (tx : ReDrawTx) : Prop :=
  tx.unsigned ∈ chain.reDrawn ∧ .reDraw tx.unsigned ∉ chain.submitted

instance (chain : Chain) (tx : ReDrawTx) : Decidable (chain.hasReDrawn tx) :=
  inferInstanceAs (Decidable (_ ∧ _))

/-- The answers of the chain: any error at any time, and a success only for
what is mined. An opening may be overlooked; a redraw is confirmed without a
look at the events. -/
def Chain.mayAnswer (chain : Chain) : ChainCall → Result Value → Bool
  | _, .error _ => true
  | .getCurrentBlock, .ok (.block _) => true
  | .depositThenNewChannel _ tx, .ok (.channelId channelId) =>
      decide (chain.hasOpened tx.address0 tx.address1 channelId)
  | .depositThenReDraw _ tx, .ok .unit => decide (chain.hasReDrawn tx)
  | .reDrawThenWithdraw _ tx, .ok .unit => decide (chain.hasReDrawn tx)
  | .checkForOpen _ _, .ok (.maybeChannelId none) => true
  | .checkForOpen address0 address1, .ok (.maybeChannelId (some channelId)) =>
      decide (chain.hasOpened address0 address1 channelId)
  | .checkForReDraw _, .ok .unit => true
  | _, _ => false

theorem Chain.hasOpened_of_lookup {chain : Chain} {address0 address1 : Address}
    {channelId : Bytes32}
    (answers : chain.mayAnswer (.checkForOpen address0 address1)
      (.ok (.maybeChannelId (some channelId))) = true) :
    chain.hasOpened address0 address1 channelId := by
  simpa [mayAnswer] using answers

theorem Chain.hasOpened_of_deposit {chain : Chain} {amount : Uint256} {tx : NewChannelTx}
    {channelId : Bytes32}
    (answers : chain.mayAnswer (.depositThenNewChannel amount tx) (.ok (.channelId channelId)) =
      true) : chain.hasOpened tx.address0 tx.address1 channelId := by
  simpa [mayAnswer] using answers

theorem Chain.unused_iff {chain : Chain} {tx : NewChannelTx} {channelId : Bytes32} :
    (∀ opening ∈ chain.opened, opening.1 ≠ tx ∧ opening.2 ≠ channelId) ↔
      tx ∉ chain.opened.map Prod.fst ∧ channelId ∉ chain.opened.map Prod.snd := by
  simp only [List.mem_map, not_exists, not_and, ← forall_and, ne_eq]

namespace Network

def own (network : Network) (side : Side) (operation : Operation) (poll : Poll) : Network :=
  { network with
    node := Function.update network.node side ((network.node side).after operation poll)
    wire := Function.update network.wire side poll.next.wire
    chain := { network.chain with
      submitted := network.chain.submitted ++ poll.next.submission } }

/-- A poll of a handler of the node, which leaves the caller's wire as given. -/
def serve (network : Network) (side : Side) (operation : Operation) (poll : Poll)
    (wire : Wire) : Network :=
  { network with
    node := Function.update network.node side ((network.node side).after operation poll)
    wire := Function.update network.wire side.other wire }

def bothSigned (network : Network) (tx : SignedTx) : Prop :=
  tx ∈ (network.node .a).signed ∧ tx ∈ (network.node .b).signed

instance (network : Network) (tx : SignedTx) : Decidable (network.bothSigned tx) :=
  inferInstanceAs (Decidable (_ ∧ _))

theorem bothSigned_iff {network : Network} {tx : SignedTx} :
    network.bothSigned tx ↔ ∀ side, tx ∈ (network.node side).signed :=
  (@Side.forall_iff (fun side => tx ∈ (network.node side).signed) .a).symm

def mineNewChannel (network : Network) (tx : NewChannelTx) (channelId : Bytes32) : Network :=
  { network with
    chain := { network.chain with
      opened := network.chain.opened ++ [(tx, channelId)]
      submitted := network.chain.submitted.erase (.opening tx)
      locked := Function.update network.chain.locked channelId tx.total } }

def mineReDraw (network : Network) (tx : ReDrawTx) : Network :=
  { network with
    chain := { network.chain with
      submitted := network.chain.submitted.erase (.reDraw tx)
      reDrawn := network.chain.reDrawn ++ [tx]
      locked := Function.update network.chain.locked tx.channelId tx.newTotal } }

section Step

variable (parties : Side → Crypto)

def poll (network : Network) (side : Side) (input : Input) : Option (Operation × Poll) :=
  (network.node side).poll (parties side) (parties side.other).ownAddress input

def step (network : Network) : NetworkEvent → Option Network
  | .start side op =>
      (network.poll parties side (.start op)).map fun polled =>
        network.own side polled.1 polled.2
  | .answerChain side answer =>
      match (network.node side).running with
      | some ⟨.user _, .chain call, _⟩ =>
          if network.chain.mayAnswer call answer then
            (network.poll parties side (.resume answer)).map fun polled =>
              network.own side polled.1 polled.2
          else none
      | some ⟨.handler _, .chain call, _⟩ =>
          if network.chain.mayAnswer call answer then
            (network.poll parties side (.resume answer)).map fun polled =>
              network.serve side polled.1 polled.2
                ((network.wire side.other).served polled.2.next)
          else none
      | _ => none
  | .deliver side =>
      match network.wire side with
      | .sent request =>
          (network.poll parties side.other (.request request)).map fun polled =>
            network.serve side.other polled.1 polled.2 polled.2.next.outcome
      | _ => none
  | .deliverOrphan side index =>
      match (network.orphans side)[index]? with
      | none => none
      | some request =>
          (network.poll parties side.other (.request request)).map fun polled =>
            { network.serve side.other polled.1 polled.2 (network.wire side) with
              orphans :=
                Function.update network.orphans side ((network.orphans side).eraseIdx index) }
  | .reply side =>
      match network.wire side with
      | .answered result =>
          (network.poll parties side (.resume result)).map fun polled =>
            network.own side polled.1 polled.2
      | _ => none
  | .giveUp side arrives =>
      match network.wire side with
      | .idle => none
      | wire =>
          (network.poll parties side (.resume (.error (.failure "timeout")))).map fun polled =>
            { network.own side polled.1 polled.2 with
              orphans := Function.update network.orphans side
                (network.orphans side ++ if arrives then wire.request.toList else []) }
  | .mineNewChannel tx channelId =>
      if network.bothSigned (.newChannel tx) ∧ tx ∉ network.chain.opened.map Prod.fst ∧
          channelId ∉ network.chain.opened.map Prod.snd then
        some (network.mineNewChannel tx channelId)
      else none
  | .mineReDraw tx =>
      if .reDraw tx ∈ network.chain.submitted ∧ network.bothSigned (.reDraw tx) then
        some (network.mineReDraw tx)
      else none

def machine : Machine Network NetworkEvent := ⟨step parties⟩

end Step

/-- What an event hands to an operation of this node. -/
def inputTo (network : Network) (side : Side) : NetworkEvent → Option Input
  | .start acting op => if acting = side then some (.start op) else none
  | .answerChain acting answer => if acting = side then some (.resume answer) else none
  | .reply acting =>
      match network.wire acting with
      | .answered result => if acting = side then some (.resume result) else none
      | _ => none
  | .giveUp acting _ =>
      if acting = side then some (.resume (.error (.failure "timeout"))) else none
  | _ => none

def fresh : Network where
  node _ := .fresh
  wire _ := .idle
  orphans _ := []
  chain := ⟨[], [], [], fun _ => 0⟩

/-- Everything a step can do. -/
inductive Change (parties : Side → Crypto) (network : Network) : NetworkEvent → Network → Prop
  | started {side : Side} {op : UserOp} {operation : Operation} {poll : Poll}
      (polled : network.poll parties side (.start op) = some (operation, poll)) :
      Change parties network (.start side op) (network.own side operation poll)
  | chainAnswered {side : Side} {answer : Result Value} {op : UserOp} {call : ChainCall}
      {closure : Closure} {operation : Operation} {poll : Poll}
      (holds : (network.node side).running = some ⟨.user op, .chain call, closure⟩)
      (answers : network.chain.mayAnswer call answer = true)
      (polled : network.poll parties side (.resume answer) = some (operation, poll)) :
      Change parties network (.answerChain side answer) (network.own side operation poll)
  | lookedUp {side : Side} {answer : Result Value} {request : Request} {call : ChainCall}
      {closure : Closure} {operation : Operation} {poll : Poll}
      (holds : (network.node side).running = some ⟨.handler request, .chain call, closure⟩)
      (answers : network.chain.mayAnswer call answer = true)
      (polled : network.poll parties side (.resume answer) = some (operation, poll)) :
      Change parties network (.answerChain side answer)
        (network.serve side operation poll ((network.wire side.other).served poll.next))
  | delivered {side : Side} {request : Request} {operation : Operation} {poll : Poll}
      (sent : network.wire side = .sent request)
      (polled : network.poll parties side.other (.request request) = some (operation, poll)) :
      Change parties network (.deliver side)
        (network.serve side.other operation poll poll.next.outcome)
  | orphanDelivered {side : Side} {index : Nat} {request : Request} {operation : Operation}
      {poll : Poll} (found : (network.orphans side)[index]? = some request)
      (polled : network.poll parties side.other (.request request) = some (operation, poll)) :
      Change parties network (.deliverOrphan side index)
        { network.serve side.other operation poll (network.wire side) with
          orphans := Function.update network.orphans side
            ((network.orphans side).eraseIdx index) }
  | replied {side : Side} {result : Result Value} {operation : Operation} {poll : Poll}
      (answered : network.wire side = .answered result)
      (polled : network.poll parties side (.resume result) = some (operation, poll)) :
      Change parties network (.reply side) (network.own side operation poll)
  | gaveUp {side : Side} {arrives : Bool} {operation : Operation} {poll : Poll}
      (waiting : network.wire side ≠ .idle)
      (polled : network.poll parties side (.resume (.error (.failure "timeout"))) =
        some (operation, poll)) :
      Change parties network (.giveUp side arrives)
        { network.own side operation poll with
          orphans := Function.update network.orphans side (network.orphans side ++
            if arrives then (network.wire side).request.toList else []) }
  | opened {tx : NewChannelTx} {channelId : Bytes32}
      (signed : network.bothSigned (.newChannel tx))
      (once : tx ∉ network.chain.opened.map Prod.fst)
      (unused : channelId ∉ network.chain.opened.map Prod.snd) :
      Change parties network (.mineNewChannel tx channelId) (network.mineNewChannel tx channelId)
  | reDrawn {tx : ReDrawTx} (submitted : .reDraw tx ∈ network.chain.submitted)
      (signed : network.bothSigned (.reDraw tx)) :
      Change parties network (.mineReDraw tx) (network.mineReDraw tx)

/-- The inversion rule of the network. -/
theorem change_of_step {parties : Side → Crypto} {network after : Network}
    {event : NetworkEvent} (stepped : network.step parties event = some after) :
    Change parties network event after := by
  cases event with
  | start side op =>
      obtain ⟨⟨operation, poll⟩, polled, rfl⟩ := Option.map_eq_some_iff.mp stepped
      exact .started polled
  | answerChain side answer =>
      simp only [step] at stepped
      split at stepped
      next holds =>
        split at stepped
        next answers =>
          obtain ⟨⟨operation, poll⟩, polled, rfl⟩ := Option.map_eq_some_iff.mp stepped
          exact .chainAnswered holds answers polled
        next => cases stepped
      next holds =>
        split at stepped
        next answers =>
          obtain ⟨⟨operation, poll⟩, polled, rfl⟩ := Option.map_eq_some_iff.mp stepped
          exact .lookedUp holds answers polled
        next => cases stepped
      next => cases stepped
  | deliver side =>
      simp only [step] at stepped
      split at stepped
      next sent =>
        obtain ⟨⟨operation, poll⟩, polled, rfl⟩ := Option.map_eq_some_iff.mp stepped
        exact .delivered sent polled
      next => cases stepped
  | deliverOrphan side index =>
      simp only [step] at stepped
      split at stepped
      next => cases stepped
      next found =>
        obtain ⟨⟨operation, poll⟩, polled, rfl⟩ := Option.map_eq_some_iff.mp stepped
        exact .orphanDelivered found polled
  | reply side =>
      simp only [step] at stepped
      split at stepped
      next answered =>
        obtain ⟨⟨operation, poll⟩, polled, rfl⟩ := Option.map_eq_some_iff.mp stepped
        exact .replied answered polled
      next => cases stepped
  | giveUp side arrives =>
      simp only [step] at stepped
      split at stepped
      next => cases stepped
      next waiting =>
        obtain ⟨⟨operation, poll⟩, polled, rfl⟩ := Option.map_eq_some_iff.mp stepped
        exact .gaveUp waiting polled
  | mineNewChannel tx channelId =>
      simp only [step] at stepped
      split at stepped
      next allowed =>
        obtain rfl := Option.some.inj stepped
        exact .opened allowed.1 allowed.2.1 allowed.2.2
      next => cases stepped
  | mineReDraw tx =>
      simp only [step] at stepped
      split at stepped
      next allowed =>
        obtain rfl := Option.some.inj stepped
        exact .reDrawn allowed.1 allowed.2
      next => cases stepped

theorem step_of_change {parties : Side → Crypto} {network after : Network}
    {event : NetworkEvent} (change : Change parties network event after) :
    network.step parties event = some after := by
  cases change with
  | started polled => exact Option.map_eq_some_iff.mpr ⟨_, polled, rfl⟩
  | chainAnswered holds answers polled | lookedUp holds answers polled =>
      simp only [step, holds, answers, if_true]
      exact Option.map_eq_some_iff.mpr ⟨_, polled, rfl⟩
  | delivered sent polled =>
      simp only [step, sent]
      exact Option.map_eq_some_iff.mpr ⟨_, polled, rfl⟩
  | orphanDelivered found polled =>
      simp only [step, found]
      exact Option.map_eq_some_iff.mpr ⟨_, polled, rfl⟩
  | replied answered polled =>
      simp only [step, answered]
      exact Option.map_eq_some_iff.mpr ⟨_, polled, rfl⟩
  | @gaveUp side _ _ _ waiting polled =>
      cases shape : network.wire side with
      | idle => exact absurd shape waiting
      | sent | serving | answered =>
          simp only [step, shape]
          exact Option.map_eq_some_iff.mpr ⟨_, polled, rfl⟩
  | opened signed once unused => exact if_pos ⟨signed, once, unused⟩
  | reDrawn submitted signed => exact if_pos ⟨submitted, signed⟩

section Fields

variable {network : Network} {side : Side} {operation : Operation} {poll : Poll} {wire : Wire}

@[simp] theorem own_node :
    (network.own side operation poll).node side = (network.node side).after operation poll :=
  Function.update_self ..

@[simp] theorem own_node_other :
    (network.own side operation poll).node side.other = network.node side.other :=
  Function.update_of_ne side.other_ne ..

@[simp] theorem own_wire : (network.own side operation poll).wire side = poll.next.wire :=
  Function.update_self ..

@[simp] theorem own_wire_other :
    (network.own side operation poll).wire side.other = network.wire side.other :=
  Function.update_of_ne side.other_ne ..

@[simp] theorem serve_node :
    (network.serve side operation poll wire).node side =
      (network.node side).after operation poll := Function.update_self ..

@[simp] theorem serve_node_other :
    (network.serve side operation poll wire).node side.other = network.node side.other :=
  Function.update_of_ne side.other_ne ..

@[simp] theorem serve_wire : (network.serve side operation poll wire).wire side =
    network.wire side := Function.update_of_ne side.ne_other ..

@[simp] theorem serve_wire_other :
    (network.serve side operation poll wire).wire side.other = wire := Function.update_self ..

end Fields

end Network

namespace Sample

def parties : Side → Crypto
  | .a => crypto 1
  | .b => crypto 2

/-- Node 1 opens channel 7 with node 2, with 10 of its own. -/
def opening : List NetworkEvent :=
  [.start .a (.fillChannel 10), .answerChain .a (.ok (.block 1)), .deliver .a, .reply .a,
    .mineNewChannel (proposedChannel (crypto 1) 2 true 10 41) 7,
    .answerChain .a (.ok (.channelId 7)), .deliver .a,
    .answerChain .b (.ok (.maybeChannelId (some 7))), .reply .a]

/-- Node 1 adds 5 to the channel it opened; the last acknowledgement is not yet
taken. -/
def adding : List NetworkEvent :=
  [.start .a (.fillChannel 5), .answerChain .a (.ok (.block 2)), .deliver .a, .reply .a,
    .mineReDraw ⟨7, 1, 10, 0, 15, 0, 42, none, none⟩, .answerChain .a (.ok .unit), .deliver .a,
    .answerChain .b (.ok .unit)]

end Sample

end Guac
