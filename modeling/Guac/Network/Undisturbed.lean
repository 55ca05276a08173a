import Guac.Network.Agreement
import Guac.Node.Signing

/-!
Owns one operation that runs alone over a network that loses nothing: how far it
has come, and what the next event can be. Only one of the two nodes, the network
or the chain can go on at a time, so every event but a look of the chain at its
pending transactions takes the operation a poll further.

It does not own where the polls lead.
-/

set_option autoImplicit false

namespace Guac

open Foundation

namespace NetworkEvent

/-- Nothing is lost, and the chain does not fail: it answers with no error, finds
the channel it opened, and its blocks leave room for an expiration. -/
def faultless : NetworkEvent → Bool
  | .answerChain _ (.error _) => false
  | .answerChain _ (.ok (.block number)) => decide (number.toNat + 40 < Uint256.size)
  | .answerChain _ (.ok (.maybeChannelId none)) => false
  | event => Network.lossless event

def starts : NetworkEvent → Bool
  | .start _ _ => true
  | _ => false

/-- No fault, and no operation besides the ones that run. -/
def undisturbed (event : NetworkEvent) : Bool := event.faultless && !event.starts

theorem lossless_of_faultless {event : NetworkEvent} (faultless : event.faultless = true) :
    Network.lossless event = true := by
  cases event with
  | answerChain => rfl
  | start | deliver | deliverOrphan | reply | giveUp | mineNewChannel | mineReDraw =>
      exact faultless

end NetworkEvent

/-- Two nodes of one contract: both call the same crates, which recover the signer
of a signature from it. -/
structure Compatible (parties : Side → Crypto) : Prop where
  primitives : ∀ side, (parties side.other).primitives = (parties side).primitives
  contractAddress : ∀ side, (parties side.other).contractAddress = (parties side).contractAddress
  recovers : ∀ side data, ((parties side).ethSign data).recover (parties side) data =
    .ok (parties side).ownAddress

theorem Sample.compatible : Compatible Sample.parties where
  primitives side := by cases side <;> rfl
  contractAddress side := by cases side <;> rfl
  recovers side data := by
    cases side <;> exact if_pos rfl

section Compatible

variable {parties : Side → Crypto}

theorem Compatible.fingerprint_newChannel (compatible : Compatible parties) (side : Side)
    (tx : NewChannelTx) :
    tx.fingerprint (parties side.other) = tx.fingerprint (parties side) := by
  rw [NewChannelTx.fingerprint, NewChannelTx.fingerprint, compatible.primitives,
    compatible.contractAddress]

theorem Compatible.fingerprint_reDraw (compatible : Compatible parties) (side : Side)
    (tx : ReDrawTx) : tx.fingerprint (parties side.other) = tx.fingerprint (parties side) := by
  rw [ReDrawTx.fingerprint, ReDrawTx.fingerprint, compatible.primitives,
    compatible.contractAddress]

theorem Compatible.fingerprint_update (compatible : Compatible parties) (side : Side)
    (tx : UpdateTx) : tx.fingerprint (parties side.other) = tx.fingerprint (parties side) := by
  rw [UpdateTx.fingerprint, UpdateTx.fingerprint, compatible.primitives,
    compatible.contractAddress]

/-- A node recovers the other one from what it signed. -/
theorem Compatible.recovers_other (compatible : Compatible parties) (side : Side)
    (data : Bytes32) :
    ((parties side.other).ethSign data).recover (parties side) data =
      .ok (parties side.other).ownAddress := by
  rw [← compatible.recovers side.other, Signature.recover, Signature.recover,
    compatible.primitives]

end Compatible

/-- How far the operation of a node has come: it asks the chain, its request is on
the way, is being served, or is answered. -/
inductive Activity where
  | atRest
  | asking (call : ChainCall) (closure : Closure)
  | sent (request : Request) (closure : Closure)
  | serving (request : Request) (closure : Closure) (call : ChainCall) (theirs : Closure)
  | answered (request : Request) (closure : Closure) (result : Result Value)

namespace Activity

/-- What holds the `Guard` of the node whose operation it is. -/
def running (op : UserOp) : Activity → Option Running
  | atRest => none
  | asking call closure => some ⟨.user op, .chain call, closure⟩
  | sent request closure => some ⟨.user op, .peer request, closure⟩
  | serving request closure _ _ => some ⟨.user op, .peer request, closure⟩
  | answered request closure _ => some ⟨.user op, .peer request, closure⟩

/-- What holds the `Guard` of the other node. -/
def serves : Activity → Option Running
  | serving request _ call theirs => some ⟨.handler request, .chain call, theirs⟩
  | _ => none

def wire : Activity → Wire
  | sent request _ => .sent request
  | serving _ _ _ _ => .serving
  | answered _ _ result => .answered result
  | _ => .idle

end Activity

/-- What a poll of the operation makes of it. -/
def Next.activity : Next → Activity
  | .resolved _ => .atRest
  | .suspended (.chain call) closure => .asking call closure
  | .suspended (.peer request) closure => .sent request closure

def Next.result : Next → Option (Result Value)
  | .resolved result => some result
  | .suspended _ _ => none

namespace Network

section Definitions

variable (parties : Side → Crypto)

/-- The result a user operation of this node returns at an event. -/
def returns (side : Side) (network : Network) (event : NetworkEvent) : Option (Result Value) :=
  match network.inputTo side event with
  | none => none
  | some input =>
      match (network.node side).returned (parties side) (parties side.other).ownAddress input with
      | some (.user _, result) => some result
      | _ => none

/-- The operation of this node has come this far, and nothing else is going on. -/
structure Shows (network : Network) (side : Side) (op : UserOp)
    (mine theirs : Option Counterparty) (activity : Activity) : Prop where
  mine : (network.node side).entry = mine
  theirs : (network.node side.other).entry = theirs
  running : (network.node side).running = activity.running op
  serves : (network.node side.other).running = activity.serves
  wire : network.wire side = activity.wire
  otherWire : network.wire side.other = .idle

/-- The chain carries a transaction out. -/
inductive Mines (network : Network) : NetworkEvent → Network → Prop
  | opened {tx : NewChannelTx} {channelId : Bytes32}
      (signed : network.bothSigned (.newChannel tx))
      (once : tx ∉ network.chain.opened.map Prod.fst) :
      Mines network (.mineNewChannel tx channelId) (network.mineNewChannel tx channelId)
  | reDrawn {tx : ReDrawTx} (submitted : .reDraw tx ∈ network.chain.submitted) :
      Mines network (.mineReDraw tx) (network.mineReDraw tx)

/-- The one event that takes the operation on, and the network after it. -/
inductive Takes (network : Network) (side : Side) (op : UserOp)
    (mine theirs : Option Counterparty) : Activity → NetworkEvent → Network → Prop
  | confirmed {call : ChainCall} {closure : Closure} {answer : Result Value} {poll : Poll}
      (answers : network.chain.mayAnswer call answer = true)
      (resumed : closure.resume (parties side) (parties side.other).ownAddress mine answer =
        some poll)
      (returns : network.returns parties side (.answerChain side answer) = poll.next.result) :
      Takes network side op mine theirs (.asking call closure) (.answerChain side answer)
        (network.own side (.user op) poll)
  | delivered {request : Request} {closure : Closure} {poll : Poll}
      (started : request.start (parties side.other) (parties side).ownAddress theirs = poll) :
      Takes network side op mine theirs (.sent request closure) (.deliver side)
        (network.serve side.other (.handler request) poll poll.next.outcome)
  | lookedUp {request : Request} {closure theirClosure : Closure} {call : ChainCall}
      {answer : Result Value} {poll : Poll}
      (answers : network.chain.mayAnswer call answer = true)
      (resumed : theirClosure.resume (parties side.other) (parties side).ownAddress theirs answer =
        some poll) :
      Takes network side op mine theirs (.serving request closure call theirClosure)
        (.answerChain side.other answer)
        (network.serve side.other (.handler request) poll poll.next.outcome)
  | replied {request : Request} {closure : Closure} {result : Result Value} {poll : Poll}
      (resumed : closure.resume (parties side) (parties side.other).ownAddress mine result =
        some poll)
      (returns : network.returns parties side (.reply side) = poll.next.result) :
      Takes network side op mine theirs (.answered request closure result) (.reply side)
        (network.own side (.user op) poll)

end Definitions

variable {parties : Side → Crypto} {network after : Network} {side : Side} {op : UserOp}
  {mine theirs : Option Counterparty} {activity : Activity}

theorem returns_other {event : NetworkEvent} (nothing : network.inputTo side event = none) :
    network.returns parties side event = none := by
  rw [returns, nothing]

theorem returns_user {event : NetworkEvent} {input : Input} {poll : Poll}
    (handed : network.inputTo side event = some input)
    (polled : network.poll parties side input = some (.user op, poll)) :
    network.returns parties side event = poll.next.result := by
  obtain ⟨entry, signed, next⟩ := poll
  rw [Network.poll] at polled
  simp only [returns, handed, Node.returned, polled]
  cases next <;> rfl

/-- The inversion rule of an operation that runs alone. -/
theorem Shows.advance (shows : network.Shows side op mine theirs activity) {event : NetworkEvent}
    (undisturbed : event.undisturbed = true)
    (stepped : network.step parties event = some after) :
    Mines network event after ∨ Takes parties network side op mine theirs activity event after := by
  have running := shows.running
  have serves := shows.serves
  have wire := shows.wire
  have otherWire := shows.otherWire
  cases change_of_step stepped with
  | started | orphanDelivered | gaveUp => cases undisturbed
  | opened signed once => exact .inl (.opened signed once)
  | reDrawn submitted => exact .inl (.reDrawn submitted)
  | @chainAnswered acting answer _ call closure _ poll holds answers polled =>
      rcases side.eq_or_eq_other acting with rfl | rfl
      · rw [holds] at running
        cases activity with
        | asking =>
            cases running
            obtain rfl := operation_of_held polled holds
            obtain ⟨_, same, -, resumed⟩ := poll_resume polled
            cases holds.symm.trans same
            rw [shows.mine] at resumed
            exact .inr (.confirmed answers resumed (returns_user (if_pos rfl) polled))
        | atRest | sent | serving | answered => cases running
      · rw [holds] at serves
        cases activity <;> cases serves
  | @lookedUp acting answer request call closure _ poll holds answers polled =>
      rcases side.eq_or_eq_other acting with rfl | rfl
      · rw [holds] at running
        cases activity <;> cases running
      · rw [holds] at serves
        cases activity with
        | serving =>
            cases serves
            obtain rfl := operation_of_held polled holds
            obtain ⟨_, same, -, resumed⟩ := poll_resume polled
            cases holds.symm.trans same
            rw [shows.theirs, Side.other_other] at resumed
            rw [Side.other_other, wire]
            exact .inr (.lookedUp answers resumed)
        | atRest | asking | sent | answered => cases serves
  | @delivered acting request _ poll sent polled =>
      rcases side.eq_or_eq_other acting with rfl | rfl
      · rw [sent] at wire
        obtain ⟨-, rfl, started⟩ := poll_request polled
        cases activity with
        | sent =>
            cases wire
            rw [shows.theirs, Side.other_other] at started
            exact .inr (.delivered started.symm)
        | atRest | asking | serving | answered => cases wire
      · cases sent.symm.trans otherWire
  | @replied acting result _ poll answered polled =>
      rcases side.eq_or_eq_other acting with rfl | rfl
      · rw [answered] at wire
        obtain ⟨held, same, rfl, resumed⟩ := poll_resume polled
        rw [same] at running
        cases activity with
        | answered =>
            cases wire
            cases running
            rw [shows.mine] at resumed
            refine .inr (.replied resumed (returns_user ?_ polled))
            simp [inputTo, answered]
        | atRest | asking | sent | serving => cases wire
      · cases answered.symm.trans otherWire

theorem Solvent.unopenable (solvent : Solvent parties network) {channel : Channel}
    {tx : NewChannelTx} (stored : (network.node side).channel = some channel)
    (signed : network.bothSigned (.newChannel tx))
    (once : tx ∉ network.chain.opened.map Prod.fst) : False := by
  obtain ⟨_, opened⟩ := solvent.chained.channels side channel stored
  rw [solvent.chained.unopened solvent.sound signed.1 once] at opened
  cases opened

/-- Without a transaction to carry out, the chain stands still. -/
theorem Solvent.takes (solvent : Solvent parties network)
    (shows : network.Shows side op mine theirs activity) {channel : Channel}
    (stored : (network.node side).channel = some channel) (idle : network.chain.submitted = [])
    {event : NetworkEvent} (undisturbed : event.undisturbed = true)
    (stepped : network.step parties event = some after) :
    Takes parties network side op mine theirs activity event after := by
  refine (shows.advance undisturbed stepped).resolve_left fun mines => ?_
  cases mines with
  | opened signed once => exact solvent.unopenable stored signed once
  | reDrawn submitted =>
      rw [idle] at submitted
      cases submitted

theorem Solvent.idle_of_open (solvent : Solvent parties network) {channel : Channel}
    (opened : (network.node side).entry = some (.opened channel)) :
    network.chain.submitted = [] := by
  exact @Handover.Sound.idle_of_stable _ _ _ _ solvent.handed side channel.total
    (Node.phase_of_opened opened)

/-- While the node is open, its operation alone goes on. -/
theorem Solvent.takes_open (solvent : Solvent parties network) {channel : Channel}
    (shows : network.Shows side op (some (.opened channel)) theirs activity)
    {event : NetworkEvent} (undisturbed : event.undisturbed = true)
    (stepped : network.step parties event = some after) :
    Takes parties network side op (some (.opened channel)) theirs activity event after :=
  solvent.takes shows (Node.channel_of_opened shows.mine) (solvent.idle_of_open shows.mine)
    undisturbed stepped

/-! ### The event that takes the operation on -/

section Steps

variable {poll : Poll} {request : Request} {closure theirClosure : Closure} {call : ChainCall}
  {answer : Result Value}

theorem Shows.own (shows : network.Shows side op mine theirs activity)
    (alone : activity.serves = none) :
    (network.own side (.user op) poll).Shows side op poll.entry theirs poll.next.activity := by
  obtain ⟨entry, signed, next⟩ := poll
  refine ⟨by rw [own_node]; rfl, by rw [own_node_other]; exact shows.theirs, ?_, ?_, ?_,
    by rw [own_wire_other]; exact shows.otherWire⟩
  · rw [own_node]
    rcases next with _ | ⟨_ | _, _⟩ <;> rfl
  · rw [own_node_other, shows.serves, alone]
    rcases next with _ | ⟨_ | _, _⟩ <;> rfl
  · rw [own_wire]
    rcases next with _ | ⟨_ | _, _⟩ <;> rfl

theorem Shows.start (parties : Side → Crypto)
    (shows : network.Shows side op mine theirs .atRest)
    (started : op.start (parties side) (parties side.other).ownAddress mine = poll) :
    network.step parties (.start side op) = some (network.own side (.user op) poll) ∧
      network.returns parties side (.start side op) = poll.next.result ∧
      (network.own side (.user op) poll).Shows side op poll.entry theirs poll.next.activity := by
  have polled : network.poll parties side (.start op) = some (.user op, poll) := by
    simp [Network.poll, Node.poll, shows.running, shows.mine, Activity.running, started]
  refine ⟨?_, returns_user (if_pos rfl) polled, shows.own rfl⟩
  rw [Network.step, polled]
  rfl

theorem Shows.confirm (parties : Side → Crypto) (answer : Result Value)
    (shows : network.Shows side op mine theirs (.asking call closure))
    (answers : network.chain.mayAnswer call answer = true)
    (resumed : closure.resume (parties side) (parties side.other).ownAddress mine answer =
      some poll) :
    network.step parties (.answerChain side answer) = some (network.own side (.user op) poll) ∧
      network.returns parties side (.answerChain side answer) = poll.next.result ∧
      (network.own side (.user op) poll).Shows side op poll.entry theirs poll.next.activity := by
  have polled : network.poll parties side (.resume answer) = some (.user op, poll) := by
    simp [Network.poll, Node.poll, shows.running, shows.mine, Activity.running, resumed]
  refine ⟨?_, returns_user (if_pos rfl) polled, shows.own rfl⟩
  simp [Network.step, polled, shows.running, Activity.running, answers]

theorem Shows.deliver (parties : Side → Crypto)
    (shows : network.Shows side op mine theirs (.sent request closure))
    (started : request.start (parties side.other) (parties side).ownAddress theirs = poll) :
    network.step parties (.deliver side) =
      some (network.serve side.other (.handler request) poll poll.next.outcome) := by
  simp [Network.step, Network.poll, Node.poll, shows.wire, shows.serves, shows.theirs,
    Activity.wire, Activity.serves, started]

theorem Shows.lookUp (parties : Side → Crypto) (answer : Result Value)
    (shows : network.Shows side op mine theirs (.serving request closure call theirClosure))
    (answers : network.chain.mayAnswer call answer = true)
    (resumed : theirClosure.resume (parties side.other) (parties side).ownAddress theirs answer =
      some poll) :
    network.step parties (.answerChain side.other answer) =
      some (network.serve side.other (.handler request) poll poll.next.outcome) := by
  simp [Network.step, Network.poll, Node.poll, shows.serves, shows.theirs, shows.wire,
    Activity.serves, Activity.wire, Wire.served, answers, resumed]

theorem Shows.reply (parties : Side → Crypto)
    (shows : network.Shows side op mine theirs (.answered request closure answer))
    (resumed : closure.resume (parties side) (parties side.other).ownAddress mine answer =
      some poll) :
    network.step parties (.reply side) = some (network.own side (.user op) poll) ∧
      network.returns parties side (.reply side) = poll.next.result ∧
      (network.own side (.user op) poll).Shows side op poll.entry theirs poll.next.activity := by
  have polled : network.poll parties side (.resume answer) = some (.user op, poll) := by
    simp [Network.poll, Node.poll, shows.running, shows.mine, Activity.running, resumed]
  refine ⟨?_, returns_user ?_ polled, shows.own rfl⟩
  · simp [Network.step, polled, shows.wire, Activity.wire]
  · simp [inputTo, shows.wire, Activity.wire]

theorem Shows.serve (shows : network.Shows side op mine theirs activity) {next : Activity}
    {wire : Wire} (waits : next.running op = activity.running op)
    (serves : next.serves = poll.running (.handler request)) (answers : next.wire = wire) :
    (network.serve side.other (.handler request) poll wire).Shows side op mine poll.entry next := by
  have node : (network.serve side.other (.handler request) poll wire).node side =
      network.node side := Function.update_of_ne side.ne_other ..
  have served : (network.serve side.other (.handler request) poll wire).node side.other =
      (network.node side.other).after (.handler request) poll := serve_node
  have other : (network.serve side.other (.handler request) poll wire).wire side = wire := by
    rw [Network.serve, Side.other_other]
    exact Function.update_self ..
  refine ⟨by rw [node]; exact shows.mine, by rw [served]; rfl, ?_, ?_, ?_, ?_⟩
  · rw [node, shows.running, waits]
  · rw [served, serves]
    rfl
  · rw [other, answers]
  · rw [serve_wire]
    exact shows.otherWire

theorem Shows.served (poll : Poll) (shows : network.Shows side op mine theirs activity)
    (waits : activity.running op = some ⟨.user op, .peer request, closure⟩)
    {result told : Result Value} (resolved : poll.next = .resolved result)
    (tells : overHttp result = told) :
    (network.serve side.other (.handler request) poll poll.next.outcome).Shows side op mine
      poll.entry (.answered request closure told) := by
  refine shows.serve waits.symm ?_ ?_
  · rw [Poll.running, resolved]
    rfl
  · rw [resolved, ← tells]
    rfl

theorem Shows.looking (poll : Poll) (shows : network.Shows side op mine theirs activity)
    (waits : activity.running op = some ⟨.user op, .peer request, closure⟩)
    (asks : poll.next = .suspended (.chain call) theirClosure) :
    (network.serve side.other (.handler request) poll poll.next.outcome).Shows side op mine
      poll.entry (.serving request closure call theirClosure) := by
  refine shows.serve waits.symm ?_ ?_
  · rw [Poll.running, asks]
    rfl
  · rw [asks]
    rfl

end Steps

/-- Two nodes at rest show their entries. -/
theorem Sound.shows (sound : Sound parties network) (quiescent : network.Quiescent) (side : Side)
    (op : UserOp) :
    network.Shows side op (network.node side).entry (network.node side.other).entry .atRest where
  mine := rfl
  theirs := rfl
  running := quiescent side
  serves := quiescent side.other
  wire := sound.idle_at_rest quiescent side
  otherWire := sound.idle_at_rest quiescent side.other

theorem Shows.quiescent (shows : network.Shows side op mine theirs .atRest) : network.Quiescent :=
  (side.forall_iff).mpr ⟨shows.running, shows.serves⟩

end Network

end Guac
