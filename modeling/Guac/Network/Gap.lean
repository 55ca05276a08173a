import Guac.Network.PacketLoss

/-!
Owns the gap that lost replies leave between the two copies of a channel, over every
run: each node's own copy holds at least as much for it as the other one does. An
operation that is about to take its answer counts as if it had taken it.

The copies of one end are ordered by what they hold for that end, and everything that
happens to a copy but a completed payment moves it in the direction of its node.
-/

set_option autoImplicit false

namespace Guac

open Foundation

namespace Channel

def slot (channel : Channel) (slot0 : Bool) : Uint256 :=
  if slot0 then channel.balance0 else channel.balance1

/-- The first copy holds at least as much for this party as the second, and at most as
much for the other one. -/
structure Covers (role : Bool) (mine theirs : Channel) : Prop where
  more : (theirs.slot role).toNat ≤ (mine.slot role).toNat
  less : (mine.slot !role).toNat ≤ (theirs.slot !role).toNat

section Covers

variable {role : Bool} {first second third : Channel}

theorem Covers.of_balances (balance0 : first.balance0 = second.balance0)
    (balance1 : first.balance1 = second.balance1) : first.Covers role second := by
  have same : ∀ slot0, first.slot slot0 = second.slot slot0 := fun slot0 => by
    rw [slot, slot, balance0, balance1]
  exact ⟨Nat.le_of_eq (congrArg Uint256.toNat (same role).symm),
    Nat.le_of_eq (congrArg Uint256.toNat (same !role))⟩

theorem Covers.trans (left : first.Covers role second) (right : second.Covers role third) :
    first.Covers role third :=
  ⟨Nat.le_trans right.more left.more, Nat.le_trans left.less right.less⟩

theorem Covers.flip (covers : first.Covers role second) : second.Covers (!role) first := by
  refine ⟨covers.less, ?_⟩
  rw [Bool.not_not]
  exact covers.more

theorem slot_role (channel : Channel) : channel.slot channel.iAm0 = channel.myBalance := rfl

theorem slot_other (channel : Channel) : (channel.slot !channel.iAm0) = channel.theirBalance := by
  rw [slot, theirBalance]
  cases channel.iAm0 <;> rfl

end Covers

/-- Before a payment is recorded, the payer holds more for itself. -/
theorem Attempt.covers {channel stated : Channel} {amount : Uint256} {closure : Closure}
    (attempt : channel.Attempt amount closure stated) : channel.Covers channel.iAm0 stated := by
  have takes := attempt.takes
  have total := attempt.total
  rw [total_eq, total_eq] at total
  have role := attempt.iAm0
  constructor
  · rw [slot_role, ← role, slot_role]
    omega
  · rw [slot_other, ← role, slot_other]
    omega

/-- A payment that is accepted adds to what the payee holds for itself. -/
theorem Accepted.covers {channel received : Channel} {updateTx : UpdateTx}
    (accepts : Accepted channel updateTx received) : received.Covers channel.iAm0 channel := by
  have keeps := accepts.keepsMine
  have total := accepts.total
  rw [← accepts.mine] at keeps
  rw [total_eq, total_eq] at total
  constructor
  · rw [slot_role, ← accepts.iAm0, slot_role]
    exact keeps
  · rw [slot_other, ← accepts.iAm0, slot_other]
    omega

end Channel

def Deal.balances : Deal → Uint256 × Uint256
  | .opening tx => (tx.balance0, tx.balance1)
  | .reDraw tx => (tx.newBalance0, tx.newBalance1)

/-- The channel an operation opens its entry with when it takes this result. -/
def Closure.claims : Closure → Result Value → Option Channel
  | .reDrawNotified channel newBalance0 newBalance1, .ok .unit =>
      some { channel with balance0 := newBalance0, balance1 := newBalance1 }
  | closure, result => closure.opens result

/-- The results that claim a channel: the acknowledgement of an opening or of a redraw,
and the acceptance of a payment. -/
inductive Claims : Closure → Result Value → Channel → Prop
  | opening {iAm0 : Bool} {balance0 balance1 : Uint256} {channelId : Bytes32} :
      Claims (.fillNewNotified iAm0 balance0 balance1 channelId) (.ok .unit)
        { channelId, sequenceNumber := 0, balance0, balance1, accrual := 0, iAm0 }
  | reDraw {channel : Channel} {newBalance0 newBalance1 : Uint256} :
      Claims (.reDrawNotified channel newBalance0 newBalance1) (.ok .unit)
        { channel with balance0 := newBalance0, balance1 := newBalance1 }
  | payment {amount : Uint256} {paid : Channel} :
      Claims (.paymentReply amount paid) (.ok (.maybeSeq none)) paid

theorem Closure.claims_cases {closure : Closure} {result : Result Value} {channel : Channel}
    (claims : closure.claims result = some channel) : Claims closure result channel := by
  unfold Closure.claims Closure.opens at claims
  split at claims
  · obtain rfl := Option.some.inj claims
    exact .reDraw
  · split at claims
    · obtain rfl := Option.some.inj claims
      exact .payment
    · obtain rfl := Option.some.inj claims
      exact .opening
    · cases claims

/-- The channel a node claims by the answer on its wire. -/
def Wire.claims (wire : Wire) (mine : Option Running) : Option Channel :=
  match wire with
  | .answered result => mine.bind fun running => running.closure.claims result
  | _ => none

def Input.claims (input : Input) (mine : Option Running) : Option Channel :=
  match input with
  | .resume result => mine.bind fun running => running.closure.claims result
  | _ => none

theorem Wire.claims_eq_some {wire : Wire} {mine : Option Running} {channel : Channel}
    (claims : wire.claims mine = some channel) :
    ∃ result running, wire = .answered result ∧ mine = some running ∧
      running.closure.claims result = some channel := by
  cases wire with
  | answered result =>
      obtain ⟨running, holds, claims⟩ := Option.bind_eq_some_iff.mp claims
      exact ⟨result, running, rfl, holds, claims⟩
  | idle | sent | serving => cases claims

section Polls

variable {crypto : Crypto} {theirAddress : Address}

theorem Closure.claims_of_uncompleted {closure : Closure} {result : Result Value}
    (uncompleted : closure.completesReDraw result = false) :
    closure.claims result = closure.opens result := by
  unfold claims
  split
  next => cases uncompleted
  next => rfl

theorem Closure.claims_error (fault : Fault) (closure : Closure) :
    closure.claims (.error fault) = none := by
  cases closure <;> rfl

theorem Coherent.claimed_after {node : Node} {input : Input} {op : UserOp} {poll : Poll}
    {channel : Channel} (coherent : Coherent crypto theirAddress node)
    (polled : node.poll crypto theirAddress input = some (.user op, poll))
    (opened : poll.entry = some (.opened channel)) :
    ∃ earlier, (input.claims node.running).or node.openChannel = some earlier ∧
      earlier.Agrees channel := by
  by_cases completes : ∃ running result, node.running = some running ∧
      input = .resume result ∧ running.closure.completesReDraw result = true
  · obtain ⟨running, result, holds, rfl, completes⟩ := completes
    obtain ⟨_, same, -, resumed⟩ := poll_resume polled
    obtain rfl := Option.some.inj (holds.symm.trans same)
    unfold Closure.completesReDraw at completes
    split at completes
    next redrawn shape =>
      rw [shape] at resumed
      obtain rfl := Option.some.inj resumed
      obtain rfl := Counterparty.opened.inj (Option.some.inj opened)
      refine ⟨_, ?_, .refl _⟩
      rw [Input.claims, holds, Option.bind_some, shape]
      rfl
    next => cases completes
  · have uncompleted : ∀ running result, node.running = some running →
        input = .resume result → running.closure.completesReDraw result = false := by
      intro running result holds same
      rw [Bool.eq_false_iff]
      exact fun done => completes ⟨running, result, holds, same, done⟩
    obtain ⟨earlier, found, agrees⟩ := coherent.open_after polled uncompleted opened
    refine ⟨earlier, ?_, agrees⟩
    rw [← found]
    congr 1
    cases input with
    | start | request => rfl
    | resume result =>
        cases holds : node.running with
        | none => rfl
        | some running =>
            exact Closure.claims_of_uncompleted (uncompleted running result holds rfl)

/-- What a poll of a handler that leaves its entry open does, and what it answers. -/
inductive Admits (node : Node) (request : Request) (poll : Poll) (after : Channel) : Prop
  | kept (opened : node.openChannel = some after)
      (silent : ∀ mine, poll.next.outcome.claims mine = none)
  | accepted {channel : Channel} {updateTx : UpdateTx}
      (asked : request = .receivePayment updateTx) (opened : node.openChannel = some channel)
      (accepts : Channel.Accepted channel updateTx after)
      (next : poll.next = .resolved (.ok (.maybeSeq none)))
  | concluded {deal : Deal} (follows : node.phase = .following deal)
      (checks : checking node.running = 1)
      (balances : (after.balance0, after.balance1) = deal.balances)

/-- Every poll of a handler that leaves its entry open does one of these. -/
theorem Coherent.admits {node : Node} {input : Input} {request : Request} {poll : Poll}
    {after : Channel} (coherent : Coherent crypto theirAddress node)
    (polled : node.poll crypto theirAddress input = some (.handler request, poll))
    (opened : poll.entry = some (.opened after)) : Admits node request poll after := by
  obtain ⟨entry, closure, found, -, move, same, resumes⟩ := coherent.moved polled
  have silent : ∀ (result : Result Value), (∀ closure : Closure, closure.claims result = none) →
      ∀ mine, (Wire.answered result).claims mine = none := by
    intro result nothing mine
    cases mine with
    | none => rfl
    | some running => exact nothing running.closure
  have unchanged : poll.entry = entry → node.openChannel = some after := fun kept =>
    Node.openChannel_eq_some.mpr (found.trans (kept.symm.trans opened))
  cases move with
  | refused kept =>
      rcases kept with rfl | ⟨rfl, rfl⟩
      · exact .kept (unchanged rfl) (silent _ (Closure.claims_error _))
      · cases opened
  | failed => exact .kept (unchanged rfl) (silent _ (Closure.claims_error _))
  | fillNew | startReDraw | pay | accrue => cases same
  | proposeNew | signNew | deposited | openedAsProposer | proposeReDraw | signReDraw
  | submitted | reDrawnAsProposer | savePayment | retryPayment | retryAccepted =>
      obtain ⟨_, _, -, -, held⟩ := resumes _ rfl
      cases held
  | acceptChannel | acceptReDraw | checkOpen | checkReDraw => cases opened
  | @openedAsResponder _ _ tx =>
      obtain ⟨_, _, rfl, holds, held⟩ := resumes _ rfl
      obtain rfl := Counterparty.opened.inj (Option.some.inj opened)
      cases held
      refine @Admits.concluded _ _ _ _ (.opening tx.unsigned) ?_ ?_ rfl
      · rw [Node.phase, found]
        rfl
      · rw [holds]
        rfl
  | @reDrawnAsResponder _ tx =>
      obtain ⟨_, _, rfl, holds, held⟩ := resumes _ rfl
      obtain rfl := Counterparty.opened.inj (Option.some.inj opened)
      cases held
      refine @Admits.concluded _ _ _ _ (.reDraw tx.unsigned) ?_ ?_ rfl
      · rw [Node.phase, found]
        rfl
      · rw [holds]
        rfl
  | stalePayment =>
      refine .kept (unchanged rfl) (silent _ fun closure => ?_)
      cases closure <;> rfl
  | acceptPayment accepts =>
      cases same
      obtain rfl := Counterparty.opened.inj (Option.some.inj opened)
      exact .accepted rfl (Node.openChannel_eq_some.mpr found) accepts rfl

/-- An open node's own copy covers what it hears the peer has recorded. -/
theorem Held.claims_covered {running : Running} {result : Result Value}
    {channel claimed : Channel}
    (held : Held crypto theirAddress (.opened channel) running)
    (claims : running.closure.claims result = some claimed) :
    channel.Covers channel.iAm0 claimed := by
  obtain ⟨_, _, closure⟩ := running
  cases Closure.claims_cases claims with
  | opening | reDraw => cases held
  | payment =>
      cases held with
      | paymentReply _ _ pays => exact (Channel.Attempt.first pays).covers

theorem Held.claims_peer {counterparty : Counterparty} {running : Running}
    {result : Result Value} {channel : Channel}
    (held : Held crypto theirAddress counterparty running)
    (claims : running.closure.claims result = some channel) :
    ∃ request, running.call = .peer request := by
  obtain ⟨_, _, closure⟩ := running
  cases Closure.claims_cases claims with
  | opening | reDraw | payment =>
      cases held
      exact ⟨_, rfl⟩

theorem Held.claims_deal {counterparty : Counterparty} {running : Running} {result : Result Value}
    {channel : Channel} {deal : Deal} {told : Bool}
    (held : Held crypto theirAddress counterparty running)
    (leads : phase (some counterparty) (some running) = .leading deal told)
    (claims : running.closure.claims result = some channel) :
    (channel.balance0, channel.balance1) = deal.balances := by
  obtain ⟨_, _, closure⟩ := running
  cases Closure.claims_cases claims with
  | opening =>
      cases held
      obtain ⟨rfl, -⟩ := Phase.leading.inj leads
      rfl
  | reDraw =>
      cases held with
      | reDrawNotified _ _ _ _ proposes =>
          obtain ⟨rfl, -⟩ := Phase.leading.inj leads
          rw [Deal.balances, ReDrawTx.unsigned, proposes.newBalance0, proposes.newBalance1]
  | payment =>
      cases held
      cases leads

end Polls

namespace Network

/-- The channel a node is open with once it has taken the answer on its wire, be it the
end of a redraw. -/
def claim (network : Network) (side : Side) : Option Channel :=
  ((network.wire side).claims (network.node side).running).or (network.node side).openChannel

/-- Each node's own copy holds at least as much for it as the other's. -/
structure Covering (parties : Side → Crypto) (network : Network) : Prop where
  solvent : Solvent parties network
  covers : ∀ side mine theirs, network.claim side = some mine →
    network.claim side.other = some theirs → mine.Covers (role parties side) theirs

variable {parties : Side → Crypto} {before after network : Network} {event : NetworkEvent}
  {side : Side}

theorem covers_both (distinct : (parties .a).ownAddress ≠ (parties .b).ownAddress) (side : Side)
    (covers : ∀ mine theirs, network.claim side = some mine →
      network.claim side.other = some theirs → mine.Covers (role parties side) theirs) :
    ∀ side mine theirs, network.claim side = some mine →
      network.claim side.other = some theirs → mine.Covers (role parties side) theirs := by
  refine (side.forall_iff).mpr ⟨covers, ?_⟩
  intro theirs mine other claimed
  rw [Side.other_other] at claimed
  have flipped := (covers mine theirs claimed other).flip
  rwa [role_other distinct side, Bool.not_not] at flipped

theorem Covering.own (covering : Covering parties before)
    (distinct : (parties .a).ownAddress ≠ (parties .b).ownAddress)
    (stepped : before.step parties event = some after) {input : Input} {op : UserOp} {poll : Poll}
    (polled : before.poll parties side input = some (.user op, poll))
    (node : after.node = (before.own side (.user op) poll).node)
    (wire : after.wire = (before.own side (.user op) poll).wire)
    (source : ∀ earlier, (input.claims (before.node side).running).or
        (before.node side).openChannel = some earlier →
      ∃ claimed, before.claim side = some claimed ∧
        earlier.Covers (role parties side) claimed) : Covering parties after := by
  refine ⟨covering.solvent.step stepped, covers_both distinct side fun mine theirs claims others =>
    ?_⟩
  have same : after.claim side.other = before.claim side.other := by
    rw [claim, node, wire, own_wire_other, own_node_other, claim]
  have silent :
      poll.next.wire.claims ((before.node side).after (.user op) poll).running = none := by
    rcases poll.next with _ | ⟨_ | _, _⟩ <;> rfl
  rw [claim, node, wire, own_wire, own_node, silent, Option.none_or, Node.openChannel_eq_some]
    at claims
  obtain ⟨earlier, found, agrees⟩ :=
    (covering.solvent.sound.coherent side).claimed_after polled claims
  obtain ⟨claimed, had, covers⟩ := source earlier found
  have kept : mine.Covers (role parties side) earlier :=
    .of_balances agrees.balance0.symm agrees.balance1.symm
  rw [same] at others
  exact (kept.trans covers).trans (covering.covers side claimed theirs had others)

theorem claim_of_unanswered (unanswered : ∀ result, network.wire side ≠ .answered result) :
    network.claim side = (network.node side).openChannel := by
  rw [claim]
  cases shape : network.wire side with
  | answered result => exact absurd shape (unanswered result)
  | idle | sent | serving => rfl

theorem claim_of_idle (idle : network.wire side = .idle) :
    network.claim side = (network.node side).openChannel :=
  claim_of_unanswered (by rw [idle]; exact nofun)

/-- What the wire of a caller brings, after a poll of a handler: what it brought before,
or the answer to the request its operation waits for. -/
def Told (network : Network) (side : Side) (request : Request) (poll : Poll) (wire : Wire) :
    Prop :=
  wire = network.wire side ∨
    wire = poll.next.outcome ∧ (∀ result, network.wire side ≠ .answered result) ∧
      ∃ op closure, (network.node side).running = some ⟨.user op, .peer request, closure⟩

theorem Covering.handled (covering : Covering parties network) {input : Input}
    {request : Request} {poll : Poll} {wire : Wire}
    (polled : network.poll parties side input = some (.handler request, poll))
    (told : network.Told side.other request poll wire) {mine theirs : Channel}
    (opened : poll.entry = some (.opened mine))
    (claims : (wire.claims (network.node side.other).running).or
      (network.node side.other).openChannel = some theirs) :
    mine.Covers (role parties side) theirs := by
  have sound := covering.solvent.sound
  have idle := sound.idle_of_handler polled
  -- a claim that is not new is one the node's earlier copy covers
  have earlier : ∀ channel, (network.node side).openChannel = some channel →
      network.claim side.other = some theirs → channel.Covers (role parties side) theirs := by
    intro channel stored had
    refine covering.covers side channel theirs ?_ had
    rw [claim_of_idle idle]
    exact stored
  cases (sound.coherent side).admits polled opened with
  | kept stored silent =>
      refine earlier mine stored ?_
      rcases told with rfl | ⟨rfl, unanswered, -⟩
      · exact claims
      · rw [silent, Option.none_or] at claims
        rw [claim_of_unanswered unanswered]
        exact claims
  | @accepted channel updateTx asked stored accepts next =>
      have gains := accepts.covers
      rw [sound.role_of_open (Node.openChannel_eq_some.mp stored)] at gains
      rcases told with rfl | ⟨rfl, unanswered, op, closure, asks⟩
      · exact gains.trans (earlier channel stored claims)
      subst asked
      obtain ⟨counterparty, entry, held⟩ := (sound.coherent side.other).held _ asks
      by_cases retries : closure = .retryReply
      · subst retries
        rw [next, asks] at claims
        refine gains.trans (earlier channel stored ?_)
        rw [claim_of_unanswered unanswered]
        exact claims
      · obtain ⟨amount, _, paid, -, rfl, -, sent⟩ := held.pays retries
        rw [next, asks] at claims
        obtain rfl : paid = theirs := Option.some.inj claims
        obtain ⟨-, -, balance0, balance1, -, -⟩ := UpdateTx.mk.inj sent
        exact .of_balances (accepts.balance0.trans balance0) (accepts.balance1.trans balance1)
  | @concluded deal follows checks balances =>
      obtain ⟨led, leads, followed⟩ := covering.solvent.deal_of_checking checks
      obtain rfl := Phase.following.inj (follows.symm.trans followed)
      -- the peer still leads the transaction, so it hears of it on its wire or not at all
      have closed : (network.node side.other).openChannel = none := by
        refine Option.eq_none_iff_forall_ne_some.mpr fun channel stored => ?_
        cases leads.symm.trans (Node.phase_of_opened (Node.openChannel_eq_some.mp stored))
      rw [closed, Option.or_none] at claims
      obtain ⟨_, running, -, holds, claims⟩ := Wire.claims_eq_some claims
      obtain ⟨_, entry, held⟩ := (sound.coherent side.other).held running holds
      rw [Node.phase, entry, holds] at leads
      have same := balances.trans (held.claims_deal leads claims).symm
      exact .of_balances (Prod.mk.inj same).1 (Prod.mk.inj same).2

theorem Covering.serve (covering : Covering parties before)
    (distinct : (parties .a).ownAddress ≠ (parties .b).ownAddress)
    (stepped : before.step parties event = some after) {input : Input} {request : Request}
    {poll : Poll} {wire : Wire}
    (polled : before.poll parties side input = some (.handler request, poll))
    (told : before.Told side.other request poll wire)
    (nodes : after.node = (before.serve side (.handler request) poll wire).node)
    (wires : after.wire = (before.serve side (.handler request) poll wire).wire) :
    Covering parties after := by
  refine ⟨covering.solvent.step stepped, covers_both distinct side fun mine theirs claims others =>
    ?_⟩
  rw [claim, nodes, wires, serve_wire, covering.solvent.sound.idle_of_handler polled, serve_node]
    at claims
  rw [claim, nodes, wires, serve_wire_other, serve_node_other] at others
  exact covering.handled polled told (Node.openChannel_eq_some.mp claims) others

/-- An open copy covers what its node claims: a reply on its wire may tell of a payment. -/
theorem Sound.claim_covered (sound : Sound parties network) {channel : Channel}
    (stored : (network.node side).openChannel = some channel) :
    ∃ claimed, network.claim side = some claimed ∧
      channel.Covers (role parties side) claimed := by
  have opened := Node.openChannel_eq_some.mp stored
  cases claims : (network.wire side).claims (network.node side).running with
  | none =>
      refine ⟨channel, ?_, .of_balances rfl rfl⟩
      rw [claim, claims, Option.none_or, stored]
  | some claimed =>
      refine ⟨claimed, by rw [claim, claims, Option.some_or], ?_⟩
      obtain ⟨_, running, -, holds, claims⟩ := Wire.claims_eq_some claims
      obtain ⟨_, entry, held⟩ := (sound.coherent side).held running holds
      obtain rfl := Option.some.inj (entry.symm.trans opened)
      rw [← sound.role_of_open opened]
      exact held.claims_covered claims

theorem Sound.told_lookedUp (sound : Sound parties network) {request : Request} {call : Call}
    {closure : Closure} {poll : Poll}
    (holds : (network.node side).running = some ⟨.handler request, call, closure⟩) :
    network.Told side.other request poll ((network.wire side.other).served poll.next) := by
  cases shape : network.wire side.other with
  | serving =>
      have wire := sound.wires side.other
      rw [shape, Side.other_other, holds] at wire
      obtain ⟨op, _, asked, _, _, asks, same⟩ := wire.served
      cases same
      exact .inr ⟨rfl, by rw [shape]; exact nofun, op, asked, asks⟩
  | idle | sent | answered => exact .inl shape.symm

theorem Sound.told_delivered (sound : Sound parties network) {request : Request} {poll : Poll}
    (sent : network.wire side = .sent request) :
    network.Told side request poll poll.next.outcome := by
  have wire := sound.wires side
  rw [sent] at wire
  obtain ⟨op, closure, asks⟩ := wire.asks
  exact .inr ⟨rfl, by rw [sent]; exact nofun, op, closure, asks⟩

/-- Every step keeps each copy covering the other, whatever is lost. -/
theorem Covering.step (covering : Covering parties before)
    (distinct : (parties .a).ownAddress ≠ (parties .b).ownAddress)
    (stepped : before.step parties event = some after) : Covering parties after := by
  have sound := covering.solvent.sound
  cases change_of_step stepped with
  | started polled =>
      obtain ⟨-, rfl, -⟩ := poll_start polled
      exact covering.own distinct stepped polled rfl rfl fun _ stored => sound.claim_covered stored
  | @chainAnswered side answer op call closure _ _ holds answers polled =>
      obtain rfl := operation_of_held polled holds
      obtain ⟨_, -, held⟩ := (sound.coherent side).held _ holds
      refine covering.own distinct stepped polled rfl rfl fun earlier stored => ?_
      rw [holds] at stored
      cases claims : closure.claims answer with
      | none =>
          rw [Input.claims, Option.bind_some, claims] at stored
          exact sound.claim_covered stored
      | some channel =>
          obtain ⟨_, calls⟩ := held.claims_peer claims
          cases calls
  | lookedUp holds _ polled =>
      obtain rfl := operation_of_held polled holds
      exact covering.serve distinct stepped polled (sound.told_lookedUp holds) rfl rfl
  | @delivered side _ _ _ sent polled =>
      obtain ⟨-, rfl, -⟩ := poll_request polled
      have told := @Sound.told_delivered parties before side sound
      refine covering.serve distinct stepped polled ?_ rfl rfl
      rw [Side.other_other]
      exact told sent
  | orphanDelivered _ polled =>
      obtain ⟨-, rfl, -⟩ := poll_request polled
      refine covering.serve distinct stepped polled (.inl ?_) rfl rfl
      rw [Side.other_other]
  | @replied side _ _ _ answered polled =>
      obtain ⟨op, _, _, holds⟩ := (sound.wires side).waits (by rw [answered]; exact nofun)
      obtain rfl := operation_of_held polled holds
      refine covering.own distinct stepped polled rfl rfl fun earlier found => ?_
      refine ⟨earlier, ?_, .of_balances rfl rfl⟩
      rw [claim, answered]
      exact found
  | @gaveUp side _ _ _ waiting polled =>
      obtain ⟨op, _, closure, holds⟩ := (sound.wires side).waits waiting
      obtain rfl := operation_of_held polled holds
      refine covering.own distinct stepped polled rfl rfl fun earlier stored => ?_
      have silent : Input.claims (.resume (.error (.failure "timeout")))
          (before.node side).running = none := by
        rw [holds]
        exact Closure.claims_error _ closure
      rw [silent, Option.none_or] at stored
      exact sound.claim_covered stored
  | opened | reDrawn => exact ⟨covering.solvent.step stepped, covering.covers⟩

theorem covering_fresh : Covering parties fresh where
  solvent := solvent_fresh
  covers := by simp [claim, fresh, Node.fresh, Node.openChannel, Wire.claims]

theorem covering_of_run (distinct : (parties .a).ownAddress ≠ (parties .b).ownAddress)
    {taken : List (Transition Network NetworkEvent)}
    (run : (machine parties).Run fresh taken network) : Covering parties network :=
  run.invariant (Covering parties) covering_fresh fun _ _ _ covering stepped =>
    covering.step distinct stepped

/-- At rest, an open copy covers the other one. -/
theorem Covering.atRest (covering : Covering parties network) (quiescent : network.Quiescent)
    {mine theirs : Channel} (opened : (network.node side).entry = some (.opened mine))
    (others : (network.node side.other).entry = some (.opened theirs)) :
    mine.Covers (role parties side) theirs := by
  have claims : ∀ second channel, (network.node second).entry = some (.opened channel) →
      network.claim second = some channel := by
    intro second channel stored
    rw [claim_of_idle (covering.solvent.sound.idle_at_rest quiescent second)]
    exact Node.openChannel_eq_some.mpr stored
  exact covering.covers side mine theirs (claims side mine opened) (claims side.other theirs others)

end Network

end Guac
