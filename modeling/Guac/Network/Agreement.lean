import Guac.Network.Crossing
import Guac.Network.Opening

/-!
Owns the agreement of the two nodes while nothing is lost and operations run one
after another. An operation that is about to take its answer counts as if it had
taken it: seen so, the two nodes agree in every state in which both are open, as
long as no redraw is completed. The initiator of a redraw keeps its sequence
number, so a completed one leaves the nodes apart.
-/

set_option autoImplicit false

namespace Guac

open Foundation

def Node.openChannel (node : Node) : Option Channel :=
  match node.entry with
  | some (.opened channel) => some channel
  | _ => none

theorem Node.openChannel_eq_some {node : Node} {channel : Channel} :
    node.openChannel = some channel ↔ node.entry = some (.opened channel) := by
  unfold openChannel
  split
  next opened found => simp [found]
  next closed =>
    constructor
    · exact nofun
    · intro found
      exact absurd found (closed channel)

/-- The channel an operation opens its entry with when it takes this result, other
than by a redraw. -/
def Closure.opens : Closure → Result Value → Option Channel
  | .paymentReply _ paid, .ok (.maybeSeq none) => some paid
  | .fillNewNotified iAm0 balance0 balance1 channelId, .ok .unit =>
      some { channelId, sequenceNumber := 0, balance0, balance1, accrual := 0, iAm0 }
  | _, _ => none

/-- The result completes a redraw this node proposed. -/
def Closure.completesReDraw : Closure → Result Value → Bool
  | .reDrawNotified .., .ok .unit => true
  | _, _ => false

theorem Closure.notified_of_completes {closure : Closure} {result : Result Value}
    (completes : closure.completesReDraw result = true) : closure.notified = true := by
  cases closure with
  | reDrawNotified => rfl
  | _ => cases completes

/-- The channel an answer on its wire opens a node with. -/
def Wire.opens (wire : Wire) (mine : Option Running) : Option Channel :=
  match wire with
  | .answered result => mine.bind fun running => running.closure.opens result
  | _ => none

/-- The channel an input opens a node with. -/
def Input.opens (input : Input) (mine : Option Running) : Option Channel :=
  match input with
  | .resume result => mine.bind fun running => running.closure.opens result
  | _ => none

section Polls

variable {crypto : Crypto} {theirAddress : Address}

theorem Closure.opens_resume {closure : Closure} {result : Result Value} {channel : Channel}
    {entry : Option Counterparty} (opens : closure.opens result = some channel) :
    closure.resume crypto theirAddress entry result =
      some (.succeed (some (.opened channel)) .unit) := by
  unfold Closure.opens at opens
  split at opens
  · obtain rfl := Option.some.inj opens
    rfl
  · obtain rfl := Option.some.inj opens
    rfl
  · cases opens

theorem Held.opens_peer {counterparty : Counterparty} {running : Running}
    {result : Result Value} {channel : Channel}
    (held : Held crypto theirAddress counterparty running)
    (opens : running.closure.opens result = some channel) :
    ∃ request, running.call = .peer request := by
  cases held with
  | paymentReply | fillNewNotified => exact ⟨_, rfl⟩
  | _ => cases result <;> cases opens

/-- A poll of a user operation other than the end of a redraw leaves the entry
open as it was, or as its input opens it. -/
theorem Coherent.open_after {node : Node} {input : Input} {op : UserOp} {poll : Poll}
    {channel : Channel} (coherent : Coherent crypto theirAddress node)
    (polled : node.poll crypto theirAddress input = some (.user op, poll))
    (kept : ∀ running result, node.running = some running → input = .resume result →
      running.closure.completesReDraw result = false)
    (opened : poll.entry = some (.opened channel)) :
    ∃ earlier, (input.opens node.running).or node.openChannel = some earlier ∧
      earlier.Agrees channel := by
  cases taken : input.opens node.running with
  | some earlier =>
      refine ⟨earlier, Option.some_or, ?_⟩
      unfold Input.opens at taken
      split at taken
      next result =>
        obtain ⟨running, holds, opens⟩ := Option.bind_eq_some_iff.mp taken
        obtain ⟨_, same, -, resumed⟩ := poll_resume polled
        obtain rfl := Option.some.inj (holds.symm.trans same)
        obtain rfl := Option.some.inj (resumed.symm.trans (Closure.opens_resume opens))
        obtain rfl := Counterparty.opened.inj (Option.some.inj opened)
        exact .refl _
      next => cases taken
  | none =>
      rw [Option.none_or]
      obtain ⟨entry, closure, found, -, move, same, resumes⟩ := coherent.moved polled
      have unchanged : poll.entry = entry →
          ∃ earlier, node.openChannel = some earlier ∧ earlier.Agrees channel := fun kept =>
        ⟨channel, Node.openChannel_eq_some.mpr (found.trans (kept.symm.trans opened)),
          .refl channel⟩
      cases move with
      | failed | proposeNew | deposited | startReDraw | proposeReDraw | submitted
      | retryAccepted | pay | retryPayment => exact unchanged rfl
      | refused after =>
          rcases after with rfl | ⟨rfl, rfl⟩
          · exact unchanged rfl
          · cases opened
      | fillNew | signNew | signReDraw => cases opened
      | openedAsProposer | savePayment =>
          obtain ⟨_, _, -, holds, -⟩ := resumes _ rfl
          rw [holds] at taken
          cases taken
      | reDrawnAsProposer =>
          obtain ⟨_, _, -, holds, -⟩ := resumes _ rfl
          cases kept _ _ holds rfl
      | accrue accrued =>
          cases accrued with
          | opened earlier =>
              obtain rfl := Counterparty.opened.inj (Option.some.inj opened)
              exact ⟨earlier, Node.openChannel_eq_some.mpr found, ⟨rfl, rfl, rfl, rfl⟩⟩
          | reDrawing | otherReDrawing => cases opened
      | acceptChannel | acceptReDraw | checkOpen | checkReDraw | stalePayment
      | acceptPayment => cases same
      | openedAsResponder | reDrawnAsResponder =>
          obtain ⟨_, _, -, -, held⟩ := resumes _ rfl
          cases held

theorem first_attempt {node : Node} {input : Input} {operation : Operation}
    {poll : Poll} (polled : node.poll crypto theirAddress input = some (operation, poll))
    (current : ∀ reply, input ≠ .resume (.ok (.maybeSeq (some reply)))) :
    (poll.running operation).map Running.closure ≠ some .retryReply := by
  have move := move_of_poll polled
  generalize node.running.map Running.closure = closure at move
  generalize node.entry = entry at move
  intro retries
  cases move with
  | retryPayment => exact current _ rfl
  | _ => cases retries

theorem Wire.opens_eq_none {result : Result Value} (mine : Option Running)
    (nothing : ∀ closure : Closure, closure.opens result = none) :
    (Wire.answered result).opens mine = none := by
  cases mine with
  | none => rfl
  | some running => exact nothing running.closure

theorem Closure.opens_error (fault : Fault) (closure : Closure) :
    closure.opens (.error fault) = none := by
  cases closure <;> rfl

theorem Closure.opens_signature (signature : Signature) (closure : Closure) :
    closure.opens (.ok (.signature signature)) = none := by
  cases closure <;> rfl

/-- What a poll of a handler does to an open entry, and what it answers. -/
inductive Handles (node : Node) (input : Input) (request : Request) (poll : Poll) : Prop
  | keeps (kept : ∀ channel, poll.entry = some (.opened channel) →
        node.openChannel = some channel)
      (silent : ∀ mine, poll.next.outcome.opens mine = none)
      (current : ∀ reply, poll.next.outcome ≠ .answered (.ok (.maybeSeq (some reply))))
      (unacknowledged : poll.next.outcome ≠ .answered (.ok .unit))
  | stale {channel : Channel} {updateTx : UpdateTx} (asked : request = .receivePayment updateTx)
      (opened : node.openChannel = some channel)
      (old : updateTx.sequenceNumber.toNat ≤ channel.sequenceNumber.toNat)
  | accepts {channel received : Channel} {updateTx : UpdateTx}
      (asked : request = .receivePayment updateTx) (opened : node.openChannel = some channel)
      (accepted : Channel.Accepted channel updateTx received)
      (entry : poll.entry = some (.opened received))
      (next : poll.next = .resolved (.ok (.maybeSeq none)))
  | opens {tx : NewChannelTx} {iAm0 : Bool} {channelId : Bytes32} {address0 address1 : Address}
      (asked : request = .notifyChannelOpened)
      (waits : node.entry = some (.otherCreating tx iAm0))
      (holds : node.running = some ⟨.handler .notifyChannelOpened,
        .chain (.checkForOpen address0 address1), .checkedOpen iAm0 tx⟩)
      (found : input = .resume (.ok (.maybeChannelId (some channelId))))
      (entry : poll.entry = some (.opened (tx.channel channelId iAm0)))
      (next : poll.next = .resolved (.ok .unit))
  | redraws {tx : ReDrawTx} {channel reDrawn : Channel} (asked : request = .notifyReDraw)
      (waits : node.entry = some (.otherReDrawing tx channel)) (checks : checking node.running = 1)
      (entry : poll.entry = some (.opened reDrawn))
      (counted : reDrawn.sequenceNumber = tx.sequenceNumber)
      (next : poll.next = .resolved (.ok .unit))

/-- Every poll of a handler does one of these. -/
theorem Coherent.handles {node : Node} {input : Input} {request : Request} {poll : Poll}
    (coherent : Coherent crypto theirAddress node)
    (polled : node.poll crypto theirAddress input = some (.handler request, poll)) :
    Handles node input request poll := by
  obtain ⟨entry, closure, found, -, move, same, resumes⟩ := coherent.moved polled
  have unchanged : poll.entry = entry → ∀ channel, poll.entry = some (.opened channel) →
      node.openChannel = some channel := fun kept _ opened =>
    Node.openChannel_eq_some.mpr (found.trans (kept.symm.trans opened))
  cases move with
  | refused kept =>
      refine .keeps ?_ (fun mine => Wire.opens_eq_none mine (Closure.opens_error _)) nofun nofun
      rcases kept with rfl | ⟨rfl, rfl⟩
      · exact unchanged rfl
      · exact nofun
  | failed =>
      exact .keeps (unchanged rfl) (fun mine => Wire.opens_eq_none mine (Closure.opens_error _))
        nofun nofun
  | fillNew | startReDraw | pay | accrue => cases same
  | proposeNew | signNew | deposited | openedAsProposer | proposeReDraw | signReDraw
  | submitted | reDrawnAsProposer | savePayment | retryPayment | retryAccepted =>
      obtain ⟨_, _, -, -, held⟩ := resumes _ rfl
      cases held
  | acceptChannel | acceptReDraw =>
      exact .keeps nofun (fun mine => Wire.opens_eq_none mine (Closure.opens_signature _)) nofun
        nofun
  | checkOpen | checkReDraw => exact .keeps nofun (fun _ => rfl) nofun nofun
  | openedAsResponder =>
      obtain ⟨_, _, rfl, holds, held⟩ := resumes _ rfl
      cases held
      exact .opens rfl found holds rfl rfl rfl
  | reDrawnAsResponder =>
      obtain ⟨_, _, rfl, holds, held⟩ := resumes _ rfl
      cases held
      exact .redraws rfl found (by rw [holds]; rfl) rfl rfl rfl
  | stalePayment old =>
      cases same
      exact .stale rfl (Node.openChannel_eq_some.mpr found) old
  | acceptPayment accepted =>
      cases same
      exact .accepts rfl (Node.openChannel_eq_some.mpr found) accepted rfl rfl

theorem Held.pays {counterparty : Counterparty} {op : UserOp} {updateTx : UpdateTx}
    {closure : Closure}
    (held : Held crypto theirAddress counterparty
      ⟨.user op, .peer (.receivePayment updateTx), closure⟩)
    (first : closure ≠ .retryReply) :
    ∃ amount channel paid, counterparty = .opened channel ∧
      closure = .paymentReply amount paid ∧ Channel.Paid channel amount none paid ∧
      updateTx.unsigned = paid.toUpdate := by
  cases held with
  | paymentReply amount channel pays =>
      refine ⟨amount, channel, _, rfl, rfl, pays, ?_⟩
      rw [UpdateTx.setSignature_unsigned]
      rfl
  | retryReply => exact absurd rfl first

theorem Held.notifies_opening {counterparty : Counterparty} {op : UserOp} {closure : Closure}
    (held : Held crypto theirAddress counterparty
      ⟨.user op, .peer .notifyChannelOpened, closure⟩) :
    ∃ tx iAm0 channelId, counterparty = .creating tx iAm0 ∧
      closure = .fillNewNotified iAm0 tx.balance0 tx.balance1 channelId := by
  cases held with
  | fillNewNotified iAm0 _ _ channelId => exact ⟨_, iAm0, channelId, rfl, rfl⟩

theorem Held.notifies_reDraw {counterparty : Counterparty} {op : UserOp} {closure : Closure}
    (held : Held crypto theirAddress counterparty ⟨.user op, .peer .notifyReDraw, closure⟩) :
    ∃ tx channel newBalance0 newBalance1, counterparty = .reDrawing tx channel ∧
      closure = .reDrawNotified channel newBalance0 newBalance1 ∧
      tx.sequenceNumber.toNat = channel.sequenceNumber.toNat + 1 := by
  cases held with
  | reDrawNotified _ _ channel _ proposes =>
      exact ⟨_, channel, _, _, rfl, rfl, proposes.sequenceNumber⟩

end Polls

namespace Network

/-- The channel a node is open with once it has taken the answer on its wire. -/
def view (network : Network) (side : Side) : Option Channel :=
  ((network.wire side).opens (network.node side).running).or (network.node side).openChannel

/-- No operation and no handler holds an entry. -/
def Quiescent (network : Network) : Prop := ∀ side, (network.node side).running = none

instance (network : Network) : Decidable network.Quiescent :=
  decidable_of_iff ((network.node .a).running = none ∧ (network.node .b).running = none)
    (@Side.forall_iff (fun side => (network.node side).running = none) .a).symm

theorem Sound.idle_at_rest {parties : Side → Crypto} {network : Network}
    (sound : Sound parties network) (quiescent : network.Quiescent) (side : Side) :
    network.wire side = .idle :=
  sound.idle (by simp [quiescent side])

/-- An operation starts when every other one has finished. -/
def StartsAtRest (network : Network) : NetworkEvent → Prop
  | .start _ _ => network.Quiescent
  | _ => True

instance (network : Network) (event : NetworkEvent) : Decidable (network.StartsAtRest event) :=
  match event with
  | .start _ _ => inferInstanceAs (Decidable network.Quiescent)
  | .answerChain _ _ => isTrue trivial
  | .deliver _ => isTrue trivial
  | .deliverOrphan _ _ => isTrue trivial
  | .reply _ => isTrue trivial
  | .giveUp _ _ => isTrue trivial
  | .mineNewChannel _ _ => isTrue trivial
  | .mineReDraw _ => isTrue trivial

/-- The step hands a proposer the acknowledgement that completes its redraw. -/
def completesReDraw (network : Network) : NetworkEvent → Bool
  | .reply side =>
      match network.wire side with
      | .answered result =>
          (network.node side).running.any fun running => running.closure.completesReDraw result
      | _ => false
  | _ => false

/-- What holds while operations run one after another and nothing is lost. -/
structure InStep (parties : Side → Crypto) (network : Network) : Prop where
  solvent : Solvent parties network
  user : ∀ side op call closure, (network.node side).running = some ⟨.user op, call, closure⟩ →
    network.wire side = .serving ∨ (network.node side.other).running = none
  handler : ∀ side request call closure,
    (network.node side).running = some ⟨.handler request, call, closure⟩ →
      network.wire side.other = .serving
  first : ∀ side, (network.node side).running.map Running.closure ≠ some .retryReply
  current : ∀ side reply, network.wire side ≠ .answered (.ok (.maybeSeq (some reply)))
  agrees : ∀ side mine theirs, network.view side = some mine →
    network.view side.other = some theirs → mine.Agrees theirs
  reDrawn : ∀ side channel newBalance0 newBalance1, network.wire side = .answered (.ok .unit) →
    (network.node side).running.map Running.closure =
      some (.reDrawNotified channel newBalance0 newBalance1) →
    ∃ theirs, (network.node side.other).openChannel = some theirs ∧
      theirs.sequenceNumber.toNat = channel.sequenceNumber.toNat + 1

variable {parties : Side → Crypto} {before after network : Network} {event : NetworkEvent}

theorem running_operation {operation : Operation} {poll : Poll} {running : Running}
    (holds : poll.running operation = some running) : running.operation = operation := by
  unfold Poll.running at holds
  split at holds
  · cases holds
  · exact (congrArg Running.operation (Option.some.inj holds)).symm

theorem views_agree (side : Side)
    (agrees : ∀ mine theirs, network.view side = some mine →
      network.view side.other = some theirs → mine.Agrees theirs) :
    ∀ side mine theirs, network.view side = some mine →
      network.view side.other = some theirs → mine.Agrees theirs := by
  refine (side.forall_iff).mpr ⟨agrees, ?_⟩
  intro theirs mine other viewed
  rw [Side.other_other] at viewed
  exact (agrees mine theirs viewed other).symm

/-- A step that leaves one view as it is and the other as it agreed before. -/
theorem InStep.views (inStep : InStep parties before) {side : Side}
    (same : after.view side.other = before.view side.other)
    (views : ∀ channel, after.view side = some channel →
      ∃ earlier, before.view side = some earlier ∧ earlier.Agrees channel) :
    ∀ side mine theirs, after.view side = some mine → after.view side.other = some theirs →
      mine.Agrees theirs := by
  refine views_agree side fun mine theirs viewed other => ?_
  obtain ⟨earlier, found, kept⟩ := views mine viewed
  rw [same] at other
  exact kept.symm.trans (inStep.agrees side earlier theirs found other)

section Own

variable {side : Side} {input : Input} {op : UserOp} {poll : Poll}

theorem wire_opens_nothing {next : Next} {mine : Option Running} :
    next.wire.opens mine = none := by
  cases next with
  | resolved => rfl
  | suspended call =>
      cases call with
      | peer | chain => rfl

theorem wire_current {next : Next} (result : Result Value) : next.wire ≠ .answered result := by
  cases next with
  | resolved => exact nofun
  | suspended call =>
      cases call with
      | peer | chain => exact nofun

theorem InStep.own (inStep : InStep parties network)
    (stepped : network.step parties event = some (network.own side (.user op) poll))
    (polled : network.poll parties side input = some (.user op, poll))
    (rest : (network.node side.other).running = none)
    (answers : (network.wire side).opens (network.node side).running =
      input.opens (network.node side).running)
    (kept : ∀ running result, (network.node side).running = some running →
      input = .resume result → running.closure.completesReDraw result = false)
    (current : ∀ reply, input ≠ .resume (.ok (.maybeSeq (some reply)))) :
    InStep parties (network.own side (.user op) poll) := by
  have coherent := inStep.solvent.sound.coherent side
  refine ⟨inStep.solvent.step stepped, (side.forall_iff).mpr ⟨?_, ?_⟩,
    (side.forall_iff).mpr ⟨?_, ?_⟩, (side.forall_iff).mpr ⟨?_, ?_⟩,
    (side.forall_iff).mpr ⟨?_, ?_⟩, ?_, (side.forall_iff).mpr ⟨?_, ?_⟩⟩
  · intro _ _ _ _
    rw [own_node_other]
    exact .inr rest
  · intro _ _ _ holds
    rw [own_node_other, rest] at holds
    cases holds
  · intro _ _ _ holds
    rw [own_node] at holds
    cases running_operation holds
  · intro _ _ _ holds
    rw [own_node_other, rest] at holds
    cases holds
  · rw [own_node]
    exact first_attempt polled current
  · rw [own_node_other]
    exact inStep.first side.other
  · rw [own_wire]
    exact fun reply => wire_current _
  · rw [own_wire_other]
    exact inStep.current side.other
  · have theirs : (network.own side (.user op) poll).view side.other = network.view side.other := by
      rw [view, own_wire_other, own_node_other, view]
    have mine : ∀ channel, (network.own side (.user op) poll).view side = some channel →
        ∃ earlier, network.view side = some earlier ∧ earlier.Agrees channel := by
      intro channel viewed
      rw [view, own_wire, own_node, wire_opens_nothing, Option.none_or,
        Node.openChannel_eq_some] at viewed
      rw [view, answers]
      exact coherent.open_after polled kept viewed
    exact inStep.views theirs mine
  · intro _ _ _ answered
    rw [own_wire] at answered
    exact absurd answered (wire_current _)
  · intro _ _ _ _ waits
    rw [own_node_other, rest] at waits
    cases waits

end Own

section Serve

variable {side : Side} {input : Input} {request : Request} {poll : Poll}

theorem Sound.idle_of_handler (sound : Sound parties network)
    (polled : network.poll parties side input = some (.handler request, poll)) :
    network.wire side = .idle := by
  refine sound.idle fun op asked closure holds => ?_
  cases operation_of_held polled holds

/-- Who waits for the acknowledgement of an opening and who found it on the chain
have the same one in mind. -/
theorem Solvent.same_opening (solvent : Solvent parties network) {tx proposed : NewChannelTx}
    {iAm0 role : Bool} {balance0 balance1 : Uint256} {channelId theirId : Bytes32}
    {address0 address1 : Address}
    (waits : (network.node side).entry = some (.otherCreating tx iAm0))
    (named : network.chain.hasOpened address0 address1 channelId)
    (leads : (network.node side.other).entry = some (.creating proposed role))
    (notified : (network.node side.other).running.map Running.closure =
      some (.fillNewNotified role balance0 balance1 theirId)) :
    tx.unsigned = proposed.unsigned ∧ channelId = theirId := by
  obtain ⟨other, creating, theirOpening⟩ := solvent.chained.notified side.other _ _ _ _ notified
  cases leads.symm.trans creating
  have myOpening := solvent.chained.opening_of_id solvent.sound
    (solvent.sound.otherCreating_signed waits) named
  exact Prod.mk.inj (solvent.chained.unique myOpening theirOpening)

theorem Solvent.same_reDraw (solvent : Solvent parties network) {tx proposed : ReDrawTx}
    {channel theirs : Channel}
    (waits : (network.node side).entry = some (.otherReDrawing tx channel))
    (checks : checking (network.node side).running = 1)
    (leads : (network.node side.other).entry = some (.reDrawing proposed theirs)) :
    tx.unsigned = proposed.unsigned := by
  obtain ⟨deal, leading, following⟩ := solvent.deal_of_checking checks
  rw [Node.phase, leads] at leading
  rw [Node.phase, waits] at following
  exact Deal.reDraw.inj
    ((Phase.following.inj following).trans (Phase.leading.inj leading).1.symm)

/-- While no answer is on a wire, the stored copies themselves agree. -/
theorem InStep.stored_agree (inStep : InStep parties network)
    (idle : network.wire side = .idle)
    (unanswered : ∀ result, network.wire side.other ≠ .answered result) :
    ∀ mine theirs, (network.node side).openChannel = some mine →
      (network.node side.other).openChannel = some theirs → theirs.Agrees mine := by
  have viewed : network.view side = (network.node side).openChannel := by
    rw [view, idle]
    rfl
  have other : network.view side.other = (network.node side.other).openChannel := by
    rw [view]
    cases shape : network.wire side.other with
    | answered result => exact absurd shape (unanswered result)
    | idle | sent | serving => rfl
  intro mine theirs
  rw [← viewed, ← other]
  exact fun mineViewed otherViewed =>
    (inStep.agrees side mine theirs mineViewed otherViewed).symm

theorem InStep.handled (inStep : InStep parties network) {op : UserOp} {closure : Closure}
    (polled : network.poll parties side input = some (.handler request, poll))
    (answers : ∀ answer call, input = .resume answer →
      (network.node side).running.map Running.call = some (.chain call) →
        network.chain.mayAnswer call answer = true)
    (asks : (network.node side.other).running = some ⟨.user op, .peer request, closure⟩)
    (unanswered : ∀ result, network.wire side.other ≠ .answered result) :
    (∀ reply, poll.next.outcome ≠ .answered (.ok (.maybeSeq (some reply)))) ∧
      (∀ mine theirs,
        ((network.node side).after (.handler request) poll).openChannel = some mine →
        (poll.next.outcome.opens (network.node side.other).running).or
          (network.node side.other).openChannel = some theirs → mine.Agrees theirs) ∧
      ∀ channel newBalance0 newBalance1, poll.next.outcome = .answered (.ok .unit) →
        closure = .reDrawNotified channel newBalance0 newBalance1 →
        ∃ theirs, ((network.node side).after (.handler request) poll).openChannel = some theirs ∧
          theirs.sequenceNumber.toNat = channel.sequenceNumber.toNat + 1 := by
  have solvent := inStep.solvent
  have coherent := solvent.sound.coherent side
  obtain ⟨counterparty, entry, held⟩ := (solvent.sound.coherent side.other).held _ asks
  have agree := inStep.stored_agree (solvent.sound.idle_of_handler polled) unanswered
  have first : closure ≠ .retryReply := by
    have first := inStep.first side.other
    rw [asks] at first
    exact fun same => first (congrArg some same)
  cases coherent.handles polled with
  | keeps kept silent current unacknowledged =>
      refine ⟨current, fun mine theirs opened opens => ?_,
        fun _ _ _ acknowledged => absurd acknowledged unacknowledged⟩
      rw [silent, Option.none_or] at opens
      exact (agree mine theirs (kept mine (Node.openChannel_eq_some.mp opened)) opens).symm
  | stale asked opened old =>
      -- the copies agree, so the first payment is newer
      subst asked
      obtain ⟨_, channel, _, rfl, -, pays, sent⟩ := held.pays first
      have agrees := agree _ channel opened (Node.openChannel_eq_some.mpr entry)
      exact absurd (agrees.newer pays sent) (Nat.not_lt.mpr old)
  | accepts asked opened accepted received next =>
      subst asked
      obtain ⟨_, channel, _, rfl, rfl, pays, sent⟩ := held.pays first
      have agrees := agree _ channel opened (Node.openChannel_eq_some.mpr entry)
      rw [next]
      refine ⟨nofun, fun mine theirs stored opens => ?_, fun _ _ _ => nofun⟩
      obtain rfl := Counterparty.opened.inj (Option.some.inj
        (received.symm.trans (Node.openChannel_eq_some.mp stored)))
      rw [asks] at opens
      obtain rfl := Option.some.inj opens
      exact (agrees.accepted pays sent accepted).symm
  | @opens tx iAm0 channelId address0 address1 asked waits holds found received next =>
      subst asked
      obtain ⟨proposed, role, theirId, rfl, rfl⟩ := held.notifies_opening
      rw [next]
      refine ⟨nofun, fun mine theirs stored opens => ?_, fun _ _ _ _ => nofun⟩
      obtain rfl := Counterparty.opened.inj (Option.some.inj
        (received.symm.trans (Node.openChannel_eq_some.mp stored)))
      rw [asks] at opens
      obtain rfl := Option.some.inj opens
      have named : network.chain.hasOpened address0 address1 channelId :=
        Chain.hasOpened_of_lookup (answers _ _ found (by rw [holds]; rfl))
      obtain ⟨sameTx, sameId⟩ := solvent.same_opening waits named entry (by rw [asks]; rfl)
      have balance0 : tx.unsigned.balance0 = proposed.unsigned.balance0 := by rw [sameTx]
      have balance1 : tx.unsigned.balance1 = proposed.unsigned.balance1 := by rw [sameTx]
      exact ⟨sameId, rfl, balance0, balance1⟩
  | @redraws tx channel reDrawn asked waits checks received counted next =>
      subst asked
      obtain ⟨proposed, theirs, _, _, rfl, rfl, above⟩ := held.notifies_reDraw
      rw [next]
      refine ⟨nofun, fun _ _ _ opens => ?_, ?_⟩
      · rw [asks, Option.or_eq_some_iff] at opens
        rcases opens with opens | ⟨-, opens⟩
        · cases opens
        · cases entry.symm.trans (Node.openChannel_eq_some.mp opens)
      · rintro _ _ _ - ⟨⟩
        refine ⟨reDrawn, Node.openChannel_eq_some.mpr received, ?_⟩
        have same := solvent.same_reDraw waits checks entry
        rw [counted, ← above]
        exact congrArg (fun tx => tx.sequenceNumber.toNat) same

theorem InStep.serve (inStep : InStep parties network)
    (stepped : network.step parties event =
      some (network.serve side (.handler request) poll poll.next.outcome))
    (polled : network.poll parties side input = some (.handler request, poll))
    (answers : ∀ answer call, input = .resume answer →
      (network.node side).running.map Running.call = some (.chain call) →
        network.chain.mayAnswer call answer = true)
    (asks : ∃ op closure,
      (network.node side.other).running = some ⟨.user op, .peer request, closure⟩)
    (unanswered : ∀ result, network.wire side.other ≠ .answered result) :
    InStep parties (network.serve side (.handler request) poll poll.next.outcome) := by
  obtain ⟨op, closure, asks⟩ := asks
  obtain ⟨current, agrees, reDrawn⟩ := inStep.handled polled answers asks unanswered
  have coherent := inStep.solvent.sound.coherent side
  have serving : ∀ running, poll.running (.handler request) = some running →
      poll.next.outcome = .serving := by
    intro running
    unfold Poll.running Next.outcome
    cases poll.next with
    | resolved => exact nofun
    | suspended => exact fun _ => rfl
  have finished : poll.next.outcome = .serving ∨ poll.running (.handler request) = none := by
    cases shape : poll.running (.handler request) with
    | none => exact .inr rfl
    | some running => exact .inl (serving running shape)
  refine ⟨inStep.solvent.step stepped, (side.forall_iff).mpr ⟨?_, ?_⟩,
    (side.forall_iff).mpr ⟨?_, ?_⟩, (side.forall_iff).mpr ⟨?_, ?_⟩,
    (side.forall_iff).mpr ⟨?_, ?_⟩, views_agree side ?_, (side.forall_iff).mpr ⟨?_, ?_⟩⟩
  · intro _ _ _ holds
    rw [serve_node] at holds
    cases running_operation holds
  · intro _ _ _ _
    rw [Side.other_other, serve_wire_other, serve_node]
    exact finished
  · intro _ _ _ holds
    rw [serve_node] at holds
    rw [serve_wire_other]
    exact serving _ holds
  · intro _ _ _ holds
    rw [serve_node_other, asks] at holds
    cases holds
  · rw [serve_node]
    intro retries
    obtain ⟨⟨_, _, _⟩, holds, rfl⟩ := Option.map_eq_some_iff.mp retries
    obtain rfl := running_operation holds
    obtain ⟨_, -, held⟩ := coherent.held_after polled _ holds
    cases held
  · rw [serve_node_other]
    exact inStep.first side.other
  · rw [serve_wire]
    exact inStep.current side
  · rw [serve_wire_other]
    exact current
  · intro mine theirs
    rw [view, view, serve_wire, inStep.solvent.sound.idle_of_handler polled, serve_node,
      serve_wire_other, serve_node_other]
    exact agrees mine theirs
  · intro _ _ _ answered
    rw [serve_wire, inStep.solvent.sound.idle_of_handler polled] at answered
    cases answered
  · intro _ _ _ answered waits
    rw [serve_wire_other] at answered
    rw [serve_node_other, asks] at waits
    rw [Side.other_other, serve_node]
    exact reDrawn _ _ _ answered (Option.some.inj waits)

end Serve

theorem inStep_fresh : InStep parties fresh where
  solvent := solvent_fresh
  user := by simp [fresh, Node.fresh]
  handler := by simp [fresh, Node.fresh]
  first := by simp [fresh, Node.fresh]
  current := by simp [fresh]
  agrees := by simp [view, fresh, Node.fresh, Node.openChannel, Wire.opens]
  reDrawn := by simp [fresh]

/-- Every orderly step that completes no redraw keeps the nodes in step. -/
theorem InStep.step (inStep : InStep parties before) (kept : lossless event = true)
    (starts : before.StartsAtRest event) (uncompleted : before.completesReDraw event = false)
    (stepped : before.step parties event = some after) : InStep parties after := by
  have sound := inStep.solvent.sound
  cases change_of_step stepped with
  | @started side op _ _ polled =>
      obtain ⟨none, rfl, -⟩ := poll_start polled
      have idle := @Sound.idle _ _ side sound (by simp [none])
      refine inStep.own stepped polled (starts side.other) ?_ (fun _ _ _ => nofun)
        (fun _ => nofun)
      rw [idle]
      rfl
  | @chainAnswered side answer op call closure _ _ holds answers polled =>
      obtain rfl := operation_of_held polled holds
      obtain ⟨counterparty, -, held⟩ := (sound.coherent side).held _ holds
      have idle := @Sound.idle _ _ side sound (by simp [holds])
      refine inStep.own stepped polled ?_ ?_ ?_ ?_
      · exact (inStep.user side _ _ _ holds).resolve_left (by rw [idle]; exact nofun)
      · rw [idle, holds]
        cases opens : closure.opens answer with
        | none => exact opens.symm
        | some channel =>
            obtain ⟨_, calls⟩ := held.opens_peer opens
            cases calls
      · rintro _ result ran ⟨⟩
        obtain rfl := Option.some.inj (holds.symm.trans ran)
        rw [Bool.eq_false_iff]
        intro completes
        obtain ⟨_, calls⟩ := held.notified (Closure.notified_of_completes completes)
        cases calls
      · rintro reply ⟨⟩
        cases call <;> cases answers
  | @lookedUp side answer request call closure _ poll holds answers polled =>
      obtain rfl := operation_of_held polled holds
      have serving := inStep.handler side _ _ _ holds
      rw [serving] at stepped ⊢
      have wire := sound.wires side.other
      rw [serving, Side.other_other, holds] at wire
      obtain ⟨op, _, asked, _, _, asks, same⟩ := wire.served
      cases same
      refine inStep.serve stepped polled ?_ ⟨op, asked, asks⟩ ?_
      · rintro _ other ⟨⟩ calls
        rw [holds] at calls
        cases calls
        exact answers
      · rw [serving]
        exact nofun
  | @delivered side request _ _ sent polled =>
      obtain ⟨-, rfl, -⟩ := poll_request polled
      have wire := sound.wires side
      rw [sent] at wire
      obtain ⟨op, closure, asks⟩ := wire.asks
      refine inStep.serve stepped polled (fun _ _ => nofun) ⟨op, closure, ?_⟩ ?_
      · rwa [Side.other_other]
      · rw [Side.other_other, sent]
        exact nofun
  | orphanDelivered | gaveUp => cases kept
  | @replied side result _ _ answered polled =>
      obtain ⟨op, _, _, holds⟩ := (sound.wires side).waits (by rw [answered]; exact nofun)
      obtain rfl := operation_of_held polled holds
      refine inStep.own stepped polled ?_ ?_ ?_ ?_
      · exact (inStep.user side _ _ _ holds).resolve_left (by rw [answered]; exact nofun)
      · rw [answered]
        rfl
      · rintro running _ ran ⟨⟩
        rw [completesReDraw, answered, ran] at uncompleted
        exact uncompleted
      · rintro reply ⟨⟩
        exact inStep.current side reply answered
  | opened | reDrawn =>
      exact ⟨inStep.solvent.step stepped, inStep.user, inStep.handler, inStep.first,
        inStep.current, inStep.agrees, inStep.reDrawn⟩

/-- If the nodes are at rest and both open, they agree. -/
def AgreesAtRest (network : Network) : Prop :=
  network.Quiescent → ∀ side mine theirs, (network.node side).entry = some (.opened mine) →
    (network.node side.other).entry = some (.opened theirs) →
      mine.Agrees theirs ∧ mine.iAm0 = !theirs.iAm0

theorem Sound.role_of_open (sound : Sound parties network) {side : Side} {channel : Channel}
    (opened : (network.node side).entry = some (.opened channel)) :
    channel.iAm0 = role parties side := by
  have backed := (sound.coherent side).backed
  rw [opened] at backed
  exact backed

theorem Sound.roles_differ {side : Side} {mine theirs : Channel}
    (sound : Sound parties network)
    (distinct : (parties .a).ownAddress ≠ (parties .b).ownAddress)
    (opened : (network.node side).entry = some (.opened mine))
    (others : (network.node side.other).entry = some (.opened theirs)) :
    mine.iAm0 = !theirs.iAm0 := by
  rw [sound.role_of_open opened, sound.role_of_open others]
  exact role_other distinct side

theorem InStep.atRest (distinct : (parties .a).ownAddress ≠ (parties .b).ownAddress)
    (inStep : InStep parties network) : network.AgreesAtRest := by
  intro quiescent side mine theirs opened others
  have sound := inStep.solvent.sound
  have viewed : ∀ side channel, (network.node side).entry = some (.opened channel) →
      network.view side = some channel := by
    intro side channel opened
    rw [view, sound.idle_at_rest quiescent side]
    exact Node.openChannel_eq_some.mpr opened
  exact ⟨inStep.agrees side _ _ (viewed side _ opened) (viewed side.other _ others),
    sound.roles_differ distinct opened others⟩

/-- The end of a redraw leaves its initiator one sequence number behind. -/
theorem InStep.apart (inStep : InStep parties before)
    (completes : before.completesReDraw event = true)
    (stepped : before.step parties event = some after) : ¬ after.AgreesAtRest := by
  intro agrees
  cases change_of_step stepped with
  | @replied side result _ _ answered polled =>
      obtain ⟨op, request, closure, holds⟩ :=
        (inStep.solvent.sound.wires side).waits (by rw [answered]; exact nofun)
      obtain ⟨_, same, rfl, resumed⟩ := poll_resume polled
      obtain rfl := Option.some.inj (holds.symm.trans same)
      simp only [completesReDraw, answered, holds, Option.any_some] at completes
      unfold Closure.completesReDraw at completes
      split at completes
      next channel newBalance0 newBalance1 =>
        obtain rfl := Option.some.inj resumed
        obtain ⟨theirs, opened, ahead⟩ := inStep.reDrawn side _ _ _ answered (by rw [holds]; rfl)
        have rest : (before.node side.other).running = none :=
          (inStep.user side _ _ _ holds).resolve_left (by rw [answered]; exact nofun)
        have quiescent : Quiescent (before.own side (.user op) (.succeed (some (.opened
            { channel with balance0 := newBalance0, balance1 := newBalance1 })) .unit)) := by
          refine (side.forall_iff).mpr ⟨?_, ?_⟩
          · rw [own_node]
            rfl
          · rw [own_node_other]
            exact rest
        obtain ⟨⟨_, counted, _, _⟩, -⟩ := agrees quiescent side _ theirs
          (by rw [own_node]; rfl)
          (by rw [own_node_other]; exact Node.openChannel_eq_some.mp opened)
        rw [← counted] at ahead
        exact absurd ahead (Nat.ne_of_lt (Nat.lt_succ_self _))
      next => cases completes
  | _ => cases completes

section Runs

variable {taken : List (Transition Network NetworkEvent)}

theorem inStep_of_run (run : (machine parties).Run fresh taken network)
    (kept : ∀ transition ∈ taken, lossless transition.event = true)
    (starts : ∀ transition ∈ taken, transition.before.StartsAtRest transition.event)
    (uncompleted : ∀ transition ∈ taken,
      transition.before.completesReDraw transition.event = false) : InStep parties network :=
  run.invariant_of_guard (InStep parties)
    (fun before event => lossless event = true ∧ before.StartsAtRest event ∧
      before.completesReDraw event = false) inStep_fresh
    (fun _ _ _ inStep guarded stepped => inStep.step guarded.1 guarded.2.1 guarded.2.2 stepped)
    fun transition member =>
      ⟨kept transition member, starts transition member, uncompleted transition member⟩

/-- A property that nodes in step have, and that nodes apart do not, holds all along
a run if and only if no redraw is completed on it. -/
theorem uncompleted_iff {Holds : Network → Prop}
    (run : (machine parties).Run fresh taken network)
    (kept : ∀ transition ∈ taken, lossless transition.event = true)
    (starts : ∀ transition ∈ taken, transition.before.StartsAtRest transition.event)
    (agrees : ∀ transition ∈ taken, Holds transition.after → transition.after.AgreesAtRest)
    (holds : ∀ transition ∈ taken, InStep parties transition.after → Holds transition.after) :
    (∀ transition ∈ taken, Holds transition.after) ↔
      ∀ transition ∈ taken, transition.before.completesReDraw transition.event = false := by
  -- the part of the run before each transition is in step on either side
  induction run with
  | nil => simp
  | @snoc taken state next event earlier stepped inductionHypothesis =>
      simp only [List.forall_mem_append, List.forall_mem_singleton] at kept starts agrees holds ⊢
      rw [inductionHypothesis kept.1 starts.1 agrees.1 holds.1]
      refine and_congr_right fun uncompleted => ?_
      have inStep := inStep_of_run earlier kept.1 starts.1 uncompleted
      constructor
      · intro held
        rw [Bool.eq_false_iff]
        exact fun completes => inStep.apart completes stepped (agrees.2 held)
      · intro uncompleted
        exact holds.2 (inStep.step kept.2 starts.2 uncompleted stepped)

/-- While nothing is lost and operations run one after another, two distinct nodes
agree at rest all along a run if and only if no redraw is completed on it. -/
theorem agreement_at_quiescence_iff
    (distinct : (parties .a).ownAddress ≠ (parties .b).ownAddress)
    (run : (machine parties).Run fresh taken network)
    (kept : ∀ transition ∈ taken, lossless transition.event = true)
    (starts : ∀ transition ∈ taken, transition.before.StartsAtRest transition.event) :
    (∀ transition ∈ taken, transition.after.AgreesAtRest) ↔
      ∀ transition ∈ taken, transition.before.completesReDraw transition.event = false :=
  uncompleted_iff run kept starts (fun _ _ agrees => agrees)
    fun _ _ inStep => inStep.atRest distinct

end Runs

/-- Payments both ways over a channel that is opened first. -/
theorem agreement_at_quiescence_iff_payments :
    let events := Sample.opening ++
      [.start .a (.makePayment 3), .deliver .a, .reply .a, .start .b (.makePayment 1),
        .deliver .b, .reply .b]
    ∃ network ∈ (machine Sample.parties).replay fresh events,
      (network.node .a).openChannel.map Channel.sequenceNumber = some 2 ∧
        ((∀ transition ∈ (machine Sample.parties).trace fresh events,
            transition.after.AgreesAtRest) ↔
          ∀ transition ∈ (machine Sample.parties).trace fresh events,
            transition.before.completesReDraw transition.event = false) := by
  intro events
  obtain ⟨network, reached, counted⟩ : ∃ network ∈ (machine Sample.parties).replay fresh events,
      (network.node .a).openChannel.map Channel.sequenceNumber = some 2 := by
    decide +kernel
  exact ⟨network, reached, counted, agreement_at_quiescence_iff (by decide)
    (Machine.run_of_replay reached) (by decide +kernel) (by decide +kernel)⟩

/-- Node 1 adds to the channel it opened: with nothing lost and nothing
concurrent the nodes end up apart. -/
theorem redraw_disagrees :
    ∃ taken network, (machine Sample.parties).Run fresh taken network ∧
      (∀ transition ∈ taken, lossless transition.event = true) ∧
      (∀ transition ∈ taken, transition.before.StartsAtRest transition.event) ∧
      ¬ network.AgreesAtRest := by
  obtain ⟨network, reached, opened, others, quiescent⟩ :
      ∃ network ∈ (machine Sample.parties).replay fresh
          (Sample.opening ++ Sample.adding ++ [.reply .a]),
        (network.node .a).entry = some (.opened ⟨7, 0, 15, 0, 0, true⟩) ∧
          (network.node .b).entry = some (.opened ⟨7, 1, 15, 0, 0, false⟩) ∧
          network.Quiescent := by
    decide +kernel
  refine ⟨_, network, Machine.run_of_replay reached, by decide +kernel, by decide +kernel, ?_⟩
  intro agrees
  have counted := (agrees quiescent .a _ _ opened others).1.sequenceNumber
  exact absurd counted (by decide)

end Network

end Guac
