import Guac.Network.Solvency

/-!
Owns the agreement of two nodes on the channel they open. Along every run the
first channel of a node comes from the one opening on the chain, and the two
nodes take the two different roles in it: one initiated it with its own
`fill_channel`, the other answered it.
-/

set_option autoImplicit false

namespace Guac

open Foundation

namespace Network

/-- The channel a side is open with after a transition. -/
def opensWith (side : Side) (transition : Transition Network NetworkEvent) : Option Channel :=
  match (transition.after.node side).entry with
  | some (.opened channel) => some channel
  | _ => none

/-- The channel with which a side first becomes open. -/
def firstOpen (taken : List (Transition Network NetworkEvent)) (side : Side) : Option Channel :=
  taken.findSome? (opensWith side)

/-- The side started a fill of this amount, and opened with the channel at its end. -/
structure Filled (taken : List (Transition Network NetworkEvent)) (side : Side)
    (amount : Uint256) (channel : Channel) : Prop where
  started : ∃ transition ∈ taken, transition.event = .start side (.fillChannel amount)
  completed : ∃ transition ∈ taken, opensWith side transition = some channel ∧
    (transition.before.node side).running.map Running.operation =
      some (.user (.fillChannel amount))

/-- The channels two sides first open with: the initiator holds what it filled,
the responder nothing, and they agree on everything but the role. -/
structure OpeningAgrees (amount : Uint256) (initiator responder : Channel) : Prop where
  channelId : initiator.channelId = responder.channelId
  sequenceNumber : initiator.sequenceNumber = 0 ∧ responder.sequenceNumber = 0
  balance0 : initiator.balance0 = responder.balance0
  balance1 : initiator.balance1 = responder.balance1
  roles : initiator.iAm0 = !responder.iAm0
  filled : initiator.myBalance = amount
  nothing : responder.myBalance = 0

section Roles

variable (parties : Side → Crypto) (taken : List (Transition Network NetworkEvent))
  (network : Network) (side : Side)

def role : Bool := (parties side).role (parties side.other).ownAddress

/-- The channel of an opening this side filled. -/
def Initiated (channel : Channel) (amount : Uint256) : Prop :=
  Filled taken side amount channel ∧
    ∃ tx channelId expiration, (tx.unsigned, channelId) ∈ network.chain.opened ∧
      tx = proposedChannel (parties side) (parties side.other).ownAddress (role parties side)
        amount expiration ∧ channel = tx.channel channelId (role parties side)

/-- The channel of an opening this side answered. -/
def Responded (channel : Channel) : Prop :=
  ∃ tx channelId, (tx.unsigned, channelId) ∈ network.chain.opened ∧
    ProposalOk (parties side) (parties side.other).ownAddress (role parties side) tx ∧
    channel = tx.channel channelId (role parties side)

/-- The side waits for its own opening, or its first channel came from it. -/
structure Initiates : Prop where
  waits : firstOpen taken side = none →
    ∃ tx iAm0, (network.node side).entry = some (.creating tx iAm0)
  opened : ∀ channel, firstOpen taken side = some channel →
    ∃ amount, Initiated parties taken network side channel amount

/-- The side waits for the other's opening, or its first channel came from it. -/
structure Responds : Prop where
  waits : firstOpen taken side = none →
    ∃ tx iAm0, (network.node side).entry = some (.otherCreating tx iAm0)
  opened : ∀ channel, firstOpen taken side = some channel →
    Responded parties network side channel

/-- Who has opened took one role, and the other side takes the other. -/
structure Story : Prop where
  unopened : ∀ side, firstOpen taken side = none → (network.node side).channel = none
  roles : ∀ side channel, firstOpen taken side = some channel →
    (Initiates parties taken network side ∧ Responds parties taken network side.other) ∨
      (Responds parties taken network side ∧ Initiates parties taken network side.other)

end Roles

variable {parties : Side → Crypto} {taken : List (Transition Network NetworkEvent)}
  {before after network : Network} {event : NetworkEvent} {side : Side}

theorem opensWith_eq_some {transition : Transition Network NetworkEvent} {channel : Channel} :
    opensWith side transition = some channel ↔
      (transition.after.node side).entry = some (.opened channel) := by
  unfold opensWith
  split
  next opened found => simp [found]
  next closed =>
    constructor
    · exact nofun
    · intro found
      exact absurd found (closed channel)

theorem firstOpen_snoc {last : Transition Network NetworkEvent} :
    firstOpen (taken ++ [last]) side = (firstOpen taken side).or (opensWith side last) := by
  rw [firstOpen, List.findSome?_append, List.findSome?_singleton]
  rfl

theorem Polls.running {input : Input} {operation : Operation} {poll : Poll} {op : UserOp}
    {call : Call} {closure : Closure}
    (polls : Polls parties before event side input operation poll)
    (holds : poll.running operation = some ⟨.user op, call, closure⟩) :
    event = .start side op ∨
      (before.node side).running.map Running.operation = some (.user op) := by
  have belongs : operation = .user op := by
    unfold Poll.running at holds
    split at holds
    · cases holds
    · exact congrArg Running.operation (Option.some.inj holds)
  have asked := operation_of_poll polls.polled
  rw [belongs] at asked
  cases input with
  | start other =>
      cases asked
      exact .inl (polls.starts _ rfl)
  | request => cases asked
  | resume => exact .inr asked

theorem started_of_run (run : (machine parties).Run fresh taken network) :
    ∀ side op, (network.node side).running.map Running.operation = some (.user op) →
      ∃ transition ∈ taken, transition.event = .start side op := by
  induction run with
  | nil => simp [fresh, Node.fresh]
  | @snoc taken before after event run stepped inductionHypothesis =>
      intro side op holds
      have earlier := fun ran =>
        (inductionHypothesis side op ran).imp fun _ started =>
          And.intro (List.mem_append_left [Transition.mk before event after] started.1) started.2
      rcases (sound_of_run run).node_of_step stepped side with same | ⟨_, _, _, polls, changed⟩
      · rw [same] at holds
        exact earlier holds
      · rw [changed] at holds
        obtain ⟨⟨_, call, closure⟩, ran, rfl⟩ := Option.map_eq_some_iff.mp holds
        rcases polls.running ran with started | ran
        · exact ⟨_, List.mem_append_right _ List.mem_cons_self, started⟩
        · exact earlier ran

theorem opened_mono (stepped : before.step parties event = some after) :
    ∀ opening ∈ before.chain.opened, opening ∈ after.chain.opened := by
  intro opening member
  rcases opened_of_step stepped with same | ⟨_, _, _, _, changed⟩
  · rwa [same]
  · rw [changed]
    exact List.mem_append_left _ member

/-- The peer of a node that leads the opening on the chain follows it, unless it
stores a channel already. -/
theorem Solvent.follower (solvent : Solvent parties network) {tx : NewChannelTx} {iAm0 : Bool}
    {channelId : Bytes32} (entry : (network.node side).entry = some (.creating tx iAm0))
    (opened : (tx.unsigned, channelId) ∈ network.chain.opened)
    (unstored : (network.node side.other).channel = none) :
    ∃ tx iAm0, (network.node side.other).entry = some (.otherCreating tx iAm0) := by
  have signed := bothSigned_iff.mp (solvent.chained.signed _ opened) side.other
  have backed := (solvent.sound.coherent side.other).backed
  have alone := (solvent.handed.sided side).alone (.opening tx.unsigned)
    (told (network.node side).running) (by
      change (network.node side).phase = _
      rw [Node.phase, entry]
      rfl)
  change ∀ deal done, (network.node side.other).phase ≠ .leading deal done at alone
  rw [Node.phase] at alone
  rw [Node.channel] at unstored
  cases found : (network.node side.other).entry with
  | none =>
      rw [found] at backed
      rw [show (network.node side.other).signed = [] from backed] at signed
      cases signed
  | some counterparty =>
      rw [found] at backed alone unstored
      cases counterparty with
      | new =>
          rw [backed.2] at signed
          cases signed
      | creating => exact absurd rfl (alone _ _)
      | otherCreating => exact ⟨_, _, rfl⟩
      | reDrawing | otherReDrawing | opened => cases unstored

/-- The peer of a node that acts on the notice of an opening leads it, unless it
stores a channel already. -/
theorem Solvent.leader (solvent : Solvent parties network)
    (checks : checking (network.node side).running = 1)
    (unstored : (network.node side.other).channel = none) :
    ∃ tx iAm0, (network.node side.other).entry = some (.creating tx iAm0) := by
  obtain ⟨deal, leads, -⟩ := solvent.deal_of_checking checks
  rw [Node.phase] at leads
  rw [Node.channel] at unstored
  cases found : (network.node side.other).entry with
  | none =>
      rw [found] at leads
      cases leads
  | some counterparty =>
      rw [found] at leads unstored
      cases counterparty with
      | creating => exact ⟨_, _, rfl⟩
      | new | otherCreating => cases leads
      | reDrawing | otherReDrawing | opened => cases unstored

/-- How a node comes to its first channel in one step. -/
inductive Opens (parties : Side → Crypto) (taken : List (Transition Network NetworkEvent))
    (before after : Network) (side : Side) (channel : Channel) : Prop
  | proposer {tx : NewChannelTx} {iAm0 : Bool} {amount : Uint256}
      (entry : (before.node side).entry = some (.creating tx iAm0))
      (theirs : (before.node side.other).channel = none →
        ∃ tx iAm0, (before.node side.other).entry = some (.otherCreating tx iAm0))
      (initiated : Initiated parties taken after side channel amount)
  | responder {tx : NewChannelTx} {iAm0 : Bool}
      (entry : (before.node side).entry = some (.otherCreating tx iAm0))
      (theirs : (before.node side.other).channel = none →
        ∃ tx iAm0, (before.node side.other).entry = some (.creating tx iAm0))
      (responded : Responded parties after side channel)

/-- A first channel comes from the opening on the chain. -/
theorem opens_of_step {channel : Channel} (run : (machine parties).Run fresh taken before)
    (stepped : before.step parties event = some after)
    (unstored : (before.node side).channel = none)
    (stored : (after.node side).channel = some channel) :
    Opens parties (taken ++ [⟨before, event, after⟩]) before after side channel := by
  have solvent := solvent_of_run run
  have coherent := solvent.sound.coherent side
  have backed := coherent.backed
  rcases solvent.sound.node_of_step stepped side with same | ⟨_, _, _, polls, changed⟩
  · rw [same, unstored] at stored
    cases stored
  rw [changed] at stored
  have entered := coherent.opens_first polls.polled unstored stored
  rw [← changed] at entered
  cases coherent.channelFrom polls.polled stored with
  | kept had =>
      rw [unstored] at had
      cases had
  | @proposer tx iAm0 amount channelId entry holds =>
      rw [entry] at backed
      obtain ⟨rfl, -⟩ := backed
      obtain ⟨_, found, held⟩ := coherent.held _ holds
      cases entry.symm.trans found
      obtain ⟨other, found, opened⟩ :=
        solvent.chained.notified side _ _ _ _ (by rw [holds]; rfl)
      cases entry.symm.trans found
      cases held with
      | fillNewNotified _ _ expiration _ proposed =>
          have fills : (before.node side).running.map Running.operation =
              some (.user (.fillChannel amount)) := by
            rw [holds]
            rfl
          obtain ⟨start, member, started⟩ := started_of_run run side _ fills
          refine .proposer entry (solvent.follower entry opened) ⟨⟨?_, ?_⟩, tx, channelId,
            expiration, opened_mono stepped _ opened, proposed, rfl⟩
          · exact ⟨start, List.mem_append_left _ member, started⟩
          · exact ⟨_, List.mem_append_right _ List.mem_cons_self,
              opensWith_eq_some.mpr entered, fills⟩
  | @responder tx iAm0 channelId address0 address1 entry holds found =>
      rw [entry] at backed
      obtain ⟨rfl, -, checked⟩ := backed
      have answered := polls.answers _ _ found (by rw [holds]; rfl)
      have opened := solvent.chained.opening_of_id solvent.sound
        (solvent.sound.otherCreating_signed entry) (Chain.hasOpened_of_lookup answered)
      exact .responder entry (solvent.leader (by rw [holds]; rfl))
        ⟨tx, channelId, opened_mono stepped _ opened, checked, rfl⟩

theorem Initiated.mono {channel : Channel} {amount : Uint256}
    {last : Transition Network NetworkEvent}
    (initiated : Initiated parties taken before side channel amount)
    (grows : ∀ opening ∈ before.chain.opened, opening ∈ after.chain.opened) :
    Initiated parties (taken ++ [last]) after side channel amount := by
  obtain ⟨⟨started, completed⟩, tx, channelId, expiration, opened, same⟩ := initiated
  refine ⟨⟨?_, ?_⟩, tx, channelId, expiration, grows _ opened, same⟩
  · exact started.imp fun _ found => ⟨List.mem_append_left _ found.1, found.2⟩
  · exact completed.imp fun _ found => ⟨List.mem_append_left _ found.1, found.2⟩

theorem Responded.mono {channel : Channel} (responded : Responded parties before side channel)
    (grows : ∀ opening ∈ before.chain.opened, opening ∈ after.chain.opened) :
    Responded parties after side channel := by
  obtain ⟨tx, channelId, opened, same⟩ := responded
  exact ⟨tx, channelId, grows _ opened, same⟩

section Step

variable (run : (machine parties).Run fresh taken before) (story : Story parties taken before)
  (stepped : before.step parties event = some after)
include run story stepped

theorem Story.still_unopened
    (closed : firstOpen (taken ++ [⟨before, event, after⟩]) side = none) :
    (after.node side).channel = none := by
  rw [firstOpen_snoc, Option.or_eq_none_iff] at closed
  have unstored := story.unopened side closed.1
  refine Option.eq_none_iff_forall_ne_some.mpr fun channel stored => ?_
  have sound := sound_of_run run
  rcases sound.node_of_step stepped side with same | ⟨_, _, _, polls, changed⟩
  · rw [same, unstored] at stored
    cases stored
  · rw [changed] at stored
    have entry := (sound.coherent side).opens_first polls.polled unstored stored
    rw [← changed] at entry
    have opened := (@opensWith_eq_some side ⟨before, event, after⟩ channel).mpr entry
    rw [closed.2] at opened
    cases opened

theorem Story.waits {counterparty : Counterparty}
    (closed : firstOpen (taken ++ [⟨before, event, after⟩]) side = none)
    (entry : (before.node side).entry = some counterparty)
    (signed : ∀ iAm0, counterparty ≠ .new iAm0) :
    (after.node side).entry = some counterparty := by
  have unstored := story.still_unopened run stepped closed
  have sound := sound_of_run run
  rcases sound.node_of_step stepped side with same | ⟨_, _, _, polls, changed⟩
  · rw [same, entry]
  · rw [changed] at unstored ⊢
    exact (sound.coherent side).awaits_opening polls.polled entry signed unstored

/-- What a side opens with in this step, if it had not opened before. -/
theorem Story.opens {channel : Channel} (closed : firstOpen taken side = none)
    (first : firstOpen (taken ++ [⟨before, event, after⟩]) side = some channel) :
    Opens parties (taken ++ [⟨before, event, after⟩]) before after side channel := by
  rw [firstOpen_snoc, closed, Option.none_or, opensWith_eq_some] at first
  exact opens_of_step run stepped (story.unopened side closed) (Node.channel_of_opened first)

theorem Initiates.step (initiates : Initiates parties taken before side) :
    Initiates parties (taken ++ [⟨before, event, after⟩]) after side := by
  constructor
  · intro closed
    have earlier := closed
    rw [firstOpen_snoc, Option.or_eq_none_iff] at earlier
    obtain ⟨tx, iAm0, entry⟩ := initiates.waits earlier.1
    exact ⟨tx, iAm0, story.waits run stepped closed entry nofun⟩
  · intro channel first
    cases earlier : firstOpen taken side with
    | none =>
        obtain ⟨tx, iAm0, entry⟩ := initiates.waits earlier
        cases story.opens run stepped earlier first with
        | proposer _ _ initiated => exact ⟨_, initiated⟩
        | responder other => cases entry.symm.trans other
    | some opened =>
        rw [firstOpen_snoc, earlier, Option.some_or, Option.some.injEq] at first
        obtain ⟨amount, initiated⟩ := initiates.opened opened earlier
        exact ⟨amount, first ▸ initiated.mono (opened_mono stepped)⟩

theorem Responds.step (responds : Responds parties taken before side) :
    Responds parties (taken ++ [⟨before, event, after⟩]) after side := by
  constructor
  · intro closed
    have earlier := closed
    rw [firstOpen_snoc, Option.or_eq_none_iff] at earlier
    obtain ⟨tx, iAm0, entry⟩ := responds.waits earlier.1
    exact ⟨tx, iAm0, story.waits run stepped closed entry nofun⟩
  · intro channel first
    cases earlier : firstOpen taken side with
    | none =>
        obtain ⟨tx, iAm0, entry⟩ := responds.waits earlier
        cases story.opens run stepped earlier first with
        | proposer other => cases entry.symm.trans other
        | responder _ _ responded => exact responded
    | some opened =>
        rw [firstOpen_snoc, earlier, Option.some_or, Option.some.injEq] at first
        exact first ▸ (responds.opened opened earlier).mono (opened_mono stepped)

theorem Story.opening_roles {channel : Channel} (closed : firstOpen taken side = none)
    (first : firstOpen (taken ++ [⟨before, event, after⟩]) side = some channel) :
    (Initiates parties taken before side ∧ Responds parties taken before side.other) ∨
      (Responds parties taken before side ∧ Initiates parties taken before side.other) := by
  have unopened : ∀ opened, firstOpen taken side ≠ some opened := by
    rw [closed]
    exact nofun
  cases story.opens run stepped closed first with
  | proposer entry theirs =>
      refine .inl ⟨⟨fun _ => ⟨_, _, entry⟩, fun _ opened => absurd opened (unopened _)⟩, ?_⟩
      cases opened : firstOpen taken side.other with
      | none =>
          exact ⟨fun _ => theirs (story.unopened _ opened), fun _ some =>
            nomatch opened.symm.trans some⟩
      | some other =>
          rcases story.roles side.other other opened with ⟨-, responds⟩ | ⟨responds, -⟩
          · rw [Side.other_other] at responds
            obtain ⟨_, _, waits⟩ := responds.waits closed
            cases entry.symm.trans waits
          · exact responds
  | responder entry theirs =>
      refine .inr ⟨⟨fun _ => ⟨_, _, entry⟩, fun _ opened => absurd opened (unopened _)⟩, ?_⟩
      cases opened : firstOpen taken side.other with
      | none =>
          exact ⟨fun _ => theirs (story.unopened _ opened), fun _ some =>
            nomatch opened.symm.trans some⟩
      | some other =>
          rcases story.roles side.other other opened with ⟨initiates, -⟩ | ⟨-, initiates⟩
          · exact initiates
          · rw [Side.other_other] at initiates
            obtain ⟨_, _, waits⟩ := initiates.waits closed
            cases entry.symm.trans waits

theorem Story.step : Story parties (taken ++ [⟨before, event, after⟩]) after := by
  refine ⟨fun side closed => story.still_unopened run stepped closed, ?_⟩
  intro side channel first
  have roles : (Initiates parties taken before side ∧ Responds parties taken before side.other) ∨
      (Responds parties taken before side ∧ Initiates parties taken before side.other) := by
    cases opened : firstOpen taken side with
    | none => exact story.opening_roles run stepped opened first
    | some earlier => exact story.roles side earlier opened
  rcases roles with ⟨initiates, responds⟩ | ⟨responds, initiates⟩
  · exact .inl ⟨initiates.step run story stepped, responds.step run story stepped⟩
  · exact .inr ⟨responds.step run story stepped, initiates.step run story stepped⟩

end Step

theorem story_of_run (run : (machine parties).Run fresh taken network) :
    Story parties taken network := by
  induction run with
  | nil => exact ⟨fun _ _ => rfl, nofun⟩
  | snoc earlier stepped inductionHypothesis =>
      exact inductionHypothesis.step earlier stepped

theorem role_other (distinct : (parties .a).ownAddress ≠ (parties .b).ownAddress) (side : Side) :
    role parties side = !role parties side.other := by
  unfold role Crypto.role
  rw [Side.other_other]
  have apart : (parties side).ownAddress ≠ (parties side.other).ownAddress := by
    cases side
    · exact distinct
    · exact distinct.symm
  have differ : (parties side).ownAddress.toNat ≠ (parties side.other).ownAddress.toNat :=
    fun same => apart (BitVec.eq_of_toNat_eq same)
  rw [← decide_not, decide_eq_decide, BitVec.lt_def, BitVec.lt_def]
  omega

/-- The channels of the two roles agree. -/
theorem Initiated.agrees {initiator responder : Channel} {amount : Uint256}
    (initiated : Initiated parties taken network side initiator amount)
    (responded : Responded parties network side.other responder) (chained : Chained network)
    (opposite : role parties side = !role parties side.other) :
    OpeningAgrees amount initiator responder := by
  obtain ⟨-, tx, channelId, expiration, opened, proposed, rfl⟩ := initiated
  obtain ⟨theirTx, theirId, theirOpened, checked, rfl⟩ := responded
  obtain ⟨sameTx, sameId⟩ := Prod.mk.inj (chained.unique opened theirOpened)
  have balance0 : tx.unsigned.balance0 = theirTx.unsigned.balance0 := by rw [sameTx]
  have balance1 : tx.unsigned.balance1 = theirTx.unsigned.balance1 := by rw [sameTx]
  refine ⟨sameId, ⟨rfl, rfl⟩, balance0, balance1, opposite, ?_, checked.mine⟩
  rw [proposed]
  unfold Channel.myBalance NewChannelTx.channel proposedChannel
  cases role parties side <;> rfl

/-- Opening agreement: the channels with which two distinct nodes first become
open agree, and the one that initiated the opening holds what it filled. -/
theorem opening_agreement {opens : Side → Channel}
    (distinct : (parties .a).ownAddress ≠ (parties .b).ownAddress)
    (run : (machine parties).Run fresh taken network)
    (first : ∀ side, firstOpen taken side = some (opens side)) :
    ∃ initiator amount, Filled taken initiator amount (opens initiator) ∧
      OpeningAgrees amount (opens initiator) (opens initiator.other) := by
  have story := story_of_run run
  have chained := chained_of_run run
  rcases story.roles .a _ (first .a) with ⟨initiates, responds⟩ | ⟨responds, initiates⟩
  · obtain ⟨amount, initiated⟩ := initiates.opened _ (first _)
    exact ⟨.a, amount, initiated.1,
      initiated.agrees (responds.opened _ (first _)) chained (role_other distinct _)⟩
  · obtain ⟨amount, initiated⟩ := initiates.opened _ (first _)
    exact ⟨.b, amount, initiated.1,
      initiated.agrees (responds.opened _ (first _)) chained (role_other distinct _)⟩

/-- Both nodes fill at once; node 1 gives up, and then answers node 2. -/
theorem opening_agreement_crossing :
    let events : List NetworkEvent :=
      [.start .a (.fillChannel 10), .start .b (.fillChannel 7), .answerChain .a (.ok (.block 1)),
        .answerChain .b (.ok (.block 1)), .giveUp .a false, .deliver .b, .reply .b,
        .mineNewChannel (proposedChannel (Sample.crypto 2) 1 false 7 41) 9,
        .answerChain .b (.ok (.channelId 9)), .deliver .b,
        .answerChain .a (.ok (.maybeChannelId (some 9))), .reply .b]
    let taken := (machine Sample.parties).trace fresh events
    ∃ opens : Side → Channel, (∀ side, firstOpen taken side = some (opens side)) ∧
      ∃ initiator amount, Filled taken initiator amount (opens initiator) ∧
        OpeningAgrees amount (opens initiator) (opens initiator.other) := by
  intro events taken
  obtain ⟨network, reached, mine, theirs⟩ :
      ∃ network ∈ (machine Sample.parties).replay fresh events,
        firstOpen taken .a = some ⟨9, 0, 0, 7, 0, true⟩ ∧
          firstOpen taken .b = some ⟨9, 0, 0, 7, 0, false⟩ := by
    decide +kernel
  have first : ∀ side, firstOpen taken side =
      some ⟨9, 0, 0, 7, 0, Sample.parties side |>.role (Sample.parties side.other).ownAddress⟩ := by
    intro side
    cases side
    · exact mine
    · exact theirs
  exact ⟨_, first, opening_agreement (by decide) (Machine.run_of_replay reached) first⟩

end Network

end Guac
