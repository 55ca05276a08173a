import Guac.Network.Sound
import Guac.Node.Provenance

/-!
Owns what the two nodes and the chain know of the one opening between them:
every opening was signed by both nodes, a node signs at most one, so there is
at most one on the chain, and every channel id a node holds is the id of that
opening.
-/

set_option autoImplicit false

namespace Guac

open Foundation

/-- A node that signed two openings signed one twice. -/
theorem Coherent.one_opening {crypto : Crypto} {theirAddress : Address} {node : Node}
    {first second : NewChannelTx} (coherent : Coherent crypto theirAddress node)
    (firstSigned : .newChannel first ∈ node.signed)
    (secondSigned : .newChannel second ∈ node.signed) : first = second := by
  have firstMember : SignedTx.newChannel first ∈ node.signed.filter SignedTx.opens :=
    List.mem_filter.mpr ⟨firstSigned, rfl⟩
  have secondMember : SignedTx.newChannel second ∈ node.signed.filter SignedTx.opens :=
    List.mem_filter.mpr ⟨secondSigned, rfl⟩
  have once := coherent.once
  match shape : node.signed.filter SignedTx.opens with
  | [] => simp [shape] at firstMember
  | [only] =>
      rw [shape, List.mem_singleton] at firstMember secondMember
      exact SignedTx.newChannel.inj (firstMember.trans secondMember.symm)
  | _ :: _ :: _ => simp [shape] at once

namespace Network

variable {parties : Side → Crypto} {before after network : Network} {event : NetworkEvent}

/-- One poll of one node by an event, whose chain calls are answered as the
chain may. -/
structure Polls (parties : Side → Crypto) (network : Network) (event : NetworkEvent)
    (side : Side) (input : Input) (operation : Operation) (poll : Poll) : Prop where
  polled : network.poll parties side input = some (operation, poll)
  starts : ∀ op, input = .start op → event = .start side op
  answers : ∀ answer call, input = .resume answer →
    (network.node side).running.map Running.call = some (.chain call) →
    network.chain.mayAnswer call answer = true

theorem Polls.of_input {side : Side} {input : Input} {operation : Operation} {poll : Poll}
    (polled : before.poll parties side input = some (operation, poll))
    (starts : ∀ op, input = .start op → event = .start side op)
    (asks : ∀ answer, input ≠ .resume answer) :
    Polls parties before event side input operation poll :=
  ⟨polled, starts, fun answer _ resumes => absurd resumes (asks answer)⟩

theorem Polls.of_chain {side : Side} {running : Operation} {call : ChainCall}
    {closure : Closure} {answer : Result Value} {operation : Operation} {poll : Poll}
    (holds : (before.node side).running = some ⟨running, .chain call, closure⟩)
    (answers : before.chain.mayAnswer call answer = true)
    (polled : before.poll parties side (.resume answer) = some (operation, poll)) :
    Polls parties before event side (.resume answer) operation poll := by
  refine ⟨polled, nofun, ?_⟩
  rintro _ waiting ⟨⟩ waits
  rw [holds] at waits
  cases waits
  exact answers

theorem Sound.polls_of_peer (sound : Sound parties before) {side : Side}
    {answer : Result Value} {operation : Operation} {poll : Poll}
    (waiting : before.wire side ≠ .idle)
    (polled : before.poll parties side (.resume answer) = some (operation, poll)) :
    Polls parties before event side (.resume answer) operation poll := by
  refine ⟨polled, nofun, ?_⟩
  rintro _ call ⟨⟩ waits
  obtain ⟨_, _, _, holds⟩ := (sound.wires side).waits waiting
  rw [holds] at waits
  cases waits

theorem Polls.node {polledSide : Side} {input : Input} {operation : Operation} {poll : Poll}
    (polls : Polls parties before event polledSide input operation poll)
    (nodes : after.node = Function.update before.node polledSide
      ((before.node polledSide).after operation poll)) (side : Side) :
    after.node side = before.node side ∨
      ∃ input operation poll, Polls parties before event side input operation poll ∧
        after.node side = (before.node side).after operation poll := by
  by_cases same : side = polledSide
  · subst same
    exact .inr ⟨input, operation, poll, polls, by rw [nodes, Function.update_self]⟩
  · exact .inl (by rw [nodes, Function.update_of_ne same])

theorem Sound.node_of_step (sound : Sound parties before)
    (stepped : before.step parties event = some after) (side : Side) :
    after.node side = before.node side ∨
      ∃ input operation poll, Polls parties before event side input operation poll ∧
        after.node side = (before.node side).after operation poll := by
  cases change_of_step stepped with
  | @started polledSide op operation poll polled =>
      have starts : ∀ other, Input.start op = .start other →
          NetworkEvent.start polledSide op = .start polledSide other := by
        rintro _ ⟨⟩
        rfl
      exact Polls.node (Polls.of_input polled starts nofun) rfl side
  | @delivered polledSide request operation poll _ polled
  | @orphanDelivered polledSide _ request operation poll _ polled =>
      exact Polls.node (Polls.of_input polled nofun nofun) rfl side
  | chainAnswered holds answers polled | lookedUp holds answers polled =>
      exact Polls.node (Polls.of_chain holds answers polled) rfl side
  | replied answered polled =>
      exact Polls.node (sound.polls_of_peer (by rw [answered]; exact nofun) polled) rfl side
  | gaveUp waiting polled =>
      exact Polls.node (sound.polls_of_peer waiting polled) rfl side
  | opened | reDrawn => exact .inl rfl

theorem Sound.signed_of_step (sound : Sound parties before)
    (stepped : before.step parties event = some after) (side : Side) :
    ∀ tx ∈ (before.node side).signed, tx ∈ (after.node side).signed := by
  intro tx member
  rcases sound.node_of_step stepped side with same | ⟨_, _, poll, -, changed⟩
  · rwa [same]
  · rw [changed]
    exact List.mem_append_left _ member

theorem opened_of_step (stepped : before.step parties event = some after) :
    after.chain.opened = before.chain.opened ∨
      ∃ tx channelId, before.bothSigned (.newChannel tx) ∧
        tx ∉ before.chain.opened.map Prod.fst ∧
        after.chain.opened = before.chain.opened ++ [(tx, channelId)] := by
  cases change_of_step stepped with
  | opened signed once => exact .inr ⟨_, _, signed, once, rfl⟩
  | started | chainAnswered | lookedUp | delivered | orphanDelivered | replied | gaveUp
  | reDrawn => exact .inl rfl

/-- The nodes and the one opening between them. -/
structure Chained (network : Network) : Prop where
  signed : ∀ opening ∈ network.chain.opened, network.bothSigned (.newChannel opening.1)
  single : network.chain.opened.length ≤ 1
  notified : ∀ side iAm0 balance0 balance1 channelId,
    (network.node side).running.map Running.closure =
      some (.fillNewNotified iAm0 balance0 balance1 channelId) →
    ∃ tx, (network.node side).entry = some (.creating tx iAm0) ∧
      (tx.unsigned, channelId) ∈ network.chain.opened
  channels : ∀ side channel, (network.node side).channel = some channel →
    ∃ tx, (tx, channel.channelId) ∈ network.chain.opened

theorem chained_fresh : Chained fresh where
  signed := by simp [fresh]
  single := by simp [fresh]
  notified := by simp [fresh, Node.fresh]
  channels := by simp [fresh, Node.fresh, Node.channel]

theorem Chained.unique (chained : Chained network) {first second : NewChannelTx × Bytes32}
    (firstOpened : first ∈ network.chain.opened)
    (secondOpened : second ∈ network.chain.opened) : first = second := by
  have single := chained.single
  match shape : network.chain.opened with
  | [] => simp [shape] at firstOpened
  | [only] =>
      rw [shape, List.mem_singleton] at firstOpened secondOpened
      exact firstOpened.trans secondOpened.symm
  | _ :: _ :: _ => simp [shape] at single

theorem Chained.signed_eq (chained : Chained network) (sound : Sound parties network)
    {side : Side} {tx : NewChannelTx} {opening : NewChannelTx × Bytes32}
    (signed : .newChannel tx ∈ (network.node side).signed)
    (opened : opening ∈ network.chain.opened) : opening.1 = tx := by
  have both := bothSigned_iff.mp (chained.signed opening opened)
  exact (sound.coherent side).one_opening (both side) signed

/-- An opening a node signed that is not on the chain is the first one. -/
theorem Chained.unopened (chained : Chained network) (sound : Sound parties network)
    {side : Side} {tx : NewChannelTx}
    (signed : .newChannel tx ∈ (network.node side).signed)
    (once : tx ∉ network.chain.opened.map Prod.fst) : network.chain.opened = [] := by
  refine List.eq_nil_iff_forall_not_mem.mpr fun opening member => once ?_
  obtain rfl := chained.signed_eq sound signed member
  exact List.mem_map_of_mem member

theorem Chained.opening_of_id (chained : Chained network) (sound : Sound parties network)
    {side : Side} {tx : NewChannelTx} {address0 address1 : Address} {channelId : Bytes32}
    (signed : .newChannel tx ∈ (network.node side).signed)
    (named : network.chain.hasOpened address0 address1 channelId) :
    (tx, channelId) ∈ network.chain.opened := by
  obtain ⟨opening, opened, -, -, rfl⟩ := named
  obtain rfl := chained.signed_eq sound signed opened
  exact opened

theorem Sound.creating_signed (sound : Sound parties network) {side : Side} {tx : NewChannelTx}
    {iAm0 : Bool} (entry : (network.node side).entry = some (.creating tx iAm0)) :
    .newChannel tx.unsigned ∈ (network.node side).signed := by
  have backed := (sound.coherent side).backed
  rw [entry] at backed
  exact List.mem_of_getLast? backed.2.1

theorem Sound.otherCreating_signed (sound : Sound parties network) {side : Side}
    {tx : NewChannelTx} {iAm0 : Bool}
    (entry : (network.node side).entry = some (.otherCreating tx iAm0)) :
    .newChannel tx.unsigned ∈ (network.node side).signed := by
  have backed := (sound.coherent side).backed
  rw [entry] at backed
  exact List.mem_of_getLast? backed.2.1

/-- Every step keeps the nodes chained to the opening. -/
theorem Chained.step (chained : Chained before) (sound : Sound parties before)
    (stepped : before.step parties event = some after) : Chained after := by
  have keeps := sound.signed_of_step stepped
  have grows : ∀ opening ∈ before.chain.opened, opening ∈ after.chain.opened := by
    intro opening member
    rcases opened_of_step stepped with same | ⟨_, _, _, _, changed⟩
    · rwa [same]
    · rw [changed]
      exact List.mem_append_left _ member
  refine ⟨?_, ?_, ?_, ?_⟩
  · have keepsBoth : ∀ tx, before.bothSigned tx → after.bothSigned tx := fun tx both =>
      bothSigned_iff.mpr fun side => keeps side tx (bothSigned_iff.mp both side)
    intro opening member
    rcases opened_of_step stepped with same | ⟨tx, channelId, both, -, changed⟩
    · rw [same] at member
      exact keepsBoth _ (chained.signed opening member)
    · rw [changed] at member
      rcases List.mem_append.mp member with old | new
      · exact keepsBoth _ (chained.signed opening old)
      · obtain rfl := List.mem_singleton.mp new
        exact keepsBoth _ both
  · rcases opened_of_step stepped with same | ⟨tx, channelId, both, once, changed⟩
    · rw [same]
      exact chained.single
    · rw [changed, chained.unopened sound both.1 once]
      exact Nat.le_refl 1
  · intro side iAm0 balance0 balance1 channelId suspended
    rcases sound.node_of_step stepped side with same | ⟨input, operation, poll, polls, changed⟩
    · rw [same] at suspended ⊢
      obtain ⟨tx, entry, opened⟩ := chained.notified side _ _ _ _ suspended
      exact ⟨tx, entry, grows _ opened⟩
    · rw [changed] at suspended ⊢
      obtain ⟨tx, amount, signature0, signature1, entry, kept, rfl, call⟩ :=
        (sound.coherent side).deposited polls.polled suspended
      have answered := polls.answers _ _ rfl call
      have named := Chain.hasOpened_of_deposit answered
      exact ⟨tx, kept.trans entry, grows _
        (chained.opening_of_id sound (sound.creating_signed entry) named)⟩
  · intro side channel stored
    rcases sound.node_of_step stepped side with same | ⟨input, operation, poll, polls, changed⟩
    · rw [same] at stored
      obtain ⟨tx, opened⟩ := chained.channels side channel stored
      exact ⟨tx, grows _ opened⟩
    · rw [changed] at stored
      cases (sound.coherent side).channelFrom polls.polled stored with
      | kept had same =>
          obtain ⟨tx, opened⟩ := chained.channels side _ had
          exact ⟨tx, same ▸ grows _ opened⟩
      | @proposer tx _ _ channelId entry holds =>
          obtain ⟨other, same, opened⟩ := chained.notified side _ _ _ _ (by rw [holds]; rfl)
          exact ⟨_, grows _ opened⟩
      | @responder tx _ channelId address0 address1 entry holds found =>
          have answered := polls.answers _ _ found (by rw [holds]; rfl)
          exact ⟨_, grows _ (chained.opening_of_id sound (sound.otherCreating_signed entry)
            (Chain.hasOpened_of_lookup answered))⟩

theorem chained_of_run {taken : List (Transition Network NetworkEvent)}
    (run : (machine parties).Run fresh taken network) : Chained network :=
  (run.invariant (fun network => Sound parties network ∧ Chained network)
    ⟨sound_fresh, chained_fresh⟩ fun _ _ _ both stepped =>
      ⟨both.1.step stepped, both.2.step both.1 stepped⟩).2

end Network

end Guac
