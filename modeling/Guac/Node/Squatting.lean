import Guac.Node.Ledger
import Guac.Node.StateMachine

/-!
Owns what a proposal does that nobody stands behind. The server takes the address of a
request from its body, so anybody can propose a channel in anybody's name. The node signs
the proposal, and the entry then waits for an opening on the chain: until a lookup finds
one it stays as it is, and of all calls only `get_state` succeeds.
-/

set_option autoImplicit false

namespace Guac

open Foundation

/-- The answer of a lookup that there is an opening. -/
def Input.finds : Input → Bool
  | .resume (.ok (.maybeChannelId (some _))) => true
  | _ => false

section Polls

variable {crypto : Crypto} {theirAddress : Address} {node after : Node} {input : Input}
  {operation : Operation} {poll : Poll} {tx : NewChannelTx} {iAm0 : Bool}

theorem takes_proposal (idle : node.running = none) (unclaimed : variantOf node.entry = .new)
    (coherent : Coherent crypto theirAddress node)
    (checked : ProposalOk crypto theirAddress (crypto.role theirAddress) tx) :
    node.step crypto theirAddress (.request (.proposeChannel tx)) =
      some ⟨some (.otherCreating tx (crypto.role theirAddress)), none,
        node.signed ++ [.newChannel tx.unsigned]⟩ := by
  have found : makeCounterpartyIfNone theirAddress crypto.ownAddress node.entry =
      .new (crypto.role theirAddress) := by
    have backed := coherent.backed
    cases entry : node.entry with
    | none => rfl
    | some counterparty =>
        rw [entry] at unclaimed backed
        cases counterparty with
        | new iAm0 => rw [backed.1, makeCounterpartyIfNone]
        | creating | otherCreating | reDrawing | otherReDrawing | opened => cases unclaimed
  have accepted := checkNewChannelTx_ok.mpr checked
  unfold Node.step Node.poll
  rw [idle]
  simp only [Request.start, proposeChannel, found, accepted, Node.after, Poll.running]

/-- Where no lookup finds an opening, the entry stays and nothing succeeds. -/
theorem Coherent.stays_locked (coherent : Coherent crypto theirAddress node)
    (locked : node.entry = some (.otherCreating tx iAm0)) (missing : input.finds = false)
    (polled : node.poll crypto theirAddress input = some (operation, poll)) :
    poll.entry = some (.otherCreating tx iAm0) ∧ poll.signed = [] ∧
      ∀ value, poll.next ≠ .resolved (.ok value) := by
  obtain ⟨entry, closure, found, -, move, -, resumes⟩ := coherent.moved polled
  obtain rfl := found.symm.trans locked
  cases move with
  | refused kept =>
      rcases kept with rfl | ⟨impossible, -⟩
      · exact ⟨rfl, rfl, nofun⟩
      · cases impossible
  | failed | checkOpen => exact ⟨rfl, rfl, nofun⟩
  | fillNew found | acceptChannel found => cases found
  | accrue accrued => cases accrued
  | openedAsResponder => cases missing
  | _ =>
      obtain ⟨_, _, ⟨⟩, -, held⟩ := resumes _ rfl
      cases held

theorem Coherent.unlocks (coherent : Coherent crypto theirAddress node)
    (locked : node.entry = some (.otherCreating tx iAm0)) (finds : input.finds = true)
    (polled : node.poll crypto theirAddress input = some (operation, poll)) :
    ∃ channel, poll.entry = some (.opened channel) := by
  unfold Input.finds at finds
  split at finds
  next channelId =>
    obtain ⟨⟨_, call, closure⟩, holds, -, resumed⟩ := poll_resume polled
    obtain ⟨counterparty, entry, held⟩ := coherent.held _ holds
    obtain rfl := Option.some.inj (locked.symm.trans entry)
    cases held with
    | checkedOpen =>
        obtain rfl := Option.some.inj resumed
        exact ⟨_, rfl⟩
  next => cases finds

end Polls

section Runs

variable {crypto : Crypto} {theirAddress : Address} {locked state : Node}
  {later : List (Transition Node Input)} {tx : NewChannelTx} {iAm0 : Bool}

/-- The entry is locked as long as no lookup finds an opening, and stores a channel from
then on. -/
theorem locked_or_stores (coherent : Coherent crypto theirAddress locked)
    (waits : locked.entry = some (.otherCreating tx iAm0))
    (run : (entryMachine crypto theirAddress).Run locked later state) :
    Coherent crypto theirAddress state ∧
      ((∀ transition ∈ later, transition.event.finds = false) ∧
          state.entry = some (.otherCreating tx iAm0) ∧ state.signed = locked.signed ∧
          (∀ transition ∈ later, ∀ operation value,
            transition.before.returned crypto theirAddress transition.event ≠
              some (operation, .ok value)) ∨
        (∃ transition ∈ later, transition.event.finds = true) ∧ state.channel.isSome) := by
  induction run with
  | nil => exact ⟨coherent, .inl ⟨List.forall_mem_nil _, waits, rfl, List.forall_mem_nil _⟩⟩
  | @snoc taken before after input _ stepped inductionHypothesis =>
      obtain ⟨coherent, earlier⟩ := inductionHypothesis
      refine ⟨coherent.step stepped, ?_⟩
      obtain ⟨operation, poll, polled, rfl⟩ := step_eq_some.mp stepped
      rcases earlier with ⟨missing, still, signed, failed⟩ | ⟨⟨transition, member, finds⟩, stores⟩
      · cases finds : input.finds with
        | false =>
            obtain ⟨same, unsigned, fails⟩ := coherent.stays_locked still finds polled
            refine .inl ⟨?_, same, ?_, ?_⟩
            · exact List.forall_mem_append.mpr ⟨missing, List.forall_mem_singleton.mpr finds⟩
            · rw [Node.after, unsigned, List.append_nil, signed]
            · refine List.forall_mem_append.mpr ⟨failed, List.forall_mem_singleton.mpr ?_⟩
              intro operation value returned
              obtain ⟨_, samePoll, resolved⟩ := returned_eq_some.mp returned
              obtain ⟨-, rfl⟩ := Prod.mk.inj (Option.some.inj (polled.symm.trans samePoll))
              exact fails value resolved
        | true =>
            obtain ⟨channel, opened⟩ := coherent.unlocks still finds polled
            refine .inr ⟨⟨_, List.mem_append_right _ (List.mem_singleton.mpr rfl), finds⟩, ?_⟩
            exact Option.isSome_iff_exists.mpr ⟨channel, Node.channel_of_opened opened⟩
      · obtain ⟨channel, stored⟩ := Option.isSome_iff_exists.mp stores
        obtain ⟨next, kept, -⟩ := coherent.keeps_channel stored polled
        exact .inr ⟨⟨transition, List.mem_append_left _ member, finds⟩,
          Option.isSome_iff_exists.mpr ⟨next, kept⟩⟩

/-- A proposal in somebody's name locks an unused entry: the node signs it, and however its
users and its peers go on, the entry is what the proposal made it exactly as long as no
lookup finds an opening. Until then nothing more is signed, `fill_channel`, `withdraw`,
`make_payment`, `check_accrual`, `check_my_balance` and the five requests all fail, and
`get_state` shows the proposal. -/
theorem proposal_locks_entry {earlier : List (Transition Node Input)} {before : Node}
    (run : (entryMachine crypto theirAddress).Run .fresh earlier before)
    (idle : before.running = none) (unclaimed : variantOf before.entry = .new)
    (checked : ProposalOk crypto theirAddress (crypto.role theirAddress) tx) :
    ∃ locked, before.step crypto theirAddress (.request (.proposeChannel tx)) = some locked ∧
      locked.entry = some (.otherCreating tx (crypto.role theirAddress)) ∧
      locked.signed = before.signed ++ [.newChannel tx.unsigned] ∧
      ∀ later state, (entryMachine crypto theirAddress).Run locked later state →
        ((∀ transition ∈ later, transition.event.finds = false) ↔ state.entry = locked.entry) ∧
          (state.entry = locked.entry → state.signed = locked.signed ∧
            (∀ transition ∈ later, ∀ operation value,
              transition.before.returned crypto theirAddress transition.event ≠
                some (operation, .ok value)) ∧
            (∀ balance, checkMyBalance state.entry ≠ .ok balance) ∧
            getState state.entry = .ok (.otherCreating tx (crypto.role theirAddress))) := by
  have coherent := coherent_of_run run
  have taken := takes_proposal idle unclaimed coherent checked
  refine ⟨_, taken, rfl, rfl, fun later state onward => ?_⟩
  obtain ⟨-, ⟨missing, still, signed, failed⟩ | ⟨⟨transition, member, finds⟩, stores⟩⟩ :=
    locked_or_stores (coherent.step taken) rfl onward
  · refine ⟨⟨fun _ => still, fun _ => missing⟩, fun _ => ⟨signed, failed, ?_⟩⟩
    rw [still]
    exact ⟨nofun, rfl⟩
  · have notLocked : state.entry ≠ some (.otherCreating tx (crypto.role theirAddress)) := by
      intro waits
      rw [Node.channel, waits] at stores
      cases stores
    refine ⟨⟨fun missing => ?_, fun waits => absurd waits notLocked⟩,
      fun waits => absurd waits notLocked⟩
    exact absurd finds (by rw [missing transition member]; exact Bool.false_ne_true)

end Runs

namespace Sample

def strangersProposal : NewChannelTx := ⟨1, 2, 0, 5, 40, 5000, none, none⟩

end Sample

/-- After it node 1 cannot fill a channel with node 2, nor can node 2 propose one; node 1
has signed the stranger's proposal and nothing else. -/
theorem proposal_locks_entry_sample :
    ∃ locked, Node.fresh.step (Sample.crypto 1) 2 (.request (.proposeChannel
        Sample.strangersProposal)) = some locked ∧
      ∃ state ∈ (entryMachine (Sample.crypto 1) 2).replay locked
          [.start (.fillChannel 7), .request (.proposeChannel ⟨1, 2, 0, 9, 41, 5000, none, none⟩)],
        state.signed = [.newChannel Sample.strangersProposal] ∧
          getState state.entry = .ok (.otherCreating Sample.strangersProposal true) := by
  obtain ⟨locked, taken, entry, signed, stays⟩ := @proposal_locks_entry (Sample.crypto 1) 2
    Sample.strangersProposal [] _ .nil rfl rfl ⟨by decide, by decide, by decide, by decide⟩
  obtain ⟨state, reached⟩ : ∃ state, (entryMachine (Sample.crypto 1) 2).replay locked
      [.start (.fillChannel 7), .request (.proposeChannel ⟨1, 2, 0, 9, 41, 5000, none, none⟩)] =
        some state := by
    refine Option.isSome_iff_exists.mp ?_
    rw [← Option.some.inj taken]
    decide +kernel
  obtain ⟨exact, waits⟩ := stays _ state (Machine.run_of_replay reached)
  have still : state.entry = locked.entry := by
    refine exact.mp ?_
    rw [← Option.some.inj taken]
    decide +kernel
  obtain ⟨unsigned, -, -, shown⟩ := waits still
  exact ⟨locked, taken, state, reached, unsigned.trans signed, shown⟩

end Guac
