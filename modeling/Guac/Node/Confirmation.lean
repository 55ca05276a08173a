import Guac.Node.Coherent
import Guac.Http.BlockchainClient

/-!
Owns one entry together with the chain its log lookups read: whoever claims the
counterparty's address sends anything, blocks with any logs are mined, and a
lookup fails or is answered by `eth_getLogs`. It relates the entry's way from
`OtherReDrawing` to `Open` to what the contract has emitted since the node
signed the redraw.
-/

set_option autoImplicit false

namespace Guac

open Foundation

/-- An entry, the blocks so far, and how many logs they held when the node last
signed. -/
structure Watched where
  node : Node
  blocks : List Block
  signedAt : Nat

inductive WatchedEvent where
  | poll (input : Input)
  | mine (block : Block)
  | answerLookup (failure : Option Fault)

namespace Watched

def emitted (watched : Watched) : List Log := watched.blocks.flatten

/-- Everything emitted since the node last signed. -/
def sinceSigned (watched : Watched) : List Log := watched.emitted.drop watched.signedAt

/-- The lookup the entry is suspended on. -/
def lookup (client : BlockchainClient) (getLogs : NewFilter → Result (List Log)) (node : Node) :
    Option (Result Value) :=
  match node.running.map Running.call with
  | some (.chain (.checkForOpen address0 address1)) =>
      some (.maybeChannelId <$> client.checkForOpen getLogs address0 address1)
  | some (.chain (.checkForReDraw channelId)) =>
      some ((fun _ => .unit) <$> client.checkForReDraw getLogs channelId)
  | _ => none

/-- `eth_getLogs` fails, or reports the matching logs. -/
def getLogs (watched : Watched) (failure : Option Fault) (filter : NewFilter) :
    Result (List Log) :=
  match failure with
  | some fault => .error fault
  | none => .ok (ethGetLogs watched.blocks filter)

/-- A poll of the entry, with the time of the last signature. -/
def polled (watched : Watched) (node : Node) : Watched :=
  { watched with
    node
    signedAt :=
      if node.signed.length = watched.node.signed.length then watched.signedAt
      else watched.emitted.length }

/-- A lookup is answered by the chain, everything else by anyone. -/
def step (client : BlockchainClient) (crypto : Crypto) (theirAddress : Address)
    (watched : Watched) : WatchedEvent → Option Watched
  | .mine block => some { watched with blocks := watched.blocks ++ [block] }
  | .answerLookup failure =>
      match lookup client (watched.getLogs failure) watched.node with
      | none => none
      | some answer =>
          (watched.node.step crypto theirAddress (.resume answer)).map watched.polled
  | .poll input =>
      match lookup client (watched.getLogs none) watched.node with
      | some _ => none
      | none => (watched.node.step crypto theirAddress input).map watched.polled

def machine (client : BlockchainClient) (crypto : Crypto) (theirAddress : Address) :
    Machine Watched WatchedEvent := ⟨step client crypto theirAddress⟩

def fresh : Watched := ⟨.fresh, [], 0⟩

/-- The contract redrew the channel since the node last signed. -/
def reDrawn (client : BlockchainClient) (watched : Watched) (channelId : Bytes32) : Prop :=
  ∃ log ∈ watched.sinceSigned, (client.reDrawFilter channelId).selects log = true

/-- The entry goes from `OtherReDrawing` to `Open` only on a redraw the contract
has emitted since the node signed it. -/
def Confirmed (client : BlockchainClient) (transition : Transition Watched WatchedEvent) :
    Prop :=
  ∀ tx channel stored, transition.before.node.entry = some (.otherReDrawing tx channel) →
    transition.after.node.entry = some (.opened stored) →
    transition.before.reDrawn client channel.channelId

/-- A lookup for a pending redraw is answered only after the redraw: the peer
does not notify, nor anyone in its name, before the event. -/
def NotifiedInTime (client : BlockchainClient)
    (transition : Transition Watched WatchedEvent) : Prop :=
  ∀ tx channel, transition.before.node.entry = some (.otherReDrawing tx channel) →
    transition.event = .answerLookup none → transition.before.reDrawn client channel.channelId

end Watched

namespace Sample

def client : BlockchainClient :=
  ⟨99, fun event => if event = "ChannelReDrawn(bytes32)" then 1 else 2⟩

/-- Node 2 fills channel 7 with 5 and, once these blocks are mined, notifies
node 1. -/
def fills (blocks : List Block) : List WatchedEvent :=
  opens.map .poll ++ [.poll (.request (.proposeReDraw ⟨7, 1, 10, 0, 10, 5, 50, none, none⟩))] ++
    blocks.map .mine ++ [.poll (.request .notifyReDraw)]

end Sample

section Steps

variable {client : BlockchainClient} {crypto : Crypto} {theirAddress : Address}

/-- An entry leaves `OtherReDrawing` for `Open` with the answer to its lookup. -/
theorem Coherent.leaves_otherReDrawing {node : Node} {input : Input} {operation : Operation}
    {poll : Poll} {tx : ReDrawTx} {channel stored : Channel}
    (coherent : Coherent crypto theirAddress node)
    (entry : node.entry = some (.otherReDrawing tx channel))
    (polled : node.poll crypto theirAddress input = some (operation, poll))
    (opened : poll.entry = some (.opened stored)) :
    input = .resume (.ok .unit) ∧
      node.running.map Running.call = some (.chain (.checkForReDraw channel.channelId)) := by
  obtain ⟨_, closure, found, -, move, -, resumes⟩ := coherent.moved polled
  obtain rfl := entry.symm.trans found
  cases move with
  | refused kept =>
      rcases kept with rfl | ⟨impossible, -⟩
      · cases opened
      · cases impossible
  | failed | checkReDraw => cases opened
  | fillNew found | acceptChannel found => cases found
  | accrue accrued =>
      cases accrued
      cases opened
  | reDrawnAsResponder =>
      obtain ⟨_, _, ⟨⟩, holds, held⟩ := resumes _ rfl
      cases held
      exact ⟨rfl, by rw [holds]; rfl⟩
  | _ =>
      obtain ⟨_, _, ⟨⟩, -, held⟩ := resumes _ rfl
      cases held

theorem Coherent.holds_otherReDrawing {node : Node} {running : Running} {tx : ReDrawTx}
    {channel : Channel} (coherent : Coherent crypto theirAddress node)
    (entry : node.entry = some (.otherReDrawing tx channel))
    (holds : node.running = some running) :
    running = ⟨.handler .notifyReDraw, .chain (.checkForReDraw channel.channelId),
      .checkedReDraw tx channel⟩ := by
  obtain ⟨counterparty, found, held⟩ := coherent.held running holds
  obtain rfl := Option.some.inj (entry.symm.trans found)
  cases held
  rfl

namespace Watched

theorem step_cases {before after : Watched} {event : WatchedEvent}
    (stepped : before.step client crypto theirAddress event = some after) :
    (∃ block, event = .mine block ∧ after = { before with blocks := before.blocks ++ [block] }) ∨
      ∃ input node, before.node.step crypto theirAddress input = some node ∧
        after = before.polled node ∧
        ((event = .poll input ∧ lookup client (before.getLogs none) before.node = none) ∨
          ∃ failure answer, event = .answerLookup failure ∧ input = .resume answer ∧
            lookup client (before.getLogs failure) before.node = some answer) := by
  cases event with
  | mine block => exact .inl ⟨block, rfl, (Option.some.inj stepped).symm⟩
  | answerLookup failure =>
      simp only [step] at stepped
      split at stepped
      · cases stepped
      next answer found =>
        obtain ⟨node, moved, rfl⟩ := Option.map_eq_some_iff.mp stepped
        exact .inr ⟨_, node, moved, rfl, .inr ⟨failure, answer, rfl, rfl, found⟩⟩
  | poll input =>
      simp only [step] at stepped
      split at stepped
      · cases stepped
      next free =>
        obtain ⟨node, moved, rfl⟩ := Option.map_eq_some_iff.mp stepped
        exact .inr ⟨input, node, moved, rfl, .inl ⟨rfl, free⟩⟩

theorem coherent_step {before after : Watched} {event : WatchedEvent}
    (coherent : Coherent crypto theirAddress before.node)
    (stepped : before.step client crypto theirAddress event = some after) :
    Coherent crypto theirAddress after.node := by
  rcases step_cases stepped with ⟨block, -, rfl⟩ | ⟨input, node, moved, rfl, -⟩
  · exact coherent
  · exact coherent.step moved

theorem lookup_reDraw {watched : Watched} {node : Node} {failure : Option Fault}
    {channelId : Bytes32}
    (call : node.running.map Running.call = some (.chain (.checkForReDraw channelId))) :
    lookup client (watched.getLogs failure) node =
      some (match failure with | none => .ok .unit | some fault => .error fault) := by
  rw [lookup, call]
  cases failure <;> rfl

/-- One transition is confirmed if and only if its lookup is answered in time. -/
theorem confirmed_iff_notifiedInTime {before after : Watched} {event : WatchedEvent}
    (coherent : Coherent crypto theirAddress before.node)
    (stepped : before.step client crypto theirAddress event = some after) :
    Confirmed client ⟨before, event, after⟩ ↔ NotifiedInTime client ⟨before, event, after⟩ := by
  simp only [Confirmed, NotifiedInTime]
  constructor
  · rintro confirmed tx channel entry rfl
    rcases step_cases stepped with ⟨block, impossible, -⟩ | ⟨input, node, moved, rfl, answered⟩
    · cases impossible
    obtain ⟨impossible, -⟩ | ⟨failure, answer, same, rfl, found⟩ := answered
    · cases impossible
    obtain rfl := WatchedEvent.answerLookup.inj same
    -- the entry is suspended on this lookup, so its answer opens the channel
    obtain ⟨operation, poll, polled, rfl⟩ := step_eq_some.mp moved
    obtain ⟨running, holds, -, resumed⟩ := poll_resume polled
    obtain rfl := coherent.holds_otherReDrawing entry holds
    obtain rfl : .ok .unit = answer := by
      have call : before.node.running.map Running.call =
          some (.chain (.checkForReDraw channel.channelId)) := by rw [holds]; rfl
      rw [lookup_reDraw call] at found
      exact Option.some.inj found
    obtain rfl := Option.some.inj resumed
    exact confirmed tx channel _ entry rfl
  · rintro inTime tx channel stored entry opened
    rcases step_cases stepped with ⟨block, rfl, rfl⟩ | ⟨input, node, moved, rfl, answered⟩
    · cases entry.symm.trans opened
    obtain ⟨operation, poll, polled, rfl⟩ := step_eq_some.mp moved
    obtain ⟨rfl, call⟩ := coherent.leaves_otherReDrawing entry polled opened
    obtain ⟨-, free⟩ | ⟨failure, answer, rfl, same, found⟩ := answered
    · rw [lookup_reDraw call] at free
      cases free
    · cases failure with
      | none => exact inTime tx channel entry rfl
      | some fault =>
          rw [lookup_reDraw call] at found
          obtain rfl := Option.some.inj found
          cases same

/-- In every run the redraws a node opens with are confirmed by the chain if and
only if no lookup for one is answered before its event. -/
theorem reDraws_confirmed_iff {taken : List (Transition Watched WatchedEvent)}
    {watched : Watched}
    (run : (machine client crypto theirAddress).Run fresh taken watched) :
    (∀ transition ∈ taken, Confirmed client transition) ↔
      ∀ transition ∈ taken, NotifiedInTime client transition := by
  have coherent := run.before (fun watched => Coherent crypto theirAddress watched.node)
    coherent_fresh fun _ _ _ coherent stepped => coherent_step coherent stepped
  exact forall₂_congr fun transition member =>
    confirmed_iff_notifiedInTime (coherent transition member) (run.step_of_mem transition member)

/-- A redraw that is mined before its notify. -/
theorem reDraws_confirmed_iff_sample :
    let machine := machine Sample.client (Sample.crypto 1) 2
    let events := Sample.fills [[⟨99, [1, 7], []⟩]] ++ [.answerLookup none]
    ∃ watched ∈ machine.replay fresh events,
      watched.node.entry = some (.opened ⟨7, 1, 10, 5, 0, true⟩) ∧
        ((∀ transition ∈ machine.trace fresh events, Confirmed Sample.client transition) ↔
          ∀ transition ∈ machine.trace fresh events, NotifiedInTime Sample.client transition) := by
  intro machine events
  obtain ⟨watched, reached, entry⟩ : ∃ watched ∈ machine.replay fresh events,
      watched.node.entry = some (.opened ⟨7, 1, 10, 5, 0, true⟩) := by
    decide +kernel
  exact ⟨watched, reached, entry, reDraws_confirmed_iff (Machine.run_of_replay reached)⟩

/-- A notify before any redraw is mined: no log is found and the node opens
with the new balances. -/
theorem premature_notify_accepted :
    ∃ taken watched, (machine Sample.client (Sample.crypto 1) 2).Run fresh taken watched ∧
      ¬ ∀ transition ∈ taken, Confirmed Sample.client transition := by
  obtain ⟨pending, reached, ⟨entry, nothing⟩, after, stepped, opened⟩ :
      ∃ pending ∈ (machine Sample.client (Sample.crypto 1) 2).replay fresh (Sample.fills []),
        (pending.node.entry = some (.otherReDrawing ⟨7, 1, 10, 0, 10, 5, 50, none, none⟩
            ⟨7, 0, 10, 0, 0, true⟩) ∧ pending.sinceSigned = []) ∧
        ∃ after ∈ pending.step Sample.client (Sample.crypto 1) 2 (.answerLookup none),
          after.node.entry = some (.opened ⟨7, 1, 10, 5, 0, true⟩) := by
    decide +kernel
  have run : (machine Sample.client (Sample.crypto 1) 2).Run fresh
      (_ ++ [⟨pending, .answerLookup none, after⟩]) after :=
    .snoc (Machine.run_of_replay reached) stepped
  refine ⟨_, after, run, fun confirmed => ?_⟩
  obtain ⟨log, emitted, -⟩ := confirmed _
    (List.mem_append_right _ (List.mem_singleton.mpr rfl)) _ _ _ entry opened
  change log ∈ pending.sinceSigned at emitted
  rw [nothing] at emitted
  cases emitted

end Watched

end Steps

end Guac
